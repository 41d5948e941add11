import Mathlib.Data.List.Induction

/-! A store that is written in pieces of any length and at any place. A cell holds what
the last of the pieces over it has put there. -/

set_option autoImplicit false

namespace Vi53xx.Foundation

variable {Byte : Type}

structure Piece (Byte : Type) where
  pos : Nat
  bytes : List Byte

def Piece.byteAt (piece : Piece Byte) (place : Nat) : Option Byte :=
  if piece.pos ≤ place then piece.bytes[place - piece.pos]? else none

def splice (store : Nat → Byte) (piece : Piece Byte) (place : Nat) : Byte :=
  (piece.byteAt place).getD (store place)

/-- The byte of the last piece that covers the place, if one does. -/
def lastWritten (pieces : List (Piece Byte)) (place : Nat) : Option Byte :=
  pieces.reverse.findSome? fun piece => piece.byteAt place

variable {store : Nat → Byte} {piece : Piece Byte} {pieces : List (Piece Byte)} {place : Nat}

theorem Piece.byteAt_inside {i : Nat} (inside : i < piece.bytes.length) :
    piece.byteAt (piece.pos + i) = some piece.bytes[i] := by
  have offset : piece.pos + i - piece.pos = i := Nat.add_sub_cancel_left piece.pos i
  rw [Piece.byteAt, if_pos (Nat.le_add_right piece.pos i), offset, List.getElem?_eq_getElem inside]

theorem Piece.byteAt_outside
    (outside : ¬ (piece.pos ≤ place ∧ place < piece.pos + piece.bytes.length)) :
    piece.byteAt place = none := by
  unfold Piece.byteAt
  split
  · next low => exact List.getElem?_eq_none (by omega)
  · rfl

theorem splice_inside {i : Nat} (inside : i < piece.bytes.length) :
    splice store piece (piece.pos + i) = piece.bytes[i] := by
  rw [splice, Piece.byteAt_inside inside]
  rfl

theorem splice_outside
    (outside : ¬ (piece.pos ≤ place ∧ place < piece.pos + piece.bytes.length)) :
    splice store piece place = store place := by
  rw [splice, Piece.byteAt_outside outside]
  rfl

theorem lastWritten_append_one : lastWritten (pieces ++ [piece]) place =
    (piece.byteAt place).or (lastWritten pieces place) := by
  unfold lastWritten
  rw [List.reverse_append, List.reverse_singleton, List.singleton_append, List.findSome?_cons]
  cases piece.byteAt place with
  | none | some byte => rfl

/-- Splicing the pieces in, one after the other, leaves what was written last. -/
theorem foldl_splice :
    pieces.foldl splice store place = (lastWritten pieces place).getD (store place) := by
  induction pieces using List.reverseRecOn with
  | nil => rfl
  | append_singleton front last ih =>
      rw [List.foldl_append, lastWritten_append_one]
      change (last.byteAt place).getD (front.foldl splice store place) = _
      rw [ih]
      cases last.byteAt place with
      | none | some byte => rfl

end Vi53xx.Foundation
