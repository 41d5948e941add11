import Vi53xx.Driver.Requests
import Vi53xx.Foundation.ByteStore

/-! The buffers of a board as a store of bytes: what the requests for channel 1 write
and read, and what the card puts into the buffers it fills. -/

set_option autoImplicit false

namespace Vi53xx.Driver

open Foundation

/-- A request, with the memory that its client then has, or the card filling the buffer
of a channel. -/
inductive StoreStep where
  | request (cmd : XdmaCmd) (info : XdmaInfo) (outcome : CopyOutcome) (user : BitVec 64 → BitVec 8)
  | card (index : Fin xdmaChannelNum) (bytes : Int → BitVec 8)

def request (xdev : XdmaDev) (cmd : XdmaCmd) (info : XdmaInfo) (outcome : CopyOutcome)
    (user : BitVec 64 → BitVec 8) (state : Kernel) : Except Fault Int × Kernel :=
  answer xdev (.ioctl (rtpcIoctlXdma cmd) info outcome) { state with user }

def cardFills (xdev : XdmaDev) (index : Fin xdmaChannelNum) (bytes : Int → BitVec 8)
    (state : Kernel) : Kernel :=
  match (xdev.c2hDmaCfg index).pData 0 with
  | some block => { state with
      buffers := fun other => if other = block then bytes else state.buffers other }
  | none => state

/-- A fault ends the run. -/
def storeStep (xdev : XdmaDev) (state : Kernel) : StoreStep → Option Kernel
  | .request cmd info outcome user =>
      match request xdev cmd info outcome user state with
      | (.ok _, next) => some next
      | (.error _, _) => none
  | .card index bytes => some (cardFills xdev index bytes state)

/-- The request is for bytes inside the buffer of H2C channel 1. -/
def InRange (xdev : XdmaDev) (info : XdmaInfo) : Prop :=
  info.channel = 1 ∧ info.pos.toNat + info.len.toNat ≤ (xdev.h2cDmaCfg 0).size.toNat

/-- Requests for channel 1, of which those that write are in range and copied whole. -/
def Permitted (xdev : XdmaDev) : StoreStep → Prop
  | .request .init info outcome _ =>
      InRange xdev info ∧ outcome.infoMissed = 0 ∧ outcome.dataMissed = 0
  | .request .reg _ _ _ => False
  | .request _ info _ _ => info.channel = 1
  | .card _ _ => True

/-! ## The store -/

/-- What the client has at the address, and asks to be written. -/
def piece (info : XdmaInfo) (user : BitVec 64 → BitVec 8) : Piece (BitVec 8) where
  pos := info.pos.toNat
  bytes := (List.range info.len.toNat).map fun i => user (info.buf + BitVec.ofNat 64 i)

def StoreStep.piece : StoreStep → Option (Piece (BitVec 8))
  | .request .init info _ user => some (Driver.piece info user)
  | _ => none

/-- What a run writes to the buffer of H2C channel 1. -/
def pieces (steps : List StoreStep) : List (Piece (BitVec 8)) := steps.filterMap StoreStep.piece

/-- What the buffers from the card hold, to begin with and after a run. -/
def c2hBytes (xdev : XdmaDev) (state : Kernel) (index : Fin xdmaChannelNum) : Int → BitVec 8 :=
  match (xdev.c2hDmaCfg index).pData 0 with
  | some block => state.buffers block
  | none => fun _ => 0

def putByCard (filled : Fin xdmaChannelNum → Int → BitVec 8) :
    StoreStep → Fin xdmaChannelNum → Int → BitVec 8
  | .card index bytes, other => if other = index then bytes else filled other
  | .request _ _ _ _, other => filled other

/-- The requests for the buffers answer as a store of bytes would that has been written
the pieces, beside buffers that are filled from the card. -/
structure ServesBytes (xdev : XdmaDev) (written : List (Piece (BitVec 8)))
    (filled : Fin xdmaChannelNum → Int → BitVec 8) (state : Kernel) : Prop where
  dump : ∀ info user, InRange xdev info → ∃ after,
    request xdev .dump info .complete user state = (.ok 0, after) ∧
      ∀ i < info.len.toNat, after.user (info.buf + BitVec.ofNat 64 i) =
        (lastWritten written (info.pos.toNat + i)).getD 0
  print : ∀ (index : Fin xdmaChannelNum) info user, info.channel = BitVec.ofNat 32 (index.val + 1) →
    info.pos.toNat + info.len.toNat ≤ (xdev.c2hDmaCfg index).size.toNat → ∃ after,
    request xdev .print info .complete user state = (.ok 0, after) ∧
      ∀ i < info.len.toNat, after.user (info.buf + BitVec.ofNat 64 i) =
        filled index (posInt info + i)
  others : ∀ cmd info outcome user, cmd ≠ .init →
    (request xdev cmd info outcome user state).2.buffers = state.buffers

end Vi53xx.Driver
