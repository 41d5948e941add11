import Vi53xx.Foundation.Interleaving

/-! The register accesses of the scope module, all to BAR 0, with its registers as memory. -/

set_option autoImplicit false

namespace Vi53xx.Lib

open Foundation

abbrev RegFile := BitVec 32 → BitVec 32

/-- A call of `vi53xx_read_register` with what its variable holds before, or one of
`vi53xx_write_register`. -/
inductive RegRequest where
  | read (offset val : BitVec 32)
  | write (offset val : BitVec 32)
  deriving DecidableEq, Repr

/-- The reply to a read is what the variable holds after it. A call that fails leaves
the variable and the registers as they were. -/
def serveRegister (regs : RegFile) (request : RegRequest) (succeeds : Bool) :
    BitVec 32 × RegFile :=
  match request with
  | .read offset val => (if succeeds then regs offset else val, regs)
  | .write offset val =>
      (0, if succeeds then fun place => if place = offset then val else regs place else regs)

abbrev RegClient := Client RegRequest (BitVec 32)

def RegClient.write (offset val : BitVec 32) (next : RegClient) : RegClient :=
  .call (.write offset val) fun _ => next

def RegClient.read (offset val : BitVec 32) (next : BitVec 32 → RegClient) : RegClient :=
  .call (.read offset val) next

/-- Neither the result of the read nor those of the writes are looked at. -/
def clearABuff : RegClient :=
  .read 0x2008 0 fun val =>
    let val := val ||| (1#32 <<< 1)
    .write 0x2008 val <|
      let val := val &&& ~~~(1#32 <<< 1)
      .write 0x2008 val .done

def scopeSlectMode (modeSel : BitVec 8) : RegClient :=
  let value : BitVec 32 := if modeSel ≠ 0 then (0#32 ||| (1#32 <<< 16)) + 1 else 1
  .write 0x2008 0x0 (.write 0x2000 value (.write 0x2008 0x1 .done))

def scopeInitConfig : RegClient :=
  .write 0x04 0x00 <| .write 0x0c 0x00 <| .write 0x1004 0x00 <| .write 0x100c 0x00 <|
    .write 0x2004 0x00 <| .write 0x200c 0x00 <|
    .write 0x3004 0xFFFFFFFF <| .write 0x300c 0xFFFFFFFF .done

/-- Four bytes in a register, the first one lowest. -/
def packed (bytes : Fin 4 → BitVec 8) : BitVec 32 :=
  (List.finRange 4).foldl (fun tmpval i => tmpval ||| ((bytes i).setWidth 32 <<< (8 * i.val))) 0

def scopeSelectCh (datachlsel : Fin 8 → BitVec 8) : RegClient :=
  .write 0x00 (packed fun i => datachlsel (i.castLE (by decide))) <|
    .write 0x08 (packed fun i => datachlsel (i.natAdd 4)) .done

def startScope : RegClient := .write 0x4000 0x1 (.write 0x4000 0x0 .done)

def scopeClockSampling : RegClient := .write 0x1000 150 .done

def scopeCountSampling (val : BitVec 32) : RegClient := .write 0x1008 val .done

end Vi53xx.Lib
