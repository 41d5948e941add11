import Vi53xx.Lib.Handles
import Vi53xx.Lib.Requests

/-! Requests about a board, sent to the descriptor that the handle table has for
it. The fields of an argument that a request does not set are what the stack holds. -/

set_option autoImplicit false

namespace Vi53xx.Lib

/-- The `ioctl` that a request becomes with the descriptor it goes to, or the error it
is turned down with. -/
abbrev Sent := Except Int (Int × BitVec 32 × XdmaInfo)

def sendTo (state : LibState) (boardId : BitVec 32) (forwarded : Forwarded) : Sent :=
  match getDevHandle state boardId with
  | none => .error (-1)
  | some handle => forwarded.map fun request => (handle.devHandle, request)

/-! ## Buffers -/

def bufferInfo (stack : XdmaInfo) (channel : BitVec 32) (buff pos len : BitVec 64) : XdmaInfo :=
  { stack with channel, buf := buff, pos, len }

def vi53xxXdmaSetChBuff (state : LibState) (stack : XdmaInfo) (boardId channel : BitVec 32)
    (buff pos len : BitVec 64) : Sent :=
  sendTo state boardId (vi53xxXdmaWrite (some (bufferInfo stack channel buff pos len)))

def vi53xxXdmaGetChBuff (state : LibState) (stack : XdmaInfo) (boardId channel : BitVec 32)
    (buff pos len : BitVec 64) : Sent :=
  sendTo state boardId (vi53xxXdmaRead (some (bufferInfo stack channel buff pos len)))

def vi53xxXdmaDumpChData (state : LibState) (stack : XdmaInfo) (boardId channel : BitVec 32)
    (buff pos len : BitVec 64) : Sent :=
  sendTo state boardId (vi53xxXdmaDump (some (bufferInfo stack channel buff pos len)))

/-! ## Registers -/

def RTPC_READ : BitVec 32 := 0

def RTPC_WRITE : BitVec 32 := 1

def vi53xxReadRegister (state : LibState) (stack : XdmaInfo) (boardId bar offset : BitVec 32)
    (val : BitVec 64) : Sent :=
  sendTo state boardId
    (vi53xxXdmaReadWriteReg (some { stack with bar, offset, wr := RTPC_READ, rVal := val }))

def vi53xxWriteRegister (state : LibState) (stack : XdmaInfo) (boardId bar offset val : BitVec 32) :
    Sent :=
  sendTo state boardId
    (vi53xxXdmaReadWriteReg (some { stack with bar, offset, wr := RTPC_WRITE, wVal := val }))

/-- What `ioctl(2)` makes of the answer of a driver: an error number is answered with -1. -/
def ioctlReturn (ret : Int) : Int := if -4095 ≤ ret ∧ ret < 0 then -1 else ret

end Vi53xx.Lib
