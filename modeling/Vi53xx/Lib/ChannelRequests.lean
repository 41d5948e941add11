import Vi53xx.Lib.BoardRequests

/-! The requests to start and to stop a channel of a board. -/

set_option autoImplicit false

namespace Vi53xx.Lib

/-- The field of the direction is a byte, and the argument an `int`. -/
def channelInfo (stack : XdmaInfo) (channel direction : BitVec 32) : XdmaInfo :=
  { stack with channel, dir := direction.setWidth 8 }

def vi53xxXdmaStop (state : LibState) (stack : XdmaInfo) (boardId channel direction : BitVec 32) :
    Sent :=
  sendTo state boardId (xdmaStop (some (channelInfo stack channel direction)))

def vi53xxXdmaStart (state : LibState) (stack : XdmaInfo) (boardId channel direction : BitVec 32) :
    Sent :=
  sendTo state boardId (xdmaStart (some (channelInfo stack channel direction)))

end Vi53xx.Lib
