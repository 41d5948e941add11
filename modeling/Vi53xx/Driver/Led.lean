import Vi53xx.Foundation.Runs
import Vi53xx.Foundation.Timer
import Vi53xx.Driver.BoardInfo

/-! The blinking LED of a board: the commands of its proc file and its timer. -/

set_option autoImplicit false

namespace Vi53xx.Driver

open Foundation

def LED_BLINK_ON : BitVec 32 := 1

def LED_BLINK_OFF : BitVec 32 := 0

/-- The part of `device_info` about the LED, and the last value written to its register. -/
structure Led where
  state : BitVec 32
  createFlag : Bool
  timer : Timer
  register : BitVec 32
  deriving DecidableEq, Repr

def Led.writeReg (led : Led) (value : BitVec 32) : Led := { led with register := value }

def Led.timerIsr (led : Led) : Led :=
  let led := { led with state := if led.state = LED_BLINK_ON then LED_BLINK_OFF else LED_BLINK_ON }
  let led := led.writeReg led.state
  { led with timer := led.timer.add }

/-- `setup_timer` sets the handler and does not take a timer off the pending set. -/
def Led.blinkLED (led : Led) : Led :=
  if led.createFlag then led
  else
    let led := { led with timer := led.timer.add }
    { led with createFlag := true }

def Led.callBlinkControl (led : Led) (state : BitVec 32) : Led :=
  if state ≠ 0 then led.blinkLED
  else
    let led := { led with timer := led.timer.del }
    let led := { led with createFlag := false, state := LED_BLINK_OFF }
    led.writeReg led.state

/-- The blink states of the commands that `device_write` passes on to the LED. -/
def blinkState (cmd : List Char) : Option (BitVec 32) :=
  if cmd = ['o', 'n'] then some 1 else if cmd = ['o', 'f', 'f'] then some 0 else none

/-- `device_write` on the word it has scanned. A `dump` and an unknown word leave the LED. -/
def Led.deviceWrite (led : Led) (cmd : List Char) : Led :=
  match blinkState cmd with
  | some state => led.callBlinkControl state
  | none => led

/-! ## The LED over time -/

inductive LedStep where
  | write (cmd : List Char)
  | expire
  | handler
  deriving DecidableEq, Repr

/-- The LED with the last blink state that a command has asked for. -/
structure LedRun where
  led : Led
  asked : Option (BitVec 32)
  deriving DecidableEq, Repr

def LedRun.probed (state register : BitVec 32) : LedRun := ⟨⟨state, false, .idle, register⟩, none⟩

def ledStep (run : LedRun) : LedStep → Option LedRun
  | .write cmd => some ⟨run.led.deviceWrite cmd, (blinkState cmd).or run.asked⟩
  | .expire => run.led.timer.expire.map fun timer => { run with led := { run.led with timer } }
  | .handler =>
      run.led.timer.finish.map fun timer => { run with led := Led.timerIsr { run.led with timer } }

end Vi53xx.Driver
