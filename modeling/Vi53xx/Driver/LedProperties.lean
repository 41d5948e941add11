import Vi53xx.Driver.Led

/-! Whether an `off` is final. A handler in flight re-arms the timer that the `off` has
deleted, whatever the flag of the commands says by then. -/

set_option autoImplicit false

namespace Vi53xx.Driver

open Foundation

/-- The timer has never been added while pending, and an LED that is asked to be off
is off for good once no handler is in flight. -/
structure OffFinal (run : LedRun) : Prop where
  kept : run.led.timer.misused = false
  final : run.asked = some LED_BLINK_OFF → run.led.timer.inFlight = 0 →
    run.led.timer.pending = false ∧ run.led.register = LED_BLINK_OFF

/-- An `off` does not come while a handler is in flight. -/
def Settled (run : LedRun) : LedStep → Prop
  | .write cmd => blinkState cmd = some LED_BLINK_OFF → run.led.timer.inFlight = 0
  | .expire | .handler => True

variable {run next final : LedRun} {led : Led} {action : LedStep} {steps : List LedStep}

/-! ## One step -/

theorem blinkState_cases (cmd : List Char) :
    blinkState cmd = none ∨ blinkState cmd = some LED_BLINK_OFF ∨
      blinkState cmd = some LED_BLINK_ON := by
  unfold blinkState
  split
  · exact .inr (.inr rfl)
  · split
    · exact .inr (.inl rfl)
    · exact .inl rfl

/-- What one step does to the LED. -/
inductive Stepped (run : LedRun) : LedStep → LedRun → Prop where
  | ignored {cmd : List Char} (unknown : blinkState cmd = none) : Stepped run (.write cmd) run
  | off {cmd : List Char} (asked : blinkState cmd = some LED_BLINK_OFF) :
      Stepped run (.write cmd)
        ⟨⟨LED_BLINK_OFF, false, run.led.timer.del, LED_BLINK_OFF⟩, some LED_BLINK_OFF⟩
  | on {cmd : List Char} (asked : blinkState cmd = some LED_BLINK_ON) :
      Stepped run (.write cmd) ⟨run.led.blinkLED, some LED_BLINK_ON⟩
  | expire {timer : Timer} (expired : run.led.timer.expire = some timer) :
      Stepped run .expire { run with led := { run.led with timer } }
  | handler {timer : Timer} (finished : run.led.timer.finish = some timer) :
      Stepped run .handler { run with led := Led.timerIsr { run.led with timer } }

theorem ledStep_stepped (stepped : ledStep run action = some next) : Stepped run action next := by
  cases action with
  | write cmd =>
      simp only [ledStep, Led.deviceWrite, Option.some.injEq] at stepped
      subst stepped
      rcases blinkState_cases cmd with unknown | off | on
      · rw [unknown]
        exact .ignored unknown
      · rw [off]
        exact .off off
      · rw [on]
        exact .on on
  | expire =>
      obtain ⟨timer, expired, rfl⟩ := Option.map_eq_some_iff.mp stepped
      exact .expire expired
  | handler =>
      obtain ⟨timer, finished, rfl⟩ := Option.map_eq_some_iff.mp stepped
      exact .handler finished

theorem blinkLED_created (created : led.createFlag = true) : led.blinkLED = led :=
  if_pos created

theorem blinkLED_fresh (fresh : led.createFlag = false) :
    led.blinkLED = { led with timer := led.timer.add, createFlag := true } := by
  simp [Led.blinkLED, fresh]

/-! ## While no `off` meets a handler -/

/-- The flag tells whether the LED is asked to blink, and then the handler is to run
exactly once. -/
structure Controlled (run : LedRun) : Prop where
  kept : run.led.timer.misused = false
  flag : run.led.createFlag = true ↔ run.asked = some LED_BLINK_ON
  active : run.led.timer.activity = run.led.createFlag.toNat
  dark : run.asked = some LED_BLINK_OFF → run.led.register = LED_BLINK_OFF

theorem Controlled.offFinal (controlled : Controlled run) : OffFinal run := by
  refine ⟨controlled.kept, ?_⟩
  intro off quiet
  have clear : run.led.createFlag = false := by
    rw [Bool.eq_false_iff, Ne, controlled.flag, off]
    decide
  have idle := controlled.active
  rw [clear, Bool.toNat_false] at idle
  refine ⟨?_, controlled.dark off⟩
  rw [Bool.eq_false_iff, Ne, Timer.pending_of_activity quiet, idle]
  exact Nat.lt_irrefl 0

theorem Controlled.step (controlled : Controlled run) (settled : Settled run action)
    (stepped : ledStep run action = some next) : Controlled next := by
  cases ledStep_stepped stepped with
  | ignored unknown => exact controlled
  | off asked =>
      refine ⟨controlled.kept, iff_of_false Bool.false_ne_true nofun, ?_, fun _ => rfl⟩
      rw [Timer.del_activity]
      exact settled asked
  | on asked =>
      cases created : run.led.createFlag with
      | true =>
          rw [blinkLED_created created]
          refine ⟨controlled.kept, iff_of_true created rfl, controlled.active, ?_⟩
          intro off
          cases off
      | false =>
          have idle := controlled.active
          rw [created, Bool.toNat_false] at idle
          have clear := Timer.clear_of_activity idle
          rw [blinkLED_fresh created]
          refine ⟨Timer.add_misused_iff.mpr ⟨controlled.kept, clear⟩, iff_of_true rfl rfl, ?_, ?_⟩
          · exact (Timer.add_activity clear).trans (congrArg (· + 1) idle)
          · intro off
            cases off
  | expire expired =>
      obtain ⟨same, kept⟩ := Timer.expire_activity expired
      exact ⟨kept.trans controlled.kept, controlled.flag, same.trans controlled.active,
        controlled.dark⟩
  | handler finished =>
      obtain ⟨active, pending, kept⟩ := Timer.finish_activity finished
      have blinking : run.led.createFlag = true := by
        cases created : run.led.createFlag with
        | true => rfl
        | false =>
            have idle := controlled.active
            rw [created, Bool.toNat_false] at idle
            omega
      have idle := controlled.active
      rw [blinking, Bool.toNat_true, active] at idle
      have clear := Timer.clear_of_activity (Nat.succ.inj idle)
      have on := controlled.flag.mp blinking
      refine ⟨Timer.add_misused_iff.mpr ⟨kept.trans controlled.kept, clear⟩, controlled.flag, ?_, ?_⟩
      · have once := (Timer.add_activity clear).trans idle
        exact once.trans (congrArg Bool.toNat blinking).symm
      · intro off
        rw [on] at off
        cases off

theorem Controlled.probed {state register : BitVec 32} : Controlled (.probed state register) :=
  ⟨rfl, iff_of_false Bool.false_ne_true nofun, rfl, nofun⟩

/-! ## Once an `off` has met a handler -/

/-- The handler is to run more often than the flag tells. -/
structure Loose (run : LedRun) : Prop where
  asked : run.asked = some (if run.led.createFlag then LED_BLINK_ON else LED_BLINK_OFF)
  active : run.led.createFlag.toNat < run.led.timer.activity

theorem Loose.of_off {cmd : List Char} (asked : blinkState cmd = some LED_BLINK_OFF)
    (flight : run.led.timer.inFlight ≠ 0) (stepped : ledStep run (.write cmd) = some next) :
    Loose next := by
  cases ledStep_stepped stepped with
  | ignored unknown =>
      rw [asked] at unknown
      cases unknown
  | off _ =>
      refine ⟨rfl, ?_⟩
      rw [Timer.del_activity]
      exact Nat.pos_of_ne_zero flight
  | on on =>
      rw [asked] at on
      cases on

/-- A loose timer that is not in flight is pending, against what was asked. -/
theorem Loose.not_final (loose : Loose run) (quiet : run.led.timer.inFlight = 0) :
    ¬ OffFinal run := by
  intro holds
  have active := loose.active
  cases created : run.led.createFlag with
  | true =>
      have most := Bool.toNat_le run.led.timer.pending
      rw [created, Bool.toNat_true, Timer.activity, quiet] at active
      omega
  | false =>
      have off := loose.asked
      rw [created] at off active
      have clear := (holds.final off quiet).1
      rw [Bool.toNat_false, ← Timer.pending_of_activity quiet, clear] at active
      cases active

/-- It stays so, unless the claim fails on the way. -/
theorem Loose.step (loose : Loose run) (holds : OffFinal run) (after : OffFinal next)
    (stepped : ledStep run action = some next) : Loose next := by
  cases ledStep_stepped stepped with
  | ignored unknown => exact loose
  | off asked =>
      refine ⟨rfl, ?_⟩
      rw [Timer.del_activity]
      exact Nat.pos_of_ne_zero fun quiet => loose.not_final quiet holds
  | on asked =>
      cases created : run.led.createFlag with
      | true =>
          rw [blinkLED_created created]
          exact ⟨by rw [created]; rfl, loose.active⟩
      | false =>
          rw [blinkLED_fresh created] at after ⊢
          have clear := (Timer.add_misused_iff.mp after.kept).2
          have active := loose.active
          rw [created, Bool.toNat_false] at active
          refine ⟨rfl, ?_⟩
          rw [Timer.add_activity clear]
          exact Nat.succ_lt_succ active
  | expire expired =>
      obtain ⟨same, kept⟩ := Timer.expire_activity expired
      exact ⟨loose.asked, loose.active.trans_eq same.symm⟩
  | handler finished =>
      obtain ⟨active, pending, kept⟩ := Timer.finish_activity finished
      have clear := (Timer.add_misused_iff.mp after.kept).2
      refine ⟨loose.asked, ?_⟩
      exact loose.active.trans_eq (active.trans (Timer.add_activity clear).symm)

theorem Loose.throughout (loose : Loose run) (holds : Throughout ledStep OffFinal run steps)
    (ran : runFrom ledStep run steps = some final) : Loose final := by
  induction steps generalizing run with
  | nil =>
      cases ran
      exact loose
  | cons action rest ih =>
      obtain ⟨next, stepped, ran⟩ := Option.bind_eq_some_iff.mp ran
      have later := holds.2 next stepped
      exact ih (loose.step holds.1 later.start stepped) later ran

/-! ## Runs -/

theorem Controlled.settled_of_final (controlled : Controlled run)
    (ran : runFrom ledStep run steps = some final) (quiet : final.led.timer.inFlight = 0)
    (holds : Throughout ledStep OffFinal run steps) : EachStep ledStep Settled run steps := by
  induction steps generalizing run with
  | nil => trivial
  | cons action rest ih =>
      obtain ⟨next, stepped, continued⟩ := Option.bind_eq_some_iff.mp ran
      have later := holds.2 next stepped
      have settled : Settled run action := by
        cases action with
        | expire | handler => trivial
        | write cmd =>
            intro asked
            by_contra flight
            have loose := (Loose.of_off asked flight stepped).throughout later continued
            exact loose.not_final quiet (later.last continued)
      refine ⟨settled, ?_⟩
      intro other same
      rw [stepped] at same
      cases same
      exact ih (controlled.step settled stepped) continued later

/-- Where no `off` comes while a handler is in flight, every `off` is final and the
timer is never added twice; in a run that leaves no handler in flight only there. -/
theorem off_final_iff (state register : BitVec 32) (steps : List LedStep) :
    (EachStep ledStep Settled (.probed state register) steps →
        Throughout ledStep OffFinal (.probed state register) steps) ∧
      ∀ final, runFrom ledStep (.probed state register) steps = some final →
        final.led.timer.inFlight = 0 →
          (Throughout ledStep OffFinal (.probed state register) steps ↔
            EachStep ledStep Settled (.probed state register) steps) := by
  have enough : EachStep ledStep Settled (.probed state register) steps →
      Throughout ledStep OffFinal (.probed state register) steps := by
    intro settled
    have controlled := throughout_of_preserved
      (fun run action next controlled settled stepped =>
        Controlled.step controlled settled stepped) Controlled.probed settled
    exact controlled.mono fun run => Controlled.offFinal
  refine ⟨enough, ?_⟩
  intro final ran quiet
  exact ⟨Controlled.probed.settled_of_final ran quiet, enough⟩

/-- The `off` falls between the expiry and the handler. -/
def offInFlight : List LedStep :=
  [.write ['o', 'n'], .expire, .write ['o', 'f', 'f'], .handler]

/-- The LED blinks on after its last command, an `off`. -/
theorem off_not_final :
    runFrom ledStep (.probed 0 0) offInFlight =
        some ⟨⟨LED_BLINK_ON, false, ⟨true, 0, false⟩, LED_BLINK_ON⟩, some LED_BLINK_OFF⟩ ∧
      ¬ Throughout ledStep OffFinal (.probed 0 0) offInFlight := by
  have ran : runFrom ledStep (.probed 0 0) offInFlight =
      some ⟨⟨LED_BLINK_ON, false, ⟨true, 0, false⟩, LED_BLINK_ON⟩, some LED_BLINK_OFF⟩ := by
    decide
  refine ⟨ran, ?_⟩
  intro holds
  have pending := ((holds.last ran).final rfl rfl).1
  cases pending

end Vi53xx.Driver
