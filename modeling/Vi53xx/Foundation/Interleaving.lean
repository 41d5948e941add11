import Vi53xx.Foundation.Runs

/-! Two clients that share a state. Each makes its requests one after the other, and a
schedule says whose turn it is and how the request of that turn comes out. -/

set_option autoImplicit false

namespace Vi53xx.Foundation

/-- A client in front of a request, with what it does on each reply. -/
inductive Client (Request Reply : Type) where
  | done
  | call (request : Request) (next : Reply → Client Request Reply)

inductive Party where
  | first
  | second
  deriving DecidableEq, Repr

structure Turn (Outcome : Type) where
  party : Party
  outcome : Outcome
  deriving DecidableEq, Repr

structure TwoClients (State Request Reply : Type) where
  state : State
  first : Client Request Reply
  second : Client Request Reply

namespace TwoClients

variable {State Request Reply Outcome : Type} (serve : State → Request → Outcome → Reply × State)

/-- One request of a client that has the state to itself. -/
def advance (alone : State × Client Request Reply) (outcome : Outcome) :
    Option (State × Client Request Reply) :=
  match alone.2 with
  | .done => none
  | .call request next =>
      let (reply, state) := serve alone.1 request outcome
      some (state, next reply)

def turn (clients : TwoClients State Request Reply) (turn : Turn Outcome) :
    Option (TwoClients State Request Reply) :=
  match turn.party with
  | .first =>
      (advance serve (clients.state, clients.first) turn.outcome).map fun (state, first) =>
        { clients with state, first }
  | .second =>
      (advance serve (clients.state, clients.second) turn.outcome).map fun (state, second) =>
        { clients with state, second }

variable {serve} {clients final : TwoClients State Request Reply} {schedule : List (Turn Outcome)}
  {request : Request} {next : Reply → Client Request Reply}

def secondTurns (outcomes : List Outcome) : List (Turn Outcome) := outcomes.map (Turn.mk .second)

/-- Up to the next turn of the first client the second one is alone with the state. -/
theorem next_turn (waiting : clients.first = .call request next)
    (ran : runFrom (turn serve) clients schedule = some final) (finished : final.first = .done) :
    ∃ outcomes outcome rest state second,
      schedule = secondTurns outcomes ++ ⟨.first, outcome⟩ :: rest ∧
      runFrom (advance serve) (clients.state, clients.second) outcomes = some (state, second) ∧
      runFrom (turn serve) ⟨(serve state request outcome).2, next (serve state request outcome).1,
        second⟩ rest = some final := by
  induction schedule generalizing clients with
  | nil =>
      cases ran
      rw [waiting] at finished
      cases finished
  | cons head rest ih =>
      obtain ⟨middle, turned, continued⟩ := Option.bind_eq_some_iff.mp ran
      obtain ⟨party, outcome⟩ := head
      cases party with
      | first =>
          simp only [turn, advance, waiting, Option.map_some, Option.some.injEq] at turned
          subst turned
          exact ⟨[], outcome, rest, clients.state, clients.second, rfl, rfl, continued⟩
      | second =>
          obtain ⟨⟨shared, remaining⟩, advanced, rfl⟩ := Option.map_eq_some_iff.mp turned
          obtain ⟨outcomes, last, later, state, second, split, solo, reached⟩ :=
            @ih { clients with state := shared, second := remaining } waiting continued
          refine ⟨outcome :: outcomes, last, later, state, second, ?_, ?_, reached⟩
          · rw [split]
            rfl
          · exact (congrArg (Option.bind · _) advanced).trans solo

/-- Once the first client is done, the second one is alone with the state. -/
theorem last_turns (idle : clients.first = .done)
    (ran : runFrom (turn serve) clients schedule = some final) :
    ∃ outcomes, schedule = secondTurns outcomes ∧
      runFrom (advance serve) (clients.state, clients.second) outcomes =
        some (final.state, final.second) := by
  induction schedule generalizing clients with
  | nil =>
      cases ran
      exact ⟨[], rfl, rfl⟩
  | cons head rest ih =>
      obtain ⟨middle, turned, continued⟩ := Option.bind_eq_some_iff.mp ran
      obtain ⟨party, outcome⟩ := head
      cases party with
      | first =>
          simp only [turn, advance, idle] at turned
          cases turned
      | second =>
          obtain ⟨⟨shared, remaining⟩, advanced, rfl⟩ := Option.map_eq_some_iff.mp turned
          obtain ⟨outcomes, split, solo⟩ :=
            @ih { clients with state := shared, second := remaining } idle continued
          refine ⟨outcome :: outcomes, ?_, ?_⟩
          · rw [split]
            rfl
          · exact (congrArg (Option.bind · _) advanced).trans solo

/-! ## Positions in a schedule -/

/-- How many turns of the second client come before turn `n` of the first, from 0. -/
def secondBefore : Nat → List (Turn Outcome) → Nat
  | _, [] => 0
  | n, ⟨.second, _⟩ :: rest => secondBefore n rest + 1
  | 0, ⟨.first, _⟩ :: _ => 0
  | n + 1, ⟨.first, _⟩ :: rest => secondBefore n rest

/-- How turn `n` of the first client comes out. -/
def firstOutcome : Nat → List (Turn Outcome) → Option Outcome
  | _, [] => none
  | n, ⟨.second, _⟩ :: rest => firstOutcome n rest
  | 0, ⟨.first, outcome⟩ :: _ => some outcome
  | n + 1, ⟨.first, _⟩ :: rest => firstOutcome n rest

variable {outcomes : List Outcome} {outcome : Outcome} {rest : List (Turn Outcome)} {n : Nat}

@[simp] theorem secondBefore_zero :
    secondBefore 0 (secondTurns outcomes ++ ⟨.first, outcome⟩ :: rest) = outcomes.length := by
  induction outcomes with
  | nil => rfl
  | cons head outcomes ih => exact congrArg (· + 1) ih

@[simp] theorem secondBefore_succ :
    secondBefore (n + 1) (secondTurns outcomes ++ ⟨.first, outcome⟩ :: rest) =
      secondBefore n rest + outcomes.length := by
  induction outcomes with
  | nil => rfl
  | cons head outcomes ih => exact congrArg (· + 1) ih

@[simp] theorem firstOutcome_zero :
    firstOutcome 0 (secondTurns outcomes ++ ⟨.first, outcome⟩ :: rest) = some outcome := by
  induction outcomes with
  | nil => rfl
  | cons head outcomes ih => exact ih

@[simp] theorem firstOutcome_succ :
    firstOutcome (n + 1) (secondTurns outcomes ++ ⟨.first, outcome⟩ :: rest) =
      firstOutcome n rest := by
  induction outcomes with
  | nil => rfl
  | cons head outcomes ih => exact ih

/-- What holds of each turn of the second client holds of those in a stretch of its own. -/
theorem outcome_of_second {holds : Outcome → Prop}
    (each : ∀ turn ∈ secondTurns outcomes ++ rest, turn.party = .second → holds turn.outcome) :
    (∀ outcome ∈ outcomes, holds outcome) ∧
      ∀ turn ∈ rest, turn.party = .second → holds turn.outcome := by
  constructor
  · intro outcome member
    exact each _ (List.mem_append_left rest (List.mem_map_of_mem member)) rfl
  · intro turn member
    exact each turn (List.mem_append_right _ member)

end TwoClients

end Vi53xx.Foundation
