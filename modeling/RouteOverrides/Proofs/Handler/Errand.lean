import Mathlib.Logic.Function.Basic
import RouteOverrides.Proofs.Handler.Steady
import RouteOverrides.Proofs.Program.Conduct
import RouteOverrides.Session

/-! # Errands of callers

Callers use handlers: each one has passes, reports and releases made one after the other, and keeps the
trackers of its handlers in between, which no other caller uses. Several callers take turns. In its
turn a caller begins its next errand, gets one request answered, or takes the result.

* `Errand.program`, `Session.run_step` — an errand is what a session does in one step.
* `Caller.Moves`, `Caller.Runs` — one turn, and turns in a given order.
* `Caller.exists_run` — turns can be taken in every order.
* `Errand.alike` — an errand is the same over any two stores.
-/

namespace RouteOverrides

inductive Task where
  | handle
  /-- Asks for statuses, with other ignored hosts than the tracker's if given. -/
  | statuses (ignored : Option (List String))
  | release

/-- Something that a handler is to do, with the number of its tracker. -/
structure Errand where
  handler : Handler
  tracker : Nat
  task : Task

/-- What an errand comes to, and the trackers after it. -/
abbrev Ended := Except Failure Outcome × List Tracker

def Errand.program (errand : Errand) (trackers : List Tracker) : Program Ended :=
  let tracker := trackers[errand.tracker]?.getD .empty
  match errand.task with
  | .handle => do
    let ended ← Pass.outcome errand.handler.handle tracker
    pure (ended.1.map .passed, trackers.set errand.tracker ended.2)
  | .statuses ignored => do
    let result ← (errand.handler.statuses (ignored.getD tracker.ignored)).run
    pure (result.map .statuses, trackers)
  | .release => do
    let result ← errand.handler.release.run
    pure (result.map .names, trackers)

def Task.step (task : Task) (id : String) : Step :=
  match task with
  | handle => .handle id
  | statuses ignored => .statuses id ignored false
  | release => .release id

/-- A session does an errand in one step. -/
theorem Session.run_step {session : Session} {id : String} {seat : Seat}
    (seated : session.seat? id = .ok seat) (listens : Bool) (task : Task) :
    session.run listens (task.step id) =
      let ran := session.surroundings.runProgram listens
        (Errand.program ⟨seat.handler, seat.tracker, task⟩ session.trackers)
      (ran.1.1, { session with surroundings := ran.2, trackers := ran.1.2 }) := by
  cases task with
  | handle =>
    simp only [Task.step, Session.run, Session.withSeat, seated, Session.handle, Errand.program,
      Surroundings.runProgram, Program.run_bind]
    rfl
  | statuses ignored =>
    have unpublished : ∀ ignored, statusesAction seat.handler ignored false =
        seat.handler.statuses ignored := fun ignored => bind_pure _
    simp only [Task.step, Session.run, Session.withSeat, seated, Session.act, Errand.program,
      Surroundings.runProgram, Program.run_bind, unpublished]
    rfl
  | release =>
    simp only [Task.step, Session.run, Session.withSeat, seated, Session.act, Errand.program,
      Surroundings.runProgram, Program.run_bind]
    rfl

/-- What two errands come to is the same, apart from the texts of conflicts. -/
def EndedAlike (ended other : Ended) : Prop := Corresponds Eq ended.1 other.1 ∧ ended.2 = other.2

theorem Corresponds.map {α β : Type} {result other : Except Failure α}
    (corresponds : Corresponds Eq result other) (change : α → β) :
    Corresponds Eq (result.map change) (other.map change) := by
  cases corresponds with
  | ok same => exact .ok (congrArg change same)
  | error same => exact .error same

/-- An errand is the same over any two stores. -/
theorem Errand.alike (errand : Errand) (trackers : List Tracker) (twins : Twins) :
    Program.Alike (fun _ => EndedAlike) twins (errand.program trackers) (errand.program trackers) := by
  obtain ⟨handler, tracker, task⟩ := errand
  cases task with
  | handle =>
    refine Program.Alike.bind (handler.steady_handle twins _) fun _ _ ended other same => .done ?_
    obtain ⟨sameResult, sameNoted⟩ := same
    exact ⟨(sameResult.mono fun _ _ equal => equal.1).map _, congrArg (trackers.set tracker) sameNoted⟩
  | statuses ignored =>
    exact Program.Alike.bind (handler.steady_statusesOf _ handler.hosts twins)
      fun _ _ _ _ same => .done ⟨same.map _, rfl⟩
  | release =>
    exact Program.Alike.bind (handler.toRelease.steady_forHosts handler.hosts twins)
      fun _ _ _ _ same => .done ⟨same.map _, rfl⟩

/-! ## Callers -/

structure Caller where
  trackers : List Tracker
  /-- What the errands came to so far. -/
  returned : List (Except Failure Outcome)
  /-- What is left to run of the present errand. -/
  underWay : Option (Program Ended)
  waiting : List Errand

namespace Caller

variable {ι σ τ : Type}

def starting (trackers : List Tracker) (errands : List Errand) : Caller :=
  ⟨trackers, [], none, errands⟩

/-- One turn of a caller. -/
inductive Moves (rules : Rules σ) : Caller → σ → Caller → σ → Prop where
  | begins {trackers : List Tracker} {returned : List (Except Failure Outcome)} {errand : Errand}
      {waiting : List Errand} {state : σ} :
      Moves rules ⟨trackers, returned, none, errand :: waiting⟩ state
        ⟨trackers, returned, some (errand.program trackers), waiting⟩ state
  | answered {trackers : List Tracker} {returned : List (Except Failure Outcome)}
      {waiting : List Errand} {request : Request} {next : request.Answer → Program Ended}
      {state after : σ} (answer : request.Answer) (allowed : rules request state answer after) :
      Moves rules ⟨trackers, returned, some (.ask request next), waiting⟩ state
        ⟨trackers, returned, some (next answer), waiting⟩ after
  | takes {trackers noted : List Tracker} {returned : List (Except Failure Outcome)}
      {result : Except Failure Outcome} {waiting : List Errand} {state : σ} :
      Moves rules ⟨trackers, returned, some (.done (result, noted)), waiting⟩ state
        ⟨noted, returned ++ [result], none, waiting⟩ state
  | rests {trackers : List Tracker} {returned : List (Except Failure Outcome)} {state : σ} :
      Moves rules ⟨trackers, returned, none, []⟩ state ⟨trackers, returned, none, []⟩ state

/-- The turns of some callers in a given order. -/
inductive Runs [DecidableEq ι] (rules : ι → Rules σ) :
    List ι → (ι → Caller) → σ → (ι → Caller) → σ → Prop where
  | nil {callers : ι → Caller} {state : σ} : Runs rules [] callers state callers state
  | cons {party : ι} {rest : List ι} {callers last : ι → Caller} {moved : Caller}
      {state middle final : σ} (turn : Moves (rules party) (callers party) state moved middle)
      (onward : Runs rules rest (Function.update callers party moved) middle last final) :
      Runs rules (party :: rest) callers state last final

theorem exists_move {rules : Rules σ}
    (answers : ∀ request state, ∃ answer after, rules request state answer after)
    (caller : Caller) (state : σ) : ∃ moved after, Moves rules caller state moved after := by
  obtain ⟨trackers, returned, underWay, waiting⟩ := caller
  cases underWay with
  | none =>
    cases waiting with
    | nil => exact ⟨_, _, .rests⟩
    | cons errand waiting => exact ⟨_, _, .begins⟩
  | some program =>
    cases program with
    | done ended => exact ⟨_, _, .takes⟩
    | ask request next =>
      obtain ⟨answer, after, allowed⟩ := answers request state
      exact ⟨_, _, .answered answer allowed⟩

/-- Turns can be taken in every order. -/
theorem exists_run [DecidableEq ι] {rules : ι → Rules σ}
    (answers : ∀ party request state, ∃ answer after, rules party request state answer after)
    (order : List ι) (callers : ι → Caller) (state : σ) :
    ∃ last final, Runs rules order callers state last final := by
  induction order generalizing callers state with
  | nil => exact ⟨_, _, .nil⟩
  | cons party rest inductionHypothesis =>
    obtain ⟨moved, after, turn⟩ := exists_move (answers party) (callers party) state
    obtain ⟨last, final, onward⟩ :=
      inductionHypothesis (Function.update callers party moved) after
    exact ⟨last, final, .cons turn onward⟩

/-! ## Callers of two stores -/

/-- States that stand beside each other do so after every request; the replies to store calls say the
same, and all other answers are equal. -/
structure AnsweringAlike (rules : Rules σ) (rulesOther : Rules τ)
    (standing : Twins → σ → τ → Prop) : Prop where
  called : ∀ {twins state stateOther after afterOther} {call callOther : StoreCall}
    {reply : Except Failure call.Reply} {replyOther : Except Failure callOther.Reply},
    standing twins state stateOther → call.Alike twins callOther →
    rules (.store call) state reply after →
    rulesOther (.store callOther) stateOther replyOther afterOther →
    ∃ more, twins ≤ more ∧ StoreCall.RepliesAlike more call callOther reply replyOther ∧
      standing more after afterOther
  heard : ∀ {twins state stateOther after afterOther} {request : Request}
    {answer answerOther : request.Answer}, (∀ call, request ≠ .store call) →
    standing twins state stateOther → rules request state answer after →
    rulesOther request stateOther answerOther afterOther →
    answer = answerOther ∧ standing twins after afterOther

/-- Two callers have got the same from their errands, and are at the same point of the same errand. -/
structure Alike (twins : Twins) (caller other : Caller) : Prop where
  trackers : caller.trackers = other.trackers
  returned : List.Forall₂ (Corresponds Eq) caller.returned other.returned
  underWay : Option.Rel (Program.Alike (fun _ => EndedAlike) twins) caller.underWay other.underWay
  waiting : caller.waiting = other.waiting

/-- Two callers have got the same from their errands so far, and are at the same errand. -/
structure SameSoFar (caller other : Caller) : Prop where
  returned : List.Forall₂ (Corresponds Eq) caller.returned other.returned
  trackers : caller.trackers = other.trackers
  busy : caller.underWay.isSome = other.underWay.isSome
  waiting : caller.waiting = other.waiting

variable {twins more : Twins} {caller other moved movedOther : Caller} {rules : Rules σ}
  {rulesOther : Rules τ} {standing : Twins → σ → τ → Prop} {state after : σ}
  {stateOther afterOther : τ}

theorem alike_starting (trackers : List Tracker) (errands : List Errand) :
    Alike twins (starting trackers errands) (starting trackers errands) :=
  ⟨rfl, .nil, .none, rfl⟩

theorem Alike.sameSoFar (alike : Alike twins caller other) : SameSoFar caller other := by
  have busy : ∀ {left leftOther : Option (Program Ended)},
      Option.Rel (Program.Alike (fun _ => EndedAlike) twins) left leftOther →
      left.isSome = leftOther.isSome := by
    rintro _ _ (_ | _) <;> rfl
  exact ⟨alike.returned, alike.trackers, busy alike.underWay, alike.waiting⟩

theorem Alike.grown (alike : Alike twins caller other) (grown : twins ≤ more) :
    Alike more caller other := by
  have underWay : ∀ {left leftOther : Option (Program Ended)},
      Option.Rel (Program.Alike (fun _ => EndedAlike) twins) left leftOther →
      Option.Rel (Program.Alike (fun _ => EndedAlike) more) left leftOther := by
    rintro _ _ (same | _)
    · exact .some (same.grown (fun _ _ _ _ _ ended => ended) grown)
    · exact .none
  exact ⟨alike.trackers, alike.returned, underWay alike.underWay, alike.waiting⟩

/-- A turn of alike callers leaves them alike, if the rules answer alike. -/
theorem Alike.of_moves (answering : AnsweringAlike rules rulesOther standing)
    (alike : Alike twins caller other) (stands : standing twins state stateOther)
    (turn : Moves rules caller state moved after)
    (turnOther : Moves rulesOther other stateOther movedOther afterOther) :
    ∃ more, twins ≤ more ∧ Alike more moved movedOther ∧ standing more after afterOther := by
  obtain ⟨trackersOther, returnedOther, underWayOther, waitingOther⟩ := other
  obtain ⟨sameTrackers, sameReturned, sameUnderWay, sameWaiting⟩ := alike
  -- Alike callers are at the same point, so both take a turn of the same kind.
  cases turn with
  | begins =>
    cases turnOther with
    | begins =>
      cases sameTrackers
      cases sameWaiting
      exact ⟨twins, le_refl _, ⟨rfl, sameReturned, .some (Errand.alike _ _ twins), rfl⟩, stands⟩
    | answered | takes => cases sameUnderWay
    | rests => cases sameWaiting
  | answered answer allowed =>
    cases sameUnderWay with
    | some same =>
      cases same with
      | called calls onward =>
        cases turnOther with | answered answerOther allowedOther =>
        obtain ⟨more, grown, replies, standing⟩ :=
          answering.called stands calls allowed allowedOther
        exact ⟨more, grown, ⟨sameTrackers, sameReturned,
          .some (onward more grown _ _ replies), sameWaiting⟩, standing⟩
      | heard aside onward =>
        cases turnOther with | answered answerOther allowedOther =>
        obtain ⟨rfl, standing⟩ := answering.heard aside stands allowed allowedOther
        exact ⟨twins, le_refl _, ⟨sameTrackers, sameReturned,
          .some (onward twins (le_refl _) _), sameWaiting⟩, standing⟩
  | takes =>
    cases sameUnderWay with
    | some same =>
      cases same with
      | done ended =>
        obtain ⟨sameResult, sameNoted⟩ := ended
        cases turnOther with | takes =>
        exact ⟨twins, le_refl _, ⟨sameNoted, List.rel_append sameReturned (.cons sameResult .nil), .none,
          sameWaiting⟩, stands⟩
  | rests =>
    cases turnOther with
    | rests => exact ⟨twins, le_refl _, ⟨sameTrackers, sameReturned, .none, rfl⟩, stands⟩
    | begins => cases sameWaiting
    | answered | takes => cases sameUnderWay

/-- Callers that take turns in the same order stay alike. -/
theorem alike_of_runs [DecidableEq ι] {rules : ι → Rules σ} {rulesOther : ι → Rules τ}
    {callers others last lastOther : ι → Caller}
    (answering : ∀ party, AnsweringAlike (rules party) (rulesOther party) standing) {order : List ι}
    (alike : ∀ party, Alike twins (callers party) (others party))
    (stands : standing twins state stateOther)
    (run : Runs rules order callers state last after)
    (runOther : Runs rulesOther order others stateOther lastOther afterOther) :
    ∃ more, (∀ party, Alike more (last party) (lastOther party)) ∧ standing more after afterOther := by
  induction order generalizing twins callers others state stateOther with
  | nil =>
    cases run
    cases runOther
    exact ⟨twins, alike, stands⟩
  | cons party rest inductionHypothesis =>
    cases run with
    | @cons _ _ _ _ moved _ _ _ turn onward =>
      cases runOther with
      | @cons _ _ _ _ movedOther _ _ _ turnOther onwardOther =>
        obtain ⟨more, grown, alikeMoved, standsThen⟩ :=
          (alike party).of_moves (answering party) stands turn turnOther
        refine inductionHypothesis (fun other => ?_) standsThen onward onwardOther
        by_cases acting : other = party
        · subst acting
          rw [Function.update_self, Function.update_self]
          exact alikeMoved
        · rw [Function.update_of_ne acting, Function.update_of_ne acting]
          exact (alike other).grown grown

end Caller

end RouteOverrides
