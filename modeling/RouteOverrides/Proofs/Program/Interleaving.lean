import Mathlib.Algebra.BigOperators.Fin
import Mathlib.Logic.Hydra
import Mathlib.Order.WellFounded
import RouteOverrides.Proofs.Program.Conduct

/-! # Programs that take turns

Several parties run programs against one state. In a turn the next request of one party is answered,
while the others wait. What holds of one party among the others is proved along the text of its program:
the party relies on what others may do to the state before each of its requests, and it guarantees what
its own requests do.

* `Program.Turn`, `Program.Interleaved` — one turn, and any number of them in any order.
* `Program.Coexists` — a program that is right as long as others act as it relies on.
* `Program.Accord.coexists_of_interleaved` — parties that tolerate each other are right in every order
  of their turns.
* `Program.Interleaved.beside` — the same turns beside a state that remembers more.
* `Program.not_endless`, `Program.done_or_turn` — all orders of turns come to an end, and only when all
  parties are done.
-/

namespace RouteOverrides.Program

variable {ι α σ τ : Type} [DecidableEq ι]

/-- What is left to run of each party's program, and the state that the parties share. -/
structure Joint (ι α σ : Type) where
  programs : ι → Program α
  state : σ

/-- A party's next request is answered. -/
inductive Turn (rules : ι → Rules σ) (party : ι) : Joint ι α σ → Joint ι α σ → Prop where
  | answered {programs : ι → Program α} {state after : σ} {request : Request}
      {next : request.Answer → Program α} (asks : programs party = .ask request next)
      (answer : request.Answer) (allowed : rules party request state answer after) :
      Turn rules party ⟨programs, state⟩ ⟨Function.update programs party (next answer), after⟩

/-- Any number of turns of any parties, one after the other. -/
def Interleaved (rules : ι → Rules σ) : Joint ι α σ → Joint ι α σ → Prop :=
  Relation.ReflTransGen fun before after => ∃ party, Turn rules party before after

/-! ## Relying and guaranteeing -/

/-- The rules for a party among others, which may act before each of its requests is answered. -/
def amid (rely : σ → σ → Prop) (rules : Rules σ) : Rules σ :=
  fun request state answer after => ∃ ready, rely state ready ∧ rules request ready answer after

/-- Whenever a request is answered from now on, what happens then is what the party guarantees. -/
def upholds (rely guarantee : σ → σ → Prop) (rules : Rules σ) (request : Request) (state : σ) : Prop :=
  ∀ ready answer after, rely state ready → rules request ready answer after → guarantee ready after

/-- As long as others act as the party relies on, its requests do what it guarantees, and its result
meets the postcondition from then on. -/
def Coexists (rely guarantee : σ → σ → Prop) (rules : Rules σ) (post : α → σ → Prop)
    (program : Program α) (state : σ) : Prop :=
  Keeps (amid rely rules) (upholds rely guarantee rules)
    (fun result after => ∀ later, rely after later → post result later) program state

/-- Each party guarantees what the others rely on. -/
structure Accord (rely guarantee : ι → σ → σ → Prop) : Prop where
  refl : ∀ party state, rely party state state
  trans : ∀ party {first second third},
    rely party first second → rely party second third → rely party first third
  tolerates : ∀ party other, other ≠ party → ∀ {before after},
    guarantee other before after → rely party before after

section Coexists

variable {rely guarantee : σ → σ → Prop} {rules : Rules σ} {post : α → σ → Prop} {state moved : σ}

theorem Coexists.of_rely {program : Program α}
    (trans : ∀ {first second third}, rely first second → rely second third → rely first third)
    (coexists : Coexists rely guarantee rules post program state) (acted : rely state moved) :
    Coexists rely guarantee rules post program moved := by
  cases program with
  | done result => exact fun final actedOn => coexists final (trans acted actedOn)
  | ask request next =>
    obtain ⟨upheld, answered⟩ := coexists
    refine ⟨fun ready answer after actedOn => upheld ready answer after (trans acted actedOn), ?_⟩
    rintro answer after ⟨ready, actedOn, allowed⟩
    exact answered answer after ⟨ready, trans acted actedOn, allowed⟩

end Coexists

namespace Accord

variable {rely guarantee : ι → σ → σ → Prop} {rules : ι → Rules σ} {post : ι → α → σ → Prop}
  {before after : Joint ι α σ} {party : ι}

theorem coexists_of_turn (accord : Accord rely guarantee)
    (coexist : ∀ party, Coexists (rely party) (guarantee party) (rules party) (post party)
      (before.programs party) before.state)
    (turn : Turn rules party before after) :
    guarantee party before.state after.state ∧
      ∀ party, Coexists (rely party) (guarantee party) (rules party) (post party)
        (after.programs party) after.state := by
  cases turn with
  | @answered programs state after request next asks answer allowed =>
    have acting : Coexists (rely party) (guarantee party) (rules party) (post party)
        (.ask request next) state := asks ▸ coexist party
    obtain ⟨upheld, answered⟩ := acting
    have guaranteed := upheld state answer after (accord.refl party state) allowed
    refine ⟨guaranteed, fun other => ?_⟩
    change Coexists _ _ _ _ (Function.update programs party (next answer) other) after
    by_cases same : other = party
    · subst same
      rw [Function.update_self]
      exact answered answer after ⟨state, accord.refl other state, allowed⟩
    · rw [Function.update_of_ne same]
      exact (coexist other).of_rely (accord.trans other)
        (accord.tolerates other party (Ne.symm same) guaranteed)

/-- In every order of turns all parties stay right, and the state moves only as they guarantee. -/
theorem coexists_of_interleaved (accord : Accord rely guarantee)
    (coexist : ∀ party, Coexists (rely party) (guarantee party) (rules party) (post party)
      (before.programs party) before.state)
    (run : Interleaved rules before after) :
    Relation.ReflTransGen (fun state later => ∃ party, guarantee party state later)
        before.state after.state ∧
      ∀ party, Coexists (rely party) (guarantee party) (rules party) (post party)
        (after.programs party) after.state := by
  induction run with
  | refl => exact ⟨.refl, coexist⟩
  | tail _ next inductionHypothesis =>
    obtain ⟨moved, coexistThere⟩ := inductionHypothesis
    obtain ⟨party, turn⟩ := next
    obtain ⟨guaranteed, coexistNow⟩ := accord.coexists_of_turn coexistThere turn
    exact ⟨moved.tail ⟨party, guaranteed⟩, coexistNow⟩

end Accord

/-! ## States that remember more -/

/-- Turns can be followed in a second state beside the actual one, if every answer can. -/
theorem Interleaved.beside {rules : ι → Rules τ} {noted : ι → Rules σ} {stands : τ → σ → Prop}
    (follows : ∀ party request actual answer after state, stands actual state →
      rules party request actual answer after →
      ∃ later, noted party request state answer later ∧ stands after later)
    {programs left : ι → Program α} {actual final : τ} {state : σ}
    (run : Interleaved rules ⟨programs, actual⟩ ⟨left, final⟩) (start : stands actual state) :
    ∃ later, Interleaved noted ⟨programs, state⟩ ⟨left, later⟩ ∧ stands final later := by
  have followed : ∀ {after : Joint ι α τ}, Interleaved rules ⟨programs, actual⟩ after →
      ∃ later, Interleaved noted ⟨programs, state⟩ ⟨after.programs, later⟩ ∧
        stands after.state later := by
    intro after run
    induction run with
    | refl => exact ⟨state, .refl, start⟩
    | tail _ next inductionHypothesis =>
      obtain ⟨middle, run, standing⟩ := inductionHypothesis
      obtain ⟨party, ⟨asks, answer, allowed⟩⟩ := next
      obtain ⟨later, allowedThere, standingNow⟩ :=
        follows party _ _ answer _ middle standing allowed
      exact ⟨later, run.tail ⟨party, .answered asks answer allowedThere⟩, standingNow⟩
  exact followed run

/-! ## Orders of turns come to an end -/

/-- What a program is left with after its next request was answered. -/
inductive Follows : Program α → Program α → Prop where
  | answered {request : Request} (next : request.Answer → Program α) (answer : request.Answer) :
      Follows (next answer) (.ask request next)

theorem wellFounded_follows : WellFounded (Follows (α := α)) := by
  refine ⟨fun program => ?_⟩
  induction program with
  | done result => exact ⟨_, fun _ follows => nomatch follows⟩
  | ask request next inductionHypothesis =>
    refine ⟨_, fun left follows => ?_⟩
    cases follows with
    | answered _ answer => exact inductionHypothesis answer

theorem wellFounded_turn [Fintype ι] (rules : ι → Rules σ) :
    WellFounded fun after before : Joint ι α σ => ∃ party, Turn rules party before after := by
  -- A turn takes one program out of the bag of all programs and puts a part of it back in.
  let bag (programs : ι → Program α) : Multiset (Program α) := ∑ party, {programs party}
  have apart : ∀ (programs : ι → Program α) (party : ι), bag programs =
      {programs party} + ∑ other ∈ Finset.univ.erase party, {programs other} :=
    fun programs party => (Finset.add_sum_erase _ _ (Finset.mem_univ party)).symm
  refine Subrelation.wf ?_
    (InvImage.wf (fun joint => bag joint.programs) wellFounded_follows.cutExpand)
  rintro after before ⟨party, turn⟩
  cases turn with
  | @answered programs state later request next asks answer allowed =>
    have others : ∀ other ∈ Finset.univ.erase party,
        ({Function.update programs party (next answer) other} : Multiset (Program α)) =
          {programs other} := by
      intro other member
      rw [Function.update_of_ne (Finset.ne_of_mem_erase member)]
    change Relation.CutExpand Follows (bag (Function.update programs party (next answer)))
      (bag programs)
    rw [apart _ party, apart programs party, Finset.sum_congr rfl others, Function.update_self,
      asks]
    exact Relation.cutExpand_single_add (.answered next answer) _

/-- There are no endless turns of finitely many parties. -/
theorem not_endless [Fintype ι] {rules : ι → Rules σ} (moments : Nat → Joint ι α σ) :
    ¬ ∀ n, ∃ party, Turn rules party (moments n) (moments (n + 1)) := fun turns =>
  (wellFounded_iff_isEmpty_descending_chain.1 (wellFounded_turn rules)).elim ⟨moments, turns⟩

/-- If every request has an answer, some party can take a turn until all are done. -/
theorem done_or_turn {rules : ι → Rules σ}
    (answers : ∀ party request state, ∃ answer after, rules party request state answer after)
    (joint : Joint ι α σ) :
    (∀ party, ∃ result, joint.programs party = .done result) ∨
      ∃ party after, Turn rules party joint after := by
  by_cases finished : ∀ party, ∃ result, joint.programs party = .done result
  · exact .inl finished
  · obtain ⟨party, unfinished⟩ := not_forall.1 finished
    cases asks : joint.programs party with
    | done result => exact absurd ⟨result, asks⟩ unfinished
    | ask request next =>
      obtain ⟨answer, after, allowed⟩ := answers party request joint.state
      exact .inr ⟨party, _, .answered asks answer allowed⟩

/-! ## Two parties -/

/-- The programs of two parties. -/
def both (first second : Program α) : Bool → Program α
  | false => first
  | true => second

section Two

variable {rules : Bool → Rules σ} {request : Request} {next : request.Answer → Program α}
  {one other : Program α} {state after : σ} {final : Joint Bool α σ}

theorem Interleaved.first (answer : request.Answer) (allowed : rules false request state answer after)
    (rest : Interleaved rules ⟨both (next answer) other, after⟩ final) :
    Interleaved rules ⟨both (.ask request next) other, state⟩ final := by
  have asks : both (.ask request next) other false = .ask request next := rfl
  have turn : Turn rules false ⟨both (.ask request next) other, state⟩
      ⟨Function.update (both (.ask request next) other) false (next answer), after⟩ :=
    .answered asks answer allowed
  have left : Function.update (both (.ask request next) other) false (next answer) =
      both (next answer) other := by
    funext party
    cases party <;> rfl
  exact .head ⟨false, left ▸ turn⟩ rest

theorem Interleaved.second (answer : request.Answer) (allowed : rules true request state answer after)
    (rest : Interleaved rules ⟨both one (next answer), after⟩ final) :
    Interleaved rules ⟨both one (.ask request next), state⟩ final := by
  have asks : both one (.ask request next) true = .ask request next := rfl
  have turn : Turn rules true ⟨both one (.ask request next), state⟩
      ⟨Function.update (both one (.ask request next)) true (next answer), after⟩ :=
    .answered asks answer allowed
  have left : Function.update (both one (.ask request next)) true (next answer) =
      both one (next answer) := by
    funext party
    cases party <;> rfl
  exact .head ⟨true, left ▸ turn⟩ rest

end Two

end RouteOverrides.Program
