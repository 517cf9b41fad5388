import RouteOverrides.Override.Handler
import RouteOverrides.Proofs.Program.Conduct
import RouteOverrides.Store.Memory

/-! # Passes without other writers

A pass runs one action after the other and keeps a tracker. When nobody else writes, an action of a
pass has one good end, and it fails only if the database does or if the program is told to stop.

* `MemoryStore.exact` — exact answers of the store, and calm surroundings or any others.
* `Program.Ends` — how an action ends: with a given value in a given store, unless it is disturbed.
* `Program.keeps_bind_of_ends`, `Pass.keeps_of_ends` — what comes next.
-/

namespace RouteOverrides

open Program

variable {α β : Type}

/-- Nobody else writes to the store, which answers exactly. In `calm` surroundings the database works
and no program is told to stop; otherwise this is open. -/
def MemoryStore.exact (calm : Bool) : Rules MemoryStore
  | .store call, store, reply, later =>
    reply = (store.answer call).1 ∧ later = (store.answer call).2
  | .log _, store, answer, later => (calm = true → answer = .ok ()) ∧ later = store
  | .record _ _, store, answer, later => (calm = true → answer = .ok ()) ∧ later = store
  | .report _, store, _, later => later = store
  | .latest _, store, _, later => later = store
  | .interrupted, store, stop, later => (calm = true → stop = false) ∧ later = store

namespace MemoryStore

/-- A request leaves the store as it is, whatever the answer. -/
def Quiet (calm : Bool) (request : Request) : Prop :=
  ∀ store answer later, exact calm request store answer later → later = store

variable {calm : Bool}

theorem quiet_get (ns name : String) : Quiet calm (.store (.get ns name)) :=
  fun store _ _ allowed => allowed.2.trans (answer_get_snd store ns name)

theorem quiet_list (ns : String) : Quiet calm (.store (.list ns)) :=
  fun _ _ _ allowed => allowed.2

theorem quiet_log (entry : Entry) : Quiet calm (.log entry) := fun _ _ _ allowed => allowed.2

theorem quiet_record (subset : String) (status : ResourceStatus) :
    Quiet calm (.record subset status) := fun _ _ _ allowed => allowed.2

theorem quiet_interrupted : Quiet calm .interrupted := fun _ _ _ allowed => allowed.2

end MemoryStore

namespace Program

open MemoryStore

variable {calm : Bool} {promise : Request → MemoryStore → Prop} {start later : MemoryStore}
  {value : α}

/-- An action ends with a value in a later store. It fails only in surroundings that are not calm, and
then has changed nothing. -/
def Ends (calm : Bool) (start : MemoryStore) (value : α) (later : MemoryStore) :
    Except Failure α → MemoryStore → Prop
  | .ok result, final => result = value ∧ final = later
  | .error _, final => calm = false ∧ final = start

theorem keeps_bind_of_ends {action : Action α} {next : α → Action β}
    {post : Except Failure β → MemoryStore → Prop}
    (ends : Keeps (exact calm) promise (Ends calm start value later) action.run start)
    (stopped : ∀ failure, calm = false → post (.error failure) start)
    (rest : Keeps (exact calm) promise post (next value).run later) :
    Keeps (exact calm) promise post (action >>= next).run start := by
  rw [keeps_run_bind]
  refine ends.mono fun result final ended => ?_
  cases result with
  | ok _ =>
    obtain ⟨rfl, rfl⟩ := ended
    exact rest
  | error failure =>
    obtain ⟨disturbed, rfl⟩ := ended
    exact stopped failure disturbed

theorem ends_blaming {action : Action α} {host operation : String}
    (ends : Keeps (exact calm) promise (Ends calm start value later) action.run start) :
    Keeps (exact calm) promise (Ends calm start value later)
      (Action.blaming host operation action).run start := by
  rw [Action.blaming, ExceptT.run_mk, keeps_bind]
  refine ends.mono fun result final ended => ?_
  cases result <;> exact ended

section Requests

variable {store : MemoryStore}

theorem ends_answer {answer : Except Failure Unit} (works : calm = true → answer = .ok ()) :
    Ends calm store () store answer store := by
  cases answer with
  | ok _ => exact ⟨rfl, rfl⟩
  | error failure =>
    have disturbed : calm = false := Bool.eq_false_iff.2 fun isCalm => by cases works isCalm
    exact ⟨disturbed, rfl⟩

theorem ends_log (entry : Entry) : Keeps (exact calm) (fun _ _ => True) (Ends calm store () store)
    (Action.log entry).run store := by
  refine ⟨trivial, fun answer after ⟨works, same⟩ => ?_⟩
  cases same
  exact ends_answer works

theorem ends_record (subset : String) (status : ResourceStatus) :
    Keeps (exact calm) (fun _ _ => True) (Ends calm store () store)
      (Action.record subset status).run store := by
  refine ⟨trivial, fun answer after ⟨works, same⟩ => ?_⟩
  cases same
  exact ends_answer works

theorem ends_checkInterrupted : Keeps (exact calm) (fun _ _ => True) (Ends calm store () store)
    Action.checkInterrupted.run store := by
  refine ⟨trivial, fun stop after ⟨quiet, same⟩ => ?_⟩
  cases same
  refine ends_answer fun isCalm => ?_
  rw [quiet isCalm]
  rfl

theorem ends_call {call : StoreCall} {reply : call.Reply}
    (answered : store.answer call = (.ok reply, later)) :
    Keeps (exact calm) (fun _ _ => True) (Ends calm store reply later) (Action.call call).run
      store := by
  refine ⟨trivial, ?_⟩
  rintro _ _ ⟨rfl, rfl⟩
  rw [answered]
  exact ⟨rfl, rfl⟩

end Requests

end Program

/-! ## The steps of a pass -/

namespace Pass

open MemoryStore

variable {σ : Type} {rules : Rules σ} {promise : Request → σ → Prop} {tracker : Tracker} {state : σ}

theorem keeps_bind {first : Pass α} {next : α → Pass β}
    {post : Except Failure β × Tracker → σ → Prop} :
    Keeps rules promise post ((first >>= next).outcome tracker) state ↔
      Keeps rules promise (fun ended after =>
        match ended with
        | (.ok value, noted) => Keeps rules promise post ((next value).outcome noted) after
        | (.error failure, noted) => post (.error failure, noted) after)
        (first.outcome tracker) state := by
  have cut : (first >>= next).outcome tracker = first.outcome tracker >>= fun ended =>
      match ended with
      | (.ok value, noted) => (next value).outcome noted
      | (.error failure, noted) => .done (.error failure, noted) := by
    change first.run.run tracker >>= _ = first.run.run tracker >>= _
    congr 1
    funext ⟨result, noted⟩
    cases result <;> rfl
  rw [cut, Program.keeps_bind]
  constructor
  · intro keeps
    refine keeps.mono ?_
    rintro ⟨_ | _, _⟩ _ kept <;> exact kept
  · intro keeps
    refine keeps.mono ?_
    rintro ⟨_ | _, _⟩ _ kept <;> exact kept

theorem keeps_ofAction {action : Action α} {post : Except Failure α × Tracker → σ → Prop} :
    Keeps rules promise post ((ofAction action).outcome tracker) state ↔
      Keeps rules promise (fun result after => post (result, tracker) after) action.run state := by
  change Keeps rules promise post (action.run >>= fun result => .done (result, tracker)) state ↔ _
  rw [Program.keeps_bind]
  rfl

theorem keeps_ofAction_bind {action : Action α} {next : α → Pass β}
    {post : Except Failure β × Tracker → σ → Prop} :
    Keeps rules promise post ((ofAction action >>= next).outcome tracker) state ↔
      Keeps rules promise (fun result after =>
        match result with
        | .ok value => Keeps rules promise post ((next value).outcome tracker) after
        | .error failure => post (.error failure, tracker) after)
        action.run state := by
  rw [keeps_bind, keeps_ofAction]
  constructor
  · intro keeps
    refine keeps.mono fun result after => ?_
    cases result <;> exact id
  · intro keeps
    refine keeps.mono fun result after => ?_
    cases result <;> exact id

theorem keeps_note_bind {change : Tracker → Tracker} {next : Unit → Pass β}
    {post : Except Failure β × Tracker → σ → Prop} :
    Keeps rules promise post ((note change >>= next).outcome tracker) state ↔
      Keeps rules promise post ((next ()).outcome (change tracker)) state := keeps_bind

theorem keeps_tracker_bind {next : Tracker → Pass β}
    {post : Except Failure β × Tracker → σ → Prop} :
    Keeps rules promise post ((Pass.tracker >>= next).outcome tracker) state ↔
      Keeps rules promise post ((next tracker).outcome tracker) state := keeps_bind

theorem keeps_of_ends {calm : Bool} {promise : Request → MemoryStore → Prop}
    {start later : MemoryStore} {value : α} {action : Action α} {next : α → Pass β}
    {post : Except Failure β × Tracker → MemoryStore → Prop}
    (ends : Keeps (exact calm) promise (Ends calm start value later) action.run start)
    (stopped : ∀ failure, calm = false → post (.error failure, tracker) start)
    (rest : Keeps (exact calm) promise post ((next value).outcome tracker) later) :
    Keeps (exact calm) promise post ((ofAction action >>= next).outcome tracker) start := by
  rw [keeps_bind, keeps_ofAction]
  refine ends.mono fun result final ended => ?_
  cases result with
  | ok _ =>
    obtain ⟨rfl, rfl⟩ := ended
    exact rest
  | error failure =>
    obtain ⟨disturbed, rfl⟩ := ended
    exact stopped failure disturbed

end Pass

end RouteOverrides
