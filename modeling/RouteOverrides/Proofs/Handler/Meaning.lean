import RouteOverrides.Proofs.Handler.Deployment
import RouteOverrides.Surroundings

/-! # The meaning of a pass

In calm surroundings, what a pass returns and what it leaves in the store are functions of the store
and the tracker that it started with.

* `Handler.Meaning` — the outcome of a pass and the store after it, field by field.
* `Surroundings.quiet` — a store in memory, both tables, no disturbance, and no signal to stop.
* `Handler.meaning_handle` — a pass that is run there has this meaning.
-/

namespace RouteOverrides

open Program MemoryStore

namespace Handler

variable {handler : Handler} {store final : MemoryStore} {tracker noted : Tracker}
  {outcome : Except Failure PassResult}

/-- What a pass returns and what it leaves in the store, told from the store and the tracker before
the pass. -/
structure Meaning (handler : Handler) (store : MemoryStore) (tracker : Tracker)
    (outcome : Except Failure PassResult) (final : MemoryStore) : Prop where
  /-- The pass returns exactly if some host is available. -/
  returns_iff : (∃ result, outcome = .ok result) ↔
    ∃ host ∈ handler.hosts, handler.available store host = true
  /-- Otherwise it fails, and the store is as it was. -/
  fails : ∀ failure, outcome = .error failure →
    failure = .noActiveHost handler.uniqueName
      (tracker.ignored ++ handler.newlyIgnored store tracker handler.hosts) ∧
    final = store
  /-- The available hosts are active, in their order and with repetitions. -/
  active : ∀ result, outcome = .ok result →
    result.active = handler.hosts.filter (handler.available store)
  /-- The hosts that were ignored before come first, then the other hosts as they are met; active
  hosts are left out. -/
  ignored : ∀ result, outcome = .ok result →
    result.ignored = (tracker.ignored ++ handler.newlyIgnored store tracker handler.hosts).filter
      fun host => !result.active.contains host
  ignored_nodup : tracker.ignored.Nodup → ∀ result, outcome = .ok result → result.ignored.Nodup
  /-- The objects of the store stay as they are and where they are, and the overrides that were
  missing follow, each with the number of its write. -/
  deployed : ∀ result, outcome = .ok result →
    final = ⟨store.objects ++ numbered store.writes (handler.created store handler.hosts),
      store.writes + (handler.created store handler.hosts).length⟩

theorem active_trackerSeen (handler : Handler) (store : MemoryStore) (tracker : Tracker) :
    (handler.trackerSeen store tracker).active = handler.hosts.filter (handler.available store) :=
  (active_trackerAfterAll handler store tracker.beginPass handler.hosts).trans (List.nil_append _)

theorem ignored_trackerSeen (handler : Handler) (store : MemoryStore) (tracker : Tracker) :
    (handler.trackerSeen store tracker).ignored =
      tracker.ignored ++ handler.newlyIgnored store tracker handler.hosts :=
  ignored_trackerAfterAll handler store tracker.beginPass handler.hosts

theorem nodup_ignored_trackerAfterAll {hosts : List String} (nodup : tracker.ignored.Nodup) :
    (handler.trackerAfterAll store tracker hosts).ignored.Nodup := by
  induction hosts generalizing store tracker with
  | nil => exact nodup
  | cons host rest inductionHypothesis =>
    rw [trackerAfterAll, trackerAfter]
    split
    · exact inductionHypothesis nodup
    · exact inductionHypothesis (Tracker.ignored_nodup_markIgnored nodup host)

theorem created_eq_nil {hosts : List String} (none : hosts.filter (handler.available store) = []) :
    handler.created store hosts = [] := by
  have nothing : hosts.filter (handler.deploys store) = [] := by
    rw [List.filter_eq_nil_iff] at none ⊢
    intro host member deploys
    exact none host member (Bool.and_eq_true_iff.1 deploys).2
  rw [created, toCreate, nothing, List.eraseDups_nil, List.filterMap_nil]

theorem meaning_of_handled (handled : handler.Handled true store tracker (outcome, noted) final) :
    handler.Meaning store tracker outcome final := by
  have active := active_trackerSeen handler store tracker
  have ignored := ignored_trackerSeen handler store tracker
  cases outcome with
  | ok result =>
    obtain ⟨somebody, rfl, rfl⟩ := handled
    rw [active] at somebody
    refine ⟨⟨fun _ => ?_, fun _ => ⟨_, rfl⟩⟩, ?_, ?_, ?_, ?_, ?_⟩
    · obtain ⟨host, member⟩ := List.exists_mem_of_ne_nil _ somebody
      exact ⟨host, List.mem_filter.1 member⟩
    · rintro _ ⟨⟩
    · rintro _ ⟨⟩
      exact active
    · rintro _ ⟨⟩
      rw [Tracker.result, ignored]
    · rintro nodup _ ⟨⟩
      have distinct : (handler.trackerSeen store tracker).ignored.Nodup :=
        nodup_ignored_trackerAfterAll nodup
      exact distinct.filter _
    · rintro _ ⟨⟩
      exact storeAfterAll_eq handler store handler.hosts
  | error failure =>
    obtain impossible | ⟨nobody, rfl, rfl⟩ := handled
    · cases impossible
    rw [active] at nobody
    refine ⟨⟨?_, ?_⟩, ?_, ?_, ?_, ?_, ?_⟩
    · rintro ⟨_, ⟨⟩⟩
    · rintro ⟨host, member, available⟩
      exact absurd available (List.filter_eq_nil_iff.1 nobody host member)
    · rintro _ ⟨⟩
      rw [ignored, storeAfterAll_eq, created_eq_nil nobody]
      simp [numbered]
    · rintro _ ⟨⟩
    · rintro _ ⟨⟩
    · rintro _ _ ⟨⟩
    · rintro _ ⟨⟩

end Handler

/-! ## Calm surroundings -/

namespace Surroundings

/-- A store in memory and both tables, no disturbance, and no signal to stop. -/
def quiet (store : MemoryStore) (journal : Journal) (statuses : StatusTable) : Surroundings :=
  ⟨.memory store [], ⟨some journal, some statuses⟩, false⟩

/-- Only the releases of disturbances depend on the depth. -/
theorem exists_answerWith (depth : Nat) (listens : Bool) :
    ∃ releaser, answerAt depth listens = answerWith releaser listens := by
  cases depth <;> exact ⟨_, rfl⟩

/-- Quiet surroundings answer as they should, and stay quiet. -/
theorem exact_answerAt (depth : Nat) (listens : Bool) (request : Request) (store : MemoryStore)
    (journal : Journal) (statuses : StatusTable) :
    ∃ later, exact true request store
        (answerAt depth listens request (quiet store journal statuses)).1 later ∧
      ∃ journal' statuses', (answerAt depth listens request (quiet store journal statuses)).2 =
        quiet later journal' statuses' := by
  obtain ⟨releaser, answered⟩ := exists_answerWith depth listens
  rw [answered]
  cases request with
  | store call =>
    have undisturbed : (quiet store journal statuses).disturbances = [] := rfl
    rw [answerWith, callDisturbed_of_undisturbed undisturbed]
    exact ⟨_, ⟨rfl, rfl⟩, journal, statuses, rfl⟩
  | log entry => exact ⟨_, ⟨fun _ => rfl, rfl⟩, _, _, rfl⟩
  | record subset status => exact ⟨_, ⟨fun _ => rfl, rfl⟩, _, _, rfl⟩
  | report subset => exact ⟨_, rfl, _, _, rfl⟩
  | latest limit => exact ⟨_, rfl, _, _, rfl⟩
  | interrupted => exact ⟨_, ⟨fun _ => Bool.and_false listens, rfl⟩, _, _, rfl⟩

/-- A program that is run in quiet surroundings leaves them quiet, and what holds of it under exact
answers holds of its run. -/
theorem runProgram_quiet {α : Type} {promise : Request → MemoryStore → Prop}
    {post : α → MemoryStore → Prop} {program : Program α} {store : MemoryStore}
    (keeps : Keeps (exact true) promise post program store) (journal : Journal)
    (statuses : StatusTable) (listens : Bool) :
    ∃ final journal' statuses',
      ((quiet store journal statuses).runProgram listens program).2 =
        quiet final journal' statuses' ∧
      post ((quiet store journal statuses).runProgram listens program).1 final := by
  have obeys : ∀ request surroundings store,
      (∃ journal statuses, surroundings = quiet store journal statuses) →
      ∃ later, exact true request store (answerAt maxNesting listens request surroundings).1 later ∧
        ∃ journal statuses, (answerAt maxNesting listens request surroundings).2 =
          quiet later journal statuses := by
    rintro request _ store ⟨journal, statuses, rfl⟩
    exact exact_answerAt _ listens request store journal statuses
  obtain ⟨final, ended, journal', statuses', ends⟩ := keeps.post_run obeys ⟨journal, statuses, rfl⟩
  exact ⟨final, journal', statuses', ends, ended⟩

theorem post_runProgram_quiet {α : Type} {promise : Request → MemoryStore → Prop}
    {post : α → MemoryStore → Prop} {program : Program α} {store : MemoryStore}
    (keeps : Keeps (exact true) promise post program store) (journal : Journal)
    (statuses : StatusTable) (listens : Bool) :
    ∃ final, ((quiet store journal statuses).runProgram listens program).2.store? = some final ∧
      post ((quiet store journal statuses).runProgram listens program).1 final := by
  obtain ⟨final, journal', statuses', ends, ended⟩ :=
    runProgram_quiet keeps journal statuses listens
  exact ⟨final, congrArg store? ends, ended⟩

end Surroundings

/-- A pass of any handler, run in quiet surroundings with any objects in the store and with any
tracker, ends as its meaning says. -/
theorem Handler.meaning_handle (handler : Handler) (store : MemoryStore) (tracker : Tracker)
    (journal : Journal) (statuses : StatusTable) (listens : Bool) :
    ∃ final, ((Surroundings.quiet store journal statuses).runProgram listens
        (handler.handle.outcome tracker)).2.store? = some final ∧
      handler.Meaning store tracker ((Surroundings.quiet store journal statuses).runProgram listens
        (handler.handle.outcome tracker)).1.1 final := by
  have obeys : ∀ request surroundings store,
      (∃ journal statuses, surroundings = Surroundings.quiet store journal statuses) →
      ∃ later, exact true request store
          (Surroundings.answerAt Surroundings.maxNesting listens request surroundings).1 later ∧
        ∃ journal statuses, (Surroundings.answerAt Surroundings.maxNesting listens request
          surroundings).2 = Surroundings.quiet later journal statuses := by
    rintro request _ store ⟨journal, statuses, rfl⟩
    exact Surroundings.exact_answerAt _ listens request store journal statuses
  obtain ⟨final, handled, journal', statuses', ends⟩ :=
    (handler.keeps_handle store tracker).post_run obeys ⟨journal, statuses, rfl⟩
  exact ⟨final, congrArg Surroundings.store? ends, Handler.meaning_of_handled handled⟩

end RouteOverrides
