import RouteOverrides.Proofs.Handler.Meaning
import RouteOverrides.Proofs.Release.Retry

/-! # Passes that are tried again

A pass that is broken off leaves behind what it has done: overrides that it created, perhaps one whose
creation was reported as a failure, and hosts that it noted as ignored. The next pass visits the hosts
in the same order and finds all this settled. So it comes to the end to which an undisturbed pass would
have come.

* `Handler.Settled` — nothing is left to do for a host.
* `Handler.Tried` — what a visit leaves behind, wherever it is broken off.
* `Handler.SameEnd` — two states from which a pass comes to the same end; `SameEnd.of_tried` for a
  visit whose predecessors are settled.
* `Handler.handle_after_attempts` — a pass after any number of attempts, and one without them.
-/

namespace RouteOverrides

open Program MemoryStore

variable {α β : Type} {late : Bool}

/-! ## Actions that leave the store alone -/

namespace Program

/-- An action leaves the store alone, and what it gives, if anything, is good. -/
def Stays (start : MemoryStore) (good : α → Prop) : Except Failure α → MemoryStore → Prop
  | .ok value, final => good value ∧ final = start
  | .error _, final => final = start

variable {start store : MemoryStore} {good : α → Prop}

theorem stays_blaming {action : Action α} {host operation : String}
    (stays : Keeps (faulty late) (fun _ _ => True) (Stays start good) action.run start) :
    Keeps (faulty late) (fun _ _ => True) (Stays start good)
      (Action.blaming host operation action).run start := by
  refine keeps_blaming.2 (stays.mono fun result final stayed => ?_)
  cases result <;> exact stayed

theorem stays_log (entry : Entry) : Keeps (faulty late) (fun _ _ => True)
    (Stays store fun _ => True) (Action.log entry).run store := by
  refine ⟨trivial, fun answer after same => ?_⟩
  cases answer with
  | ok _ => exact ⟨trivial, same⟩
  | error _ => exact same

theorem stays_record (subset : String) (status : ResourceStatus) : Keeps (faulty late)
    (fun _ _ => True) (Stays store fun _ => True) (Action.record subset status).run store := by
  refine ⟨trivial, fun answer after same => ?_⟩
  cases answer with
  | ok _ => exact ⟨trivial, same⟩
  | error _ => exact same

theorem stays_checkInterrupted : Keeps (faulty late) (fun _ _ => True)
    (Stays store fun _ => True) Action.checkInterrupted.run store := by
  refine ⟨trivial, fun stop after same => ?_⟩
  cases stop with
  | false => exact ⟨trivial, same⟩
  | true => exact same

theorem keeps_bind_of_stays {action : Action α} {next : α → Action β}
    {post : Except Failure β → MemoryStore → Prop}
    (stays : Keeps (faulty late) (fun _ _ => True) (Stays start good) action.run start)
    (stopped : ∀ failure, post (.error failure) start)
    (rest : ∀ value, good value →
      Keeps (faulty late) (fun _ _ => True) post (next value).run start) :
    Keeps (faulty late) (fun _ _ => True) post (action >>= next).run start := by
  rw [keeps_run_bind]
  refine stays.mono fun result final stayed => ?_
  cases result with
  | ok value =>
    obtain ⟨isGood, rfl⟩ := stayed
    exact rest value isGood
  | error failure =>
    cases stayed
    exact stopped failure

end Program

theorem Pass.keeps_of_stays {start : MemoryStore} {good : α → Prop} {tracker : Tracker}
    {action : Action α} {next : α → Pass β} {post : Except Failure β × Tracker → MemoryStore → Prop}
    (stays : Keeps (faulty late) (fun _ _ => True) (Stays start good) action.run start)
    (stopped : ∀ failure, post (.error failure, tracker) start)
    (rest : ∀ value, good value →
      Keeps (faulty late) (fun _ _ => True) post ((next value).outcome tracker) start) :
    Keeps (faulty late) (fun _ _ => True) post ((ofAction action >>= next).outcome tracker)
      start := by
  refine Pass.keeps_ofAction_bind.2 (stays.mono fun result final stayed => ?_)
  cases result with
  | ok value =>
    obtain ⟨isGood, rfl⟩ := stayed
    exact rest value isGood
  | error failure =>
    cases stayed
    exact stopped failure

namespace Handler

variable {handler : Handler} {store start middle final later : MemoryStore} {host : String}
  {tracker noted : Tracker} {before rest : List String}

/-! ## Visits that may be broken off -/

/-- Nothing is left to do for a host: its override is there or cannot be created, and if it cannot
become active, it is noted as ignored. -/
structure Settled (handler : Handler) (store : MemoryStore) (tracker : Tracker) (host : String) :
    Prop where
  written : handler.holds store host = true ∨ handler.baseline? store host = none
  noted : handler.available store host = true ∨ tracker.isIgnored host = true

/-- What a visit leaves behind, wherever it is broken off. A visit that goes through settles the
host. -/
structure Tried (handler : Handler) (store : MemoryStore) (tracker : Tracker) (host : String)
    (result : Except Failure Unit) (noted : Tracker) (final : MemoryStore) : Prop where
  written : final = store ∨ final = handler.storeAfter store host
  ignored : noted.ignored = tracker.ignored ∨
    noted.ignored = (tracker.markIgnored host).2.ignored
  settled : result = .ok () → handler.Settled final noted host

/-- A visit that fails before it has done anything. -/
theorem tried_of_error (failure : Failure) :
    handler.Tried store tracker host (.error failure) tracker store :=
  ⟨.inl rfl, .inl rfl, nofun⟩

theorem isIgnored_markIgnored (tracker : Tracker) (host : String) :
    (tracker.markIgnored host).2.isIgnored host = true := by
  rw [Tracker.markIgnored]
  split
  · assumption
  · simp [Tracker.isIgnored]

/-- A failure to read may be false, but what is read is there. -/
theorem stays_present (handler : Handler) (store : MemoryStore) (host : String) :
    Keeps (faulty late) (fun _ _ => True)
      (Stays store fun present => present = true → handler.holds store host = true)
      (handler.present host).run store := by
  refine keeps_bind_of_stays stays_checkInterrupted (fun _ => rfl) fun _ _ => ?_
  rw [keeps_attempt]
  refine ⟨trivial, fun reply after replied => ?_⟩
  have same : after = store := by
    rcases replied with ⟨-, same⟩ | ⟨_, -, same | ⟨-, same⟩⟩
    · rw [same, answer_get_snd]
    · exact same
    · rw [same, answer_get_snd]
  cases reply with
  | ok object =>
    refine ⟨fun _ => ?_, same⟩
    rcases replied with ⟨read, -⟩ | ⟨_, impossible, -⟩
    · rw [holds, find?_of_answer_get read.symm, Option.isSome_some]
    · cases impossible
  | error failure =>
    cases failure with
    | notFound _ => exact ⟨fun impossible => absurd impossible Bool.false_ne_true, same⟩
    | _ => exact same

theorem stays_list (ns : String) : Keeps (faulty late) (fun _ _ => True)
    (Stays store fun objects => objects = store.inNamespace ns)
    (Action.call (.list ns)).run store := by
  refine ⟨trivial, fun reply after replied => ?_⟩
  rw [faulty, answer_list] at replied
  rcases replied with ⟨rfl, same⟩ | ⟨_, rfl, same | ⟨-, same⟩⟩
  · exact ⟨rfl, same⟩
  · exact same
  · exact same

theorem stays_generate (handler : Handler) (store : MemoryStore) (host : String) :
    Keeps (faulty late) (fun _ _ => True)
      (Stays store fun found =>
        found = (handler.baseline? store host).map (handler.template.object host))
      (handler.template.generate host).run store := by
  have located : Keeps (faulty late) (fun _ _ => True)
      (Stays store fun found => found = handler.baseline? store host)
      (handler.lookup.locate host).run store := by
    refine keeps_bind_of_stays stays_checkInterrupted (fun _ => rfl) fun _ _ => ?_
    refine keeps_bind_of_stays (stays_blaming (stays_list _)) (fun _ => rfl) ?_
    rintro _ rfl
    rw [baseline?]
    dsimp only [lookup]
    split
    · rename_i found
      exact ⟨found.symm, rfl⟩
    · rename_i missing
      exact keeps_bind_of_stays (stays_log _) (fun _ => rfl) fun _ _ => ⟨missing.symm, rfl⟩
  refine keeps_bind_of_stays located (fun _ => rfl) ?_
  rintro _ rfl
  exact ⟨rfl, rfl⟩

theorem answer_create_override {baseline : RoutingObject}
    (located : handler.baseline? store host = some baseline) :
    (store.answer (.create (handler.overrideFrom host baseline))).2 =
      handler.storeAfter store host := by
  cases held : handler.holds store host with
  | true =>
    obtain ⟨object, found⟩ := Option.isSome_iff_exists.1 held
    have there : store.find? (handler.overrideFrom host baseline).ns
        (handler.overrideFrom host baseline).name = some object := found
    rw [storeAfter_of_holds held, MemoryStore.answer, there]
  | false =>
    rw [storeAfter_of_baseline held located, answer_create (holds_eq_false_iff.1 held)]

theorem written_storeAfter (handler : Handler) (store : MemoryStore) (host : String) :
    handler.holds (handler.storeAfter store host) host = true ∨
      handler.baseline? (handler.storeAfter store host) host = none := by
  obtain ⟨same, settled⟩ | ⟨baseline, created, missing, -⟩ := storeAfter_cases handler store host
  · rw [same]
    exact settled
  · rw [created, holds_put_override missing, beq_self_eq_true, Bool.or_true]
    exact .inl rfl

theorem settled_storeAfter_of_available (available : handler.available store host = true)
    (noted : Tracker) : handler.Settled (handler.storeAfter store host) noted host :=
  ⟨written_storeAfter handler store host, .inl (by rw [available_storeAfter, available])⟩

theorem keeps_createMissing_faulty (handler : Handler) (store : MemoryStore) (tracker : Tracker)
    (host : String) : Keeps (faulty late) (fun _ _ => True)
      (fun ended final => handler.Tried store tracker host ended.1 ended.2 final)
      ((handler.createMissing host).outcome tracker) store := by
  refine Pass.keeps_of_stays (stays_blaming (stays_record _ _)) tried_of_error fun _ _ => ?_
  refine Pass.keeps_of_stays (stays_generate handler store host) tried_of_error ?_
  rintro _ rfl
  cases located : handler.baseline? store host with
  | none =>
    have ignored : (tracker.markIgnored host).2.isIgnored host = true :=
      isIgnored_markIgnored tracker host
    dsimp only [Option.map_none]
    rw [Pass.keeps_tracker_bind, Pass.keeps_note_bind]
    split
    · rw [Pass.keeps_ofAction]
      refine (stays_log _).mono fun result final stayed => ?_
      cases result with
      | ok _ =>
        cases stayed.2
        exact ⟨.inl rfl, .inr rfl, fun _ => ⟨.inr located, .inr ignored⟩⟩
      | error failure =>
        cases stayed
        refine ⟨.inl rfl, .inr rfl, ?_⟩
        rintro ⟨⟩
    · exact ⟨.inl rfl, .inr rfl, fun _ => ⟨.inr located, .inr ignored⟩⟩
  | some baseline =>
    have available : handler.available store host = true := by
      rw [available_eq, located, Option.isSome_some, Bool.or_true]
    have created := answer_create_override located
    dsimp only [Option.map_some]
    refine Pass.keeps_of_stays (stays_log _) tried_of_error fun _ _ => ?_
    refine Pass.keeps_of_stays stays_checkInterrupted tried_of_error fun _ _ => ?_
    rw [addOwner_template]
    refine Pass.keeps_ofAction_bind.2 (keeps_blaming.2 ⟨trivial, fun reply after replied => ?_⟩)
    rw [faulty, created] at replied
    cases reply with
    | ok _ =>
      rcases replied with ⟨-, rfl⟩ | ⟨_, impossible, -⟩
      · exact ⟨.inr rfl, .inl rfl, fun _ => settled_storeAfter_of_available available _⟩
      · cases impossible
    | error failure =>
      -- The creation may have been carried out all the same.
      have written : after = store ∨ after = handler.storeAfter store host := by
        rcases replied with ⟨-, rfl⟩ | ⟨_, -, rfl | ⟨-, rfl⟩⟩
        · exact .inr rfl
        · exact .inl rfl
        · exact .inr rfl
      refine ⟨written, .inl rfl, ?_⟩
      rintro ⟨⟩

theorem keeps_visit_faulty (handler : Handler) (store : MemoryStore) (tracker : Tracker)
    (host : String) : Keeps (faulty late) (fun _ _ => True)
      (fun ended final => handler.Tried store tracker host ended.1 ended.2 final)
      ((handler.visit host).outcome tracker) store := by
  refine Pass.keeps_of_stays (stays_present handler store host) tried_of_error fun present read => ?_
  cases present with
  | true =>
    have held := read rfl
    exact ⟨.inl rfl, .inl rfl, fun _ => ⟨.inl held, .inl (available_of_holds held)⟩⟩
  | false => exact keeps_createMissing_faulty handler store tracker host

/-! ## The end that a pass comes to -/

/-- The ignored hosts that a pass will report: those noted so far and those that are met, without the
active ones. -/
def reported (handler : Handler) (store : MemoryStore) (tracker : Tracker) : List String :=
  (tracker.ignored ++ handler.newlyIgnored store tracker handler.hosts).filter fun host =>
    !(handler.hosts.filter (handler.available store)).contains host

/-- An undisturbed pass comes to the same end from both states. -/
structure SameEnd (handler : Handler) (store : MemoryStore) (tracker : Tracker)
    (later : MemoryStore) (noted : Tracker) : Prop where
  available : handler.available later = handler.available store
  ignored : handler.reported later noted = handler.reported store tracker
  deployed : handler.storeAfterAll later handler.hosts = handler.storeAfterAll store handler.hosts

theorem SameEnd.refl (handler : Handler) (store : MemoryStore) (tracker : Tracker) :
    handler.SameEnd store tracker store tracker := ⟨rfl, rfl, rfl⟩

theorem SameEnd.trans {between : Tracker} (first : handler.SameEnd store tracker middle between)
    (second : handler.SameEnd middle between final noted) :
    handler.SameEnd store tracker final noted :=
  ⟨second.available.trans first.available, second.ignored.trans first.ignored,
    second.deployed.trans first.deployed⟩

/-! ### Hosts that are settled -/

theorem storeAfterAll_append_of_settled
    (settled : ∀ other ∈ before, handler.Settled store tracker other) :
    handler.storeAfterAll store (before ++ rest) = handler.storeAfterAll store rest := by
  induction before with
  | nil => rfl
  | cons first before inductionHypothesis =>
    have alone : handler.storeAfter store first = store := by
      rcases (settled first List.mem_cons_self).written with held | missing
      · exact storeAfter_of_holds held
      · exact storeAfter_of_no_baseline missing
    rw [List.cons_append, storeAfterAll, List.foldl_cons, alone]
    exact inductionHypothesis fun other member => settled other (List.mem_cons_of_mem _ member)

theorem newlyIgnored_append_of_settled
    (settled : ∀ other ∈ before, handler.Settled store tracker other) :
    handler.newlyIgnored store tracker (before ++ rest) =
      handler.newlyIgnored store tracker rest := by
  have nothing : before.filter (handler.ignoresAnew store tracker) = [] := by
    rw [List.filter_eq_nil_iff]
    intro other member
    rw [ignoresAnew]
    rcases (settled other member).noted with available | ignored
    · simp [available]
    · simp [ignored]
  rw [newlyIgnored, List.filter_append, nothing, List.nil_append, newlyIgnored]

theorem newlyIgnored_congr (available : handler.available later = handler.available store)
    (ignored : noted.ignored = tracker.ignored) (hosts : List String) :
    handler.newlyIgnored later noted hosts = handler.newlyIgnored store tracker hosts := by
  have same : handler.ignoresAnew later noted = handler.ignoresAnew store tracker := by
    funext other
    rw [ignoresAnew, ignoresAnew, available, Tracker.isIgnored, Tracker.isIgnored, ignored]
  rw [newlyIgnored, same, newlyIgnored]

theorem storeAfter_storeAfter (handler : Handler) (store : MemoryStore) (host : String) :
    handler.storeAfter (handler.storeAfter store host) host = handler.storeAfter store host := by
  rcases written_storeAfter handler store host with held | missing
  · exact storeAfter_of_holds held
  · exact storeAfter_of_no_baseline missing

theorem Settled.storeAfter {other : String} (settled : handler.Settled store tracker other) :
    handler.Settled (handler.storeAfter store host) tracker other := by
  refine ⟨?_, by rw [available_storeAfter]; exact settled.noted⟩
  rcases settled.written with held | missing
  · obtain ⟨same, -⟩ | ⟨baseline, created, vacant, -⟩ := storeAfter_cases handler store host
    · rw [same]
      exact .inl held
    · rw [created, holds_put_override vacant, held, Bool.true_or]
      exact .inl rfl
  · exact .inr (by rw [baseline?_storeAfter, missing])

theorem Settled.of_ignored {other : String} (settled : handler.Settled store tracker other)
    (kept : ∀ host ∈ tracker.ignored, host ∈ noted.ignored) :
    handler.Settled store noted other := by
  refine ⟨settled.written, settled.noted.imp_right fun ignored => ?_⟩
  rw [Tracker.isIgnored, List.contains_iff_mem] at ignored ⊢
  exact kept other ignored

/-! ### One visit -/

namespace Tried

variable {result : Except Failure Unit}

theorem available (tried : handler.Tried store tracker host result noted final) :
    handler.available final = handler.available store := by
  rcases tried.written with rfl | rfl
  · rfl
  · exact funext (available_storeAfter handler store host)

theorem mem_ignored (tried : handler.Tried store tracker host result noted final) :
    ∀ other ∈ tracker.ignored, other ∈ noted.ignored := by
  intro other member
  rcases tried.ignored with same | same
  · rwa [same]
  · rw [same, Tracker.markIgnored]
    split
    · exact member
    · exact List.mem_append_left _ member

/-- What was settled before a visit is settled after it. -/
theorem settled_of_settled {other : String}
    (tried : handler.Tried store tracker host result noted final)
    (settled : handler.Settled store tracker other) : handler.Settled final noted other := by
  have settledThere : handler.Settled final tracker other := by
    rcases tried.written with rfl | rfl
    · exact settled
    · exact settled.storeAfter
  exact settledThere.of_ignored tried.mem_ignored

theorem deployed (tried : handler.Tried store tracker host result noted final)
    (split : handler.hosts = before ++ host :: rest)
    (settled : ∀ other ∈ before, handler.Settled store tracker other) :
    handler.storeAfterAll final handler.hosts = handler.storeAfterAll store handler.hosts := by
  rcases tried.written with rfl | rfl
  · rfl
  · have settledLater : ∀ other ∈ before,
        handler.Settled (handler.storeAfter store host) tracker other :=
      fun other member => (settled other member).storeAfter
    rw [split, storeAfterAll_append_of_settled settled, storeAfterAll_append_of_settled settledLater,
      storeAfterAll, List.foldl_cons, storeAfter_storeAfter, storeAfterAll, List.foldl_cons]

theorem reported (tried : handler.Tried store tracker host result noted final)
    (split : handler.hosts = before ++ host :: rest)
    (settled : ∀ other ∈ before, handler.Settled store tracker other) :
    handler.reported final noted = handler.reported store tracker := by
  rw [Handler.reported, Handler.reported, tried.available]
  rcases tried.ignored with same | marked
  · rw [newlyIgnored_congr tried.available same, same]
  rw [newlyIgnored_congr tried.available marked, marked]
  cases old : tracker.isIgnored host with
  | true => rw [Tracker.markIgnored_of_ignored old]
  | false =>
    rw [Tracker.ignored_markIgnored_of_new old]
    cases available : handler.available store host with
    | true =>
      -- The host is ignored by mistake, since its override could not be read. It will be active.
      have active : host ∈ handler.hosts.filter (handler.available store) := by
        rw [List.mem_filter, split]
        exact ⟨List.mem_append_right _ List.mem_cons_self, available⟩
      have same : handler.ignoresAnew store (tracker.markIgnored host).2 =
          handler.ignoresAnew store tracker := by
        funext other
        rw [ignoresAnew, ignoresAnew, Tracker.isIgnored, Tracker.isIgnored,
          Tracker.ignored_markIgnored_of_new old]
        by_cases here : other = host
        · simp [here, available]
        · simp [here]
      rw [newlyIgnored, same, ← newlyIgnored, List.filter_append, List.filter_append,
        List.filter_append]
      have dropped : [host].filter (fun host =>
          !(handler.hosts.filter (handler.available store)).contains host) = [] := by
        rw [List.filter_eq_nil_iff]
        simp_all
      rw [dropped, List.append_nil]
    | false =>
      -- The hosts before it are settled, so it comes next among those that are ignored anew.
      have settledLater : ∀ other ∈ before,
          handler.Settled store (tracker.markIgnored host).2 other :=
        fun other member => (settled other member).of_ignored fun _ ignored => by
          rw [Tracker.ignored_markIgnored_of_new old]
          exact List.mem_append_left _ ignored
      have noted : handler.ignoresAnew store (tracker.markIgnored host).2 host = false := by
        rw [ignoresAnew, isIgnored_markIgnored, Bool.not_true, Bool.and_false]
      rw [split, newlyIgnored_append_of_settled settled, newlyIgnored_append_of_settled settledLater,
        newlyIgnored_cons_of_new available old, newlyIgnored_cons_of_old noted, List.append_assoc,
        List.singleton_append]

theorem sameEnd (tried : handler.Tried store tracker host result noted final)
    (split : handler.hosts = before ++ host :: rest)
    (settled : ∀ other ∈ before, handler.Settled store tracker other) :
    handler.SameEnd store tracker final noted :=
  ⟨tried.available, tried.reported split settled, tried.deployed split settled⟩

end Tried

/-! ### A pass -/

theorem keeps_visitAll_faulty (split : handler.hosts = before ++ rest)
    (settled : ∀ other ∈ before, handler.Settled store tracker other) :
    Keeps (faulty late) (fun _ _ => True)
      (fun ended final => handler.SameEnd store tracker final ended.2)
      ((handler.visitAll rest).outcome tracker) store := by
  -- On the hosts that are left; those before them are settled as long as no visit fails.
  induction rest generalizing before store tracker with
  | nil => exact .refl handler store tracker
  | cons host rest inductionHypothesis =>
    rw [visitAll, Pass.keeps_bind]
    refine (keeps_visit_faulty handler store tracker host).mono fun ended middle tried => ?_
    obtain ⟨result, noted⟩ := ended
    have same := tried.sameEnd split settled
    cases result with
    | error failure => exact same
    | ok _ =>
      have settledNow : ∀ other ∈ before ++ [host], handler.Settled middle noted other := by
        intro other member
        rcases List.mem_append.1 member with earlier | here
        · exact tried.settled_of_settled (settled other earlier)
        · cases List.mem_singleton.1 here
          exact tried.settled rfl
      have splitNow : handler.hosts = before ++ [host] ++ rest := by
        rw [split, List.append_assoc, List.singleton_append]
      exact (inductionHypothesis splitNow settledNow).mono fun _ _ next => same.trans next

theorem keeps_handle_faulty (handler : Handler) (store : MemoryStore) (tracker : Tracker) :
    Keeps (faulty late) (fun _ _ => True)
      (fun ended final => handler.SameEnd store tracker final ended.2)
      (handler.handle.outcome tracker) store := by
  rw [handle, Pass.keeps_note_bind, Pass.keeps_bind]
  have begun : handler.SameEnd store tracker store tracker.beginPass := ⟨rfl, rfl, rfl⟩
  have nobody : ∀ other ∈ ([] : List String), handler.Settled store tracker.beginPass other :=
    List.forall_mem_nil _
  refine (keeps_visitAll_faulty rfl nobody).mono fun ended after visited => ?_
  obtain ⟨result, noted⟩ := ended
  have same := begun.trans visited
  cases result with
  | error failure => exact same
  | ok _ =>
    dsimp only
    rw [Pass.keeps_tracker_bind]
    split
    · exact Pass.keeps_of_stays (stays_log _) (fun _ => same) fun _ _ => same
    · exact same

/-! ## Attempts -/

/-- The outcome of an undisturbed pass. -/
def undisturbed (handler : Handler) (store : MemoryStore) (tracker : Tracker) :
    Except Failure PassResult :=
  if handler.hosts.filter (handler.available store) = [] then
    .error (.noActiveHost handler.uniqueName (handler.reported store tracker))
  else .ok ⟨handler.hosts.filter (handler.available store), handler.reported store tracker⟩

theorem undisturbed_congr (same : handler.available later = handler.available store) :
    handler.undisturbed later tracker = handler.undisturbed store tracker := by
  rw [undisturbed, undisturbed, reported, reported, newlyIgnored_congr same rfl, same]

theorem undisturbed_of_handled {outcome : Except Failure PassResult}
    (handled : handler.Handled true store tracker (outcome, noted) final) :
    outcome = handler.undisturbed store tracker ∧
      final = handler.storeAfterAll store handler.hosts := by
  have active := active_trackerSeen handler store tracker
  have ignored := ignored_trackerSeen handler store tracker
  cases outcome with
  | ok result =>
    obtain ⟨somebody, rfl, written⟩ := handled
    rw [active] at somebody
    refine ⟨?_, written⟩
    rw [undisturbed, if_neg somebody, Tracker.result, active, ignored, reported]
  | error failure =>
    obtain impossible | ⟨nobody, rfl, written⟩ := handled
    · cases impossible
    rw [active] at nobody
    refine ⟨?_, written⟩
    rw [undisturbed, if_pos nobody, ignored, reported, nobody]
    simp

theorem SameEnd.undisturbed (same : handler.SameEnd store tracker later noted) :
    handler.undisturbed later noted = handler.undisturbed store tracker := by
  rw [Handler.undisturbed, same.available, same.ignored, Handler.undisturbed]

/-- One attempt at a pass, from the store and the tracker before it to those after it. Nobody else
writes; store calls may fail, also after they were carried out, and the program may be told to stop at
any point. The attempt may end in any way. -/
def Attempted (handler : Handler) (before after : MemoryStore × Tracker) : Prop :=
  ∃ outcome, Reaches (faulty true) (handler.handle.outcome before.2) before.1
    (.done (outcome, after.2)) after.1

theorem sameEnd_of_attempted {start ended : MemoryStore × Tracker}
    (attempted : Relation.ReflTransGen handler.Attempted start ended) :
    handler.SameEnd start.1 start.2 ended.1 ended.2 := by
  induction attempted with
  | refl => exact .refl handler _ _
  | tail _ next inductionHypothesis =>
    obtain ⟨outcome, reached⟩ := next
    exact inductionHypothesis.trans ((keeps_handle_faulty handler _ _).post_of_reaches reached)

/-- Let a handler make any number of attempts at a pass, each broken off anywhere, and then an
undisturbed one. The outcome of the last one and the store after it, with the order and the revisions
of its objects, are those of a single undisturbed pass from the store and the tracker before all
attempts. -/
theorem handle_after_attempts (handler : Handler) (store later : MemoryStore)
    (tracker noted : Tracker)
    (attempted : Relation.ReflTransGen handler.Attempted (store, tracker) (later, noted))
    (journal journalLater : Journal) (statuses statusesLater : StatusTable) (listens : Bool) :
    let single := (Surroundings.quiet store journal statuses).runProgram listens
      (handler.handle.outcome tracker)
    let last := (Surroundings.quiet later journalLater statusesLater).runProgram listens
      (handler.handle.outcome noted)
    last.1.1 = single.1.1 ∧ last.2.store? = single.2.store? := by
  intro single last
  have same := sameEnd_of_attempted attempted
  obtain ⟨finalSingle, storedSingle, handledSingle⟩ := Surroundings.post_runProgram_quiet
    (keeps_handle handler store tracker) journal statuses listens
  obtain ⟨finalLast, storedLast, handledLast⟩ := Surroundings.post_runProgram_quiet
    (keeps_handle handler later noted) journalLater statusesLater listens
  obtain ⟨outcomeSingle, writtenSingle⟩ := undisturbed_of_handled handledSingle
  obtain ⟨outcomeLast, writtenLast⟩ := undisturbed_of_handled handledLast
  refine ⟨?_, ?_⟩
  · exact outcomeLast.trans (same.undisturbed.trans outcomeSingle.symm)
  · rw [storedLast, storedSingle, writtenLast, writtenSingle, same.deployed]

/-! ## A lost reply

The first attempt ignores one host and creates the override of the other one, but the reply to the
creation is lost. The second attempt is stopped at once. -/

def ofShop : Handler where
  owner := ⟨"team", "web"⟩
  uniqueName := "blue"
  uniqueVersion := "v2"
  ns := "prod"
  hosts := ["search", "cart"]
  versionLabel := "version"
  defaultVersion := "shared"
  key := "owners"

def shopStore : MemoryStore where
  objects :=
    [{ name := "cart"
       ns := "prod"
       labels := []
       annotations := []
       host := "cart.prod"
       subsets := [⟨"v1", [("version", "shared")]⟩]
       revision := some "1" }]
  writes := 1

theorem attempted_lost_reply : ofShop.Attempted (shopStore, .empty)
    (ofShop.storeAfter shopStore "cart", ⟨[], ["search"]⟩) :=
  ⟨.error (.atStore "cart" "create routing object blue-cart" (.foreign .timeout "no reply")),
    .answered false rfl <|
    .answered (.error (.notFound "prod/blue-search")) (.inl ⟨rfl, rfl⟩) <|
    .answered (.ok ()) rfl <|
    .answered false rfl <|
    .answered (.ok (shopStore.inNamespace "prod")) (.inl ⟨rfl, rfl⟩) <|
    .answered (.ok ()) rfl <|
    .answered (.ok ()) rfl <|
    .answered false rfl <|
    .answered (.error (.notFound "prod/blue-cart")) (.inl ⟨rfl, rfl⟩) <|
    .answered (.ok ()) rfl <|
    .answered false rfl <|
    .answered (.ok (shopStore.inNamespace "prod")) (.inl ⟨rfl, rfl⟩) <|
    .answered (.ok ()) rfl <|
    .answered false rfl <|
    .answered (.error (.foreign .timeout "no reply")) (.inr ⟨_, rfl, .inr ⟨rfl, rfl⟩⟩) <| .here⟩

theorem attempted_stopped : ofShop.Attempted (ofShop.storeAfter shopStore "cart", ⟨[], ["search"]⟩)
    (ofShop.storeAfter shopStore "cart", ⟨[], ["search"]⟩) :=
  ⟨.error .interrupted, .answered true rfl .here⟩

theorem handle_after_lost_reply :
    Relation.ReflTransGen ofShop.Attempted (shopStore, .empty)
      (ofShop.storeAfter shopStore "cart", ⟨[], ["search"]⟩) ∧
    let single := (Surroundings.quiet shopStore .empty .empty).runProgram true
      (ofShop.handle.outcome .empty)
    let last := (Surroundings.quiet (ofShop.storeAfter shopStore "cart") .empty .empty).runProgram
      true (ofShop.handle.outcome ⟨[], ["search"]⟩)
    last.1.1 = single.1.1 ∧ last.2.store? = single.2.store? :=
  have attempted := (Relation.ReflTransGen.single attempted_lost_reply).tail attempted_stopped
  ⟨attempted, handle_after_attempts ofShop _ _ _ _ attempted .empty .empty .empty .empty true⟩

end Handler

end RouteOverrides
