import RouteOverrides.Proofs.Handler.Retry
import RouteOverrides.Proofs.Handler.Walk

/-! # Lookups after a pass

The overrides of a handler stand among the objects from which it picks its baselines, and they may even
serve the default version. All the same a pass never changes what the handler finds for a host,
wherever the pass is broken off.

* `Handler.keeps_handle_baselines` — however a pass ends, every host has the baseline that it had.
* `Lookup.runProgram_locate` — what a lookup gives in a store that nothing disturbs.
* `Handler.locate_after_handle` — lookups after a pass, or in the middle of it, and before it.
-/

namespace RouteOverrides

open Program MemoryStore

/-! ## Baselines at the end of a pass -/

/-- Any request may be answered so that the store stays as it is: a store call fails. -/
theorem MemoryStore.exists_faulty_self (late : Bool) (request : Request) (store : MemoryStore) :
    ∃ answer, faulty late request store answer store := by
  cases request with
  | store call => exact ⟨.error .interrupted, .inr ⟨.interrupted, rfl, .inl rfl⟩⟩
  | log entry => exact ⟨.ok (), rfl⟩
  | record subset status => exact ⟨.ok (), rfl⟩
  | report subset => exact ⟨.ok [], rfl⟩
  | latest limit => exact ⟨.ok [], rfl⟩
  | interrupted => exact ⟨false, rfl⟩

namespace Handler

variable {handler : Handler} {start store final : MemoryStore} {tracker noted : Tracker}
  {host : String} {late : Bool}

/-- Every host has the baseline that it had at the start. -/
def SameBaselines (handler : Handler) (start store : MemoryStore) : Prop :=
  handler.baseline? store = handler.baseline? start

theorem Tried.sameBaselines {result : Except Failure Unit}
    (tried : handler.Tried store tracker host result noted final)
    (same : handler.SameBaselines start store) : handler.SameBaselines start final := by
  rcases tried.written with rfl | rfl
  · exact same
  · exact (funext (baseline?_storeAfter handler store host)).trans same

theorem abides_visit_baselines (handler : Handler) (start : MemoryStore) (host : String) :
    (handler.visit host).Abides (faulty late) (fun _ _ => True) (handler.SameBaselines start)
      fun _ => handler.SameBaselines start := by
  intro tracker store same
  refine (keeps_visit_faulty handler store tracker host).mono ?_
  rintro ⟨result, noted⟩ final tried
  have sameStill := tried.sameBaselines same
  cases result <;> exact sameStill

theorem abides_log_baselines (handler : Handler) (start : MemoryStore) (entry : Entry) :
    (Action.log entry).Abides (faulty late) (fun _ _ => True) (handler.SameBaselines start)
      fun _ => handler.SameBaselines start := by
  refine fun store same => (stays_log entry).mono fun result final stayed => ?_
  cases result with
  | ok _ => exact stayed.2 ▸ same
  | error _ => exact stayed ▸ same

theorem keeps_handle_baselines (handler : Handler) (start : MemoryStore) (tracker : Tracker) :
    Keeps (faulty late) (fun _ _ => True) (fun _ final => handler.SameBaselines start final)
      (handler.handle.outcome tracker) start := by
  have abides : handler.handle.Abides (faulty late) (fun _ _ => True)
      (handler.SameBaselines start) fun _ => handler.SameBaselines start :=
    abides_handle (abides_visit_baselines handler start) (abides_log_baselines handler start)
      fun _ _ same => same
  refine (abides tracker start rfl).mono ?_
  rintro ⟨_ | _, _⟩ _ same <;> exact same

end Handler

/-! ## Lookups -/

/-- A store in memory that nothing disturbs, any database, and perhaps a signal to stop. -/
def Surroundings.undisturbed (store : MemoryStore) (database : Database) (stop : Bool) :
    Surroundings := ⟨.memory store [], database, stop⟩

/-- What a lookup gives and what it leaves: it picks the first object that it accepts, and otherwise the
journal says that there is none. -/
theorem Lookup.runProgram_locate (lookup : Lookup) (host : String) (store : MemoryStore)
    (database : Database) (stop listens : Bool) :
    (Surroundings.undisturbed store database stop).runProgram listens (lookup.locate host).run =
      let absent := database.log (lookup.absenceEntry host)
      if listens && stop then (.error .interrupted, .undisturbed store database stop)
      else match (store.inNamespace lookup.ns).find? (lookup.accepts host) with
        | some baseline => (.ok (some baseline), .undisturbed store database stop)
        | none => (absent.1.map fun _ => none, .undisturbed store absent.2 stop) := by
  -- Nothing is released meanwhile, so it does not matter how releases are run.
  obtain ⟨releaser, answered⟩ := Surroundings.exists_answerWith Surroundings.maxNesting listens
  have checked : run (Surroundings.answerWith releaser listens) Action.checkInterrupted.run
      (.undisturbed store database stop) =
        (if listens && stop then .error .interrupted else .ok (),
          .undisturbed store database stop) := rfl
  have listed : run (Surroundings.answerWith releaser listens)
      (Action.blaming host "list routing objects" (Action.call (.list lookup.ns))).run
      (.undisturbed store database stop) =
        (.ok (store.inNamespace lookup.ns), .undisturbed store database stop) := rfl
  have logged : run (Surroundings.answerWith releaser listens)
      (Action.log (lookup.absenceEntry host)).run (.undisturbed store database stop) =
        ((database.log (lookup.absenceEntry host)).1,
          .undisturbed store (database.log (lookup.absenceEntry host)).2 stop) := rfl
  rw [Surroundings.runProgram, answered, locate, ExceptT.run_bind, run_bind, checked]
  cases listens && stop with
  | true => rfl
  | false =>
    simp only [Bool.false_eq_true, if_false]
    rw [ExceptT.run_bind, run_bind, listed]
    dsimp only
    cases (store.inNamespace lookup.ns).find? (lookup.accepts host) with
    | some baseline => rfl
    | none =>
      dsimp only
      rw [ExceptT.run_bind, run_bind, logged]
      cases (database.log (lookup.absenceEntry host)).1 <;> rfl

namespace Handler

/-- The lookup of a handler depends on the store through the baselines only. -/
theorem runProgram_locate_congr {handler : Handler} {start later : MemoryStore}
    (same : handler.SameBaselines start later) (host : String) (database : Database)
    (stop listens : Bool) :
    let located (store : MemoryStore) :=
      (Surroundings.undisturbed store database stop).runProgram listens
        (handler.lookup.locate host).run
    (located later).1 = (located start).1 ∧
      (located later).2.database = (located start).2.database ∧
      (located later).2.store? = some later := by
  have found : (later.inNamespace handler.lookup.ns).find? (handler.lookup.accepts host) =
      (start.inNamespace handler.lookup.ns).find? (handler.lookup.accepts host) := congrFun same host
  dsimp only
  rw [Lookup.runProgram_locate, Lookup.runProgram_locate, found]
  cases listens && stop with
  | true => exact ⟨rfl, rfl, rfl⟩
  | false =>
    cases (start.inNamespace handler.lookup.ns).find? (handler.lookup.accepts host) with
    | some baseline => exact ⟨rfl, rfl, rfl⟩
    | none => exact ⟨rfl, rfl, rfl⟩

/-- Let a handler make a pass, from any store and with any tracker. Store calls may fail, also after
they were carried out, everything else may fail as well, and the program may be told to stop at any
point; nobody else writes. Wherever the pass has got to, and whether it goes on from there or not, the
handler's lookup gives for every host what it would have given before the pass. -/
theorem locate_after_handle (handler : Handler) (tracker : Tracker) (start later : MemoryStore)
    (left : Program (Except Failure PassResult × Tracker))
    (reached : Reaches (faulty true) (handler.handle.outcome tracker) start left later)
    (host : String) (database : Database) (stop listens : Bool) :
    let located (store : MemoryStore) :=
      (Surroundings.undisturbed store database stop).runProgram listens
        (handler.lookup.locate host).run
    (located later).1 = (located start).1 ∧
      (located later).2.database = (located start).2.database ∧
      (located later).2.store? = some later := by
  have ends : Keeps (faulty true) (fun _ _ => True) (fun _ => handler.SameBaselines start)
      (handler.handle.outcome tracker) start := keeps_handle_baselines handler start tracker
  -- From any point on, the requests may be answered so that the store stays as it is up to the end.
  have same : handler.SameBaselines start later :=
    (ends.of_reaches reached).of_idle (exists_faulty_self true)
  exact runProgram_locate_congr same host database stop listens

/-- A handler whose overrides serve the default version. -/
def ofDefaultVersion : Handler := { ofShop with hosts := ["cart"], uniqueVersion := "shared" }

/-- The override stands in the store, since only the reply to its creation was lost, and the lookup of
its handler accepts it. All the same the lookup gives the object that was there before. -/
theorem locate_after_lost_create :
    let later := ofDefaultVersion.storeAfter shopStore "cart"
    let located (store : MemoryStore) :=
      (Surroundings.undisturbed store .fresh false).runProgram true
        (ofDefaultVersion.lookup.locate "cart").run
    Reaches (faulty true) (ofDefaultVersion.handle.outcome .empty) shopStore
      (.done (.error (.atStore "cart" "create routing object blue-cart" (.foreign .timeout "lost")),
        .empty)) later ∧
    ((later.inNamespace "prod").filter (ofDefaultVersion.lookup.accepts "cart")).map (·.name) =
      ["cart", "blue-cart"] ∧
    (located later).1 = (located shopStore).1 ∧
    (located shopStore).1 = .ok shopStore.objects.head? := by
  intro later located
  have reached : Reaches (faulty true) (ofDefaultVersion.handle.outcome .empty) shopStore
      (.done (.error (.atStore "cart" "create routing object blue-cart" (.foreign .timeout "lost")),
        .empty)) later :=
    .answered false rfl <|
    .answered (.error (.notFound "prod/blue-cart")) (.inl ⟨rfl, rfl⟩) <|
    .answered (.ok ()) rfl <|
    .answered false rfl <|
    .answered (.ok (shopStore.inNamespace "prod")) (.inl ⟨rfl, rfl⟩) <|
    .answered (.ok ()) rfl <|
    .answered false rfl <|
    .answered (.error (.foreign .timeout "lost")) (.inr ⟨_, rfl, .inr ⟨rfl, rfl⟩⟩) <| .here
  have same := locate_after_handle ofDefaultVersion .empty shopStore later _ reached "cart" .fresh
    false true
  exact ⟨reached, by decide +kernel, same.1, by decide +kernel⟩

end Handler

end RouteOverrides
