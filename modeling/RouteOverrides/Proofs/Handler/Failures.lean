import RouteOverrides.Proofs.Handler.Blame
import RouteOverrides.Proofs.Handler.Subscription
import RouteOverrides.Proofs.Program.Confinement

/-! # Which failures leave an errand

Errands have failures of their own: a failure at a host, which names the host, a pass without an active
host, and the signal to stop. Failures of the store and of the status table are reported as failures at the
host. A failure of the journal is not: when the table of the journal is missing, whatever would be written
to it ends the errand with the failure of the database.

* `Asked`, `recalled` — all requests with their answers, whatever these are.
* `Errand.Owns` — the failures of an errand.
* `Errand.leaves` — which failures there are besides.
* `Database.serves` — what a database answers, either of whose tables may be missing.
* `Errand.owned_of_reaches` — when the failure of an errand is its own.
-/

namespace RouteOverrides

open Program

/-! ## Requests with their answers -/

/-- A request with its answer. -/
structure Asked where
  request : Request
  answer : request.Answer

/-- All requests are kept with their answers, the newest first. A request may get any answer. -/
def recalled : Rules (List Asked) :=
  fun request history answer later => later = ⟨request, answer⟩ :: history

namespace Asked

/-- Whether the newest request was a write to the journal. -/
def loggedLast : List Asked → Bool
  | ⟨.log _, _⟩ :: _ => true
  | _ => false

/-- The failure of the newest request, if that was a write to the journal. -/
def unlogged? : List Asked → Option Failure
  | ⟨.log _, .error failure⟩ :: _ => some failure
  | _ => none

/-- The place of the object that was looked for last. -/
def lastSought : List Asked → Option (String × String)
  | [] => none
  | ⟨.store (.get ns name), _⟩ :: _ => some (ns, name)
  | _ :: rest => lastSought rest

end Asked

open Asked

variable {host : String} {history : List Asked} {failure : Failure}

/-- The override of a host was the last that was looked for, and the journal has not failed. -/
structure Seeks (scope : Scope) (host : String) (history : List Asked) : Prop where
  logged : unlogged? history = none
  sought : lastSought history = some (scope.place host)

/-- How an operation fails at a host. -/
inductive Scope.Fails (scope : Scope) (host : String) : Failure → List Asked → Prop where
  | stopped {history : List Asked} (logged : unlogged? history = none) :
      Fails scope host .interrupted history
  | atHost {history : List Asked} (operation : String) (cause : Failure)
      (seeks : Seeks scope host history) : Fails scope host (.atStore host operation cause) history
  | unlogged {history : List Asked} {failure : Failure} (fails : unlogged? history = some failure) :
      Fails scope host failure history

/-- A promise of nothing, where only the end counts. -/
abbrev anything (_ : Request) (_ : List Asked) : Prop := True

/-! ## Hosts -/

/-- A failure of a call is reported with the host. -/
theorem Scope.abides_call (scope : Scope) (host operation : String) {call : StoreCall}
    (same : ∀ reply history, lastSought (⟨.store call, reply⟩ :: history) = lastSought history) :
    (Action.blaming host operation (Action.call call)).Abides recalled anything (Seeks scope host)
      (scope.Fails host) := by
  refine fun history seeks => keeps_blaming.2 ⟨trivial, ?_⟩
  rintro reply _ rfl
  have sought := (same reply history).trans seeks.sought
  cases reply with
  | ok _ => exact ⟨rfl, sought⟩
  | error failure => exact .atHost _ _ ⟨rfl, sought⟩

namespace Handler

variable {handler : Handler}

theorem fails_present (handler : Handler) (host : String) :
    Keeps recalled anything (EitherWay (Seeks handler.scope host) (handler.scope.Fails host))
      (handler.present host).run history := by
  refine keeps_checkInterrupted.2 ⟨trivial, ?_⟩
  rintro stop _ rfl
  cases stop with
  | true => exact .stopped rfl
  | false =>
    refine keeps_attempt.2 ⟨trivial, ?_⟩
    rintro reply _ rfl
    cases reply with
    | ok object => exact ⟨rfl, rfl⟩
    | error failure =>
      -- That there is no override is an answer like others.
      cases failure with
      | notFound _ => exact ⟨rfl, rfl⟩
      | _ => exact .atHost _ _ ⟨rfl, rfl⟩

theorem walk_recalled (handler : Handler) :
    handler.Walk recalled anything (fun history => unlogged? history = none) (Seeks handler.scope)
      handler.scope.Fails where
  looks host _ _ := fails_present handler host
  leaves _ _ seeks := seeks.logged
  checks _ _ seeks := by
    refine ⟨trivial, ?_⟩
    rintro stop _ rfl
    cases stop with
    | true => exact .stopped rfl
    | false => exact ⟨rfl, seeks.sought⟩
  logs _ _ _ seeks := by
    refine ⟨trivial, ?_⟩
    rintro answer _ rfl
    cases answer with
    | ok _ => exact ⟨rfl, seeks.sought⟩
    | error failure => exact .unlogged rfl
  records _ _ seeks := by
    refine keeps_blaming.2 ⟨trivial, ?_⟩
    rintro answer _ rfl
    cases answer with
    | ok _ => exact ⟨rfl, seeks.sought⟩
    | error failure => exact .atHost _ _ ⟨rfl, seeks.sought⟩
  lists _ := handler.scope.abides_call _ _ fun _ _ => rfl
  creates _ _ := handler.scope.abides_call _ _ fun _ _ => rfl

end Handler

namespace Release

theorem fails_one (release : Release) (host : String) (left : Nat)
    (logged : unlogged? history = none) :
    Keeps recalled anything
      (EitherWay (fun history => unlogged? history = none) (release.scope.Fails host))
      (release.one host (overrideName release.uniqueName host) left).run history := by
  -- On the attempts that are left: another one follows only if the journal has told of the conflict.
  induction left generalizing history with
  | zero => exact logged
  | succ left inductionHypothesis =>
    refine keeps_one_succ.2 ⟨trivial, ?_, ?_⟩
    · rintro _ rfl
      exact .stopped rfl
    rintro _ rfl
    refine ⟨trivial, ?_⟩
    rintro reply _ rfl
    cases reply with
    | error failure =>
      cases failure with
      | notFound _ => exact rfl
      | _ => exact .atHost _ _ ⟨rfl, rfl⟩
    | ok object =>
      dsimp only [AfterRead]
      split
      · refine keeps_writeBack.2 ⟨trivial, ?_, ?_⟩
        · rintro _ rfl
          exact .stopped rfl
        rintro _ rfl
        refine ⟨trivial, ?_⟩
        rintro reply _ rfl
        cases reply with
        | ok _ =>
          refine ⟨trivial, ?_⟩
          rintro answer _ rfl
          cases answer with
          | ok _ => exact rfl
          | error failure => exact .unlogged rfl
        | error failure =>
          cases failure with
          | conflict detail =>
            dsimp only [AfterWrite]
            split
            · exact .atHost _ _ ⟨rfl, rfl⟩
            · refine ⟨trivial, ?_⟩
              rintro answer _ rfl
              cases answer with
              | ok _ => exact inductionHypothesis rfl
              | error failure => exact .unlogged rfl
          | _ => exact .atHost _ _ ⟨rfl, rfl⟩
      · exact rfl

theorem fails_forHosts (release : Release) (hosts : List String)
    (logged : unlogged? history = none) :
    Keeps recalled anything
      (EitherWay (fun history => unlogged? history = none) fun failure history =>
        ∃ host ∈ hosts, release.scope.Fails host failure history)
      (release.forHosts hosts).run history := by
  induction hosts generalizing history with
  | nil => exact logged
  | cons host rest inductionHypothesis =>
    refine keeps_forHosts_cons.2 ((release.fails_one host _ logged).mono fun result later ended => ?_)
    cases result with
    | error failure => exact ⟨host, List.mem_cons_self, ended⟩
    | ok emptied =>
      exact keeps_bind_of_eitherWay ((inductionHypothesis ended).mono fun _ _ ended =>
        ended.imp id fun _ => List.exists_mem_cons_of_exists) fun _ _ logged => logged

end Release

/-! ## Errands -/

namespace Errand

variable {errand : Errand} {trackers noted : List Tracker} {database later : Database}

/-- A failure of an errand itself. One at a host names the host that the errand was at. -/
inductive Owns (errand : Errand) (history : List Asked) : Failure → Prop where
  | stopped : Owns errand history .interrupted
  | atHost {host : String} (member : host ∈ errand.handler.hosts)
      (sought : lastSought history = some (errand.handler.scope.place host)) (operation : String)
      (cause : Failure) : Owns errand history (.atStore host operation cause)
  | nobody (passes : errand.task = .handle) (ignored : List String) :
      Owns errand history (.noActiveHost errand.handler.uniqueName ignored)

/-- With which failures an errand ends: with its own, or with one of the journal. -/
def Leaves {α : Type} (errand : Errand) : Except Failure α → List Asked → Prop
  | .ok _, history => unlogged? history = none
  | .error failure, history => unlogged? history = some failure ∨
      unlogged? history = none ∧ errand.Owns history failure

theorem leaves_of_eitherWay {α : Type} {result : Except Failure α}
    (ended : EitherWay (fun history => unlogged? history = none) (fun failure history =>
      ∃ host ∈ errand.handler.hosts, errand.handler.scope.Fails host failure history) result history) :
    errand.Leaves result history := by
  cases result with
  | ok value => exact ended
  | error failure =>
    obtain ⟨host, member, fails⟩ := ended
    cases fails with
    | stopped logged => exact .inr ⟨logged, .stopped⟩
    | atHost operation cause seeks =>
      exact .inr ⟨seeks.logged, .atHost member seeks.sought operation cause⟩
    | unlogged fails => exact .inl fails

theorem Leaves.map {α β : Type} {result : Except Failure α} (leaves : errand.Leaves result history)
    (change : α → β) : errand.Leaves (result.map change) history := by
  cases result <;> exact leaves

theorem leaves_handle (handler : Handler) (tracker : Nat) (noted : Tracker) :
    Keeps recalled anything
      (fun ended => Leaves ⟨handler, tracker, .handle⟩ ended.1) (handler.handle.outcome noted) [] := by
  rw [Handler.handle, Pass.keeps_note_bind, Pass.keeps_bind]
  refine (handler.walk_recalled.visitAll handler.hosts _ rfl).mono ?_
  rintro ⟨result, noted⟩ history ended
  cases result with
  | error failure =>
    have ends : Leaves ⟨handler, tracker, .handle⟩ (.error failure : Except Failure Unit) history :=
      leaves_of_eitherWay ended
    exact ends
  | ok _ =>
    dsimp only
    rw [Pass.keeps_tracker_bind]
    split
    · refine Pass.keeps_ofAction_bind.2 ⟨trivial, ?_⟩
      rintro answer _ rfl
      cases answer with
      | ok _ => exact .inr ⟨rfl, .nobody rfl _⟩
      | error failure => exact .inl rfl
    · exact ended

theorem leaves (errand : Errand) (trackers : List Tracker) :
    Keeps recalled anything (fun ended => errand.Leaves ended.1) (errand.program trackers) [] := by
  obtain ⟨handler, tracker, task⟩ := errand
  cases task with
  | handle =>
    exact keeps_bind.2 ((leaves_handle handler tracker _).mono fun _ _ leaves => leaves.map _)
  | statuses ignored =>
    refine keeps_bind.2 ((handler.walk_recalled.statusesOf _ handler.hosts rfl).mono ?_)
    exact fun _ _ ended => (leaves_of_eitherWay ended).map _
  | release =>
    refine keeps_bind.2 ((handler.toRelease.fails_forHosts handler.hosts rfl).mono ?_)
    exact fun _ _ ended => (leaves_of_eitherWay ended).map _

end Errand

/-! ## Databases with missing tables -/

namespace Database

/-- What a database answers, either of whose tables may be missing. What the store answers is open, and so
is whether the program is told to stop. -/
def serves : Rules Database
  | .log entry, database, answer, later => (answer, later) = database.log entry
  | .record subset status, database, answer, later => (answer, later) = database.record subset status
  | .report subset, database, answer, later => answer = database.report subset ∧ later = database
  | .latest limit, database, answer, later => answer = database.latest limit ∧ later = database
  | .store _, database, _, later => later = database
  | .interrupted, database, _, later => later = database

variable {database later : Database}

/-- The table of the journal is there or not as it was before, and writes to it have failed only if it is
not there. -/
structure Tells (database : Database) (state : List Asked × Database) : Prop where
  same : state.2.journal.isSome = database.journal.isSome
  told : loggedLast state.1 = true →
    unlogged? state.1 = if database.journal.isSome then none else some TableName.journal.missing

theorem Tells.served {request : Request} {answer : request.Answer} {after : Database}
    (tells : database.Tells (history, later)) (allowed : serves request later answer after) :
    database.Tells (⟨request, answer⟩ :: history, after) := by
  -- Only writes to the journal are told of, and no request brings a table or takes one away.
  cases request with
  | log entry =>
    have same := tells.same
    obtain ⟨journal, statuses⟩ := later
    cases journal with
    | none =>
      cases allowed
      exact ⟨same, fun _ => by rw [← same]; rfl⟩
    | some journal =>
      cases allowed
      exact ⟨same, fun _ => by rw [← same]; rfl⟩
  | record subset status =>
    have same := tells.same
    obtain ⟨journal, statuses⟩ := later
    cases statuses <;>
    · cases allowed
      exact ⟨same, nofun⟩
  | report _ | latest _ =>
    obtain ⟨-, rfl⟩ := allowed
    exact ⟨tells.same, nofun⟩
  | store _ | interrupted =>
    obtain rfl := allowed
    exact ⟨tells.same, nofun⟩

theorem tells_of_reaches {α : Type} {program left : Program α}
    (reached : Reaches (bothRules recalled serves) program ([], database) left (history, later)) :
    database.Tells (history, later) := by
  have start : database.Tells ([], database) := ⟨rfl, nofun⟩
  refine (confined_any program).holds_of_reaches ?_ start reached
  rintro request ⟨_, _⟩ answer ⟨_, _⟩ - ⟨rfl, served⟩ tells
  exact tells.served served

end Database

namespace Errand

open Database

variable {errand : Errand} {trackers noted : List Tracker} {database later : Database}

theorem loggedLast_of_unlogged? (fails : unlogged? history = some failure) :
    loggedLast history = true := by
  unfold unlogged? at fails
  split at fails
  · rfl
  · cases fails

/-- Let an errand fail, whatever the store holds and answers and whichever tables are missing. Its failure
is one of its own, unless it wanted to write to a journal whose table is missing. Then its failure is that
of the database. -/
theorem owned_of_reaches
    (reached : Reaches (bothRules recalled serves) (errand.program trackers) ([], database)
      (.done (.error failure, noted)) (history, later)) :
    (errand.Owns history failure ↔
      ¬ (database.journal = none ∧ loggedLast history = true)) ∧
    (database.journal = none → loggedLast history = true → failure = TableName.journal.missing) := by
  have alone : Reaches recalled (errand.program trackers) [] (.done (.error failure, noted)) history :=
    reached.map fun _ _ _ _ allowed => allowed.1
  have leaves : errand.Leaves (.error failure : Except Failure Outcome) history :=
    (errand.leaves trackers).post_of_reaches alone
  have tells := tells_of_reaches reached
  rcases leaves with fails | ⟨fine, owns⟩
  · -- The journal has failed, so its table is missing.
    have last := loggedLast_of_unlogged? fails
    have told := tells.told last
    rw [fails] at told
    cases missing : database.journal with
    | some journal =>
      rw [missing] at told
      cases told
    | none =>
      rw [missing] at told
      cases told
      exact ⟨iff_of_false nofun fun none => none ⟨rfl, last⟩, fun _ _ => rfl⟩
  · have present : ¬ (database.journal = none ∧ loggedLast history = true) := by
      rintro ⟨missing, last⟩
      have told := tells.told last
      rw [fine, missing] at told
      cases told
    exact ⟨iff_of_true owns present, fun missing last => absurd ⟨missing, last⟩ present⟩

/-! ### A pass without a journal

The cart has no override yet. The pass wants to tell the journal before it creates one. -/

open MemoryStore

def unloggedPass : Errand := ⟨Handler.ofTeam "web", 0, .handle⟩

/-- A store in memory that answers exactly, beside a database. -/
abbrev besides : Rules (MemoryStore × List Asked × Database) :=
  bothRules (exact false) (bothRules recalled serves)

theorem reaches_ask {α : Type} {request : Request} {next : request.Answer → Program α}
    {store after : MemoryStore} {left : Program α} {final : MemoryStore × List Asked × Database}
    (answer : request.Answer) (exactly : exact false request store answer after)
    (served : serves request database answer later)
    (rest : Reaches besides (next answer) (after, ⟨request, answer⟩ :: history, later) left final) :
    Reaches besides (.ask request next) (store, history, database) left final := by
  refine .answered answer ?_ rest
  exact ⟨exactly, rfl, served⟩

theorem failed_unloggedPass : ∃ history later,
    Reaches besides (unloggedPass.program []) (Handler.cartStore, [], ⟨none, some .empty⟩)
      (.done (.error TableName.journal.missing, [])) (Handler.cartStore, history, later) ∧
    loggedLast history = true :=
  ⟨_, _,
    reaches_ask false ⟨nofun, rfl⟩ rfl <|
    reaches_ask (.error (.notFound "prod/blue-cart")) ⟨rfl, rfl⟩ rfl <|
    reaches_ask (.ok ()) ⟨nofun, rfl⟩ rfl <|
    reaches_ask false ⟨nofun, rfl⟩ rfl <|
    reaches_ask (.ok (Handler.cartStore.inNamespace "prod")) ⟨rfl, rfl⟩ rfl <|
    reaches_ask (.error TableName.journal.missing) ⟨nofun, rfl⟩ rfl .here, rfl⟩

theorem owned_of_reaches_unloggedPass : ∃ history later,
    Reaches (bothRules recalled serves) (unloggedPass.program []) ([], ⟨none, some .empty⟩)
      (.done (.error TableName.journal.missing, [])) (history, later) ∧
    ¬ unloggedPass.Owns history TableName.journal.missing := by
  obtain ⟨history, later, reached, last⟩ := failed_unloggedPass
  have alone : Reaches (bothRules recalled serves) (unloggedPass.program []) ([], ⟨none, some .empty⟩)
      (.done (.error TableName.journal.missing, [])) (history, later) :=
    reached.map fun _ _ _ _ allowed => allowed.2
  exact ⟨history, later, alone, fun owns => (owned_of_reaches alone).1.1 owns ⟨rfl, last⟩⟩

/-- A failure that leaves an errand may be one of the database. -/
theorem not_owned_without_journal : ¬ ∀ (errand : Errand) (trackers noted : List Tracker)
    (store final : MemoryStore) (database later : Database) (history : List Asked) (failure : Failure),
      Reaches besides (errand.program trackers) (store, [], database)
        (.done (.error failure, noted)) (final, history, later) →
      errand.Owns history failure := by
  intro allOwned
  obtain ⟨history, later, reached, -⟩ := failed_unloggedPass
  exact nomatch allOwned _ _ _ _ _ _ _ _ _ reached

end Errand

end RouteOverrides
