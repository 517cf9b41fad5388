import RouteOverrides.Proofs.Handler.Errand
import RouteOverrides.Proofs.Handler.Walk
import RouteOverrides.Proofs.Program.Exchange

/-! # Which call an operation fails with

Passes, reports and releases see to one host after the other. They end with the first failure of a
store call that they do not provide for, and report it together with the host that they were at.

* `Handler.walk_witnessed` — the hosts of a pass, and of a report.
* `Release.minds_one` — one host of a release, with the attempts that are left.
* `Errand.exits` — whatever a handler is asked to do.
-/

namespace RouteOverrides

open Program Exchange

variable {host : String} {trace : List Exchange} {tracker : Tracker}

/-! ## Passes and reports -/

namespace Handler

variable {handler : Handler}

def scope (handler : Handler) : Scope := ⟨handler.ns, handler.uniqueName, handler.hosts⟩

theorem minds_present (handler : Handler) (host : String) (unbroken : fatal? trace = none) :
    Keeps witnessed whileUnbroken (Minds handler.scope host) (handler.present host).run trace := by
  refine keeps_checkInterrupted.2 ⟨unbroken, ?_⟩
  rintro _ _ ⟨rfl, rfl⟩
  refine keeps_attempt.2 ⟨unbroken, ?_⟩
  rintro reply _ rfl
  cases reply with
  | ok object => exact ⟨rfl, rfl, rfl⟩
  | error failure =>
    cases failure with
    -- That there is no override is what a pass is for; any other failure ends it.
    | notFound _ => exact ⟨rfl, rfl, rfl⟩
    | _ => exact ⟨_, _, rfl, rfl, rfl⟩

/-- What the failure of an operation at a host reports. -/
def Blamed (handler : Handler) (host : String) (failure : Failure) (trace : List Exchange) : Prop :=
  ∃ operation cause, failure = .atStore host operation cause ∧
    handler.scope.FailsAt host cause trace

theorem eitherWay_of_minds {α : Type} {result : Except Failure α}
    (minds : Minds handler.scope host result trace) :
    EitherWay (AtHost handler.scope host) (handler.Blamed host) result trace := by
  cases result <;> exact minds

theorem walk_witnessed (handler : Handler) :
    handler.Walk witnessed whileUnbroken (fun trace => fatal? trace = none) (AtHost handler.scope)
      handler.Blamed where
  looks host _ unbroken :=
    (minds_present handler host unbroken).mono fun _ _ => eitherWay_of_minds
  leaves _ _ start := start.unbroken
  checks _ _ start := (minds_checkInterrupted start).mono fun _ _ => eitherWay_of_minds
  logs _ _ _ start := (minds_log start _).mono fun _ _ => eitherWay_of_minds
  records _ _ start := by
    refine keeps_blaming.2 ⟨start.unbroken, ?_⟩
    rintro _ _ ⟨rfl, rfl⟩
    exact start
  lists _ _ start := (minds_call start (.inl ⟨_, rfl⟩) _).mono fun _ _ => eitherWay_of_minds
  creates _ _ _ start := (minds_call start (.inr ⟨_, rfl⟩) _).mono fun _ _ => eitherWay_of_minds

theorem concludes_of_eitherWay {α : Type} {hosts : List String} {result : Except Failure α}
    (asked : hosts ⊆ handler.hosts)
    (ended : EitherWay (fun trace => fatal? trace = none)
      (fun failure trace => ∃ host ∈ hosts, handler.Blamed host failure trace) result trace) :
    Concludes handler.scope result trace := by
  cases result with
  | ok value => exact .inr ⟨ended, value, rfl⟩
  | error failure =>
    obtain ⟨host, member, operation, cause, rfl, fails⟩ := ended
    exact .inl ⟨host, asked member, operation, cause, fails, rfl⟩

theorem concludes_visitAll {hosts : List String} (asked : hosts ⊆ handler.hosts)
    (tracker : Tracker) (unbroken : fatal? trace = none) :
    Keeps witnessed whileUnbroken (fun ended final => Concludes handler.scope ended.1 final)
      ((handler.visitAll hosts).outcome tracker) trace :=
  (handler.walk_witnessed.visitAll hosts tracker unbroken).mono fun _ _ => concludes_of_eitherWay asked

/-- A pass that goes through returns, unless it has left no host active. -/
def Passed (handler : Handler) : Except Failure PassResult → Prop
  | .ok _ => True
  | .error failure => ∃ ignored, failure = .noActiveHost handler.uniqueName ignored

theorem exits_handle (handler : Handler) (tracker : Tracker) (unbroken : fatal? trace = none) :
    Keeps witnessed whileUnbroken
      (Exits handler.scope (fun failure ended => ended.1 = .error failure)
        fun ended => handler.Passed ended.1)
      (handler.handle.outcome tracker) trace := by
  rw [handle, Pass.keeps_note_bind, Pass.keeps_bind]
  refine (concludes_visitAll (List.Subset.refl _) _ unbroken).mono ?_
  rintro ⟨result, noted⟩ later concludes
  rcases concludes with ⟨host, member, operation, cause, fails, rfl⟩ | ⟨unbroken, _, rfl⟩
  · exact .inl ⟨host, member, operation, cause, fails, rfl⟩
  · dsimp only
    rw [Pass.keeps_tracker_bind]
    -- All hosts were visited. A pass without an active host fails, but not at the store.
    split
    · refine Pass.keeps_ofAction_bind.2 ⟨unbroken, ?_⟩
      rintro _ _ ⟨rfl, rfl⟩
      exact .inr ⟨unbroken, _, rfl⟩
    · exact .inr ⟨unbroken, trivial⟩

theorem concludes_statusesOf {hosts : List String} (asked : hosts ⊆ handler.hosts)
    (ignored : List String) (unbroken : fatal? trace = none) :
    Keeps witnessed whileUnbroken (Concludes handler.scope)
      (handler.statusesOf ignored hosts).run trace :=
  (handler.walk_witnessed.statusesOf ignored hosts unbroken).mono fun _ _ =>
    concludes_of_eitherWay asked

end Handler

/-! ## Releases -/

namespace Release

variable {release : Release} {left : Nat}

def scope (release : Release) : Scope := ⟨release.ns, release.uniqueName, release.hosts⟩

/-- One attempt. The conflicts so far and the attempts that are left add up to all attempts, so the last
one is the one whose conflict ends the operation. -/
theorem minds_attempt (release : Release) (host : String) (unbroken : fatal? trace = none)
    (attempts : conflicts trace + (left + 1) = maxAttempts)
    (again : left ≠ 0 → ∀ later, fatal? later = none → conflicts later + left = maxAttempts →
      Keeps witnessed whileUnbroken (Minds release.scope host)
        (release.one host (overrideName release.uniqueName host) left).run later) :
    Keeps witnessed whileUnbroken (Minds release.scope host)
      (release.one host (overrideName release.uniqueName host) (left + 1)).run trace := by
  refine keeps_one_succ.2 ⟨unbroken, nofun, ?_⟩
  rintro ready ⟨-, same⟩
  cases same
  refine ⟨unbroken, ?_⟩
  rintro reply _ rfl
  cases reply with
  | error failure =>
    cases failure with
    | notFound _ => exact ⟨rfl, rfl, rfl⟩
    | _ => exact ⟨_, _, rfl, rfl, rfl⟩
  | ok object =>
    dsimp only [AfterRead]
    split
    · refine keeps_writeBack.2 ⟨rfl, nofun, ?_⟩
      rintro _ ⟨-, rfl⟩
      refine ⟨rfl, ?_⟩
      rintro reply _ rfl
      cases reply with
      | ok _ =>
        refine ⟨rfl, ?_⟩
        rintro _ _ ⟨rfl, rfl⟩
        exact ⟨rfl, rfl, rfl⟩
      | error failure =>
        cases failure with
        | conflict detail =>
          dsimp only [AfterWrite]
          -- Five conflicts in a row end the release; fewer lead to another attempt.
          split
          · rename_i last
            have final : conflicts trace + 1 = maxAttempts := by omega
            exact ⟨_, _, rfl, if_pos final, rfl⟩
          · rename_i more
            have notFinal : ¬ conflicts trace + 1 = maxAttempts := by omega
            refine ⟨if_neg notFinal, ?_⟩
            rintro _ _ ⟨rfl, rfl⟩
            have attemptsLeft : conflicts trace + 1 + left = maxAttempts := by omega
            exact again more _ (if_neg notFinal) attemptsLeft
        | _ => exact ⟨_, _, rfl, rfl, rfl⟩
    · exact ⟨rfl, rfl, rfl⟩

theorem minds_one (release : Release) (host : String) (unbroken : fatal? trace = none)
    (attempts : conflicts trace + (left + 1) = maxAttempts) :
    Keeps witnessed whileUnbroken (Minds release.scope host)
      (release.one host (overrideName release.uniqueName host) (left + 1)).run trace := by
  induction left generalizing trace with
  | zero => exact minds_attempt release host unbroken attempts fun last => absurd rfl last
  | succ left inductionHypothesis =>
    exact minds_attempt release host unbroken attempts fun _ later => inductionHypothesis

theorem concludes_forHosts {hosts : List String} (asked : hosts ⊆ release.hosts)
    (unbroken : fatal? trace = none) (settled : conflicts trace = 0) :
    Keeps witnessed whileUnbroken (Concludes release.scope) (release.forHosts hosts).run trace := by
  induction hosts generalizing trace with
  | nil => exact .inr ⟨unbroken, [], rfl⟩
  | cons host rest inductionHypothesis =>
    obtain ⟨member, askedRest⟩ := List.cons_subset.1 asked
    have attempts : conflicts trace + maxAttempts = maxAttempts := by rw [settled, Nat.zero_add]
    refine keeps_forHosts_cons.2 ((minds_one release host unbroken attempts).mono ?_)
    intro result later minds
    cases result with
    | error failure => exact minds.concludes member
    | ok emptied =>
      refine keeps_bind_of_concludes
        (inductionHypothesis askedRest minds.unbroken minds.settled) fun _ _ unbroken => ?_
      exact .inr ⟨unbroken, _, rfl⟩

end Release

/-! ## Errands -/

/-- What an errand comes to if no store call fails it. -/
def Errand.Returns (errand : Errand) : Except Failure Outcome → Prop
  | .ok _ => True
  | .error failure => errand.task = .handle ∧
    ∃ ignored, failure = .noActiveHost errand.handler.uniqueName ignored

/-- What is left of an errand. The failure that stops it is what it comes to. -/
abbrev Errand.Stops (errand : Errand) (left : Program Ended) (trace : List Exchange) : Prop :=
  RouteOverrides.Stops errand.handler.scope (fun failure ended => ended.1 = .error failure)
    (fun ended => errand.Returns ended.1) left trace

theorem Errand.exits_of_concludes {α : Type} {scope : Scope} {result : Except Failure α}
    (errand : Errand) (convert : α → Outcome) (trackers : List Tracker)
    (concludes : Concludes scope result trace) :
    Exits scope (fun failure (ended : Ended) => ended.1 = .error failure)
      (fun ended => errand.Returns ended.1) (result.map convert, trackers) trace := by
  refine concludes.imp (fun failure same => ?_) ?_
  · rw [same]
    rfl
  · rintro ⟨value, rfl⟩
    trivial

theorem Errand.exits (errand : Errand) (trackers : List Tracker) :
    Keeps witnessed whileUnbroken
      (Exits errand.handler.scope (fun failure ended => ended.1 = .error failure)
        fun ended => errand.Returns ended.1)
      (errand.program trackers) [] := by
  obtain ⟨handler, tracker, task⟩ := errand
  cases task with
  | handle =>
    refine keeps_bind.2 ((handler.exits_handle _ rfl).mono ?_)
    rintro ⟨result, noted⟩ later exits
    refine exits.imp (fun failure (same : result = .error failure) => ?_) fun passed => ?_
    · rw [same]
      rfl
    · cases result with
      | ok _ => trivial
      | error failure => exact ⟨rfl, passed⟩
  | statuses ignored =>
    refine keeps_bind.2 ((Handler.concludes_statusesOf (List.Subset.refl _) _ rfl).mono ?_)
    exact fun _ _ concludes => Errand.exits_of_concludes _ .statuses trackers concludes
  | release =>
    have released : Keeps witnessed whileUnbroken (Concludes handler.toRelease.scope)
        (handler.toRelease.forHosts handler.toRelease.hosts).run [] :=
      Release.concludes_forHosts (List.Subset.refl _) rfl rfl
    refine keeps_bind.2 (released.mono ?_)
    exact fun _ _ concludes => Errand.exits_of_concludes _ .names trackers concludes

end RouteOverrides
