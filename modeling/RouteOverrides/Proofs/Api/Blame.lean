import RouteOverrides.Proofs.Api.Reconcile
import RouteOverrides.Proofs.Handler.Blame

/-! # Store failures and responses

A request that is let in is answered with 502 exactly if a store call has failed the operation that it
asks for. To see to overrides is two operations, a pass and a report, and a failure of either counts;
also that of a report that is made because the pass has left no host active.

* `Api.exits_reconcile`, `Api.exits_release` — the two actions.
* `stops_at_failed_call` — errands and requests stop at the call that fails them, and say so.
-/

namespace RouteOverrides

open Program Exchange

namespace Api

variable {settings : Settings} {handler : Handler} {scope : Scope} {trace : List Exchange}
  {statuses : List Nat} {α : Type}

/-- A failure of the store is answered with its text. -/
def reportsFailure (failure : Failure) (answer : Except Failure HttpResponse) : Prop :=
  answer = .ok (.detail 502 failure.message)

/-- A response has one of some statuses. -/
def answersWith (statuses : List Nat) (answer : Except Failure HttpResponse) : Prop :=
  ∃ response, answer = .ok response ∧ response.status ∈ statuses

/-- An operation whose failure becomes the response. -/
theorem exits_settle {action : Action α} {next : Except Failure α → Action HttpResponse}
    (failed : ∀ failure, next (.error failure) = storeResponse failure)
    (concludes : Keeps witnessed whileUnbroken (Concludes scope) action.run trace)
    (rest : ∀ value later, fatal? later = none → Keeps witnessed whileUnbroken
      (Exits scope reportsFailure (answersWith statuses)) (next (.ok value)).run later) :
    Keeps witnessed whileUnbroken (Exits scope reportsFailure (answersWith statuses))
      (Action.settle action >>= next).run trace := by
  refine keeps_settle_bind.2 (concludes.mono fun result later exits => ?_)
  rcases exits with ⟨host, member, operation, cause, fails, rfl⟩ | ⟨unbroken, value, rfl⟩
  · rw [failed]
    exact .inl ⟨host, member, operation, cause, fails, rfl⟩
  · exact rest value later unbroken

theorem keeps_publish (handler : Handler) (published : List ResourceStatus)
    (unbroken : fatal? trace = none) :
    Keeps witnessed whileUnbroken (fun result later => result = .ok () ∧ fatal? later = none)
      (handler.publish published).run trace := by
  induction published with
  | nil => exact ⟨rfl, unbroken⟩
  | cons status rest inductionHypothesis =>
    refine keeps_run_bind.2 ⟨unbroken, ?_⟩
    rintro _ _ ⟨rfl, rfl⟩
    exact inductionHypothesis

theorem exits_finish (handler : Handler) (result : PassResult) (unbroken : fatal? trace = none) :
    Keeps witnessed whileUnbroken (Exits handler.scope reportsFailure (answersWith [200, 409]))
      (finish handler result).run trace := by
  refine exits_settle (fun _ => rfl)
    (Handler.concludes_statusesOf (List.Subset.refl _) _ unbroken) fun reported _ unbroken => ?_
  refine keeps_run_bind.2 ((keeps_publish handler reported unbroken).mono ?_)
  rintro _ _ ⟨rfl, unbroken⟩
  exact .inr ⟨unbroken, _, rfl, List.mem_cons_self⟩

theorem exits_finishWithout (handler : Handler) (tracker : Tracker) (failure : Failure)
    (unbroken : fatal? trace = none) :
    Keeps witnessed whileUnbroken (Exits handler.scope reportsFailure (answersWith [200, 409]))
      (finishWithout handler tracker failure).run trace := by
  have published : Keeps witnessed whileUnbroken (Concludes handler.scope)
      (handler.statuses tracker.ignored >>= handler.publish : Action Unit).run trace := by
    refine keeps_bind_of_concludes (Handler.concludes_statusesOf (List.Subset.refl _) _ unbroken)
      fun reported _ unbroken => ?_
    refine (keeps_publish handler reported unbroken).mono ?_
    rintro _ _ ⟨rfl, unbroken⟩
    exact .inr ⟨unbroken, (), rfl⟩
  refine exits_settle (fun _ => rfl) published fun _ _ unbroken => ?_
  exact .inr ⟨unbroken, _, rfl, List.mem_cons_of_mem _ List.mem_cons_self⟩

theorem exits_reconcile {user : String} {form : OverrideForm}
    (created : Handler.create? settings form.options = .ok handler) :
    Keeps witnessed whileUnbroken (Exits handler.scope reportsFailure (answersWith [200, 409]))
      (reconcile settings user form).run [] := by
  rw [reconcile, created]
  refine keeps_log.2 ⟨rfl, ?_⟩
  rintro _ _ ⟨rfl, rfl⟩
  refine keeps_ofProgram_bind.2 ((handler.exits_handle .empty rfl).mono ?_)
  rintro ⟨outcome, tracker⟩ later exits
  rcases exits with ⟨host, member, operation, cause, fails, reported⟩ | ⟨unbroken, passed⟩
  · cases reported
    exact .inl ⟨host, member, operation, cause, fails, rfl⟩
  · cases outcome with
    | ok result => exact exits_finish handler result unbroken
    | error failure =>
      -- A report is made all the same, and the store may fail that.
      obtain ⟨ignored, rfl⟩ := passed
      exact exits_finishWithout handler tracker _ unbroken

theorem exits_release (settings : Settings) (user : String) (form : ReleaseForm) :
    Keeps witnessed whileUnbroken
      (Exits (form.release settings).scope reportsFailure (answersWith [200]))
      (release settings user form).run [] := by
  refine keeps_log.2 ⟨rfl, ?_⟩
  rintro _ _ ⟨rfl, rfl⟩
  refine exits_settle (fun _ => rfl) (Release.concludes_forHosts (List.Subset.refl _) rfl rfl)
    fun names _ unbroken => ?_
  exact .inr ⟨unbroken, _, rfl, List.mem_cons_self⟩

/-- What an action exits with is delivered. -/
theorem exits_deliver {action : Action HttpResponse}
    (exits : Keeps witnessed whileUnbroken (Exits scope reportsFailure (answersWith statuses))
      action.run trace) :
    Keeps witnessed whileUnbroken
      (Exits scope (fun failure response => response = .detail 502 failure.message)
        fun response => response.status ∈ statuses)
      (deliver action) trace := by
  refine keeps_bind.2 (exits.mono ?_)
  rintro answer later (⟨host, member, operation, cause, fails, rfl⟩ | ⟨unbroken, response, rfl, status⟩)
  · exact .inl ⟨host, member, operation, cause, fails, rfl⟩
  · exact .inr ⟨unbroken, status⟩

/-- What is left of the answer to a request. The failure that stops the operation is answered with 502
and the text of its report; otherwise the response has one of some other statuses. -/
abbrev Answers (scope : Scope) (statuses : List Nat) (left : Program HttpResponse)
    (trace : List Exchange) : Prop :=
  Stops scope (fun failure response => response = .detail 502 failure.message)
    (fun response => response.status ∈ statuses) left trace

end Api

namespace App

def cartHandler : Handler where
  owner := ⟨"team", "web"⟩
  uniqueName := "blue"
  uniqueVersion := "v2"
  ns := "prod"
  hosts := ["cart"]
  versionLabel := "version"
  defaultVersion := "shared"
  key := "vsr.io/owners"

def noReply : Failure := .foreign .timeout "no reply"

def missingCart : Exchange := ⟨.get "prod" "blue-cart", .error (.notFound "prod/blue-cart")⟩

theorem reached_errand : Reaches witnessed (Errand.program ⟨cartHandler, 0, .handle⟩ []) []
    (.done (.error (.atStore "cart" "list routing objects" noReply), []))
    [⟨.list "prod", .error noReply⟩, missingCart] :=
  .answered false ⟨rfl, rfl⟩ <|
  .answered (.error (.notFound "prod/blue-cart")) rfl <|
  .answered (.ok ()) ⟨rfl, rfl⟩ <|
  .answered false ⟨rfl, rfl⟩ <|
  .answered (.error noReply) rfl <| .here

theorem admitted_cartRequest :
    Api.Admitted {} (cartRequest "web") OverrideForm.check "admin" (cartForm "web") :=
  ⟨rfl, rfl, rfl⟩

theorem reached_overrides : Reaches witnessed (Api.respond {} (cartRequest "web")) []
    (.done (.detail 502 (Failure.atStore "cart" "get routing object blue-cart" noReply).message))
    [⟨.get "prod" "blue-cart", .error noReply⟩, ⟨.list "prod", .ok []⟩, missingCart] := by
  rw [Api.respond_of_allowed rfl admitted_cartRequest.endpoint_overrides]
  exact .answered (.ok ()) ⟨rfl, rfl⟩ <|
    .answered false ⟨rfl, rfl⟩ <|
    .answered (.error (.notFound "prod/blue-cart")) rfl <|
    .answered (.ok ()) ⟨rfl, rfl⟩ <|
    .answered false ⟨rfl, rfl⟩ <|
    .answered (.ok []) rfl <|
    .answered (.ok ()) ⟨rfl, rfl⟩ <|
    .answered (.ok ()) ⟨rfl, rfl⟩ <|
    .answered (.ok ()) ⟨rfl, rfl⟩ <|
    .answered false ⟨rfl, rfl⟩ <|
    .answered (.error noReply) rfl <| .here

def cartRelease : ReleaseForm := ⟨"team", "web", "blue", "prod", ["cart"]⟩

def releaseRequest : HttpRequest :=
  { cartRequest "web" with
    target := ⟨"/overrides/release", [], ""⟩
    body := some (.json cartRelease.toJson) }

def listedCart : RoutingObject where
  name := "blue-cart"
  ns := "prod"
  labels := []
  annotations := [("vsr.io/owners", "team/web")]
  host := "cart"
  subsets := []
  revision := some "2"

def overtaken : Failure := .conflict "prod/blue-cart: have 2, store has 3"

/-- The calls of an attempt that ends in a conflict. -/
def attempt : List Exchange :=
  [⟨.update (listedCart.removeOwner "vsr.io/owners" ⟨"team", "web"⟩).2, .error overtaken⟩,
    ⟨.get "prod" "blue-cart", .ok listedCart⟩]

theorem admitted_releaseRequest :
    Api.Admitted {} releaseRequest ReleaseForm.check "admin" cartRelease := ⟨rfl, rfl, rfl⟩

theorem reached_release : Reaches witnessed (Api.respond {} releaseRequest) []
    (.done (.detail 502 (Failure.atStore "cart" "update routing object blue-cart" overtaken).message))
    (attempt ++ attempt ++ attempt ++ attempt ++ attempt) := by
  rw [Api.respond_of_allowed rfl admitted_releaseRequest.endpoint_release]
  exact .answered (.ok ()) ⟨rfl, rfl⟩ <|
    .answered false ⟨rfl, rfl⟩ <| .answered (.ok listedCart) rfl <|
    .answered false ⟨rfl, rfl⟩ <| .answered (.error overtaken) rfl <| .answered (.ok ()) ⟨rfl, rfl⟩ <|
    .answered false ⟨rfl, rfl⟩ <| .answered (.ok listedCart) rfl <|
    .answered false ⟨rfl, rfl⟩ <| .answered (.error overtaken) rfl <| .answered (.ok ()) ⟨rfl, rfl⟩ <|
    .answered false ⟨rfl, rfl⟩ <| .answered (.ok listedCart) rfl <|
    .answered false ⟨rfl, rfl⟩ <| .answered (.error overtaken) rfl <| .answered (.ok ()) ⟨rfl, rfl⟩ <|
    .answered false ⟨rfl, rfl⟩ <| .answered (.ok listedCart) rfl <|
    .answered false ⟨rfl, rfl⟩ <| .answered (.error overtaken) rfl <| .answered (.ok ()) ⟨rfl, rfl⟩ <|
    .answered false ⟨rfl, rfl⟩ <| .answered (.ok listedCart) rfl <|
    .answered false ⟨rfl, rfl⟩ <| .answered (.error overtaken) rfl <| .here

end App

end RouteOverrides
