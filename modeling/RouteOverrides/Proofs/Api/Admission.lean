import RouteOverrides.Api.App

/-! # Which requests are let in

A request that changes something is let in if its body can be parsed, if it has a user, and if the body
says what is wanted. A request that is kept out gets its response at once, and nothing is asked of the
surroundings.

* `OverrideForm.eq_of_create?` — the handler that is made for a request.
* `Api.gate`, `Api.Admitted` — what a request is asked, and a request that is let in.
* `Api.respond_of_allowed` — such a request is answered by its action.
* `Api.respond_overrides` — a request to see to overrides is kept out, or a handler sees to them.
-/

namespace RouteOverrides

/-- A handler that is made for a request has what the request says, and the labels and the annotation
key of the settings. -/
theorem OverrideForm.eq_of_create? {settings : Settings} {form : OverrideForm} {handler : Handler}
    (created : Handler.create? settings form.options = .ok handler) :
    handler =
      { owner := form.owner
        uniqueName := form.uniqueName
        uniqueVersion := form.uniqueVersion
        ns := form.ns
        hosts := form.hosts
        versionLabel := Settings.orDefault form.versionLabel settings.versionLabel
        defaultVersion := Settings.orDefault form.defaultVersion settings.defaultVersion
        key := settings.annotationKey none } := by
  rw [Handler.create?] at created
  split at created
  · cases created
  split at created
  · cases created
  exact (Except.ok.inj created).symm

namespace Api

variable {settings : Settings} {request : HttpRequest} {response : HttpResponse}

/-- A request is let in, with a user and with what its body says. -/
structure Admitted {α : Type} (settings : Settings) (request : HttpRequest)
    (check : Json → Schema.Checked α) (user : String) (form : α) : Prop where
  parsed : parseBody request = .ok ()
  known : authenticate settings request = .ok user
  read : readBody check request = .ok form

/-- The statuses of the responses that keep a request out. -/
def refusals : List Nat := [400, 401, 422, 500]

/-- What a request that is let in is answered: the response of the action, unless that breaks. -/
def deliver (action : Action HttpResponse) : Program HttpResponse := do
  match ← action.run with
  | .ok response => pure response
  | .error _ => pure .crash

theorem status_unparsed : unparsed.status ∈ refusals := by decide

theorem status_refuse (part : String) (faults : List Schema.Fault) :
    (refuse part faults).status ∈ refusals := by simp [refuse, refusals]

theorem status_of_withinLimits {value : Json} (refused : withinLimits value = .error response) :
    response.status ∈ refusals := by
  rw [withinLimits] at refused
  split at refused
  · cases refused
  · cases refused
    exact status_unparsed

theorem status_refuseText (fault : Json.Fault) : (refuseText fault).status ∈ refusals := by
  rw [refuseText]
  split
  · exact status_refuse _ _
  · exact status_unparsed

theorem status_of_parseValue {body : Body} (refused : parseValue body = .error response) :
    response.status ∈ refusals := by
  cases body with
  | json value => exact status_of_withinLimits refused
  | bytes bytes =>
    rw [parseValue] at refused
    split at refused
    · cases refused
      exact status_unparsed
    · exact status_of_withinLimits refused
    · cases refused
      exact status_refuseText _

theorem status_of_parseBody (refused : parseBody request = .error response) :
    response.status ∈ refusals := by
  rw [parseBody] at refused
  split at refused
  · rename_i body sent
    split at refused
    · cases parsed : parseValue body with
      | ok value =>
        rw [parsed] at refused
        cases refused
      | error refusal =>
        rw [parsed] at refused
        cases refused
        exact status_of_parseValue parsed
    · cases refused
  · cases refused

theorem status_of_authenticate (refused : authenticate settings request = .error response) :
    response.status ∈ refusals := by
  rw [authenticate] at refused
  split at refused
  · cases refused
    decide
  · split at refused
    · cases refused
    · cases refused
      decide
    · cases refused
      decide

theorem status_refuseValue (value : Json) (faults : List Schema.Fault) :
    (refuseValue value faults).status ∈ refusals := by
  rw [refuseValue]
  split
  · exact status_refuse _ _
  · decide

theorem status_refuseUnread (body : Body) : (refuseUnread body).status ∈ refusals := by
  cases body with
  | json value => exact status_refuse _ _
  | bytes bytes =>
    rw [refuseUnread]
    split
    · exact status_refuse _ _
    · decide

theorem status_of_readBody {α : Type} {check : Json → Schema.Checked α}
    (refused : readBody check request = .error response) : response.status ∈ refusals := by
  rw [readBody] at refused
  split at refused
  · cases refused
    exact status_refuse _ _
  · split at refused
    · split at refused
      · rename_i parsed
        cases refused
        exact status_of_parseValue parsed
      · cases refused
        exact status_refuse _ _
      · rename_i value _ _
        cases checked : check value with
        | ok form =>
          rw [checked] at refused
          cases refused
        | error faults =>
          rw [checked] at refused
          cases refused
          exact status_refuseValue value faults
    · cases refused
      exact status_refuseUnread _

theorem status_withoutContent (request : HttpRequest) (response : HttpResponse) :
    (withoutContent request response).status = response.status := by
  rw [withoutContent]
  split <;> rfl

theorem respond_of_refused {route : Route} {response : HttpResponse}
    (asked : Route.dispatch request = .ok route)
    (refused : endpoint settings request route = .error response) :
    respond settings request = .done (withoutContent request response) := by
  have dispatched : (Route.dispatch request >>= endpoint settings request) = .error response := by
    rw [asked]
    exact refused
  rw [respond, dispatched]
  rfl

theorem respond_of_allowed {route : Route} {action : Action HttpResponse}
    (asked : Route.dispatch request = .ok route)
    (allowed : endpoint settings request route = .ok action) :
    respond settings request = deliver action := by
  have dispatched : (Route.dispatch request >>= endpoint settings request) = .ok action := by
    rw [asked]
    exact allowed
  rw [respond, dispatched]
  rfl

/-! ## The gate -/

section Gate

variable {α : Type} (settings : Settings) (request : HttpRequest) (check : Json → Schema.Checked α)
  (act : String → α → Action HttpResponse)

/-- What a request is asked before it may change something, and what it does if it is let in. -/
def gate : Except HttpResponse (Action HttpResponse) := do
  parseBody request
  let user ← authenticate settings request
  pure (act user (← readBody check request))

theorem endpoint_overrides : endpoint settings request .overrides =
    gate settings request OverrideForm.check (reconcile settings) := rfl

theorem endpoint_release : endpoint settings request .release =
    gate settings request ReleaseForm.check (release settings) := rfl

theorem gate_cases :
    (∃ response, response.status ∈ refusals ∧
      gate settings request check act = .error response) ∨
    ∃ user form, Admitted settings request check user form := by
  rw [gate]
  cases parsed : parseBody request with
  | error response => exact .inl ⟨response, status_of_parseBody parsed, rfl⟩
  | ok _ =>
    cases known : authenticate settings request with
    | error response => exact .inl ⟨response, status_of_authenticate known, rfl⟩
    | ok user =>
      cases read : readBody check request with
      | error response => exact .inl ⟨response, status_of_readBody read, rfl⟩
      | ok form => exact .inr ⟨user, form, parsed, known, read⟩

end Gate

theorem Admitted.gate_eq {α : Type} {check : Json → Schema.Checked α} {user : String} {form : α}
    (admitted : Admitted settings request check user form)
    (act : String → α → Action HttpResponse) :
    gate settings request check act = .ok (act user form) := by
  rw [gate, admitted.parsed, admitted.known, admitted.read]
  rfl

theorem Admitted.endpoint_overrides {user : String} {form : OverrideForm}
    (admitted : Admitted settings request OverrideForm.check user form) :
    endpoint settings request .overrides = .ok (reconcile settings user form) :=
  admitted.gate_eq (reconcile settings)

theorem Admitted.endpoint_release {user : String} {form : ReleaseForm}
    (admitted : Admitted settings request ReleaseForm.check user form) :
    endpoint settings request .release = .ok (release settings user form) :=
  admitted.gate_eq (release settings)

theorem exists_admitted_of_gate {α : Type} {check : Json → Schema.Checked α}
    {act : String → α → Action HttpResponse} {action : Action HttpResponse}
    (allowed : gate settings request check act = .ok action) :
    ∃ user form, Admitted settings request check user form ∧ action = act user form := by
  rcases gate_cases settings request check act with
    ⟨response, -, refused⟩ | ⟨user, form, admitted⟩
  · cases refused.symm.trans allowed
  · exact ⟨user, form, admitted, Except.ok.inj (allowed.symm.trans (admitted.gate_eq act))⟩

/-- A request to see to overrides is kept out, also by a name that is not accepted, or a handler sees to
them. -/
theorem respond_overrides (settings : Settings) (asked : Route.dispatch request = .ok .overrides) :
    (∃ response, response.status ∈ refusals ∧ respond settings request = .done response) ∨
    ∃ user form handler, Admitted settings request OverrideForm.check user form ∧
      Handler.create? settings form.options = .ok handler ∧
      respond settings request = deliver (reconcile settings user form) := by
  rcases gate_cases settings request OverrideForm.check (reconcile settings) with
    ⟨response, status, refused⟩ | ⟨user, form, admitted⟩
  · refine .inl ⟨_, ?_, respond_of_refused asked refused⟩
    rwa [status_withoutContent]
  · have responds := respond_of_allowed asked admitted.endpoint_overrides
    cases created : Handler.create? settings form.options with
    | error failure =>
      refine .inl ⟨.detail 422 failure.message, by simp [refusals, HttpResponse.detail], ?_⟩
      rw [responds, deliver, reconcile, created]
      rfl
    | ok handler => exact .inr ⟨user, form, handler, admitted, created, responds⟩

end Api

theorem App.handle_of_refused {app : App} {request : HttpRequest} {response : HttpResponse}
    (refused : Api.respond app.settings request = .done response) :
    app.handle request = (response, app) := by
  rw [handle, refused]
  rfl

end RouteOverrides
