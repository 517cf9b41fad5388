import RouteOverrides.Proofs.Api.Reconcile
import RouteOverrides.Proofs.Program.Confinement

/-! # Requests that are rejected

A request may be rejected for its body, which need not even be JSON, for its credentials, for the names
that it gives to its overrides, or for a limit out of range. All of these are found out before anything is asked of the surroundings, and
whatever is asked for afterwards is answered with another status. So a rejected request might as well
not have been sent.

* `HttpResponse.Rejects` — the responses that reject a request.
* `Api.Authorized` — a request carries the configured user and password.
* `Api.rejects_at_once` — a program that rejects a request asks for nothing.
* `App.unheard_rejected` — rejected requests change nothing, neither for the application nor for the
  requests around them.
-/

namespace RouteOverrides

open Program

/-- A response that rejects its request. -/
def HttpResponse.Rejects (response : HttpResponse) : Prop := response.status ∈ [400, 401, 422]

instance : DecidablePred HttpResponse.Rejects := fun response =>
  inferInstanceAs (Decidable (response.status ∈ [400, 401, 422]))

theorem HttpResponse.not_rejects_ok (value : Json) : ¬ (HttpResponse.ok value).Rejects := by
  simp [Rejects, HttpResponse.ok]

theorem HttpResponse.not_rejects_detail {status : Nat} (other : status ∉ [400, 401, 422])
    (text : String) : ¬ (HttpResponse.detail status text).Rejects := other

theorem Credentials.eq_of_judge {credentials : Credentials} {settings : Settings}
    (accepted : credentials.judge settings = .accepted) :
    credentials.user = settings.adminUser ∧ credentials.password = settings.adminPassword := by
  have equal : ∀ given configured, compareText given configured = .accepted → given = configured := by
    intro given configured same
    rw [compareText] at same
    split at same
    · cases same
    · split at same
      · assumption
      · cases same
  rw [judge] at accepted
  split at accepted
  · rename_i sameUser
    exact ⟨equal _ _ sameUser, equal _ _ accepted⟩
  · rename_i other
    exact absurd accepted other

namespace Api

variable {settings : Settings} {request : HttpRequest} {handler : Handler} {α : Type}

/-! ## Who is let in -/

/-- A request carries the configured user and the configured password. -/
def Authorized (settings : Settings) (request : HttpRequest) : Prop :=
  ∃ credentials, (request.header? "authorization").bind Credentials.ofHeader? = some credentials ∧
    credentials.user = settings.adminUser ∧ credentials.password = settings.adminPassword

theorem authorized_of_authenticate {user : String} (known : authenticate settings request = .ok user) :
    Authorized settings request := by
  rw [authenticate] at known
  split at known
  · cases known
  · rename_i credentials carried
    split at known
    · rename_i accepted
      exact ⟨credentials, carried, Credentials.eq_of_judge accepted⟩
    · cases known
    · cases known

theorem gate_of_unauthorized (unauthorized : ¬ Authorized settings request)
    (check : Json → Schema.Checked α) (act : String → α → Action HttpResponse) :
    ∃ response, response.status ∈ refusals ∧ gate settings request check act = .error response :=
  (gate_cases settings request check act).resolve_right fun ⟨_, _, admitted⟩ =>
    unauthorized (authorized_of_authenticate admitted.known)

/-- A request that would change something is kept out unless it is authorized. -/
theorem respond_of_unauthorized
    (asked : Route.dispatch request = .ok .overrides ∨ Route.dispatch request = .ok .release)
    (unauthorized : ¬ Authorized settings request) :
    ∃ response, response.status ∈ refusals ∧ respond settings request = .done response := by
  rcases asked with asked | asked
  · obtain ⟨response, status, refused⟩ :=
      gate_of_unauthorized unauthorized OverrideForm.check (reconcile settings)
    exact ⟨_, by rwa [status_withoutContent], respond_of_refused asked refused⟩
  · obtain ⟨response, status, refused⟩ :=
      gate_of_unauthorized unauthorized ReleaseForm.check (release settings)
    exact ⟨_, by rwa [status_withoutContent], respond_of_refused asked refused⟩

/-! ## Actions that reject nothing -/

/-- Whatever an action is answered, its responses are no rejections. -/
def Receives (action : Action HttpResponse) : Prop :=
  Confined (fun _ => True) (fun answer => ∀ response, answer = .ok response → ¬ response.Rejects)
    action.run

theorem receives_pure {response : HttpResponse} (received : ¬ response.Rejects) :
    Receives (pure response) := by
  rintro _ ⟨⟩
  exact received

theorem receives_throw (failure : Failure) : Receives (throw failure) := nofun

theorem receives_bind (action : Action α) {next : α → Action HttpResponse}
    (received : ∀ value, Receives (next value)) : Receives (action >>= next) := by
  rw [Receives, ExceptT.run_bind]
  refine (confined_any action.run).bind fun result _ => ?_
  cases result with
  | ok value => exact received value
  | error failure => exact receives_throw failure

theorem receives_storeResponse (failure : Failure) : Receives (storeResponse failure) := by
  cases failure with
  | atStore host operation cause =>
    exact receives_pure (HttpResponse.not_rejects_detail (by decide) _)
  | _ => exact receives_throw _

theorem receives_finish (handler : Handler) (result : PassResult) :
    Receives (finish handler result) := by
  refine receives_bind _ fun settled => ?_
  cases settled with
  | ok statuses =>
    exact receives_bind _ fun _ => receives_pure (HttpResponse.not_rejects_ok _)
  | error failure => exact receives_storeResponse failure

theorem receives_finishWithout (handler : Handler) (tracker : Tracker) (failure : Failure) :
    Receives (finishWithout handler tracker failure) := by
  refine receives_bind _ fun settled => ?_
  cases settled with
  | ok _ => exact receives_pure (HttpResponse.not_rejects_detail (by decide) _)
  | error failure => exact receives_storeResponse failure

theorem receives_reconcile {user : String} {form : OverrideForm}
    (created : Handler.create? settings form.options = .ok handler) :
    Receives (reconcile settings user form) := by
  rw [reconcile, created]
  refine receives_bind _ fun _ => receives_bind _ fun outcome => ?_
  obtain ⟨result, tracker⟩ := outcome
  cases result with
  | ok result => exact receives_finish handler result
  | error failure =>
    cases failure with
    | noActiveHost subset ignored => exact receives_finishWithout handler tracker _
    | cancelled text => exact receives_pure (HttpResponse.not_rejects_detail (by decide) _)
    | _ => exact receives_storeResponse _

theorem receives_release (settings : Settings) (user : String) (form : ReleaseForm) :
    Receives (release settings user form) := by
  refine receives_bind _ fun _ => receives_bind _ fun settled => ?_
  cases settled with
  | ok names => exact receives_pure (HttpResponse.not_rejects_ok _)
  | error failure => exact receives_storeResponse failure

theorem receives_events {limit : Int} :
    (∃ response, events limit = pure response) ∨ Receives (events limit) := by
  rw [events]
  split
  · exact .inl ⟨_, rfl⟩
  · exact .inr (receives_bind _ fun rows => receives_pure (by simp [HttpResponse.Rejects]))

/-! ## Rejections -/

/-- What a request comes to that is not kept out: it is answered at once, or never rejected. -/
theorem endpoint_cases {route : Route} {action : Action HttpResponse}
    (allowed : endpoint settings request route = .ok action) :
    (∃ response, action = pure response) ∨ Receives action := by
  cases route with
  | health | page =>
    cases allowed
    exact .inl ⟨_, rfl⟩
  | overrides =>
    rw [endpoint_overrides] at allowed
    obtain ⟨user, form, -, rfl⟩ := exists_admitted_of_gate allowed
    cases created : Handler.create? settings form.options with
    | error failure =>
      refine .inl ⟨.detail 422 failure.message, ?_⟩
      rw [reconcile, created]
    | ok handler => exact .inr (receives_reconcile created)
  | release =>
    rw [endpoint_release] at allowed
    obtain ⟨user, form, -, rfl⟩ := exists_admitted_of_gate allowed
    exact .inr (receives_release settings user form)
  | status subset =>
    cases allowed
    exact .inr (receives_bind _ fun statuses => receives_pure (HttpResponse.not_rejects_ok _))
  | watch =>
    rw [endpoint] at allowed
    cases parsed : parseBody request with
    | error response =>
      rw [parsed] at allowed
      cases allowed
    | ok _ =>
      cases read : readBody WatchEvent.check request with
      | error response =>
        rw [parsed, read] at allowed
        cases allowed
      | ok event =>
        rw [parsed, read] at allowed
        cases allowed
        exact .inr (receives_bind _ fun owners => receives_pure (HttpResponse.not_rejects_ok _))
  | events =>
    rw [endpoint] at allowed
    cases read : readLimit request with
    | error response =>
      rw [read] at allowed
      cases allowed
    | ok limit =>
      rw [read] at allowed
      cases allowed
      exact receives_events

/-- A request is answered at once, or it is not rejected, whatever it asks for is answered. -/
theorem rejects_at_once (settings : Settings) (request : HttpRequest) :
    (∃ response, respond settings request = .done response) ∨
      Confined (fun _ => True) (fun response => ¬ response.Rejects) (respond settings request) := by
  cases asked : Route.dispatch request >>= endpoint settings request with
  | error response =>
    rw [respond, asked]
    exact .inl ⟨_, rfl⟩
  | ok action =>
    have responds : respond settings request = deliver action := by
      rw [respond, asked]
      rfl
    have allowed : ∃ route, endpoint settings request route = .ok action := by
      cases dispatched : Route.dispatch request with
      | error response =>
        rw [dispatched] at asked
        cases asked
      | ok route =>
        rw [dispatched] at asked
        exact ⟨route, asked⟩
    obtain ⟨route, allowed⟩ := allowed
    rw [responds]
    rcases endpoint_cases allowed with ⟨response, rfl⟩ | received
    · exact .inl ⟨response, rfl⟩
    · refine .inr (Confined.bind received fun answer fine => ?_)
      cases answer with
      | ok response => exact fine response rfl
      | error failure => exact (by decide : ¬ HttpResponse.crash.Rejects)

end Api

namespace App

variable {app : App} {request : HttpRequest}

theorem handle_of_rejects (rejected : (app.handle request).1.Rejects) :
    (app.handle request).2 = app := by
  rcases Api.rejects_at_once app.settings request with ⟨response, refused⟩ | received
  · rw [handle_of_refused refused]
  · exact absurd rejected (received.good_run _ _)

theorem handleAll_of_others (app : App) (requests : List HttpRequest) :
    let others := (requests.zip (app.handleAll requests)).filter fun pair => ¬ pair.2.Rejects
    app.handleAll (others.map Prod.fst) = others.map Prod.snd := by
  induction requests generalizing app with
  | nil => rfl
  | cons request rest inductionHypothesis =>
    have onward := inductionHypothesis (app.handle request).2
    rw [handleAll, List.zip_cons_cons, List.filter_cons]
    by_cases rejected : (app.handle request).1.Rejects
    · rw [handle_of_rejects rejected] at onward ⊢
      rw [if_neg (by simpa using rejected)]
      exact onward
    · rw [if_pos (by simpa using rejected)]
      simp only [List.map_cons, handleAll]
      rw [onward]

/-- Rejected requests change nothing. One that would change something is not carried out unless it is
authorized. Taken out of a sequence, rejected requests leave the responses to the others as they are. -/
theorem unheard_rejected :
    (∀ (app : App) (request : HttpRequest), (app.handle request).1.Rejects →
      (app.handle request).2 = app) ∧
    (∀ (app : App) (request : HttpRequest),
      Route.dispatch request = .ok .overrides ∨ Route.dispatch request = .ok .release →
      ¬ Api.Authorized app.settings request →
      (app.handle request).1.status ∉ [200, 409, 502] ∧ (app.handle request).2 = app) ∧
    ∀ (app : App) (requests : List HttpRequest),
      let others := (requests.zip (app.handleAll requests)).filter fun pair => ¬ pair.2.Rejects
      app.handleAll (others.map Prod.fst) = others.map Prod.snd := by
  refine ⟨fun app request rejected => handle_of_rejects rejected,
    fun app request asked unauthorized => ?_, handleAll_of_others⟩
  obtain ⟨response, status, refused⟩ := Api.respond_of_unauthorized asked unauthorized
  rw [handle_of_refused refused]
  have other : ∀ number ∈ Api.refusals, number ∉ [200, 409, 502] := by decide
  exact ⟨other _ status, rfl⟩

/-- A request with a guessed password. -/
def guessingRequest : HttpRequest :=
  { cartRequest "web" with
    headers := [("authorization", (⟨"admin", "guess"⟩ : Credentials).toHeader)] }

def limitRequest : HttpRequest where
  method := "GET"
  target := ⟨"/events", [("limit", "0")], "limit=0"⟩

/-- A request with the credentials of another one, whose body is said to be JSON. -/
def rawRequest (bytes : List UInt8) : HttpRequest :=
  { cartRequest "web" with
    headers := ("content-type", "application/json") :: (cartRequest "web").headers
    body := some (.bytes bytes) }

/-- A request whose body breaks off after its first brace. -/
def brokenRequest : HttpRequest := rawRequest [0x7b]

/-- A request whose body is no text. -/
def garbledRequest : HttpRequest := rawRequest [0xff]

theorem unheard_rejected_guess :
    (cartShop.handle guessingRequest).1.Rejects ∧ (cartShop.handle guessingRequest).2 = cartShop ∧
    ¬ Api.Authorized {} guessingRequest ∧
    (cartShop.handle guessingRequest).1.status ∉ [200, 409, 502] ∧
    (cartShop.handleAll
      [guessingRequest, brokenRequest, cartRequest "web", garbledRequest, limitRequest]).map
        (·.status) = [401, 422, 200, 400, 400] ∧
    ∃ others : List (HttpRequest × HttpResponse), others.map (·.2.status) = [200] ∧
      cartShop.handleAll (others.map Prod.fst) = others.map Prod.snd := by
  have rejected : (cartShop.handle guessingRequest).1.Rejects := by decide +kernel
  have carried : (guessingRequest.header? "authorization").bind Credentials.ofHeader? =
      some ⟨"admin", "guess"⟩ := by decide +kernel
  have unauthorized : ¬ Api.Authorized {} guessingRequest := by
    rintro ⟨credentials, same, -, password⟩
    rw [carried, Option.some.injEq] at same
    subst same
    exact absurd password (by decide)
  refine ⟨rejected, unheard_rejected.1 cartShop guessingRequest rejected, unauthorized,
    (unheard_rejected.2.1 cartShop guessingRequest (.inl rfl) unauthorized).1, by decide +kernel,
    _, ?_, unheard_rejected.2.2 cartShop
      [guessingRequest, brokenRequest, cartRequest "web", garbledRequest, limitRequest]⟩
  decide +kernel

end App

end RouteOverrides
