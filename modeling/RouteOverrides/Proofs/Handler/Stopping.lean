import RouteOverrides.Proofs.Handler.Errand
import RouteOverrides.Proofs.Program.Signal

/-! # Errands that are told to stop

Passes, reports and releases look at the signal to stop before each of their store calls. So once the
signal is set they make no further call, and in particular write nothing any more.

* `Handler.attentive_handle`, `Handler.attentive_statusesOf`, `Release.attentive_forHosts` — the three
  kinds of errands, along their texts.
* `Errand.halts_once_told` — what is left of an errand when the signal is set.
-/

namespace RouteOverrides

open Program

/-! ## Looking for baselines -/

theorem Lookup.attentive_locate (lookup : Lookup) (host : String) :
    (lookup.locate host).Attentive :=
  Action.attentive_blaming_call fun objects => by
    split
    · exact Action.attentive_pure _
    · exact (Action.attentive_log _).bind fun _ => Action.attentive_pure _

theorem Template.attentive_generate (template : Template) (host : String) :
    (template.generate host).Attentive :=
  (template.lookup.attentive_locate host).bind fun _ => Action.attentive_pure _

/-! ## Passes and reports -/

namespace Handler

variable (handler : Handler) (host : String)

theorem attentive_present : (handler.present host).Attentive :=
  Action.attentive_attempt fun reply => by
    cases reply with
    | ok _ => exact Action.attentive_pure true
    | error failure =>
      cases failure with
      | notFound _ => exact Action.attentive_pure false
      | _ => exact Action.attentive_throw _

theorem attentive_createMissing : (handler.createMissing host).Attentive := by
  refine (Pass.attentive_ofAction (Action.attentive_blaming_record _ _ _ _)).bind fun _ => ?_
  refine (Pass.attentive_ofAction (handler.template.attentive_generate host)).bind fun found => ?_
  cases found with
  | none =>
    refine Pass.attentive_tracker.bind fun tracker => (Pass.attentive_note _).bind fun _ => ?_
    split
    · exact Pass.attentive_ofAction (Action.attentive_log _)
    · exact Pass.attentive_pure ()
  | some object =>
    refine (Pass.attentive_ofAction (Action.attentive_log _)).bind fun _ => ?_
    exact Pass.attentive_blaming_call fun _ => Pass.attentive_note _

theorem attentive_visit : (handler.visit host).Attentive := by
  refine (Pass.attentive_ofAction (handler.attentive_present host)).bind fun present => ?_
  cases present with
  | true => exact Pass.attentive_note _
  | false => exact handler.attentive_createMissing host

theorem attentive_visitAll (hosts : List String) : (handler.visitAll hosts).Attentive := by
  induction hosts with
  | nil => exact Pass.attentive_pure ()
  | cons host rest inductionHypothesis =>
    exact (handler.attentive_visit host).bind fun _ => inductionHypothesis

theorem attentive_handle : handler.handle.Attentive := by
  refine (Pass.attentive_note _).bind fun _ => (handler.attentive_visitAll _).bind fun _ => ?_
  refine Pass.attentive_tracker.bind fun tracker => ?_
  dsimp only
  split
  · exact (Pass.attentive_ofAction (Action.attentive_log _)).bind fun _ => Pass.attentive_throw _
  · exact Pass.attentive_pure _

theorem attentive_statusesOf (ignored hosts : List String) :
    (handler.statusesOf ignored hosts).Attentive := by
  induction hosts with
  | nil => exact Action.attentive_pure []
  | cons host rest inductionHypothesis =>
    exact (handler.attentive_present host).bind fun _ => inductionHypothesis.bind fun _ =>
      Action.attentive_pure _

end Handler

/-! ## Releases -/

namespace Release

variable (release : Release) (host name : String)

theorem attentive_writeBack {left : Nat} (object : RoutingObject)
    (again : (release.one host name left).Attentive) :
    (release.writeBack host name left object).Attentive :=
  Action.attentive_attempt fun reply => by
    cases reply with
    | ok _ => exact (Action.attentive_log _).bind fun _ => Action.attentive_pure _
    | error failure =>
      cases failure with
      | conflict detail =>
        dsimp only
        split
        · exact Action.attentive_throw _
        · exact (Action.attentive_log _).bind fun _ => again
      | _ => exact Action.attentive_throw _

theorem attentive_one (left : Nat) : (release.one host name left).Attentive := by
  -- On the attempts that are left: after a conflict the next attempt looks at the signal again.
  induction left with
  | zero => exact Action.attentive_pure false
  | succ left inductionHypothesis =>
    rw [one_succ]
    refine Action.attentive_attempt fun reply => ?_
    cases reply with
    | ok object =>
      dsimp only
      split
      · exact release.attentive_writeBack host name object inductionHypothesis
      · exact Action.attentive_pure false
    | error failure =>
      cases failure with
      | notFound _ => exact Action.attentive_pure false
      | _ => exact Action.attentive_throw _

theorem attentive_forHosts (hosts : List String) : (release.forHosts hosts).Attentive := by
  induction hosts with
  | nil => exact Action.attentive_pure []
  | cons host rest inductionHypothesis =>
    exact (release.attentive_one host _ maxAttempts).bind fun _ => inductionHypothesis.bind fun _ =>
      Action.attentive_pure _

end Release

/-! ## Errands -/

namespace Errand

/-- An errand that has been told to stop. -/
def Interrupted (ended : Ended) : Prop := ended.1 = .error .interrupted

theorem attentive (errand : Errand) (trackers : List Tracker) :
    Attentive Interrupted (errand.program trackers) := by
  obtain ⟨handler, tracker, task⟩ := errand
  -- The caller takes the result as it is, and an errand that is halted stays so.
  cases task with
  | handle =>
    refine (handler.attentive_handle _).bind (fun ended isHalted => ⟨_, rfl, ?_⟩) fun _ => .done _
    rw [Interrupted, isHalted]
    rfl
  | statuses ignored =>
    refine Attentive.bind (handler.attentive_statusesOf _ handler.hosts) ?_ fun _ => .done _
    rintro _ rfl
    exact ⟨_, rfl, rfl⟩
  | release =>
    refine Attentive.bind (handler.toRelease.attentive_forHosts handler.hosts) ?_ fun _ => .done _
    rintro _ rfl
    exact ⟨_, rfl, rfl⟩

/-- Let an errand run over any store and any database: each request may be answered or fail in any way.
The signal to stop may be set before the errand starts or while a request is answered, and is not taken
back. What is left of the errand then makes no store call. It ends, and either as it might have ended
without the signal and without the store, or with the failure that it was interrupted, and then it had a
store call left to make. -/
theorem halts_once_told (errand : Errand) (trackers : List Tracker) {set : Bool}
    {left : Program Ended} (reached : Reaches signal (errand.program trackers) set left true) :
    HaltsFrom Interrupted left := (errand.attentive trackers).haltsFrom reached

/-! ## A pass that is told to stop

The signal is set while the pass waits for the objects of the namespace. The baseline is among them, so
the override would be created next. -/

def cartPass : Errand where
  handler :=
    { owner := ⟨"team", "web"⟩
      uniqueName := "blue"
      uniqueVersion := "v2"
      ns := "prod"
      hosts := ["cart", "search"]
      versionLabel := "version"
      defaultVersion := "shared"
      key := "owners" }
  tracker := 0
  task := .handle

def cartBaseline : RoutingObject where
  name := "cart"
  ns := "prod"
  labels := []
  annotations := []
  host := "cart"
  subsets := [⟨"v1", [("version", "shared")]⟩]
  revision := some "1"

theorem halts_while_listing : ∃ left, Reaches signal (cartPass.program []) false left true ∧
    HaltsFrom Interrupted left ∧
    ∃ ended, Reaches signal left true (.done ended) true ∧ Interrupted ended := by
  have reached : Reaches signal (cartPass.program []) false _ true :=
    .answered false ⟨rfl, rfl⟩ <|
    .answered (.error (.notFound "prod/blue-cart")) (id : false = true → _) <|
    .answered (.ok ()) (id : false = true → _) <|
    .answered false ⟨rfl, rfl⟩ <|
    .answered (.ok [cartBaseline]) (fun _ => rfl) .here
  refine ⟨_, reached, halts_once_told cartPass [] reached, (.error .interrupted, []), ?_, rfl⟩
  exact .answered (.ok ()) (fun _ => rfl) <| .answered true ⟨rfl, rfl⟩ .here

end Errand

end RouteOverrides
