import Mathlib.Data.List.Chain
import RouteOverrides.Proofs.Release.Atomicity

/-! # How a release of one host ends

The loop of a release reads an override and writes it back, and begins anew after a conflict. What it
does is kept as a list of deeds, the oldest first: store calls with their replies, and entries in the
journal. A call may get any reply, so these are the runs over every store, also one that others use.

* `Deed`, `recorded` — what a run does, and the rules under which it is kept.
* `Release.Course` — the runs of the loop, by the number of attempts that are left.
* `Release.Follows` — which deed may come right after which.
* `Release.Verdict` — what the deeds of a run say about its result.
* `Release.oneElse` — the loop, with something else to do once all attempts are used up.
* `Release.verdict_of_reaches` — every run ends with the right verdict.
-/

namespace RouteOverrides

open Program

/-- Something that a program does: a store call with its reply, or an entry in the journal. -/
inductive Deed
  | get (ns name : String) (reply : Except Failure RoutingObject)
  | list (ns : String) (reply : Except Failure (List RoutingObject))
  | create (object : RoutingObject) (reply : Except Failure Unit)
  | update (object : RoutingObject) (reply : Except Failure Unit)
  | log (entry : Entry)

/-- The deeds of a program are kept, the oldest first. A store call may get any reply. The database works,
and no program is told to stop. -/
def recorded : Rules (List Deed)
  | .store (.get ns name), deeds, reply, later => later = deeds ++ [.get ns name reply]
  | .store (.list ns), deeds, reply, later => later = deeds ++ [.list ns reply]
  | .store (.create object), deeds, reply, later => later = deeds ++ [.create object reply]
  | .store (.update object), deeds, reply, later => later = deeds ++ [.update object reply]
  | .log entry, deeds, answer, later => answer = .ok () ∧ later = deeds ++ [.log entry]
  | .record _ _, deeds, answer, later => answer = .ok () ∧ later = deeds
  | .report _, deeds, answer, later => (∃ statuses, answer = .ok statuses) ∧ later = deeds
  | .latest _, deeds, answer, later => (∃ rows, answer = .ok rows) ∧ later = deeds
  | .interrupted, deeds, stop, later => stop = false ∧ later = deeds

theorem recorded_answers (request : Request) (deeds : List Deed) :
    ∃ answer later, recorded request deeds answer later := by
  cases request with
  | store call => cases call <;> exact ⟨.error .misread, _, rfl⟩
  | log _ | record _ _ => exact ⟨.ok (), _, rfl, rfl⟩
  | report _ | latest _ => exact ⟨.ok [], deeds, ⟨[], rfl⟩, rfl⟩
  | interrupted => exact ⟨false, deeds, rfl, rfl⟩

namespace Deed

def isGet : Deed → Bool
  | get _ _ _ => true
  | _ => false

end Deed

/-- The replies to the updates among some deeds. -/
def updateReplies : List Deed → List (Except Failure Unit)
  | [] => []
  | .update _ reply :: rest => reply :: updateReplies rest
  | .get _ _ _ :: rest | .list _ _ :: rest | .create _ _ :: rest | .log _ :: rest =>
    updateReplies rest

namespace Release

variable {release : Release} {host name : String} {left attempts : Nat} {deeds : List Deed}
  {result : Except Failure Bool}

/-! ## The runs of the loop -/

/-- What a failed reading is reported as. -/
abbrev getFailure (host name : String) (failure : Failure) : Failure :=
  .atStore host ("get routing object " ++ name) failure

/-- What a failed write is reported as. -/
abbrev updateFailure (host name : String) (failure : Failure) : Failure :=
  .atStore host ("update routing object " ++ name) failure

/-- The deeds of a loop with some attempts left, and its result. -/
inductive Course (release : Release) (host name : String) :
    Nat → List Deed → Except Failure Bool → Prop where
  | absent {left : Nat} (detail : String) :
      Course release host name (left + 1) [.get release.ns name (.error (.notFound detail))] (.ok false)
  | unread {left : Nat} {failure : Failure} (other : ∀ detail, failure ≠ .notFound detail) :
      Course release host name (left + 1) [.get release.ns name (.error failure)]
        (.error (getFailure host name failure))
  | unlisted {left : Nat} {object : RoutingObject}
      (unlisted : release.owner ∉ (object.owners release.key).toList) :
      Course release host name (left + 1) [.get release.ns name (.ok object)] (.ok false)
  | released {left : Nat} {object : RoutingObject}
      (listed : release.owner ∈ (object.owners release.key).toList) :
      Course release host name (left + 1)
        [.get release.ns name (.ok object), .update (release.withoutOwner object) (.ok ()),
          .log (release.releasedEntry host name)]
        (.ok ((release.withoutOwner object).owners release.key).toList.isEmpty)
  | unwritten {left : Nat} {object : RoutingObject} {failure : Failure}
      (listed : release.owner ∈ (object.owners release.key).toList)
      (other : ∀ detail, failure ≠ .conflict detail) :
      Course release host name (left + 1)
        [.get release.ns name (.ok object), .update (release.withoutOwner object) (.error failure)]
        (.error (updateFailure host name failure))
  | exhausted {object : RoutingObject} {detail : String}
      (listed : release.owner ∈ (object.owners release.key).toList) :
      Course release host name 1
        [.get release.ns name (.ok object),
          .update (release.withoutOwner object) (.error (.conflict detail))]
        (.error (updateFailure host name (.conflict detail)))
  | again {left : Nat} {object : RoutingObject} {detail : String} {rest : List Deed}
      {result : Except Failure Bool}
      (listed : release.owner ∈ (object.owners release.key).toList)
      (onward : Course release host name (left + 1) rest result) :
      Course release host name (left + 2)
        (.get release.ns name (.ok object) ::
          .update (release.withoutOwner object) (.error (.conflict detail)) ::
          .log (release.conflictEntry host name) :: rest)
        result

/-- A run of the loop takes one of these courses. -/
theorem keeps_one_course (release : Release) (host name : String) (left : Nat) (before : List Deed) :
    Keeps recorded (fun _ _ => True)
      (fun result later => ∃ deeds, later = before ++ deeds ∧
        release.Course host name (left + 1) deeds result)
      (release.one host name (left + 1)).run before := by
  refine keeps_one_succ.2 ⟨trivial, fun _ stopped => Bool.noConfusion stopped.1, ?_⟩
  rintro _ ⟨-, rfl⟩
  refine ⟨trivial, ?_⟩
  rintro reply _ rfl
  cases reply with
  | error failure =>
    cases failure with
    | notFound detail => exact ⟨_, rfl, .absent detail⟩
    | _ => exact ⟨_, rfl, .unread nofun⟩
  | ok object =>
    dsimp only [AfterRead]
    split
    · rename_i listed
      refine keeps_writeBack.2 ⟨trivial, fun _ stopped => Bool.noConfusion stopped.1, ?_⟩
      rintro _ ⟨-, rfl⟩
      refine ⟨trivial, ?_⟩
      rintro reply _ rfl
      cases reply with
      | ok _ =>
        refine ⟨trivial, ?_⟩
        rintro _ _ ⟨rfl, rfl⟩
        exact ⟨_, by simp, .released listed⟩
      | error failure =>
        cases failure with
        | conflict detail =>
          cases left with
          | zero => exact ⟨_, by simp, .exhausted listed⟩
          | succ left =>
            refine ⟨trivial, ?_⟩
            rintro _ _ ⟨rfl, rfl⟩
            refine (keeps_one_course release host name left _).mono ?_
            rintro result _ ⟨deeds, rfl, onward⟩
            exact ⟨_, by simp only [List.append_assoc]; rfl, .again listed onward⟩
        | _ => exact ⟨_, by simp, .unwritten listed nofun⟩
    · rename_i unlisted
      exact ⟨_, rfl, .unlisted unlisted⟩

theorem course_of_reaches
    (reached : Reaches recorded (release.one host name (left + 1)).run [] (.done result) deeds) :
    release.Course host name (left + 1) deeds result := by
  obtain ⟨_, rfl, course⟩ := (keeps_one_course release host name left []).post_of_reaches reached
  exact course

/-! ## What follows what -/

/-- The second deed of a loop may come right after the first one. -/
inductive Follows (release : Release) (host name : String) : Deed → Deed → Prop where
  | writes {object : RoutingObject} {reply : Except Failure Unit}
      (listed : release.owner ∈ (object.owners release.key).toList) :
      Follows release host name (.get release.ns name (.ok object))
        (.update (release.withoutOwner object) reply)
  | warns {object : RoutingObject} {detail : String} :
      Follows release host name (.update object (.error (.conflict detail)))
        (.log (release.conflictEntry host name))
  | retries {reply : Except Failure RoutingObject} :
      Follows release host name (.log (release.conflictEntry host name))
        (.get release.ns name reply)
  | informs {object : RoutingObject} :
      Follows release host name (.update object (.ok ())) (.log (release.releasedEntry host name))

namespace Course

theorem starts (course : release.Course host name attempts deeds result) :
    ∃ reply rest, deeds = .get release.ns name reply :: rest := by
  cases course <;> exact ⟨_, _, rfl⟩

theorem follows (course : release.Course host name attempts deeds result) :
    deeds.IsChain (release.Follows host name) := by
  induction course with
  | absent _ | unread _ | unlisted _ => exact .singleton _
  | released listed => exact .cons_cons (.writes listed) (.cons_cons .informs (.singleton _))
  | unwritten listed _ | exhausted listed => exact .cons_cons (.writes listed) (.singleton _)
  | again listed onward inductionHypothesis =>
    obtain ⟨reply, rest, rfl⟩ := onward.starts
    exact .cons_cons (.writes listed) (.cons_cons .warns (.cons_cons .retries inductionHypothesis))

/-- A warning is never the end. A conflict is the end only of a loop that fails for it. -/
theorem ends (course : release.Course host name attempts deeds result) :
    deeds.getLast? ≠ some (.log (release.conflictEntry host name)) ∧
    ∀ object detail, deeds.getLast? = some (.update object (.error (.conflict detail))) →
      result = .error (updateFailure host name (.conflict detail)) := by
  induction course with
  | absent _ | unread _ | unlisted _ => simp
  | released listed => simp [releasedEntry, conflictEntry]
  | unwritten listed other => simp [other]
  | exhausted listed => simp
  | again listed onward inductionHypothesis =>
    obtain ⟨reply, rest, rfl⟩ := onward.starts
    simpa using inductionHypothesis

/-! ## How often -/

theorem countP_isGet_le (course : release.Course host name attempts deeds result) :
    deeds.countP Deed.isGet ≤ attempts := by
  induction course with
  | again listed onward inductionHypothesis =>
    simpa [List.countP_cons, Deed.isGet] using inductionHypothesis
  | _ => simp [List.countP_cons, Deed.isGet]

theorem length_updateReplies_le (course : release.Course host name attempts deeds result) :
    (updateReplies deeds).length ≤ attempts := by
  induction course with
  | again listed onward inductionHypothesis =>
    simpa [updateReplies] using inductionHypothesis
  | _ => simp [updateReplies]

/-! ## The result -/

theorem returns_true_iff (course : release.Course host name attempts deeds result) :
    result = .ok true ↔ ∃ object, .update object (.ok ()) ∈ deeds ∧
      (object.owners release.key).toList = [] := by
  induction course with
  | again listed onward inductionHypothesis => simpa using inductionHypothesis
  | _ => simp

theorem returns_false_iff (course : release.Course host name attempts deeds result) :
    result = .ok false ↔
      (∃ object, .update object (.ok ()) ∈ deeds ∧ (object.owners release.key).toList ≠ []) ∨
      (∃ detail, .get release.ns name (.error (.notFound detail)) ∈ deeds) ∨
      ∃ object, .get release.ns name (.ok object) ∈ deeds ∧
        release.owner ∉ (object.owners release.key).toList := by
  induction course with
  | absent detail => simp
  | unread other => simpa using fun detail same => other detail same.symm
  | unlisted unlisted => simp [unlisted]
  | released listed => simp [listed]
  | unwritten listed other => simp [listed]
  | exhausted listed => simp [listed]
  | again listed onward inductionHypothesis => simpa [listed] using inductionHypothesis

theorem raises_conflict_iff (course : release.Course host name attempts deeds result) :
    (∃ detail, result = .error (updateFailure host name (.conflict detail))) ↔
      (updateReplies deeds).length = attempts ∧
      ∀ reply ∈ updateReplies deeds, ∃ detail, reply = .error (.conflict detail) := by
  induction course with
  | absent detail => simp [updateReplies]
  | unread other => simp [updateReplies]
  | unlisted unlisted => simp [updateReplies]
  | released listed => simp [updateReplies]
  | unwritten listed other => simp [updateReplies, other]
  | exhausted listed => simp [updateReplies]
  | again listed onward inductionHypothesis =>
    simpa [updateReplies] using inductionHypothesis

theorem informs_iff (course : release.Course host name attempts deeds result) :
    .log (release.releasedEntry host name) ∈ deeds ↔ ∃ object, .update object (.ok ()) ∈ deeds := by
  induction course with
  | again listed onward inductionHypothesis =>
    simpa [releasedEntry, conflictEntry] using inductionHypothesis
  | _ => simp

end Course

/-! ## The verdict -/

/-- What the deeds of a run say about its result, and about each other. -/
structure Verdict (release : Release) (host name : String) (deeds : List Deed)
    (result : Except Failure Bool) : Prop where
  gets_le : deeds.countP Deed.isGet ≤ maxAttempts
  updates_le : (updateReplies deeds).length ≤ maxAttempts
  /-- Each write comes right after a reading, and writes what was read, less the owner. -/
  update_after_get : ∀ earlier object reply later, deeds = earlier ++ .update object reply :: later →
    ∃ before read, earlier = before ++ [.get release.ns name (.ok read)] ∧
      release.owner ∈ (read.owners release.key).toList ∧ object = release.withoutOwner read
  /-- The answer is yes exactly if an object was written that lists nobody. -/
  returns_true : result = .ok true ↔ ∃ object, .update object (.ok ()) ∈ deeds ∧
    (object.owners release.key).toList = []
  /-- It is no exactly if an object was written that lists somebody, or if there was none to write. -/
  returns_false : result = .ok false ↔
    (∃ object, .update object (.ok ()) ∈ deeds ∧ (object.owners release.key).toList ≠ []) ∨
    (∃ detail, .get release.ns name (.error (.notFound detail)) ∈ deeds) ∨
    ∃ object, .get release.ns name (.ok object) ∈ deeds ∧
      release.owner ∉ (object.owners release.key).toList
  /-- A conflict is the failure exactly if all attempts are used up, each for a conflict. -/
  raises_conflict :
    (∃ detail, result = .error (updateFailure host name (.conflict detail))) ↔
      (updateReplies deeds).length = maxAttempts ∧
      ∀ reply ∈ updateReplies deeds, ∃ detail, reply = .error (.conflict detail)
  /-- A conflict is what the loop fails for, or a warning and another attempt come after it. -/
  after_conflict : ∀ earlier object detail later,
    deeds = earlier ++ .update object (.error (.conflict detail)) :: later →
      later = [] ∧ result = .error (updateFailure host name (.conflict detail)) ∨
      ∃ reply rest, later =
        .log (release.conflictEntry host name) :: .get release.ns name reply :: rest
  /-- Warnings come after conflicts, and the news of a release after its write. Nothing else is logged. -/
  before_log : ∀ earlier entry later, deeds = earlier ++ .log entry :: later →
    entry = release.conflictEntry host name ∧
      (∃ before object detail, earlier = before ++ [.update object (.error (.conflict detail))]) ∨
    entry = release.releasedEntry host name ∧
      ∃ before object, earlier = before ++ [.update object (.ok ())]
  informs : .log (release.releasedEntry host name) ∈ deeds ↔
    ∃ object, .update object (.ok ()) ∈ deeds

namespace Course

variable {earlier later : List Deed} {deed : Deed}

/-- No deed but the first reading is without one before it. -/
theorem exists_before (course : release.Course host name attempts deeds result)
    (cut : deeds = earlier ++ deed :: later) (other : ∀ reply, deed ≠ .get release.ns name reply) :
    ∃ before previous, earlier = before ++ [previous] ∧
      release.Follows host name previous deed := by
  subst cut
  rcases List.eq_nil_or_concat' earlier with rfl | ⟨before, previous, rfl⟩
  · obtain ⟨reply, rest, starts⟩ := course.starts
    exact absurd (List.cons.inj starts).1 (other reply)
  · have follows := course.follows
    rw [List.append_assoc, List.singleton_append, List.isChain_append_cons_cons] at follows
    exact ⟨before, previous, rfl, follows.2.1⟩

theorem after_conflict (course : release.Course host name attempts deeds result)
    {object : RoutingObject} {detail : String}
    (cut : deeds = earlier ++ .update object (.error (.conflict detail)) :: later) :
    later = [] ∧ result = .error (updateFailure host name (.conflict detail)) ∨
      ∃ reply rest, later =
        .log (release.conflictEntry host name) :: .get release.ns name reply :: rest := by
  subst cut
  cases later with
  | nil => exact .inl ⟨rfl, course.ends.2 object detail (by simp)⟩
  | cons warning later =>
    have follows := (List.isChain_append_cons_cons.1 course.follows).2
    cases follows.1
    cases later with
    | nil => exact absurd (by simp) course.ends.1
    | cons next rest =>
      cases (List.isChain_cons_cons.1 follows.2).1
      exact .inr ⟨_, rest, rfl⟩

theorem verdict (course : release.Course host name maxAttempts deeds result) :
    release.Verdict host name deeds result where
  gets_le := course.countP_isGet_le
  updates_le := course.length_updateReplies_le
  update_after_get earlier object reply later cut := by
    obtain ⟨before, previous, rfl, follows⟩ := course.exists_before cut nofun
    cases follows with
    | writes listed => exact ⟨before, _, rfl, listed, rfl⟩
  returns_true := course.returns_true_iff
  returns_false := course.returns_false_iff
  raises_conflict := course.raises_conflict_iff
  after_conflict _ _ _ _ cut := course.after_conflict cut
  before_log earlier entry later cut := by
    obtain ⟨before, previous, rfl, follows⟩ := course.exists_before cut nofun
    cases follows with
    | warns => exact .inl ⟨rfl, before, _, _, rfl⟩
    | informs => exact .inr ⟨rfl, before, _, rfl⟩
  informs := course.informs_iff

end Course

/-! ## After the loop -/

section After

variable (release : Release) (fallback : Action Bool) (host name : String)

/-- One attempt, with what to go on with after a conflict, if more attempts are left. -/
def attempt (left : Nat) (next : Action Bool) : Action Bool := do
  Action.checkInterrupted
  match ← Action.attempt (.get release.ns name) with
  | .error (.notFound _) => pure false
  | .error failure => throw (getFailure host name failure)
  | .ok object =>
    let removal := object.removeOwner release.key release.owner
    if removal.1 then
      Action.checkInterrupted
      match ← Action.attempt (.update removal.2) with
      | .ok () =>
        Action.log (release.releasedEntry host name)
        pure (removal.2.owners release.key).toList.isEmpty
      | .error (.conflict detail) =>
        if left = 0 then throw (updateFailure host name (.conflict detail))
        else
          Action.log (release.conflictEntry host name)
          next
      | .error failure => throw (updateFailure host name failure)
    else pure false

/-- The loop, with something else to do once all attempts are used up. -/
def oneElse : Nat → Action Bool
  | 0 => fallback
  | left + 1 => release.attempt host name left (oneElse left)

theorem one_eq_oneElse (attempts : Nat) :
    release.one host name attempts = release.oneElse (pure false) host name attempts := by
  induction attempts with
  | zero => rfl
  | succ left inductionHypothesis =>
    rw [one, oneElse, ← inductionHypothesis]
    rfl

theorem oneElse_succ (left : Nat) :
    release.oneElse fallback host name (left + 1) = release.one host name (left + 1) := by
  rw [one_eq_oneElse]
  induction left with
  | zero => simp only [oneElse, attempt, if_true]
  | succ left inductionHypothesis => rw [oneElse, inductionHypothesis, ← oneElse]

end After

/-- Let the store answer one release of one host in any way, while the database works and no program is
told to stop. The loop has an end, with the right verdict, and its attempts never run out without one of the
other ends: the loop with anything else to do after it is the same. -/
theorem verdict_of_reaches (release : Release) (host name : String) :
    (∀ left deeds, Reaches recorded (release.one host name maxAttempts).run [] left deeds →
      ∃ result final, Reaches recorded left deeds (.done result) final) ∧
    (∀ result deeds, Reaches recorded (release.one host name maxAttempts).run [] (.done result) deeds →
      release.Verdict host name deeds result) ∧
    release.one host name maxAttempts = release.oneElse (pure false) host name maxAttempts ∧
    ∀ fallback, release.oneElse fallback host name maxAttempts = release.one host name maxAttempts := by
  refine ⟨fun left deeds _ => exists_reaches_done recorded_answers left deeds,
    fun result deeds reached => (course_of_reaches reached).verdict,
    one_eq_oneElse release host name maxAttempts,
    fun fallback => oneElse_succ release fallback host name 4⟩

/-- A conflict, then a write that leaves nobody: the deeds of the two attempts. -/
def conflictThenWrite : List Deed :=
  [.get "prod" "blue-cart" (.ok (cartOverride "team/web" (some "1"))),
    .update (cartOverride "" (some "1")) (.error (.conflict "prod/blue-cart: have 1, store has 2")),
    .log (ofOneHost.conflictEntry "cart" "blue-cart"),
    .get "prod" "blue-cart" (.ok (cartOverride "team/web" (some "2"))),
    .update (cartOverride "" (some "2")) (.ok ()),
    .log (ofOneHost.releasedEntry "cart" "blue-cart")]

theorem verdict_after_conflict :
    Reaches recorded (ofOneHost.one "cart" "blue-cart" maxAttempts).run [] (.done (.ok true))
      conflictThenWrite ∧
    ofOneHost.Verdict "cart" "blue-cart" conflictThenWrite (.ok true) := by
  have reached : Reaches recorded (ofOneHost.one "cart" "blue-cart" maxAttempts).run []
      (.done (.ok true)) conflictThenWrite :=
    .answered false ⟨rfl, rfl⟩ <|
    .answered (.ok (cartOverride "team/web" (some "1"))) rfl <|
    .answered false ⟨rfl, rfl⟩ <|
    .answered (.error (.conflict "prod/blue-cart: have 1, store has 2")) rfl <|
    .answered (.ok ()) ⟨rfl, rfl⟩ <|
    .answered false ⟨rfl, rfl⟩ <|
    .answered (.ok (cartOverride "team/web" (some "2"))) rfl <|
    .answered false ⟨rfl, rfl⟩ <|
    .answered (.ok ()) rfl <|
    .answered (.ok ()) ⟨rfl, rfl⟩ <| .here
  exact ⟨reached, (verdict_of_reaches ofOneHost "cart" "blue-cart").2.1 _ _ reached⟩

end Release

end RouteOverrides
