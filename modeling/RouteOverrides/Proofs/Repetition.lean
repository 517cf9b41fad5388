import Mathlib.Data.List.Nodup

/-! # Items that come more than once

Of an item that comes more than once in a list, the first place counts.

* `eraseDups_filter_cons`, `eraseDups_concat` — a list with one more item, in front or at the end.
* `eraseDups_append_of_nodup` — a list behind another one that has some of its items.
* `filter_not_append_filter_iff` — when items that pass a test can go last without a change.
-/

namespace RouteOverrides

variable {α : Type}

/-- What passes a test among some texts, each once: the first text, and then what passes without it. -/
theorem eraseDups_filter_cons {test later : String → Bool} {text : String}
    (once : ∀ other, later other = (test other && other != text)) (texts : List String) :
    ((text :: texts).filter test).eraseDups =
      (if test text then [text] else []) ++ (texts.filter later).eraseDups := by
  cases first : test text with
  | true =>
    rw [List.filter_cons_of_pos first, List.eraseDups_cons, List.filter_filter, if_pos rfl,
      List.singleton_append]
    refine congrArg (fun rest => text :: List.eraseDups rest) (List.filter_congr fun other _ => ?_)
    rw [once, Bool.and_comm]
    rfl
  | false =>
    rw [List.filter_cons_of_neg (Bool.not_eq_true _ ▸ first), if_neg Bool.false_ne_true,
      List.nil_append]
    refine congrArg List.eraseDups (List.filter_congr fun other _ => ?_)
    by_cases same : other = text
    · rw [once, same, first, Bool.false_and]
    · rw [once, bne_iff_ne.2 same, Bool.and_true]

section Equality

variable [BEq α] [LawfulBEq α]

theorem eraseDups_concat (front : List α) (item : α) :
    (front ++ [item]).eraseDups =
      if item ∈ front then front.eraseDups else front.eraseDups ++ [item] := by
  rw [List.eraseDups_append]
  by_cases known : item ∈ front <;> simp [List.removeAll, known, List.eraseDups_cons]

theorem eraseDups_of_nodup {items : List α} (distinct : items.Nodup) : items.eraseDups = items := by
  induction items with
  | nil => rfl
  | cons item rest inductionHypothesis =>
    obtain ⟨new, distinctRest⟩ := List.nodup_cons.1 distinct
    have others : rest.filter (fun other => !other == item) = rest := by
      refine List.filter_eq_self.2 fun other member => ?_
      simpa using ne_of_mem_of_not_mem member new
    rw [List.eraseDups_cons, others, inductionHypothesis distinctRest]

theorem eraseDups_append_of_nodup {items later : List α} (distinct : items.Nodup)
    (distinctLater : later.Nodup) :
    (items ++ later).eraseDups = items ++ later.filter (fun item => !items.contains item) := by
  rw [List.eraseDups_append, List.removeAll, eraseDups_of_nodup distinct,
    eraseDups_of_nodup (distinctLater.filter _)]

end Equality

theorem filter_not_append_filter_iff (test : α → Bool) (items : List α) :
    items.filter (fun item => !test item) ++ items.filter test = items ↔
      items.Pairwise fun first second => test first = true → test second = true := by
  induction items with
  | nil => simp
  | cons item rest inductionHypothesis =>
    cases passes : test item with
    | false => simp [passes, inductionHypothesis]
    | true =>
      have none : rest.filter (fun other => !test other) = [] ↔ ∀ other ∈ rest, test other = true := by
        simp
      rw [List.pairwise_cons, List.filter_cons_of_neg (by simp [passes]),
        List.filter_cons_of_pos passes]
      constructor
      · intro same
        -- An item that passes stays in front, so nothing is moved there.
        have nothing : rest.filter (fun other => !test other) = [] := by
          cases moved : rest.filter fun other => !test other with
          | nil => rfl
          | cons first others =>
            rw [moved] at same
            obtain ⟨rfl, -⟩ := List.cons.inj same
            have member : first ∈ rest.filter fun other => !test other := by simp [moved]
            simp [passes] at member
        have all := none.1 nothing
        exact ⟨fun other member _ => all other member,
          List.pairwise_of_forall_mem_list fun _ _ other member _ => all other member⟩
      · rintro ⟨passing, -⟩
        have all : ∀ other ∈ rest, test other = true :=
          fun other member => passing other member passes
        rw [none.2 all, List.nil_append, List.filter_eq_self.2 all]

end RouteOverrides
