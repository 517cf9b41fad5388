/-! # Cutting a text at a character

* `split`: all the pieces between the occurrences of a character. There is always one piece more
  than there are occurrences, so the empty text has one empty piece.
* `cut?`: the two sides of the first occurrence.
* `cutAtLast`: the two sides of the last occurrence.
* `join`: the pieces again, with a character between neighbours. -/

namespace RouteOverrides.Text

/-- The pieces of a text between the occurrences of `sep`. -/
def split (sep : Char) : List Char → List (List Char)
  | [] => [[]]
  | c :: rest =>
    if c = sep then [] :: split sep rest
    else
      -- The rest has a first piece, and the character belongs to it.
      match split sep rest with
      | [] => [[c]]
      | piece :: pieces => (c :: piece) :: pieces

/-- The text before and after the first `sep`, if there is one. -/
def cut? (sep : Char) : List Char → Option (List Char × List Char)
  | [] => none
  | c :: rest =>
    if c = sep then some ([], rest)
    else (cut? sep rest).map fun sides => (c :: sides.1, sides.2)

/-- The text up to the last occurrence of a character, and the text after it, which is all of the
text where the character does not occur. -/
def cutAtLast (sep : Char) (s : List Char) : List Char × List Char :=
  match cut? sep s.reverse with
  | some (after, before) => (before.reverse, after.reverse)
  | none => ([], s)

/-- The pieces in a row, with `sep` between neighbours. -/
def join (sep : Char) : List (List Char) → List Char
  | [] => []
  | [piece] => piece
  | piece :: next :: pieces => piece ++ sep :: join sep (next :: pieces)

theorem split_ne_nil (sep : Char) (s : List Char) : split sep s ≠ [] := by
  cases s with
  | nil => simp [split]
  | cons c rest =>
    simp only [split]
    split
    · simp
    · split <;> simp

/-- Cutting loses nothing: the pieces in a row are the text. -/
theorem join_split (sep : Char) (s : List Char) : join sep (split sep s) = s := by
  induction s with
  | nil => rfl
  | cons c rest ih =>
    simp only [split]
    split
    · rename_i hc
      obtain ⟨piece, pieces, hp⟩ := List.exists_cons_of_ne_nil (split_ne_nil sep rest)
      rw [hp] at ih ⊢
      simp [join, ih, hc]
    · split
      · rename_i hp
        exact absurd hp (split_ne_nil sep rest)
      · rename_i piece pieces hp
        rw [hp] at ih
        cases pieces with
        | nil => simpa [join] using ih
        | cons next pieces => simpa [join] using ih

/-- The two sides of a cut, with the character between them, are the text; the first side does not
hold the character. -/
theorem cut?_eq_some_iff {sep : Char} {s before after : List Char} :
    cut? sep s = some (before, after) ↔ s = before ++ sep :: after ∧ sep ∉ before := by
  induction s generalizing before with
  | nil => simp [cut?]
  | cons c rest ih =>
    simp only [cut?]
    by_cases hc : c = sep
    · rw [if_pos hc]
      cases before with
      | nil => simp [hc, eq_comm]
      | cons d before =>
        simp only [Option.some.injEq, Prod.mk.injEq, List.cons_append, List.cons.injEq,
          List.mem_cons]
        constructor
        · rintro ⟨h, -⟩
          exact absurd h.symm (List.cons_ne_nil _ _)
        · rintro ⟨⟨rfl, -⟩, h⟩
          exact absurd (Or.inl hc.symm) h
    · rw [if_neg hc]
      cases before with
      | nil => simp [hc]
      | cons d before =>
        simp only [Option.map_eq_some_iff, Prod.exists, Prod.mk.injEq, List.cons.injEq,
          List.cons_append, List.mem_cons, not_or]
        constructor
        · rintro ⟨b, a, hcut, ⟨rfl, rfl⟩, rfl⟩
          obtain ⟨hs, hb⟩ := ih.1 hcut
          exact ⟨⟨rfl, hs⟩, fun h => hc h.symm, hb⟩
        · rintro ⟨⟨rfl, hs⟩, -, hb⟩
          exact ⟨before, after, ih.2 ⟨hs, hb⟩, ⟨rfl, rfl⟩, rfl⟩

/-- There is nothing to cut exactly where the character does not occur. -/
theorem cut?_eq_none_iff {sep : Char} {s : List Char} : cut? sep s = none ↔ sep ∉ s := by
  induction s with
  | nil => simp [cut?]
  | cons c rest ih =>
    simp only [cut?]
    by_cases hc : c = sep
    · simp [hc]
    · simp only [hc, if_false, Option.map_eq_none_iff, ih, List.mem_cons, not_or]
      exact ⟨fun h => ⟨fun h' => hc h'.symm, h⟩, fun h => h.2⟩

end RouteOverrides.Text
