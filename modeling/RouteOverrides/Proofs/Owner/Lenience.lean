import Mathlib.Data.List.Induction
import Mathlib.Data.List.TakeWhile
import Mathlib.Logic.Relation
import RouteOverrides.Proofs.Owner.Codec

/-! # Annotations that are read alike

An annotation is read token by token, and what is read of its two parts on both sides of a comma is
merged. Much of what people leave in an annotation does not count: blanks around a token, tokens that
name nobody, and tokens that come again. Two annotations are read alike if they differ by that much,
and only then.

* `OwnerSet.toList_foldl_insert_parse` — two lists of owners merged.
* `OwnerSet.toList_parse_comma` — an annotation that is made of two.
* `OwnerText.Idle`, `OwnerText.Pads` — what does not count, and an annotation with more of it.
* `OwnerText.alike_trailing` — without it an annotation is what its owners write.
* `OwnerSet.parses_piecewise` — parts of an annotation, and annotations that are read alike.
-/

namespace RouteOverrides

/-! ## Blanks around a text -/

namespace Text

variable {s left middle right : List Char}

/-- No character can be seen. -/
def IsBlank (s : List Char) : Prop := ∀ c ∈ s, isBlank c = true

theorem IsBlank.append (blankLeft : IsBlank left) (blankRight : IsBlank right) :
    IsBlank (left ++ right) :=
  fun c member => (List.mem_append.1 member).elim (blankLeft c) (blankRight c)

theorem IsBlank.not_mem {c : Char} (blank : IsBlank s) (visible : isBlank c = false) : c ∉ s :=
  fun member => by simp [blank c member] at visible

theorem exists_trim (s : List Char) :
    ∃ left right, IsBlank left ∧ IsBlank right ∧ s = left ++ trim s ++ right := by
  have blank (t : List Char) : IsBlank (t.takeWhile isBlank) := fun _ => List.mem_takeWhile_imp
  refine ⟨s.takeWhile isBlank, ((trimLeft s).reverse.takeWhile isBlank).reverse, blank s,
    fun c member => blank _ c (List.mem_reverse.1 member), ?_⟩
  have rest : trim s ++ ((trimLeft s).reverse.takeWhile isBlank).reverse = trimLeft s := by
    rw [trim, trimRight, ← List.reverse_append, List.takeWhile_append_dropWhile,
      List.reverse_reverse]
  rw [List.append_assoc, rest]
  exact List.takeWhile_append_dropWhile.symm

theorem trim_of_isBlank (blank : IsBlank s) : trim s = [] := by
  rw [trim, trimLeft, List.dropWhile_eq_nil_iff.2 blank, trimRight_nil]

theorem trim_surrounded (blankLeft : IsBlank left) (blankRight : IsBlank right)
    (trimmed : IsTrimmed middle) : trim (left ++ middle ++ right) = middle := by
  cases middle with
  | nil =>
    rw [List.append_nil]
    exact trim_of_isBlank (blankLeft.append blankRight)
  | cons first rest =>
    have inFront : trimLeft (left ++ (first :: rest) ++ right) = (first :: rest) ++ right := by
      rw [List.append_assoc, trimLeft, List.dropWhile_append_of_pos blankLeft]
      exact dropWhile_blank_eq_self trimmed.1
    have blankBehind : ∀ c ∈ right.reverse, isBlank c = true :=
      fun c member => blankRight c (List.mem_reverse.1 member)
    have ends := trimmed.2
    rw [← List.head?_reverse] at ends
    rw [trim, inFront, trimRight, List.reverse_append, List.dropWhile_append_of_pos blankBehind,
      dropWhile_blank_eq_self ends, List.reverse_reverse]

theorem trim_padded (blankLeft : IsBlank left) (blankRight : IsBlank right) (s : List Char) :
    trim (left ++ s ++ right) = trim s := by
  obtain ⟨before, after, blankBefore, blankAfter, whole⟩ := exists_trim s
  have together : left ++ s ++ right = (left ++ before) ++ trim s ++ (after ++ right) :=
    calc left ++ s ++ right
        = left ++ (before ++ trim s ++ after) ++ right := by rw [← whole]
      _ = (left ++ before) ++ trim s ++ (after ++ right) := by simp only [List.append_assoc]
  rw [together]
  exact trim_surrounded (blankLeft.append blankBefore) (blankAfter.append blankRight)
    (isTrimmed_trim s)

end Text

/-! ## Merging owners -/

namespace OwnerSet

variable {start : OwnerSet} {added : List Owner} {token : String}

theorem mem_tokens_insert {owners : OwnerSet} {owner : Owner} :
    token ∈ (owners.insert owner).tokens ↔ token ∈ owners.tokens ∨ token = owner.token := by
  by_cases known : owner.token ∈ owners.tokens
  · rw [insert_of_mem known]
    exact (or_iff_left_of_imp fun same => same ▸ known).symm
  · rw [tokens, toList_insert_of_not_mem known, List.map_append, List.mem_append,
      List.map_singleton, List.mem_singleton, tokens]

theorem mem_tokens_foldl_insert : token ∈ (added.foldl insert start).tokens ↔
    token ∈ start.tokens ∨ token ∈ added.map Owner.token := by
  induction added generalizing start with
  | nil => simp
  | cons first rest inductionHypothesis =>
    rw [List.foldl_cons, inductionHypothesis, mem_tokens_insert, List.map_cons, List.mem_cons,
      or_assoc]

/-- Of several owners with one token only the first counts, so the others may be left out before. -/
theorem foldl_insert_ofList (start : OwnerSet) (added : List Owner) :
    (ofList added).toList.foldl insert start = added.foldl insert start := by
  -- From the end: an owner that is left out of the list was inserted before under the same token.
  induction added using List.reverseRecOn with
  | nil => rfl
  | append_singleton before last inductionHypothesis =>
    have grown : ofList (before ++ [last]) = (ofList before).insert last := by
      rw [ofList, List.foldl_append, List.foldl_cons, List.foldl_nil, ofList]
    rw [grown, List.foldl_append, List.foldl_cons, List.foldl_nil]
    by_cases known : last.token ∈ (ofList before).tokens
    · have came := (mem_tokens_foldl_insert.1 known).resolve_left List.not_mem_nil
      rw [insert_of_mem known, inductionHypothesis,
        insert_of_mem (mem_tokens_foldl_insert.2 (.inr came))]
    · rw [toList_insert_of_not_mem known, List.foldl_append, inductionHypothesis, List.foldl_cons,
        List.foldl_nil]

/-- Owners of new tokens come behind those that are there, if no two of them share a token. -/
theorem toList_foldl_insert_filter (distinct : (added.map Owner.token).Nodup) :
    (added.foldl insert start).toList =
      start.toList ++ added.filter fun owner => !start.contains owner := by
  induction added generalizing start with
  | nil => simp
  | cons first rest inductionHypothesis =>
    rw [List.map_cons, List.nodup_cons] at distinct
    obtain ⟨firstOnly, restDistinct⟩ := distinct
    rw [List.foldl_cons, inductionHypothesis restDistinct]
    by_cases known : first.token ∈ start.tokens
    · have there : start.contains first = true := contains_iff.2 known
      simp [insert_of_mem known, there]
    · have absent : start.contains first = false := Bool.eq_false_iff.2 (mt contains_iff.1 known)
      -- No later owner has the token of the first, so the later ones are judged as before.
      have same : ∀ owner ∈ rest,
          (!(start.insert first).contains owner) = !start.contains owner := by
        intro owner member
        have other : owner.token ≠ first.token := fun sameToken =>
          firstOnly (sameToken ▸ List.mem_map_of_mem member)
        rw [Bool.eq_iff_iff]
        simp [contains, tokens, toList_insert_of_not_mem known, other]
      simp [toList_insert_of_not_mem known, absent, List.filter_congr same]

/-- Owners that were read, merged with others that were read. -/
theorem toList_foldl_insert_parse (raw former : String) :
    ((parse former).toList.foldl insert (parse raw)).toList =
      (parse raw).toList ++ (parse former).toList.filter fun owner => owner ∉ (parse raw).toList := by
  rw [toList_foldl_insert_filter (parse former).tokens_nodup]
  congr 1
  apply List.filter_congr
  intro owner _
  have listed : (parse raw).contains owner = true ↔ owner ∈ (parse raw).toList := contains_parse_iff
  rw [Bool.eq_iff_iff]
  simp [← listed]

end OwnerSet

/-! ## Tokens -/

/-- The owner that a token names; the blanks around the token do not count. -/
def Owner.named? (token : List Char) : Option Owner := Owner.ofChars? (Text.trim token)

/-- Blanks around a token may become part of an owner, but they never hide one. -/
theorem Owner.named?_of_ofChars?_eq_none {token : List Char} (refused : ofChars? token = none) :
    named? token = none := by
  rw [named?, Option.eq_none_iff_forall_ne_some]
  intro owner read
  obtain ⟨written, nsNonempty, nameNonempty, nsSlashFree, nameSlashFree⟩ :=
    ofChars?_eq_some_iff.1 read
  obtain ⟨left, right, blankLeft, blankRight, whole⟩ := Text.exists_trim token
  -- The blanks would have become part of the namespace and of the name.
  rw [written, toList_token] at whole
  have accepted : ofChars? token = some
      ⟨String.ofList (left ++ owner.ns.toList), String.ofList (owner.name.toList ++ right)⟩ := by
    rw [ofChars?_eq_some_iff, toList_token]
    have noSlash {blanks : List Char} (blank : Text.IsBlank blanks) : '/' ∉ blanks :=
      blank.not_mem (by decide)
    simp only [String.toList_ofList, List.mem_append, not_or]
    exact ⟨by simpa using whole, List.append_ne_nil_of_right_ne_nil _ nsNonempty,
      List.append_ne_nil_of_left_ne_nil nameNonempty _, ⟨noSlash blankLeft, nsSlashFree⟩,
      nameSlashFree, noSlash blankRight⟩
  rw [refused] at accepted
  cases accepted

namespace OwnerText

variable {before after : List (List Char)} {token : List Char}

/-- The tokens of an annotation: the pieces between its commas. -/
def tokens (raw : String) : List (List Char) := Text.split ',' raw.toList

/-- The annotation of some tokens. -/
def write (tokens : List (List Char)) : String := String.ofList (Text.join ',' tokens)

theorem write_tokens (raw : String) : write (tokens raw) = raw := by
  rw [write, tokens, Text.join_split, String.ofList_toList]

theorem tokens_write (nonempty : before ≠ []) (free : ∀ token ∈ before, ',' ∉ token) :
    tokens (write before) = before := by
  rw [tokens, write, String.toList_ofList, Text.split_join nonempty free]

/-- A token that does not count behind other tokens. -/
inductive Idle (earlier : List (List Char)) : List Char → Prop where
  /-- Nothing can be seen of it, or there is nothing. -/
  | blank {token : List Char} (blank : Text.IsBlank token) : Idle earlier token
  | malformed {token : List Char} (refused : Owner.ofChars? token = none) : Idle earlier token
  | repeated {token : List Char} (known : token ∈ earlier) : Idle earlier token

/-- Tokens with one more among them that does not count, or with blanks around one of them. -/
inductive Padded : List (List Char) → List (List Char) → Prop where
  | inserted (front back : List (List Char)) {token : List Char} (idle : Idle front token) :
      Padded (front ++ back) (front ++ token :: back)
  | surrounded (front back : List (List Char)) (token : List Char) {left right : List Char}
      (blankLeft : Text.IsBlank left) (blankRight : Text.IsBlank right) :
      Padded (front ++ token :: back) (front ++ (left ++ token ++ right) :: back)

/-- An annotation has such tokens. -/
def Pads (before after : String) : Prop := Padded (tokens before) (tokens after)

/-! ### Padding is not read -/

theorem Idle.named? {earlier : List (List Char)} (idle : Idle earlier token) :
    Owner.named? token = none ∨ token ∈ earlier := by
  cases idle with
  | blank blank => exact .inl (by rw [Owner.named?, Text.trim_of_isBlank blank]; rfl)
  | malformed refused => exact .inl (Owner.named?_of_ofChars?_eq_none refused)
  | repeated known => exact .inr known

theorem ofTokens_eq (tokens : List (List Char)) :
    OwnerSet.ofTokens tokens = OwnerSet.ofList (tokens.filterMap Owner.named?) := rfl

theorem Padded.ofTokens_eq (padded : Padded before after) :
    OwnerSet.ofTokens after = OwnerSet.ofTokens before := by
  rw [OwnerText.ofTokens_eq, OwnerText.ofTokens_eq]
  cases padded with
  | inserted front back idle =>
    rename_i token
    rw [List.filterMap_append, List.filterMap_append]
    cases read : Owner.named? token with
    | none => rw [List.filterMap_cons_none read]
    | some owner =>
      have known : token ∈ front := idle.named?.resolve_left (by simp [read])
      have there : owner.token ∈ (OwnerSet.ofList (front.filterMap Owner.named?)).tokens :=
        OwnerSet.mem_tokens_foldl_insert.2
          (.inr (List.mem_map_of_mem (List.mem_filterMap.2 ⟨token, known, read⟩)))
      rw [List.filterMap_cons_some read, OwnerSet.ofList, List.foldl_append, List.foldl_cons,
        ← OwnerSet.ofList, OwnerSet.insert_of_mem there, OwnerSet.ofList, OwnerSet.ofList,
        List.foldl_append]
  | surrounded front back token blankLeft blankRight =>
    have same : ∀ left right, Text.IsBlank left → Text.IsBlank right →
        Owner.named? (left ++ token ++ right) = Owner.named? token :=
      fun _ _ blankLeft blankRight => by
        rw [Owner.named?, Text.trim_padded blankLeft blankRight, Owner.named?]
    simp only [List.filterMap_append, List.filterMap_cons, same _ _ blankLeft blankRight]

/-- One annotation comes from another one by putting in and taking out what does not count. -/
abbrev Alike : String → String → Prop := Relation.EqvGen Pads

theorem Alike.parse_eq {first second : String} (alike : Alike first second) :
    OwnerSet.parse first = OwnerSet.parse second := by
  induction alike with
  | rel first second padded => exact (Padded.ofTokens_eq padded).symm
  | refl raw => rfl
  | symm first second _ inductionHypothesis => exact inductionHypothesis.symm
  | trans first middle second _ _ same sameToo => exact same.trans sameToo

/-! ### Nothing but padding is unread -/

theorem Padded.free (padded : Padded before after) (free : ∀ token ∈ after, ',' ∉ token) :
    ∀ token ∈ before, ',' ∉ token := by
  cases padded with
  | inserted front back idle =>
    rw [List.forall_mem_append, List.forall_mem_cons] at free
    exact List.forall_mem_append.2 ⟨free.1, free.2.2⟩
  | surrounded front back token blankLeft blankRight =>
    rw [List.forall_mem_append, List.forall_mem_cons] at free ⊢
    refine ⟨free.1, fun member => free.2.1 ?_, free.2.2⟩
    exact List.mem_append_left _ (List.mem_append_right _ member)

theorem alike_of_padded (padded : Padded before after) (nonempty : before ≠ [])
    (free : ∀ token ∈ after, ',' ∉ token) : Alike (write after) (write before) := by
  have longer : after ≠ [] := by
    cases padded <;> simp
  refine .symm _ _ (.rel _ _ ?_)
  rw [Pads, tokens_write nonempty (padded.free free), tokens_write longer free]
  exact padded

section OneToken

variable {front back : List (List Char)}

theorem alike_trimmed (free : ∀ other ∈ front ++ token :: back, ',' ∉ other) :
    Alike (write (front ++ token :: back)) (write (front ++ Text.trim token :: back)) := by
  obtain ⟨left, right, blankLeft, blankRight, whole⟩ := Text.exists_trim token
  have padded := Padded.surrounded front back (Text.trim token) blankLeft blankRight
  rw [← whole] at padded
  exact alike_of_padded padded (by simp) free

theorem alike_dropped (idle : Idle front (Text.trim token)) (remains : back ≠ [])
    (free : ∀ other ∈ front ++ token :: back, ',' ∉ other) :
    Alike (write (front ++ token :: back)) (write (front ++ back)) := by
  refine .trans _ _ _ (alike_trimmed free) ?_
  refine alike_of_padded (.inserted front back idle) (List.append_ne_nil_of_right_ne_nil _ remains) ?_
  rw [List.forall_mem_append, List.forall_mem_cons] at free ⊢
  exact ⟨free.1, fun comma => free.2.1 (Text.mem_of_mem_trim comma), free.2.2⟩

end OneToken

/-- The owners that are known stand in front with their tokens, and the other tokens are read one after
the other. An empty token stays at the end, so that there always is one. -/
theorem alike_read (owners : OwnerSet) {unread : List (List Char)}
    (written : ∀ token ∈ owners.tokens.map String.toList, ',' ∉ token)
    (free : ∀ token ∈ unread, ',' ∉ token) :
    Alike (write (owners.tokens.map String.toList ++ (unread ++ [[]])))
      (write (((unread.filterMap Owner.named?).foldl OwnerSet.insert owners).tokens.map
        String.toList ++ [[]])) := by
  -- On the unread tokens: each of them is dropped, or it is trimmed and read from then on.
  induction unread generalizing owners with
  | nil => exact .refl _
  | cons token rest inductionHypothesis =>
    have allFree : ∀ other ∈ owners.tokens.map String.toList ++ token :: (rest ++ [[]]),
        ',' ∉ other := by
      rw [← List.cons_append, List.forall_mem_append, List.forall_mem_append,
        List.forall_mem_singleton]
      exact ⟨written, free, List.not_mem_nil⟩
    obtain ⟨tokenFree, restFree⟩ := List.forall_mem_cons.1 free
    have dropped (idle : Idle (owners.tokens.map String.toList) (Text.trim token)) :=
      alike_dropped idle (List.append_ne_nil_of_right_ne_nil rest (List.cons_ne_nil [] [])) allFree
    cases read : Owner.named? token with
    | none =>
      rw [List.filterMap_cons_none read]
      exact .trans _ _ _ (dropped (.malformed read)) (inductionHypothesis owners written restFree)
    | some owner =>
      have named : owner.token.toList = Text.trim token := Owner.toList_token_of_ofChars? read
      rw [List.filterMap_cons_some read, List.foldl_cons]
      by_cases known : owner.token ∈ owners.tokens
      · have again : Text.trim token ∈ owners.tokens.map String.toList :=
          named ▸ List.mem_map_of_mem known
        rw [OwnerSet.insert_of_mem known]
        exact .trans _ _ _ (dropped (.repeated again)) (inductionHypothesis owners written restFree)
      · have grown : (owners.insert owner).tokens.map String.toList =
            owners.tokens.map String.toList ++ [Text.trim token] := by
          rw [OwnerSet.tokens, OwnerSet.toList_insert_of_not_mem known, List.map_append,
            List.map_append, List.map_singleton, List.map_singleton, named, OwnerSet.tokens]
        have writtenNow : ∀ other ∈ (owners.insert owner).tokens.map String.toList, ',' ∉ other := by
          rw [grown, List.forall_mem_append, List.forall_mem_singleton]
          exact ⟨written, fun comma => tokenFree (Text.mem_of_mem_trim comma)⟩
        have onward := inductionHypothesis (owners.insert owner) writtenNow restFree
        rw [grown, List.append_assoc, List.singleton_append] at onward
        exact .trans _ _ _ (alike_trimmed allFree) onward

/-- Up to what does not count, an annotation is what its owners write, with a comma behind it. -/
theorem alike_trailing (raw : String) :
    Alike raw (write ((OwnerSet.parse raw).tokens.map String.toList ++ [[]])) := by
  have free : ∀ token ∈ tokens raw, ',' ∉ token := fun _ => Text.not_mem_of_mem_split
  have nonempty : tokens raw ≠ [] := Text.split_ne_nil ',' raw.toList
  -- The comma comes first, and the reading after it.
  have padded : Padded (tokens raw ++ []) (tokens raw ++ [[]]) :=
    .inserted (tokens raw) [] (.blank fun _ => (nomatch ·))
  have trailing := alike_of_padded padded (by simpa using nonempty)
    (List.forall_mem_append.2 ⟨free, List.forall_mem_singleton.2 List.not_mem_nil⟩)
  rw [List.append_nil, write_tokens] at trailing
  exact .trans _ _ _ (.symm _ _ trailing) (alike_read .empty (fun _ => (nomatch ·)) free)

end OwnerText

/-! ## Reading -/

namespace OwnerSet

theorem toList_parse_comma (front back : String) :
    (parse (front ++ "," ++ back)).toList =
      (parse front).toList ++ (parse back).toList.filter fun owner => owner ∉ (parse front).toList := by
  have cut : Text.split ',' (front ++ "," ++ back).toList =
      Text.split ',' front.toList ++ Text.split ',' back.toList := by
    have row : (front ++ "," ++ back).toList = front.toList ++ ',' :: back.toList := by simp
    rw [row, Text.split_append_cons]
  have merged : parse (front ++ "," ++ back) = (parse back).toList.foldl insert (parse front) := by
    rw [parse, cut, OwnerText.ofTokens_eq, List.filterMap_append, ofList, List.foldl_append,
      ← ofList, ← foldl_insert_ofList]
    rfl
  rw [merged, toList_foldl_insert_parse]

/-- An annotation that is made of two lists the owners of the first and behind them those that only the
second lists. And two annotations are read alike exactly if one comes from the other by putting in and
taking out tokens that do not count, and blanks around tokens. -/
theorem parses_piecewise :
    (∀ front back : String, (parse (front ++ "," ++ back)).toList =
      (parse front).toList ++
        (parse back).toList.filter fun owner => owner ∉ (parse front).toList) ∧
    ∀ first second : String, parse first = parse second ↔ OwnerText.Alike first second := by
  refine ⟨toList_parse_comma, fun first second => ⟨fun same => ?_, OwnerText.Alike.parse_eq⟩⟩
  have trailing := OwnerText.alike_trailing first
  rw [same] at trailing
  exact .trans _ _ _ trailing (.symm _ _ (OwnerText.alike_trailing second))

example : parse " team/web,,team/web ,web,\x09,team/api/v2,team/api" = parse "team/web,team/api" := by
  decide +kernel

end OwnerSet

end RouteOverrides
