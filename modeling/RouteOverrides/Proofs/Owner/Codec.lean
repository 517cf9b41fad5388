import Mathlib.Data.List.Nodup
import RouteOverrides.Owner.Set

/-! # Reading back the owners of an annotation

An annotation is a row of tokens with commas between neighbours, and blanks around a token do not
count. So an owner can be read back from its token only if no comma or slash stands in its two
parts, and no blank at the ends of the token.

* `Owner.WellFormed` — the owners whose tokens can be read back.
* `OwnerSet.wellFormed_of_mem_parse` — reading an annotation yields no other owners.
* `OwnerSet.parse_encode` — a set of such owners is read back as it was written.
* `OwnerSet.parse_encode_iff` — and no other set is.
-/

namespace RouteOverrides

/-! ## Cutting and trimming -/

namespace Text

theorem split_of_not_mem {sep : Char} {s : List Char} (free : sep ∉ s) : split sep s = [s] := by
  induction s with
  | nil => rfl
  | cons c rest inductionHypothesis =>
    simp only [List.mem_cons, not_or] at free
    rw [split, if_neg (Ne.symm free.1), inductionHypothesis free.2]

/-- A separator always ends a piece, whatever stands on its two sides. -/
theorem split_append_cons (sep : Char) (before after : List Char) :
    split sep (before ++ sep :: after) = split sep before ++ split sep after := by
  induction before with
  | nil => simp [split]
  | cons c before inductionHypothesis =>
    rw [List.cons_append, split, split]
    split
    · rw [inductionHypothesis, List.cons_append]
    · rw [inductionHypothesis]
      obtain ⟨piece, pieces, cut⟩ := List.exists_cons_of_ne_nil (split_ne_nil sep before)
      rw [cut]
      rfl

/-- Pieces without the separator are found again in their row. -/
theorem split_join {sep : Char} {pieces : List (List Char)} (nonempty : pieces ≠ [])
    (free : ∀ piece ∈ pieces, sep ∉ piece) : split sep (join sep pieces) = pieces := by
  induction pieces with
  | nil => exact absurd rfl nonempty
  | cons piece rest inductionHypothesis =>
    cases rest with
    | nil => exact split_of_not_mem (free piece List.mem_cons_self)
    | cons next rest =>
      have restFound := inductionHypothesis (List.cons_ne_nil _ _)
        fun other member => free other (List.mem_cons_of_mem _ member)
      rw [join, split_append_cons, split_of_not_mem (free piece List.mem_cons_self), restFound]
      rfl

theorem not_mem_of_mem_split {sep : Char} {s piece : List Char} (member : piece ∈ split sep s) :
    sep ∉ piece := by
  induction s generalizing piece with
  | nil => simp_all [split]
  | cons c rest inductionHypothesis =>
    rw [split] at member
    split at member
    · rcases List.mem_cons.1 member with rfl | inRest
      · exact List.not_mem_nil
      · exact inductionHypothesis inRest
    · obtain ⟨first, others, cut⟩ := List.exists_cons_of_ne_nil (split_ne_nil sep rest)
      rename_i different
      rw [cut] at member inductionHypothesis
      rcases List.mem_cons.1 member with rfl | inOthers
      · simp only [List.mem_cons, not_or]
        exact ⟨Ne.symm different, inductionHypothesis List.mem_cons_self⟩
      · exact inductionHypothesis (List.mem_cons_of_mem _ inOthers)

/-- No blank stands at either end. -/
def IsTrimmed (s : List Char) : Prop :=
  (∀ c ∈ s.head?, isBlank c = false) ∧ ∀ c ∈ s.getLast?, isBlank c = false

theorem head?_dropWhile_blank {s : List Char} {c : Char}
    (head : c ∈ (s.dropWhile isBlank).head?) : isBlank c = false := by
  have visible := List.head?_dropWhile_not isBlank s
  rw [Option.mem_def] at head
  simpa [head] using visible

theorem dropWhile_blank_eq_self {s : List Char} (visible : ∀ c ∈ s.head?, isBlank c = false) :
    s.dropWhile isBlank = s := by
  cases s with
  | nil => rfl
  | cons c rest => simp [visible c rfl]

theorem isTrimmed_trim (s : List Char) : IsTrimmed (trim s) := by
  constructor
  · intro c head
    -- What is dropped at the end leaves the front as it was, unless nothing is left.
    have front : trim s <+: trimLeft s := by
      have suffix := List.dropWhile_suffix isBlank (l := (trimLeft s).reverse)
      simpa [trim, trimRight] using List.reverse_prefix.2 suffix
    obtain ⟨dropped, whole⟩ := front
    apply head?_dropWhile_blank (s := s)
    change c ∈ (trimLeft s).head?
    rw [← whole, List.head?_append, Option.mem_def.1 head]
    rfl
  · intro c last
    rw [trim, trimRight, List.getLast?_reverse] at last
    exact head?_dropWhile_blank last

theorem mem_of_mem_trim {s : List Char} {c : Char} (member : c ∈ trim s) : c ∈ s := by
  rw [trim, trimRight, List.mem_reverse] at member
  have inLeft := List.mem_reverse.1 ((List.dropWhile_suffix isBlank).subset member)
  exact (List.dropWhile_suffix isBlank).subset inLeft

theorem trim_of_isTrimmed {s : List Char} (trimmed : IsTrimmed s) : trim s = s := by
  rw [trim, trimLeft, dropWhile_blank_eq_self trimmed.1, trimRight, dropWhile_blank_eq_self,
    List.reverse_reverse]
  simpa [List.head?_reverse] using trimmed.2

end Text

/-! ## Owners -/

namespace Owner

/-- An owner whose token can be read back. -/
structure WellFormed (owner : Owner) : Prop where
  ns_ne_nil : owner.ns.toList ≠ []
  name_ne_nil : owner.name.toList ≠ []
  no_slash_ns : '/' ∉ owner.ns.toList
  no_slash_name : '/' ∉ owner.name.toList
  no_comma_ns : ',' ∉ owner.ns.toList
  no_comma_name : ',' ∉ owner.name.toList
  visible_start : ∀ c ∈ owner.ns.toList.head?, Text.isBlank c = false
  visible_end : ∀ c ∈ owner.name.toList.getLast?, Text.isBlank c = false

/-- The same as conditions that can be computed. -/
theorem wellFormed_iff {owner : Owner} : owner.WellFormed ↔
    (owner.ns.toList ≠ [] ∧ owner.name.toList ≠ []) ∧
    ('/' ∉ owner.ns.toList ∧ '/' ∉ owner.name.toList) ∧
    (',' ∉ owner.ns.toList ∧ ',' ∉ owner.name.toList) ∧
    owner.ns.toList.head?.all (fun c => !Text.isBlank c) = true ∧
    owner.name.toList.getLast?.all (fun c => !Text.isBlank c) = true := by
  have visible (end? : Option Char) : end?.all (fun c => !Text.isBlank c) = true ↔
      ∀ c ∈ end?, Text.isBlank c = false := by
    cases end? <;> simp
  rw [visible, visible]
  constructor
  · intro wellFormed
    exact ⟨⟨wellFormed.ns_ne_nil, wellFormed.name_ne_nil⟩,
      ⟨wellFormed.no_slash_ns, wellFormed.no_slash_name⟩,
      ⟨wellFormed.no_comma_ns, wellFormed.no_comma_name⟩,
      wellFormed.visible_start, wellFormed.visible_end⟩
  · rintro ⟨⟨ns, name⟩, ⟨slashNs, slashName⟩, ⟨commaNs, commaName⟩, start, last⟩
    exact ⟨ns, name, slashNs, slashName, commaNs, commaName, start, last⟩

instance : DecidablePred WellFormed := fun _ => decidable_of_iff _ wellFormed_iff.symm

/-- Reading succeeds on tokens with two parts and one slash. -/
theorem ofChars?_eq_some_iff {s : List Char} {owner : Owner} :
    ofChars? s = some owner ↔ s = owner.token.toList ∧ owner.ns.toList ≠ [] ∧
      owner.name.toList ≠ [] ∧ '/' ∉ owner.ns.toList ∧ '/' ∉ owner.name.toList := by
  constructor
  · intro read
    have written := toList_token_of_ofChars? read
    unfold ofChars? at read
    split at read
    · rename_i ns name cut
      obtain ⟨-, slashFree⟩ := Text.cut?_eq_some_iff.1 cut
      split at read
      · cases read
      · rename_i complete
        obtain rfl := Option.some.inj read
        simp only [not_or] at complete
        exact ⟨written.symm, by simpa using complete.1, by simpa using complete.2.1,
          by simpa using slashFree, by simpa using complete.2.2⟩
    · cases read
  · rintro ⟨rfl, nsNonempty, nameNonempty, nsSlashFree, nameSlashFree⟩
    have cut : Text.cut? '/' owner.token.toList = some (owner.ns.toList, owner.name.toList) :=
      Text.cut?_eq_some_iff.2 ⟨toList_token owner, nsSlashFree⟩
    unfold ofChars?
    rw [cut]
    simp [nsNonempty, nameNonempty, nameSlashFree]

theorem WellFormed.not_mem_comma {owner : Owner} (wellFormed : owner.WellFormed) :
    ',' ∉ owner.token.toList := by
  simp [wellFormed.no_comma_ns, wellFormed.no_comma_name]

theorem WellFormed.isTrimmed {owner : Owner} (wellFormed : owner.WellFormed) :
    Text.IsTrimmed owner.token.toList := by
  rw [toList_token]
  constructor
  · obtain ⟨c, rest, start⟩ := List.exists_cons_of_ne_nil wellFormed.ns_ne_nil
    have visible := wellFormed.visible_start
    rw [start] at visible ⊢
    simpa using visible
  · have whole : owner.ns.toList ++ '/' :: owner.name.toList =
        (owner.ns.toList ++ ['/']) ++ owner.name.toList := by simp
    rw [whole, List.getLast?_append, List.getLast?_eq_some_getLast wellFormed.name_ne_nil]
    have visible := wellFormed.visible_end
    rw [List.getLast?_eq_some_getLast wellFormed.name_ne_nil] at visible
    exact visible

theorem WellFormed.ofChars?_trim {owner : Owner} (wellFormed : owner.WellFormed) :
    ofChars? (Text.trim owner.token.toList) = some owner := by
  rw [Text.trim_of_isTrimmed wellFormed.isTrimmed, ofChars?_eq_some_iff]
  exact ⟨rfl, wellFormed.ns_ne_nil, wellFormed.name_ne_nil, wellFormed.no_slash_ns,
    wellFormed.no_slash_name⟩

/-- No other owner has the same token. -/
theorem WellFormed.eq_of_token_eq {owner other : Owner} (wellFormed : owner.WellFormed)
    (sameToken : owner.token = other.token) : owner = other := by
  have sameText := congrArg String.toList sameToken
  rw [toList_token, toList_token, List.append_eq_append_iff] at sameText
  have sameParts : owner.ns.toList = other.ns.toList ∧ owner.name.toList = other.name.toList := by
    rcases sameText with ⟨between, sameNs, sameRest⟩ | ⟨between, sameNs, sameRest⟩
    · cases between with
      | nil => exact ⟨by simpa using sameNs.symm, by simpa using sameRest⟩
      | cons c between =>
        -- The slash of the other token would stand inside this name.
        have inName : '/' ∈ owner.name.toList := by
          rw [(List.cons.inj sameRest).2]
          simp
        exact absurd inName wellFormed.no_slash_name
    · cases between with
      | nil => exact ⟨by simpa using sameNs, by simpa using sameRest.symm⟩
      | cons c between =>
        have inNs : '/' ∈ owner.ns.toList := by
          rw [sameNs, ← (List.cons.inj sameRest).1]
          simp
        exact absurd inNs wellFormed.no_slash_ns
  cases owner
  cases other
  simpa [String.toList_inj] using sameParts

end Owner

/-! ## Sets of owners -/

namespace OwnerSet

theorem ext_toList {first second : OwnerSet} (same : first.toList = second.toList) :
    first = second := by
  cases first
  cases second
  cases same
  rfl

theorem mem_insert {owners : OwnerSet} {added owner : Owner}
    (member : owner ∈ (owners.insert added).toList) : owner ∈ owners.toList ∨ owner = added := by
  by_cases known : added.token ∈ owners.tokens
  · rw [insert_of_mem known] at member
    exact .inl member
  · rw [toList_insert_of_not_mem known] at member
    simpa using member

theorem mem_foldl_insert {start : OwnerSet} {added : List Owner} {owner : Owner}
    (member : owner ∈ (added.foldl insert start).toList) :
    owner ∈ start.toList ∨ owner ∈ added := by
  induction added generalizing start with
  | nil => exact .inl member
  | cons first rest inductionHypothesis =>
    rcases inductionHypothesis member with inStart | inRest
    · rcases mem_insert inStart with inStart | rfl
      · exact .inl inStart
      · exact .inr List.mem_cons_self
    · exact .inr (List.mem_cons_of_mem _ inRest)

theorem mem_foldl_insert_of_mem {start : OwnerSet} {owner : Owner} (member : owner ∈ start.toList)
    (added : List Owner) : owner ∈ (added.foldl insert start).toList := by
  induction added generalizing start with
  | nil => exact member
  | cons first rest inductionHypothesis =>
    refine inductionHypothesis ?_
    by_cases known : first.token ∈ start.tokens
    · rwa [insert_of_mem known]
    · rw [toList_insert_of_not_mem known]
      exact List.mem_append_left _ member

/-- Owners with new tokens only line up behind those that are there. -/
theorem toList_foldl_insert {start : OwnerSet} {added : List Owner}
    (distinct : (start.tokens ++ added.map Owner.token).Nodup) :
    (added.foldl insert start).toList = start.toList ++ added := by
  induction added generalizing start with
  | nil => simp
  | cons first rest inductionHypothesis =>
    have fresh : first.token ∉ start.tokens := by
      intro known
      rw [List.nodup_append] at distinct
      exact distinct.2.2 _ known _ (by simp) rfl
    have grown := toList_insert_of_not_mem fresh
    rw [List.foldl_cons, inductionHypothesis, grown, List.append_assoc, List.singleton_append]
    simpa [tokens, grown] using distinct

theorem ofList_toList (owners : OwnerSet) : ofList owners.toList = owners := by
  apply ext_toList
  rw [ofList, toList_foldl_insert]
  · simp
  · simpa using owners.tokens_nodup

/-- Whoever is read from an annotation can be read back from its own token. -/
theorem wellFormed_of_mem_parse {raw : String} {owner : Owner}
    (member : owner ∈ (parse raw).toList) : owner.WellFormed := by
  rcases mem_foldl_insert member with none | named
  · cases none
  · obtain ⟨token, inRaw, read⟩ := List.mem_filterMap.1 named
    obtain ⟨written, nsNonempty, nameNonempty, nsSlashFree, nameSlashFree⟩ :=
      Owner.ofChars?_eq_some_iff.1 read
    have commaFree : ',' ∉ Text.trim token := by
      intro comma
      exact Text.not_mem_of_mem_split inRaw (Text.mem_of_mem_trim comma)
    have trimmed := Text.isTrimmed_trim token
    rw [written, Owner.toList_token] at commaFree trimmed
    simp only [List.mem_append, List.mem_cons, not_or] at commaFree
    obtain ⟨start, rest, starts⟩ := List.exists_cons_of_ne_nil nsNonempty
    have ends := List.getLast?_eq_some_getLast nameNonempty
    refine ⟨nsNonempty, nameNonempty, nsSlashFree, nameSlashFree, commaFree.1, commaFree.2.2,
      ?_, ?_⟩
    · intro c head
      refine trimmed.1 c ?_
      rw [starts] at head ⊢
      exact head
    · intro c last
      refine trimmed.2 c ?_
      rw [ends] at last
      rw [List.append_cons, List.getLast?_append, ends]
      exact last

/-- The annotation, as a row of tokens. -/
theorem toList_encode (owners : OwnerSet) :
    owners.encode.toList = Text.join ',' (owners.tokens.map String.toList) := by
  rw [encode]
  induction owners.tokens with
  | nil => rfl
  | cons token rest inductionHypothesis =>
    cases rest with
    | nil => simp [Text.join]
    | cons next rest =>
      rw [String.intercalate_cons_cons, String.toList_append, inductionHypothesis]
      simp [Text.join]

theorem encode_insert_empty (owner : Owner) : (empty.insert owner).encode = owner.token := by
  rw [encode, tokens, toList_insert_of_not_mem List.not_mem_nil]
  rfl

/-- A set of owners that can be read back is read as it was written. -/
theorem parse_encode {owners : OwnerSet}
    (wellFormed : ∀ owner ∈ owners.toList, owner.WellFormed) : parse owners.encode = owners := by
  rw [parse, toList_encode, ofTokens]
  by_cases none : owners.toList = []
  · -- The empty annotation is one empty token, which names nobody.
    simp only [tokens, none, List.map_nil, Text.join, Text.split]
    exact ext_toList none.symm
  · have found : Text.split ',' (Text.join ',' (owners.tokens.map String.toList)) =
        owners.tokens.map String.toList := by
      apply Text.split_join
      · simpa [tokens] using none
      · intro piece member
        simp only [tokens, List.map_map, List.mem_map] at member
        obtain ⟨owner, inOwners, rfl⟩ := member
        exact (wellFormed owner inOwners).not_mem_comma
    have read : (owners.tokens.map String.toList).filterMap
        (fun token => Owner.ofChars? (Text.trim token)) = owners.toList := by
      rw [tokens, List.map_map, List.filterMap_map]
      calc owners.toList.filterMap _
          = owners.toList.filterMap some := List.filterMap_congr fun owner member =>
            (wellFormed owner member).ofChars?_trim
        _ = owners.toList := List.filterMap_some
    rw [found, read, ofList_toList]

/-- A set of owners is read back as it was written exactly if each of its owners can be read back. What
is read from any text, or where there is no annotation, is such a set. -/
theorem parse_encode_iff (owners : List Owner) (raw : Option String) :
    ((parse (ofList owners).encode).toList = (ofList owners).toList ↔
      ∀ owner ∈ (ofList owners).toList, owner.WellFormed) ∧
    (∀ owner ∈ (parse (raw.getD "")).toList, owner.WellFormed) ∧
    parse (parse (raw.getD "")).encode = parse (raw.getD "") := by
  have readable : ∀ owner ∈ (parse (raw.getD "")).toList, owner.WellFormed :=
    fun _ member => wellFormed_of_mem_parse member
  refine ⟨⟨fun same owner member => ?_, fun wellFormed => ?_⟩, readable, parse_encode readable⟩
  · -- Whoever stands in the set is read from its own annotation.
    rw [← same] at member
    exact wellFormed_of_mem_parse member
  · rw [parse_encode wellFormed]

/-! ## Taking an owner out of a set that was read -/

theorem contains_parse_iff {raw : String} {owner : Owner} :
    (parse raw).contains owner = true ↔ owner ∈ (parse raw).toList := by
  rw [contains_iff, tokens, List.mem_map]
  constructor
  · rintro ⟨other, inRaw, sameToken⟩
    rwa [(wellFormed_of_mem_parse inRaw).eq_of_token_eq sameToken] at inRaw
  · intro inRaw
    exact ⟨owner, inRaw, rfl⟩

theorem toList_erase_parse (raw : String) (owner : Owner) :
    ((parse raw).erase owner).toList = (parse raw).toList.erase owner := by
  rw [toList_erase, (List.Nodup.of_map _ (parse raw).tokens_nodup).erase_eq_filter]
  apply List.filter_congr
  intro other inRaw
  have sameToken : other.token = owner.token ↔ other = owner :=
    ⟨(wellFormed_of_mem_parse inRaw).eq_of_token_eq, congrArg _⟩
  rw [Bool.eq_iff_iff, bne_iff_ne, bne_iff_ne, ne_eq, sameToken]

theorem parse_encode_erase (raw : String) (owner : Owner) :
    parse ((parse raw).erase owner).encode = (parse raw).erase owner :=
  parse_encode fun _ member => wellFormed_of_mem_parse (List.mem_filter.1 member).1

end OwnerSet

end RouteOverrides
