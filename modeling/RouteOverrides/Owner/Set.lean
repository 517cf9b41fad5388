import RouteOverrides.Owner.Basic
import RouteOverrides.Text.Blank

/-! # Sets of owners

A set of owners keeps them in the order in which they were added, and holds one owner a token.

* `OwnerSet.parse`: reads the comma-joined tokens of an annotation. It is lenient: empty tokens and
  tokens that name no owner are skipped.
* `OwnerSet.encode`: the tokens joined with commas.
* `OwnerSet.add` and `OwnerSet.discard` answer whether they changed the set.
* `OwnerSet.perform`: one step of adding, discarding or looking for an owner. -/

namespace RouteOverrides

/-- An ordered set of owners without two of the same token. -/
structure OwnerSet where
  toList : List Owner
  tokens_nodup : (toList.map Owner.token).Nodup
  deriving DecidableEq

namespace OwnerSet

/-- The set without owners. -/
def empty : OwnerSet := ⟨[], List.nodup_nil⟩

instance : Inhabited OwnerSet := ⟨empty⟩

/-- The tokens in order. -/
def tokens (owners : OwnerSet) : List String := owners.toList.map Owner.token

def size (owners : OwnerSet) : Nat := owners.toList.length

def contains (owners : OwnerSet) (owner : Owner) : Bool := owners.tokens.contains owner.token

/-- The set with the owner at the end, unless its token is there. -/
def insert (owners : OwnerSet) (owner : Owner) : OwnerSet :=
  if h : owner.token ∈ owners.tokens then owners
  else
    { toList := owners.toList ++ [owner]
      tokens_nodup := by
        rw [List.map_append, List.nodup_append]
        refine ⟨owners.tokens_nodup, by simp, ?_⟩
        intro a ha b hb
        simp only [List.map_cons, List.map_nil, List.mem_singleton] at hb
        rintro rfl
        exact h (hb ▸ ha) }

/-- The set without the owner of this token. -/
def erase (owners : OwnerSet) (owner : Owner) : OwnerSet where
  toList := owners.toList.filter fun other => other.token != owner.token
  tokens_nodup := owners.tokens_nodup.sublist (List.filter_sublist.map _)

/-- Adds an owner; answers whether it was new. -/
def add (owners : OwnerSet) (owner : Owner) : Bool × OwnerSet :=
  (!owners.contains owner, owners.insert owner)

/-- Takes an owner out; answers whether it was there. -/
def discard (owners : OwnerSet) (owner : Owner) : Bool × OwnerSet :=
  (owners.contains owner, owners.erase owner)

/-- Something to look for in a set. -/
inductive Candidate where
  | owner (owner : Owner)
  /-- A written token; it is no owner, so no set holds it. -/
  | text (token : String)

def holds (owners : OwnerSet) : Candidate → Bool
  | .owner owner => owners.contains owner
  | .text _ => false

/-- Something to do with a set. -/
inductive Step where
  | add (owner : Owner)
  | discard (owner : Owner)
  | find (candidate : Candidate)

/-- The answer to a step, and the set after it. -/
def perform (owners : OwnerSet) : Step → Bool × OwnerSet
  | .add owner => owners.add owner
  | .discard owner => owners.discard owner
  | .find candidate => (owners.holds candidate, owners)

def ofList (owners : List Owner) : OwnerSet := owners.foldl insert empty

def ofTokens (tokens : List (List Char)) : OwnerSet :=
  ofList (tokens.filterMap fun token => Owner.ofChars? (Text.trim token))

def parse (raw : String) : OwnerSet := ofTokens (Text.split ',' raw.toList)

def encode (owners : OwnerSet) : String := String.intercalate "," owners.tokens

@[simp] theorem toList_empty : empty.toList = [] := rfl
@[simp] theorem tokens_empty : empty.tokens = [] := rfl

theorem insert_of_mem {owners : OwnerSet} {owner : Owner}
    (h : owner.token ∈ owners.tokens) : owners.insert owner = owners := by
  simp [insert, h]

theorem toList_insert_of_not_mem {owners : OwnerSet} {owner : Owner}
    (h : owner.token ∉ owners.tokens) :
    (owners.insert owner).toList = owners.toList ++ [owner] := by
  simp [insert, h]

@[simp] theorem toList_erase (owners : OwnerSet) (owner : Owner) :
    (owners.erase owner).toList =
      owners.toList.filter fun other => other.token != owner.token := rfl

theorem contains_iff {owners : OwnerSet} {owner : Owner} :
    owners.contains owner = true ↔ owner.token ∈ owners.tokens := by
  simp [contains]

end OwnerSet

end RouteOverrides
