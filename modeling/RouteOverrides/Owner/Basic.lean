import RouteOverrides.Json.Basic
import RouteOverrides.Schema
import RouteOverrides.Text.Split

/-! # Owners

An owner is a resource that relies on override objects. It is named by a namespace and a name, and
written as the token `namespace/name`.

* `Owner.token`: the written form.
* `Owner.ofToken?`: reads a token. Both parts have to be there, and the name holds no slash.
* `Owner.check`: an owner in a JSON record. Here the two parts may be any texts. -/

namespace RouteOverrides

/-- The owning resource of an override object. -/
structure Owner where
  ns : String
  name : String
  deriving DecidableEq, Repr, Inhabited

namespace Owner

def token (owner : Owner) : String := owner.ns ++ "/" ++ owner.name

/-- Reads a written owner given as characters. -/
def ofChars? (s : List Char) : Option Owner :=
  match Text.cut? '/' s with
  | some (ns, name) =>
    if ns = [] ∨ name = [] ∨ '/' ∈ name then none
    else some ⟨String.ofList ns, String.ofList name⟩
  | none => none

/-- Reads a written owner; none for anything that is not of the form `namespace/name`. -/
def ofToken? (token : String) : Option Owner := ofChars? token.toList

/-- An owner as a record. -/
def check : Json → Schema.Checked Owner :=
  Schema.record fun members =>
    Schema.apply
      (Schema.apply (.ok Owner.mk) (Schema.required members "namespace" Schema.text))
      (Schema.required members "name" Schema.text)

def toJson (owner : Owner) : Json :=
  .obj [("namespace", .str owner.ns), ("name", .str owner.name)]

@[simp] theorem toList_token (owner : Owner) :
    owner.token.toList = owner.ns.toList ++ '/' :: owner.name.toList := by
  simp [token, String.toList_append]

/-- Reading gives an owner back under the token that was read. -/
theorem toList_token_of_ofChars? {s : List Char} {owner : Owner} (h : ofChars? s = some owner) :
    owner.token.toList = s := by
  unfold ofChars? at h
  split at h
  · rename_i ns name hcut
    split at h
    · cases h
    · obtain rfl := Option.some.inj h
      obtain ⟨hs, -⟩ := Text.cut?_eq_some_iff.1 hcut
      simp [hs]
  · cases h

end Owner

end RouteOverrides
