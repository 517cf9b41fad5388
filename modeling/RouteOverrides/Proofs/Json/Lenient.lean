import RouteOverrides.Json.Lenient

/-! # Parts that are read leniently

A part of a raw object is read as if it held nothing when it is missing, and when an empty value of any
kind stands there. Otherwise it has to be of the right kind.

* `bind_eq_ok_iff`, `mapError_eq_ok_iff` — steps that go through.
* `Lenient.Vacant` — a part that holds nothing.
* `Lenient.members_eq_ok_iff`, `Lenient.text_eq_ok_iff` — what a part must be to be read, and as what.
-/

namespace RouteOverrides

/-! ## Steps that may fail -/

section Except

variable {ε δ α β : Type}

theorem bind_eq_ok_iff {step : Except ε α} {next : α → Except ε β} {result : β} :
    (step >>= next) = .ok result ↔ ∃ value, step = .ok value ∧ next value = .ok result := by
  cases step with
  | error failure => simp [bind, Except.bind]
  | ok value => simp [bind, Except.bind]

theorem mapError_eq_ok_iff {step : Except ε α} {change : ε → δ} {result : α} :
    step.mapError change = .ok result ↔ step = .ok result := by
  cases step with
  | error failure => exact iff_of_false nofun nofun
  | ok value =>
    constructor <;>
    · intro same
      cases same
      rfl

end Except

/-! ## Parts -/

namespace Lenient

variable {part : Option Json}

/-- A part that holds nothing: it is missing, or an empty value of any kind stands there. -/
def Vacant (part : Option Json) : Prop := ∀ value, part = some value → value.isEmpty = true

theorem vacant_none : Vacant none := nofun

theorem vacant_some {value : Json} : Vacant (some value) ↔ value.isEmpty = true := by
  simp [Vacant]

theorem members_eq_ok_iff {members : List (String × Json)} :
    Lenient.members part = .ok members ↔ part = some (.obj members) ∨ Vacant part ∧ members = [] := by
  cases part with
  | none => simp [vacant_none]
  | some value =>
    rw [vacant_some, Lenient.members]
    split
    · rename_i empty
      cases value with
      | obj inner => simp [List.isEmpty_iff.1 empty]
      | _ => simp [empty]
    · rename_i filled
      cases value <;> simp [Json.members?, filled]

theorem text_eq_ok_iff {text : String} :
    Lenient.text part = .ok text ↔ part = some (.str text) ∨ Vacant part ∧ text = "" := by
  cases part with
  | none => simp [vacant_none]
  | some value =>
    rw [vacant_some, Lenient.text]
    split
    · rename_i empty
      cases value with
      | str inner => simp [beq_iff_eq.1 empty]
      | _ => simp [empty]
    · rename_i filled
      cases value <;> simp [Json.text?, filled]

example : Lenient.text (some (.float (-0.0))) = .ok "" := rfl
example : Lenient.text (some (.float 1.5)) = .error .misread := rfl

end Lenient

end RouteOverrides
