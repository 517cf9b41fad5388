/-! # Names of overrides and of versions

Two rules say which names are accepted, and one function joins a name to a host.

* A unique name has 1 to 201 characters: lower-case letters, digits, `-` and `.`.
* A version has 1 to 63 characters: letters, digits, `-`, `.` and `_`.

* `overrideName`: the name of the override of a service host, from the unique name that its owner
  uses and the host.

The first character of a unique name or a version is a letter or a digit, and letters and digits are
those of ASCII. A name is read as a line of text: one line break at its end does not count. -/

namespace RouteOverrides

/-- A rule for names: what may come first, what may follow, and how long a name may get. -/
structure NameRule where
  mayStart : Char → Bool
  mayFollow : Char → Bool
  maxLength : Nat

namespace NameRule

def isLowerOrDigit (c : Char) : Bool := ('a' ≤ c && c ≤ 'z') || ('0' ≤ c && c ≤ '9')

def isLetterOrDigit (c : Char) : Bool := isLowerOrDigit c || ('A' ≤ c && c ≤ 'Z')

def uniqueName : NameRule where
  mayStart := isLowerOrDigit
  mayFollow c := isLowerOrDigit c || c == '-' || c == '.'
  maxLength := 201

def version : NameRule where
  mayStart := isLetterOrDigit
  mayFollow c := isLetterOrDigit c || c == '-' || c == '.' || c == '_'
  maxLength := 63

/-- A text made of the rule's characters and within its length. -/
def fits (rule : NameRule) : List Char → Bool
  | [] => false
  | c :: rest => rule.mayStart c && rest.all rule.mayFollow && rest.length < rule.maxLength

/-- A text without one line break at its end. -/
def lineOf (s : List Char) : List Char :=
  if s.getLast? = some '\n' then s.dropLast else s

def accepts (rule : NameRule) (name : String) : Bool := rule.fits (lineOf name.toList)

/-- A name that fits has no line break at its end, so it is accepted as it stands. -/
theorem lineOf_of_fits {rule : NameRule} (hbreak : rule.mayFollow '\n' = false)
    (hstart : rule.mayStart '\n' = false) {s : List Char} (h : rule.fits s = true) :
    lineOf s = s := by
  cases s with
  | nil => rfl
  | cons c rest =>
    simp only [fits, Bool.and_eq_true, decide_eq_true_eq] at h
    obtain ⟨⟨hc, hall⟩, -⟩ := h
    unfold lineOf
    rw [if_neg]
    intro hlast
    have hmem := List.mem_of_getLast? hlast
    rcases List.mem_cons.1 hmem with rfl | hrest
    · rw [hstart] at hc
      exact Bool.false_ne_true hc
    · have := List.all_eq_true.1 hall _ hrest
      rw [hbreak] at this
      exact Bool.false_ne_true this

end NameRule

def overrideName (uniqueName host : String) : String := uniqueName ++ "-" ++ host

end RouteOverrides
