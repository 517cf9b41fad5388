import RouteOverrides.Proofs.Owner.Codec
import RouteOverrides.Routing.Host

/-! # Which hosts name one service

A service of a namespace has four forms: its bare name, and the three longer ones that end in the
namespace. The endings overlap as texts. In a namespace that is itself called `svc` or `local`, the
shortest ending also stands at the end of longer forms of other namespaces. So hosts are compared as rows
of labels, where an ending is a row of whole labels.

* `Host.Form` — the four forms.
* `Host.toList_short` — what is left of a host, as a row of labels.
* `Host.leftOf_eq_nil_iff` — only the bare name is left exactly of the forms in the namespace.
* `Host.sameService_forms_iff` — which forms name one service.
-/

namespace RouteOverrides.Host

variable {ns : List Char} {labels kept : List (List Char)} {name : List Char}

/-! ## Rows of labels -/

/-- Labels in a row, with a dot before each of them. -/
def dotted (labels : List (List Char)) : List Char :=
  labels.flatMap ('.' :: ·)

theorem dotted_append (first second : List (List Char)) :
    dotted (first ++ second) = dotted first ++ dotted second :=
  List.flatMap_append

theorem mem_dotted (label : List Char) (rest : List (List Char)) :
    '.' ∈ dotted (label :: rest) := by
  simp [dotted]

/-- Labels without dots are found again behind any text. -/
theorem split_dotted (free : ∀ label ∈ labels, '.' ∉ label) (before : List Char) :
    Text.split '.' (before ++ dotted labels) = Text.split '.' before ++ labels := by
  induction labels generalizing before with
  | nil => simp [dotted]
  | cons label rest inductionHypothesis =>
    have restFound := inductionHypothesis
      (fun other member => free other (List.mem_cons_of_mem _ member)) label
    rw [Text.split_of_not_mem (free label List.mem_cons_self)] at restFound
    calc Text.split '.' (before ++ '.' :: (label ++ dotted rest))
        = Text.split '.' before ++ Text.split '.' (label ++ dotted rest) :=
          Text.split_append_cons '.' before _
      _ = Text.split '.' before ++ label :: rest := by rw [restFound]; rfl

/-- An ending of a host is an ending of its labels: no part of its name belongs to it. -/
theorem dotted_suffix_iff {ending : List (List Char)} (nameFree : '.' ∉ name)
    (free : ∀ label ∈ labels, '.' ∉ label) (endingFree : ∀ label ∈ ending, '.' ∉ label) :
    dotted ending <:+ name ++ dotted labels ↔ ending <:+ labels := by
  constructor
  · rintro ⟨before, same⟩
    have samePieces := congrArg (Text.split '.') same
    rw [split_dotted endingFree, split_dotted free, Text.split_of_not_mem nameFree] at samePieces
    obtain ⟨piece, pieces, cut⟩ := List.exists_cons_of_ne_nil (Text.split_ne_nil '.' before)
    rw [cut, List.cons_append, List.singleton_append, List.cons.injEq] at samePieces
    exact ⟨pieces, samePieces.2⟩
  · rintro ⟨kept, rfl⟩
    exact ⟨name ++ dotted kept, by rw [dotted_append, List.append_assoc]⟩

theorem eq_append_dotted_iff {declared : List Char} (nameFree : '.' ∉ name) :
    name = declared ++ dotted labels ↔ name = declared ∧ labels = [] := by
  cases labels with
  | nil => simp [dotted]
  | cons label rest =>
    refine ⟨fun same => absurd ?_ nameFree, fun none => by simp at none⟩
    rw [same]
    exact List.mem_append_right _ (mem_dotted label rest)

/-! ## Forms -/

/-- The forms in which a service may be called. -/
inductive Form
  | bare
  | qualified
  | service
  | full
  deriving DecidableEq

namespace Form

/-- The host of a service in a form. -/
def host (name ns : String) : Form → String
  | bare => name
  | qualified => name ++ "." ++ ns
  | service => name ++ "." ++ ns ++ ".svc"
  | full => name ++ "." ++ ns ++ ".svc.cluster.local"

/-- The labels behind the name. -/
def ending (ns : List Char) : Form → List (List Char)
  | bare => []
  | qualified => [ns]
  | service => [ns, "svc".toList]
  | full => [ns, "svc".toList, "cluster".toList, "local".toList]

/-- The forms whose endings are tried, in this order. -/
def tried : List Form := [full, service, qualified]

theorem toList_host (name ns : String) (form : Form) :
    (form.host name ns).toList = name.toList ++ dotted (form.ending ns.toList) := by
  cases form <;> simp [host, ending, dotted]

theorem not_mem_of_mem_ending (nsFree : '.' ∉ ns) (form : Form) :
    ∀ label ∈ form.ending ns, '.' ∉ label := by
  cases form <;> simp [ending, nsFree]

/-- A form is known by its number of labels, so only the namespace is left to compare. -/
theorem ending_eq_iff {other : List Char} {form another : Form} :
    form.ending other = another.ending ns ↔ form = another ∧ (form = bare ∨ other = ns) := by
  cases form <;> cases another <;> simp [ending]

end Form

theorem endings_eq (ns : String) :
    endings ns = Form.tried.map fun form => String.ofList (dotted (form.ending ns.toList)) := by
  simp [endings, Form.tried, Form.ending, dotted, ← String.toList_inj]

/-! ## What is left of a host -/

theorem take_withoutEnding {α : Type} (before ending : List α) :
    (before ++ ending).take ((before ++ ending).length - ending.length) = before :=
  List.take_left' (by simp)

/-- The labels that are left of a host after its ending is cut off. -/
def leftOf (ns : List Char) (labels : List (List Char)) : List (List Char) :=
  match Form.tried.find? fun form => (form.ending ns).isSuffixOf labels with
  | some form => labels.take (labels.length - (form.ending ns).length)
  | none => labels

theorem properlyEnds_dotted (nonempty : name ≠ []) (nameFree : '.' ∉ name) (nsFree : '.' ∉ ns)
    (free : ∀ label ∈ labels, '.' ∉ label) (form : Form) :
    properlyEnds (dotted (form.ending ns)) (name ++ dotted labels) =
      (form.ending ns).isSuffixOf labels := by
  have same := dotted_suffix_iff nameFree free (form.not_mem_of_mem_ending nsFree)
  rw [Bool.eq_iff_iff, properlyEnds, Bool.and_eq_true, List.isSuffixOf_iff_suffix,
    List.isSuffixOf_iff_suffix, decide_eq_true_eq, same]
  refine ⟨And.left, fun ends => ⟨ends, ?_⟩⟩
  obtain ⟨kept, rfl⟩ := ends
  have : 0 < name.length := List.length_pos_of_ne_nil nonempty
  rw [dotted_append, List.length_append, List.length_append]
  omega

theorem toList_short {host ns : String} (whole : host.toList = name ++ dotted labels)
    (nonempty : name ≠ []) (nameFree : '.' ∉ name) (nsFree : '.' ∉ ns.toList)
    (free : ∀ label ∈ labels, '.' ∉ label) :
    (short host ns).toList = name ++ dotted (leftOf ns.toList labels) := by
  have sameEnding := properlyEnds_dotted nonempty nameFree nsFree free
  rw [short, endings_eq, List.find?_map, whole, leftOf]
  simp only [Function.comp_def, String.toList_ofList, sameEnding]
  cases found : Form.tried.find? fun form => (form.ending ns.toList).isSuffixOf labels with
  | none => exact whole
  | some form =>
    have ends := List.find?_some found
    obtain ⟨kept, rfl⟩ := List.isSuffixOf_iff_suffix.1 ends
    have cut : name ++ dotted (kept ++ form.ending ns.toList) =
        (name ++ dotted kept) ++ dotted (form.ending ns.toList) := by
      rw [dotted_append, List.append_assoc]
    simp only [Option.map_some, String.toList_ofList, cut, take_withoutEnding]

/-- Only the name is left exactly of the forms of a service in the namespace. -/
theorem leftOf_eq_nil_iff : leftOf ns labels = [] ↔ ∃ form : Form, labels = form.ending ns := by
  constructor
  · intro none
    rw [leftOf] at none
    split at none
    · rename_i form found
      have ends := List.find?_some found
      obtain ⟨kept, rfl⟩ := List.isSuffixOf_iff_suffix.1 ends
      rw [take_withoutEnding] at none
      exact ⟨form, by rw [none, List.nil_append]⟩
    · exact ⟨.bare, none⟩
  · rintro ⟨form, rfl⟩
    -- Longer endings than its own do not fit into a form.
    cases form <;> simp [leftOf, Form.tried, Form.ending, List.isSuffixOf]

/-! ## The same service -/

/-- No dot stands in a text. -/
def Undotted (text : String) : Prop :=
  '.' ∉ text.toList

instance : DecidablePred Undotted := fun text => inferInstanceAs (Decidable ('.' ∉ text.toList))

/-- In the namespace of the caller, any form of its service names the same service as any form of
the same name there, and as the bare name of an object, but as no form of another namespace. For an object
of another namespace, only equal hosts name one service. -/
theorem sameService_forms_iff :
    (∀ (ns other name declared : String) (form declaredForm : Form),
      Undotted ns → Undotted other → Undotted name → Undotted declared → name ≠ "" → declared ≠ "" →
      (sameService (form.host name ns) ns (declaredForm.host declared other) ns = true ↔
        name = declared ∧ (declaredForm = .bare ∨ other = ns))) ∧
    ∀ host ns declaredHost declaredNs : String, declaredNs ≠ ns →
      (sameService host ns declaredHost declaredNs = true ↔ host = declaredHost) := by
  constructor
  · intro ns other name declared form declaredForm nsFree otherFree nameFree declaredFree
      nonempty declaredNonempty
    have whole := form.toList_host name ns
    have declaredWhole := declaredForm.toList_host declared other
    have short := toList_short whole (by simpa using nonempty) nameFree nsFree
      (form.not_mem_of_mem_ending nsFree)
    have declaredShort := toList_short declaredWhole (by simpa using declaredNonempty) declaredFree
      nsFree (declaredForm.not_mem_of_mem_ending otherFree)
    rw [leftOf_eq_nil_iff.2 ⟨form, rfl⟩] at short
    have left : leftOf ns.toList (declaredForm.ending other.toList) = [] ↔
        declaredForm = .bare ∨ other = ns := by
      simp only [leftOf_eq_nil_iff, Form.ending_eq_iff, String.toList_inj, exists_eq_left']
    rw [sameService_iff, ← String.toList_inj, short, declaredShort, ← left, ← String.toList_inj]
    simpa [dotted] using eq_append_dotted_iff nameFree
  · intro host ns declaredHost declaredNs different
    rw [sameService_of_ne different, beq_iff_eq]

/-- In a namespace called `svc`, the service `local` is known by its longest form to an object that
says `local.svc`, but not to one that says `local.cluster.svc`, whose last label is only an ending. -/
theorem sameService_svc_local :
    (Undotted "svc" ∧ Undotted "cluster" ∧ Undotted "local" ∧ "local" ≠ "" ∧ "other" ≠ "svc") ∧
    sameService "local.svc.svc.cluster.local" "svc" "local.svc" "svc" = true ∧
    sameService "local.svc.svc.cluster.local" "svc" "local.cluster.svc" "svc" = false ∧
    sameService "local.svc" "svc" "local" "other" = false := by
  have same := sameService_forms_iff.1 "svc" "svc" "local" "local" .full .qualified
    (by decide) (by decide) (by decide) (by decide) (by decide) (by decide)
  have different := sameService_forms_iff.1 "svc" "cluster" "local" "local" .full .service
    (by decide) (by decide) (by decide) (by decide) (by decide) (by decide)
  have elsewhere := sameService_forms_iff.2 "local.svc" "svc" "local" "other" (by decide)
  refine ⟨by decide, same.2 (by decide), ?_, ?_⟩
  · exact Bool.eq_false_iff.2 fun named => absurd (different.1 named) (by decide)
  · exact Bool.eq_false_iff.2 fun named => absurd (elsewhere.1 named) (by decide)

end RouteOverrides.Host
