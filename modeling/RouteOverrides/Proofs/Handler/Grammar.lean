import RouteOverrides.Proofs.Handler.Errand
import RouteOverrides.Proofs.Handler.Requests
import RouteOverrides.Proofs.Release.Rewrites

/-! # The grammar of names

Unique names and versions have a documented grammar: some characters, some of which may come first, and
a greatest length. What is accepted is a name of its grammar, or such a name with one line break behind
it. Handlers are made for accepted names only, and the names, labels and subsets that they write are
made from these names and from hosts.

* `Grammar.Spells` — the names of a grammar.
* `NameRule.accepts_iff` — the names that are accepted.
* `Handler.Carries` — what a request of a handler carries.
* `Handler.spelled_by_grammar` — which handlers there are, and what they write.
-/

namespace RouteOverrides

/-! ## Names of a grammar -/

/-- How names are spelled: what they begin with, what they are made of, and how long they may get. -/
structure Grammar where
  initials : List Char
  alphabet : List Char
  longest : Nat

namespace Grammar

def lowerLetters : List Char := "abcdefghijklmnopqrstuvwxyz".toList

def upperLetters : List Char := "ABCDEFGHIJKLMNOPQRSTUVWXYZ".toList

def digits : List Char := "0123456789".toList

def uniqueName : Grammar where
  initials := lowerLetters ++ digits
  alphabet := lowerLetters ++ digits ++ ['-', '.']
  longest := 201

def version : Grammar where
  initials := lowerLetters ++ upperLetters ++ digits
  alphabet := lowerLetters ++ upperLetters ++ digits ++ ['-', '.', '_']
  longest := 63

variable {grammar : Grammar} {name : String}

structure Spells (grammar : Grammar) (name : String) : Prop where
  length : 1 ≤ name.length ∧ name.length ≤ grammar.longest
  letters : ∀ c ∈ name.toList, c ∈ grammar.alphabet
  initial : ∀ c ∈ name.toList.head?, c ∈ grammar.initials

/-- A name of a grammar, or one with a line break behind it. -/
def SpellsLine (grammar : Grammar) (name : String) : Prop :=
  grammar.Spells name ∨ ∃ line, grammar.Spells line ∧ name = line ++ "\n"

theorem SpellsLine.letters (spells : grammar.SpellsLine name) :
    ∀ c ∈ name.toList, c ∈ grammar.alphabet ∨ c = '\n' := by
  rcases spells with spells | ⟨line, spells, rfl⟩
  · exact fun c member => .inl (spells.letters c member)
  · intro c member
    rw [String.toList_append, List.mem_append] at member
    exact member.imp (spells.letters c) List.mem_singleton.1

theorem SpellsLine.head (spells : grammar.SpellsLine name) :
    ∃ c rest, name.toList = c :: rest ∧ c ∈ grammar.initials := by
  have begun : ∀ line : String, grammar.Spells line →
      ∃ c rest, line.toList = c :: rest ∧ c ∈ grammar.initials := by
    intro line spells
    cases letters : line.toList with
    | nil =>
      have short := spells.length.1
      rw [← String.length_toList, letters] at short
      cases short
    | cons c rest => exact ⟨c, rest, rfl, spells.initial c (by rw [letters]; rfl)⟩
  rcases spells with spells | ⟨line, spells, rfl⟩
  · exact begun name spells
  · obtain ⟨c, rest, letters, isInitial⟩ := begun line spells
    exact ⟨c, rest ++ ['\n'], by simp [letters], isInitial⟩

end Grammar

/-! ## Names that are accepted -/

namespace NameRule

variable {rule : NameRule} {grammar : Grammar}

/-- A rule and a grammar say the same of characters and of lengths. -/
structure Follows (rule : NameRule) (grammar : Grammar) : Prop where
  starts : ∀ c, rule.mayStart c = true ↔ c ∈ grammar.initials
  follows : ∀ c, rule.mayFollow c = true ↔ c ∈ grammar.alphabet
  length : rule.maxLength = grammar.longest
  initials : grammar.initials ⊆ grammar.alphabet
  unbroken : '\n' ∉ grammar.alphabet

/-- Of ASCII characters, each one is looked at. -/
theorem test_iff_of_ascii {test : Char → Bool} {letters : List Char}
    (ascii : ∀ c, test c = true → c.toNat < 128) (asciiToo : letters.all (·.toNat < 128) = true)
    (same : ∀ code < 128, test (Char.ofNat code) = letters.contains (Char.ofNat code)) (c : Char) :
    test c = true ↔ c ∈ letters := by
  by_cases early : c.toNat < 128
  · rw [← Char.ofNat_toNat c, same _ early, List.contains_iff_mem]
  · refine iff_of_false (mt (ascii c) early) fun member => early ?_
    exact of_decide_eq_true (List.all_eq_true.1 asciiToo c member)

theorem ascii_of_isLetterOrDigit {c : Char} (isOne : isLetterOrDigit c = true) : c.toNat < 128 := by
  simp only [isLetterOrDigit, isLowerOrDigit, Bool.or_eq_true, Bool.and_eq_true, decide_eq_true_eq,
    Char.le_def, UInt32.le_iff_toNat_le] at isOne
  have same : c.toNat = c.val.toNat := rfl
  have bounds : 'z'.val.toNat = 122 ∧ '9'.val.toNat = 57 ∧ 'Z'.val.toNat = 90 := ⟨rfl, rfl, rfl⟩
  omega

theorem ascii_of_isLowerOrDigit {c : Char} (isOne : isLowerOrDigit c = true) : c.toNat < 128 :=
  ascii_of_isLetterOrDigit (by rw [isLetterOrDigit, isOne, Bool.true_or])

theorem follows_uniqueName : uniqueName.Follows .uniqueName where
  starts := test_iff_of_ascii (fun _ => ascii_of_isLowerOrDigit) (by decide) (by decide +kernel)
  follows := by
    refine test_iff_of_ascii (fun c allowed => ?_) (by decide) (by decide +kernel)
    simp only [uniqueName, Bool.or_eq_true, beq_iff_eq] at allowed
    rcases allowed with (isOne | rfl) | rfl
    · exact ascii_of_isLowerOrDigit isOne
    · decide
    · decide
  length := rfl
  initials := List.subset_append_left _ _
  unbroken := by decide

theorem follows_version : version.Follows .version where
  starts := test_iff_of_ascii (fun _ => ascii_of_isLetterOrDigit) (by decide) (by decide +kernel)
  follows := by
    refine test_iff_of_ascii (fun c allowed => ?_) (by decide) (by decide +kernel)
    simp only [version, Bool.or_eq_true, beq_iff_eq] at allowed
    rcases allowed with ((isOne | rfl) | rfl) | rfl
    · exact ascii_of_isLetterOrDigit isOne
    · decide
    · decide
    · decide
  length := rfl
  initials := List.subset_append_left _ _
  unbroken := by decide

theorem fits_iff (follows : rule.Follows grammar) (name : String) :
    rule.fits name.toList = true ↔ grammar.Spells name := by
  have length : name.length = name.toList.length := String.length_toList.symm
  cases letters : name.toList with
  | nil =>
    refine iff_of_false Bool.false_ne_true fun spells => ?_
    have short := spells.length.1
    rw [length, letters] at short
    cases short
  | cons c rest =>
    have lengths : rest.length < rule.maxLength ↔ 1 ≤ name.length ∧ name.length ≤ grammar.longest := by
      rw [length, letters, follows.length, List.length_cons]
      omega
    simp only [fits, Bool.and_eq_true, List.all_eq_true, decide_eq_true_eq, follows.starts,
      follows.follows, lengths]
    constructor
    · rintro ⟨⟨first, others⟩, bounds⟩
      refine ⟨bounds, ?_, ?_⟩
      · rw [letters, List.forall_mem_cons]
        exact ⟨follows.initials first, others⟩
      · simpa [letters] using first
    · rintro ⟨bounds, all, first⟩
      rw [letters, List.forall_mem_cons] at all
      exact ⟨⟨first c (by rw [letters]; rfl), all.2⟩, bounds⟩

/-- One line break behind a name does not count. -/
theorem accepts_iff (follows : rule.Follows grammar) (name : String) :
    rule.accepts name = true ↔ grammar.SpellsLine name := by
  rw [accepts, lineOf]
  by_cases broken : name.toList.getLast? = some '\n'
  · obtain ⟨front, whole⟩ := List.getLast?_eq_some_iff.1 broken
    have unfit : ¬ grammar.Spells name := by
      intro spells
      refine follows.unbroken (spells.letters _ ?_)
      rw [whole]
      simp
    have lines : ∀ line : String, name = line ++ "\n" ↔ line = String.ofList front := by
      intro line
      have breaks : "\n".toList = ['\n'] := rfl
      rw [← String.toList_inj, ← String.toList_inj, whole, String.toList_append, breaks,
        String.toList_ofList, eq_comm]
      exact List.append_left_inj _
    rw [if_pos broken, whole, List.dropLast_concat, ← String.toList_ofList (l := front),
      fits_iff follows]
    simp [Grammar.SpellsLine, unfit, lines]
  · rw [if_neg broken, fits_iff follows]
    refine (or_iff_left ?_).symm
    rintro ⟨line, -, rfl⟩
    exact broken (by simp)

end NameRule

/-! ## What handlers write -/

open Program MemoryStore

namespace Handler

variable {handler : Handler} {late : Bool} {store : MemoryStore} {request : Request}

/-- What a request carries if it writes an override or a status. An update carries the labels and the
subsets that were read. -/
def Carries (handler : Handler) : Request → MemoryStore → Prop
  | .store (.create object), _ => ∃ host ∈ handler.hosts,
      object.name = overrideName handler.uniqueName host ∧
      object.labels = [(handler.versionLabel, handler.uniqueVersion)] ∧
      object.subsets = [⟨handler.uniqueVersion, [(handler.versionLabel, handler.uniqueVersion)]⟩]
  | .store (.update object), store => ∃ host ∈ handler.hosts, ∃ current,
      store.find? handler.ns (overrideName handler.uniqueName host) = some current ∧
      object.name = overrideName handler.uniqueName host ∧ object.labels = current.labels ∧
      object.subsets = current.subsets
  | .record subset status, _ => subset = handler.uniqueName ∧
      ∃ host ∈ handler.hosts, status.name = overrideName handler.uniqueName host
  | _, _ => True

theorem carries_of_reads (reads : request.Reads) : handler.Carries request store := by
  cases request with
  | store call =>
    cases call with
    | get _ _ | list _ => trivial
    | create _ | update _ => exact reads.elim
  | record _ _ => exact reads.elim
  | log _ | report _ | latest _ | interrupted => trivial

theorem permits_carries (handler : Handler) :
    handler.Permits fun request => ∀ store, handler.Carries request store where
  reads _ reads _ := carries_of_reads reads
  logs _ _ := trivial
  records host member _ := ⟨rfl, host, member, rfl⟩
  creates host member _ mints _ :=
    ⟨host, member, (Prod.mk.inj mints.place).2, mints.labels, mints.subsets⟩

theorem guarded_carries (handler : Handler) :
    Release.Guarded (faulty late) handler.Carries (fun _ => True) handler.toRelease handler.hosts where
  kept _ _ := trivial
  checks _ := trivial
  logs _ _ := trivial
  reads _ _ _ _ := trivial
  writes host member state object read ready holds answered allowed listed := by
    obtain ⟨host, member, current, found, -, same⟩ :=
      handler.toRelease.guarded_asks.writes host member state object read ready holds answered
        allowed listed
    have place : current.key = (handler.ns, overrideName handler.uniqueName host) :=
      key_of_find? found
    rw [same]
    exact ⟨host, member, current, found, (Prod.mk.inj place).2, rfl, rfl⟩

end Handler

/-- Over any store that nobody else writes to, whichever calls fail and wherever an errand stops, its
requests carry no names, labels and subsets but those of its handler. -/
theorem Errand.carries_of_reaches {errand : Errand} {trackers : List Tracker} {late : Bool}
    {store final : MemoryStore} {request : Request} {next : request.Answer → Program Ended}
    (reached : Reaches (faulty late) (errand.program trackers) store (.ask request next) final) :
    errand.handler.Carries request final := by
  obtain ⟨handler, tracker, task⟩ := errand
  -- What passes write does not depend on the store. What releases write depends on what they have read.
  cases task with
  | handle =>
    have asks : Keeps (faulty late) (fun request _ => ∀ store, handler.Carries request store)
        (fun _ _ => True) (Errand.program ⟨handler, tracker, .handle⟩ trackers) store :=
      keeps_bind.2 (((handler.permits_carries.confined_handle _).keeps _ store).mono
        fun _ _ _ => trivial)
    exact asks.promise_of_reaches reached final
  | statuses ignored =>
    have reads : Keeps (faulty late) (fun request _ => request.Reads) (fun _ _ => True)
        (Errand.program ⟨handler, tracker, .statuses ignored⟩ trackers) store :=
      keeps_bind.2 (((handler.confined_statusesOf _ handler.hosts).keeps _ store).mono
        fun _ _ _ => trivial)
    exact Handler.carries_of_reads (reads.promise_of_reaches reached)
  | release =>
    have writes : Keeps (faulty late) handler.Carries (fun _ _ => True)
        (Errand.program ⟨handler, tracker, .release⟩ trackers) store :=
      keeps_bind.2 ((handler.guarded_carries.keeps_forHosts trivial).mono fun _ _ _ => trivial)
    exact writes.promise_of_reaches reached

/-! ## Handlers -/

namespace Handler

theorem accepted_of_create? {settings : Settings} {options : HandlerOptions} {handler : Handler}
    (created : create? settings options = .ok handler) :
    NameRule.uniqueName.accepts options.uniqueName = true ∧
      NameRule.version.accepts options.uniqueVersion = true := by
  rw [create?] at created
  split at created
  · cases created
  · rename_i name
    split at created
    · cases created
    · rename_i version
      exact ⟨by simpa using name, by simpa using version⟩

/-- The names of a handler are those of its options, and they are spelled as lines of their grammars. All
that its errands write is made from them, and so are the names of the statuses that it may publish. -/
structure Spelled (options : HandlerOptions) (handler : Handler) : Prop where
  uniqueName : handler.uniqueName = options.uniqueName ∧
    Grammar.uniqueName.SpellsLine handler.uniqueName
  uniqueVersion : handler.uniqueVersion = options.uniqueVersion ∧
    Grammar.version.SpellsLine handler.uniqueVersion
  writes : ∀ tracker task trackers late store request
    (next : request.Answer → Program Ended) final,
    Reaches (faulty late) (Errand.program ⟨handler, tracker, task⟩ trackers) store
      (.ask request next) final →
    handler.Carries request final
  statuses : ∀ ignored, Program.Confined Request.Reads
    (fun result => ∀ statuses, result = .ok statuses →
      statuses.map (·.name) = handler.hosts.map (overrideName handler.uniqueName))
    (handler.statuses ignored).run
  publishes : ∀ statuses, (handler.publish statuses).Confined fun request =>
    ∃ status ∈ statuses, request = .record handler.uniqueName status

/-- Why there is no handler: the first of its names that is not accepted. -/
inductive Misspelled (options : HandlerOptions) : Failure → Prop where
  | uniqueName (misspelled : ¬ Grammar.uniqueName.SpellsLine options.uniqueName) :
      Misspelled options .invalidUniqueName
  | uniqueVersion (spelled : Grammar.uniqueName.SpellsLine options.uniqueName)
      (misspelled : ¬ Grammar.version.SpellsLine options.uniqueVersion) :
      Misspelled options .invalidVersion

/-- Unique names and versions are accepted if they are spelled by their grammars, with or without a line
break behind them, and otherwise refused. -/
theorem spelled_by_grammar (settings : Settings) (options : HandlerOptions) :
    (∀ name, NameRule.uniqueName.accepts name = true ↔ Grammar.uniqueName.SpellsLine name) ∧
    (∀ version, NameRule.version.accepts version = true ↔ Grammar.version.SpellsLine version) ∧
    match create? settings options with
    | .ok handler => handler.Spelled options
    | .error failure => failure.label = "ValueError" ∧ Misspelled options failure := by
  have names := NameRule.accepts_iff NameRule.follows_uniqueName
  have versions := NameRule.accepts_iff NameRule.follows_version
  refine ⟨names, versions, ?_⟩
  rw [create?]
  by_cases name : NameRule.uniqueName.accepts options.uniqueName = true
  · by_cases version : NameRule.version.accepts options.uniqueVersion = true
    · simp only [name, version, Bool.not_true, Bool.false_eq_true, if_false]
      exact ⟨⟨rfl, (names _).1 name⟩, ⟨rfl, (versions _).1 version⟩,
        fun _ _ _ _ _ _ _ _ => Errand.carries_of_reaches,
        fun ignored => confined_statusesOf_named _ ignored _, confined_publish _⟩
    · simp only [name, version, Bool.not_true, Bool.not_false, Bool.false_eq_true, if_false, if_true]
      exact ⟨rfl, .uniqueVersion ((names _).1 name) (mt (versions _).2 version)⟩
  · simp only [name, Bool.not_false, if_true]
    exact ⟨rfl, .uniqueName (mt (names _).2 name)⟩

/-- A unique name may end with a line break, which its grammar does not spell. -/
theorem not_spelled_line_break :
    ¬ ∀ name, NameRule.uniqueName.accepts name = true ↔ Grammar.uniqueName.Spells name := by
  intro exact
  have spells := (exact "a\n").1 (by decide)
  exact absurd (spells.letters '\n' (by decide)) NameRule.follows_uniqueName.unbroken

end Handler

end RouteOverrides
