import Mathlib.Data.List.Nodup
import RouteOverrides.Proofs.Handler.Failures
import RouteOverrides.Proofs.Handler.Requests

/-! # What becomes of the hosts of a pass

A store may answer anything, and others may write to it between two calls, so that a pass may find a host
at one time and miss it at another. If the pass returns it accounts for its hosts all the same. Each of them
is active or ignored, and the journal tells of each host that is ignored for the first time.

* `Entry.tellsIgnored`, `Journal.GrownTo` — the rows of a journal that tell of ignored hosts.
* `Handler.Sorts` — what visits to some hosts do to a tracker, and what they tell of ignored hosts.
* `Handler.sorted_visit`, `Handler.sorted_visitAll` — one visit, and visits to hosts one after the other.
* `Handler.Accounts`, `Handler.accounts_of_reaches` — a pass that returns accounts for its hosts.
-/

namespace RouteOverrides

open Program Database

/-- An entry that tells that a host is ignored for the first time. -/
def Entry.tellsIgnored (entry : Entry) : Bool :=
  entry.message == "Added hostname to list of ignored missing"

/-- A database has the rows of a journal and more after them, among which those in `told` tell of ignored
hosts. -/
def Journal.GrownTo (journal : Journal) (told : List Entry) (database : Database) : Prop :=
  ∃ added, database.journal = some ⟨journal.entries ++ added⟩ ∧
    added.filter Entry.tellsIgnored = told

/-- A request that tells of no ignored host. -/
def Request.Untelling : Request → Prop
  | .log entry => entry.tellsIgnored = false
  | _ => True

theorem Request.untelling_of_reads {request : Request} (reads : request.Reads) : request.Untelling := by
  cases request with
  | log _ => exact reads.elim
  | store _ | record _ _ | report _ | latest _ | interrupted => trivial

/-- Entries with another first character tell of something else. -/
theorem Request.untelling_of_head {entry : Entry} (other : entry.message.toList.head? ≠ some 'A') :
    Request.Untelling (.log entry) := by
  refine beq_eq_false_iff_ne.2 fun same => other ?_
  rw [same]
  rfl

namespace Journal

variable {journal : Journal} {told : List Entry} {database later : Database}
  {request : Request} {answer : request.Answer}

theorem grownTo_self (kept : database.journal = some journal) : journal.GrownTo [] database :=
  ⟨[], by rw [kept, List.append_nil], rfl⟩

theorem GrownTo.log (grown : journal.GrownTo told database) (entry : Entry) :
    (database.log entry).1 = .ok () ∧
      journal.GrownTo (told ++ [{ entry with level := Text.upper entry.level }].filter Entry.tellsIgnored)
        (database.log entry).2 := by
  obtain ⟨added, kept, rfl⟩ := grown
  rw [Database.log, kept]
  exact ⟨rfl, added ++ [{ entry with level := Text.upper entry.level }], by simp [append],
    List.filter_append ..⟩

theorem GrownTo.served (grown : journal.GrownTo told database) (untelling : request.Untelling)
    (allowed : serves request database answer later) : journal.GrownTo told later := by
  cases request with
  | log entry =>
    obtain ⟨-, grown⟩ := grown.log entry
    have quiet : [{ entry with level := Text.upper entry.level }].filter Entry.tellsIgnored = [] := by
      have silent : entry.tellsIgnored = false := untelling
      exact List.filter_cons_of_neg (Bool.eq_false_iff.1 silent)
    rwa [quiet, List.append_nil, ← congrArg Prod.snd allowed] at grown
  | record subset status =>
    obtain ⟨added, kept, told⟩ := grown
    obtain rfl := congrArg Prod.snd allowed
    refine ⟨added, ?_, told⟩
    rw [← kept, Database.record]
    split <;> rfl
  | report _ | latest _ =>
    obtain ⟨-, rfl⟩ := allowed
    exact grown
  | store _ | interrupted =>
    obtain rfl := allowed
    exact grown

end Journal

/-- A host that has become active is not reported as ignored. -/
theorem Tracker.mem_ignored_result {tracker : Tracker} {host : String} :
    host ∈ tracker.result.ignored ↔ host ∈ tracker.ignored ∧ host ∉ tracker.result.active := by
  simp [Tracker.result]

namespace Handler

variable {handler : Handler} {tracker middle noted : Tracker} {host : String}
  {hosts rest : List String} {journal : Journal} {told more : List Entry}
  {database later : Database}

/-! ## Hosts -/

/-- What visits to some hosts do to a tracker, and what they tell of ignored hosts. -/
structure Sorts (handler : Handler) (tracker : Tracker) (hosts : List String) (noted : Tracker)
    (told : List Entry) : Prop where
  active : ∃ found, noted.active = tracker.active ++ found ∧ found.Sublist hosts
  ignored : ∃ newly, noted.ignored = tracker.ignored ++ newly ∧ newly.Nodup ∧
    newly.Disjoint tracker.ignored ∧ told = newly.map handler.ignoredEntry
  each : ∀ host ∈ hosts, host ∈ noted.active ∨ host ∈ noted.ignored

namespace Sorts

theorem nil (handler : Handler) (tracker : Tracker) : handler.Sorts tracker [] tracker [] where
  active := ⟨[], by simp⟩
  ignored := ⟨[], by simp⟩
  each := by simp

theorem markActive (handler : Handler) (tracker : Tracker) (host : String) :
    handler.Sorts tracker [host] (tracker.markActive host) [] where
  active := ⟨[host], rfl, List.Sublist.refl _⟩
  ignored := ⟨[], by simp⟩
  each := by simp

theorem markIgnored_of_old (known : (tracker.markIgnored host).1 = false) :
    handler.Sorts tracker [host] (tracker.markIgnored host).2 [] := by
  rw [Tracker.markIgnored] at known ⊢
  split at known
  · rename_i old
    rw [if_pos old]
    have member : host ∈ tracker.ignored := List.contains_iff_mem.1 old
    exact ⟨⟨[], by simp⟩, ⟨[], by simp⟩, by simp [member]⟩
  · cases known

theorem markIgnored_of_new (new : (tracker.markIgnored host).1 = true) :
    handler.Sorts tracker [host] (tracker.markIgnored host).2 [handler.ignoredEntry host] := by
  rw [Tracker.markIgnored] at new ⊢
  split at new
  · cases new
  · rename_i unknown
    rw [if_neg unknown]
    exact ⟨⟨[], by simp⟩, ⟨[host], by simpa [Tracker.isIgnored] using unknown⟩, by simp⟩

theorem append (first : handler.Sorts tracker hosts middle told)
    (second : handler.Sorts middle rest noted more) :
    handler.Sorts tracker (hosts ++ rest) noted (told ++ more) := by
  obtain ⟨⟨found, active, among⟩, ⟨newly, ignored, distinct, apart, rfl⟩, each⟩ := first
  obtain ⟨⟨foundThen, activeThen, amongThen⟩,
    ⟨newlyThen, ignoredThen, distinctThen, apartThen, rfl⟩, eachThen⟩ := second
  rw [active, List.append_assoc] at activeThen
  rw [ignored, List.append_assoc] at ignoredThen
  rw [ignored, List.disjoint_append_right] at apartThen
  refine ⟨⟨found ++ foundThen, activeThen, among.append amongThen⟩,
    ⟨newly ++ newlyThen, ignoredThen, ?_, ?_, (List.map_append ..).symm⟩, ?_⟩
  · exact distinct.append distinctThen (List.disjoint_comm.1 apartThen.2)
  · exact List.disjoint_append_left.2 ⟨apart, apartThen.1⟩
  · intro host member
    rcases List.mem_append.1 member with before | after
    · -- Neither list loses a host.
      rw [activeThen, ignoredThen, ← List.append_assoc, ← List.append_assoc, ← active, ← ignored]
      exact (each host before).imp (List.mem_append_left _) (List.mem_append_left _)
    · exact eachThen host after

end Sorts

/-! ## Visits -/

/-- What has been done once some hosts were visited, if no visit has failed. -/
def Sorted (handler : Handler) (journal : Journal) (told : List Entry) (tracker : Tracker)
    (hosts : List String) : Except Failure Unit × Tracker → Database → Prop
  | (.ok _, noted), later => ∃ more, handler.Sorts tracker hosts noted more ∧
      journal.GrownTo (told ++ more) later
  | (.error _, _), _ => True

theorem untelling_absence (handler : Handler) (host : String) :
    Request.Untelling (.log (handler.lookup.absenceEntry host)) :=
  Request.untelling_of_head (by simp [Lookup.absenceEntry])

theorem untelling_deploy (handler : Handler) (host : String) :
    Request.Untelling (.log (handler.deployEntry host)) :=
  Request.untelling_of_head (by simp [deployEntry])

theorem told_ignored (handler : Handler) (host : String) :
    [{ handler.ignoredEntry host with
        level := Text.upper (handler.ignoredEntry host).level }].filter Entry.tellsIgnored =
      [handler.ignoredEntry host] := by
  have level : Text.upper "INFO" = "INFO" := by decide
  simp [ignoredEntry, Entry.tellsIgnored, level]

/-- A step of a visit that tells of no ignored host leaves the journal's account as it is. -/
theorem sorted_of_untelling {α : Type} {action : Action α} {next : α → Pass Unit}
    {good : Except Failure α → Prop} (grown : journal.GrownTo told database)
    (untelling : Program.Confined Request.Untelling good action.run)
    (onward : ∀ value later, good (.ok value) → journal.GrownTo told later →
      Keeps serves (fun _ _ => True) (handler.Sorted journal told tracker hosts)
        ((next value).outcome tracker) later) :
    Keeps serves (fun _ _ => True) (handler.Sorted journal told tracker hosts)
      ((Pass.ofAction action >>= next).outcome tracker) database := by
  rw [Pass.keeps_ofAction_bind]
  have kept : Keeps serves (fun _ _ => True)
      (fun result later => good result ∧ journal.GrownTo told later) action.run database :=
    untelling.keeps_holding (fun _ _ _ _ quiet allowed grown => grown.served quiet allowed) grown
  refine kept.mono fun result later ended => ?_
  cases result with
  | ok value => exact onward value later ended.1 ended.2
  | error _ => trivial

theorem sorted_markActive (grown : journal.GrownTo told database) (host : String) :
    Keeps serves (fun _ _ => True) (handler.Sorted journal told tracker [host])
      ((Pass.note (·.markActive host)).outcome tracker) database :=
  ⟨[], .markActive handler tracker host, by rwa [List.append_nil]⟩

theorem sorted_createMissing (handler : Handler) (grown : journal.GrownTo told database)
    (tracker : Tracker) (host : String) :
    Keeps serves (fun _ _ => True) (handler.Sorted journal told tracker [host])
      ((handler.createMissing host).outcome tracker) database := by
  refine sorted_of_untelling grown ((Action.confined_record trivial).blaming _ _) fun _ _ _ grown => ?_
  refine sorted_of_untelling grown (confined_generate (fun _ => Request.untelling_of_reads)
    (untelling_absence handler host)) fun generated later _ grown => ?_
  cases generated with
  | none =>
    rw [Pass.keeps_tracker_bind, Pass.keeps_note_bind]
    split
    · rename_i new
      -- The only request of a visit that tells of an ignored host.
      rw [Pass.keeps_ofAction]
      refine ⟨trivial, fun answer after allowed => ?_⟩
      obtain ⟨works, grown⟩ := grown.log (handler.ignoredEntry host)
      rw [told_ignored] at grown
      obtain ⟨rfl, rfl⟩ := Prod.mk.inj (allowed.trans (Prod.ext works rfl))
      exact ⟨_, .markIgnored_of_new new, grown⟩
    · rename_i old
      exact ⟨[], .markIgnored_of_old (Bool.eq_false_iff.2 old), by rwa [List.append_nil]⟩
  | some object =>
    refine sorted_of_untelling grown (Action.confined_log (untelling_deploy handler host))
      fun _ _ _ grown => ?_
    refine sorted_of_untelling grown (Action.confined_checkInterrupted trivial) fun _ _ _ grown => ?_
    refine sorted_of_untelling grown ((Action.confined_call trivial).blaming _ _) fun _ _ _ grown => ?_
    exact sorted_markActive grown host

theorem sorted_visit (handler : Handler) (grown : journal.GrownTo told database)
    (tracker : Tracker) (host : String) :
    Keeps serves (fun _ _ => True) (handler.Sorted journal told tracker [host])
      ((handler.visit host).outcome tracker) database := by
  have untelling := (confined_present handler host).mono fun _ => Request.untelling_of_reads
  refine sorted_of_untelling grown untelling fun isPresent later _ grown => ?_
  cases isPresent with
  | true => exact sorted_markActive grown host
  | false => exact handler.sorted_createMissing grown tracker host

theorem sorted_visitAll (handler : Handler) (grown : journal.GrownTo told database)
    (tracker : Tracker) (hosts : List String) :
    Keeps serves (fun _ _ => True) (handler.Sorted journal told tracker hosts)
      ((handler.visitAll hosts).outcome tracker) database := by
  -- On the hosts: what the first visit tells comes before what the others tell.
  induction hosts generalizing tracker told database with
  | nil => exact ⟨[], .nil handler tracker, by rwa [List.append_nil]⟩
  | cons host rest inductionHypothesis =>
    rw [visitAll, Pass.keeps_bind]
    refine (handler.sorted_visit grown tracker host).mono ?_
    rintro ⟨result, middle⟩ later sorted
    cases result with
    | error _ => trivial
    | ok _ =>
      obtain ⟨first, sorts, grown⟩ := sorted
      refine (inductionHypothesis grown middle).mono ?_
      rintro ⟨result, noted⟩ final sorted
      cases result with
      | error _ => trivial
      | ok _ =>
        obtain ⟨second, sortsThen, grown⟩ := sorted
        exact ⟨first ++ second, sorts.append sortsThen, by rwa [← List.append_assoc]⟩

/-! ## Passes -/

/-- What a pass says of its hosts that returns: `result` is what it returns, `noted` the tracker after it,
and `later` the journal after it. -/
structure Accounts (handler : Handler) (tracker : Tracker) (journal : Journal) (result : PassResult)
    (noted : Tracker) (later : Journal) : Prop where
  found : result.active ≠ []
  among : result.active.Sublist handler.hosts
  /-- Each host is active or ignored, but not both. -/
  each : ∀ host ∈ handler.hosts, host ∈ result.ignored ↔ host ∉ result.active
  distinct : result.ignored.Nodup
  apart : result.ignored.Disjoint result.active
  /-- Ignored hosts stay so, and the journal tells of those that are new, of each once. -/
  told : ∃ newly added, noted.ignored = tracker.ignored ++ newly ∧ noted.ignored.Nodup ∧
    later.entries = journal.entries ++ added ∧
    added.filter Entry.tellsIgnored = newly.map handler.ignoredEntry

theorem Sorts.accounts {added : List Entry}
    (sorts : handler.Sorts tracker.beginPass handler.hosts noted told)
    (distinct : tracker.ignored.Nodup) (someActive : ¬ noted.active.isEmpty = true)
    (filtered : added.filter Entry.tellsIgnored = told) :
    handler.Accounts tracker journal noted.result noted ⟨journal.entries ++ added⟩ := by
  obtain ⟨⟨found, active, among⟩, ⟨newly, ignored, new, apart, rfl⟩, each⟩ := sorts
  have nodup : noted.ignored.Nodup := by
    rw [ignored]
    exact distinct.append new (List.disjoint_comm.1 apart)
  exact {
    found := fun none => someActive (List.isEmpty_iff.2 none)
    among := by
      show noted.active.Sublist handler.hosts
      rw [active]
      exact among
    each := fun host member => by
      rw [Tracker.mem_ignored_result]
      exact ⟨And.right, fun missed => ⟨(each host member).resolve_left missed, missed⟩⟩
    distinct := nodup.filter _
    apart := fun _ ignored => (Tracker.mem_ignored_result.1 ignored).2
    told := ⟨newly, added, ignored, nodup, rfl, filtered⟩ }

/-- What has been accounted for once a pass is over, if it returns. -/
def Accounted (handler : Handler) (tracker : Tracker) (journal : Journal) :
    Except Failure PassResult × Tracker → Database → Prop
  | (.ok result, noted), later =>
    ∃ after, later.journal = some after ∧ handler.Accounts tracker journal result noted after
  | (.error _, _), _ => True

theorem accounted_handle (handler : Handler) (distinct : tracker.ignored.Nodup)
    (working : database.journal = some journal) :
    Keeps serves (fun _ _ => True) (handler.Accounted tracker journal)
      (handler.handle.outcome tracker) database := by
  rw [handle, Pass.keeps_note_bind, Pass.keeps_bind]
  have grown := Journal.grownTo_self working
  refine (handler.sorted_visitAll grown tracker.beginPass handler.hosts).mono ?_
  rintro ⟨result, noted⟩ later sorted
  cases result with
  | error _ => trivial
  | ok _ =>
    obtain ⟨told, sorts, added, kept, filtered⟩ := sorted
    dsimp only
    rw [Pass.keeps_tracker_bind]
    split
    · -- Without an active host the pass fails.
      rw [Pass.keeps_ofAction_bind]
      refine ⟨trivial, fun answer after allowed => ?_⟩
      cases answer <;> trivial
    · rename_i someActive
      exact ⟨_, kept, sorts.accounts distinct someActive filtered⟩

/-- Let a pass return, whatever the store holds and answers and whoever else writes to it. Its active hosts
are some of its hosts in their order, and each host is either active or ignored. Whoever was ignored before
is in the tracker still, and the journal tells once of each host that has come in new. -/
theorem accounts_of_reaches {result : PassResult} (distinct : tracker.ignored.Nodup)
    (working : database.journal = some journal)
    (reached : Reaches serves (handler.handle.outcome tracker) database (.done (.ok result, noted))
      later) :
    ∃ after, later.journal = some after ∧ handler.Accounts tracker journal result noted after :=
  (handler.accounted_handle distinct working).post_of_reaches reached

/-! ### A host that is found later

The cart has no baseline and is ignored. Before the pass comes to it again, someone has made its override. -/

def cartTwice : Handler := { ofTeam "web" with hosts := ["cart", "search", "cart"] }

theorem returned_cartTwice : ∃ later,
    Reaches serves (cartTwice.handle.outcome ⟨["old"], ["news"]⟩) ⟨some .empty, some .empty⟩
      (.done (.ok ⟨["search", "cart"], ["news"]⟩, ⟨["search", "cart"], ["news", "cart"]⟩)) later :=
  ⟨_,
    .answered false rfl <|
    .answered (.error (.notFound "prod/blue-cart")) rfl <|
    .answered (.ok ()) rfl <|
    .answered false rfl <|
    .answered (.ok []) rfl <|
    .answered (.ok ()) rfl <|
    .answered (.ok ()) rfl <|
    .answered false rfl <|
    .answered (.ok default) rfl <|
    .answered false rfl <|
    .answered (.ok default) rfl .here⟩

theorem accounts_of_reaches_cartTwice : ∃ after, cartTwice.Accounts ⟨["old"], ["news"]⟩ .empty
    ⟨["search", "cart"], ["news"]⟩ ⟨["search", "cart"], ["news", "cart"]⟩ after := by
  obtain ⟨later, reached⟩ := returned_cartTwice
  obtain ⟨after, -, accounts⟩ := accounts_of_reaches (by decide) rfl reached
  exact ⟨after, accounts⟩

end Handler

end RouteOverrides
