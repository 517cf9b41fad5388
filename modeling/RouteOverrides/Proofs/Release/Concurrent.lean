import RouteOverrides.Proofs.Handler.Pass
import RouteOverrides.Proofs.Program.Interleaving
import RouteOverrides.Proofs.Release.Atomicity

/-! # Releases at the same time

Several owners are released from one override at the same time. Every write takes one owner off, and
the owners only get fewer. So there is one write that leaves none, and the release that made it is the
one that answers the name of the override.

* `Site`, `Site.ownersIn` — an override of interest, and the owners that it lists.
* `Site.Watched` — a store, with a note of the release that has emptied the override.
* `Site.Fewer` — what a release relies on the others to do, and guarantees them.
* `Release.Tally` — what a release comes to by itself, whatever the others do meanwhile.
* `Release.exactly_one_names` — in every order of store calls, one release names the override.
-/

namespace RouteOverrides

open Program MemoryStore

/-- An override in a store, with the annotation key that lists its owners. -/
structure Site where
  ns : String
  name : String
  key : String

namespace Site

variable {ι : Type} {site : Site} {party : ι}

def ownersIn (site : Site) (store : MemoryStore) : List Owner :=
  match store.find? site.ns site.name with
  | some object => (object.owners site.key).toList
  | none => []

theorem ownersIn_of_find? {store : MemoryStore} {object : RoutingObject}
    (found : store.find? site.ns site.name = some object) :
    site.ownersIn store = (object.owners site.key).toList := by
  rw [ownersIn, found]

/-- A store, and the party whose write has left the override without owners. -/
structure Watched (ι : Type) where
  store : MemoryStore
  emptier : Option ι

variable {before middle after : Watched ι}

/-- Who has emptied the override once a party has turned the store into another one. -/
def emptierAfter (site : Site) (party : ι) (before : Watched ι) (after : MemoryStore) : Option ι :=
  before.emptier.or
    (if site.ownersIn before.store ≠ [] ∧ site.ownersIn after = [] then some party else none)

/-- The store answers a party exactly, and it is noted whether that empties the override. -/
def watched (site : Site) (party : ι) : Rules (Watched ι) := fun request before answer after =>
  exact false request before.store answer after.store ∧
  after.emptier = site.emptierAfter party before after.store

/-- The override is in the store, and somebody is noted once it has no owners. -/
structure Sound (site : Site) (watched : Watched ι) : Prop where
  filled : GrownFrom empty watched.store
  present : ∃ object, watched.store.find? site.ns site.name = some object
  noted : watched.emptier = none ↔ site.ownersIn watched.store ≠ []

/-- The override loses owners at most, and whether some parties are noted stays as it is. -/
structure Fewer (site : Site) (parties : ι → Prop) (before after : Watched ι) : Prop where
  grown : GrownFrom before.store after.store
  fewer : site.ownersIn after.store ⊆ site.ownersIn before.store
  sound : site.Sound before → site.Sound after
  noted : ∀ party, parties party → (after.emptier = some party ↔ before.emptier = some party)

namespace Fewer

variable {parties : ι → Prop}

theorem refl (watched : Watched ι) : site.Fewer parties watched watched :=
  ⟨.refl _, fun _ member => member, id, fun _ _ => Iff.rfl⟩

theorem trans (first : site.Fewer parties before middle)
    (second : site.Fewer parties middle after) : site.Fewer parties before after where
  grown := first.grown.trans second.grown
  fewer := fun _ member => first.fewer (second.fewer member)
  sound := second.sound ∘ first.sound
  noted := fun party here => (second.noted party here).trans (first.noted party here)

/-- A party guarantees the others what each of them relies on. -/
theorem accord : Accord (fun party => site.Fewer (ι := ι) (· = party))
    (fun party => site.Fewer (· ≠ party)) where
  refl _ := refl
  trans _ := trans
  tolerates party other different := by
    intro before after moved
    refine ⟨moved.grown, moved.fewer, moved.sound, ?_⟩
    rintro _ rfl
    exact moved.noted _ different.symm

end Fewer

/-- The share of a party in emptying the override. -/
def share [DecidableEq ι] (party : ι) (watched : Watched ι) : Nat := if watched.emptier = some party then 1 else 0

theorem share_of_fewer [DecidableEq ι] (moved : site.Fewer (· = party) before after) :
    share party after = share party before := by
  rw [share, share]
  exact if_congr (moved.noted party rfl) rfl rfl

/-! ### What an answer leaves -/

section Answers

variable {request : Request} {answer : request.Answer}

theorem emptier_of_owners_eq (noted : site.watched party request before answer after)
    (same : site.ownersIn after.store = site.ownersIn before.store) :
    after.emptier = before.emptier := by
  have unchanged : ¬ (site.ownersIn before.store ≠ [] ∧ site.ownersIn after.store = []) :=
    fun ⟨owned, nobody⟩ => owned (same ▸ nobody)
  rw [noted.2, emptierAfter, if_neg unchanged, Option.or_none]

theorem emptier_of_owned (noted : site.watched party request before answer after)
    (sound : site.Sound before) (owned : site.ownersIn before.store ≠ []) :
    after.emptier = if site.ownersIn after.store = [] then some party else none := by
  rw [noted.2, emptierAfter, sound.noted.2 owned, Option.none_or]
  exact if_congr (and_iff_right owned) rfl rfl

theorem eq_of_watched (noted : site.watched party request before answer after)
    (same : after.store = before.store) : after = before := by
  have sameEmptier := emptier_of_owners_eq noted (congrArg site.ownersIn same)
  cases after
  cases same
  cases sameEmptier
  rfl

/-- Every exact answer can be noted. -/
theorem exists_watched (site : Site) (party : ι) (request : Request) (actual : MemoryStore)
    (answer : request.Answer) (after : MemoryStore) (watched : Watched ι)
    (stands : watched.store = actual) (allowed : exact false request actual answer after) :
    ∃ later, site.watched party request watched answer later ∧ later.store = after := by
  cases stands
  exact ⟨⟨after, site.emptierAfter party watched after⟩, ⟨allowed, rfl⟩, rfl⟩

/-- A request that leaves the store as it is is no business of the others. -/
theorem upholds_of_quiet (quiet : Quiet false request) (watched : Watched ι) :
    upholds (site.Fewer (· = party)) (site.Fewer (· ≠ party)) (site.watched party) request
      watched := by
  intro ready answer after _ noted
  rw [eq_of_watched noted (quiet _ _ _ noted.1)]
  exact .refl ready

/-- After a request that leaves the store as it is, only others have acted. -/
theorem fewer_of_quiet (quiet : Quiet false request)
    (acted : amid (site.Fewer (· = party)) (site.watched party) request before answer after) :
    site.Fewer (· = party) before after ∧ exact false request after.store answer after.store := by
  obtain ⟨ready, moved, noted⟩ := acted
  cases eq_of_watched noted (quiet _ _ _ noted.1)
  exact ⟨moved, noted.1⟩

end Answers

theorem nodup_ownersIn (site : Site) (store : MemoryStore) : (site.ownersIn store).Nodup := by
  rw [ownersIn]
  split
  · rename_i object _
    exact List.Nodup.of_map _ (object.owners site.key).tokens_nodup
  · exact List.nodup_nil

end Site

namespace Release

open Site

variable {ι : Type} [DecidableEq ι] {site : Site} {release : Release} {host name : String}
  {left : Nat} {party : ι} {start read before after : Watched ι} {object : RoutingObject}

/-- What a release comes to by itself. Its owner is gone if it has `visited` the override of interest,
and `times` says how often it has emptied the override. -/
structure Tally (site : Site) (party : ι) (owner : Owner) (visited : Prop) (times : Nat)
    (start final : Watched ι) : Prop where
  sound : site.Sound final
  fewer : site.ownersIn final.store ⊆ site.ownersIn start.store
  gone : visited → owner ∉ site.ownersIn final.store
  shared : share party final = share party start + times

namespace Tally

variable {owner : Owner} {visited visitedToo : Prop} {times more : Nat}

theorem of_fewer (tally : Tally site party owner visited times start before)
    (moved : site.Fewer (· = party) before after) :
    Tally site party owner visited times start after where
  sound := moved.sound tally.sound
  fewer := fun _ member => tally.fewer (moved.fewer member)
  gone := fun here member => tally.gone here (moved.fewer member)
  shared := (share_of_fewer moved).trans tally.shared

theorem of_start (tally : Tally site party owner visited times before after)
    (moved : site.Fewer (· = party) start before) :
    Tally site party owner visited times start after where
  sound := tally.sound
  fewer := fun _ member => moved.fewer (tally.fewer member)
  gone := tally.gone
  shared := share_of_fewer moved ▸ tally.shared

theorem trans (first : Tally site party owner visited times start before)
    (second : Tally site party owner visitedToo more before after) :
    Tally site party owner (visited ∨ visitedToo) (times + more) start after where
  sound := second.sound
  fewer := fun _ member => first.fewer (second.fewer member)
  gone := by
    rintro (here | here)
    · exact fun member => first.gone here (second.fewer member)
    · exact second.gone here
  shared := by rw [second.shared, first.shared, Nat.add_assoc]

end Tally

/-- A result together with what the release came to, which `times` tells from the value. -/
def Tallied {α : Type} (site : Site) (party : ι) (owner : Owner) (visited : Prop)
    (times : α → Nat) (start : Watched ι) : Except Failure α → Watched ι → Prop
  | .ok value, final => Tally site party owner visited (times value) start final
  | .error _, _ => True

theorem Tallied.of_start {α : Type} {visited : Prop} {times : α → Nat} {result : Except Failure α}
    {owner : Owner} (tallied : Tallied site party owner visited times before result after)
    (moved : site.Fewer (· = party) start before) :
    Tallied site party owner visited times start result after := by
  cases result with
  | error failure => trivial
  | ok value => exact Tally.of_start tallied moved

theorem Tallied.of_fewer {α : Type} {visited : Prop} {times : α → Nat} {result : Except Failure α}
    {owner : Owner} (tallied : Tallied site party owner visited times start result before)
    (moved : site.Fewer (· = party) before after) :
    Tallied site party owner visited times start result after := by
  cases result with
  | error failure => trivial
  | ok value => exact Tally.of_fewer tallied moved

/-- How often a release of one override has emptied the override of interest. -/
def once (site : Site) (name : String) (emptied : Bool) : Nat :=
  if emptied = true ∧ name = site.name then 1 else 0

section Writes

variable {earlier store : MemoryStore}

/-- A write of a release takes its owner off the owners as they stand. -/
theorem ownersIn_of_update (here : site = ⟨release.ns, name, release.key⟩)
    (filled : GrownFrom empty earlier) (grown : GrownFrom earlier store)
    (found : earlier.find? release.ns name = some object)
    (listed : release.owner ∈ (object.owners release.key).toList)
    (succeeded : (store.answer (.update (release.withoutOwner object))).1 = .ok ()) :
    let later := (store.answer (.update (release.withoutOwner object))).2
    release.owner ∈ site.ownersIn store ∧
      site.ownersIn later = (site.ownersIn store).erase release.owner ∧
      site.ownersIn later = ((release.withoutOwner object).owners release.key).toList ∧
      ∃ written, later.find? site.ns site.name = some written := by
  intro later
  subst here
  obtain ⟨was, is, foundWas, foundIs, -, listedWas, erased, -⟩ :=
    ownerTakenOff_of_read filled grown found listed succeeded
  obtain ⟨-, -, -, written⟩ := of_update_ok succeeded
  have place : object.key = (release.ns, name) := key_of_find? found
  obtain ⟨sameNs, sameName⟩ : (release.withoutOwner object).ns = release.ns ∧
      (release.withoutOwner object).name = name := Prod.mk.inj place
  rw [sameNs, sameName] at foundWas foundIs
  have stamped : is = store.stamp (release.withoutOwner object) := by
    have foundStamped := find?_put_self store (release.withoutOwner object)
    rw [← written, sameNs, sameName] at foundStamped
    exact Option.some.inj (foundIs.symm.trans foundStamped)
  rw [ownersIn_of_find? foundWas, ownersIn_of_find? foundIs]
  exact ⟨listedWas, erased, by rw [stamped]; rfl, is, foundIs⟩

theorem find?_of_update_elsewhere (elsewhere : name ≠ site.name)
    (found : earlier.find? release.ns name = some object)
    (succeeded : (store.answer (.update (release.withoutOwner object))).1 = .ok ()) :
    (store.answer (.update (release.withoutOwner object))).2.find? site.ns site.name =
      store.find? site.ns site.name := by
  obtain ⟨-, -, -, written⟩ := of_update_ok succeeded
  have place : object.key = (release.ns, name) := key_of_find? found
  have different : (release.withoutOwner object).key ≠ (site.ns, site.name) :=
    fun same => elsewhere (Prod.mk.inj (place.symm.trans same)).2
  exact (congrArg (find? · site.ns site.name) written).trans (find?_put_of_ne store different)

end Writes

/-- What a write that goes through comes to. -/
def Wrote (site : Site) (party : ι) (release : Release) (name : String) (object : RoutingObject)
    (before after : Watched ι) : Prop :=
  site.Fewer (· ≠ party) before after ∧
    Tally site party release.owner (name = site.name)
      (once site name ((release.withoutOwner object).owners release.key).toList.isEmpty) before after

theorem wrote_here (here : site = ⟨release.ns, name, release.key⟩) (sound : site.Sound before)
    (filled : GrownFrom empty read.store) (grown : GrownFrom read.store before.store)
    (found : read.store.find? release.ns name = some object)
    (listed : release.owner ∈ (object.owners release.key).toList)
    (noted : site.watched party (.store (.update (release.withoutOwner object))) before (.ok ())
      after) : release.Wrote site party name object before after := by
  obtain ⟨⟨succeeded, later⟩, -⟩ := id noted
  obtain ⟨wasListed, erased, remaining, present⟩ :=
    ownersIn_of_update here filled grown found listed succeeded.symm
  rw [← later] at erased remaining present
  have grownOn : GrownFrom before.store after.store := later ▸ GrownFrom.answer before.store _
  have owned : site.ownersIn before.store ≠ [] := List.ne_nil_of_mem wasListed
  have unnoted : before.emptier = none := sound.noted.2 owned
  have emptier := emptier_of_owned noted sound owned
  have soundAfter : site.Sound after := by
    refine ⟨sound.filled.trans grownOn, present, ?_⟩
    rw [emptier]
    split
    · rename_i nobody
      simp only [reduceCtorEq, nobody, ne_eq, not_true_eq_false]
    · rename_i somebody
      exact iff_of_true rfl somebody
  have sameName : name = site.name := by rw [here]
  have fewer : site.ownersIn after.store ⊆ site.ownersIn before.store :=
    erased ▸ List.erase_subset
  refine ⟨⟨grownOn, fewer, fun _ => soundAfter, fun other different => ?_⟩, soundAfter, fewer,
    fun _ => ?_, ?_⟩
  · rw [unnoted, emptier]
    split <;> simp [Ne.symm different]
  · rw [erased]
    exact (nodup_ownersIn site before.store).not_mem_erase
  · rw [share, share, once, unnoted, emptier, ← remaining]
    split
    · rename_i nobody
      simp [nobody, sameName]
    · rename_i somebody
      simp [somebody]

theorem wrote_elsewhere (elsewhere : name ≠ site.name) (sound : site.Sound before)
    (found : read.store.find? release.ns name = some object)
    (noted : site.watched party (.store (.update (release.withoutOwner object))) before (.ok ())
      after) : release.Wrote site party name object before after := by
  obtain ⟨⟨succeeded, later⟩, -⟩ := id noted
  have kept := find?_of_update_elsewhere elsewhere found succeeded.symm
  rw [← later] at kept
  have grownOn : GrownFrom before.store after.store := later ▸ GrownFrom.answer before.store _
  have sameOwners : site.ownersIn after.store = site.ownersIn before.store := by
    rw [ownersIn, kept, ownersIn]
  have emptier := emptier_of_owners_eq noted sameOwners
  have soundAfter : site.Sound after := by
    refine ⟨sound.filled.trans grownOn, kept ▸ sound.present, ?_⟩
    rw [emptier, sameOwners]
    exact sound.noted
  have fewer : site.ownersIn after.store ⊆ site.ownersIn before.store :=
    sameOwners ▸ List.Subset.refl _
  refine ⟨⟨grownOn, fewer, fun _ => soundAfter, fun _ _ => by rw [emptier]⟩, soundAfter, fewer,
    fun here => absurd here elsewhere, ?_⟩
  rw [share, share, once, emptier, if_neg (mt And.right elsewhere), Nat.add_zero]

/-- A write of a release fails and changes nothing, or it takes the owner off. -/
theorem wrote_or_failed (here : release.ns = site.ns) (sameKey : release.key = site.key)
    (sound : site.Sound before) (filled : GrownFrom empty read.store)
    (grown : GrownFrom read.store before.store)
    (found : read.store.find? release.ns name = some object)
    (listed : release.owner ∈ (object.owners release.key).toList) {answer : Except Failure Unit}
    (noted : site.watched party (.store (.update (release.withoutOwner object))) before answer
      after) :
    (∃ failure, answer = .error failure) ∧ after = before ∨
    answer = .ok () ∧ release.Wrote site party name object before after := by
  cases answer with
  | error failure =>
    have same : after.store = before.store := noted.1.2.trans (answer_of_error noted.1.1.symm)
    exact .inl ⟨⟨failure, rfl⟩, eq_of_watched noted same⟩
  | ok _ =>
    refine .inr ⟨rfl, ?_⟩
    by_cases same : name = site.name
    · have thisSite : site = ⟨release.ns, name, release.key⟩ := by rw [here, same, sameKey]
      exact wrote_here thisSite sound filled grown found listed noted
    · exact wrote_elsewhere same sound found noted

/-! ## Along a release -/

section Along

variable (here : release.ns = site.ns) (sameKey : release.key = site.key)

/-- An action of a release among other releases. -/
abbrev Releasing {α : Type} (site : Site) (party : ι) (post : Except Failure α → Watched ι → Prop)
    (action : Action α) (start : Watched ι) : Prop :=
  Keeps (amid (site.Fewer (· = party)) (site.watched party))
    (upholds (site.Fewer (· = party)) (site.Fewer (· ≠ party)) (site.watched party)) post action.run
    start

include here sameKey in
theorem releasing_writeBack (sound : site.Sound read)
    (found : read.store.find? release.ns name = some object)
    (listed : release.owner ∈ (object.owners release.key).toList)
    (again : ∀ later, site.Sound later → left ≠ 0 →
      Releasing site party
        (Tallied site party release.owner (name = site.name) (once site name) later)
        (release.one host name left) later) :
    Releasing site party
      (Tallied site party release.owner (name = site.name) (once site name) read)
      (release.writeBack host name left object) read := by
  have wrote : ∀ {ready after answer}, site.Fewer (· = party) read ready →
      site.watched party (.store (.update (release.withoutOwner object))) ready answer after →
      (∃ failure, answer = .error failure) ∧ after = ready ∨
        answer = .ok () ∧ release.Wrote site party name object ready after :=
    fun moved noted => wrote_or_failed here sameKey (moved.sound sound) sound.filled moved.grown
      found listed noted
  refine keeps_writeBack.2 ⟨upholds_of_quiet quiet_interrupted _, fun _ _ => trivial,
    fun ready acted => ?_⟩
  obtain ⟨moved, -⟩ := fewer_of_quiet quiet_interrupted acted
  refine ⟨fun mid answer after movedOn noted => ?_, fun reply after answered => ?_⟩
  · rcases wrote (moved.trans movedOn) noted with ⟨-, rfl⟩ | ⟨-, wrote⟩
    · exact .refl after
    · exact wrote.1
  · obtain ⟨mid, movedOn, noted⟩ := answered
    have movedTo := moved.trans movedOn
    rcases wrote movedTo noted with ⟨⟨failure, rfl⟩, rfl⟩ | ⟨rfl, wrote⟩
    · cases failure with
      | conflict detail =>
        dsimp only [AfterWrite]
        split
        · trivial
        · rename_i attempts
          refine ⟨upholds_of_quiet (quiet_log _) _, fun answer final logged => ?_⟩
          obtain ⟨movedLast, -⟩ := fewer_of_quiet (quiet_log _) logged
          have movedAll := movedTo.trans movedLast
          cases answer with
          | error failure => trivial
          | ok _ =>
            exact (again final (movedAll.sound sound) attempts).mono
              fun _ _ released => released.of_start movedAll
      | _ => trivial
    · refine ⟨upholds_of_quiet (quiet_log _) _, fun answer final logged => ?_⟩
      obtain ⟨movedLast, -⟩ := fewer_of_quiet (quiet_log _) logged
      cases answer with
      | error failure => trivial
      | ok _ => exact (wrote.2.of_start movedTo).of_fewer movedLast

theorem tally_zero {owner : Owner} (sound : site.Sound before)
    (gone : name = site.name → owner ∉ site.ownersIn before.store) :
    Tally site party owner (name = site.name) 0 before before :=
  ⟨sound, List.Subset.refl _, gone, rfl⟩

include here sameKey in
theorem releasing_one (sound : site.Sound start) (left : Nat) :
    Releasing site party
      (Tallied site party release.owner (name = site.name) (once site name) start)
      (release.one host name (left + 1)) start := by
  -- On the attempts that are left; when there are none, a conflict is a failure.
  induction left using Nat.strong_induction_on generalizing start with
  | h left inductionHypothesis =>
  refine keeps_one_succ.2 ⟨upholds_of_quiet quiet_interrupted _, fun _ _ => trivial,
    fun ready acted => ⟨upholds_of_quiet (quiet_get _ _) _, fun reply after answered => ?_⟩⟩
  obtain ⟨moved, -⟩ := fewer_of_quiet quiet_interrupted acted
  obtain ⟨movedOn, replied, -⟩ := fewer_of_quiet (quiet_get _ _) answered
  have movedTo := moved.trans movedOn
  have soundNow := movedTo.sound sound
  cases reply with
  | ok object =>
    have found := find?_of_answer_get replied.symm
    dsimp only [AfterRead]
    split
    · rename_i listed
      refine (releasing_writeBack here sameKey soundNow found listed fun later soundThen more => ?_).mono
        fun _ _ released => released.of_start movedTo
      obtain ⟨fewer, rfl⟩ := Nat.exists_eq_succ_of_ne_zero more
      exact inductionHypothesis fewer (Nat.lt_succ_self _) soundThen
    · rename_i absent
      refine (tally_zero soundNow fun same member => absent ?_).of_start movedTo
      rw [same, here] at found
      rwa [ownersIn_of_find? found, ← sameKey] at member
  | error failure =>
    cases failure with
    | notFound detail =>
      refine (tally_zero soundNow fun same _ => ?_).of_start movedTo
      obtain ⟨object, present⟩ := soundNow.present
      rw [same, here, answer, present] at replied
      cases replied
    | _ => trivial

include here sameKey in
theorem releasing_forHosts (sound : site.Sound start) (hosts : List String) :
    Releasing site party
      (Tallied site party release.owner
        (∃ host ∈ hosts, overrideName release.uniqueName host = site.name)
        (List.count site.name) start)
      (release.forHosts hosts) start := by
  induction hosts generalizing start with
  | nil =>
    have nowhere : ¬ ∃ host ∈ [], overrideName release.uniqueName host = site.name :=
      fun ⟨_, member, _⟩ => List.not_mem_nil member
    exact ⟨sound, List.Subset.refl _, fun here => absurd here nowhere, rfl⟩
  | cons host rest inductionHypothesis =>
    refine keeps_forHosts_cons.2
      ((releasing_one here sameKey sound _).mono fun result middle first => ?_)
    cases result with
    | error failure => trivial
    | ok emptied =>
      refine keeps_run_bind.2 ((inductionHypothesis first.sound).mono fun result final second => ?_)
      cases result with
      | error failure => trivial
      | ok names =>
        obtain ⟨sound, fewer, gone, shared⟩ := Tally.trans first second
        refine ⟨sound, fewer, ?_, shared.trans ?_⟩
        · rintro ⟨other, member, same⟩
          rcases List.mem_cons.1 member with rfl | later
          · exact gone (.inl same)
          · exact gone (.inr ⟨other, later, same⟩)
        · rw [once]
          cases emptied <;> simp [List.count_cons, Nat.add_comm]

/-- The override of interest is one of those that a release sees to. -/
def Concerns (release : Release) (site : Site) : Prop :=
  ∃ host ∈ release.hosts, overrideName release.uniqueName host = site.name

include here sameKey in
theorem coexists_perform (sound : site.Sound start) :
    Coexists (site.Fewer (· = party)) (site.Fewer (· ≠ party)) (site.watched party)
      (Tallied site party release.owner (release.Concerns site) (List.count site.name) start)
      release.perform.run start :=
  (releasing_forHosts here sameKey sound release.hosts).mono
    fun _ _ tallied _ moved => tallied.of_fewer moved

end Along

/-! ## All releases -/

/-- Let several owners be released from an override at the same time, among them all its owners, while
nobody else writes. In every order of the store calls in which all releases return, the override has no
owners in the end, and exactly one of the releases answers its name, and answers it once. -/
theorem exactly_one_names (releases : ι → Release) (ns key name : String)
    (sameNs : ∀ party, (releases party).ns = ns) (sameKey : ∀ party, (releases party).key = key)
    (objects : List RoutingObject) (earlier : List StoreCall) (object : RoutingObject)
    (found : ((MemoryStore.ofList objects).after earlier).find? ns name = some object)
    (owned : (object.owners key).toList ≠ [])
    (covered : ∀ owner ∈ (object.owners key).toList, ∃ party, (releases party).owner = owner ∧
      ∃ host ∈ (releases party).hosts, overrideName (releases party).uniqueName host = name)
    (names : ι → List String) (final : MemoryStore)
    (run : Interleaved (fun _ => exact false)
      ⟨fun party => (releases party).perform.run, (MemoryStore.ofList objects).after earlier⟩
      ⟨fun party => .done (.ok (names party)), final⟩) :
    (∃ left, final.find? ns name = some left ∧ (left.owners key).toList = []) ∧
      ∃ party, (names party).count name = 1 ∧ ∀ other, other ≠ party → name ∉ names other := by
  let site : Site := ⟨ns, name, key⟩
  let start : Watched ι := ⟨(MemoryStore.ofList objects).after earlier, none⟩
  have foundThere : start.store.find? site.ns site.name = some object := found
  have ownersStart : site.ownersIn start.store = (object.owners key).toList :=
    ownersIn_of_find? foundThere
  have sound : site.Sound start :=
    ⟨(GrownFrom.ofList objects).trans (GrownFrom.after _ earlier), ⟨object, foundThere⟩,
      iff_of_true rfl (ownersStart ▸ owned)⟩
  -- The same run, with a note of who empties the override.
  have startsThere : start.store = (MemoryStore.ofList objects).after earlier := rfl
  obtain ⟨ended, runNoted, rfl⟩ := run.beside site.exists_watched startsThere
  have tallied : ∀ party, Tally site party (releases party).owner ((releases party).Concerns site)
      ((names party).count site.name) start ended := by
    obtain ⟨-, coexist⟩ := Fewer.accord.coexists_of_interleaved
      (fun party => coexists_perform (sameNs party) (sameKey party) sound) runNoted
    exact fun party => coexist party ended (.refl ended)
  have shares : ∀ party, share party ended = (names party).count name :=
    fun party => (tallied party).shared.trans (Nat.zero_add _)
  obtain ⟨owner, listed⟩ := List.exists_mem_of_ne_nil _ owned
  obtain ⟨anyone, -⟩ := covered owner listed
  have nobody : site.ownersIn ended.store = [] := by
    refine List.eq_nil_iff_forall_not_mem.2 fun left member => ?_
    have listedBefore := ownersStart ▸ (tallied anyone).fewer member
    obtain ⟨party, rfl, visited⟩ := covered left listedBefore
    exact (tallied party).gone visited member
  have soundEnd := (tallied anyone).sound
  obtain ⟨remains, present⟩ := soundEnd.present
  refine ⟨⟨remains, present, (ownersIn_of_find? present).symm.trans nobody⟩, ?_⟩
  obtain ⟨party, emptied⟩ := Option.ne_none_iff_exists'.1 (mt soundEnd.noted.1 (not_not.2 nobody))
  refine ⟨party, ?_, fun other different => ?_⟩
  · rw [← shares, share, if_pos emptied]
  · have notOther : ended.emptier ≠ some other := fun same =>
      different (Option.some.inj (same.symm.trans emptied))
    rw [← List.count_eq_zero, ← shares, share, if_neg notOther]

/-! ## Two releases

Both releases read the override with both owners on it. The first one writes first, so the second one
meets a conflict; it reads again, and its second write leaves nobody. -/

def ofBothOwners : Bool → Release
  | false => ofOneHost
  | true => { ofOneHost with owner := ⟨"team", "api"⟩ }

def namedBy : Bool → List String
  | false => []
  | true => ["blue-cart"]

theorem interleaved_ofBothOwners : Interleaved (fun _ => exact false)
    ⟨fun party => (ofBothOwners party).perform.run,
      (MemoryStore.ofList [cartOverride "team/web,team/api" none]).after []⟩
    ⟨fun party => .done (.ok (namedBy party)), ⟨[cartOverride "" (some "3")], 3⟩⟩ := by
  have start : (fun party => (ofBothOwners party).perform.run) =
      both (ofBothOwners false).perform.run (ofBothOwners true).perform.run := by
    funext party
    cases party <;> rfl
  have ended : (fun party => Program.done (Except.ok (ε := Failure) (namedBy party))) =
      both (.done (.ok [])) (.done (.ok ["blue-cart"])) := by
    funext party
    cases party <;> rfl
  rw [start, ended]
  exact
    .first false ⟨nofun, rfl⟩ <|
    .first (.ok (cartOverride "team/web,team/api" (some "1"))) ⟨rfl, rfl⟩ <|
    .second false ⟨nofun, rfl⟩ <|
    .second (.ok (cartOverride "team/web,team/api" (some "1"))) ⟨rfl, rfl⟩ <|
    .first false ⟨nofun, rfl⟩ <|
    .first (.ok ()) ⟨rfl, rfl⟩ <|
    .first (.ok ()) ⟨nofun, rfl⟩ <|
    .second false ⟨nofun, rfl⟩ <|
    .second (.error (.conflict "prod/blue-cart: have 1, store has 2")) ⟨rfl, rfl⟩ <|
    .second (.ok ()) ⟨nofun, rfl⟩ <|
    .second false ⟨nofun, rfl⟩ <|
    .second (.ok (cartOverride "team/api" (some "2"))) ⟨rfl, rfl⟩ <|
    .second false ⟨nofun, rfl⟩ <|
    .second (.ok ()) ⟨rfl, rfl⟩ <|
    .second (.ok ()) ⟨nofun, rfl⟩ <|
    .refl

theorem exactly_one_names_both_owners :
    Interleaved (fun _ => exact false)
      ⟨fun party => (ofBothOwners party).perform.run,
        (MemoryStore.ofList [cartOverride "team/web,team/api" none]).after []⟩
      ⟨fun party => .done (.ok (namedBy party)), ⟨[cartOverride "" (some "3")], 3⟩⟩ ∧
    (∃ left, MemoryStore.find? ⟨[cartOverride "" (some "3")], 3⟩ "prod" "blue-cart" = some left ∧
      (left.owners "owners").toList = []) ∧
    ∃ party, (namedBy party).count "blue-cart" = 1 ∧
      ∀ other, other ≠ party → "blue-cart" ∉ namedBy other := by
  have decoded : ((cartOverride "team/web,team/api" (some "1")).owners "owners").toList =
      [⟨"team", "web"⟩, ⟨"team", "api"⟩] := by decide +kernel
  refine ⟨interleaved_ofBothOwners, exactly_one_names ofBothOwners "prod" "owners" "blue-cart"
    (by rintro (_ | _) <;> rfl) (by rintro (_ | _) <;> rfl) [cartOverride "team/web,team/api" none] []
    (cartOverride "team/web,team/api" (some "1")) rfl ?_ ?_ namedBy _ interleaved_ofBothOwners⟩
  · rw [decoded]
    exact List.cons_ne_nil _ _
  · rw [decoded]
    intro owner listed
    rcases List.mem_cons.1 listed with rfl | listed
    · exact ⟨false, rfl, "cart", List.mem_singleton.2 rfl, rfl⟩
    · cases List.mem_singleton.1 listed
      exact ⟨true, rfl, "cart", List.mem_singleton.2 rfl, rfl⟩

end Release

end RouteOverrides
