import RouteOverrides.Proofs.Program.Confinement

/-! # What handlers ask for

Whatever it is answered, a handler makes requests of a few kinds only. Reports read. A pass also tells
the database what it does, and it creates the overrides of its hosts; it never updates an object.

* `Handler.confined_present`, `Handler.confined_statusesOf` — looking for overrides only reads.
* `Handler.confined_publish` — statuses are published under the unique name.
* `Handler.Mints` — an object as it is created.
* `Handler.exists_createMissing_eq` — one status is written for a host without an override, before
  anything else.
* `Handler.Permits.confined_handle` — the requests of a pass; `Handler.Asks` is a wider kind.
-/

namespace RouteOverrides

open Program

/-- Taking an owner on changes the annotations only. -/
theorem RoutingObject.addOwner_eq (object : RoutingObject) (key : String) (owner : Owner) :
    ∃ annotations, (object.addOwner key owner).2 = { object with annotations := annotations } := by
  rw [addOwner, change]
  split
  · exact ⟨_, rfl⟩
  · exact ⟨object.annotations, rfl⟩

namespace Handler

open RouteOverrides.Action

variable {kind : Request → Prop} {handler : Handler} {host : String} {hosts : List String}

theorem confined_present (handler : Handler) (host : String) :
    (handler.present host).Confined Request.Reads := by
  refine (confined_checkInterrupted trivial).bind fun _ =>
    (confined_attempt trivial).bind fun reply => ?_
  cases reply with
  | ok object => exact confined_pure _
  | error failure =>
    cases failure with
    | notFound _ => exact confined_pure _
    | _ => exact confined_throw _

/-- Statuses are named after the hosts that they are for. -/
theorem confined_statusesOf_named (handler : Handler) (ignored hosts : List String) :
    Program.Confined Request.Reads
      (fun result => ∀ statuses, result = .ok statuses →
        statuses.map (·.name) = hosts.map handler.nameFor)
      (handler.statusesOf ignored hosts).run := by
  induction hosts with
  | nil =>
    rintro _ ⟨⟩
    rfl
  | cons host rest inductionHypothesis =>
    refine Program.Confined.bind (confined_present handler host) fun result _ => ?_
    cases result with
    | error failure => exact nofun
    | ok present =>
      refine Program.Confined.bind inductionHypothesis fun result named => ?_
      cases result with
      | error failure => exact nofun
      | ok statuses =>
        rintro _ ⟨⟩
        exact congrArg (List.cons (handler.nameFor host)) (named statuses rfl)

theorem confined_statusesOf (handler : Handler) (ignored hosts : List String) :
    (handler.statusesOf ignored hosts).Confined Request.Reads :=
  (confined_statusesOf_named handler ignored hosts).mono (fun _ => id) fun _ _ => trivial

theorem confined_publish (handler : Handler) (statuses : List ResourceStatus) :
    (handler.publish statuses).Confined fun request =>
      ∃ status ∈ statuses, request = .record handler.uniqueName status := by
  induction statuses with
  | nil => exact confined_pure ()
  | cons status rest inductionHypothesis =>
    exact (confined_record ⟨status, List.mem_cons_self, rfl⟩).bind fun _ =>
      inductionHypothesis.mono fun _ ⟨other, member, asked⟩ =>
        ⟨other, List.mem_cons_of_mem _ member, asked⟩

/-- An object as a handler makes it for a host. Only its host and its annotations are open. -/
structure Mints (handler : Handler) (host : String) (object : RoutingObject) : Prop where
  place : object.key = (handler.ns, handler.nameFor host)
  labels : object.labels = [(handler.versionLabel, handler.uniqueVersion)]
  subsets : object.subsets =
    [⟨handler.uniqueVersion, [(handler.versionLabel, handler.uniqueVersion)]⟩]

theorem Mints.addOwner {object : RoutingObject} (mints : handler.Mints host object) (key : String)
    (owner : Owner) : handler.Mints host (object.addOwner key owner).2 := by
  obtain ⟨annotations, same⟩ := object.addOwner_eq key owner
  rw [same]
  exact ⟨mints.place, mints.labels, mints.subsets⟩

theorem confined_generate (reads : ∀ request : Request, request.Reads → kind request)
    (logs : kind (.log (handler.lookup.absenceEntry host))) :
    Program.Confined kind
      (fun result => ∀ object, result = .ok (some object) → handler.Mints host object)
      (handler.template.generate host).run := by
  have located : (handler.lookup.locate host).Confined kind := by
    refine (confined_checkInterrupted (reads _ trivial)).bind fun _ => ?_
    refine ((confined_call (reads _ (Request.reads_list _))).blaming _ _).bind fun objects => ?_
    split
    · exact confined_pure _
    · exact (confined_log logs).bind fun _ => confined_pure _
  refine Program.Confined.bind located fun result _ => ?_
  cases result with
  | error failure => exact nofun
  | ok baseline =>
    cases baseline with
    | none => exact nofun
    | some baseline =>
      rintro _ ⟨⟩
      exact ⟨rfl, rfl, rfl⟩

/-- A first status is written for a host without an override. After that the handler reads, writes to the
journal and creates the override. -/
theorem exists_createMissing_eq (reads : ∀ request : Request, request.Reads → kind request)
    (logs : ∀ entry, kind (.log entry))
    (creates : ∀ object, handler.Mints host object → kind (.store (.create object))) :
    ∃ rest : Pass Unit, rest.Confined kind ∧ handler.createMissing host =
      (Pass.ofAction <| Action.blaming host "record initializing status" <|
        Action.record handler.uniqueName ⟨handler.nameFor host, handler.ns, .initializing⟩) >>=
      fun _ => rest := by
  refine ⟨_, ?_, rfl⟩
  refine Pass.confined_ofAction_bind ?_
  refine (confined_generate reads (logs _)).mono (fun _ => id) ?_
  rintro _ minted generated rfl
  cases generated with
  | none =>
    refine Pass.confined_tracker.bind fun noted => (Pass.confined_note _).bind fun _ => ?_
    split
    · exact Pass.confined_ofAction (confined_log (logs _))
    · exact Pass.confined_pure _
  | some object =>
    have created := creates _ ((minted object rfl).addOwner handler.key handler.owner)
    refine (Pass.confined_ofAction (confined_log (logs _))).bind fun _ => ?_
    refine (Pass.confined_ofAction (confined_checkInterrupted (reads _ trivial))).bind fun _ => ?_
    refine (Pass.confined_ofAction ((confined_call created).blaming _ _)).bind fun _ => ?_
    exact Pass.confined_note _

/-! ## Passes -/

/-- A kind of requests that has all those of a pass. -/
structure Permits (handler : Handler) (kind : Request → Prop) : Prop where
  reads : ∀ request : Request, request.Reads → kind request
  logs : ∀ entry, kind (.log entry)
  records : ∀ host ∈ handler.hosts,
    kind (.record handler.uniqueName ⟨handler.nameFor host, handler.ns, .initializing⟩)
  creates : ∀ host ∈ handler.hosts, ∀ object, handler.Mints host object →
    kind (.store (.create object))

namespace Permits

theorem confined_visit (permits : handler.Permits kind) (member : host ∈ handler.hosts) :
    (handler.visit host).Confined kind := by
  have present : (handler.present host).Confined kind :=
    (confined_present handler host).mono permits.reads
  refine (Pass.confined_ofAction present).bind fun isPresent => ?_
  cases isPresent with
  | true => exact Pass.confined_note _
  | false =>
    obtain ⟨rest, confined, cut⟩ :=
      exists_createMissing_eq permits.reads permits.logs (permits.creates host member)
    have recorded := confined_record (permits.records host member)
    have created : (handler.createMissing host).Confined kind := by
      rw [cut]
      exact (Pass.confined_ofAction (recorded.blaming _ _)).bind fun _ => confined
    exact created

theorem confined_visitAll (permits : handler.Permits kind)
    (members : ∀ host ∈ hosts, host ∈ handler.hosts) : (handler.visitAll hosts).Confined kind := by
  induction hosts with
  | nil => exact Pass.confined_pure ()
  | cons host rest inductionHypothesis =>
    rw [List.forall_mem_cons] at members
    exact (permits.confined_visit members.1).bind fun _ => inductionHypothesis members.2

theorem confined_handle (permits : handler.Permits kind) : handler.handle.Confined kind := by
  refine (Pass.confined_note _).bind fun _ => ?_
  refine (permits.confined_visitAll fun _ => id).bind fun _ =>
    Pass.confined_tracker.bind fun tracker => ?_
  dsimp only
  split
  · exact (Pass.confined_ofAction (confined_log (permits.logs _))).bind fun _ =>
      Pass.confined_throw _
  · exact Pass.confined_pure _

end Permits

/-- A pass updates nothing, and creates only overrides of its hosts. -/
def Asks (handler : Handler) : Request → Prop
  | .store (.create object) => ∃ host ∈ handler.hosts, object.key = (handler.ns, handler.nameFor host)
  | .store (.update _) => False
  | _ => True

theorem asks_of_reads {request : Request} (reads : request.Reads) : handler.Asks request := by
  cases request with
  | store call =>
    cases call with
    | get _ _ | list _ => trivial
    | create _ | update _ => exact reads.elim
  | log _ | record _ _ | report _ | latest _ | interrupted => trivial

theorem permits_asks (handler : Handler) : handler.Permits handler.Asks where
  reads _ := asks_of_reads
  logs _ := trivial
  records _ _ := trivial
  creates host member _ mints := ⟨host, member, mints.place⟩

theorem confined_handle (handler : Handler) : handler.handle.Confined handler.Asks :=
  handler.permits_asks.confined_handle

end Handler

end RouteOverrides
