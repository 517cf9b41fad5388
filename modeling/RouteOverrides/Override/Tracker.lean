/-! # Tracking hosts over passes

A tracker remembers what became of the service hosts of a handler. The active hosts are those of the
current pass, with repetitions. The ignored hosts pile up over all passes, each once.

* `Tracker.markIgnored` answers whether the host was not ignored before.
* `Tracker.result`: the outcome of a pass. A host that has become active is not reported as ignored,
  even if it was ignored earlier. -/

namespace RouteOverrides

/-- The hosts that a pass found active, and those that it leaves out. -/
structure PassResult where
  active : List String
  ignored : List String
  deriving DecidableEq, Repr, Inhabited

/-- What became of the hosts so far. -/
structure Tracker where
  active : List String
  ignored : List String
  deriving DecidableEq, Repr, Inhabited

namespace Tracker

/-- The tracker before any pass. -/
def empty : Tracker := ⟨[], []⟩

/-- Forgets the active hosts of the last pass. -/
def beginPass (tracker : Tracker) : Tracker := { tracker with active := [] }

def markActive (tracker : Tracker) (host : String) : Tracker :=
  { tracker with active := tracker.active ++ [host] }

def isIgnored (tracker : Tracker) (host : String) : Bool := tracker.ignored.contains host

/-- Notes that a host is ignored; answers whether that is new. -/
def markIgnored (tracker : Tracker) (host : String) : Bool × Tracker :=
  if tracker.isIgnored host then (false, tracker)
  else (true, { tracker with ignored := tracker.ignored ++ [host] })

def result (tracker : Tracker) : PassResult where
  active := tracker.active
  ignored := tracker.ignored.filter fun host => !tracker.active.contains host

@[simp] theorem active_beginPass (tracker : Tracker) : tracker.beginPass.active = [] := rfl
@[simp] theorem ignored_beginPass (tracker : Tracker) :
    tracker.beginPass.ignored = tracker.ignored := rfl
@[simp] theorem active_markActive (tracker : Tracker) (host : String) :
    (tracker.markActive host).active = tracker.active ++ [host] := rfl
@[simp] theorem ignored_markActive (tracker : Tracker) (host : String) :
    (tracker.markActive host).ignored = tracker.ignored := rfl

/-- Marking a host as ignored leaves the active hosts alone. -/
@[simp] theorem active_markIgnored (tracker : Tracker) (host : String) :
    (tracker.markIgnored host).2.active = tracker.active := by
  unfold markIgnored
  split <;> rfl

/-- No host is ignored twice. -/
theorem ignored_nodup_markIgnored {tracker : Tracker} (h : tracker.ignored.Nodup) (host : String) :
    (tracker.markIgnored host).2.ignored.Nodup := by
  unfold markIgnored isIgnored
  split
  · exact h
  · rename_i hnew
    rw [List.nodup_append]
    refine ⟨h, by simp, ?_⟩
    intro a ha b hb
    rw [List.mem_singleton.1 hb]
    rintro rfl
    exact hnew (by simpa using ha)

end Tracker

end RouteOverrides
