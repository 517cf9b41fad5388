import RouteOverrides.Proofs.Program.Conduct
import RouteOverrides.Surroundings

/-! # Replies by a script

A cluster may be given by its replies alone. What a program asks of it can then be told by how many calls
came before.

* `ScriptedCluster.played` — the rules of such a cluster.
* `ScriptedCluster.OnScript` — where it stands in its script; `ScriptedCluster.OnScript.answered` is one
  call on.
* `Surroundings.reaches_played` — a program that runs in surroundings with such a cluster.
-/

namespace RouteOverrides

open Program

namespace ScriptedCluster

variable {settings : Settings} {script : List (Except ClusterError Json)}
  {cluster later : ScriptedCluster}

/-- The cluster replies to the calls. Whether the program is told to stop, and what the database answers,
is open. -/
def played (settings : Settings) : Rules ScriptedCluster
  | .store call, cluster, reply, later => (reply, later) = cluster.answer settings call
  | .log _, cluster, _, later => later = cluster
  | .record _ _, cluster, _, later => later = cluster
  | .report _, cluster, _, later => later = cluster
  | .latest _, cluster, _, later => later = cluster
  | .interrupted, cluster, _, later => later = cluster

/-- The reply to a call, by the number of calls before it. -/
def replyAt (script : List (Except ClusterError Json)) (index : Nat) : Except ClusterError Json :=
  script[index]?.getD (.ok (.obj []))

/-- A cluster has replied to its calls by a script, and goes on with the rest of it. -/
def OnScript (script : List (Except ClusterError Json)) (cluster : ScriptedCluster) : Prop :=
  cluster.replies = script.drop cluster.calls.length

theorem onScript_start (script : List (Except ClusterError Json)) : OnScript script ⟨script, []⟩ := rfl

theorem calls_of_played {call : StoreCall} {reply : Except Failure call.Reply}
    (answered : played settings (.store call) cluster reply later) :
    later.calls = cluster.calls ++ [ClusterCall.ofStoreCall settings call] := by
  obtain ⟨-, rfl⟩ := Prod.mk.inj answered
  rw [ScriptedCluster.reply]
  split <;> rfl

theorem OnScript.answered {call : StoreCall} {reply : Except Failure call.Reply}
    (onScript : OnScript script cluster) (answered : played settings (.store call) cluster reply later) :
    reply = call.readReply (replyAt script cluster.calls.length) ∧ OnScript script later := by
  have calls := calls_of_played answered
  obtain ⟨rfl, rfl⟩ := Prod.mk.inj answered
  rw [OnScript] at onScript ⊢
  rw [calls, List.length_append, List.length_singleton, ← List.drop_drop, ← onScript, replyAt,
    ← List.head?_drop, ← onScript, ScriptedCluster.reply]
  cases cluster.replies <;> exact ⟨rfl, rfl⟩

theorem OnScript.played {request : Request} {answer : request.Answer} (onScript : OnScript script cluster)
    (allowed : played settings request cluster answer later) : OnScript script later := by
  cases request with
  | store call => exact (onScript.answered allowed).2
  | log _ | record _ _ | report _ | latest _ | interrupted =>
    cases allowed
    exact onScript

end ScriptedCluster

open ScriptedCluster

/-! ## Programs that run there -/

namespace Surroundings

variable {surroundings : Surroundings} {settings : Settings} {cluster : ScriptedCluster}

theorem played_answerWith (backed : surroundings.backend = .cluster settings cluster)
    (releaser : Releaser) (listens : Bool) (request : Request) :
    ∃ later, (answerWith releaser listens request surroundings).2.backend = .cluster settings later ∧
      played settings request cluster (answerWith releaser listens request surroundings).1 later := by
  cases request with
  | store call =>
    have undisturbed : surroundings.disturbances = [] := by rw [disturbances, backed]
    rw [answerWith, callDisturbed_of_undisturbed undisturbed, callStore, backed]
    exact ⟨_, rfl, rfl⟩
  | log _ | record _ _ | report _ | latest _ | interrupted => exact ⟨cluster, backed, rfl⟩

/-- A program that runs in surroundings with a cluster gets its replies from there. -/
theorem reaches_played {α : Type} (backed : surroundings.backend = .cluster settings cluster)
    (listens : Bool) (program : Program α) :
    ∃ later, (surroundings.runProgram listens program).2.backend = .cluster settings later ∧
      Reaches (played settings) program cluster
        (.done (surroundings.runProgram listens program).1) later := by
  rw [runProgram, maxNesting]
  induction program generalizing surroundings cluster with
  | done result => exact ⟨cluster, backed, .here⟩
  | ask request next inductionHypothesis =>
    obtain ⟨after, backedAfter, allowed⟩ := played_answerWith backed _ listens request
    obtain ⟨later, backedLater, reached⟩ := inductionHypothesis _ backedAfter
    exact ⟨later, backedLater, .answered _ allowed reached⟩

end Surroundings

end RouteOverrides
