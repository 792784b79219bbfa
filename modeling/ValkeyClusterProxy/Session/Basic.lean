import ValkeyClusterProxy.Pipeline
import Mathlib.Data.List.Sort

/-!
# Sessions

A `Session` is the state one client connection shares between its reading goroutine, which
parses commands and sends one response per command to the channel `backQ`, and its writing
goroutine, which consumes `backQ` and writes the replies to the client in request order.

Besides the fields of the source, a session records what its goroutines do to the world
outside it: the responses sent to `backQ`, the requests handed to `Schedule`, the buffered
transactions handed to `NewMultiCmdExec`, the replies written to the client, the calls of
the wait group `reqWg` and the calls of `TriggerReloadSlots`.
-/

namespace ValkeyClusterProxy

open Proto

/-- Modelled from the spec: `PipelineResponseHeap` (heap.go is not among the sources), a
min-heap keyed by `ctx.seq`, kept as a list sorted by `seq` whose head is `Top()`.
`heapPush` inserts a response in front of the first one with a larger or equal `seq`. -/
def heapPush : List PipelineResponse → PipelineResponse → List PipelineResponse
  | [], plRsp => [plRsp]
  | top :: rest, plRsp =>
      if plRsp.ctx.seq ≤ top.ctx.seq then plRsp :: top :: rest else top :: heapPush rest plRsp

/-- The heap order: sequence numbers never decrease from the top. -/
def SeqSorted (heap : List PipelineResponse) : Prop :=
  heap.Sorted fun a b => a.ctx.seq ≤ b.ctx.seq

theorem perm_heapPush (heap : List PipelineResponse) (plRsp : PipelineResponse) :
    (heapPush heap plRsp).Perm (plRsp :: heap) := by
  induction heap with
  | nil => rfl
  | cons top rest ih =>
      unfold heapPush
      split
      · rfl
      · exact (ih.cons top).trans (List.Perm.swap plRsp top rest)

theorem seqSorted_heapPush {heap : List PipelineResponse} (sorted : SeqSorted heap)
    (plRsp : PipelineResponse) : SeqSorted (heapPush heap plRsp) := by
  induction heap with
  | nil => exact List.sorted_singleton plRsp
  | cons top rest ih =>
      obtain ⟨topLe, restSorted⟩ := List.sorted_cons.mp sorted
      unfold heapPush
      split
      next below =>
          refine List.sorted_cons.mpr ⟨?_, sorted⟩
          intro other member
          rcases List.mem_cons.mp member with rfl | inRest
          · exact below
          · exact below.trans (topLe other inRest)
      next above =>
          refine List.sorted_cons.mpr ⟨?_, ih restSorted⟩
          intro other member
          rcases List.mem_cons.mp ((perm_heapPush rest plRsp).subset member) with rfl | inRest
          · omega
          · exact topLe other inRest

/-- The session fields the two goroutines use, and the traces of their effects. -/
structure Session where
  auth : Bool
  reqSeq : Nat
  rspSeq : Nat
  closed : Bool
  rspHeap : List PipelineResponse
  multiCmd : Option (List Command)
  multiCmdErr : Bool
  /-- The coordinators' collected sub-responses, by the `seq` of their command. -/
  subCmdProgress : Nat → Option SubCmdProgress
  /-- The responses sent to `backQ`, oldest first. -/
  backQ : List PipelineResponse
  /-- The number of `reqWg.Add(1)` calls. -/
  reqWgAdded : Nat
  /-- The responses whose `wg.Done()` the writer called, oldest first. -/
  reqWgDone : List PipelineResponse
  /-- The requests handed to `Schedule`, oldest first. -/
  scheduled : List PipelineRequest
  /-- The buffered transactions handed to `NewMultiCmdExec`, oldest first. -/
  executed : List (List Command)
  /-- The replies written to the client, oldest first. -/
  written : List Object
  /-- The number of `TriggerReloadSlots` calls. -/
  reloadTriggers : Nat

namespace Session

/-- A session as the proxy creates it on accept: nothing read, sent or written yet. -/
def init : Session where
  auth := false
  reqSeq := 0
  rspSeq := 0
  closed := false
  rspHeap := []
  multiCmd := none
  multiCmdErr := false
  subCmdProgress := fun _ => none
  backQ := []
  reqWgAdded := 0
  reqWgDone := []
  scheduled := []
  executed := []
  written := []
  reloadTriggers := 0

/-- `Close`: mark the session closed (and close the client connection). -/
def close (s : Session) : Session := { s with closed := true }

end Session

end ValkeyClusterProxy
