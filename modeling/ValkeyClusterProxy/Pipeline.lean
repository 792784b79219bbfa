import ValkeyClusterProxy.Proto.Resp
import Mathlib.Logic.Function.Basic

/-!
# Pipeline requests and responses

A session numbers each client command with a sequence number `seq`; a command split over
several shards gives every sub-request the same `seq`, its own `subSeq`, and a pointer to
the coordinator `MultiCmd` that collects the sub-responses.  Responses travel back on the
session's channel `backQ` and are written to the client in `seq` order.

The coordinator's code (multi_cmd.go) is not among the modelled sources.  It is split here
into the part the reader fixes (`MultiCmd`: the command and the number of sub-responses it
waits for) and the part the writer updates (`SubCmdProgress`), which the session keeps by
`seq` as the spec's design notes describe.
-/

namespace ValkeyClusterProxy

open Proto

/-- Modelled from the spec: the coordinator of a split command as the reader creates it
with `NewMultiCmd`, holding the original command and the number of sub-responses it
waits for. -/
structure MultiCmd where
  cmd : Command
  numSubCmds : Nat
  deriving DecidableEq, Repr

/-- `PipelineRequest`.  Locally answered commands carry no command (`cmd` is `nil` in the
source).  The `backQ` and `wg` fields always hold the owning session's channel and wait
group, so they are left implicit. -/
structure PipelineRequest where
  cmd : Option Command
  readOnly : Bool
  slot : Nat
  seq : Nat
  subSeq : Nat
  parentCmd : Option MultiCmd
  deriving DecidableEq, Repr

/-- The request of a locally answered command: only its sequence number is set. -/
def PipelineRequest.ofSeq (seq : Nat) : PipelineRequest :=
  { cmd := none, readOnly := false, slot := 0, seq, subSeq := 0, parentCmd := none }

/-- `PipelineResponse`: the request it answers and either its reply or the error in its
place (the source's `rsp` and `err`, of which every constructor of a response sets exactly
one). -/
structure PipelineResponse where
  ctx : PipelineRequest
  rsp : Except GoError Object

/-- Modelled from the spec: the part of a coordinator that `OnSubCmdFinished` updates, the
number of sub-responses received and the reply placed at each `subSeq`. -/
structure SubCmdProgress where
  received : Nat
  subResponses : Nat → Option Object

namespace SubCmdProgress

/-- The state of a coordinator that has received nothing. -/
def empty : SubCmdProgress := ⟨0, fun _ => none⟩

/-- Modelled from the spec: `OnSubCmdFinished`, which places a sub-response's reply at its
`subSeq` and counts it. -/
def onSubCmdFinished (progress : SubCmdProgress) (subSeq : Nat) (reply : Object) :
    SubCmdProgress :=
  ⟨progress.received + 1, Function.update progress.subResponses subSeq (some reply)⟩

@[simp] theorem received_onSubCmdFinished (progress : SubCmdProgress) (subSeq : Nat)
    (reply : Object) : (progress.onSubCmdFinished subSeq reply).received =
      progress.received + 1 := rfl

@[simp] theorem subResponses_onSubCmdFinished (progress : SubCmdProgress) (subSeq : Nat)
    (reply : Object) : (progress.onSubCmdFinished subSeq reply).subResponses =
      Function.update progress.subResponses subSeq (some reply) := rfl

end SubCmdProgress

namespace MultiCmd

/-- Modelled from the spec: `Finished`, true once as many sub-responses have arrived as the
coordinator waits for. -/
def finished (mc : MultiCmd) (progress : SubCmdProgress) : Bool :=
  progress.received == mc.numSubCmds

/-- The sub-responses in `subSeq` order, which `CoalesceRsp` merges into one reply. -/
def collected (mc : MultiCmd) (progress : SubCmdProgress) : List (Option Object) :=
  (List.range mc.numSubCmds).map progress.subResponses

end MultiCmd

end ValkeyClusterProxy
