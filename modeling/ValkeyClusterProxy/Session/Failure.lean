import ValkeyClusterProxy.Session.Ordering
import ValkeyClusterProxy.Session.Exits

/-!
# Replies up to the first failure

`handleResp` returns the error a response carries, or the error of its failed redirection,
and `WritingLoop` then closes the session: the reply of that command is not written, and a
closed session writes nothing more.  Such errors are ordinary backend behaviour: a
connection lost on the way is answered by `cleanupInflight`, and a node named by `MOVED`
may refuse the connection.

`writingLoop_replies_until_failure` says what the client receives from a batch whose
responses each settle to a reply or fail, in every arrival order: the replies of the
sequence numbers before the first one with a failing response, in order, and the
connection closed exactly when there is such a number.  The run is the one of `Ordering`
in two modes: open, the writer keeps `AtRest` with every handled response settled; once it
handles a failing response at its turn it is stopped, and `writingLoop_of_closed` freezes
what was written.
-/

namespace ValkeyClusterProxy

open Proto

namespace Batch

/-- Some response of sequence number `seq` fails: `handleResp` meets an error in its place,
its own or its redirection's. -/
def Fails (b : Batch) (net : Network) (seq : Nat) : Prop :=
  ∃ x ∈ (b.seqRsps seq).rsps, ∃ err, net.redirectedRsp x = .ok (.error err)

/-- Every response of the batch settles to its reply or fails; none makes the process exit. -/
def Resolves (b : Batch) (net : Network) (reply : PipelineResponse → Object) : Prop :=
  ∀ x ∈ b.rsps, net.redirectedRsp x = .ok (.ok (reply x)) ∨
    ∃ err, net.redirectedRsp x = .ok (.error err)

/-- A response of a batch that resolves never makes the process exit. -/
theorem Resolves.ok {b : Batch} {net : Network} {reply : PipelineResponse → Object}
    (resolves : b.Resolves net reply) {x : PipelineResponse} (member : x ∈ b.rsps) :
    ∃ r, net.redirectedRsp x = .ok r :=
  (resolves x member).elim (⟨_, ·⟩) fun ⟨_, failed⟩ => ⟨_, failed⟩

end Batch

section Modes

variable (b : Batch) (net : Network) (coalesceRsp : Command → List (Option Object) → Object)
  (reply : PipelineResponse → Object)

/-- Every response handled so far settled to its reply. -/
def SettledDone (s : Session) : Prop :=
  ∀ x ∈ s.reqWgDone, net.redirectedRsp x = .ok (.ok (reply x))

/-- The writer has handled a failing response at the turn of `e`, the first sequence number
with one, having written the replies of the sequence numbers before it. -/
structure StoppedAt (e : Nat) (s : Session) : Prop where
  written : s.written = b.replies coalesceRsp reply e
  below : e < b.numSeqs
  fails : b.Fails net e
  before : ∀ seq < e, ¬ b.Fails net seq

/-- What one call of `handleRespPipeline` or of its drain loop leaves: no error and the
writer open at rest, every handled response settled; or an error, and the writer stopped. -/
def SettledOrStopped (delivered : List PipelineResponse) (result : Session × Option GoError) :
    Prop :=
  result.2 = none ∧ AtRest b coalesceRsp reply delivered result.1 ∧
      SettledDone net reply result.1 ∨
    result.2.isSome ∧ ∃ e, StoppedAt b net coalesceRsp reply e result.1

end Modes

section Failure

variable {net : Network} {b : Batch} {coalesceRsp : Command → List (Option Object) → Object}
  {reply : PipelineResponse → Object} {delivered : List PipelineResponse} {s : Session}
  {heap : List PipelineResponse} {plRsp : PipelineResponse}

/-- No sequence number the writer has passed has a failing response, when every handled
response settled. -/
theorem Inv.not_fails {pending : List PipelineResponse}
    (inv : Inv b coalesceRsp reply delivered s heap pending)
    (settledDone : SettledDone net reply s) : ∀ seq < s.rspSeq, ¬ b.Fails net seq := by
  rintro seq below ⟨x, member, err, failed⟩
  cases (settledDone x (inv.complete seq below x member)).symm.trans failed

theorem handleResp_of_failed {err : GoError} (turn : plRsp.ctx.seq = s.rspSeq)
    (failed : net.redirectedRsp plRsp = .ok (.error err)) :
    Session.handleResp net coalesceRsp s plRsp = .ok (s.markDone plRsp, some err) := by
  rw [Session.handleResp_of_turn turn, failed]
  rfl

/-- Handling a failing response at its turn stops the writer there. -/
theorem Inv.stop (inv : Inv b coalesceRsp reply delivered s heap [plRsp])
    (inBatch : ∀ x ∈ delivered, x ∈ b.rsps) (settledDone : SettledDone net reply s)
    (turn : plRsp.ctx.seq = s.rspSeq) {err : GoError}
    (failed : net.redirectedRsp plRsp = .ok (.error err)) :
    StoppedAt b net coalesceRsp reply s.rspSeq (s.markDone plRsp) := by
  obtain ⟨below, inSeq⟩ := inv.pending_at_turn inBatch turn
  exact ⟨inv.written, below, ⟨plRsp, inSeq, err, failed⟩, inv.not_fails settledDone⟩

/-- Handling a settled response keeps every handled response settled. -/
theorem SettledDone.handle (settledDone : SettledDone net reply s)
    (settled : net.redirectedRsp plRsp = .ok (.ok (reply plRsp)))
    {result : Session × Option GoError}
    (handled : Session.handleResp net coalesceRsp s plRsp = .ok result) :
    SettledDone net reply result.1 := by
  intro x member
  rw [(Session.handleResp_queues handled).1, List.mem_append, List.mem_singleton] at member
  rcases member with earlier | rfl
  · exact settledDone x earlier
  · exact settled

/-- The drain loop, from the invariant with nothing pending, returns at rest or stopped. -/
theorem Inv.drain_resolved (inv : Inv b coalesceRsp reply delivered s heap [])
    (nodup : delivered.Nodup) (inBatch : ∀ x ∈ delivered, x ∈ b.rsps)
    (settledDone : SettledDone net reply s) (resolves : b.Resolves net reply)
    (writable : ∀ out obj, net.write out obj = none) :
    ∃ result, Session.drainHeap net coalesceRsp s heap = .ok result ∧
      SettledOrStopped b net coalesceRsp reply delivered result := by
  induction heap generalizing s with
  | nil => exact ⟨_, rfl, .inl ⟨rfl, ⟨inv.withHeap [], by simp⟩, settledDone⟩⟩
  | cons top rest ih =>
      unfold Session.drainHeap
      by_cases turn : top.ctx.seq = s.rspSeq
      · rw [if_pos turn]
        have arrived : top ∈ delivered := inv.perm.subset (by simp)
        have settledPopped : SettledDone net reply { s with rspHeap := rest } := settledDone
        rcases resolves top (inBatch top arrived) with settled | ⟨err, failed⟩
        · obtain ⟨mid, handled, -, midInv⟩ := inv.pop.handle nodup inBatch settled writable turn
          rw [handled]
          exact ih midInv (settledPopped.handle settled handled)
        · rw [@handleResp_of_failed net coalesceRsp { s with rspHeap := rest } top err turn failed]
          exact ⟨_, rfl, .inr ⟨rfl, _, inv.pop.stop inBatch settledPopped turn failed⟩⟩
      · rw [if_neg turn]
        exact ⟨_, rfl, .inl ⟨rfl, inv.atRest_of_offTurn turn, settledDone⟩⟩

/-- One call of `handleRespPipeline` from rest, on a response of the batch not delivered
before, returns at rest with the response delivered, or stopped. -/
theorem AtRest.step_resolved (rest : AtRest b coalesceRsp reply delivered s)
    (settledDone : SettledDone net reply s)
    (nodup : (delivered ++ [plRsp]).Nodup) (inBatch : ∀ x ∈ delivered ++ [plRsp], x ∈ b.rsps)
    (resolves : b.Resolves net reply) (writable : ∀ out obj, net.write out obj = none) :
    ∃ result, Session.handleRespPipeline net coalesceRsp s plRsp = .ok result ∧
      SettledOrStopped b net coalesceRsp reply (delivered ++ [plRsp]) result := by
  unfold Session.handleRespPipeline
  by_cases turn : plRsp.ctx.seq = s.rspSeq
  · rw [if_pos turn]
    rcases resolves plRsp (inBatch plRsp (by simp)) with settled | ⟨err, failed⟩
    · obtain ⟨mid, handled, sameHeap, midInv⟩ :=
        rest.arrive.handle nodup inBatch settled writable turn
      rw [handled]
      dsimp only
      rw [sameHeap]
      exact midInv.drain_resolved nodup inBatch (settledDone.handle settled handled) resolves
        writable
    · rw [handleResp_of_failed turn failed]
      exact ⟨_, rfl, .inr ⟨rfl, _, rest.arrive.stop inBatch settledDone turn failed⟩⟩
  · rw [if_neg turn]
    exact ⟨_, rfl, .inl ⟨rfl, rest.park nodup inBatch turn, settledDone⟩⟩

/-- The writing loop aborts only on a response whose redirection exits: when every response
it may handle settles or fails, it returns. -/
theorem writingLoop_ok_of_resolved {arrivals : List PipelineResponse}
    (resolved : ∀ x ∈ s.rspHeap ++ arrivals, ∃ r, net.redirectedRsp x = .ok r) :
    ∃ w, Session.writingLoop net coalesceRsp s arrivals = .ok w := by
  rcases ran : Session.writingLoop net coalesceRsp s arrivals with abort | w
  · obtain ⟨x, member, aborted⟩ := Session.writingLoop_abort ran
    obtain ⟨r, settledX⟩ := resolved x member
    cases aborted.symm.trans settledX
  · exact ⟨w, rfl⟩

/-- The writing loop from rest, over responses of the batch not delivered before, returns
either open at rest, every handled response settled, or closed and stopped. -/
theorem AtRest.writingLoop_resolved (rest : AtRest b coalesceRsp reply delivered s)
    (settledDone : SettledDone net reply s) (arrivals : List PipelineResponse)
    (nodup : (delivered ++ arrivals).Nodup) (inBatch : ∀ x ∈ delivered ++ arrivals, x ∈ b.rsps)
    (resolves : b.Resolves net reply) (writable : ∀ out obj, net.write out obj = none) :
    ∃ w, Session.writingLoop net coalesceRsp s arrivals = .ok w ∧
      (AtRest b coalesceRsp reply (delivered ++ arrivals) w ∧ SettledDone net reply w ∨
        w.closed = true ∧ ∃ e, StoppedAt b net coalesceRsp reply e w) := by
  induction arrivals generalizing delivered s with
  | nil => exact ⟨s, rfl, .inl ⟨by simpa using rest, settledDone⟩⟩
  | cons plRsp later ih =>
      have next : (delivered ++ [plRsp]).Sublist (delivered ++ plRsp :: later) := by simp
      obtain ⟨⟨mid, failure⟩, stepped, ⟨noError, midRest, midSettled⟩ | ⟨isError, e, stopped⟩⟩ :=
        rest.step_resolved settledDone (nodup.sublist next)
          (fun x member => inBatch x (next.subset member)) resolves writable
      · cases noError
        unfold Session.writingLoop
        rw [stepped]
        simpa using ih midRest midSettled (by simpa using nodup) (by simpa using inBatch)
      · obtain ⟨err, rfl⟩ := Option.isSome_iff_exists.mp isError
        unfold Session.writingLoop
        rw [stepped]
        dsimp only
        obtain ⟨w, ran⟩ := @writingLoop_ok_of_resolved net coalesceRsp mid.close later
          fun x member => by
            refine resolves.ok (inBatch x ?_)
            rcases List.mem_append.mp (Session.mem_of_handleRespPipeline stepped member) with
              parked | arriving
            · exact List.mem_append_left _ (rest.1.perm.subset (by simp [parked]))
            · exact List.mem_append_right _ arriving
        obtain ⟨wrote, closed⟩ := Session.writingLoop_of_closed later rfl ran
        exact ⟨w, ran, .inr ⟨closed, e, { stopped with written := wrote.trans stopped.written }⟩⟩

/-- Either end of a run over the whole batch leaves the client the replies of the sequence
numbers before the first failing one, with the connection closed exactly when there is one. -/
theorem untilFailure_of_resolved {w : Session} (arrival : delivered.Perm b.rsps)
    (ended : AtRest b coalesceRsp reply delivered w ∧ SettledDone net reply w ∨
      w.closed = true ∧ ∃ e, StoppedAt b net coalesceRsp reply e w) :
    ∃ m ≤ b.numSeqs, w.written = b.replies coalesceRsp reply m ∧
      (∀ seq < m, ¬ b.Fails net seq) ∧ (m < b.numSeqs → b.Fails net m) ∧
      (w.closed = true ↔ m < b.numSeqs) := by
  rcases ended with ⟨rest, settledDone⟩ | ⟨closed, e, stopped⟩
  · obtain ⟨-, -, atEnd⟩ := rest.drained arrival
    refine ⟨b.numSeqs, le_rfl, atEnd ▸ rest.1.written, atEnd ▸ rest.1.not_fails settledDone,
      fun below => absurd below (lt_irrefl _), ?_⟩
    simp [rest.1.isOpen]
  · exact ⟨e, stopped.below.le, stopped.written, stopped.before, fun _ => stopped.fails,
      iff_of_true closed stopped.below⟩

/-- Replies up to the first failure: for every batch whose responses each settle to a reply
or fail (carry an error, or have their redirection fail), and every order in which they
reach the writer, the writing loop returns; the client has received exactly the replies of
the sequence numbers `0 .. m - 1`, in order, where `m` is the first sequence number with a
failing response, or the number of commands when none fails; and the connection is closed
exactly when some response failed.  The client takes every write. -/
theorem writingLoop_replies_until_failure (b : Batch) (reply : PipelineResponse → Object)
    (outcome : ∀ x ∈ b.rsps, net.redirectedRsp x = .ok (.ok (reply x)) ∨
      ∃ err, net.redirectedRsp x = .ok (.error err))
    (writable : ∀ out obj, net.write out obj = none)
    (order : List PipelineResponse) (arrival : order.Perm b.rsps) :
    ∃ w, Session.writingLoop net coalesceRsp Session.init order = .ok w ∧
      ∃ m ≤ b.numSeqs, w.written = b.replies coalesceRsp reply m ∧
        (∀ seq < m, ¬ b.Fails net seq) ∧ (m < b.numSeqs → b.Fails net m) ∧
        (w.closed = true ↔ m < b.numSeqs) := by
  obtain ⟨w, ran, ended⟩ := (@atRest_init b coalesceRsp reply).writingLoop_resolved nofun order
    (by simpa using arrival.nodup_iff.mpr b.nodup_rsps) (by simpa using arrival.subset)
    outcome writable
  exact ⟨w, ran, untilFailure_of_resolved (by simpa using arrival) ended⟩

/-- The response to the first of two pipelined `GET`s, whose connection was lost. -/
def lostGet : PipelineResponse := ⟨(getRsp 0).ctx, .error ⟨"EOF".toList⟩⟩

/-- Two pipelined `GET`s, the first one failing. -/
def lostFirst : Batch :=
  ⟨2, fun | 0 => .single lostGet | seq => .single (getRsp seq),
    fun seq _ => by cases seq <;> exact ⟨rfl, rfl⟩⟩

theorem writingLoop_replies_until_failure_lostFirst :
    ∃ w, Session.writingLoop Network.refused (fun _ _ => .nullArray)
        Session.init [getRsp 1, lostGet] = .ok w ∧
      ∃ m ≤ lostFirst.numSeqs, w.written = lostFirst.replies (fun _ _ => .nullArray)
          (fun x => x.rsp.toOption.getD .nullBulkString) m ∧
        (∀ seq < m, ¬ lostFirst.Fails Network.refused seq) ∧
        (m < lostFirst.numSeqs → lostFirst.Fails Network.refused m) ∧
        (w.closed = true ↔ m < lostFirst.numSeqs) :=
  writingLoop_replies_until_failure lostFirst _
    (fun x member => by
      rw [show lostFirst.rsps = [lostGet, getRsp 1] from rfl, List.mem_pair] at member
      rcases member with rfl | rfl
      exacts [.inr ⟨_, rfl⟩, .inl rfl])
    (fun _ _ => rfl) _ (List.Perm.swap _ _ [])

end Failure

end ValkeyClusterProxy
