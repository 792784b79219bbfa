import ValkeyClusterProxy.Session.Reader
import ValkeyClusterProxy.Session.Writer

/-!
# A failed `backendServerPool.Get`

`Schedule` answers a request whose `Get` fails with a local error reply at a fresh sequence
number.  This module follows the two consequences through whole runs.

When the client stops sending, `ReadingLoop` calls `reqWg.Wait()`, and only after it returns
closes `backQ` and waits for the writer.  The wait returns once `wg.Done()` has been called
as often as `reqWg.Add(1)`.  `Schedule` sends every response before it returns, so by the
time of the wait every response is on `backQ`.  The writer calls `Done` once for each
response it handles and parks the others in its heap.  The writer's accounting and the
reader's balance (`Reachable.invariants`) then show that after a failed `Get` the wait never
returns.

The sequence number of the refused request gets no response.  The reader only ever sends
responses carrying numbers it has taken, and the writer only passes a number by handling a
response carrying it.  So the writer stops at that number for good.
-/

namespace ValkeyClusterProxy

open Proto

namespace Session

variable {net : Network} {coalesceRsp : Command → List (Option Object) → Object}
  {s : Session} {plRsp : PipelineResponse}

/-- The drain loop moves the responses it handles from the heap to the handled ones. -/
theorem drainHeap_queues {result : Session × Option GoError} (heap : List PipelineResponse)
    (drained : drainHeap net coalesceRsp s heap = .ok result) :
    (result.1.reqWgDone ++ result.1.rspHeap).Perm (s.reqWgDone ++ heap) :=
  @drainHeap_induction net coalesceRsp (fun x rest => (x.reqWgDone ++ rest).Perm (s.reqWgDone ++ heap))
    (fun _ _ _ holds => holds)
    (fun _ _ _ _ holds _ handled => by
      beta_reduce
      rw [(handleResp_queues handled).1, List.append_assoc, List.singleton_append]
      exact holds)
    s heap _ (List.Perm.refl _) drained

/-- One call of `handleRespPipeline` takes one response, which ends up handled or parked. -/
theorem handleRespPipeline_queues {result : Session × Option GoError}
    (stepped : handleRespPipeline net coalesceRsp s plRsp = .ok result) :
    (result.1.reqWgDone ++ result.1.rspHeap).Perm (s.reqWgDone ++ s.rspHeap ++ [plRsp]) := by
  have arrived : (s.reqWgDone ++ [plRsp] ++ s.rspHeap).Perm (s.reqWgDone ++ s.rspHeap ++ [plRsp]) := by
    simpa only [List.append_assoc] using (@List.perm_append_comm _ [plRsp] s.rspHeap).append_left s.reqWgDone
  rcases handleRespPipeline_cases stepped with ⟨mid, handled, drained⟩ | ⟨mid, err, handled, rfl⟩ | rfl
  · obtain ⟨done, parked⟩ := handleResp_queues handled
    refine (drainHeap_queues _ drained).trans ?_
    rw [done, parked]
    exact arrived
  · obtain ⟨done, parked⟩ := handleResp_queues handled
    rw [done, parked]
    exact arrived
  · rw [List.append_assoc]
    exact ((perm_heapPush s.rspHeap plRsp).trans
      (@List.perm_append_comm _ [plRsp] s.rspHeap)).append_left s.reqWgDone

/-- Every response the writing loop takes is counted done or parked, exactly once. -/
theorem writingLoop_queues {s' : Session} (arrivals : List PipelineResponse)
    (ran : writingLoop net coalesceRsp s arrivals = .ok s') :
    (s'.reqWgDone ++ s'.rspHeap).Perm (s.reqWgDone ++ s.rspHeap ++ arrivals) := by
  have held := @writingLoop_induction net coalesceRsp
    (fun x later => (x.reqWgDone ++ x.rspHeap ++ later).Perm (s.reqWgDone ++ s.rspHeap ++ arrivals))
    (fun _ plRsp later _ holds stepped => by
      have taken := (handleRespPipeline_queues stepped).append_right later
      rw [List.append_assoc _ [plRsp] later, List.singleton_append] at taken
      exact taken.trans holds)
    (fun _ _ holds => holds) s s' arrivals (List.Perm.refl _) ran
  simpa using held

/-- `handleResp` handles the response whose turn it is, advances `rspSeq` by at most one,
and writes no more replies than it advances. -/
theorem handleResp_advance {result : Session × Option GoError}
    (handled : handleResp net coalesceRsp s plRsp = .ok result) :
    plRsp.ctx.seq = s.rspSeq ∧ s.rspSeq ≤ result.1.rspSeq ∧ result.1.rspSeq ≤ s.rspSeq + 1 ∧
      result.1.written.length + s.rspSeq ≤ s.written.length + result.1.rspSeq := by
  obtain ⟨turn, settled, -, rfl⟩ := handleResp_inv handled
  refine ⟨turn, ?_⟩
  have marked : s.rspSeq ≤ (s.markDone plRsp).rspSeq ∧ (s.markDone plRsp).rspSeq ≤ s.rspSeq + 1 := by
    rw [rspSeq_markDone]; split <;> omega
  rcases settled with err | obj
  · simp only [finishResp, written_markDone]; omega
  dsimp only [finishResp]
  split
  · simp only [written_markDone]; omega
  unfold writeResp writeClient
  split
  next mc parent =>
      have same : (s.markDone plRsp).rspSeq = s.rspSeq := by simp [rspSeq_markDone, parent]
      dsimp only
      split
      · split <;> simp only [written_markDone, List.length_append, List.length_singleton] <;> omega
      · simp only [written_markDone]; omega
  next plain =>
      have up : (s.markDone plRsp).rspSeq = s.rspSeq + 1 := by simp [rspSeq_markDone, plain]
      split <;> simp only [written_markDone, List.length_append, List.length_singleton] <;> omega

/-- The writer has not passed sequence number `q`, and has written no more replies than the
numbers it has passed. -/
def Behind (q : Nat) (s : Session) : Prop := s.written.length ≤ s.rspSeq ∧ s.rspSeq ≤ q

/-- Handling a response not of `q` keeps the writer behind `q`. -/
theorem Behind.handleResp {q : Nat} {result : Session × Option GoError} (behind : Behind q s)
    (notQ : plRsp.ctx.seq ≠ q) (handled : handleResp net coalesceRsp s plRsp = .ok result) :
    Behind q result.1 := by
  obtain ⟨turn, up, step, wrote⟩ := handleResp_advance handled
  unfold Behind at *
  omega

/-- The drain loop over responses none of which is of `q` keeps the writer behind `q`, with
no response of `q` parked. -/
theorem Behind.drainHeap {q : Nat} {result : Session × Option GoError}
    {heap : List PipelineResponse} (behind : Behind q s) (notQ : ∀ x ∈ heap, x.ctx.seq ≠ q)
    (drained : Session.drainHeap net coalesceRsp s heap = .ok result) :
    Behind q result.1 ∧ ∀ x ∈ result.1.rspHeap, x.ctx.seq ≠ q :=
  @drainHeap_induction net coalesceRsp (fun x rest => Behind q x ∧ ∀ y ∈ rest, y.ctx.seq ≠ q)
    (fun _ _ _ holds => holds)
    (fun x top rest _ ⟨behind, notQ⟩ _ handled =>
      ⟨(show Behind q { x with rspHeap := rest } from behind).handleResp
        (notQ top (List.mem_cons_self _ _)) handled,
        fun y member => notQ y (List.mem_cons_of_mem _ member)⟩)
    s heap _ ⟨behind, notQ⟩ drained

/-- One call of `handleRespPipeline` on a response not of `q` keeps the writer behind `q`. -/
theorem Behind.handleRespPipeline {q : Nat} {result : Session × Option GoError}
    (behind : Behind q s) (parked : ∀ x ∈ s.rspHeap, x.ctx.seq ≠ q) (notQ : plRsp.ctx.seq ≠ q)
    (stepped : Session.handleRespPipeline net coalesceRsp s plRsp = .ok result) :
    Behind q result.1 ∧ ∀ x ∈ result.1.rspHeap, x.ctx.seq ≠ q := by
  rcases handleRespPipeline_cases stepped with ⟨mid, handled, drained⟩ | ⟨mid, err, handled, rfl⟩ | rfl
  · exact (behind.handleResp notQ handled).drainHeap ((handleResp_queues handled).2 ▸ parked) drained
  · exact ⟨behind.handleResp notQ handled, (handleResp_queues handled).2 ▸ parked⟩
  · refine ⟨behind, fun x member => ?_⟩
    rcases List.mem_cons.mp ((perm_heapPush s.rspHeap plRsp).subset member) with rfl | old
    · exact notQ
    · exact parked x old

/-- A writing loop over responses none of which is of `q` never passes `q`, and writes no
more replies than the numbers it passed. -/
theorem Behind.writingLoop {q : Nat} {s' : Session} {arrivals : List PipelineResponse}
    (behind : Behind q s) (parked : ∀ x ∈ s.rspHeap, x.ctx.seq ≠ q)
    (notQ : ∀ x ∈ arrivals, x.ctx.seq ≠ q)
    (ran : Session.writingLoop net coalesceRsp s arrivals = .ok s') : Behind q s' :=
  (@writingLoop_induction net coalesceRsp
    (fun x later => Behind q x ∧ (∀ y ∈ x.rspHeap, y.ctx.seq ≠ q) ∧ ∀ y ∈ later, y.ctx.seq ≠ q)
    (fun _ plRsp _ _ ⟨behind, parked, notQ⟩ stepped =>
      have ⟨behind', parked'⟩ :=
        behind.handleRespPipeline parked (notQ plRsp (List.mem_cons_self _ _)) stepped
      ⟨behind', parked', fun y member => notQ y (List.mem_cons_of_mem _ member)⟩)
    (fun _ _ holds => holds) s s' arrivals ⟨behind, parked, notQ⟩ ran).1

variable {env : Env}

/-- From `s` to `s'` the reader only moved `reqSeq` forward, and every response it sent
carries a sequence number from `lo` on that it had taken. -/
def Fresh (lo : Nat) (s s' : Session) : Prop :=
  s.reqSeq ≤ s'.reqSeq ∧
    ∃ sent, s'.backQ = s.backQ ++ sent ∧ ∀ y ∈ sent, lo ≤ y.ctx.seq ∧ y.ctx.seq < s'.reqSeq

section Fresh

variable {lo : Nat} {s' s'' : Session}

theorem Fresh.trans (first : Fresh lo s s') (second : Fresh lo s' s'') : Fresh lo s s'' := by
  obtain ⟨forward, sent, appended, bounds⟩ := first
  obtain ⟨forward', sent', appended', bounds'⟩ := second
  refine ⟨forward.trans forward', sent ++ sent', by rw [appended', appended, List.append_assoc],
    fun y member => ?_⟩
  rcases List.mem_append.mp member with early | late
  · exact ⟨(bounds y early).1, lt_of_lt_of_le (bounds y early).2 forward'⟩
  · exact bounds' y late

theorem Fresh.mono {lo' : Nat} (fresh : Fresh lo s s') (le : lo' ≤ lo) : Fresh lo' s s' :=
  let ⟨forward, sent, appended, bounds⟩ := fresh
  ⟨forward, sent, appended, fun y member => ⟨le.trans (bounds y member).1, (bounds y member).2⟩⟩

theorem fresh_of_backQ_eq (forward : s.reqSeq ≤ s'.reqSeq) (same : s'.backQ = s.backQ) :
    Fresh lo s s' :=
  ⟨forward, [], by rw [same, List.append_nil], nofun⟩

/-- Answering at the next sequence number. -/
theorem fresh_of_answer {reply : Data} (low : lo ≤ s.reqSeq) (numbered : s'.reqSeq = s.reqSeq + 1)
    (sent : s'.backQ = s.backQ ++ [⟨.ofSeq s.reqSeq, .ok reply⟩]) : Fresh lo s s' :=
  ⟨by omega, _, sent, fun y member => by
    rw [List.mem_singleton.mp member]
    exact ⟨low, by rw [numbered]; exact Nat.lt_succ_self _⟩⟩

/-- `Schedule` of a request already numbered sends responses to it, and error replies at
fresh numbers. -/
theorem fresh_schedule {x : Session} {req : PipelineRequest} (low : lo ≤ req.seq)
    (taken : req.seq < x.reqSeq) : Fresh lo x (x.schedule env req) := by
  unfold schedule
  dsimp only
  split
  · exact fresh_of_answer (by omega) rfl rfl
  next connected io leased =>
      have contract := @BackendServer.request_contract ⟨[], env.serverOf req, connected⟩ req io rfl
      revert contract
      rcases BackendServer.request ⟨[], env.serverOf req, connected⟩ req io with
        ⟨after, delivered, err | rsp⟩
      · rintro ⟨-, failed, rfl, -⟩
        refine ⟨Nat.le_succ _, _, List.append_assoc _ _ _, fun y member => ?_⟩
        rcases List.mem_append.mp member with toReq | reply
        · rw [List.mem_singleton.mp toReq]
          exact ⟨low, Nat.lt_succ_of_lt taken⟩
        · rw [List.mem_singleton.mp reply]
          exact ⟨(by omega : lo ≤ x.reqSeq), Nat.lt_succ_self _⟩
      · rintro ⟨-, rfl, answered, -⟩
        refine ⟨le_refl _, [rsp], by simp, fun y member => ?_⟩
        rw [List.mem_singleton.mp member, answered]
        exact ⟨low, taken⟩

theorem fresh_scheduleSubCmd {mc : MultiCmd} {n i q : Nat} {subReq : Command → PipelineRequest}
    {x x' : Session} (scheduled : scheduleSubCmd env mc n i subReq x = .ok x')
    (taken : q < x.reqSeq) (atSeq : ∀ subCmd, (subReq subCmd).seq = q) : Fresh q x x' := by
  unfold scheduleSubCmd at scheduled
  split at scheduled
  · cases scheduled
  · cases scheduled
    rename_i subCmd _
    exact @fresh_schedule env q { x with reqWgAdded := x.reqWgAdded + 1 } (subReq subCmd)
      (atSeq subCmd).ge (by rw [atSeq]; exact taken)

/-- A scatter loop whose every iteration is fresh from `q` is fresh from `q`. -/
theorem fresh_scatter {α : Type} {q : Nat} {f : Session → α → Except Abort Session}
    {items : List α} {x y : Session} (scattered : items.foldlM f x = .ok y)
    (taken : q < x.reqSeq) (each : ∀ z a z', f z a = .ok z' → q < z.reqSeq → Fresh q z z') :
    Fresh q x y :=
  (@foldlM_inv α (fun z => Fresh q x z ∧ q < z.reqSeq) f
    (fun z a z' stepped ⟨fresh, below⟩ =>
      have next := each z a z' stepped below
      ⟨fresh.trans next, lt_of_lt_of_le below next.1⟩)
    items x y scattered ⟨fresh_of_backQ_eq le_rfl rfl, taken⟩).1

theorem fresh_handleReadAll {cmd : Command} (scattered : s.handleReadAll env cmd = .ok s') :
    Fresh s.reqSeq s s' :=
  have bump : Fresh s.reqSeq s { s with reqSeq := s.reqSeq + 1 } :=
    fresh_of_backQ_eq (Nat.le_succ _) rfl
  bump.trans (fresh_scatter scattered (Nat.lt_succ_self _)
    fun _ ⟨_, _⟩ _ stepped below => fresh_scheduleSubCmd stepped below fun _ => rfl)

theorem fresh_handleMultiKeyCmd {cmd : Command} {numKeys : Nat}
    (scattered : s.handleMultiKeyCmd env cmd numKeys = .ok s') : Fresh s.reqSeq s s' :=
  have bump : Fresh s.reqSeq s { s with reqSeq := s.reqSeq + 1 } :=
    fresh_of_backQ_eq (Nat.le_succ _) rfl
  bump.trans (fresh_scatter scattered (Nat.lt_succ_self _)
    fun _ _ _ stepped below => fresh_scheduleSubCmd stepped below fun _ => rfl)

theorem fresh_handleGeneralCmd (cmd : Command) : Fresh s.reqSeq s (s.handleGeneralCmd env cmd) :=
  have bump : Fresh s.reqSeq s { s with reqSeq := s.reqSeq + 1, reqWgAdded := s.reqWgAdded + 1 } :=
    fresh_of_backQ_eq (Nat.le_succ _) rfl
  bump.trans (fresh_schedule le_rfl (Nat.lt_succ_self _))

theorem fresh_handleAuthCmd (cmd : Command) : Fresh s.reqSeq s (s.handleAuthCmd env cmd) := by
  unfold handleAuthCmd
  split
  · split <;> exact fresh_of_answer le_rfl rfl rfl
  · exact fresh_of_answer le_rfl rfl rfl

/-- Every response `handle` sends carries a sequence number the call took. -/
theorem fresh_handle {cmd : Command} (handled : s.handle env cmd = .ok s') : Fresh s.reqSeq s s' := by
  rcases handle_eq_cases cmd with
    ⟨reply, eq⟩ | ⟨entered, eq⟩ | ⟨-, -, eq⟩ | ⟨-, eq⟩ | ⟨-, ⟨numKeys, -, eq⟩ | eq⟩ <;> rw [eq] at handled
  · cases handled
    exact fresh_of_answer le_rfl rfl rfl
  · obtain ⟨-, numbered, -, reply, sent⟩ := handleMultiCmd_answers entered handled
    exact fresh_of_answer le_rfl numbered sent
  · cases handled
    exact fresh_handleAuthCmd cmd
  · exact fresh_handleReadAll handled
  · exact fresh_handleMultiKeyCmd handled
  · cases handled
    exact fresh_handleGeneralCmd cmd

theorem fresh_readingLoop {cmds : List Command} (ran : s.readingLoop env cmds = .ok s') :
    Fresh s.reqSeq s s' := by
  induction cmds generalizing s with
  | nil => cases ran; exact fresh_of_backQ_eq le_rfl rfl
  | cons cmd cmds ih =>
      rcases handled : s.handle env cmd with abort | mid
      all_goals rw [readingLoop, handled] at ran
      · cases ran
      · have first := fresh_handle handled
        exact first.trans ((ih ran).mono first.1)

end Fresh

/-- A single-key command whose `Get` is refused: its own sequence number gets no response,
and the error reply takes the next one. -/
theorem handleGeneralCmd_of_refused {cmd : Command} {err : GoError}
    (refused : env.lease s.scheduled.length (env.serverOf
      ⟨some cmd, env.cmdReadOnly cmd, env.key2Slot (cmd.value 1), s.reqSeq, 0, none⟩) = .error err) :
    (s.handleGeneralCmd env cmd).reqSeq = s.reqSeq + 2 ∧
      (s.handleGeneralCmd env cmd).backQ =
        s.backQ ++ [⟨.ofSeq (s.reqSeq + 1), .ok (.error ("ERR ".toList ++ err.text))⟩] := by
  unfold handleGeneralCmd schedule
  dsimp only
  rw [refused]
  exact ⟨rfl, rfl⟩

/-- A refused `Get` stalls the pipeline for good.  Take a single-key command read when `q`
sequence numbers were taken, whose `Get` the pool refuses.  Then whatever commands follow,
and whichever responses of `backQ` reach the writer in whatever order, `rspSeq` never passes
`q` and at most `q` replies are written.  The reply of that command, and of every later one,
never reaches the client. -/
theorem readingLoop_get_error_stalls {pre post : List Command} {cmd : Command} {err : GoError}
    {s s' w : Session} (before : Session.init.readingLoop env pre = .ok s)
    (general : s.handle env cmd = .ok (s.handleGeneralCmd env cmd))
    (refused : env.lease s.scheduled.length (env.serverOf
      ⟨some cmd, env.cmdReadOnly cmd, env.key2Slot (cmd.value 1), s.reqSeq, 0, none⟩) = .error err)
    (ran : Session.init.readingLoop env (pre ++ cmd :: post) = .ok s')
    (net : Network) (coalesceRsp : Command → List (Option Object) → Object)
    {order : List PipelineResponse} (taken : order.Subperm s'.backQ)
    (wrote : writingLoop net coalesceRsp Session.init order = .ok w) :
    w.rspSeq ≤ s.reqSeq ∧ w.written.length ≤ s.reqSeq := by
  obtain ⟨numbered, sent⟩ := handleGeneralCmd_of_refused refused
  have rest : (s.handleGeneralCmd env cmd).readingLoop env post = .ok s' := by
    rw [readingLoop_append, before] at ran
    change s.readingLoop env (cmd :: post) = .ok s' at ran
    rw [readingLoop, general] at ran
    exact ran
  obtain ⟨-, earlySent, earlyEq, earlyBounds⟩ := fresh_readingLoop before
  obtain ⟨-, lateSent, lateEq, lateBounds⟩ := fresh_readingLoop rest
  have noQ : ∀ y ∈ s'.backQ, y.ctx.seq ≠ s.reqSeq := by
    intro y member
    rw [lateEq, sent, earlyEq, List.mem_append, List.mem_append] at member
    rcases member with (early | error) | late
    · have := (earlyBounds y (by simpa [Session.init] using early)).2
      omega
    · rw [List.mem_singleton.mp error]
      exact Nat.succ_ne_self _
    · have := (lateBounds y late).1
      omega
  have behind : Behind s.reqSeq w :=
    (show Behind s.reqSeq Session.init from ⟨le_refl _, Nat.zero_le _⟩).writingLoop nofun
      (fun y member => noQ y (taken.subset member)) wrote
  exact ⟨behind.2, behind.1.trans behind.2⟩

theorem readingLoop_get_error_stalls_poolDown :
    ∃ s' w, Session.init.readingLoop poolDown
        [⟨"GET".toList, ["k".toList]⟩, ⟨"GET".toList, ["j".toList]⟩] = .ok s' ∧
      writingLoop Network.refused (fun _ _ => .nullArray)
        Session.init s'.backQ = .ok w ∧ w.rspSeq ≤ 0 ∧ w.written.length ≤ 0 :=
  ⟨_, _, rfl, rfl,
    @readingLoop_get_error_stalls poolDown [] [⟨"GET".toList, ["j".toList]⟩]
      ⟨"GET".toList, ["k".toList]⟩ _ Session.init _ _ rfl rfl rfl rfl
      Network.refused (fun _ _ => .nullArray) _ (List.Subperm.refl _)
      rfl⟩

/-- After a reader run in which some `backendServerPool.Get` failed, `reqWg.Wait()` never
returns: whatever responses of `backQ` the writer takes, each at most once, it has called
`wg.Done()` fewer times than the reader called `reqWg.Add(1)`. -/
theorem readingLoop_reqWg_never_drains {cmds : List Command} {s w : Session}
    (ran : Session.init.readingLoop env cmds = .ok s) (failed : 0 < env.failedGets s.scheduled)
    (net : Network) (coalesceRsp : Command → List (Option Object) → Object)
    {order : List PipelineResponse} (taken : order.Subperm s.backQ)
    (wrote : writingLoop net coalesceRsp Session.init order = .ok w) :
    w.reqWgDone.length < s.reqWgAdded := by
  have balanced : s.reqWgAdded = s.backQ.length + env.failedGets s.scheduled :=
    (Reachable.init.of_readingLoop ran).invariants.2
  have counted : w.reqWgDone.length + w.rspHeap.length = order.length := by
    simpa [Session.init] using (writingLoop_queues order wrote).length_eq
  have := taken.length_le
  omega

theorem readingLoop_reqWg_never_drains_poolDown :
    ∃ s w, Session.init.readingLoop poolDown [⟨"GET".toList, ["k".toList]⟩] = .ok s ∧
      0 < poolDown.failedGets s.scheduled ∧
      writingLoop Network.refused (fun _ _ => .nullArray)
        Session.init s.backQ = .ok w ∧ w.reqWgDone.length < s.reqWgAdded :=
  ⟨_, _, rfl, by decide, rfl,
    @readingLoop_reqWg_never_drains poolDown [⟨"GET".toList, ["k".toList]⟩] _ _ rfl (by decide)
      Network.refused (fun _ _ => .nullArray) _ (List.Subperm.refl _)
      rfl⟩

end Session

end ValkeyClusterProxy
