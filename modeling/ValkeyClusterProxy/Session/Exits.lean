import ValkeyClusterProxy.Session.GetFailure

/-!
# How a session can stop the proxy

A Go panic or a `glog.Fatalf` in either goroutine of a session ends the whole process, and
with it every other session.  This module says which of them a session can reach.

The reader panics only in `panic(err)` after a failed `SubCmd`: the nil dereference of
`handleMultiCmd` needs a command to queue while no transaction is open, which `handle` never
lets through, and every other handler returns.  So with a `SubCmd` that builds every
sub-command, `ReadingLoop` returns on every list of commands
(`readingLoop_panics_only_in_subCmd`).

The writer stops the process only on a response whose reply is a MOVED or ASK error: by
`glog.Fatalf` when `ParseRedirectInfo` cannot read it, and by the nil dereference of
`redirect` when the response answers no command, as a locally answered one does, and the
connection to the endpoint named was set up.  Its
`panic("impossible")` is dead code, since `handleRespPipeline` and the heap drain hand
`handleResp` only the response whose turn it is (`writingLoop_exits_only_on_redirect`).

Between the two, the wait group `reqWg` never goes negative, which would panic in `Done`:
the writer calls `wg.Done()` once for each response it handles, and it handles only
responses the reader sent, each at most once, after their `reqWg.Add(1)`
(`reqWg_never_negative`).
-/

namespace ValkeyClusterProxy

open Proto

/-- The panic of a failed `SubCmd`: `mc.SubCmd(i, n)` returned `err` for some `i < n`, and the
reader called `panic(err)`. -/
def Env.SubCmdPanic (env : Env) (abort : Abort) : Prop :=
  ∃ mc n i err, i < n ∧ env.subCmd mc i n = .error err ∧ abort = .panic err.text

/-- How a response stops the writer: its reply is a MOVED or ASK error, and either
`ParseRedirectInfo` cannot read it, or it answers no command, so that `redirect`, once the
connection to the endpoint named is set up (and `ASK_CMD_BYTES` written, for an ASK), formats
a nil command. -/
def RedirectExit (net : Network) (plRsp : PipelineResponse) (abort : Abort) : Prop :=
  ∃ obj, plRsp.rsp = .ok obj ∧
    ("-MOVED".toList.isPrefixOf obj.raw ∨ "-ASK".toList.isPrefixOf obj.raw) ∧
    (parseRedirectInfo obj.raw = none ∧
        abort = .fatal ("invalid redirect message: ".toList ++ obj.raw) ∨
      ∃ slot server, parseRedirectInfo obj.raw = some (slot, server) ∧
        (net.node server plRsp).prepare (!"-MOVED".toList.isPrefixOf obj.raw) = none ∧
        plRsp.ctx.cmd = none ∧ abort = .nilDereference)

namespace Session

section Reader

variable {env : Env} {s s' : Session} {cmd : Command} {abort : Abort}

/-- A loop of `foldlM` stops the process only where one of its iterations does. -/
theorem foldlM_abort {α : Type} {Q : Abort → Prop} {f : Session → α → Except Abort Session}
    {l : List α} (step : ∀ x a abort, a ∈ l → f x a = .error abort → Q abort) :
    ∀ {s : Session}, l.foldlM f s = .error abort → Q abort := by
  induction l with
  | nil => intro s ran; cases ran
  | cons a l ih =>
      intro s ran
      rw [List.foldlM_cons] at ran
      rcases stepped : f s a with stop | mid
      all_goals rw [stepped] at ran
      · cases ran
        exact step s a _ (List.mem_cons_self a l) stepped
      · exact ih (fun x b abort member => step x b abort (List.mem_cons_of_mem a member)) ran

/-- One iteration of a scatter loop stops the process only by the panic of its `SubCmd`. -/
theorem scheduleSubCmd_abort {mc : MultiCmd} {n i : Nat} {subReq : Command → PipelineRequest}
    (inRange : i < n) (aborted : scheduleSubCmd env mc n i subReq s = .error abort) :
    env.SubCmdPanic abort := by
  unfold scheduleSubCmd at aborted
  split at aborted
  next err failed =>
      cases aborted
      exact ⟨mc, n, i, err, inRange, failed, rfl⟩
  · cases aborted

theorem handleReadAll_abort (aborted : s.handleReadAll env cmd = .error abort) :
    env.SubCmdPanic abort :=
  foldlM_abort (fun _ _ _ member stepped =>
    scheduleSubCmd_abort (List.fst_lt_of_mem_enum member) stepped) aborted

theorem handleMultiKeyCmd_abort {numKeys : Nat}
    (aborted : s.handleMultiKeyCmd env cmd numKeys = .error abort) : env.SubCmdPanic abort :=
  foldlM_abort (fun _ _ _ member stepped =>
    scheduleSubCmd_abort (List.mem_range.mp member) stepped) aborted

/-- One `handle` call stops the process only by the panic of a `SubCmd`. -/
theorem handle_abort (aborted : s.handle env cmd = .error abort) : env.SubCmdPanic abort := by
  rcases handle_eq_cases cmd with ⟨reply, eq⟩ | ⟨entered, eq⟩ | ⟨-, -, eq⟩ | ⟨-, eq⟩ |
      ⟨-, ⟨numKeys, -, eq⟩ | eq⟩ <;> rw [eq] at aborted
  · cases aborted
  · obtain ⟨s', returned⟩ := @handleMultiCmd_ok env s cmd entered
    rw [returned] at aborted
    cases aborted
  · cases aborted
  · exact handleReadAll_abort aborted
  · exact handleMultiKeyCmd_abort aborted
  · cases aborted

theorem readingLoop_abort {cmds : List Command} (aborted : s.readingLoop env cmds = .error abort) :
    env.SubCmdPanic abort := by
  induction cmds generalizing s with
  | nil => cases aborted
  | cons cmd cmds ih =>
      rcases handled : s.handle env cmd with stop | mid
      all_goals rw [readingLoop, handled] at aborted
      · cases aborted
        exact handle_abort handled
      · exact ih aborted

/-- The reader never stops the process but by `panic(err)` after a failed `SubCmd`: from every
session and for every list of commands, however the pool, the backends and `EXEC` behave,
each abort of `ReadingLoop` is that panic, and when `SubCmd` builds every sub-command the
reader returns. -/
theorem readingLoop_panics_only_in_subCmd (s : Session) (cmds : List Command) :
    (∀ abort, s.readingLoop env cmds = .error abort → env.SubCmdPanic abort) ∧
      ((∀ mc n i, i < n → ∃ subCmd, env.subCmd mc i n = .ok subCmd) →
        ∃ s', s.readingLoop env cmds = .ok s') := by
  refine ⟨fun _ => readingLoop_abort, fun built => ?_⟩
  rcases ran : s.readingLoop env cmds with abort | s'
  · obtain ⟨mc, n, i, err, inRange, failed, -⟩ := readingLoop_abort ran
    obtain ⟨subCmd, builds⟩ := built mc n i inRange
    cases failed.symm.trans builds
  · exact ⟨s', rfl⟩

theorem readingLoop_panics_only_in_subCmd_poolDown :
    ∃ s', Session.init.readingLoop poolDown
      [⟨"MULTI".toList, []⟩, ⟨"GET".toList, ["k".toList]⟩, ⟨"BOGUS".toList, []⟩,
        ⟨"EXEC".toList, []⟩] = .ok s' :=
  (readingLoop_panics_only_in_subCmd Session.init _).2 fun _ _ _ _ => ⟨_, rfl⟩

end Reader

section Writer

variable {net : Network} {coalesceRsp : Command → List (Option Object) → Object}
  {s : Session} {plRsp : PipelineResponse} {abort : Abort}

/-- The redirection branch stops the process on an unreadable redirection, or on a nil
command once the connection is set up. -/
theorem followRedirect_abort {raw : Bytes} {ask : Bool}
    (aborted : net.followRedirect plRsp raw ask = .error abort) :
    parseRedirectInfo raw = none ∧ abort = .fatal ("invalid redirect message: ".toList ++ raw) ∨
      ∃ slot server, parseRedirectInfo raw = some (slot, server) ∧
        (net.node server plRsp).prepare ask = none ∧ plRsp.ctx.cmd = none ∧
        abort = .nilDereference := by
  unfold Network.followRedirect at aborted
  split at aborted
  next unreadable =>
      cases aborted
      exact .inl ⟨unreadable, rfl⟩
  next slot server read =>
      unfold Network.redirect at aborted
      split at aborted
      · cases aborted
      next prepared =>
          split at aborted
          next noCmd =>
              cases aborted
              exact .inr ⟨slot, server, read, prepared, noCmd, rfl⟩
          · cases aborted

/-- What `handleResp` makes of a response stops the process only on a MOVED or ASK reply. -/
theorem redirectExit_of_redirectedRsp (aborted : net.redirectedRsp plRsp = .error abort) :
    RedirectExit net plRsp abort := by
  unfold Network.redirectedRsp at aborted
  split at aborted
  · cases aborted
  next obj replied =>
      by_cases minus : obj.raw.head? = some '-'
      · rw [if_pos minus] at aborted
        by_cases moved : "-MOVED".toList.isPrefixOf obj.raw = true
        · rw [if_pos moved] at aborted
          refine ⟨obj, replied, .inl moved, ?_⟩
          rw [moved, Bool.not_true]
          exact followRedirect_abort aborted
        rw [if_neg moved] at aborted
        by_cases asked : "-ASK".toList.isPrefixOf obj.raw = true
        · rw [if_pos asked] at aborted
          refine ⟨obj, replied, .inr asked, ?_⟩
          rw [Bool.eq_false_iff.mpr moved, Bool.not_false]
          exact followRedirect_abort aborted
        rw [if_neg asked] at aborted
        cases aborted
      · rw [if_neg minus] at aborted
        cases aborted

/-- At its turn, `handleResp` stops the process only where the redirection does. -/
theorem redirectedRsp_of_handleResp (turn : plRsp.ctx.seq = s.rspSeq)
    (aborted : handleResp net coalesceRsp s plRsp = .error abort) :
    net.redirectedRsp plRsp = .error abort := by
  rw [handleResp_of_turn turn] at aborted
  cases redirected : net.redirectedRsp plRsp
  all_goals rw [redirected] at aborted; cases aborted
  rfl

/-- The drain loop stops the process only on the redirection of a response it pops. -/
theorem drainHeap_abort {heap : List PipelineResponse}
    (aborted : drainHeap net coalesceRsp s heap = .error abort) :
    ∃ x ∈ heap, net.redirectedRsp x = .error abort := by
  induction heap generalizing s with
  | nil => cases aborted
  | cons top rest ih =>
      unfold drainHeap at aborted
      split at aborted
      next turn =>
          rcases handled : handleResp net coalesceRsp { s with rspHeap := rest } top with
            stop | ⟨mid, _ | err⟩
          all_goals rw [handled] at aborted; dsimp only at aborted
          · cases aborted
            exact ⟨top, List.mem_cons_self top rest,
              @redirectedRsp_of_handleResp net coalesceRsp { s with rspHeap := rest } top _ turn handled⟩
          · obtain ⟨x, member, redirected⟩ := ih aborted
            exact ⟨x, List.mem_cons_of_mem top member, redirected⟩
          · cases aborted
      · cases aborted

/-- What is left in the heap after the drain loop was in it before. -/
theorem rspHeap_drainHeap_subset {heap : List PipelineResponse} {result : Session × Option GoError}
    (drained : drainHeap net coalesceRsp s heap = .ok result) : result.1.rspHeap ⊆ heap :=
  @drainHeap_induction net coalesceRsp (fun _ rest => rest ⊆ heap) (fun _ _ _ kept => kept)
    (fun _ top rest _ kept _ _ => (List.subset_cons_self top rest).trans kept) s heap result
    (List.Subset.refl heap) drained

/-- `handleRespPipeline` stops the process only on the redirection of the response it is
given or of a parked one. -/
theorem handleRespPipeline_abort
    (aborted : handleRespPipeline net coalesceRsp s plRsp = .error abort) :
    ∃ x ∈ plRsp :: s.rspHeap, net.redirectedRsp x = .error abort := by
  unfold handleRespPipeline at aborted
  split at aborted
  next turn =>
      rcases handled : handleResp net coalesceRsp s plRsp with stop | ⟨mid, _ | err⟩
      all_goals rw [handled] at aborted; dsimp only at aborted
      · cases aborted
        exact ⟨plRsp, List.mem_cons_self _ _, redirectedRsp_of_handleResp turn handled⟩
      · obtain ⟨x, member, redirected⟩ := drainHeap_abort aborted
        rw [(handleResp_queues handled).2] at member
        exact ⟨x, List.mem_cons_of_mem _ member, redirected⟩
      · cases aborted
  · cases aborted

/-- After one `handleRespPipeline` call the heap holds only responses that were parked
before or the one just given. -/
theorem rspHeap_handleRespPipeline_subset {result : Session × Option GoError}
    (stepped : handleRespPipeline net coalesceRsp s plRsp = .ok result) :
    result.1.rspHeap ⊆ plRsp :: s.rspHeap := by
  rcases handleRespPipeline_cases stepped with ⟨mid, handled, drained⟩ |
    ⟨mid, err, handled, rfl⟩ | rfl
  · have kept := rspHeap_drainHeap_subset drained
    rw [(handleResp_queues handled).2] at kept
    exact kept.trans (List.subset_cons_self _ _)
  · rw [(handleResp_queues handled).2]
    exact List.subset_cons_self _ _
  · exact (perm_heapPush s.rspHeap plRsp).subset

/-- A response parked after one `handleRespPipeline` call, or arriving after it, was parked
before, given to the call, or arrives after it. -/
theorem mem_of_handleRespPipeline {result : Session × Option GoError}
    {later : List PipelineResponse} {x : PipelineResponse}
    (stepped : handleRespPipeline net coalesceRsp s plRsp = .ok result)
    (member : x ∈ result.1.rspHeap ++ later) : x ∈ s.rspHeap ++ plRsp :: later := by
  rcases List.mem_append.mp member with parked | arrived
  · rcases List.mem_cons.mp (rspHeap_handleRespPipeline_subset stepped parked) with rfl | before
    · exact List.mem_append_right _ (List.mem_cons_self _ _)
    · exact List.mem_append_left _ before
  · exact List.mem_append_right _ (List.mem_cons_of_mem _ arrived)

/-- The writing loop stops the process only on the redirection of a response that was
parked when it started or that it took from `backQ`. -/
theorem writingLoop_abort {arrivals : List PipelineResponse}
    (aborted : writingLoop net coalesceRsp s arrivals = .error abort) :
    ∃ x ∈ s.rspHeap ++ arrivals, net.redirectedRsp x = .error abort := by
  induction arrivals generalizing s with
  | nil => cases aborted
  | cons plRsp later ih =>
      unfold writingLoop at aborted
      split at aborted
      next stop stepped =>
          cases aborted
          obtain ⟨x, member, redirected⟩ := handleRespPipeline_abort stepped
          refine ⟨x, ?_, redirected⟩
          rcases List.mem_cons.mp member with rfl | parked
          · exact List.mem_append_right _ (List.mem_cons_self _ _)
          · exact List.mem_append_left _ parked
      all_goals
        rename_i stepped
        obtain ⟨x, member, redirected⟩ := ih aborted
        exact ⟨x, mem_of_handleRespPipeline stepped member, redirected⟩

/-- The writer stops the process only on a MOVED or ASK reply: from every session, for every
order of arrivals and every behaviour of the redirection targets and of the client, each
abort of `WritingLoop` comes from a response parked when it started or taken from `backQ`
whose reply is a MOVED or ASK error, which `ParseRedirectInfo` cannot read (`glog.Fatalf`)
or which answers no command while the connection to the endpoint named was set up (the nil
dereference of `redirect`); `panic("impossible")` is never reached. -/
theorem writingLoop_exits_only_on_redirect (s : Session) (arrivals : List PipelineResponse)
    (aborted : writingLoop net coalesceRsp s arrivals = .error abort) :
    ∃ plRsp ∈ s.rspHeap ++ arrivals, RedirectExit net plRsp abort := by
  obtain ⟨plRsp, member, redirected⟩ := writingLoop_abort aborted
  exact ⟨plRsp, member, redirectExit_of_redirectedRsp redirected⟩

/-- A backend reply `-MOVED 1234`, which names no endpoint. -/
def truncatedMoved : PipelineResponse :=
  ⟨⟨some ⟨"GET".toList, ["k".toList]⟩, true, 0, 0, 0, none⟩, .ok (.error "MOVED 1234".toList)⟩

theorem writingLoop_exits_only_on_redirect_truncated :
    writingLoop Network.refused (fun _ _ => .nullArray) Session.init
        [truncatedMoved] = .error (.fatal ("invalid redirect message: -MOVED 1234".toList ++ crlf)) ∧
      ∃ plRsp ∈ Session.init.rspHeap ++ [truncatedMoved],
        RedirectExit Network.refused plRsp (.fatal ("invalid redirect message: -MOVED 1234".toList ++ crlf)) :=
  ⟨rfl, @writingLoop_exits_only_on_redirect Network.refused
    (fun _ _ => .nullArray) _ Session.init [truncatedMoved] rfl⟩

end Writer

variable {env : Env}

/-- The wait group of a session never goes negative, so `Done` never panics with
`sync: negative WaitGroup counter`: for every reader run from a new session, whatever the
commands and however the pool, the backends and `EXEC` behave, and every writer run over
responses of `backQ`, each taken at most once, the writer has called `wg.Done()` only for
responses the reader sent, once each, and no more often than the reader called
`reqWg.Add(1)`. -/
theorem reqWg_never_negative {cmds : List Command} {s w : Session}
    (ran : Session.init.readingLoop env cmds = .ok s) (net : Network)
    (coalesceRsp : Command → List (Option Object) → Object) {order : List PipelineResponse}
    (taken : order.Subperm s.backQ) (wrote : writingLoop net coalesceRsp Session.init order = .ok w) :
    w.reqWgDone.Subperm s.backQ ∧ w.reqWgDone.length ≤ s.reqWgAdded := by
  have balanced : s.reqWgAdded = s.backQ.length + env.failedGets s.scheduled :=
    (Reachable.init.of_readingLoop ran).invariants.2
  have queued : (w.reqWgDone ++ w.rspHeap).Perm order := by
    simpa [Session.init] using writingLoop_queues order wrote
  have done : w.reqWgDone.Subperm s.backQ :=
    ((List.sublist_append_left _ _).subperm.trans queued.subperm).trans taken
  exact ⟨done, done.length_le.trans (by omega)⟩

theorem reqWg_never_negative_poolDown :
    ∃ s w, Session.init.readingLoop poolDown [⟨"GET".toList, ["k".toList]⟩] = .ok s ∧
      writingLoop Network.refused (fun _ _ => .nullArray)
        Session.init s.backQ = .ok w ∧
      w.reqWgDone.Subperm s.backQ ∧ w.reqWgDone.length ≤ s.reqWgAdded :=
  ⟨_, _, rfl, rfl,
    @reqWg_never_negative poolDown [⟨"GET".toList, ["k".toList]⟩] _ _ rfl
      Network.refused (fun _ _ => .nullArray) _ (List.Subperm.refl _)
      rfl⟩

end Session

end ValkeyClusterProxy
