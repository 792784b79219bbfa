import ValkeyClusterProxy.Session.Basic
import ValkeyClusterProxy.Go.Strings

/-!
# The writing goroutine

`WritingLoop` takes the responses of `backQ` one at a time.  `handleRespPipeline` parks a
response whose `seq` is not the next one expected (`rspSeq`) in the heap; otherwise it
handles it with `handleResp` and then drains every parked response that has become
next.  `handleResp` counts the response done, advances `rspSeq` for a plain request,
follows a MOVED or ASK redirection, and writes the reply, or hands a sub-response to its
coordinator, which writes the merged reply and advances `rspSeq` once all its
sub-responses are in.

The collaborators are arguments: `Network` says how the node a redirection dials behaves
on that connection and whether a write to the client fails, and `coalesceRsp` is the
coordinator's `CoalesceRsp`, whose code is not among the sources.  `redirect` itself is
modelled step by step: `Conn`, the write of `ASK_CMD_BYTES` for an ASK, the formatted
command (where a request without a command dereferences nil), and the reads.
-/

namespace ValkeyClusterProxy

open Proto

/-- `ParseRedirectInfo`: the slot and the server of a MOVED or ASK error; `none` where the
source calls `glog.Fatalf`. -/
def parseRedirectInfo (msg : Bytes) : Option (Int × Endpoint) :=
  match Go.fields msg with
  | [_, slot, server] => (Go.atoi slot).map fun slot => (slot, server)
  | _ => none

/-- `ASK_CMD_BYTES`, which `redirect` writes ahead of the command for an ASK. -/
def askCmdBytes : Bytes := "+ASKING".toList ++ crlf

/-- The frames `redirect` writes on its connection, in order: `ASK_CMD_BYTES` for an ASK,
then the formatted command. -/
def redirectFrames (ask : Bool) (cmd : Command) : List Bytes :=
  (if ask then [askCmdBytes] else []) ++ [cmd.format]

/-- How the node an endpoint names behaves on the connection `redirect` dials to it: whether
`Conn` fails (the dial, or the `AUTH` or `READONLY` of `postConnect`), whether the write of
the last of `frames` fails once those before it are written, and the `i`-th reply read once
`frames` are written. -/
structure RedirectConn where
  conn : Option GoError
  send : List Bytes → Option GoError
  recv : List Bytes → Nat → Except GoError Object

namespace RedirectConn

/-- The steps of `redirect` before it formats the command: `Conn`, then for an ASK the write
of `ASK_CMD_BYTES`. -/
def prepare (node : RedirectConn) (ask : Bool) : Option GoError :=
  match node.conn with
  | some err => some err
  | none => if ask then node.send [askCmdBytes] else none

/-- The steps of `redirect` once the command is formatted: write it, read the reply to
`ASK_CMD_BYTES` for an ASK and drop it (`resp.ReadData` takes an error reply as data), and
read the command's reply. -/
def replay (node : RedirectConn) (ask : Bool) (cmd : Command) : Except GoError Object :=
  match node.send (redirectFrames ask cmd) with
  | some err => .error err
  | none =>
      if ask then
        (node.recv (redirectFrames ask cmd) 0).bind fun _ => node.recv (redirectFrames ask cmd) 1
      else
        node.recv (redirectFrames ask cmd) 0

/-- What `redirect` makes of a request that carries a command: the command's reply, or the
error of the first step that fails. -/
def exchange (node : RedirectConn) (ask : Bool) (cmd : Command) : Except GoError Object :=
  match node.prepare ask with
  | some err => .error err
  | none => node.replay ask cmd

end RedirectConn

/-- What the writer's collaborators do: how the node at an endpoint behaves on the
connection dialled to redirect a response there (given per response, so that two
redirections may find a node behaving differently), and whether writing a reply to the
client fails, given the replies written before. -/
structure Network where
  node : Endpoint → PipelineResponse → RedirectConn
  write : List Object → Object → Option GoError

/-- `redirect`: the reply of the server a MOVED or ASK error names, or the error of the
exchange in its place.  The command is formatted only once the connection is set up (and
`ASK_CMD_BYTES` written), and a locally answered request has none: the source dereferences
nil there. -/
def Network.redirect (net : Network) (server : Endpoint) (plRsp : PipelineResponse)
    (ask : Bool) : Except Abort (Except GoError Object) :=
  match (net.node server plRsp).prepare ask with
  | some err => .ok (.error err)
  | none =>
      match plRsp.ctx.cmd with
      | none => .error .nilDereference
      | some cmd => .ok ((net.node server plRsp).replay ask cmd)

/-- A network on which the dial of every redirection is refused and the client takes every
reply. -/
def Network.refused : Network where
  node _ _ := ⟨some ⟨"connect: connection refused".toList⟩, fun _ => none,
    fun _ _ => .error ⟨"EOF".toList⟩⟩
  write _ _ := none

/-- The redirection branch of `handleResp` for a reply whose raw bytes start with a
MOVED or ASK error. -/
def Network.followRedirect (net : Network) (plRsp : PipelineResponse) (raw : Bytes)
    (ask : Bool) : Except Abort (Except GoError Object) :=
  match parseRedirectInfo raw with
  | none => .error (.fatal ("invalid redirect message: ".toList ++ raw))
  | some (_, server) => net.redirect server plRsp ask

/-- What `handleResp` makes of a response before writing it: the error it carries, or its
reply after a MOVED or ASK redirection (the redirection's error in its place when the
exchange fails).  The outer `Except` holds the process exits on the way. -/
def Network.redirectedRsp (net : Network) (plRsp : PipelineResponse) :
    Except Abort (Except GoError Object) :=
  match plRsp.rsp with
  | .error err => .ok (.error err)
  | .ok obj =>
      if obj.raw.head? = some '-' then
        if "-MOVED".toList.isPrefixOf obj.raw then net.followRedirect plRsp obj.raw false
        else if "-ASK".toList.isPrefixOf obj.raw then net.followRedirect plRsp obj.raw true
        else .ok (.ok obj)
      else
        .ok (.ok obj)

/-- Whether `handleResp` calls `TriggerReloadSlots`: for an error and for a MOVED reply. -/
def triggersReload (plRsp : PipelineResponse) : Bool :=
  match plRsp.rsp with
  | .error _ => true
  | .ok obj => obj.raw.head? = some '-' && "-MOVED".toList.isPrefixOf obj.raw

namespace Session

variable (net : Network) (coalesceRsp : Command → List (Option Object) → Object)

/-- `s.Write(buf)` to the client. -/
def writeClient (s : Session) (buf : Object) : Session × Option GoError :=
  match net.write s.written buf with
  | some err => (s, some err)
  | none => ({ s with written := s.written ++ [buf] }, none)

/-- The coordinator state of sequence number `seq`, empty before its first
sub-response. -/
def progressOf (s : Session) (seq : Nat) : SubCmdProgress :=
  (s.subCmdProgress seq).getD .empty

/-- `writeResp`: write a plain reply; hand a sub-response to its coordinator, and once the
coordinator has all of them write the merged reply and advance `rspSeq`. -/
def writeResp (s : Session) (plRsp : PipelineResponse) (obj : Object) :
    Session × Option GoError :=
  match plRsp.ctx.parentCmd with
  | some parentCmd =>
      let progress := (s.progressOf plRsp.ctx.seq).onSubCmdFinished plRsp.ctx.subSeq obj
      let s := { s with
        subCmdProgress := Function.update s.subCmdProgress plRsp.ctx.seq (some progress) }
      if parentCmd.finished progress then
        writeClient net { s with rspSeq := s.rspSeq + 1 }
          (coalesceRsp parentCmd.cmd (parentCmd.collected progress))
      else
        (s, none)
  | none => writeClient net s obj

/-- The first steps of `handleResp`: count the response done, advance `rspSeq` for a plain
request, and call `TriggerReloadSlots` for an error or a MOVED reply. -/
def markDone (s : Session) (plRsp : PipelineResponse) : Session :=
  { s with
    reqWgDone := s.reqWgDone ++ [plRsp]
    rspSeq := if plRsp.ctx.parentCmd.isNone then s.rspSeq + 1 else s.rspSeq
    reloadTriggers := if triggersReload plRsp then s.reloadTriggers + 1 else s.reloadTriggers }

/-- The last steps of `handleResp`, once the redirection is settled: return the error, or
write the reply unless the session is closed. -/
def finishResp (s : Session) (plRsp : PipelineResponse) :
    Except GoError Object → Session × Option GoError
  | .error err => (s, some err)
  | .ok obj => if s.closed then (s, none) else writeResp net coalesceRsp s plRsp obj

/-- `handleResp`, for the response whose turn it is; a response out of turn is the
source's `panic("impossible")`. -/
def handleResp (s : Session) (plRsp : PipelineResponse) :
    Except Abort (Session × Option GoError) :=
  if plRsp.ctx.seq = s.rspSeq then
    (net.redirectedRsp plRsp).map (finishResp net coalesceRsp (s.markDone plRsp) plRsp)
  else
    .error (.panic "impossible".toList)

/-- The loop of `handleRespPipeline` that pops the heap while its top is next: the heap is
the second argument, and is stored back when the loop stops. -/
def drainHeap (s : Session) : List PipelineResponse → Except Abort (Session × Option GoError)
  | [] => .ok ({ s with rspHeap := [] }, none)
  | top :: rest =>
      if top.ctx.seq = s.rspSeq then
        match handleResp net coalesceRsp { s with rspHeap := rest } top with
        | .ok (s, none) => drainHeap s rest
        | result => result
      else
        .ok ({ s with rspHeap := top :: rest }, none)

/-- `handleRespPipeline`: park a response out of turn, or handle it and drain the heap. -/
def handleRespPipeline (s : Session) (plRsp : PipelineResponse) :
    Except Abort (Session × Option GoError) :=
  if plRsp.ctx.seq = s.rspSeq then
    match handleResp net coalesceRsp s plRsp with
    | .ok (s, none) => drainHeap net coalesceRsp s s.rspHeap
    | result => result
  else
    .ok ({ s with rspHeap := heapPush s.rspHeap plRsp }, none)

/-- `WritingLoop` over the responses taken from `backQ` so far: an error closes the
session and the loop goes on. -/
def writingLoop (s : Session) : List PipelineResponse → Except Abort Session
  | [] => .ok s
  | plRsp :: rest =>
      match handleRespPipeline net coalesceRsp s plRsp with
      | .error abort => .error abort
      | .ok (s, none) => writingLoop s rest
      | .ok (s, some _) => writingLoop s.close rest

variable {net coalesceRsp} {s : Session} {plRsp : PipelineResponse}

@[simp] theorem closed_writeClient (buf : Object) : (writeClient net s buf).1.closed = s.closed := by
  unfold writeClient; split <;> rfl

@[simp] theorem closed_writeResp (obj : Object) :
    (writeResp net coalesceRsp s plRsp obj).1.closed = s.closed := by
  unfold writeResp; split
  · dsimp only; split <;> simp
  · simp

@[simp] theorem reqWgDone_writeClient (buf : Object) :
    (writeClient net s buf).1.reqWgDone = s.reqWgDone := by
  unfold writeClient; split <;> rfl

@[simp] theorem rspHeap_writeClient (buf : Object) :
    (writeClient net s buf).1.rspHeap = s.rspHeap := by
  unfold writeClient; split <;> rfl

@[simp] theorem reqWgDone_writeResp (obj : Object) :
    (writeResp net coalesceRsp s plRsp obj).1.reqWgDone = s.reqWgDone := by
  unfold writeResp; split
  · dsimp only; split <;> simp
  · simp

@[simp] theorem rspHeap_writeResp (obj : Object) :
    (writeResp net coalesceRsp s plRsp obj).1.rspHeap = s.rspHeap := by
  unfold writeResp; split
  · dsimp only; split <;> simp
  · simp

@[simp] theorem reloadTriggers_writeClient (buf : Object) :
    (writeClient net s buf).1.reloadTriggers = s.reloadTriggers := by
  unfold writeClient; split <;> rfl

@[simp] theorem reloadTriggers_writeResp (obj : Object) :
    (writeResp net coalesceRsp s plRsp obj).1.reloadTriggers = s.reloadTriggers := by
  unfold writeResp; split
  · dsimp only; split <;> simp
  · simp

@[simp] theorem written_markDone : (s.markDone plRsp).written = s.written := rfl

@[simp] theorem closed_markDone : (s.markDone plRsp).closed = s.closed := rfl

@[simp] theorem rspHeap_markDone : (s.markDone plRsp).rspHeap = s.rspHeap := rfl

@[simp] theorem reqWgDone_markDone : (s.markDone plRsp).reqWgDone = s.reqWgDone ++ [plRsp] := rfl

@[simp] theorem subCmdProgress_markDone :
    (s.markDone plRsp).subCmdProgress = s.subCmdProgress := rfl

theorem reloadTriggers_markDone : (s.markDone plRsp).reloadTriggers =
    s.reloadTriggers + if triggersReload plRsp then 1 else 0 := by
  show (if triggersReload plRsp then _ else _) = _
  split <;> rfl

theorem rspSeq_markDone : (s.markDone plRsp).rspSeq =
    if plRsp.ctx.parentCmd.isNone then s.rspSeq + 1 else s.rspSeq := rfl

/-- `writeResp` for a sub-response of coordinator `mc`. -/
theorem writeResp_of_parentCmd {obj : Object} {mc : MultiCmd}
    (parent : plRsp.ctx.parentCmd = some mc) :
    writeResp net coalesceRsp s plRsp obj =
      let progress := (s.progressOf plRsp.ctx.seq).onSubCmdFinished plRsp.ctx.subSeq obj
      let s := { s with
        subCmdProgress := Function.update s.subCmdProgress plRsp.ctx.seq (some progress) }
      if mc.finished progress then
        writeClient net { s with rspSeq := s.rspSeq + 1 }
          (coalesceRsp mc.cmd (mc.collected progress))
      else
        (s, none) := by
  rw [writeResp, parent]

/-- `writeResp` for a plain response. -/
theorem writeResp_of_plain {obj : Object} (plain : plRsp.ctx.parentCmd = none) :
    writeResp net coalesceRsp s plRsp obj = writeClient net s obj := by
  rw [writeResp, plain]

theorem handleResp_of_turn (turn : plRsp.ctx.seq = s.rspSeq) :
    handleResp net coalesceRsp s plRsp =
      (net.redirectedRsp plRsp).map (finishResp net coalesceRsp (s.markDone plRsp) plRsp) :=
  if_pos turn

/-- Whatever `handleResp` returns comes from `finishResp` on the marked session. -/
theorem handleResp_inv {result : Session × Option GoError}
    (handled : handleResp net coalesceRsp s plRsp = .ok result) :
    plRsp.ctx.seq = s.rspSeq ∧ ∃ settled, net.redirectedRsp plRsp = .ok settled ∧
      result = finishResp net coalesceRsp (s.markDone plRsp) plRsp settled := by
  unfold handleResp at handled
  split at handled
  next turn =>
      refine ⟨turn, ?_⟩
      cases redirected : net.redirectedRsp plRsp with
      | error abort => rw [redirected] at handled; cases handled
      | ok settled =>
          rw [redirected] at handled
          exact ⟨settled, rfl, (Except.ok.inj handled).symm⟩
  · cases handled

/-- A response carrying an error, at its turn, is counted done and its error is returned
without anything being written. -/
theorem handleResp_of_err {err : GoError} (turn : plRsp.ctx.seq = s.rspSeq)
    (carried : plRsp.rsp = .error err) :
    handleResp net coalesceRsp s plRsp = .ok (s.markDone plRsp, some err) := by
  rw [handleResp_of_turn turn]
  simp [Network.redirectedRsp, carried, finishResp, Except.map]

/-- On a closed session `handleResp` writes nothing and the session stays closed. -/
theorem handleResp_of_closed {result : Session × Option GoError} (closed : s.closed = true)
    (handled : handleResp net coalesceRsp s plRsp = .ok result) :
    result.1.written = s.written ∧ result.1.closed = true := by
  obtain ⟨-, settled, -, rfl⟩ := handleResp_inv handled
  cases settled <;> simp [finishResp, closed]

/-- `handleResp` counts the response done and leaves the heap alone. -/
theorem handleResp_queues {result : Session × Option GoError}
    (handled : handleResp net coalesceRsp s plRsp = .ok result) :
    result.1.reqWgDone = s.reqWgDone ++ [plRsp] ∧ result.1.rspHeap = s.rspHeap := by
  obtain ⟨-, settled, -, rfl⟩ := handleResp_inv handled
  rcases settled with err | obj
  · exact ⟨rfl, rfl⟩
  · dsimp only [finishResp]
    split <;> simp

/-- What every `handleResp` call of the drain loop keeps holds when the loop returns.
`P s heap` speaks of the writer `s` with `heap` still to drain; the loop sets `rspHeap` only
when it stops, so `P` must not depend on it. -/
theorem drainHeap_induction {P : Session → List PipelineResponse → Prop}
    (frame : ∀ s heap heap', P s heap → P { s with rspHeap := heap' } heap)
    (step : ∀ s top rest result, P s (top :: rest) → top.ctx.seq = s.rspSeq →
      handleResp net coalesceRsp { s with rspHeap := rest } top = .ok result → P result.1 rest) :
    ∀ {s : Session} {heap : List PipelineResponse} {result : Session × Option GoError},
      P s heap → drainHeap net coalesceRsp s heap = .ok result → P result.1 result.1.rspHeap
  | s, [], _, holds, drained => by cases drained; exact frame s [] [] holds
  | s, top :: rest, _, holds, drained => by
      unfold drainHeap at drained
      split at drained
      next turn =>
          rcases handled : handleResp net coalesceRsp { s with rspHeap := rest } top with
            abort | ⟨mid, _ | err⟩
          all_goals rw [handled] at drained; dsimp only at drained
          · cases drained
          · exact drainHeap_induction frame step (step s top rest _ holds turn handled) drained
          · cases drained
            rw [(handleResp_queues handled).2]
            exact step s top rest _ holds turn handled
      · cases drained; exact frame s _ _ holds

/-- The drain loop on a closed session writes nothing. -/
theorem drainHeap_of_closed {result : Session × Option GoError} (heap : List PipelineResponse)
    (closed : s.closed = true) (drained : drainHeap net coalesceRsp s heap = .ok result) :
    result.1.written = s.written ∧ result.1.closed = true :=
  @drainHeap_induction net coalesceRsp (fun x _ => x.written = s.written ∧ x.closed = true)
    (fun _ _ _ holds => holds)
    (fun x _ rest _ ⟨wrote, closed⟩ _ handled =>
      have ⟨wrote', closed'⟩ := handleResp_of_closed
        (show ({ x with rspHeap := rest } : Session).closed = true from closed) handled
      ⟨wrote'.trans wrote, closed'⟩)
    s heap _ ⟨rfl, closed⟩ drained

/-- What one `handleRespPipeline` call does: handle the response at its turn and drain the
heap, stop at an error, or park a response out of turn. -/
theorem handleRespPipeline_cases {result : Session × Option GoError}
    (stepped : handleRespPipeline net coalesceRsp s plRsp = .ok result) :
    (∃ mid, handleResp net coalesceRsp s plRsp = .ok (mid, none) ∧
        drainHeap net coalesceRsp mid mid.rspHeap = .ok result) ∨
      (∃ mid err, handleResp net coalesceRsp s plRsp = .ok (mid, some err) ∧
        result = (mid, some err)) ∨
      result = ({ s with rspHeap := heapPush s.rspHeap plRsp }, none) := by
  unfold handleRespPipeline at stepped
  split at stepped
  · rcases handled : handleResp net coalesceRsp s plRsp with abort | ⟨mid, _ | err⟩
    all_goals rw [handled] at stepped; dsimp only at stepped
    · cases stepped
    · exact .inl ⟨mid, rfl, stepped⟩
    · exact .inr (.inl ⟨mid, err, rfl, (Except.ok.inj stepped).symm⟩)
  · exact .inr (.inr (Except.ok.inj stepped).symm)

/-- `handleRespPipeline` on a closed session writes nothing. -/
theorem handleRespPipeline_of_closed {result : Session × Option GoError}
    (closed : s.closed = true)
    (stepped : handleRespPipeline net coalesceRsp s plRsp = .ok result) :
    result.1.written = s.written ∧ result.1.closed = true := by
  rcases handleRespPipeline_cases stepped with ⟨mid, handled, drained⟩ | ⟨mid, err, handled, rfl⟩ | rfl
  · obtain ⟨w, c⟩ := handleResp_of_closed closed handled
    obtain ⟨w', c'⟩ := drainHeap_of_closed _ c drained
    exact ⟨w'.trans w, c'⟩
  · exact handleResp_of_closed closed handled
  · exact ⟨rfl, closed⟩

/-- What every `handleRespPipeline` call of the writing loop keeps, and closing the session
keeps, holds when the loop returns.  `P s later` speaks of the writer `s` with the responses
`later` still to come. -/
theorem writingLoop_induction {P : Session → List PipelineResponse → Prop}
    (step : ∀ s plRsp later result, P s (plRsp :: later) →
      handleRespPipeline net coalesceRsp s plRsp = .ok result → P result.1 later)
    (close : ∀ s later, P s later → P s.close later) :
    ∀ {s s' : Session} {arrivals : List PipelineResponse},
      P s arrivals → writingLoop net coalesceRsp s arrivals = .ok s' → P s' []
  | _, _, [], holds, ran => by cases ran; exact holds
  | s, _, plRsp :: later, holds, ran => by
      unfold writingLoop at ran
      split at ran
      · cases ran
      next mid stepped => exact writingLoop_induction step close (step s plRsp later _ holds stepped) ran
      next mid err stepped =>
          exact writingLoop_induction step close (close _ _ (step s plRsp later _ holds stepped)) ran

/-- Once the session is closed, the writing loop writes nothing more, whatever arrives,
and the session stays closed. -/
theorem writingLoop_of_closed {s' : Session} (later : List PipelineResponse)
    (closed : s.closed = true) (ran : writingLoop net coalesceRsp s later = .ok s') :
    s'.written = s.written ∧ s'.closed = true :=
  @writingLoop_induction net coalesceRsp (fun x _ => x.written = s.written ∧ x.closed = true)
    (fun _ _ _ _ ⟨wrote, closed⟩ stepped =>
      have ⟨wrote', closed'⟩ := handleRespPipeline_of_closed closed stepped
      ⟨wrote'.trans wrote, closed'⟩)
    (fun _ _ ⟨wrote, _⟩ => ⟨wrote, rfl⟩)
    s s' later ⟨rfl, closed⟩ ran

/-- A backend or redirection error is fatal to the session: the response carrying it,
taken at its turn, gets no reply, the writing loop closes the session, and no reply of any
later response is written. -/
theorem writingLoop_of_err {err : GoError} {s' : Session} (turn : plRsp.ctx.seq = s.rspSeq)
    (carried : plRsp.rsp = .error err) (later : List PipelineResponse)
    (ran : writingLoop net coalesceRsp s (plRsp :: later) = .ok s') :
    s'.written = s.written ∧ s'.closed = true := by
  have stepped : handleRespPipeline net coalesceRsp s plRsp = .ok (s.markDone plRsp, some err) := by
    unfold handleRespPipeline
    rw [if_pos turn, handleResp_of_err turn carried]
  unfold writingLoop at ran
  rw [stepped] at ran
  dsimp only at ran
  have afterClose := writingLoop_of_closed later (by rfl) ran
  exact afterClose

theorem writingLoop_of_err_eof :
    (Session.init.markDone ⟨PipelineRequest.ofSeq 0, .error ⟨"EOF".toList⟩⟩).close.written =
        Session.init.written ∧
      (Session.init.markDone ⟨PipelineRequest.ofSeq 0, .error ⟨"EOF".toList⟩⟩).close.closed =
        true :=
  @writingLoop_of_err Network.refused (fun _ _ => .nullArray) Session.init
    ⟨PipelineRequest.ofSeq 0, .error ⟨"EOF".toList⟩⟩ ⟨"EOF".toList⟩ _ rfl rfl [] rfl

/-- The first pipelined `GET`, answered by its backend connection's clean-up with the
transport error `EOF`: the client receives nothing and the session is closed. -/
theorem writingLoop_unanswered_backend_error (net : Network)
    (coalesceRsp : Command → List (Option Object) → Object) :
    (writingLoop net coalesceRsp Session.init
        [⟨⟨some ⟨"GET".toList, ["k".toList]⟩, true, 0, 0, 0, none⟩, .error ⟨"EOF".toList⟩⟩]).map
      (fun s => (s.written, s.closed)) = .ok ([], true) := rfl

end Session

end ValkeyClusterProxy
