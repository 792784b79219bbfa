import ValkeyClusterProxy.Session.Ordering

/-!
# Following MOVED and ASK

A cluster node answers a command for a slot it does not serve with `-MOVED <slot>
<endpoint>`, or with `-ASK <slot> <endpoint>` while the slot migrates.  `handleResp`
recognises the two by their prefixes, cuts the endpoint out of the reply's raw bytes with
`ParseRedirectInfo`, calls `TriggerReloadSlots` for MOVED, and `redirect` replays the command
on a fresh connection to the endpoint.

The results:

* `parseRedirectInfo_redirection`: the round trip of the redirection format, from the
  node's error through its RESP encoding back to the slot and the endpoint;
* `handleResp_follows_redirection`: the writer replays the command at the endpoint the
  node named, never exits the process on such a reply, and triggers a reload exactly for
  MOVED;
* `handleResp_ask_answers_moved`: for an ASK, `redirect` writes `ASK_CMD_BYTES`, the simple
  string `+ASKING`, where the command `ASKING` is due, so the node importing the slot sends
  the client back with a MOVED, and the writer passes that on as the reply;
* `writingLoop_redirect_failure_closes`: a redirection whose replay fails is answered with
  nothing, not with an `-ERR` reply: the writer closes the session;
* `writingLoop_reload_per_moved`: over every arrival order of a batch, the writer triggers
  exactly one reload per response that calls for one.
-/

namespace ValkeyClusterProxy

open Proto

/-- Modelled from the spec: the error a cluster node answers a command with when another
node serves the command's slot, `MOVED <slot> <endpoint>`, or, while the slot migrates,
`ASK <slot> <endpoint>`; the slot is printed in decimal. -/
def redirection (ask : Bool) (slot : Nat) (server : Endpoint) : Data :=
  .error ((if ask then "ASK" else "MOVED").toList ++ ' ' :: Nat.toDigits 10 slot ++ ' ' :: server)

section RoundTrip

variable {slot : Nat} {server : Endpoint}

/-- The raw bytes of a redirection, cut at its two spaces and its line end. -/
theorem raw_redirection (ask : Bool) :
    (redirection ask slot server).raw =
      ('-' :: (if ask then "ASK" else "MOVED").toList) ++
        ' ' :: (Nat.toDigits 10 slot ++ ' ' :: (server ++ crlf)) := by
  simp [redirection]

/-- `ParseRedirectInfo` gives back the slot and the endpoint of every redirection whose slot
fits an `int` and whose endpoint is a word without spaces. -/
theorem parseRedirectInfo_redirection (ask : Bool) (inRange : slot < 9223372036854775808)
    (named : server ≠ []) (solid : ∀ c ∈ server, Go.isSpace c = false) :
    parseRedirectInfo (redirection ask slot server).raw = some ((slot : Int), server) := by
  obtain ⟨digits, digitsSolid, readBack⟩ := Go.toDigits_spec slot
  have kind : ∀ c ∈ '-' :: (if ask then "ASK" else "MOVED").toList, Go.isSpace c = false := by
    cases ask <;> decide
  unfold parseRedirectInfo
  rw [raw_redirection, Go.fields_word_space (List.cons_ne_nil _ _) kind (by decide),
    Go.fields_word_space digits digitsSolid (by decide), Go.fields_word_crlf named solid]
  simp [readBack inRange]

/-- Only the first six bytes decide the MOVED test. -/
theorem moved_isPrefixOf_raw (ask : Bool) :
    "-MOVED".toList.isPrefixOf (redirection ask slot server).raw = !ask := by
  cases ask <;> rfl

theorem ask_isPrefixOf_raw :
    "-ASK".toList.isPrefixOf (redirection true slot server).raw = true := rfl

theorem head_raw_redirection (ask : Bool) :
    (redirection ask slot server).raw.head? = some '-' := rfl

/-- `redirect` of a request that carries a command never stops the process: it returns what
the exchange on the connection to the endpoint returns. -/
theorem Network.redirect_of_cmd (net : Network) {plRsp : PipelineResponse} {cmd : Command}
    (command : plRsp.ctx.cmd = some cmd) (server : Endpoint) (ask : Bool) :
    net.redirect server plRsp ask = .ok ((net.node server plRsp).exchange ask cmd) := by
  unfold Network.redirect RedirectConn.exchange
  cases (net.node server plRsp).prepare ask <;> simp [command]

/-- `handleResp` settles a response carrying a redirection by the exchange on a fresh
connection to the endpoint named. -/
theorem Network.redirectedRsp_redirection (net : Network) {plRsp : PipelineResponse}
    {cmd : Command} {ask : Bool} (command : plRsp.ctx.cmd = some cmd)
    (replied : plRsp.rsp = .ok (redirection ask slot server))
    (inRange : slot < 9223372036854775808) (named : server ≠ [])
    (solid : ∀ c ∈ server, Go.isSpace c = false) :
    net.redirectedRsp plRsp = .ok ((net.node server plRsp).exchange ask cmd) := by
  have follow : net.followRedirect plRsp (redirection ask slot server).raw ask =
      .ok ((net.node server plRsp).exchange ask cmd) := by
    rw [Network.followRedirect, parseRedirectInfo_redirection ask inRange named solid]
    exact net.redirect_of_cmd command server ask
  unfold Network.redirectedRsp
  rw [replied]
  dsimp only
  rw [if_pos (head_raw_redirection ask)]
  cases ask <;> simp only [moved_isPrefixOf_raw, ask_isPrefixOf_raw, Bool.not_false,
    Bool.not_true, Bool.false_eq_true, ↓reduceIte, follow]

/-- A redirection calls for a reload exactly when it is a MOVED. -/
theorem triggersReload_redirection {plRsp : PipelineResponse} {ask : Bool}
    (replied : plRsp.rsp = .ok (redirection ask slot server)) : triggersReload plRsp = !ask := by
  rw [triggersReload, replied]
  simp only [head_raw_redirection, moved_isPrefixOf_raw, decide_True, Bool.true_and]

end RoundTrip

namespace Session

variable {net : Network} {coalesceRsp : Command → List (Option Object) → Object} {s : Session}
  {plRsp : PipelineResponse} {slot : Nat} {server : Endpoint}

/-- A MOVED or ASK reply is followed and never fatal: for every slot that fits an `int` and
every endpoint that is a word without spaces, `handleResp` at the response's turn counts it
done, calls `TriggerReloadSlots` for MOVED and not for ASK, and finishes with what the
exchange on a fresh connection to the endpoint the node named returns.  On that connection
the command is written in RESP form, after `ASK_CMD_BYTES` for an ASK. -/
theorem handleResp_follows_redirection {ask : Bool} {cmd : Command}
    (turn : plRsp.ctx.seq = s.rspSeq) (command : plRsp.ctx.cmd = some cmd)
    (replied : plRsp.rsp = .ok (redirection ask slot server))
    (inRange : slot < 9223372036854775808) (named : server ≠ [])
    (solid : ∀ c ∈ server, Go.isSpace c = false) :
    handleResp net coalesceRsp s plRsp =
        .ok (finishResp net coalesceRsp (s.markDone plRsp) plRsp
          ((net.node server plRsp).exchange ask cmd)) ∧
      (s.markDone plRsp).reloadTriggers = s.reloadTriggers + if ask then 0 else 1 := by
  refine ⟨?_, ?_⟩
  · rw [handleResp_of_turn turn, net.redirectedRsp_redirection command replied inRange named solid]
    rfl
  · rw [reloadTriggers_markDone, triggersReload_redirection replied]
    cases ask <;> rfl

/-- The spec's MOVED scenario: `GET k` answered with `-MOVED 1234 10.0.0.2:6379`. -/
def movedGet : PipelineResponse :=
  ⟨⟨some ⟨"GET".toList, ["k".toList]⟩, false, 1234, 0, 0, none⟩,
    .ok (redirection false 1234 "10.0.0.2:6379".toList)⟩

/-- A network where every node takes the connection and answers `$3 abc`. -/
def answersAbc : Network :=
  ⟨fun _ _ => ⟨none, fun _ => none, fun _ _ => .ok (.bulkString "abc".toList)⟩, fun _ _ => none⟩

theorem handleResp_follows_redirection_movedGet :
    handleResp answersAbc (fun _ _ => .nullArray) Session.init movedGet =
        .ok (finishResp answersAbc (fun _ _ => .nullArray) (Session.init.markDone movedGet) movedGet
          ((answersAbc.node "10.0.0.2:6379".toList movedGet).exchange false
            ⟨"GET".toList, ["k".toList]⟩)) ∧
      (Session.init.markDone movedGet).reloadTriggers =
        Session.init.reloadTriggers + if false then 0 else 1 :=
  handleResp_follows_redirection rfl rfl rfl (by decide) (by decide) (by decide)

/-- Modelled from the spec: the `ASKING` command. -/
def askingCommand : Command := ⟨"ASKING".toList, []⟩

/-- Modelled from the spec (requests in RESP, inline or multi-bulk): whether a node reads a
frame as `ASKING`.  A frame that starts with `*` is an array, the command it formats; any
other frame is an inline command, the words of its line. -/
def readsAsking (frame : Bytes) : Bool :=
  if frame.head? = some '*' then decide (frame = askingCommand.format)
  else decide (Go.fields frame = ["ASKING".toList])

/-- Modelled from the spec (the ASK redirection, and ASK in the glossary): the node an ASK
names, importing `slot` from `owner`.  It answers `ASKING` with `+OK`, serves a command sent
right after `ASKING`, and answers any other with the MOVED error that sends the client back
to `owner`.  (`redirect` drops the reply to the frame before the command, whatever it is.) -/
def importingNode (slot : Nat) (owner : Endpoint) (serve : Bytes → Object) : RedirectConn where
  conn := none
  send _ := none
  recv frames i :=
    if readsAsking (frames.getD i []) then .ok (.simpleString "OK".toList)
    else if i ≠ 0 ∧ readsAsking (frames.getD (i - 1) []) then .ok (serve (frames.getD i []))
    else .ok (redirection false slot owner)

/-- `ASK_CMD_BYTES` is the simple string `+ASKING`, read as the inline command `+ASKING`. -/
theorem readsAsking_askCmdBytes : readsAsking askCmdBytes = false := by decide

/-- A formatted command is read as `ASKING` only when it is `ASKING`'s. -/
theorem readsAsking_format (cmd : Command) :
    readsAsking cmd.format = decide (cmd.format = askingCommand.format) := by
  rw [readsAsking, if_pos (Command.head_format cmd)]

/-- On the node importing the slot, the ASK exchange of any command but `ASKING` ends with
the node's MOVED back to the owner: the frame before the command is not `ASKING`. -/
theorem exchange_importingNode {owner : Endpoint} {serve : Bytes → Object} {cmd : Command}
    (notAsking : cmd.format ≠ askingCommand.format) :
    (importingNode slot owner serve).exchange true cmd = .ok (redirection false slot owner) := by
  have commandNot : readsAsking cmd.format = false := by
    rw [readsAsking_format, decide_eq_false notAsking]
  simp only [RedirectConn.exchange, RedirectConn.prepare, RedirectConn.replay, importingNode,
    redirectFrames, if_true, List.singleton_append, List.getD_cons_zero, List.getD_cons_succ,
    readsAsking_askCmdBytes, commandNot, Bool.false_eq_true, if_false, false_and, ne_eq,
    Nat.sub_self, Except.bind]
  rfl

/-- An ASK is not honoured.  `redirect` writes `ASK_CMD_BYTES`, the simple string
`+ASKING`, where the spec sends the command `ASKING`; a node reads it as neither form of
`ASKING`.  So for every command but `ASKING`, and every session open to a client that takes
the write, an ASK to the node importing the slot is answered with that node's MOVED back to
the slot's owner, and the writer hands the MOVED error to the client as the reply.  The
spec's exchange, `ASKING` then the command, is served by that node. -/
theorem handleResp_ask_answers_moved {cmd : Command} {owner : Endpoint}
    {serve : Bytes → Object} (turn : plRsp.ctx.seq = s.rspSeq)
    (command : plRsp.ctx.cmd = some cmd) (plain : plRsp.ctx.parentCmd = none)
    (isOpen : s.closed = false) (replied : plRsp.rsp = .ok (redirection true slot server))
    (inRange : slot < 9223372036854775808) (named : server ≠ [])
    (solid : ∀ c ∈ server, Go.isSpace c = false)
    (importing : net.node server plRsp = importingNode slot owner serve)
    (notAsking : cmd.format ≠ askingCommand.format)
    (taken : net.write s.written (redirection false slot owner) = none) :
    handleResp net coalesceRsp s plRsp =
        .ok ({ s.markDone plRsp with written := s.written ++ [redirection false slot owner] },
          none) ∧
      (importingNode slot owner serve).recv [askingCommand.format, cmd.format] 1 =
        .ok (serve cmd.format) := by
  have specServed : readsAsking askingCommand.format = true := by decide
  refine ⟨?_, ?_⟩
  · rw [handleResp_of_turn turn, net.redirectedRsp_redirection command replied inRange named solid,
      importing, exchange_importingNode notAsking]
    simp [Except.map, finishResp, isOpen, writeResp_of_plain plain, writeClient, taken]
  · simp [importingNode, readsAsking_format, notAsking, specServed]

/-- `GET k` answered with `-ASK 1234 10.0.0.2:6379`. -/
def askedGet : PipelineResponse :=
  ⟨⟨some ⟨"GET".toList, ["k".toList]⟩, false, 1234, 0, 0, none⟩,
    .ok (redirection true 1234 "10.0.0.2:6379".toList)⟩

/-- A network whose node `10.0.0.2:6379` imports slot 1234 from `10.0.0.1:6379`. -/
def migrating : Network :=
  ⟨fun _ _ => importingNode 1234 "10.0.0.1:6379".toList fun _ => .bulkString "v".toList,
    fun _ _ => none⟩

theorem handleResp_ask_answers_moved_askedGet :
    handleResp migrating (fun _ _ => .nullArray) Session.init askedGet =
        .ok ({ Session.init.markDone askedGet with
          written := Session.init.written ++ [redirection false 1234 "10.0.0.1:6379".toList] },
          none) ∧
      (importingNode 1234 "10.0.0.1:6379".toList fun _ => .bulkString "v".toList).recv
          [askingCommand.format, Command.format ⟨"GET".toList, ["k".toList]⟩] 1 =
        .ok ((fun _ => .bulkString "v".toList) (Command.format ⟨"GET".toList, ["k".toList]⟩)) :=
  handleResp_ask_answers_moved rfl rfl rfl rfl rfl (by decide) (by decide) (by decide) rfl
    (by decide) rfl

/-- A failed redirection closes the client's connection instead of answering: for every
response at its turn whose reply is a MOVED or ASK error the writer can read, and whose
exchange with the endpoint named fails (`Conn` fails: the dial, `AUTH` or `READONLY`; or a
write or a read of the exchange fails), the writing loop writes no reply for it, no `-ERR`
in its place and nothing for any later response, and the session ends closed. -/
theorem writingLoop_redirect_failure_closes {ask : Bool} {cmd : Command} {err : GoError}
    {s' : Session} (turn : plRsp.ctx.seq = s.rspSeq) (command : plRsp.ctx.cmd = some cmd)
    (replied : plRsp.rsp = .ok (redirection ask slot server))
    (inRange : slot < 9223372036854775808) (named : server ≠ [])
    (solid : ∀ c ∈ server, Go.isSpace c = false)
    (failed : (net.node server plRsp).exchange ask cmd = .error err)
    (later : List PipelineResponse)
    (ran : writingLoop net coalesceRsp s (plRsp :: later) = .ok s') :
    s'.written = s.written ∧ s'.closed = true := by
  have stepped : handleRespPipeline net coalesceRsp s plRsp = .ok (s.markDone plRsp, some err) := by
    unfold handleRespPipeline
    rw [if_pos turn, handleResp_of_turn turn,
      net.redirectedRsp_redirection command replied inRange named solid, failed]
    rfl
  unfold writingLoop at ran
  rw [stepped] at ran
  have afterClose := writingLoop_of_closed later rfl ran
  exact afterClose

theorem writingLoop_redirect_failure_closes_refused :
    ∃ s', writingLoop Network.refused (fun _ _ => .nullArray) Session.init [movedGet] = .ok s' ∧
      s'.written = Session.init.written ∧ s'.closed = true :=
  ⟨_, rfl, @writingLoop_redirect_failure_closes Network.refused (fun _ _ => .nullArray)
    Session.init movedGet 1234 "10.0.0.2:6379".toList false ⟨"GET".toList, ["k".toList]⟩ _ _
    rfl rfl rfl (by decide) (by decide) (by decide) rfl [] rfl⟩

end Session

section ReloadTriggers

namespace Session

variable {net : Network} {coalesceRsp : Command → List (Option Object) → Object}
  {s x : Session} {plRsp : PipelineResponse} {result : Session × Option GoError}

/-- Since `s`, the writer has called `TriggerReloadSlots` once for each handled response
that calls for a reload, and at no other time. -/
def TriggersCounted (s x : Session) : Prop :=
  x.reloadTriggers + s.reqWgDone.countP triggersReload =
    s.reloadTriggers + x.reqWgDone.countP triggersReload

theorem triggersCounted_handleResp (counted : TriggersCounted s x)
    (handled : Session.handleResp net coalesceRsp x plRsp = .ok result) :
    TriggersCounted s result.1 := by
  have triggered : result.1.reloadTriggers =
      x.reloadTriggers + if triggersReload plRsp then 1 else 0 := by
    obtain ⟨-, settled, -, rfl⟩ := handleResp_inv handled
    rw [← reloadTriggers_markDone]
    rcases settled with err | obj
    · rfl
    · dsimp only [finishResp]
      split <;> simp
  unfold TriggersCounted at *
  rw [triggered, (handleResp_queues handled).1, List.countP_append, List.countP_cons,
    List.countP_nil]
  omega

theorem triggersCounted_drainHeap {heap : List PipelineResponse} (counted : TriggersCounted s x)
    (drained : drainHeap net coalesceRsp x heap = .ok result) : TriggersCounted s result.1 :=
  @drainHeap_induction net coalesceRsp (fun y _ => TriggersCounted s y)
    (fun _ _ _ holds => holds)
    (fun y top rest _ holds _ handled =>
      @triggersCounted_handleResp net coalesceRsp s { y with rspHeap := rest } top _ holds handled)
    x heap result counted drained

theorem triggersCounted_handleRespPipeline (counted : TriggersCounted s x)
    (stepped : handleRespPipeline net coalesceRsp x plRsp = .ok result) :
    TriggersCounted s result.1 := by
  rcases handleRespPipeline_cases stepped with ⟨mid, handled, drained⟩ | ⟨mid, err, handled, rfl⟩ | rfl
  · exact triggersCounted_drainHeap (triggersCounted_handleResp counted handled) drained
  · exact triggersCounted_handleResp counted handled
  · exact counted

/-- Over every run of the writing loop, `TriggerReloadSlots` is called once for each handled
response that carries an error or a MOVED reply, whatever arrives and in whatever order. -/
theorem triggersCounted_writingLoop {arrivals : List PipelineResponse}
    (ran : writingLoop net coalesceRsp s arrivals = .ok x) : TriggersCounted s x :=
  @writingLoop_induction net coalesceRsp (fun y _ => TriggersCounted s y)
    (fun _ _ _ _ holds stepped => triggersCounted_handleRespPipeline holds stepped)
    (fun _ _ holds => holds) s x arrivals (by unfold TriggersCounted; omega) ran

end Session

variable {net : Network} {coalesceRsp : Command → List (Option Object) → Object}

/-- Reloads are triggered once per MOVED reply, whatever the arrival order: for every batch
of responses that settle to replies, delivered to a new writer in any order, the writing
loop returns having called `TriggerReloadSlots` exactly as many times as the batch has
responses calling for a reload, none for a response parked and taken again from the heap,
and none lost. -/
theorem writingLoop_reload_per_moved (b : Batch) (reply : PipelineResponse → Object)
    (settled : ∀ x ∈ b.rsps, net.redirectedRsp x = .ok (.ok (reply x)))
    (writable : ∀ out obj, net.write out obj = none)
    (order : List PipelineResponse) (arrival : order.Perm b.rsps) :
    ∃ s, Session.writingLoop net coalesceRsp Session.init order = .ok s ∧
      s.reloadTriggers = b.rsps.countP triggersReload := by
  obtain ⟨s, ran, rest⟩ := writingLoop_atRest settled writable
    (arrival.nodup_iff.mpr b.nodup_rsps) fun x member => arrival.subset member
  obtain ⟨handled, -, -⟩ := rest.drained arrival
  have counted := Session.triggersCounted_writingLoop ran
  simp only [Session.TriggersCounted, Session.init, List.countP_nil, Nat.add_zero,
    Nat.zero_add] at counted
  exact ⟨s, ran, counted.trans (handled.countP_eq triggersReload)⟩

theorem writingLoop_reload_per_moved_twoGets :
    ∃ s, Session.writingLoop Network.refused (fun _ _ => .nullArray)
        Session.init [getRsp 1, getRsp 0] = .ok s ∧
      s.reloadTriggers = twoGets.rsps.countP triggersReload :=
  writingLoop_reload_per_moved twoGets _ (redirectedRsp_twoGets _) (fun _ _ => rfl) _
    (List.Perm.swap _ _ [])

end ReloadTriggers

end ValkeyClusterProxy
