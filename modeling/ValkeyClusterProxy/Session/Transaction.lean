import ValkeyClusterProxy.Session.Reader

/-!
# A transaction from `MULTI` to `EXEC`

`handle` buffers a transaction on the proxy.  `MULTI` opens an empty buffer; inside it every
command but `EXEC` is answered at once: a nested `MULTI` with an error, a command whose
`CmdFlag` is general or read with `+QUEUED` and appended to the buffer, and any other one with
`-ERR unknown command`, which marks the transaction rejected.  `EXEC` then answers
`-EXECABORT` for a rejected transaction, and otherwise hands the buffer to
`NewMultiCmdExec` and answers with its reply.

`readingLoop_transaction` follows one whole transaction of an authenticated session
through the reader: the replies the client gets, one per command at consecutive sequence
numbers, what is executed, and that nothing is scheduled.  The step inside the open
transaction is `handleMultiCmd_in_txn`, and `readingLoop_in_txn` runs it over the body.
-/

namespace ValkeyClusterProxy

open Proto

/-- The responses of replies answered locally one after the other, at consecutive
sequence numbers from `seq` on. -/
def localReplies (seq : Nat) : List Data → List PipelineResponse
  | [] => []
  | reply :: replies => ⟨.ofSeq seq, .ok reply⟩ :: localReplies (seq + 1) replies

theorem localReplies_append (seq : Nat) (replies more : List Data) :
    localReplies seq (replies ++ more) =
      localReplies seq replies ++ localReplies (seq + replies.length) more := by
  induction replies generalizing seq with
  | nil => rfl
  | cons reply replies ih =>
      rw [List.cons_append, localReplies, localReplies, ih, List.length_cons, Nat.add_assoc,
        Nat.add_comm 1, List.cons_append]

namespace Env

variable (env : Env)

/-- Whether `CmdFlag` lets a command into a transaction: a general or a read command. -/
def queueable (cmd : Command) : Bool :=
  decide (env.cmdFlag cmd = .general ∨ env.cmdFlag cmd = .read)

/-- Inside a transaction, a command other than `EXEC` is queued when it is not a nested
`MULTI` and `CmdFlag` lets it in. -/
def txnQueues (cmd : Command) : Bool := cmd.name != "MULTI".toList && env.queueable cmd

/-- Inside a transaction, a command other than `EXEC` rejects the transaction when it is not
a nested `MULTI` and `CmdFlag` keeps it out. -/
def txnRejects (cmd : Command) : Bool := cmd.name != "MULTI".toList && !env.queueable cmd

/-- The reply to a command other than `EXEC` inside a transaction. -/
def txnReply (cmd : Command) : Data :=
  if cmd.name = "MULTI".toList then .error "ERR MULTI calls can not be nested".toList
  else if env.queueable cmd then .simpleString "QUEUED".toList
  else .error unknownCmdErr

/-- The reply of `EXEC` to the `n`-th transaction the session runs: what `NewMultiCmdExec`
returns, or `-ERR EXEC error` with its error. -/
def execReply (n : Nat) (queued : List Command) : Data :=
  match env.exec n queued with
  | .ok data => data
  | .error err => .error ("ERR EXEC error ".toList ++ err.text)

end Env

namespace Session

variable {env : Env} {s t : Session} {cmd : Command} {queued : List Command}

theorem execMulti_eq_reply :
    s.execMulti env queued =
      { s with executed := s.executed ++ [queued] }.answerLocally
        (env.execReply s.executed.length queued) := by
  unfold execMulti Env.execReply
  dsimp only
  cases env.exec s.executed.length queued <;> rfl

/-- What a command other than `EXEC` does to an open transaction: it is answered at once,
queued when `txnQueues` holds, and marks the transaction rejected when `txnRejects` holds. -/
def txnStep (env : Env) (s : Session) (cmd : Command) : Session :=
  { s with
    multiCmd := s.multiCmd.map fun queued => if env.txnQueues cmd then queued ++ [cmd] else queued
    multiCmdErr := s.multiCmdErr || env.txnRejects cmd }.answerLocally (env.txnReply cmd)

theorem handleMultiCmd_in_txn (opened : s.multiCmd = some queued)
    (notExec : cmd.name ≠ "EXEC".toList) : s.handleMultiCmd env cmd = .ok (s.txnStep env cmd) := by
  unfold handleMultiCmd txnStep
  by_cases multi : cmd.name = "MULTI".toList
  · rw [if_pos multi, opened]
    have named : (cmd.name != "MULTI".toList) = false := by simp [multi]
    simp only [Env.txnQueues, Env.txnRejects, Env.txnReply, named, Bool.false_and, if_pos multi,
      Bool.or_false, Bool.false_eq_true, ↓reduceIte, Option.map_some']
    rw [← opened]
    rfl
  rw [if_neg multi, if_neg notExec]
  have named : (cmd.name != "MULTI".toList) = true := bne_iff_ne.mpr multi
  by_cases queues : env.cmdFlag cmd = .general ∨ env.cmdFlag cmd = .read
  · have inFlag : env.queueable cmd = true := decide_eq_true queues
    rw [if_pos queues, opened]
    simp only [Env.txnQueues, Env.txnRejects, Env.txnReply, named, inFlag, Bool.true_and,
      Bool.not_true, Bool.or_false, if_neg multi, ↓reduceIte, Option.map_some']
    rfl
  · have outFlag : env.queueable cmd = false := decide_eq_false queues
    rw [if_neg queues]
    simp only [Env.txnQueues, Env.txnRejects, Env.txnReply, named, outFlag, Bool.true_and,
      Bool.not_false, Bool.or_true, if_neg multi, Bool.false_eq_true, ↓reduceIte, opened,
      Option.map_some']
    rw [← opened]
    rfl

/-- `EXEC` on an open transaction: `-EXECABORT` after a rejection, the run of the buffer
otherwise; either way the transaction is closed. -/
theorem handleMultiCmd_exec_of_open (closes : cmd.name = "EXEC".toList)
    (opened : s.multiCmd = some queued) :
    s.handleMultiCmd env cmd =
      .ok { (if s.multiCmdErr then
          { s with multiCmdErr := false }.answerLocally
            (.error "EXECABORT Transaction discarded".toList)
        else
          { s with executed := s.executed ++ [queued] }.answerLocally
            (env.execReply s.executed.length queued)) with multiCmd := none } := by
  unfold handleMultiCmd
  rw [if_neg (closes ▸ exec_ne_multi), if_pos closes]
  dsimp only
  split
  next closed => cases closed.symm.trans opened
  next isOpen =>
      cases opened.symm.trans isOpen
      by_cases rejected : s.multiCmdErr = true
      · rw [if_pos rejected, if_pos rejected]
        rfl
      · rw [if_neg rejected, if_neg rejected, execMulti_eq_reply]

/-- The body of a transaction, with no `EXEC` in it, on an authenticated session whose
transaction is open: every command is answered at once at its own sequence number, the
buffer grows by the commands `txnQueues` lets in, the transaction is rejected once a command
rejects it, and nothing is scheduled or executed. -/
theorem readingLoop_in_txn (authed : t.checkAuth env = true) (opened : t.multiCmd = some queued) :
    ∀ {body : List Command}, (∀ c ∈ body, c.name ≠ "EXEC".toList) →
      ∃ t', t.readingLoop env body = .ok t' ∧
        t'.multiCmd = some (queued ++ body.filter env.txnQueues) ∧
        t'.multiCmdErr = (t.multiCmdErr || body.any env.txnRejects) ∧
        t'.scheduled = t.scheduled ∧ t'.executed = t.executed ∧
        t'.reqSeq = t.reqSeq + body.length ∧
        t'.backQ = t.backQ ++ localReplies t.reqSeq (body.map env.txnReply) ∧ t'.auth = t.auth := by
  intro body
  induction body generalizing t queued with
  | nil =>
      intro _
      exact ⟨t, rfl, by simp [opened], by simp, rfl, rfl, rfl, by simp [localReplies], rfl⟩
  | cons cmd body ih =>
      intro inside
      have stepped : t.handle env cmd = .ok (t.txnStep env cmd) := by
        rw [handle_of_entered authed (.inr (.inl (by simp [opened])))]
        exact handleMultiCmd_in_txn opened (inside cmd (List.mem_cons_self _ _))
      obtain ⟨t', ran, buffered, rejected, scheduled, executed, numbered, sent, sameAuth⟩ :=
        @ih (t.txnStep env cmd) (if env.txnQueues cmd then queued ++ [cmd] else queued) authed
          (by simp [txnStep, opened]) fun c member => inside c (List.mem_cons_of_mem _ member)
      refine ⟨t', by rw [readingLoop, stepped]; exact ran, ?_, ?_, scheduled, executed, ?_, ?_,
        sameAuth⟩
      · rw [buffered, List.filter_cons]
        split <;> simp
      · rw [rejected, List.any_cons, ← Bool.or_assoc]
        rfl
      · rw [numbered, List.length_cons]
        show t.reqSeq + 1 + body.length = _
        omega
      · rw [sent, List.map_cons, localReplies]
        simp [txnStep]

/-- A whole transaction: for every session the reader reaches that has authenticated and has
no transaction open, every `MULTI`, body without `EXEC`, and `EXEC`, however `EXEC` behaves,
the reader returns having answered each of the commands at once, at consecutive sequence
numbers (`+OK`, then each body command's reply, then `EXEC`'s), scheduled nothing, and left
no transaction open.  `EXEC` answers `-EXECABORT` and runs nothing when a body command
rejected the transaction; otherwise it runs exactly the queued commands, in order, and
answers with what `NewMultiCmdExec` returns. -/
theorem readingLoop_transaction {multi exec : Command} {body : List Command}
    (reachable : Reachable env s) (authed : s.checkAuth env = true) (closed : s.multiCmd = none)
    (opens : multi.name = "MULTI".toList) (closes : exec.name = "EXEC".toList)
    (inside : ∀ c ∈ body, c.name ≠ "EXEC".toList) :
    ∃ s', s.readingLoop env (multi :: body ++ [exec]) = .ok s' ∧
      s'.multiCmd = none ∧ s'.multiCmdErr = false ∧ s'.scheduled = s.scheduled ∧
      s'.reqSeq = s.reqSeq + body.length + 2 ∧
      s'.executed =
        s.executed ++ (if body.any env.txnRejects then [] else [body.filter env.txnQueues]) ∧
      s'.backQ = s.backQ ++ localReplies s.reqSeq
        (.simpleString ok :: body.map env.txnReply ++
          [if body.any env.txnRejects then .error "EXECABORT Transaction discarded".toList
           else env.execReply s.executed.length (body.filter env.txnQueues)]) := by
  have accepted : s.multiCmdErr = false :=
    Bool.eq_false_iff.mpr fun rejected => by simpa [closed] using reachable.invariants.1 rejected
  have opened : s.handle env multi =
      .ok ({ s with multiCmd := some [] }.answerLocally (.simpleString ok)) := by
    rw [handle_of_entered authed (.inl opens), handleMultiCmd, if_pos opens, closed]
    rfl
  obtain ⟨t, ran, buffered, rejected, scheduled, executed, numbered, sent, sameAuth⟩ :=
    @readingLoop_in_txn env ({ s with multiCmd := some [] }.answerLocally (.simpleString ok)) []
      authed rfl body inside
  have tAuthed : t.checkAuth env = true := by
    rw [checkAuth, sameAuth]
    exact authed
  have run : s.readingLoop env (multi :: body ++ [exec]) = t.readingLoop env [exec] := by
    rw [List.cons_append, readingLoop, opened]
    exact (readingLoop_append body [exec]).trans (by rw [ran]; rfl)
  have verdict : t.multiCmdErr = body.any env.txnRejects := by simpa [accepted] using rejected
  rw [run, readingLoop, handle_of_entered tAuthed (.inr (.inr closes)),
    @handleMultiCmd_exec_of_open env t exec _ closes buffered, verdict]
  refine ⟨_, rfl, rfl, ?_⟩
  cases body.any env.txnRejects <;>
    simp [scheduled, executed, numbered, sent, verdict, localReplies_append, localReplies] <;>
    omega

/-- The body of the spec's `EXECABORT` scenario: `GET k`, which `poolDown` queues, and
`BOGUS`, which it does not. -/
def execAbortBody : List Command := [⟨"GET".toList, ["k".toList]⟩, ⟨"BOGUS".toList, []⟩]

theorem readingLoop_transaction_execAbort :
    ∃ s', Session.init.readingLoop poolDown
        (⟨"MULTI".toList, []⟩ :: execAbortBody ++ [⟨"EXEC".toList, []⟩]) = .ok s' ∧
      s'.multiCmd = none ∧ s'.multiCmdErr = false ∧ s'.scheduled = Session.init.scheduled ∧
      s'.reqSeq = Session.init.reqSeq + execAbortBody.length + 2 ∧
      s'.executed = Session.init.executed ++
        (if execAbortBody.any poolDown.txnRejects then []
         else [execAbortBody.filter poolDown.txnQueues]) ∧
      s'.backQ = Session.init.backQ ++ localReplies Session.init.reqSeq
        (.simpleString ok :: execAbortBody.map poolDown.txnReply ++
          [if execAbortBody.any poolDown.txnRejects then
             .error "EXECABORT Transaction discarded".toList
           else poolDown.execReply Session.init.executed.length
             (execAbortBody.filter poolDown.txnQueues)]) :=
  @readingLoop_transaction poolDown Session.init ⟨"MULTI".toList, []⟩ ⟨"EXEC".toList, []⟩
    execAbortBody Reachable.init rfl rfl rfl rfl (by decide)

end Session

end ValkeyClusterProxy
