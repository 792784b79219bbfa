import ValkeyClusterProxy.Session.Basic
import ValkeyClusterProxy.Backend
import ValkeyClusterProxy.ValkeyConn

/-!
# The reading goroutine

`ReadingLoop` hands every command it reads to `handle`, which answers it locally, queues it
in an open `MULTI` transaction, or turns it into one request, or one sub-request per key or
per shard, for `Schedule`.  `Schedule` leases a backend connection from the pool, makes the
request and sends the response to `backQ`; on a failure it answers with a local error reply
at a fresh sequence number.

The collaborators are the fields of `Env`: the command table of cmd.go and the slot table,
whose code is not among the sources, the `ValkeyConn` that checks passwords, and how each
lease from the pool and each `EXEC` ends.  Leases and `EXEC` outcomes are given by their
position among the session's calls, so quantifying over `Env` covers every pattern of
failures.
-/

namespace ValkeyClusterProxy

open Proto

/-- `OK`. -/
def ok : Bytes := "OK".toList

/-- `AUTH_CMD_ERR`. -/
def authCmdErr : Bytes := "ERR invalid password".toList

/-- `UNKNOWN_CMD_ERR`. -/
def unknownCmdErr : Bytes := "ERR unknown command".toList

/-- `ARGUMENTS_ERR`. -/
def argumentsErr : Bytes := "ERR wrong number of arguments".toList

/-- `NOAUTH_ERR`. -/
def noauthErr : Bytes := "NOAUTH Authentication required.".toList

/-- Modelled from the spec: the values of `CmdFlag`, of which a transaction queues the
general and the read commands. -/
inductive CmdFlag where
  | general
  | read
  | other
  deriving DecidableEq, Repr

/-- How `backendServerPool.Get(server)` ends: an error, or a pooled connection to the
server, idle as `request_inflight_fifo` shows every pooled connection to be, with whether
its dial succeeded and how the network behaves during `Request`. -/
inductive Lease where
  | error (err : GoError)
  | conn (connected : Bool) (io : RequestOutcome)

/-- What the reader consults besides the session. -/
structure Env where
  /-- Modelled from the spec: `CmdAuthRequired`. -/
  cmdAuthRequired : Command → Bool
  /-- Modelled from the spec: `CmdUnknown`. -/
  cmdUnknown : Command → Bool
  /-- Modelled from the spec: `CmdReadAll`, the commands sent to every shard. -/
  cmdReadAll : Command → Bool
  /-- Modelled from the spec: `IsMultiCmd`, whether a command takes several keys and how
  many. -/
  isMultiCmd : Command → Bool × Nat
  /-- Modelled from the spec: `CmdFlag`. -/
  cmdFlag : Command → CmdFlag
  /-- Modelled from the spec: `CmdReadOnly`. -/
  cmdReadOnly : Command → Bool
  /-- Modelled from the spec: `Key2Slot`, the CRC16 slot of a key. -/
  key2Slot : Bytes → Nat
  /-- Modelled from the spec: `mc.SubCmd(i, n)`, the `i`-th of the `n` sub-commands of a
  split command, or an error. -/
  subCmd : MultiCmd → Nat → Nat → Except GoError Command
  valkeyConn : ValkeyConn
  /-- Modelled from the spec: `slotTable.ServerSlots()`, one slot per shard. -/
  serverSlots : List Nat
  /-- Modelled from the spec: `slotTable.ReadServer`. -/
  readServer : Nat → Endpoint
  /-- Modelled from the spec: `slotTable.WriteServer`. -/
  writeServer : Nat → Endpoint
  /-- How the session's `i`-th `backendServerPool.Get` ends, for the server asked for. -/
  lease : Nat → Endpoint → Lease
  /-- How the session's `i`-th `exec.Exec()` ends, for the queued commands. -/
  exec : Nat → List Command → Except GoError Object

namespace Env

/-- The server `Schedule` asks the pool for. -/
def serverOf (env : Env) (req : PipelineRequest) : Endpoint :=
  if req.readOnly then env.readServer req.slot else env.writeServer req.slot

/-- Whether the pool's `Get` fails for the request handed to `Schedule` as the session's
`i`-th. -/
def getFails (env : Env) (i : Nat) (req : PipelineRequest) : Bool :=
  match env.lease i (env.serverOf req) with
  | .error _ => true
  | .conn _ _ => false

/-- The number of requests among `scheduled` whose `Get` failed. -/
def failedGets (env : Env) (scheduled : List PipelineRequest) : Nat :=
  (scheduled.enum.filter fun (i, req) => env.getFails i req).length

theorem failedGets_append_singleton (env : Env) (scheduled : List PipelineRequest)
    (req : PipelineRequest) :
    env.failedGets (scheduled ++ [req]) =
      env.failedGets scheduled + if env.getFails scheduled.length req then 1 else 0 := by
  simp only [failedGets, List.enum_append, List.filter_append, List.length_append]
  split <;> simp_all

end Env

namespace Session

variable (env : Env)

/-- `checkAuth`: the session has authenticated, or no password is configured. -/
def checkAuth (s : Session) : Bool := s.auth || env.valkeyConn.auth []

/-- What `handleErrorCmd`, `handleSimpleStringCmd` and a successful `EXEC` share: take the
next sequence number, add to the wait group, and send the reply to `backQ` at once. -/
def answerLocally (s : Session) (reply : Data) : Session :=
  { s with
    reqSeq := s.reqSeq + 1
    reqWgAdded := s.reqWgAdded + 1
    backQ := s.backQ ++ [⟨.ofSeq s.reqSeq, .ok reply⟩] }

/-- `handleErrorCmd`. -/
def handleErrorCmd (s : Session) (msg : Bytes) : Session := s.answerLocally (.error msg)

/-- `handleSimpleStringCmd`. -/
def handleSimpleStringCmd (s : Session) (msg : Bytes) : Session :=
  s.answerLocally (.simpleString msg)

/-- `Schedule`: lease a connection to the request's server, make the request and send its
response; on an error answer at a fresh sequence number.  The responses that `Request`
delivers on the way (those of `cleanupInflight`) reach `backQ` first. -/
def schedule (s : Session) (req : PipelineRequest) : Session :=
  let server := env.serverOf req
  let lease := env.lease s.scheduled.length server
  let s := { s with scheduled := s.scheduled ++ [req] }
  match lease with
  | .error err => s.handleErrorCmd ("ERR ".toList ++ err.text)
  | .conn connected io =>
      match (BackendServer.mk [] server connected).request req io with
      | (_, delivered, .ok rsp) => { s with backQ := s.backQ ++ delivered ++ [rsp] }
      | (_, delivered, .error err) =>
          { s with backQ := s.backQ ++ delivered }.handleErrorCmd ("ERR ".toList ++ err.text)

/-- `handleGeneralCmd`: one request at the next sequence number, for the slot of the
command's key. -/
def handleGeneralCmd (s : Session) (cmd : Command) : Session :=
  let plReq : PipelineRequest :=
    { cmd := some cmd, readOnly := env.cmdReadOnly cmd, slot := env.key2Slot (cmd.value 1),
      seq := s.reqSeq, subSeq := 0, parentCmd := none }
  { s with reqSeq := s.reqSeq + 1, reqWgAdded := s.reqWgAdded + 1 }.schedule env plReq

/-- The loop body of `handleReadAll` and `handleMultiKeyCmd`: build the `i`-th of the `n`
sub-commands, make its request with `subReq`, add to the wait group and schedule it; an
error of `SubCmd` is the source's `panic(err)`. -/
def scheduleSubCmd (mc : MultiCmd) (n i : Nat) (subReq : Command → PipelineRequest)
    (s : Session) : Except Abort Session :=
  match env.subCmd mc i n with
  | .error err => .error (.panic err.text)
  | .ok subCmd => .ok ({ s with reqWgAdded := s.reqWgAdded + 1 }.schedule env (subReq subCmd))

/-- `handleReadAll`: one read-only sub-request per slot of `ServerSlots()`, all at the same
sequence number. -/
def handleReadAll (s : Session) (cmd : Command) : Except Abort Session :=
  let seq := s.reqSeq
  let slots := env.serverSlots
  let mc : MultiCmd := ⟨cmd, slots.length⟩
  slots.enum.foldlM
    (fun s (i, slot) => scheduleSubCmd env mc slots.length i
      (fun subCmd =>
        { cmd := some subCmd, readOnly := true, slot, seq, subSeq := i, parentCmd := some mc })
      s)
    { s with reqSeq := s.reqSeq + 1 }

/-- `handleMultiKeyCmd`: one sub-request per key, all at the same sequence number. -/
def handleMultiKeyCmd (s : Session) (cmd : Command) (numKeys : Nat) : Except Abort Session :=
  let mc : MultiCmd := ⟨cmd, numKeys⟩
  let seq := s.reqSeq
  (List.range numKeys).foldlM
    (fun s i => scheduleSubCmd env mc numKeys i
      (fun subCmd =>
        { cmd := some subCmd, readOnly := env.cmdReadOnly cmd,
          slot := env.key2Slot (subCmd.value 1), seq, subSeq := i, parentCmd := some mc })
      s)
    { s with reqSeq := s.reqSeq + 1 }

/-- `handleAuthCmd`. -/
def handleAuthCmd (s : Session) (cmd : Command) : Session :=
  match cmd.rest with
  | [password] =>
      if env.valkeyConn.auth password then { s.handleSimpleStringCmd ok with auth := true }
      else s.handleErrorCmd authCmdErr
  | _ => s.handleErrorCmd argumentsErr

/-- The `EXEC` of a transaction without rejected commands: `NewMultiCmdExec` runs the
queued commands, and their reply, or an error reply in its place, is sent at the next
sequence number. -/
def execMulti (s : Session) (queued : List Command) : Session :=
  let result := env.exec s.executed.length queued
  let s := { s with executed := s.executed ++ [queued] }
  match result with
  | .error err => s.handleErrorCmd ("ERR EXEC error ".toList ++ err.text)
  | .ok data => s.answerLocally data

/-- `handleMultiCmd`.  Queueing a command dereferences `s.multiCmd`, which panics when no
transaction is open; `handle` never lets that happen. -/
def handleMultiCmd (s : Session) (cmd : Command) : Except Abort Session :=
  if cmd.name = "MULTI".toList then
    match s.multiCmd with
    | some _ => .ok (s.handleErrorCmd "ERR MULTI calls can not be nested".toList)
    | none => .ok ({ s with multiCmd := some [] }.handleSimpleStringCmd ok)
  else if cmd.name = "EXEC".toList then
    let s :=
      match s.multiCmd with
      | none => s.handleErrorCmd "ERR EXEC without MULTI".toList
      | some queued =>
          if s.multiCmdErr then
            { s with multiCmdErr := false }.handleErrorCmd "EXECABORT Transaction discarded".toList
          else
            s.execMulti env queued
    .ok { s with multiCmd := none }
  else if env.cmdFlag cmd = .general ∨ env.cmdFlag cmd = .read then
    match s.multiCmd with
    | some queued =>
        .ok ({ s with multiCmd := some (queued ++ [cmd]) }.handleSimpleStringCmd "QUEUED".toList)
    | none => .error .nilDereference
  else
    .ok ({ s with multiCmdErr := true }.handleErrorCmd unknownCmdErr)

/-- `handle`: dispatch one command. -/
def handle (s : Session) (cmd : Command) : Except Abort Session :=
  if env.cmdAuthRequired cmd && !s.checkAuth env then
    .ok (s.handleErrorCmd noauthErr)
  else if cmd.name = "MULTI".toList ∨ s.multiCmd.isSome ∨ cmd.name = "EXEC".toList then
    s.handleMultiCmd env cmd
  else if cmd.name = "AUTH".toList then
    .ok (s.handleAuthCmd env cmd)
  else if cmd.name = "SELECT".toList then
    .ok (s.handleSimpleStringCmd ok)
  else if cmd.name = "PING".toList then
    .ok (s.handleSimpleStringCmd "PONG".toList)
  else if env.cmdUnknown cmd then
    .ok (s.handleErrorCmd unknownCmdErr)
  else if env.cmdReadAll cmd then
    s.handleReadAll env cmd
  else
    let (yes, numKeys) := env.isMultiCmd cmd
    if yes && numKeys > 1 then s.handleMultiKeyCmd env cmd numKeys
    else .ok (s.handleGeneralCmd env cmd)

/-- The calls of `handle` that `ReadingLoop` makes, for the commands as `handle` receives
them (read by `ReadCommand`, their names upper-cased). -/
def readingLoop (s : Session) : List Command → Except Abort Session
  | [] => .ok s
  | cmd :: cmds => (s.handle env cmd).bind fun s => readingLoop s cmds

/-- The sessions the reader reaches from a new one, one handled command at a time. -/
inductive Reachable : Session → Prop
  | init : Reachable Session.init
  | step {s s' : Session} (reachable : Reachable s) (cmd : Command)
      (handled : s.handle env cmd = .ok s') : Reachable s'

variable {env} {s s' : Session}

@[simp] theorem reqSeq_answerLocally (reply : Data) :
    (s.answerLocally reply).reqSeq = s.reqSeq + 1 := rfl

@[simp] theorem reqWgAdded_answerLocally (reply : Data) :
    (s.answerLocally reply).reqWgAdded = s.reqWgAdded + 1 := rfl

@[simp] theorem backQ_answerLocally (reply : Data) :
    (s.answerLocally reply).backQ = s.backQ ++ [⟨.ofSeq s.reqSeq, .ok reply⟩] := rfl

@[simp] theorem scheduled_answerLocally (reply : Data) :
    (s.answerLocally reply).scheduled = s.scheduled := rfl

@[simp] theorem executed_answerLocally (reply : Data) :
    (s.answerLocally reply).executed = s.executed := rfl

@[simp] theorem multiCmd_answerLocally (reply : Data) :
    (s.answerLocally reply).multiCmd = s.multiCmd := rfl

@[simp] theorem multiCmdErr_answerLocally (reply : Data) :
    (s.answerLocally reply).multiCmdErr = s.multiCmdErr := rfl

/-- The transaction state, which only `handleMultiCmd` changes. -/
def TxnFrame (s s' : Session) : Prop :=
  s'.multiCmd = s.multiCmd ∧ s'.multiCmdErr = s.multiCmdErr

theorem TxnFrame.trans {s'' : Session} (first : TxnFrame s s') (second : TxnFrame s' s'') :
    TxnFrame s s'' :=
  ⟨second.1.trans first.1, second.2.trans first.2⟩

/-- A rejected command is only recorded inside a transaction. -/
def TxnConsistent (s : Session) : Prop := s.multiCmdErr = true → s.multiCmd.isSome

theorem TxnConsistent.of_frame (consistent : TxnConsistent s) (frame : TxnFrame s s') :
    TxnConsistent s' := by
  unfold TxnConsistent; rw [frame.1, frame.2]; exact consistent

/-- Every `reqWg.Add(1)` is matched by one response on `backQ`, except one for each request
whose `Get` failed. -/
def Balanced (env : Env) (s : Session) : Prop :=
  s.reqWgAdded = s.backQ.length + env.failedGets s.scheduled

theorem Balanced.answerLocally (balanced : Balanced env s) (reply : Data) :
    Balanced env (s.answerLocally reply) := by
  simp only [Balanced, reqWgAdded_answerLocally, backQ_answerLocally, scheduled_answerLocally,
    List.length_append, List.length_singleton] at *
  omega

theorem txnFrame_schedule (req : PipelineRequest) : TxnFrame s (s.schedule env req) := by
  unfold schedule
  dsimp only
  split
  · exact ⟨rfl, rfl⟩
  · split <;> exact ⟨rfl, rfl⟩

/-- Adding to the wait group and scheduling keeps the balance: a failed `Get` sends one
error reply but adds twice, a successful `Request` sends its response, and a failed one
sends the error response `cleanupInflight` delivers and one error reply. -/
theorem Balanced.schedule (balanced : Balanced env s) (req : PipelineRequest) :
    Balanced env ({ s with reqWgAdded := s.reqWgAdded + 1 }.schedule env req) := by
  unfold Session.schedule
  dsimp only
  have counted := env.failedGets_append_singleton s.scheduled req
  split
  next err leased =>
      simp only [Env.getFails, leased, if_true] at counted
      simp only [Balanced, handleErrorCmd, reqWgAdded_answerLocally, backQ_answerLocally,
        scheduled_answerLocally, List.length_append, List.length_singleton, counted] at *
      omega
  next connected io leased =>
      simp only [Env.getFails, leased, Bool.false_eq_true, if_false] at counted
      have contract :=
        @BackendServer.request_contract ⟨[], env.serverOf req, connected⟩ req io rfl
      revert contract
      rcases BackendServer.request ⟨[], env.serverOf req, connected⟩ req io with
        ⟨after, delivered, err | rsp⟩
      · rintro ⟨-, err', rfl, -⟩
        simp only [Balanced, handleErrorCmd, reqWgAdded_answerLocally, backQ_answerLocally,
          scheduled_answerLocally, List.length_append, List.length_singleton, counted] at *
        omega
      · rintro ⟨-, rfl, -⟩
        simp only [Balanced, List.length_append, List.length_singleton, List.length_nil,
          counted] at *
        omega

/-- A property that every iteration over an item of the list keeps holds after a loop of
`foldlM` that returns. -/
theorem foldlM_inv_of_mem {α : Type} {P : Session → Prop} {f : Session → α → Except Abort Session}
    {l : List α} (step : ∀ s a s', a ∈ l → f s a = .ok s' → P s → P s') :
    ∀ {s s' : Session}, l.foldlM f s = .ok s' → P s → P s' := by
  induction l with
  | nil => intro s s' ran holds; cases ran; exact holds
  | cons a l ih =>
      intro s s' ran holds
      rw [List.foldlM_cons] at ran
      rcases stepped : f s a with abort | mid
      all_goals rw [stepped] at ran
      · cases ran
      · exact ih (fun x b y member => step x b y (List.mem_cons_of_mem a member)) ran
          (step s a mid (List.mem_cons_self a l) stepped holds)

/-- A property that every iteration keeps holds after a loop of `foldlM` that returns. -/
theorem foldlM_inv {α : Type} {P : Session → Prop} {f : Session → α → Except Abort Session}
    (step : ∀ s a s', f s a = .ok s' → P s → P s') {l : List α} {s s' : Session}
    (ran : l.foldlM f s = .ok s') (holds : P s) : P s' :=
  foldlM_inv_of_mem (fun x a y _ => step x a y) ran holds

/-- One iteration of a scatter loop schedules one sub-request: it keeps the transaction
state and the balance. -/
theorem scheduleSubCmd_spec {mc : MultiCmd} {n i : Nat} {subReq : Command → PipelineRequest}
    (scheduled : scheduleSubCmd env mc n i subReq s = .ok s') :
    TxnFrame s s' ∧ (Balanced env s → Balanced env s') := by
  unfold scheduleSubCmd at scheduled
  split at scheduled
  · cases scheduled
  · cases scheduled
    exact ⟨txnFrame_schedule _, fun balanced => balanced.schedule _⟩

/-- The scatter loops keep the transaction state and the balance. -/
theorem scatter_spec {α : Type} {f : Session → α → Except Abort Session} {items : List α}
    (each : ∀ x a y, f x a = .ok y → TxnFrame x y ∧ (Balanced env x → Balanced env y))
    (scattered : items.foldlM f { s with reqSeq := s.reqSeq + 1 } = .ok s') :
    TxnFrame s s' ∧ (Balanced env s → Balanced env s') := by
  refine @foldlM_inv _ (fun x => TxnFrame s x ∧ (Balanced env s → Balanced env x)) f
    ?_ items _ _ scattered ⟨⟨rfl, rfl⟩, id⟩
  intro x a y stepped ⟨frame, balance⟩
  obtain ⟨frame', balance'⟩ := each x a y stepped
  exact ⟨frame.trans frame', balance' ∘ balance⟩

theorem handleReadAll_spec {cmd : Command} (scattered : s.handleReadAll env cmd = .ok s') :
    TxnFrame s s' ∧ (Balanced env s → Balanced env s') :=
  scatter_spec (fun _ _ _ stepped => scheduleSubCmd_spec stepped) scattered

theorem handleMultiKeyCmd_spec {cmd : Command} {numKeys : Nat}
    (scattered : s.handleMultiKeyCmd env cmd numKeys = .ok s') :
    TxnFrame s s' ∧ (Balanced env s → Balanced env s') :=
  scatter_spec (fun _ _ _ stepped => scheduleSubCmd_spec stepped) scattered

theorem handleGeneralCmd_spec (cmd : Command) :
    TxnFrame s (s.handleGeneralCmd env cmd) ∧
      (Balanced env s → Balanced env (s.handleGeneralCmd env cmd)) :=
  ⟨txnFrame_schedule _, fun balanced =>
    @Balanced.schedule env { s with reqSeq := s.reqSeq + 1 } balanced _⟩

theorem handleAuthCmd_spec (cmd : Command) :
    TxnFrame s (s.handleAuthCmd env cmd) ∧
      (Balanced env s → Balanced env (s.handleAuthCmd env cmd)) := by
  unfold handleAuthCmd
  split
  · split <;> exact ⟨⟨rfl, rfl⟩, fun balanced => balanced.answerLocally _⟩
  · exact ⟨⟨rfl, rfl⟩, fun balanced => balanced.answerLocally _⟩

/-- `execMulti` records the transaction it hands to `NewMultiCmdExec` and answers once. -/
theorem execMulti_eq (queued : List Command) :
    ∃ reply, s.execMulti env queued =
      { s with executed := s.executed ++ [queued] }.answerLocally reply := by
  unfold execMulti
  dsimp only
  split <;> exact ⟨_, rfl⟩

theorem exec_ne_multi : "EXEC".toList ≠ "MULTI".toList := by decide

/-- `MULTI` with no transaction open opens an empty one and replies `+OK`. -/
theorem handleMultiCmd_of_multi {cmd : Command} (multi : cmd.name = "MULTI".toList)
    (closed : s.multiCmd = none) (h : s.handleMultiCmd env cmd = .ok s') :
    s' = { s with multiCmd := some [] }.handleSimpleStringCmd ok := by
  unfold handleMultiCmd at h
  simp only [if_pos multi, closed] at h
  cases h
  rfl

/-- Inside a transaction, a command other than `EXEC` is queued with `+QUEUED` when
`CmdFlag` allows it; otherwise it is answered at once with an error, and recorded as
rejected unless it is a nested `MULTI`.  Nothing is scheduled or executed. -/
theorem handleMultiCmd_of_open {cmd : Command} {queued : List Command}
    (opened : s.multiCmd = some queued) (notExec : cmd.name ≠ "EXEC".toList)
    (h : s.handleMultiCmd env cmd = .ok s') :
    s'.scheduled = s.scheduled ∧ s'.executed = s.executed ∧ s'.reqSeq = s.reqSeq + 1 ∧
      s'.reqWgAdded = s.reqWgAdded + 1 ∧
      ∃ reply, s'.backQ = s.backQ ++ [⟨.ofSeq s.reqSeq, .ok reply⟩] ∧
        ((env.cmdFlag cmd = .general ∨ env.cmdFlag cmd = .read) ∧
            s'.multiCmd = some (queued ++ [cmd]) ∧ s'.multiCmdErr = s.multiCmdErr ∧
            reply = .simpleString "QUEUED".toList ∨
          s'.multiCmd = some queued ∧ (∃ msg, reply = .error msg) ∧
            (cmd.name = "MULTI".toList ∧ s'.multiCmdErr = s.multiCmdErr ∨
              env.cmdFlag cmd ≠ .general ∧ env.cmdFlag cmd ≠ .read ∧ s'.multiCmdErr = true)) := by
  unfold handleMultiCmd at h
  by_cases multi : cmd.name = "MULTI".toList
  · simp only [if_pos multi, opened] at h
    cases h
    exact ⟨rfl, rfl, rfl, rfl, _, rfl, .inr ⟨opened, ⟨_, rfl⟩, .inl ⟨multi, rfl⟩⟩⟩
  · simp only [if_neg multi, if_neg notExec, opened] at h
    split_ifs at h with queueable
    · cases h
      exact ⟨rfl, rfl, rfl, rfl, _, rfl, .inl ⟨queueable, rfl, rfl, rfl⟩⟩
    · cases h
      obtain ⟨notGeneral, notRead⟩ := not_or.mp queueable
      exact ⟨rfl, rfl, rfl, rfl, _, rfl, .inr ⟨rfl, ⟨_, rfl⟩, .inr ⟨notGeneral, notRead, rfl⟩⟩⟩

/-- `EXEC` closes the transaction and schedules nothing: after a rejection it replies
`-EXECABORT` and executes nothing, and otherwise it hands the queue to `NewMultiCmdExec`;
with no transaction open it only replies with an error. -/
theorem handleMultiCmd_of_exec {cmd : Command} (exec : cmd.name = "EXEC".toList)
    (h : s.handleMultiCmd env cmd = .ok s') :
    s'.multiCmd = none ∧ s'.scheduled = s.scheduled ∧ s'.reqSeq = s.reqSeq + 1 ∧
      s'.reqWgAdded = s.reqWgAdded + 1 ∧ (∃ reply, s'.backQ = s.backQ ++ [⟨.ofSeq s.reqSeq, .ok reply⟩]) ∧
      (s.multiCmd = none → s'.multiCmdErr = s.multiCmdErr) ∧
      ∀ queued, s.multiCmd = some queued → s'.multiCmdErr = false ∧
        (s.multiCmdErr = true → s'.executed = s.executed ∧
          s'.backQ = s.backQ ++
            [⟨.ofSeq s.reqSeq, .ok (.error "EXECABORT Transaction discarded".toList)⟩]) ∧
        (s.multiCmdErr = false → s'.executed = s.executed ++ [queued]) := by
  unfold handleMultiCmd at h
  rw [if_neg (exec ▸ exec_ne_multi), if_pos exec] at h
  cases h
  split
  next opened =>
      exact ⟨rfl, rfl, rfl, rfl, ⟨_, rfl⟩, fun _ => rfl,
        fun _ isSome => (nomatch opened.symm.trans isSome)⟩
  next queued opened =>
      cases rejected : s.multiCmdErr
      · obtain ⟨reply, executed⟩ := @execMulti_eq env s queued
        rw [executed]
        refine ⟨rfl, rfl, rfl, rfl, ⟨_, rfl⟩, (fun isNone => nomatch opened.symm.trans isNone), ?_⟩
        intro _ same
        cases opened.symm.trans same
        exact ⟨rejected, nofun, fun _ => rfl⟩
      · refine ⟨rfl, rfl, rfl, rfl, ⟨_, rfl⟩, (fun isNone => nomatch opened.symm.trans isNone), ?_⟩
        intro _ same
        cases opened.symm.trans same
        exact ⟨rfl, fun _ => ⟨rfl, rfl⟩, nofun⟩

/-- Every way `handleMultiCmd` returns answers once and schedules nothing. -/
theorem handleMultiCmd_answers {cmd : Command}
    (entered : cmd.name = "MULTI".toList ∨ s.multiCmd.isSome ∨ cmd.name = "EXEC".toList)
    (h : s.handleMultiCmd env cmd = .ok s') :
    s'.scheduled = s.scheduled ∧ s'.reqSeq = s.reqSeq + 1 ∧ s'.reqWgAdded = s.reqWgAdded + 1 ∧
      ∃ reply, s'.backQ = s.backQ ++ [⟨.ofSeq s.reqSeq, .ok reply⟩] := by
  by_cases exec : cmd.name = "EXEC".toList
  · obtain ⟨-, scheduled, numbered, added, sent, -⟩ := handleMultiCmd_of_exec exec h
    exact ⟨scheduled, numbered, added, sent⟩
  rcases opened : s.multiCmd with _ | queued
  · have multi : cmd.name = "MULTI".toList := by
      rcases entered with multi | isSome | isExec
      · exact multi
      · simp [opened] at isSome
      · exact absurd isExec exec
    unfold handleMultiCmd at h
    simp only [if_pos multi, opened] at h
    cases h
    exact ⟨rfl, rfl, rfl, _, rfl⟩
  · obtain ⟨scheduled, -, numbered, added, sent⟩ := handleMultiCmd_of_open opened exec h
    exact ⟨scheduled, numbered, added, sent.imp fun _ => And.left⟩

/-- `handleMultiCmd` returns whenever `handle` calls it: the nil dereference needs a queued
command with no transaction open. -/
theorem handleMultiCmd_ok {cmd : Command}
    (entered : cmd.name = "MULTI".toList ∨ s.multiCmd.isSome ∨ cmd.name = "EXEC".toList) :
    ∃ s', s.handleMultiCmd env cmd = .ok s' := by
  unfold handleMultiCmd
  by_cases multi : cmd.name = "MULTI".toList
  · rw [if_pos multi]
    split <;> exact ⟨_, rfl⟩
  by_cases exec : cmd.name = "EXEC".toList
  · rw [if_neg multi, if_pos exec]
    exact ⟨_, rfl⟩
  obtain ⟨queued, opened⟩ := Option.isSome_iff_exists.mp ((entered.resolve_left multi).resolve_right exec)
  rw [if_neg multi, if_neg exec, opened]
  split_ifs <;> exact ⟨_, rfl⟩

theorem Balanced.handleMultiCmd (balanced : Balanced env s) {cmd : Command}
    (entered : cmd.name = "MULTI".toList ∨ s.multiCmd.isSome ∨ cmd.name = "EXEC".toList)
    (h : s.handleMultiCmd env cmd = .ok s') : Balanced env s' := by
  obtain ⟨scheduled, -, added, reply, sent⟩ := handleMultiCmd_answers entered h
  simp only [Balanced, added, sent, scheduled, List.length_append, List.length_singleton] at *
  omega

theorem TxnConsistent.handleMultiCmd (consistent : TxnConsistent s) {cmd : Command}
    (entered : cmd.name = "MULTI".toList ∨ s.multiCmd.isSome ∨ cmd.name = "EXEC".toList)
    (h : s.handleMultiCmd env cmd = .ok s') : TxnConsistent s' := by
  intro rejected
  by_cases exec : cmd.name = "EXEC".toList
  · obtain ⟨-, -, -, -, -, ofNone, ofSome⟩ := handleMultiCmd_of_exec exec h
    rcases opened : s.multiCmd with _ | queued
    · rw [ofNone opened] at rejected
      simpa [opened] using consistent rejected
    · rw [(ofSome queued opened).1] at rejected
      cases rejected
  rcases opened : s.multiCmd with _ | queued
  · have multi : cmd.name = "MULTI".toList := by
      rcases entered with multi | isSome | isExec
      · exact multi
      · simp [opened] at isSome
      · exact absurd isExec exec
    unfold Session.handleMultiCmd at h
    simp only [if_pos multi, opened] at h
    cases h
    rfl
  · obtain ⟨-, -, -, -, _, -, queuedNow | ⟨answered, -⟩⟩ := handleMultiCmd_of_open opened exec h
    · simp [queuedNow.2.1]
    · simp [answered]

/-- What one `handle` call does: answer at once, run the transaction machine, handle `AUTH`,
scatter a read-all command or a command on more than one key, or schedule one request. -/
theorem handle_eq_cases (cmd : Command) :
    (∃ reply, s.handle env cmd = .ok (s.answerLocally reply)) ∨
      (cmd.name = "MULTI".toList ∨ s.multiCmd.isSome ∨ cmd.name = "EXEC".toList) ∧
        s.handle env cmd = s.handleMultiCmd env cmd ∨
      cmd.name = "AUTH".toList ∧ s.multiCmd = none ∧
        s.handle env cmd = .ok (s.handleAuthCmd env cmd) ∨
      env.cmdReadAll cmd = true ∧ s.handle env cmd = s.handleReadAll env cmd ∨
      env.cmdReadAll cmd = false ∧
        ((∃ numKeys, 1 < numKeys ∧ s.handle env cmd = s.handleMultiKeyCmd env cmd numKeys) ∨
          s.handle env cmd = .ok (s.handleGeneralCmd env cmd)) := by
  generalize handled : s.handle env cmd = result
  rw [handle] at handled
  by_cases noAuth : (env.cmdAuthRequired cmd && !s.checkAuth env) = true
  · rw [if_pos noAuth] at handled
    exact .inl ⟨_, handled.symm⟩
  rw [if_neg noAuth] at handled
  by_cases entered : cmd.name = "MULTI".toList ∨ s.multiCmd.isSome ∨ cmd.name = "EXEC".toList
  · rw [if_pos entered] at handled
    exact .inr (.inl ⟨entered, handled.symm⟩)
  rw [if_neg entered] at handled
  by_cases auth : cmd.name = "AUTH".toList
  · rw [if_pos auth] at handled
    exact .inr (.inr (.inl ⟨auth, Option.not_isSome_iff_eq_none.mp fun opened =>
      entered (.inr (.inl opened)), handled.symm⟩))
  rw [if_neg auth] at handled
  by_cases select : cmd.name = "SELECT".toList
  · rw [if_pos select] at handled
    exact .inl ⟨_, handled.symm⟩
  rw [if_neg select] at handled
  by_cases ping : cmd.name = "PING".toList
  · rw [if_pos ping] at handled
    exact .inl ⟨_, handled.symm⟩
  rw [if_neg ping] at handled
  by_cases unknown : env.cmdUnknown cmd = true
  · rw [if_pos unknown] at handled
    exact .inl ⟨_, handled.symm⟩
  rw [if_neg unknown] at handled
  by_cases readAll : env.cmdReadAll cmd = true
  · rw [if_pos readAll] at handled
    exact .inr (.inr (.inr (.inl ⟨readAll, handled.symm⟩)))
  rw [if_neg readAll] at handled
  generalize env.isMultiCmd cmd = multiKey at handled
  obtain ⟨yes, numKeys⟩ := multiKey
  dsimp only at handled
  by_cases split : (yes && decide (numKeys > 1)) = true
  · rw [if_pos split] at handled
    have several : 1 < numKeys := by simp only [Bool.and_eq_true, decide_eq_true_eq] at split; exact split.2
    exact .inr (.inr (.inr (.inr ⟨Bool.eq_false_iff.mpr readAll, .inl ⟨numKeys, several, handled.symm⟩⟩)))
  · rw [if_neg split] at handled
    exact .inr (.inr (.inr (.inr ⟨Bool.eq_false_iff.mpr readAll, .inr handled.symm⟩)))

/-- One `handle` call keeps both invariants of the reader. -/
theorem handle_spec {cmd : Command} (consistent : TxnConsistent s) (balanced : Balanced env s)
    (handled : s.handle env cmd = .ok s') : TxnConsistent s' ∧ Balanced env s' := by
  rcases handle_eq_cases cmd with ⟨reply, eq⟩ | ⟨entered, eq⟩ | ⟨-, -, eq⟩ | ⟨-, eq⟩ |
      ⟨-, ⟨numKeys, -, eq⟩ | eq⟩ <;> rw [eq] at handled
  · cases handled
    exact ⟨consistent, balanced.answerLocally reply⟩
  · exact ⟨consistent.handleMultiCmd entered handled, balanced.handleMultiCmd entered handled⟩
  · cases handled
    obtain ⟨frame, balance⟩ := @handleAuthCmd_spec env s cmd
    exact ⟨consistent.of_frame frame, balance balanced⟩
  · obtain ⟨frame, balance⟩ := handleReadAll_spec handled
    exact ⟨consistent.of_frame frame, balance balanced⟩
  · obtain ⟨frame, balance⟩ := handleMultiKeyCmd_spec handled
    exact ⟨consistent.of_frame frame, balance balanced⟩
  · cases handled
    obtain ⟨frame, balance⟩ := @handleGeneralCmd_spec env s cmd
    exact ⟨consistent.of_frame frame, balance balanced⟩

/-- Both invariants hold in every reachable session. -/
theorem Reachable.invariants (reachable : Reachable env s) :
    TxnConsistent s ∧ Balanced env s := by
  induction reachable with
  | init => exact ⟨(fun rejected => nomatch rejected), rfl⟩
  | step _ cmd handled ih => exact handle_spec ih.1 ih.2 handled

/-- On an authenticated session, `MULTI`, `EXEC` and every command of an open transaction
go to `handleMultiCmd`. -/
theorem handle_of_entered {cmd : Command} (authed : s.checkAuth env = true)
    (entered : cmd.name = "MULTI".toList ∨ s.multiCmd.isSome ∨ cmd.name = "EXEC".toList) :
    s.handle env cmd = s.handleMultiCmd env cmd := by
  unfold handle
  rw [if_neg (by simp [authed]), if_pos entered]

/-- What the transaction discipline asks of one `handle` call from `s` to `s'`. -/
structure TransactionStep (env : Env) (s : Session) (cmd : Command) (s' : Session) : Prop where
  /-- A rejection is recorded only while a transaction is open. -/
  rejectedOnlyInTransaction : s'.multiCmdErr = true → s'.multiCmd.isSome
  /-- `MULTI` with no transaction open opens an empty one, with no rejection recorded, and
  replies `+OK`; nothing is scheduled or executed. -/
  openedByMulti : s.multiCmd = none → cmd.name = "MULTI".toList →
    s'.multiCmd = some [] ∧ s'.multiCmdErr = false ∧ s'.scheduled = s.scheduled ∧
      s'.executed = s.executed ∧ s'.backQ = s.backQ ++ [⟨.ofSeq s.reqSeq, .ok (.simpleString ok)⟩]
  /-- Inside a transaction a command other than `EXEC` is queued with `+QUEUED` when
  `CmdFlag` allows it, or answered at once with an error, and then recorded as rejected
  unless it is a nested `MULTI`; nothing is scheduled or executed. -/
  buffered : ∀ queued, s.multiCmd = some queued → cmd.name ≠ "EXEC".toList →
    s'.scheduled = s.scheduled ∧ s'.executed = s.executed ∧
      ∃ reply, s'.backQ = s.backQ ++ [⟨.ofSeq s.reqSeq, .ok reply⟩] ∧
        ((env.cmdFlag cmd = .general ∨ env.cmdFlag cmd = .read) ∧
            s'.multiCmd = some (queued ++ [cmd]) ∧ s'.multiCmdErr = s.multiCmdErr ∧
            reply = .simpleString "QUEUED".toList ∨
          s'.multiCmd = some queued ∧ (∃ msg, reply = .error msg) ∧
            (cmd.name = "MULTI".toList ∧ s'.multiCmdErr = s.multiCmdErr ∨
              env.cmdFlag cmd ≠ .general ∧ env.cmdFlag cmd ≠ .read ∧ s'.multiCmdErr = true))
  /-- `EXEC` leaves no transaction open and no rejection recorded, and schedules nothing. -/
  closedByExec : cmd.name = "EXEC".toList →
    s'.multiCmd = none ∧ s'.multiCmdErr = false ∧ s'.scheduled = s.scheduled
  /-- After a rejection, `EXEC` replies `-EXECABORT` and executes nothing. -/
  execAborted : ∀ queued, s.multiCmd = some queued → s.multiCmdErr = true →
    cmd.name = "EXEC".toList → s'.executed = s.executed ∧
      s'.backQ = s.backQ ++
        [⟨.ofSeq s.reqSeq, .ok (.error "EXECABORT Transaction discarded".toList)⟩]
  /-- Without a rejection, `EXEC` hands exactly the queued commands to `NewMultiCmdExec`. -/
  execRuns : ∀ queued, s.multiCmd = some queued → s.multiCmdErr = false →
    cmd.name = "EXEC".toList → s'.executed = s.executed ++ [queued]

/-- Every command handled on a reachable authenticated session keeps the transaction
discipline. -/
theorem handle_transactionStep {cmd : Command} (reachable : Reachable env s)
    (authed : s.checkAuth env = true) (handled : s.handle env cmd = .ok s') :
    TransactionStep env s cmd s' := by
  have consistent := reachable.invariants.1
  have notRejected : s.multiCmd = none → s.multiCmdErr = false := fun closed =>
    Bool.eq_false_iff.mpr fun rejected => by simpa [closed] using consistent rejected
  refine ⟨(reachable.step cmd handled).invariants.1, fun closed multi => ?_,
    fun queued opened notExec => ?_, fun exec => ?_, fun queued opened rejected exec => ?_,
    fun queued opened accepted exec => ?_⟩
  · rw [handle_of_entered authed (.inl multi)] at handled
    rw [handleMultiCmd_of_multi multi closed handled]
    exact ⟨rfl, notRejected closed, rfl, rfl, rfl⟩
  · rw [handle_of_entered authed (.inr (.inl (by simp [opened])))] at handled
    obtain ⟨scheduled, executed, -, -, sent⟩ := handleMultiCmd_of_open opened notExec handled
    exact ⟨scheduled, executed, sent⟩
  all_goals
    rw [handle_of_entered authed (.inr (.inr exec))] at handled
    obtain ⟨closed, scheduled, -, -, -, ofNone, ofSome⟩ := handleMultiCmd_of_exec exec handled
  · refine ⟨closed, ?_, scheduled⟩
    rcases opened : s.multiCmd with _ | queued
    · rw [ofNone opened]
      exact notRejected opened
    · exact (ofSome queued opened).1
  · exact (ofSome queued opened).2.1 rejected
  · exact (ofSome queued opened).2.2 accepted

/-- Every `reqWg.Add(1)` of a reader run is matched by one response on `backQ`, except one
for each request whose `backendServerPool.Get` failed, whatever the commands and however
the pool, the backends and `EXEC` behave. -/
theorem reachable_reqWg_balance (reachable : Reachable env s) :
    s.reqWgAdded = s.backQ.length + env.failedGets s.scheduled :=
  reachable.invariants.2

/-- A reader run over two lists of commands is the run over the first, then over the
second. -/
theorem readingLoop_append (pre post : List Command) :
    s.readingLoop env (pre ++ post) = (s.readingLoop env pre).bind fun mid => mid.readingLoop env post := by
  induction pre generalizing s with
  | nil => rfl
  | cons cmd pre ih =>
      simp only [List.cons_append, readingLoop]
      cases s.handle env cmd with
      | error abort => rfl
      | ok mid => exact ih

theorem Reachable.of_readingLoop {cmds : List Command} (reachable : Reachable env s)
    (ran : s.readingLoop env cmds = .ok s') : Reachable env s' := by
  induction cmds generalizing s with
  | nil => cases ran; exact reachable
  | cons cmd cmds ih =>
      rcases handled : s.handle env cmd with abort | mid
      all_goals rw [readingLoop, handled] at ran
      · cases ran
      · exact ih (reachable.step cmd handled) ran

/-- A proxy without a password whose pool reaches no backend: every command is a read of one
key, only `GET` may be queued in a transaction, and every `Get` fails. -/
def poolDown : Env where
  cmdAuthRequired _ := true
  cmdUnknown _ := false
  cmdReadAll _ := false
  isMultiCmd _ := (false, 1)
  cmdFlag cmd := if cmd.name = "GET".toList then .read else .other
  cmdReadOnly _ := true
  key2Slot _ := 0
  subCmd mc _ _ := .ok mc.cmd
  valkeyConn := ⟨[]⟩
  serverSlots := []
  readServer _ := "10.0.0.2:7001".toList
  writeServer _ := "10.0.0.1:7000".toList
  lease _ _ := .error ⟨"dial tcp 10.0.0.2:7001: connect: connection refused".toList⟩
  exec _ _ := .ok (.array [])

theorem handle_transactionStep_exec :
    ∃ s₁ s₂, Session.init.handle poolDown ⟨"MULTI".toList, []⟩ = .ok s₁ ∧
      s₁.handle poolDown ⟨"EXEC".toList, []⟩ = .ok s₂ ∧
      TransactionStep poolDown s₁ ⟨"EXEC".toList, []⟩ s₂ :=
  ⟨_, _, rfl, rfl,
    handle_transactionStep (Reachable.step Reachable.init ⟨"MULTI".toList, []⟩ rfl) rfl rfl⟩

example :
    (Session.init.readingLoop poolDown [⟨"MULTI".toList, []⟩, ⟨"GET".toList, ["k".toList]⟩,
        ⟨"BOGUS".toList, []⟩, ⟨"EXEC".toList, []⟩]).map
      (fun s => (s.backQ.map (·.rsp), s.scheduled, s.executed)) =
    .ok ([.ok (.simpleString ok), .ok (.simpleString "QUEUED".toList), .ok (.error unknownCmdErr),
      .ok (.error "EXECABORT Transaction discarded".toList)], [], []) := rfl

theorem reachable_reqWg_balance_poolDown :
    ∃ s, Session.init.handle poolDown ⟨"GET".toList, ["k".toList]⟩ = .ok s ∧
      s.reqWgAdded = s.backQ.length + poolDown.failedGets s.scheduled :=
  ⟨_, rfl, reachable_reqWg_balance (Reachable.step Reachable.init ⟨"GET".toList, ["k".toList]⟩ rfl)⟩

/-- With every `Get` failing, one `GET` takes two sequence numbers and two wait-group
additions, and only the second sequence number gets a response. -/
theorem readingLoop_get_error_skips_seq :
    (Session.init.readingLoop poolDown [⟨"GET".toList, ["k".toList]⟩]).map
      (fun s => (s.reqSeq, s.reqWgAdded, s.backQ.map (·.ctx.seq))) = .ok (2, 2, [1]) := rfl

end Session

end ValkeyClusterProxy
