import ValkeyClusterProxy.Session.Exits
import ValkeyClusterProxy.Session.Pipelining

/-!
# No session stops the proxy

`Session.Exits` names the two ways a session can end the process: `panic(err)` after a
failed `SubCmd` in the reader and, in the writer, a MOVED or ASK reply that
`ParseRedirectInfo` cannot read or that answers no command.  This module rules both out by
conditions on the environment alone (`Env.Steady`): `SubCmd` builds every sub-command, the
backends' MOVED and ASK replies can be read, and `EXEC`'s reply is never a MOVED or ASK
error.

The reader keeps every response it sends followable (`AllFollowable`).  A locally answered
reply (`+OK`, `+PONG`, `+QUEUED`, an error starting with `ERR`, `NOAUTH` or `EXECABORT`, or
`EXEC`'s reply) is never taken for a redirection; a backend's reply answers the command of
its request; and an error in a reply's place is no reply.  `session_never_stops_the_process`
follows from `readingLoop_abort` and `writingLoop_abort`.
-/

namespace ValkeyClusterProxy

open Proto

/-- A reply the writer takes for a redirection: its raw bytes start with `-MOVED` or `-ASK`. -/
def Proto.Data.redirectShaped (data : Data) : Bool :=
  "-MOVED".toList.isPrefixOf data.raw || "-ASK".toList.isPrefixOf data.raw

namespace Proto.Data

@[simp] theorem redirectShaped_simpleString (text : Bytes) :
    (simpleString text).redirectShaped = false := rfl

/-- An error reply whose text starts with neither `M` nor `A` is no redirection. -/
theorem redirectShaped_error {text : Bytes} {c : Char} (head : text.head? = some c)
    (notMoved : c ≠ 'M') (notAsk : c ≠ 'A') : (error text).redirectShaped = false := by
  cases text with
  | nil => cases head
  | cons first rest =>
      cases head
      simp [redirectShaped, List.isPrefixOf, notMoved.symm, notAsk.symm]

/-- The error replies that start with `ERR `, as the reader's own errors do. -/
theorem redirectShaped_err (text : Bytes) : (error ("ERR ".toList ++ text)).redirectShaped = false :=
  redirectShaped_error rfl (by decide) (by decide)

end Proto.Data

/-- The writer can follow the response: a reply it takes for a redirection answers a
command, and `ParseRedirectInfo` reads it. -/
def Followable (plRsp : PipelineResponse) : Prop :=
  ∀ obj, plRsp.rsp = .ok obj → obj.redirectShaped = true →
    plRsp.ctx.cmd.isSome ∧ (parseRedirectInfo obj.raw).isSome

/-- What the environment must do for no session to stop the process: `SubCmd` builds every
sub-command, every MOVED or ASK reply a backend's read returns can be read, and `EXEC`'s
reply is never a MOVED or ASK error. -/
structure Env.Steady (env : Env) : Prop where
  subCmd : ∀ mc n i, i < n → ∃ subCmd, env.subCmd mc i n = .ok subCmd
  readable : ∀ i server connected io obj, env.lease i server = .conn connected io →
    io.read = .ok obj → obj.redirectShaped = true → (parseRedirectInfo obj.raw).isSome
  exec : ∀ n queued data, env.exec n queued = .ok data → data.redirectShaped = false

namespace Session

variable {env : Env} {s s' x y : Session} {cmd : Command}

/-- Every response the session has sent can be followed by the writer. -/
def AllFollowable (s : Session) : Prop := ∀ plRsp ∈ s.backQ, Followable plRsp

theorem AllFollowable.answerLocally (followable : AllFollowable s) {reply : Data}
    (tame : reply.redirectShaped = false) : AllFollowable (s.answerLocally reply) := by
  intro plRsp member
  simp only [Session.answerLocally, List.mem_append, List.mem_singleton] at member
  rcases member with earlier | rfl
  · exact followable plRsp earlier
  · intro obj replied shaped
    cases replied
    cases tame.symm.trans shaped

/-- `Schedule` sends a response that answers the request's command, or an error in a reply's
place followed by an `ERR` reply. -/
theorem AllFollowable.schedule (steady : env.Steady) (followable : AllFollowable s)
    {req : PipelineRequest} (command : req.cmd.isSome) : AllFollowable (s.schedule env req) := by
  have recorded : AllFollowable { s with scheduled := s.scheduled ++ [req] } := followable
  unfold Session.schedule
  dsimp only
  rcases leased : env.lease s.scheduled.length (env.serverOf req) with err | ⟨connected, io⟩
  · exact recorded.answerLocally (Data.redirectShaped_err _)
  dsimp only
  have contract := @BackendServer.request_contract ⟨[], env.serverOf req, connected⟩ req io rfl
  rcases answered : (BackendServer.mk [] (env.serverOf req) connected).request req io with
    ⟨after, delivered, err | rsp⟩ <;> rw [answered] at contract <;> dsimp only
  · obtain ⟨-, e, rfl, -⟩ := contract
    refine AllFollowable.answerLocally (fun plRsp member => ?_) (Data.redirectShaped_err _)
    rcases List.mem_append.mp member with earlier | failed
    · exact followable plRsp earlier
    · rw [List.mem_singleton.mp failed]
      intro obj replied
      cases replied
  · obtain ⟨-, rfl, owned, obj, io_replied, replied⟩ := contract
    have read := RequestOutcome.read_of_reply io_replied
    intro plRsp member
    simp only [List.append_nil, List.mem_append, List.mem_singleton] at member
    rcases member with earlier | rfl
    · exact followable plRsp earlier
    · intro o replied' shaped
      rw [replied] at replied'
      cases replied'
      exact ⟨owned ▸ command, steady.readable _ _ _ _ _ leased read shaped⟩

/-- One iteration of a scatter loop sends followable responses. -/
theorem AllFollowable.scatter (steady : env.Steady) (followable : AllFollowable x)
    {mc : MultiCmd} {n i : Nat} {subReq : Command → PipelineRequest}
    (stepped : scheduleSubCmd env mc n i subReq x = .ok y)
    (command : ∀ c, (subReq c).cmd.isSome) : AllFollowable y := by
  unfold scheduleSubCmd at stepped
  split at stepped
  · cases stepped
  · cases stepped
    exact AllFollowable.schedule steady
      (show AllFollowable { x with reqWgAdded := x.reqWgAdded + 1 } from followable) (command _)

/-- A scatter loop of `handleReadAll` or `handleMultiKeyCmd` sends followable responses: each
of its requests carries its sub-command. -/
theorem AllFollowable.scatterLoop (steady : env.Steady) {mc : MultiCmd} {n : Nat} {α : Type}
    {l : List α} {index : α → Nat} {subReq : α → Command → PipelineRequest}
    (ran : l.foldlM (fun x a => scheduleSubCmd env mc n (index a) (subReq a) x) x = .ok y)
    (followable : AllFollowable x) (command : ∀ a c, (subReq a c).cmd.isSome) :
    AllFollowable y :=
  foldlM_inv (fun _ a _ stepped kept => kept.scatter steady stepped (command a)) ran followable

theorem AllFollowable.handleAuthCmd (followable : AllFollowable s) :
    AllFollowable (s.handleAuthCmd env cmd) := by
  unfold Session.handleAuthCmd
  split
  · split <;> exact followable.answerLocally rfl
  · exact followable.answerLocally rfl

theorem AllFollowable.execMulti (steady : env.Steady) (followable : AllFollowable s)
    (queued : List Command) : AllFollowable (s.execMulti env queued) := by
  unfold Session.execMulti
  dsimp only
  split
  · exact followable.answerLocally (Data.redirectShaped_error rfl (by decide) (by decide))
  next data executed => exact followable.answerLocally (steady.exec _ _ _ executed)

theorem AllFollowable.handleMultiCmd (steady : env.Steady) (followable : AllFollowable s)
    (handled : s.handleMultiCmd env cmd = .ok s') : AllFollowable s' := by
  unfold Session.handleMultiCmd at handled
  by_cases multi : cmd.name = "MULTI".toList
  · rw [if_pos multi] at handled
    split at handled <;> cases handled <;> exact followable.answerLocally rfl
  rw [if_neg multi] at handled
  by_cases exec : cmd.name = "EXEC".toList
  · rw [if_pos exec] at handled
    cases handled
    split
    · exact followable.answerLocally rfl
    · split
      · exact followable.answerLocally rfl
      · exact followable.execMulti steady _
  rw [if_neg exec] at handled
  by_cases queues : env.cmdFlag cmd = .general ∨ env.cmdFlag cmd = .read
  · rw [if_pos queues] at handled
    split at handled <;> cases handled
    exact followable.answerLocally rfl
  · rw [if_neg queues] at handled
    cases handled
    exact followable.answerLocally rfl

/-- One `handle` call keeps every sent response followable, branch by branch of `handle`. -/
theorem AllFollowable.handle (steady : env.Steady) (followable : AllFollowable s)
    (handled : s.handle env cmd = .ok s') : AllFollowable s' := by
  unfold Session.handle at handled
  by_cases noAuth : (env.cmdAuthRequired cmd && !s.checkAuth env) = true
  · rw [if_pos noAuth] at handled
    cases handled
    exact followable.answerLocally rfl
  rw [if_neg noAuth] at handled
  by_cases entered : cmd.name = "MULTI".toList ∨ s.multiCmd.isSome ∨ cmd.name = "EXEC".toList
  · rw [if_pos entered] at handled
    exact followable.handleMultiCmd steady handled
  rw [if_neg entered] at handled
  by_cases auth : cmd.name = "AUTH".toList
  · rw [if_pos auth] at handled
    cases handled
    exact followable.handleAuthCmd
  rw [if_neg auth] at handled
  by_cases select : cmd.name = "SELECT".toList
  · rw [if_pos select] at handled
    cases handled
    exact followable.answerLocally rfl
  rw [if_neg select] at handled
  by_cases ping : cmd.name = "PING".toList
  · rw [if_pos ping] at handled
    cases handled
    exact followable.answerLocally rfl
  rw [if_neg ping] at handled
  by_cases unknown : env.cmdUnknown cmd = true
  · rw [if_pos unknown] at handled
    cases handled
    exact followable.answerLocally rfl
  rw [if_neg unknown] at handled
  by_cases readAll : env.cmdReadAll cmd = true
  · rw [if_pos readAll] at handled
    unfold handleReadAll at handled
    exact AllFollowable.scatterLoop steady handled followable fun _ _ => rfl
  rw [if_neg readAll] at handled
  generalize env.isMultiCmd cmd = multiKey at handled
  obtain ⟨yes, numKeys⟩ := multiKey
  dsimp only at handled
  by_cases split : (yes && decide (numKeys > 1)) = true
  · rw [if_pos split] at handled
    unfold handleMultiKeyCmd at handled
    exact AllFollowable.scatterLoop steady handled followable fun _ _ => rfl
  · rw [if_neg split] at handled
    cases handled
    exact AllFollowable.schedule steady
      (show AllFollowable { s with reqSeq := s.reqSeq + 1, reqWgAdded := s.reqWgAdded + 1 } from
        followable) rfl

/-- Every session the reader reaches has sent only followable responses. -/
theorem Reachable.allFollowable (steady : env.Steady) (reachable : Reachable env s) :
    AllFollowable s := by
  induction reachable with
  | init => exact nofun
  | step _ cmd handled ih => exact ih.handle steady handled

/-- No session stops the proxy: on a steady environment (`SubCmd` builds every sub-command,
every MOVED or ASK reply a backend sends can be read, and `EXEC`'s reply is never a MOVED or
ASK error), for every list of commands the reader returns, and for every writer run over
responses of `backQ`, whatever the redirection targets and the client do, the writer
returns.  Neither goroutine of the session panics or calls `glog.Fatalf`. -/
theorem session_never_stops_the_process (steady : env.Steady) (cmds : List Command) :
    ∃ s, Session.init.readingLoop env cmds = .ok s ∧
      ∀ (net : Network) (coalesceRsp : Command → List (Option Object) → Object)
        (order : List PipelineResponse), (∀ plRsp ∈ order, plRsp ∈ s.backQ) →
        ∃ w, writingLoop net coalesceRsp Session.init order = .ok w := by
  rcases ran : Session.init.readingLoop env cmds with abort | s
  · obtain ⟨mc, n, i, err, inRange, failed, -⟩ := readingLoop_abort ran
    obtain ⟨subCmd, built⟩ := steady.subCmd mc n i inRange
    cases failed.symm.trans built
  refine ⟨s, rfl, fun net coalesceRsp order taken => ?_⟩
  have followable := (Reachable.init.of_readingLoop ran).allFollowable steady
  rcases wrote : writingLoop net coalesceRsp Session.init order with abort | w
  · obtain ⟨plRsp, member, redirected⟩ := writingLoop_abort wrote
    obtain ⟨obj, replied, shaped, exit⟩ := redirectExit_of_redirectedRsp redirected
    obtain ⟨command, readable⟩ := followable plRsp (taken plRsp member) obj replied
      (by rw [Data.redirectShaped, Bool.or_eq_true]; exact shaped)
    rcases exit with ⟨unreadable, -⟩ | ⟨-, -, -, -, noCommand, -⟩
    · rw [unreadable] at readable
      cases readable
    · rw [noCommand] at command
      cases command
  · exact ⟨w, rfl⟩

/-- The healthy pool of `Pipelining` is steady: it splits `MGET` and `DBSIZE`, its backends
answer `v`, and `EXEC` answers an empty array. -/
theorem healthyPool_steady : Env.Steady healthyPool where
  subCmd _ _ _ _ := ⟨_, rfl⟩
  readable _ _ _ _ _ leased read shaped := by
    cases leased
    cases read
    cases shaped
  exec _ _ _ executed := by
    cases executed
    rfl

theorem session_never_stops_the_process_healthyPool :
    ∃ s, Session.init.readingLoop healthyPool
        [⟨"MULTI".toList, []⟩, ⟨"GET".toList, ["k".toList]⟩, ⟨"EXEC".toList, []⟩,
          ⟨"MGET".toList, ["a".toList, "b".toList]⟩] = .ok s ∧
      ∀ (net : Network) (coalesceRsp : Command → List (Option Object) → Object)
        (order : List PipelineResponse), (∀ plRsp ∈ order, plRsp ∈ s.backQ) →
        ∃ w, writingLoop net coalesceRsp Session.init order = .ok w :=
  session_never_stops_the_process healthyPool_steady _

/-- Why `EXEC`'s reply must not be a redirection: one that is reaches the writer as a locally
answered response, with no command to replay, and once the connection to the endpoint named
is set up `redirect` dereferences the nil command. -/
example :
    ((Session.init.readingLoop
        { healthyPool with exec := fun _ _ => .ok (.error "MOVED 1 10.0.0.2:6379".toList) }
        [⟨"MULTI".toList, []⟩, ⟨"GET".toList, ["k".toList]⟩, ⟨"EXEC".toList, []⟩]).bind fun s =>
      writingLoop ⟨fun _ _ => ⟨none, fun _ => none, fun _ _ => .ok .nullBulkString⟩, fun _ _ => none⟩
        (fun _ _ => .nullArray) Session.init s.backQ).map (·.written) = .error .nilDereference :=
  rfl

end Session

end ValkeyClusterProxy
