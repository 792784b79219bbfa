import ValkeyClusterProxy.Session.Reader

/-!
# The authentication gate

When a password is configured, `handle` answers every command for which `CmdAuthRequired`
holds with `-NOAUTH` until the session has sent `AUTH` with the password.  The gate is the
first test of `handle`, so it stands before the transaction machine and before the splitting
of commands as well.  `reachable_auth_gate` says what this gives over whole runs: while a
session has not authenticated, every request it has handed to `Schedule` serves a command
that needs no authentication, whether forwarded whole, split per key or fanned out per
shard, and so does every command of every transaction it has executed or still holds.

`Provenance` says once what one `handle` call can add to those three traces, and how it
can authenticate the session; the gate over runs follows by induction on `Reachable`, and
`readingLoop_authenticates_only_by_password` finds, in every run that authenticates, the
`AUTH` with the configured password that did it, sent outside a transaction.
-/

namespace ValkeyClusterProxy

open Proto

/-- The client command a request serves: its own command, or, for a sub-request, the
command its coordinator splits. -/
def PipelineRequest.clientCmd (req : PipelineRequest) : Option Command :=
  match req.parentCmd with
  | some mc => some mc.cmd
  | none => req.cmd

namespace Session

variable {env : Env} {s x s' : Session} {cmd : Command}

/-- What one `handle` call for `cmd` may do to what reaches the backends: authenticate the
session, only when `cmd` is `AUTH` with the configured password and no transaction is open,
hand requests serving `cmd` to `Schedule`, execute the open transaction, and queue `cmd` in
it. -/
structure Provenance (env : Env) (s : Session) (cmd : Command) (s' : Session) : Prop where
  auth : s'.auth = s.auth ∨ s'.auth = true ∧ s.multiCmd = none ∧ cmd.name = "AUTH".toList ∧
    cmd.rest = [env.valkeyConn.password]
  scheduled : ∀ req ∈ s'.scheduled, req ∈ s.scheduled ∨ req.clientCmd = some cmd
  executed : ∀ queued ∈ s'.executed, queued ∈ s.executed ∨ s.multiCmd = some queued
  queued : ∀ queued, s'.multiCmd = some queued →
    ∀ c ∈ queued, c = cmd ∨ ∃ earlier, s.multiCmd = some earlier ∧ c ∈ earlier

/-- A step changes nothing that reaches the backends. -/
theorem Provenance.refl : Provenance env s cmd s :=
  ⟨.inl rfl, fun _ member => .inl member, fun _ member => .inl member,
    fun earlier opened _ member => .inr ⟨earlier, opened, member⟩⟩

/-- A session once authenticated stays so. -/
theorem Provenance.keeps_auth (prov : Provenance env s cmd s') (authed : s.auth = true) :
    s'.auth = true :=
  prov.auth.elim (fun same => same.trans authed) And.left

/-- Provenance only looks at the four traces. -/
theorem Provenance.congr {y : Session} (prov : Provenance env s cmd x) (auth : y.auth = x.auth)
    (scheduled : y.scheduled = x.scheduled) (executed : y.executed = x.executed)
    (queued : y.multiCmd = x.multiCmd) : Provenance env s cmd y where
  auth := auth ▸ prov.auth
  scheduled := scheduled ▸ prov.scheduled
  executed := executed ▸ prov.executed
  queued := queued ▸ prov.queued

/-- A step that closes the transaction, running at most the one open. -/
theorem Provenance.closeTxn (auth : s'.auth = s.auth) (scheduled : s'.scheduled = s.scheduled)
    (executed : ∀ queued ∈ s'.executed, queued ∈ s.executed ∨ s.multiCmd = some queued)
    (closed : s'.multiCmd = none) : Provenance env s cmd s' where
  auth := .inl auth
  scheduled _ member := .inl (scheduled ▸ member)
  executed := executed
  queued _ opened := nomatch closed.symm.trans opened

/-- `Schedule` records the request and touches nothing else of the four traces. -/
theorem schedule_traces (req : PipelineRequest) :
    (s.schedule env req).scheduled = s.scheduled ++ [req] ∧ (s.schedule env req).auth = s.auth ∧
      (s.schedule env req).executed = s.executed ∧ (s.schedule env req).multiCmd = s.multiCmd := by
  unfold schedule
  dsimp only
  split
  · exact ⟨rfl, rfl, rfl, rfl⟩
  · split <;> exact ⟨rfl, rfl, rfl, rfl⟩

/-- Scheduling a request that serves `cmd` keeps the provenance of a step for `cmd`. -/
theorem Provenance.schedule (prov : Provenance env s cmd x) {req : PipelineRequest}
    (serves : req.clientCmd = some cmd) : Provenance env s cmd (x.schedule env req) := by
  obtain ⟨scheduled, auth, executed, queued⟩ := @schedule_traces env x req
  refine ⟨auth ▸ prov.auth, fun r member => ?_,
    executed ▸ prov.executed, queued ▸ prov.queued⟩
  rw [scheduled, List.mem_append, List.mem_singleton] at member
  rcases member with earlier | rfl
  · exact prov.scheduled r earlier
  · exact .inr serves

/-- One iteration of a scatter loop whose sub-requests serve `cmd` keeps the provenance of a
step for `cmd`. -/
theorem Provenance.scatter (prov : Provenance env s cmd x) {y : Session} {mc : MultiCmd}
    {n i : Nat} {subReq : Command → PipelineRequest}
    (scheduled : scheduleSubCmd env mc n i subReq x = .ok y)
    (serves : ∀ c, (subReq c).clientCmd = some cmd) : Provenance env s cmd y := by
  unfold scheduleSubCmd at scheduled
  split at scheduled
  · cases scheduled
  · cases scheduled
    refine Provenance.schedule (prov.congr ?_ ?_ ?_ ?_) (serves _) <;> rfl

theorem provenance_handleReadAll (scattered : s.handleReadAll env cmd = .ok s') :
    Provenance env s cmd s' :=
  foldlM_inv (fun _ _ _ stepped prov => prov.scatter stepped fun _ => rfl) scattered
    (Provenance.refl.congr rfl rfl rfl rfl)

theorem provenance_handleMultiKeyCmd {numKeys : Nat}
    (scattered : s.handleMultiKeyCmd env cmd numKeys = .ok s') : Provenance env s cmd s' :=
  foldlM_inv (fun _ _ _ stepped prov => prov.scatter stepped fun _ => rfl) scattered
    (Provenance.refl.congr rfl rfl rfl rfl)

theorem provenance_handleGeneralCmd : Provenance env s cmd (s.handleGeneralCmd env cmd) := by
  unfold handleGeneralCmd
  refine Provenance.schedule (Provenance.refl.congr ?_ ?_ ?_ ?_) ?_ <;> rfl

/-- `AUTH` outside a transaction authenticates the session only with the configured
password. -/
theorem provenance_handleAuthCmd (named : cmd.name = "AUTH".toList) (closed : s.multiCmd = none) :
    Provenance env s cmd (s.handleAuthCmd env cmd) := by
  unfold handleAuthCmd
  split
  next password single =>
    split
    next valid =>
        refine ⟨.inr ⟨rfl, closed, named, ?_⟩, fun _ member => .inl member,
          fun _ member => .inl member, fun earlier opened _ member => .inr ⟨earlier, opened, member⟩⟩
        rw [single, (beq_iff_eq.mp valid : env.valkeyConn.password = password)]
    · exact Provenance.refl.congr rfl rfl rfl rfl
  · exact Provenance.refl.congr rfl rfl rfl rfl

theorem provenance_handleMultiCmd (handled : s.handleMultiCmd env cmd = .ok s') :
    Provenance env s cmd s' := by
  unfold handleMultiCmd at handled
  by_cases multi : cmd.name = "MULTI".toList
  · rw [if_pos multi] at handled
    split at handled <;> cases handled
    · exact Provenance.refl.congr rfl rfl rfl rfl
    · exact ⟨.inl rfl, fun _ member => .inl member, fun _ member => .inl member,
        fun _ opened _ member => by cases opened; cases member⟩
  rw [if_neg multi] at handled
  by_cases exec : cmd.name = "EXEC".toList
  · rw [if_pos exec] at handled
    split at handled
    · cases handled
      exact .closeTxn rfl rfl (fun _ member => .inl member) rfl
    next queued opened =>
        split at handled <;> cases handled
        · exact .closeTxn rfl rfl (fun _ member => .inl member) rfl
        · obtain ⟨reply, ran⟩ := @execMulti_eq env s queued
          rw [ran]
          refine .closeTxn rfl rfl (fun q member => ?_) rfl
          rcases List.mem_append.mp member with earlier | now
          · exact .inl earlier
          · exact .inr (List.mem_singleton.mp now ▸ opened)
  rw [if_neg exec] at handled
  split_ifs at handled
  · split at handled
    next queued opened =>
        cases handled
        refine ⟨.inl rfl, fun _ member => .inl member, fun _ member => .inl member, ?_⟩
        rintro _ ⟨⟩ c member
        rcases List.mem_append.mp member with earlier | now
        · exact .inr ⟨queued, opened, earlier⟩
        · exact .inl (List.mem_singleton.mp now)
    · cases handled
  · cases handled
    exact Provenance.refl.congr rfl rfl rfl rfl

/-- What one `handle` call for `cmd` may add to what reaches the backends. -/
theorem provenance_handle (handled : s.handle env cmd = .ok s') : Provenance env s cmd s' := by
  rcases handle_eq_cases cmd with ⟨reply, eq⟩ | ⟨-, eq⟩ | ⟨named, closed, eq⟩ | ⟨-, eq⟩ |
      ⟨-, ⟨numKeys, -, eq⟩ | eq⟩ <;> rw [eq] at handled
  · cases handled
    exact Provenance.refl.congr rfl rfl rfl rfl
  · exact provenance_handleMultiCmd handled
  · cases handled
    exact provenance_handleAuthCmd named closed
  · exact provenance_handleReadAll handled
  · exact provenance_handleMultiKeyCmd handled
  · cases handled
    exact provenance_handleGeneralCmd

/-- Everything the session has sent towards the backends serves commands that need no
authentication: the requests handed to `Schedule`, the transactions handed to
`NewMultiCmdExec`, and the transaction still open. -/
structure Gated (env : Env) (s : Session) : Prop where
  scheduled : ∀ req ∈ s.scheduled, ∃ c, req.clientCmd = some c ∧ env.cmdAuthRequired c = false
  executed : ∀ queued ∈ s.executed, ∀ c ∈ queued, env.cmdAuthRequired c = false
  queued : ∀ queued, s.multiCmd = some queued → ∀ c ∈ queued, env.cmdAuthRequired c = false

/-- A step for a command that needs no authentication keeps the gate. -/
theorem Provenance.gated (prov : Provenance env s cmd s') (gated : Gated env s)
    (free : env.cmdAuthRequired cmd = false) : Gated env s' where
  scheduled req member := (prov.scheduled req member).elim (gated.scheduled req) fun serves =>
    ⟨cmd, serves, free⟩
  executed queued member := (prov.executed queued member).elim (gated.executed queued)
    (gated.queued queued)
  queued queued opened c member := (prov.queued queued opened c member).elim (· ▸ free)
    fun ⟨earlier, wasOpen, inEarlier⟩ => gated.queued earlier wasOpen c inEarlier

/-- A session that has not authenticated after a `handle` call had not before it, and the
call kept the gate: a command needing authentication was refused with `-NOAUTH`, and any
other one only adds what serves it. -/
theorem handle_gated (gated : s.checkAuth env = false → Gated env s)
    (handled : s.handle env cmd = .ok s') (unauthenticated : s'.checkAuth env = false) :
    Gated env s' := by
  have prov := provenance_handle handled
  have before : s.checkAuth env = false := by
    simp only [checkAuth, Bool.or_eq_false_iff] at unauthenticated ⊢
    exact ⟨Bool.eq_false_iff.mpr fun authed => by simp [prov.keeps_auth authed] at unauthenticated,
      unauthenticated.2⟩
  by_cases required : env.cmdAuthRequired cmd = true
  · have refused : s.handle env cmd = .ok (s.handleErrorCmd noauthErr) := by
      unfold handle
      rw [if_pos (by simp [required, before])]
    rw [refused] at handled
    cases handled
    have ⟨scheduled, executed, queued⟩ := gated before
    exact ⟨scheduled, executed, queued⟩
  · exact prov.gated (gated before) (Bool.eq_false_iff.mpr required)

/-- The authentication gate over whole runs: in every session the reader reaches, whatever
the commands and however the pool, the backends and `EXEC` behave, as long as the session
has not authenticated, every request it has handed to `Schedule` serves a command for which
`CmdAuthRequired` does not hold (the command itself, or the command a sub-request was split
from), and so does every command of every transaction it has executed or holds open. -/
theorem reachable_auth_gate (reachable : Reachable env s)
    (unauthenticated : s.checkAuth env = false) : Gated env s := by
  induction reachable with
  | init => exact ⟨nofun, nofun, nofun⟩
  | step _ cmd handled ih => exact handle_gated ih handled unauthenticated

/-- `poolDown` behind the password `secret`, where only `AUTH` and `PING` need no
authentication. -/
def passwordProtected : Env :=
  { poolDown with
    cmdAuthRequired := fun cmd => cmd.name != "AUTH".toList && cmd.name != "PING".toList
    valkeyConn := ⟨"secret".toList⟩ }

/-- A client that never authenticates: `GET k`, `PING`, `MULTI`. -/
def unauthenticatedRun : List Command :=
  [⟨"GET".toList, ["k".toList]⟩, ⟨"PING".toList, []⟩, ⟨"MULTI".toList, []⟩]

theorem reachable_auth_gate_passwordProtected :
    ∃ s, Session.init.readingLoop passwordProtected unauthenticatedRun = .ok s ∧
      Gated passwordProtected s :=
  ⟨_, rfl, reachable_auth_gate
    (@Reachable.of_readingLoop passwordProtected Session.init _ unauthenticatedRun Reachable.init rfl)
    rfl⟩

/-- Only `AUTH` with the configured password, sent while no transaction is open, sets the
session's `auth` flag: for every reader run from an unauthenticated session, whatever the
commands and however the pool, the backends and `EXEC` behave, if the session ends
authenticated then the run holds such an `AUTH`, handled where the session before it had
no open transaction. -/
theorem readingLoop_authenticates_only_by_password {cmds : List Command} {s₀ s : Session}
    (ran : s₀.readingLoop env cmds = .ok s) (unauthenticated : s₀.auth = false)
    (authed : s.auth = true) :
    ∃ pre cmd post mid, cmds = pre ++ cmd :: post ∧ s₀.readingLoop env pre = .ok mid ∧
      mid.multiCmd = none ∧ cmd.name = "AUTH".toList ∧ cmd.rest = [env.valkeyConn.password] := by
  induction cmds generalizing s₀ with
  | nil =>
      cases ran
      exact absurd (unauthenticated.symm.trans authed) Bool.false_ne_true
  | cons cmd cmds ih =>
      rcases handled : s₀.handle env cmd with abort | mid
      all_goals rw [readingLoop, handled] at ran
      · cases ran
      · rcases (provenance_handle handled).auth with same | ⟨-, closed, named, password⟩
        · obtain ⟨pre, c, post, m, split, before, rest⟩ := ih ran (same.trans unauthenticated)
          refine ⟨cmd :: pre, c, post, m, by rw [split]; rfl, ?_, rest⟩
          rw [readingLoop, handled]
          exact before
        · exact ⟨[], cmd, cmds, s₀, rfl, rfl, closed, named, password⟩

/-- A client that authenticates between two reads: `GET k`, `AUTH secret`, `GET k`. -/
def authenticatedRun : List Command :=
  [⟨"GET".toList, ["k".toList]⟩, ⟨"AUTH".toList, ["secret".toList]⟩, ⟨"GET".toList, ["k".toList]⟩]

theorem readingLoop_authenticates_only_by_password_secret :
    ∃ s, Session.init.readingLoop passwordProtected authenticatedRun = .ok s ∧ s.auth = true ∧
      ∃ pre cmd post mid, authenticatedRun = pre ++ cmd :: post ∧
        Session.init.readingLoop passwordProtected pre = .ok mid ∧ mid.multiCmd = none ∧
        cmd.name = "AUTH".toList ∧ cmd.rest = [passwordProtected.valkeyConn.password] :=
  ⟨_, rfl, rfl, @readingLoop_authenticates_only_by_password passwordProtected authenticatedRun
    Session.init _ rfl rfl rfl⟩

end Session

end ValkeyClusterProxy
