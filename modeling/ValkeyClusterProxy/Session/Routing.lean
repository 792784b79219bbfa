import ValkeyClusterProxy.Session.Authentication
import ValkeyClusterProxy.Session.Pipelining

/-!
# Where the reader sends requests

Every request `handle` hands to `Schedule` goes to the slot of its own key, to a replica
exactly when the client command is read-only (`Schedule` asks the slot table for
`ReadServer` then, and for `WriteServer` otherwise), and, for a command sent to every shard,
to one slot of `ServerSlots()`, on a replica.  Three handlers build requests:
`handleGeneralCmd` for the command's own key, `handleMultiKeyCmd` for the key of each
sub-command, and `handleReadAll` for each slot of the table.  `reachable_requests_routed`
says that this holds of every request of every session the reader reaches; so no write
ever reaches a replica but through a read-all fan-out.
-/

namespace ValkeyClusterProxy

open Proto

/-- How `handle` routes a request serving the client command `cmd`: when `cmd` is not sent
to every shard, to the slot of the key of the request's own command, on a replica exactly
when `cmd` is read-only; when it is, to a slot of `ServerSlots()`, on a replica. -/
def Routed (env : Env) (req : PipelineRequest) : Prop :=
  ∃ cmd sub, req.clientCmd = some cmd ∧ req.cmd = some sub ∧
    (env.cmdReadAll cmd = false ∧ req.readOnly = env.cmdReadOnly cmd ∧
        req.slot = env.key2Slot (sub.value 1) ∨
      env.cmdReadAll cmd = true ∧ req.readOnly = true ∧ req.slot ∈ env.serverSlots)

/-- A routed request for a command that is neither read-only nor sent to every shard goes
to the write server of its key's slot. -/
theorem Routed.serverOf {env : Env} {req : PipelineRequest} (routed : Routed env req)
    (writes : ∀ cmd, req.clientCmd = some cmd → env.cmdReadOnly cmd = false ∧
      env.cmdReadAll cmd = false) :
    env.serverOf req = env.writeServer req.slot := by
  obtain ⟨cmd, -, serves, -, ⟨-, readOnly, -⟩ | ⟨readAll, -⟩⟩ := routed
  · rw [Env.serverOf, readOnly, (writes cmd serves).1]
    rfl
  · exact absurd readAll (by simp [(writes cmd serves).2])

namespace Session

variable {env : Env} {s x y s' : Session} {cmd : Command}

/-- Every request the session has handed to `Schedule` is routed. -/
def AllRouted (env : Env) (s : Session) : Prop := ∀ req ∈ s.scheduled, Routed env req

theorem AllRouted.schedule (routed : AllRouted env x) {req : PipelineRequest}
    (routedReq : Routed env req) : AllRouted env (x.schedule env req) := by
  intro r member
  rw [(@schedule_traces env x req).1, List.mem_append, List.mem_singleton] at member
  rcases member with earlier | rfl
  · exact routed r earlier
  · exact routedReq

/-- One iteration of a scatter loop schedules a routed sub-request. -/
theorem AllRouted.scatter (routed : AllRouted env x) {mc : MultiCmd} {n i : Nat}
    {subReq : Command → PipelineRequest} (stepped : scheduleSubCmd env mc n i subReq x = .ok y)
    (each : ∀ c, Routed env (subReq c)) : AllRouted env y := by
  unfold scheduleSubCmd at stepped
  split at stepped
  · cases stepped
  · cases stepped
    exact @AllRouted.schedule env { x with reqWgAdded := x.reqWgAdded + 1 } routed _ (each _)

theorem allRouted_handleReadAll (readAll : env.cmdReadAll cmd = true) (routed : AllRouted env s)
    (scattered : s.handleReadAll env cmd = .ok s') : AllRouted env s' :=
  foldlM_inv_of_mem
    (fun _ _ _ member stepped holds => holds.scatter stepped fun c =>
      ⟨cmd, c, rfl, rfl, .inr ⟨readAll, rfl, List.snd_mem_of_mem_enum member⟩⟩)
    scattered routed

theorem allRouted_handleMultiKeyCmd {numKeys : Nat} (notReadAll : env.cmdReadAll cmd = false)
    (routed : AllRouted env s) (scattered : s.handleMultiKeyCmd env cmd numKeys = .ok s') :
    AllRouted env s' :=
  foldlM_inv (fun _ _ _ stepped holds => holds.scatter stepped fun c =>
      ⟨cmd, c, rfl, rfl, .inl ⟨notReadAll, rfl, rfl⟩⟩)
    scattered routed

theorem allRouted_handleGeneralCmd (notReadAll : env.cmdReadAll cmd = false)
    (routed : AllRouted env s) : AllRouted env (s.handleGeneralCmd env cmd) :=
  @AllRouted.schedule env { s with reqSeq := s.reqSeq + 1, reqWgAdded := s.reqWgAdded + 1 }
    routed _ ⟨cmd, cmd, rfl, rfl, .inl ⟨notReadAll, rfl, rfl⟩⟩

theorem scheduled_handleAuthCmd : (s.handleAuthCmd env cmd).scheduled = s.scheduled := by
  unfold handleAuthCmd
  split
  · split <;> rfl
  · rfl

/-- One `handle` call schedules only routed requests. -/
theorem allRouted_handle (routed : AllRouted env s) (handled : s.handle env cmd = .ok s') :
    AllRouted env s' := by
  rcases handle_eq_cases cmd with ⟨reply, eq⟩ | ⟨entered, eq⟩ | ⟨-, -, eq⟩ | ⟨readAll, eq⟩ |
      ⟨notReadAll, ⟨numKeys, -, eq⟩ | eq⟩ <;> rw [eq] at handled
  · cases handled
    exact routed
  · rw [AllRouted, (handleMultiCmd_answers entered handled).1]
    exact routed
  · cases handled
    rw [AllRouted, scheduled_handleAuthCmd]
    exact routed
  · exact allRouted_handleReadAll readAll routed handled
  · exact allRouted_handleMultiKeyCmd notReadAll routed handled
  · cases handled
    exact allRouted_handleGeneralCmd notReadAll routed

/-- Request routing over whole runs: in every session the reader reaches, whatever the
commands and however the pool, the backends and `EXEC` behave, every request handed to
`Schedule` for a command not sent to every shard goes to the slot of the key of its own
command (the client's command, or the sub-command split from it), to a replica exactly when
the client command is read-only; and every request for a command sent to every shard goes
to one slot of `ServerSlots()`, on a replica. -/
theorem reachable_requests_routed (reachable : Reachable env s) :
    ∀ req ∈ s.scheduled, Routed env req := by
  induction reachable with
  | init => exact nofun
  | step _ cmd handled ih => exact allRouted_handle ih handled

theorem reachable_requests_routed_healthyPool :
    ∃ s, Session.init.readingLoop healthyPool
        [⟨"GET".toList, ["k".toList]⟩, ⟨"MGET".toList, ["a".toList, "b".toList]⟩,
          ⟨"DBSIZE".toList, []⟩] = .ok s ∧ ∀ req ∈ s.scheduled, Routed healthyPool req :=
  ⟨_, rfl, reachable_requests_routed
    (@Reachable.of_readingLoop healthyPool Session.init _
      [⟨"GET".toList, ["k".toList]⟩, ⟨"MGET".toList, ["a".toList, "b".toList]⟩,
        ⟨"DBSIZE".toList, []⟩] Reachable.init rfl)⟩

end Session

end ValkeyClusterProxy
