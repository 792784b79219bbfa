import ValkeyClusterProxy.Session.Reader
import ValkeyClusterProxy.Session.Ordering

/-!
# Pipelines end to end

A client pipelines commands on one connection: the reading goroutine hands each to `handle`,
and the writing goroutine answers them from `backQ` in sequence order.  This module joins the
two halves.  On a healthy pool (every `backendServerPool.Get` leases a connected connection,
every write, flush and read of `Request` succeeds, every `SubCmd` builds its sub-command, and
`ServerSlots()` lists a shard) each command takes exactly one sequence number and the
responses sent for it are one response, or one sub-response per key or per shard numbered in
order.  The responses of a run therefore form a `Batch`, and the writer's run theorem applies
to every order in which they reach it.

The reader and the writer share the session, but the writer's fields (`rspSeq`, `rspHeap`,
`reqWgDone`, `written`, `closed`) are never touched by the reader, so the writer's run is
taken from a new session.
-/

namespace ValkeyClusterProxy

open Proto

/-- A pool and a network on which nothing the reader depends on fails. -/
structure Env.Healthy (env : Env) : Prop where
  lease : ∀ i server, ∃ io obj, env.lease i server = .conn true io ∧ io.write = none ∧
    io.flush = none ∧ io.read = .ok obj
  subCmd : ∀ mc i n, ∃ subCmd, env.subCmd mc i n = .ok subCmd
  serverSlots : 0 < env.serverSlots.length

theorem Env.Healthy.failedGets {env : Env} (healthy : env.Healthy)
    (scheduled : List PipelineRequest) : env.failedGets scheduled = 0 := by
  simp only [Env.failedGets, List.length_eq_zero, List.filter_eq_nil_iff]
  rintro ⟨i, req⟩ -
  obtain ⟨io, obj, leased, -⟩ := healthy.lease i (env.serverOf req)
  simp [Env.getFails, leased]

namespace Batch

/-- The batch of a new session: no sequence number yet. -/
def empty : Batch :=
  ⟨0, fun _ => .split ⟨⟨[], []⟩, 0⟩ [], fun _ below => absurd below (Nat.not_lt_zero _)⟩

/-- The batch extended by the responses of its next sequence number. -/
def push (b : Batch) (shape : SeqRsps) (wf : shape.WellFormed b.numSeqs) : Batch where
  numSeqs := b.numSeqs + 1
  seqRsps seq := if seq = b.numSeqs then shape else b.seqRsps seq
  wellFormed seq below := by
    dsimp only
    by_cases last : seq = b.numSeqs
    · rw [if_pos last, last]
      exact wf
    · rw [if_neg last]
      exact b.wellFormed seq (by omega)

theorem rsps_push (b : Batch) (shape : SeqRsps) (wf : shape.WellFormed b.numSeqs) :
    (b.push shape wf).rsps = b.rsps ++ shape.rsps := by
  unfold rsps push
  dsimp only
  rw [List.range_succ, List.flatMap_append, List.flatMap_cons, List.flatMap_nil, List.append_nil,
    if_pos rfl]
  congr 1
  exact List.flatMap_congr fun seq inRange => by
    rw [if_neg (Nat.ne_of_lt (List.mem_range.mp inRange))]

end Batch

namespace Session

variable {env : Env} {s s' : Session}

/-- One command handled: it took the next sequence number, and the responses sent for it
are well formed for that number. -/
def Answered (s s' : Session) : Prop :=
  s'.reqSeq = s.reqSeq + 1 ∧
    ∃ shape : SeqRsps, shape.WellFormed s.reqSeq ∧ s'.backQ = s.backQ ++ shape.rsps

/-- The responses sent so far are a batch with one sequence number per command read. -/
def Batched (s : Session) : Prop := ∃ b : Batch, b.numSeqs = s.reqSeq ∧ b.rsps = s.backQ

theorem Batched.answered (batched : Batched s) (answered : Answered s s') : Batched s' := by
  obtain ⟨b, counted, sent⟩ := batched
  obtain ⟨numbered, shape, wf, appended⟩ := answered
  refine ⟨b.push shape (counted ▸ wf), ?_, ?_⟩
  · show b.numSeqs + 1 = s'.reqSeq
    rw [counted, numbered]
  · rw [Batch.rsps_push, sent, appended]

/-- A proxy without a password on a healthy pool: `DBSIZE` goes to every shard of a table of
three, `MGET` is split per key, and every backend answers `v`. -/
def healthyPool : Env where
  cmdAuthRequired _ := true
  cmdUnknown _ := false
  cmdReadAll cmd := cmd.name == "DBSIZE".toList
  isMultiCmd cmd := (cmd.name == "MGET".toList, cmd.rest.length)
  cmdFlag _ := .read
  cmdReadOnly _ := true
  key2Slot _ := 0
  subCmd mc i _ := .ok ⟨mc.cmd.name, [mc.cmd.value (i + 1)]⟩
  valkeyConn := ⟨[]⟩
  serverSlots := [0, 5461, 10923]
  readServer _ := "10.0.0.2:7001".toList
  writeServer _ := "10.0.0.1:7000".toList
  lease _ _ := .conn true ⟨none, none, .ok (.bulkString "v".toList), none⟩
  exec _ _ := .ok (.array [])

example :
    (Session.init.readingLoop healthyPool
        [⟨"GET".toList, ["k".toList]⟩, ⟨"MGET".toList, ["a".toList, "b".toList]⟩,
          ⟨"DBSIZE".toList, []⟩]).map (·.backQ.map fun r => (r.ctx.seq, r.ctx.subSeq)) =
      .ok [(0, 0), (1, 0), (1, 1), (2, 0), (2, 1), (2, 2)] := rfl

end Session

end ValkeyClusterProxy
