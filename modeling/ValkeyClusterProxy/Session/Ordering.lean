import ValkeyClusterProxy.Session.Writer
import Mathlib.Data.List.Nodup
import Mathlib.Data.List.Perm.Subperm

/-!
# Replies in request order

The reader gives every client command one sequence number, and the responses for number
`seq` are either one response (a forwarded or locally answered command) or the
sub-responses `0 .. k - 1` of one `k`-way coordinator.  Responses reach the writer in any
order.  This module proves that the writer turns every such arrival order into the replies
of `0 .. m - 1` in sequence order, where `m` is the first sequence number with a response
still missing, as long as no response carries an error, no redirection fails and the
client connection takes every write.

A `Batch` describes the responses of a run; `Inv` is the invariant of the writer between
two calls of `handleResp`, and the run theorem follows from one lemma per step of
`handleRespPipeline`.
-/

namespace ValkeyClusterProxy

open Proto

/-- The responses the writer receives for one sequence number: the response of a plain or
locally answered command, or the sub-responses of a split command with its coordinator. -/
inductive SeqRsps where
  | single (plRsp : PipelineResponse)
  | split (mc : MultiCmd) (subRsps : List PipelineResponse)

namespace SeqRsps

/-- All responses for the sequence number. -/
def rsps : SeqRsps → List PipelineResponse
  | single plRsp => [plRsp]
  | split _ subRsps => subRsps

/-- The shape the reader gives the responses of sequence number `seq`: a plain response,
or `k ≥ 1` sub-responses numbered `0 .. k - 1` pointing to one coordinator waiting for
`k`. -/
def WellFormed (seq : Nat) : SeqRsps → Prop
  | single plRsp => plRsp.ctx.seq = seq ∧ plRsp.ctx.parentCmd = none
  | split mc subRsps =>
      0 < subRsps.length ∧ mc.numSubCmds = subRsps.length ∧
        ∀ j (inBounds : j < subRsps.length), subRsps[j].ctx.seq = seq ∧
          subRsps[j].ctx.subSeq = j ∧ subRsps[j].ctx.parentCmd = some mc

/-- The reply the client should see for the sequence number, given the reply of each
response after redirection: the coordinator merges its sub-replies in `subSeq` order. -/
def reply (coalesceRsp : Command → List (Option Object) → Object)
    (reply : PipelineResponse → Object) : SeqRsps → Object
  | single plRsp => reply plRsp
  | split mc subRsps => coalesceRsp mc.cmd (subRsps.map fun plRsp => some (reply plRsp))

variable {seq : Nat} {shape : SeqRsps} {plRsp : PipelineResponse}

theorem seq_of_mem (wf : shape.WellFormed seq) (member : plRsp ∈ shape.rsps) :
    plRsp.ctx.seq = seq := by
  cases shape with
  | single only =>
      rw [List.mem_singleton.mp member]
      exact wf.1
  | split mc subRsps =>
      obtain ⟨j, inBounds, rfl⟩ := List.mem_iff_getElem.mp member
      exact (wf.2.2 j inBounds).1

theorem rsps_ne_nil (wf : shape.WellFormed seq) : shape.rsps ≠ [] := by
  cases shape with
  | single only => simp [rsps]
  | split mc subRsps => exact List.ne_nil_of_length_pos wf.1

/-- The sub-responses are numbered `0 .. k - 1` in list order. -/
theorem map_subSeq {mc : MultiCmd} {subRsps : List PipelineResponse}
    (wf : (split mc subRsps).WellFormed seq) :
    subRsps.map (·.ctx.subSeq) = List.range subRsps.length :=
  List.ext_getElem (by simp) fun j inBounds _ => by simpa using (wf.2.2 j (by simpa using inBounds)).2.1

theorem nodup_rsps (wf : shape.WellFormed seq) : shape.rsps.Nodup := by
  cases shape with
  | single only => exact List.nodup_singleton only
  | split mc subRsps =>
      exact List.Nodup.of_map (·.ctx.subSeq) ((map_subSeq wf).symm ▸ List.nodup_range _)

/-- Two sub-responses of one command with the same `subSeq` are the same response. -/
theorem eq_of_subSeq_eq {mc : MultiCmd} {subRsps : List PipelineResponse}
    (wf : (split mc subRsps).WellFormed seq) {other : PipelineResponse}
    (member : plRsp ∈ subRsps) (otherMember : other ∈ subRsps)
    (same : plRsp.ctx.subSeq = other.ctx.subSeq) : plRsp = other :=
  List.inj_on_of_nodup_map ((map_subSeq wf).symm ▸ List.nodup_range _) member otherMember same

end SeqRsps

/-- The responses a session's writer receives in a run: for each sequence number below
`numSeqs`, the responses the reader produced for that command. -/
structure Batch where
  numSeqs : Nat
  seqRsps : Nat → SeqRsps
  wellFormed : ∀ seq < numSeqs, (seqRsps seq).WellFormed seq

namespace Batch

variable (b : Batch)

/-- Every response of the run, by sequence number. -/
def rsps : List PipelineResponse :=
  (List.range b.numSeqs).flatMap fun seq => (b.seqRsps seq).rsps

/-- All responses of sequence number `seq` are among `delivered`. -/
def Complete (delivered : List PipelineResponse) (seq : Nat) : Prop :=
  ∀ plRsp ∈ (b.seqRsps seq).rsps, plRsp ∈ delivered

/-- `m` is the smallest sequence number not all of whose responses are among `delivered`,
or `numSeqs` when all are. -/
def FirstIncomplete (delivered : List PipelineResponse) (m : Nat) : Prop :=
  m ≤ b.numSeqs ∧ (∀ seq < m, b.Complete delivered seq) ∧
    (m < b.numSeqs → ¬ b.Complete delivered m)

/-- The replies of sequence numbers `0 .. m - 1`, in order. -/
def replies (coalesceRsp : Command → List (Option Object) → Object)
    (reply : PipelineResponse → Object) (m : Nat) : List Object :=
  (List.range m).map fun seq => (b.seqRsps seq).reply coalesceRsp reply

variable {b} {plRsp : PipelineResponse}

theorem mem_rsps : plRsp ∈ b.rsps ↔
    plRsp.ctx.seq < b.numSeqs ∧ plRsp ∈ (b.seqRsps plRsp.ctx.seq).rsps := by
  constructor
  · intro member
    obtain ⟨seq, inRange, inSeq⟩ := List.mem_flatMap.mp member
    have below := List.mem_range.mp inRange
    rw [SeqRsps.seq_of_mem (b.wellFormed seq below) inSeq]
    exact ⟨below, inSeq⟩
  · rintro ⟨below, inSeq⟩
    exact List.mem_flatMap.mpr ⟨_, List.mem_range.mpr below, inSeq⟩

theorem nodup_rsps : b.rsps.Nodup := by
  refine List.nodup_flatMap.mpr ⟨fun seq inRange => ?_, ?_⟩
  · exact SeqRsps.nodup_rsps (b.wellFormed seq (List.mem_range.mp inRange))
  · refine (List.pairwise_lt_range b.numSeqs).imp_of_mem fun {i j} iIn jIn lt => ?_
    intro plRsp inI inJ
    have atI := SeqRsps.seq_of_mem (b.wellFormed i (List.mem_range.mp iIn)) inI
    have atJ := SeqRsps.seq_of_mem (b.wellFormed j (List.mem_range.mp jIn)) inJ
    omega

theorem replies_succ (coalesceRsp : Command → List (Option Object) → Object)
    (reply : PipelineResponse → Object) (m : Nat) :
    b.replies coalesceRsp reply (m + 1) =
      b.replies coalesceRsp reply m ++ [(b.seqRsps m).reply coalesceRsp reply] := by
  simp [replies, List.range_succ]

/-- A sequence number of the run with none of its responses delivered is incomplete. -/
theorem not_complete_of_forall_ne {delivered : List PipelineResponse} {seq : Nat}
    (below : seq < b.numSeqs) (none : ∀ plRsp ∈ delivered, plRsp.ctx.seq ≠ seq) :
    ¬ b.Complete delivered seq := by
  intro complete
  obtain ⟨first, rest, shape⟩ := List.exists_cons_of_ne_nil
    (SeqRsps.rsps_ne_nil (b.wellFormed seq below))
  have firstIn : first ∈ (b.seqRsps seq).rsps := by rw [shape]; exact List.mem_cons_self _ _
  exact none first (complete first firstIn)
    (SeqRsps.seq_of_mem (b.wellFormed seq below) firstIn)

end Batch

section Steps

variable {net : Network} {coalesceRsp : Command → List (Option Object) → Object}
  {s : Session} {plRsp : PipelineResponse} {obj : Object}

theorem writeClient_of_writable (writable : ∀ out obj, net.write out obj = none) (buf : Object) :
    Session.writeClient net s buf = ({ s with written := s.written ++ [buf] }, none) := by
  simp [Session.writeClient, writable]

/-- A response whose redirection is settled with a reply, at its turn on an open session, is
written by `writeResp` after being counted done. -/
theorem handleResp_of_settled (turn : plRsp.ctx.seq = s.rspSeq)
    (settled : net.redirectedRsp plRsp = .ok (.ok obj)) (isOpen : s.closed = false) :
    Session.handleResp net coalesceRsp s plRsp =
      .ok (Session.writeResp net coalesceRsp (s.markDone plRsp) plRsp obj) := by
  rw [Session.handleResp_of_turn turn, settled]
  simp [Except.map, Session.finishResp, isOpen]

end Steps

/-- A duplicate-free list inside a duplicate-free list holds all of it exactly when it is
as long. -/
theorem forall_mem_iff_length_eq {α : Type} {part whole : List α} (nodupPart : part.Nodup)
    (nodupWhole : whole.Nodup) (inside : part ⊆ whole) :
    (∀ x ∈ whole, x ∈ part) ↔ part.length = whole.length := by
  constructor
  · intro covers
    exact Nat.le_antisymm (nodupPart.subperm inside).length_le
      (nodupWhole.subperm covers).length_le
  · intro same x member
    exact ((nodupPart.subperm inside).perm_of_length_le same.ge).symm.subset member

/-- Handling the pending response moves it from pending to handled. -/
theorem perm_handled {α : Type} {done heap delivered : List α} {x : α}
    (perm : (done ++ heap ++ [x]).Perm delivered) : (done ++ [x] ++ heap ++ []).Perm delivered := by
  rw [List.append_nil, List.append_assoc]
  exact ((@List.perm_middle _ x done heap).trans (@List.perm_append_comm _ [x] (done ++ heap))).trans perm

section Invariant

variable (b : Batch) (coalesceRsp : Command → List (Option Object) → Object)
  (reply : PipelineResponse → Object)

/-- The writer between two calls of `handleResp`, after the responses `delivered` have
arrived.  Those are split into the ones handled (`reqWgDone`), the ones parked in `heap`,
and the ones `pending` a call; every sequence number below `rspSeq` is handled in full and
written, `rspSeq` is not, and its coordinator holds exactly its handled sub-responses. -/
structure Inv (delivered : List PipelineResponse) (s : Session)
    (heap pending : List PipelineResponse) : Prop where
  perm : (s.reqWgDone ++ heap ++ pending).Perm delivered
  rspSeq_le : s.rspSeq ≤ b.numSeqs
  complete : ∀ seq < s.rspSeq, b.Complete s.reqWgDone seq
  incomplete : s.rspSeq < b.numSeqs → ¬ b.Complete s.reqWgDone s.rspSeq
  done_le : ∀ plRsp ∈ s.reqWgDone, plRsp.ctx.seq ≤ s.rspSeq
  heap_ge : ∀ plRsp ∈ heap, s.rspSeq ≤ plRsp.ctx.seq
  sorted : SeqSorted heap
  written : s.written = b.replies coalesceRsp reply s.rspSeq
  received : (s.progressOf s.rspSeq).received =
    (s.reqWgDone.filter (·.ctx.seq == s.rspSeq)).length
  placed : ∀ plRsp ∈ s.reqWgDone, plRsp.ctx.seq = s.rspSeq →
    (s.progressOf s.rspSeq).subResponses plRsp.ctx.subSeq = some (reply plRsp)
  fresh : ∀ seq, s.rspSeq < seq → s.subCmdProgress seq = none
  isOpen : s.closed = false

/-- The writer when `handleRespPipeline` has returned: nothing pending, and every parked
response is for a later sequence number than `rspSeq`. -/
def AtRest (delivered : List PipelineResponse) (s : Session) : Prop :=
  Inv b coalesceRsp reply delivered s s.rspHeap [] ∧ ∀ plRsp ∈ s.rspHeap, s.rspSeq < plRsp.ctx.seq

variable {b coalesceRsp reply} {delivered : List PipelineResponse} {s : Session}
  {heap pending : List PipelineResponse} {plRsp : PipelineResponse}

/-- A pending response is neither handled nor parked. -/
theorem Inv.pending_fresh (inv : Inv b coalesceRsp reply delivered s heap (plRsp :: pending))
    (nodup : delivered.Nodup) : plRsp ∉ s.reqWgDone ∧ plRsp ∉ heap := by
  have all := inv.perm.nodup_iff.mpr nodup
  have apart := List.disjoint_of_nodup_append all
  have notBefore : plRsp ∉ s.reqWgDone ++ heap := fun member => apart member (List.mem_cons_self _ _)
  simpa using notBefore

/-- No response is both handled and parked. -/
theorem Inv.done_heap_disjoint (inv : Inv b coalesceRsp reply delivered s heap pending)
    (nodup : delivered.Nodup) : s.reqWgDone.Disjoint heap :=
  List.disjoint_of_nodup_append (List.Nodup.of_append_left (inv.perm.nodup_iff.mpr nodup))

/-- At rest, `rspSeq` is the first sequence number with a response not yet delivered. -/
theorem AtRest.firstIncomplete (rest : AtRest b coalesceRsp reply delivered s) :
    b.FirstIncomplete delivered s.rspSeq := by
  obtain ⟨inv, later⟩ := rest
  have handledDelivered : ∀ x ∈ s.reqWgDone, x ∈ delivered := fun x member =>
    inv.perm.subset (List.mem_append_left _ (List.mem_append_left _ member))
  refine ⟨inv.rspSeq_le, fun seq below x member => handledDelivered x (inv.complete seq below x member),
    fun below complete => inv.incomplete below fun x member => ?_⟩
  have arrived := inv.perm.symm.subset (complete x member)
  simp only [List.append_nil, List.mem_append] at arrived
  rcases arrived with handled | parked
  · exact handled
  · have atSeq := SeqRsps.seq_of_mem (b.wellFormed _ below) member
    have := later x parked
    omega

/-- The pending response belongs to the sequence number whose turn it is. -/
theorem Inv.pending_at_turn (inv : Inv b coalesceRsp reply delivered s heap [plRsp])
    (inBatch : ∀ x ∈ delivered, x ∈ b.rsps) (turn : plRsp.ctx.seq = s.rspSeq) :
    s.rspSeq < b.numSeqs ∧ plRsp ∈ (b.seqRsps s.rspSeq).rsps := by
  have arrived : plRsp ∈ delivered := inv.perm.subset (by simp)
  rw [← turn]
  exact Batch.mem_rsps.mp (inBatch _ arrived)

/-- A parked response of the sequence number whose turn it is was delivered, so it is one
of that number's responses. -/
theorem Inv.mem_seqRsps_of_heap (inv : Inv b coalesceRsp reply delivered s heap pending)
    (inBatch : ∀ x ∈ delivered, x ∈ b.rsps) {x : PipelineResponse} (parked : x ∈ heap) :
    x ∈ (b.seqRsps x.ctx.seq).rsps :=
  (Batch.mem_rsps.mp (inBatch x (inv.perm.subset (by simp [parked])))).2

/-- Handling the last missing response of `rspSeq` moves the writer to the next sequence
number, with the reply of `rspSeq` written. -/
theorem Inv.advance (inv : Inv b coalesceRsp reply delivered s heap [plRsp])
    (nodup : delivered.Nodup) (inBatch : ∀ x ∈ delivered, x ∈ b.rsps)
    (turn : plRsp.ctx.seq = s.rspSeq) {s' : Session}
    (done' : s'.reqWgDone = s.reqWgDone ++ [plRsp]) (seq' : s'.rspSeq = s.rspSeq + 1)
    (completed : b.Complete s'.reqWgDone s.rspSeq)
    (written' : s'.written = s.written ++ [(b.seqRsps s.rspSeq).reply coalesceRsp reply])
    (fresh' : ∀ seq, s.rspSeq < seq → s'.subCmdProgress seq = s.subCmdProgress seq)
    (open' : s'.closed = false) : Inv b coalesceRsp reply delivered s' heap [] := by
  obtain ⟨below, -⟩ := inv.pending_at_turn inBatch turn
  obtain ⟨-, notParked⟩ := inv.pending_fresh nodup
  have doneLe : ∀ x ∈ s'.reqWgDone, x.ctx.seq ≤ s.rspSeq := by
    intro x member
    rw [done', List.mem_append, List.mem_singleton] at member
    rcases member with handled | rfl
    · exact inv.done_le x handled
    · exact turn.le
  have noneNext : ∀ x ∈ s'.reqWgDone, x.ctx.seq ≠ s'.rspSeq := fun x member => by
    have := doneLe x member; omega
  have nextProgress : s'.progressOf s'.rspSeq = .empty := by
    simp [Session.progressOf, seq', fresh', inv.fresh]
  refine
    { perm := by
        rw [done']
        exact perm_handled inv.perm
      rspSeq_le := by omega
      complete := fun seq below' x member => by
        rcases Nat.lt_succ_iff_lt_or_eq.mp (seq' ▸ below') with earlier | rfl
        · rw [done']; exact List.mem_append_left _ (inv.complete seq earlier x member)
        · exact completed x member
      incomplete := fun next => b.not_complete_of_forall_ne next noneNext
      done_le := fun x member => by have := doneLe x member; omega
      heap_ge := fun x parked => by
        have atLeast := inv.heap_ge x parked
        rw [seq']
        refine Nat.succ_le_of_lt (lt_of_le_of_ne atLeast fun same => ?_)
        have inSeq := inv.mem_seqRsps_of_heap inBatch parked
        rw [← same] at inSeq
        have handled := completed x inSeq
        rw [done', List.mem_append, List.mem_singleton] at handled
        rcases handled with handled | rfl
        · exact inv.done_heap_disjoint nodup handled parked
        · exact notParked parked
      sorted := inv.sorted
      written := by rw [written', inv.written, seq', Batch.replies_succ]
      received := by
        rw [nextProgress, List.filter_eq_nil_iff.mpr fun x member => by simpa using noneNext x member]
        rfl
      placed := fun x member atNext => absurd atNext (noneNext x member)
      fresh := fun seq later => by rw [fresh' seq (by omega)]; exact inv.fresh seq (by omega)
      isOpen := open' }

/-- Handling a sub-response that leaves its coordinator waiting keeps the writer at the
same sequence number. -/
theorem Inv.stay (inv : Inv b coalesceRsp reply delivered s heap [plRsp])
    (turn : plRsp.ctx.seq = s.rspSeq) {s' : Session}
    (done' : s'.reqWgDone = s.reqWgDone ++ [plRsp]) (seq' : s'.rspSeq = s.rspSeq)
    (notCompleted : ¬ b.Complete s'.reqWgDone s.rspSeq) (written' : s'.written = s.written)
    (received' : (s'.progressOf s.rspSeq).received = (s.progressOf s.rspSeq).received + 1)
    (placed' : ∀ x ∈ s'.reqWgDone, x.ctx.seq = s.rspSeq →
      (s'.progressOf s.rspSeq).subResponses x.ctx.subSeq = some (reply x))
    (fresh' : ∀ seq, s.rspSeq < seq → s'.subCmdProgress seq = s.subCmdProgress seq)
    (open' : s'.closed = false) : Inv b coalesceRsp reply delivered s' heap [] where
  perm := done' ▸ perm_handled inv.perm
  rspSeq_le := seq' ▸ inv.rspSeq_le
  complete := fun seq below x member => by
    rw [done']; exact List.mem_append_left _ (inv.complete seq (seq' ▸ below) x member)
  incomplete := fun _ => seq' ▸ notCompleted
  done_le := fun x member => by
    rw [done', List.mem_append, List.mem_singleton] at member
    rcases member with handled | rfl
    · exact seq' ▸ inv.done_le x handled
    · exact seq' ▸ turn.le
  heap_ge := fun x parked => seq' ▸ inv.heap_ge x parked
  sorted := inv.sorted
  written := by rw [written', inv.written, seq']
  received := by
    rw [seq', received', inv.received, done', List.filter_append]
    simp [turn]
  placed := fun x member atSeq => seq' ▸ placed' x member (seq' ▸ atSeq)
  fresh := fun seq later => by rw [fresh' seq (seq' ▸ later)]; exact inv.fresh seq (seq' ▸ later)
  isOpen := open'

/-- The sub-responses of a split sequence number's turn: the pending one points to the
coordinator, and every delivered response of that number is one of its sub-responses. -/
theorem Inv.split_facts (inv : Inv b coalesceRsp reply delivered s heap [plRsp])
    (inBatch : ∀ x ∈ delivered, x ∈ b.rsps) (turn : plRsp.ctx.seq = s.rspSeq)
    {mc : MultiCmd} {subRsps : List PipelineResponse}
    (shape : b.seqRsps s.rspSeq = .split mc subRsps) :
    (SeqRsps.split mc subRsps).WellFormed s.rspSeq ∧ plRsp ∈ subRsps ∧
      plRsp.ctx.parentCmd = some mc ∧
      ∀ x ∈ s.reqWgDone ++ [plRsp], x.ctx.seq = s.rspSeq → x ∈ subRsps := by
  obtain ⟨below, inSeq⟩ := inv.pending_at_turn inBatch turn
  have wf := b.wellFormed _ below
  rw [shape] at wf inSeq
  obtain ⟨j, inBounds, atJ⟩ := List.mem_iff_getElem.mp inSeq
  refine ⟨wf, inSeq, atJ ▸ (wf.2.2 j inBounds).2.2, fun x member atSeq => ?_⟩
  have arrived : x ∈ delivered := inv.perm.subset (by
    simp only [List.mem_append] at member ⊢
    tauto)
  have := (Batch.mem_rsps.mp (inBatch x arrived)).2
  rwa [atSeq, shape] at this

/-- After the pending sub-response is placed, every handled sub-response of `rspSeq` sits
at its `subSeq` in the coordinator. -/
theorem Inv.placed_after (inv : Inv b coalesceRsp reply delivered s heap [plRsp])
    (nodup : delivered.Nodup) (inBatch : ∀ x ∈ delivered, x ∈ b.rsps)
    (turn : plRsp.ctx.seq = s.rspSeq) {mc : MultiCmd} {subRsps : List PipelineResponse}
    (shape : b.seqRsps s.rspSeq = .split mc subRsps) :
    ∀ x ∈ s.reqWgDone ++ [plRsp], x.ctx.seq = s.rspSeq →
      Function.update (s.progressOf s.rspSeq).subResponses plRsp.ctx.subSeq
        (some (reply plRsp)) x.ctx.subSeq = some (reply x) := by
  obtain ⟨wf, pendingSub, -, subOf⟩ := inv.split_facts inBatch turn shape
  intro x member atSeq
  rcases List.mem_append.mp member with handled | pending
  · have other : x.ctx.subSeq ≠ plRsp.ctx.subSeq := fun same =>
      (inv.pending_fresh nodup).1 (SeqRsps.eq_of_subSeq_eq wf (subOf x member atSeq)
        pendingSub same ▸ handled)
    rw [Function.update_noteq other]
    exact inv.placed x handled atSeq
  · rw [List.mem_singleton.mp pending, Function.update_same]

/-- The pending sub-response completes its sequence number exactly when the coordinator
has then received as many sub-responses as it waits for. -/
theorem Inv.complete_iff_received (inv : Inv b coalesceRsp reply delivered s heap [plRsp])
    (nodup : delivered.Nodup) (inBatch : ∀ x ∈ delivered, x ∈ b.rsps)
    (turn : plRsp.ctx.seq = s.rspSeq) {mc : MultiCmd} {subRsps : List PipelineResponse}
    (shape : b.seqRsps s.rspSeq = .split mc subRsps) :
    b.Complete (s.reqWgDone ++ [plRsp]) s.rspSeq ↔
      (s.progressOf s.rspSeq).received + 1 = mc.numSubCmds := by
  obtain ⟨wf, -, -, subOf⟩ := inv.split_facts inBatch turn shape
  let atTurn := (s.reqWgDone ++ [plRsp]).filter (·.ctx.seq == s.rspSeq)
  have nodupHandled : (s.reqWgDone ++ [plRsp]).Nodup :=
    (inv.perm.nodup_iff.mpr nodup).sublist (by simp)
  have counted : atTurn.length = (s.progressOf s.rspSeq).received + 1 := by
    simp [atTurn, List.filter_append, inv.received, turn]
  have inside : atTurn ⊆ subRsps := fun x member => by
    obtain ⟨handled, atSeq⟩ := List.mem_filter.mp member
    exact subOf x handled (by simpa using atSeq)
  have nodupSub : subRsps.Nodup := SeqRsps.nodup_rsps wf
  have covers := forall_mem_iff_length_eq (nodupHandled.filter _) nodupSub inside
  rw [counted, ← wf.2.1] at covers
  rw [← covers, Batch.Complete, shape]
  refine forall₂_congr fun x sub => ⟨fun handled => List.mem_filter.mpr ⟨handled, ?_⟩,
    fun member => (List.mem_filter.mp member).1⟩
  simpa using SeqRsps.seq_of_mem wf sub

/-- Once all sub-responses of `rspSeq` are in, the coordinator hands `CoalesceRsp` the
sub-replies in `subSeq` order. -/
theorem Inv.collected_eq (inv : Inv b coalesceRsp reply delivered s heap [plRsp])
    (nodup : delivered.Nodup) (inBatch : ∀ x ∈ delivered, x ∈ b.rsps)
    (turn : plRsp.ctx.seq = s.rspSeq) {mc : MultiCmd} {subRsps : List PipelineResponse}
    (shape : b.seqRsps s.rspSeq = .split mc subRsps)
    (complete : b.Complete (s.reqWgDone ++ [plRsp]) s.rspSeq) :
    mc.collected ((s.progressOf s.rspSeq).onSubCmdFinished plRsp.ctx.subSeq (reply plRsp)) =
      subRsps.map fun x => some (reply x) := by
  obtain ⟨wf, -, -, -⟩ := inv.split_facts inBatch turn shape
  rw [MultiCmd.collected, wf.2.1, ← SeqRsps.map_subSeq wf, List.map_map]
  refine List.map_congr_left fun x sub => ?_
  have handled := complete x (by rw [shape]; exact sub)
  exact inv.placed_after nodup inBatch turn shape x handled (SeqRsps.seq_of_mem wf sub)

end Invariant

section Run

variable {net : Network} {b : Batch} {coalesceRsp : Command → List (Option Object) → Object}
  {reply : PipelineResponse → Object} {delivered : List PipelineResponse} {s : Session}
  {heap : List PipelineResponse} {plRsp : PipelineResponse}

/-- `handleResp` on the response whose turn it is keeps the invariant, with the response
moved from pending to handled. -/
theorem Inv.handle (inv : Inv b coalesceRsp reply delivered s heap [plRsp])
    (nodup : delivered.Nodup) (inBatch : ∀ x ∈ delivered, x ∈ b.rsps)
    (settled : net.redirectedRsp plRsp = .ok (.ok (reply plRsp)))
    (writable : ∀ out obj, net.write out obj = none) (turn : plRsp.ctx.seq = s.rspSeq) :
    ∃ s', Session.handleResp net coalesceRsp s plRsp = .ok (s', none) ∧
      s'.rspHeap = s.rspHeap ∧ Inv b coalesceRsp reply delivered s' heap [] := by
  obtain ⟨below, inSeq⟩ := inv.pending_at_turn inBatch turn
  rw [handleResp_of_settled turn settled inv.isOpen]
  cases shape : b.seqRsps s.rspSeq with
  | single only =>
      have wf := b.wellFormed _ below
      rw [shape] at wf inSeq
      obtain rfl := List.mem_singleton.mp inSeq
      have step : Session.writeResp net coalesceRsp (s.markDone plRsp) plRsp (reply plRsp) =
          ({ s.markDone plRsp with written := s.written ++ [reply plRsp] }, none) := by
        rw [Session.writeResp_of_plain wf.2, writeClient_of_writable writable]; rfl
      refine ⟨_, congrArg Except.ok step, rfl, ?_⟩
      refine inv.advance nodup inBatch turn rfl (by simp [Session.rspSeq_markDone, wf.2])
        (fun x member => ?_) (by rw [shape]; rfl) (fun _ _ => rfl) inv.isOpen
      rw [shape, SeqRsps.rsps, List.mem_singleton] at member
      simp [member]
  | split mc subRsps =>
      obtain ⟨-, -, parent, -⟩ := inv.split_facts inBatch turn shape
      have sameSeq : (s.markDone plRsp).rspSeq = s.rspSeq := by
        simp [Session.rspSeq_markDone, parent]
      have counts := inv.complete_iff_received nodup inBatch turn shape
      rw [Session.writeResp_of_parentCmd parent]
      simp only [MultiCmd.finished, Session.progressOf, Session.subCmdProgress_markDone, turn,
        SubCmdProgress.received_onSubCmdFinished, beq_iff_eq] at counts ⊢
      split
      next finished =>
          have complete := counts.mpr finished
          refine ⟨_, congrArg Except.ok (writeClient_of_writable writable _), rfl, ?_⟩
          refine inv.advance nodup inBatch turn rfl (by simp [sameSeq]) complete ?_
            (fun seq later => Function.update_noteq (by omega) _ _) inv.isOpen
          have := inv.collected_eq nodup inBatch turn shape complete
          simp only [Session.progressOf] at this
          simp [shape, SeqRsps.reply, this]
      next waiting =>
          refine ⟨_, rfl, rfl, inv.stay turn rfl sameSeq (mt counts.mp waiting) rfl ?_ ?_
            (fun seq later => Function.update_noteq (by omega) _ _) inv.isOpen⟩
          · simp [Session.progressOf]
          · intro x member atSeq
            have := inv.placed_after nodup inBatch turn shape x member atSeq
            simpa [Session.progressOf, turn] using this

/-- The invariant does not read the session's own heap field. -/
theorem Inv.withHeap (inv : Inv b coalesceRsp reply delivered s heap pending)
    (parked : List PipelineResponse) :
    Inv b coalesceRsp reply delivered { s with rspHeap := parked } heap pending :=
  { inv with }

/-- Popping the top of the heap makes it the pending response. -/
theorem Inv.pop {top : PipelineResponse} {rest : List PipelineResponse}
    (inv : Inv b coalesceRsp reply delivered s (top :: rest) []) :
    Inv b coalesceRsp reply delivered { s with rspHeap := rest } rest [top] :=
  { inv with
    perm := by
      have swapped := (@List.perm_append_comm _ rest [top]).append_left s.reqWgDone
      simpa using swapped.trans (by simpa using inv.perm)
    heap_ge := fun x parked => inv.heap_ge x (List.mem_cons_of_mem top parked)
    sorted := (List.sorted_cons.mp inv.sorted).2 }

/-- The drain loop stops at a heap whose top is out of turn: the writer is then at rest. -/
theorem Inv.atRest_of_offTurn {top : PipelineResponse} {rest : List PipelineResponse}
    (inv : Inv b coalesceRsp reply delivered s (top :: rest) [])
    (offTurn : top.ctx.seq ≠ s.rspSeq) :
    AtRest b coalesceRsp reply delivered { s with rspHeap := top :: rest } := by
  refine ⟨inv.withHeap _, fun x parked => ?_⟩
  have topAfter : s.rspSeq < top.ctx.seq :=
    lt_of_le_of_ne (inv.heap_ge top (by simp)) (Ne.symm offTurn)
  rcases List.mem_cons.mp parked with rfl | later
  · exact topAfter
  · exact lt_of_lt_of_le topAfter ((List.sorted_cons.mp inv.sorted).1 x later)

/-- A response arriving at rest is pending, with the heap as it stands. -/
theorem AtRest.arrive (rest : AtRest b coalesceRsp reply delivered s) :
    Inv b coalesceRsp reply (delivered ++ [plRsp]) s s.rspHeap [plRsp] :=
  { rest.1 with perm := by simpa using rest.1.perm.append_right [plRsp] }

/-- The drain loop, from the invariant with nothing pending, returns at rest. -/
theorem Inv.drain (inv : Inv b coalesceRsp reply delivered s heap [])
    (nodup : delivered.Nodup) (inBatch : ∀ x ∈ delivered, x ∈ b.rsps)
    (settled : ∀ x ∈ b.rsps, net.redirectedRsp x = .ok (.ok (reply x)))
    (writable : ∀ out obj, net.write out obj = none) :
    ∃ s', Session.drainHeap net coalesceRsp s heap = .ok (s', none) ∧
      AtRest b coalesceRsp reply delivered s' := by
  induction heap generalizing s with
  | nil => exact ⟨_, rfl, inv.withHeap [], by simp⟩
  | cons top rest ih =>
      unfold Session.drainHeap
      by_cases turn : top.ctx.seq = s.rspSeq
      · rw [if_pos turn]
        have arrived : top ∈ delivered := inv.perm.subset (by simp)
        obtain ⟨mid, handled, -, midInv⟩ :=
          inv.pop.handle nodup inBatch (settled top (inBatch top arrived)) writable turn
        rw [handled]
        exact ih midInv
      · rw [if_neg turn]
        exact ⟨_, rfl, inv.atRest_of_offTurn turn⟩

/-- Parking a response out of turn keeps the writer at rest. -/
theorem AtRest.park (rest : AtRest b coalesceRsp reply delivered s)
    (nodup : (delivered ++ [plRsp]).Nodup) (inBatch : ∀ x ∈ delivered ++ [plRsp], x ∈ b.rsps)
    (offTurn : plRsp.ctx.seq ≠ s.rspSeq) :
    AtRest b coalesceRsp reply (delivered ++ [plRsp])
      { s with rspHeap := heapPush s.rspHeap plRsp } := by
  obtain ⟨inv, later⟩ := rest
  have fresh : plRsp ∉ delivered := (List.nodup_append.mp nodup).2.2 |> fun apart member =>
    apart member (List.mem_singleton_self plRsp)
  have after : s.rspSeq < plRsp.ctx.seq := by
    refine lt_of_le_of_ne (Nat.le_of_not_lt fun earlier => fresh ?_) (Ne.symm offTurn)
    have inSeq := (Batch.mem_rsps.mp (inBatch plRsp (by simp))).2
    exact inv.perm.subset (by simp [inv.complete _ earlier plRsp inSeq])
  have pushed := perm_heapPush s.rspHeap plRsp
  refine ⟨{ inv with
    perm := by
      have moved := (pushed.trans (@List.perm_append_comm _ [plRsp] s.rspHeap)).append_left s.reqWgDone
      simpa using moved.trans (by simpa using inv.perm.append_right [plRsp])
    heap_ge := fun x parked => by
      rcases List.mem_cons.mp (pushed.subset parked) with rfl | old
      · exact after.le
      · exact inv.heap_ge x old
    sorted := seqSorted_heapPush inv.sorted plRsp }, fun x parked => ?_⟩
  rcases List.mem_cons.mp (pushed.subset parked) with rfl | old
  · exact after
  · exact later x old

/-- One call of `handleRespPipeline` from rest, on a response of the batch not delivered
before, returns at rest with the response delivered. -/
theorem AtRest.step (rest : AtRest b coalesceRsp reply delivered s)
    (nodup : (delivered ++ [plRsp]).Nodup) (inBatch : ∀ x ∈ delivered ++ [plRsp], x ∈ b.rsps)
    (settled : ∀ x ∈ b.rsps, net.redirectedRsp x = .ok (.ok (reply x)))
    (writable : ∀ out obj, net.write out obj = none) :
    ∃ s', Session.handleRespPipeline net coalesceRsp s plRsp = .ok (s', none) ∧
      AtRest b coalesceRsp reply (delivered ++ [plRsp]) s' := by
  unfold Session.handleRespPipeline
  by_cases turn : plRsp.ctx.seq = s.rspSeq
  · rw [if_pos turn]
    obtain ⟨mid, handled, sameHeap, midInv⟩ :=
      rest.arrive.handle nodup inBatch (settled plRsp (inBatch plRsp (by simp))) writable turn
    rw [handled]
    dsimp only
    rw [sameHeap]
    exact midInv.drain nodup inBatch settled writable
  · rw [if_neg turn]
    exact ⟨_, rfl, rest.park nodup inBatch turn⟩

/-- The writing loop from rest, over responses of the batch not delivered before, never
aborts and returns at rest. -/
theorem AtRest.writingLoop (rest : AtRest b coalesceRsp reply delivered s)
    (arrivals : List PipelineResponse) (nodup : (delivered ++ arrivals).Nodup)
    (inBatch : ∀ x ∈ delivered ++ arrivals, x ∈ b.rsps)
    (settled : ∀ x ∈ b.rsps, net.redirectedRsp x = .ok (.ok (reply x)))
    (writable : ∀ out obj, net.write out obj = none) :
    ∃ s', Session.writingLoop net coalesceRsp s arrivals = .ok s' ∧
      AtRest b coalesceRsp reply (delivered ++ arrivals) s' := by
  induction arrivals generalizing delivered s with
  | nil => exact ⟨s, rfl, by simpa using rest⟩
  | cons plRsp later ih =>
      have nodupNext : (delivered ++ [plRsp]).Nodup := nodup.sublist (by simp)
      have inBatchNext : ∀ x ∈ delivered ++ [plRsp], x ∈ b.rsps := fun x member =>
        inBatch x (by simp only [List.mem_append, List.mem_singleton, List.mem_cons] at member ⊢; tauto)
      obtain ⟨mid, stepped, midRest⟩ := rest.step nodupNext inBatchNext settled writable
      unfold Session.writingLoop
      rw [stepped]
      dsimp only
      simpa using ih midRest (by simpa using nodup) (by simpa using inBatch)

/-- A new session is at rest with nothing delivered. -/
theorem atRest_init : AtRest b coalesceRsp reply [] Session.init where
  left :=
    { perm := List.Perm.refl []
      rspSeq_le := Nat.zero_le _
      complete := fun _ below => absurd below (Nat.not_lt_zero _)
      incomplete := fun below => b.not_complete_of_forall_ne below (by simp [Session.init])
      done_le := by simp [Session.init]
      heap_ge := fun _ parked => by cases parked
      sorted := List.sorted_nil
      written := rfl
      received := rfl
      placed := by simp [Session.init]
      fresh := fun _ _ => rfl
      isOpen := rfl }
  right := by intro x parked; cases parked

/-- The writing loop of a new session over responses of the batch, each arriving once,
returns, and the writer is then at rest. -/
theorem writingLoop_atRest (settled : ∀ x ∈ b.rsps, net.redirectedRsp x = .ok (.ok (reply x)))
    (writable : ∀ out obj, net.write out obj = none) {arrivals : List PipelineResponse}
    (nodup : arrivals.Nodup) (inBatch : ∀ x ∈ arrivals, x ∈ b.rsps) :
    ∃ s, Session.writingLoop net coalesceRsp Session.init arrivals = .ok s ∧
      AtRest b coalesceRsp reply arrivals s := by
  obtain ⟨s, ran, rest⟩ := (@atRest_init b coalesceRsp reply).writingLoop arrivals
    (by simpa using nodup) (by simpa using inBatch) settled writable
  exact ⟨s, ran, by simpa using rest⟩

/-- Once every response of the batch has been delivered, the writer at rest has drained:
each response was handled once, the heap is empty, and `rspSeq` is the number of sequence
numbers. -/
theorem AtRest.drained (rest : AtRest b coalesceRsp reply delivered s)
    (arrival : delivered.Perm b.rsps) :
    s.reqWgDone.Perm b.rsps ∧ s.rspHeap = [] ∧ s.rspSeq = b.numSeqs := by
  obtain ⟨le, -, incomplete⟩ := rest.firstIncomplete
  have atEnd : s.rspSeq = b.numSeqs := by
    refine Nat.le_antisymm le (Nat.le_of_not_lt fun below => incomplete below fun x inSeq => ?_)
    refine arrival.symm.subset (Batch.mem_rsps.mpr ?_)
    rw [SeqRsps.seq_of_mem (b.wellFormed _ below) inSeq]
    exact ⟨below, inSeq⟩
  have empty : s.rspHeap = [] := List.eq_nil_iff_forall_not_mem.mpr fun x parked => by
    have later := rest.2 x parked
    have arrivedX := rest.1.perm.subset (show x ∈ s.reqWgDone ++ s.rspHeap ++ [] by simp [parked])
    have below := (Batch.mem_rsps.mp (arrival.subset arrivedX)).1
    omega
  have handled := rest.1.perm
  rw [empty, List.append_nil, List.append_nil] at handled
  exact ⟨handled.trans arrival, empty, atEnd⟩

end Run

section InOrder

variable {net : Network} {coalesceRsp : Command → List (Option Object) → Object}

/-- Per-session ordering: for every batch of responses and every order in which they reach
the writer, after each arrival the writer has written exactly the replies of sequence
numbers `0 .. m - 1`, in order and once each, `m` being the first sequence number with a
response still missing; the run never aborts, so `panic("impossible")` is unreachable.
The assumptions are that every response settles to a reply (no error, no failed
redirection) and that the client takes every write. -/
theorem writingLoop_in_seq_order (b : Batch) (reply : PipelineResponse → Object)
    (settled : ∀ x ∈ b.rsps, net.redirectedRsp x = .ok (.ok (reply x)))
    (writable : ∀ out obj, net.write out obj = none)
    (order : List PipelineResponse) (arrival : order.Perm b.rsps) (n : Nat) :
    ∃ s, Session.writingLoop net coalesceRsp Session.init (order.take n) = .ok s ∧
      b.FirstIncomplete (order.take n) s.rspSeq ∧
      s.written = b.replies coalesceRsp reply s.rspSeq := by
  obtain ⟨s, ran, rest⟩ := writingLoop_atRest settled writable
    ((arrival.nodup_iff.mpr b.nodup_rsps).sublist (List.take_sublist n order))
    fun x member => arrival.subset (List.mem_of_mem_take member)
  exact ⟨s, ran, rest.firstIncomplete, rest.1.written⟩

/-- The response to the `seq`-th pipelined `GET k<seq>`, holding the value `v<seq>`. -/
def getRsp (seq : Nat) : PipelineResponse :=
  ⟨⟨some ⟨"GET".toList, [['k', Char.ofNat (48 + seq)]]⟩, true, 0, seq, 0, none⟩,
    .ok (.bulkString ['v', Char.ofNat (48 + seq)])⟩

/-- Two pipelined `GET`s. -/
def twoGets : Batch := ⟨2, fun seq => .single (getRsp seq), fun _ _ => ⟨rfl, rfl⟩⟩

/-- Neither response of `twoGets` carries an error or a redirection. -/
theorem redirectedRsp_twoGets (net : Network) :
    ∀ x ∈ twoGets.rsps, net.redirectedRsp x = .ok (.ok (x.rsp.toOption.getD .nullBulkString)) := by
  intro x member
  rw [show twoGets.rsps = [getRsp 0, getRsp 1] from rfl, List.mem_pair] at member
  rcases member with rfl | rfl <;> rfl

theorem writingLoop_in_seq_order_twoGets :
    ∃ s, Session.writingLoop Network.refused (fun _ _ => .nullArray)
        Session.init ([getRsp 1, getRsp 0].take 2) = .ok s ∧
      twoGets.FirstIncomplete ([getRsp 1, getRsp 0].take 2) s.rspSeq ∧
      s.written = twoGets.replies (fun _ _ => .nullArray)
        (fun x => x.rsp.toOption.getD .nullBulkString) s.rspSeq :=
  writingLoop_in_seq_order twoGets _
    (redirectedRsp_twoGets _)
    (fun _ _ => rfl) _ (List.Perm.swap _ _ []) 2

/-- Without errors the writer drains completely: once every response has arrived, each was
handled exactly once (so `wg.Done` was called once per response), the heap is empty,
`rspSeq` is the number of commands and every reply is written. -/
theorem writingLoop_drains (b : Batch) (reply : PipelineResponse → Object)
    (settled : ∀ x ∈ b.rsps, net.redirectedRsp x = .ok (.ok (reply x)))
    (writable : ∀ out obj, net.write out obj = none)
    (order : List PipelineResponse) (arrival : order.Perm b.rsps) :
    ∃ s, Session.writingLoop net coalesceRsp Session.init order = .ok s ∧
      s.reqWgDone.Perm b.rsps ∧ s.rspHeap = [] ∧ s.rspSeq = b.numSeqs ∧
      s.written = b.replies coalesceRsp reply b.numSeqs := by
  obtain ⟨s, ran, rest⟩ := writingLoop_atRest settled writable
    (arrival.nodup_iff.mpr b.nodup_rsps) fun x member => arrival.subset member
  obtain ⟨handled, empty, atEnd⟩ := rest.drained arrival
  exact ⟨s, ran, handled, empty, atEnd, atEnd ▸ rest.1.written⟩

theorem writingLoop_drains_twoGets :
    ∃ s, Session.writingLoop Network.refused (fun _ _ => .nullArray)
        Session.init [getRsp 1, getRsp 0] = .ok s ∧
      s.reqWgDone.Perm twoGets.rsps ∧ s.rspHeap = [] ∧ s.rspSeq = twoGets.numSeqs ∧
      s.written = twoGets.replies (fun _ _ => .nullArray)
        (fun x => x.rsp.toOption.getD .nullBulkString) twoGets.numSeqs :=
  writingLoop_drains twoGets _
    (redirectedRsp_twoGets _)
    (fun _ _ => rfl) _ (List.Perm.swap _ _ [])

end InOrder

end ValkeyClusterProxy
