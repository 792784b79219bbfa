import ValkeyClusterProxy.Dispatcher.Topology

/-!
# The initial topology load

`InitSlotTable` runs `reloadTopology`, which tries the startup nodes in the order `rand.Perm`
gives and stops at the first whose `doReload` does not fail; the named results keep the
error of the last attempt.  Over every such order:

* `initSlotTable_fails_iff`: the load reports an error exactly when the proxy has startup
  nodes and every one of them fails; with none it succeeds and leaves the slot table as it
  was;
* `initSlotTable_installs_first_success`: a successful load installs the `SlotInfo`s of the
  first node in that order whose `doReload` succeeds, every node tried before it having
  failed.
-/

namespace ValkeyClusterProxy

open Proto

namespace Dispatcher

variable {d : Dispatcher} {newSlotInfo : Data → SlotInfo} {localIP : Bytes}
  {behaviour : Endpoint → NodeBehaviour}

/-- `doReload` on the startup node at `index` fails with an error. -/
def FailsAt (d : Dispatcher) (newSlotInfo : Data → SlotInfo) (localIP : Bytes)
    (behaviour : Endpoint → NodeBehaviour) (index : Nat) : Prop :=
  ∃ err, d.doReload newSlotInfo localIP (behaviour (d.startupNodes.getD index [])) =
    .ok (.error err)

/-- The loop ends with an error exactly when every node it tries fails, and it tried one or
started from an error. -/
theorem reloadTopology_go_error_iff (indexes : List Nat) (last : Except GoError (List SlotInfo)) :
    (∃ err, reloadTopology.go d newSlotInfo localIP behaviour indexes last = .ok (.error err)) ↔
      (∀ i ∈ indexes, d.FailsAt newSlotInfo localIP behaviour i) ∧
        (indexes = [] → ∃ err, last = .error err) := by
  induction indexes generalizing last with
  | nil => simp [reloadTopology.go]
  | cons index rest ih =>
      unfold reloadTopology.go
      have notFirst : ¬ d.FailsAt newSlotInfo localIP behaviour index →
          ¬ ((∀ i ∈ index :: rest, d.FailsAt newSlotInfo localIP behaviour i) ∧
            (index :: rest = [] → ∃ err, last = .error err)) :=
        fun first ⟨each, _⟩ => first (each index (List.mem_cons_self _ _))
      rcases attempt : d.doReload newSlotInfo localIP (behaviour (d.startupNodes.getD index []))
        with abort | err | infos <;> simp only [attempt]
      · refine iff_of_false (fun ⟨_, wrong⟩ => by cases wrong) (notFirst fun ⟨_, failed⟩ => ?_)
        cases attempt.symm.trans failed
      · rw [ih, List.forall_mem_cons]
        exact ⟨fun ⟨each, _⟩ => ⟨⟨⟨err, attempt⟩, each⟩, nofun⟩,
          fun ⟨⟨_, each⟩, _⟩ => ⟨each, fun _ => ⟨err, rfl⟩⟩⟩
      · refine iff_of_false (fun ⟨_, wrong⟩ => by cases wrong) (notFirst fun ⟨_, failed⟩ => ?_)
        cases attempt.symm.trans failed

/-- A loop that ends with `SlotInfo`s got them from the first node it tried that did not fail,
every node before it having failed; or it tried none. -/
theorem reloadTopology_go_ok {indexes : List Nat} {last : Except GoError (List SlotInfo)}
    {infos : List SlotInfo}
    (ran : reloadTopology.go d newSlotInfo localIP behaviour indexes last = .ok (.ok infos)) :
    indexes = [] ∧ last = .ok infos ∨
      ∃ pre index post, indexes = pre ++ index :: post ∧
        (∀ i ∈ pre, d.FailsAt newSlotInfo localIP behaviour i) ∧
        d.doReload newSlotInfo localIP (behaviour (d.startupNodes.getD index [])) =
          .ok (.ok infos) := by
  induction indexes generalizing last with
  | nil => exact .inl ⟨rfl, Except.ok.inj ran⟩
  | cons index rest ih =>
      unfold reloadTopology.go at ran
      rcases attempt : d.doReload newSlotInfo localIP (behaviour (d.startupNodes.getD index []))
        with abort | err | found <;> simp only [attempt] at ran
      · cases ran
      · rcases ih ran with ⟨-, wrong⟩ | ⟨pre, i, post, split, before, succeeded⟩
        · cases wrong
        · refine .inr ⟨index :: pre, i, post, by rw [split, List.cons_append], ?_, succeeded⟩
          intro j tried
          rcases List.mem_cons.mp tried with rfl | earlier
          · exact ⟨err, attempt⟩
          · exact before j earlier
      · exact .inr ⟨[], index, rest, rfl, nofun, attempt.trans ran⟩

/-- Over an order of all the startup nodes, a property of the node at each index is a
property of each startup node. -/
theorem forall_getD_iff_of_perm {nodes : List Endpoint} {indexes : List Nat}
    (perm : indexes.Perm (List.range nodes.length)) (P : Endpoint → Prop) :
    (∀ i ∈ indexes, P (nodes.getD i [])) ↔ ∀ node ∈ nodes, P node := by
  simp only [perm.mem_iff, List.mem_range]
  constructor
  · intro each node member
    obtain ⟨i, below, rfl⟩ := List.getElem_of_mem member
    simpa [List.getD_eq_getElem?_getD, below] using each i below
  · intro each i below
    simpa [List.getD_eq_getElem?_getD, below] using each _ (List.getElem_mem below)

theorem indexes_eq_nil_iff {nodes : List Endpoint} {indexes : List Nat}
    (perm : indexes.Perm (List.range nodes.length)) : indexes = [] ↔ nodes = [] := by
  rw [← List.length_eq_zero, ← @List.length_eq_zero _ nodes, perm.length_eq,
    List.length_range]

/-- `InitSlotTable` reports the error of the reload, and installs the `SlotInfo`s of a
successful one. -/
theorem initSlotTable_eq {indexes : List Nat} :
    d.initSlotTable newSlotInfo localIP behaviour indexes =
      (reloadTopology.go d newSlotInfo localIP behaviour indexes (.ok [])).map fun reloaded =>
        reloaded.map fun slotInfos =>
          { d with slotTable := slotInfos.foldl SlotTable.setSlotInfo d.slotTable } := rfl

/-- Startup errors: for every order `rand.Perm` gives, `InitSlotTable` reports an error
exactly when the proxy has startup nodes and `doReload` fails with an error on every one of
them.  With no startup node it succeeds and leaves the dispatcher as it was, instead of
returning a startup error. -/
theorem initSlotTable_fails_iff (behaviour : Endpoint → NodeBehaviour) {indexes : List Nat}
    (perm : indexes.Perm (List.range d.startupNodes.length)) :
    ((∃ err, d.initSlotTable newSlotInfo localIP behaviour indexes = .ok (.error err)) ↔
      d.startupNodes ≠ [] ∧ ∀ node ∈ d.startupNodes,
        ∃ err, d.doReload newSlotInfo localIP (behaviour node) = .ok (.error err)) ∧
      (d.startupNodes = [] → d.initSlotTable newSlotInfo localIP behaviour indexes = .ok (.ok d)) := by
  have reported : (∃ err, d.initSlotTable newSlotInfo localIP behaviour indexes =
      .ok (.error err)) ↔
      ∃ err, reloadTopology.go d newSlotInfo localIP behaviour indexes (.ok []) = .ok (.error err) := by
    rw [initSlotTable_eq]
    rcases reloadTopology.go d newSlotInfo localIP behaviour indexes (.ok []) with _ | _ | _ <;>
      simp [Except.map]
  refine ⟨?_, fun empty => ?_⟩
  · rw [reported, reloadTopology_go_error_iff, and_comm]
    refine and_congr ?_ (forall_getD_iff_of_perm perm fun node =>
      ∃ err, d.doReload newSlotInfo localIP (behaviour node) = .ok (.error err))
    rw [Ne, ← indexes_eq_nil_iff perm]
    simp
  · rw [(indexes_eq_nil_iff perm).mpr empty]
    rfl

/-- A node that refuses the connection. -/
def refusingNode : NodeBehaviour where
  dial := some ⟨"dial tcp 10.0.0.1:7000: connect: connection refused".toList⟩
  auth := ⟨none, .ok (.simpleString "OK".toList)⟩
  readOnly := ⟨none, .ok (.simpleString "OK".toList)⟩
  clusterSlots := ⟨none, .ok .nullArray⟩
  clusterNodes := ⟨none, .ok .nullBulkString⟩

theorem initSlotTable_fails_iff_refused :
    [0].Perm (List.range sample.startupNodes.length) ∧
      ((∃ err, sample.initSlotTable sampleSlotInfo "10.0.0.9".toList (fun _ => refusingNode) [0] =
          .ok (.error err)) ↔
        sample.startupNodes ≠ [] ∧ ∀ node ∈ sample.startupNodes,
          ∃ err, sample.doReload sampleSlotInfo "10.0.0.9".toList ((fun _ => refusingNode) node) =
            .ok (.error err)) ∧
      (sample.startupNodes = [] →
        sample.initSlotTable sampleSlotInfo "10.0.0.9".toList (fun _ => refusingNode) [0] =
          .ok (.ok sample)) :=
  ⟨List.Perm.refl _, initSlotTable_fails_iff (fun _ => refusingNode) (List.Perm.refl _)⟩

/-- The first success wins: for every order `rand.Perm` gives, a successful `InitSlotTable`
installs the `SlotInfo`s built by `doReload` on the first node in that order whose
`doReload` succeeds, every node tried before it having failed with an error; or, with no
startup node, installs nothing. -/
theorem initSlotTable_installs_first_success {indexes : List Nat}
    (perm : indexes.Perm (List.range d.startupNodes.length)) {d' : Dispatcher}
    (loaded : d.initSlotTable newSlotInfo localIP behaviour indexes = .ok (.ok d')) :
    ∃ infos, d' = { d with slotTable := infos.foldl SlotTable.setSlotInfo d.slotTable } ∧
      (d.startupNodes = [] ∧ infos = [] ∨
        ∃ pre index post, indexes = pre ++ index :: post ∧
          (∀ i ∈ pre, d.FailsAt newSlotInfo localIP behaviour i) ∧
          d.doReload newSlotInfo localIP (behaviour (d.startupNodes.getD index [])) =
            .ok (.ok infos)) := by
  rw [initSlotTable_eq] at loaded
  rcases ran : reloadTopology.go d newSlotInfo localIP behaviour indexes (.ok []) with
    _ | _ | infos <;> rw [ran] at loaded <;> cases loaded
  refine ⟨infos, rfl, (reloadTopology_go_ok ran).imp (fun ⟨untried, empty⟩ => ?_) id⟩
  exact ⟨(indexes_eq_nil_iff perm).mp untried, (Except.ok.inj empty).symm⟩

theorem initSlotTable_installs_first_success_sample :
    [0].Perm (List.range sample.startupNodes.length) ∧
      ∃ d', sample.initSlotTable sampleSlotInfo "10.0.0.9".toList
          (fun _ => answering (.array [.nullArray]) clusterNodesWithCport) [0] = .ok (.ok d') ∧
        ∃ infos, d' = { sample with slotTable := infos.foldl SlotTable.setSlotInfo sample.slotTable } ∧
          (sample.startupNodes = [] ∧ infos = [] ∨
            ∃ pre index post, [0] = pre ++ index :: post ∧
              (∀ i ∈ pre, sample.FailsAt sampleSlotInfo "10.0.0.9".toList
                (fun _ => answering (.array [.nullArray]) clusterNodesWithCport) i) ∧
              sample.doReload sampleSlotInfo "10.0.0.9".toList
                  ((fun _ => answering (.array [.nullArray]) clusterNodesWithCport)
                    (sample.startupNodes.getD index [])) = .ok (.ok infos)) :=
  ⟨List.Perm.refl _, _, rfl, initSlotTable_installs_first_success (List.Perm.refl _) rfl⟩

end Dispatcher

end ValkeyClusterProxy
