import ValkeyClusterProxy.Go.Strings
import ValkeyClusterProxy.ValkeyConn

/-!
# Reading the cluster topology

`doReload` asks one node for `CLUSTER SLOTS` and `CLUSTER NODES`.  It builds a `SlotInfo`
per entry of the first reply and the set of alive nodes from the lines of the second.  It
then rewrites each slot range's read endpoints by the read preference.  `reloadTopology`
tries the startup nodes in a random order until one `doReload` succeeds.
`handleSlotInfoChanged` installs the result in the slot table and keeps only the backend
pools of the endpoints it names.

The slot table and the pool (slottable.go and pool.go) are not among the sources.  They are
modelled from the spec: the table maps each slot to the last `SlotInfo` covering it, and the
pool is the set of endpoints it holds connections for.  `NewSlotInfo`, the local address and
the random order of the startup nodes are arguments.  Under each of the three read
preferences every `SlotInfo` a reload returns has read endpoints, so installing it keeps the
slot table `Routable`.
-/

namespace ValkeyClusterProxy

open Proto

/-- `READ_PREFER_MASTER`. -/
def readPreferMaster : Int := 0

/-- `READ_PREFER_SLAVE`. -/
def readPreferSlave : Int := 1

/-- `READ_PREFER_SLAVE_IDC`. -/
def readPreferSlaveIdc : Int := 2

/-- `CLUSTER_NODES_FIELD_SPLIT_NUM`. -/
def clusterNodesFieldSplitNum : Nat := 4

/-- Modelled from the spec: `SlotInfo`, a range of slots with its master endpoint and the
endpoints reads may go to. -/
structure SlotInfo where
  start : Nat
  stop : Nat
  write : Endpoint
  read : List Endpoint
  deriving DecidableEq, Repr

/-- Modelled from the spec: the slot table, each slot's `SlotInfo` once one covers it. -/
abbrev SlotTable := Nat → Option SlotInfo

/-- Modelled from the spec: `SetSlotInfo`, which points every slot of the range at the
info. -/
def SlotTable.setSlotInfo (table : SlotTable) (si : SlotInfo) : SlotTable :=
  fun slot => if si.start ≤ slot ∧ slot ≤ si.stop then some si else table slot

/-- After installing `infos`, a slot points at the last of them that covers it, and keeps
its old info when none does. -/
theorem SlotTable.foldl_setSlotInfo_apply (infos : List SlotInfo) (table : SlotTable)
    (slot : Nat) :
    infos.foldl SlotTable.setSlotInfo table slot =
      (infos.reverse.find? fun si => decide (si.start ≤ slot ∧ slot ≤ si.stop)).or (table slot) := by
  induction infos generalizing table with
  | nil => rfl
  | cons si rest ih =>
      rw [List.foldl_cons, ih, List.reverse_cons, List.find?_append, Option.or_assoc,
        List.find?_singleton]
      congr 1
      by_cases covers : si.start ≤ slot ∧ slot ≤ si.stop <;> simp [SlotTable.setSlotInfo, covers]

/-- Every slot that points at a `SlotInfo` has somewhere to send reads: its read endpoints
are not empty. -/
def SlotTable.Routable (table : SlotTable) : Prop :=
  ∀ slot si, table slot = some si → si.read ≠ []

/-- Installing `SlotInfo`s with read endpoints keeps a table routable. -/
theorem SlotTable.Routable.foldl_setSlotInfo {table : SlotTable} (routable : table.Routable)
    {infos : List SlotInfo} (nonEmpty : ∀ si ∈ infos, si.read ≠ []) :
    (infos.foldl SlotTable.setSlotInfo table).Routable := by
  intro slot si pointed
  rw [SlotTable.foldl_setSlotInfo_apply] at pointed
  rcases found : infos.reverse.find? (fun si => decide (si.start ≤ slot ∧ slot ≤ si.stop)) with
    _ | covering
  · rw [found, Option.none_or] at pointed
    exact routable slot si pointed
  · rw [found] at pointed
    cases Option.some.inj pointed
    exact nonEmpty _ (List.mem_reverse.mp (List.mem_of_find?_eq_some found))

/-- The fields of `Dispatcher` that the topology code reads and writes; the pool is the set
of endpoints it holds connections for. -/
structure Dispatcher where
  startupNodes : List Endpoint
  slotTable : SlotTable
  valkeyConn : ValkeyConn
  readPrefer : Int
  backendServerPool : List Endpoint

/-- `NewDispatcher`: the startup nodes, the connection settings and the read preference, an
empty slot table (`NewSlotTable`, modelled from the spec) and an empty pool.  The reload
interval only times the refresher's first timer, an event of `Refresher`. -/
def newDispatcher (startupNodes : List Endpoint) (valkeyConn : ValkeyConn) (readPrefer : Int) :
    Dispatcher :=
  ⟨startupNodes, fun _ => none, valkeyConn, readPrefer, []⟩

/-- The lines `doReload` reads from a `CLUSTER NODES` reply. -/
def nodeLines (data : Data) : List Bytes :=
  Go.split '\n' (Go.trimSpace data.string)

/-- The fields of a `CLUSTER NODES` line, `strings.SplitN(line, " ", 4)`. -/
def nodeFields (line : Bytes) : List Bytes :=
  Go.splitN ' ' clusterNodesFieldSplitNum line

/-- The line loop of `doReload`: the address field (index 1) of every line whose flags field
(index 2) does not contain `fail`, the keys of `aliveNodes`.  Reading the flags of a line
with fewer than three fields is an index out of range. -/
def aliveNodesOf : List Bytes → Except Abort (List Endpoint)
  | [] => .ok []
  | line :: lines =>
      match nodeFields line with
      | _ :: ipPort :: flags :: _ =>
          (aliveNodesOf lines).map fun alive =>
            if Go.contains flags "fail".toList then alive else ipPort :: alive
      | elements => .error (.indexOutOfRange 2 elements.length)

/-- The prefix `doReload` matches replicas against under `READ_PREFER_SLAVE_IDC`: the first
two dotted segments of the local address and a dot.  `segments[:2]` reslices within the
capacity `genSplit` allocates, at least two for a non-empty address, so a missing second
segment reads as empty. -/
def localIPPrefix (localIP : Bytes) : Bytes :=
  if localIP.length > 0 then Go.join ((Go.splitN '.' 3 localIP ++ [[]]).take 2) '.' ++ ['.']
  else localIP

/-- The last loop of `doReload` on one `SlotInfo`: under `READ_PREFER_MASTER` reads go to
the master; under the two replica preferences to the alive replicas (in the local address's
`/16` for `READ_PREFER_SLAVE_IDC`), or to the master when there is none. -/
def rewriteRead (readPrefer : Int) (localIP : Bytes) (aliveNodes : List Endpoint)
    (si : SlotInfo) : SlotInfo :=
  if readPrefer = readPreferMaster then
    { si with read := [si.write] }
  else if readPrefer = readPreferSlave ∨ readPrefer = readPreferSlaveIdc then
    let readNodes := si.read.filter fun node =>
      decide (node ∈ aliveNodes) &&
        (readPrefer != readPreferSlaveIdc || (localIPPrefix localIP).isPrefixOf node)
    { si with read := if readNodes.length = 0 then [si.write] else readNodes }
  else
    si

/-- A line has the three fields that `doReload` reads exactly when it has two spaces. -/
theorem nodeFields_shape_iff (line : Bytes) :
    (∃ id ipPort flags rest, nodeFields line = id :: ipPort :: flags :: rest) ↔
      2 ≤ line.count ' ' := by
  have counted : (nodeFields line).length = min (line.count ' ') 3 + 1 :=
    Go.length_splitN ' ' 3 line
  rcases fields : nodeFields line with _ | ⟨id, _ | ⟨ipPort, _ | ⟨flags, rest⟩⟩⟩ <;>
    simp only [fields, List.length_cons, List.length_nil] at counted <;> simp <;> omega

/-- The line loop returns exactly when every line has two spaces. -/
theorem aliveNodesOf_ok_iff (lines : List Bytes) :
    (∃ alive, aliveNodesOf lines = .ok alive) ↔ ∀ line ∈ lines, 2 ≤ line.count ' ' := by
  induction lines with
  | nil => simp [aliveNodesOf]
  | cons line lines ih =>
      rw [List.forall_mem_cons, ← ih, ← nodeFields_shape_iff, aliveNodesOf]
      split
      next id ipPort flags rest shaped =>
          cases aliveNodesOf lines <;> simp [Except.map, shaped]
      next elements notShaped =>
          constructor
          · rintro ⟨_, ⟨⟩⟩
          · rintro ⟨⟨id, ipPort, flags, rest, shaped⟩, -⟩
            exact absurd shaped (notShaped id ipPort flags rest)

/-- A node is alive in a `CLUSTER NODES` reply when some line has it as its address field
and a flags field without `fail`. -/
def AliveIn (lines : List Bytes) (node : Endpoint) : Prop :=
  ∃ line ∈ lines, ∃ id flags rest,
    nodeFields line = id :: node :: flags :: rest ∧ Go.contains flags "fail".toList = false

theorem aliveIn_cons (line : Bytes) (lines : List Bytes) (node : Endpoint) :
    AliveIn (line :: lines) node ↔
      (∃ id flags rest, nodeFields line = id :: node :: flags :: rest ∧
        Go.contains flags "fail".toList = false) ∨ AliveIn lines node := by
  unfold AliveIn
  constructor
  · rintro ⟨other, member, named⟩
    rcases List.mem_cons.mp member with rfl | inRest
    · exact .inl named
    · exact .inr ⟨other, inRest, named⟩
  · rintro (named | ⟨other, inRest, named⟩)
    · exact ⟨line, List.mem_cons_self line lines, named⟩
    · exact ⟨other, List.mem_cons_of_mem line inRest, named⟩

/-- The keys of `aliveNodes` are the alive addresses, compared as raw strings. -/
theorem mem_aliveNodesOf {lines : List Bytes} {alive : List Endpoint}
    (parsed : aliveNodesOf lines = .ok alive) (node : Endpoint) :
    node ∈ alive ↔ AliveIn lines node := by
  induction lines generalizing alive with
  | nil => cases parsed; simp [AliveIn]
  | cons line lines ih =>
      rw [aliveNodesOf] at parsed
      split at parsed
      next id ipPort flags rest shaped =>
          rcases restParsed : aliveNodesOf lines with abort | restAlive
          all_goals rw [restParsed] at parsed
          · cases parsed
          · cases parsed
            beta_reduce
            rw [aliveIn_cons, ← ih restParsed, shaped]
            by_cases failed : Go.contains flags "fail".toList = true
            · rw [if_pos failed]
              refine ⟨.inr, ?_⟩
              rintro (⟨_, _, _, ⟨⟩, notFailed⟩ | kept)
              · rw [failed] at notFailed; cases notFailed
              · exact kept
            · rw [if_neg failed, List.mem_cons]
              refine or_congr ⟨?_, ?_⟩ Iff.rfl
              · rintro rfl; exact ⟨_, _, _, rfl, Bool.eq_false_iff.mpr failed⟩
              · rintro ⟨_, _, _, ⟨⟩, -⟩; rfl
      next => cases parsed

@[simp] theorem write_rewriteRead (readPrefer : Int) (localIP : Bytes)
    (aliveNodes : List Endpoint) (si : SlotInfo) :
    (rewriteRead readPrefer localIP aliveNodes si).write = si.write := by
  unfold rewriteRead; split_ifs <;> rfl

/-- Under each of the three read preferences, the rewritten read endpoints are never empty
and each is the master or an alive node. -/
theorem rewriteRead_closure {readPrefer : Int} (localIP : Bytes) (aliveNodes : List Endpoint)
    (si : SlotInfo)
    (prefer : readPrefer = readPreferMaster ∨ readPrefer = readPreferSlave ∨
      readPrefer = readPreferSlaveIdc) :
    (rewriteRead readPrefer localIP aliveNodes si).read ≠ [] ∧
      ∀ node ∈ (rewriteRead readPrefer localIP aliveNodes si).read,
        node = si.write ∨ node ∈ aliveNodes := by
  unfold rewriteRead
  split_ifs with master replica
  · exact ⟨List.cons_ne_nil _ _, fun node member => .inl (List.mem_singleton.mp member)⟩
  · dsimp only
    split_ifs with noneLeft
    · exact ⟨List.cons_ne_nil _ _, fun node member => .inl (List.mem_singleton.mp member)⟩
    · refine ⟨fun empty => noneLeft (List.length_eq_zero.mpr empty), fun node member => ?_⟩
      simp only [List.mem_filter, Bool.and_eq_true, decide_eq_true_eq] at member
      exact .inr member.2.1
  · exact absurd (prefer.resolve_left master) replica

namespace Dispatcher

variable (d : Dispatcher) (newSlotInfo : Data → SlotInfo) (localIP : Bytes)

/-- `doReload`: connect, read both replies, and build the rewritten `SlotInfo`s; the error of
the first failing step otherwise.  An error reply is data to `resp.ReadData`, so it is
parsed like any other reply. -/
def doReload (node : NodeBehaviour) : Except Abort (Except GoError (List SlotInfo)) :=
  match d.valkeyConn.conn node with
  | some err => .ok (.error err)
  | none =>
      match node.clusterSlots.reply with
      | .error err => .ok (.error err)
      | .ok slotsData =>
          let slotInfos := slotsData.arrayItems.map newSlotInfo
          match node.clusterNodes.reply with
          | .error err => .ok (.error err)
          | .ok nodesData =>
              (aliveNodesOf (nodeLines nodesData)).map fun aliveNodes =>
                .ok (slotInfos.map (rewriteRead d.readPrefer localIP aliveNodes))

/-- `reloadTopology`: try the startup nodes at `indexes` (`rand.Perm`, so every index is in
range) until one `doReload` succeeds. -/
def reloadTopology (behaviour : Endpoint → NodeBehaviour) (indexes : List Nat) :
    Except Abort (Except GoError (List SlotInfo)) :=
  go indexes (.ok [])
where
  /-- The loop over the remaining indexes, carrying the named results of the last attempt,
  which start as `(nil, nil)`. -/
  go : List Nat → Except GoError (List SlotInfo) → Except Abort (Except GoError (List SlotInfo))
    | [], last => .ok last
    | index :: rest, _ =>
        match d.doReload newSlotInfo localIP (behaviour (d.startupNodes.getD index [])) with
        | .ok (.error err) => go rest (.error err)
        | result => result

/-- `handleSlotInfoChanged`: install every `SlotInfo` and keep the pools of the endpoints
they name. -/
def handleSlotInfoChanged (slotInfos : List SlotInfo) : Dispatcher :=
  let newServers := slotInfos.flatMap fun si => si.write :: si.read
  { d with
    slotTable := slotInfos.foldl SlotTable.setSlotInfo d.slotTable
    backendServerPool := d.backendServerPool.filter fun server => decide (server ∈ newServers) }

/-- `InitSlotTable`: reload the topology and install it in the slot table. -/
def initSlotTable (behaviour : Endpoint → NodeBehaviour) (indexes : List Nat) :
    Except Abort (Except GoError Dispatcher) :=
  (d.reloadTopology newSlotInfo localIP behaviour indexes).map fun reloaded =>
    reloaded.map fun slotInfos =>
      { d with slotTable := slotInfos.foldl SlotTable.setSlotInfo d.slotTable }

variable {d newSlotInfo localIP}

/-- What a successful `doReload` is made of. -/
theorem doReload_eq_ok {node : NodeBehaviour} {infos : List SlotInfo}
    (reloaded : d.doReload newSlotInfo localIP node = .ok (.ok infos)) :
    ∃ (slotsData nodesData : Data) (aliveNodes : List Endpoint),
      node.clusterNodes.reply = .ok nodesData ∧
      aliveNodesOf (nodeLines nodesData) = .ok aliveNodes ∧
      infos = (slotsData.arrayItems.map newSlotInfo).map
        (rewriteRead d.readPrefer localIP aliveNodes) := by
  unfold doReload at reloaded
  split at reloaded
  · cases reloaded
  split at reloaded
  · cases reloaded
  dsimp only at reloaded
  split at reloaded
  · cases reloaded
  next nodesData nodesReply =>
      rcases parsed : aliveNodesOf (nodeLines nodesData) with abort | aliveNodes
      all_goals rw [parsed] at reloaded
      · cases reloaded
      · cases reloaded
        exact ⟨_, nodesData, aliveNodes, nodesReply, parsed, rfl⟩

/-- Every read endpoint list is non-empty, and each endpoint in it is the master or alive in
the `CLUSTER NODES` reply. -/
def ReadClosed (nodesData : Data) (infos : List SlotInfo) : Prop :=
  ∀ si ∈ infos, si.read ≠ [] ∧
    ∀ endpoint ∈ si.read, endpoint = si.write ∨ AliveIn (nodeLines nodesData) endpoint

/-- Read-preference closure: under each of the three read preferences, every read endpoint
list that `doReload` returns is non-empty, and each endpoint in it is the master or the
address field of a `CLUSTER NODES` line whose flags do not contain `fail`. -/
theorem doReload_read_closure {node : NodeBehaviour} {infos : List SlotInfo}
    (prefer : d.readPrefer = readPreferMaster ∨ d.readPrefer = readPreferSlave ∨
      d.readPrefer = readPreferSlaveIdc)
    (reloaded : d.doReload newSlotInfo localIP node = .ok (.ok infos)) :
    ∃ nodesData, node.clusterNodes.reply = .ok nodesData ∧ ReadClosed nodesData infos := by
  obtain ⟨slotsData, nodesData, aliveNodes, nodesReply, parsed, rfl⟩ := doReload_eq_ok reloaded
  refine ⟨nodesData, nodesReply, fun si member => ?_⟩
  obtain ⟨entry, -, rfl⟩ := List.mem_map.mp member
  obtain ⟨nonEmpty, closed⟩ := rewriteRead_closure localIP aliveNodes entry prefer
  refine ⟨nonEmpty, fun endpoint kept => ?_⟩
  rw [write_rewriteRead, ← mem_aliveNodesOf parsed]
  exact closed endpoint kept

/-- The read preferences `doReload` rewrites the read endpoints for. -/
def KnownPrefer (d : Dispatcher) : Prop :=
  d.readPrefer = readPreferMaster ∨ d.readPrefer = readPreferSlave ∨
    d.readPrefer = readPreferSlaveIdc

/-- A successful reload returns the `SlotInfo`s of one successful `doReload`, or, when every
node failed or there was none to try, nothing. -/
theorem reloadTopology_eq_ok {behaviour : Endpoint → NodeBehaviour} {indexes : List Nat}
    {infos : List SlotInfo}
    (reloaded : d.reloadTopology newSlotInfo localIP behaviour indexes = .ok (.ok infos)) :
    infos = [] ∨ ∃ node, d.doReload newSlotInfo localIP node = .ok (.ok infos) := by
  have loop : ∀ indexes last,
      reloadTopology.go d newSlotInfo localIP behaviour indexes last = .ok (.ok infos) →
        last = .ok infos ∨ ∃ node, d.doReload newSlotInfo localIP node = .ok (.ok infos) := by
    intro indexes
    induction indexes with
    | nil => intro last ran; exact .inl (Except.ok.inj ran)
    | cons index rest ih =>
        intro last ran
        unfold reloadTopology.go at ran
        split at ran
        · exact .inr ((ih _ ran).resolve_left nofun)
        · exact .inr ⟨_, ran⟩
  exact (loop indexes _ reloaded).imp (fun empty => (Except.ok.inj empty).symm) id

/-- Under each of the three read preferences, every `SlotInfo` a successful reload returns has
read endpoints. -/
theorem reloadTopology_read_ne_nil {behaviour : Endpoint → NodeBehaviour} {indexes : List Nat}
    {infos : List SlotInfo}
    (prefer : d.KnownPrefer)
    (reloaded : d.reloadTopology newSlotInfo localIP behaviour indexes = .ok (.ok infos)) :
    ∀ si ∈ infos, si.read ≠ [] := by
  rcases reloadTopology_eq_ok reloaded with rfl | ⟨node, built⟩
  · nofun
  obtain ⟨slotsData, nodesData, aliveNodes, -, -, rfl⟩ := doReload_eq_ok built
  intro si member
  obtain ⟨entry, -, rfl⟩ := List.mem_map.mp member
  exact (rewriteRead_closure localIP aliveNodes entry prefer).1

/-- What installing a topology does: every slot points at the last `SlotInfo` of the list
that covers it, and keeps its old info when none does; the pool keeps exactly the endpoints
it had that some `SlotInfo` names, as its master or among its reads; nothing else changes;
and installing the same list again changes nothing more. -/
theorem handleSlotInfoChanged_installs (slotInfos : List SlotInfo) :
    (∀ slot, (d.handleSlotInfoChanged slotInfos).slotTable slot =
        (slotInfos.reverse.find? fun si => decide (si.start ≤ slot ∧ slot ≤ si.stop)).or
          (d.slotTable slot)) ∧
      (∀ server, server ∈ (d.handleSlotInfoChanged slotInfos).backendServerPool ↔
        server ∈ d.backendServerPool ∧ ∃ si ∈ slotInfos, server = si.write ∨ server ∈ si.read) ∧
      { d.handleSlotInfoChanged slotInfos with
          slotTable := d.slotTable, backendServerPool := d.backendServerPool } = d ∧
      (d.handleSlotInfoChanged slotInfos).handleSlotInfoChanged slotInfos =
        d.handleSlotInfoChanged slotInfos := by
  have orIdem : ∀ a b : Option SlotInfo, a.or (a.or b) = a.or b := fun a b => by cases a <;> rfl
  refine ⟨SlotTable.foldl_setSlotInfo_apply slotInfos d.slotTable, fun server => ?_, rfl, ?_⟩
  · simp [handleSlotInfoChanged, List.mem_filter]
  · simp only [handleSlotInfoChanged, List.filter_filter, Bool.and_self, mk.injEq, true_and,
      and_true]
    funext slot
    rw [SlotTable.foldl_setSlotInfo_apply, SlotTable.foldl_setSlotInfo_apply]
    exact orIdem _ _

/-- A node that accepts the connection and `READONLY`, then answers `CLUSTER SLOTS` and
`CLUSTER NODES` with the given replies. -/
def answering (slots nodes : Data) : NodeBehaviour where
  dial := none
  auth := ⟨none, .ok (.simpleString "OK".toList)⟩
  readOnly := ⟨none, .ok (.simpleString "OK".toList)⟩
  clusterSlots := ⟨none, .ok slots⟩
  clusterNodes := ⟨none, .ok nodes⟩

/-- A proxy without a password, with one startup node, pools for a master and its replica,
and reads preferred from replicas. -/
def sample : Dispatcher where
  startupNodes := ["10.0.0.1:7000".toList]
  slotTable := fun _ => none
  valkeyConn := ⟨[]⟩
  readPrefer := readPreferSlave
  backendServerPool := ["10.0.0.1:7000".toList, "10.0.0.2:7001".toList]

/-- `NewSlotInfo` for the one shard of `sample`: every slot, the master `10.0.0.1:7000` and
its replica `10.0.0.2:7001`. -/
def sampleSlotInfo (_ : Data) : SlotInfo :=
  ⟨0, 16383, "10.0.0.1:7000".toList, ["10.0.0.2:7001".toList]⟩

/-- The `CLUSTER NODES` reply of that shard, both nodes healthy, in the `ip:port@cport` form
Valkey prints. -/
def clusterNodesWithCport : Data :=
  .bulkString ("e1 10.0.0.1:7000@17000 myself,master - 0 0 1 connected 0-16383\n".toList ++
    "e2 10.0.0.2:7001@17001 slave e1 0 0 1 connected\n".toList)

theorem doReload_read_closure_sample :
    ∃ infos, sample.doReload sampleSlotInfo "10.0.0.9".toList
        (answering (.array [.nullArray]) clusterNodesWithCport) = .ok (.ok infos) ∧
      ∃ nodesData,
        (answering (.array [.nullArray]) clusterNodesWithCport).clusterNodes.reply =
          .ok nodesData ∧ ReadClosed nodesData infos :=
  ⟨_, rfl, @doReload_read_closure sample sampleSlotInfo "10.0.0.9".toList _ _ (.inr (.inl rfl)) rfl⟩

/-- With the healthy replica printed as `10.0.0.2:7001@17001`, its key in `aliveNodes` never
equals the `10.0.0.2:7001` of `CLUSTER SLOTS`: under `READ_PREFER_SLAVE` the replica is
dropped and reads go to the master. -/
theorem doReload_drops_cport_replica :
    (sample.doReload sampleSlotInfo "10.0.0.9".toList
        (answering (.array [.nullArray]) clusterNodesWithCport)).map
      (fun reloaded => reloaded.map fun infos => infos.map SlotInfo.read) =
      .ok (.ok [["10.0.0.1:7000".toList]]) := rfl

/-- `doReload` panics exactly when the connection and both exchanges succeed and the
`CLUSTER NODES` reply has a line with fewer than two spaces. -/
theorem doReload_panics_iff (node : NodeBehaviour) :
    (∃ abort, d.doReload newSlotInfo localIP node = .error abort) ↔
      d.valkeyConn.conn node = none ∧ (∃ slotsData, node.clusterSlots.reply = .ok slotsData) ∧
        ∃ nodesData, node.clusterNodes.reply = .ok nodesData ∧
          ∃ line ∈ nodeLines nodesData, line.count ' ' < 2 := by
  unfold doReload
  split
  next err connFailed => simp [connFailed]
  rename_i connected
  split
  next err slotsFailed => simp [slotsFailed]
  rename_i slotsData slotsReply
  dsimp only
  split
  next err nodesFailed => simp [nodesFailed]
  rename_i nodesData nodesReply
  simp only [connected, slotsReply, nodesReply, true_and, Except.ok.injEq, exists_eq',
    exists_eq_left']
  have total := aliveNodesOf_ok_iff (nodeLines nodesData)
  rcases parsed : aliveNodesOf (nodeLines nodesData) with abort | aliveNodes
  all_goals rw [parsed] at total
  · simp only [Except.map, Except.error.injEq, exists_eq', true_iff]
    by_contra noShortLine
    push_neg at noShortLine
    obtain ⟨_, ⟨⟩⟩ := total.mpr noShortLine
  · simp only [Except.map, reduceCtorEq, exists_false, false_iff, not_exists, not_and, not_lt]
    exact total.mp ⟨aliveNodes, rfl⟩

/-- An empty `CLUSTER NODES` payload is one empty line, which has no flags field: reading it
panics the refresh goroutine. -/
theorem doReload_empty_nodes_panics :
    sample.doReload sampleSlotInfo "10.0.0.9".toList (answering (.array []) (.bulkString [])) =
      .error (.panic "runtime error: index out of range [2] with length 1".toList) := rfl

/-- The loading error reply. -/
def loading : Data := .error "LOADING Valkey is loading the dataset in memory".toList

/-- A node still loading its dataset answers both `CLUSTER` commands with an error reply:
the reload succeeds with no `SlotInfo`, and installing that result drops every backend
pool.  With no startup node at all the reload succeeds the same way. -/
theorem reloadTopology_accepts_error_replies :
    (sample.reloadTopology sampleSlotInfo "10.0.0.9".toList
        (fun _ => answering loading loading) [0]).map
      (fun reloaded => reloaded.map fun slotInfos =>
        (sample.handleSlotInfoChanged slotInfos).backendServerPool) = .ok (.ok []) ∧
    { sample with startupNodes := [] }.reloadTopology sampleSlotInfo "10.0.0.9".toList
        (fun _ => answering loading loading) [] = .ok (.ok []) := ⟨rfl, rfl⟩

end Dispatcher

end ValkeyClusterProxy
