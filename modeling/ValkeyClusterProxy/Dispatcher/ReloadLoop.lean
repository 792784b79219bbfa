import ValkeyClusterProxy.Dispatcher.Topology

/-!
# The topology refresher

`Run` starts `slotsReloadLoop` and installs every result the loop sends on `slotInfoChan`.
`TriggerReloadSlots` puts a signal in `slotReloadChan`, a buffer of one place, or drops it
when the buffer is full.  The loop ranges over `time.After(slotReloadInterval)`: that channel
delivers one value and is never closed.  Its body, a `select` between a signal and a
60-second timer followed by one reload, therefore runs at most once.

The refresher is a state machine over `Event`s, and a schedule of triggers and timer expiries
is any list of events.  Each reload takes the node behaviour and the random order of its own
attempt.  An event that cannot happen in a state leaves the state unchanged.
`slotReloadChan` is never closed in the sources, so the loop's exit on a closed channel is
not modelled.

Three invariants hold of every run: the loop has reloaded at most once (`Consistent`); the
dispatcher is the one `Run` started with, or that one with the result of one successful
reload installed, when each reload tries the startup nodes in an order `rand.Perm` gives
(`InstalledFrom`); and, from a slot table filled by `InitSlotTable`, every slot keeps read
endpoints (`slotTable_stays_routable`).
-/

namespace ValkeyClusterProxy

open Proto

/-- Where the goroutine of `slotsReloadLoop` is. -/
inductive LoopState where
  /-- Waiting on `range time.After(slotReloadInterval)` for its one value. -/
  | waitingInterval
  /-- In the `select`, waiting for a signal or for the periodic timer. -/
  | selecting
  /-- Back on the range, whose channel never delivers again. -/
  | exhausted
  /-- Stopped by a panic of `reloadTopology`, which ends the process. -/
  | crashed (abort : Abort)
  deriving DecidableEq, Repr

/-- What can happen to the refresher. -/
inductive Event where
  /-- A call of `TriggerReloadSlots`. -/
  | trigger
  /-- The timer of `time.After(slotReloadInterval)` fires. -/
  | intervalElapsed
  /-- The `select` takes the signal from `slotReloadChan`; the reload finds the nodes behaving
  as `behaviour` and tries them in the order `indexes`. -/
  | signalReceived (behaviour : Endpoint → NodeBehaviour) (indexes : List Nat)
  /-- The periodic timer of the `select` fires, and the reload goes as above. -/
  | periodicElapsed (behaviour : Endpoint → NodeBehaviour) (indexes : List Nat)

/-- The reload an event starts tries every one of `n` startup nodes once: its order is a
permutation of their indexes, as `rand.Perm(len(d.startupNodes))` gives. -/
def Event.Shuffles (n : Nat) : Event → Prop
  | .signalReceived _ indexes | .periodicElapsed _ indexes => indexes.Perm (List.range n)
  | _ => True

/-- The dispatcher with its refresher. -/
structure Refresher where
  dispatcher : Dispatcher
  loop : LoopState
  /-- Whether `slotReloadChan` holds a signal. -/
  signalled : Bool
  /-- The number of `reloadTopology` calls the loop made. -/
  reloads : Nat

namespace Refresher

variable (newSlotInfo : Data → SlotInfo) (localIP : Bytes)

/-- The refresher of a dispatcher as `Run` starts it. -/
def init (d : Dispatcher) : Refresher := ⟨d, .waitingInterval, false, 0⟩

/-- `TriggerReloadSlots`: the send succeeds into an empty buffer and is dropped by a full
one, and either way a signal is waiting. -/
def triggerReloadSlots (r : Refresher) : Refresher := { r with signalled := true }

/-- The end of the `select`: reload, install a successful result through `slotInfoChan` and
`handleSlotInfoChanged` or log a failed one, and go back to the range. -/
def reload (r : Refresher) (behaviour : Endpoint → NodeBehaviour) (indexes : List Nat) :
    Refresher :=
  let r := { r with reloads := r.reloads + 1 }
  match r.dispatcher.reloadTopology newSlotInfo localIP behaviour indexes with
  | .error abort => { r with loop := .crashed abort }
  | .ok (.error _) => { r with loop := .exhausted }
  | .ok (.ok slotInfos) =>
      { r with dispatcher := r.dispatcher.handleSlotInfoChanged slotInfos, loop := .exhausted }

/-- One event. -/
def step (r : Refresher) : Event → Refresher
  | .trigger => r.triggerReloadSlots
  | .intervalElapsed =>
      match r.loop with
      | .waitingInterval => { r with loop := .selecting }
      | _ => r
  | .signalReceived behaviour indexes =>
      match r.loop, r.signalled with
      | .selecting, true => { r with signalled := false }.reload newSlotInfo localIP behaviour indexes
      | _, _ => r
  | .periodicElapsed behaviour indexes =>
      match r.loop with
      | .selecting => r.reload newSlotInfo localIP behaviour indexes
      | _ => r

/-- A run: the events one after the other. -/
def run (r : Refresher) : List Event → Refresher
  | [] => r
  | event :: events => (r.step newSlotInfo localIP event).run events

/-- The loop has reloaded once when it has left the `select`, and not before. -/
def Consistent (r : Refresher) : Prop :=
  match r.loop with
  | .waitingInterval | .selecting => r.reloads = 0
  | .exhausted | .crashed _ => r.reloads = 1

variable {newSlotInfo localIP}

/-- A reload from the `select` counts one reload and leaves the loop on the exhausted range
or crashed. -/
theorem consistent_reload {r : Refresher} (fresh : r.reloads = 0)
    (behaviour : Endpoint → NodeBehaviour) (indexes : List Nat) :
    Consistent (r.reload newSlotInfo localIP behaviour indexes) := by
  unfold reload
  dsimp only
  split <;> simp [Consistent, fresh]

/-- Every event keeps the refresher consistent. -/
theorem Consistent.step {r : Refresher} (consistent : Consistent r) (event : Event) :
    Consistent (r.step newSlotInfo localIP event) := by
  have fresh : r.loop = .selecting → r.reloads = 0 := fun selecting => by
    simpa [Consistent, selecting] using consistent
  cases event with
  | trigger => exact consistent
  | intervalElapsed =>
      dsimp only [Refresher.step]
      split
      next waiting => simpa [Consistent, waiting] using consistent
      next => exact consistent
  | signalReceived behaviour indexes =>
      dsimp only [Refresher.step]
      split
      next selecting _ =>
          exact @consistent_reload newSlotInfo localIP { r with signalled := false }
            (fresh selecting) behaviour indexes
      next => exact consistent
  | periodicElapsed behaviour indexes =>
      dsimp only [Refresher.step]
      split
      next selecting => exact consistent_reload (fresh selecting) behaviour indexes
      next => exact consistent

theorem Consistent.run {r : Refresher} (consistent : Consistent r) (events : List Event) :
    Consistent (r.run newSlotInfo localIP events) := by
  induction events generalizing r with
  | nil => exact consistent
  | cons event events ih => exact ih (consistent.step event)

theorem reloads_le_one_of_consistent {r : Refresher} (consistent : Consistent r) :
    r.reloads ≤ 1 := by
  unfold Consistent at consistent
  split at consistent <;> omega

/-- From the exhausted range nothing but a signal changes: no event reloads again. -/
theorem run_of_exhausted {r : Refresher} (exhausted : r.loop = .exhausted)
    (events : List Event) :
    (r.run newSlotInfo localIP events).loop = .exhausted ∧
      (r.run newSlotInfo localIP events).reloads = r.reloads := by
  induction events generalizing r with
  | nil => exact ⟨exhausted, rfl⟩
  | cons event events ih =>
      have stepped : (r.step newSlotInfo localIP event).loop = .exhausted ∧
          (r.step newSlotInfo localIP event).reloads = r.reloads := by
        cases event <;> simp [Refresher.step, triggerReloadSlots, exhausted]
      obtain ⟨loop, reloads⟩ := ih stepped.1
      exact ⟨loop, reloads.trans stepped.2⟩

/-- The refresher reloads at most once in any run, whatever the schedule of triggers and
timer expiries and whatever the nodes answer. -/
theorem run_reloads_at_most_once (d : Dispatcher) (events : List Event) :
    ((init d).run newSlotInfo localIP events).reloads ≤ 1 :=
  reloads_le_one_of_consistent (@Consistent.run newSlotInfo localIP (init d) rfl events)

/-- A reload keeps the read preference and, under a known one, a routable slot table. -/
theorem reload_routable {r : Refresher} (prefer : r.dispatcher.KnownPrefer)
    (routable : r.dispatcher.slotTable.Routable) (behaviour : Endpoint → NodeBehaviour)
    (indexes : List Nat) :
    (r.reload newSlotInfo localIP behaviour indexes).dispatcher.KnownPrefer ∧
      (r.reload newSlotInfo localIP behaviour indexes).dispatcher.slotTable.Routable := by
  unfold reload
  dsimp only
  split
  · exact ⟨prefer, routable⟩
  · exact ⟨prefer, routable⟩
  next infos reloaded =>
      exact ⟨prefer, routable.foldl_setSlotInfo (Dispatcher.reloadTopology_read_ne_nil prefer reloaded)⟩

/-- Every event keeps the read preference and a routable slot table. -/
theorem step_routable {r : Refresher} (prefer : r.dispatcher.KnownPrefer)
    (routable : r.dispatcher.slotTable.Routable) (event : Event) :
    (r.step newSlotInfo localIP event).dispatcher.KnownPrefer ∧
      (r.step newSlotInfo localIP event).dispatcher.slotTable.Routable := by
  cases event with
  | trigger => exact ⟨prefer, routable⟩
  | intervalElapsed =>
      dsimp only [Refresher.step]
      split <;> exact ⟨prefer, routable⟩
  | signalReceived behaviour indexes =>
      dsimp only [Refresher.step]
      split
      · exact @reload_routable newSlotInfo localIP { r with signalled := false } prefer routable
          behaviour indexes
      · exact ⟨prefer, routable⟩
  | periodicElapsed behaviour indexes =>
      dsimp only [Refresher.step]
      split
      · exact reload_routable prefer routable behaviour indexes
      · exact ⟨prefer, routable⟩

theorem run_routable {r : Refresher} (prefer : r.dispatcher.KnownPrefer)
    (routable : r.dispatcher.slotTable.Routable) (events : List Event) :
    (r.run newSlotInfo localIP events).dispatcher.slotTable.Routable := by
  induction events generalizing r with
  | nil => exact routable
  | cons event events ih =>
      obtain ⟨prefer', routable'⟩ := step_routable prefer routable event
      exact ih prefer' routable'

/-- No slot is ever left without a read endpoint: for every set of startup nodes, every
connection setting, each of the three read preferences, every behaviour of the nodes, every
order `rand.Perm` picks, every `NewSlotInfo` and local address, once `InitSlotTable` has
filled the slot table of a new dispatcher, every slot that points at a `SlotInfo` has a
non-empty list of read endpoints, and so it stays over every run of the refresher, whatever
the schedule of triggers and timer expiries and whatever the nodes answer each reload. -/
theorem slotTable_stays_routable (startupNodes : List Endpoint) (valkeyConn : ValkeyConn)
    {readPrefer : Int}
    (prefer : readPrefer = readPreferMaster ∨ readPrefer = readPreferSlave ∨
      readPrefer = readPreferSlaveIdc)
    {behaviour : Endpoint → NodeBehaviour} {indexes : List Nat} {d : Dispatcher}
    (initialised : (newDispatcher startupNodes valkeyConn readPrefer).initSlotTable newSlotInfo
      localIP behaviour indexes = .ok (.ok d))
    (events : List Event) :
    d.slotTable.Routable ∧ ((init d).run newSlotInfo localIP events).dispatcher.slotTable.Routable := by
  have known : (newDispatcher startupNodes valkeyConn readPrefer).KnownPrefer := prefer
  have installed : d.slotTable.Routable ∧ d.KnownPrefer := by
    unfold Dispatcher.initSlotTable at initialised
    rcases reloaded : (newDispatcher startupNodes valkeyConn readPrefer).reloadTopology newSlotInfo
      localIP behaviour indexes with abort | (err | infos)
    all_goals rw [reloaded] at initialised
    · cases initialised
    · cases initialised
    · cases initialised
      exact ⟨SlotTable.Routable.foldl_setSlotInfo (fun _ _ pointed => by cases pointed)
        (Dispatcher.reloadTopology_read_ne_nil known reloaded), known⟩
  exact ⟨installed.1, @run_routable newSlotInfo localIP (init d) installed.2 installed.1 events⟩

theorem slotTable_stays_routable_sample :
    ∃ d, (newDispatcher ["10.0.0.1:7000".toList] ⟨[]⟩ readPreferSlave).initSlotTable
        Dispatcher.sampleSlotInfo "10.0.0.9".toList
        (fun _ => Dispatcher.answering (.array [.nullArray]) Dispatcher.clusterNodesWithCport) [0] =
        .ok (.ok d) ∧
      d.slotTable.Routable ∧
      ((init d).run Dispatcher.sampleSlotInfo "10.0.0.9".toList
        [.intervalElapsed, .trigger]).dispatcher.slotTable.Routable :=
  ⟨_, rfl, @slotTable_stays_routable Dispatcher.sampleSlotInfo "10.0.0.9".toList
    ["10.0.0.1:7000".toList] ⟨[]⟩ _ (.inr (.inl rfl))
    (fun _ => Dispatcher.answering (.array [.nullArray]) Dispatcher.clusterNodesWithCport) [0] _ rfl
    _⟩

variable (newSlotInfo localIP) in
/-- What the refresher has done to the dispatcher `d` it started from: nothing while the loop
has not reloaded, and afterwards nothing or one install of the result of a successful reload
over all the startup nodes. -/
def InstalledFrom (d : Dispatcher) (r : Refresher) : Prop :=
  (r.loop = .waitingInterval ∨ r.loop = .selecting → r.dispatcher = d) ∧
    (r.dispatcher = d ∨ ∃ behaviour indexes infos,
      indexes.Perm (List.range d.startupNodes.length) ∧
        d.reloadTopology newSlotInfo localIP behaviour indexes = .ok (.ok infos) ∧
        r.dispatcher = d.handleSlotInfoChanged infos)

variable {d : Dispatcher} {r : Refresher}

/-- A reload from the `select` installs the result of a successful `reloadTopology` on the
dispatcher it started from, and leaves the dispatcher as it was otherwise. -/
theorem InstalledFrom.reload (installed : InstalledFrom newSlotInfo localIP d r)
    (selecting : r.loop = .selecting) (behaviour : Endpoint → NodeBehaviour)
    {indexes : List Nat} (perm : indexes.Perm (List.range d.startupNodes.length)) :
    InstalledFrom newSlotInfo localIP d (r.reload newSlotInfo localIP behaviour indexes) := by
  have same : r.dispatcher = d := installed.1 (.inr selecting)
  unfold Refresher.reload
  dsimp only
  split
  · exact ⟨fun _ => same, .inl same⟩
  · exact ⟨fun _ => same, .inl same⟩
  next infos reloaded =>
      rw [same] at reloaded ⊢
      exact ⟨fun left => left.elim LoopState.noConfusion LoopState.noConfusion,
        .inr ⟨behaviour, indexes, infos, perm, reloaded, rfl⟩⟩

theorem InstalledFrom.step (installed : InstalledFrom newSlotInfo localIP d r) {event : Event}
    (shuffled : event.Shuffles d.startupNodes.length) :
    InstalledFrom newSlotInfo localIP d (r.step newSlotInfo localIP event) := by
  cases event with
  | trigger => exact installed
  | intervalElapsed =>
      dsimp only [Refresher.step]
      split
      next waiting => exact ⟨fun _ => installed.1 (.inl waiting), installed.2⟩
      next => exact installed
  | signalReceived behaviour indexes =>
      dsimp only [Refresher.step]
      split
      next selecting _ =>
          exact @InstalledFrom.reload newSlotInfo localIP d { r with signalled := false } installed
            selecting behaviour indexes shuffled
      next => exact installed
  | periodicElapsed behaviour indexes =>
      dsimp only [Refresher.step]
      split
      next selecting => exact installed.reload selecting behaviour shuffled
      next => exact installed

theorem InstalledFrom.run (installed : InstalledFrom newSlotInfo localIP d r) {events : List Event}
    (shuffled : ∀ event ∈ events, event.Shuffles d.startupNodes.length) :
    InstalledFrom newSlotInfo localIP d (r.run newSlotInfo localIP events) := by
  induction events generalizing r with
  | nil => exact installed
  | cons event events ih =>
      exact ih (installed.step (shuffled event (List.mem_cons_self _ _)))
        fun e member => shuffled e (List.mem_cons_of_mem _ member)

example :
    ((init Dispatcher.sample).run Dispatcher.sampleSlotInfo "10.0.0.9".toList
        [.intervalElapsed, .trigger,
          .signalReceived (fun _ => Dispatcher.answering (.array []) Dispatcher.clusterNodesWithCport) [0],
          .trigger]).reloads = 1 := rfl

end Refresher

end ValkeyClusterProxy
