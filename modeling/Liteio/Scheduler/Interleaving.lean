import Liteio.Scheduler.Schedule
import Liteio.State.Room

/-! # Scheduling and binding as separate steps

The volume reconciler checks the free space in `ScheduleVolume` and charges it
in `BindAntstorVolume`; reservations of other components fall between the two.
The system is the controller state with the volume in flight, if any, and the
node chosen for it. Room for that volume is what a reservation on its node can
take: as long as none does, no node is overcommitted.
-/

namespace Liteio

open MachineInt FilterChain

structure System where
  state : State
  pending : Option (String × AntstorVolume) := none

namespace System

/-- `schedule` carries the order in which the map iteration yields the nodes. -/
inductive Action where
  | schedule (order : List String) (vol : AntstorVolume)
  | bind
  | reserve (nodeID : String) (r : Reservation)
  | unreserve (nodeID : String) (id : String)
  | unbind (volID : String)

def entries (s : State) (order : List String) : List (String × Node) :=
  order.filterMap fun id => (s.nodeMap.lookup id).map fun node => (id, node)

/-- The nodes are shared with the state, so what a call leaves is stored. -/
def writeBack (s : State) (nodes : List (String × Node)) : State :=
  nodes.foldl (fun s entry => s.setNode entry.1 entry.2) s

section

variable (K : Kube) (sorter : Sorter Priority.better) (cfg : SchedulerConfig)

def schedule (sys : System) (order : List String) (vol : AntstorVolume) : System :=
  let nodes := entries sys.state order
  match scheduleVolume K sorter cfg (nodes.map Prod.snd) vol with
  | none => sys
  | some out =>
    { state := writeBack sys.state ((nodes.map Prod.fst).zip out.nodes)
      pending := match out.result with
        | .ok info => some (info.id, out.vol)
        | .error _ => none }

def step (sys : System) : Action → System
  | .schedule order vol => if sys.pending.isSome then sys else sys.schedule K sorter cfg order vol
  | .bind =>
    match sys.pending with
    | some (nodeID, vol) => { state := (sys.state.bindAntstorVolume nodeID vol).1 }
    | none => sys
  | .reserve nodeID r => { sys with state := sys.state.step K (.reserve nodeID r) }
  | .unreserve nodeID id => { sys with state := sys.state.step K (.unreserve nodeID id) }
  | .unbind volID => { sys with state := sys.state.step K (.unbindAntstorVolume volID) }

end

/-- The volumes are plain, the reservations are not negative, and one that is
made on the node of the volume in flight leaves room for that volume. -/
def LeavesRoom (sys : System) : Action → Prop
  | .schedule _ vol => vol.annotations = none ∧ vol.spec.sizeByte < 2 ^ 63
  | .reserve nodeID r => 0 ≤ r.sizeByte ∧ ∀ inFlight ∈ sys.pending, inFlight.1 = nodeID →
      ∀ node ∈ sys.state.nodeMap.lookup nodeID,
        node.Refuses r ∨ (r.sizeByte + inFlight.2.spec.sizeByte : ℚ) ≤ node.freeStorage
  | _ => True

instance (sys : System) : DecidablePred sys.LeavesRoom
  | .schedule _ _ => inferInstanceAs (Decidable (_ ∧ _))
  | .reserve _ _ => inferInstanceAs (Decidable (_ ∧ ∀ inFlight ∈ sys.pending, _))
  | .bind | .unreserve _ _ | .unbind _ => isTrue trivial

structure Safe (sys : System) : Prop where
  keyed : sys.state.Keyed
  sound : sys.state.AllNodes Node.Sound
  plain : ∀ nodeID vol, sys.pending = some (nodeID, vol) →
    vol.annotations = none ∧ vol.spec.sizeByte < 2 ^ 63
  room : ∀ nodeID vol, sys.pending = some (nodeID, vol) →
    ∀ node, sys.state.nodeMap.lookup nodeID = some node → node.HasRoom vol.spec.sizeByte

theorem mem_entries {s : State} {order : List String} {entry : String × Node}
    (h : entry ∈ entries s order) : s.nodeMap.lookup entry.1 = some entry.2 := by
  obtain ⟨id, _, hId⟩ := List.mem_filterMap.mp h
  obtain ⟨node, hNode, rfl⟩ := Option.map_eq_some_iff.mp hId
  exact hNode

theorem writeBack_of_lookup {s : State} {nodes : List (String × Node)}
    (h : ∀ entry ∈ nodes, s.nodeMap.lookup entry.1 = some entry.2) : writeBack s nodes = s := by
  induction nodes with
  | nil => rfl
  | cons entry nodes ih =>
    have hSame : s.setNode entry.1 entry.2 = s := by
      rw [State.setNode, FiniteMap.insert_lookup (h entry List.mem_cons_self)]
    rw [writeBack, List.foldl_cons, hSame]
    exact ih fun other hOther => h other (List.mem_cons_of_mem _ hOther)

theorem writeBack_map {β : Type} {f : Node → β} {s : State} {nodes : List (String × Node)}
    (h : ∀ entry ∈ nodes, (s.nodeMap.lookup entry.1).map f = some (f entry.2)) (id : String) :
    ((writeBack s nodes).nodeMap.lookup id).map f = (s.nodeMap.lookup id).map f := by
  induction nodes generalizing s with
  | nil => rfl
  | cons entry nodes ih =>
    have hSame : ∀ other, ((s.setNode entry.1 entry.2).nodeMap.lookup other).map f =
        (s.nodeMap.lookup other).map f := by
      intro other
      rw [State.setNode, FiniteMap.lookup_insert_eq]
      split
      · rename_i hOther
        rw [hOther, h entry List.mem_cons_self]
        rfl
      · rfl
    rw [writeBack, List.foldl_cons, ← hSame id]
    refine ih fun other hOther => ?_
    rw [hSame]
    exact h other (List.mem_cons_of_mem _ hOther)

theorem schedule_map {K : Kube} {sorter : Sorter Priority.better} {cfg : SchedulerConfig} {β : Type}
    {f : Node → β} (hf : ∀ n, f n.settle = f n) (sys : System) (order : List String) (vol : AntstorVolume)
    (id : String) :
    ((sys.schedule K sorter cfg order vol).state.nodeMap.lookup id).map f =
      (sys.state.nodeMap.lookup id).map f := by
  unfold System.schedule
  dsimp only
  split
  · rfl
  · rename_i out hOut
    refine writeBack_map ?_ id
    rintro ⟨key, node⟩ hEntry
    obtain ⟨old, hOld, hLeaves⟩ := Traverse.exists_of_mem_zip (scheduleVolume_leaves hOut) hEntry
    rw [mem_entries hOld, Option.map_some]
    rcases hLeaves with rfl | rfl
    · rfl
    · exact congrArg some (hf old).symm

theorem schedule_pending {K : Kube} {sorter : Sorter Priority.better} {cfg : SchedulerConfig} {s : State}
    (hKeyed : s.Keyed) {order : List String} {vol v : AntstorVolume} {nodeID : String}
    (hSelected : vol.annotationAt selectedTgtNodeKey = none)
    (h : (System.schedule K sorter cfg { state := s } order vol).pending = some (nodeID, v)) :
    ∃ n, s.nodeMap.lookup nodeID = some n ∧ v = { vol with spec := { vol.spec with targetNodeId := nodeID } } ∧
      ∀ f ∈ loadFilterFromConfig K cfg, ∃ m m', (m = n ∨ m = n.settle) ∧ f cfg vol m = some (m', .pass) := by
  unfold System.schedule at h
  dsimp only at h
  split at h
  · cases h
  · rename_i out hOut
    dsimp only at h
    split at h
    · rename_i info hInfo
      obtain ⟨n, hn, hChosen, hVol, hFilters⟩ := scheduleVolume_chosen hSelected hOut hInfo
      obtain ⟨entry, hEntry, rfl⟩ := List.mem_map.mp hn
      have hLookup := mem_entries hEntry
      have hId := hKeyed entry.1 entry.2 hLookup
      rw [Option.some_inj, Prod.mk.injEq] at h
      obtain ⟨hNode, hv⟩ := h
      have hKey : nodeID = entry.1 := by
        rw [← hNode, hChosen, hId]
      refine ⟨entry.2, hKey ▸ hLookup, ?_, hFilters⟩
      rw [← hv, hVol, hId, hKey]
    · cases h

theorem basic_hasRoom {K : Kube} {cfg : SchedulerConfig} {vol : AntstorVolume} {n : Node}
    (hBasic : "Basic" ∈ cfg.filters) (hPlain : vol.annotations = none)
    (hSize : vol.spec.sizeByte < 2 ^ 63) (h : n.Sound)
    (hPass : ∀ f ∈ loadFilterFromConfig K cfg, f cfg vol n = some (n, .pass)) :
    n.HasRoom vol.spec.sizeByte := by
  have hLoaded : basicFilterFunc ∈ loadFilterFromConfig K cfg :=
    mem_loadFilterFromConfig.mpr ⟨"Basic", hBasic, rfl⟩
  have hNoID : vol.annotationAt reservationIDKey = none := by
    simp [ObjectMeta.annotationAt, hPlain]
  rcases basicFilterFunc_pass (hPass _ hLoaded) with ⟨_, hMatch⟩ | ⟨_, _, hFree, _⟩
  · obtain ⟨resvId, _, hId, _⟩ := matchReservationFilter_pass hMatch
    rw [hNoID] at hId
    cases hId
  · rw [int64_of_inInt64 ⟨by omega, by exact_mod_cast hSize⟩] at hFree
    exact Node.hasRoom_of_le_freeStorage h hFree

theorem Safe.keep {sys : System} {state : State} (h : sys.Safe)
    (hMap : state.nodeMap = sys.state.nodeMap) : Safe { sys with state := state } where
  keyed id node hNode := h.keyed id node (hMap ▸ hNode)
  sound id node hNode := h.sound id node (hMap ▸ hNode)
  plain := h.plain
  room nodeID vol hPending node hNode := h.room nodeID vol hPending node (hMap ▸ hNode)

theorem Safe.replace {sys : System} {state : State} {nodeID : String} {node node' : Node}
    (h : sys.Safe) (hNode : sys.state.nodeMap.lookup nodeID = some node)
    (hMap : state.nodeMap = sys.state.nodeMap.insert nodeID node') (hPool : node'.pool = node.pool)
    (hSound : node'.Sound)
    (hRoom : ∀ vol, sys.pending = some (nodeID, vol) → node'.HasRoom vol.spec.sizeByte) :
    Safe { sys with state := state } where
  keyed := by
    refine State.keyed_insert h.keyed hMap ?_
    rw [Node.info, hPool]
    exact h.keyed nodeID node hNode
  sound := State.allNodes_insert h.sound hMap hSound
  plain := h.plain
  room := by
    intro target vol hPending found hFound
    change state.nodeMap.lookup target = some found at hFound
    rw [hMap, FiniteMap.lookup_insert_eq] at hFound
    split at hFound
    · rename_i hTarget
      cases hFound
      exact hRoom vol (hTarget ▸ hPending)
    · exact h.room target vol hPending found hFound

theorem Safe.releases {sys : System} {state : State} {nodeID : String} {node node' : Node}
    (h : sys.Safe) (hNode : sys.state.nodeMap.lookup nodeID = some node)
    (hMap : state.nodeMap = sys.state.nodeMap.insert nodeID node') (hReleases : node.Releases node') :
    Safe { sys with state := state } :=
  h.replace hNode hMap hReleases.pool hReleases.sound fun vol hPending =>
    hReleases.hasRoom (h.room nodeID vol hPending node hNode)

variable {K : Kube} {sorter : Sorter Priority.better} {cfg : SchedulerConfig} {sys : System}

theorem Safe.schedule (hBasic : "Basic" ∈ cfg.filters) (h : sys.Safe) (order : List String)
    {vol : AntstorVolume} (hPlain : vol.annotations = none)
    (hSize : vol.spec.sizeByte < 2 ^ 63) : (sys.schedule K sorter cfg order vol).Safe := by
  unfold System.schedule
  dsimp only
  split
  · exact h
  · rename_i out hOut
    have hSettled : ∀ n ∈ (entries sys.state order).map Prod.snd, n.Settled := by
      intro n hn
      obtain ⟨entry, hEntry, rfl⟩ := List.mem_map.mp hn
      exact (h.sound entry.1 entry.2 (mem_entries hEntry)).settled
    obtain ⟨hNodes, hChosen⟩ :=
      scheduleVolume_settled hSettled (by simp [ObjectMeta.annotationAt, hPlain]) hOut
    have hState : writeBack sys.state (((entries sys.state order).map Prod.fst).zip out.nodes) =
        sys.state := by
      rw [hNodes, ← List.zip_of_prod rfl rfl]
      exact writeBack_of_lookup fun entry hEntry => mem_entries hEntry
    rw [hState]
    cases hResult : out.result with
    | error err =>
      exact ⟨h.keyed, h.sound, by simp, by simp⟩
    | ok info =>
      obtain ⟨n, hn, rfl, hVol, hPass⟩ := hChosen info hResult
      obtain ⟨entry, hEntry, rfl⟩ := List.mem_map.mp hn
      have hLookup := mem_entries hEntry
      refine ⟨h.keyed, h.sound, ?_, ?_⟩
      · intro nodeID pendingVol hPending
        cases hPending
        rw [hVol]
        exact ⟨hPlain, hSize⟩
      · intro nodeID pendingVol hPending node hNode
        cases hPending
        rw [h.keyed entry.1 entry.2 hLookup, hLookup] at hNode
        cases hNode
        have hRoom := basic_hasRoom hBasic hPlain hSize (h.sound entry.1 entry.2 hLookup) hPass
        rw [hVol]
        exact hRoom

theorem Safe.bind (K : Kube) {nodeID : String} {vol : AntstorVolume} (h : sys.Safe)
    (hPending : sys.pending = some (nodeID, vol)) :
    Safe { state := (sys.state.bindAntstorVolume nodeID vol).1 } := by
  have hIdle : Safe { state := sys.state } := ⟨h.keyed, h.sound, by simp, by simp⟩
  obtain ⟨hPlain, hSize⟩ := h.plain nodeID vol hPending
  cases State.step_nodeEffect K sys.state (.bindAntstorVolume nodeID vol) with
  | keep hMap => exact hIdle.keep hMap
  | addVolume hNode _ hMap =>
    refine hIdle.replace hNode hMap (Node.addVolume_pool _ vol) ?_ (by simp)
    apply Node.sound_addVolume (h.sound nodeID _ hNode)
    rw [AntstorVolume.getTotalSize_of_annotations_none hPlain (by omega)]
    exact h.room nodeID vol hPending _ hNode

theorem Safe.reserve {nodeID : String} {r : Reservation} (h : sys.Safe)
    (hRoom : sys.LeavesRoom (.reserve nodeID r)) :
    Safe { sys with state := sys.state.step K (.reserve nodeID r) } := by
  cases State.step_nodeEffect K sys.state (.reserve nodeID r) with
  | keep hMap => exact h.keep hMap
  | @reserve _ _ _ node hNode hMap =>
    have hSound := h.sound nodeID node hNode
    refine h.replace hNode hMap (node.reserve_pool r) (Node.sound_reserve hSound hRoom.1) ?_
    intro vol hPending
    apply Node.reserve_hasRoom hSound hRoom.1 (h.room nodeID vol hPending node hNode)
    simpa using hRoom.2 (nodeID, vol) hPending rfl node hNode

theorem Safe.unreserve (h : sys.Safe) (nodeID id : String) :
    Safe { sys with state := sys.state.step K (.unreserve nodeID id) } := by
  cases State.step_nodeEffect K sys.state (.unreserve nodeID id) with
  | keep hMap => exact h.keep hMap
  | unreserve hNode hMap =>
    exact h.releases hNode hMap (Node.unreserve_releases (h.sound nodeID _ hNode) id)

theorem Safe.unbind (h : sys.Safe) (volID : String) :
    Safe { sys with state := sys.state.step K (.unbindAntstorVolume volID) } := by
  cases State.step_nodeEffect K sys.state (.unbindAntstorVolume volID) with
  | keep hMap => exact h.keep hMap
  | removeVolume _ hNode hMap =>
    exact h.releases hNode hMap (Node.removeVolumeByID_releases (h.sound _ _ hNode) volID)

theorem Safe.step (hBasic : "Basic" ∈ cfg.filters) (h : sys.Safe) {a : Action}
    (hRoom : sys.LeavesRoom a) : (sys.step K sorter cfg a).Safe := by
  cases a with
  | schedule order vol =>
    rw [System.step]
    split
    · exact h
    · exact h.schedule hBasic order hRoom.1 hRoom.2
  | bind =>
    rw [System.step]
    split
    · rename_i nodeID vol hPending
      exact h.bind K hPending
    · exact h
  | reserve nodeID r => exact h.reserve hRoom
  | unreserve nodeID id => exact h.unreserve nodeID id
  | unbind volID => exact h.unbind volID

/-- From a reachable state whose free storage is right, an interleaving in which
no reservation takes the room of the volume in flight overcommits no node. -/
theorem interleaving_freeStorage_nonneg (K : Kube) (sorter : Sorter Priority.better)
    (cfg : SchedulerConfig) (hBasic : "Basic" ∈ cfg.filters) (setup : List State.Action)
    (hSetup : Runs.Guarded (State.step K) (fun _ => State.ReservesNonneg) State.newState setup)
    (hStart : (State.run K setup).AllNodes fun n =>
      InInt64 n.charges ∧ 0 ≤ n.freeStorage ∧ storage n.freeResource ≤ n.freeStorage)
    (actions : List Action)
    (hRoom : Runs.Guarded (step K sorter cfg) LeavesRoom { state := State.run K setup } actions) :
    Runs.Always (step K sorter cfg) (fun sys => sys.state.AllNodes fun n => 0 ≤ n.freeStorage)
      { state := State.run K setup } actions := by
  have hSafe : Safe { state := State.run K setup } := by
    refine ⟨State.keyed_run K setup, ?_, by simp, by simp⟩
    intro id n hn
    obtain ⟨hRange, hFree, hCache⟩ := hStart id n hn
    exact (State.wellFormed_run K setup hSetup id n hn).sound hRange hFree hCache
  have hAlways : Runs.Always (step K sorter cfg) Safe { state := State.run K setup } actions :=
    hRoom.always hSafe fun sys a hSys hGuard => hSys.step hBasic hGuard
  refine hAlways.mono ?_
  intro sys hSys id n hn
  exact Node.freeStorage_nonneg_of_room (hSys.sound id n hn).nonneg (hSys.sound id n hn).room

/-- A volume of 60 bytes is scheduled to a pool of 100, a reservation comes in,
and the volume is bound. -/
def reservedInFlight (size : ℤ) : List Action :=
  [.schedule ["n"] { name := "v", spec := { uuid := "u", sizeByte := 60, hostNode := some { id := "n" } } },
    .reserve "n" (newReservation "r" size), .bind]

theorem reservedInFlight_fits :
    Runs.Always (step Kube.exact Priority.insertion { filters := ["Basic"] })
      (fun sys => sys.state.AllNodes fun n => 0 ≤ n.freeStorage)
      { state := State.run Kube.exact [.setStoragePool readyPool] } (reservedInFlight 40) := by
  apply interleaving_freeStorage_nonneg
  · decide
  · decide
  · decide +kernel
  · decide +kernel

theorem reservedInFlight_overcommits :
    ¬ (Runs.run (step Kube.exact Priority.insertion { filters := ["Basic"] })
      { state := State.run Kube.exact [.setStoragePool readyPool] }
      (reservedInFlight 60)).state.AllNodes fun n => 0 ≤ n.freeStorage := by
  decide +kernel

end System

end Liteio
