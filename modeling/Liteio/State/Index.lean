import Liteio.State.Store
import Liteio.Library.InverseIndex

/-! # The volume index against the placement of volumes

The index maps a volume UUID to the node that holds the volume. It is updated
by `BindAntstorVolume` and `UnbindAntstorVolume` only, while the volume lists
are matched by name. A bind that moves a UUID to another node or name, or that
replaces an entry of another UUID, leaves the two apart; no other call does.
-/

namespace Liteio.State

def Holds (s : State) (nodeID volID : String) : Prop :=
  ∃ node, s.nodeMap.lookup nodeID = some node ∧ ∃ vol ∈ node.volumes, vol.spec.uuid = volID

/-- Index and placement agree, no UUID is on two nodes, and an unbind that
succeeds removes the UUID from every node. -/
structure IndexAgrees (s : State) : Prop where
  agrees : ∀ volID nodeID, s.volIDMap.lookup volID = some nodeID ↔ s.Holds nodeID volID
  oneNode : ∀ volID a b, s.Holds a volID → s.Holds b volID → a = b
  unbindClears : ∀ volID, (s.unbindAntstorVolume volID).2 = none →
    ∀ nodeID, ¬ (s.unbindAntstorVolume volID).1.Holds nodeID volID

/-- A bind that goes through meets its UUID nowhere but in the entry of the
same name on the same node, and replaces that entry only under the same UUID. -/
def BindKeepsIndex (s : State) : Action → Prop
  | .bindAntstorVolume nodeID vol =>
    ∀ node, s.nodeMap.lookup nodeID = some node → vol.spec.uuid ≠ "" →
      (∀ item ∈ node.volumes, item.name = vol.name → item.spec.sizeByte = vol.spec.sizeByte) →
      (∀ other found, s.nodeMap.lookup other = some found → ∀ item ∈ found.volumes,
        item.spec.uuid = vol.spec.uuid → other = nodeID ∧ item.name = vol.name) ∧
      ∀ item ∈ node.volumes, item.name = vol.name → item.spec.uuid = vol.spec.uuid
  | _ => True

def uuidsAt (s : State) (nodeID : String) : List String :=
  ((s.nodeMap.lookup nodeID).map (fun node => node.volumes.map (fun vol => vol.spec.uuid))).getD []

def index (s : State) (volID : String) : Option String := s.volIDMap.lookup volID

theorem uuidsAt_of_lookup {s : State} {nodeID : String} {node : Node}
    (h : s.nodeMap.lookup nodeID = some node) :
    s.uuidsAt nodeID = node.volumes.map (fun vol => vol.spec.uuid) := by
  rw [uuidsAt, h]
  rfl

theorem holds_iff_mem_uuidsAt {s : State} {nodeID volID : String} :
    s.Holds nodeID volID ↔ volID ∈ s.uuidsAt nodeID := by
  constructor
  · rintro ⟨node, hNode, vol, hVol, rfl⟩
    rw [uuidsAt_of_lookup hNode]
    exact List.mem_map.mpr ⟨vol, hVol, rfl⟩
  · intro h
    cases hNode : s.nodeMap.lookup nodeID with
    | none =>
      rw [uuidsAt, hNode] at h
      cases h
    | some node =>
      rw [uuidsAt_of_lookup hNode] at h
      obtain ⟨vol, hVol, hUuid⟩ := List.mem_map.mp h
      exact ⟨node, hNode, vol, hVol, hUuid⟩

theorem uuidsAt_insert {s s' : State} {nodeID : String} {node : Node}
    (hMap : s'.nodeMap = s.nodeMap.insert nodeID node) :
    s'.uuidsAt = Function.update s.uuidsAt nodeID (node.volumes.map (fun vol => vol.spec.uuid)) := by
  funext other
  rw [uuidsAt, hMap, FiniteMap.lookup_insert_eq, Function.update_apply]
  split
  · rfl
  · rfl

theorem uuidsAt_insert_same {s s' : State} {nodeID : String} {node : Node}
    (hMap : s'.nodeMap = s.nodeMap.insert nodeID node)
    (hSame : node.volumes.map (fun vol => vol.spec.uuid) = s.uuidsAt nodeID) : s'.uuidsAt = s.uuidsAt := by
  rw [uuidsAt_insert hMap, hSame, Function.update_eq_self]

theorem uuidsAt_erase {s s' : State} {nodeID : String} (hMap : s'.nodeMap = s.nodeMap.erase nodeID)
    (hEmpty : ∀ node, s.nodeMap.lookup nodeID = some node → node.volumes = []) :
    s'.uuidsAt = s.uuidsAt := by
  funext other
  rw [uuidsAt, hMap, FiniteMap.lookup_erase_eq]
  split
  · rename_i hOther
    subst hOther
    cases hNode : s.nodeMap.lookup other with
    | none => rw [uuidsAt, hNode]
    | some node =>
      rw [uuidsAt_of_lookup hNode, hEmpty node hNode]
      rfl
  · rfl

theorem index_insert {s s' : State} {volID nodeID : String}
    (h : s'.volIDMap = s.volIDMap.insert volID nodeID) :
    s'.index = Function.update s.index volID (some nodeID) := by
  funext other
  rw [index, h, FiniteMap.lookup_insert_eq, Function.update_apply]
  rfl

theorem index_erase {s s' : State} {volID : String} (h : s'.volIDMap = s.volIDMap.erase volID) :
    s'.index = Function.update s.index volID none := by
  funext other
  rw [index, h, FiniteMap.lookup_erase_eq, Function.update_apply]
  rfl

theorem uuids_eraseP (vols : List AntstorVolume) (volID : String) :
    (vols.eraseP (fun item => item.spec.uuid = volID)).map (fun vol => vol.spec.uuid) =
      (vols.map (fun vol => vol.spec.uuid)).erase volID := by
  rw [List.erase_eq_eraseP, List.eraseP_map]
  congr 2
  funext item
  simp [eq_comm, beq_eq_decide]

theorem unbind_uuidsAt {s : State} {volID nodeID : String} {node : Node}
    (hIndex : s.volIDMap.lookup volID = some nodeID) (h : s.nodeMap.lookup nodeID = some node) :
    (s.unbindAntstorVolume volID).1.uuidsAt =
      Function.update s.uuidsAt nodeID ((s.uuidsAt nodeID).erase volID) := by
  rw [unbindAntstorVolume_eq hIndex h, uuidsAt_insert rfl, Node.removeVolumeByID_volumes,
    uuids_eraseP, uuidsAt_of_lookup h]

theorem unbind_index {s : State} {volID nodeID : String} {node : Node}
    (hIndex : s.volIDMap.lookup volID = some nodeID) (h : s.nodeMap.lookup nodeID = some node) :
    (s.unbindAntstorVolume volID).1.index = Function.update s.index volID none := by
  rw [unbindAntstorVolume_eq hIndex h]
  exact index_erase rfl

theorem IndexAgrees.inverse {s : State} (h : s.IndexAgrees) : Inverse s.index s.uuidsAt := by
  refine ⟨fun volID nodeID => (h.agrees volID nodeID).trans holds_iff_mem_uuidsAt, ?_⟩
  intro nodeID
  rw [List.nodup_iff_count_le_one]
  intro volID
  by_contra hCount
  have hMem : volID ∈ s.uuidsAt nodeID := List.count_pos_iff.mp (by omega)
  have hIndex := (h.agrees volID nodeID).mpr (holds_iff_mem_uuidsAt.mpr hMem)
  obtain ⟨node, hNode, _⟩ := holds_iff_mem_uuidsAt.mpr hMem
  apply h.unbindClears volID (by rw [unbindAntstorVolume_eq hIndex hNode]) nodeID
  rw [holds_iff_mem_uuidsAt, unbind_uuidsAt hIndex hNode, Function.update_self,
    ← List.count_pos_iff, List.count_erase_self]
  omega

theorem indexAgrees_of_inverse {s : State} (h : Inverse s.index s.uuidsAt) : s.IndexAgrees := by
  refine ⟨fun volID nodeID => (h.agrees volID nodeID).trans holds_iff_mem_uuidsAt.symm, ?_, ?_⟩
  · intro volID a b ha hb
    exact h.site_unique (holds_iff_mem_uuidsAt.mp ha) (holds_iff_mem_uuidsAt.mp hb)
  · intro volID hOk nodeID hHolds
    cases hIndex : s.volIDMap.lookup volID with
    | none =>
      rw [unbindAntstorVolume, hIndex] at hOk
      cases hOk
    | some site =>
      obtain ⟨node, hNode, _⟩ := holds_iff_mem_uuidsAt.mpr ((h.agrees volID site).mp hIndex)
      have hAfter := (h.erase hIndex).agrees volID nodeID
      rw [← unbind_index hIndex hNode, ← unbind_uuidsAt hIndex hNode, ← holds_iff_mem_uuidsAt,
        unbind_index hIndex hNode, Function.update_self] at hAfter
      cases hAfter.mpr hHolds

theorem indexAgrees_iff_inverse {s : State} : s.IndexAgrees ↔ Inverse s.index s.uuidsAt :=
  ⟨IndexAgrees.inverse, indexAgrees_of_inverse⟩

theorem indexAgrees_congr {s s' : State} (hIndex : s'.index = s.index) (hUuids : s'.uuidsAt = s.uuidsAt) :
    s'.IndexAgrees ↔ s.IndexAgrees := by
  rw [indexAgrees_iff_inverse, indexAgrees_iff_inverse, hIndex, hUuids]

theorem append_indexAgrees_iff {s s' : State} {nodeID : String} {node : Node} {vol : AntstorVolume}
    (h : s.IndexAgrees) (hNode : s.nodeMap.lookup nodeID = some node)
    (hAbsent : ∀ item ∈ node.volumes, item.name ≠ vol.name)
    (hIndex : s'.index = Function.update s.index vol.spec.uuid (some nodeID))
    (hUuids : s'.uuidsAt =
      Function.update s.uuidsAt nodeID (s.uuidsAt nodeID ++ [vol.spec.uuid])) :
    s'.IndexAgrees ↔ ∀ other found, s.nodeMap.lookup other = some found → ∀ item ∈ found.volumes,
      item.spec.uuid = vol.spec.uuid → other = nodeID ∧ item.name = vol.name := by
  rw [indexAgrees_iff_inverse, hIndex, hUuids, h.inverse.append_iff]
  constructor
  · intro hFresh other found hFound item hItem hUuid
    exact absurd (holds_iff_mem_uuidsAt.mp ⟨found, hFound, item, hItem, hUuid⟩) (hFresh other)
  · intro hOnly other hMem
    obtain ⟨found, hFound, item, hItem, hUuid⟩ := holds_iff_mem_uuidsAt.mpr hMem
    obtain ⟨rfl, hName⟩ := hOnly other found hFound item hItem hUuid
    rw [hNode] at hFound
    cases hFound
    exact hAbsent item hItem hName

theorem replace_indexAgrees_iff {s s' : State} {nodeID : String} {node : Node}
    {vol old : AntstorVolume} {before after : List AntstorVolume}
    (h : s.IndexAgrees) (hNode : s.nodeMap.lookup nodeID = some node) (hNames : node.NamesDistinct)
    (hSplit : node.volumes = before ++ old :: after) (hOld : old.name = vol.name)
    (hIndex : s'.index = Function.update s.index vol.spec.uuid (some nodeID))
    (hUuids : s'.uuidsAt = Function.update s.uuidsAt nodeID
      (before.map (fun item => item.spec.uuid) ++
        vol.spec.uuid :: after.map (fun item => item.spec.uuid))) :
    s'.IndexAgrees ↔
      (∀ other found, s.nodeMap.lookup other = some found → ∀ item ∈ found.volumes,
        item.spec.uuid = vol.spec.uuid → other = nodeID ∧ item.name = vol.name) ∧
      ∀ item ∈ node.volumes, item.name = vol.name → item.spec.uuid = vol.spec.uuid := by
  have hOldMem : old ∈ node.volumes := by simp [hSplit]
  have hPlace : s.uuidsAt nodeID = before.map (fun item => item.spec.uuid) ++
      old.spec.uuid :: after.map (fun item => item.spec.uuid) := by
    rw [uuidsAt_of_lookup hNode, hSplit, List.map_append, List.map_cons]
  rw [indexAgrees_iff_inverse, hIndex, hUuids, h.inverse.replace_iff hPlace]
  constructor
  · intro hSame
    refine ⟨?_, ?_⟩
    · intro other found hFound item hItem hUuid
      obtain rfl : other = nodeID := h.oneNode vol.spec.uuid other nodeID
        ⟨found, hFound, item, hItem, hUuid⟩ ⟨node, hNode, old, hOldMem, hSame⟩
      rw [hNode] at hFound
      cases hFound
      have hNodup := h.inverse.nodup other
      rw [uuidsAt_of_lookup hNode] at hNodup
      have hItemOld : item = old :=
        List.inj_on_of_nodup_map hNodup hItem hOldMem (hUuid.trans hSame.symm)
      exact ⟨rfl, hItemOld ▸ hOld⟩
    · intro item hItem hName
      have hItemOld : item = old :=
        List.inj_on_of_nodup_map hNames hItem hOldMem (hName.trans hOld.symm)
      rw [hItemOld, hSame]
  · intro hKeeps
    exact hKeeps.2 old hOldMem hOld

theorem bind_indexAgrees_iff {s : State} (nodeID : String) (vol : AntstorVolume)
    (hNames : s.AllNodes Node.NamesDistinct) (h : s.IndexAgrees) :
    (s.bindAntstorVolume nodeID vol).1.IndexAgrees ↔
      s.BindKeepsIndex (.bindAntstorVolume nodeID vol) := by
  cases hNode : s.nodeMap.lookup nodeID with
  | none => simp [bindAntstorVolume, BindKeepsIndex, hNode, h]
  | some node =>
    by_cases hUuid : vol.spec.uuid = ""
    · simp [bindAntstorVolume, BindKeepsIndex, hNode, hUuid, h]
    · simp only [BindKeepsIndex, hNode, Option.some.injEq, forall_eq', hUuid, ne_eq,
        not_false_eq_true, forall_const]
      rw [bindAntstorVolume_eq hNode hUuid]
      rcases node.addVolume_cases vol (hNames nodeID node hNode) with
        ⟨hAbsent, hEq⟩ | ⟨before, old, after, hSplit, hOld, hSize, hEq⟩ | ⟨old, hMem, hOld, hSize, hEq⟩
      · rw [hEq, if_neg Bool.false_ne_true]
        rw [append_indexAgrees_iff h hNode hAbsent (index_insert rfl)]
        · constructor
          · intro hOnly _
            exact ⟨hOnly, fun item hItem hName => absurd hName (hAbsent item hItem)⟩
          · intro hKeeps
            exact (hKeeps fun item hItem hName => absurd hName (hAbsent item hItem)).1
        · rw [uuidsAt_insert rfl, uuidsAt_of_lookup hNode]
          simp
      · rw [hEq, if_neg Bool.false_ne_true]
        have hSizes : ∀ item ∈ node.volumes, item.name = vol.name →
            item.spec.sizeByte = vol.spec.sizeByte := by
          intro item hItem hName
          have hItemOld : item = old := List.inj_on_of_nodup_map (hNames nodeID node hNode) hItem
            (by simp [hSplit]) (hName.trans hOld.symm)
          rw [hItemOld, hSize]
        rw [replace_indexAgrees_iff h hNode (hNames nodeID node hNode) hSplit hOld (index_insert rfl)]
        · exact ⟨fun hKeeps _ => hKeeps, fun hKeeps => hKeeps hSizes⟩
        · rw [uuidsAt_insert rfl]
          simp
      · rw [hEq, if_pos rfl]
        have hSame : (s.setNode nodeID (node.dropReservation vol)).IndexAgrees ↔ s.IndexAgrees := by
          refine indexAgrees_congr rfl (uuidsAt_insert_same rfl ?_)
          rw [Node.dropReservation_volumes, uuidsAt_of_lookup hNode]
        exact ⟨fun _ hSizes => absurd (hSizes old hMem hOld) hSize, fun _ => hSame.mpr h⟩

theorem unbind_indexAgrees {s : State} (volID : String) (h : s.IndexAgrees) :
    (s.unbindAntstorVolume volID).1.IndexAgrees := by
  cases hIndex : s.volIDMap.lookup volID with
  | none => simpa [unbindAntstorVolume, hIndex] using h
  | some nodeID =>
    obtain ⟨node, hNode, _⟩ := (h.agrees volID nodeID).mp hIndex
    rw [indexAgrees_iff_inverse, unbind_index hIndex hNode, unbind_uuidsAt hIndex hNode]
    exact h.inverse.erase hIndex

theorem step_index {K : Kube} {s : State} {a : Action}
    (hBind : ∀ nodeID vol, a ≠ .bindAntstorVolume nodeID vol)
    (hUnbind : ∀ volID, a ≠ .unbindAntstorVolume volID) : (s.step K a).index = s.index := by
  cases a with
  | bindAntstorVolume nodeID vol => exact absurd rfl (hBind nodeID vol)
  | unbindAntstorVolume volID => exact absurd rfl (hUnbind volID)
  | setStoragePool pool =>
    rw [step, setStoragePool]
    split <;> rfl
  | reserve nodeID r =>
    rw [step, onNode]
    split <;> rfl
  | unreserve nodeID id =>
    rw [step, onNode]
    split <;> rfl
  | handleDeletion name =>
    rw [step, handleDeletion]
    split
    · split <;> rfl
    · rfl

theorem step_uuidsAt {K : Kube} {s : State} {a : Action}
    (hBind : ∀ nodeID vol, a ≠ .bindAntstorVolume nodeID vol)
    (hUnbind : ∀ volID, a ≠ .unbindAntstorVolume volID) : (s.step K a).uuidsAt = s.uuidsAt := by
  cases step_nodeEffect K s a with
  | keep h =>
    funext nodeID
    rw [uuidsAt, h, uuidsAt]
  | remove h hEmpty => exact uuidsAt_erase h hEmpty
  | create h hMap =>
    apply uuidsAt_insert_same hMap
    rw [uuidsAt, h]
    rfl
  | replacePool h hMap =>
    apply uuidsAt_insert_same hMap
    rw [uuidsAt_of_lookup h, Node.refresh_volumes]
  | addVolume _ _ _ => exact absurd rfl (hBind _ _)
  | removeVolume _ _ _ => exact absurd rfl (hUnbind _)
  | reserve h hMap =>
    apply uuidsAt_insert_same hMap
    rw [uuidsAt_of_lookup h, Node.reserve_volumes]
  | unreserve h hMap =>
    apply uuidsAt_insert_same hMap
    rw [uuidsAt_of_lookup h, Node.unreserve_volumes]

theorem step_indexAgrees_iff (K : Kube) (s : State) (a : Action)
    (hNames : s.AllNodes Node.NamesDistinct) (h : s.IndexAgrees) :
    (s.step K a).IndexAgrees ↔ s.BindKeepsIndex a := by
  by_cases hBind : ∃ nodeID vol, a = .bindAntstorVolume nodeID vol
  · obtain ⟨nodeID, vol, rfl⟩ := hBind
    exact bind_indexAgrees_iff nodeID vol hNames h
  · have hKeeps : s.BindKeepsIndex a := by
      cases a with
      | bindAntstorVolume nodeID vol => exact absurd ⟨nodeID, vol, rfl⟩ hBind
      | _ => exact trivial
    by_cases hUnbind : ∃ volID, a = .unbindAntstorVolume volID
    · obtain ⟨volID, rfl⟩ := hUnbind
      exact iff_of_true (unbind_indexAgrees volID h) hKeeps
    · push Not at hBind hUnbind
      rw [indexAgrees_congr (step_index hBind hUnbind) (step_uuidsAt hBind hUnbind)]
      exact iff_of_true h hKeeps

theorem newState_indexAgrees : newState.IndexAgrees := by
  refine indexAgrees_of_inverse ⟨?_, ?_⟩
  · intro volID nodeID
    simp [index, uuidsAt, newState]
  · intro nodeID
    simp [uuidsAt, newState]

/-- Index and placement agree in every state of a run exactly when every bind
of the run brings a UUID that is new or already stands under that name there. -/
theorem run_indexAgrees_iff (K : Kube) (actions : List Action) :
    Runs.Always (step K) IndexAgrees newState actions ↔
      Runs.Guarded (step K) BindKeepsIndex newState actions := by
  refine Runs.always_iff_guarded (allNodes_newState Node.NamesDistinct) newState_indexAgrees ?_ ?_
  · intro s a hNames
    exact namesDistinct_step K s a hNames
  · intro s a hNames h
    exact step_indexAgrees_iff K s a hNames h

def rebind : List Action :=
  let pool (id : String) : StoragePool := { name := id, spec := { nodeInfo := { id := id } } }
  let vol : AntstorVolume := { name := "v", spec := { uuid := "u", sizeByte := 1 } }
  [.setStoragePool (pool "a"), .setStoragePool (pool "b"), .bindAntstorVolume "a" vol,
    .bindAntstorVolume "b" vol]

theorem rebind_not_indexAgrees : ¬ (run Kube.exact rebind).IndexAgrees := by
  intro h
  have hHolds : (run Kube.exact rebind).Holds "a" "u" := by
    rw [holds_iff_mem_uuidsAt]
    decide
  exact absurd ((h.agrees "u" "a").mpr hHolds) (by decide)

end Liteio.State
