import Liteio.Scheduler.LocalShare

/-! # The local capacity a pool reports

`CalculateLocalStorageCapacity` of cmd/controller/antplugins. What remote volumes
take from the pool is the size they request, while the bounds that its comment
gives are about the space they are charged with. Annotations for snapshots or for
the allocated size make the two differ, in both directions.
-/

namespace Liteio

open MachineInt

def AntstorVolume.isLocal (vol : AntstorVolume) : Option Bool :=
  vol.spec.hostNode.map fun host => host.id = vol.spec.targetNodeId

def addRemoteBytes (allocRemoteBytes : ℤ) (vol : AntstorVolume) : Option ℤ :=
  vol.isLocal.map fun isLocal =>
    if !isLocal && vol.deletionTimestamp.isNone then addInt64 allocRemoteBytes (int64 vol.spec.sizeByte)
    else allocRemoteBytes

def calculateLocalStorageCapacity (K : Kube) (n : Node) : Option ℕ :=
  let totalSize := n.pool.getAvailableBytes K
  (n.volumes.foldlM addRemoteBytes 0).map fun allocRemoteBytes =>
    let val := int64 (totalSize - allocRemoteBytes)
    if 0 < val then uint64 val else 0

def requestedRemoteBytes (vols : List AntstorVolume) : ℕ :=
  ((vols.filter AntstorVolume.isRemote).map fun vol => vol.spec.sizeByte).sum

theorem requestedRemoteBytes_cons (vol : AntstorVolume) (vols : List AntstorVolume) :
    requestedRemoteBytes (vol :: vols) =
      (if vol.isRemote then vol.spec.sizeByte else 0) + requestedRemoteBytes vols := by
  by_cases h : vol.isRemote <;> simp [requestedRemoteBytes, h]

theorem addRemoteBytes_of_live {vol : AntstorVolume} (hLive : vol.deletionTimestamp = none)
    (hHost : vol.spec.hostNode.isSome) (acc : ℤ) :
    addRemoteBytes (int64 acc) vol = some (int64 (acc + (if vol.isRemote then vol.spec.sizeByte else 0 : ℕ))) := by
  obtain ⟨host, hSome⟩ := Option.isSome_iff_exists.mp hHost
  by_cases hSame : host.id = vol.spec.targetNodeId
  · simp [addRemoteBytes, AntstorVolume.isLocal, AntstorVolume.isRemote, hSome, hSame]
  · simp [addRemoteBytes, AntstorVolume.isLocal, AntstorVolume.isRemote, hSome, hSame, Ne.symm hSame, hLive,
      addInt64]

theorem foldlM_addRemoteBytes {vols : List AntstorVolume} (hLive : ∀ vol ∈ vols, vol.deletionTimestamp = none)
    (hHost : ∀ vol ∈ vols, vol.spec.hostNode.isSome) (acc : ℤ) :
    vols.foldlM addRemoteBytes (int64 acc) = some (int64 (acc + requestedRemoteBytes vols)) := by
  induction vols generalizing acc with
  | nil => simp [requestedRemoteBytes]
  | cons vol vols ih =>
    rw [List.forall_mem_cons] at hLive hHost
    rw [List.foldlM_cons, addRemoteBytes_of_live hLive.1 hHost.1, requestedRemoteBytes_cons]
    refine (ih hLive.2 hHost.2 _).trans ?_
    push_cast
    rw [add_assoc]

theorem calculateLocalStorageCapacity_eq (K : Kube) {n : Node}
    (hLive : ∀ vol ∈ n.volumes, vol.deletionTimestamp = none)
    (hHost : ∀ vol ∈ n.volumes, vol.spec.hostNode.isSome) :
    ∃ size, calculateLocalStorageCapacity K n = some size ∧
      (size : ℤ) = max 0 (int64 (n.pool.getAvailableBytes K - int64 (requestedRemoteBytes n.volumes))) := by
  have hFold := foldlM_addRemoteBytes hLive hHost 0
  rw [int64_zero, zero_add] at hFold
  rw [calculateLocalStorageCapacity, hFold]
  refine ⟨_, rfl, ?_⟩
  dsimp only
  have hRange := int64_inInt64 (n.pool.getAvailableBytes K - int64 (requestedRemoteBytes n.volumes))
  generalize int64 (n.pool.getAvailableBytes K - int64 (requestedRemoteBytes n.volumes)) = val at hRange
  split
  · rename_i hPos
    rw [uint64_of_nonneg hPos.le hRange, max_eq_right hPos.le]
  · rename_i hNonpos
    rw [max_eq_left (not_lt.mp hNonpos)]
    rfl

/-- The bounds hold as long as the requested bytes lie between what the remote volumes are charged
with and what the local ones leave. With no local volume a capacity of zero is in the bounds too. -/
theorem calculateLocalStorageCapacity_bounds_iff (K : Kube) (n : Node)
    (hLive : ∀ vol ∈ n.volumes, vol.deletionTimestamp = none)
    (hHost : ∀ vol ∈ n.volumes, vol.spec.hostNode.isSome)
    (hRoom : (n.getAllocatedLocalBytes + n.getAllocatedRemoteBytes : ℤ) ≤ n.pool.getAvailableBytes K) :
    (∃ size, calculateLocalStorageCapacity K n = some size ∧ n.getAllocatedLocalBytes ≤ size ∧
        (size : ℤ) ≤ n.pool.getAvailableBytes K - n.getAllocatedRemoteBytes) ↔
      ((n.getAllocatedRemoteBytes : ℤ) ≤ int64 (requestedRemoteBytes n.volumes) ∧
        n.getAllocatedLocalBytes + int64 (requestedRemoteBytes n.volumes) ≤ n.pool.getAvailableBytes K) ∨
      (n.getAllocatedLocalBytes = 0 ∧
        (n.pool.getAvailableBytes K ≤ int64 (requestedRemoteBytes n.volumes) ∨
          2 ^ 63 ≤ n.pool.getAvailableBytes K - int64 (requestedRemoteBytes n.volumes))) := by
  obtain ⟨size, hSize, hEq⟩ := calculateLocalStorageCapacity_eq K hLive hHost
  have hTotal := n.pool.getAvailableBytes_inInt64 K
  have hRequested := int64_inInt64 (requestedRemoteBytes n.volumes)
  generalize int64 (requestedRemoteBytes n.volumes) = requested at *
  generalize n.pool.getAvailableBytes K = total at *
  obtain ⟨hTotalLower, hTotalUpper⟩ := hTotal
  obtain ⟨hRequestedLower, hRequestedUpper⟩ := hRequested
  have hVal : int64 (total - requested) =
      if 2 ^ 63 ≤ total - requested then total - requested - 2 ^ 64 else total - requested := by
    split
    · rename_i hOver
      exact int64_of_overflow hOver (by omega)
    · exact int64_of_inInt64 ⟨by omega, by omega⟩
  rw [hSize]
  simp only [Option.some.injEq, exists_eq_left']
  rw [hVal] at hEq
  split at hEq <;> omega

def poolWithRemote (annotations : StringMap) : Node where
  pool := { spec := { nodeInfo := { id := "a" }, kernelLVM := { bytes := 100 } } }
  volumes := [{
    annotations := annotations
    spec := { targetNodeId := "a", hostNode := some { id := "h" }, sizeByte := 40 } }]

theorem bounds_of_plain_remote : ∃ size,
    calculateLocalStorageCapacity .exact (poolWithRemote none) = some size ∧
      (poolWithRemote none).getAllocatedLocalBytes ≤ size ∧
      (size : ℤ) ≤ (poolWithRemote none).pool.getAvailableBytes .exact -
        (poolWithRemote none).getAllocatedRemoteBytes :=
  (calculateLocalStorageCapacity_bounds_iff .exact (poolWithRemote none) (by decide) (by decide)
    (by decide +kernel)).mpr (.inl ⟨by decide +kernel, by decide +kernel⟩)

def reservedRemote : Node := poolWithRemote (some (Finmap.singleton snapshotReservedSpaceAnnotationKey "10"))

/-- A remote volume of 40 bytes with 10 more for snapshots: 60 bytes are reported, and 50 are left. -/
theorem not_bounds_of_reserved_remote :
    ¬ ((∀ vol ∈ reservedRemote.volumes, vol.deletionTimestamp = none) →
      (∀ vol ∈ reservedRemote.volumes, vol.spec.hostNode.isSome) →
      (reservedRemote.getAllocatedLocalBytes + reservedRemote.getAllocatedRemoteBytes : ℤ) ≤
        reservedRemote.pool.getAvailableBytes .exact →
      ∃ size, calculateLocalStorageCapacity .exact reservedRemote = some size ∧
        reservedRemote.getAllocatedLocalBytes ≤ size ∧
        (size : ℤ) ≤ reservedRemote.pool.getAvailableBytes .exact - reservedRemote.getAllocatedRemoteBytes) := by
  intro h
  obtain ⟨size, hSize, -, hUpper⟩ := h (by decide) (by decide) (by decide +kernel)
  have hReported : calculateLocalStorageCapacity .exact reservedRemote = some 60 := by decide +kernel
  cases hSize.symm.trans hReported
  revert hUpper
  decide +kernel

end Liteio
