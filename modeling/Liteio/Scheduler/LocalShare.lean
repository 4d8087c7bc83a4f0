import Liteio.Scheduler.Limits

/-! # The local share over whole runs

The filter for the local share subtracts the requested size of a volume from what
the remote volumes of the pool leave, while a bound volume is charged with its
total size, the space reserved for snapshots included. Runs keep the share as
long as no volume is charged with more than it requests and the subtraction does
not leave the range of its type.
-/

namespace Liteio

open MachineInt FilterChain

/-- The floating-point operations are those of the rationals. -/
def ExactFloats (K : Kube) : Prop := ∀ x, K.roundFloat64 x = x

theorem ofFloat_inInt64 (x : ℚ) : InInt64 (ofFloat x) := by
  unfold ofFloat
  generalize (if 0 ≤ x then ⌊x⌋ else ⌈x⌉) = whole
  dsimp only
  split
  · assumption
  · decide

theorem Kube.bytesOf_inInt64 (K : Kube) (q : Quantity) : InInt64 (K.bytesOf q) := by
  unfold bytesOf
  split
  · rename_i hWhole
    unfold asInt64 at hWhole ⊢
    split
    · rename_i hRange
      exact hRange.2
    · decide
  · exact ofFloat_inInt64 _

namespace StoragePool

def specBytes (pool : StoragePool) : ℤ :=
  let bytes := if 0 < pool.spec.kernelLVM.bytes then int64 pool.spec.kernelLVM.bytes else 0
  if bytes ≤ 0 ∧ 0 < pool.spec.spdkLVStore.bytes then int64 pool.spec.spdkLVStore.bytes else bytes

variable (K : Kube) (pool : StoragePool)

theorem getVgTotalBytes_eq : pool.getVgTotalBytes K =
    if pool.specBytes ≤ 0 then K.bytesOf (storage pool.status.capacity) else pool.specBytes := rfl

theorem specBytes_inInt64 : InInt64 pool.specBytes := by
  have hKernel : InInt64 (if 0 < pool.spec.kernelLVM.bytes then int64 pool.spec.kernelLVM.bytes else 0) := by
    split
    · exact int64_inInt64 _
    · decide
  unfold specBytes
  dsimp only
  generalize (if 0 < pool.spec.kernelLVM.bytes then int64 pool.spec.kernelLVM.bytes else 0) = bytes at hKernel ⊢
  split
  · exact int64_inInt64 _
  · exact hKernel

theorem getVgTotalBytes_inInt64 : InInt64 (pool.getVgTotalBytes K) := by
  rw [getVgTotalBytes_eq]
  split
  · exact K.bytesOf_inInt64 _
  · exact pool.specBytes_inInt64

theorem getAvailableBytes_inInt64 : InInt64 (pool.getAvailableBytes K) := by
  unfold getAvailableBytes
  generalize pool.spec.kernelLVM.reservedLVol = reserved
  induction reserved using List.reverseRecOn with
  | nil => exact pool.getVgTotalBytes_inInt64 K
  | append_singleton reserved item _ =>
    rw [List.foldl_append]
    exact int64_inInt64 _

/-- A capacity that is filled in changes no size: it is there only where the
sizes of the spec are used. -/
theorem getAvailableBytes_withCapacity :
    (State.withCapacity K pool).getAvailableBytes K = pool.getAvailableBytes K := by
  have hTotal : (State.withCapacity K pool).getVgTotalBytes K = pool.getVgTotalBytes K := by
    unfold State.withCapacity
    dsimp only
    split
    · rename_i hFilled
      obtain ⟨hPos, hNone⟩ := hFilled
      have hZero : K.bytesOf (storage pool.status.capacity) = 0 := by
        rw [storage, hNone]
        rfl
      have hSpec : ¬ pool.specBytes ≤ 0 := by
        intro hBytes
        rw [getVgTotalBytes_eq, if_pos hBytes, hZero] at hPos
        exact lt_irrefl 0 hPos
      rw [getVgTotalBytes_eq, getVgTotalBytes_eq, if_neg hSpec]
      exact if_neg hSpec
    · rfl
  unfold getAvailableBytes
  rw [hTotal]
  unfold State.withCapacity
  dsimp only
  split <;> rfl

end StoragePool

def AntstorVolume.isRemote (item : AntstorVolume) : Bool :=
  match item.spec.hostNode with
  | some host => item.spec.targetNodeId ≠ host.id
  | none => false

def remoteBytes (vols : List AntstorVolume) : ℕ :=
  ((vols.filter AntstorVolume.isRemote).map AntstorVolume.getTotalSize).sum

theorem remoteBytes_cons (vol : AntstorVolume) (vols : List AntstorVolume) :
    remoteBytes (vol :: vols) = (if vol.isRemote then vol.getTotalSize else 0) + remoteBytes vols := by
  by_cases h : vol.isRemote <;> simp [remoteBytes, h]

theorem remoteBytes_append (first second : List AntstorVolume) :
    remoteBytes (first ++ second) = remoteBytes first + remoteBytes second := by
  simp [remoteBytes]

theorem remoteBytes_le {first second : List AntstorVolume} (h : first.Sublist second) :
    remoteBytes first ≤ remoteBytes second :=
  ((h.filter _).map _).sum_le_sum fun _ _ => Nat.zero_le _

theorem Node.getAllocatedRemoteBytes_eq (n : Node) : n.getAllocatedRemoteBytes = remoteBytes n.volumes % 2 ^ 64 := by
  have hFold : ∀ (vols : List AntstorVolume) (size : ℕ), size < 2 ^ 64 →
      vols.foldl (fun size item => match item.spec.hostNode with
        | some host =>
          if item.spec.targetNodeId ≠ host.id then uint64 (size + item.getTotalSize) else size
        | none => size) size = (size + remoteBytes vols) % 2 ^ 64 := by
    intro vols
    induction vols with
    | nil =>
      intro size hSize
      exact (Nat.mod_eq_of_lt hSize).symm
    | cons vol vols ih =>
      intro size hSize
      rw [List.foldl_cons, remoteBytes_cons, AntstorVolume.isRemote]
      have hWrapped : uint64 (size + vol.getTotalSize) = (size + vol.getTotalSize) % 2 ^ 64 := by
        rw [uint64]
        omega
      cases vol.spec.hostNode with
      | none => simpa using ih size hSize
      | some host =>
        by_cases hHost : vol.spec.targetNodeId = host.id
        · simpa [hHost] using ih size hSize
        · simp only [ne_eq, hHost, not_false_eq_true, if_true, decide_true]
          rw [ih _ (by omega), hWrapped]
          omega
  refine (hFold n.volumes 0 (by norm_num)).trans ?_
  rw [Nat.zero_add]

theorem localPctTooLow_iff {K : Kube} (hFloats : ExactFloats K) {total left minLocalStoragePct : ℤ}
    (hTotal : 0 < total) :
    localPctTooLow K total left minLocalStoragePct = true ↔ left * 100 < minLocalStoragePct * total := by
  have hPos : (0 : ℚ) < total := by exact_mod_cast hTotal
  simp only [localPctTooLow, hTotal.ne', if_false, hFloats _, decide_eq_true_eq]
  rw [div_mul_eq_mul_div, div_lt_iff₀ hPos]
  exact_mod_cast Iff.rfl

theorem minLocalStorageFilterFunc_pass_iff {K : Kube} (hFloats : ExactFloats K) {cfg : SchedulerConfig}
    {vol : AntstorVolume} {n n' : Node} {host : NodeInfo} (hHost : vol.spec.hostNode = some host)
    (hTotal : 0 < n.pool.getAvailableBytes K) :
    minLocalStorageFilterFunc K cfg vol n = some (n', .pass) ↔ n = n' ∧ (host.id = n.info.id ∨
      cfg.minLocalStoragePct * n.pool.getAvailableBytes K ≤
        int64 (n.pool.getAvailableBytes K - n.getAllocatedRemoteBytes - vol.spec.sizeByte) * 100) := by
  unfold minLocalStorageFilterFunc
  simp only [hHost, Option.map_some, Option.some.injEq, Prod.mk.injEq, Verdict.ofChecks_eq_pass,
    List.forall_mem_singleton, int64_int64_sub, int64_sub_int64, int64_int64_sub]
  refine and_congr_right fun _ => ?_
  rw [Bool.and_eq_false_iff, Bool.not_eq_false', decide_eq_true_eq, ← Bool.not_eq_true,
    localPctTooLow_iff hFloats hTotal, not_lt]
  rfl

namespace Placement

def KeepsShare (K : Kube) (minLocalStoragePct : ℤ) (n : Node) : Prop :=
  minLocalStoragePct * n.pool.getAvailableBytes K ≤
    (n.pool.getAvailableBytes K - n.getAllocatedRemoteBytes) * 100

def HoldsRemote (n : Node) : Prop := ∃ vol ∈ n.volumes, vol.isRemote = true

/-- A volume that may become remote is charged with no more than it requests,
and on no node does the subtraction of the filter overflow. -/
def Counted (K : Kube) (s : State) : Action → Prop
  | .place _ vol => Open vol ∧ (vol.spec.positionAdvice = .mustLocal ∨
      vol.getTotalSize ≤ vol.spec.sizeByte ∧ s.AllNodes fun n =>
        -2 ^ 63 ≤ n.pool.getAvailableBytes K - n.getAllocatedRemoteBytes - vol.spec.sizeByte)
  | .unbind _ => True

instance (vol : AntstorVolume) : Decidable (Open vol) := inferInstanceAs (Decidable (_ ∧ _ ∧ _))

instance (K : Kube) (s : State) : ∀ a : Action, Decidable (Counted K s a)
  | .place _ _ => inferInstanceAs (Decidable (_ ∧ _))
  | .unbind _ => isTrue trivial

structure Shared (K : Kube) (minLocalStoragePct : ℤ) (n : Node) : Prop where
  names : n.NamesDistinct
  available : 0 < n.pool.getAvailableBytes K
  unwrapped : remoteBytes n.volumes < 2 ^ 64
  share : HoldsRemote n → minLocalStoragePct ≤ 100 ∧ minLocalStoragePct * n.pool.getAvailableBytes K ≤
    (n.pool.getAvailableBytes K - remoteBytes n.volumes) * 100

variable {K : Kube} {sorter : Sorter Priority.better} {cfg : SchedulerConfig} {minLocalStoragePct : ℤ}

theorem Shared.remoteBytes_eq {n : Node} (h : Shared K minLocalStoragePct n) :
    n.getAllocatedRemoteBytes = remoteBytes n.volumes := by
  rw [n.getAllocatedRemoteBytes_eq, Nat.mod_eq_of_lt h.unwrapped]

theorem unreserving_shared : Unreserving (Shared K minLocalStoragePct) := by
  intro n n' hPool hVolumes h
  refine ⟨?_, ?_, ?_, ?_⟩
  · rw [Node.NamesDistinct, hVolumes]
    exact h.names
  · rw [hPool]
    exact h.available
  · rw [hVolumes]
    exact h.unwrapped
  · rw [HoldsRemote, hPool, hVolumes]
    exact h.share

theorem Shared.sublist {n n' : Node} (h : Shared K minLocalStoragePct n) (hPool : n'.pool = n.pool)
    (hNames : n'.NamesDistinct) (hBytes : remoteBytes n'.volumes ≤ remoteBytes n.volumes)
    (hRemote : HoldsRemote n' → HoldsRemote n) : Shared K minLocalStoragePct n' := by
  refine ⟨hNames, hPool ▸ h.available, hBytes.trans_lt h.unwrapped, ?_⟩
  intro hHolds
  obtain ⟨hPct, hShare⟩ := h.share (hRemote hHolds)
  rw [hPool]
  exact ⟨hPct, by omega⟩

theorem Shared.removeVolumeByID {n : Node} (h : Shared K minLocalStoragePct n) (volID : String) :
    Shared K minLocalStoragePct (n.removeVolumeByID volID) := by
  have hSub := n.removeVolumeByID_volumes volID ▸ List.eraseP_sublist
  refine h.sublist (Node.removeVolumeByID_pool _ volID) (Node.namesDistinct_removeVolumeByID volID h.names)
    (remoteBytes_le hSub) ?_
  rintro ⟨vol, hVol, hRemote⟩
  exact ⟨vol, hSub.subset hVol, hRemote⟩

theorem Shared.addVolume {n : Node} {vol : AntstorVolume} (h : Shared K minLocalStoragePct n)
    (hAccepted : (n.resident vol).isRemote = true →
      remoteBytes n.volumes + vol.getTotalSize < 2 ^ 64 ∧ minLocalStoragePct ≤ 100 ∧
        minLocalStoragePct * n.pool.getAvailableBytes K ≤
          (n.pool.getAvailableBytes K - (remoteBytes n.volumes + vol.getTotalSize)) * 100) :
    Shared K minLocalStoragePct (n.addVolume vol).1 := by
  rcases addVolume_volumes vol h.names with hSame | ⟨before, after, hSub, hVolumes⟩
  · exact unreserving_shared n _ (n.addVolume_pool vol) hSame h
  · have hOthers := remoteBytes_le hSub
    have hTotal : remoteBytes (n.addVolume vol).1.volumes =
        remoteBytes (before ++ after) + if (n.resident vol).isRemote then vol.getTotalSize else 0 := by
      rw [hVolumes, remoteBytes_append, remoteBytes_cons, remoteBytes_append]
      exact Nat.add_left_comm _ _ _ |>.trans (Nat.add_comm _ _)
    by_cases hRemote : (n.resident vol).isRemote = true
    · obtain ⟨hUnwrapped, hPct, hShare⟩ := hAccepted hRemote
      rw [if_pos hRemote] at hTotal
      refine ⟨Node.namesDistinct_addVolume vol h.names, ?_, by omega, ?_⟩
      · rw [Node.addVolume_pool]
        exact h.available
      · intro _
        rw [Node.addVolume_pool]
        exact ⟨hPct, by omega⟩
    · rw [if_neg hRemote] at hTotal
      refine h.sublist (n.addVolume_pool vol) (Node.namesDistinct_addVolume vol h.names) (by omega) ?_
      rintro ⟨item, hItem, hItemRemote⟩
      rw [hVolumes] at hItem
      rcases List.mem_append.mp hItem with hBefore | hRest
      · exact ⟨item, hSub.subset (List.mem_append_left _ hBefore), hItemRemote⟩
      · rcases List.mem_cons.mp hRest with rfl | hAfter
        · exact absurd hItemRemote hRemote
        · exact ⟨item, hSub.subset (List.mem_append_right _ hAfter), hItemRemote⟩

theorem isRemote_resident {n : Node} {vol : AntstorVolume} {host : NodeInfo}
    (hHost : vol.spec.hostNode = some host) : (n.resident vol).isRemote = true ↔ n.info.id ≠ host.id := by
  simp [AntstorVolume.isRemote, Node.resident, hHost]

theorem share_of_pass (hFloats : ExactFloats K) {n m m' : Node} {vol : AntstorVolume} {host : NodeInfo}
    (hHost : vol.spec.hostNode = some host) (hRemote : n.info.id ≠ host.id)
    (hTotal : 0 < n.pool.getAvailableBytes K) (hm : m = n ∨ m = n.settle)
    (hFits : -2 ^ 63 ≤ n.pool.getAvailableBytes K - n.getAllocatedRemoteBytes - vol.spec.sizeByte)
    (h : minLocalStorageFilterFunc K cfg vol m = some (m', .pass)) :
    cfg.minLocalStoragePct * n.pool.getAvailableBytes K ≤
      (n.pool.getAvailableBytes K - n.getAllocatedRemoteBytes - vol.spec.sizeByte) * 100 := by
  have hRange : InInt64 (n.pool.getAvailableBytes K - n.getAllocatedRemoteBytes - vol.spec.sizeByte) := by
    have hUpper := (n.pool.getAvailableBytes_inInt64 K).2
    exact ⟨hFits, by omega⟩
  rw [← int64_of_inInt64 hRange]
  rcases hm with rfl | rfl
  · exact ((minLocalStorageFilterFunc_pass_iff hFloats hHost hTotal).mp h).2.resolve_left hRemote.symm
  · exact ((minLocalStorageFilterFunc_pass_iff (n := n.settle) hFloats hHost hTotal).mp h).2.resolve_left
      hRemote.symm

theorem Kept.shared_place (hFloats : ExactFloats K) (hBasic : "Basic" ∈ cfg.filters)
    (hLocal : "MinLocalStorage" ∈ cfg.filters) {s : State} (h : Kept (Shared K cfg.minLocalStoragePct) s)
    (order : List String) {vol : AntstorVolume} (hCounted : Counted K s (.place order vol)) :
    Kept (Shared K cfg.minLocalStoragePct) (Placement.place K sorter cfg s order vol) := by
  obtain ⟨hOpen, hSize⟩ := hCounted
  obtain ⟨host, hHost⟩ := Option.ne_none_iff_exists'.mp hOpen.1
  refine h.place unreserving_shared order hOpen.2.2 ?_
  intro n n' hn hPool hVolumes hFilters hShared
  refine hShared.addVolume ?_
  rw [isRemote_resident hHost, Node.info, hPool, hVolumes]
  intro hRemote
  rcases hSize with hMustLocal | ⟨hCharged, hFits⟩
  · obtain ⟨other, hOther, hSame⟩ := (granted_of_filters hBasic hOpen hFilters).placed.1 hMustLocal
    obtain rfl : host = other := Option.some.inj (hHost.symm.trans hOther)
    exact absurd hSame.symm hRemote
  · obtain ⟨m, m', hm, hPass⟩ := hFilters _ (mem_loadFilterFromConfig.mpr ⟨"MinLocalStorage", hLocal, rfl⟩)
    have hOld := h.nodes _ n hn
    have hShare := share_of_pass hFloats hHost hRemote hOld.available hm (hFits _ n hn) hPass
    have hRange := hFits _ n hn
    rw [hOld.remoteBytes_eq] at hShare hRange
    have hUpper := (n.pool.getAvailableBytes_inInt64 K).2
    refine ⟨by omega, ?_, by omega⟩
    -- The whole of the pool is at least the minimum, as its part is.
    have hWhole : cfg.minLocalStoragePct * n.pool.getAvailableBytes K ≤ 100 * n.pool.getAvailableBytes K := by
      omega
    exact le_of_mul_le_mul_right hWhole hOld.available

theorem shared_of_empty {n : Node} {pool : StoragePool} (h : n.volumes = [])
    (hPool : n.pool = State.withCapacity K pool) (hAvailable : 0 < pool.getAvailableBytes K) :
    Shared K minLocalStoragePct n := by
  refine ⟨?_, ?_, ?_, ?_⟩
  · rw [Node.NamesDistinct, h]
    exact List.nodup_nil
  · rw [hPool, StoragePool.getAvailableBytes_withCapacity]
    exact hAvailable
  · rw [h]
    decide
  · rintro ⟨vol, hVol, _⟩
    rw [h] at hVol
    cases hVol

theorem kept_shared (hFloats : ExactFloats K) (hBasic : "Basic" ∈ cfg.filters)
    (hLocal : "MinLocalStorage" ∈ cfg.filters) {s : State} (h : Kept (Shared K cfg.minLocalStoragePct) s)
    {actions : List Action} (hCounted : Runs.Guarded (step K sorter cfg) (Counted K) s actions) :
    Kept (Shared K cfg.minLocalStoragePct) (Runs.run (step K sorter cfg) s actions) := by
  refine (hCounted.always h ?_).run
  intro s a h hCounted
  cases a with
  | place order vol => exact h.shared_place hFloats hBasic hLocal order hCounted
  | unbind volID => exact h.unbind volID fun n hShared => hShared.removeVolumeByID volID

/-- A node that has received a remote volume keeps its share from then on. -/
theorem share_kept_once_remote (hFloats : ExactFloats K) (sorter : Sorter Priority.better)
    (hBasic : "Basic" ∈ cfg.filters) (hLocal : "MinLocalStorage" ∈ cfg.filters) (pools : List StoragePool)
    (hPools : ∀ pool ∈ pools, 0 < pool.getAvailableBytes K) (before after : List Action)
    (hCounted : Runs.Guarded (step K sorter cfg) (Counted K) (withPools K pools) (before ++ after))
    {id : String} {received n : Node}
    (hReceived : (Runs.run (step K sorter cfg) (withPools K pools) before).nodeMap.lookup id = some received)
    (hRemote : HoldsRemote received)
    (hNode : (Runs.run (step K sorter cfg) (withPools K pools) (before ++ after)).nodeMap.lookup id = some n) :
    KeepsShare K cfg.minLocalStoragePct n := by
  have hFirst : Kept (Shared K cfg.minLocalStoragePct) (withPools K pools) :=
    kept_withPools fun n hNone pool hPool hStored => shared_of_empty hNone hStored (hPools pool hPool)
  have hBefore := kept_shared hFloats hBasic hLocal hFirst (Runs.guarded_append.mp hCounted).1
  have hAfter := (kept_shared hFloats hBasic hLocal hFirst hCounted).nodes id n hNode
  have hPct := ((hBefore.nodes id received hReceived).share hRemote).1
  rw [KeepsShare, hAfter.remoteBytes_eq]
  by_cases hHolds : HoldsRemote n
  · exact (hAfter.share hHolds).2
  · have hNone : remoteBytes n.volumes = 0 := by
      have hFilter : n.volumes.filter AntstorVolume.isRemote = [] :=
        List.filter_eq_nil_iff.mpr fun vol hVol hVolRemote => hHolds ⟨vol, hVol, hVolRemote⟩
      rw [remoteBytes, hFilter]
      rfl
    have hWhole := mul_le_mul_of_nonneg_right hPct hAfter.available.le
    rw [hNone]
    omega

def fifthLocal : SchedulerConfig :=
  { filters := ["Basic", "MinLocalStorage"], maxRemoteVolumeCount := 3, minLocalStoragePct := 20 }

theorem threeRemote_keep_share :
    ∃ received n, (Runs.run (step Kube.exact Priority.insertion fifthLocal) (withPools Kube.exact [remotePool])
        (threeRemote.take 1)).nodeMap.lookup "n" = some received ∧ HoldsRemote received ∧
      (Runs.run (step Kube.exact Priority.insertion fifthLocal) (withPools Kube.exact [remotePool])
        threeRemote).nodeMap.lookup "n" = some n ∧ KeepsShare Kube.exact fifthLocal.minLocalStoragePct n := by
  have hFirst : ((Runs.run (step Kube.exact Priority.insertion fifthLocal) (withPools Kube.exact [remotePool])
      (threeRemote.take 1)).nodeMap.lookup "n").map (fun n => n.volumes.any AntstorVolume.isRemote) =
        some true := by
    decide +kernel
  have hLast : ((Runs.run (step Kube.exact Priority.insertion fifthLocal) (withPools Kube.exact [remotePool])
      threeRemote).nodeMap.lookup "n").isSome := by
    decide +kernel
  obtain ⟨received, hReceived, hAny⟩ := Option.map_eq_some_iff.mp hFirst
  obtain ⟨n, hNode⟩ := Option.isSome_iff_exists.mp hLast
  have hRemote : HoldsRemote received := List.any_eq_true.mp hAny
  refine ⟨received, n, hReceived, hRemote, hNode, ?_⟩
  refine share_kept_once_remote (fun _ => rfl) Priority.insertion ?_ ?_ [remotePool] ?_ (threeRemote.take 1)
    (threeRemote.drop 1) ?_ hReceived hRemote hNode
  · decide
  · decide
  · decide +kernel
  · decide +kernel

def withSnapshots : AntstorVolume :=
  { remoteVolume "a" with
    annotations := some (Finmap.singleton snapshotReservedSpaceAnnotationKey "90") }

theorem snapshots_take_the_share : ¬ ∀ received n,
    (Runs.run (step Kube.exact Priority.insertion fifthLocal) (withPools Kube.exact [remotePool])
      [.place ["n"] withSnapshots]).nodeMap.lookup "n" = some received → HoldsRemote received →
    (Runs.run (step Kube.exact Priority.insertion fifthLocal) (withPools Kube.exact [remotePool])
      [.place ["n"] withSnapshots]).nodeMap.lookup "n" = some n →
    KeepsShare Kube.exact fifthLocal.minLocalStoragePct n := by
  intro h
  have hHeld : ((Runs.run (step Kube.exact Priority.insertion fifthLocal) (withPools Kube.exact [remotePool])
      [.place ["n"] withSnapshots]).nodeMap.lookup "n").map (fun n => (n.volumes.any AntstorVolume.isRemote,
        n.pool.getAvailableBytes Kube.exact, n.getAllocatedRemoteBytes)) = some (true, 100, 100) := by
    decide +kernel
  obtain ⟨n, hNode, hValues⟩ := Option.map_eq_some_iff.mp hHeld
  simp only [Prod.mk.injEq] at hValues
  have hKeeps := h n n hNode (List.any_eq_true.mp hValues.1) hNode
  rw [KeepsShare, hValues.2.1, hValues.2.2] at hKeeps
  exact absurd hKeeps (by decide)

end Placement

end Liteio
