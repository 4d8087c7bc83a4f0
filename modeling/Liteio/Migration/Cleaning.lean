import Liteio.Migration.Reconcile

/-! # The host's clean-up of a migration

In the Cleaning phase the host looks for the path to the source only on a
subsystem with several paths, waits until it is degraded and disconnects it, and
otherwise records that it is disconnected. A subsystem whose only path leads to
the source is passed over, and the host records that it is disconnected although
nothing was.
-/

namespace Liteio.Migration.Host

open Nvme

def LeadsTo (source : SpdkTarget) (conn : Connection) : Prop :=
  conn.trAddr = source.address ∧ conn.svcId = source.svcID

def pathsOf (host : List HostSubsystem) (nqn : String) : List Connection :=
  (host.filter fun sub => sub.nqn = nqn).flatMap HostSubsystem.connections

def RecordsDisconnected (out : Outcome) : Prop :=
  ∃ m, out.write = some (.update m) ∧ m.spec.migrationInfo.hostConnectStatus = .disconnected

/-- The host records only what the list shows or what it has just done, and does
not disconnect the only path of a subsystem. -/
structure CleansSoundly (host : List HostSubsystem) (nqn : String) (source : SpdkTarget) (out : Outcome) :
    Prop where
  closed : RecordsDisconnected out → (∀ conn ∈ pathsOf host nqn, ¬ LeadsTo source conn) ∨
    .disconnectTarget nqn source.address source.svcID ∈ out.calls
  keeps : ∀ name trAddr svcID, .disconnectTarget name trAddr svcID ∈ out.calls →
    ∀ conn, pathsOf host name ≠ [conn]

def SourceAlone (host : List HostSubsystem) (nqn : String) (source : SpdkTarget) : Prop :=
  ∃ sub ∈ host, sub.nqn = nqn ∧ ∃ conn, sub.connections = [conn] ∧ LeadsTo source conn

def SourceAmongOthers (host : List HostSubsystem) (nqn : String) (source : SpdkTarget) : Prop :=
  ∃ sub ∈ host, sub.nqn = nqn ∧ 1 < sub.connections.length ∧ ∃ conn ∈ sub.connections, LeadsTo source conn

theorem isPathTo_iff (source : SpdkTarget) (conn : Connection) :
    isPathTo source conn.path = true ↔ LeadsTo source conn := by
  rw [isPathTo, conn.parse_path, decide_eq_true_eq, Prod.mk.injEq, LeadsTo]

theorem foldl_last {α : Type} (p : α → Bool) (xs : List α) (found : Option α) :
    xs.foldl (fun found x => if p x then some x else found) found = (xs.filter p).getLast?.or found := by
  induction xs generalizing found with
  | nil => rfl
  | cons x xs ih =>
    rw [List.foldl_cons, ih]
    by_cases hx : p x
    · rw [if_pos hx, List.filter_cons_of_pos hx, List.getLast?_cons]
      cases (xs.filter p).getLast? <;> rfl
    · rw [if_neg hx, List.filter_cons_of_neg hx]

def sourcePaths (m : VolumeMigration) (list : List SubsystemItem) : List Path :=
  list.flatMap fun item =>
    if item.nqn = m.spec.destVolume.spdk.subsysNQN ∧ 1 < item.paths.length then
      item.paths.filter (isPathTo m.spec.sourceVolume.spdk)
    else []

theorem sourcePath_eq (m : VolumeMigration) (list : List SubsystemItem) :
    sourcePath m list = (sourcePaths m list).getLast? := by
  have hLoop : ∀ found, list.foldl (fun found item =>
      if item.nqn = m.spec.destVolume.spdk.subsysNQN ∧ 1 < item.paths.length then
        item.paths.foldl (fun found path =>
          if isPathTo m.spec.sourceVolume.spdk path then some path else found) found
      else found) found = (sourcePaths m list).getLast?.or found := by
    induction list with
    | nil => exact fun found => rfl
    | cons item list ih =>
      intro found
      have hCons : sourcePaths m (item :: list) = _ ++ sourcePaths m list := List.flatMap_cons
      rw [List.foldl_cons, ih, hCons, List.getLast?_append, Option.or_assoc]
      split
      · rw [foldl_last]
      · rfl
  rw [sourcePath, hLoop, Option.or_none]

theorem mem_sourcePaths {m : VolumeMigration} {host : List HostSubsystem} {path : Path} :
    path ∈ sourcePaths m (formatSybsysList (rawList host)) ↔
      ∃ sub ∈ host, sub.nqn = m.spec.destVolume.spdk.subsysNQN ∧ 1 < sub.connections.length ∧
        ∃ conn ∈ sub.connections, conn.path = path ∧ LeadsTo m.spec.sourceVolume.spdk conn := by
  rw [sourcePaths, List.mem_flatMap]
  constructor
  · rintro ⟨item, hItem, hPath⟩
    split at hPath
    · rename_i hItemOk
      obtain ⟨hMem, hLeads⟩ := List.mem_filter.mp hPath
      obtain ⟨sub, hSub, rfl⟩ := (mem_formatSybsysList (List.ne_nil_of_mem hMem)).mp hItem
      obtain ⟨conn, hConn, rfl⟩ := List.mem_map.mp hMem
      refine ⟨sub, hSub, hItemOk.1, ?_, conn, hConn, rfl, (isPathTo_iff _ _).mp hLeads⟩
      simpa [HostSubsystem.item] using hItemOk.2
    · cases hPath
  · rintro ⟨sub, hSub, hName, hMany, conn, hConn, rfl, hLeads⟩
    have hMem : conn.path ∈ sub.item.paths := List.mem_map_of_mem hConn
    have hItemOk : sub.item.nqn = m.spec.destVolume.spdk.subsysNQN ∧ 1 < sub.item.paths.length :=
      ⟨hName, by simpa [HostSubsystem.item] using hMany⟩
    refine ⟨sub.item, (mem_formatSybsysList (List.ne_nil_of_mem hMem)).mpr ⟨sub, hSub, rfl⟩, ?_⟩
    rw [if_pos hItemOk]
    exact List.mem_filter.mpr ⟨hMem, (isPathTo_iff _ _).mpr hLeads⟩

theorem mem_pathsOf {host : List HostSubsystem} {nqn : String} {conn : Connection} :
    conn ∈ pathsOf host nqn ↔ ∃ sub ∈ host, sub.nqn = nqn ∧ conn ∈ sub.connections := by
  simp [pathsOf, and_assoc]

theorem forall_not_leadsTo_iff {host : List HostSubsystem} {nqn : String} {source : SpdkTarget}
    (h : ¬ SourceAmongOthers host nqn source) :
    (∀ conn ∈ pathsOf host nqn, ¬ LeadsTo source conn) ↔ ¬ SourceAlone host nqn source := by
  constructor
  · rintro hNone ⟨sub, hSub, hName, conn, hConn, hLeads⟩
    exact hNone conn (mem_pathsOf.mpr ⟨sub, hSub, hName, hConn ▸ List.mem_singleton_self conn⟩) hLeads
  · intro hAlone conn hMem hLeads
    obtain ⟨sub, hSub, hName, hConn⟩ := mem_pathsOf.mp hMem
    have hFew : sub.connections.length = 1 := by
      have hPos := List.length_pos_of_mem hConn
      have hLe : ¬ 1 < sub.connections.length := fun hMany => h ⟨sub, hSub, hName, hMany, conn, hConn, hLeads⟩
      omega
    obtain ⟨only, hOnly⟩ := List.length_eq_one_iff.mp hFew
    rw [hOnly, List.mem_singleton] at hConn
    exact hAlone ⟨sub, hSub, hName, only, hOnly, hConn ▸ hLeads⟩

theorem pathsOf_ne_singleton {host : List HostSubsystem} {nqn : String} {source : SpdkTarget}
    (h : SourceAmongOthers host nqn source) (conn : Connection) : pathsOf host nqn ≠ [conn] := by
  obtain ⟨sub, hSub, hName, hMany, _⟩ := h
  have hMem : sub ∈ host.filter fun sub => sub.nqn = nqn := List.mem_filter.mpr ⟨hSub, by simpa using hName⟩
  have hLength : sub.connections.length ≤ (pathsOf host nqn).length := by
    rw [pathsOf, List.flatMap_def]
    exact (List.sublist_flatten_of_mem (List.mem_map_of_mem hMem)).length_le
  intro hSingle
  rw [hSingle, List.length_singleton] at hLength
  omega

section

variable {ans : Answers} {m : VolumeMigration} {host : List HostSubsystem}

/-- The host of a migration whose volumes can be read and which is still
connected reads this list in the Cleaning phase. -/
structure ReadsInCleaning (ans : Answers) (m : VolumeMigration) (host : List HostSubsystem) : Prop where
  volumes : (readVolumes ans m).isSome
  phase : m.status.phase = .cleaning
  connected : m.spec.migrationInfo.hostConnectStatus = .connected
  list : ans.listSubsystems = some (formatSybsysList (rawList host))
  sameName : m.spec.sourceVolume.spdk.subsysNQN = m.spec.destVolume.spdk.subsysNQN

theorem ReadsInCleaning.reconcile_eq (h : ReadsInCleaning ans m host) : reconcile ans m = cleaning ans m := by
  obtain ⟨vols, hVols⟩ := Option.isSome_iff_exists.mp h.volumes
  rw [reconcile, hVols]
  dsimp only
  rw [h.phase]

theorem sourceAmongOthers_iff :
    SourceAmongOthers host m.spec.destVolume.spdk.subsysNQN m.spec.sourceVolume.spdk ↔
      ∃ path, path ∈ sourcePaths m (formatSybsysList (rawList host)) := by
  constructor
  · rintro ⟨sub, hSub, hName, hMany, conn, hConn, hLeads⟩
    exact ⟨conn.path, mem_sourcePaths.mpr ⟨sub, hSub, hName, hMany, conn, hConn, rfl, hLeads⟩⟩
  · rintro ⟨path, hPath⟩
    obtain ⟨sub, hSub, hName, hMany, conn, hConn, _, hLeads⟩ := mem_sourcePaths.mp hPath
    exact ⟨sub, hSub, hName, hMany, conn, hConn, hLeads⟩

theorem ReadsInCleaning.cleaning_cases (h : ReadsInCleaning ans m host) :
    (¬ SourceAmongOthers host m.spec.destVolume.spdk.subsysNQN m.spec.sourceVolume.spdk ∧
      (cleaning ans m).calls = [] ∧ RecordsDisconnected (cleaning ans m)) ∨
    (SourceAmongOthers host m.spec.destVolume.spdk.subsysNQN m.spec.sourceVolume.spdk ∧
      (cleaning ans m).calls = [] ∧ ¬ RecordsDisconnected (cleaning ans m)) ∨
    (SourceAmongOthers host m.spec.destVolume.spdk.subsysNQN m.spec.sourceVolume.spdk ∧
      (cleaning ans m).calls = [.disconnectTarget m.spec.destVolume.spdk.subsysNQN
        m.spec.sourceVolume.spdk.address m.spec.sourceVolume.spdk.svcID]) := by
  rw [cleaning, if_pos h.connected, h.list]
  dsimp only
  rw [sourcePath_eq]
  cases hLast : (sourcePaths m (formatSybsysList (rawList host))).getLast? with
  | none =>
    rw [List.getLast?_eq_none_iff] at hLast
    refine .inl ⟨?_, rfl, _, rfl, rfl⟩
    rw [sourceAmongOthers_iff, hLast]
    exact fun ⟨_, hPath⟩ => List.not_mem_nil hPath
  | some path =>
    have hOthers := sourceAmongOthers_iff.mpr ⟨path, List.mem_of_getLast? hLast⟩
    have hSilent : ¬ RecordsDisconnected {} := fun ⟨_, hWrite, _⟩ => nomatch hWrite
    dsimp only
    split
    · exact .inr (.inl ⟨hOthers, rfl, hSilent⟩)
    · split
      · exact .inr (.inl ⟨hOthers, rfl, hSilent⟩)
      · refine .inr (.inr ⟨hOthers, ?_⟩)
        rw [Outcome.after, h.sameName]
        split <;> rfl

/-- The clean-up is sound exactly when a path to the source that stands alone on
its subsystem does not hide behind the check for several paths. -/
theorem cleaning_sound_iff (h : ReadsInCleaning ans m host) :
    CleansSoundly host m.spec.destVolume.spdk.subsysNQN m.spec.sourceVolume.spdk (reconcile ans m) ↔
      (SourceAlone host m.spec.destVolume.spdk.subsysNQN m.spec.sourceVolume.spdk →
        SourceAmongOthers host m.spec.destVolume.spdk.subsysNQN m.spec.sourceVolume.spdk) := by
  rw [h.reconcile_eq]
  rcases h.cleaning_cases with ⟨hOthers, hCalls, hRecords⟩ | ⟨hOthers, hCalls, hRecords⟩ | ⟨hOthers, hCalls⟩
  · constructor
    · intro hSound
      rcases hSound.closed hRecords with hNone | hCall
      · exact fun hAlone => absurd hAlone ((forall_not_leadsTo_iff hOthers).mp hNone)
      · rw [hCalls] at hCall
        cases hCall
    · intro hCondition
      refine ⟨fun _ => .inl ((forall_not_leadsTo_iff hOthers).mpr fun hAlone => hOthers (hCondition hAlone)), ?_⟩
      intro name trAddr svcID hCall
      rw [hCalls] at hCall
      cases hCall
  · refine iff_of_true ⟨fun hRecord => absurd hRecord hRecords, ?_⟩ fun _ => hOthers
    intro name trAddr svcID hCall
    rw [hCalls] at hCall
    cases hCall
  · refine iff_of_true ⟨fun _ => .inr (hCalls ▸ List.mem_singleton_self _), ?_⟩ fun _ => hOthers
    intro name trAddr svcID hCall
    rw [hCalls, List.mem_singleton] at hCall
    cases hCall
    exact pathsOf_ne_singleton hOthers

def cleaned : VolumeMigration where
  name := "m"
  spec := {
    sourceVolume := { name := "v", spdk := { subsysNQN := "nqn.v", address := "10.0.0.1", svcID := "4500" } }
    destVolume := {
      ns := "obnvmf"
      name := "v-dest"
      spdk := { subsysNQN := "nqn.v", address := "10.0.0.2", svcID := "4500" } }
    migrationInfo := { hostConnectStatus := .connected } }
  status := { phase := .cleaning }

def migratedVol (name : String) : AntstorVolume where
  name := name
  spec := { type := .spdkLVol }
  status := { status := .ready }

def toSource : Connection where
  trAddr := "10.0.0.1"
  svcId := "4500"
  pathState := "degraded"
  addr_plain := by decide
  svc_plain := by decide

def toDest : Connection where
  trAddr := "10.0.0.2"
  svcId := "4500"
  addr_plain := by decide
  svc_plain := by decide

def listing (paths : List Connection) : List HostSubsystem :=
  [{ nqn := "nqn.v", paths := some paths, named := by decide }]

def listed (paths : List Connection) : Answers where
  srcVol := .found (migratedVol "v")
  destVol := .found (migratedVol "v-dest")
  listSubsystems := some (formatSybsysList (rawList (listing paths)))

theorem readsInCleaning_cleaned (paths : List Connection) :
    ReadsInCleaning (listed paths) cleaned (listing paths) := ⟨rfl, rfl, rfl, rfl, rfl⟩

theorem twoPaths_cleaned : CleansSoundly (listing [toSource, toDest]) "nqn.v" cleaned.spec.sourceVolume.spdk
    (reconcile (listed [toSource, toDest]) cleaned) :=
  (cleaning_sound_iff (readsInCleaning_cleaned [toSource, toDest])).mpr fun _ =>
    ⟨_, List.mem_singleton_self _, rfl, by decide, toSource, List.mem_cons_self, rfl, rfl⟩

/-- With the path to the destination just dropped, the only path leads to the
source, and the host records that it is disconnected. -/
theorem onlyPath_kept : ReadsInCleaning (listed [toSource]) cleaned (listing [toSource]) ∧
    ¬ CleansSoundly (listing [toSource]) "nqn.v" cleaned.spec.sourceVolume.spdk
      (reconcile (listed [toSource]) cleaned) := by
  have hReads := readsInCleaning_cleaned [toSource]
  have hFew : ¬ SourceAmongOthers (listing [toSource]) "nqn.v" cleaned.spec.sourceVolume.spdk := by
    rintro ⟨sub, hSub, _, hMany, _⟩
    rw [List.mem_singleton.mp hSub] at hMany
    exact absurd hMany (by decide)
  refine ⟨hReads, fun hSound => ?_⟩
  rw [hReads.reconcile_eq] at hSound
  rcases hReads.cleaning_cases with ⟨_, hCalls, hRecords⟩ | ⟨hOthers, _⟩ | ⟨hOthers, _⟩
  · rcases hSound.closed hRecords with hNone | hCall
    · exact hNone toSource (List.mem_singleton_self _) ⟨rfl, rfl⟩
    · rw [hCalls] at hCall
      cases hCall
  · exact hFew hOthers
  · exact hFew hOthers

end

end Liteio.Migration.Host
