import Liteio.Agent.Volume
import Liteio.Csi.Node

/-! # The device of the node handlers

Staging takes the logical volume itself if it is on the host, and the disk of the
SPDK target otherwise; the later handlers decide by the type of the volume alone.
Both agree except for a kernel volume of another node: there the later handlers
take a path of that node, and nothing ends the connection that staging made.
-/

namespace Liteio.Csi

structure Outcome.Continues (out out' : Outcome) : Prop where
  host : out'.host = out.host
  device : out'.device = out.device
  connected : out'.connected = out.connected

namespace Outcome

variable {out out' : Outcome} {call : NodeCall} {ok : Bool} {err : NodeError} {next : Outcome → Outcome}

theorem Continues.refl (out : Outcome) : out.Continues out := ⟨rfl, rfl, rfl⟩

theorem continues_fail (out : Outcome) (err : NodeError) : out.Continues (out.fail err) := ⟨rfl, rfl, rfl⟩

theorem continues_attempt (h : ∀ mid, out.Continues mid → out.Continues (next mid)) :
    out.Continues (out.attempt call ok err next) := by
  unfold attempt
  split
  · exact h _ ⟨rfl, rfl, rfl⟩
  · exact ⟨rfl, rfl, rfl⟩

theorem attempt_err (h : (out.attempt call ok err next).err = none) :
    out.attempt call ok err next = next (out.add call) := by
  unfold attempt at h ⊢
  split at h
  · rename_i hOk
    rw [if_pos hOk]
  · cases h

end Outcome

theorem formatAndMount_continues (ans : NodeAnswers) (req : NodeStageVolumeRequest) (pv : PV)
    (devicePath : String) (out : Outcome) : out.Continues (formatAndMount ans req pv devicePath out) := by
  unfold formatAndMount
  refine Outcome.continues_attempt fun mid hMid => ?_
  have hMount : mid.Continues (mid.attempt (.mount devicePath req.stagingTargetPath pv.getFsType
      (if isClonedVol pv then ["nouuid"] else [])) ans.mount .mount id) :=
    Outcome.continues_attempt fun _ h => h
  exact ⟨hMount.host.trans hMid.host, hMount.device.trans hMid.device, hMount.connected.trans hMid.connected⟩

theorem stageDevice_ok {ans : NodeAnswers} {req : NodeStageVolumeRequest} {pv : PV} {out : Outcome}
    {devicePath : String} (h : (stageDevice ans req pv out devicePath).err = none) :
    Outcome.Continues { out with device := some devicePath } (stageDevice ans req pv out devicePath) := by
  unfold stageDevice at h ⊢
  split at h
  · cases h
  · rename_i hPath
    rw [if_neg hPath]
    dsimp only
    split
    · exact .refl _
    · split
      · exact Outcome.continues_fail _ _
      · exact .refl _
      · split
        · exact formatAndMount_continues ..
        · exact Outcome.continues_fail _ _
      · exact formatAndMount_continues ..

theorem connectSpdkTarget_ok {ans : NodeAnswers} {req : NodeStageVolumeRequest} {pv : PV} {out : Outcome}
    {tgt : Option SpdkTarget} {staged : Outcome}
    (hStaged : connectSpdkTarget ans out tgt (stageDevice ans req pv) = staged)
    (h : staged.err = none) :
    ∃ target, tgt = some target ∧ staged.connected = some target.subsysNQN ∧
      staged.device = some (findDevicePath target.serialNum staged.host.disks) := by
  subst hStaged
  unfold connectSpdkTarget at h ⊢
  split at h
  · rename_i hList
    rw [if_pos hList]
    split at h
    · cases h
    · rename_i target
      dsimp only at h ⊢
      refine ⟨target, rfl, ?_⟩
      split at h
      · rename_i hFound
        rw [if_pos hFound]
        have hTaken := stageDevice_ok h
        rw [hTaken.connected, hTaken.device, hTaken.host]
        exact ⟨rfl, rfl⟩
      · rename_i hMissing
        rw [if_neg hMissing]
        have hConnect := Outcome.attempt_err h
        rw [hConnect] at h ⊢
        split at h
        · rename_i hAgain
          rw [if_pos hAgain]
          have hTaken := stageDevice_ok h
          rw [hTaken.connected, hTaken.device, hTaken.host]
          exact ⟨rfl, rfl⟩
        · cases h
  · cases h

theorem nodeStageVolume_ok {ans : NodeAnswers} {host : Host} {req : NodeStageVolumeRequest} {pv : PV}
    {staged : Outcome} (hStaged : nodeStageVolume ans host req = staged) (hPv : ans.getPvByID = .ok pv)
    (hKata : pv.isForRund = false) (h : staged.err = none) :
    (∃ tgt, pv.getSpdkTarget = some tgt ∧ (pv.isLVM = true → pv.isLocal = some false) ∧
      staged.connected = some tgt.subsysNQN ∧
      staged.device = some (findDevicePath tgt.serialNum staged.host.disks)) ∨
    (pv.isLocal = some true ∧ (pv.isLVM = false → pv.getSpdkTarget = none) ∧
      staged.connected = none ∧ staged.device = some pv.getDevPath) := by
  unfold nodeStageVolume at hStaged
  rw [hPv] at hStaged
  dsimp only at hStaged
  split at hStaged
  · subst hStaged
    cases h
  · split at hStaged
    · subst hStaged
      cases h
    · split at hStaged
      · subst hStaged
        cases h
      · split at hStaged
        · subst hStaged
          cases h
        · rename_i isLocalDisk hLocal
          rw [if_neg (by simp [hKata])] at hStaged
          split at hStaged
          · rename_i hConnects
            obtain ⟨tgt, hTgt, hConnected, hDevice⟩ := connectSpdkTarget_ok hStaged h
            refine .inl ⟨tgt, hTgt, ?_, hConnected, hDevice⟩
            intro hLVM
            rw [hLocal]
            simpa [hLVM] using hConnects
          · rename_i hDirect
            simp only [Bool.or_eq_true, Bool.not_eq_true', Bool.and_eq_true, not_or, not_and,
              Bool.not_eq_false] at hDirect
            subst hStaged
            have hTaken := stageDevice_ok h
            refine .inr ⟨hLocal.trans (congrArg some hDirect.1), ?_, hTaken.connected, hTaken.device⟩
            intro hType
            simpa using hDirect.2 hType

theorem withDevice_device {ans : NodeAnswers} {pv : PV} {out : Outcome} {next : Outcome → String → Outcome}
    {device : String} (hNone : out.device = none)
    (hNext : ∀ (mid : Outcome) (path : String), mid.Continues (next mid path))
    (h : (withDevice ans pv out next).device = some device) : stagedDevice ans out.host pv = .ok device := by
  unfold withDevice at h
  split at h
  · cases hNone.symm.trans h
  · rename_i devPath hDevice
    split at h
    · cases hNone.symm.trans h
    · rw [(hNext _ _).device] at h
      cases h
      exact hDevice

theorem publishBlock_continues (ans : NodeAnswers) (req : NodePublishVolumeRequest) (out : Outcome)
    (devPath : String) : out.Continues (publishBlock ans req out devPath) := by
  unfold publishBlock
  split
  · exact Outcome.continues_fail _ _
  · exact .refl _
  · split
    · exact Outcome.continues_fail _ _
    · exact Outcome.continues_attempt fun _ h => h

theorem expandDevice_continues (ans : NodeAnswers) (req : NodeExpandVolumeRequest) (out : Outcome)
    (devicePath : String) : out.Continues (expandDevice ans req out devicePath) := by
  unfold expandDevice
  refine Outcome.continues_attempt fun mid h => ?_
  split
  · exact ⟨h.host, h.device, h.connected⟩
  · exact ⟨h.host, h.device, h.connected⟩

theorem recordParameters_continues (req : NodePublishVolumeRequest) (out : Outcome) :
    out.Continues (recordParameters req out) := by
  unfold recordParameters
  split
  · exact .refl _
  · exact ⟨rfl, rfl, rfl⟩

theorem nodePublishVolume_device {ans : NodeAnswers} {host : Host} {req : NodePublishVolumeRequest} {pv : PV}
    {device : String} (hPv : ans.getPvByID = .ok pv) (hBlock : req.volumeCapability = some .block)
    (h : (nodePublishVolume ans host req).device = some device) : stagedDevice ans host pv = .ok device := by
  have hRecord := recordParameters_continues req { host := host }
  unfold nodePublishVolume at h
  rw [hPv] at h
  dsimp only at h
  split at h
  · cases h
  · split at h
    · cases hRecord.device.symm.trans h
    · have hDevice := withDevice_device hRecord.device (publishBlock_continues ans req) h
      rwa [hRecord.host] at hDevice

theorem nodeExpandVolume_device {ans : NodeAnswers} {host : Host} {req : NodeExpandVolumeRequest} {pv : PV}
    {device : String} (hPv : ans.getPvByID = .ok pv)
    (h : (nodeExpandVolume ans host req).device = some device) : stagedDevice ans host pv = .ok device := by
  unfold nodeExpandVolume at h
  rw [hPv] at h
  dsimp only at h
  split at h
  · cases h
  · split at h
    · cases h
    · split at h
      · cases h
      · exact withDevice_device rfl (expandDevice_continues ans req) h

def Outcome.Quiet (out : Outcome) : Prop := ∀ nqn, .disconnectTarget nqn ∉ out.calls

theorem Outcome.Quiet.add {out : Outcome} (h : out.Quiet) {call : NodeCall}
    (hCall : ∀ nqn, call ≠ .disconnectTarget nqn) : (out.add call).Quiet := by
  intro nqn hMem
  rcases List.mem_append.mp hMem with hOld | hNew
  · exact h nqn hOld
  · exact hCall nqn (List.mem_singleton.mp hNew).symm

theorem disconnect_ok {ans : NodeAnswers} {pv : PV} {out : Outcome} (hQuiet : out.Quiet)
    (h : (disconnect ans pv out).err = none) (nqn : String) :
    .disconnectTarget nqn ∈ (disconnect ans pv out).calls ↔
      pv.isLVM = false ∧ ∃ tgt, pv.getSpdkTarget = some tgt ∧ tgt.subsysNQN = nqn := by
  unfold disconnect at h ⊢
  split at h
  · rename_i hLVM
    rw [if_pos hLVM]
    simp [hQuiet nqn, hLVM]
  · rename_i hLVM
    rw [if_neg hLVM]
    split at h
    · cases h
    · rename_i tgt hTgt
      split at h
      · cases h
      · rename_i hNqn
        rw [if_neg hNqn]
        rw [Outcome.attempt_err h, hTgt]
        simp [Outcome.add, hQuiet nqn, hLVM, eq_comm]

theorem disconnect_target {ans : NodeAnswers} {pv : PV} {out : Outcome}
    (h : (disconnect ans pv out).err = none) (hLVM : pv.isLVM = false) : pv.getSpdkTarget ≠ none := by
  intro hNone
  rw [disconnect, if_neg (by simp [hLVM]), hNone] at h
  cases h

theorem unmountPath_ok {ans : NodeAnswers} {req : NodeUnstageVolumeRequest} {pv : PV} {out : Outcome}
    (hQuiet : out.Quiet) (h : (unmountPath ans req pv out).err = none) :
    ∃ last : Outcome, last.Quiet ∧ unmountPath ans req pv out = disconnect ans pv last := by
  unfold unmountPath at h ⊢
  split at h
  · cases h
  · rename_i cnt hCount
    have hUnmount := Outcome.attempt_err h
    rw [hUnmount] at h ⊢
    split at h
    · cases h
    · rename_i hLast
      exact ⟨_, hQuiet.add (by simp), if_neg hLast⟩

theorem nodeUnstageVolume_ok {ans : NodeAnswers} {host : Host} {req : NodeUnstageVolumeRequest} {pv : PV}
    (hPv : ans.getPvByID = .ok pv) (h : (nodeUnstageVolume ans host req).err = none) :
    ∃ last : Outcome, last.Quiet ∧ nodeUnstageVolume ans host req = disconnect ans pv last := by
  have hStart : Outcome.Quiet { host := host } := fun nqn hMem => by cases hMem
  have hUnmount : (unmountStage ans req pv { host := host }).err = none →
      ∃ last : Outcome, last.Quiet ∧ unmountStage ans req pv { host := host } = disconnect ans pv last := by
    intro hErr
    unfold unmountStage at hErr ⊢
    split at hErr
    · rename_i hKata
      rw [if_pos hKata, Outcome.attempt_err hErr]
      rw [Outcome.attempt_err hErr] at hErr
      exact unmountPath_ok (hStart.add (by simp)) hErr
    · rename_i hKata
      rw [if_neg hKata]
      exact unmountPath_ok hStart hErr
  unfold nodeUnstageVolume at h ⊢
  rw [hPv] at h ⊢
  dsimp only at h ⊢
  split at h
  · cases h
  · rename_i hReq
    rw [if_neg hReq]
    cases hMount : ans.mountPoint with
    | notMounted => exact ⟨_, hStart, rfl⟩
    | notExist => exact ⟨_, hStart, rfl⟩
    | mounted =>
      rw [hMount] at h
      exact hUnmount h
    | unknown =>
      rw [hMount] at h
      exact hUnmount h

/-- The four handlers agree: the later ones take the device that staging took,
and unstaging ends a connection exactly if staging made it. -/
structure Agree (staged published expanded unstaged : Outcome) : Prop where
  publish : ∀ device, published.device = some device → staged.device = some device
  expand : ∀ device, expanded.device = some device → staged.device = some device
  unstage : ∀ nqn, .disconnectTarget nqn ∈ unstaged.calls ↔ staged.connected = some nqn

theorem stagedDevice_target {ans : NodeAnswers} {host : Host} {pv : PV} {tgt : SpdkTarget} {device : String}
    (hLVM : pv.isLVM = false) (hTgt : pv.getSpdkTarget = some tgt)
    (h : stagedDevice ans host pv = .ok device) : device = findDevicePath tgt.serialNum host.disks := by
  unfold stagedDevice getDevicePath at h
  rw [if_neg (by simp [hLVM]), hTgt] at h
  split at h
  · exact (Except.ok.inj h).symm
  · cases h

theorem agree_of_stagedDevice {pv : PV} {later : Host} {publish expand : NodeAnswers}
    {publishReq : NodePublishVolumeRequest} {expandReq : NodeExpandVolumeRequest} {staged unstaged : Outcome}
    (hPublishPv : publish.getPvByID = .ok pv) (hExpandPv : expand.getPvByID = .ok pv)
    (hBlock : publishReq.volumeCapability = some .block)
    (hSame : ∀ ans device, stagedDevice ans later pv = .ok device → staged.device = some device)
    (hEnds : ∀ nqn, .disconnectTarget nqn ∈ unstaged.calls ↔ staged.connected = some nqn) :
    Agree staged (nodePublishVolume publish later publishReq) (nodeExpandVolume expand later expandReq)
      unstaged where
  publish device hPublished := hSame publish device (nodePublishVolume_device hPublishPv hBlock hPublished)
  expand device hExpanded := hSame expand device (nodeExpandVolume_device hExpandPv hExpanded)
  unstage := hEnds

/-- For every ready volume that is not for kata, staged and unstaged without an
error, the handlers agree exactly if a kernel volume is on its host. -/
theorem nodeHandlers_agree_iff {vol : AntstorVolume} {host later : Host}
    {stage publish expand unstage : NodeAnswers} {stageReq : NodeStageVolumeRequest}
    {publishReq : NodePublishVolumeRequest} {expandReq : NodeExpandVolumeRequest}
    {unstageReq : NodeUnstageVolumeRequest} (hKata : (PV.volume vol).isForRund = false)
    (hStagePv : stage.getPvByID = .ok (.volume vol)) (hPublishPv : publish.getPvByID = .ok (.volume vol))
    (hExpandPv : expand.getPvByID = .ok (.volume vol)) (hUnstagePv : unstage.getPvByID = .ok (.volume vol))
    (hBlock : publishReq.volumeCapability = some .block)
    (hStage : (nodeStageVolume stage host stageReq).err = none)
    (hDisks : ∀ tgt, vol.spec.spdkTarget = some tgt → findDevicePath tgt.serialNum later.disks =
      findDevicePath tgt.serialNum (nodeStageVolume stage host stageReq).host.disks)
    (hUnstage : (nodeUnstageVolume unstage later unstageReq).err = none) :
    Agree (nodeStageVolume stage host stageReq) (nodePublishVolume publish later publishReq)
        (nodeExpandVolume expand later expandReq) (nodeUnstageVolume unstage later unstageReq) ↔
      ((PV.volume vol).isLVM = true → (PV.volume vol).isLocal = some true) := by
  obtain ⟨last, hQuiet, hLast⟩ := nodeUnstageVolume_ok hUnstagePv hUnstage
  rw [hLast] at hUnstage ⊢
  have hEnds := disconnect_ok hQuiet hUnstage
  rcases nodeStageVolume_ok rfl hStagePv hKata hStage with
    ⟨tgt, hTgt, hRemote, hConnected, hDevice⟩ | ⟨hLocal, hNoTarget, hConnected, hDevice⟩
  · constructor
    · intro hAgree hLVM
      have hEnd := (hAgree.unstage tgt.subsysNQN).mpr hConnected
      rw [hEnds, hLVM] at hEnd
      cases hEnd.1
    · intro hHost
      have hLVM : (PV.volume vol).isLVM = false := by
        by_contra hKernel
        rw [Bool.not_eq_false] at hKernel
        cases (hRemote hKernel).symm.trans (hHost hKernel)
      refine agree_of_stagedDevice hPublishPv hExpandPv hBlock ?_ ?_
      · intro ans device hStaged
        rw [stagedDevice_target hLVM hTgt hStaged, hDisks tgt hTgt]
        exact hDevice
      · intro nqn
        rw [hEnds, hConnected, hTgt]
        simp [hLVM]
  · have hLVM : (PV.volume vol).isLVM = true := by
      by_contra hOther
      rw [Bool.not_eq_true] at hOther
      exact disconnect_target hUnstage hOther (hNoTarget hOther)
    refine iff_of_true (agree_of_stagedDevice hPublishPv hExpandPv hBlock ?_ ?_) fun _ => hLocal
    · intro ans device hStaged
      rw [stagedDevice, if_pos hLVM] at hStaged
      rw [hDevice, Except.ok.inj hStaged]
    · intro nqn
      rw [hEnds, hConnected, hLVM]
      simp

def kernelVolume (hostID : String) (spdkTarget : Option SpdkTarget) : AntstorVolume where
  name := "pv"
  spec := {
    uuid := "u", type := .kernelLVol, targetNodeId := "t", hostNode := some { id := hostID }
    kernelLvol := some { name := "pv", devPath := "/dev/vg/pv" }
    spdkTarget := spdkTarget }
  status := { status := .ready }

def answersFor (vol : AntstorVolume) : NodeAnswers where
  getPvByID := .ok (.volume vol)
  attached := [{ devicePath := "/dev/nvme0n1", serialNumber := "u" }]

def stageCall (vol : AntstorVolume) : Outcome :=
  nodeStageVolume (answersFor vol) {}
    { volumeId := "u", stagingTargetPath := "/stage", volumeCapability := some .block }

def publishCall (vol : AntstorVolume) : Outcome :=
  nodePublishVolume (answersFor vol) (stageCall vol).host
    { volumeId := "u", stagingTargetPath := "/stage", targetPath := "/pod", volumeCapability := some .block }

def expandCall (vol : AntstorVolume) : Outcome :=
  nodeExpandVolume (answersFor vol) (stageCall vol).host { volumeId := "u", volumePath := "/pod" }

def unstageCall (vol : AntstorVolume) : Outcome :=
  nodeUnstageVolume (answersFor vol) (stageCall vol).host { volumeId := "u", stagingTargetPath := "/stage" }

def localKernel : AntstorVolume := kernelVolume "t" none

theorem localKernel_agrees :
    (publishCall localKernel).device = some "/dev/vg/pv" ∧
      Agree (stageCall localKernel) (publishCall localKernel) (expandCall localKernel)
        (unstageCall localKernel) :=
  ⟨by decide, (nodeHandlers_agree_iff (by decide) rfl rfl rfl rfl rfl (by decide) (fun _ _ => rfl)
    (by decide)).mpr fun _ => by decide⟩

def remoteKernel : AntstorVolume :=
  kernelVolume "h" (some { VolumeSyncer.kernelTarget "u" "10.0.0.1" with svcID := "4510" })

theorem remoteKernel_disagrees :
    (stageCall remoteKernel).err = none ∧ (stageCall remoteKernel).device = some "/dev/nvme0n1" ∧
      (publishCall remoteKernel).device = some "/dev/vg/pv" ∧ (unstageCall remoteKernel).err = none ∧
      ¬ Agree (stageCall remoteKernel) (publishCall remoteKernel) (expandCall remoteKernel)
        (unstageCall remoteKernel) := by
  refine ⟨by decide, by decide, by decide, by decide, fun hAgree => ?_⟩
  have hDevice := hAgree.publish "/dev/vg/pv" (by decide)
  exact absurd hDevice (by decide)

end Liteio.Csi
