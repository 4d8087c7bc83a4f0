import Liteio.Agent.Pool
import Liteio.Library.Collect
import Liteio.Library.Requests
import Liteio.Library.Strings

/-! # The listings of LVM

`listLVInVGJSON` and `listVGJSON` of pkg/util/lvm on the JSON reports of `lvs` and
`vgs`. Both go on after an item whose numbers do not parse and return the error of
the last item only. The pool syncer sees such a listing as one that was read.
-/

namespace Liteio.Lvm.Cmd

open Strconv

structure ReportVG where
  uuid : String := ""
  name : String := ""
  size : String := ""
  free : String := ""
  pvCount : String := ""
  extendSize : String := ""
  extendCount : String := ""

structure ReportLV where
  name : String := ""
  size : String := ""
  devPath : String := ""
  vgName : String := ""
  lvLayout : String := ""
  lvAttr : String := ""
  lvDeviceOpen : String := ""
  origin : String := ""
  originUUID : String := ""
  originSize : String := ""

structure Report where
  vg : List ReportVG := []
  lv : List ReportLV := []

structure VG where
  name : String := ""
  uuid : String := ""
  totalByte : ℕ := 0
  freeByte : ℕ := 0
  pvCount : ℤ := 0
  extendCount : ℤ := 0
  extendSize : ℕ := 0
  deriving DecidableEq

structure LV where
  name : String := ""
  vgName : String := ""
  devPath : String := ""
  sizeByte : ℕ := 0
  lvLayout : String := ""
  lvAttr : String := ""
  lvDeviceOpen : String := ""
  origin : String := ""
  originUUID : String := ""
  originSize : String := ""
  deriving DecidableEq

structure CmdRun where
  failed : Option String := none
  stderr : String := ""
  output : Except String (List Report)

inductive ListError where
  | exec (text : String)
  | pvLost (stderr : String)
  | json (text : String)
  | num (err : NumError)
  deriving DecidableEq

def parseBytes (text : String) : Except ListError ℕ :=
  (parseUint64 (Strings.trim 'B' text.toList)).mapError .num

def parseCount (text : String) : Except ListError ℤ :=
  match atoi text with
  | (count, none) => .ok count
  | (_, some err) => .error (.num err)

def toLV (item : ReportLV) : Except ListError LV := do
  let total ← parseBytes item.size
  return {
    name := item.name
    vgName := item.vgName
    devPath := item.devPath
    sizeByte := total
    lvLayout := item.lvLayout
    lvAttr := item.lvAttr
    lvDeviceOpen := item.lvDeviceOpen
    origin := item.origin
    originUUID := item.originUUID
    originSize := item.originSize }

def toVG (item : ReportVG) : Except ListError VG := do
  let total ← parseBytes item.size
  let free ← parseBytes item.free
  let extendSize ← parseBytes item.extendSize
  let pvCount ← parseCount item.pvCount
  let extendCount ← parseCount item.extendCount
  return {
    name := item.name
    uuid := item.uuid
    totalByte := total
    freeByte := free
    pvCount := pvCount
    extendCount := extendCount
    extendSize := extendSize }

theorem parseBytes_eq_ok_iff {text : String} {bytes : ℕ} :
    parseBytes text = .ok bytes ↔ parseUint64 (Strings.trim 'B' text.toList) = .ok bytes := by
  unfold parseBytes
  cases parseUint64 (Strings.trim 'B' text.toList) <;> simp [Except.mapError]

theorem parseCount_eq_ok_iff {text : String} {count : ℤ} : parseCount text = .ok count ↔ atoi text = (count, none) := by
  unfold parseCount
  rcases atoi text with ⟨parsed, _ | err⟩ <;> simp

/-- A parsed line has the texts of the report and the numbers they spell. -/
theorem parsed_iff (lvItem : ReportLV) (vgItem : ReportVG) (lv : LV) (vg : VG) :
    (toLV lvItem = .ok lv ↔ parseUint64 (Strings.trim 'B' lvItem.size.toList) = .ok lv.sizeByte ∧
      lv = { name := lvItem.name, vgName := lvItem.vgName, devPath := lvItem.devPath, sizeByte := lv.sizeByte,
             lvLayout := lvItem.lvLayout, lvAttr := lvItem.lvAttr, lvDeviceOpen := lvItem.lvDeviceOpen,
             origin := lvItem.origin, originUUID := lvItem.originUUID, originSize := lvItem.originSize }) ∧
    (toVG vgItem = .ok vg ↔ vg.name = vgItem.name ∧ vg.uuid = vgItem.uuid ∧
      parseUint64 (Strings.trim 'B' vgItem.size.toList) = .ok vg.totalByte ∧
      parseUint64 (Strings.trim 'B' vgItem.free.toList) = .ok vg.freeByte ∧
      parseUint64 (Strings.trim 'B' vgItem.extendSize.toList) = .ok vg.extendSize ∧
      atoi vgItem.pvCount = (vg.pvCount, none) ∧ atoi vgItem.extendCount = (vg.extendCount, none)) := by
  simp only [← parseBytes_eq_ok_iff, ← parseCount_eq_ok_iff]
  constructor
  · constructor
    · intro h
      obtain ⟨total, hTotal, h⟩ := Requests.bind_eq_ok h
      cases h
      exact ⟨hTotal, rfl⟩
    · rintro ⟨hTotal, hLv⟩
      rw [toLV, hTotal, hLv]
      rfl
  · constructor
    · intro h
      obtain ⟨total, hTotal, h⟩ := Requests.bind_eq_ok h
      obtain ⟨free, hFree, h⟩ := Requests.bind_eq_ok h
      obtain ⟨extendSize, hExtendSize, h⟩ := Requests.bind_eq_ok h
      obtain ⟨pvCount, hPvCount, h⟩ := Requests.bind_eq_ok h
      obtain ⟨extendCount, hExtendCount, h⟩ := Requests.bind_eq_ok h
      cases h
      exact ⟨rfl, rfl, hTotal, hFree, hExtendSize, hPvCount, hExtendCount⟩
    · rintro ⟨hName, hUuid, hTotal, hFree, hExtendSize, hPvCount, hExtendCount⟩
      rw [toVG, hTotal, hFree, hExtendSize, hPvCount, hExtendCount, ← hName, ← hUuid]
      rfl

/-- Only the first report is looked at. -/
def CmdRun.list {ι β : Type} (run : CmdRun) (zero : β) (toItem : ι → Except ListError β)
    (items : Report → List ι) : List β × Option ListError :=
  match run.output with
  | .error text => ([], some (.json text))
  | .ok [] => ([], none)
  | .ok (report :: _) => Collect.collect zero toItem (items report)

def Report.lvInVG (vgName : String) (report : Report) : List ReportLV :=
  report.lv.filter fun item => item.vgName = vgName

def listLVInVGJSON (vgName : String) (run : CmdRun) : List LV × Option ListError :=
  match run.failed with
  | some text => ([], some (.exec text))
  | none => run.list {} toLV (Report.lvInVG vgName)

def listVGJSON (run : CmdRun) : List VG × Option ListError :=
  match run.failed with
  | some text => ([], some (.exec text))
  | none =>
    if PoolSyncer.pvLostErrStr.toList <:+: run.stderr.toList then ([], some (.pvLost run.stderr))
    else run.list {} toVG Report.vg

section

variable {ι β : Type} (toItem : ι → Except ListError β) (items : Report → List ι)

/-- Without an error, every item of the reports has parsed and stands at its place. -/
def AllOrNothing (run : CmdRun) (out : List β × Option ListError) : Prop :=
  out.2 = none → ∃ reports, run.output = .ok reports ∧
    List.Forall₂ (fun item x => toItem item = .ok x) (reports.flatMap items) out.1

/-- The last item of the first report does not parse, or all of them do and there are no others. -/
def Settled : List Report → Prop
  | [] => True
  | report :: later =>
    (∃ item ∈ (items report).getLast?, ∀ x, toItem item ≠ .ok x) ∨
      (∀ item ∈ items report, ∃ x, toItem item = .ok x) ∧ later.flatMap items = []

theorem list_allOrNothing_iff (run : CmdRun) (zero : β) :
    AllOrNothing toItem items run (run.list zero toItem items) ↔
      ∀ reports, run.output = .ok reports → Settled toItem items reports := by
  unfold AllOrNothing CmdRun.list
  cases run.output with
  | error text => simp
  | ok reports =>
    simp only [Except.ok.injEq, exists_eq_left', forall_eq']
    cases reports with
    | nil => simp [Settled]
    | cons report later =>
      rw [List.flatMap_cons]
      exact Collect.collect_complete_iff (items report) (later.flatMap items)

end

/-- A listing is all or nothing for the reports that are settled, and only for those. -/
theorem listings_allOrNothing_iff (vgName : String) (lvs vgs : CmdRun) :
    (AllOrNothing toLV (Report.lvInVG vgName) lvs (listLVInVGJSON vgName lvs) ↔
      (lvs.failed = none → ∀ reports, lvs.output = .ok reports →
        Settled toLV (Report.lvInVG vgName) reports)) ∧
    (AllOrNothing toVG Report.vg vgs (listVGJSON vgs) ↔
      (vgs.failed = none → ¬ PoolSyncer.pvLostErrStr.toList <:+: vgs.stderr.toList →
        ∀ reports, vgs.output = .ok reports → Settled toVG Report.vg reports)) := by
  constructor
  · rw [listLVInVGJSON]
    cases lvs.failed with
    | some text => simp [AllOrNothing]
    | none => simp [list_allOrNothing_iff]
  · rw [listVGJSON]
    cases vgs.failed with
    | some text => simp [AllOrNothing]
    | none =>
      by_cases hLost : PoolSyncer.pvLostErrStr.toList <:+: vgs.stderr.toList
      · simp [AllOrNothing, hLost]
      · simp [hLost, list_allOrNothing_iff]

def unreadableFirst : CmdRun where
  output := .ok [{
    vg := [{ name := "a", size := "", free := "1B", extendSize := "1B", pvCount := "1", extendCount := "1" },
      { name := "b", size := "8B", free := "4B", extendSize := "4B", pvCount := "1", extendCount := "2" }]
    lv := [{ name := "x", size := "?", vgName := "a" }, { name := "y", size := "4B", vgName := "a" }] }]

/-- The first of two items does not parse: its place is filled with an empty one, and no error is returned. -/
theorem not_allOrNothing_unreadableFirst :
    ¬ AllOrNothing toLV (Report.lvInVG "a") unreadableFirst (listLVInVGJSON "a" unreadableFirst) ∧
      ¬ AllOrNothing toVG Report.vg unreadableFirst (listVGJSON unreadableFirst) := by
  have hLvs : listLVInVGJSON "a" unreadableFirst = ([{}, { name := "y", vgName := "a", sizeByte := 4 }], none) := by
    decide
  have hVgs : listVGJSON unreadableFirst =
      ([{}, { name := "b", totalByte := 8, freeByte := 4, pvCount := 1, extendCount := 2, extendSize := 4 }],
        none) := by
    decide
  rw [hLvs, hVgs]
  constructor
  · intro h
    obtain ⟨reports, hReports, hItems⟩ := h rfl
    cases hReports
    cases hItems with
    | cons hFirst _ => exact absurd hFirst (by decide)
  · intro h
    obtain ⟨reports, hReports, hItems⟩ := h rfl
    cases hReports
    cases hItems with
    | cons hFirst _ => exact absurd hFirst (by decide)

def VG.summary (vg : VG) : PoolSyncer.VG := { name := vg.name, totalByte := vg.totalByte, freeByte := vg.freeByte }

def CmdRun.vgsRun (errText : ListError → String) (run : CmdRun) : PoolSyncer.VgsRun where
  failed := run.failed
  stderr := run.stderr
  report :=
    match run.list {} toVG Report.vg with
    | (vgs, none) => .ok (vgs.map VG.summary)
    | (_, some err) => .error (errText err)

/-- The pool syncer works on the groups of this listing, those that were not read among them. -/
theorem poolSyncer_listVGJSON_eq_ok_iff (errText : ListError → String) (run : CmdRun) (pools : List PoolSyncer.VG) :
    PoolSyncer.listVGJSON (run.vgsRun errText) = .ok pools ↔
      ∃ vgs, listVGJSON run = (vgs, none) ∧ pools = vgs.map VG.summary := by
  unfold PoolSyncer.listVGJSON listVGJSON CmdRun.vgsRun
  cases run.failed with
  | some text => simp
  | none =>
    by_cases hLost : PoolSyncer.pvLostErrStr.toList <:+: run.stderr.toList
    · simp [hLost]
    · rcases hList : run.list {} toVG Report.vg with ⟨vgs, _ | err⟩
      · simp [hLost, hList, Except.mapError, eq_comm]
      · simp [hLost, hList, Except.mapError]

end Liteio.Lvm.Cmd
