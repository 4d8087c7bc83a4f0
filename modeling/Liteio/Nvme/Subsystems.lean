import Mathlib.Data.List.Basic

/-! # NVMe subsystem lists

What `nvme list-subsys` reports of the paths of a host, and the address text of
a path, as pkg/spdk/jsonrpc/nvme reads them. The command lists a subsystem and its
paths as two items, and only the first of them for one that is left over from a
mount; reading the list and the addresses gives back what was listed.
-/

namespace Liteio.Nvme

structure Path where
  name : String := ""
  transport : String := ""
  address : String := ""
  state : String := ""
  pathState : String := ""
  deriving DecidableEq

structure SubsystemItem where
  name : String := ""
  nqn : String := ""
  paths : List Path := []
  deriving DecidableEq

/-- The transport address and the service ID of "traddr=a trsvcid=s". The text
is cut at blanks, and each part at its first equals sign. -/
def parseNvmePathAddress (addr : String) : String × String :=
  (addr.toList.splitOn ' ').foldl (fun out item =>
    match item.splitOn '=' with
    | key :: first :: rest =>
      let value := String.ofList (['='].intercalate (first :: rest))
      if key = "traddr".toList then (value, out.2)
      else if key = "trsvcid".toList then (out.1, value)
      else out
    | _ => out) ("", "")

example : parseNvmePathAddress "traddr=100.100.100.1 trsvcid=20002" = ("100.100.100.1", "20002") := by
  decide +kernel

/-- Each item with a name gets the paths of the item after it. -/
def formatSybsysList : List SubsystemItem → List SubsystemItem
  | firstOne :: paths :: rest =>
    if firstOne.nqn ≠ "" then { firstOne with paths := paths.paths } :: formatSybsysList (paths :: rest)
    else formatSybsysList (paths :: rest)
  | _ => []

structure Connection where
  name : String := ""
  transport : String := ""
  trAddr : String
  svcId : String
  state : String := ""
  pathState : String := ""
  addr_plain : ' ' ∉ trAddr.toList
  svc_plain : ' ' ∉ svcId.toList

def addressText (trAddr svcId : String) : String := "traddr=" ++ trAddr ++ " trsvcid=" ++ svcId

def Connection.path (conn : Connection) : Path where
  name := conn.name
  transport := conn.transport
  address := addressText conn.trAddr conn.svcId
  state := conn.state
  pathState := conn.pathState

/-- A subsystem of the host; one that is left over has no paths at all. -/
structure HostSubsystem where
  name : String := ""
  nqn : String
  paths : Option (List Connection)
  named : nqn ≠ ""

namespace HostSubsystem

def items (sub : HostSubsystem) : List SubsystemItem :=
  { name := sub.name, nqn := sub.nqn } ::
    (sub.paths.map fun paths => ({ paths := paths.map Connection.path } : SubsystemItem)).toList

def connections (sub : HostSubsystem) : List Connection := sub.paths.getD []

def item (sub : HostSubsystem) : SubsystemItem where
  name := sub.name
  nqn := sub.nqn
  paths := sub.connections.map Connection.path

end HostSubsystem

def rawList (host : List HostSubsystem) : List SubsystemItem := host.flatMap HostSubsystem.items

theorem splitOn_pair {sep : Char} {first second : List Char} (hFirst : sep ∉ first) (hSecond : sep ∉ second) :
    (first ++ sep :: second).splitOn sep = [first, second] := by
  have h := @List.splitOn_intercalate Char [first, second] _ _ sep (by simp [hFirst, hSecond]) (by simp)
  simpa using h

/-- Only the first equals sign ends the key. -/
theorem splitOn_field {key value : List Char} (h : '=' ∉ key) : ∃ first rest,
    (key ++ '=' :: value).splitOn '=' = key :: first :: rest ∧ ['='].intercalate (first :: rest) = value := by
  obtain ⟨first, rest, hValue⟩ := List.exists_cons_of_ne_nil (List.splitOn_ne_nil '=' value)
  refine ⟨first, rest, ?_, ?_⟩
  · rw [← hValue]
    refine List.splitOnP_append_cons_of_forall_mem ?_ '=' rfl value
    intro c hc
    rw [beq_eq_false_iff_ne]
    rintro rfl
    exact h hc
  · rw [← hValue, List.intercalate_splitOn]

theorem parse_addressText {trAddr svcId : String} (hAddr : ' ' ∉ trAddr.toList) (hSvc : ' ' ∉ svcId.toList) :
    parseNvmePathAddress (addressText trAddr svcId) = (trAddr, svcId) := by
  have hText : (addressText trAddr svcId).toList =
      ("traddr".toList ++ '=' :: trAddr.toList) ++ ' ' :: ("trsvcid".toList ++ '=' :: svcId.toList) := by
    simp [addressText]
  obtain ⟨first, rest, hFirst, hAddrValue⟩ := @splitOn_field "traddr".toList trAddr.toList (by decide)
  obtain ⟨second, others, hSecond, hSvcValue⟩ := @splitOn_field "trsvcid".toList svcId.toList (by decide)
  rw [parseNvmePathAddress, hText, splitOn_pair]
  · simp only [List.foldl_cons, List.foldl_nil, hFirst, hSecond, hAddrValue, hSvcValue]
    simp
  · simpa using hAddr
  · simpa using hSvc

theorem Connection.parse_path (conn : Connection) :
    parseNvmePathAddress conn.path.address = (conn.trAddr, conn.svcId) :=
  parse_addressText conn.addr_plain conn.svc_plain

theorem formatSybsysList_cons_unnamed {item : SubsystemItem} (h : item.nqn = "") (rest : List SubsystemItem) :
    formatSybsysList (item :: rest) = formatSybsysList rest := by
  cases rest with
  | nil => rfl
  | cons next rest =>
    rw [formatSybsysList, if_neg (not_not.mpr h)]

/-- A subsystem as the command lists it: an item with a name and no paths, and
for an active one the item after it, which has the paths and no name. -/
structure Listed where
  item : SubsystemItem
  own : Option SubsystemItem
  named : item.nqn ≠ ""
  bare : item.paths = []
  unnamed : ∀ paths ∈ own, paths.nqn = ""

namespace Listed

def items (sub : Listed) : List SubsystemItem := sub.item :: sub.own.toList

def attributed (sub : Listed) : SubsystemItem :=
  match sub.own with
  | some paths => { sub.item with paths := paths.paths }
  | none => sub.item

theorem attributed_paths (sub : Listed) : sub.attributed.paths = sub.items.flatMap SubsystemItem.paths := by
  rw [attributed, items, List.flatMap_cons, sub.bare]
  cases sub.own with
  | none => simp [sub.bare]
  | some paths => simp

end Listed

theorem formatSybsysList_listed (sub : Listed) (listing : List Listed) :
    formatSybsysList (sub.items ++ listing.flatMap Listed.items) =
      if sub.own = none ∧ listing = [] then []
      else sub.attributed :: formatSybsysList (listing.flatMap Listed.items) := by
  rw [Listed.items, Listed.attributed]
  cases hOwn : sub.own with
  | some paths =>
    change formatSybsysList (sub.item :: paths :: _) = _
    rw [formatSybsysList, if_pos sub.named, formatSybsysList_cons_unnamed (sub.unnamed paths hOwn),
      if_neg (by simp)]
    rfl
  | none =>
    cases listing with
    | nil => rw [if_pos ⟨rfl, rfl⟩]; rfl
    | cons next listing =>
      have hItem : ({ sub.item with paths := next.item.paths } : SubsystemItem) = sub.item := by
        rw [next.bare, ← sub.bare]
      rw [if_neg (by simp), List.flatMap_cons, Listed.items]
      change formatSybsysList (sub.item :: next.item :: _) = _
      rw [formatSybsysList, if_pos sub.named, hItem]
      rfl

/-- Every subsystem of a listing is read with its own paths, but for one at the
end that has none. -/
theorem formatSybsysList_listing (listing : List Listed) :
    ∃ last : Option Listed, (∀ sub ∈ last, sub.own = none) ∧
      ∃ kept, kept ++ last.toList = listing ∧
        formatSybsysList (listing.flatMap Listed.items) = kept.map Listed.attributed := by
  induction listing with
  | nil => exact ⟨none, by simp, [], rfl, rfl⟩
  | cons sub rest ih =>
    rw [List.flatMap_cons, formatSybsysList_listed]
    split
    · rename_i hLast
      exact ⟨some sub, by simpa using hLast.1, [], by simp [hLast.2], rfl⟩
    · obtain ⟨last, hLast, kept, hKept, hRead⟩ := ih
      exact ⟨last, hLast, sub :: kept, by simp [hKept], by rw [hRead, List.map_cons]⟩

/-- The list that is read has, in the order of the listing, every subsystem with
an item of its own for the paths, others only without paths, and all the paths
that are listed, each once. -/
theorem formatSybsysList_attributes (listing : List Listed) :
    (∃ kept : List Listed, kept.Sublist listing ∧
      kept.filter (fun sub => sub.own.isSome) = listing.filter (fun sub => sub.own.isSome) ∧
      formatSybsysList (listing.flatMap Listed.items) = kept.map Listed.attributed ∧
      ∀ sub ∈ kept, sub.attributed.paths = (sub.own.map SubsystemItem.paths).getD []) ∧
    (formatSybsysList (listing.flatMap Listed.items)).flatMap SubsystemItem.paths =
      (listing.flatMap Listed.items).flatMap SubsystemItem.paths := by
  obtain ⟨last, hLast, kept, rfl, hRead⟩ := formatSybsysList_listing listing
  have hNone : last.toList.filter (fun sub => sub.own.isSome) = [] := by
    rw [List.filter_eq_nil_iff]
    intro sub hSub
    simp [hLast sub (by simpa using hSub)]
  constructor
  · refine ⟨kept, List.sublist_append_left kept _, ?_, hRead, ?_⟩
    · rw [List.filter_append, hNone, List.append_nil]
    · intro sub _
      rw [Listed.attributed]
      cases sub.own with
      | none => exact sub.bare
      | some paths => rfl
  · have hRest : last.toList.flatMap (fun sub => sub.attributed.paths) = [] := by
      rw [List.flatMap_eq_nil_iff]
      intro sub hSub
      rw [Listed.attributed, hLast sub (by simpa using hSub)]
      exact sub.bare
    rw [hRead, List.flatMap_map, List.flatMap_assoc]
    simp only [← Listed.attributed_paths]
    rw [List.flatMap_append, hRest, List.append_nil]

def HostSubsystem.listed (sub : HostSubsystem) : Listed where
  item := { name := sub.name, nqn := sub.nqn }
  own := sub.paths.map fun paths => { paths := paths.map Connection.path }
  named := sub.named
  bare := rfl
  unnamed := by
    intro paths hPaths
    obtain ⟨_, _, rfl⟩ := Option.map_eq_some_iff.mp hPaths
    rfl

theorem HostSubsystem.attributed_listed (sub : HostSubsystem) : sub.listed.attributed = sub.item := by
  obtain ⟨name, nqn, paths, named⟩ := sub
  cases paths <;> rfl

/-- The list that is read has every subsystem with its paths, but for one at the
end that is left over. -/
theorem formatSybsysList_rawList (host : List HostSubsystem) :
    ∃ last : Option HostSubsystem, (∀ sub ∈ last, sub.paths = none) ∧
      formatSybsysList (rawList host) ++ (last.map HostSubsystem.item).toList = host.map HostSubsystem.item := by
  have hRaw : rawList host = (host.map HostSubsystem.listed).flatMap Listed.items := by
    rw [rawList, List.flatMap_map]
    rfl
  obtain ⟨last, hLast, kept, hKept, hRead⟩ := formatSybsysList_listing (host.map HostSubsystem.listed)
  obtain ⟨before, after, rfl, rfl, hAfter⟩ := List.map_eq_append_iff.mp hKept.symm
  rw [hRaw, hRead, List.map_map, List.map_append]
  simp only [Function.comp_def, HostSubsystem.attributed_listed, List.append_cancel_left_eq]
  cases last with
  | none => exact ⟨none, by simp, by simp [List.map_eq_nil_iff.mp hAfter]⟩
  | some sub =>
    obtain ⟨left, rfl, rfl⟩ := List.map_eq_singleton_iff.mp hAfter
    exact ⟨some left, by simpa [HostSubsystem.listed] using hLast, rfl⟩

theorem mem_formatSybsysList {host : List HostSubsystem} {item : SubsystemItem} (h : item.paths ≠ []) :
    item ∈ formatSybsysList (rawList host) ↔ ∃ sub ∈ host, sub.item = item := by
  obtain ⟨last, hLast, hList⟩ := formatSybsysList_rawList host
  rw [← List.mem_map, ← hList, List.mem_append, or_iff_left]
  intro hItem
  obtain ⟨sub, hSub, rfl⟩ := by simpa using hItem
  exact h (by simp [HostSubsystem.item, HostSubsystem.connections, hLast sub hSub])

end Liteio.Nvme
