import KubevirtMetrics.Qga.Scrape
import KubevirtMetrics.Qmp.DomainXML

namespace KubevirtMetrics.Qga

open Data Qmp

/-! `diskmap.go`, and `guest-get-disks` of `client.go`. -/

structure GuestDiskAddress where
  serial : String
  pciController : Option PCIAddr
  bus : Int
  target : Int
  unit : Int

structure GuestDiskEntry where
  name : String
  address : Option GuestDiskAddress

structure GuestDisk where
  driveIndex : Int
  serial : String
  location : DiskLocation
  deriving DecidableEq

def parsePhysicalDriveIndex (name : String) : Option Int :=
  (Text.afterLast? "PhysicalDrive".toList name.toList).bind Text.atoi?

def parseGuestDisk (entry : GuestDiskEntry) : Option GuestDisk :=
  entry.address.bind fun address =>
    address.pciController.bind fun pci =>
      (parsePhysicalDriveIndex entry.name).map fun idx =>
        ⟨idx, address.serial, ⟨pci, address.bus, address.target, address.unit⟩⟩

def parseGuestGetDisks (resp : List GuestDiskEntry) : List GuestDisk :=
  resp.filterMap parseGuestDisk

/-- Volumes by location first; a disk that has none is looked up by its serial. -/
def buildDiskMapping (domain : XmlDomain) (guestDisks : List GuestDisk) :
    Table Int String :=
  let hostMap := domain.parseDiskLocations
  let result : Table Int String :=
    Table.insertAll ∅ (guestDisks.filterMap fun gd =>
      (hostMap.lookup gd.location).map fun volName => (gd.driveIndex, volName))
  let serialMap := domain.parseDiskSerials
  if serialMap = ∅ then result
  else
    result.insertMissing (guestDisks.filterMap fun gd =>
      if gd.serial = "" then none
      else (serialMap.lookup gd.serial).map fun volName =>
        (gd.driveIndex, volName))

section Lookup

variable (domain : XmlDomain)

/-- The volume of a guest disk by its location. -/
def placed (gd : GuestDisk) : Option String :=
  domain.parseDiskLocations.lookup gd.location

/-- The volume of a guest disk by its serial. -/
def matched (gd : GuestDisk) : Option String :=
  if gd.serial = "" then none else domain.parseDiskSerials.lookup gd.serial

theorem lookup_buildDiskMapping (guestDisks : List GuestDisk) (index : Int) :
    (buildDiskMapping domain guestDisks).lookup index =
      ((guestDisks.reverse.find? fun gd =>
          gd.driveIndex = index && (placed domain gd).isSome).bind
            (placed domain)).or
        ((guestDisks.find? fun gd =>
          gd.driveIndex = index && (matched domain gd).isSome).bind
            (matched domain)) := by
  have located : (Table.insertAll ∅ (guestDisks.filterMap fun gd =>
      (placed domain gd).map fun volName => (gd.driveIndex, volName))).lookup
        index =
      (guestDisks.reverse.find? fun gd =>
        gd.driveIndex = index && (placed domain gd).isSome).bind
          (placed domain) := by
    rw [Table.lookup_insertAll, ← List.filterMap_reverse,
      Table.find?_entries GuestDisk.driveIndex, Finmap.lookup_empty,
      Option.or_none]
  have serials : (fun gd : GuestDisk =>
      if gd.serial = "" then none
      else (domain.parseDiskSerials.lookup gd.serial).map fun volName =>
        (gd.driveIndex, volName)) =
      fun gd => (matched domain gd).map fun volName =>
        (gd.driveIndex, volName) := by
    funext gd
    rw [matched]
    split
    next => rfl
    next => rfl
  simp only [buildDiskMapping]
  rw [serials]
  split
  next empty =>
    have unmatched : ∀ gd, matched domain gd = none := by
      intro gd
      rw [matched, empty]
      split
      next => rfl
      next => rfl
    have nobody : guestDisks.find? (fun gd =>
        gd.driveIndex = index && (matched domain gd).isSome) = none := by
      simp [unmatched]
    rw [nobody, Option.bind_none, Option.or_none]
    exact located
  next =>
    rw [Table.lookup_insertMissing, Table.find?_entries GuestDisk.driveIndex]
    exact congrArg (Option.or · _) located

variable {domain}

/-- A drive's volume is that of a disk with its index: by location, or by serial
for a disk whose location is not known. -/
theorem lookup_buildDiskMapping_cases {guestDisks : List GuestDisk}
    {index : Int} {volName : String}
    (found : (buildDiskMapping domain guestDisks).lookup index =
      some volName) :
    ∃ gd ∈ guestDisks, gd.driveIndex = index ∧
      (placed domain gd = some volName ∨
        (placed domain gd = none ∧ matched domain gd = some volName)) := by
  rw [lookup_buildDiskMapping, Option.or_eq_some_iff] at found
  rcases found with located | ⟨unplaced, bySerial⟩
  · obtain ⟨gd, listed, same, here⟩ := Table.find?_bind_eq_some located
    exact ⟨gd, List.mem_reverse.mp listed, same, .inl here⟩
  · obtain ⟨gd, listed, same, here⟩ := Table.find?_bind_eq_some bySerial
    have nowhere := Table.find?_bind_eq_none unplaced gd
      (List.mem_reverse.mpr listed) same
    exact ⟨gd, listed, same, .inr ⟨nowhere, here⟩⟩

theorem lookup_buildDiskMapping_of_nodup {guestDisks : List GuestDisk}
    (distinct : (guestDisks.map GuestDisk.driveIndex).Nodup) {gd : GuestDisk}
    (listed : gd ∈ guestDisks) :
    (buildDiskMapping domain guestDisks).lookup gd.driveIndex =
      (placed domain gd).or (matched domain gd) := by
  have reversed : (guestDisks.reverse.map GuestDisk.driveIndex).Nodup := by
    rw [List.map_reverse]
    exact List.nodup_reverse.mpr distinct
  rw [lookup_buildDiskMapping,
    Table.find?_bind_of_nodup (placed domain) reversed
      (List.mem_reverse.mpr listed),
    Table.find?_bind_of_nodup (matched domain) distinct listed]

end Lookup

/-- The requests of `tryBuildDiskMap`; a response that cannot be decoded is
absent. -/
structure MapReplies where
  disks : Reply (Option (List GuestDiskEntry))
  domain : Reply (Option XmlDomain)

def MapReplies.diskMap (replies : MapReplies) : Reply (Table Int String) :=
  match replies.disks with
  | .expired => .expired
  | .failed | .ok none => .failed
  | .ok (some resp) =>
      let guestDisks := parseGuestGetDisks resp
      if guestDisks.isEmpty then .ok ∅
      else
        match replies.domain with
        | .expired => .expired
        | .failed | .ok none => .failed
        | .ok (some domain) => .ok (buildDiskMapping domain guestDisks)

theorem MapReplies.diskMap_ok {replies : MapReplies} {diskMap : Table Int String}
    (ok : replies.diskMap = .ok diskMap) (nonempty : diskMap ≠ ∅) :
    ∃ resp domain, replies.disks = .ok (some resp) ∧
      replies.domain = .ok (some domain) ∧
        diskMap = buildDiskMapping domain (parseGuestGetDisks resp) := by
  unfold MapReplies.diskMap at ok
  split at ok
  next => cases ok
  next => cases ok
  next => cases ok
  next resp listed =>
    simp only [] at ok
    split at ok
    next => exact absurd (Reply.ok.inj ok).symm nonempty
    next =>
      split at ok
      next => cases ok
      next => cases ok
      next => cases ok
      next domain described =>
        exact ⟨resp, domain, listed, described, (Reply.ok.inj ok).symm⟩

end KubevirtMetrics.Qga
