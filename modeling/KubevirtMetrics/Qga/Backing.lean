import KubevirtMetrics.Data.Lists
import KubevirtMetrics.Qga.DiskMap

namespace KubevirtMetrics.Qga

open Data Qmp

/-! The volumes that really back the drives of a guest. -/

/-- A disk of the guest; one that is not KubeVirt's has no volume. -/
structure AttachedDisk where
  index : Int
  volume : Option String
  location : DiskLocation
  serial : String
  deriving DecidableEq

structure Machine where
  disks : List AttachedDisk
  indices : (disks.map AttachedDisk.index).Nodup
  locations : (disks.map AttachedDisk.location).Nodup

namespace Machine

/-- The volume that backs a physical drive. -/
def backing (machine : Machine) (index : Int) : Option String :=
  (machine.disks.find? fun disk => disk.index = index).bind AttachedDisk.volume

def SerialsDiffer (machine : Machine) : Prop :=
  ∀ disk ∈ machine.disks, ∀ other ∈ machine.disks,
    disk.serial = other.serial → disk.serial ≠ "" → disk = other

instance (machine : Machine) : Decidable machine.SerialsDiffer :=
  inferInstanceAs (Decidable (∀ disk ∈ machine.disks,
    ∀ other ∈ machine.disks, disk.serial = other.serial →
      disk.serial ≠ "" → disk = other))

theorem backing_index {machine : Machine} {disk : AttachedDisk}
    (attached : disk ∈ machine.disks) :
    machine.backing disk.index = disk.volume := by
  rw [backing, find?_of_nodup machine.indices attached]
  rfl

end Machine

/-- The domain and the guest agent tell the truth about the disks.  The agent may
leave out a serial, or give a location that is no disk's. -/
structure Truthful (machine : Machine) (domain : XmlDomain)
    (guestDisks : List GuestDisk) : Prop where
  domain : ∀ d ∈ domain.disks, ∀ volName ∈ d.volName, ∃ disk ∈ machine.disks,
    disk.volume = some volName ∧
      (∀ location ∈ domain.location d, disk.location = location) ∧
        (d.serial ≠ "" → disk.serial = d.serial)
  guest : ∀ gd ∈ guestDisks, ∃ disk ∈ machine.disks,
    disk.index = gd.driveIndex ∧
      (disk.location = gd.location ∨
        ∀ other ∈ machine.disks, other.location ≠ gd.location) ∧
          (gd.serial ≠ "" → disk.serial = gd.serial)

instance (machine : Machine) (domain : XmlDomain)
    (guestDisks : List GuestDisk) :
    Decidable (Truthful machine domain guestDisks) :=
  decidable_of_iff
    ((∀ d ∈ domain.disks, ∀ volName ∈ d.volName, ∃ disk ∈ machine.disks,
        disk.volume = some volName ∧
          (∀ location ∈ domain.location d, disk.location = location) ∧
            (d.serial ≠ "" → disk.serial = d.serial)) ∧
      ∀ gd ∈ guestDisks, ∃ disk ∈ machine.disks,
        disk.index = gd.driveIndex ∧
          (disk.location = gd.location ∨
            ∀ other ∈ machine.disks, other.location ≠ gd.location) ∧
              (gd.serial ≠ "" → disk.serial = gd.serial))
    ⟨fun ⟨domain, guest⟩ => ⟨domain, guest⟩,
      fun truthful => ⟨truthful.domain, truthful.guest⟩⟩

/-- Of the disks that share the serial of a guest disk without a known location,
the last in the domain is that disk. -/
def SerialsOwn (machine : Machine) (domain : XmlDomain)
    (guestDisks : List GuestDisk) : Prop :=
  ∀ gd ∈ guestDisks, gd.serial ≠ "" →
    (∀ d ∈ domain.disks, d.volName ≠ none →
      domain.location d ≠ some gd.location) →
    ∀ d, domain.lastWithSerial gd.serial = some d →
      machine.backing gd.driveIndex = d.volName

section Mapping

variable {machine : Machine} {domain : XmlDomain} {guestDisks : List GuestDisk}

theorem placed_backing (truthful : Truthful machine domain guestDisks)
    {gd : GuestDisk} (listed : gd ∈ guestDisks) {volName : String}
    (located : placed domain gd = some volName) :
    machine.backing gd.driveIndex = some volName := by
  obtain ⟨disk, attached, index, place, -⟩ := truthful.guest gd listed
  obtain ⟨d, isDisk, named, location⟩ :=
    XmlDomain.lookup_parseDiskLocations located
  obtain ⟨other, attached', volume, place', -⟩ :=
    truthful.domain d isDisk volName named
  have here := place' gd.location location
  rw [← index, Machine.backing_index attached]
  rcases place with place | nowhere
  · rw [List.inj_on_of_nodup_map machine.locations attached attached'
      (place.trans here.symm)]
    exact volume
  · exact absurd here (nowhere other attached')

theorem matched_eq_some {gd : GuestDisk} {volName : String} :
    matched domain gd = some volName ↔ gd.serial ≠ "" ∧
      ∃ d, domain.lastWithSerial gd.serial = some d ∧
        d.volName = some volName := by
  rw [matched, Option.ite_none_left_eq_some]
  apply and_congr_right
  intro given
  rw [XmlDomain.lookup_parseDiskSerials given, Option.bind_eq_some_iff]

theorem buildDiskMapping_ne_empty {index : Int} {volName : String}
    (found : (buildDiskMapping domain guestDisks).lookup index =
      some volName) : volName ≠ "" := by
  obtain ⟨gd, -, -, located | ⟨-, bySerial⟩⟩ := lookup_buildDiskMapping_cases found
  · obtain ⟨d, -, named, -⟩ := XmlDomain.lookup_parseDiskLocations located
    exact XmlDisk.volName_ne_empty named
  · obtain ⟨-, d, -, named⟩ := matched_eq_some.mp bySerial
    exact XmlDisk.volName_ne_empty named

theorem backing_of_lookup (truthful : Truthful machine domain guestDisks)
    (own : SerialsOwn machine domain guestDisks) {index : Int}
    {volName : String}
    (found : (buildDiskMapping domain guestDisks).lookup index =
      some volName) :
    machine.backing index = some volName := by
  obtain ⟨gd, listed, rfl, located | ⟨unplaced, bySerial⟩⟩ :=
    lookup_buildDiskMapping_cases found
  · exact placed_backing truthful listed located
  · obtain ⟨given, d, last, named⟩ := matched_eq_some.mp bySerial
    have nowhere := XmlDomain.parseDiskLocations_eq_none.mp unplaced
    rw [own gd listed given nowhere d last, named]

theorem serialsOwn_of_differ (truthful : Truthful machine domain guestDisks)
    (serials : machine.SerialsDiffer) :
    SerialsOwn machine domain guestDisks := by
  intro gd listed given _ d last
  obtain ⟨disk, attached, index, -, serial⟩ := truthful.guest gd listed
  obtain ⟨isDisk, own⟩ := XmlDomain.mem_of_lastWithSerial last
  obtain ⟨volName, named⟩ := XmlDomain.volName_of_lastWithSerial last
  obtain ⟨other, attached', volume, -, serial'⟩ :=
    truthful.domain d isDisk volName named
  have same : other.serial = gd.serial := (serial' (own ▸ given)).trans own
  rw [← index, Machine.backing_index attached, named, ← volume,
    serials disk attached other attached'
      ((serial given).trans same.symm) (by rw [serial given]; exact given)]

/-- With distinct drive indices, the mapping names the volumes behind the drives
exactly when no serial leads to another disk. -/
theorem mapping_backed_iff (machine : Machine) (domain : XmlDomain)
    (guestDisks : List GuestDisk)
    (truthful : Truthful machine domain guestDisks)
    (distinct : (guestDisks.map GuestDisk.driveIndex).Nodup) :
    (∀ index volName,
      (buildDiskMapping domain guestDisks).lookup index = some volName →
        machine.backing index = some volName) ↔
      SerialsOwn machine domain guestDisks := by
  constructor
  · intro backed gd listed given nowhere d last
    obtain ⟨volName, named⟩ := XmlDomain.volName_of_lastWithSerial last
    have bySerial := matched_eq_some.mpr ⟨given, d, last, named⟩
    have unplaced : placed domain gd = none :=
      XmlDomain.parseDiskLocations_eq_none.mpr nowhere
    rw [named]
    apply backed
    rw [lookup_buildDiskMapping_of_nodup distinct listed, unplaced, bySerial]
    rfl
  · intro own index volName found
    exact backing_of_lookup truthful own found

end Mapping

/-! Two SATA disks, for which the guest agent gives no valid address. -/

def sataController : XmlController :=
  ⟨"sata", "0", ⟨"pci", "0x0000", "0x00", "0x1f", "0x2", "", "", ""⟩⟩

def sataXml (volume serial unit : String) : XmlDisk :=
  ⟨"disk", serial, "sata", "ua-" ++ volume,
    ⟨"drive", "", "0", "", "", "0", "0", unit⟩⟩

def sataDomain (serial : String) : XmlDomain :=
  ⟨[sataXml "rootdisk" "disk-1" "0", sataXml "data" serial "1"],
    [sataController]⟩

def sataLocation (unit : Int) : DiskLocation := ⟨⟨0, 0, 31, 2⟩, 0, 0, unit⟩

def sataMachine (serial : String) : Machine where
  disks := [⟨0, some "rootdisk", sataLocation 0, "disk-1"⟩,
    ⟨1, some "data", sataLocation 1, serial⟩]
  indices := by simp
  locations := by simp [sataLocation]

def sataGuest (serial : String) : List GuestDisk :=
  [⟨0, "disk-1", ⟨⟨-1, -1, -1, -1⟩, 0, 0, 0⟩⟩,
    ⟨1, serial, ⟨⟨-1, -1, -1, -1⟩, 0, 0, 1⟩⟩]

theorem mapping_backed_with_own_serials :
    (buildDiskMapping (sataDomain "disk-2") (sataGuest "disk-2")).lookup 1 =
        some "data" ∧
      (sataMachine "disk-2").backing 1 = some "data" := by
  have truthful : Truthful (sataMachine "disk-2") (sataDomain "disk-2")
      (sataGuest "disk-2") := by
    decide +kernel
  have found : (buildDiskMapping (sataDomain "disk-2") (sataGuest "disk-2")).lookup
      1 = some "data" := by
    decide +kernel
  have backed := (mapping_backed_iff (sataMachine "disk-2") (sataDomain "disk-2")
    (sataGuest "disk-2") truthful (by decide)).mpr
      (serialsOwn_of_differ truthful (by decide))
  exact ⟨found, backed 1 "data" found⟩

/-- Two disks with one serial: both drives get the volume of the last. -/
theorem shared_serial_is_mismapped :
    Truthful (sataMachine "disk-1") (sataDomain "disk-1") (sataGuest "disk-1") ∧
      ((sataGuest "disk-1").map GuestDisk.driveIndex).Nodup ∧
      (buildDiskMapping (sataDomain "disk-1") (sataGuest "disk-1")).lookup 0 =
        some "data" ∧
      (sataMachine "disk-1").backing 0 = some "rootdisk" := by
  refine ⟨?_, ?_, ?_, rfl⟩
  · decide +kernel
  · decide
  · decide +kernel

end KubevirtMetrics.Qga
