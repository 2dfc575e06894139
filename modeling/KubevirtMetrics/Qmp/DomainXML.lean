import KubevirtMetrics.Data.Table
import KubevirtMetrics.Data.Text

namespace KubevirtMetrics.Qmp

open Data

/-! The disks of a libvirt domain, from `types.go`.  The domain is the one that
`xml.Unmarshal` reads; an attribute that is missing is empty. -/

structure PCIAddr where
  domain : Int
  bus : Int
  slot : Int
  function : Int
  deriving DecidableEq

structure DiskLocation where
  controller : PCIAddr
  bus : Int
  target : Int
  unit : Int
  deriving DecidableEq

structure XmlAddr where
  type : String
  domain : String
  bus : String
  slot : String
  function : String
  controller : String
  target : String
  unit : String

structure XmlController where
  type : String
  index : String
  address : XmlAddr

structure XmlDisk where
  device : String
  serial : String
  targetBus : String
  aliasName : String
  address : XmlAddr

structure XmlDomain where
  disks : List XmlDisk
  controllers : List XmlController

def parseHexAddr (a : XmlAddr) : Option PCIAddr :=
  let parse (text : String) : Option Int :=
    Text.parseHexInt? 32 (Text.trimPrefix "0x".toList text.toList)
  (parse a.domain).bind fun domain =>
    (parse a.bus).bind fun bus =>
      (parse a.slot).bind fun slot =>
        (parse a.function).map fun function => ⟨domain, bus, slot, function⟩

/-- The volume of a disk that is one of KubeVirt's. -/
def XmlDisk.volName (d : XmlDisk) : Option String :=
  if d.device ≠ "disk" then none
  else
    let volName := Text.trimPrefix "ua-".toList d.aliasName.toList
    if volName = d.aliasName.toList || volName = [] then none
    else some (String.ofList volName)

namespace XmlDomain

def controllerPCI (dom : XmlDomain) : Table String PCIAddr :=
  Table.insertAll ∅ (dom.controllers.filterMap fun ctrl =>
    if ctrl.address.type ≠ "pci" then none
    else (parseHexAddr ctrl.address).map fun addr =>
      (ctrl.type ++ ":" ++ ctrl.index, addr))

def location (dom : XmlDomain) (d : XmlDisk) : Option DiskLocation :=
  if d.address.type = "pci" then
    (parseHexAddr d.address).map fun addr => ⟨addr, 0, 0, 0⟩
  else if d.address.type = "drive" then
    let ctrlIdx := if d.address.controller = "" then "0" else d.address.controller
    if d.targetBus = "" then none
    else (dom.controllerPCI.lookup (d.targetBus ++ ":" ++ ctrlIdx)).map
      fun ctrlPCI =>
        ⟨ctrlPCI, Text.atoiValue d.address.bus.toList,
          Text.atoiValue d.address.target.toList,
          Text.atoiValue d.address.unit.toList⟩
  else none

def parseDiskLocations (dom : XmlDomain) : Table DiskLocation String :=
  Table.insertAll ∅ (dom.disks.filterMap fun d =>
    d.volName.bind fun volName =>
      (dom.location d).map fun location => (location, volName))

def parseDiskSerials (dom : XmlDomain) : Table String String :=
  Table.insertAll ∅ (dom.disks.filterMap fun d =>
    if d.serial = "" then none
    else d.volName.map fun volName => (d.serial, volName))

end XmlDomain

theorem XmlDisk.volName_ne_empty {d : XmlDisk} {volName : String}
    (named : d.volName = some volName) : volName ≠ "" := by
  simp only [XmlDisk.volName, Option.ite_none_left_eq_some, Bool.or_eq_true,
    decide_eq_true_eq, not_or] at named
  obtain ⟨-, ⟨-, nonempty⟩, made⟩ := named
  rw [← Option.some.inj made]
  intro empty
  apply nonempty
  rw [← String.toList_ofList (l := Text.trimPrefix _ _), empty]
  rfl

namespace XmlDomain

variable {dom : XmlDomain} {volName : String}

theorem lookup_parseDiskLocations {location : DiskLocation}
    (found : dom.parseDiskLocations.lookup location = some volName) :
    ∃ d ∈ dom.disks, d.volName = some volName ∧
      dom.location d = some location := by
  rcases Table.mem_of_lookup_insertAll found with member | absent
  · obtain ⟨d, listed, made⟩ := List.mem_filterMap.mp member
    obtain ⟨name, named, located⟩ := Option.bind_eq_some_iff.mp made
    obtain ⟨place, placed, same⟩ := Option.map_eq_some_iff.mp located
    obtain ⟨rfl, rfl⟩ := Prod.mk.inj same
    exact ⟨d, listed, named, placed⟩
  · simp at absent

theorem parseDiskLocations_eq_none {location : DiskLocation} :
    dom.parseDiskLocations.lookup location = none ↔
      ∀ d ∈ dom.disks, d.volName ≠ none → dom.location d ≠ some location := by
  rw [parseDiskLocations, Table.lookup_insertAll_eq_none]
  constructor
  · intro missing d listed named here
    obtain ⟨volName, isNamed⟩ := Option.ne_none_iff_exists'.mp named
    apply missing volName
    refine List.mem_filterMap.mpr ⟨d, listed, ?_⟩
    rw [isNamed, Option.bind_some, here]
    rfl
  · intro elsewhere volName member
    obtain ⟨d, listed, made⟩ := List.mem_filterMap.mp member
    obtain ⟨name, named, located⟩ := Option.bind_eq_some_iff.mp made
    obtain ⟨place, placed, same⟩ := Option.map_eq_some_iff.mp located
    obtain ⟨rfl, rfl⟩ := Prod.mk.inj same
    exact elsewhere d listed (by rw [named]; exact Option.some_ne_none _) placed

/-- The KubeVirt disk with the serial that comes last in the domain. -/
def lastWithSerial (dom : XmlDomain) (serial : String) : Option XmlDisk :=
  dom.disks.reverse.find? fun d => d.serial = serial && d.volName.isSome

theorem mem_of_lastWithSerial {serial : String} {d : XmlDisk}
    (last : dom.lastWithSerial serial = some d) :
    d ∈ dom.disks ∧ d.serial = serial := by
  have own := List.find?_some last
  rw [Bool.and_eq_true, decide_eq_true_eq] at own
  exact ⟨List.mem_reverse.mp (List.mem_of_find?_eq_some last), own.1⟩

theorem volName_of_lastWithSerial {serial : String} {d : XmlDisk}
    (last : dom.lastWithSerial serial = some d) :
    ∃ volName, d.volName = some volName := by
  have own := List.find?_some last
  rw [Bool.and_eq_true] at own
  exact Option.isSome_iff_exists.mp own.2

theorem lookup_parseDiskSerials {serial : String} (given : serial ≠ "") :
    dom.parseDiskSerials.lookup serial =
      (dom.lastWithSerial serial).bind XmlDisk.volName := by
  have entries : (fun d : XmlDisk =>
      if d.serial = "" then none
      else d.volName.map fun volName => (d.serial, volName)) =
      fun d => (if d.serial = "" then none else d.volName).map fun volName =>
        (d.serial, volName) := by
    funext d
    split
    next => rfl
    next => rfl
  have same : ∀ d : XmlDisk, d.serial = serial →
      (if d.serial = "" then none else d.volName) = d.volName :=
    fun d own => if_neg (own ▸ given)
  rw [parseDiskSerials, entries, Table.lookup_insertAll, Finmap.lookup_empty,
    Option.or_none, ← List.filterMap_reverse, Table.find?_entries]
  have chosen : dom.disks.reverse.find? (fun d => d.serial = serial &&
      (if d.serial = "" then none else d.volName).isSome) =
        dom.lastWithSerial serial := by
    rw [lastWithSerial]
    congr 1
    funext d
    by_cases own : d.serial = serial
    · rw [same d own]
    · simp [own]
  rw [chosen]
  cases last : dom.lastWithSerial serial with
  | none => rfl
  | some d => exact same d (mem_of_lastWithSerial last).2

end XmlDomain

end KubevirtMetrics.Qmp
