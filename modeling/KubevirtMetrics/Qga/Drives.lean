import KubevirtMetrics.Data.Run
import KubevirtMetrics.Qga.Backing

namespace KubevirtMetrics.Qga

open Data Virt Qmp

/-! The volumes that drives are labelled with while disks are plugged and
unplugged. -/

/-- `holds` is true of what the replies say, where both are answered. -/
def MapReplies.Say (replies : MapReplies)
    (holds : XmlDomain → List GuestDisk → Prop) : Prop :=
  ∀ resp domain, replies.disks = .ok (some resp) →
    replies.domain = .ok (some domain) → holds domain (parseGuestGetDisks resp)

/-- The domain and the guest agent tell the truth about the disks. -/
def Describes (machine : Machine) (replies : MapReplies) : Prop :=
  replies.Say (Truthful machine)

/-- No serial that is needed leads to another disk. -/
def OwnSerials (machine : Machine) (replies : MapReplies) : Prop :=
  replies.Say (SerialsOwn machine)

theorem ownSerials_of_differ {machine : Machine} {replies : MapReplies}
    (describes : Describes machine replies) (serials : machine.SerialsDiffer) :
    OwnSerials machine replies := fun resp domain listed described =>
  serialsOwn_of_differ (describes resp domain listed described) serials

/-- A mapping that is built from truthful replies is right at that time. -/
theorem backing_of_built {machine : Machine} {replies : MapReplies}
    (describes : Describes machine replies) (serials : OwnSerials machine replies)
    {diskMap : Table Int String} (built : replies.diskMap = .ok diskMap)
    {index : Int} {volName : String}
    (found : diskMap.lookup index = some volName) :
    machine.backing index = some volName ∧ volName ≠ "" := by
  have nonempty : diskMap ≠ ∅ := by
    rintro rfl
    cases found
  obtain ⟨resp, domain, listed, described, rfl⟩ := replies.diskMap_ok built nonempty
  refine ⟨backing_of_lookup (describes resp domain listed described)
    (serials resp domain listed described) found, ?_⟩
  exact buildDiskMapping_ne_empty found

/-! ### Runs -/

structure ScrapeInput where
  machine : Machine
  mapping : MapReplies
  counters : CountersReply
  fetch : FetchReply
  order : List String

def ScrapeInput.answers (input : ScrapeInput) : Answers :=
  ⟨input.counters, input.mapping.diskMap, input.fetch, input.order⟩

inductive Event
  | dial (fetch : FetchReply) (client : Nat)
  | scrape (input : ScrapeInput)

/-- A session, and the machine as it was when the mapping that is in use was
built. -/
structure Tracked where
  session : Session
  mappedAt : Option Machine

namespace Tracked

def dial (pod : PodInfo) (fetch : FetchReply) (client : Nat) : Tracked :=
  ⟨.dial pod fetch client, none⟩

def step (cfg : CollectorConfig) (pod : PodInfo) (t : Tracked) :
    Event → Tracked
  | .dial fetch client => .dial pod fetch client
  | .scrape input =>
      ⟨t.session.next cfg input.answers,
        if t.session.vm.diskMap.isNone then some input.machine
        else t.mappedAt⟩

def run (cfg : CollectorConfig) (pod : PodInfo) (fetch : FetchReply)
    (client : Nat) (history : List Event) : Tracked :=
  stateAfter (step cfg pod) (dial pod fetch client) history

end Tracked

theorem tryBuildDiskMap_some {reply : Reply (Table Int String)}
    {diskMap : Table Int String}
    (built : (tryBuildDiskMap false reply).1 = some diskMap) :
    reply = .ok diskMap := by
  cases reply with
  | ok value =>
      change (if value = ∅ then none else some value) = some diskMap at built
      rw [Option.ite_none_left_eq_some] at built
      rw [Option.some.inj built.2]
  | failed => cases built
  | expired => cases built

theorem VMState.mapDisks_some {vs : VMState} {answers : Answers}
    {diskMap : Table Int String}
    (mapped : (vs.mapDisks answers).1 = some diskMap) :
    vs.diskMap = some diskMap ∨
      (vs.diskMap = none ∧ answers.diskMap = .ok diskMap) := by
  unfold mapDisks at mapped
  split at mapped
  next unset =>
    exact .inr ⟨Option.isNone_iff_eq_none.mp unset, tryBuildDiskMap_some mapped⟩
  next => exact .inl mapped

theorem VMState.resultOf_of_mem (cfg : CollectorConfig) (vs : VMState)
    {disks : List EnrichedDisk} {entry : EnrichedDisk} (member : entry ∈ disks) :
    resultOf cfg vs disks =
      some ⟨vs.namespace_, vs.vmi, cfg.nodeName, vs.podName, disks⟩ := by
  unfold resultOf
  apply if_neg
  rw [List.isEmpty_iff]
  exact List.ne_nil_of_mem member

namespace Session

theorem next_diskMap {cfg : CollectorConfig} {session : Session}
    {answers : Answers} {diskMap : Table Int String}
    (mapped : (session.next cfg answers).vm.diskMap = some diskMap) :
    session.vm.diskMap = some diskMap ∨
      (session.vm.diskMap = none ∧ answers.diskMap = .ok diskMap) := by
  simp only [next, scrape] at mapped
  rcases session.vm.scrapeVM_cases cfg session.clientClosed answers with
    ⟨error, closed, failed⟩ | ⟨rows, -, done⟩
  · simp only [failed] at mapped
    rcases handleScrapeError_cases cfg session.vm error closed with
      dropped | ⟨-, again⟩ | ⟨vm, -, passive⟩
    · simp only [dropped] at mapped
      exact .inl mapped
    · simp only [again] at mapped
      exact .inl mapped
    · simp only [passive] at mapped
      cases mapped
  · simp only [done] at mapped
    exact VMState.mapDisks_some mapped

/-- The scrape succeeds and reports the drive. -/
def Reports (session : Session) (answers : Answers) (drive : String) : Prop :=
  session.vm.closed = false ∧ session.clientClosed = false ∧
    ∃ rows, answers.counters = .counters rows ∧
      drive ∈ session.vm.reported answers rows

theorem scrape_ok_iff {cfg : CollectorConfig} {session : Session}
    {answers : Answers} {result : Option VMIResult} :
    (session.scrape cfg answers).result = .ok result ↔
      session.vm.closed = false ∧ session.clientClosed = false ∧
        ∃ rows, answers.counters = .counters rows ∧
          VMState.resultOf cfg session.vm
            (session.vm.disksOf answers rows).disks = result := by
  unfold scrape VMState.scrapeVM
  cases session.vm.closed with
  | true => simp
  | false =>
      cases session.clientClosed with
      | true => simp
      | false =>
          cases answers.counters with
          | failed error closed => simp
          | counters rows => simp

theorem entry_iff (cfg : CollectorConfig) {session : Session}
    {answers : Answers} {drive label : String} :
    (∃ result, (session.scrape cfg answers).result = .ok (some result) ∧
      ∃ entry ∈ result.disks, entry.metrics.name = drive ∧
        entry.disk = label) ↔
      session.Reports answers drive ∧
        label = (volumeOf (session.vm.mapDisks answers).1 drive).getD "" := by
  constructor
  · rintro ⟨result, scraped, entry, member, rfl, rfl⟩
    obtain ⟨opened, clientOpen, rows, answered, made⟩ := scrape_ok_iff.mp scraped
    rw [VMState.resultOf_disks made] at member
    have labelled : (entry.metrics.name, entry.disk) ∈
        (session.vm.disksOf answers rows).driveLabels :=
      List.mem_map_of_mem member
    rw [VMState.disksOf_driveLabels] at labelled
    obtain ⟨name, reported, same⟩ := List.mem_map.mp labelled
    obtain ⟨rfl, label⟩ := Prod.mk.inj same
    exact ⟨⟨opened, clientOpen, rows, answered, reported⟩, label.symm⟩
  · rintro ⟨⟨opened, clientOpen, rows, answered, reported⟩, rfl⟩
    have labelled : (drive,
        (volumeOf (session.vm.mapDisks answers).1 drive).getD "") ∈
          (session.vm.disksOf answers rows).driveLabels := by
      rw [VMState.disksOf_driveLabels]
      exact List.mem_map_of_mem reported
    obtain ⟨entry, member, same⟩ := List.mem_map.mp labelled
    obtain ⟨name, label⟩ := Prod.mk.inj same
    have made := VMState.resultOf_of_mem cfg session.vm member
    exact ⟨_, scrape_ok_iff.mpr ⟨opened, clientOpen, rows, answered, made⟩,
      entry, member, name, label⟩

end Session

theorem volumeOf_eq_some {diskMap : Option (Table Int String)}
    {drive volName : String} :
    volumeOf diskMap drive = some volName ↔
      ∃ index, parseDiskIndex drive = some index ∧
        ∃ table, diskMap = some table ∧ table.lookup index = some volName := by
  simp only [volumeOf, Option.bind_eq_some_iff]

namespace Tracked

/-- Every label of the scrape is the volume that backs the drive at its time, and
a drive without an entry in the mapping has none. -/
def LabelsBacked (cfg : CollectorConfig) (t : Tracked) : Event → Prop
  | .dial _ _ => True
  | .scrape input =>
      ∀ result, (t.session.scrape cfg input.answers).result = .ok (some result) →
        ∀ entry ∈ result.disks,
          (entry.disk ≠ "" → ∃ index,
            parseDiskIndex entry.metrics.name = some index ∧
              input.machine.backing index = some entry.disk) ∧
          (volumeOf (t.session.vm.mapDisks input.answers).1
            entry.metrics.name = none → entry.disk = "")

/-- The drives that are reported under a mapping from an earlier scrape are still
backed by what backed them then. -/
def DrivesKept (t : Tracked) : Event → Prop
  | .dial _ _ => True
  | .scrape input =>
      ∀ diskMap machine, t.session.vm.diskMap = some diskMap →
        t.mappedAt = some machine →
          ∀ drive index, t.session.Reports input.answers drive →
            parseDiskIndex drive = some index → index ∈ diskMap →
              input.machine.backing index = machine.backing index

/-- The mapping was right when it was built. -/
def Sound (t : Tracked) : Prop :=
  ∀ diskMap, t.session.vm.diskMap = some diskMap → ∃ machine,
    t.mappedAt = some machine ∧ ∀ index volName,
      diskMap.lookup index = some volName →
        machine.backing index = some volName ∧ volName ≠ ""

variable {cfg : CollectorConfig} {pod : PodInfo} {t : Tracked}

theorem Sound.dial (pod : PodInfo) (fetch : FetchReply) (client : Nat) :
    (Tracked.dial pod fetch client).Sound := by
  intro diskMap mapped
  cases mapped

theorem Sound.scrape (sound : t.Sound) {input : ScrapeInput}
    (describes : Describes input.machine input.mapping)
    (serials : OwnSerials input.machine input.mapping) :
    (t.step cfg pod (.scrape input)).Sound := by
  intro diskMap mapped
  rcases Session.next_diskMap mapped with cached | ⟨unset, built⟩
  · obtain ⟨machine, mappedAt, right⟩ := sound diskMap cached
    refine ⟨machine, ?_, right⟩
    simp [step, cached, mappedAt]
  · refine ⟨input.machine, ?_, fun index volName found =>
      backing_of_built describes serials built found⟩
    simp [step, unset]

section Labels

variable {input : ScrapeInput}

theorem drivesKept_of_labelsBacked (sound : t.Sound)
    (backed : t.LabelsBacked cfg (.scrape input)) :
    t.DrivesKept (.scrape input) := by
  intro diskMap machine cached mappedAt drive index reports parsed mapped
  obtain ⟨volName, found⟩ := Finmap.mem_iff.mp mapped
  obtain ⟨machine', mappedAt', right⟩ := sound diskMap cached
  obtain rfl := Option.some.inj (mappedAt.symm.trans mappedAt')
  obtain ⟨before, named⟩ := right index volName found
  have inUse : (t.session.vm.mapDisks input.answers).1 = some diskMap := by
    rw [VMState.mapDisks, cached]
    rfl
  have volume : volumeOf (t.session.vm.mapDisks input.answers).1 drive =
      some volName :=
    volumeOf_eq_some.mpr ⟨index, parsed, diskMap, inUse, found⟩
  obtain ⟨result, scraped, entry, member, rfl, label⟩ :=
    (Session.entry_iff cfg).mpr ⟨reports, rfl⟩
  rw [volume, Option.getD_some] at label
  obtain ⟨index', parsed', now⟩ :=
    (backed result scraped entry member).1 (by rw [label]; exact named)
  obtain rfl := Option.some.inj (parsed.symm.trans parsed')
  rw [now, label, before]

theorem labelsBacked_of_drivesKept (sound : t.Sound)
    (describes : Describes input.machine input.mapping)
    (serials : OwnSerials input.machine input.mapping)
    (kept : t.DrivesKept (.scrape input)) :
    t.LabelsBacked cfg (.scrape input) := by
  intro result scraped entry member
  obtain ⟨reports, label⟩ :=
    (Session.entry_iff cfg).mp ⟨result, scraped, entry, member, rfl, rfl⟩
  refine ⟨fun named => ?_, fun unmapped => by rw [label, unmapped]; rfl⟩
  cases volume : volumeOf (t.session.vm.mapDisks input.answers).1
      entry.metrics.name with
  | none =>
      rw [volume] at label
      exact absurd label named
  | some volName =>
      rw [volume, Option.getD_some] at label
      obtain ⟨index, parsed, diskMap, inUse, found⟩ := volumeOf_eq_some.mp volume
      refine ⟨index, parsed, ?_⟩
      rw [label]
      -- the mapping in use is an old one, or has just been built
      rcases VMState.mapDisks_some inUse with cached | ⟨-, built⟩
      · obtain ⟨machine, mappedAt, right⟩ := sound diskMap cached
        rw [kept diskMap machine cached mappedAt _ index reports parsed
          (Finmap.mem_of_lookup_eq_some found)]
        exact (right index volName found).1
      · exact (backing_of_built describes serials built found).1

end Labels

theorem run_sound (cfg : CollectorConfig) (pod : PodInfo) (fetch : FetchReply)
    (client : Nat) {history : List Event}
    (describes : ∀ input, .scrape input ∈ history →
      Describes input.machine input.mapping)
    (serials : ∀ input, .scrape input ∈ history →
      OwnSerials input.machine input.mapping) :
    (run cfg pod fetch client history).Sound := by
  induction history using List.reverseRecOn with
  | nil => exact Sound.dial pod fetch client
  | append_singleton history event induction =>
      rw [run, stateAfter_append_singleton]
      cases event with
      | dial fetch client => exact Sound.dial pod fetch client
      | scrape input =>
          refine Sound.scrape (induction ?_ ?_) (describes input (by simp))
            (serials input (by simp))
          · exact fun other member =>
              describes other (List.mem_append_left _ member)
          · exact fun other member =>
              serials other (List.mem_append_left _ member)

/-- The mapping is built once and does not follow the disks: the labels of a run
are right exactly as long as the drives it covers keep their volumes. -/
theorem drive_labels_backed_iff (cfg : CollectorConfig) (pod : PodInfo)
    (fetch : FetchReply) (client : Nat) (history : List Event)
    (describes : ∀ input, .scrape input ∈ history →
      Describes input.machine input.mapping)
    (serials : ∀ input, .scrape input ∈ history →
      OwnSerials input.machine input.mapping) :
    Throughout (fun before event =>
      (run cfg pod fetch client before).LabelsBacked cfg event) history ↔
    Throughout (fun before event =>
      (run cfg pod fetch client before).DrivesKept event) history := by
  have sound : ∀ before event after, history = before ++ event :: after →
      (run cfg pod fetch client before).Sound := by
    rintro before event after rfl
    exact run_sound cfg pod fetch client
      (fun input member => describes input (List.mem_append_left _ member))
      (fun input member => serials input (List.mem_append_left _ member))
  constructor
  · intro backed before event after split
    cases event with
    | dial fetch client => trivial
    | scrape input =>
        exact drivesKept_of_labelsBacked (sound _ _ _ split)
          (backed _ _ _ split)
  · intro kept before event after split
    cases event with
    | dial fetch client => trivial
    | scrape input =>
        have scraped : .scrape input ∈ history := by simp [split]
        exact labelsBacked_of_drivesKept (sound _ _ _ split)
          (describes input scraped) (serials input scraped) (kept _ _ _ split)

/-! A machine with a root disk and a second disk, scraped twice. -/

def virtioDisk (index : Int) (volume : String) (bus : Int) : AttachedDisk :=
  ⟨index, some volume, ⟨⟨0, bus, 0, 0⟩, 0, 0, 0⟩, ""⟩

def twoDisks (second : String) : Machine where
  disks := [virtioDisk 0 "rootdisk" 10, virtioDisk 1 second 11]
  indices := by simp [virtioDisk]
  locations := by simp [virtioDisk]

def pciAddress (bus : String) : XmlAddr :=
  ⟨"pci", "0x0000", bus, "0x00", "0x0", "", "", ""⟩

def virtioXml (volume bus : String) : XmlDisk :=
  ⟨"disk", "", "virtio", "ua-" ++ volume, pciAddress bus⟩

def virtioEntry (name : String) (bus : Int) : GuestDiskEntry :=
  ⟨name, some ⟨"", some ⟨0, bus, 0, 0⟩, 0, 0, 0⟩⟩

def twoDisksReplies (second : String) : MapReplies where
  disks := .ok (some [virtioEntry "\\\\.\\PhysicalDrive0" 10,
    virtioEntry "\\\\.\\PhysicalDrive1" 11])
  domain := .ok (some ⟨[virtioXml "rootdisk" "0x0a", virtioXml second "0x0b"],
    []⟩)

def twoDisksScrape (second : String) (time : UInt64) : ScrapeInput where
  machine := twoDisks second
  mapping := twoDisksReplies second
  counters := .counters [⟨"0 C:", 0, 0, time, time, time⟩,
    ⟨"1 E:", 0, 0, time, time, time⟩]
  fetch := .failed
  order := ["0 C:", "1 E:"]

theorem location_virtioXml (dom : XmlDomain) (volume : String) {bus : String}
    {addr : PCIAddr} (parsed : parseHexAddr (pciAddress bus) = some addr) :
    dom.location (virtioXml volume bus) = some ⟨addr, 0, 0, 0⟩ := by
  change (parseHexAddr (pciAddress bus)).map _ = _
  rw [parsed]
  rfl

theorem twoDisks_describes {second : String}
    (named : (virtioXml second "0x0b").volName = some second) :
    Describes (twoDisks second) (twoDisksReplies second) := by
  intro resp domain listedDisks listedDomain
  obtain rfl := Option.some.inj (Reply.ok.inj listedDisks)
  obtain rfl := Option.some.inj (Reply.ok.inj listedDomain)
  constructor
  · intro d listed volName isNamed
    simp only [List.mem_cons, List.not_mem_nil, or_false] at listed
    rcases listed with rfl | rfl
    · have root : (virtioXml "rootdisk" "0x0a").volName = some "rootdisk" := by
        decide +kernel
      obtain rfl := Option.some.inj (root.symm.trans isNamed)
      refine ⟨virtioDisk 0 "rootdisk" 10, by simp [twoDisks], rfl, ?_,
        fun given => absurd rfl given⟩
      intro location found
      have parsed : parseHexAddr (pciAddress "0x0a") = some ⟨0, 10, 0, 0⟩ := by
        decide +kernel
      rw [location_virtioXml _ _ parsed] at found
      exact Option.some.inj found
    · obtain rfl := Option.some.inj (named.symm.trans isNamed)
      refine ⟨virtioDisk 1 second 11, by simp [twoDisks], rfl, ?_,
        fun given => absurd rfl given⟩
      intro location found
      have parsed : parseHexAddr (pciAddress "0x0b") = some ⟨0, 11, 0, 0⟩ := by
        decide +kernel
      rw [location_virtioXml _ _ parsed] at found
      exact Option.some.inj found
  · intro gd listed
    have guestDisks : parseGuestGetDisks
        [virtioEntry "\\\\.\\PhysicalDrive0" 10,
          virtioEntry "\\\\.\\PhysicalDrive1" 11] =
        [⟨0, "", ⟨⟨0, 10, 0, 0⟩, 0, 0, 0⟩⟩, ⟨1, "", ⟨⟨0, 11, 0, 0⟩, 0, 0, 0⟩⟩] := by
      decide +kernel
    rw [guestDisks] at listed
    simp only [List.mem_cons, List.not_mem_nil, or_false] at listed
    rcases listed with rfl | rfl
    · exact ⟨virtioDisk 0 "rootdisk" 10, by simp [twoDisks], rfl, .inl rfl,
        fun given => absurd rfl given⟩
    · exact ⟨virtioDisk 1 second 11, by simp [twoDisks], rfl, .inl rfl,
        fun given => absurd rfl given⟩

theorem twoDisks_serialsDiffer (second : String) :
    (twoDisks second).SerialsDiffer := by
  intro disk attached other _ _ given
  simp only [twoDisks, List.mem_cons, List.not_mem_nil, or_false] at attached
  rcases attached with rfl | rfl
  · exact absurd rfl given
  · exact absurd rfl given

def vmPod : PodInfo := ⟨"tenant-a", "virt-launcher-vm", "vm"⟩

def windowsConfig : CollectorConfig := ⟨"node-1", 60 * 10 ^ 9, 3, [], ""⟩

/-- The second disk is `second` at the first scrape and `later` at the next. -/
def twoScrapes (second later : String) : List Event :=
  [.scrape (twoDisksScrape second 1), .scrape (twoDisksScrape later 11)]

theorem twoScrapes_describes {second later : String}
    (named : (virtioXml second "0x0b").volName = some second)
    (named' : (virtioXml later "0x0b").volName = some later) :
    ∀ input, .scrape input ∈ twoScrapes second later →
      Describes input.machine input.mapping ∧ input.machine.SerialsDiffer := by
  intro input member
  simp only [twoScrapes, List.mem_cons, Event.scrape.injEq, List.not_mem_nil,
    or_false] at member
  rcases member with rfl | rfl
  · exact ⟨twoDisks_describes named, twoDisks_serialsDiffer second⟩
  · exact ⟨twoDisks_describes named', twoDisks_serialsDiffer later⟩

theorem kept_disk_is_labelled :
    Throughout (fun before event =>
      (run windowsConfig vmPod .failed 0 before).LabelsBacked windowsConfig
        event) (twoScrapes "data" "data") := by
  have named : (virtioXml "data" "0x0b").volName = some "data" := by
    decide +kernel
  have described := twoScrapes_describes named named
  refine (drive_labels_backed_iff windowsConfig vmPod .failed 0 _
    (fun input member => (described input member).1)
    (fun input member => ownSerials_of_differ (described input member).1
      (described input member).2)).mpr ?_
  refine (throughout_append_singleton _ [_] _).mpr
    ⟨(throughout_append_singleton _ [] _).mpr ⟨throughout_nil _, ?_⟩, ?_⟩
  · intro diskMap machine cached
    cases cached
  · intro diskMap machine _ mappedAt drive index _ _ _
    obtain rfl := Option.some.inj mappedAt
    rfl

/-- Between the scrapes `data` is unplugged and `backup` is plugged, which Windows
numbers as drive 1 again. -/
theorem reused_drive_is_mislabelled :
    (∀ input, .scrape input ∈ twoScrapes "data" "backup" →
      Describes input.machine input.mapping ∧ input.machine.SerialsDiffer) ∧
    (twoDisksScrape "backup" 11).machine.backing 1 = some "backup" ∧
    (∃ result, ((run windowsConfig vmPod .failed 0
        [.scrape (twoDisksScrape "data" 1)]).session.scrape windowsConfig
      (twoDisksScrape "backup" 11).answers).result = .ok (some result) ∧
        ∃ entry ∈ result.disks, entry.metrics.name = "1 E:" ∧
          entry.disk = "data") ∧
    ¬ Throughout (fun before event =>
      (run windowsConfig vmPod .failed 0 before).LabelsBacked windowsConfig
        event) (twoScrapes "data" "backup") := by
  have mislabelled : ∃ result, ((run windowsConfig vmPod .failed 0
      [.scrape (twoDisksScrape "data" 1)]).session.scrape windowsConfig
        (twoDisksScrape "backup" 11).answers).result = .ok (some result) ∧
      ∃ entry ∈ result.disks, entry.metrics.name = "1 E:" ∧
        entry.disk = "data" := by
    refine (Session.entry_iff windowsConfig).mpr ⟨⟨?_, ?_, _, rfl, ?_⟩, ?_⟩
    · decide +kernel
    · decide +kernel
    · decide +kernel
    · decide +kernel
  refine ⟨twoScrapes_describes (by decide +kernel) (by decide +kernel), rfl,
    mislabelled, ?_⟩
  intro backed
  obtain ⟨result, scraped, entry, member, name, label⟩ := mislabelled
  obtain ⟨index, parsed, now⟩ := (backed [_] _ [] rfl result scraped entry
    member).1 (by rw [label]; decide)
  have one : parseDiskIndex "1 E:" = some 1 := by decide
  rw [name, one] at parsed
  obtain rfl := Option.some.inj parsed
  rw [label] at now
  exact absurd (Option.some.inj now) (by decide)

end Tracked

end KubevirtMetrics.Qga
