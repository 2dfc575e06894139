import KubevirtMetrics.Data.Run
import KubevirtMetrics.Ebpf.Collector

namespace KubevirtMetrics.Ebpf

open Data Prometheus Device Cluster
open Bpf (Hist HistKey Latency zeroHist observe)

/-! Whose operations a collection reports.  The tracer, the resolver and the
collector share no clock: devices come and go on the host, the tracer counts by
device number, and a collection names a device by the last scan. -/

structure Volume where
  namespace_ : String
  pvcName : String
  podName : String
  deriving DecidableEq

def DeviceInfo.volume (info : DeviceInfo) : Volume :=
  ⟨info.namespace_, info.pvcName, info.podName⟩

/-- What is mounted on the node, and the pods and claims that there are, whatever
the exporter reads of it. -/
structure Node where
  mounts : List MountEntry
  /-- The device behind the path of a block-mode volume. -/
  blockDevice : String → Option UInt32
  pods : List Pod
  claims : List PersistentVolumeClaim

namespace Node

def device (node : Node) (m : MountEntry) (isBlock : Bool) : Option UInt32 :=
  if isBlock then node.blockDevice m.mountPoint else some (mkDev m.major m.minor)

/-- The names of the claims on a volume in one namespace or, if there are none, the
name of the volume. -/
def volumeNames (node : Node) (namespace_ pvName : String) : List String :=
  match node.claims.filter fun claim =>
      claim.namespace_ = namespace_ ∧ claim.volumeName = pvName with
  | [] => [pvName]
  | own => own.map PersistentVolumeClaim.name

/-- The volumes that a device belongs to. -/
def owners (node : Node) (dev : UInt32) : List Volume :=
  node.mounts.flatMap fun m =>
    match parseKubeletPath m.mountPoint with
    | none => []
    | some (podUID, pvName, isBlock) =>
        if node.device m isBlock = some dev then
          (node.pods.filter fun pod => pod.uid = podUID).flatMap fun pod =>
            (node.volumeNames pod.namespace_ pvName).map fun name =>
              ⟨pod.namespace_, name, pod.name⟩
        else []

end Node

inductive Event
  /-- A block operation of the key's device completes and is recorded. -/
  | complete (key : HistKey) (latency : Latency)
  /-- Volumes are attached or detached, pods and claims come or go, and what the
  exporter can read of it changes. -/
  | change (node : Node) (host : Host)
  | scan
  | evictHist (key : HistKey)
  | collect (visited : Visited)

structure World where
  node : Node
  host : Host
  resolver : Resolver
  hists : Table HistKey Hist

namespace World

def step (world : World) : Event → World
  | .complete key latency =>
      { world with hists := observe world.hists key latency.slot }
  | .change node host => { world with node := node, host := host }
  | .scan => { world with resolver := world.resolver.scan world.host }
  | .evictHist key => { world with hists := world.hists.erase key }
  | .collect _ => world

def run (world : World) (history : List Event) : World :=
  stateAfter step world history

@[simp] theorem run_append_singleton (world : World) (history : List Event)
    (event : Event) :
    world.run (history ++ [event]) = (world.run history).step event :=
  stateAfter_append_singleton step world history event

def completed? (world : World) : Event → Option (Node × HistKey)
  | .complete key _ => some (world.node, key)
  | _ => none

def completions (world : World) : List Event → List (Node × HistKey)
  | [] => []
  | event :: history =>
      (world.completed? event).toList ++ (world.step event).completions history

theorem completions_append_singleton (world : World) (history : List Event)
    (event : Event) :
    world.completions (history ++ [event]) =
      world.completions history ++
        ((world.run history).completed? event).toList := by
  induction history generalizing world with
  | nil => simp [completions, run]
  | cons first history induction =>
      simp only [List.cons_append, completions, induction, List.append_assoc]
      rfl

/-- What a scan reads, if it can read the mount table. -/
def scanned? (world : World) : Event → Option (Host × List MountEntry)
  | .scan =>
      match parseMountInfo world.host.mountInfo with
      | .ok mounts => some (world.host, mounts)
      | .error _ => none
  | _ => none

def lastScan (world : World) : List Event → Option (Host × List MountEntry)
  | [] => none
  | event :: history =>
      ((world.step event).lastScan history).or (world.scanned? event)

theorem lastScan_append_singleton (world : World) (history : List Event)
    (event : Event) :
    world.lastScan (history ++ [event]) =
      ((world.run history).scanned? event).or (world.lastScan history) := by
  induction history generalizing world with
  | nil => simp [lastScan, run]
  | cons first history induction =>
      simp only [List.cons_append, lastScan, induction, Option.or_assoc]
      rfl

theorem resolver_step (world : World) (event : Event) :
    (world.step event).resolver =
      (world.scanned? event).elim world.resolver fun read =>
        world.resolver.withMounts read.1 read.2 := by
  cases event with
  | scan =>
      simp only [step, Resolver.scan, scanned?]
      cases parseMountInfo world.host.mountInfo <;> rfl
  | complete key latency => rfl
  | change node host => rfl
  | evictHist key => rfl
  | collect visited => rfl

theorem resolver_run (world : World) (history : List Event) :
    (world.run history).resolver =
      (world.lastScan history).elim world.resolver fun read =>
        world.resolver.withMounts read.1 read.2 := by
  induction history using List.reverseRecOn with
  | nil => rfl
  | append_singleton history event induction =>
      rw [run_append_singleton, resolver_step, lastScan_append_singleton,
        induction]
      cases (world.run history).scanned? event with
      | none => rfl
      | some read => cases world.lastScan history <;> rfl

/-- The labels of a device: the last mount on it that the last scan has read, the
pod there and the first claim on the volume. -/
def Labels (world : World) (history : List Event) (dev : UInt32)
    (volume : Volume) : Prop :=
  ∃ read, world.lastScan history = some read ∧
    ∃ pvName pod, world.resolver.LastOn read.1 read.2 dev pvName pod ∧
      volume.namespace_ = pod.namespace_ ∧ volume.podName = pod.name ∧
        volume.pvcName =
          (claimOn read.1 pvName).elim pvName PersistentVolumeClaim.name

end World

/-! ### Counting -/

def total (hist : Hist) : Nat := ∑ i, (hist.slots i).toNat

theorem total_increment (hist : Hist) (slot : Fin Bpf.maxSlots)
    (room : total hist + 1 < 2 ^ 64) :
    total (hist.increment slot) = total hist + 1 := by
  have slotLe : ∀ i, (hist.slots i).toNat ≤ total hist := fun i =>
    Finset.single_le_sum (f := fun i => (hist.slots i).toNat)
      (fun _ _ => Nat.zero_le _) (Finset.mem_univ i)
  have each : ∀ i, ((hist.increment slot).slots i).toNat =
      (hist.slots i).toNat + if slot = i then 1 else 0 := fun i =>
    Bpf.increment_toNat hist slot i (by have := slotLe i; omega)
  simp only [total, each, Finset.sum_add_distrib, Finset.sum_ite_eq,
    Finset.mem_univ, if_true]

theorem count_toNat (hist : Hist) (buckets : List ℚ)
    (few : total hist < 2 ^ 64) :
    (slotsToConstHistogram hist.slots buckets).count.toNat = total hist := by
  have counted := slotTotals_cumulative hist.slots
  rw [← slotTotals_count] at counted
  exact counted.trans (Nat.mod_eq_of_lt few)

/-- Without evictions the maps count completions: one entry for each key that
had any, with one sample for each of them. -/
structure Counts (hists : Table HistKey Hist)
    (completions : List (Node × HistKey)) : Prop where
  mem_iff : ∀ key, key ∈ hists ↔ ∃ node, (node, key) ∈ completions
  totals : ∀ key, total (hists.getD key zeroHist) =
    completions.countP fun completed => completed.2 = key

theorem Counts.observe {hists : Table HistKey Hist}
    {completions : List (Node × HistKey)} (counts : Counts hists completions)
    (few : completions.length + 1 < 2 ^ 64) (node : Node) (key : HistKey)
    (slot : Fin Bpf.maxSlots) :
    Counts (Bpf.observe hists key slot) (completions ++ [(node, key)]) where
  mem_iff other := by
    rw [Bpf.observe_eq, Finmap.mem_insert, counts.mem_iff]
    simp only [List.mem_append, List.mem_singleton, Prod.mk.injEq, exists_or,
      exists_eq_left]
    exact or_comm
  totals other := by
    have bound := List.countP_le_length
      (p := fun completed : Node × HistKey => decide (completed.2 = other))
      (l := completions)
    rw [Bpf.observe_eq, List.countP_append, ← counts.totals other]
    by_cases same : other = key
    · subst same
      rw [Table.getD_insert_self, total_increment]
      · simp
      · rw [counts.totals]
        omega
    · rw [Table.getD_insert_of_ne _ same]
      simp [Ne.symm same]

theorem Counts.step {world : World} {completions : List (Node × HistKey)}
    (counts : Counts world.hists completions) (event : Event)
    (kept : ∀ key, event ≠ .evictHist key)
    (few : (completions ++ (world.completed? event).toList).length < 2 ^ 64) :
    Counts (world.step event).hists
      (completions ++ (world.completed? event).toList) := by
  cases event with
  | complete key latency =>
      exact counts.observe (by simpa [World.completed?] using few) world.node
        key latency.slot
  | evictHist key => exact absurd rfl (kept key)
  | change node host => simpa [World.completed?, World.step] using counts
  | scan => simpa [World.completed?, World.step] using counts
  | collect visited => simpa [World.completed?, World.step] using counts

theorem counts_run (world : World) (fresh : world.hists = ∅)
    (history : List Event) (kept : ∀ key, Event.evictHist key ∉ history)
    (few : (world.completions history).length < 2 ^ 64) :
    Counts (world.run history).hists (world.completions history) := by
  induction history using List.reverseRecOn with
  | nil =>
      refine ⟨fun key => ?_, fun key => ?_⟩
      · simp [World.run, fresh, World.completions, Finmap.notMem_empty]
      · simp [World.run, fresh, World.completions, total, zeroHist]
  | append_singleton history event induction =>
      rw [World.completions_append_singleton] at few ⊢
      have counts := induction
        (fun key member => kept key (List.mem_append_left _ member))
        (by rw [List.length_append] at few; omega)
      rw [World.run_append_singleton]
      refine counts.step event ?_ few
      rintro key rfl
      exact kept key (by simp)

/-! ### What a collection reports -/

def samples (metric : Metric Desc) : Nat :=
  match metric.value with
  | .histogram histogram => histogram.count.toNat
  | _ => 0

def reported (metrics : List (Metric Desc)) (series : Desc × List String) :
    Nat :=
  ((metrics.filter fun metric => metric.series = series).map samples).sum

theorem reported_filterMap {α : Type} (f : α → Option (Metric Desc))
    (sources : List α) (series : Desc × List String) :
    reported (sources.filterMap f) series =
      (sources.map fun source => (f source).elim 0 fun metric =>
        if metric.series = series then samples metric else 0).sum := by
  induction sources with
  | nil => rfl
  | cons source sources induction =>
      rw [List.map_cons, List.sum_cons, ← induction]
      cases found : f source with
      | none => rw [List.filterMap_cons_none found]; simp
      | some metric =>
          rw [List.filterMap_cons_some found]
          by_cases same : metric.series = series <;>
            simp [reported, same]

namespace Collector

variable (c : Collector) (resolver : Resolver)

def volumeSeries (volume : Volume) (op : UInt8) : Desc × List String :=
  (.podBlock, [c.nodeName, volume.namespace_, volume.pvcName, volume.podName,
    blockMap.opLabel op])

def volumeOf (dev : UInt32) : Option Volume :=
  (resolver.lookup dev).map DeviceInfo.volume

theorem volumeOf_run_iff {world : World} (fresh : world.resolver.devices = ∅)
    (history : List Event) (dev : UInt32) (volume : Volume) :
    volumeOf (world.run history).resolver dev = some volume ↔
      world.Labels history dev volume := by
  rw [World.resolver_run]
  unfold World.Labels volumeOf Resolver.lookup
  cases world.lastScan history with
  | none => simp [fresh]
  | some read =>
      simp only [← resolvePVCName_eq, Option.map_eq_some_iff,
        Option.some.injEq, exists_eq_left']
      refine Iff.trans ?_ (world.resolver.exists_lookup_deviceMap_iff read.1
        read.2 dev fun ns pod claim => volume.namespace_ = ns ∧
          volume.podName = pod ∧ volume.pvcName = claim)
      apply exists_congr
      intro info
      apply and_congr_right
      intro _
      constructor
      · rintro rfl
        exact ⟨rfl, rfl, rfl⟩
      · rintro ⟨ns, pod, claim⟩
        cases volume
        simp_all [DeviceInfo.volume]

theorem seriesOf_eq_volumeSeries_iff {key : HistKey} {volume : Volume}
    {op : UInt8} (known : key.op ≤ 3) (known' : op ≤ 3) :
    c.seriesOf resolver blockMap key = c.volumeSeries volume op ↔
      key.op = op ∧ volumeOf resolver key.dev = some volume := by
  have labelIff : blockMap.opLabel key.op = blockMap.opLabel op ↔
      key.op = op :=
    ⟨blockMap_faithful.labels _ _ known known', fun same => by rw [same]⟩
  unfold volumeOf volumeSeries
  cases found : resolver.lookup key.dev with
  | some info =>
      obtain ⟨ns, claim, pod⟩ := volume
      rw [seriesOf_of_some c resolver found]
      simp only [Prod.mk.injEq, List.cons.injEq, labelIff, true_and, and_true,
        Option.map_some, Option.some.injEq, DeviceInfo.volume, Volume.mk.injEq]
      exact ⟨fun ⟨_, h1, h2, h3, h4⟩ => ⟨h4, h1, h2, h3⟩,
        fun ⟨h4, h1, h2, h3⟩ => ⟨rfl, h1, h2, h3, h4⟩⟩
  | none =>
      rw [seriesOf_of_none c resolver found]
      simp [blockMap]

theorem collectEntry_contribution (entry : HistKey × Hist) {volume : Volume}
    {op : UInt8} (known : op ≤ 3)
    (allowed : c.namespaceAllowed volume.namespace_ = true) :
    ((c.collectEntry resolver blockMap entry).elim 0 fun metric =>
        if metric.series = c.volumeSeries volume op then samples metric else 0) =
      if entry.1.op = op ∧ volumeOf resolver entry.1.dev = some volume then
        (slotsToConstHistogram entry.2.slots c.buckets).count.toNat
      else 0 := by
  rw [collectEntry_eq]
  by_cases exported : c.Exports resolver blockMap entry
  · rw [if_pos exported]
    have seriesIff : c.seriesOf resolver blockMap entry.1 =
        c.volumeSeries volume op ↔
          entry.1.op = op ∧ volumeOf resolver entry.1.dev = some volume :=
      c.seriesOf_eq_volumeSeries_iff resolver exported.1 known
    simp only [Option.elim_some, Metric.series, Prod.mk.eta, seriesIff, samples]
  · rw [if_neg exported, Option.elim_none]
    split
    next here =>
      obtain ⟨rfl, owner⟩ := here
      obtain ⟨info, found, rfl⟩ := Option.map_eq_some_iff.mp owner
      have reports : c.Reports resolver blockMap entry.1.dev = true := by
        simp only [Reports, found]
        exact allowed
      by_contra counted
      refine exported ⟨known, fun empty => counted ?_, reports⟩
      rw [empty]
      rfl
    next => rfl

/-- Under the labels of each volume of an allowed namespace, and of each operation,
as many samples are reported as operations completed on a device while the device
belonged to that volume. -/
def ReportsOwnOperations (world : World) (before : List Event)
    (visited : Visited) : Prop :=
  ∀ volume op, op ≤ 3 → c.namespaceAllowed volume.namespace_ = true →
    reported (c.collectBlock (world.run before).resolver visited)
        (c.volumeSeries volume op) =
      (world.completions before).countP fun completed =>
        completed.2.op = op ∧ volume ∈ completed.1.owners completed.2.dev

end Collector

/-- The collection sees each entry of the map once, no entry was evicted and no
counter can have wrapped; and each device with completed operations belonged, at
each of them, exactly to the volume that the last scan has labels for. -/
structure Undisturbed (world : World) (before : List Event)
    (visited : Visited) : Prop where
  kept : ∀ key, Event.evictHist key ∉ before
  few : (world.completions before).length < 2 ^ 64
  enumerates : Table.Enumerates (visited.map Prod.fst) (world.run before).hists
  current : ∀ entry ∈ visited,
    (world.run before).hists.lookup entry.1 = some entry.2
  owned : ∀ completed ∈ world.completions before, ∀ volume,
    volume ∈ completed.1.owners completed.2.dev ↔
      world.Labels before completed.2.dev volume

theorem Undisturbed.count_eq {world : World} {before : List Event}
    {visited : Visited} (undisturbed : Undisturbed world before visited)
    (fresh : world.hists = ∅) {entry : HistKey × Hist}
    (member : entry ∈ visited) (buckets : List ℚ) :
    (slotsToConstHistogram entry.2.slots buckets).count.toNat =
      (world.completions before).countP fun completed =>
        completed.2 = entry.1 := by
  have counts := counts_run world fresh before undisturbed.kept undisturbed.few
  have counted := counts.totals entry.1
  have bound := List.countP_le_length
    (p := fun completed : Node × HistKey => decide (completed.2 = entry.1))
    (l := world.completions before)
  have few := undisturbed.few
  rw [Table.getD, undisturbed.current entry member, Option.getD_some] at counted
  rw [count_toNat _ _ (by omega), counted]

theorem reports_own_operations (c : Collector) (world : World)
    (fresh : world.hists = ∅) (unscanned : world.resolver.devices = ∅)
    (before : List Event) (visited : Visited)
    (undisturbed : Undisturbed world before visited) :
    c.ReportsOwnOperations world before visited := by
  intro volume op known allowed
  have counts := counts_run world fresh before undisturbed.kept undisturbed.few
  let resolver := (world.run before).resolver
  calc reported (c.collectBlock resolver visited) (c.volumeSeries volume op)
      = (visited.map fun entry =>
          if entry.1.op = op ∧
              Collector.volumeOf resolver entry.1.dev = some volume then
            (world.completions before).countP fun completed =>
              completed.2 = entry.1
          else 0).sum := by
        rw [Collector.collectBlock, Collector.collectMap, reported_filterMap]
        refine congrArg List.sum (List.map_congr_left fun entry member => ?_)
        rw [c.collectEntry_contribution resolver entry known allowed,
          undisturbed.count_eq fresh member]
    _ = ∑ key ∈ (visited.map Prod.fst).toFinset,
          if key.op = op ∧
              Collector.volumeOf resolver key.dev = some volume then
            (world.completions before).countP fun completed =>
              completed.2 = key
          else 0 := by
        rw [List.sum_toFinset _ undisturbed.enumerates.nodup, List.map_map]
        rfl
    _ = (world.completions before).countP fun completed =>
          completed.2.op = op ∧
            Collector.volumeOf resolver completed.2.dev = some volume := by
        apply sum_countP_fibers
        rintro ⟨node, key⟩ member -
        rw [List.mem_toFinset, undisturbed.enumerates.mem_iff, counts.mem_iff]
        exact ⟨node, member⟩
    _ = _ := by
        refine List.countP_congr fun completed member => ?_
        simp only [decide_eq_true_eq]
        rw [undisturbed.owned completed member volume,
          Collector.volumeOf_run_iff unscanned]

/-! A device is the volume of tenant-a's pod, and then that of tenant-b's. -/

def claimA : PersistentVolumeClaim := ⟨"data", "tenant-a", "pv-a"⟩

def claimB : PersistentVolumeClaim := ⟨"data", "tenant-b", "pv-b"⟩

def attachedNode (pod : Pod) (claim : PersistentVolumeClaim) : Node where
  mounts := [{
    mountID := 100
    parentID := 50
    major := 253
    minor := 3
    root := "/"
    mountPoint := "/pods/" ++ pod.uid ++ "/volumes/kubernetes.io~csi/" ++
      claim.volumeName ++ "/mount"
    fsType := "xfs"
    source := "/dev/dm-3" }]
  blockDevice _ := none
  pods := [Resolver.podA, Resolver.podB]
  claims := [claimA, claimB]

def attachedHost (pod : Pod) (claim : PersistentVolumeClaim) : Host where
  mountInfo := some ("100 50 253:3 / /pods/" ++ pod.uid ++
    "/volumes/kubernetes.io~csi/" ++ claim.volumeName ++
      "/mount rw - xfs /dev/dm-3 rw\n").toList
  stat _ := none
  podStore := some [Resolver.podA, Resolver.podB]
  pvcIndexer := some fun pvName =>
    some ([claimA, claimB].filter fun pvc => pvName ∈ pvcByPVIndexFunc pvc)

/-- The exporter reads what is mounted, and the pods and claims that there are. -/
structure Node.Shown (node : Node) (host : Host) : Prop where
  mounts : parseMountInfo host.mountInfo = .ok node.mounts
  pods : host.podStore = some node.pods
  claims : ∃ byIndex, host.pvcIndexer = some byIndex ∧ Serves byIndex node.claims

theorem shown_attachedNodeA :
    (attachedNode Resolver.podA claimA).Shown (attachedHost Resolver.podA claimA) where
  mounts := by decide +kernel
  pods := rfl
  claims := ⟨_, rfl, fun pvName items served =>
    Option.some.inj served ▸ List.Perm.refl _⟩

theorem shown_attachedNodeB :
    (attachedNode Resolver.podB claimB).Shown (attachedHost Resolver.podB claimB) where
  mounts := by decide +kernel
  pods := rfl
  claims := ⟨_, rfl, fun pvName items served =>
    Option.some.inj served ▸ List.Perm.refl _⟩

def attachedWorld : World :=
  ⟨attachedNode Resolver.podA claimA, attachedHost Resolver.podA claimA,
    Resolver.nodeResolver, ∅⟩

def readKey : HistKey := ⟨mkDev 253 3, 0⟩

def oneMillisecond : Latency := ⟨1024000, by decide⟩

def oneVisit : Visited := [(readKey, zeroHist.increment oneMillisecond.slot)]

theorem read_is_reported_under_its_volume :
    Collector.allNamespaces.ReportsOwnOperations attachedWorld
      [.scan, .complete readKey oneMillisecond] oneVisit := by
  have hists : (attachedWorld.run
      [.scan, .complete readKey oneMillisecond]).hists =
        (∅ : Table HistKey Hist).insert readKey
          (zeroHist.increment oneMillisecond.slot) :=
    Bpf.observe_eq ∅ readKey oneMillisecond.slot
  refine reports_own_operations Collector.allNamespaces attachedWorld rfl
    rfl [.scan, .complete readKey oneMillisecond] oneVisit
    ⟨by simp, by decide, ⟨by decide, fun key => ?_⟩, ?_, ?_⟩
  · rw [hists, Finmap.mem_insert]
    simp [oneVisit, Finmap.notMem_empty]
  · rw [hists]
    simp [oneVisit]
  · intro completed member volume
    obtain rfl : completed = (attachedNode Resolver.podA claimA, readKey) := by
      simpa [World.completions, World.completed?, World.step,
        attachedWorld] using member
    have owner : (attachedNode Resolver.podA claimA).owners readKey.dev =
        [⟨"tenant-a", "data", "virt-launcher-a"⟩] := by
      decide +kernel
    have found : Collector.volumeOf (attachedWorld.run
        [.scan, .complete readKey oneMillisecond]).resolver readKey.dev =
          some ⟨"tenant-a", "data", "virt-launcher-a"⟩ := by
      decide +kernel
    rw [owner, ← Collector.volumeOf_run_iff rfl, found, List.mem_singleton,
      Option.some.injEq]
    exact eq_comm

/-- The device passes from the volume of one tenant to that of another one, under
whose labels the read of the first is then reported.  The exporter reads the node as
it is each time. -/
theorem read_is_reported_under_later_volume :
    (attachedNode Resolver.podA claimA).Shown (attachedHost Resolver.podA claimA) ∧
    (attachedNode Resolver.podB claimB).Shown (attachedHost Resolver.podB claimB) ∧
    ¬ Collector.allNamespaces.ReportsOwnOperations attachedWorld
      [.scan, .complete readKey oneMillisecond,
        .change (attachedNode Resolver.podB claimB)
          (attachedHost Resolver.podB claimB), .scan] oneVisit := by
  refine ⟨shown_attachedNodeA, shown_attachedNodeB, fun reports => ?_⟩
  have one := reports ⟨"tenant-b", "data", "virt-launcher-b"⟩ 0 (by decide)
  revert one
  decide +kernel

end KubevirtMetrics.Ebpf
