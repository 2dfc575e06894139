import KubevirtMetrics.Data.Text
import KubevirtMetrics.Prometheus.Metric
import KubevirtMetrics.Qmp.Arming
import KubevirtMetrics.Qmp.Queues

namespace KubevirtMetrics.Qmp

open Data Virt Cluster Prometheus

/-! `Collect` of `collector.go`. -/

inductive Desc
  | latency
  | scrapeErrors
  | lastPoll
  | virtqueueInuse
  | virtqueueSize
  deriving DecidableEq

def convertBuckets (hist : LatencyHist) : Table ℚ UInt64 × UInt64 :=
  hist.bins.zipIdx.foldl (fun (buckets, cumulative) (count, i) =>
    let cumulative := cumulative + count
    match hist.boundaries[i]? with
    | some boundary => (buckets.insert (boundary / 1000000000) cumulative,
        cumulative)
    | none => (buckets, cumulative)) (∅, 0)

def VMIResult.labels (vmi : VMIResult) : List String :=
  [vmi.namespace_, vmi.name, vmi.node, vmi.podName]

/-- One operation of a device.  The source goes through the operations in the
order of a map. -/
def operationMetric (vmi : VMIResult) (dev : DeviceResult) (op : String)
    (hist : Option LatencyHist) (totalNs : UInt64) : Option (Metric Desc) :=
  match hist with
  | none => none
  | some hist =>
      let (buckets, count) := convertBuckets hist
      if count = 0 then none
      else some ⟨.latency,
        .histogram ⟨count, totalNs.toNat / 1000000000, buckets⟩,
        vmi.labels ++ [dev.disk, dev.pvc, op]⟩

def deviceMetrics (vmi : VMIResult) (dev : DeviceResult) : List (Metric Desc) :=
  [("read", dev.stats.rdLatencyHistogram, dev.stats.rdTotalTimeNs),
    ("write", dev.stats.wrLatencyHistogram, dev.stats.wrTotalTimeNs),
    ("flush", dev.stats.flushLatencyHistogram,
      dev.stats.flushTotalTimeNs)].filterMap fun (op, hist, totalNs) =>
    operationMetric vmi dev op hist totalNs

def queueLabels (vmi : VMIResult) (vq : VirtqueueResult) : List String :=
  vmi.labels ++ [vq.disk, vq.pvc, toString vq.queue, vq.bus]

def queueMetrics (vmi : VMIResult) (vq : VirtqueueResult) :
    List (Metric Desc) :=
  [⟨.virtqueueInuse, .gauge vq.inuse.toNat, queueLabels vmi vq⟩,
    ⟨.virtqueueSize, .gauge vq.vringNum.toNat, queueLabels vmi vq⟩]

def vmiMetrics (vmi : VMIResult) : List (Metric Desc) :=
  vmi.devices.flatMap (deviceMetrics vmi) ++
    vmi.virtqueues.flatMap (queueMetrics vmi)

def Collector.collect (c : Collector) : List (Metric Desc) :=
  [⟨.scrapeErrors, .counter c.scrapeErrors, []⟩,
    ⟨.lastPoll, .gauge c.lastPollTS, []⟩] ++ c.results.flatMap vmiMetrics

/-! ### Series of one machine -/

theorem operationMetric_series {vmi : VMIResult} {dev : DeviceResult}
    {op : String} {hist : Option LatencyHist} {totalNs : UInt64}
    {metric : Metric Desc}
    (made : operationMetric vmi dev op hist totalNs = some metric) :
    metric.series = (.latency, vmi.labels ++ [dev.disk, dev.pvc, op]) := by
  cases hist with
  | none => cases made
  | some hist =>
      simp only [operationMetric] at made
      split at made
      next => cases made
      next => exact Option.some.inj made ▸ rfl

theorem series_of_mem_deviceMetrics {vmi : VMIResult} {dev : DeviceResult}
    {metric : Metric Desc} (member : metric ∈ deviceMetrics vmi dev) :
    ∃ op, metric.series =
      (.latency, vmi.labels ++ [dev.disk, dev.pvc, op]) := by
  obtain ⟨⟨op, hist, totalNs⟩, -, made⟩ := List.mem_filterMap.mp member
  exact ⟨op, operationMetric_series made⟩

theorem deviceMetrics_distinct (vmi : VMIResult) (dev : DeviceResult) :
    DistinctSeries (deviceMetrics vmi dev) := by
  unfold deviceMetrics
  rw [distinctSeries_filterMap]
  have operations :
      [("read", dev.stats.rdLatencyHistogram, dev.stats.rdTotalTimeNs),
        ("write", dev.stats.wrLatencyHistogram, dev.stats.wrTotalTimeNs),
        ("flush", dev.stats.flushLatencyHistogram,
          dev.stats.flushTotalTimeNs)].Pairwise fun a b => a.1 ≠ b.1 := by
    simp
  refine operations.imp fun {a b} distinct metric made other made' same => ?_
  rw [operationMetric_series made, operationMetric_series made'] at same
  simp only [Prod.mk.injEq, List.append_cancel_left_eq, List.cons.injEq,
    true_and, and_true] at same
  exact distinct same

theorem devices_distinct {vmi : VMIResult}
    (distinct : (vmi.devices.map DeviceResult.disk).Nodup) :
    DistinctSeries (vmi.devices.flatMap (deviceMetrics vmi)) := by
  rw [distinctSeries_flatMap]
  refine ⟨fun dev _ => deviceMetrics_distinct vmi dev, ?_⟩
  refine (List.pairwise_map.mp distinct).imp ?_
  intro dev other apart metric member metric' member' same
  obtain ⟨op, series⟩ := series_of_mem_deviceMetrics member
  obtain ⟨op', series'⟩ := series_of_mem_deviceMetrics member'
  rw [series, series'] at same
  simp only [Prod.mk.injEq, List.append_cancel_left_eq, List.cons.injEq]
    at same
  exact apart same.2.1

theorem queues_distinct_iff (vmi : VMIResult) :
    DistinctSeries (vmi.virtqueues.flatMap (queueMetrics vmi)) ↔
      vmi.virtqueues.Pairwise fun vq other =>
        queueLabels vmi vq ≠ queueLabels vmi other := by
  have single : ∀ vq, DistinctSeries (queueMetrics vmi vq) := by
    intro vq
    simp [distinctSeries_iff_pairwise, queueMetrics, Metric.series]
  rw [distinctSeries_flatMap, and_iff_right fun vq _ => single vq]
  refine List.Pairwise.iff fun {vq other} => ?_
  simp [queueMetrics, Metric.series]

theorem vmiMetrics_distinct_iff {vmi : VMIResult}
    (distinct : (vmi.devices.map DeviceResult.disk).Nodup) :
    DistinctSeries (vmiMetrics vmi) ↔
      vmi.virtqueues.Pairwise fun vq other =>
        queueLabels vmi vq ≠ queueLabels vmi other := by
  unfold vmiMetrics
  rw [distinctSeries_append_of_desc, and_iff_right (devices_distinct distinct),
    queues_distinct_iff]
  intro metric member other member'
  obtain ⟨dev, -, inDevice⟩ := List.mem_flatMap.mp member
  obtain ⟨vq, -, inQueue⟩ := List.mem_flatMap.mp member'
  obtain ⟨op, series⟩ := series_of_mem_deviceMetrics inDevice
  have latency : metric.desc = .latency := congrArg Prod.fst series
  rw [latency]
  simp only [queueMetrics, List.mem_cons, List.not_mem_nil, or_false]
    at inQueue
  rcases inQueue with rfl | rfl
  · exact fun same => by cases same
  · exact fun same => by cases same

theorem queueLabels_eq_iff (vmi : VMIResult) (vq other : VirtqueueResult) :
    queueLabels vmi vq = queueLabels vmi other ↔
      vq.key = other.key ∧ vq.pvc = other.pvc := by
  have queueIff : toString vq.queue = toString other.queue ↔
      vq.queue = other.queue :=
    ⟨fun same => Text.toList_toString_inj (congrArg String.toList same),
      fun same => by rw [same]⟩
  simp only [queueLabels, VirtqueueResult.key, List.append_cancel_left_eq,
    List.cons.injEq, Prod.mk.injEq, queueIff, and_true]
  constructor
  · intro ⟨disk, pvc, queue, bus⟩
    exact ⟨⟨disk, bus, queue⟩, pvc⟩
  · intro ⟨⟨disk, bus, queue⟩, pvc⟩
    exact ⟨disk, pvc, queue, bus⟩

theorem queueLabels_distinct_iff {vmi : VMIResult} {answers : Answers}
    {numQueues : Table String Int} {devices : List VirtioDevice}
    (reports : Scrape.ReportsQueues answers numQueues devices vmi.virtqueues)
    (distinct : (devices.filterMap Scrape.blkDisk).Nodup) :
    (vmi.virtqueues.Pairwise fun vq other =>
        queueLabels vmi vq ≠ queueLabels vmi other) ↔
      devices.zipIdx.Pairwise fun entry other =>
        (Scrape.controllerQueues answers numQueues entry).Disjoint
          (Scrape.controllerQueues answers numQueues other) := by
  obtain ⟨blk, scsi, split, blkKeys, scsiKeys, blank⟩ := reports
  have keyOf : ∀ (bus : Scrape.Bus) (vqs : List VirtqueueResult),
      vqs.map VirtqueueResult.key =
        devices.zipIdx.flatMap (Scrape.deviceKeys bus answers numQueues) →
      ∀ vq ∈ vqs, vq.bus = bus.name := by
    intro bus vqs keys vq member
    have inKeys := List.mem_map_of_mem (f := VirtqueueResult.key) member
    rw [keys] at inKeys
    obtain ⟨entry, -, here⟩ := List.mem_flatMap.mp inKeys
    exact (Scrape.mem_deviceKeys here).2.2
  have blkDistinct : blk.Pairwise fun vq other =>
      queueLabels vmi vq ≠ queueLabels vmi other := by
    have keys : (blk.map VirtqueueResult.key).Nodup := by
      rw [blkKeys]
      exact Scrape.blkKeys_nodup distinct
    refine (List.pairwise_map.mp keys).imp fun apart same => ?_
    exact apart ((queueLabels_eq_iff vmi _ _).mp same).1
  have cross : ∀ vq ∈ blk, ∀ other ∈ scsi,
      queueLabels vmi vq ≠ queueLabels vmi other := by
    intro vq inBlk other inScsi same
    have key := ((queueLabels_eq_iff vmi _ _).mp same).1
    have bus : vq.bus = other.bus := (Prod.mk.inj (Prod.mk.inj key).2).1
    rw [keyOf _ blk blkKeys vq inBlk, keyOf _ scsi scsiKeys other inScsi] at bus
    exact absurd bus (by decide)
  rw [split, List.pairwise_append, and_iff_right blkDistinct,
    and_iff_left cross, ← Scrape.scsiKeys_nodup_iff, ← scsiKeys]
  refine Iff.trans (List.Pairwise.iff_of_mem ?_) List.pairwise_map.symm
  intro vq other member member'
  rw [not_iff_not, queueLabels_eq_iff, blank vq member, blank other member']
  exact and_iff_left rfl

/-! ### Series of one collection -/

theorem labels_of_mem_vmiMetrics {vmi : VMIResult} {metric : Metric Desc}
    (member : metric ∈ vmiMetrics vmi) :
    metric.labels.take 4 = vmi.labels ∧ metric.desc ≠ .scrapeErrors ∧
      metric.desc ≠ .lastPoll := by
  rcases List.mem_append.mp member with member | member
  · obtain ⟨dev, -, inDevice⟩ := List.mem_flatMap.mp member
    obtain ⟨op, series⟩ := series_of_mem_deviceMetrics inDevice
    obtain ⟨desc, labels⟩ := Prod.mk.inj series
    rw [desc, labels]
    exact ⟨rfl, by decide, by decide⟩
  · obtain ⟨vq, -, inQueue⟩ := List.mem_flatMap.mp member
    simp only [queueMetrics, List.mem_cons, List.not_mem_nil, or_false]
      at inQueue
    rcases inQueue with rfl | rfl
    · exact ⟨rfl, by simp, by simp⟩
    · exact ⟨rfl, by simp, by simp⟩

theorem Collector.collect_distinct_iff {c : Collector}
    (distinct : c.results.Pairwise fun vmi other =>
      vmi.labels ≠ other.labels) :
    DistinctSeries c.collect ↔
      ∀ vmi ∈ c.results, DistinctSeries (vmiMetrics vmi) := by
  unfold collect
  rw [distinctSeries_append_of_desc]
  · have own : DistinctSeries
        [⟨.scrapeErrors, .counter c.scrapeErrors, []⟩,
          (⟨.lastPoll, .gauge c.lastPollTS, []⟩ : Metric Desc)] := by
      simp [distinctSeries_iff_pairwise, Metric.series]
    rw [and_iff_right own]
    apply distinctSeries_flatMap_of_key (List.take 4) VMIResult.labels
    · intro vmi metric member
      exact (labels_of_mem_vmiMetrics member).1
    · exact List.pairwise_map.mpr distinct
  · intro metric own other member
    obtain ⟨vmi, -, inVmi⟩ := List.mem_flatMap.mp member
    obtain ⟨-, notErrors, notPoll⟩ := labels_of_mem_vmiMetrics inVmi
    simp only [List.mem_cons, List.not_mem_nil, or_false] at own
    rcases own with rfl | rfl
    · exact notErrors.symm
    · exact notPoll.symm

/-! ### Machines of one poll -/

/-- CRI names `owner` for every container that it finds. -/
def PollInput.NamedBy (cfg : PollerConfig) (owner : String → String × String)
    (input : PollInput) : Prop :=
  ∀ target ∈ input.targets cfg, owner target.container.containerID =
    (target.pod.namespace_, target.pod.podName)

def OwnedBy (owner : String → String × String)
    (entries : Table String VMConnection) : Prop :=
  ∀ id conn, entries.lookup id = some conn →
    owner id = (conn.namespace_, conn.podName)

namespace Collector

variable {cfg : PollerConfig} {c : Collector} {input : PollInput}
  {owner : String → String × String}

theorem connectAll_ownedBy (owned : OwnedBy owner c.pool.entries)
    (admissible : Admissible cfg c input) (named : input.NamedBy cfg owner) :
    OwnedBy owner (c.connectAll cfg input).entries := by
  intro id conn found
  rcases lookup_connectAll admissible found with ⟨before, -⟩ |
    ⟨target, isTarget, rfl, fetch, client, rfl⟩
  · exact owned id conn before
  · exact named target isTarget

theorem poll_ownedBy (healthy : Healthy c.pool)
    (owned : OwnedBy owner c.pool.entries)
    (admissible : Admissible cfg c input) (named : input.NamedBy cfg owner) :
    OwnedBy owner (c.poll cfg input).pool.entries := by
  intro id conn' found'
  obtain ⟨conn, found, same⟩ :=
    (scrapeAll_progress healthy admissible).same id conn' found'
  rw [connectAll_ownedBy owned admissible named id conn found,
    same.namespace_, same.podName]

theorem run_ownedBy {history : List PollInput} (runs : Runs cfg history)
    (named : ∀ input ∈ history, input.NamedBy cfg owner) :
    OwnedBy owner (run cfg history).pool.entries := by
  induction history using List.reverseRecOn with
  | nil =>
      intro id conn found
      simp [run, init, Pool.empty] at found
  | append_singleton history input induction =>
      obtain ⟨earlier, admissible⟩ :=
        (throughout_append_singleton _ _ _).mp runs
      rw [run_append_singleton]
      apply poll_ownedBy (run_healthy earlier) _ admissible
      · exact named input (by simp)
      · exact induction earlier fun other member =>
          named other (List.mem_append_left _ member)

theorem results_labels_distinct (healthy : Healthy c.pool)
    (owned : OwnedBy owner c.pool.entries)
    (admissible : Admissible cfg c input) (named : input.NamedBy cfg owner)
    (pods : ((cfg.filter.allPods input.pods).map fun pod =>
      (pod.namespace_, pod.podName)).Nodup) :
    (c.poll cfg input).results.Pairwise fun vmi other =>
      vmi.labels ≠ other.labels := by
  obtain ⟨ids, enumerates, results⟩ := results_after_poll healthy admissible
  have after := poll_ownedBy healthy owned admissible named
  have owners : ids.map owner = (c.poll cfg input).results.map fun vmi =>
      (vmi.namespace_, vmi.podName) := by
    rw [← List.forall₂_eq_eq_eq, List.forall₂_map_left_iff,
      List.forall₂_map_right_iff]
    refine results.imp ?_
    intro id vmi ⟨conn, found, ns, _, pod⟩
    rw [after id conn found, ns, pod]
  have distinct : (ids.map owner).Nodup := by
    refine List.Nodup.map_on ?_ enumerates.nodup
    intro id member other member' same
    have active : ∀ id ∈ ids, id ∈ activeIDs (input.targets cfg) := by
      intro id member
      obtain ⟨conn', found'⟩ :=
        Finmap.mem_iff.mp ((enumerates.mem_iff id).mp member)
      obtain ⟨conn, found, -⟩ :=
        (scrapeAll_progress healthy admissible).same id conn' found'
      exact mem_activeIDs_of_reconnect admissible.sweepOrder found
    exact NamedBy.injOn named pods (active id member) (active other member') same
  rw [owners] at distinct
  refine (List.pairwise_map.mp distinct).imp ?_
  intro vmi other apart same
  simp only [VMIResult.labels, List.cons.injEq] at same
  exact apart (Prod.ext same.1 same.2.2.2.1)

end Collector

/-- No two devices of an answer share a path, and no two block devices a `ua-`
alias. -/
structure DistinctAnswers (answers : Answers) : Prop where
  disks : ∀ entries, answers.blockStats = .ok entries →
    (entries.filterMap fun dev =>
      (extractDiskInfo dev.effectiveQDev).map Prod.fst).Nodup
  paths : ∀ devices, answers.virtio = .ok devices →
    (devices.map VirtioDevice.path).Nodup
  blkDisks : ∀ devices, answers.virtio = .ok devices →
    (devices.filterMap Scrape.blkDisk).Nodup

theorem reportedDisks_nodup {entries : List BlockDevice}
    (disks : (entries.filterMap fun dev =>
      (extractDiskInfo dev.effectiveQDev).map Prod.fst).Nodup) :
    (entries.filterMap Scrape.reportedDisk).Nodup := by
  have weaken : ∀ dev disk, Scrape.reportedDisk dev = some disk →
      (extractDiskInfo dev.effectiveQDev).map Prod.fst = some disk := by
    intro dev disk reported
    unfold Scrape.reportedDisk at reported
    split at reported
    next => exact reported
    next => cases reported
  refine List.pairwise_filterMap.mpr ((List.pairwise_filterMap.mp disks).imp ?_)
  intro dev other apart disk reported disk' reported'
  exact apart disk (weaken dev disk reported) disk' (weaken other disk' reported')

/-- The statistics are answered, and no other request that the scrape makes expires. -/
structure Answered (conn : VMConnection) (answers : Answers) : Prop where
  stats : ∃ entries, answers.blockStats = .ok entries ∧
    Scrape.Passes answers conn.armed entries.zipIdx
  listed : answers.virtio ≠ .expired
  devices : ∀ devices, answers.virtio = .ok devices → ∀ entry ∈ devices.zipIdx,
    Scrape.Lasts Scrape.virtioBlk answers conn.numQueues entry ∧
      Scrape.Lasts Scrape.virtioScsi answers conn.numQueues entry

/-- The queries of the devices are all made, with the numbers of queues known before. -/
theorem Scrape.queryBuses_completes_iff {answers : Answers} {s : Scrape}
    {devices : List VirtioDevice} (opened : s.closed = false)
    (distinct : (devices.map VirtioDevice.path).Nodup) :
    (∃ u, (Flow.loop (queryDevice virtioBlk answers) s devices.zipIdx).bind
        (fun s => Flow.loop (queryDevice virtioScsi answers) s devices.zipIdx) = .ok u) ↔
      ∀ entry ∈ devices.zipIdx, Lasts virtioBlk answers s.numQueues entry ∧
        Lasts virtioScsi answers s.numQueues entry := by
  have paths : (devices.zipIdx.map fun entry => entry.1.path).Nodup := by
    rw [← List.zipIdx_map_fst 0 devices, List.map_map] at distinct
    exact distinct
  have second : ∀ t, Flow.loop (queryDevice virtioBlk answers) s devices.zipIdx = .ok t →
      ((∃ u, Flow.loop (queryDevice virtioScsi answers) t devices.zipIdx = .ok u) ↔
        ∀ entry ∈ devices.zipIdx, Lasts virtioScsi answers s.numQueues entry) := by
    intro t first
    have stillOpen : t.closed = false :=
      Flow.loop_invariant (fun s => s.closed = false)
        (fun _ _ _ _ => queryDevice_closed) opened first
    rw [queryDevices_completes_iff stillOpen paths]
    apply forall₂_congr
    intro entry member
    apply lasts_congr
    intro owned
    apply (queryDevices_adds paths first).2
    intro other member' ownedBlk samePath
    -- distinct paths make the two entries one device
    obtain rfl := List.inj_on_of_nodup_map paths member member' samePath
    have apart : isVirtioScsi entry.1 = false := not_both_buses _ ownedBlk
    exact Bool.false_ne_true (apart.symm.trans owned)
  simp only [Flow.bind_eq_ok, forall_and]
  rw [← queryDevices_completes_iff opened paths]
  constructor
  · intro ⟨u, t, first, rest⟩
    exact ⟨⟨t, first⟩, (second t first).mp ⟨u, rest⟩⟩
  · intro ⟨⟨t, first⟩, others⟩
    obtain ⟨u, rest⟩ := (second t first).mpr others
    exact ⟨u, t, first, rest⟩

theorem Scrape.run_completes_iff (cfg : PollerConfig) {answers : Answers} {s : Scrape}
    {entries : List BlockDevice} (opened : s.closed = false)
    (distinct : ∀ devices, answers.virtio = .ok devices →
      (devices.map VirtioDevice.path).Nodup) :
    (∃ t, s.run cfg answers entries = .ok t) ↔
      Passes answers s.armed entries.zipIdx ∧ answers.virtio ≠ .expired ∧
        ∀ devices, answers.virtio = .ok devices → ∀ entry ∈ devices.zipIdx,
          Lasts virtioBlk answers s.numQueues entry ∧
            Lasts virtioScsi answers s.numQueues entry := by
  obtain ⟨passes, completed⟩ :=
    @armDevices_passes_iff cfg answers s opened entries.zipIdx
  obtain ⟨-, -, counts, -⟩ := armDevices_report cfg answers entries.zipIdx s
  have queries : ∀ t, Flow.loop (armDevice cfg answers) s entries.zipIdx = .ok t →
      ((∃ u, (entries.foldl (addDevice answers) t).attempt answers.virtio
          (fun s devices =>
            (Flow.loop (queryDevice virtioBlk answers) s devices.zipIdx).bind fun s =>
              Flow.loop (queryDevice virtioScsi answers) s devices.zipIdx) = .ok u) ↔
        answers.virtio ≠ .expired ∧
          ∀ devices, answers.virtio = .ok devices → ∀ entry ∈ devices.zipIdx,
            Lasts virtioBlk answers s.numQueues entry ∧
              Lasts virtioScsi answers s.numQueues entry) := by
    intro t armed
    rw [armed, Flow.state_ok] at counts
    obtain ⟨sameCounts, sameClosed⟩ := addDevices_keep answers t entries
    have stillOpen := sameClosed.trans (completed t armed).opened
    rw [attempt_completes_iff stillOpen]
    apply and_congr_right
    intro _
    apply forall₂_congr
    intro devices listed
    rw [queryBuses_completes_iff stillOpen (distinct devices listed), sameCounts, counts]
  unfold run
  simp only [Flow.bind_eq_ok]
  rw [← passes]
  constructor
  · intro ⟨u, t, armed, rest⟩
    exact ⟨⟨t, armed⟩, (queries t armed).mp ⟨u, rest⟩⟩
  · intro ⟨⟨t, armed⟩, answered⟩
    obtain ⟨u, rest⟩ := (queries t armed).mpr answered
    exact ⟨u, t, armed, rest⟩

theorem scrapeVM_completes_iff (cfg : PollerConfig) {conn : VMConnection}
    {answers : Answers} (opened : conn.closed = false)
    (distinct : DistinctAnswers answers) :
    (conn.scrapeVM cfg false answers).result ≠ none ↔ Answered conn answers := by
  have runs : (conn.scrapeVM cfg false answers).result ≠ none ↔
      ∃ entries, answers.blockStats = .ok entries ∧
        ∃ s, (conn.start false).run cfg answers entries = .ok s := by
    unfold VMConnection.scrapeVM
    rw [opened, if_neg Bool.false_ne_true]
    cases answers.blockStats with
    | ok entries =>
        simp only [callClient, Bool.false_eq_true, if_false, Reply.ok.injEq,
          exists_eq_left']
        cases (conn.start false).run cfg answers entries with
        | ok s => simp
        | error s => simp
    | failed => simp [callClient]
    | expired => simp [callClient]
  rw [runs]
  simp only [Scrape.run_completes_iff cfg (s := conn.start false) rfl distinct.paths]
  constructor
  · rintro ⟨entries, answered, passes, listed, devices⟩
    exact ⟨⟨entries, answered, passes⟩, listed, devices⟩
  · rintro ⟨⟨entries, answered, passes⟩, listed, devices⟩
    exact ⟨entries, answered, passes, listed, devices⟩

/-- Two virtio-scsi controllers of one machine are never reported for the same
queue. -/
def ControllersApart (conn : VMConnection) (answers : Answers) : Prop :=
  ∀ devices, answers.virtio = .ok devices →
    devices.zipIdx.Pairwise fun entry other =>
      (Scrape.controllerQueues answers conn.numQueues entry).Disjoint
        (Scrape.controllerQueues answers conn.numQueues other)

theorem vmiMetrics_distinct_iff_controllersApart {cfg : PollerConfig}
    {conn : VMConnection} {answers : Answers} {result : VMIResult}
    (distinct : DistinctAnswers answers)
    (scraped : (conn.scrapeVM cfg false answers).result = some result) :
    DistinctSeries (vmiMetrics result) ↔ ControllersApart conn answers := by
  obtain ⟨entries, s, answered, -, ended, rfl, -⟩ :=
    VMConnection.scrapeVM_result scraped
  obtain ⟨disks, queues⟩ :=
    Scrape.run_reports ⟨rfl, rfl⟩ distinct.paths ended
  have disksNodup : (s.devices.map DeviceResult.disk).Nodup := by
    rw [disks]
    exact reportedDisks_nodup (distinct.disks entries answered)
  rw [vmiMetrics_distinct_iff disksNodup]
  unfold ControllersApart
  cases listed : answers.virtio with
  | ok devices =>
      simp only [listed] at queues
      rw [queueLabels_distinct_iff queues (distinct.blkDisks devices listed)]
      constructor
      · intro apart devices' same
        obtain rfl := Reply.ok.inj same
        exact apart
      · intro apart
        exact apart devices rfl
  | failed =>
      simp only [listed] at queues
      simp [queues]
  | expired =>
      simp only [listed] at queues
      simp [queues]

namespace Collector

/-- The series of a collection after a poll are distinct exactly when no machine that
answers in time has two virtio-scsi controllers that are reported for one queue. -/
theorem series_distinct_iff_controllers_apart (cfg : PollerConfig)
    (owner : String → String × String) (before : List PollInput)
    (input : PollInput) (runs : Runs cfg (before ++ [input]))
    (named : ∀ poll ∈ before ++ [input], poll.NamedBy cfg owner)
    (pods : ((cfg.filter.allPods input.pods).map fun pod =>
      (pod.namespace_, pod.podName)).Nodup)
    (answers : ∀ id, DistinctAnswers (input.answers id)) :
    DistinctSeries (run cfg (before ++ [input])).collect ↔
      ∀ id conn, ((run cfg before).connectAll cfg input).entries.lookup id =
          some conn →
        Answered conn (input.answers id) →
          ControllersApart conn (input.answers id) := by
  obtain ⟨earlier, admissible⟩ := (throughout_append_singleton _ _ _).mp runs
  have healthy := run_healthy earlier
  have owned : OwnedBy owner (run cfg before).pool.entries :=
    run_ownedBy earlier fun poll member =>
      named poll (List.mem_append_left _ member)
  rw [run_append_singleton, collect_distinct_iff (results_labels_distinct
    healthy owned admissible (named input (by simp)) pods)]
  constructor
  · intro distinct id conn found answered
    have opened := (connectAll_healthy healthy).opened id conn found
    obtain ⟨result, scraped⟩ := Option.ne_none_iff_exists'.mp
      ((scrapeVM_completes_iff cfg opened (answers id)).mpr answered)
    rw [← vmiMetrics_distinct_iff_controllersApart (answers id) scraped]
    exact distinct result
      ((mem_results_iff healthy admissible result).mpr ⟨id, conn, found, scraped⟩)
  · intro apart result member
    obtain ⟨id, conn, found, scraped⟩ :=
      (mem_results_iff healthy admissible result).mp member
    rw [vmiMetrics_distinct_iff_controllersApart (answers id) scraped]
    apply apart id conn found
    have opened := (connectAll_healthy healthy).opened id conn found
    rw [← scrapeVM_completes_iff cfg opened (answers id), scraped]
    exact Option.some_ne_none _

/-! A machine with one virtio-scsi controller, and one with two. -/

def scsiController (name : String) : VirtioDevice :=
  ⟨"/machine/peripheral/" ++ name ++ "/virtio-backend", "virtio-scsi"⟩

def controllerAnswers (controllers : List VirtioDevice) : Answers where
  blockStats := .ok []
  enableHistogram _ := .failed
  virtio := .ok controllers
  virtioStatus _ := .ok 1
  virtioQueueStatus _ _ := .ok ⟨0, 128⟩
  fetch := .failed

def controllerPoll (controllers : List VirtioDevice) : PollInput :=
  { onePod [] .failed 60 with
    answers := fun _ => controllerAnswers controllers }

def vmOwner (_ : String) : String × String := ("tenant-a", "virt-launcher-vm")

theorem controllerAnswers_distinct {controllers : List VirtioDevice}
    (paths : (controllers.map VirtioDevice.path).Nodup)
    (blkDisks : controllers.filterMap Scrape.blkDisk = []) :
    DistinctAnswers (controllerAnswers controllers) where
  disks entries answered := by
    obtain rfl := Reply.ok.inj answered
    exact List.nodup_nil
  paths devices answered := by
    obtain rfl := Reply.ok.inj answered
    exact paths
  blkDisks devices answered := by
    obtain rfl := Reply.ok.inj answered
    rw [blkDisks]
    exact List.nodup_nil

theorem one_controller_has_distinct_series :
    DistinctSeries (run plainConfig
      [controllerPoll [scsiController "scsi0"]]).collect := by
  refine (series_distinct_iff_controllers_apart plainConfig vmOwner []
    (controllerPoll [scsiController "scsi0"]) ?_ ?_ ?_ fun _ =>
      controllerAnswers_distinct ?_ ?_).mpr ?_
  · unfold Runs
    decide +kernel
  · unfold PollInput.NamedBy
    decide +kernel
  · decide +kernel
  · decide
  · decide +kernel
  · intro id conn _ _ devices listed
    obtain rfl := Reply.ok.inj listed
    exact List.pairwise_singleton _ _

theorem two_controllers_share_series :
    Runs plainConfig
        [controllerPoll [scsiController "scsi0", scsiController "scsi1"]] ∧
      PollInput.NamedBy plainConfig vmOwner
        (controllerPoll [scsiController "scsi0", scsiController "scsi1"]) ∧
      DistinctAnswers (controllerAnswers
        [scsiController "scsi0", scsiController "scsi1"]) ∧
      ¬ DistinctSeries (run plainConfig
        [controllerPoll [scsiController "scsi0",
          scsiController "scsi1"]]).collect := by
  refine ⟨?_, ?_, controllerAnswers_distinct ?_ ?_, ?_⟩
  · unfold Runs
    decide +kernel
  · unfold PollInput.NamedBy
    decide +kernel
  · decide +kernel
  · decide +kernel
  · decide +kernel

end Collector

end KubevirtMetrics.Qmp
