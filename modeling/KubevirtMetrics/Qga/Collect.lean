import KubevirtMetrics.Prometheus.Metric
import KubevirtMetrics.Qga.Passive

namespace KubevirtMetrics.Qga

open Data Virt Prometheus

/-! `Collect` of `collector.go`. -/

inductive Desc
  | latencyAvg
  | iops
  | scrapeErrors
  | lastPoll
  deriving DecidableEq

def diskLabels (vmi : VMIResult) (disk : EnrichedDisk) (op : String) :
    List String :=
  [vmi.namespace_, vmi.name, vmi.node, vmi.podName, disk.disk, disk.pvc, op,
    disk.metrics.name]

def operationMetrics (vmi : VMIResult) (disk : EnrichedDisk) (op : String)
    (latSec iops : ℚ) : List (Metric Desc) :=
  if iops > 0 || latSec > 0 then
    [⟨.latencyAvg, .gauge latSec, diskLabels vmi disk op⟩,
      ⟨.iops, .gauge iops, diskLabels vmi disk op⟩]
  else []

def diskMetrics (vmi : VMIResult) (disk : EnrichedDisk) : List (Metric Desc) :=
  operationMetrics vmi disk "read" disk.metrics.rdLatSec disk.metrics.rdIOPS ++
    operationMetrics vmi disk "write" disk.metrics.wrLatSec disk.metrics.wrIOPS

def vmiMetrics (vmi : VMIResult) : List (Metric Desc) :=
  vmi.disks.flatMap (diskMetrics vmi)

def Collector.collect (c : Collector) : List (Metric Desc) :=
  [⟨.scrapeErrors, .counter c.scrapeErrors, []⟩,
    ⟨.lastPoll, .gauge c.lastPollTS, []⟩] ++ c.results.flatMap vmiMetrics

/-! ### Series of one collection -/

def VMIResult.pod (vmi : VMIResult) : String × String :=
  (vmi.namespace_, vmi.podName)

def VMIResult.drives (vmi : VMIResult) : List String :=
  vmi.disks.map fun disk => disk.metrics.name

section Series

variable {vmi : VMIResult} {disk : EnrichedDisk} {metric : Metric Desc}

theorem mem_operationMetrics {op : String} {latSec iops : ℚ}
    (member : metric ∈ operationMetrics vmi disk op latSec iops) :
    metric.labels = diskLabels vmi disk op ∧
      (metric.desc = .latencyAvg ∨ metric.desc = .iops) := by
  unfold operationMetrics at member
  split at member
  next =>
    simp only [List.mem_cons, List.not_mem_nil, or_false] at member
    rcases member with rfl | rfl
    · exact ⟨rfl, .inl rfl⟩
    · exact ⟨rfl, .inr rfl⟩
  next => cases member

theorem operationMetrics_distinct (vmi : VMIResult) (disk : EnrichedDisk)
    (op : String) (latSec iops : ℚ) :
    DistinctSeries (operationMetrics vmi disk op latSec iops) := by
  unfold operationMetrics
  split
  next => simp [distinctSeries_iff_pairwise, Metric.series]
  next => exact List.nodup_nil

theorem mem_diskMetrics (member : metric ∈ diskMetrics vmi disk) :
    (∃ op, metric.labels = diskLabels vmi disk op) ∧
      (metric.desc = .latencyAvg ∨ metric.desc = .iops) := by
  rcases List.mem_append.mp member with read | write
  · obtain ⟨labels, desc⟩ := mem_operationMetrics read
    exact ⟨⟨_, labels⟩, desc⟩
  · obtain ⟨labels, desc⟩ := mem_operationMetrics write
    exact ⟨⟨_, labels⟩, desc⟩

theorem diskMetrics_distinct (vmi : VMIResult) (disk : EnrichedDisk) :
    DistinctSeries (diskMetrics vmi disk) := by
  unfold diskMetrics
  rw [distinctSeries_append]
  refine ⟨operationMetrics_distinct _ _ _ _ _,
    operationMetrics_distinct _ _ _ _ _, ?_⟩
  intro metric read other write same
  have labels : metric.labels = other.labels := congrArg Prod.snd same
  rw [(mem_operationMetrics read).1, (mem_operationMetrics write).1] at labels
  simp [diskLabels] at labels

theorem vmiMetrics_distinct (drives : vmi.drives.Nodup) :
    DistinctSeries (vmiMetrics vmi) := by
  refine (distinctSeries_flatMap_of_key (fun labels => labels[7]?)
    (fun disk => some disk.metrics.name) ?_ ?_).mpr ?_
  · intro disk metric member
    obtain ⟨⟨op, labels⟩, -⟩ := mem_diskMetrics member
    rw [labels]
    rfl
  · exact List.pairwise_map.mpr ((List.pairwise_map.mp drives).imp
      fun apart same => apart (Option.some.inj same))
  · intro disk _
    exact diskMetrics_distinct vmi disk

theorem mem_vmiMetrics (member : metric ∈ vmiMetrics vmi) :
    (metric.labels[0]?, metric.labels[3]?) =
        (some vmi.namespace_, some vmi.podName) ∧
      metric.desc ≠ .scrapeErrors ∧ metric.desc ≠ .lastPoll := by
  obtain ⟨disk, -, inDisk⟩ := List.mem_flatMap.mp member
  obtain ⟨⟨op, labels⟩, desc⟩ := mem_diskMetrics inDisk
  rw [labels]
  rcases desc with desc | desc
  · rw [desc]
    exact ⟨rfl, by decide, by decide⟩
  · rw [desc]
    exact ⟨rfl, by decide, by decide⟩

theorem Collector.collect_distinct {c : Collector}
    (pods : (c.results.map VMIResult.pod).Nodup)
    (drives : ∀ vmi ∈ c.results, vmi.drives.Nodup) :
    DistinctSeries c.collect := by
  unfold collect
  rw [distinctSeries_append_of_desc]
  · have own : DistinctSeries
        [⟨.scrapeErrors, .counter c.scrapeErrors, []⟩,
          (⟨.lastPoll, .gauge c.lastPollTS, []⟩ : Metric Desc)] := by
      simp [distinctSeries_iff_pairwise, Metric.series]
    refine ⟨own, (distinctSeries_flatMap_of_key
      (fun labels => (labels[0]?, labels[3]?))
      (fun vmi => (some vmi.namespace_, some vmi.podName)) ?_ ?_).mpr ?_⟩
    · intro vmi metric member
      exact (mem_vmiMetrics member).1
    · refine List.pairwise_map.mpr ((List.pairwise_map.mp pods).imp ?_)
      intro vmi other apart same
      obtain ⟨ns, name⟩ := Prod.mk.inj same
      exact apart (Prod.ext (Option.some.inj ns) (Option.some.inj name))
    · intro vmi member
      exact vmiMetrics_distinct (drives vmi member)
  · intro metric own other member
    obtain ⟨vmi, -, inVmi⟩ := List.mem_flatMap.mp member
    obtain ⟨-, notErrors, notPoll⟩ := mem_vmiMetrics inVmi
    simp only [List.mem_cons, List.not_mem_nil, or_false] at own
    rcases own with rfl | rfl
    · exact notErrors.symm
    · exact notPoll.symm

end Series

/-! ### Drives of one scrape -/

/-- The loop over the new snapshot visits each drive once. -/
def Answers.Iterated (answers : Answers) : Prop :=
  ∀ rows, answers.counters = .counters rows →
    Table.Enumerates answers.order (snapshotOf rows)

theorem VMState.disksOf_drives (vs : VMState) (answers : Answers)
    (rows : List DiskCounters) :
    ((vs.disksOf answers rows).disks.map fun disk => disk.metrics.name) =
      vs.reported answers rows := by
  have labels := congrArg (List.map Prod.fst)
    (vs.disksOf_driveLabels answers rows)
  simpa [Scrape.driveLabels, Function.comp_def] using labels

theorem VMState.reported_nodup {vs : VMState} {answers : Answers}
    {rows : List DiskCounters} (nodup : answers.order.Nodup) :
    (vs.reported answers rows).Nodup := by
  unfold reported
  split
  next => exact List.nodup_nil
  next => exact nodup.filter _

theorem VMState.resultOf_pod {cfg : CollectorConfig} {vs : VMState}
    {disks : List EnrichedDisk} {result : VMIResult}
    (made : resultOf cfg vs disks = some result) :
    result.pod = (vs.namespace_, vs.podName) := by
  unfold resultOf at made
  split at made
  next => cases made
  next => exact Option.some.inj made ▸ rfl

/-! ### Machines of one poll -/

def OwnedBy (owner : String → String × String)
    (entries : Table String VMState) : Prop :=
  ∀ id vs, entries.lookup id = some vs →
    owner id = (vs.namespace_, vs.podName)

section Owned

variable {owner : String → String × String} {entries : Table String VMState}

theorem OwnedBy.erase (owned : OwnedBy owner entries) (id : String) :
    OwnedBy owner (entries.erase id) := by
  intro other vs found
  exact owned other vs (Table.of_lookup_erase found).2

theorem OwnedBy.insert (owned : OwnedBy owner entries) {id : String}
    {vs : VMState} (own : owner id = (vs.namespace_, vs.podName)) :
    OwnedBy owner (entries.insert id vs) := by
  intro other vs' found
  rcases Table.of_lookup_insert found with ⟨rfl, rfl⟩ | earlier
  · exact own
  · exact owned other vs' earlier

variable {cfg : CollectorConfig} {input : PollInput} {s : Scraping}
  {id : String}

theorem finishScrape_ownedBy (owned : OwnedBy owner s.pool.entries) :
    OwnedBy owner (finishScrape cfg input s id).pool.entries := by
  cases found : s.pool.entries.lookup id with
  | none =>
      simp only [finishScrape, found]
      exact owned
  | some vs =>
      have own := owned id vs found
      rcases finishScrape_cases cfg input found with
        ⟨-, gone | ⟨rows, scraped⟩ | ⟨-, again⟩⟩ | ⟨vm, same, marked, -⟩
      · rw [gone]
        exact owned.erase id
      · rw [scraped]
        exact owned.insert own
      · rw [again]
        exact owned.insert own
      · rw [marked]
        rcases same with rfl | rfl
        · exact owned.insert own
        · exact owned.insert own

/-- A scrape publishes nothing, or one result of the pod of its container. -/
theorem finishScrape_results (owned : OwnedBy owner s.pool.entries)
    (iterated : (input.answers id).Iterated) :
    (finishScrape cfg input s id).results = s.results ∨
      ∃ result : VMIResult, result.pod = owner id ∧ result.drives.Nodup ∧
        (finishScrape cfg input s id).results = s.results ++ [result] := by
  cases found : s.pool.entries.lookup id with
  | none =>
      simp only [finishScrape, found]
      exact .inl trivial
  | some vs =>
      simp only [finishScrape, found]
      rcases vs.scrapeVM_cases cfg (vs.client ∈ s.pool.closed)
        (input.answers id) with ⟨error, closed, failed⟩ | ⟨rows, answered, done⟩
      · simp only [failed]
        rcases handleScrapeError_cases cfg vs error closed with
          dropped | ⟨-, again⟩ | ⟨vm, -, passive⟩
        · simp only [dropped]
          exact .inl trivial
        · simp only [again]
          exact .inl trivial
        · simp only [passive]
          exact .inl rfl
      · simp only [done]
        cases made : VMState.resultOf cfg vs
            (vs.disksOf (input.answers id) rows).disks with
        | none => exact .inl (List.append_nil _)
        | some result =>
            refine .inr ⟨result, ?_, ?_, rfl⟩
            · rw [owned id vs found]
              exact VMState.resultOf_pod made
            · rw [VMIResult.drives, VMState.resultOf_disks made,
                VMState.disksOf_drives]
              exact VMState.reported_nodup (iterated rows answered).nodup

/-- What the scrapes that have ended publish: at most one result for each of
them, of the pod of its container, with each drive at most once. -/
structure Published (owner : String → String × String) (done : List String)
    (s : Scraping) : Prop where
  owned : OwnedBy owner s.pool.entries
  pods : (s.results.map VMIResult.pod).Sublist (done.map owner)
  drives : ∀ vmi ∈ s.results, vmi.drives.Nodup

theorem Published.finish {done : List String}
    (published : Published owner done s)
    (iterated : (input.answers id).Iterated) :
    Published owner (done ++ [id]) (finishScrape cfg input s id) := by
  have owned : OwnedBy owner (finishScrape cfg input s id).pool.entries :=
    finishScrape_ownedBy published.owned
  have results : (finishScrape cfg input s id).results = s.results ∨
      ∃ result : VMIResult, result.pod = owner id ∧ result.drives.Nodup ∧
        (finishScrape cfg input s id).results = s.results ++ [result] :=
    finishScrape_results published.owned iterated
  rcases results with same | ⟨result, pod, drives, more⟩
  · refine ⟨owned, ?_, ?_⟩
    · rw [same, List.map_append]
      exact published.pods.trans (List.sublist_append_left _ _)
    · rw [same]
      exact published.drives
  · refine ⟨owned, ?_, ?_⟩
    · rw [more, List.map_append, List.map_append, List.map_singleton,
        List.map_singleton, pod]
      exact published.pods.append (List.Sublist.refl _)
    · rw [more]
      intro vmi member
      rcases List.mem_append.mp member with earlier | last
      · exact published.drives vmi earlier
      · rw [List.mem_singleton.mp last]
        exact drives

theorem Published.finishAll (published : Published owner [] s)
    {order : List String}
    (iterated : ∀ id ∈ order, (input.answers id).Iterated) :
    Published owner order (order.foldl (finishScrape cfg input) s) := by
  induction order using List.reverseRecOn with
  | nil => exact published
  | append_singleton order id induction =>
      rw [List.foldl_append]
      refine Published.finish (induction fun other member => ?_) ?_
      · exact iterated other (List.mem_append_left _ member)
      · exact iterated id (by simp)

end Owned

namespace Collector

variable {cfg : CollectorConfig} {c : Collector} {input : PollInput}
  {owner : String → String × String}

/-- What the environment guarantees over a run: the pod of a container does not
change, the pod store holds each pod once, and snapshots are iterated in orders of
their keys. -/
structure Environment (cfg : CollectorConfig)
    (owner : String → String × String) (input : PollInput) : Prop where
  named : NamedBy owner (input.targets cfg)
  pods : (input.pods.map fun pod => (pod.namespace_, pod.name)).Nodup
  iterated : ∀ id ∈ input.completionOrder, (input.answers id).Iterated

theorem connectAll_ownedBy (owned : OwnedBy owner c.pool.entries)
    (admissible : Admissible cfg c input)
    (named : NamedBy owner (input.targets cfg)) :
    OwnedBy owner (c.connectAll cfg input).entries := by
  intro id vs found
  rcases lookup_reconnect admissible.sweepOrder found with
    ⟨before, -⟩ | ⟨entry, visited, rfl, client, rfl⟩
  · exact owned id vs before
  · exact named entry.1 (List.fst_mem_of_mem_zipIdx visited)

theorem scrapeAll_published (owned : OwnedBy owner c.pool.entries)
    (admissible : Admissible cfg c input)
    (named : NamedBy owner (input.targets cfg))
    (iterated : ∀ id ∈ input.completionOrder, (input.answers id).Iterated) :
    Published owner input.completionOrder (c.scrapeAll cfg input) := by
  refine Published.finishAll ⟨?_, List.Sublist.refl _, ?_⟩ iterated
  · intro id vs found
    exact connectAll_ownedBy owned admissible named id vs
      ((visitAll_visited admissible).kept id vs found)
  · intro vmi member
    cases member

/-- Only containers that CRI has found in this poll are scraped. -/
theorem mem_activeIDs_of_completed (admissible : Admissible cfg c input)
    {id : String} (member : id ∈ input.completionOrder) :
    id ∈ activeIDs (input.targets cfg) := by
  have started := admissible.completionOrder.mem_iff.mp member
  obtain ⟨-, vs, found, -⟩ :=
    ((visitAll_visited admissible).started id).mp started
  exact mem_activeIDs_of_reconnect admissible.sweepOrder found

theorem visit_started (passiveDue : Bool) (v : Visiting) (id : String) :
    (visit passiveDue v id).started = v.started ∨
      (visit passiveDue v id).started = v.started ++ [id] := by
  unfold visit
  split
  next => exact .inl rfl
  next =>
    split
    next => exact .inl rfl
    next =>
      split
      next =>
        split
        next => exact .inr rfl
        next => exact .inl rfl
      next => exact .inr rfl

theorem completionOrder_nodup (admissible : Admissible cfg c input) :
    input.completionOrder.Nodup := by
  rw [admissible.completionOrder.nodup_iff]
  have once : (c.visitAll cfg input).started.Sublist input.snapshotOrder :=
    stateAfter_sublist Visiting.started rfl (visit_started _) _
  exact once.nodup admissible.snapshotOrder.nodup

/-- What a poll publishes: at most one result for a pod, and in it at most one
entry for a drive. -/
structure OncePerPod (c : Collector) : Prop where
  pods : (c.results.map VMIResult.pod).Nodup
  drives : ∀ vmi ∈ c.results, vmi.drives.Nodup

theorem oncePerPod_of_published (admissible : Admissible cfg c input)
    (published : Published owner input.completionOrder (c.scrapeAll cfg input))
    (named : NamedBy owner (input.targets cfg))
    (pods : (input.pods.map fun pod => (pod.namespace_, pod.name)).Nodup) :
    OncePerPod (c.poll cfg input) := by
  refine ⟨published.pods.nodup ?_, published.drives⟩
  refine List.Nodup.map_on ?_ (completionOrder_nodup admissible)
  intro id member other member' same
  exact named.injOn (cfg.filter.allPods_nodup pods)
    (mem_activeIDs_of_completed admissible member)
    (mem_activeIDs_of_completed admissible member') same

theorem run_ownedBy {history : List PollInput} (runs : Runs cfg history)
    (environment : ∀ input ∈ history, Environment cfg owner input) :
    OwnedBy owner (run cfg history).pool.entries := by
  induction history using List.reverseRecOn with
  | nil =>
      intro id vs found
      simp [run, init, Pool.empty] at found
  | append_singleton history input induction =>
      obtain ⟨earlier, admissible, -⟩ :=
        (throughout_append_singleton _ _ _).mp runs
      have owned := induction earlier fun other member =>
        environment other (List.mem_append_left _ member)
      obtain ⟨named, -, iterated⟩ := environment input (by simp)
      rw [run_append_singleton]
      exact (scrapeAll_published owned admissible named iterated).owned

theorem run_oncePerPod {history : List PollInput} (runs : Runs cfg history)
    (environment : ∀ input ∈ history, Environment cfg owner input) :
    OncePerPod (run cfg history) := by
  rcases List.eq_nil_or_concat history with rfl | ⟨before, input, rfl⟩
  · refine ⟨List.nodup_nil, ?_⟩
    intro vmi member
    cases member
  · rw [List.concat_eq_append] at runs environment ⊢
    obtain ⟨earlier, admissible, -⟩ :=
      (throughout_append_singleton _ _ _).mp runs
    have owned := run_ownedBy earlier fun other member =>
      environment other (List.mem_append_left _ member)
    obtain ⟨named, pods, iterated⟩ := environment input (by simp)
    rw [run_append_singleton]
    exact oncePerPod_of_published admissible
      (scrapeAll_published owned admissible named iterated) named pods

/-- After any run of polls `Collect` emits each series once. -/
theorem collect_emits_series_once (cfg : CollectorConfig)
    (owner : String → String × String) (history : List PollInput)
    (runs : Runs cfg history)
    (environment : ∀ input ∈ history, Environment cfg owner input) :
    OncePerPod (run cfg history) ∧ DistinctSeries (run cfg history).collect := by
  have once := run_oncePerPod runs environment
  exact ⟨once, collect_distinct once.pods once.drives⟩

/-! A machine with two drives whose container restarts after the first poll. -/

def drivesAt (time : UInt64) : CountersReply :=
  .counters [⟨"0 C:", 0, 0, time, time, time⟩, ⟨"1 E:", 0, 0, time, time, time⟩]

def drivesPoll (checkAt : Int) (time : UInt64) (container : String)
    (sweepOrder : List String) : PollInput :=
  { pollAt checkAt (drivesAt time) sweepOrder [container] with
    find := fun _ => some ⟨container, 42⟩
    answers := fun _ => ⟨drivesAt time, .failed, .failed, ["1 E:", "0 C:"]⟩
    snapshotOrder := [container] }

def restartPolls : List PollInput :=
  [drivesPoll 0 1 "cri-o://1" [], drivesPoll 10 11 "cri-o://2" ["cri-o://1"],
    drivesPoll 20 21 "cri-o://2" ["cri-o://2"]]

def launcherOwner (_ : String) : String × String :=
  ("tenant-a", "virt-launcher-vm")

theorem drivesPoll_environment (checkAt : Int) {time : UInt64}
    (container : String) (sweepOrder : List String)
    (iterated : Table.Enumerates ["1 E:", "0 C:"] (snapshotOf
      [⟨"0 C:", 0, 0, time, time, time⟩, ⟨"1 E:", 0, 0, time, time, time⟩])) :
    Environment oneRetry launcherOwner
      (drivesPoll checkAt time container sweepOrder) where
  named := by
    intro target member
    have launchers : oneRetry.filter.allPods [launcher] =
        [⟨"tenant-a", "virt-launcher-vm", "vm"⟩] := by decide +kernel
    obtain ⟨i, pod, -⟩ := mem_targets.mp member
    have listed := List.mem_of_getElem? pod
    change target.pod ∈ oneRetry.filter.allPods [launcher] at listed
    rw [launchers, List.mem_singleton] at listed
    rw [listed]
    rfl
  pods := List.nodup_singleton _
  iterated id _ rows answered := by
    obtain rfl := CountersReply.counters.inj answered
    exact iterated

theorem restart_emits_series_once :
    ((run oneRetry restartPolls).results.map VMIResult.drives) =
        [["1 E:", "0 C:"]] ∧
      OncePerPod (run oneRetry restartPolls) ∧
        DistinctSeries (run oneRetry restartPolls).collect := by
  refine ⟨by decide +kernel, collect_emits_series_once oneRetry launcherOwner
    restartPolls ?_ ?_⟩
  · unfold Runs
    decide +kernel
  · intro input member
    simp only [restartPolls, List.mem_cons, List.not_mem_nil, or_false] at member
    rcases member with rfl | rfl | rfl
    · exact drivesPoll_environment _ _ _ (by decide +kernel)
    · exact drivesPoll_environment _ _ _ (by decide +kernel)
    · exact drivesPoll_environment _ _ _ (by decide +kernel)

end Collector

end KubevirtMetrics.Qga
