import KubevirtMetrics.Cri.Client
import KubevirtMetrics.Qga.Collect

namespace KubevirtMetrics.Cri

open Data Virt Prometheus
open Qga (CollectorConfig PollInput Collector)

/-! Polls of the QGA collector against a container runtime whose containers come and go.
-/

/-- What a poll of the collector meets: the pods of the store are distinct, the containers
are those of the runtime, and the drives of a snapshot are visited once. -/
structure Meets (cfg : CollectorConfig) (history : List RuntimeEvent)
    (input : PollInput) :
    Prop where
  pods : (input.pods.map fun pod => (pod.namespace_, pod.name)).Nodup
  answered : AnsweredBy history (cfg.filter.allPods input.pods) input.find
  iterated : ∀ id ∈ input.completionOrder, (input.answers id).Iterated

theorem Meets.environment {cfg : CollectorConfig} {history : List RuntimeEvent}
    {input : PollInput} (meets : Meets cfg history input) (fresh : FreshIDs history) :
    Collector.Environment cfg (owner history) input where
  named := meets.answered.namedBy fresh
  pods := meets.pods
  iterated := meets.iterated

/-- A runtime that never reuses the name of a container is enough for the collection to
have no series twice, and each machine that stays connected is one of the pod that its
container was created for. -/
theorem collect_distinct_of_runtime {cfg : CollectorConfig} {history : List RuntimeEvent}
    (fresh : FreshIDs history) {polls : List PollInput} (runs : Collector.Runs cfg polls)
    (meets : ∀ input ∈ polls, Meets cfg history input) :
    DistinctSeries (Collector.run cfg polls).collect ∧
      ∀ id vs, (Collector.run cfg polls).pool.entries.lookup id = some vs →
        owner history id = (vs.namespace_, vs.podName) := by
  have environment : ∀ input ∈ polls, Collector.Environment cfg (owner history) input :=
    fun input member => (meets input member).environment fresh
  have once := Collector.run_oncePerPod runs environment
  exact ⟨Collector.collect_distinct once.pods once.drives,
    Collector.run_ownedBy runs environment⟩

/-! The container of a machine restarts under another name after the first poll. -/

def pidInfo : Table String (List Char) := infoOf [("pid".toList, .int 42)]

def startedFirst : List RuntimeEvent :=
  [.create "cri-o://1" computeLabels, .report "cri-o://1" .running pidInfo]

def restarted : List RuntimeEvent :=
  startedFirst ++ [.remove "cri-o://1", .create "cri-o://2" computeLabels,
    .report "cri-o://2" .running pidInfo]

theorem drivesPoll_meets {past : List RuntimeEvent} (earlier : past <+: restarted)
    {container : String}
    (found : findComputePID (serviceAt past) "virt-launcher-vm" "tenant-a" =
      .ok ⟨container, 42⟩)
    (checkAt : Int) {time : UInt64} (sweepOrder : List String)
    (iterated : Table.Enumerates ["1 E:", "0 C:"] (Qga.snapshotOf
      [⟨"0 C:", 0, 0, time, time, time⟩, ⟨"1 E:", 0, 0, time, time, time⟩])) :
    Meets Collector.oneRetry restarted
      (Collector.drivesPoll checkAt time container sweepOrder) where
  pods := List.nodup_singleton _
  answered := by
    intro i pod info listed answer
    have launchers : Collector.oneRetry.filter.allPods [Collector.launcher] =
        [⟨"tenant-a", "virt-launcher-vm", "vm"⟩] := by decide +kernel
    have member := List.mem_of_getElem? listed
    change pod ∈ Collector.oneRetry.filter.allPods [Collector.launcher] at member
    rw [launchers, List.mem_singleton] at member
    obtain rfl := Option.some.inj answer
    rw [member]
    exact ⟨serviceAt past, serves_serviceAt earlier, found⟩
  iterated id _ rows answered := by
    obtain rfl := Qga.CountersReply.counters.inj answered
    exact iterated

theorem collect_distinct_restarted :
    DistinctSeries (Collector.run Collector.oneRetry Collector.restartPolls).collect ∧
      ∀ id vs, (Collector.run Collector.oneRetry
        Collector.restartPolls).pool.entries.lookup id =
          some vs →
        owner restarted id = (vs.namespace_, vs.podName) := by
  have first : findComputePID (serviceAt startedFirst) "virt-launcher-vm" "tenant-a" =
      .ok ⟨"cri-o://1", 42⟩ := rfl
  have second : findComputePID (serviceAt restarted) "virt-launcher-vm" "tenant-a" =
      .ok ⟨"cri-o://2", 42⟩ := rfl
  refine collect_distinct_of_runtime (by unfold FreshIDs; decide) ?_ ?_
  · unfold Collector.Runs
    decide +kernel
  · intro input member
    simp only [Collector.restartPolls, List.mem_cons, List.not_mem_nil, or_false]
      at member
    rcases member with rfl | rfl | rfl
    · exact drivesPoll_meets (List.prefix_append _ _) first _ _ (by decide +kernel)
    · exact drivesPoll_meets (List.prefix_refl _) second _ _ (by decide +kernel)
    · exact drivesPoll_meets (List.prefix_refl _) second _ _ (by decide +kernel)

end KubevirtMetrics.Cri
