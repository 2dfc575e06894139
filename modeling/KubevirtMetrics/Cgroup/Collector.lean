import KubevirtMetrics.Cgroup.FreeMemory
import KubevirtMetrics.Cgroup.KernelThreads
import KubevirtMetrics.Cgroup.Memory

namespace KubevirtMetrics.Cgroup

open Data Cluster Virt Cri Prometheus

/-! `Run`, `poll` and `Collect` of the cgroup collector. -/

def readKSMGeneralProfit (files : FileTree) (sysPath : List Char) : Option Int := do
  let data ← files.readFile (Path.join [sysPath, "kernel".toList, "mm".toList,
    "ksm".toList, "general_profit".toList])
  Text.atoi? (Text.trimSpace data)

/-- `nodeStats`; what is available is present. -/
structure Node where
  threads : NodeStats
  ksmProfit : Option Int
  vmstat : Option VMStatTHP
  memory : NodeMemory

/-- What a poll reads. -/
structure PollInput where
  pods : List Pod
  world : Nat → World
  proc : Proc
  files : FileTree
  memory : MemoryFiles
  orders : MemoryOrders
  now : Nat

structure Collector where
  cgroupNSRoot : List Char
  threads : KernelThreads
  vmiResults : List VMIMemStats
  node : Node
  scrapeErrors : Nat
  lastPollTS : Nat

def Node.initial : Node :=
  ⟨⟨.finite 0, false, .finite 0, false⟩, none, none,
    ⟨[], false, [], [], false, [], [], false⟩⟩

namespace Collector

section

variable (cfg : Config) (sysPath : List Char)

/-- What `Run` does before the first poll; `pid` is the process of the collector. -/
def start (pid : Int) (files : FileTree) (proc : Proc) : Collector where
  cgroupNSRoot := (findSelfCgroup pid files cfg.cgroupRoot).getD []
  threads := discoverKernelThreads proc
  vmiResults := []
  node := .initial
  scrapeErrors := 0
  lastPollTS := 0

def poll (c : Collector) (input : PollInput) : Collector :=
  let polled := pollPods cfg c.cgroupNSRoot input.world input.pods
  let (threads, stats) := collectNodeStats c.threads input.proc
  { c with
    threads := threads
    vmiResults := polled.results
    node :=
      { threads := stats
        ksmProfit := readKSMGeneralProfit input.files sysPath
        vmstat := readVMStatTHP input.files cfg.procPath
        memory := NodeMemory.collectNodeStats input.memory input.orders }
    scrapeErrors := c.scrapeErrors + polled.scrapeErrors
    lastPollTS := input.now }

def run (pid : Int) (files : FileTree) (proc : Proc) (history : List PollInput) :
    Collector :=
  stateAfter (poll cfg sysPath) (start cfg pid files proc) history

end

end Collector

/-! ### Metrics -/

inductive MemoryField
  | activeAnon
  | inactiveAnon
  | anonTHP
  | shmemTHP
  | fileTHP
  deriving DecidableEq

def MemoryField.all : List MemoryField :=
  [.activeAnon, .inactiveAnon, .anonTHP, .shmemTHP, .fileTHP]

def MemoryStat.get (stat : MemoryStat) : MemoryField → Nat
  | .activeAnon => stat.activeAnon
  | .inactiveAnon => stat.inactiveAnon
  | .anonTHP => stat.anonTHP
  | .shmemTHP => stat.shmemTHP
  | .fileTHP => stat.fileTHP

inductive Desc
  | scrapeErrors
  | lastPoll
  | vmi (field : MemoryField)
  | khugepageCPU
  | ksmdCPU
  | ksmProfit
  | thpSplitPMD
  | thpCollapseAlloc
  | memory (desc : NodeMemory.Desc)
  deriving DecidableEq

/-- The CPU time of a thread is finite. -/
def seconds : Float64 → ℚ
  | .finite value => value
  | _ => 0

def vmiMetrics (nodeName : String) (s : VMIMemStats) : List (Metric Desc) :=
  MemoryField.all.map fun field =>
    ⟨.vmi field, .gauge (Binary64.round (s.memory.get field)),
      [s.namespace_, s.name, nodeName, s.pod]⟩

/-- What is collected of the node beside its free memory. -/
def Node.hostMetrics (node : Node) (nodeName : String) : List (Metric Desc) :=
  (if node.threads.khugepageAvailable then
    [⟨.khugepageCPU, .counter (seconds node.threads.khugepageCPU), [nodeName]⟩]
    else []) ++
  (if node.threads.ksmdAvailable then
    [⟨.ksmdCPU, .counter (seconds node.threads.ksmdCPU), [nodeName]⟩] else []) ++
  (match node.ksmProfit with
    | some profit => [⟨.ksmProfit, .gauge (Binary64.round profit), [nodeName]⟩]
    | none => []) ++
  (match node.vmstat with
    | some vmstat =>
        [⟨.thpSplitPMD, .counter (Binary64.round vmstat.splitPMD), [nodeName]⟩,
          ⟨.thpCollapseAlloc, .counter (Binary64.round vmstat.collapseAlloc),
            [nodeName]⟩]
    | none => [])

def Node.metrics (node : Node) (nodeName : String) : List (Metric Desc) :=
  node.hostMetrics nodeName ++ (node.memory.collect nodeName).map fun metric =>
    ⟨.memory metric.desc, metric.value, metric.labels⟩

def Collector.collect (c : Collector) (nodeName : String) : List (Metric Desc) :=
  [⟨.scrapeErrors, .counter c.scrapeErrors, []⟩, ⟨.lastPoll, .gauge c.lastPollTS, []⟩] ++
    c.vmiResults.flatMap (vmiMetrics nodeName) ++ c.node.metrics nodeName

/-! ### What is reported of the machines -/

theorem Node.hostMetrics_descs (node : Node) (nodeName : String) :
    ((node.hostMetrics nodeName).map Metric.desc).Sublist
      [.khugepageCPU, .ksmdCPU, .ksmProfit, .thpSplitPMD, .thpCollapseAlloc] := by
  have optional : ∀ (available : Bool) (metric : Metric Desc),
      ((if available then [metric] else []).map Metric.desc).Sublist [metric.desc] := by
    intro available metric
    cases available with
    | true => exact .refl _
    | false => exact List.nil_sublist _
  unfold hostMetrics
  rw [List.map_append, List.map_append, List.map_append]
  change List.Sublist _ ([Desc.khugepageCPU] ++ [Desc.ksmdCPU] ++ [Desc.ksmProfit] ++
    [Desc.thpSplitPMD, .thpCollapseAlloc])
  refine (((optional _ _).append (optional _ _)).append ?_).append ?_
  · cases node.ksmProfit with
    | some profit => exact .refl [Desc.ksmProfit]
    | none => exact List.nil_sublist _
  · cases node.vmstat with
    | some vmstat => exact .refl [Desc.thpSplitPMD, .thpCollapseAlloc]
    | none => exact List.nil_sublist _

namespace Collector

variable {mounts : Mounts} {nodeName : String} {sysPath : List Char} {pid : Int}
  {files : FileTree} {proc : Proc}

theorem run_append_singleton (cfg : Config) (history : List PollInput)
    (input : PollInput) :
    run cfg sysPath pid files proc (history ++ [input]) =
      (run cfg sysPath pid files proc history).poll cfg sysPath input :=
  stateAfter_append_singleton _ _ history input

/-- The machines that a poll meets, with what the node has of them. -/
def Meets (mounts : Mounts) (root : CgroupPath) (memory : Nat → Option MemoryStat)
    (input : PollInput) : Prop :=
  ∀ entry ∈ selected input.pods,
    Hosts mounts root (input.world entry.2) entry.1 (memory entry.2)

end Collector

/-! A collector in the cgroup `agent` of a node with one machine. -/

def rootedAt (name : String) (valid : Path.Name name.toList := by
    exact ⟨by decide, by decide, by decide, by decide⟩) : CgroupPath :=
  ⟨[name.toList], fun _ member => List.mem_singleton.mp member ▸ valid⟩

def sampleMounts : Mounts := ⟨rootedAt "proc", rootedAt "cg"⟩

def sampleRow : StatRow where
  line := .ofText "active_anon 8192".toList
  name := "active_anon".toList
  value := 8192
  printed := by decide
  small := by decide

/-- The files of the node, with those in the cgroup of the machine. -/
def sampleTree (counters : List (List Char × FileTree)) : FileTree :=
  .dir
    [("proc".toList, .dir [("42".toList, .dir
        [("cgroup".toList,
          .file (some (procCgroup (rootedAt "vm") (rootedAt "agent"))))])]),
      ("cg".toList, .dir
        [("agent".toList, .dir [(procsName, .file (some "7\n".toList))]),
          ("vm".toList, .dir counters)])]

def sampleFiles : FileTree :=
  sampleTree [("memory.stat".toList, .file (some (StatRow.text [sampleRow])))]

def samplePod : Pod where
  name := "virt-launcher-vm"
  namespace_ := "tenant-a"
  uid := "1"
  phase := .running
  labels := ((∅ : Table String String).insert "kubevirt.io" "virt-launcher").insert
    "vm.kubevirt.io/name" "vm"

/-- A poll of the node at the time `now`. -/
def pollAt (now : Nat) (service : RuntimeService) (files : FileTree) : PollInput where
  pods := [samplePod]
  world _ := ⟨service, files⟩
  proc := ⟨false, [], fun _ => none, fun _ => none, nofun⟩
  files := files
  memory := ⟨none, none, none, none⟩
  orders := ⟨[], [], ⟨[], [], fun _ => [], [], [], []⟩, []⟩
  now := now

def computeService : RuntimeService :=
  ⟨fun _ => some [computeContainer], fun _ => some (infoOf initMembers)⟩

def sampleInput : PollInput := pollAt 3 computeService sampleFiles

end KubevirtMetrics.Cgroup
