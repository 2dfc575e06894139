import KubevirtMetrics.Cgroup.CgroupPath
import KubevirtMetrics.Cgroup.ProcFile
import KubevirtMetrics.Cri.Client
import KubevirtMetrics.Data.FileTree

namespace KubevirtMetrics.Cgroup

open Data Cluster Virt Cri

/-! The memory of the virtual machines: `memory.go`, `vmstat.go` and the loop of `poll`
over the pods. -/

/-! ### The cgroup of the collector -/

def segments (path : List Char) : List (List Char) := (path.splitOn '/').filter (· ≠ [])

/-- `filepath.Rel`. -/
def rel (basepath targpath : List Char) : Option (List Char) :=
  let base := Path.clean basepath
  let targ := Path.clean targpath
  if targ = base then some ['.']
  else
    let base := if base = ['.'] then [] else base
    if (base.head? == some '/') ≠ (targ.head? == some '/') then none
    else
      let rest := diverge (segments base) (segments targ)
      if rest.1.head? = some ['.', '.'] ∧ rest.2 ≠ [] then none
      else some (['/'].intercalate (List.replicate rest.1.length ['.', '.'] ++ rest.2))

def procsName : List Char := "cgroup.procs".toList

def listsPID (pidStr data : List Char) : Bool :=
  ((Text.trimSpace data).splitOn '\n').contains pidStr

/-- The function that `findSelfCgroup` gives to the walk, for one of its visits. -/
def selfVisit (pidStr cgroupRoot : List Char) (visit : List (List Char) × FileTree) :
    Option (List Char) :=
  let path := visit.1.foldl (fun path name => Path.join [path, name]) cgroupRoot
  if (Path.names path).getLast? ≠ some procsName then none
  else
    match visit.2.content? with
    | none => none
    | some data =>
        -- an error of `Rel` is not looked at
        if listsPID pidStr data then
          some ('/' :: (rel cgroupRoot (Path.dir path)).getD [])
        else none

/-- A root that is not there is an error that the walk swallows. -/
def findSelfCgroup (pid : Int) (files : FileTree) (cgroupRoot : List Char) :
    Option (List Char) :=
  (files.find? (Path.names cgroupRoot)).bind fun tree =>
    tree.visits.findSome? (selfVisit (Text.itoa pid) cgroupRoot)

/-! ### Counters by name -/

/-- The values of a file with a name and a number on each line. -/
def statValues (lines : List (List Char)) : Table (List Char) Nat :=
  lines.foldl
    (fun values line =>
      match Text.fields line with
      | [name, number] =>
          match Text.parseUint? 64 number with
          | some v => values.insert name v
          | none => values
      | _ => values) ∅

structure MemoryStat where
  activeAnon : Nat
  inactiveAnon : Nat
  anonTHP : Nat
  shmemTHP : Nat
  fileTHP : Nat
  deriving DecidableEq

/-- A counter that is missing is 0. -/
def MemoryStat.of (value : String → Nat) : MemoryStat where
  activeAnon := value "active_anon"
  inactiveAnon := value "inactive_anon"
  anonTHP := value "anon_thp"
  shmemTHP := value "shmem_thp"
  fileTHP := value "file_thp"

def readMemoryStat (files : FileTree) (cgroupRoot cgroupPath : List Char) :
    Option MemoryStat := do
  let content ← files.readFile (Path.join [cgroupRoot, cgroupPath, "memory.stat".toList])
  let (lines, complete) := scanned content
  if complete then
    some (.of fun name => (statValues lines).getD name.toList 0)
  else none

structure VMStatTHP where
  splitPMD : Nat
  collapseAlloc : Nat

def readVMStatTHP (files : FileTree) (procPath : List Char) : Option VMStatTHP := do
  let content ← files.readFile (Path.join [procPath, "vmstat".toList])
  let (lines, complete) := scanned content
  let values := statValues lines
  if complete then
    if "thp_split_pmd".toList ∉ values ∧ "thp_collapse_alloc".toList ∉ values then none
    else some ⟨values.getD "thp_split_pmd".toList 0,
      values.getD "thp_collapse_alloc".toList 0⟩
  else none

/-! ### The loop over the pods -/

structure Config where
  nodeName : String
  procPath : List Char
  cgroupRoot : List Char

structure VMIMemStats where
  namespace_ : String
  name : String
  pod : String
  memory : MemoryStat
  deriving DecidableEq

def select (pod : Pod) : Option PodInfo :=
  if pod.phase ≠ .running then none
  else if pod.labels.getD "kubevirt.io" "" ≠ "virt-launcher" then none
  else
    let vmiName := pod.labels.getD "vm.kubevirt.io/name" ""
    if vmiName = "" then none else some ⟨pod.namespace_, pod.name, vmiName⟩

/-- The node while one pod is looked at. -/
structure World where
  service : RuntimeService
  files : FileTree

/-- An error is only counted. -/
def pollPod (cfg : Config) (cgroupNSRoot : List Char) (world : World) (pod : PodInfo) :
    Option VMIMemStats := do
  let info ← (findComputePID world.service pod.podName pod.namespace_).toOption
  let data ← world.files.readFile
    (Path.join [cfg.procPath, Text.itoa info.pid, "cgroup".toList])
  let cgroupPath ← readCgroupV2Path data
  let stat ← readMemoryStat world.files cfg.cgroupRoot
    (resolveCgroupPath cgroupPath cgroupNSRoot)
  some ⟨pod.namespace_, pod.vmiName, pod.podName, stat⟩

structure Polled where
  results : List VMIMemStats
  scrapeErrors : Nat

/-- One pass of the loop; the pods are numbered. -/
def pollStep (cfg : Config) (cgroupNSRoot : List Char) (world : Nat → World)
    (polled : Polled) (entry : Pod × Nat) : Polled :=
  match select entry.1 with
  | none => polled
  | some pod =>
      match pollPod cfg cgroupNSRoot (world entry.2) pod with
      | none => { polled with scrapeErrors := polled.scrapeErrors + 1 }
      | some stats => { polled with results := polled.results ++ [stats] }

def pollPods (cfg : Config) (cgroupNSRoot : List Char) (world : Nat → World)
    (pods : List Pod) :
    Polled :=
  pods.zipIdx.foldl (pollStep cfg cgroupNSRoot world) ⟨[], 0⟩

/-! ### Where the collector runs -/

/-- The process is in the cgroup `path` of the hierarchy mounted at `root`. -/
def Holds (files : FileTree) (root : CgroupPath) (pid : Int) (path : CgroupPath) : Prop :=
  ∃ data, files.find? (root.names ++ path.names ++ [procsName]) =
    some (.file (some data)) ∧
    listsPID (Text.itoa pid) data = true

section Self

variable {files : FileTree} {root : CgroupPath} {entries : List (List Char × FileTree)}
  {pid : Int}

variable (distinct : files.Distinct) (named : files.Named)
  (mounted : files.find? root.names = some (.dir entries))

include mounted

include distinct named

end Self

/-! ### Counters as the kernel prints them -/

/-- A line with a name and a number. -/
structure StatRow where
  line : ProcLine
  name : List Char
  value : Nat
  printed : Text.fields line.text = [name, Text.numeral value]
  small : value < 2 ^ 64

def StatRow.text (rows : List StatRow) : List Char := procText (rows.map StatRow.line)

/-- The last line of a name counts. -/
def StatRow.value? (rows : List StatRow) (name : List Char) : Option Nat :=
  (rows.reverse.find? (·.name = name)).map StatRow.value

/-- A file that is not there, or in which a line is too long for the scanner. -/
def Unscanned (content : Option (List Char)) : Prop :=
  ∀ data, content = some data →
    ∃ line ∈ data.splitOn '\n', lineFits line = false

/-- Where `/proc` and the hierarchy are mounted. -/
structure Mounts where
  proc : CgroupPath
  hierarchy : CgroupPath

def Mounts.config (mounts : Mounts) (nodeName : String) : Config :=
  ⟨nodeName, mounts.proc.text, mounts.hierarchy.text⟩

/-- The compute container of a pod runs as the process `pid`. -/
def RunsAs (service : RuntimeService) (pod : PodInfo) (pid : Int) : Prop :=
  ∃ containers container answer,
    RunsCompute containers pod.podName pod.namespace_ container ∧
    DescribesPID pid container.info ∧
    service.listContainers (computeFilter pod.podName pod.namespace_) =
      some answer ∧
    answer.Perm
      (containers.filter (computeFilter pod.podName pod.namespace_).accepts) ∧
    service.containerStatus container.id = some container.info

/-- What the node has at `/proc/<pid>/cgroup`. -/
def cgroupFile (mounts : Mounts) (files : FileTree) (pid : Int) :
    Option (List Char) :=
  files.contentAt (mounts.proc.names ++ [Text.itoa pid, "cgroup".toList])

/-- What the node has in the file `memory.stat` of a cgroup. -/
def statFile (mounts : Mounts) (files : FileTree) (target : CgroupPath) :
    Option (List Char) :=
  files.contentAt
    (mounts.hierarchy.names ++ target.names ++ ["memory.stat".toList])

/-- The process is in the cgroup `target`; `root` is the root of the collector's own
namespace. -/
structure IsIn (mounts : Mounts) (root : CgroupPath) (files : FileTree) (pid : Int)
    (target : CgroupPath) : Prop where
  printed : cgroupFile mounts files pid = some (procCgroup target root)
  visible : ∀ name ∈ target.names, name.all (!Text.isSpace ·) = true

def usage (rows : List StatRow) : MemoryStat :=
  .of fun name => (StatRow.value? rows name.toList).getD 0

/-- What the node has of a machine: its memory, or what is missing of it. -/
inductive Hosts (mounts : Mounts) (root : CgroupPath) (world : World) (pod : PodInfo) :
    Option MemoryStat → Prop
  | running {pid : Int} {target : CgroupPath} {rows : List StatRow}
      (runs : RunsAs world.service pod pid)
      (inside : IsIn mounts root world.files pid target)
      (counters : statFile mounts world.files target = some (StatRow.text rows)) :
      Hosts mounts root world pod (some (usage rows))
  /-- The runtime does not answer. -/
  | unlisted (failed : world.service.listContainers
      (computeFilter pod.podName pod.namespace_) = none) :
      Hosts mounts root world pod none
  | absent (listed : world.service.listContainers
      (computeFilter pod.podName pod.namespace_) = some []) :
      Hosts mounts root world pod none
  /-- The runtime does not know the container any more. -/
  | forgotten {container : Container} {others : List Container}
      (listed : world.service.listContainers
        (computeFilter pod.podName pod.namespace_) = some (container :: others))
      (failed : world.service.containerStatus container.id = none) :
      Hosts mounts root world pod none
  /-- What the runtime says about the container has no process in it. -/
  | undescribed {container : Container} {others : List Container}
      {info : Table String (List Char)} {error : CRIError}
      (listed : world.service.listContainers
        (computeFilter pod.podName pod.namespace_) = some (container :: others))
      (asked : world.service.containerStatus container.id = some info)
      (silent : parsePID info = .error error) :
      Hosts mounts root world pod none
  /-- The process has ended. -/
  | ended {pid : Int} (runs : RunsAs world.service pod pid)
      (gone : cgroupFile mounts world.files pid = none) :
      Hosts mounts root world pod none
  /-- No line is about the hierarchy of version 2. -/
  | unattached {pid : Int} {data : List Char}
      (runs : RunsAs world.service pod pid)
      (printed : cgroupFile mounts world.files pid = some data)
      (elsewhere : ∀ line ∈ (Text.trimSpace data).splitOn '\n',
        ¬ ['0', ':', ':'] <+: line) :
      Hosts mounts root world pod none
  /-- The cgroup is gone, or its counters cannot be read to the end. -/
  | unmeasured {pid : Int} {target : CgroupPath}
      (runs : RunsAs world.service pod pid)
      (inside : IsIn mounts root world.files pid target)
      (unscanned : Unscanned (statFile mounts world.files target)) :
      Hosts mounts root world pod none

theorem RunsAs.found {service : RuntimeService} {pod : PodInfo} {pid : Int}
    (runs : RunsAs service pod pid) :
    ∃ id, findComputePID service pod.podName pod.namespace_ = .ok ⟨id, pid⟩ := by
  obtain ⟨containers, container, answer, compute, describes, listed, complete,
    asked⟩ := runs
  exact ⟨container.id,
    findComputePID_running compute describes listed complete asked⟩

/-- The pods that the loop does not skip, with their numbers. -/
def selected (pods : List Pod) : List (PodInfo × Nat) :=
  pods.zipIdx.filterMap fun entry => (select entry.1).map fun pod => (pod, entry.2)

def reported (memory : Nat → Option MemoryStat) (entry : PodInfo × Nat) :
    Option VMIMemStats :=
  (memory entry.2).map fun memory =>
    ⟨entry.1.namespace_, entry.1.vmiName, entry.1.podName, memory⟩

end KubevirtMetrics.Cgroup
