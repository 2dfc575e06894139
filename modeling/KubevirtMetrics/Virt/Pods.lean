import KubevirtMetrics.Cluster.Objects
import KubevirtMetrics.Data.Text

namespace KubevirtMetrics.Virt

open Data Cluster

/-! How the QMP and the QGA collector choose the virtual machines of a poll. -/

def matchesLabelFilter (labels : Table String String) (filter : String) :
    Bool :=
  (filter.toList.splitOn ',').all fun part =>
    match Text.cut? '=' (Text.trimSpace part) with
    | none => true
    | some (key, value) =>
        labels.getD (String.ofList key) "" == String.ofList value

structure PodFilter where
  namespaces : List String
  labelFilter : String

structure PodInfo where
  namespace_ : String
  podName : String
  vmiName : String
  deriving DecidableEq

def PodFilter.select (filter : PodFilter) (pod : Pod) : Option PodInfo :=
  if pod.phase ≠ .running then none
  else if pod.labels.getD "kubevirt.io" "" ≠ "virt-launcher" then none
  else if filter.labelFilter ≠ "" &&
      !matchesLabelFilter pod.labels filter.labelFilter then none
  else if !filter.namespaces.isEmpty &&
      !filter.namespaces.contains pod.namespace_ then none
  else
    let vmiName := pod.labels.getD "vm.kubevirt.io/name" ""
    if vmiName = "" then none
    else some ⟨pod.namespace_, pod.name, vmiName⟩

def PodFilter.allPods (filter : PodFilter) (pods : List Pod) : List PodInfo :=
  pods.filterMap filter.select

theorem PodFilter.select_names {filter : PodFilter} {pod : Pod} {info : PodInfo}
    (selected : filter.select pod = some info) :
    info.namespace_ = pod.namespace_ ∧ info.podName = pod.name := by
  simp only [select, Option.ite_none_left_eq_some] at selected
  obtain ⟨-, -, -, -, -, made⟩ := selected
  exact Option.some.inj made ▸ ⟨rfl, rfl⟩

theorem PodFilter.allPods_nodup (filter : PodFilter) {pods : List Pod}
    (distinct : (pods.map fun pod => (pod.namespace_, pod.name)).Nodup) :
    ((filter.allPods pods).map fun pod =>
      (pod.namespace_, pod.podName)).Nodup := by
  refine List.pairwise_map.mpr (List.pairwise_filterMap.mpr ?_)
  refine (List.pairwise_map.mp distinct).imp ?_
  intro pod other apart info selected info' selected' same
  obtain ⟨ns, name⟩ := select_names selected
  obtain ⟨ns', name'⟩ := select_names selected'
  rw [ns, name, ns', name'] at same
  exact apart same

structure ContainerInfo where
  containerID : String
  pid : Int

structure Target where
  pod : PodInfo
  container : ContainerInfo

/-- The pods whose compute container was found; `find` holds the answers of
`FindComputePID` in the order of the pods. -/
def targets (pods : List PodInfo) (find : Nat → Option ContainerInfo) :
    List Target :=
  pods.zipIdx.filterMap fun entry =>
    (find entry.2).map fun container => ⟨entry.1, container⟩

theorem mem_targets {pods : List PodInfo} {find : Nat → Option ContainerInfo}
    {target : Target} :
    target ∈ targets pods find ↔
      ∃ i, pods[i]? = some target.pod ∧ find i = some target.container := by
  unfold targets
  rw [List.mem_filterMap]
  constructor
  · intro ⟨entry, member, found⟩
    obtain ⟨container, answer, rfl⟩ := Option.map_eq_some_iff.mp found
    exact ⟨entry.2, List.mem_zipIdx_iff_getElem?.mp member, answer⟩
  · intro ⟨i, pod, answer⟩
    refine ⟨(target.pod, i), List.mem_zipIdx_iff_getElem?.mpr pod, ?_⟩
    rw [answer]
    rfl

end KubevirtMetrics.Virt
