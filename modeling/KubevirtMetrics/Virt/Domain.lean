import KubevirtMetrics.Cluster.Objects
import KubevirtMetrics.Data.Text

namespace KubevirtMetrics.Virt

open Data Cluster

/-! `vmi.go`: from the command line of a process to its domain, and from a domain
to the pod of its virtual machine. -/

def trimGuest (name : List Char) : List Char :=
  let guest := "guest=".toList
  if guest.isPrefixOf name then name.drop guest.length else name

def domainArgument : List (List Char) → Option (List Char)
  | [] => none
  | arg :: rest =>
      if arg = "-name".toList then
        match rest with
        | [] => none
        | next :: _ =>
            let name := (trimGuest next).takeWhile (· ≠ ',')
            if name ≠ [] then some name else domainArgument rest
      else domainArgument rest

/-- The content of the file `cmdline` of a process, if it can be read. -/
def readDomainName (cmdline : Option (List Char)) : Option (List Char) :=
  match cmdline with
  | none => none
  | some data => domainArgument (data.splitOn (Char.ofNat 0))

def parseDomainName (domain : List Char) : Option (List Char × List Char) :=
  match Text.cut? '_' domain with
  | none => none
  | some (ns, name) => if ns = [] then none else some (ns, name)

/-- The virtual machine of a running virt-launcher pod. -/
def launcherVMI (pod : Pod) : Option String :=
  if pod.phase ≠ .running then none
  else if pod.labels.getD "kubevirt.io" "" ≠ "virt-launcher" then none
  else
    let vmiName := pod.labels.getD "vm.kubevirt.io/name" ""
    if vmiName = "" then none else some vmiName

def domainKey (ns vmiName : List Char) : List Char := ns ++ '_' :: vmiName

def podDomain (pod : Pod) : Option (List Char) :=
  (launcherVMI pod).map fun vmiName =>
    domainKey pod.namespace_.toList vmiName.toList

/-- The pods are in the order in which the store lists them. -/
def buildDomainToPodMap (pods : List Pod) : Table (List Char) String :=
  Table.insertAll ∅ (pods.filterMap fun pod =>
    (podDomain pod).map fun domain => (domain, pod.name))

/-- A pod store.  It has one pod for a namespace and name, and the names are
those that Kubernetes allows: none is empty, and there is no underscore in the
name of a namespace. -/
structure PodStore where
  pods : List Pod
  distinct : (pods.map fun pod => (pod.namespace_, pod.name)).Nodup
  named : ∀ pod ∈ pods, pod.name ≠ ""
  namespaced : ∀ pod ∈ pods,
    pod.namespace_ ≠ "" ∧ ∀ c ∈ pod.namespace_.toList, c ≠ '_'

theorem domainKey_of_parse {domain ns name : List Char}
    (parsed : parseDomainName domain = some (ns, name)) :
    domainKey ns name = domain := by
  unfold parseDomainName at parsed
  split at parsed
  next => cases parsed
  next cut =>
    split at parsed
    next => cases parsed
    next =>
      obtain ⟨rfl, rfl⟩ := Prod.mk.inj (Option.some.inj parsed)
      exact (Text.cut?_eq_some cut).symm

namespace PodStore

variable (store : PodStore)

theorem eq_of_name {pod other : Pod} (member : pod ∈ store.pods)
    (member' : other ∈ store.pods)
    (same : (pod.namespace_, pod.name) = (other.namespace_, other.name)) :
    pod = other :=
  List.inj_on_of_nodup_map store.distinct member member' same

/-- The domain of a pod names its namespace. -/
theorem parseDomainName_podDomain {pod : Pod} {domain : List Char}
    (member : pod ∈ store.pods) (launches : podDomain pod = some domain) :
    ∃ vmiName, parseDomainName domain = some (pod.namespace_.toList, vmiName) := by
  obtain ⟨vmiName, -, rfl⟩ := Option.map_eq_some_iff.mp launches
  obtain ⟨nonempty, absent⟩ := store.namespaced pod member
  refine ⟨vmiName.toList, ?_⟩
  simp [parseDomainName, domainKey, Text.cut?_append _ absent, nonempty]

theorem lookup_domainToPod {order : List Pod} (perm : order.Perm store.pods)
    {domain : List Char} {name : String}
    (found : (buildDomainToPodMap order).lookup domain = some name) :
    ∃ pod ∈ store.pods, podDomain pod = some domain ∧ pod.name = name := by
  rcases Table.mem_of_lookup_insertAll found with member | absent
  · obtain ⟨pod, listed, entry⟩ := List.mem_filterMap.mp member
    obtain ⟨_, launches, same⟩ := Option.map_eq_some_iff.mp entry
    obtain ⟨rfl, rfl⟩ := Prod.mk.inj same
    exact ⟨pod, perm.mem_iff.mp listed, launches, rfl⟩
  · cases absent

theorem exists_lookup {order : List Pod} (perm : order.Perm store.pods)
    {pod : Pod} {domain : List Char} (member : pod ∈ store.pods)
    (launches : podDomain pod = some domain) :
    ∃ name, (buildDomainToPodMap order).lookup domain = some name := by
  have entry : (domain, pod.name) ∈ order.filterMap fun pod =>
      (podDomain pod).map fun domain => (domain, pod.name) :=
    List.mem_filterMap.mpr ⟨pod, perm.mem_iff.mpr member, by rw [launches]; rfl⟩
  obtain ⟨name, -, found⟩ := Table.exists_lookup_insertAll ∅ entry
  exact ⟨name, found⟩

end PodStore

end KubevirtMetrics.Virt
