import KubevirtMetrics.Kvm.Collector

namespace KubevirtMetrics.Kvm

open Data Cluster Virt

/-! Whether the counters that a poll reports for a pod are those of the process
that runs in it. -/

/-- A process by the domain in its command line. -/
def domainOf (cmdline : Int → Option (List Char)) (pid : Int) :
    Option (List Char) :=
  readDomainName (cmdline pid)

/-- `home` is the pod in which each process runs, which no command line tells:
a process of a domain runs in one of the running virt-launcher pods of the domain,
if there are any. -/
structure Placement (cmdline : Int → Option (List Char)) (store : PodStore)
    (home : Int → Option (String × String)) : Prop where
  placed : ∀ pid domain, domainOf cmdline pid = some domain →
    (∃ pod ∈ store.pods, podDomain pod = some domain) →
      ∃ pod ∈ store.pods, podDomain pod = some domain ∧
        home pid = some (pod.namespace_, pod.name)
  only : ∀ pid place, home pid = some place → ∃ domain,
    domainOf cmdline pid = some domain ∧ ∃ pod ∈ store.pods,
      podDomain pod = some domain ∧ place = (pod.namespace_, pod.name)

/-- The result holds the counters of the one process that runs in its pod. -/
def VmiStats.OfProcess (entries : List DebugFSEntry)
    (home : Int → Option (String × String)) (result : VmiStats) : Prop :=
  ∃ pid ∈ scanDebugFS entries, home pid = some (result.namespace_, result.pod) ∧
    (∀ other ∈ scanDebugFS entries, home other = home pid → other = pid) ∧
      ∀ counter, (result.stats.get counter).toNat = total entries pid counter

def PollAttributes (node : String) (entries : List DebugFSEntry)
    (cmdline : Int → Option (List Char)) (store : PodStore) : Prop :=
  ∀ (c : Collector) (pods : List Pod) (pids : List Int)
    (home : Int → Option (String × String)), pods.Perm store.pods →
    Table.Enumerates pids (scanDebugFS entries) → Placement cmdline store home →
      let results := (c.poll ⟨some entries, cmdline, pods, pids⟩).results
      (results.map (VmiStats.labels node)).Nodup ∧
        ∀ result ∈ results, result.OfProcess entries home

/-- No two of the listed processes, and no two of the running virt-launcher pods,
have one domain; and no counter of a process in a pod wraps. -/
structure Unambiguous (entries : List DebugFSEntry)
    (cmdline : Int → Option (List Char)) (store : PodStore) : Prop where
  processes : ∀ pid ∈ scanDebugFS entries, ∀ other ∈ scanDebugFS entries,
    ∀ domain, domainOf cmdline pid = some domain →
      domainOf cmdline other = some domain →
        (∃ pod ∈ store.pods, podDomain pod = some domain) → pid = other
  pods : ∀ pid ∈ scanDebugFS entries, ∀ domain,
    domainOf cmdline pid = some domain → ∀ pod ∈ store.pods,
      ∀ other ∈ store.pods, podDomain pod = some domain →
        podDomain other = some domain → pod = other
  counters : ∀ pid ∈ scanDebugFS entries, ∀ domain,
    domainOf cmdline pid = some domain →
      (∃ pod ∈ store.pods, podDomain pod = some domain) →
        ∀ counter, total entries pid counter < 2 ^ 64

section Results

variable {store : PodStore} {pods : List Pod} (perm : pods.Perm store.pods)
include perm

/-- The processes of a domain with pods get the name of one of them. -/
theorem visit_of_domain (cmdline : Int → Option (List Char))
    {domain : List Char}
    (launched : ∃ pod ∈ store.pods, podDomain pod = some domain) :
    ∃ pod ∈ store.pods, podDomain pod = some domain ∧ ∃ vmiName,
      parseDomainName domain = some (pod.namespace_.toList, vmiName) ∧
        ∀ pid stats, domainOf cmdline pid = some domain →
          visit cmdline (buildDomainToPodMap pods) pid stats =
            .result ⟨pod.namespace_, String.ofList vmiName, pod.name, stats⟩ := by
  obtain ⟨first, member, launches⟩ := launched
  obtain ⟨name, found⟩ := store.exists_lookup perm member launches
  obtain ⟨pod, member', launches', rfl⟩ := store.lookup_domainToPod perm found
  obtain ⟨vmiName, parsed⟩ :=
    store.parseDomainName_podDomain member' launches'
  refine ⟨pod, member', launches', vmiName, parsed, fun pid stats named => ?_⟩
  have podName : (buildDomainToPodMap pods).getD
      (domainKey pod.namespace_.toList vmiName) "" = pod.name := by
    rw [domainKey_of_parse parsed, Table.getD, found]
    rfl
  rw [domainOf] at named
  simp [visit, named, parsed, podName, store.named pod member']

/-- A result comes from a process of a domain with pods. -/
theorem domain_of_visit {cmdline : Int → Option (List Char)} {pid : Int}
    {stats : PerPIDStats} {result : VmiStats}
    (visited : visit cmdline (buildDomainToPodMap pods) pid stats =
      .result result) :
    ∃ domain, domainOf cmdline pid = some domain ∧
      ∃ pod ∈ store.pods, podDomain pod = some domain := by
  unfold visit at visited
  split at visited
  next => cases visited
  next domain named =>
    refine ⟨domain, named, ?_⟩
    split at visited
    next => cases visited
    next ns vmiName parsed =>
      dsimp only at visited
      split at visited
      next => cases visited
      next nonempty =>
        rw [domainKey_of_parse parsed, Table.getD] at nonempty
        cases found : (buildDomainToPodMap pods).lookup domain with
        | none => simp [found] at nonempty
        | some name =>
            obtain ⟨pod, member, launches, -⟩ :=
              store.lookup_domainToPod perm found
            exact ⟨pod, member, launches⟩

end Results

theorem mem_results {c : Collector} {entries : List DebugFSEntry}
    {cmdline : Int → Option (List Char)} {pods : List Pod} {pids : List Int}
    {result : VmiStats} :
    result ∈ (c.poll ⟨some entries, cmdline, pods, pids⟩).results ↔
      ∃ pid ∈ pids, visit cmdline (buildDomainToPodMap pods) pid
        ((scanDebugFS entries).getD pid .zero) = .result result := by
  simp only [Collector.poll, List.mem_filterMap, List.mem_map]
  constructor
  · rintro ⟨_, ⟨pid, member, rfl⟩, found⟩
    refine ⟨pid, member, ?_⟩
    unfold Visit.result? at found
    split at found
    next visited => rw [visited, Option.some.inj found]
    next => cases found
  · rintro ⟨pid, member, visited⟩
    exact ⟨_, ⟨pid, member, rfl⟩, by rw [visited]; rfl⟩

theorem sublist_of_mem {α : Type} {xs : List α} {x y : α} (inside : x ∈ xs)
    (inside' : y ∈ xs) (differ : x ≠ y) :
    [x, y].Sublist xs ∨ [y, x].Sublist xs := by
  obtain ⟨front, back, rfl⟩ := List.append_of_mem inside
  rcases List.mem_append.mp inside' with before | after
  · right
    exact (List.singleton_sublist.mpr before).append
      (List.singleton_sublist.mpr List.mem_cons_self)
  · left
    rcases List.mem_cons.mp after with rfl | after
    · exact absurd rfl differ
    · exact List.Sublist.trans
        ((List.singleton_sublist.mpr after).cons_cons x)
        (List.sublist_append_right front _)

theorem result?_eq_some {v : Visit} {result : VmiStats} :
    v.result? = some result ↔ v = .result result := by
  cases v <;> simp [Visit.result?]

theorem labels_nodup_iff (node : String) (c : Collector)
    (entries : List DebugFSEntry) (cmdline : Int → Option (List Char))
    (pods : List Pod) {pids : List Int} (nodup : pids.Nodup) :
    ((c.poll ⟨some entries, cmdline, pods, pids⟩).results.map
        (VmiStats.labels node)).Nodup ↔
      ∀ pid ∈ pids, ∀ other ∈ pids, pid ≠ other → ∀ result result',
        visit cmdline (buildDomainToPodMap pods) pid
          ((scanDebugFS entries).getD pid .zero) = .result result →
        visit cmdline (buildDomainToPodMap pods) other
          ((scanDebugFS entries).getD other .zero) = .result result' →
        result.labels node ≠ result'.labels node := by
  simp only [Collector.poll, List.Nodup, List.pairwise_map,
    List.pairwise_filterMap, result?_eq_some]
  constructor
  · intro apart pid listed other listed' differ result result' visited visited'
    -- the two stand in `pids` in one order or the other
    rcases sublist_of_mem listed listed' differ with before | after
    · exact List.pairwise_iff_forall_sublist.mp apart before result visited
        result' visited'
    · exact (List.pairwise_iff_forall_sublist.mp apart after result' visited'
        result visited).symm
  · intro apart
    apply nodup.pairwise_of_forall_ne
    intro pid listed other listed' differ result visited result' visited'
    exact apart pid listed other listed' differ result result' visited visited'

theorem labels_inj {node : String} {pod other : Pod} {vmiName vmiName' : List Char}
    {stats stats' : PerPIDStats} {domain domain' : List Char}
    (parsed : parseDomainName domain = some (pod.namespace_.toList, vmiName))
    (parsed' : parseDomainName domain' = some (other.namespace_.toList, vmiName'))
    (same : VmiStats.labels node
        ⟨pod.namespace_, String.ofList vmiName, pod.name, stats⟩ =
      VmiStats.labels node
        ⟨other.namespace_, String.ofList vmiName', other.name, stats'⟩) :
    domain = domain' := by
  simp only [VmiStats.labels, List.cons.injEq, and_true, true_and,
    String.ofList_inj] at same
  rw [← domainKey_of_parse parsed, ← domainKey_of_parse parsed', same.1, same.2.1]

/-- Each process can be in any pod of its domain. -/
theorem exists_placement (cmdline : Int → Option (List Char)) (store : PodStore)
    {pid : Int} {domain : List Char} {pod : Pod}
    (named : domainOf cmdline pid = some domain) (member : pod ∈ store.pods)
    (launches : podDomain pod = some domain) :
    ∃ home, Placement cmdline store home ∧
      home pid = some (pod.namespace_, pod.name) := by
  classical
  have somewhere : ∀ other, ∃ place : Option (String × String),
      (∀ domain, domainOf cmdline other = some domain →
        (∃ pod ∈ store.pods, podDomain pod = some domain) →
          ∃ pod ∈ store.pods, podDomain pod = some domain ∧
            place = some (pod.namespace_, pod.name)) ∧
      ∀ there, place = some there → ∃ domain,
        domainOf cmdline other = some domain ∧ ∃ pod ∈ store.pods,
          podDomain pod = some domain ∧ there = (pod.namespace_, pod.name) := by
    intro other
    by_cases launched : ∃ domain, domainOf cmdline other = some domain ∧
        ∃ pod ∈ store.pods, podDomain pod = some domain
    · obtain ⟨domain, named, pod, member, launches⟩ := launched
      refine ⟨some (pod.namespace_, pod.name), fun domain' named' _ => ?_, ?_⟩
      · rw [named] at named'
        obtain rfl := Option.some.inj named'
        exact ⟨pod, member, launches, rfl⟩
      · intro there same
        exact ⟨domain, named, pod, member, launches,
          (Option.some.inj same).symm⟩
    · refine ⟨none, fun domain named found => ?_, fun there absent => ?_⟩
      · exact absurd ⟨domain, named, found⟩ launched
      · cases absent
  choose elsewhere placed only using somewhere
  refine ⟨Function.update elsewhere pid (some (pod.namespace_, pod.name)),
    ⟨?_, ?_⟩, Function.update_self ..⟩
  · intro other domain' named' found
    by_cases same : other = pid
    · subst same
      rw [named] at named'
      obtain rfl := Option.some.inj named'
      exact ⟨pod, member, launches, Function.update_self ..⟩
    · rw [Function.update_of_ne same]
      exact placed other domain' named' found
  · intro other there found
    by_cases same : other = pid
    · subst same
      rw [Function.update_self] at found
      exact ⟨domain, named, pod, member, launches, (Option.some.inj found).symm⟩
    · rw [Function.update_of_ne same] at found
      exact only other there found

theorem exists_enumeration (table : Table Int PerPIDStats) :
    ∃ pids, Table.Enumerates pids table :=
  ⟨table.keys.toList, table.keys.nodup_toList, fun pid => by
    rw [Finset.mem_toList, Finmap.mem_keys]⟩

theorem pollAttributes_of_unambiguous (node : String)
    {entries : List DebugFSEntry} {cmdline : Int → Option (List Char)}
    {store : PodStore} (clear : Unambiguous entries cmdline store) :
    PollAttributes node entries cmdline store := by
  intro c pods pids home perm enumerates placement
  constructor
  · rw [labels_nodup_iff _ _ _ _ _ enumerates.nodup]
    intro pid listed other listed' apart result result' visited visited' same
    obtain ⟨domain, named, launched⟩ := domain_of_visit perm visited
    obtain ⟨domain', named', launched'⟩ := domain_of_visit perm visited'
    obtain ⟨pod, -, -, vmiName, parsed, visits⟩ :=
      visit_of_domain perm cmdline launched
    obtain ⟨pod', -, -, vmiName', parsed', visits'⟩ :=
      visit_of_domain perm cmdline launched'
    rw [visits pid _ named] at visited
    rw [visits' other _ named'] at visited'
    obtain rfl := Visit.result.inj visited
    obtain rfl := Visit.result.inj visited'
    obtain rfl := labels_inj parsed parsed' same
    exact apart (clear.processes pid ((enumerates.mem_iff pid).mp listed) other
      ((enumerates.mem_iff other).mp listed') domain named named' launched)
  · intro result member
    obtain ⟨pid, listed, visited⟩ := mem_results.mp member
    have listed' := (enumerates.mem_iff pid).mp listed
    obtain ⟨domain, named, launched⟩ := domain_of_visit perm visited
    obtain ⟨pod, inStore, launches, vmiName, -, visits⟩ :=
      visit_of_domain perm cmdline launched
    rw [visits pid _ named] at visited
    obtain rfl := Visit.result.inj visited
    obtain ⟨place, inStore', launches', lives⟩ :=
      placement.placed pid domain named launched
    obtain rfl := clear.pods pid listed' domain named place inStore' pod inStore
      launches' launches
    refine ⟨pid, listed', lives, fun other listed'' same => ?_, fun counter => ?_⟩
    · rw [lives] at same
      obtain ⟨domain', named', pod', inStore'', launches'', there⟩ :=
        placement.only other _ same
      obtain rfl := store.eq_of_name inStore inStore'' there
      obtain rfl := Option.some.inj (launches.symm.trans launches'')
      exact clear.processes other listed'' pid listed' domain named' named launched
    · rw [getD_scanDebugFS_toNat]
      exact Nat.mod_eq_of_lt
        (clear.counters pid listed' domain named launched counter)

section Converse

variable {node : String} {entries : List DebugFSEntry}
  {cmdline : Int → Option (List Char)} {store : PodStore}
  (attributes : PollAttributes node entries cmdline store)
include attributes

theorem processes_apart {pid other : Int} {domain : List Char}
    (listed : pid ∈ scanDebugFS entries) (listed' : other ∈ scanDebugFS entries)
    (named : domainOf cmdline pid = some domain)
    (named' : domainOf cmdline other = some domain)
    (launched : ∃ pod ∈ store.pods, podDomain pod = some domain) :
    pid = other := by
  by_contra apart
  obtain ⟨pod, -, -, vmiName, -, visits⟩ :=
    visit_of_domain (List.Perm.refl store.pods) cmdline launched
  obtain ⟨pod, member, launches⟩ := launched
  obtain ⟨home, placement, -⟩ := exists_placement cmdline store named member
    launches
  obtain ⟨pids, enumerates⟩ := exists_enumeration (scanDebugFS entries)
  have distinct := (attributes ⟨[], 0⟩ store.pods pids home (List.Perm.refl _)
    enumerates placement).1
  rw [labels_nodup_iff _ _ _ _ _ enumerates.nodup] at distinct
  exact distinct pid ((enumerates.mem_iff pid).mpr listed) other
    ((enumerates.mem_iff other).mpr listed') apart _ _ (visits pid _ named)
    (visits other _ named') rfl

/-- The pod that a poll reports for a process is where it runs, wherever it
runs. -/
theorem reported_is_home {pid : Int} {domain : List Char}
    (listed : pid ∈ scanDebugFS entries)
    (named : domainOf cmdline pid = some domain)
    (launched : ∃ pod ∈ store.pods, podDomain pod = some domain) :
    ∃ reported ∈ store.pods, ∀ home, Placement cmdline store home →
      home pid = some (reported.namespace_, reported.name) ∧
        ∀ counter, total entries pid counter < 2 ^ 64 := by
  obtain ⟨reported, member, launches, vmiName, -, visits⟩ :=
    visit_of_domain (List.Perm.refl store.pods) cmdline launched
  refine ⟨reported, member, fun home placement => ?_⟩
  obtain ⟨pids, enumerates⟩ := exists_enumeration (scanDebugFS entries)
  obtain ⟨process, listed', lives, -, sums⟩ :=
    (attributes ⟨[], 0⟩ store.pods pids home (List.Perm.refl _) enumerates
      placement).2 _ (mem_results.mpr
        ⟨pid, (enumerates.mem_iff pid).mpr listed, visits pid _ named⟩)
  obtain ⟨domain', named', pod, inStore, launches', there⟩ :=
    placement.only process _ lives
  obtain rfl := store.eq_of_name member inStore there
  obtain rfl := Option.some.inj (launches.symm.trans launches')
  obtain rfl := processes_apart attributes listed listed' named named' launched
  refine ⟨lives, fun counter => ?_⟩
  rw [← sums counter]
  exact UInt64.toNat_lt _

theorem unambiguous_of_pollAttributes :
    Unambiguous entries cmdline store where
  processes pid listed other listed' domain named named' launched :=
    processes_apart attributes listed listed' named named' launched
  pods pid listed domain named pod member other member' launches launches' := by
    obtain ⟨reported, inStore, lives⟩ :=
      reported_is_home attributes listed named ⟨pod, member, launches⟩
    have home_eq : ∀ pod ∈ store.pods, podDomain pod = some domain →
        pod = reported := by
      intro pod member launches
      obtain ⟨home, placement, here⟩ := exists_placement cmdline store named
        member launches
      have there := (lives home placement).1
      rw [here] at there
      exact store.eq_of_name member inStore (Option.some.inj there)
    rw [home_eq pod member launches, home_eq other member' launches']
  counters pid listed domain named launched := by
    obtain ⟨reported, -, lives⟩ := reported_is_home attributes listed named launched
    obtain ⟨pod, member, launches⟩ := launched
    obtain ⟨home, placement, -⟩ := exists_placement cmdline store named member
      launches
    exact (lives home placement).2

end Converse

theorem pollAttributes_iff (node : String) (entries : List DebugFSEntry)
    (cmdline : Int → Option (List Char)) (store : PodStore) :
    PollAttributes node entries cmdline store ↔
      Unambiguous entries cmdline store :=
  ⟨unambiguous_of_pollAttributes, pollAttributes_of_unambiguous node⟩

/-! ### Two processes of one domain -/

/-- A virt-launcher pod of the virtual machine `vm` in the namespace `tenant`. -/
def launcherPod (name : String) : Pod where
  name := name
  namespace_ := "tenant"
  uid := name
  phase := .running
  labels := Table.insertAll ∅
    [("kubevirt.io", "virt-launcher"), ("vm.kubevirt.io/name", "vm")]

/-- The pods of a virtual machine that moves to another pod on the same node. -/
def movingStore : PodStore where
  pods := [launcherPod "virt-launcher-old", launcherPod "virt-launcher-new"]
  distinct := by decide
  named := by decide
  namespaced := by simp [launcherPod]

def movingDir (name : String) : DebugFSEntry where
  name := name.toList
  isDir := true
  file _ := some "1".toList

def movingDebugFS : List DebugFSEntry := [movingDir "1000-12", movingDir "2000-12"]

/-- Both processes have the same name on their command lines. -/
def movingCmdline (_ : Int) : Option (List Char) :=
  some ("qemu-kvm".toList ++ Char.ofNat 0 :: "-name".toList ++ Char.ofNat 0 ::
    "guest=tenant_vm,debug-threads=on".toList)

theorem moving_vm_is_not_attributed :
    ¬ PollAttributes "node-1" movingDebugFS movingCmdline movingStore := by
  intro attributes
  have listed : ∀ {pid : Int} (dir : DebugFSEntry), dir ∈ movingDebugFS →
      (dir.isDir && parsePIDFromDir dir.name == some pid) = true →
        pid ∈ scanDebugFS movingDebugFS := by
    intro pid dir member own
    rw [mem_scanDebugFS]
    exact List.ne_nil_of_mem (List.mem_filter.mpr ⟨member, own⟩)
  have named : domainOf movingCmdline 1000 = some "tenant_vm".toList := by
    decide
  have same : (1000 : Int) = 2000 := processes_apart attributes
    (listed (movingDir "1000-12") (by simp [movingDebugFS]) (by decide))
    (listed (movingDir "2000-12") (by simp [movingDebugFS]) (by decide))
    named (by decide)
    ⟨launcherPod "virt-launcher-old", by simp [movingStore], by decide⟩
  omega

end KubevirtMetrics.Kvm
