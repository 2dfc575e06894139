import KubevirtMetrics.Data.Pool
import KubevirtMetrics.Virt.Pods

namespace KubevirtMetrics.Virt

open Data

/-! How a poll of the QMP or the QGA collector brings its connections in line
with the virtual machines of the node. -/

/-- The connections of a collector; the client is named by the number of its
dialling. -/
class Connection (V : Type) where
  client : V → Nat
  closed : V → Bool

/-- How connecting ends: there is no client, there was one but its session could
not be set up, or there is one. -/
inductive ConnectReply
  | refused
  | rejected
  | connected
  deriving DecidableEq

def activeIDs (targets : List Target) : List String :=
  targets.map fun target => target.container.containerID

variable {V : Type}

def closeConn [Connection V] (pool : Pool String V) (conn : V) :
    Pool String V :=
  if Connection.closed conn then pool else pool.close (Connection.client conn)

def sweepEntry [Connection V] (active : List String) (pool : Pool String V)
    (id : String) : Pool String V :=
  match pool.entries.lookup id with
  | none => pool
  | some conn =>
      if active.contains id then pool
      else (closeConn pool conn).erase id

def connectTarget (reply : Nat → ConnectReply) (make : Target × Nat → Nat → V)
    (existing : Table String V) (pool : Pool String V) (entry : Target × Nat) :
    Pool String V :=
  let id := entry.1.container.containerID
  if id ∈ existing then pool
  else
    match reply entry.2 with
    | .refused => pool
    | .rejected => pool.waste
    | .connected =>
        -- a duplicate is closed at once
        if id ∈ pool.entries then pool.waste
        else pool.enter id (make entry)

theorem closeConn_entries [Connection V] (pool : Pool String V) (conn : V) :
    (closeConn pool conn).entries = pool.entries := by
  unfold closeConn
  split
  next => rfl
  next => rfl

theorem lookup_sweepEntry [Connection V] {active : List String}
    {pool : Pool String V} {id key : String} {conn : V}
    (found : (sweepEntry active pool id).entries.lookup key = some conn) :
    pool.entries.lookup key = some conn ∧ (key = id → key ∈ active) := by
  unfold sweepEntry at found
  split at found
  next missing =>
    refine ⟨found, fun same => ?_⟩
    rw [same, missing] at found
    cases found
  next old _ =>
    split at found
    next stays =>
      exact ⟨found, fun same => same ▸ List.contains_iff_mem.mp stays⟩
    next =>
      change ((closeConn pool old).entries.erase id).lookup key =
        some conn at found
      rw [closeConn_entries] at found
      obtain ⟨distinct, before⟩ := Table.of_lookup_erase found
      exact ⟨before, fun same => absurd same distinct⟩

theorem lookup_sweep [Connection V] {active : List String}
    {pool : Pool String V} {order : List String} {key : String} {conn : V}
    (found : (order.foldl (sweepEntry active) pool).entries.lookup key =
      some conn) :
    pool.entries.lookup key = some conn ∧ (key ∈ order → key ∈ active) := by
  induction order generalizing pool with
  | nil => exact ⟨found, fun visited => by cases visited⟩
  | cons id order induction =>
      obtain ⟨kept, later⟩ := induction found
      obtain ⟨before, first⟩ := lookup_sweepEntry kept
      refine ⟨before, fun visited => ?_⟩
      cases visited with
      | head => exact first rfl
      | tail _ visited => exact later visited

section Connecting

variable {reply : Nat → ConnectReply} {make : Target × Nat → Nat → V}
  {existing : Table String V} {pool : Pool String V} {key : String} {conn : V}

theorem lookup_connectTarget {entry : Target × Nat}
    (found : (connectTarget reply make existing pool entry).entries.lookup
      key = some conn) :
    pool.entries.lookup key = some conn ∨
      (key = entry.1.container.containerID ∧
        ∃ client, conn = make entry client) := by
  simp only [connectTarget] at found
  split at found
  next => exact .inl found
  next =>
    split at found
    next => exact .inl found
    next => exact .inl found
    next =>
      split at found
      next => exact .inl found
      next =>
        rcases Table.of_lookup_insert found with ⟨same, rfl⟩ | earlier
        · exact .inr ⟨same, pool.opened, rfl⟩
        · exact .inl earlier

theorem lookup_connectTargets {entries : List (Target × Nat)}
    (found : (entries.foldl (connectTarget reply make existing)
      pool).entries.lookup key = some conn) :
    pool.entries.lookup key = some conn ∨ ∃ entry ∈ entries,
      key = entry.1.container.containerID ∧
        ∃ client, conn = make entry client := by
  induction entries generalizing pool with
  | nil => exact .inl found
  | cons entry entries induction =>
      rcases induction found with earlier | ⟨other, later, same⟩
      · rcases lookup_connectTarget earlier with earlier | same
        · exact .inl earlier
        · exact .inr ⟨entry, List.mem_cons_self, same⟩
      · exact .inr ⟨other, List.mem_cons_of_mem entry later, same⟩

/-- After a poll has swept the pool and dialled the new containers, an entry was
there before or was made for a target. -/
theorem lookup_reconnect [Connection V] {targets : List Target}
    {order : List String} (swept : Table.Enumerates order pool.entries)
    (found : (targets.zipIdx.foldl (connectTarget reply make existing)
      (order.foldl (sweepEntry (activeIDs targets)) pool)).entries.lookup key =
        some conn) :
    (pool.entries.lookup key = some conn ∧ key ∈ activeIDs targets) ∨
      ∃ entry ∈ targets.zipIdx, key = entry.1.container.containerID ∧
        ∃ client, conn = make entry client := by
  rcases lookup_connectTargets found with kept | made
  · obtain ⟨before, active⟩ := lookup_sweep kept
    have present : key ∈ pool.entries := Finmap.mem_of_lookup_eq_some before
    exact .inl ⟨before, active ((swept.mem_iff key).mpr present)⟩
  · exact .inr made

theorem mem_activeIDs_of_reconnect [Connection V] {targets : List Target}
    {order : List String} (swept : Table.Enumerates order pool.entries)
    (found : (targets.zipIdx.foldl (connectTarget reply make existing)
      (order.foldl (sweepEntry (activeIDs targets)) pool)).entries.lookup key =
        some conn) : key ∈ activeIDs targets := by
  rcases lookup_reconnect swept found with ⟨-, active⟩ | ⟨entry, visited, same, -⟩
  · exact active
  · rw [same]
    exact List.mem_map_of_mem (List.fst_mem_of_mem_zipIdx visited)

end Connecting

/-! ### Pods and their containers -/

/-- CRI names `owner` for every container that it finds. -/
def NamedBy (owner : String → String × String) (targets : List Target) : Prop :=
  ∀ target ∈ targets, owner target.container.containerID =
    (target.pod.namespace_, target.pod.podName)

theorem NamedBy.injOn {owner : String → String × String} {pods : List PodInfo}
    {find : Nat → Option ContainerInfo}
    (named : NamedBy owner (targets pods find))
    (distinct : (pods.map fun pod => (pod.namespace_, pod.podName)).Nodup)
    {id other : String} (active : id ∈ activeIDs (targets pods find))
    (active' : other ∈ activeIDs (targets pods find))
    (same : owner id = owner other) : id = other := by
  obtain ⟨target, isTarget, rfl⟩ := List.mem_map.mp active
  obtain ⟨target', isTarget', rfl⟩ := List.mem_map.mp active'
  rw [named target isTarget, named target' isTarget'] at same
  obtain ⟨i, pod, container⟩ := mem_targets.mp isTarget
  obtain ⟨j, pod', container'⟩ := mem_targets.mp isTarget'
  have index : i = j := by
    have atI : (pods.map fun pod => (pod.namespace_, pod.podName))[i]? =
        some (target.pod.namespace_, target.pod.podName) := by
      rw [List.getElem?_map, pod]
      rfl
    have atJ : (pods.map fun pod => (pod.namespace_, pod.podName))[j]? =
        some (target'.pod.namespace_, target'.pod.podName) := by
      rw [List.getElem?_map, pod']
      rfl
    obtain ⟨inside, -⟩ := List.getElem?_eq_some_iff.mp atI
    exact (List.getElem?_inj inside distinct).mp (by rw [atI, atJ, same])
  subst index
  rw [container] at container'
  rw [Option.some.inj container']

end KubevirtMetrics.Virt
