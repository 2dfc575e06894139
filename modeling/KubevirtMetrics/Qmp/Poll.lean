import Mathlib.Data.List.Forall2
import KubevirtMetrics.Data.Run
import KubevirtMetrics.Qmp.Scrape
import KubevirtMetrics.Virt.Connect

namespace KubevirtMetrics.Qmp

open Data Virt Cluster

/-! `poll` of `collector.go`. -/

/-- The state of the collector.  `pool.entries` is the map `connections`; the
pool also knows every client that was ever dialled. -/
structure Collector where
  results : List VMIResult
  scrapeErrors : Nat
  lastPollTS : Nat
  pool : Pool String VMConnection

def Collector.init : Collector := ⟨[], 0, 0, .empty⟩

/-- Everything a poll reads.  Replies are given by the position of the pod or
target; maps are iterated, and scrapes completed, in the orders given. -/
structure PollInput where
  pods : List Pod
  findPod : Nat → Option ContainerInfo
  findTarget : Nat → Option ContainerInfo
  connect : Nat → ConnectReply
  fetch : Nat → FetchReply
  answers : String → Answers
  sweepOrder : List String
  completionOrder : List String
  now : Nat

def PollerConfig.filter (cfg : PollerConfig) : PodFilter :=
  ⟨cfg.namespaces, cfg.labelFilter⟩

def PollInput.targets (cfg : PollerConfig) (input : PollInput) : List Target :=
  Virt.targets (cfg.filter.allPods input.pods) input.findPod

instance : Connection VMConnection := ⟨VMConnection.client, VMConnection.closed⟩

/-- `connectVM`, which asks CRI for the container again. -/
def PollInput.reply (input : PollInput) (i : Nat) : ConnectReply :=
  match input.findTarget i with
  | none => .refused
  | some _ => input.connect i

def PollInput.make (input : PollInput) (entry : Target × Nat) (client : Nat) :
    VMConnection :=
  newConnection entry.1.pod (input.fetch entry.2) client

structure Scraping where
  pool : Pool String VMConnection
  results : List VMIResult
  scrapeErrors : Nat

/-- One scrape goroutine, up to the end of its critical section. -/
def finishScrape (cfg : PollerConfig) (input : PollInput)
    (snapshot : Table String VMConnection) (s : Scraping) (id : String) :
    Scraping :=
  match snapshot.lookup id with
  | none => s
  | some conn =>
      let outcome := conn.scrapeVM cfg (conn.client ∈ s.pool.closed)
        (input.answers id)
      let pool := s.pool.replace id outcome.conn
      let pool :=
        if outcome.clientClosed then pool.close conn.client else pool
      match outcome.result with
      | none =>
          ⟨(closeConn pool outcome.conn).erase id, s.results,
            s.scrapeErrors + 1⟩
      | some result => ⟨pool, s.results ++ [result], s.scrapeErrors⟩

namespace Collector

def sweep (cfg : PollerConfig) (c : Collector) (input : PollInput) :
    Pool String VMConnection :=
  input.sweepOrder.foldl (sweepEntry (activeIDs (input.targets cfg))) c.pool

def connectAll (cfg : PollerConfig) (c : Collector) (input : PollInput) :
    Pool String VMConnection :=
  (input.targets cfg).zipIdx.foldl
    (connectTarget input.reply input.make (c.sweep cfg input).entries) (c.sweep cfg input)

def scrapeAll (cfg : PollerConfig) (c : Collector) (input : PollInput) :
    Scraping :=
  input.completionOrder.foldl
    (finishScrape cfg input (c.connectAll cfg input).entries)
    ⟨c.connectAll cfg input, [], 0⟩

def poll (cfg : PollerConfig) (c : Collector) (input : PollInput) :
    Collector :=
  let s := c.scrapeAll cfg input
  { results := s.results
    scrapeErrors := c.scrapeErrors + s.scrapeErrors
    lastPollTS := input.now
    pool := s.pool }

/-- The orders in which a poll iterates over the map and in which its scrapes end
are orders of what there is at that time. -/
structure Admissible (cfg : PollerConfig) (c : Collector) (input : PollInput) :
    Prop where
  sweepOrder : Table.Enumerates input.sweepOrder c.pool.entries
  completionOrder : Table.Enumerates input.completionOrder
    (c.connectAll cfg input).entries

instance (cfg : PollerConfig) (c : Collector) (input : PollInput) :
    Decidable (Admissible cfg c input) :=
  decidable_of_iff
    (Table.Enumerates input.sweepOrder c.pool.entries ∧
      Table.Enumerates input.completionOrder (c.connectAll cfg input).entries)
    ⟨fun orders => ⟨orders.1, orders.2⟩,
      fun orders => ⟨orders.sweepOrder, orders.completionOrder⟩⟩

def run (cfg : PollerConfig) (history : List PollInput) : Collector :=
  stateAfter (poll cfg) init history

theorem run_append_singleton (cfg : PollerConfig) (history : List PollInput)
    (input : PollInput) :
    run cfg (history ++ [input]) = (run cfg history).poll cfg input :=
  stateAfter_append_singleton (poll cfg) init history input

def Runs (cfg : PollerConfig) (history : List PollInput) : Prop :=
  Throughout (fun before input => Admissible cfg (run cfg before) input) history

end Collector

/-! ### Clients and connections -/

structure Healthy (pool : Pool String VMConnection) : Prop where
  sound : pool.Sound VMConnection.client
  opened : ∀ id conn, pool.entries.lookup id = some conn → conn.closed = false

theorem healthy_empty : Healthy .empty where
  sound := Pool.sound_empty
  opened id conn found := by simp [Pool.empty] at found

theorem closeConn_of_open {pool : Pool String VMConnection}
    {conn : VMConnection} (opened : conn.closed = false) :
    closeConn pool conn = pool.close conn.client := by
  simp [closeConn, Connection.closed, Connection.client, opened]

theorem Healthy.drop {pool : Pool String VMConnection} (healthy : Healthy pool)
    {id : String} {conn : VMConnection}
    (found : pool.entries.lookup id = some conn) :
    Healthy ((pool.close conn.client).erase id) where
  sound := healthy.sound.close_erase found
  opened other conn' found' := by
    exact healthy.opened other conn' (Table.of_lookup_erase found').2

theorem Healthy.sweepEntry {pool : Pool String VMConnection}
    (healthy : Healthy pool) (active : List String) (id : String) :
    Healthy (sweepEntry active pool id) := by
  unfold Virt.sweepEntry
  split
  next => exact healthy
  next conn found =>
    split
    next => exact healthy
    next =>
      rw [closeConn_of_open (healthy.opened id conn found)]
      exact healthy.drop found

theorem Healthy.connectTarget {pool : Pool String VMConnection}
    (healthy : Healthy pool) (input : PollInput)
    (existing : Table String VMConnection) (entry : Target × Nat) :
    Healthy (connectTarget input.reply input.make existing pool entry) := by
  have wasted : Healthy pool.waste := ⟨healthy.sound.waste, healthy.opened⟩
  simp only [Virt.connectTarget]
  split
  next => exact healthy
  next =>
    split
    next => exact healthy
    next => exact wasted
    next =>
      split
      next => exact wasted
      next absent =>
        refine ⟨healthy.sound.enter ?_ rfl, fun other conn found => ?_⟩
        · exact Finmap.lookup_eq_none.mpr absent
        · rcases Table.of_lookup_insert found with ⟨-, rfl⟩ | earlier
          · rfl
          · exact healthy.opened other conn earlier

theorem Healthy.clients {pool : Pool String VMConnection}
    (healthy : Healthy pool) {n : Nat} (dialled : n < pool.opened) :
    (n ∈ pool.closed ∧ ∀ id conn,
      pool.entries.lookup id = some conn → conn.client ≠ n) ∨
    (n ∉ pool.closed ∧ ∃! id, ∃ conn,
      pool.entries.lookup id = some conn ∧ conn.client = n) := by
  by_cases closed : n ∈ pool.closed
  · refine .inl ⟨closed, fun id conn found same => ?_⟩
    exact (healthy.sound.live id conn found).2 (same ▸ closed)
  · refine .inr ⟨closed, ?_⟩
    rcases healthy.sound.kept n dialled with gone | ⟨id, conn, found, same⟩
    · exact absurd gone closed
    · refine ⟨id, ⟨conn, found, same⟩, ?_⟩
      intro other ⟨conn', found', same'⟩
      exact healthy.sound.apart other conn' id conn found' found
        (same'.trans same.symm)

structure SameConnection (conn conn' : VMConnection) : Prop where
  client : conn'.client = conn.client
  namespace_ : conn'.namespace_ = conn.namespace_
  vmi : conn'.vmi = conn.vmi
  podName : conn'.podName = conn.podName
  closed : conn'.closed = conn.closed

theorem scrapeVM_sameConnection (cfg : PollerConfig) (conn : VMConnection)
    (clientClosed : Bool) (answers : Answers) :
    SameConnection conn (conn.scrapeVM cfg clientClosed answers).conn := by
  obtain ⟨armed, numQueues, pvcMap, same⟩ :=
    conn.scrapeVM_conn cfg clientClosed answers
  rw [same]
  exact ⟨rfl, rfl, rfl, rfl, rfl⟩

theorem Healthy.replace {pool : Pool String VMConnection}
    (healthy : Healthy pool) {id : String} {conn conn' : VMConnection}
    (found : pool.entries.lookup id = some conn)
    (same : SameConnection conn conn') : Healthy (pool.replace id conn') where
  sound := healthy.sound.replace found same.client
  opened other conn'' found' := by
    rcases Table.of_lookup_insert found' with ⟨-, rfl⟩ | earlier
    · rw [same.closed]
      exact healthy.opened id conn found
    · exact healthy.opened other conn'' earlier

/-- What the end of a scrape does: a result is added and the connection stays, or
an error is counted and the connection is dropped with its client. -/
theorem finishScrape_cases (cfg : PollerConfig) (input : PollInput)
    {snapshot : Table String VMConnection} {s : Scraping} {id : String}
    {conn : VMConnection} (found : snapshot.lookup id = some conn)
    (healthy : Healthy s.pool)
    (current : s.pool.entries.lookup id = some conn) :
    (∃ result conn',
      (conn.scrapeVM cfg false (input.answers id)).result = some result ∧
      SameConnection conn conn' ∧
      finishScrape cfg input snapshot s id =
        ⟨s.pool.replace id conn', s.results ++ [result], s.scrapeErrors⟩) ∨
    ((conn.scrapeVM cfg false (input.answers id)).result = none ∧
      finishScrape cfg input snapshot s id =
        ⟨(s.pool.close conn.client).erase id, s.results,
          s.scrapeErrors + 1⟩) := by
  have live : decide (conn.client ∈ s.pool.closed) = false :=
    decide_eq_false (healthy.sound.live id conn current).2
  have same := scrapeVM_sameConnection cfg conn false (input.answers id)
  have opened : (conn.scrapeVM cfg false (input.answers id)).conn.closed =
      false := same.closed.trans (healthy.opened id conn current)
  simp only [finishScrape, found, live]
  cases scraped : (conn.scrapeVM cfg false (input.answers id)).result with
  | some result =>
      obtain ⟨_, _, -, -, -, -, stillOpen, -⟩ :=
        VMConnection.scrapeVM_result scraped
      rw [stillOpen]
      exact .inl ⟨result, _, rfl, same, rfl⟩
  | none =>
      refine .inr ⟨rfl, ?_⟩
      rw [closeConn_of_open opened, same.client]
      -- the client may be closed already when its connection is
      cases (conn.scrapeVM cfg false (input.answers id)).clientClosed with
      | true => simp [Pool.close, Pool.erase, Pool.replace]
      | false => simp [Pool.close, Pool.erase, Pool.replace]

def Scraped (cfg : PollerConfig) (input : PollInput)
    (snapshot : Table String VMConnection) (id : String)
    (result : VMIResult) : Prop :=
  ∃ conn, snapshot.lookup id = some conn ∧
    (conn.scrapeVM cfg false (input.answers id)).result = some result

def ScrapeFails (cfg : PollerConfig) (input : PollInput)
    (snapshot : Table String VMConnection) (id : String) : Prop :=
  ∃ conn, snapshot.lookup id = some conn ∧
    (conn.scrapeVM cfg false (input.answers id)).result = none

structure Progress (cfg : PollerConfig) (input : PollInput)
    (snapshot : Table String VMConnection) (done : List String)
    (s : Scraping) : Prop where
  healthy : Healthy s.pool
  untouched : ∀ id, id ∉ done →
    s.pool.entries.lookup id = snapshot.lookup id
  same : ∀ id conn', s.pool.entries.lookup id = some conn' →
    ∃ conn, snapshot.lookup id = some conn ∧ SameConnection conn conn'
  failed : ∀ id ∈ done,
    id ∉ s.pool.entries ↔ ScrapeFails cfg input snapshot id
  results : List.Forall₂ (Scraped cfg input snapshot)
    (done.filter fun id => id ∈ s.pool.entries) s.results
  errors : s.scrapeErrors =
    (done.filter fun id => id ∉ s.pool.entries).length

theorem SameConnection.refl (conn : VMConnection) : SameConnection conn conn :=
  ⟨rfl, rfl, rfl, rfl, rfl⟩

theorem progress_start (cfg : PollerConfig) (input : PollInput)
    {pool : Pool String VMConnection} (healthy : Healthy pool) :
    Progress cfg input pool.entries [] ⟨pool, [], 0⟩ where
  healthy := healthy
  untouched _ _ := rfl
  same _ conn found := ⟨conn, found, .refl conn⟩
  failed _ member := by cases member
  results := .nil
  errors := rfl

theorem filter_mem_congr {entries entries' : Table String VMConnection}
    {done : List String}
    (memIff : ∀ id ∈ done, (id ∈ entries' ↔ id ∈ entries)) :
    (done.filter fun id => id ∈ entries') =
        (done.filter fun id => id ∈ entries) ∧
      (done.filter fun id => id ∉ entries') =
        done.filter fun id => id ∉ entries := by
  constructor
  · exact List.filter_congr fun id member =>
      decide_eq_decide.mpr (memIff id member)
  · exact List.filter_congr fun id member =>
      decide_eq_decide.mpr (not_congr (memIff id member))

section ProgressStep

variable {cfg : PollerConfig} {input : PollInput}
  {snapshot : Table String VMConnection} {done : List String} {s : Scraping}
  {id : String} {conn : VMConnection}

theorem Progress.succeed (progress : Progress cfg input snapshot done s)
    (fresh : id ∉ done) (found : snapshot.lookup id = some conn)
    {result : VMIResult} {conn' : VMConnection}
    (scraped : (conn.scrapeVM cfg false (input.answers id)).result = some result)
    (same : SameConnection conn conn') :
    Progress cfg input snapshot (done ++ [id])
      ⟨s.pool.replace id conn', s.results ++ [result], s.scrapeErrors⟩ := by
  have current := (progress.untouched id fresh).trans found
  have memIff : ∀ other ∈ done,
      (other ∈ s.pool.entries.insert id conn' ↔ other ∈ s.pool.entries) := by
    intro other member
    rw [Finmap.mem_insert]
    exact or_iff_right fun equal => fresh (equal ▸ member)
  have here : id ∈ s.pool.entries.insert id conn' :=
    Finmap.mem_insert.mpr (.inl rfl)
  constructor
  · exact progress.healthy.replace current same
  · intro other absent
    rw [List.mem_append, List.mem_singleton, not_or] at absent
    exact (Finmap.lookup_insert_of_ne _ absent.2).trans
      (progress.untouched other absent.1)
  · intro other new foundNew
    rcases Table.of_lookup_insert foundNew with ⟨rfl, rfl⟩ | earlier
    · exact ⟨conn, found, same⟩
    · exact progress.same other new earlier
  · intro other member
    change other ∉ s.pool.entries.insert id conn' ↔ _
    rcases List.mem_append.mp member with member | last
    · rw [memIff other member]
      exact progress.failed other member
    · rw [List.mem_singleton.mp last]
      refine iff_of_false (fun absent => absent here) ?_
      intro ⟨conn'', found'', failed⟩
      rw [found] at found''
      rw [← Option.some.inj found'', scraped] at failed
      cases failed
  · change List.Forall₂ _ ((done ++ [id]).filter fun id' =>
      id' ∈ s.pool.entries.insert id conn') _
    rw [List.filter_append, (filter_mem_congr memIff).1]
    refine List.rel_append progress.results ?_
    simpa [here] using ⟨conn, found, scraped⟩
  · change _ = ((done ++ [id]).filter fun id' =>
      id' ∉ s.pool.entries.insert id conn').length
    rw [List.filter_append, (filter_mem_congr memIff).2]
    simp [progress.errors]

theorem Progress.fail (progress : Progress cfg input snapshot done s)
    (fresh : id ∉ done) (found : snapshot.lookup id = some conn)
    (failed : (conn.scrapeVM cfg false (input.answers id)).result = none) :
    Progress cfg input snapshot (done ++ [id])
      ⟨(s.pool.close conn.client).erase id, s.results,
        s.scrapeErrors + 1⟩ := by
  have current := (progress.untouched id fresh).trans found
  have memIff : ∀ other ∈ done,
      (other ∈ s.pool.entries.erase id ↔ other ∈ s.pool.entries) := by
    intro other member
    rw [Finmap.mem_erase]
    exact and_iff_right fun equal => fresh (equal ▸ member)
  have gone : id ∉ s.pool.entries.erase id := by simp
  constructor
  · exact progress.healthy.drop current
  · intro other absent
    rw [List.mem_append, List.mem_singleton, not_or] at absent
    exact (Finmap.lookup_erase_ne absent.2).trans
      (progress.untouched other absent.1)
  · intro other new foundNew
    exact progress.same other new (Table.of_lookup_erase foundNew).2
  · intro other member
    change other ∉ s.pool.entries.erase id ↔ _
    rcases List.mem_append.mp member with member | last
    · rw [memIff other member]
      exact progress.failed other member
    · rw [List.mem_singleton.mp last]
      exact iff_of_true gone ⟨conn, found, failed⟩
  · change List.Forall₂ _ ((done ++ [id]).filter fun id' =>
      id' ∈ s.pool.entries.erase id) _
    rw [List.filter_append, (filter_mem_congr memIff).1]
    simpa [gone] using progress.results
  · change _ = ((done ++ [id]).filter fun id' =>
      id' ∉ s.pool.entries.erase id).length
    rw [List.filter_append, (filter_mem_congr memIff).2]
    simp [progress.errors]

theorem Progress.step (progress : Progress cfg input snapshot done s)
    (fresh : id ∉ done) (present : id ∈ snapshot) :
    Progress cfg input snapshot (done ++ [id])
      (finishScrape cfg input snapshot s id) := by
  obtain ⟨conn, found⟩ := Finmap.mem_iff.mp present
  have current := (progress.untouched id fresh).trans found
  rcases finishScrape_cases cfg input found progress.healthy current with
    ⟨result, conn', scraped, same, ended⟩ | ⟨failed, ended⟩
  · rw [ended]
    exact progress.succeed fresh found scraped same
  · rw [ended]
    exact progress.fail fresh found failed

end ProgressStep

theorem progress_foldl (cfg : PollerConfig) (input : PollInput)
    {pool : Pool String VMConnection} (healthy : Healthy pool)
    (order : List String) (nodup : order.Nodup)
    (present : ∀ id ∈ order, id ∈ pool.entries) :
    Progress cfg input pool.entries order
      (order.foldl (finishScrape cfg input pool.entries) ⟨pool, [], 0⟩) := by
  induction order using List.reverseRecOn with
  | nil => exact progress_start cfg input healthy
  | append_singleton order id induction =>
      obtain ⟨earlier, -, fresh⟩ := List.nodup_append.mp nodup
      rw [List.foldl_append]
      refine (induction earlier fun other member => ?_).step ?_ ?_
      · exact present other (List.mem_append_left _ member)
      · intro member
        exact fresh id member id (List.mem_singleton_self id) rfl
      · exact present id (by simp)

/-! ### Keys -/

namespace Collector

variable {cfg : PollerConfig} {c : Collector} {input : PollInput}

theorem sweep_healthy (healthy : Healthy c.pool) :
    Healthy (c.sweep cfg input) :=
  List.foldlRecOn input.sweepOrder (sweepEntry (activeIDs (input.targets cfg)))
    healthy fun _ healthy id _ => healthy.sweepEntry _ id

theorem connectAll_healthy (healthy : Healthy c.pool) :
    Healthy (c.connectAll cfg input) :=
  List.foldlRecOn (input.targets cfg).zipIdx
    (connectTarget input.reply input.make (c.sweep cfg input).entries)
      (sweep_healthy healthy)
    fun _ healthy entry _ => healthy.connectTarget input _ entry

theorem scrapeAll_progress (healthy : Healthy c.pool)
    (admissible : Admissible cfg c input) :
    Progress cfg input (c.connectAll cfg input).entries input.completionOrder
      (c.scrapeAll cfg input) :=
  progress_foldl cfg input (connectAll_healthy healthy) _
    admissible.completionOrder.nodup
    fun id => (admissible.completionOrder.mem_iff id).mp

theorem lookup_connectAll (admissible : Admissible cfg c input) {key : String}
    {conn : VMConnection}
    (found : (c.connectAll cfg input).entries.lookup key = some conn) :
    (c.pool.entries.lookup key = some conn ∧
        key ∈ activeIDs (input.targets cfg)) ∨
      ∃ target ∈ input.targets cfg, key = target.container.containerID ∧
        ∃ fetch client, conn = newConnection target.pod fetch client := by
  rcases lookup_reconnect admissible.sweepOrder found with
    kept | ⟨entry, visited, same, client, made⟩
  · exact .inl kept
  · exact .inr ⟨entry.1, List.fst_mem_of_mem_zipIdx visited, same, _, client,
      made⟩

theorem run_healthy {history : List PollInput} (runs : Runs cfg history) :
    Healthy (run cfg history).pool := by
  refine stateAfter_invariant (fun c : Collector => Healthy c.pool)
    healthy_empty ?_ runs
  intro c input healthy admissible
  exact (scrapeAll_progress healthy admissible).healthy

structure AfterPoll (cfg : PollerConfig) (before : Collector)
    (input : PollInput) (after : Collector) : Prop where
  /-- Every connection belongs to a container that CRI named in this poll for a
  pod that matches. -/
  keys : ∀ id ∈ after.pool.entries, ∃ i pod container,
    (cfg.filter.allPods input.pods)[i]? = some pod ∧
      input.findPod i = some container ∧ container.containerID = id
  clients : ∀ n < after.pool.opened,
    (n ∈ after.pool.closed ∧ ∀ id conn,
      after.pool.entries.lookup id = some conn → conn.client ≠ n) ∨
    (n ∉ after.pool.closed ∧ ∃! id, ∃ conn,
      after.pool.entries.lookup id = some conn ∧ conn.client = n)
  results : ∃ ids, Table.Enumerates ids after.pool.entries ∧
    List.Forall₂ (fun id (result : VMIResult) => ∃ conn,
      after.pool.entries.lookup id = some conn ∧
        result.namespace_ = conn.namespace_ ∧ result.name = conn.vmi ∧
          result.podName = conn.podName) ids after.results
  /-- The connections that were dropped after the scrapes had started are those
  whose scrape failed, and each of them was counted. -/
  dropped : ∀ id ∈ (before.connectAll cfg input).entries,
    id ∉ after.pool.entries ↔
      ScrapeFails cfg input (before.connectAll cfg input).entries id
  errors : after.scrapeErrors = before.scrapeErrors +
    (input.completionOrder.filter fun id => id ∉ after.pool.entries).length

theorem keys_after_poll (healthy : Healthy c.pool)
    (admissible : Admissible cfg c input) {id : String}
    (member : id ∈ (c.poll cfg input).pool.entries) :
    ∃ i pod container, (cfg.filter.allPods input.pods)[i]? = some pod ∧
      input.findPod i = some container ∧ container.containerID = id := by
  obtain ⟨conn', found'⟩ := Finmap.mem_iff.mp member
  obtain ⟨conn, found, -⟩ :=
    (scrapeAll_progress healthy admissible).same id conn' found'
  have active := mem_activeIDs_of_reconnect admissible.sweepOrder found
  obtain ⟨target, isTarget, rfl⟩ := List.mem_map.mp active
  obtain ⟨i, pod, container⟩ := mem_targets.mp isTarget
  exact ⟨i, target.pod, target.container, pod, container, rfl⟩

theorem results_after_poll (healthy : Healthy c.pool)
    (admissible : Admissible cfg c input) :
    ∃ ids, Table.Enumerates ids (c.poll cfg input).pool.entries ∧
      List.Forall₂ (fun id (result : VMIResult) => ∃ conn,
        (c.poll cfg input).pool.entries.lookup id = some conn ∧
          result.namespace_ = conn.namespace_ ∧ result.name = conn.vmi ∧
            result.podName = conn.podName) ids (c.poll cfg input).results := by
  have progress := scrapeAll_progress healthy admissible
  refine ⟨input.completionOrder.filter fun id =>
    id ∈ (c.scrapeAll cfg input).pool.entries, ⟨?_, fun id => ?_⟩, ?_⟩
  · exact admissible.completionOrder.nodup.filter _
  · rw [List.mem_filter, decide_eq_true_eq]
    refine and_iff_right_of_imp fun member => ?_
    obtain ⟨conn', found'⟩ := Finmap.mem_iff.mp member
    obtain ⟨conn, found, -⟩ := progress.same id conn' found'
    exact (admissible.completionOrder.mem_iff id).mpr
      (Finmap.mem_of_lookup_eq_some found)
  · have kept : ∀ id ∈ input.completionOrder.filter fun id =>
        id ∈ (c.scrapeAll cfg input).pool.entries,
        id ∈ (c.scrapeAll cfg input).pool.entries := by
      intro id member
      exact of_decide_eq_true (List.mem_filter.mp member).2
    refine ((List.forall₂_and_left _ _).mpr ⟨kept, progress.results⟩).imp ?_
    intro id result ⟨member, conn, found, scraped⟩
    obtain ⟨conn', found'⟩ := Finmap.mem_iff.mp member
    obtain ⟨old, foundOld, same⟩ := progress.same id conn' found'
    obtain rfl := Option.some.inj (foundOld.symm.trans found)
    obtain ⟨_, _, -, -, -, rfl, -⟩ := VMConnection.scrapeVM_result scraped
    exact ⟨conn', found', same.namespace_.symm, same.vmi.symm,
      same.podName.symm⟩

theorem mem_results_iff (healthy : Healthy c.pool)
    (admissible : Admissible cfg c input) (result : VMIResult) :
    result ∈ (c.poll cfg input).results ↔
      ∃ id, Scraped cfg input (c.connectAll cfg input).entries id result := by
  have progress := scrapeAll_progress healthy admissible
  constructor
  · intro member
    obtain ⟨i, inside, rfl⟩ := List.getElem_of_mem member
    obtain ⟨sameLength, pairs⟩ := List.forall₂_iff_get.mp progress.results
    exact ⟨_, pairs i (by rw [sameLength]; exact inside) inside⟩
  · intro ⟨id, conn, found, scraped⟩
    have connected : id ∈ (c.connectAll cfg input).entries :=
      Finmap.mem_of_lookup_eq_some found
    have ended := (admissible.completionOrder.mem_iff id).mpr connected
    have kept : id ∈ (c.scrapeAll cfg input).pool.entries := by
      by_contra dropped
      obtain ⟨conn', found', failed⟩ := (progress.failed id ended).mp dropped
      obtain rfl := Option.some.inj (found.symm.trans found')
      rw [scraped] at failed
      cases failed
    have listed : id ∈ input.completionOrder.filter fun id =>
        id ∈ (c.scrapeAll cfg input).pool.entries :=
      List.mem_filter.mpr ⟨ended, decide_eq_true kept⟩
    obtain ⟨i, inside, atIndex⟩ := List.getElem_of_mem listed
    obtain ⟨sameLength, pairs⟩ := List.forall₂_iff_get.mp progress.results
    have inside' : i < (c.scrapeAll cfg input).results.length :=
      sameLength ▸ inside
    obtain ⟨conn', found', scraped'⟩ := pairs i inside inside'
    rw [List.get_eq_getElem, atIndex] at found' scraped'
    obtain rfl := Option.some.inj (found.symm.trans found')
    rw [scraped, Option.some.injEq] at scraped'
    rw [scraped']
    exact List.getElem_mem inside'

theorem afterPoll (healthy : Healthy c.pool)
    (admissible : Admissible cfg c input) :
    AfterPoll cfg c input (c.poll cfg input) := by
  have progress := scrapeAll_progress healthy admissible
  constructor
  · intro id member
    exact keys_after_poll healthy admissible member
  · intro n dialled
    exact progress.healthy.clients dialled
  · exact results_after_poll healthy admissible
  · intro id connected
    exact progress.failed id ((admissible.completionOrder.mem_iff id).mpr
      connected)
  · exact congrArg (c.scrapeErrors + ·) progress.errors

theorem every_poll_settles (cfg : PollerConfig) (history : List PollInput)
    (runs : Runs cfg history) :
    Throughout (fun before input =>
      AfterPoll cfg (run cfg before) input (run cfg (before ++ [input])))
      history := by
  intro before input after split
  have runsBefore : Runs cfg before := by
    rw [split] at runs
    exact runs.of_append
  rw [run_append_singleton]
  exact afterPoll (run_healthy runsBefore) (runs before input after split)

/-! Two polls of one machine: the first connects and scrapes it, in the second
its client runs out of time while a histogram is being armed. -/

def vmPod : Pod where
  name := "virt-launcher-vm"
  namespace_ := "tenant-a"
  uid := "0a000000-0000-0000-0000-00000000000a"
  phase := .running
  labels := Table.insertAll ∅
    [("kubevirt.io", "virt-launcher"), ("vm.kubevirt.io/name", "vm")]

def plainConfig : PollerConfig := ⟨"node-1", [1000000, 10000000], [], ""⟩

def noStats : BlockStats := ⟨0, 0, 0, none, none, none⟩

def armAnswers (armed : Reply Unit) : Answers where
  blockStats := .ok [.mk "ua-rootdisk" noStats none]
  enableHistogram _ := armed
  virtio := .ok []
  virtioStatus _ := .failed
  virtioQueueStatus _ _ := .failed
  fetch := .failed

def onePod (sweepOrder : List String) (armed : Reply Unit) (now : Nat) :
    PollInput where
  pods := [vmPod]
  findPod _ := some ⟨"cri-o://1", 42⟩
  findTarget _ := some ⟨"cri-o://1", 42⟩
  connect _ := .connected
  fetch _ := .failed
  answers _ := armAnswers armed
  sweepOrder := sweepOrder
  completionOrder := ["cri-o://1"]
  now := now

theorem two_polls_settle :
    Throughout (fun before input =>
      AfterPoll plainConfig (run plainConfig before) input
        (run plainConfig (before ++ [input])))
      [onePod [] .failed 60, onePod ["cri-o://1"] .expired 120] := by
  refine every_poll_settles plainConfig _ ?_
  unfold Runs
  decide +kernel

end Collector

end KubevirtMetrics.Qmp
