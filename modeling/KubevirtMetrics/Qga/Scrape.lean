import KubevirtMetrics.Qga.Types
import KubevirtMetrics.Qmp.Scrape

namespace KubevirtMetrics.Qga

open Data Virt Qmp

/-! `scrapeVM` of `collector.go` and what becomes of a virtual machine whose
scrape failed. -/

structure CollectorConfig where
  nodeName : String
  pollInterval : Int
  maxRetries : Int
  namespaces : List String
  labelFilter : String

/-- `vmState`; the client is named by the number of its dialling. -/
structure VMState where
  client : Nat
  namespace_ : String
  vmi : String
  podName : String
  prevSnapshot : Option (Table String DiskCounters)
  pvcMap : Table String String
  diskMap : Option (Table Int String)
  retryCount : Int
  passive : Bool
  closed : Bool

/-- `connectVM`, once the client is there. -/
def newVM (pod : PodInfo) (fetch : FetchReply) (client : Nat) : VMState where
  client := client
  namespace_ := pod.namespace_
  vmi := pod.vmiName
  podName := pod.podName
  prevSnapshot := none
  pvcMap := fetchPVCMap fetch
  diskMap := none
  retryCount := 0
  passive := false
  closed := false

structure EnrichedDisk where
  metrics : DiskMetrics
  disk : String
  pvc : String
  deriving DecidableEq

structure VMIResult where
  namespace_ : String
  name : String
  node : String
  podName : String
  disks : List EnrichedDisk
  deriving DecidableEq

/-- What `handleScrapeError` tells apart: `ErrCommandBlacklisted`, the errors of
`isDeadClient`, and all others. -/
inductive ScrapeError
  | blacklisted
  | dead
  | soft
  deriving DecidableEq

/-- How collecting the counters of the guest ends; a failure may close the
client. -/
inductive CountersReply
  | counters (rows : List DiskCounters)
  | failed (error : ScrapeError) (closed : Bool)

structure Answers where
  counters : CountersReply
  diskMap : Reply (Table Int String)
  fetch : FetchReply
  -- the order in which the new snapshot is iterated
  order : List String

def tryBuildDiskMap (clientClosed : Bool) (reply : Reply (Table Int String)) :
    Option (Table Int String) × Bool :=
  match callClient clientClosed reply with
  | (none, closed) => (none, closed)
  | (some diskMap, closed) =>
      (if diskMap = ∅ then none else some diskMap, closed)

def snapshotOf (counters : List DiskCounters) : Table String DiskCounters :=
  Table.insertAll ∅ (counters.map fun dc => (dc.name, dc))

theorem snapshotOf_lookup {rows : List DiskCounters} {name : String}
    {dc : DiskCounters} (found : (snapshotOf rows).lookup name = some dc) :
    dc ∈ rows ∧ dc.name = name := by
  rcases Table.mem_of_lookup_insertAll found with entered | absent
  · obtain ⟨row, member, same⟩ := List.mem_map.mp entered
    obtain ⟨named, rfl⟩ := Prod.mk.inj same
    exact ⟨member, named⟩
  · simp at absent

def volumeOf (diskMap : Option (Table Int String)) (drive : String) :
    Option String :=
  (parseDiskIndex drive).bind fun index =>
    diskMap.bind fun diskMap => diskMap.lookup index

structure Scrape where
  claims : ClaimCache
  disks : List EnrichedDisk

def Scrape.addDisk (diskMap : Option (Table Int String)) (fetch : FetchReply)
    (s : Scrape) (metrics : DiskMetrics) : Scrape :=
  match volumeOf diskMap metrics.name with
  | none => { s with disks := s.disks ++ [⟨metrics, "", ""⟩] }
  | some volName =>
      let (pvc, claims) := s.claims.refreshPVC fetch volName
      ⟨claims, s.disks ++ [⟨metrics, volName, pvc⟩]⟩

def Scrape.diff (prev curr : Table String DiskCounters)
    (diskMap : Option (Table Int String)) (fetch : FetchReply) (s : Scrape)
    (name : String) : Scrape :=
  match curr.lookup name, prev.lookup name with
  | some curr, some prev =>
      let metrics := computeMetrics prev curr
      if metrics.elapsedSec > 0 then s.addDisk diskMap fetch metrics else s
  | _, _ => s

/-- The drive has counters in both snapshots, and time has passed between them. -/
def advanced (prev curr : Table String DiskCounters) (name : String) : Bool :=
  match curr.lookup name, prev.lookup name with
  | some curr, some prev => decide ((computeMetrics prev curr).elapsedSec > 0)
  | _, _ => false

namespace Scrape

def driveLabels (s : Scrape) : List (String × String) :=
  s.disks.map fun entry => (entry.metrics.name, entry.disk)

theorem addDisk_driveLabels (diskMap : Option (Table Int String))
    (fetch : FetchReply) (s : Scrape) (metrics : DiskMetrics) :
    (s.addDisk diskMap fetch metrics).driveLabels =
      s.driveLabels ++
        [(metrics.name, (volumeOf diskMap metrics.name).getD "")] := by
  unfold addDisk
  split
  next unmapped => simp [driveLabels, unmapped]
  next volName mapped => simp [driveLabels, mapped]

theorem diff_driveLabels (prev : Table String DiskCounters)
    (rows : List DiskCounters) (diskMap : Option (Table Int String))
    (fetch : FetchReply) (s : Scrape) (name : String) :
    (s.diff prev (snapshotOf rows) diskMap fetch name).driveLabels =
      s.driveLabels ++ if advanced prev (snapshotOf rows) name then
        [(name, (volumeOf diskMap name).getD "")] else [] := by
  unfold diff advanced
  split
  next curr old found _ =>
    simp only [decide_eq_true_eq]
    split
    next =>
      rw [addDisk_driveLabels, computeMetrics_name, (snapshotOf_lookup found).2]
    next => exact (List.append_nil _).symm
  next => exact (List.append_nil _).symm

theorem foldl_diff_driveLabels (prev : Table String DiskCounters)
    (rows : List DiskCounters) (diskMap : Option (Table Int String))
    (fetch : FetchReply) (claims : ClaimCache) (order : List String) :
    (order.foldl (diff prev (snapshotOf rows) diskMap fetch)
        ⟨claims, []⟩).driveLabels =
      (order.filter (advanced prev (snapshotOf rows))).map fun name =>
        (name, (volumeOf diskMap name).getD "") := by
  induction order using List.reverseRecOn with
  | nil => rfl
  | append_singleton order name induction =>
      rw [List.foldl_append, List.foldl_cons, List.foldl_nil,
        diff_driveLabels, induction, List.filter_append, List.map_append]
      apply congrArg
      by_cases timed : advanced prev (snapshotOf rows) name = true
      · simp [timed]
      · simp [timed]

end Scrape

structure ScrapeOutcome where
  result : Except ScrapeError (Option VMIResult)
  vm : VMState
  clientClosed : Bool

namespace VMState

def mapDisks (vs : VMState) (answers : Answers) :
    Option (Table Int String) × Bool :=
  if vs.diskMap.isNone then tryBuildDiskMap false answers.diskMap
  else (vs.diskMap, false)

def disksOf (vs : VMState) (answers : Answers) (rows : List DiskCounters) :
    Scrape :=
  match vs.prevSnapshot with
  | none => ⟨⟨vs.pvcMap, false⟩, []⟩
  | some prev =>
      answers.order.foldl
        (Scrape.diff prev (snapshotOf rows) (vs.mapDisks answers).1
          answers.fetch)
        ⟨⟨vs.pvcMap, false⟩, []⟩

/-- The drives that a scrape with these counters reports. -/
def reported (vs : VMState) (answers : Answers) (rows : List DiskCounters) :
    List String :=
  match vs.prevSnapshot with
  | none => []
  | some prev => answers.order.filter (advanced prev (snapshotOf rows))

theorem disksOf_driveLabels (vs : VMState) (answers : Answers)
    (rows : List DiskCounters) :
    (vs.disksOf answers rows).driveLabels =
      (vs.reported answers rows).map fun name =>
        (name, (volumeOf (vs.mapDisks answers).1 name).getD "") := by
  unfold disksOf reported
  split
  next => rfl
  next => exact Scrape.foldl_diff_driveLabels _ _ _ _ _ _

def succeed (vs : VMState) (answers : Answers) (rows : List DiskCounters) :
    VMState :=
  { vs with
    prevSnapshot := some (snapshotOf rows)
    pvcMap := (vs.disksOf answers rows).claims.pvcMap
    diskMap := (vs.mapDisks answers).1
    retryCount := 0
    passive := false }

def resultOf (cfg : CollectorConfig) (vs : VMState)
    (disks : List EnrichedDisk) : Option VMIResult :=
  if disks.isEmpty then none
  else some ⟨vs.namespace_, vs.vmi, cfg.nodeName, vs.podName, disks⟩

theorem resultOf_disks {cfg : CollectorConfig} {vs : VMState}
    {disks : List EnrichedDisk} {result : VMIResult}
    (some : resultOf cfg vs disks = some result) : result.disks = disks := by
  unfold resultOf at some
  split at some
  next => cases some
  next => exact Option.some.inj some ▸ rfl

def scrapeVM (cfg : CollectorConfig) (vs : VMState) (clientClosed : Bool)
    (answers : Answers) : ScrapeOutcome :=
  if vs.closed || clientClosed then ⟨.error .dead, vs, clientClosed⟩
  else
    match answers.counters with
    | .failed error closed => ⟨.error error, vs, closed⟩
    | .counters rows =>
        ⟨.ok (resultOf cfg vs (vs.disksOf answers rows).disks),
          vs.succeed answers rows, (vs.mapDisks answers).2⟩

theorem scrapeVM_cases (cfg : CollectorConfig) (vs : VMState)
    (clientClosed : Bool) (answers : Answers) :
    (∃ error closed,
      vs.scrapeVM cfg clientClosed answers = ⟨.error error, vs, closed⟩) ∨
    ∃ rows, answers.counters = .counters rows ∧
      vs.scrapeVM cfg clientClosed answers =
        ⟨.ok (resultOf cfg vs (vs.disksOf answers rows).disks),
          vs.succeed answers rows, (vs.mapDisks answers).2⟩ := by
  unfold scrapeVM
  split
  next => exact .inl ⟨.dead, clientClosed, rfl⟩
  next =>
    split
    next error closed _ => exact .inl ⟨error, closed, rfl⟩
    next rows answered => exact .inr ⟨rows, answered, rfl⟩

def fallBack (vs : VMState) : VMState :=
  { vs with passive := true, prevSnapshot := none, diskMap := none }

/-- `retryCount++`, on 64 bits. -/
def retry (vs : VMState) : VMState :=
  { vs with retryCount := (vs.retryCount + 1).bmod (2 ^ 64) }

end VMState

/-- What `handleScrapeError` does with a virtual machine: it is dropped, scraped
again in the next poll, or marked passive. -/
inductive Handling
  | drop
  | again (vm : VMState)
  | markPassive (vm : VMState)

def handleScrapeError (cfg : CollectorConfig) (vs : VMState)
    (error : ScrapeError) (clientClosed : Bool) : Handling :=
  if error = .blacklisted then .markPassive vs
  else if error = .dead || clientClosed then .drop
  else if vs.retry.retryCount < cfg.maxRetries then .again vs.retry
  else .markPassive vs.retry

theorem handleScrapeError_cases (cfg : CollectorConfig) (vs : VMState)
    (error : ScrapeError) (clientClosed : Bool) :
    handleScrapeError cfg vs error clientClosed = .drop ∨
    (vs.retry.retryCount < cfg.maxRetries ∧
      handleScrapeError cfg vs error clientClosed = .again vs.retry) ∨
    ∃ vm, (vm = vs ∨ vm = vs.retry) ∧
      handleScrapeError cfg vs error clientClosed = .markPassive vm := by
  unfold handleScrapeError
  split
  next => exact .inr (.inr ⟨vs, .inl rfl, rfl⟩)
  next =>
    split
    next => exact .inl rfl
    next =>
      split
      next few => exact .inr (.inl ⟨few, rfl⟩)
      next => exact .inr (.inr ⟨vs.retry, .inr rfl, rfl⟩)

/-! ### One virtual machine over its scrapes -/

structure Session where
  vm : VMState
  clientClosed : Bool

namespace Session

def dial (pod : PodInfo) (fetch : FetchReply) (client : Nat) : Session :=
  ⟨newVM pod fetch client, false⟩

def scrape (cfg : CollectorConfig) (session : Session) (answers : Answers) :
    ScrapeOutcome :=
  session.vm.scrapeVM cfg session.clientClosed answers

def next (cfg : CollectorConfig) (session : Session) (answers : Answers) :
    Session :=
  let outcome := session.scrape cfg answers
  match outcome.result with
  | .ok _ => ⟨outcome.vm, outcome.clientClosed⟩
  | .error error =>
      match handleScrapeError cfg outcome.vm error outcome.clientClosed with
      | .drop => ⟨{ outcome.vm with closed := true }, true⟩
      | .again vm => ⟨vm, outcome.clientClosed⟩
      | .markPassive vm => ⟨vm.fallBack, outcome.clientClosed⟩

theorem next_pvcMap (cfg : CollectorConfig) (session : Session)
    (answers : Answers) :
    (session.next cfg answers).vm.pvcMap =
      (session.scrape cfg answers).vm.pvcMap := by
  simp only [next]
  obtain ⟨result, vm, closed⟩ := session.scrape cfg answers
  cases result with
  | ok result => rfl
  | error error =>
      rcases handleScrapeError_cases cfg vm error closed with
        dropped | ⟨-, again⟩ | ⟨vm', same, passive⟩
      · simp only [dropped]
      · simp only [again]
        rfl
      · simp only [passive]
        rcases same with rfl | rfl
        · rfl
        · rfl

end Session

end KubevirtMetrics.Qga
