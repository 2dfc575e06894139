import KubevirtMetrics.Data.Run
import KubevirtMetrics.Qga.Scrape
import KubevirtMetrics.Virt.Connect

namespace KubevirtMetrics.Qga

open Data Virt Cluster

/-! `poll` of `collector.go`.  Times are nanoseconds of the monotonic clock. -/

instance : Connection VMState := ⟨VMState.client, VMState.closed⟩

/-- `lastPassiveAt` is absent while it is the zero time. -/
structure Collector where
  results : List VMIResult
  scrapeErrors : Nat
  lastPollTS : Nat
  pool : Pool String VMState
  lastPassiveAt : Option Int

/-- Everything a poll reads.  `markAt` holds the times at which virtual machines
are marked passive; replies are given by the position of the pod or target. -/
structure PollInput where
  pods : List Pod
  find : Nat → Option ContainerInfo
  reply : Nat → ConnectReply
  fetch : Nat → FetchReply
  answers : String → Answers
  sweepOrder : List String
  snapshotOrder : List String
  completionOrder : List String
  checkAt : Int
  markAt : String → Int
  endAt : Int
  now : Nat

def maxDuration : Int := 2 ^ 63 - 1

/-- `time.Since`, which saturates. -/
def since (now time : Int) : Int :=
  max (-maxDuration - 1) (min (now - time) maxDuration)

namespace CollectorConfig

def passiveCycleFactor : Int := 60

/-- The product is one of 64-bit integers. -/
def passiveInterval (cfg : CollectorConfig) : Int :=
  if cfg.pollInterval > 0 then
    (passiveCycleFactor * cfg.pollInterval).bmod (2 ^ 64)
  else 3600 * 10 ^ 9

def filter (cfg : CollectorConfig) : PodFilter :=
  ⟨cfg.namespaces, cfg.labelFilter⟩

end CollectorConfig

namespace PollInput

def targets (cfg : CollectorConfig) (input : PollInput) : List Target :=
  Virt.targets (cfg.filter.allPods input.pods) input.find

def make (input : PollInput) (entry : Target × Nat) (client : Nat) : VMState :=
  newVM entry.1.pod (input.fetch entry.2) client

end PollInput

/-- The loop over the snapshot: which scrapes it has started and whether one of
them is of a passive virtual machine. -/
structure Visiting where
  pool : Pool String VMState
  scrapeErrors : Nat
  started : List String
  probedPassive : Bool

def dropVM (pool : Pool String VMState) (id : String) (vs : VMState) :
    Pool String VMState :=
  (closeConn pool vs).erase id

def visit (passiveDue : Bool) (v : Visiting) (id : String) : Visiting :=
  match v.pool.entries.lookup id with
  | none => v
  | some vs =>
      if vs.closed || vs.client ∈ v.pool.closed then
        { v with
          pool := dropVM v.pool id vs
          scrapeErrors := v.scrapeErrors + 1 }
      else if vs.passive then
        if passiveDue then
          { v with started := v.started ++ [id], probedPassive := true }
        else v
      else { v with started := v.started ++ [id] }

/-- The variables that the scrape goroutines of one poll share. -/
structure Scraping where
  pool : Pool String VMState
  results : List VMIResult
  scrapeErrors : Nat
  lastPassiveAt : Option Int

def Scraping.markPassive (s : Scraping) (id : String) (vs : VMState)
    (now : Int) : Scraping :=
  { s with
    pool := s.pool.replace id vs.fallBack
    lastPassiveAt :=
      if vs.passive then s.lastPassiveAt
      else some (s.lastPassiveAt.getD now) }

/-- One scrape goroutine, up to the end of its critical section. -/
def finishScrape (cfg : CollectorConfig) (input : PollInput) (s : Scraping)
    (id : String) : Scraping :=
  match s.pool.entries.lookup id with
  | none => s
  | some vs =>
      let outcome := vs.scrapeVM cfg (vs.client ∈ s.pool.closed)
        (input.answers id)
      let pool := s.pool.replace id outcome.vm
      let pool := if outcome.clientClosed then pool.close vs.client else pool
      match outcome.result with
      | .ok result =>
          { s with pool := pool, results := s.results ++ result.toList }
      | .error error =>
          let s := { s with pool := pool, scrapeErrors := s.scrapeErrors + 1 }
          match handleScrapeError cfg outcome.vm error outcome.clientClosed with
          | .drop => { s with pool := dropVM s.pool id outcome.vm }
          | .again vm => { s with pool := s.pool.replace id vm }
          | .markPassive vm => s.markPassive id vm (input.markAt id)

namespace Collector

def init : Collector := ⟨[], 0, 0, .empty, none⟩

def passiveDue (cfg : CollectorConfig) (c : Collector) (input : PollInput) :
    Bool :=
  match c.lastPassiveAt with
  | none => false
  | some time => decide (since input.checkAt time ≥ cfg.passiveInterval)

def sweep (cfg : CollectorConfig) (c : Collector) (input : PollInput) :
    Pool String VMState :=
  input.sweepOrder.foldl (sweepEntry (activeIDs (input.targets cfg))) c.pool

def connectAll (cfg : CollectorConfig) (c : Collector) (input : PollInput) :
    Pool String VMState :=
  (input.targets cfg).zipIdx.foldl
    (connectTarget input.reply input.make (c.sweep cfg input).entries)
    (c.sweep cfg input)

def visitAll (cfg : CollectorConfig) (c : Collector) (input : PollInput) :
    Visiting :=
  input.snapshotOrder.foldl (visit (c.passiveDue cfg input))
    ⟨c.connectAll cfg input, 0, [], false⟩

def scrapeAll (cfg : CollectorConfig) (c : Collector) (input : PollInput) :
    Scraping :=
  input.completionOrder.foldl (finishScrape cfg input)
    ⟨(c.visitAll cfg input).pool, [], (c.visitAll cfg input).scrapeErrors,
      c.lastPassiveAt⟩

def poll (cfg : CollectorConfig) (c : Collector) (input : PollInput) :
    Collector :=
  let s := c.scrapeAll cfg input
  { results := s.results
    scrapeErrors := c.scrapeErrors + s.scrapeErrors
    lastPollTS := input.now
    pool := s.pool
    lastPassiveAt :=
      if (c.visitAll cfg input).probedPassive then some input.endAt
      else s.lastPassiveAt }

/-- What the environment of a poll guarantees: maps are iterated in orders of
their keys, each scrape that was started ends once, and the clock does not go
back. -/
structure Admissible (cfg : CollectorConfig) (c : Collector)
    (input : PollInput) : Prop where
  sweepOrder : Table.Enumerates input.sweepOrder c.pool.entries
  snapshotOrder : Table.Enumerates input.snapshotOrder
    (c.connectAll cfg input).entries
  completionOrder : input.completionOrder.Perm (c.visitAll cfg input).started
  marked : ∀ id ∈ input.completionOrder,
    input.checkAt ≤ input.markAt id ∧ input.markAt id ≤ input.endAt
  ended : input.checkAt ≤ input.endAt

instance (cfg : CollectorConfig) (c : Collector) (input : PollInput) :
    Decidable (Admissible cfg c input) :=
  decidable_of_iff
    (Table.Enumerates input.sweepOrder c.pool.entries ∧
      Table.Enumerates input.snapshotOrder (c.connectAll cfg input).entries ∧
      input.completionOrder.Perm (c.visitAll cfg input).started ∧
      (∀ id ∈ input.completionOrder,
        input.checkAt ≤ input.markAt id ∧ input.markAt id ≤ input.endAt) ∧
      input.checkAt ≤ input.endAt)
    ⟨fun holds => ⟨holds.1, holds.2.1, holds.2.2.1, holds.2.2.2.1,
        holds.2.2.2.2⟩,
      fun holds => ⟨holds.sweepOrder, holds.snapshotOrder,
        holds.completionOrder, holds.marked, holds.ended⟩⟩

def run (cfg : CollectorConfig) (history : List PollInput) : Collector :=
  stateAfter (poll cfg) init history

theorem run_append_singleton (cfg : CollectorConfig) (history : List PollInput)
    (input : PollInput) :
    run cfg (history ++ [input]) = (run cfg history).poll cfg input :=
  stateAfter_append_singleton (poll cfg) init history input

def Runs (cfg : CollectorConfig) (history : List PollInput) : Prop :=
  Throughout (fun before input => Admissible cfg (run cfg before) input ∧
    ∀ earlier ∈ before, earlier.endAt ≤ input.checkAt) history

end Collector

end KubevirtMetrics.Qga
