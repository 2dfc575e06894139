import KubevirtMetrics.Data.Counting
import KubevirtMetrics.Exporter.ErrorCount
import KubevirtMetrics.Qga.Passive

namespace KubevirtMetrics.Qga

open Data Virt Exporter

/-! The number of errors that a poll publishes, in all orders in which the loop over the
snapshot and the scrape goroutines can reach `scrapeErrors`. -/

def kind (passiveDue : Bool) (v : Visiting) (id : String) : Visit :=
  match v.pool.entries.lookup id with
  | none => .skip
  | some vs =>
      if vs.closed || vs.client ∈ v.pool.closed then .dead
      else if vs.passive then
        if passiveDue then .scrape else .skip
      else .scrape

def kinds (passiveDue : Bool) : Visiting → List String → List Visit
  | _, [] => []
  | v, id :: ids => kind passiveDue v id :: kinds passiveDue (visit passiveDue v id) ids

/-- The goroutine that is started. -/
def starts (id : String) : Visit → List String
  | .scrape => [id]
  | .dead | .skip => []

theorem visit_kind (passiveDue : Bool) (v : Visiting) (id : String) :
    (visit passiveDue v id).scrapeErrors =
        v.scrapeErrors + [kind passiveDue v id].count .dead ∧
      (visit passiveDue v id).started =
        v.started ++ starts id (kind passiveDue v id) := by
  unfold visit kind
  cases v.pool.entries.lookup id with
  | none => exact ⟨rfl, (List.append_nil _).symm⟩
  | some vs =>
      dsimp only
      generalize (vs.closed || decide (vs.client ∈ v.pool.closed)) = dead
      cases dead with
      | true => exact ⟨rfl, (List.append_nil _).symm⟩
      | false =>
          cases vs.passive with
          | false => exact ⟨rfl, rfl⟩
          | true =>
              cases passiveDue with
              | true => exact ⟨rfl, rfl⟩
              | false => exact ⟨rfl, (List.append_nil _).symm⟩

theorem foldl_visit_scrapeErrors (passiveDue : Bool) (v : Visiting) (ids : List String) :
    (ids.foldl (visit passiveDue) v).scrapeErrors =
      v.scrapeErrors + (kinds passiveDue v ids).count .dead := by
  induction ids generalizing v with
  | nil => rfl
  | cons id ids induction =>
      rw [List.foldl_cons, induction, (visit_kind passiveDue v id).1, kinds,
        Nat.add_assoc, ← List.count_append, List.singleton_append]

/-- The scrapes are started in the order of the loop. -/
theorem foldl_visit_started (passiveDue : Bool) (v : Visiting) (ids : List String) :
    ∃ started, started.Sublist ids ∧
      (ids.foldl (visit passiveDue) v).started = v.started ++ started ∧
      started.length = (kinds passiveDue v ids).count .scrape := by
  induction ids generalizing v with
  | nil => exact ⟨[], .refl _, (List.append_nil _).symm, rfl⟩
  | cons id ids induction =>
      obtain ⟨started, inside, appended, length⟩ := induction (visit passiveDue v id)
      rw [(visit_kind passiveDue v id).2] at appended
      rw [List.foldl_cons, kinds]
      generalize kind passiveDue v id = found at appended ⊢
      cases found with
      | scrape =>
          refine ⟨id :: started, inside.cons_cons id, ?_, ?_⟩
          · rw [appended, List.append_assoc]
            rfl
          · rw [List.count_cons_self, ← length, List.length_cons]
      | dead | skip =>
          refine ⟨started, inside.cons id, ?_, ?_⟩
          · rw [appended, starts, List.append_nil]
          · rw [List.count_cons_of_ne (by decide), length]

/-! ### Scrapes that fail -/

def fails (cfg : CollectorConfig) (input : PollInput) (s : Scraping) (id : String) :
    Bool :=
  match s.pool.entries.lookup id with
  | none => false
  | some vs =>
      match (vs.scrapeVM cfg (vs.client ∈ s.pool.closed) (input.answers id)).result with
      | .ok _ => false
      | .error _ => true

/-- The machines whose scrapes fail, as they end. -/
def failing (cfg : CollectorConfig) (input : PollInput) :
    Scraping → List String → List String
  | _, [] => []
  | s, id :: ids =>
      (bif fails cfg input s id then [id] else []) ++
        failing cfg input (finishScrape cfg input s id) ids

theorem finishScrape_scrapeErrors (cfg : CollectorConfig) (input : PollInput)
    (s : Scraping) (id : String) :
    (finishScrape cfg input s id).scrapeErrors =
      s.scrapeErrors + (bif fails cfg input s id then [id] else []).length := by
  unfold finishScrape fails
  cases s.pool.entries.lookup id with
  | none => rfl
  | some vs =>
      dsimp only
      generalize vs.scrapeVM cfg _ (input.answers id) = outcome
      cases outcome.result with
      | ok result => rfl
      | error error =>
          dsimp only
          cases handleScrapeError cfg outcome.vm error outcome.clientClosed with
          | drop | again vm | markPassive vm => rfl

theorem foldl_finishScrape_scrapeErrors (cfg : CollectorConfig) (input : PollInput)
    (s : Scraping) (ids : List String) :
    (ids.foldl (finishScrape cfg input) s).scrapeErrors =
      s.scrapeErrors + (failing cfg input s ids).length := by
  induction ids generalizing s with
  | nil => rfl
  | cons id ids induction =>
      rw [List.foldl_cons, induction, finishScrape_scrapeErrors, failing,
        List.length_append, Nat.add_assoc]

theorem failing_sublist (cfg : CollectorConfig) (input : PollInput) (s : Scraping)
    (ids : List String) : (failing cfg input s ids).Sublist ids := by
  induction ids generalizing s with
  | nil => exact .refl _
  | cons id ids induction =>
      rw [failing]
      cases fails cfg input s id with
      | true => exact (induction _).cons_cons id
      | false => exact (induction _).cons id

namespace Collector

variable {cfg : CollectorConfig} {c : Collector} {input : PollInput}

def visits (cfg : CollectorConfig) (c : Collector) (input : PollInput) : List Visit :=
  kinds (c.passiveDue cfg input) ⟨c.connectAll cfg input, 0, [], false⟩
    input.snapshotOrder

def failed (cfg : CollectorConfig) (c : Collector) (input : PollInput) : List String :=
  failing cfg input ⟨(c.visitAll cfg input).pool, [], (c.visitAll cfg input).scrapeErrors,
    c.lastPassiveAt⟩ input.completionOrder

/-- The goroutine of a machine, by its place among those that the loop starts. -/
def goroutineFails (cfg : CollectorConfig) (c : Collector) (input : PollInput)
    (i : Fin (c.visitAll cfg input).started.length) : Bool :=
  (c.failed cfg input).contains ((c.visitAll cfg input).started.get i)

theorem visits_count_scrape (cfg : CollectorConfig) (c : Collector) (input : PollInput) :
    (c.visits cfg input).count .scrape = (c.visitAll cfg input).started.length := by
  obtain ⟨started, -, appended, length⟩ := foldl_visit_started (c.passiveDue cfg input)
    ⟨c.connectAll cfg input, 0, [], false⟩ input.snapshotOrder
  have same : (c.visitAll cfg input).started = started := appended
  rw [same, length]
  rfl

theorem started_nodup (admissible : Admissible cfg c input) :
    (c.visitAll cfg input).started.Nodup := by
  obtain ⟨started, inside, appended, -⟩ := foldl_visit_started (c.passiveDue cfg input)
    ⟨c.connectAll cfg input, 0, [], false⟩ input.snapshotOrder
  have same : (c.visitAll cfg input).started = started := appended
  rw [same]
  exact admissible.snapshotOrder.nodup.sublist inside

/-- The increments that the model of the poll counts as steps of their own are all there
are. -/
theorem errors_eq (admissible : Admissible cfg c input) :
    Counting.errors (c.visits cfg input) (c.goroutineFails cfg input) =
      (c.scrapeAll cfg input).scrapeErrors := by
  have started := started_nodup admissible
  have ended : input.completionOrder.Nodup :=
    admissible.completionOrder.nodup_iff.mpr started
  have inside : (c.failed cfg input).Sublist input.completionOrder := failing_sublist ..
  have scrapes : ∑ i, (c.goroutineFails cfg input i).toNat =
      (c.failed cfg input).length := by
    apply sum_contains started (ended.sublist inside)
    exact fun id member => admissible.completionOrder.mem_iff.mp (inside.mem member)
  have visited : (c.visitAll cfg input).scrapeErrors =
      (c.visits cfg input).count .dead := by
    rw [visitAll, foldl_visit_scrapeErrors, Nat.zero_add]
    rfl
  rw [Counting.errors, scrapes, ← visited, scrapeAll, foldl_finishScrape_scrapeErrors]
  rfl

/-- Whatever the order of the steps, a poll publishes no error that did not happen, and
it publishes all of them in every order exactly if the loop finds no dead connection
after it has started a scrape that fails. -/
theorem poll_errors_counted {concurrency : Nat} (buffered : 0 < concurrency)
    (admissible : Admissible cfg c input) :
    (∀ count,
        Counting.Ends concurrency (c.visits cfg input) (c.goroutineFails cfg input) count →
          c.scrapeErrors + count ≤ (c.poll cfg input).scrapeErrors) ∧
      ((∀ count,
          Counting.Ends concurrency (c.visits cfg input) (c.goroutineFails cfg input)
              count →
            c.scrapeErrors + count = (c.poll cfg input).scrapeErrors) ↔
        Counting.Separated (c.visits cfg input) (c.goroutineFails cfg input)) := by
  have published : (c.poll cfg input).scrapeErrors = c.scrapeErrors +
      Counting.errors (c.visits cfg input) (c.goroutineFails cfg input) :=
    congrArg (c.scrapeErrors + ·) (errors_eq admissible).symm
  constructor
  · intro count ends
    rw [published]
    exact Nat.add_le_add_left (Counting.le_of_ends ends) _
  · rw [published, ← Counting.ends_eq_iff (visits_count_scrape cfg c input) buffered]
    apply forall_congr'
    intro count
    rw [Nat.add_right_inj]

/-! Two machines.  In the first poll the disk request of one takes too long, which
closes its client.  In the second poll the scrape of the other fails, and the loop
visits it first. -/

def secondLauncher : Cluster.Pod :=
  { launcher with
    name := "virt-launcher-other"
    labels := Table.insertAll ∅
      [("kubevirt.io", "virt-launcher"), ("vm.kubevirt.io/name", "other")] }

def pollBoth (checkAt : Int) (answers : String → Answers)
    (sweepOrder completionOrder : List String) : PollInput where
  pods := [launcher, secondLauncher]
  find position := some (if position = 0 then ⟨"cri-o://1", 42⟩ else ⟨"cri-o://2", 43⟩)
  reply _ := .connected
  fetch _ := .failed
  answers := answers
  sweepOrder := sweepOrder
  snapshotOrder := ["cri-o://2", "cri-o://1"]
  completionOrder := completionOrder
  checkAt := checkAt
  markAt _ := checkAt + 1
  endAt := checkAt + 2
  now := 0

def expiringPoll : PollInput :=
  pollBoth 0
    (fun id =>
      ⟨.counters [⟨"0 C:", 0, 0, 0, 0, 1⟩],
        if id = "cri-o://1" then .expired else .failed, .failed, []⟩)
    [] ["cri-o://1", "cri-o://2"]

def failingPoll : PollInput :=
  pollBoth 10 (fun _ => ⟨.failed .soft false, .failed, .failed, []⟩)
    ["cri-o://1", "cri-o://2"] ["cri-o://2"]

theorem poll_errors_counted_two :
    Runs oneRetry [expiringPoll, failingPoll] ∧
      ¬ ∀ count, Counting.Ends 4
        ((run oneRetry [expiringPoll]).visits oneRetry failingPoll)
        ((run oneRetry [expiringPoll]).goroutineFails oneRetry failingPoll) count →
          (run oneRetry [expiringPoll]).scrapeErrors + count =
            (run oneRetry [expiringPoll, failingPoll]).scrapeErrors := by
  have runs : Runs oneRetry [expiringPoll, failingPoll] := by
    unfold Runs
    decide +kernel
  refine ⟨runs, ?_⟩
  intro all
  have admissible : Admissible oneRetry (run oneRetry [expiringPoll]) failingPoll :=
    (runs [expiringPoll] failingPoll [] rfl).1
  have separated := (poll_errors_counted (by decide : 0 < 4) admissible).2.mp all
  have survives :=
    separated [.scrape] [] (by decide +kernel) ⟨0, by decide +kernel⟩ (by decide)
  revert survives
  decide +kernel

end Collector

end KubevirtMetrics.Qga
