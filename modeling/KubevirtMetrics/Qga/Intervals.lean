import KubevirtMetrics.Data.Lists
import KubevirtMetrics.Data.Run
import KubevirtMetrics.Qga.Collect
import KubevirtMetrics.Qga.Rates

namespace KubevirtMetrics.Qga

open Data Virt

/-! The intervals that the scrapes of one virtual machine report for a drive. -/

/-! ### One scrape -/

/-- The metrics of a drive that has counters in both snapshots. -/
def interval (prev curr : Table String DiskCounters) (name : String) :
    Option DiskMetrics :=
  match curr.lookup name, prev.lookup name with
  | some curr, some prev =>
      let metrics := computeMetrics prev curr
      if metrics.elapsedSec > 0 then some metrics else none
  | _, _ => none

theorem interval_name {prev : Table String DiskCounters}
    {rows : List DiskCounters} {name : String} {metrics : DiskMetrics}
    (measured : interval prev (snapshotOf rows) name = some metrics) :
    metrics.name = name := by
  unfold interval at measured
  split at measured
  next curr old found _ =>
    rw [Option.ite_none_right_eq_some] at measured
    rw [← Option.some.inj measured.2, computeMetrics_name]
    exact (snapshotOf_lookup found).2
  next => cases measured

theorem interval_of_later {prev curr : Table String DiskCounters}
    {name : String} {old new : DiskCounters} (held : prev.lookup name = some old)
    (found : curr.lookup name = some new)
    (later : old.timestamp100ns < new.timestamp100ns) :
    interval prev curr name = some (computeMetrics old new) := by
  simp only [interval, held, found]
  exact if_pos (computeMetrics_elapsedSec_pos later)

namespace Scrape

def metrics (s : Scrape) : List DiskMetrics :=
  s.disks.map EnrichedDisk.metrics

theorem addDisk_metrics (diskMap : Option (Table Int String))
    (fetch : FetchReply) (s : Scrape) (metrics : DiskMetrics) :
    (s.addDisk diskMap fetch metrics).metrics = s.metrics ++ [metrics] := by
  unfold addDisk
  split
  next => simp [Scrape.metrics]
  next => simp [Scrape.metrics]

theorem diff_metrics (prev curr : Table String DiskCounters)
    (diskMap : Option (Table Int String)) (fetch : FetchReply) (s : Scrape)
    (name : String) :
    (s.diff prev curr diskMap fetch name).metrics =
      s.metrics ++ (interval prev curr name).toList := by
  unfold diff interval
  cases curr.lookup name with
  | none => exact (List.append_nil _).symm
  | some new =>
      cases prev.lookup name with
      | none => exact (List.append_nil _).symm
      | some old =>
          by_cases timed : (computeMetrics old new).elapsedSec > 0
          · simp only [timed, if_true]
            exact addDisk_metrics _ _ _ _
          · simp only [timed, if_false]
            exact (List.append_nil _).symm

theorem foldl_diff_metrics (prev curr : Table String DiskCounters)
    (diskMap : Option (Table Int String)) (fetch : FetchReply)
    (order : List String) (s : Scrape) :
    (order.foldl (diff prev curr diskMap fetch) s).metrics =
      s.metrics ++ order.filterMap (interval prev curr) := by
  induction order generalizing s with
  | nil => exact (List.append_nil _).symm
  | cons name order induction =>
      rw [List.foldl_cons, induction, diff_metrics, List.append_assoc,
        List.filterMap_cons]
      cases interval prev curr name with
      | none => rfl
      | some metrics => rfl

end Scrape

/-- What the guest has printed, if it could be collected. -/
def Answers.rows? (answers : Answers) : Option (List DiskCounters) :=
  match answers.counters with
  | .counters rows => some rows
  | .failed _ _ => none

/-- The counters of a drive in what the guest has printed; of several rows with its
name the last one counts. -/
def RowOf (drive : String) (rows : List DiskCounters) (dc : DiskCounters) :
    Prop :=
  IsLast (fun row => row.name = drive) rows dc

theorem lookup_snapshotOf_iff {drive : String} {rows : List DiskCounters}
    {dc : DiskCounters} :
    (snapshotOf rows).lookup drive = some dc ↔ RowOf drive rows dc := by
  have listed : snapshotOf rows =
      Table.insertAll ∅ (rows.filterMap fun dc => some (dc.name, dc)) := by
    rw [List.filterMap_eq_map']
    rfl
  rw [listed, Table.lookup_insertAll_filterMap]
  simp only [Option.some.injEq, Prod.mk.injEq, exists_and_left, exists_eq',
    and_true]
  constructor
  · rintro ⟨row, last, -, rfl⟩
    exact last
  · intro last
    exact ⟨dc, last, last.1, rfl⟩

namespace Session

/-- The metrics of the drive that a scrape reports. -/
def metricsOf (drive : String) (outcome : ScrapeOutcome) : List DiskMetrics :=
  match outcome.result with
  | .ok (some result) =>
      (result.disks.map EnrichedDisk.metrics).filter fun metrics =>
        metrics.name = drive
  | _ => []

/-- The machine is neither marked passive nor dropped. -/
def continues (cfg : CollectorConfig) (session : Session) (answers : Answers) :
    Bool :=
  let outcome := session.scrape cfg answers
  match outcome.result with
  | .ok _ => true
  | .error error =>
      match handleScrapeError cfg outcome.vm error outcome.clientClosed with
      | .again _ => true
      | .drop | .markPassive _ => false

variable {cfg : CollectorConfig} {session : Session} {answers : Answers}

/-- A scrape in a stretch has no rows and leaves the snapshot alone, or replaces it
by one of its rows. -/
theorem continues_cases (going : session.continues cfg answers) :
    ((∀ drive, metricsOf drive (session.scrape cfg answers) = []) ∧
      answers.rows? = none ∧
        (session.next cfg answers).vm.prevSnapshot =
          session.vm.prevSnapshot) ∨
    ∃ rows, answers.counters = .counters rows ∧
      (session.scrape cfg answers).result = .ok (VMState.resultOf cfg session.vm
        (session.vm.disksOf answers rows).disks) ∧
      (session.next cfg answers).vm.prevSnapshot = some (snapshotOf rows) := by
  simp only [continues, next, scrape, VMState.scrapeVM, Answers.rows?] at going ⊢
  by_cases gone : (session.vm.closed || session.clientClosed) = true
  · simp only [gone, if_true, handleScrapeError] at going
    cases going
  · simp only [gone, Bool.false_eq_true, if_false] at going ⊢
    cases answered : answers.counters with
    | counters rows => exact .inr ⟨rows, rfl, rfl, rfl⟩
    | failed error closed =>
        simp only [answered] at going
        rcases handleScrapeError_cases cfg session.vm error closed with
          dropped | ⟨-, again⟩ | ⟨vm, -, passive⟩
        · simp [dropped] at going
        · simp only [again]
          exact .inl ⟨fun _ => rfl, trivial, rfl⟩
        · simp [passive] at going

theorem metricsOf_ok (cfg : CollectorConfig) (drive : String) (vs : VMState)
    {outcome : ScrapeOutcome} {disks : List EnrichedDisk}
    (scraped : outcome.result = .ok (VMState.resultOf cfg vs disks)) :
    metricsOf drive outcome =
      (disks.map EnrichedDisk.metrics).filter fun metrics =>
        metrics.name = drive := by
  rw [metricsOf, scraped, VMState.resultOf]
  cases disks with
  | nil => rfl
  | cons disk disks => rfl

/-- With the drive in both snapshots, a later scrape reports the one interval
between them. -/
theorem metricsOf_interval {rows : List DiskCounters}
    (answered : answers.counters = .counters rows)
    (iterated : answers.Iterated)
    (scraped : (session.scrape cfg answers).result =
      .ok (VMState.resultOf cfg session.vm
        (session.vm.disksOf answers rows).disks))
    {prev : Table String DiskCounters} {drive : String} {old new : DiskCounters}
    (kept : session.vm.prevSnapshot = some prev)
    (held : prev.lookup drive = some old)
    (found : (snapshotOf rows).lookup drive = some new)
    (later : old.timestamp100ns < new.timestamp100ns) :
    metricsOf drive (session.scrape cfg answers) = [computeMetrics old new] := by
  obtain ⟨nodup, visited⟩ := iterated rows answered
  have member : drive ∈ answers.order :=
    (visited drive).mpr (Finmap.mem_iff.mpr ⟨new, found⟩)
  have reported := Scrape.foldl_diff_metrics prev (snapshotOf rows)
    (session.vm.mapDisks answers).1 answers.fetch answers.order
    ⟨⟨session.vm.pvcMap, false⟩, []⟩
  have disks : (session.vm.disksOf answers rows).disks.map
      EnrichedDisk.metrics =
        answers.order.filterMap (interval prev (snapshotOf rows)) := by
    rw [VMState.disksOf, kept]
    exact reported
  rw [metricsOf_ok cfg drive session.vm scraped, disks,
    filter_filterMap_eq (fun _ _ => interval_name) nodup member,
    interval_of_later held found later]
  rfl

/-! ### Stretches of scrapes -/

def Uninterrupted (cfg : CollectorConfig) : Session → List Answers → Prop
  | _, [] => True
  | session, answers :: rest =>
      session.continues cfg answers ∧
        Uninterrupted cfg (session.next cfg answers) rest

/-- What the scrapes report for a drive. -/
def metrics (cfg : CollectorConfig) (drive : String) :
    Session → List Answers → List DiskMetrics
  | _, [] => []
  | session, answers :: rest =>
      metricsOf drive (session.scrape cfg answers) ++
        metrics cfg drive (session.next cfg answers) rest

def run (cfg : CollectorConfig) (session : Session) (history : List Answers) :
    Session :=
  stateAfter (next cfg) session history

/-- What the guest has printed last since the machine was dialled or fell back. -/
def lastRows (cfg : CollectorConfig) :
    Session → Option (List DiskCounters) → List Answers →
      Option (List DiskCounters)
  | _, kept, [] => kept
  | session, kept, answers :: rest =>
      lastRows cfg (session.next cfg answers)
        (if session.continues cfg answers then answers.rows?.or kept else none) rest

end Session

/-- Time advances and no counter goes back. -/
structure Steady (prev curr : DiskCounters) : Prop where
  later : prev.timestamp100ns < curr.timestamp100ns
  ops : ∀ dir, prev.ops dir ≤ curr.ops dir
  queueLen : ∀ dir, prev.queueLen dir ≤ curr.queueLen dir

def intervals : List DiskCounters → List DiskMetrics
  | prev :: curr :: rest => computeMetrics prev curr :: intervals (curr :: rest)
  | _ => []

theorem intervals_of_short {series : List DiskCounters}
    (short : series.length ≤ 1) : intervals series = [] := by
  cases series with
  | nil => rfl
  | cons first others =>
      cases others with
      | nil => rfl
      | cons second others => simp at short

namespace Session

/-- Every interval between two rows of a drive is reported once, whatever failed in
between. -/
theorem metrics_eq_intervals {cfg : CollectorConfig} {drive : String}
    {session : Session} {earlier : Option (List DiskCounters)}
    {stretch : List Answers} {series : List DiskCounters}
    (snapshot : session.vm.prevSnapshot = earlier.map snapshotOf)
    (uninterrupted : session.Uninterrupted cfg stretch)
    (iterated : ∀ answers ∈ stretch, answers.Iterated)
    (present : List.Forall₂ (RowOf drive)
      (earlier.toList ++ stretch.filterMap Answers.rows?) series)
    (steady : series.IsChain Steady) :
    session.metrics cfg drive stretch = intervals series := by
  induction stretch generalizing session earlier series with
  | nil =>
      refine (intervals_of_short ?_).symm
      rw [← present.length_eq]
      cases earlier <;> simp
  | cons answers rest induction =>
      obtain ⟨going, onward⟩ := uninterrupted
      have laterIterated : ∀ later ∈ rest, later.Iterated :=
        fun later member => iterated later (List.mem_cons_of_mem _ member)
      rw [metrics]
      rcases continues_cases going with
        ⟨silent, failed, unchanged⟩ | ⟨rows, answered, scraped, fresh⟩
      · rw [List.filterMap_cons_none failed] at present
        rw [silent drive]
        exact induction (unchanged.trans snapshot) onward laterIterated present
          steady
      · have printed : answers.rows? = some rows := by rw [Answers.rows?, answered]
        rw [List.filterMap_cons_some printed] at present
        have kept : (session.next cfg answers).vm.prevSnapshot =
            (some rows).map snapshotOf := fresh
        cases earlier with
        | none =>
            have first : metricsOf drive (session.scrape cfg answers) = [] := by
              rw [metricsOf_ok cfg drive session.vm scraped, VMState.disksOf,
                snapshot]
              rfl
            rw [first]
            exact induction kept onward laterIterated present steady
        | some before =>
            obtain _ | ⟨here, others⟩ := present
            rename_i old series
            obtain _ | ⟨there, others⟩ := others
            rename_i new series
            obtain ⟨step, chain⟩ := List.isChain_cons_cons.mp steady
            rw [metricsOf_interval answered
              (iterated answers List.mem_cons_self) scraped snapshot
              (lookup_snapshotOf_iff.mpr here) (lookup_snapshotOf_iff.mpr there)
              step.later, intervals]
            apply congrArg
            exact induction kept onward laterIterated (.cons there others) chain

theorem next_of_interrupted {cfg : CollectorConfig} {session : Session}
    {answers : Answers} (ends : ¬ session.continues cfg answers) :
    (session.next cfg answers).vm.closed = true ∨
      (session.next cfg answers).vm.prevSnapshot = none := by
  simp only [continues, next] at ends ⊢
  generalize session.scrape cfg answers = outcome at ends ⊢
  obtain ⟨result, vm, closed⟩ := outcome
  cases result with
  | ok result => exact absurd rfl ends
  | error error =>
      simp only at ends ⊢
      rcases handleScrapeError_cases cfg vm error closed with
        dropped | ⟨-, again⟩ | ⟨vm', -, passive⟩
      · simp only [dropped]
        exact .inl trivial
      · simp only [again] at ends
        exact absurd trivial ends
      · simp only [passive]
        exact .inr rfl

theorem closed_next {cfg : CollectorConfig} {session : Session}
    (closed : session.vm.closed = true) (answers : Answers) :
    (session.next cfg answers).vm.closed = true := by
  simp only [next, scrape, VMState.scrapeVM, closed, Bool.true_or, if_true,
    handleScrapeError]
  rfl

/-- Unless the machine was dropped, its snapshot is what the guest printed last. -/
theorem prevSnapshot_run (cfg : CollectorConfig) (history : List Answers)
    {session : Session} {earlier : Option (List DiskCounters)}
    (snapshot : session.vm.closed = true ∨
      session.vm.prevSnapshot = earlier.map snapshotOf) :
    (session.run cfg history).vm.closed = true ∨
      (session.run cfg history).vm.prevSnapshot =
        (session.lastRows cfg earlier history).map snapshotOf := by
  induction history generalizing session earlier with
  | nil => exact snapshot
  | cons answers rest induction =>
      rw [lastRows]
      apply induction
      rcases snapshot with closed | snapshot
      · exact .inl (closed_next closed answers)
      · by_cases going : session.continues cfg answers
        · right
          rw [if_pos going]
          rcases continues_cases going with
            ⟨-, failed, unchanged⟩ | ⟨rows, answered, -, fresh⟩
          · rw [failed, unchanged, snapshot]
            rfl
          · rw [fresh, Answers.rows?, answered]
            rfl
        · rw [if_neg going]
          exact next_of_interrupted going

theorem nil_of_closed {cfg : CollectorConfig} {session : Session}
    (closed : session.vm.closed = true) {stretch : List Answers}
    (uninterrupted : session.Uninterrupted cfg stretch) : stretch = [] := by
  cases stretch with
  | nil => rfl
  | cons answers rest =>
      have going := uninterrupted.1
      simp only [continues, scrape, VMState.scrapeVM, closed, Bool.true_or,
        if_true, handleScrapeError] at going
      cases going

end Session

/-! ### Totals -/

/-- What the queue length grew by in the intervals in which operations of the
direction completed. -/
def queueGrowth (dir : Direction) : List DiskCounters → Nat
  | prev :: curr :: rest =>
      (if prev.ops dir < curr.ops dir then
        (curr.queueLen dir).toNat - (prev.queueLen dir).toNat else 0) +
          queueGrowth dir (curr :: rest)
  | _ => 0

/-- The metrics of a stretch add up to what happened between its first and its
last snapshot. -/
structure Totals (series : List DiskCounters) (metrics : List DiskMetrics)
    (first last : DiskCounters) : Prop where
  operations : ∀ dir, (metrics.map fun m => m.operations dir).sum =
    ((last.ops dir).toNat : ℚ) - (first.ops dir).toNat
  queued : ∀ dir, (metrics.map fun m => m.queued dir).sum =
    (queueGrowth dir series : ℚ)
  elapsed : (metrics.map DiskMetrics.elapsedSec).sum =
    ((last.timestamp100ns.toNat : ℚ) - first.timestamp100ns.toNat) / 10 ^ 7

theorem Steady.operations {prev curr : DiskCounters} (steady : Steady prev curr)
    (dir : Direction) :
    (computeMetrics prev curr).operations dir =
      ((curr.ops dir).toNat : ℚ) - (prev.ops dir).toNat := by
  have ordered := steady.ops dir
  rw [computeMetrics_operations steady.later,
    UInt64.toNat_sub_of_le _ _ ordered,
    Nat.cast_sub (UInt64.le_iff_toNat_le.mp ordered)]

theorem Steady.queued {prev curr : DiskCounters} (steady : Steady prev curr)
    (dir : Direction) :
    (computeMetrics prev curr).queued dir =
      ((if prev.ops dir < curr.ops dir then
        (curr.queueLen dir).toNat - (prev.queueLen dir).toNat else 0 : Nat) :
          ℚ) := by
  rw [computeMetrics_queued steady.later]
  by_cases idle : curr.ops dir = prev.ops dir
  · rw [if_pos idle, idle, if_neg (UInt64.lt_irrefl _), Nat.cast_zero]
  · have counted : prev.ops dir < curr.ops dir :=
      UInt64.lt_of_le_of_ne (steady.ops dir) (Ne.symm idle)
    rw [if_neg idle, if_pos counted,
      UInt64.toNat_sub_of_le _ _ (steady.queueLen dir)]

theorem intervals_totals {series : List DiskCounters}
    (steady : series.IsChain Steady) {first last : DiskCounters}
    (opening : series.head? = some first)
    (closing : series.getLast? = some last) :
    Totals series (intervals series) first last := by
  induction series generalizing first with
  | nil => cases opening
  | cons prev rest induction =>
      obtain rfl := Option.some.inj opening
      cases rest with
      | nil =>
          obtain rfl := Option.some.inj closing
          exact ⟨fun dir => by simp [intervals],
            fun dir => by simp [intervals, queueGrowth], by simp [intervals]⟩
      | cons curr rest =>
          obtain ⟨step, chain⟩ := List.isChain_cons_cons.mp steady
          rw [List.getLast?_cons_cons] at closing
          obtain ⟨operations, queued, elapsed⟩ := induction chain rfl closing
          refine ⟨fun dir => ?_, fun dir => ?_, ?_⟩
          · rw [intervals, List.map_cons, List.sum_cons, operations,
              step.operations]
            ring
          · rw [intervals, List.map_cons, List.sum_cons, queued, step.queued,
              queueGrowth, Nat.cast_add]
          · rw [intervals, List.map_cons, List.sum_cons, elapsed,
              computeMetrics_elapsedSec step.later]
            ring

/-- In a stretch of the scrapes of a machine without a fallback or a new connection,
the reported metrics of a drive add up to the change of its counters, from what the
guest printed last before the stretch to what it prints last in it. -/
theorem stretch_totals (cfg : CollectorConfig) (pod : PodInfo)
    (fetch : FetchReply) (client : Nat) (history stretch : List Answers)
    (uninterrupted : ((Session.dial pod fetch client).run cfg
      history).Uninterrupted cfg stretch)
    (iterated : ∀ answers ∈ stretch, answers.Iterated) (drive : String)
    (series : List DiskCounters)
    (present : List.Forall₂ (RowOf drive)
      (((Session.dial pod fetch client).lastRows cfg none history).toList ++
        stretch.filterMap Answers.rows?) series)
    (steady : series.IsChain Steady) (first last : DiskCounters)
    (opening : series.head? = some first)
    (closing : series.getLast? = some last) :
    Totals series
      (((Session.dial pod fetch client).run cfg history).metrics cfg drive stretch)
      first last := by
  have snapshot := Session.prevSnapshot_run cfg history
    (.inr rfl : (Session.dial pod fetch client).vm.closed = true ∨
      (Session.dial pod fetch client).vm.prevSnapshot = none.map snapshotOf)
  rcases snapshot with closed | snapshot
  · obtain rfl := Session.nil_of_closed closed uninterrupted
    have short : series.length ≤ 1 := by
      rw [← present.length_eq, List.filterMap_nil, List.append_nil]
      cases (Session.dial pod fetch client).lastRows cfg none history <;> simp
    have totals := intervals_totals steady opening closing
    rw [intervals_of_short short] at totals
    exact totals
  · rw [Session.metrics_eq_intervals snapshot uninterrupted iterated present steady]
    exact intervals_totals steady opening closing

/-- Counters after some reads and writes at a time. -/
def counted (reads writes time : UInt64) : DiskCounters :=
  ⟨"0 C:", 1000 * reads, 5000 * writes, reads, writes, time⟩

def scraped (dc : DiskCounters) : Answers :=
  ⟨.counters [dc], .failed, .failed, [dc.name]⟩

theorem scraped_iterated (dc : DiskCounters) : (scraped dc).Iterated := by
  intro rows answered
  obtain rfl := CountersReply.counters.inj answered
  refine ⟨List.nodup_singleton _, fun name => ?_⟩
  change name ∈ [dc.name] ↔ name ∈ Finmap.insert dc.name dc ∅
  rw [Finmap.mem_insert, List.mem_singleton]
  exact (or_iff_left Finmap.notMem_empty).symm

theorem rowOf_scraped (reads writes time : UInt64) :
    RowOf "0 C:" [counted reads writes time] (counted reads writes time) :=
  ⟨rfl, [], [], rfl, by simp⟩

def timedOut : Answers := ⟨.failed .soft false, .failed, .failed, []⟩

/-- Reads and writes over three snapshots, one of which was there before the stretch
began, with a scrape that fails in between. -/
theorem totals_of_three_snapshots :
    Totals [counted 10 2 100, counted 30 2 300, counted 30 7 400]
      (((Session.dial ⟨"tenant-a", "virt-launcher-vm", "vm"⟩ .failed 0).run
          ⟨"node-1", 60000000000, 3, [], ""⟩ [scraped (counted 10 2 100)]).metrics
        ⟨"node-1", 60000000000, 3, [], ""⟩ "0 C:"
        [timedOut, scraped (counted 30 2 300), scraped (counted 30 7 400)])
      (counted 10 2 100) (counted 30 7 400) := by
  apply stretch_totals
  · exact ⟨rfl, rfl, rfl, trivial⟩
  · simp only [List.forall_mem_cons, List.not_mem_nil, false_implies,
      implies_true, and_true]
    refine ⟨?_, scraped_iterated _, scraped_iterated _⟩
    intro rows answered
    cases answered
  · exact .cons (rowOf_scraped 10 2 100) (.cons (rowOf_scraped 30 2 300)
      (.cons (rowOf_scraped 30 7 400) .nil))
  · refine List.isChain_cons_cons.mpr ⟨⟨by decide, ?_, ?_⟩,
      List.isChain_cons_cons.mpr ⟨⟨by decide, ?_, ?_⟩, List.isChain_singleton _⟩⟩
    all_goals
      intro dir
      cases dir with
      | read => decide
      | write => decide
  · rfl
  · rfl

end KubevirtMetrics.Qga
