import KubevirtMetrics.Qga.Passive
import KubevirtMetrics.Qmp.Poll
import KubevirtMetrics.Virt.Shutdown

namespace KubevirtMetrics.Qga

open Data Virt

/-! ### Clients of the QGA collector -/

theorem owned_visit {v : Visiting} (owned : Owned v.pool) (passiveDue : Bool)
    (id : String) :
    Owned (visit passiveDue v id).pool := by
  unfold visit
  split
  next => exact owned
  next vs found =>
    split
    next => exact owned.drop found
    next =>
      split
      next =>
        split
        next => exact owned
        next => exact owned
      next => exact owned

/-- A scrape may close the client of its machine, and may drop the machine. -/
theorem owned_finishScrape {s : Scraping} (owned : Owned s.pool) (cfg : CollectorConfig)
    (input : PollInput) (id : String) : Owned (finishScrape cfg input s id).pool := by
  cases found : s.pool.entries.lookup id with
  | none =>
      unfold finishScrape
      rw [found]
      exact owned
  | some vs =>
      have closing : ∀ (vm : VMState) (closed : Bool), vm.client = vs.client →
          vm.closed = vs.closed →
          Owned (if closed then (s.pool.replace id vm).close vs.client
            else s.pool.replace id vm) ∧
            (if closed then (s.pool.replace id vm).close vs.client
              else s.pool.replace id vm).entries.lookup id = some vm := by
        intro vm closed client flag
        have replaced : Owned (s.pool.replace id vm) := owned.replace found client flag
        cases closed with
        | true => exact ⟨replaced.close vs.client, Finmap.lookup_insert _⟩
        | false => exact ⟨replaced, Finmap.lookup_insert _⟩
      simp only [finishScrape, found]
      rcases vs.scrapeVM_cases cfg (vs.client ∈ s.pool.closed) (input.answers id)
        with ⟨error, closed, failed⟩ | ⟨rows, -, done⟩
      · obtain ⟨owned', found'⟩ := closing vs closed rfl rfl
        simp only [failed]
        rcases handleScrapeError_cases cfg vs error closed with
          dropped | ⟨-, again⟩ | ⟨vm, same, passive⟩
        · simp only [dropped]
          exact owned'.drop found'
        · simp only [again]
          exact owned'.replace found' rfl rfl
        · simp only [passive]
          rcases same with rfl | rfl
          · exact owned'.replace found' rfl rfl
          · exact owned'.replace found' rfl rfl
      · simp only [done]
        exact (closing (vs.succeed (input.answers id) rows) _ rfl rfl).1

namespace Collector

theorem poll_owned {c : Collector} (owned : Owned c.pool) (cfg : CollectorConfig)
    (input : PollInput) : Owned (c.poll cfg input).pool := by
  have swept : Owned (c.sweep cfg input) :=
    List.foldlRecOn input.sweepOrder _ owned fun _ owned id _ => owned.sweepEntry _ id
  have connected : Owned (c.connectAll cfg input) :=
    List.foldlRecOn (input.targets cfg).zipIdx _ swept fun _ owned entry _ =>
      owned.connectTarget input.reply (fun _ _ => rfl) (fun _ _ => rfl) _ entry
  have visited : Owned (c.visitAll cfg input).pool := by
    apply List.foldlRecOn input.snapshotOrder (visit (c.passiveDue cfg input))
      (motive := fun v => Owned v.pool) connected
    intro v owned id _
    exact owned_visit owned _ id
  apply List.foldlRecOn input.completionOrder (finishScrape cfg input)
    (motive := fun s => Owned s.pool) visited
  intro s owned id _
  exact owned_finishScrape owned cfg input id

theorem run_owned (cfg : CollectorConfig) (history : List PollInput) :
    Owned (run cfg history).pool := by
  induction history using List.reverseRecOn with
  | nil => exact .empty
  | append_singleton history input induction =>
      rw [run_append_singleton]
      exact poll_owned induction cfg input

end Collector

end KubevirtMetrics.Qga

namespace KubevirtMetrics.Exporter

open Data Virt

theorem owned_of_healthy {pool : Pool String Qmp.VMConnection}
    (healthy : Qmp.Healthy pool) :
    Owned pool :=
  ⟨healthy.sound.held, healthy.opened⟩

/-- The QMP and the QGA collector when `Run` ends, after any polls: no connection is
left, and every client that was ever dialled is closed.  Before that, a client of the
QGA collector that is not closed belongs to exactly one machine. -/
theorem clients_closed_by_run {qmpConfig : Qmp.PollerConfig}
    {qmpHistory : List Qmp.PollInput} (qmpRuns : Qmp.Collector.Runs qmpConfig qmpHistory)
    {qmpOrder : List String}
    (qmpAll : Table.Enumerates qmpOrder
      (Qmp.Collector.run qmpConfig qmpHistory).pool.entries)
    {qgaConfig : Qga.CollectorConfig} {qgaHistory : List Qga.PollInput}
    {qgaOrder : List String}
    (qgaAll : Table.Enumerates qgaOrder
      (Qga.Collector.run qgaConfig qgaHistory).pool.entries) :
    Shut (closeAll qmpOrder (Qmp.Collector.run qmpConfig qmpHistory).pool) ∧
      Shut (closeAll qgaOrder (Qga.Collector.run qgaConfig qgaHistory).pool) ∧
      ∀ n < (Qga.Collector.run qgaConfig qgaHistory).pool.opened,
        n ∉ (Qga.Collector.run qgaConfig qgaHistory).pool.closed →
          ∃! id, ∃ vs,
            (Qga.Collector.run qgaConfig qgaHistory).pool.entries.lookup id = some vs ∧
              vs.client = n := by
  have qmp := owned_of_healthy (Qmp.Collector.run_healthy qmpRuns)
  have qga := Qga.Collector.run_owned qgaConfig qgaHistory
  exact ⟨qmp.shut qmpAll, qga.shut qgaAll, fun n dialled live =>
    qga.held.owner dialled live⟩

/-- One machine: its QMP client is open when `Run` ends, its QGA client after being marked
passive. -/
theorem clients_closed_by_run_passive :
    Shut (closeAll ["cri-o://1"] (Qmp.Collector.run Qmp.Collector.plainConfig
        [Qmp.Collector.onePod [] .failed 60]).pool) ∧
      Shut (closeAll ["cri-o://1"] (Qga.Collector.run Qga.Collector.oneRetry
        [Qga.Collector.markingPoll]).pool) := by
  have runs : Qmp.Collector.Runs Qmp.Collector.plainConfig
      [Qmp.Collector.onePod [] .failed 60] := by
    unfold Qmp.Collector.Runs
    decide +kernel
  have closed := @clients_closed_by_run _ _ runs ["cri-o://1"] (by decide +kernel)
    Qga.Collector.oneRetry [Qga.Collector.markingPoll] ["cri-o://1"] (by decide +kernel)
  exact ⟨closed.1, closed.2.1⟩

end KubevirtMetrics.Exporter
