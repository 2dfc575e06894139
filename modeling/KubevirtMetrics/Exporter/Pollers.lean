import KubevirtMetrics.Exporter.Config
import KubevirtMetrics.Exporter.Fanout

namespace KubevirtMetrics.Exporter

/-! What the pollers make of a configuration. -/

/-- `time.Duration(seconds) * time.Second`, a product of 64 bits. -/
def durationOfSeconds (seconds : Int) : Int :=
  (seconds * 1000000000).bmod (2 ^ 64)

/-- The intervals that the enabled pollers pass to `time.NewTicker`.  With eBPF
both the device scan and the retry of failed programs have one. -/
def Config.tickerIntervals (c : Config) : List Int :=
  (if c.enableQMP then [c.qmpPollInterval] else []) ++
  (if c.enableQGA then [c.qgaPollInterval] else []) ++
  (if c.enableKVM then [c.kvmPollInterval] else []) ++
  (if c.enableCgroup then [c.cgroupPollInterval] else []) ++
  (if c.enableEBPF then
    [durationOfSeconds c.ebpfScanInterval, 60000000000]
  else [])

/-- `make(chan struct{}, size)`, which does not return for a negative size. -/
def makeSem (size : Int) : Option Nat :=
  if size < 0 then none else some size.toNat

/-- The scrape of `n` virtual machines with the configured concurrency. -/
def FanoutRuns (concurrency : Int) (n : Nat) : Prop :=
  ∃ capacity, makeSem concurrency = some capacity ∧ Fanout.NeverStuck n capacity

structure Config.PollersRun (c : Config) (n : Nat) : Prop where
  tickers : ∀ interval ∈ c.tickerIntervals, 0 < interval
  qmp : c.enableQMP = true → FanoutRuns c.qmpConcurrency n
  qga : c.enableQGA = true → FanoutRuns c.qgaConcurrency n

/-- A concurrency with which `n` virtual machines can be scraped. -/
def Suffices (concurrency : Int) (n : Nat) : Prop :=
  0 < concurrency ∨ concurrency = 0 ∧ n = 0

structure Config.WellChosen (c : Config) (n : Nat) : Prop where
  qmp : c.enableQMP = true →
    0 < c.qmpPollInterval ∧ Suffices c.qmpConcurrency n
  qga : c.enableQGA = true →
    0 < c.qgaPollInterval ∧ Suffices c.qgaConcurrency n
  kvm : c.enableKVM = true → 0 < c.kvmPollInterval
  cgroup : c.enableCgroup = true → 0 < c.cgroupPollInterval
  ebpf : c.enableEBPF = true → 0 < durationOfSeconds c.ebpfScanInterval

theorem fanoutRuns_iff (concurrency : Int) (n : Nat) :
    FanoutRuns concurrency n ↔ Suffices concurrency n := by
  unfold FanoutRuns makeSem Suffices
  split
  next negative =>
    constructor
    · rintro ⟨capacity, made, -⟩
      cases made
    · intro suffices'
      omega
  next nonneg =>
    constructor
    · rintro ⟨capacity, made, never⟩
      obtain rfl := Option.some.inj made
      rcases (Fanout.neverStuck_iff n _).mp never with buffered | none
      · exact .inl (by omega)
      · omega
    · intro suffices'
      refine ⟨_, rfl, (Fanout.neverStuck_iff n _).mpr ?_⟩
      omega

theorem tickers_iff (c : Config) :
    (∀ interval ∈ c.tickerIntervals, 0 < interval) ↔
      (c.enableQMP = true → 0 < c.qmpPollInterval) ∧
      (c.enableQGA = true → 0 < c.qgaPollInterval) ∧
      (c.enableKVM = true → 0 < c.kvmPollInterval) ∧
      (c.enableCgroup = true → 0 < c.cgroupPollInterval) ∧
      (c.enableEBPF = true → 0 < durationOfSeconds c.ebpfScanInterval) := by
  have optional : ∀ (enabled : Bool) (intervals : List Int),
      (∀ interval ∈ if enabled then intervals else [], 0 < interval) ↔
        (enabled = true → ∀ interval ∈ intervals, 0 < interval) := by
    intro enabled intervals
    cases enabled <;> simp
  simp only [Config.tickerIntervals, List.forall_mem_append, optional,
    List.forall_mem_cons, List.not_mem_nil, false_implies, implies_true,
    and_true, and_assoc]
  simp

theorem pollersRun_iff (c : Config) (n : Nat) :
    c.PollersRun n ↔ c.WellChosen n := by
  constructor
  · rintro ⟨tickers, qmpRuns, qgaRuns⟩
    obtain ⟨qmp, qga, kvm, cgroup, ebpf⟩ := (tickers_iff c).mp tickers
    exact
      { qmp := fun enabled =>
          ⟨qmp enabled, (fanoutRuns_iff _ n).mp (qmpRuns enabled)⟩
        qga := fun enabled =>
          ⟨qga enabled, (fanoutRuns_iff _ n).mp (qgaRuns enabled)⟩
        kvm := kvm
        cgroup := cgroup
        ebpf := ebpf }
  · intro chosen
    refine ⟨(tickers_iff c).mpr ⟨fun enabled => (chosen.qmp enabled).1,
      fun enabled => (chosen.qga enabled).1, chosen.kvm, chosen.cgroup,
      chosen.ebpf⟩, fun enabled => ?_, fun enabled => ?_⟩
    · exact (fanoutRuns_iff _ n).mpr (chosen.qmp enabled).2
    · exact (fanoutRuns_iff _ n).mpr (chosen.qga enabled).2

/-- No slot to scrape in: the first poll of a virtual machine never returns. -/
def noConcurrency : Config :=
  { defaults with boundariesNs := [10000000], qmpConcurrency := 0 }

/-- An interval that `time.NewTicker` does not take. -/
def noInterval : Config :=
  { defaults with boundariesNs := [10000000], kvmPollInterval := 0 }

theorem accepted_pollers_do_not_run :
    (noConcurrency.validate = .ok () ∧ ¬ noConcurrency.PollersRun 1) ∧
      (noInterval.validate = .ok () ∧ ¬ noInterval.PollersRun 0) := by
  constructor
  · refine ⟨by decide, fun runs => ?_⟩
    obtain ⟨capacity, made, never⟩ := runs.qmp rfl
    obtain rfl : 0 = capacity := Option.some.inj made
    exact Fanout.not_neverStuck Nat.one_pos never
  · refine ⟨by decide, fun runs => ?_⟩
    have positive := runs.tickers 0 (by decide)
    omega

end KubevirtMetrics.Exporter
