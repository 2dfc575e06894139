import Mathlib.Tactic
import KubevirtMetrics.Qga.Types

namespace KubevirtMetrics.Qga

/-! What the metrics of an interval say about the counters at its ends. -/

inductive Direction
  | read
  | write
  deriving DecidableEq

namespace DiskCounters

def ops (dc : DiskCounters) : Direction → UInt64
  | .read => dc.rdOps
  | .write => dc.wrOps

def queueLen (dc : DiskCounters) : Direction → UInt64
  | .read => dc.rdQueueLen
  | .write => dc.wrQueueLen

end DiskCounters

namespace DiskMetrics

def latSec (metrics : DiskMetrics) : Direction → ℚ
  | .read => metrics.rdLatSec
  | .write => metrics.wrLatSec

def iops (metrics : DiskMetrics) : Direction → ℚ
  | .read => metrics.rdIOPS
  | .write => metrics.wrIOPS

/-- The number of operations that a rate stands for. -/
def operations (metrics : DiskMetrics) (dir : Direction) : ℚ :=
  metrics.iops dir * metrics.elapsedSec

/-- The queue length, in units of 100 ns, that a latency stands for. -/
def queued (metrics : DiskMetrics) (dir : Direction) : ℚ :=
  metrics.latSec dir * metrics.iops dir * metrics.elapsedSec * 10 ^ 7

end DiskMetrics

theorem latencyAndRate_operations (prevQueue currQueue prevOps currOps : UInt64)
    {elapsedSec : ℚ} (timed : 0 < elapsedSec) :
    (latencyAndRate prevQueue currQueue prevOps currOps elapsedSec).2 *
        elapsedSec = (currOps - prevOps).toNat := by
  simp only [latencyAndRate]
  split
  next => exact div_mul_cancel₀ _ timed.ne'
  next idle =>
    have zero : (currOps - prevOps).toNat = 0 := by
      simpa [UInt64.lt_iff_toNat_lt] using idle
    rw [zero, zero_mul, Nat.cast_zero]

theorem latencyAndRate_latency (prevQueue currQueue prevOps currOps : UInt64)
    (elapsedSec : ℚ) :
    (latencyAndRate prevQueue currQueue prevOps currOps elapsedSec).1 *
        (currOps - prevOps).toNat * 10 ^ 7 =
      if currOps = prevOps then 0 else ((currQueue - prevQueue).toNat : ℚ) := by
  simp only [latencyAndRate]
  by_cases idle : currOps = prevOps
  · subst idle
    simp
  · have busy : (currOps - prevOps).toNat ≠ 0 := by
      intro zero
      apply idle
      have low := prevOps.toNat_lt
      have high := currOps.toNat_lt
      rw [UInt64.toNat_sub] at zero
      exact UInt64.toNat_inj.mp (by omega)
    have nonzero : ((currOps - prevOps).toNat : ℚ) ≠ 0 :=
      Nat.cast_ne_zero.mpr busy
    have counted : 0 < currOps - prevOps :=
      UInt64.lt_iff_toNat_lt.mpr (Nat.pos_of_ne_zero busy)
    rw [if_pos counted, if_neg idle]
    field_simp

section Metrics

variable {prev curr : DiskCounters}
    (later : prev.timestamp100ns < curr.timestamp100ns)

include later

theorem computeMetrics_later (dir : Direction) :
    (computeMetrics prev curr).latSec dir =
        (latencyAndRate (prev.queueLen dir) (curr.queueLen dir) (prev.ops dir)
          (curr.ops dir) (computeMetrics prev curr).elapsedSec).1 ∧
      (computeMetrics prev curr).iops dir =
        (latencyAndRate (prev.queueLen dir) (curr.queueLen dir) (prev.ops dir)
          (curr.ops dir) (computeMetrics prev curr).elapsedSec).2 := by
  rw [computeMetrics, if_neg (UInt64.not_le.mpr later)]
  cases dir with
  | read => exact ⟨rfl, rfl⟩
  | write => exact ⟨rfl, rfl⟩

theorem computeMetrics_elapsedSec :
    (computeMetrics prev curr).elapsedSec =
      ((curr.timestamp100ns.toNat : ℚ) - prev.timestamp100ns.toNat) /
        10 ^ 7 := by
  rw [computeMetrics, if_neg (UInt64.not_le.mpr later)]
  have ordered := UInt64.le_of_lt later
  simp only [UInt64.toNat_sub_of_le _ _ ordered]
  rw [Nat.cast_sub (UInt64.le_iff_toNat_le.mp ordered)]

theorem computeMetrics_elapsedSec_pos :
    0 < (computeMetrics prev curr).elapsedSec := by
  have ordered : (prev.timestamp100ns.toNat : ℚ) < curr.timestamp100ns.toNat :=
    Nat.cast_lt.mpr (UInt64.lt_iff_toNat_lt.mp later)
  rw [computeMetrics_elapsedSec later]
  apply div_pos _ (by norm_num)
  linarith

theorem computeMetrics_operations (dir : Direction) :
    (computeMetrics prev curr).operations dir =
      (curr.ops dir - prev.ops dir).toNat := by
  rw [DiskMetrics.operations, (computeMetrics_later later dir).2]
  exact latencyAndRate_operations _ _ _ _ (computeMetrics_elapsedSec_pos later)

theorem computeMetrics_latency (dir : Direction) :
    (computeMetrics prev curr).latSec dir *
        (curr.ops dir - prev.ops dir).toNat * 10 ^ 7 =
      if curr.ops dir = prev.ops dir then 0
      else ((curr.queueLen dir - prev.queueLen dir).toNat : ℚ) := by
  rw [(computeMetrics_later later dir).1]
  exact latencyAndRate_latency _ _ _ _ _

theorem computeMetrics_queued (dir : Direction) :
    (computeMetrics prev curr).queued dir =
      if curr.ops dir = prev.ops dir then 0
      else ((curr.queueLen dir - prev.queueLen dir).toNat : ℚ) := by
  have operations := computeMetrics_operations later dir
  rw [DiskMetrics.operations] at operations
  rw [DiskMetrics.queued, mul_assoc (DiskMetrics.latSec _ dir), operations]
  exact computeMetrics_latency later dir

end Metrics

/-! ### Counters that go back

The operation counters of the guest have 32 bits and start again after a reboot,
but differences are taken on 64 bits. -/

/-- The metrics of one direction are right for a counter that merely wrapped, and
no counter that went back shows up as a difference modulo `2 ^ 64`. -/
structure Plausible (prev curr : DiskCounters) (dir : Direction)
    (metrics : DiskMetrics) : Prop where
  below : metrics.operations dir < 2 ^ 32
  wrapped : ∀ before after : Nat, before ≤ after → after < before + 2 ^ 32 →
    before % 2 ^ 32 = (prev.ops dir).toNat →
      after % 2 ^ 32 = (curr.ops dir).toNat →
        metrics.operations dir = (after : ℚ) - before
  rate : curr.ops dir < prev.ops dir →
    metrics.operations dir ≠ (curr.ops dir - prev.ops dir).toNat
  latency : curr.ops dir < prev.ops dir ∨
      curr.queueLen dir < prev.queueLen dir →
    metrics.latSec dir * (curr.ops dir - prev.ops dir).toNat * 10 ^ 7 ≠
      (curr.queueLen dir - prev.queueLen dir).toNat

/-- The operations did not go back, and the queue length only where no operation
completed. -/
def Onward (prev curr : DiskCounters) (dir : Direction) : Prop :=
  prev.ops dir ≤ curr.ops dir ∧
    (prev.ops dir ≠ curr.ops dir → prev.queueLen dir ≤ curr.queueLen dir)

theorem sub_toNat_of_lt {x y : UInt64} (back : x < y) :
    (x - y).toNat = 2 ^ 64 - (y.toNat - x.toNat) := by
  have ordered := UInt64.lt_iff_toNat_lt.mp back
  have bounded := y.toNat_lt
  rw [UInt64.toNat_sub]
  omega

theorem plausible_iff (prev curr : DiskCounters)
    (narrow : ∀ dir, (prev.ops dir).toNat < 2 ^ 32 ∧
      (curr.ops dir).toNat < 2 ^ 32)
    (later : prev.timestamp100ns < curr.timestamp100ns) :
    (∀ dir, Plausible prev curr dir (computeMetrics prev curr)) ↔
      ∀ dir, Onward prev curr dir := by
  apply forall_congr'
  intro dir
  have operations := computeMetrics_operations later dir
  have latency := computeMetrics_latency later dir
  constructor
  · intro credible
    have forward : prev.ops dir ≤ curr.ops dir := by
      by_contra back
      exact credible.rate (UInt64.not_le.mp back) operations
    refine ⟨forward, fun counted => ?_⟩
    by_contra back
    apply credible.latency (.inr (UInt64.not_le.mp back))
    rw [latency, if_neg (Ne.symm counted)]
  · rintro ⟨forward, queue⟩
    have difference := UInt64.toNat_sub_of_le _ _ forward
    have ordered := UInt64.le_iff_toNat_le.mp forward
    obtain ⟨-, small⟩ := narrow dir
    refine ⟨?_, ?_, ?_, ?_⟩
    · rw [operations, difference]
      have bound : (curr.ops dir).toNat - (prev.ops dir).toNat < 2 ^ 32 := by
        omega
      exact_mod_cast bound
    · intro before after onward within low high
      have same : (curr.ops dir).toNat - (prev.ops dir).toNat =
          after - before := by
        omega
      rw [operations, difference, same, Nat.cast_sub onward]
    · intro back
      exact absurd forward (UInt64.not_le.mpr back)
    · rintro (back | back)
      · exact absurd forward (UInt64.not_le.mpr back)
      have idle : prev.ops dir = curr.ops dir := by
        by_contra counted
        exact absurd (queue counted) (UInt64.not_le.mpr back)
      have positive : (curr.queueLen dir - prev.queueLen dir).toNat ≠ 0 := by
        rw [sub_toNat_of_lt back]
        have := (prev.queueLen dir).toNat_lt
        omega
      rw [latency, if_pos idle.symm]
      exact (Nat.cast_ne_zero.mpr positive).symm

/-- Two snapshots of a drive ten seconds apart. -/
def beforeWrap : DiskCounters := ⟨"0 C:", 500, 700, 4294967290, 40, 100000000⟩

def afterWrap : DiskCounters := ⟨"0 C:", 900, 900, 10, 50, 200000000⟩

def afterReads : DiskCounters := ⟨"0 C:", 900, 900, 4294967294, 50, 200000000⟩

theorem plausible_after_reads :
    Plausible beforeWrap afterReads .read
        (computeMetrics beforeWrap afterReads) ∧
      Plausible beforeWrap afterReads .write
        (computeMetrics beforeWrap afterReads) := by
  have narrow : ∀ dir, (beforeWrap.ops dir).toNat < 2 ^ 32 ∧
      (afterReads.ops dir).toNat < 2 ^ 32 := by
    intro dir
    cases dir with
    | read => exact ⟨by decide, by decide⟩
    | write => exact ⟨by decide, by decide⟩
  have onward : ∀ dir, Onward beforeWrap afterReads dir := by
    intro dir
    cases dir with
    | read => exact ⟨by decide, fun _ => by decide⟩
    | write => exact ⟨by decide, fun _ => by decide⟩
  have each := (plausible_iff beforeWrap afterReads narrow (by decide)).mpr onward
  exact ⟨each .read, each .write⟩

/-- Sixteen reads take the counter past its end, and are reported as nearly
`2 ^ 64`. -/
theorem implausible_after_wrap :
    (computeMetrics beforeWrap afterWrap).operations .read =
        ((2 ^ 64 - 4294967280 : Nat) : ℚ) ∧
      ¬ Plausible beforeWrap afterWrap .read
        (computeMetrics beforeWrap afterWrap) := by
  have derived : (computeMetrics beforeWrap afterWrap).operations .read =
      ((2 ^ 64 - 4294967280 : Nat) : ℚ) :=
    computeMetrics_operations (by decide) .read
  refine ⟨derived, fun credible => ?_⟩
  have below := credible.below
  rw [derived] at below
  norm_num at below

end KubevirtMetrics.Qga
