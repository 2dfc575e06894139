import Mathlib.Algebra.BigOperators.Fin
import Mathlib.Data.List.GetD
import KubevirtMetrics.Bpf.Histogram
import KubevirtMetrics.Data.Counting
import KubevirtMetrics.Prometheus.Metric

namespace KubevirtMetrics.Ebpf

open Data Prometheus
open Bpf (Hist Latency recorded slotOf)

/-! `histogram.go`, over exact rationals in place of `float64`. -/

abbrev maxSlots : Nat := 26

def sqrt2 : ℚ :=
  1.41421356237309504880168872420969807856967187537694807317667974

def slotCeiling (i : Nat) : ℚ := (2 ^ i : Nat) / 1000000

def midpointUS (i : Nat) : ℚ :=
  if i = 0 then 1 / 2 else (2 ^ (i - 1) : Nat) * sqrt2

/-- The variables of the first loop.  `runningTotal` is filled from the left, so
a list that grows stands for the array. -/
structure SlotTotals where
  cumulative : UInt64
  count : UInt64
  runningTotal : List UInt64
  sum : ℚ

def addSlot (slots : Fin n → UInt64) (totals : SlotTotals) (i : Fin n) :
    SlotTotals where
  cumulative := totals.cumulative + slots i
  count := totals.count + slots i
  runningTotal := totals.runningTotal ++ [totals.cumulative + slots i]
  sum := totals.sum + (slots i).toNat * (midpointUS i / 1000000)

def slotTotals (slots : Fin n → UInt64) : SlotTotals :=
  Fin.foldl n (addSlot slots) ⟨0, 0, [], 0⟩

def bucketSlot (n : Nat) (b : ℚ) : Option Nat :=
  Fin.foldl n (fun slot i => if slotCeiling i ≤ b then some i.val else slot) none

def bucketTotal (totals : SlotTotals) (b : ℚ) : UInt64 :=
  match bucketSlot maxSlots b with
  | some slot => totals.runningTotal.getD slot 0
  | none => 0

def slotsToConstHistogram (slots : Fin maxSlots → UInt64)
    (promBuckets : List ℚ) : ConstHistogram :=
  let totals := slotTotals slots
  { count := totals.count
    sum := totals.sum
    buckets := (∅ : Table ℚ UInt64).insertAll
      (promBuckets.map fun b => (b, bucketTotal totals b)) }

theorem slotTotals_succ (slots : Fin (n + 1) → UInt64) :
    slotTotals slots =
      addSlot slots (slotTotals fun i => slots i.castSucc) (Fin.last n) := by
  simp only [slotTotals, Fin.foldl_succ_last]
  rfl

theorem slotTotals_length (slots : Fin n → UInt64) :
    (slotTotals slots).runningTotal.length = n := by
  induction n with
  | zero => rfl
  | succ n induction => simp [slotTotals_succ, addSlot, induction]

theorem slotTotals_cumulative (slots : Fin n → UInt64) :
    (slotTotals slots).cumulative.toNat = (∑ i, (slots i).toNat) % 2 ^ 64 := by
  induction n with
  | zero => rfl
  | succ n induction =>
      rw [slotTotals_succ, Fin.sum_univ_castSucc]
      simp only [addSlot, UInt64.toNat_add, induction]
      omega

theorem slotTotals_count (slots : Fin n → UInt64) :
    (slotTotals slots).count = (slotTotals slots).cumulative := by
  induction n with
  | zero => rfl
  | succ n induction => simp only [slotTotals_succ, addSlot, induction]

theorem slotTotals_runningTotal (slots : Fin n → UInt64) (k : Nat)
    (inside : k < n) :
    ((slotTotals slots).runningTotal.getD k 0).toNat =
      (∑ i, if i.val ≤ k then (slots i).toNat else 0) % 2 ^ 64 := by
  induction n with
  | zero => omega
  | succ n induction =>
      rw [slotTotals_succ, Fin.sum_univ_castSucc]
      simp only [addSlot, Fin.val_castSucc, Fin.val_last]
      by_cases earlier : k < n
      · rw [List.getD_append _ _ _ _ (by rw [slotTotals_length]; exact earlier),
          induction _ earlier, if_neg (by omega), Nat.add_zero]
      · have last : k = n := by omega
        have all : (∑ i : Fin n,
            if i.val ≤ k then (slots i.castSucc).toNat else 0) =
              ∑ i : Fin n, (slots i.castSucc).toNat :=
          Finset.sum_congr rfl fun i _ => if_pos (by omega)
        rw [List.getD_append_right _ _ _ _ (by rw [slotTotals_length]; omega),
          all, if_pos (by omega), slotTotals_length, last, Nat.sub_self,
          List.getD_cons_zero, UInt64.toNat_add, slotTotals_cumulative]
        omega

theorem bucketSlot_succ (n : Nat) (b : ℚ) :
    bucketSlot (n + 1) b =
      if slotCeiling n ≤ b then some n else bucketSlot n b := by
  simp only [bucketSlot, Fin.foldl_succ_last]
  rfl

theorem bucketSlot_eq_some {n k : Nat} {b : ℚ}
    (found : bucketSlot n b = some k) :
    k < n ∧ slotCeiling k ≤ b ∧ ∀ j, k < j → j < n → b < slotCeiling j := by
  induction n with
  | zero => simp [bucketSlot] at found
  | succ n induction =>
      rw [bucketSlot_succ] at found
      split at found
      next below =>
        obtain rfl := Option.some.inj found
        exact ⟨by omega, below, fun j above inside => by omega⟩
      next above =>
        obtain ⟨inside, below, later⟩ := induction found
        refine ⟨by omega, below, fun j after within => ?_⟩
        by_cases last : j = n
        · exact last ▸ not_le.mp above
        · exact later j after (by omega)

theorem bucketSlot_eq_none {n : Nat} {b : ℚ} (missing : bucketSlot n b = none) :
    ∀ j, j < n → b < slotCeiling j := by
  induction n with
  | zero => intro j inside; omega
  | succ n induction =>
      rw [bucketSlot_succ] at missing
      split at missing
      next => simp at missing
      next above =>
        intro j inside
        by_cases last : j = n
        · exact last ▸ not_le.mp above
        · exact induction missing j (by omega)

theorem exists_bucketSlot {b : ℚ} {k : Nat} (inside : k < maxSlots)
    (ceiling : slotCeiling k ≤ b) :
    ∃ slot, bucketSlot maxSlots b = some slot ∧ k ≤ slot := by
  cases found : bucketSlot maxSlots b with
  | none =>
      have above := bucketSlot_eq_none found k inside
      exact absurd ceiling (not_le.mpr above)
  | some slot =>
      obtain ⟨-, -, later⟩ := bucketSlot_eq_some found
      refine ⟨slot, rfl, ?_⟩
      by_contra below
      exact absurd ceiling (not_le.mpr (later k (by omega) inside))

theorem bucketTotal_recorded (latencies : List Latency)
    (few : latencies.length < 2 ^ 64) (b : ℚ) :
    (bucketTotal (slotTotals (recorded latencies).slots) b).toNat =
      match bucketSlot maxSlots b with
      | some slot => latencies.countP fun latency => latency.slot.val ≤ slot
      | none => 0 := by
  unfold bucketTotal
  split
  next slot found =>
    obtain ⟨inside, -, -⟩ := bucketSlot_eq_some found
    have counted := List.countP_le_length
      (p := fun latency : Latency => decide (latency.slot.val ≤ slot))
      (l := latencies)
    refine (slotTotals_runningTotal (recorded latencies).slots slot inside).trans ?_
    simp only [Bpf.recorded_toNat latencies few]
    rw [sum_countP_fibers Finset.univ (fun i : Fin Bpf.maxSlots => i.val ≤ slot)
        Latency.slot latencies (by simp), Nat.mod_eq_of_lt (by omega)]
  next => rfl

/-! The two sides disagree on what a slot means: the tracer puts
`[2 ^ i, 2 ^ (i + 1))` microseconds into slot `i`, while `slotCeiling` takes
`2 ^ i` microseconds to be the slot's upper end. -/

def Latency.seconds (latency : Latency) : ℚ := latency.ns / 1000000000

/-- No operation slower than a boundary is counted in the boundary's bucket. -/
def NeverOvercounts (latencies : List Latency) (promBuckets : List ℚ) : Prop :=
  ∀ b ∈ promBuckets, ∀ total,
    (slotsToConstHistogram (recorded latencies).slots promBuckets).buckets.lookup
        b = some total →
      total.toNat ≤ latencies.countP fun latency => Latency.seconds latency ≤ b

/-- A latency above `b` that still lies below the power of two of microseconds
that follows `b`; from `2 ^ 25` microseconds on, any latency above `b`. -/
def Overshoots (b : ℚ) (latency : Latency) : Prop :=
  b < Latency.seconds latency ∧
    ∃ k, k ≤ 25 ∧ (2 ^ k : Nat) ≤ b * 1000000 ∧
      (k = 25 ∨ latency.ns / 1000 < 2 ^ (k + 1))

theorem slotCeiling_le_iff (k : Nat) (b : ℚ) :
    slotCeiling k ≤ b ↔ (2 ^ k : Nat) ≤ b * 1000000 := by
  unfold slotCeiling
  rw [div_le_iff₀ (by norm_num)]

theorem slot_le_iff (latency : Latency) (k : Nat) (inside : k ≤ 25) :
    latency.slot.val ≤ k ↔ k = 25 ∨ latency.ns / 1000 < 2 ^ (k + 1) := by
  have two : 2 ≤ 2 ^ (k + 1) := by
    rw [pow_succ]
    have := Nat.one_le_two_pow (n := k)
    omega
  have logLe : Nat.log2 (max 1 (latency.ns / 1000)) ≤ k ↔
      latency.ns / 1000 < 2 ^ (k + 1) := by
    rw [← Nat.lt_succ_iff, Nat.log2_lt (by omega)]
    omega
  rw [latency.slot_val, slotOf, ← logLe]
  simp only [Bpf.maxSlots]
  omega

theorem slot_le_of_seconds_le {latency : Latency} {b : ℚ} {k : Nat}
    (found : bucketSlot maxSlots b = some k)
    (below : Latency.seconds latency ≤ b) : latency.slot.val ≤ k := by
  obtain ⟨inside, -, later⟩ := bucketSlot_eq_some found
  simp only [maxSlots] at inside later
  rw [slot_le_iff latency k (by omega)]
  by_cases last : k = 25
  · exact .inl last
  · right
    have next := later (k + 1) (by omega) (by omega)
    rw [← not_le, slotCeiling_le_iff, not_le] at next
    have scaled : (latency.ns : ℚ) ≤ b * 1000000 * 1000 := by
      rw [Latency.seconds, div_le_iff₀ (by norm_num)] at below
      linarith
    have bound : (latency.ns : ℚ) < ((2 ^ (k + 1) * 1000 : Nat) : ℚ) := by
      push_cast at next ⊢
      linarith
    have bound' : latency.ns < 2 ^ (k + 1) * 1000 := by exact_mod_cast bound
    omega

theorem overshoots_iff {latency : Latency} {b : ℚ} :
    Overshoots b latency ↔
      b < Latency.seconds latency ∧
        ∃ k, bucketSlot maxSlots b = some k ∧ latency.slot.val ≤ k := by
  unfold Overshoots
  refine and_congr_right fun _ => ⟨?_, ?_⟩
  · rintro ⟨j, inside, ceiling, below⟩
    have counted := (slot_le_iff latency j inside).mpr below
    have within : j < maxSlots := Nat.lt_succ_of_le inside
    rw [← slotCeiling_le_iff] at ceiling
    obtain ⟨k, found, later⟩ := exists_bucketSlot within ceiling
    exact ⟨k, found, counted.trans later⟩
  · rintro ⟨k, found, counted⟩
    obtain ⟨inside, ceiling, -⟩ := bucketSlot_eq_some found
    have within : k ≤ 25 := Nat.le_of_lt_succ inside
    exact ⟨k, within, (slotCeiling_le_iff k b).mp ceiling,
      (slot_le_iff latency k within).mp counted⟩

/-- The exported buckets over-count exactly when some recorded latency lies
between a boundary and the power of two of microseconds that follows it. -/
theorem neverOvercounts_iff (latencies : List Latency)
    (few : latencies.length < 2 ^ 64) (promBuckets : List ℚ) :
    NeverOvercounts latencies promBuckets ↔
      ∀ b ∈ promBuckets, ∀ latency ∈ latencies, ¬ Overshoots b latency := by
  have bucketEq : ∀ b ∈ promBuckets,
      (slotsToConstHistogram (recorded latencies).slots
        promBuckets).buckets.lookup b =
        some (bucketTotal (slotTotals (recorded latencies).slots) b) :=
    fun b member => Table.lookup_insertAll_map _ _ _ member
  constructor
  · intro exactBuckets b member latency recordedHere overshoots
    obtain ⟨above, k, found, counted⟩ := overshoots_iff.mp overshoots
    have bound := exactBuckets b member _ (bucketEq b member)
    simp only [bucketTotal_recorded latencies few, found] at bound
    -- the bucket also counts `latency`, which is not at most `b`
    have parts := List.countP_eq_countP_filter_add latencies
      (fun latency => latency.slot.val ≤ k)
      fun latency => Latency.seconds latency ≤ b
    have inside : latencies.countP (fun latency => Latency.seconds latency ≤ b) ≤
        (latencies.filter fun latency => Latency.seconds latency ≤ b).countP
          fun latency => latency.slot.val ≤ k := by
      rw [List.countP_filter]
      apply List.countP_mono_left
      intro other _ below
      simp only [decide_eq_true_eq] at below
      simp [below, slot_le_of_seconds_le found below]
    have extra : 0 <
        (latencies.filter fun latency =>
          !decide (Latency.seconds latency ≤ b)).countP
            fun latency => latency.slot.val ≤ k := by
      rw [List.countP_pos_iff]
      exact ⟨latency, by simp [recordedHere, above], by simpa using counted⟩
    omega
  · intro noOvershoot b member total found
    rw [bucketEq b member] at found
    obtain rfl := Option.some.inj found
    rw [bucketTotal_recorded latencies few]
    split
    next k found =>
      apply List.countP_mono_left
      intro latency recordedHere counted
      simp only [decide_eq_true_eq] at counted ⊢
      by_contra above
      exact noOvershoot b member latency recordedHere
        (overshoots_iff.mpr ⟨not_le.mp above, k, found, counted⟩)
    next => exact Nat.zero_le _

theorem neverOvercounts_half_second :
    NeverOvercounts [⟨500000000, by decide⟩] [1] := by
  refine (neverOvercounts_iff [⟨500000000, by decide⟩] (by decide) [1]).mpr ?_
  intro b member latency recordedHere
  rw [List.mem_singleton] at member recordedHere
  subst member recordedHere
  rintro ⟨above, -⟩
  norm_num [Latency.seconds] at above

theorem overcounts_slow_operation :
    ¬ NeverOvercounts [⟨1040000000, by decide⟩] [1] := by
  intro claimed
  have counted := claimed 1 (List.mem_singleton_self 1) 1 (by decide +kernel)
  revert counted
  decide +kernel

end KubevirtMetrics.Ebpf
