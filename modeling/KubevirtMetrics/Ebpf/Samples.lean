import Mathlib.Algebra.Order.BigOperators.Group.Finset
import KubevirtMetrics.Ebpf.Histogram

namespace KubevirtMetrics.Ebpf

open Data Prometheus
open Bpf (Latency recorded)

/-! What an exported histogram says about the samples a tracer recorded. -/

/-! ### Buckets -/

theorem bucketSlot_mono {b₁ b₂ : ℚ} {k : Nat} (ordered : b₁ ≤ b₂)
    (found : bucketSlot maxSlots b₁ = some k) :
    ∃ slot, bucketSlot maxSlots b₂ = some slot ∧ k ≤ slot := by
  obtain ⟨inside, ceiling, -⟩ := bucketSlot_eq_some found
  exact exists_bucketSlot inside (ceiling.trans ordered)

theorem lookup_buckets {slots : Fin maxSlots → UInt64} {promBuckets : List ℚ}
    {b : ℚ} {total : UInt64}
    (found : (slotsToConstHistogram slots promBuckets).buckets.lookup b =
      some total) :
    b ∈ promBuckets ∧ total = bucketTotal (slotTotals slots) b := by
  rcases Table.mem_of_lookup_insertAll found with member | present
  · obtain ⟨boundary, listed, same⟩ := List.mem_map.mp member
    obtain ⟨rfl, rfl⟩ := Prod.mk.inj same
    exact ⟨listed, rfl⟩
  · simp at present

theorem count_recorded (latencies : List Latency)
    (few : latencies.length < 2 ^ 64) :
    (slotTotals (recorded latencies).slots).count.toNat = latencies.length := by
  have all := sum_countP_fibers Finset.univ (fun _ => True) Latency.slot
    latencies (by simp)
  simp only [if_true, decide_true, List.countP_true] at all
  rw [slotTotals_count, slotTotals_cumulative]
  refine Eq.trans ?_ (Nat.mod_eq_of_lt few)
  simp only [Bpf.recorded_toNat latencies few]
  rw [← all]

/-- A cumulative histogram of the samples in which no sample is missing from the
buckets of the boundaries above it. -/
structure Cumulative (latencies : List Latency) (promBuckets : List ℚ)
    (histogram : ConstHistogram) : Prop where
  count : histogram.count.toNat = latencies.length
  buckets : ∀ b, b ∈ promBuckets ↔
    ∃ total, histogram.buckets.lookup b = some total
  monotone : ∀ b₁ b₂ total₁ total₂, b₁ ≤ b₂ →
    histogram.buckets.lookup b₁ = some total₁ →
      histogram.buckets.lookup b₂ = some total₂ → total₁ ≤ total₂
  bounded : ∀ b total, histogram.buckets.lookup b = some total →
    total ≤ histogram.count
  complete : ∀ b total, 1 / 1000000 ≤ b →
    histogram.buckets.lookup b = some total →
      (latencies.countP fun latency => Latency.seconds latency ≤ b) ≤
        total.toNat

theorem bucketTotal_mono (latencies : List Latency)
    (few : latencies.length < 2 ^ 64) {b₁ b₂ : ℚ} (ordered : b₁ ≤ b₂) :
    (bucketTotal (slotTotals (recorded latencies).slots) b₁).toNat ≤
      (bucketTotal (slotTotals (recorded latencies).slots) b₂).toNat := by
  rw [bucketTotal_recorded latencies few, bucketTotal_recorded latencies few]
  cases lower : bucketSlot maxSlots b₁ with
  | none => exact Nat.zero_le _
  | some k =>
      obtain ⟨slot, upper, inside⟩ := bucketSlot_mono ordered lower
      rw [upper]
      apply List.countP_mono_left
      intro latency _ counted
      simp only [decide_eq_true_eq] at counted ⊢
      exact counted.trans inside

theorem bucketTotal_le_length (latencies : List Latency)
    (few : latencies.length < 2 ^ 64) (b : ℚ) :
    (bucketTotal (slotTotals (recorded latencies).slots) b).toNat ≤
      latencies.length := by
  rw [bucketTotal_recorded latencies few]
  split
  next => exact List.countP_le_length
  next => exact Nat.zero_le _

theorem countP_le_bucketTotal (latencies : List Latency)
    (few : latencies.length < 2 ^ 64) {b : ℚ} (wide : 1 / 1000000 ≤ b) :
    (latencies.countP fun latency => Latency.seconds latency ≤ b) ≤
      (bucketTotal (slotTotals (recorded latencies).slots) b).toNat := by
  have first : slotCeiling 0 ≤ b := by
    simpa [slotCeiling] using wide
  obtain ⟨slot, found, -⟩ := exists_bucketSlot (by decide) first
  rw [bucketTotal_recorded latencies few, found]
  apply List.countP_mono_left
  intro latency _ below
  simp only [decide_eq_true_eq] at below ⊢
  exact slot_le_of_seconds_le found below

theorem slotsToConstHistogram_cumulative (latencies : List Latency)
    (few : latencies.length < 2 ^ 64) (promBuckets : List ℚ) :
    Cumulative latencies promBuckets
      (slotsToConstHistogram (recorded latencies).slots promBuckets) where
  count := count_recorded latencies few
  buckets b := by
    constructor
    · intro member
      exact ⟨_, Table.lookup_insertAll_map _ _ _ member⟩
    · rintro ⟨total, found⟩
      exact (lookup_buckets found).1
  monotone b₁ b₂ total₁ total₂ ordered found₁ found₂ := by
    rw [(lookup_buckets found₁).2, (lookup_buckets found₂).2]
    exact bucketTotal_mono latencies few ordered
  bounded b total found := by
    rw [(lookup_buckets found).2, UInt64.le_iff_toNat_le]
    refine (bucketTotal_le_length latencies few b).trans (le_of_eq ?_)
    exact (count_recorded latencies few).symm
  complete b total wide found := by
    rw [(lookup_buckets found).2]
    exact countP_le_bucketTotal latencies few wide

theorem cumulative_half_second :
    Cumulative [⟨500000000, by decide⟩] [1, 1 / 1000, 1]
      (slotsToConstHistogram (recorded [⟨500000000, by decide⟩]).slots
        [1, 1 / 1000, 1]) :=
  slotsToConstHistogram_cumulative [⟨500000000, by decide⟩] (by decide) _

/-! ### Sum -/

theorem slotTotals_sum (slots : Fin n → UInt64) :
    (slotTotals slots).sum =
      ∑ i, ((slots i).toNat : ℚ) * (midpointUS i / 1000000) := by
  induction n with
  | zero => rfl
  | succ n induction =>
      rw [slotTotals_succ, Fin.sum_univ_castSucc]
      simp only [addSlot, induction]
      rfl

/-- The shortest latency of a slot, in nanoseconds. -/
def slotFloor (slot : Nat) : Nat :=
  if slot = 0 then 0 else 2 ^ slot * 1000

/-- The longest latency of a slot that is not there because of the cap. -/
def slotTop (slot : Nat) : Nat := 2 ^ (slot + 1) * 1000 - 1

/-- The slot that the latency would have without the cap. -/
def uncappedSlot (ns : Nat) : Nat := Nat.log2 (max 1 (ns / 1000))

theorem slotOf_eq_min (ns : Nat) :
    Bpf.slotOf ns = min (maxSlots - 1) (uncappedSlot ns) := rfl

theorem uncappedSlot_le_iff (ns k : Nat) :
    uncappedSlot ns ≤ k ↔ ns ≤ slotTop k := by
  have one := Nat.one_le_two_pow (n := k + 1)
  rw [uncappedSlot, ← Nat.lt_succ_iff, Nat.log2_lt (by omega), slotTop]
  have two : 2 ≤ 2 ^ (k + 1) := by
    rw [pow_succ]
    have := Nat.one_le_two_pow (n := k)
    omega
  omega

theorem le_uncappedSlot_iff (ns k : Nat) :
    k ≤ uncappedSlot ns ↔ slotFloor k ≤ ns := by
  cases k with
  | zero => simp [slotFloor]
  | succ k =>
      rw [Nat.succ_le_iff, ← not_le, uncappedSlot_le_iff, slotTop, slotFloor,
        if_neg (Nat.succ_ne_zero k)]
      have one := Nat.one_le_two_pow (n := k + 1)
      omega

theorem slotTop_lt {slot : Nat} (inside : slot < maxSlots) :
    slotTop slot < 2 ^ 63 := by
  have bound : 2 ^ (slot + 1) ≤ 2 ^ maxSlots :=
    Nat.pow_le_pow_right (by decide) inside
  simp only [maxSlots] at bound
  rw [slotTop]
  omega

theorem slotFloor_le_slotTop (slot : Nat) : slotFloor slot ≤ slotTop slot := by
  have positive := Nat.one_le_two_pow (n := slot)
  rw [slotFloor, slotTop, pow_succ]
  split <;> omega

theorem uncappedSlot_eq {ns slot : Nat} (above : slotFloor slot ≤ ns)
    (below : ns ≤ slotTop slot) : uncappedSlot ns = slot :=
  Nat.le_antisymm ((uncappedSlot_le_iff ns slot).mpr below)
    ((le_uncappedSlot_iff ns slot).mpr above)

theorem exists_latency {ns : Nat} {slot : Fin maxSlots}
    (above : slotFloor slot ≤ ns) (below : ns ≤ slotTop slot) :
    ∃ latency : Latency, latency.ns = ns ∧ latency.slot = slot := by
  refine ⟨⟨ns, below.trans_lt (slotTop_lt slot.isLt)⟩, rfl, ?_⟩
  apply Fin.ext
  rw [Latency.slot_val, slotOf_eq_min, uncappedSlot_eq above below]
  exact Nat.min_eq_right (Nat.le_of_lt_succ slot.isLt)

theorem slotFloor_isLeast (slot : Fin maxSlots) :
    IsLeast {ns | ∃ latency : Latency, latency.ns = ns ∧ latency.slot = slot}
      (slotFloor slot) := by
  refine ⟨exists_latency le_rfl (slotFloor_le_slotTop slot), ?_⟩
  rintro ns ⟨latency, rfl, rfl⟩
  rw [← le_uncappedSlot_iff, Latency.slot_val, slotOf_eq_min]
  exact Nat.min_le_right _ _

theorem slotTop_isGreatest (slot : Fin maxSlots) :
    IsGreatest {ns | ∃ latency : Latency, latency.ns = ns ∧
      latency.slot = slot ∧ uncappedSlot ns < maxSlots} (slotTop slot) := by
  constructor
  · obtain ⟨latency, same, here⟩ :=
      exists_latency (slotFloor_le_slotTop slot) (le_refl (slotTop slot))
    refine ⟨latency, same, here, ?_⟩
    rw [uncappedSlot_eq (slotFloor_le_slotTop slot) le_rfl]
    exact slot.isLt
  · rintro ns ⟨latency, rfl, rfl, uncapped⟩
    rw [← uncappedSlot_le_iff, Latency.slot_val, slotOf_eq_min]
    exact le_min (Nat.le_of_lt_succ uncapped) le_rfl

/-- The sum lies between what the shortest and what the longest latencies of the
recorded slots add up to. -/
structure SumConsistent (latencies : List Latency) (sum : ℚ) : Prop where
  atLeast : (latencies.map fun latency =>
    (slotFloor latency.slot : ℚ) / 1000000000).sum ≤ sum
  atMost : (∀ latency ∈ latencies, uncappedSlot latency.ns < maxSlots) →
    sum ≤ (latencies.map fun latency =>
      (slotTop latency.slot : ℚ) / 1000000000).sum

def held (latencies : List Latency) (slot : Fin maxSlots) : Nat :=
  latencies.countP fun latency => latency.slot = slot

/-- What the samples of the slots from 1 on miss, in microseconds, when each is
taken to be `2 ^ i * sqrt2` in place of the shortest latency `2 ^ (i + 1)` of its slot. -/
def shortfall (latencies : List Latency) : ℚ :=
  ∑ i : Fin 25, ((held latencies i.succ : ℚ) * (2 ^ (i.val + 1) : Nat) -
    ((held latencies i.succ % 2 ^ 64 : Nat) : ℚ) * ((2 ^ i.val : Nat) * sqrt2))

theorem sum_recorded (latencies : List Latency) (promBuckets : List ℚ) :
    (slotsToConstHistogram (recorded latencies).slots promBuckets).sum =
      ∑ i, ((held latencies i % 2 ^ 64 : Nat) : ℚ) *
        (midpointUS i / 1000000) := by
  refine (slotTotals_sum (recorded latencies).slots).trans ?_
  apply Finset.sum_congr rfl
  intro i _
  rw [Bpf.recorded_toNat_mod]
  rfl

theorem sum_map_slot (latencies : List Latency) (weight : Fin maxSlots → ℚ) :
    (latencies.map fun latency => weight latency.slot).sum =
      ∑ i, (held latencies i : ℚ) * weight i := by
  rw [sum_map_fibers Latency.slot weight]
  apply Finset.sum_congr rfl
  intro i _
  rw [nsmul_eq_mul]
  rfl

theorem midpointUS_succ (i : Nat) :
    midpointUS (i + 1) = (2 ^ i : Nat) * sqrt2 := by
  rw [midpointUS, if_neg (Nat.succ_ne_zero i), Nat.add_sub_cancel]

theorem midpointUS_nonneg (i : Nat) : 0 ≤ midpointUS i := by
  cases i with
  | zero => norm_num [midpointUS]
  | succ i =>
      rw [midpointUS_succ]
      exact mul_nonneg (Nat.cast_nonneg _) (by norm_num [sqrt2])

theorem midpointUS_le_slotTop (i : Nat) :
    midpointUS i / 1000000 ≤ (slotTop i : ℚ) / 1000000000 := by
  have positive := Nat.one_le_two_pow (n := i)
  have enough : midpointUS i * 1000 ≤ slotTop i := by
    cases i with
    | zero => norm_num [midpointUS, slotTop]
    | succ i =>
        have root : sqrt2 ≤ 3 / 2 := by norm_num [sqrt2]
        have whole : 2 ^ i * 1500 ≤ slotTop (i + 1) := by
          have := Nat.one_le_two_pow (n := i)
          rw [slotTop, pow_succ, pow_succ]
          omega
        have cast : ((2 ^ i : Nat) : ℚ) * 1500 ≤ slotTop (i + 1) := by
          exact_mod_cast whole
        have scaled := mul_le_mul_of_nonneg_left root
          (Nat.cast_nonneg (α := ℚ) (2 ^ i))
        rw [midpointUS_succ]
        linarith
  rw [div_le_div_iff₀ (by norm_num) (by norm_num)]
  linarith

theorem sum_atMost (latencies : List Latency) (promBuckets : List ℚ) :
    (slotsToConstHistogram (recorded latencies).slots promBuckets).sum ≤
      (latencies.map fun latency =>
        (slotTop latency.slot : ℚ) / 1000000000).sum := by
  rw [sum_recorded, sum_map_slot latencies fun i =>
    (slotTop i : ℚ) / 1000000000]
  apply Finset.sum_le_sum
  intro i _
  apply mul_le_mul
  · exact Nat.cast_le.mpr (Nat.mod_le _ _)
  · exact midpointUS_le_slotTop i
  · exact div_nonneg (midpointUS_nonneg i) (by norm_num)
  · exact Nat.cast_nonneg _

/-- How far the sum lies above what the shortest latencies add up to. -/
theorem sum_sub_floors (latencies : List Latency) (promBuckets : List ℚ) :
    (slotsToConstHistogram (recorded latencies).slots promBuckets).sum -
        (latencies.map fun latency =>
          (slotFloor latency.slot : ℚ) / 1000000000).sum =
      (((held latencies 0 % 2 ^ 64 : Nat) : ℚ) / 2 - shortfall latencies) /
        1000000 := by
  have first : ((held latencies 0 % 2 ^ 64 : Nat) : ℚ) *
        (midpointUS 0 / 1000000) -
      (held latencies 0 : ℚ) * ((slotFloor 0 : ℚ) / 1000000000) =
        ((held latencies 0 % 2 ^ 64 : Nat) : ℚ) / 2 / 1000000 := by
    rw [midpointUS, if_pos rfl, slotFloor, if_pos rfl]
    ring
  have others : ∑ i : Fin 25, (((held latencies i.succ % 2 ^ 64 : Nat) : ℚ) *
        (midpointUS i.succ / 1000000) -
      (held latencies i.succ : ℚ) * ((slotFloor i.succ : ℚ) / 1000000000)) =
        -(shortfall latencies / 1000000) := by
    rw [shortfall, Finset.sum_div, ← Finset.sum_neg_distrib]
    apply Finset.sum_congr rfl
    intro i _
    rw [Fin.val_succ, midpointUS_succ, slotFloor, if_neg (Nat.succ_ne_zero i.val)]
    push_cast
    ring
  rw [sum_recorded, sum_map_slot latencies fun i =>
    (slotFloor i : ℚ) / 1000000000, ← Finset.sum_sub_distrib,
    Fin.sum_univ_succ, others, sub_div, ← first, Fin.val_zero]
  exact (sub_eq_add_neg _ _).symm

/-- The sum is one the samples can have exactly when half a microsecond for each
sample of slot 0 makes up for what the midpoints of the other slots miss. -/
theorem sumConsistent_iff (latencies : List Latency) (promBuckets : List ℚ) :
    SumConsistent latencies
        (slotsToConstHistogram (recorded latencies).slots promBuckets).sum ↔
      shortfall latencies ≤ ((held latencies 0 % 2 ^ 64 : Nat) : ℚ) / 2 := by
  have slack := sum_sub_floors latencies promBuckets
  constructor
  · intro consistent
    have enough := consistent.atLeast
    rw [← sub_nonneg, slack] at enough
    linarith
  · intro covered
    refine ⟨?_, fun _ => sum_atMost latencies promBuckets⟩
    rw [← sub_nonneg, slack]
    apply div_nonneg _ (by norm_num)
    linarith

/-- A midpoint lies below the shortest latency of its slot. -/
theorem shortfall_term_lower (n i : Nat) :
    (n : ℚ) / 2 ≤ (n : ℚ) * (2 ^ (i + 1) : Nat) -
      ((n % 2 ^ 64 : Nat) : ℚ) * ((2 ^ i : Nat) * sqrt2) := by
  have unit : (1 : ℚ) ≤ (2 ^ i : Nat) :=
    Nat.one_le_cast.mpr Nat.one_le_two_pow
  have gap : (1 : ℚ) / 2 ≤ (2 ^ (i + 1) : Nat) - (2 ^ i : Nat) * sqrt2 := by
    have root : sqrt2 ≤ 3 / 2 := by norm_num [sqrt2]
    have scaled := mul_le_mul_of_nonneg_left root
      (Nat.cast_nonneg (α := ℚ) (2 ^ i))
    rw [pow_succ, Nat.cast_mul, Nat.cast_ofNat]
    linarith
  have counted : ((n % 2 ^ 64 : Nat) : ℚ) ≤ n :=
    Nat.cast_le.mpr (Nat.mod_le _ _)
  have midpoint : (0 : ℚ) ≤ (2 ^ i : Nat) * sqrt2 := by
    rw [← midpointUS_succ]
    exact midpointUS_nonneg (i + 1)
  calc (n : ℚ) / 2 = n * (1 / 2) := by ring
    _ ≤ n * ((2 ^ (i + 1) : Nat) - (2 ^ i : Nat) * sqrt2) :=
        mul_le_mul_of_nonneg_left gap (Nat.cast_nonneg n)
    _ = n * (2 ^ (i + 1) : Nat) - n * ((2 ^ i : Nat) * sqrt2) := mul_sub _ _ _
    _ ≤ _ := sub_le_sub_left (mul_le_mul_of_nonneg_right counted midpoint) _

/-- Whenever all samples are of two microseconds or more, the sum is smaller than
any sum their slots allow. -/
theorem sum_too_small {latencies : List Latency} (promBuckets : List ℚ)
    (sampled : latencies ≠ []) (slow : ∀ latency ∈ latencies, 2000 ≤ latency.ns) :
    ¬ SumConsistent latencies
      (slotsToConstHistogram (recorded latencies).slots promBuckets).sum := by
  have above : ∀ latency ∈ latencies, latency.slot ≠ 0 := by
    intro latency member first
    have least := (le_uncappedSlot_iff latency.ns 1).mpr (slow latency member)
    have zero := congrArg Fin.val first
    rw [Latency.slot_val, slotOf_eq_min, Fin.val_zero] at zero
    simp only [maxSlots] at zero
    omega
  have none : held latencies 0 = 0 := by
    rw [held, List.countP_eq_zero]
    intro latency member
    simpa using above latency member
  have total : (latencies.length : ℚ) =
      ∑ i : Fin 25, (held latencies i.succ : ℚ) := by
    have counted := sum_map_slot latencies fun _ => 1
    rw [Fin.sum_univ_succ, none] at counted
    simpa using counted
  have missing : (latencies.length : ℚ) / 2 ≤ shortfall latencies := by
    rw [total, shortfall, Finset.sum_div]
    exact Finset.sum_le_sum fun i _ => shortfall_term_lower _ _
  have positive : (0 : ℚ) < latencies.length :=
    Nat.cast_pos.mpr (List.length_pos_iff.mpr sampled)
  rw [sumConsistent_iff, none]
  norm_num
  linarith

/-- A single operation of three milliseconds is exported as a sum of less than
one and a half. -/
theorem sum_of_three_milliseconds :
    ¬ SumConsistent [⟨3000000, by decide⟩]
        (slotsToConstHistogram (recorded [⟨3000000, by decide⟩]).slots [1]).sum ∧
      (slotsToConstHistogram (recorded [⟨3000000, by decide⟩]).slots [1]).sum <
        3 / 2000 := by
  refine ⟨sum_too_small [1] (by simp) (by simp), ?_⟩
  decide +kernel

end KubevirtMetrics.Ebpf
