import Mathlib.Data.Int.Log
import Mathlib.Data.Rat.Floor
import Mathlib.Tactic

namespace KubevirtMetrics.Data

/-! Binary floating point numbers with 64 bits.  Nothing here tells the two
zeros apart, so there is one. -/

namespace Binary64

/-- The nearest integer, and of two the even one. -/
def nearest (q : ℚ) : ℤ :=
  let below := ⌊q⌋
  if q - below < 1 / 2 then below
  else if 1 / 2 < q - below then below + 1
  else if below % 2 = 0 then below
  else below + 1

/-- The exponent of the last of the 53 places of the numbers around `q`. -/
def lastPlace (q : ℚ) : ℤ := max (Int.log 2 |q| - 52) (-1074)

/-- Rounding to 53 places, with no upper bound on the exponent. -/
def round (q : ℚ) : ℚ := nearest (q / 2 ^ lastPlace q) * 2 ^ lastPlace q

theorem floor_le_nearest (q : ℚ) : ⌊q⌋ ≤ nearest q := by
  simp only [nearest]
  split_ifs <;> omega

theorem nearest_le_floor_add_one (q : ℚ) : nearest q ≤ ⌊q⌋ + 1 := by
  simp only [nearest]
  split_ifs <;> omega

theorem nearest_mono {q r : ℚ} (le : q ≤ r) : nearest q ≤ nearest r := by
  rcases (Int.floor_le_floor le).lt_or_eq with less | same
  · have lower := floor_le_nearest r
    have upper := nearest_le_floor_add_one q
    omega
  · -- in one unit interval the fractional parts decide
    simp only [nearest, ← same]
    split_ifs <;> first | omega | (exfalso; linarith)

@[simp] theorem nearest_intCast (k : ℤ) : nearest k = k := by
  simp [nearest]

theorem nearest_le {q : ℚ} {k : ℤ} (le : q ≤ k) : nearest q ≤ k := by
  have mono := nearest_mono le
  rwa [nearest_intCast] at mono

theorem le_nearest {q : ℚ} {k : ℤ} (le : k ≤ q) : k ≤ nearest q := by
  have mono := nearest_mono le
  rwa [nearest_intCast] at mono

theorem two_zpow_pos (e : ℤ) : (0 : ℚ) < 2 ^ e := zpow_pos (by norm_num) e

/-- Multiples of the last place bound the rounded value where they bound the
value. -/
theorem round_le {q : ℚ} {k : ℤ} (le : q ≤ k * 2 ^ lastPlace q) :
    round q ≤ k * 2 ^ lastPlace q := by
  have pos := two_zpow_pos (lastPlace q)
  have bound : nearest (q / 2 ^ lastPlace q) ≤ k :=
    nearest_le ((div_le_iff₀ pos).mpr le)
  exact mul_le_mul_of_nonneg_right (by exact_mod_cast bound) pos.le

theorem le_round {q : ℚ} {k : ℤ} (le : k * 2 ^ lastPlace q ≤ q) :
    k * 2 ^ lastPlace q ≤ round q := by
  have pos := two_zpow_pos (lastPlace q)
  have bound : k ≤ nearest (q / 2 ^ lastPlace q) :=
    le_nearest ((le_div_iff₀ pos).mpr le)
  exact mul_le_mul_of_nonneg_right (by exact_mod_cast bound) pos.le

theorem two_zpow_eq_mul {e f : ℤ} (le : e ≤ f) :
    (2 : ℚ) ^ f = ((2 ^ (f - e).toNat : ℤ) : ℚ) * 2 ^ e := by
  push_cast
  rw [← zpow_natCast, ← zpow_add₀ (by norm_num)]
  congr 1
  omega

theorem lastPlace_mono {q r : ℚ} (pos : 0 < q) (le : q ≤ r) :
    lastPlace q ≤ lastPlace r := by
  have logs := Int.log_mono_right (b := 2) pos le
  simp only [lastPlace, abs_of_pos pos, abs_of_pos (pos.trans_le le)]
  omega

theorem round_mono_of_pos {q r : ℚ} (pos : 0 < q) (le : q ≤ r) :
    round q ≤ round r := by
  rcases (lastPlace_mono pos le).lt_or_eq with less | same
  · -- a power of two lies between them, and rounding passes over no such power
    have place : lastPlace r = Int.log 2 r - 52 := by
      simp only [lastPlace, abs_of_pos (pos.trans_le le)] at less ⊢
      omega
    have place' : Int.log 2 q - 52 ≤ lastPlace q := by
      simp only [lastPlace, abs_of_pos pos]
      omega
    have above : (2 : ℚ) ^ Int.log 2 r ≤ r :=
      Int.zpow_log_le_self (by norm_num) (pos.trans_le le)
    have below : q ≤ (2 : ℚ) ^ Int.log 2 r := by
      have next := (Int.lt_zpow_succ_log_self (b := 2) (by norm_num) q).le
      refine next.trans (zpow_le_zpow_right₀ (by norm_num) ?_)
      omega
    rw [two_zpow_eq_mul (e := lastPlace r) (by omega)] at above
    rw [two_zpow_eq_mul (e := lastPlace q) (by omega)] at below
    refine (round_le below).trans (le_trans (le_of_eq ?_) (le_round above))
    rw [← two_zpow_eq_mul (by omega), ← two_zpow_eq_mul (by omega)]
  · have scale := two_zpow_pos (lastPlace r)
    rw [round, round, same]
    have mono := nearest_mono (div_le_div_of_nonneg_right le scale.le)
    exact mul_le_mul_of_nonneg_right (by exact_mod_cast mono) scale.le

theorem round_nonneg {q : ℚ} (nonneg : 0 ≤ q) : 0 ≤ round q := by
  have zero := le_round (q := q) (k := 0) (by simpa using nonneg)
  simpa using zero

theorem round_mono {q r : ℚ} (nonneg : 0 ≤ q) (le : q ≤ r) :
    round q ≤ round r := by
  rcases nonneg.eq_or_lt with rfl | pos
  · have zero : round 0 = 0 := by simp [round, nearest]
    rw [zero]
    exact round_nonneg le
  · exact round_mono_of_pos pos le

theorem abs_nearest_sub_le (q : ℚ) : |(nearest q : ℚ) - q| ≤ 1 := by
  have lower := floor_le_nearest q
  have upper := nearest_le_floor_add_one q
  have floorLe := Int.floor_le q
  have ltFloor := Int.lt_floor_add_one q
  rw [abs_le]
  have lower' : (⌊q⌋ : ℚ) ≤ nearest q := by exact_mod_cast lower
  have upper' : (nearest q : ℚ) ≤ ⌊q⌋ + 1 := by exact_mod_cast upper
  constructor <;> linarith

theorem abs_round_sub_le (q : ℚ) : |round q - q| ≤ 2 ^ lastPlace q := by
  have pos := two_zpow_pos (lastPlace q)
  have scaled : round q - q =
      (nearest (q / 2 ^ lastPlace q) - q / 2 ^ lastPlace q) * 2 ^ lastPlace q := by
    rw [sub_mul, div_mul_cancel₀ _ pos.ne', round]
  rw [scaled, abs_mul, abs_of_pos pos]
  exact mul_le_of_le_one_left pos.le (abs_nearest_sub_le _)

theorem round_eq_self {q : ℚ} {k : ℤ} (multiple : q = k * 2 ^ lastPlace q) :
    round q = q := by
  apply le_antisymm
  · exact (round_le multiple.le).trans multiple.ge
  · exact multiple.le.trans (le_round multiple.ge)

/-- A natural number with at most 53 places between its first and its last one. -/
theorem round_natCast {n e : Nat} (dvd : 2 ^ e ∣ n) (small : n < 2 ^ (e + 53)) :
    round n = n := by
  obtain ⟨m, rfl⟩ := dvd
  have place : lastPlace ((2 ^ e * m : Nat) : ℚ) ≤ e := by
    have logs : Nat.log 2 (2 ^ e * m) < e + 53 :=
      Nat.log_lt_of_lt_pow' (by omega) small
    rw [lastPlace, abs_of_nonneg (Nat.cast_nonneg _), Int.log_natCast]
    omega
  apply round_eq_self (k := m * 2 ^ ((e : ℤ) - lastPlace ((2 ^ e * m : Nat) : ℚ)).toNat)
  have scale := two_zpow_eq_mul place
  push_cast at scale ⊢
  rw [zpow_natCast] at scale
  rw [mul_assoc, ← scale, mul_comm]

theorem lastPlace_le {q : ℚ} {e : ℤ} (bounded : |q| ≤ 2 ^ e) (large : 0 ≤ e) :
    lastPlace q ≤ e := by
  have logs : Int.log 2 |q| ≤ e := by
    rcases (abs_nonneg q).eq_or_lt with zero | pos
    · rw [← zero, Int.log_zero_right]
      exact large
    · calc Int.log 2 |q| ≤ Int.log 2 ((2 : ℚ) ^ e) := Int.log_mono_right pos bounded
        _ = e := by exact_mod_cast Int.log_zpow (R := ℚ) (by norm_num) e
  simp only [lastPlace]
  omega

theorem round_zero : round 0 = 0 := round_eq_self (k := 0) (by simp)

/-- Rounding does not lose half of a number that is not small. -/
theorem half_le_abs_round {q : ℚ} (large : 1 ≤ |q|) : |q| / 2 ≤ |round q| := by
  have pos : 0 < |q| := by linarith
  have logs : 0 ≤ Int.log 2 |q| := by
    rw [← Int.zpow_le_iff_le_log Nat.one_lt_two pos]
    simpa using large
  have place : lastPlace q ≤ Int.log 2 |q| - 1 := by
    simp only [lastPlace]
    omega
  have error : |round q - q| ≤ |q| / 2 := by
    calc |round q - q| ≤ 2 ^ lastPlace q := abs_round_sub_le q
      _ ≤ 2 ^ (Int.log 2 |q| - 1) := zpow_le_zpow_right₀ (by norm_num) place
      _ = 2 ^ Int.log 2 |q| / 2 := by rw [zpow_sub₀ two_ne_zero, zpow_one]
      _ ≤ |q| / 2 := by
          have below := Int.zpow_log_le_self Nat.one_lt_two pos
          push_cast at below
          linarith
  have triangle := abs_sub_abs_le_abs_sub q (round q)
  rw [abs_sub_comm] at triangle
  linarith

/-- The part before the point. -/
def truncate (q : ℚ) : ℤ := if 0 ≤ q then ⌊q⌋ else ⌈q⌉

theorem abs_sub_one_le_truncate (q : ℚ) : |q| - 1 ≤ |(truncate q : ℚ)| := by
  unfold truncate
  split
  next nonneg =>
    have floor := Int.lt_floor_add_one q
    rw [abs_of_nonneg nonneg]
    exact (by linarith : q - 1 ≤ ⌊q⌋).trans (le_abs_self _)
  next negative =>
    have ceil := Int.ceil_lt_add_one q
    rw [abs_of_neg (not_le.mp negative)]
    exact (by linarith : -q - 1 ≤ -(⌈q⌉ : ℚ)).trans (neg_le_abs _)

end Binary64

inductive Float64
  | nan
  | infinite (negative : Bool)
  | finite (value : ℚ)
  deriving DecidableEq

namespace Float64

def ofRat (q : ℚ) : Float64 :=
  if 2 ^ 1024 ≤ |Binary64.round q| then .infinite (decide (q < 0))
  else .finite (Binary64.round q)

theorem ofRat_eq_finite {q : ℚ} (bounded : |q| ≤ 2 ^ (63 : ℤ)) :
    ofRat q = .finite (Binary64.round q) := by
  apply if_neg
  have place : (2 : ℚ) ^ Binary64.lastPlace q ≤ 2 ^ (63 : ℤ) :=
    zpow_le_zpow_right₀ (by norm_num)
      (Binary64.lastPlace_le bounded (by norm_num))
  have error := (Binary64.abs_round_sub_le q).trans place
  have triangle := abs_sub_abs_le_abs_sub (Binary64.round q) q
  have rounded : |Binary64.round q| ≤ 2 ^ 64 := by linarith
  exact not_le.mpr
    (rounded.trans_lt (pow_lt_pow_right₀ (by norm_num) (by norm_num)))

/-- Division by a finite number other than zero. -/
def div (x : Float64) (by' : ℚ) : Float64 :=
  match x with
  | .nan => .nan
  | .infinite negative => .infinite (xor negative (decide (by' < 0)))
  | .finite value => ofRat (value / by')

/-- The order of `sort.Float64s`: what is not a number comes first. -/
def le : Float64 → Float64 → Bool
  | .nan, _ => true
  | _, .nan => false
  | .infinite true, _ => true
  | _, .infinite true => false
  | _, .infinite false => true
  | .infinite false, _ => false
  | .finite x, .finite y => x ≤ y

def sort (values : List Float64) : List Float64 := values.mergeSort le

def Nonneg : Float64 → Prop
  | .nan => False
  | .infinite negative => negative = false
  | .finite value => 0 ≤ value

theorem nonneg_ofRat {q : ℚ} (nonneg : 0 ≤ q) : (ofRat q).Nonneg := by
  unfold ofRat
  split
  next => exact decide_eq_false nonneg.not_gt
  next => exact Binary64.round_nonneg nonneg

theorem le_ofRat {q r : ℚ} (nonneg : 0 ≤ q) (smaller : q ≤ r) :
    (ofRat q).le (ofRat r) = true := by
  have mono := Binary64.round_mono nonneg smaller
  have rounded := Binary64.round_nonneg nonneg
  rw [ofRat, ofRat, abs_of_nonneg rounded, abs_of_nonneg (rounded.trans mono),
    decide_eq_false nonneg.not_gt, decide_eq_false (nonneg.trans smaller).not_gt]
  split
  next huge =>
    rw [if_pos (huge.trans mono)]
    rfl
  next =>
    split
    next => rfl
    next => exact decide_eq_true mono

theorem div_mono {x y : Float64} {d : ℚ} (nonneg : x.Nonneg)
    (smaller : x.le y = true) (pos : 0 < d) :
    (x.div d).le (y.div d) = true := by
  cases x with
  | nan => exact nonneg.elim
  | infinite negative =>
      obtain rfl : negative = false := nonneg
      cases y with
      | nan => cases smaller
      | infinite negative' =>
          cases negative' with
          | true => cases smaller
          | false => simp [div, pos.not_gt, le]
      | finite r => cases smaller
  | finite q =>
      have scaled : 0 ≤ q / d := div_nonneg nonneg pos.le
      cases y with
      | nan => cases smaller
      | infinite negative =>
          cases negative with
          | true => cases smaller
          | false =>
              simp only [div, pos.not_gt, decide_false, Bool.xor_false]
              cases ofRat (q / d) with
              | nan => rfl
              | infinite negative => cases negative <;> rfl
              | finite value => rfl
      | finite r =>
          have le : q ≤ r := of_decide_eq_true smaller
          exact le_ofRat scaled (div_le_div_of_nonneg_right le pos.le)

theorem sort_eq_self {values : List Float64}
    (sorted : values.Pairwise fun x y => x.le y = true) :
    sort values = values :=
  List.mergeSort_of_pairwise sorted

end Float64

end KubevirtMetrics.Data
