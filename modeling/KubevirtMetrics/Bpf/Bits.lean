import Mathlib.Tactic

namespace KubevirtMetrics.Bpf

/-! `bits.bpf.h`: base-two logarithms by a cascade of shifts. -/

/-- The C expression `(v > limit) << exponent`. -/
def aboveShift (v limit exponent : UInt32) : UInt32 :=
  (if v > limit then 1 else 0) <<< exponent

def log2 (v : UInt32) : UInt64 :=
  let r := aboveShift v 0xFFFF 4
  let v := v >>> r
  let shift := aboveShift v 0xFF 3
  let v := v >>> shift
  let r := r ||| shift
  let shift := aboveShift v 0xF 2
  let v := v >>> shift
  let r := r ||| shift
  let shift := aboveShift v 0x3 1
  let v := v >>> shift
  let r := r ||| shift
  let r := r ||| (v >>> 1)
  r.toUInt64

def log2l (v : UInt64) : UInt64 :=
  let hi := (v >>> 32).toUInt32
  if hi ≠ 0 then log2 hi + 32 else log2 v.toUInt32

/-- One line of the cascade: a positive value below `2 ^ (2 * width)` is
brought below `2 ^ width`, and `aboveShift` is the number of bits dropped. -/
theorem aboveShift_spec (v limit exponent : UInt32) (width : Nat)
    (limitEq : limit.toNat + 1 = 2 ^ width)
    (widthEq : ((1 : UInt32) <<< exponent).toNat = width)
    (widthLt : width < 32)
    (positive : 0 < v.toNat) (bounded : v.toNat < 2 ^ (2 * width)) :
    let shift := aboveShift v limit exponent
    (shift.toNat = 0 ∨ shift.toNat = width) ∧
      0 < (v >>> shift).toNat ∧ (v >>> shift).toNat < 2 ^ width ∧
      (v >>> shift).toNat = v.toNat / 2 ^ shift.toNat := by
  intro shift
  by_cases above : v > limit
  · have shiftEq : shift.toNat = width := by
      simp only [shift, aboveShift, if_pos above, widthEq]
    have larger : limit.toNat < v.toNat := UInt32.lt_iff_toNat_lt.mp above
    rw [UInt32.toNat_shiftRight, shiftEq, Nat.mod_eq_of_lt widthLt,
      Nat.shiftRight_eq_div_pow]
    refine ⟨.inr rfl, Nat.div_pos (by omega) (by positivity), ?_, rfl⟩
    rw [Nat.div_lt_iff_lt_mul (by positivity), ← pow_add, ← two_mul]
    exact bounded
  · have shiftEq : shift = 0 := by
      simp [shift, aboveShift, if_neg above]
    have smaller : v.toNat ≤ limit.toNat := by
      rw [gt_iff_lt, UInt32.lt_iff_toNat_lt] at above
      omega
    rw [shiftEq]
    refine ⟨.inl rfl, ?_⟩
    simp
    omega

theorem cascade_or_eq_add {a b c d e : Nat}
    (ha : a = 0 ∨ a = 16) (hb : b = 0 ∨ b = 8) (hc : c = 0 ∨ c = 4)
    (hd : d = 0 ∨ d = 2) (he : e = 0 ∨ e = 1) :
    a ||| b ||| c ||| d ||| e = a + b + c + d + e := by
  rcases ha with rfl | rfl <;> rcases hb with rfl | rfl <;>
    rcases hc with rfl | rfl <;> rcases hd with rfl | rfl <;>
    rcases he with rfl | rfl <;> rfl

theorem log2_toNat (v : UInt32) (positive : 0 < v.toNat) :
    (log2 v).toNat = Nat.log2 v.toNat := by
  obtain ⟨first, pos₁, lt₁, eq₁⟩ := aboveShift_spec v 0xFFFF 4 16 (by decide)
    (by decide) (by decide) positive v.toNat_lt
  generalize shiftEq₁ : aboveShift v 0xFFFF 4 = shift₁ at first pos₁ lt₁ eq₁
  obtain ⟨second, pos₂, lt₂, eq₂⟩ := aboveShift_spec (v >>> shift₁) 0xFF 3 8
    (by decide) (by decide) (by decide) pos₁ lt₁
  generalize shiftEq₂ : aboveShift (v >>> shift₁) 0xFF 3 = shift₂
    at second pos₂ lt₂ eq₂
  obtain ⟨third, pos₃, lt₃, eq₃⟩ := aboveShift_spec (v >>> shift₁ >>> shift₂)
    0xF 2 4 (by decide) (by decide) (by decide) pos₂ lt₂
  generalize shiftEq₃ : aboveShift (v >>> shift₁ >>> shift₂) 0xF 2 = shift₃
    at third pos₃ lt₃ eq₃
  obtain ⟨fourth, pos₄, lt₄, eq₄⟩ :=
    aboveShift_spec (v >>> shift₁ >>> shift₂ >>> shift₃) 0x3 1 2 (by decide)
      (by decide) (by decide) pos₃ lt₃
  generalize shiftEq₄ :
    aboveShift (v >>> shift₁ >>> shift₂ >>> shift₃) 0x3 1 = shift₄
    at fourth pos₄ lt₄ eq₄
  rw [eq₃, eq₂, eq₁, Nat.div_div_eq_div_mul, Nat.div_div_eq_div_mul,
    Nat.div_div_eq_div_mul, ← pow_add, ← pow_add, ← pow_add] at eq₄
  have last : (v >>> shift₁ >>> shift₂ >>> shift₃ >>> shift₄ >>> 1).toNat =
      (v >>> shift₁ >>> shift₂ >>> shift₃ >>> shift₄).toNat / 2 := by
    simp [Nat.shiftRight_eq_div_pow]
  have unfolded : (log2 v).toNat =
      shift₁.toNat + shift₂.toNat + shift₃.toNat + shift₄.toNat +
        (v >>> shift₁ >>> shift₂ >>> shift₃ >>> shift₄).toNat / 2 := by
    simp only [log2, shiftEq₁, shiftEq₂, shiftEq₃, shiftEq₄,
      UInt32.toNat_toUInt64, UInt32.toNat_or, last]
    exact cascade_or_eq_add first second third fourth (by omega)
  rw [← Nat.add_assoc, ← Nat.add_assoc] at eq₄
  generalize shift₁.toNat + shift₂.toNat + shift₃.toNat + shift₄.toNat = dropped
    at eq₄ unfolded
  generalize (v >>> shift₁ >>> shift₂ >>> shift₃ >>> shift₄).toNat = rest
    at eq₄ unfolded pos₄ lt₄
  rw [unfolded, eq_comm, Nat.log2_eq_iff (by omega)]
  have lower := Nat.div_mul_le_self v.toNat (2 ^ dropped)
  have upper := Nat.lt_div_mul_add (a := v.toNat) (b := 2 ^ dropped)
    (by positivity)
  rw [← eq₄] at lower upper
  interval_cases rest <;> simp only [pow_add] at * <;> omega

theorem log2l_toNat (v : UInt64) (positive : 0 < v.toNat) :
    (log2l v).toNat = Nat.log2 v.toNat := by
  have hiEq : (v >>> 32).toUInt32.toNat = v.toNat / 2 ^ 32 := by
    have bounded := v.toNat_lt
    simp only [UInt64.toNat_toUInt32, UInt64.toNat_shiftRight,
      UInt64.toNat_ofNat, Nat.shiftRight_eq_div_pow, Nat.reducePow,
      Nat.reduceMod]
    omega
  simp only [log2l]
  split
  next nonzero =>
    have hiPos : 0 < (v >>> 32).toUInt32.toNat := by
      rw [Nat.pos_iff_ne_zero]
      exact fun zero => nonzero (UInt32.toNat_inj.mp zero)
    have hiLog := log2_toNat _ hiPos
    rw [hiEq] at hiLog hiPos
    have digits := (Nat.log2_eq_iff (by omega)).mp hiLog.symm
    have small : (log2 (v >>> 32).toUInt32).toNat < 32 := by
      rw [hiLog, Nat.log2_lt (by omega)]
      have bounded := v.toNat_lt
      omega
    have sumEq : (log2 (v >>> 32).toUInt32 + 32).toNat =
        (log2 (v >>> 32).toUInt32).toNat + 32 := by
      rw [UInt64.toNat_add]
      simp only [UInt64.toNat_ofNat]
      omega
    rw [sumEq, eq_comm, Nat.log2_eq_iff (by omega)]
    generalize (log2 (v >>> 32).toUInt32).toNat = exponent at digits
    simp only [pow_add] at digits ⊢
    omega
  next zero =>
    have hiZero : v.toNat / 2 ^ 32 = 0 := by
      rw [← hiEq, not_ne_iff.mp zero]
      rfl
    have lowEq : v.toUInt32.toNat = v.toNat := by
      rw [UInt64.toNat_toUInt32]
      omega
    rw [log2_toNat _ (by omega), lowEq]

theorem log2l_le_log2l {v w : UInt64} (positive : 0 < v) (le : v ≤ w) :
    log2l v ≤ log2l w := by
  rw [UInt64.lt_iff_toNat_lt] at positive
  rw [UInt64.le_iff_toNat_le] at le ⊢
  change 0 < v.toNat at positive
  rw [log2l_toNat v positive, log2l_toNat w (by omega), Nat.log2_eq_log_two,
    Nat.log2_eq_log_two]
  exact Nat.log_mono_right le

theorem log2l_lt {v : UInt64} (positive : 0 < v) : log2l v < 64 := by
  rw [UInt64.lt_iff_toNat_lt] at positive ⊢
  change 0 < v.toNat at positive
  rw [log2l_toNat v positive, UInt64.toNat_ofNat, Nat.log2_lt (by omega)]
  exact v.toNat_lt

/-- The cascade computes the floor of the logarithm over the whole 64-bit
range. -/
theorem log2l_eq_floor_log (v : UInt64) (positive : 0 < v) :
    (log2l v).toNat = Nat.log 2 v.toNat ∧
      (∀ w, v ≤ w → log2l v ≤ log2l w) ∧ log2l v < 64 := by
  refine ⟨?_, fun w => log2l_le_log2l positive, log2l_lt positive⟩
  rw [log2l_toNat v (UInt64.lt_iff_toNat_lt.mp positive), Nat.log2_eq_log_two]

theorem log2l_eq_floor_log_max :
    (0 : UInt64) < 0xFFFFFFFFFFFFFFFF ∧
      (log2l 0xFFFFFFFFFFFFFFFF).toNat =
        Nat.log 2 (0xFFFFFFFFFFFFFFFF : UInt64).toNat :=
  ⟨by decide, (log2l_eq_floor_log 0xFFFFFFFFFFFFFFFF (by decide)).1⟩

end KubevirtMetrics.Bpf
