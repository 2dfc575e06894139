import KubevirtMetrics.Device.Resolver

namespace KubevirtMetrics.Device

open Data

/-! The three encodings of a device number: `st_rdev` of `stat`, the kernel's
`dev_t`, and the printed form. -/

/-- A mask of `width` bits at `place` keeps the digits between. -/
theorem and_mask_eq (n width place : Nat) :
    n &&& (2 ^ width - 1) <<< place = 2 ^ place * (n / 2 ^ place % 2 ^ width) := by
  rw [← Nat.and_two_pow_sub_one_eq_mod, ← Nat.shiftRight_eq_div_pow, Nat.mul_comm,
    ← Nat.shiftLeft_eq]
  apply Nat.eq_of_testBit_eq
  intro i
  rw [Nat.testBit_and, Nat.testBit_shiftLeft, Nat.testBit_shiftLeft,
    Nat.testBit_and, Nat.testBit_shiftRight]
  by_cases above : place ≤ i
  · rw [Nat.add_sub_cancel' above, decide_eq_true above, Bool.true_and, Bool.true_and]
  · rw [decide_eq_false above, Bool.false_and, Bool.false_and, Bool.and_false]

/-- Device numbers as the kernel has them. -/
structure DeviceID where
  major : UInt32
  minor : UInt32
  majorLt : major.toNat < 2 ^ 12
  minorLt : minor.toNat < 2 ^ 20

namespace DeviceID

def dev (id : DeviceID) : UInt32 := mkDev id.major id.minor

/-- How `stat` reports the device in `st_rdev`. -/
def rdev (id : DeviceID) : UInt64 :=
  (id.minor.toUInt64 &&& (0xff : UInt64)) ||| (id.major.toUInt64 <<< 8) |||
    ((id.minor.toUInt64 &&& ~~~(0xff : UInt64)) <<< 12)

theorem toNat_dev (id : DeviceID) :
    id.dev.toNat = 2 ^ 20 * id.major.toNat + id.minor.toNat := by
  have major := id.majorLt
  have shift : (id.major <<< 20).toNat = 2 ^ 20 * id.major.toNat := by
    rw [UInt32.toNat_shiftLeft, Nat.shiftLeft_eq, Nat.mul_comm]
    change 2 ^ 20 * id.major.toNat % 2 ^ 32 = _
    exact Nat.mod_eq_of_lt (by omega)
  rw [dev, mkDev, UInt32.toNat_or, shift, Nat.two_pow_add_eq_or_of_lt id.minorLt]

theorem dev_injective {id other : DeviceID} (same : id.dev = other.dev) :
    id.major = other.major ∧ id.minor = other.minor := by
  have number := congrArg UInt32.toNat same
  rw [toNat_dev, toNat_dev] at number
  have minor := id.minorLt
  have minor' := other.minorLt
  constructor <;> apply UInt32.toNat_inj.mp <;> omega

theorem devToString_dev (id : DeviceID) :
    devToString id.dev =
      toString id.major.toNat ++ ":" ++ toString id.minor.toNat := by
  have number := id.toNat_dev
  have minor := id.minorLt
  have majorEq : (id.dev >>> 20).toNat = id.major.toNat := by
    rw [UInt32.toNat_shiftRight, number, Nat.shiftRight_eq_div_pow]
    change (2 ^ 20 * id.major.toNat + id.minor.toNat) / 2 ^ 20 = _
    omega
  have minorEq : (id.dev &&& (((1 : UInt32) <<< 20) - 1)).toNat =
      id.minor.toNat := by
    have mask : (((1 : UInt32) <<< 20) - 1).toNat = 2 ^ 20 - 1 := by decide
    rw [UInt32.toNat_and, mask, Nat.and_two_pow_sub_one_eq_mod, number]
    omega
  simp only [devToString, majorEq, minorEq]

/-- The minor number is split around the major number. -/
theorem toNat_rdev (id : DeviceID) :
    id.rdev.toNat =
      2 ^ 20 * (id.minor.toNat / 2 ^ 8) +
        (2 ^ 8 * id.major.toNat + id.minor.toNat % 2 ^ 8) := by
  have major := id.majorLt
  have minor := id.minorLt
  have low : (id.minor.toUInt64 &&& (0xff : UInt64)).toNat =
      id.minor.toNat % 2 ^ 8 :=
    Nat.and_two_pow_sub_one_eq_mod id.minor.toNat 8
  have middle : (id.major.toUInt64 <<< 8).toNat = 2 ^ 8 * id.major.toNat := by
    rw [UInt64.toNat_shiftLeft, Nat.shiftLeft_eq, Nat.mul_comm]
    change 2 ^ 8 * id.major.toNat % 2 ^ 64 = _
    exact Nat.mod_eq_of_lt (by omega)
  have high : ((id.minor.toUInt64 &&& ~~~(0xff : UInt64)) <<< 12).toNat =
      2 ^ 20 * (id.minor.toNat / 2 ^ 8) := by
    have kept : (id.minor.toUInt64 &&& ~~~(0xff : UInt64)).toNat =
        2 ^ 8 * (id.minor.toNat / 2 ^ 8 % 2 ^ 56) :=
      and_mask_eq id.minor.toNat 56 8
    rw [UInt64.toNat_shiftLeft, kept, Nat.shiftLeft_eq]
    change 2 ^ 8 * (id.minor.toNat / 2 ^ 8 % 2 ^ 56) * 2 ^ 12 % 2 ^ 64 = _
    omega
  rw [rdev, UInt64.toNat_or, UInt64.toNat_or, low, middle, high,
    Nat.or_comm (id.minor.toNat % 2 ^ 8),
    ← Nat.two_pow_add_eq_or_of_lt (by omega) id.major.toNat, Nat.or_comm,
    Nat.two_pow_add_eq_or_of_lt (by omega) (id.minor.toNat / 2 ^ 8)]

theorem major_rdev (id : DeviceID) :
    ((id.rdev >>> 8) &&& (0xfff : UInt64)).toUInt32 = id.major := by
  have major := id.majorLt
  apply UInt32.toNat_inj.mp
  have field : ((id.rdev >>> 8) &&& (0xfff : UInt64)).toNat =
      id.rdev.toNat / 2 ^ 8 % 2 ^ 12 := by
    rw [UInt64.toNat_and, UInt64.toNat_shiftRight, Nat.shiftRight_eq_div_pow]
    exact Nat.and_two_pow_sub_one_eq_mod (id.rdev.toNat / 2 ^ 8) 12
  rw [UInt64.toNat_toUInt32, field, toNat_rdev]
  omega

theorem minor_rdev (id : DeviceID) :
    ((id.rdev &&& (0xff : UInt64)) |||
      ((id.rdev >>> 12) &&& (0xfff00 : UInt64))).toUInt32 = id.minor := by
  have major := id.majorLt
  have minor := id.minorLt
  apply UInt32.toNat_inj.mp
  have low : (id.rdev &&& (0xff : UInt64)).toNat = id.rdev.toNat % 2 ^ 8 :=
    Nat.and_two_pow_sub_one_eq_mod id.rdev.toNat 8
  have high : ((id.rdev >>> 12) &&& (0xfff00 : UInt64)).toNat =
      2 ^ 8 * (id.rdev.toNat / 2 ^ 12 / 2 ^ 8 % 2 ^ 12) := by
    rw [UInt64.toNat_and, UInt64.toNat_shiftRight, Nat.shiftRight_eq_div_pow]
    exact and_mask_eq (id.rdev.toNat / 2 ^ 12) 12 8
  rw [UInt64.toNat_toUInt32, UInt64.toNat_or, low, high, Nat.or_comm,
    ← Nat.two_pow_add_eq_or_of_lt (Nat.mod_lt _ (by decide)), toNat_rdev]
  omega

end DeviceID

/-! ### The type of a file -/

def sIFMT : UInt32 := 0xf000

def sIFDIR : UInt32 := 0x4000

def sIFCHR : UInt32 := 0x2000

def BlockSpecial (mode : UInt32) : Prop := mode &&& sIFMT = sIFBLK

theorem BlockSpecial.and_ne_zero {mode : UInt32} (block : BlockSpecial mode) :
    mode &&& sIFBLK ≠ 0 := by
  have inside : sIFMT &&& sIFBLK = sIFBLK := by decide
  rw [BlockSpecial] at block
  rw [← inside, ← UInt32.and_assoc, block]
  decide

theorem and_sIFBLK_eq_zero_iff (mode : UInt32) :
    mode &&& sIFBLK = 0 ↔ mode &&& sIFDIR = 0 ∧ mode &&& sIFCHR = 0 := by
  have both : mode &&& sIFBLK = (mode &&& sIFDIR) ||| (mode &&& sIFCHR) := by
    apply UInt32.toNat_inj.mp
    simp only [UInt32.toNat_or, UInt32.toNat_and]
    rw [← Nat.and_or_distrib_left]
    rfl
  rw [both, UInt32.or_eq_zero_iff]

theorem statBlockDevice_eq {host : Host} {path : String} {mode : UInt32}
    {id : DeviceID} (found : host.stat path = some ⟨mode, id.rdev⟩) :
    statBlockDevice host path =
      if mode &&& sIFBLK = 0 then none else some id.dev := by
  simp only [statBlockDevice, found, id.major_rdev, id.minor_rdev]
  rfl

/-- What `stat`, the mount table and the tracepoints have to agree on: the device
number of a block special file, and nothing for another file. -/
structure StatAgrees (host : Host) (path : String) (mode : UInt32)
    (id : DeviceID) : Prop where
  succeeds : (statBlockDevice host path).isSome = true ↔ BlockSpecial mode
  number : BlockSpecial mode → statBlockDevice host path = some id.dev
  injective : ∀ other : DeviceID, id.dev = other.dev →
    id.major = other.major ∧ id.minor = other.minor
  printed : devToString id.dev =
    toString id.major.toNat ++ ":" ++ toString id.minor.toNat

/-- The test of the mode takes the bits of `S_IFBLK` for flags, but they are those
of a directory and of a character device; sockets and links have one of them
too. -/
theorem statAgrees_iff (host : Host) (path : String) (mode : UInt32)
    (id : DeviceID) (found : host.stat path = some ⟨mode, id.rdev⟩) :
    StatAgrees host path mode id ↔
      BlockSpecial mode ∨ mode &&& sIFDIR = 0 ∧ mode &&& sIFCHR = 0 := by
  rw [← and_sIFBLK_eq_zero_iff]
  have result := statBlockDevice_eq found
  constructor
  · intro agrees
    by_cases flags : mode &&& sIFBLK = 0
    · exact .inr flags
    · rw [if_neg flags] at result
      exact .inl (agrees.succeeds.mp (by rw [result]; rfl))
  · intro type
    refine ⟨?_, ?_, fun _ => DeviceID.dev_injective, id.devToString_dev⟩
    · constructor
      · intro success
        rcases type with block | flags
        · exact block
        · rw [result, if_pos flags] at success
          cases success
      · intro block
        rw [result, if_neg block.and_ne_zero]
        rfl
    · intro block
      rw [result, if_neg block.and_ne_zero]

def directoryMode : UInt32 := sIFDIR ||| 0o755

def noDevice : DeviceID := ⟨0, 0, by decide, by decide⟩

def directoryHost : Host where
  mountInfo := none
  stat _ := some ⟨directoryMode, noDevice.rdev⟩
  podStore := none
  pvcIndexer := none

/-- A directory is taken for the block device 0:0. -/
theorem directory_taken_for_block_device :
    statBlockDevice directoryHost "/volume" = some 0 ∧
      ¬ StatAgrees directoryHost "/volume" directoryMode noDevice := by
  refine ⟨by decide, fun agrees => ?_⟩
  have block : BlockSpecial directoryMode := agrees.succeeds.mp (by decide)
  exact absurd block (by unfold BlockSpecial; decide)

def diskHost : Host where
  mountInfo := none
  stat _ := some ⟨sIFBLK ||| 0o660, DeviceID.rdev ⟨8, 0x12345, by decide, by decide⟩⟩
  podStore := none
  pvcIndexer := none

theorem statAgrees_disk :
    StatAgrees diskHost "/volume" (sIFBLK ||| 0o660)
      ⟨8, 0x12345, by decide, by decide⟩ :=
  (statAgrees_iff diskHost "/volume" _ _ rfl).mpr
    (.inl (by unfold BlockSpecial; decide))

end KubevirtMetrics.Device
