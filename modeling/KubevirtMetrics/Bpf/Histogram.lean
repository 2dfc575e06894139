import KubevirtMetrics.Bpf.Bits
import KubevirtMetrics.Data.Table

namespace KubevirtMetrics.Bpf

open Data

/-! The histogram values of `common.h` and the part of a completion handler that
turns an elapsed time into one more sample.  The three tracers share it. -/

abbrev maxSlots : Nat := 26

@[ext] structure Hist where
  slots : Fin maxSlots → UInt64

def zeroHist : Hist := ⟨fun _ => 0⟩

/-- `__sync_fetch_and_add(&histp->slots[slot], 1)`. -/
def Hist.increment (hist : Hist) (slot : Fin maxSlots) : Hist :=
  ⟨Function.update hist.slots slot (hist.slots slot + 1)⟩

/-- The value of the C cast `(__s64)v`. -/
def toS64 (v : UInt64) : Int := v.toBitVec.toInt

theorem toS64_of_lt (v : UInt64) (small : v.toNat < 2 ^ 63) :
    toS64 v = v.toNat := by
  have doubled : 2 * v.toBitVec.toNat < 2 ^ 64 := by
    rw [UInt64.toNat_toBitVec]
    omega
  rw [toS64, BitVec.toInt_eq_toNat_of_lt doubled, UInt64.toNat_toBitVec]

/-- The slot of an elapsed time in nanoseconds, as the handlers compute it once
`delta` is known not to be negative. -/
def latencySlot (delta : Int) : Fin maxSlots :=
  let delta := delta.tdiv 1000
  let delta := if delta = 0 then 1 else delta
  let slot := log2l (UInt64.ofInt delta)
  if capped : slot.toNat ≥ maxSlots then
    ⟨maxSlots - 1, by decide⟩
  else
    ⟨slot.toNat, Nat.not_le.mp capped⟩

/-- What a slot means: the base-two logarithm of the latency in whole
microseconds, with everything below one microsecond counted as one. -/
def slotOf (ns : Nat) : Nat :=
  min (maxSlots - 1) (Nat.log2 (max 1 (ns / 1000)))

theorem latencySlot_val (ns : Nat) (bounded : ns < 2 ^ 63) :
    (latencySlot ns).val = slotOf ns := by
  have micros : (if (ns : Int).tdiv 1000 = 0 then 1 else (ns : Int).tdiv 1000) =
      ((max 1 (ns / 1000) : Nat) : Int) := by
    have quotient : (ns : Int).tdiv 1000 = ((ns / 1000 : Nat) : Int) := by
      rw [Int.tdiv_eq_ediv_of_nonneg (by omega)]
      omega
    rw [quotient]
    split <;> omega
  have narrow : (UInt64.ofInt ((max 1 (ns / 1000) : Nat) : Int)).toNat =
      max 1 (ns / 1000) := by
    rw [UInt64.ofInt, UInt64.toNat_ofNat']
    omega
  have logged : (log2l (UInt64.ofInt ((max 1 (ns / 1000) : Nat) : Int))).toNat =
      Nat.log2 (max 1 (ns / 1000)) := by
    rw [log2l_toNat _ (by omega), narrow]
  simp only [latencySlot, micros, logged, slotOf]
  split
  next capped => exact (Nat.min_eq_left (Nat.le_of_lt capped)).symm
  next below => exact (Nat.min_eq_right (by omega)).symm

section Observe

variable {K : Type} [DecidableEq K]

def observe (hists : Table K Hist) (key : K) (slot : Fin maxSlots) :
    Table K Hist :=
  let hists :=
    match hists.lookup key with
    | some _ => hists
    | none => hists.insert key zeroHist
  match hists.lookup key with
  | none => hists
  | some hist => hists.insert key (hist.increment slot)

theorem observe_eq (hists : Table K Hist) (key : K) (slot : Fin maxSlots) :
    observe hists key slot =
      hists.insert key ((hists.getD key zeroHist).increment slot) := by
  unfold observe Table.getD
  cases found : hists.lookup key with
  | some hist => simp [found]
  | none => simp [Finmap.insert_insert]

end Observe

/-- An elapsed time that a handler records: the handlers drop negative ones. -/
structure Latency where
  ns : Nat
  bounded : ns < 2 ^ 63

def Latency.slot (latency : Latency) : Fin maxSlots := latencySlot latency.ns

theorem Latency.slot_val (latency : Latency) :
    latency.slot.val = slotOf latency.ns :=
  latencySlot_val latency.ns latency.bounded

def recorded (latencies : List Latency) : Hist :=
  latencies.foldl (fun hist latency => hist.increment latency.slot) zeroHist

theorem increment_toNat_mod (hist : Hist) (slot other : Fin maxSlots) :
    ((hist.increment slot).slots other).toNat =
      ((hist.slots other).toNat + if slot = other then 1 else 0) % 2 ^ 64 := by
  by_cases same : slot = other
  · subst same
    simp only [Hist.increment, Function.update_self, UInt64.toNat_add,
      UInt64.toNat_one, if_true]
  · have bounded := (hist.slots other).toNat_lt
    simp only [Hist.increment, Function.update_of_ne (Ne.symm same), same,
      if_false, Nat.add_zero, Nat.mod_eq_of_lt bounded]

theorem increment_toNat (hist : Hist) (slot other : Fin maxSlots)
    (room : (hist.slots other).toNat + 1 < 2 ^ 64) :
    ((hist.increment slot).slots other).toNat =
      (hist.slots other).toNat + if slot = other then 1 else 0 := by
  rw [increment_toNat_mod, Nat.mod_eq_of_lt]
  split <;> omega

/-- Each slot counts the latencies that fall into it, up to the width of the
counter. -/
theorem recorded_toNat_mod (latencies : List Latency) (slot : Fin maxSlots) :
    ((recorded latencies).slots slot).toNat =
      latencies.countP (fun latency => latency.slot = slot) % 2 ^ 64 := by
  induction latencies using List.reverseRecOn with
  | nil => rfl
  | append_singleton latencies latency induction =>
      simp only [recorded, List.foldl_append, List.foldl_cons,
        List.foldl_nil] at induction ⊢
      rw [increment_toNat_mod, induction, List.countP_append,
        List.countP_singleton]
      simp only [decide_eq_true_eq]
      omega

/-- With fewer than `2 ^ 64` samples no counter wraps: each slot holds the
number of latencies that fall into it. -/
theorem recorded_toNat (latencies : List Latency)
    (few : latencies.length < 2 ^ 64) (slot : Fin maxSlots) :
    ((recorded latencies).slots slot).toNat =
      latencies.countP (fun latency => latency.slot = slot) := by
  rw [recorded_toNat_mod, Nat.mod_eq_of_lt]
  exact Nat.lt_of_le_of_lt List.countP_le_length few

end KubevirtMetrics.Bpf
