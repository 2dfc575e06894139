import Mathlib.Algebra.BigOperators.Fin
import Mathlib.Algebra.BigOperators.Group.Finset.Basic
import Mathlib.Algebra.BigOperators.Group.Finset.Piecewise
import Mathlib.Data.Fintype.Basic

namespace KubevirtMetrics.Data

universe u v

variable {α : Type u} {K : Type v} [DecidableEq K]

theorem sum_countP_fibers (keys : Finset K) (P : K → Prop) [DecidablePred P]
    (key : α → K) (xs : List α) (covered : ∀ x ∈ xs, P (key x) → key x ∈ keys) :
    (∑ k ∈ keys, if P k then xs.countP (fun x => key x = k) else 0) =
      xs.countP fun x => P (key x) := by
  induction xs with
  | nil => simp
  | cons x xs induction =>
      have earlier := induction fun y member => covered y (by simp [member])
      have split : ∀ k,
          (if P k then (x :: xs).countP (fun x => key x = k) else 0) =
            (if P k then xs.countP (fun x => key x = k) else 0) +
              if key x = k then (if P k then 1 else 0) else 0 := by
        intro k
        by_cases holds : P k <;> by_cases same : key x = k <;> simp [holds, same]
      rw [Finset.sum_congr rfl fun k _ => split k, Finset.sum_add_distrib,
        earlier, Finset.sum_ite_eq]
      by_cases holds : P (key x)
      · simp [holds, covered x (by simp) holds]
      · simp [holds]

theorem sum_map_fibers {M : Type*} [AddCommMonoid M] [Fintype K]
    (key : α → K) (weight : K → M) (xs : List α) :
    (xs.map fun x => weight (key x)).sum =
      ∑ k, xs.countP (fun x => key x = k) • weight k := by
  induction xs with
  | nil => simp
  | cons x xs induction =>
      have split : ∀ k, (x :: xs).countP (fun x => key x = k) • weight k =
          (if key x = k then weight k else 0) +
            xs.countP (fun x => key x = k) • weight k := by
        intro k
        by_cases same : key x = k
        · rw [List.countP_cons_of_pos (by simpa using same), if_pos same,
            succ_nsmul']
        · rw [List.countP_cons_of_neg (by simpa using same), if_neg same,
            zero_add]
      rw [List.map_cons, List.sum_cons, induction,
        Finset.sum_congr rfl fun k _ => split k, Finset.sum_add_distrib,
        Finset.sum_ite_eq, if_pos (Finset.mem_univ _)]

theorem sum_map_toNat (p : α → Bool) (xs : List α) :
    (xs.map fun x => (p x).toNat).sum = xs.countP p := by
  induction xs with
  | nil => rfl
  | cons x xs induction =>
      rw [List.map_cons, List.sum_cons, induction, List.countP_cons, Nat.add_comm]
      cases p x with
      | true => rfl
      | false => rfl

/-- The positions at which chosen members stand. -/
theorem sum_contains [DecidableEq α] {xs chosen : List α} (distinct : xs.Nodup)
    (once : chosen.Nodup) (inside : chosen ⊆ xs) :
    ∑ i : Fin xs.length, (chosen.contains (xs.get i)).toNat = chosen.length := by
  have positions : ∑ i : Fin xs.length, (chosen.contains (xs.get i)).toNat =
      (xs.map fun x => (chosen.contains x).toNat).sum :=
    Fin.sum_univ_fun_getElem xs fun x => (chosen.contains x).toNat
  have same : (xs.filter fun x => chosen.contains x).Perm chosen := by
    rw [List.perm_ext_iff_of_nodup (distinct.filter _) once]
    intro x
    rw [List.mem_filter, List.contains_iff_mem]
    exact and_iff_right_of_imp fun member => inside member
  rw [positions, sum_map_toNat, List.countP_eq_length_filter, same.length_eq]

end KubevirtMetrics.Data
