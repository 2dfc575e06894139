import Mathlib.Algebra.Order.BigOperators.Group.List
import Mathlib.Algebra.Order.Ring.Nat
import Mathlib.Data.List.Nodup
import Mathlib.Data.List.Sort

namespace KubevirtMetrics.Data

universe u v w

/-! Lists whose elements are told apart by a key, and loops that may fail. -/

theorem all_intercalate {α : Type u} {p : α → Bool} {sep : List α} {parts : List (List α)}
    (between : sep.all p = true) (each : ∀ part ∈ parts, part.all p = true) :
    (sep.intercalate parts).all p = true := by
  induction parts with
  | nil => rfl
  | cons part parts induction =>
      have here := each part List.mem_cons_self
      have others := induction fun other member =>
        each other (List.mem_cons_of_mem part member)
      cases parts with
      | nil => rwa [List.intercalate_singleton]
      | cons next parts =>
          rw [List.intercalate_cons_cons, List.all_append, List.all_append, here, between,
            others]
          rfl

theorem eq_of_sum_eq {α : Type u} {f g : α → Nat} {xs : List α} (le : ∀ x ∈ xs, f x ≤ g x)
    (sums : (xs.map g).sum = (xs.map f).sum) : ∀ x ∈ xs, g x = f x := by
  induction xs with
  | nil => exact nofun
  | cons x xs induction =>
      have first := le x List.mem_cons_self
      have others := fun y member => le y (List.mem_cons_of_mem x member)
      have total : (xs.map f).sum ≤ (xs.map g).sum := List.sum_le_sum others
      rw [List.map_cons, List.map_cons, List.sum_cons, List.sum_cons] at sums
      rw [List.forall_mem_cons]
      exact ⟨by omega, induction others (by omega)⟩

/-- A function that permutes a list and nowhere lowers a measure leaves it as it is. -/
theorem measure_eq_of_map_perm {α : Type u} {f : α → α} {xs : List α}
    (perm : (xs.map f).Perm xs) {measure : α → Nat}
    (grows : ∀ x ∈ xs, measure x ≤ measure (f x)) :
    ∀ x ∈ xs, measure (f x) = measure x := by
  apply eq_of_sum_eq grows
  rw [← (perm.map measure).sum_eq, List.map_map]
  rfl

section Keys

variable {α : Type u} {K : Type v} [DecidableEq K]

theorem find?_of_nodup {key : α → K} {xs : List α} (nodup : (xs.map key).Nodup)
    {x : α} (member : x ∈ xs) :
    xs.find? (fun y => key y = key x) = some x := by
  cases found : xs.find? fun y => key y = key x with
  | none => simpa using List.find?_eq_none.mp found x member
  | some y =>
      have same : key y = key x := by simpa using List.find?_some found
      rw [List.inj_on_of_nodup_map nodup (List.mem_of_find?_eq_some found) member
        same]

/-- The elements of a list, one group for each key. -/
theorem flatMap_filter_perm (key : α → K) {keys : List K} (nodup : keys.Nodup)
    {xs : List α} (covered : ∀ x ∈ xs, key x ∈ keys) :
    (keys.flatMap fun k => xs.filter fun x => key x = k).Perm xs := by
  induction keys generalizing xs with
  | nil =>
      rw [List.eq_nil_iff_forall_not_mem.mpr fun x member =>
        List.not_mem_nil (covered x member)]
      exact .refl _
  | cons k keys induction =>
      obtain ⟨fresh, nodup⟩ := List.nodup_cons.mp nodup
      have later : ∀ other ∈ keys, (xs.filter fun x => key x = other) =
          (xs.filter fun x => !decide (key x = k)).filter fun x => key x = other := by
        intro other member
        rw [List.filter_filter]
        apply List.filter_congr
        intro x _
        by_cases same : key x = other
        · have apart : ¬key x = k := fun here => fresh (here ▸ same ▸ member)
          simp [same, same ▸ apart]
        · simp [same]
      have rest := @induction nodup (xs.filter fun x => !decide (key x = k)) (by
        intro x member
        obtain ⟨member, apart⟩ := List.mem_filter.mp member
        exact (List.mem_cons.mp (covered x member)).resolve_left (by simpa using apart))
      rw [List.flatMap_cons, List.flatMap_congr later]
      exact (List.Perm.append_left _ rest).trans (List.filter_append_perm _ xs)

/-- In a list without repetitions, a key is the source of what carries it. -/
theorem filter_filterMap_eq {f : K → Option α} {key : α → K}
    (keyed : ∀ k x, f k = some x → key x = k) {k : K} {order : List K}
    (nodup : order.Nodup) (member : k ∈ order) :
    (order.filterMap f).filter (fun x => key x = k) = (f k).toList := by
  have elsewhere : ∀ rest : List K, k ∉ rest →
      (rest.filterMap f).filter (fun x => key x = k) = [] := by
    intro rest absent
    rw [List.filter_eq_nil_iff]
    intro x carried
    obtain ⟨source, listed, made⟩ := List.mem_filterMap.mp carried
    rw [decide_eq_true_eq, keyed source x made]
    rintro rfl
    exact absent listed
  obtain ⟨front, back, rfl⟩ := List.append_of_mem member
  obtain ⟨absent, later⟩ := List.nodup_middle.mp nodup |> List.nodup_cons.mp
  rw [List.mem_append, not_or] at absent
  rw [List.filterMap_append, List.filter_append, elsewhere front absent.1,
    List.nil_append, List.filterMap_cons]
  cases made : f k with
  | none => exact elsewhere back absent.2
  | some x =>
      rw [List.filter_cons_of_pos (by simpa using keyed k x made),
        elsewhere back absent.2]
      rfl

omit [DecidableEq K] in
theorem map_filterMap_sublist {f : K → Option α} {key : α → K}
    (keyed : ∀ k x, f k = some x → key x = k) (order : List K) :
    ((order.filterMap f).map key).Sublist order := by
  induction order with
  | nil => exact .slnil
  | cons k order induction =>
      rw [List.filterMap_cons]
      cases made : f k with
      | none => exact induction.cons k
      | some x =>
          rw [List.map_cons, keyed k x made]
          exact induction.cons_cons k

/-- Sorting by a key that tells the elements apart. -/
theorem pairwise_lt_mergeSort {α : Type u} {K : Type v} [LinearOrder K]
    (key : α → K) (le : α → α → Bool)
    (spec : ∀ a b, le a b = true ↔ key a ≤ key b) {xs : List α}
    (nodup : (xs.map key).Nodup) :
    (xs.mergeSort le).Pairwise fun a b => key a < key b := by
  have sorted : (xs.mergeSort le).Pairwise fun a b => le a b = true := by
    apply List.pairwise_mergeSort
    · intro a b c first second
      rw [spec] at first second ⊢
      exact first.trans second
    · intro a b
      rw [Bool.or_eq_true, spec, spec]
      exact le_total (key a) (key b)
  have distinct : (xs.mergeSort le).Pairwise fun a b => key a ≠ key b := by
    rw [← List.pairwise_map]
    exact ((List.mergeSort_perm xs le).map key).nodup_iff.mpr nodup
  refine (sorted.and distinct).imp fun both => ?_
  exact lt_of_le_of_ne ((spec _ _).mp both.1) both.2

end Keys

/-- The last element with a property. -/
def IsLast {α : Type u} (P : α → Prop) (xs : List α) (x : α) : Prop :=
  P x ∧ ∃ front back, xs = front ++ x :: back ∧ ∀ later ∈ back, ¬ P later

theorem IsLast.mem {α : Type u} {P : α → Prop} {xs : List α} {x : α}
    (last : IsLast P xs x) : x ∈ xs := by
  obtain ⟨-, front, back, rfl, -⟩ := last
  exact List.mem_append_right front List.mem_cons_self

theorem find?_reverse_eq_some_iff {α : Type u} {p : α → Bool} {xs : List α}
    {x : α} : xs.reverse.find? p = some x ↔ IsLast (p · = true) xs x := by
  rw [List.find?_eq_some_iff_append]
  apply and_congr_right
  intro _
  constructor
  · rintro ⟨front, back, split, none⟩
    refine ⟨back.reverse, front.reverse, ?_, fun later member => ?_⟩
    · rw [← List.reverse_reverse xs, split]
      simp
    · simpa using none later (List.mem_reverse.mp member)
  · rintro ⟨front, back, rfl, none⟩
    refine ⟨back.reverse, front.reverse, by simp, fun later member => ?_⟩
    simpa using none later (List.mem_reverse.mp member)

theorem IsLast.unique {α : Type u} {P : α → Prop} {xs : List α} {x y : α}
    (last : IsLast P xs x) (last' : IsLast P xs y) : x = y := by
  classical
  have found := @find?_reverse_eq_some_iff α (fun x => decide (P x)) xs
  simp only [decide_eq_true_eq] at found
  exact Option.some.inj ((found.mpr last).symm.trans (found.mpr last'))

theorem exists_isLast {α : Type u} {P : α → Prop} {xs : List α} {x : α}
    (member : x ∈ xs) (holds : P x) : ∃ y, IsLast P xs y := by
  classical
  have found := @find?_reverse_eq_some_iff α (fun x => decide (P x)) xs
  simp only [decide_eq_true_eq] at found
  cases last : xs.reverse.find? fun x => decide (P x) with
  | some y => exact ⟨y, found.mp last⟩
  | none =>
      have absent := List.find?_eq_none.mp last x (List.mem_reverse.mpr member)
      exact absurd (decide_eq_true holds) absent

section Fallible

variable {α : Type u} {β : Type w} {ε : Type v}

theorem foldlM_cons_ok {f : β → α → Except ε β} {s next : β} {x : α} {xs : List α}
    (step : f s x = .ok next) : (x :: xs).foldlM f s = xs.foldlM f next := by
  rw [List.foldlM_cons, step]
  rfl

theorem mapM_eq_ok {f : α → Except ε β} {g : α → β} {xs : List α}
    (each : ∀ x ∈ xs, f x = .ok (g x)) : xs.mapM f = .ok (xs.map g) := by
  induction xs with
  | nil => rfl
  | cons x xs induction =>
      rw [List.mapM_cons, each x List.mem_cons_self,
        induction fun y member => each y (List.mem_cons_of_mem x member)]
      rfl

/-- What holds at the start and is kept by every step holds at the end. -/
theorem foldlM_invariant {σ : Type*} {f : σ → α → Except ε σ} (Inv : σ → Prop)
    (preserved : ∀ s x s', Inv s → f s x = .ok s' → Inv s') {xs : List α} {s s' : σ}
    (initial : Inv s) (ends : xs.foldlM f s = .ok s') : Inv s' := by
  induction xs generalizing s with
  | nil => exact Except.ok.inj ends ▸ initial
  | cons x xs induction =>
      cases step : f s x with
      | error error =>
          rw [List.foldlM_cons, step] at ends
          cases ends
      | ok next =>
          rw [List.foldlM_cons, step] at ends
          exact induction (preserved s x next initial step) ends

theorem bind_eq_ok {α β : Type u} {m : Except ε α} {next : α → Except ε β} {y : β} :
    (m >>= next) = .ok y ↔ ∃ x, m = .ok x ∧ next x = .ok y := by
  cases m with
  | error error => exact ⟨nofun, fun ⟨_, other, _⟩ => by cases other⟩
  | ok x =>
      exact ⟨fun same => ⟨x, rfl, same⟩, fun ⟨_, same, ends⟩ => Except.ok.inj same ▸ ends⟩

/-- A loop that appends what each step gives. -/
theorem foldlM_append_eq_ok_iff {f : List β → α → Except ε (List β)}
    {Gives : α → β → Prop} {xs : List α}
    (each : ∀ s, ∀ x ∈ xs, ∀ ys, f s x = .ok ys ↔ ∃ y, Gives x y ∧ ys = s ++ [y])
    {s ys : List β} :
    xs.foldlM f s = .ok ys ↔ ∃ zs, List.Forall₂ Gives xs zs ∧ ys = s ++ zs := by
  induction xs generalizing s with
  | nil =>
      rw [List.foldlM_nil]
      constructor
      · intro same
        exact ⟨[], .nil, ((List.append_nil s).trans (Except.ok.inj same)).symm⟩
      · rintro ⟨zs, gives, rfl⟩
        rw [List.forall₂_nil_left_iff.mp gives, List.append_nil]
        rfl
  | cons x xs induction =>
      have later := @induction fun s y member => each s y (List.mem_cons_of_mem x member)
      rw [List.foldlM_cons, bind_eq_ok]
      constructor
      · rintro ⟨next, first, rest⟩
        obtain ⟨y, gives, rfl⟩ := (each s x List.mem_cons_self next).mp first
        obtain ⟨zs, all, rfl⟩ := later.mp rest
        exact ⟨y :: zs, .cons gives all, List.append_assoc s [y] zs⟩
      · rintro ⟨_, gives | @⟨_, y, _, zs, gives, all⟩, rfl⟩
        exact ⟨s ++ [y], (each s x List.mem_cons_self _).mpr ⟨y, gives, rfl⟩,
          later.mpr ⟨zs, all, (List.append_assoc s [y] zs).symm⟩⟩

/-- A loop that passes over some elements. -/
theorem foldlM_filter_of_skip {f : β → α → Except ε β} {p : α → Bool}
    (skip : ∀ s x, p x = false → f s x = .ok s) (xs : List α) (s : β) :
    xs.foldlM f s = (xs.filter p).foldlM f s := by
  induction xs generalizing s with
  | nil => rfl
  | cons x xs induction =>
      cases kept : p x with
      | false =>
          rw [foldlM_cons_ok (skip s x kept), List.filter_cons_of_neg (by simp [kept]),
            induction]
      | true =>
          rw [List.filter_cons_of_pos kept, List.foldlM_cons, List.foldlM_cons]
          exact congrArg _ (funext fun next => induction next)

theorem forall₂_of_mapM_eq_ok {f : α → Except ε β} {xs : List α} {ys : List β}
    (ends : xs.mapM f = .ok ys) : List.Forall₂ (fun x y => f x = .ok y) xs ys := by
  induction xs generalizing ys with
  | nil => exact Except.ok.inj ends ▸ .nil
  | cons x xs induction =>
      rw [List.mapM_cons] at ends
      cases first : f x with
      | error error =>
          rw [first] at ends
          cases ends
      | ok y =>
          rw [first] at ends
          cases rest : xs.mapM f with
          | error error =>
              rw [rest] at ends
              cases ends
          | ok ys' =>
              rw [rest] at ends
              exact Except.ok.inj ends ▸ .cons first (induction rest)

theorem mapM_eq_error {f : α → Except ε β} {xs : List α} {x : α}
    (member : x ∈ xs) {error : ε} (fails : f x = .error error) :
    ∃ first, xs.mapM f = .error first := by
  induction xs with
  | nil => cases member
  | cons y xs induction =>
      rw [List.mapM_cons]
      cases here : f y with
      | error first => exact ⟨first, rfl⟩
      | ok value =>
          rcases List.mem_cons.mp member with rfl | later
          · rw [here] at fails
            cases fails
          · obtain ⟨first, failed⟩ := induction later
            exact ⟨first, by rw [failed]; rfl⟩

end Fallible

end KubevirtMetrics.Data
