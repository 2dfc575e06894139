import KubevirtMetrics.Data.Table

namespace KubevirtMetrics.Data.Table

universe u v w

/-! Tables of tables, as `map[K]map[L]V` is used: an inner table is made when its
first entry is. -/

variable {K : Type u} {L : Type v} {V : Type w} [DecidableEq K] [DecidableEq L]

def nestedLookup (table : Table K (Table L V)) (key : K) (inner : L) : Option V :=
  (table.lookup key).bind fun entries => entries.lookup inner

def nestedInsert (table : Table K (Table L V)) (key : K) (inner : L) (value : V) :
    Table K (Table L V) :=
  table.insert key ((table.getD key ∅).insert inner value)

@[simp] theorem nestedLookup_empty (key : K) (inner : L) :
    nestedLookup (∅ : Table K (Table L V)) key inner = none := by
  simp [nestedLookup]

theorem lookup_getD_empty (table : Table K (Table L V)) (key : K) (inner : L) :
    (table.getD key ∅).lookup inner = table.nestedLookup key inner := by
  unfold getD nestedLookup
  cases table.lookup key with
  | none => exact Finmap.lookup_empty inner
  | some entries => rfl

theorem nestedLookup_nestedInsert (table : Table K (Table L V))
    (key other : K) (inner inner' : L) (value : V) :
    (table.nestedInsert key inner value).nestedLookup other inner' =
      if other = key ∧ inner' = inner then some value
      else table.nestedLookup other inner' := by
  rw [nestedLookup, nestedInsert, lookup_insert_eq_ite]
  by_cases same : other = key
  · subst same
    rw [if_pos rfl, Option.bind_some, lookup_insert_eq_ite, lookup_getD_empty]
    simp only [true_and]
  · rw [if_neg same, if_neg fun both => same both.1]
    rfl

theorem mem_nestedInsert (table : Table K (Table L V)) (key other : K)
    (inner : L) (value : V) :
    other ∈ table.nestedInsert key inner value ↔
      other = key ∨ other ∈ table :=
  Finmap.mem_insert

def nestedInsertAll (table : Table K (Table L V))
    (entries : List (K × L × V)) : Table K (Table L V) :=
  entries.foldl (fun acc entry => acc.nestedInsert entry.1 entry.2.1 entry.2.2)
    table

theorem nestedLookup_nestedInsertAll (table : Table K (Table L V))
    (entries : List (K × L × V)) (key : K) (inner : L) :
    (table.nestedInsertAll entries).nestedLookup key inner =
      ((entries.reverse.find? fun entry =>
        entry.1 = key && entry.2.1 = inner).map fun entry => entry.2.2).or
          (table.nestedLookup key inner) := by
  induction entries using List.reverseRecOn with
  | nil => rfl
  | append_singleton entries entry induction =>
      rw [nestedInsertAll, List.foldl_append, List.foldl_cons, List.foldl_nil,
        List.reverse_append, List.reverse_singleton, List.singleton_append,
        nestedLookup_nestedInsert, List.find?_cons]
      by_cases here : key = entry.1 ∧ inner = entry.2.1
      · obtain ⟨rfl, rfl⟩ := here
        simp
      · have elsewhere : (decide (entry.1 = key) &&
            decide (entry.2.1 = inner)) = false := by
          rw [← Bool.not_eq_true, Bool.and_eq_true, decide_eq_true_eq,
            decide_eq_true_eq]
          exact fun both => here ⟨both.1.symm, both.2.symm⟩
        rw [if_neg here, elsewhere]
        exact induction

theorem mem_nestedInsertAll (table : Table K (Table L V))
    (entries : List (K × L × V)) (key : K) :
    key ∈ table.nestedInsertAll entries ↔
      (∃ entry ∈ entries, entry.1 = key) ∨ key ∈ table := by
  induction entries using List.reverseRecOn with
  | nil => simp [nestedInsertAll]
  | append_singleton entries entry induction =>
      rw [nestedInsertAll, List.foldl_append, List.foldl_cons, List.foldl_nil,
        mem_nestedInsert]
      refine (or_congr_right induction).trans ?_
      simp only [List.mem_append, List.mem_singleton, or_and_right, exists_or,
        exists_eq_left]
      rw [or_comm (b := _ ∨ _), or_assoc, or_right_comm, eq_comm, or_assoc]

end KubevirtMetrics.Data.Table
