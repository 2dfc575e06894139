import Mathlib.Data.Finmap
import KubevirtMetrics.Data.Lists

namespace KubevirtMetrics.Data

universe u v

/-! Finite tables.  A table has no order of its own: code that iterates over one
is given an enumeration of its keys. -/

abbrev Table (K : Type u) (V : Type v) := Finmap fun _ : K => V

namespace Table

variable {K : Type u} {V : Type v}

/-- A list that visits every key of a table exactly once. -/
structure Enumerates (order : List K) (table : Table K V) : Prop where
  nodup : order.Nodup
  mem_iff : ∀ key, key ∈ order ↔ key ∈ table

variable [DecidableEq K]

theorem enumerates_iff (order : List K) (table : Table K V) :
    Enumerates order table ↔ order.Nodup ∧ order.toFinset = table.keys := by
  constructor
  · intro enumerates
    refine ⟨enumerates.nodup, Finset.ext fun key => ?_⟩
    rw [List.mem_toFinset, Finmap.mem_keys, enumerates.mem_iff]
  · intro ⟨nodup, same⟩
    refine ⟨nodup, fun key => ?_⟩
    rw [← List.mem_toFinset, same, Finmap.mem_keys]

instance (order : List K) (table : Table K V) :
    Decidable (Enumerates order table) :=
  decidable_of_iff _ (enumerates_iff order table).symm

def getD (table : Table K V) (key : K) (default : V) : V :=
  (table.lookup key).getD default

@[simp] theorem getD_empty (key : K) (default : V) :
    getD (∅ : Table K V) key default = default := by
  simp [getD]

@[simp] theorem getD_insert_self
    (table : Table K V) (key : K) (value default : V) :
    getD (table.insert key value) key default = value := by
  simp [getD]

theorem getD_insert_of_ne (table : Table K V) {key other : K}
    (distinct : other ≠ key) (value default : V) :
    getD (table.insert key value) other default =
      getD table other default := by
  simp [getD, Finmap.lookup_insert_of_ne table distinct]

theorem lookup_insert_eq_ite
    (table : Table K V) (key other : K) (value : V) :
    (table.insert key value).lookup other =
      if other = key then some value else table.lookup other := by
  split
  next same => subst same; exact Finmap.lookup_insert table
  next distinct => exact Finmap.lookup_insert_of_ne table distinct

theorem lookup_erase_eq_ite (table : Table K V) (key other : K) :
    (table.erase key).lookup other =
      if other = key then none else table.lookup other := by
  split
  next same => subst same; exact Finmap.lookup_erase other table
  next distinct => exact Finmap.lookup_erase_ne distinct

theorem of_lookup_erase {table : Table K V} {key other : K} {value : V}
    (found : (table.erase key).lookup other = some value) :
    other ≠ key ∧ table.lookup other = some value := by
  rw [lookup_erase_eq_ite] at found
  split at found
  next => cases found
  next distinct => exact ⟨distinct, found⟩

theorem of_lookup_insert {table : Table K V} {key other : K}
    {value value' : V}
    (found : (table.insert key value).lookup other = some value') :
    (other = key ∧ value = value') ∨ table.lookup other = some value' := by
  rw [lookup_insert_eq_ite] at found
  split at found
  next same => exact .inl ⟨same, Option.some.inj found⟩
  next => exact .inr found

@[simp] theorem erase_insert_self (table : Table K V) (key : K) (value : V) :
    (table.insert key value).erase key = table.erase key := by
  apply Finmap.ext_lookup
  intro other
  rw [lookup_erase_eq_ite, lookup_erase_eq_ite, lookup_insert_eq_ite]
  split
  next => rfl
  next => rfl

theorem erase_of_lookup_none {table : Table K V} {key : K}
    (missing : table.lookup key = none) : table.erase key = table := by
  apply Finmap.ext_lookup
  intro other
  rw [lookup_erase_eq_ite]
  split
  next same => rw [same, missing]
  next => rfl

def insertAll (table : Table K V) (entries : List (K × V)) : Table K V :=
  entries.foldl (fun acc entry => acc.insert entry.1 entry.2) table

@[simp] theorem insertAll_nil (table : Table K V) :
    table.insertAll [] = table := rfl

@[simp] theorem insertAll_append
    (table : Table K V) (front back : List (K × V)) :
    table.insertAll (front ++ back) =
      (table.insertAll front).insertAll back := by
  simp [insertAll]

theorem lookup_insertAll (table : Table K V) (entries : List (K × V)) (key : K) :
    (table.insertAll entries).lookup key =
      ((entries.reverse.find? fun entry => entry.1 = key).map Prod.snd).or
        (table.lookup key) := by
  induction entries using List.reverseRecOn with
  | nil => rfl
  | append_singleton entries entry induction =>
      rw [insertAll_append, List.reverse_append, List.reverse_singleton,
        List.singleton_append]
      simp only [insertAll, List.foldl_cons, List.foldl_nil] at induction ⊢
      rw [lookup_insert_eq_ite, induction]
      by_cases same : entry.1 = key
      · rw [if_pos same.symm, List.find?_cons_of_pos (by simpa using same)]
        rfl
      · rw [if_neg (Ne.symm same),
          List.find?_cons_of_neg (by simpa using same)]

theorem lookup_insertAll_of_absent (table : Table K V)
    (entries : List (K × V)) (key : K)
    (absent : ∀ entry ∈ entries, entry.1 ≠ key) :
    (table.insertAll entries).lookup key = table.lookup key := by
  have missing : entries.reverse.find? (fun entry => entry.1 = key) = none := by
    rw [List.find?_eq_none]
    intro entry member
    simpa using absent entry (List.mem_reverse.mp member)
  rw [lookup_insertAll, missing]
  rfl

theorem exists_lookup_insertAll (table : Table K V) {entries : List (K × V)}
    {key : K} {value : V} (member : (key, value) ∈ entries) :
    ∃ other, (key, other) ∈ entries ∧
      (table.insertAll entries).lookup key = some other := by
  rw [lookup_insertAll]
  cases found : entries.reverse.find? fun entry => entry.1 = key with
  | none =>
      simpa using List.find?_eq_none.mp found _ (List.mem_reverse.mpr member)
  | some entry =>
      obtain rfl : entry.1 = key := by simpa using List.find?_some found
      exact ⟨entry.2, List.mem_reverse.mp (List.mem_of_find?_eq_some found), rfl⟩

theorem mem_of_lookup_insertAll {table : Table K V}
    {entries : List (K × V)} {key : K} {value : V}
    (found : (table.insertAll entries).lookup key = some value) :
    (key, value) ∈ entries ∨ table.lookup key = some value := by
  by_cases present : ∃ entry ∈ entries, entry.1 = key
  · obtain ⟨entry, member, rfl⟩ := present
    obtain ⟨other, listed, same⟩ := exists_lookup_insertAll table member
    rw [same] at found
    rw [← Option.some.inj found]
    exact .inl listed
  · right
    rw [← found]
    exact (lookup_insertAll_of_absent table entries key fun entry member same =>
      present ⟨entry, member, same⟩).symm

theorem lookup_insertAll_of_agree (table : Table K V)
    {entries : List (K × V)} {key : K} {value : V}
    (agree : ∀ other, (key, other) ∈ entries → other = value)
    (member : (key, value) ∈ entries) :
    (table.insertAll entries).lookup key = some value := by
  obtain ⟨other, listed, found⟩ := exists_lookup_insertAll table member
  rw [found, agree other listed]

/-- Of the entries with one key the last one counts. -/
theorem lookup_insertAll_filterMap {A : Type*} {f : A → Option (K × V)}
    {xs : List A} {key : K} {value : V} :
    (insertAll ∅ (xs.filterMap f)).lookup key = some value ↔
      ∃ x, IsLast (fun x => ∃ other, f x = some (key, other)) xs x ∧
        f x = some (key, value) := by
  have given : ∀ x, (f x).any (fun entry => decide (entry.1 = key)) = true ↔
      ∃ other, f x = some (key, other) := by
    intro x
    cases f x <;> simp [Prod.ext_iff]
  rw [lookup_insertAll, Finmap.lookup_empty, Option.or_none,
    ← List.filterMap_reverse, List.find?_filterMap]
  simp only [Option.map_eq_some_iff, Option.bind_eq_some_iff,
    find?_reverse_eq_some_iff, given]
  constructor
  · rintro ⟨entry, ⟨x, last, found⟩, rfl⟩
    obtain ⟨other, here⟩ := last.1
    obtain rfl := Option.some.inj (found.symm.trans here)
    exact ⟨x, last, here⟩
  · rintro ⟨x, last, found⟩
    exact ⟨(key, value), ⟨x, last, found⟩, rfl⟩

theorem lookup_insertAll_map (table : Table K V) (keys : List K)
    (value : K → V) {key : K} (member : key ∈ keys) :
    (table.insertAll (keys.map fun key => (key, value key))).lookup key =
      some (value key) := by
  refine lookup_insertAll_of_agree table (fun other found => ?_)
    (List.mem_map_of_mem member)
  obtain ⟨_, _, entryEq⟩ := List.mem_map.mp found
  obtain ⟨rfl, rfl⟩ := Prod.mk.inj entryEq
  rfl

/-- Entries of keys that the table already has are left out. -/
def insertMissing (table : Table K V) (entries : List (K × V)) : Table K V :=
  entries.foldl
    (fun acc entry => if entry.1 ∈ acc then acc else acc.insert entry.1 entry.2)
    table

theorem lookup_insertMissing (table : Table K V) (entries : List (K × V))
    (key : K) :
    (table.insertMissing entries).lookup key =
      (table.lookup key).or
        ((entries.find? fun entry => entry.1 = key).map Prod.snd) := by
  induction entries generalizing table with
  | nil => exact Option.or_none.symm
  | cons entry entries induction =>
      rw [insertMissing, List.foldl_cons]
      refine (induction _).trans ?_
      by_cases same : entry.1 = key
      · rw [List.find?_cons_of_pos (by simpa using same), same]
        split
        next present =>
          obtain ⟨value, found⟩ := Finmap.mem_iff.mp present
          rw [found, Option.some_or, Option.some_or]
        next missing =>
          rw [Finmap.lookup_insert, Finmap.lookup_eq_none.mpr missing]
          rfl
      · rw [List.find?_cons_of_neg (by simpa using same)]
        split
        next => rfl
        next => rw [Finmap.lookup_insert_of_ne _ (Ne.symm same)]

theorem lookup_insertAll_eq_none {entries : List (K × V)} {key : K} :
    (insertAll ∅ entries).lookup key = none ↔
      ∀ value, (key, value) ∉ entries := by
  rw [lookup_insertAll, Finmap.lookup_empty, Option.or_none,
    Option.map_eq_none_iff, List.find?_eq_none]
  constructor
  · intro missing value member
    exact missing (key, value) (List.mem_reverse.mpr member) (by simp)
  · intro missing entry member same
    rw [decide_eq_true_eq] at same
    exact missing entry.2 (same ▸ List.mem_reverse.mp member)

theorem lookup_insertAll_of_nodup {entries : List (K × V)}
    (nodup : (entries.map Prod.fst).Nodup) {key : K} {value : V}
    (member : (key, value) ∈ entries) :
    (insertAll ∅ entries).lookup key = some value := by
  apply lookup_insertAll_of_agree ∅ ?_ member
  intro other listed
  exact (Prod.mk.inj (List.inj_on_of_nodup_map nodup listed member rfl)).2

theorem insertAll_eq {entries : List (K × V)} {table : Table K V}
    (nodup : (entries.map Prod.fst).Nodup)
    (same : ∀ key value,
      (key, value) ∈ entries ↔ table.lookup key = some value) :
    insertAll ∅ entries = table := by
  apply Finmap.ext_lookup
  intro key
  cases found : table.lookup key with
  | some value => exact lookup_insertAll_of_nodup nodup ((same key value).mpr found)
  | none =>
      rw [lookup_insertAll_eq_none]
      intro value member
      rw [(same key value).mp member] at found
      cases found

theorem find?_entries {A : Type*} (key : A → K) (value : A → Option V)
    (xs : List A) (k : K) :
    ((xs.filterMap fun x => (value x).map fun v => (key x, v)).find?
        fun entry => entry.1 = k).map Prod.snd =
      (xs.find? fun x => key x = k && (value x).isSome).bind value := by
  induction xs with
  | nil => rfl
  | cons x xs induction =>
      rw [List.filterMap_cons, List.find?_cons]
      cases here : value x with
      | none =>
          rw [Option.isSome_none, Bool.and_false]
          exact induction
      | some v =>
          simp only [Option.map_some, List.find?_cons, Option.isSome_some,
            Bool.and_true]
          by_cases same : key x = k
          · simp [same, here]
          · simp only [same, decide_false]
            exact induction

theorem find?_bind_eq_some {A : Type*} {key : A → K} {value : A → Option V}
    {xs : List A} {k : K} {v : V}
    (found : (xs.find? fun x => key x = k && (value x).isSome).bind value =
      some v) :
    ∃ x ∈ xs, key x = k ∧ value x = some v := by
  obtain ⟨x, chosen, here⟩ := Option.bind_eq_some_iff.mp found
  have own := List.find?_some chosen
  rw [Bool.and_eq_true, decide_eq_true_eq] at own
  exact ⟨x, List.mem_of_find?_eq_some chosen, own.1, here⟩

theorem find?_bind_eq_none {A : Type*} {key : A → K} {value : A → Option V}
    {xs : List A} {k : K}
    (missing : (xs.find? fun x => key x = k && (value x).isSome).bind value =
      none) :
    ∀ x ∈ xs, key x = k → value x = none := by
  intro x member own
  by_contra valued
  cases chosen : xs.find? fun x => key x = k && (value x).isSome with
  | none =>
      have other := List.find?_eq_none.mp chosen x member
      simp [own, Option.isSome_iff_ne_none.mpr valued] at other
  | some y =>
      have carried := List.find?_some chosen
      rw [chosen, Option.bind_some] at missing
      simp [missing] at carried

theorem find?_bind_of_nodup {A : Type*} {key : A → K} (value : A → Option V)
    {xs : List A} (nodup : (xs.map key).Nodup) {x : A} (member : x ∈ xs) :
    (xs.find? fun y => key y = key x && (value y).isSome).bind value =
      value x := by
  cases found :
      (xs.find? fun y => key y = key x && (value y).isSome).bind value with
  | none => exact (find?_bind_eq_none found x member rfl).symm
  | some v =>
      obtain ⟨y, listed, same, here⟩ := find?_bind_eq_some found
      rw [← here, List.inj_on_of_nodup_map nodup listed member same]

end Table

end KubevirtMetrics.Data
