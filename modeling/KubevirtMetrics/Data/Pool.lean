import Mathlib.Data.Finset.Basic
import KubevirtMetrics.Data.Table

namespace KubevirtMetrics.Data

universe u v

/-! Tables whose entries each hold one resource that has to be closed.  Resources
are numbered in the order in which they were opened. -/

structure Pool (K : Type u) (V : Type v) where
  entries : Table K V
  opened : Nat
  closed : Finset Nat

namespace Pool

variable {K : Type u} {V : Type v}

def empty : Pool K V := ⟨∅, 0, ∅⟩

/-- Every resource that was opened is closed, or is held by one entry and open. -/
structure Sound (resource : V → Nat) (pool : Pool K V) [DecidableEq K] :
    Prop where
  live : ∀ key value, pool.entries.lookup key = some value →
    resource value < pool.opened ∧ resource value ∉ pool.closed
  apart : ∀ key value other value', pool.entries.lookup key = some value →
    pool.entries.lookup other = some value' →
      resource value = resource value' → key = other
  kept : ∀ n < pool.opened, n ∈ pool.closed ∨
    ∃ key value, pool.entries.lookup key = some value ∧ resource value = n
  known : ∀ n ∈ pool.closed, n < pool.opened

variable [DecidableEq K] {resource : V → Nat} {pool : Pool K V}

def waste (pool : Pool K V) : Pool K V :=
  ⟨pool.entries, pool.opened + 1, insert pool.opened pool.closed⟩

def enter (pool : Pool K V) (key : K) (make : Nat → V) : Pool K V :=
  ⟨pool.entries.insert key (make pool.opened), pool.opened + 1, pool.closed⟩

def close (pool : Pool K V) (n : Nat) : Pool K V :=
  { pool with closed := insert n pool.closed }

def erase (pool : Pool K V) (key : K) : Pool K V :=
  { pool with entries := pool.entries.erase key }

def replace (pool : Pool K V) (key : K) (value : V) : Pool K V :=
  { pool with entries := pool.entries.insert key value }

theorem sound_empty : Sound resource (empty : Pool K V) where
  live key value found := by simp [empty] at found
  apart key value other value' found := by simp [empty] at found
  kept n small := absurd small (Nat.not_lt_zero n)
  known n closed := by simp [empty] at closed

namespace Sound

theorem waste (sound : Sound resource pool) : Sound resource pool.waste where
  live key value found := by
    obtain ⟨small, live⟩ := sound.live key value found
    refine ⟨Nat.lt_succ_of_lt small, fun closed => ?_⟩
    rcases Finset.mem_insert.mp closed with same | closed
    · exact absurd same (Nat.ne_of_lt small)
    · exact live closed
  apart := sound.apart
  kept n small := by
    by_cases last : n = pool.opened
    · exact .inl (Finset.mem_insert.mpr (.inl last))
    · cases sound.kept n (Nat.lt_of_le_of_ne (Nat.le_of_lt_succ small) last) with
      | inl closed => exact .inl (Finset.mem_insert_of_mem closed)
      | inr held => exact .inr held
  known n closed := by
    rcases Finset.mem_insert.mp closed with same | closed
    · exact same ▸ Nat.lt_succ_self _
    · exact Nat.lt_succ_of_lt (sound.known n closed)

theorem enter (sound : Sound resource pool) {key : K} {make : Nat → V}
    (absent : pool.entries.lookup key = none)
    (fresh : resource (make pool.opened) = pool.opened) :
    Sound resource (pool.enter key make) where
  live other value found := by
    change (pool.entries.insert key (make pool.opened)).lookup other =
      some value at found
    rcases Table.of_lookup_insert found with ⟨-, rfl⟩ | earlier
    · rw [fresh]
      exact ⟨Nat.lt_succ_self _, fun closed =>
        Nat.lt_irrefl _ (sound.known _ closed)⟩
    · obtain ⟨small, live⟩ := sound.live other value earlier
      exact ⟨Nat.lt_succ_of_lt small, live⟩
  apart first value second value' found found' same := by
    change (pool.entries.insert key (make pool.opened)).lookup first =
      some value at found
    change (pool.entries.insert key (make pool.opened)).lookup second =
      some value' at found'
    rcases Table.of_lookup_insert found with ⟨firstNew, rfl⟩ | earlier
    · rcases Table.of_lookup_insert found' with ⟨secondNew, -⟩ | earlier'
      · rw [firstNew, secondNew]
      · have small := (sound.live second value' earlier').1
        omega
    · rcases Table.of_lookup_insert found' with ⟨-, rfl⟩ | earlier'
      · have small := (sound.live first value earlier).1
        omega
      · exact sound.apart first value second value' earlier earlier' same
  kept n small := by
    by_cases last : n = pool.opened
    · exact .inr ⟨key, make pool.opened, Finmap.lookup_insert _,
        fresh.trans last.symm⟩
    · cases sound.kept n (Nat.lt_of_le_of_ne (Nat.le_of_lt_succ small) last) with
      | inl closed => exact .inl closed
      | inr held =>
          obtain ⟨other, value, found, same⟩ := held
          refine .inr ⟨other, value, ?_, same⟩
          have distinct : other ≠ key := by
            intro equal
            rw [equal, absent] at found
            cases found
          exact (Finmap.lookup_insert_of_ne _ distinct).trans found
  known n closed := Nat.lt_succ_of_lt (sound.known n closed)

theorem close_erase (sound : Sound resource pool) {key : K} {value : V}
    (found : pool.entries.lookup key = some value) :
    Sound resource ((pool.close (resource value)).erase key) where
  live other value' found' := by
    obtain ⟨distinct, earlier⟩ := Table.of_lookup_erase found'
    obtain ⟨small, live⟩ := sound.live other value' earlier
    refine ⟨small, fun closed => ?_⟩
    rcases Finset.mem_insert.mp closed with same | closed
    · exact distinct (sound.apart other value' key value earlier found same)
    · exact live closed
  apart first value' second value'' found' found'' := by
    exact sound.apart first value' second value''
      (Table.of_lookup_erase found').2 (Table.of_lookup_erase found'').2
  kept n small := by
    cases sound.kept n small with
    | inl closed => exact .inl (Finset.mem_insert_of_mem closed)
    | inr held =>
        obtain ⟨other, value', found', same⟩ := held
        by_cases here : other = key
        · rw [here, found] at found'
          obtain rfl := Option.some.inj found'
          exact .inl (Finset.mem_insert.mpr (.inl same.symm))
        · exact .inr ⟨other, value', (Finmap.lookup_erase_ne here).trans found',
            same⟩
  known n closed := by
    rcases Finset.mem_insert.mp closed with same | closed
    · exact same ▸ (sound.live key value found).1
    · exact sound.known n closed

theorem replace (sound : Sound resource pool) {key : K} {value value' : V}
    (found : pool.entries.lookup key = some value)
    (same : resource value' = resource value) :
    Sound resource (pool.replace key value') := by
  have lookupEq : ∀ other new,
      (pool.replace key value').entries.lookup other = some new →
        ∃ old, pool.entries.lookup other = some old ∧
          resource new = resource old := by
    intro other new foundNew
    rcases Table.of_lookup_insert foundNew with ⟨rfl, rfl⟩ | earlier
    · exact ⟨value, found, same⟩
    · exact ⟨new, earlier, rfl⟩
  refine ⟨fun other new foundNew => ?_, fun first new second new' foundNew
    foundNew' equal => ?_, fun n small => ?_, sound.known⟩
  · obtain ⟨old, foundOld, sameOld⟩ := lookupEq other new foundNew
    rw [sameOld]
    exact sound.live other old foundOld
  · obtain ⟨old, foundOld, sameOld⟩ := lookupEq first new foundNew
    obtain ⟨old', foundOld', sameOld'⟩ := lookupEq second new' foundNew'
    exact sound.apart first old second old' foundOld foundOld'
      (by rw [← sameOld, ← sameOld', equal])
  · cases sound.kept n small with
    | inl closed => exact .inl closed
    | inr held =>
        obtain ⟨other, old, foundOld, sameOld⟩ := held
        by_cases here : other = key
        · rw [here, found] at foundOld
          obtain rfl := Option.some.inj foundOld
          exact .inr ⟨key, value', Finmap.lookup_insert _, same.trans sameOld⟩
        · exact .inr ⟨other, old,
            (Finmap.lookup_insert_of_ne _ here).trans foundOld, sameOld⟩

end Sound

/-- Every resource that was opened is closed or is held by one entry; an entry may hold
one that is closed. -/
structure Held (resource : V → Nat) (pool : Pool K V) : Prop where
  small : ∀ key value, pool.entries.lookup key = some value → resource value < pool.opened
  apart : ∀ key value other value', pool.entries.lookup key = some value →
    pool.entries.lookup other = some value' →
      resource value = resource value' → key = other
  kept : ∀ n < pool.opened, n ∈ pool.closed ∨
    ∃ key value, pool.entries.lookup key = some value ∧ resource value = n

theorem Sound.held (sound : Sound resource pool) : Held resource pool :=
  ⟨fun key value found => (sound.live key value found).1, sound.apart, sound.kept⟩

namespace Held

theorem waste (held : Held resource pool) : Held resource pool.waste where
  small key value found := Nat.lt_succ_of_lt (held.small key value found)
  apart := held.apart
  kept n small := by
    rcases Nat.lt_succ_iff_lt_or_eq.mp small with earlier | last
    · exact (held.kept n earlier).imp_left Finset.mem_insert_of_mem
    · exact .inl (Finset.mem_insert.mpr (.inl last))

theorem enter (held : Held resource pool) {key : K} {make : Nat → V}
    (absent : pool.entries.lookup key = none)
    (fresh : resource (make pool.opened) = pool.opened) :
    Held resource (pool.enter key make) where
  small other value found := by
    rcases Table.of_lookup_insert found with ⟨-, rfl⟩ | earlier
    · rw [fresh]
      exact Nat.lt_succ_self _
    · exact Nat.lt_succ_of_lt (held.small other value earlier)
  apart first value second value' found found' same := by
    rcases Table.of_lookup_insert found with ⟨firstNew, rfl⟩ | earlier
    · rcases Table.of_lookup_insert found' with ⟨secondNew, -⟩ | earlier'
      · rw [firstNew, secondNew]
      · have small := held.small second value' earlier'
        omega
    · rcases Table.of_lookup_insert found' with ⟨-, rfl⟩ | earlier'
      · have small := held.small first value earlier
        omega
      · exact held.apart first value second value' earlier earlier' same
  kept n small := by
    rcases Nat.lt_succ_iff_lt_or_eq.mp small with earlier | last
    · rcases held.kept n earlier with closed | ⟨other, value, found, same⟩
      · exact .inl closed
      · have distinct : other ≠ key := by
          intro equal
          rw [equal, absent] at found
          cases found
        exact .inr ⟨other, value, (Finmap.lookup_insert_of_ne _ distinct).trans found,
          same⟩
    · exact .inr ⟨key, make pool.opened, Finmap.lookup_insert _, fresh.trans last.symm⟩

theorem close (held : Held resource pool) (n : Nat) : Held resource (pool.close n) where
  small := held.small
  apart := held.apart
  kept m small := (held.kept m small).imp_left Finset.mem_insert_of_mem

theorem erase (held : Held resource pool) {key : K} {value : V}
    (found : pool.entries.lookup key = some value)
    (closed : resource value ∈ pool.closed) :
    Held resource (pool.erase key) where
  small other value' found' := held.small other value' (Table.of_lookup_erase found').2
  apart first value' second value'' found' found'' :=
    held.apart first value' second value''
      (Table.of_lookup_erase found').2 (Table.of_lookup_erase found'').2
  kept n small := by
    rcases held.kept n small with gone | ⟨other, value', found', same⟩
    · exact .inl gone
    · rcases eq_or_ne other key with rfl | here
      · rw [found] at found'
        obtain rfl := Option.some.inj found'
        exact .inl (same ▸ closed)
      · exact .inr ⟨other, value', (Finmap.lookup_erase_ne here).trans found', same⟩

theorem replace (held : Held resource pool) {key : K} {value value' : V}
    (found : pool.entries.lookup key = some value)
    (same : resource value' = resource value) :
    Held resource (pool.replace key value') := by
  have before : ∀ other new,
      (pool.replace key value').entries.lookup other = some new →
        ∃ old, pool.entries.lookup other = some old ∧ resource new = resource old := by
    intro other new foundNew
    rcases Table.of_lookup_insert foundNew with ⟨rfl, rfl⟩ | earlier
    · exact ⟨value, found, same⟩
    · exact ⟨new, earlier, rfl⟩
  refine ⟨?_, ?_, ?_⟩
  · intro other new foundNew
    obtain ⟨old, foundOld, sameOld⟩ := before other new foundNew
    rw [sameOld]
    exact held.small other old foundOld
  · intro first new second new' foundNew foundNew' equal
    obtain ⟨old, foundOld, sameOld⟩ := before first new foundNew
    obtain ⟨old', foundOld', sameOld'⟩ := before second new' foundNew'
    exact held.apart first old second old' foundOld
      foundOld' (by rw [← sameOld, ← sameOld', equal])
  · intro n small
    rcases held.kept n small with closed | ⟨other, old, foundOld, sameOld⟩
    · exact .inl closed
    · rcases eq_or_ne other key with rfl | here
      · rw [found] at foundOld
        obtain rfl := Option.some.inj foundOld
        exact .inr ⟨other, value', Finmap.lookup_insert _, same.trans sameOld⟩
      · exact .inr ⟨other, old, (Finmap.lookup_insert_of_ne _ here).trans foundOld,
          sameOld⟩

/-- A resource that is not closed is held by exactly one entry. -/
theorem owner (held : Held resource pool) {n : Nat} (opened : n < pool.opened)
    (live : n ∉ pool.closed) :
    ∃! key, ∃ value, pool.entries.lookup key = some value ∧ resource value = n := by
  rcases held.kept n opened with gone | ⟨key, value, found, same⟩
  · exact absurd gone live
  · refine ⟨key, ⟨value, found, same⟩, ?_⟩
    intro other ⟨value', found', same'⟩
    exact held.apart other value' key value found' found (same'.trans same.symm)

end Held

end Pool

end KubevirtMetrics.Data
