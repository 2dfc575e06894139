import KubevirtMetrics.Data.Run
import KubevirtMetrics.Data.Table

namespace KubevirtMetrics.Data

/-! Entries that are put under a key, taken out at most once, and may be
overwritten or lost in between. -/

inductive SlotEvent (K V : Type)
  | put (key : K) (value : V)
  | take (key : K)
  | lose (key : K)
  | idle

namespace SlotEvent

variable {K V : Type} [DecidableEq K]

def apply (slots : Table K V) : SlotEvent K V → Table K V
  | .put key value => slots.insert key value
  | .take key | .lose key => slots.erase key
  | .idle => slots

/-- The entry that the event takes out. -/
def taken? (slots : Table K V) : SlotEvent K V → Option V
  | .take key => slots.lookup key
  | _ => none

end SlotEvent

/-- Slots whose entries remember the position of the event that put them, and the
entries taken out so far: the positions where each was put and taken. -/
structure Ledger (K V : Type) where
  clock : Nat
  slots : Table K (Nat × V)
  spent : List (Nat × Nat)

namespace Ledger

variable {K V : Type} [DecidableEq K]

def init : Ledger K V := ⟨0, ∅, []⟩

def step (ledger : Ledger K V) : SlotEvent K V → Ledger K V
  | .put key value =>
      ⟨ledger.clock + 1, ledger.slots.insert key (ledger.clock, value),
        ledger.spent⟩
  | .take key =>
      ⟨ledger.clock + 1, ledger.slots.erase key, ledger.spent ++
        ((ledger.slots.lookup key).map fun entry =>
          (entry.1, ledger.clock)).toList⟩
  | .lose key =>
      ⟨ledger.clock + 1, ledger.slots.erase key, ledger.spent⟩
  | .idle => ⟨ledger.clock + 1, ledger.slots, ledger.spent⟩

def after (history : List (SlotEvent K V)) : Ledger K V :=
  stateAfter step init history

theorem after_append_singleton (history : List (SlotEvent K V))
    (event : SlotEvent K V) :
    after (history ++ [event]) = (after history).step event :=
  stateAfter_append_singleton step init history event

/-- The positions in the ledger are those of the history. -/
structure Sound (history : List (SlotEvent K V)) (ledger : Ledger K V) :
    Prop where
  clock : ledger.clock = history.length
  put : ∀ key start value, ledger.slots.lookup key = some (start, value) →
    history[start]? = some (.put key value) ∧ start ∉ ledger.spent.map Prod.fst
  paired : ∀ start stop, (start, stop) ∈ ledger.spent → start < stop ∧
    ∃ key value, history[start]? = some (.put key value) ∧
      history[stop]? = some (.take key)
  once : (ledger.spent.map Prod.fst).Nodup

theorem getElem?_append_of_some {α : Type} {xs : List α} {i : Nat} {x : α}
    (found : xs[i]? = some x) (ys : List α) : (xs ++ ys)[i]? = some x := by
  obtain ⟨inside, _⟩ := List.getElem?_eq_some_iff.mp found
  rw [List.getElem?_append_left inside]
  exact found

namespace Sound

variable {history : List (SlotEvent K V)} {ledger : Ledger K V}

theorem keep (sound : Sound history ledger) (event : SlotEvent K V)
    {slots : Table K (Nat × V)}
    (kept : ∀ key entry, slots.lookup key = some entry →
      ledger.slots.lookup key = some entry) :
    Sound (history ++ [event]) ⟨ledger.clock + 1, slots, ledger.spent⟩ where
  clock := by simp [sound.clock]
  put key start value found := by
    obtain ⟨placed, unspent⟩ := sound.put key start value (kept key _ found)
    exact ⟨getElem?_append_of_some placed _, unspent⟩
  paired start stop spent := by
    obtain ⟨earlier, key, value, placed, taken⟩ := sound.paired start stop spent
    exact ⟨earlier, key, value, getElem?_append_of_some placed _,
      getElem?_append_of_some taken _⟩
  once := sound.once

theorem spent_lt (sound : Sound history ledger) {start : Nat}
    (spent : start ∈ ledger.spent.map Prod.fst) : start < history.length := by
  obtain ⟨⟨_, stop⟩, member, rfl⟩ := List.mem_map.mp spent
  obtain ⟨-, key, value, placed, -⟩ := sound.paired _ stop member
  exact (List.getElem?_eq_some_iff.mp placed).1

theorem step_put (sound : Sound history ledger) (key : K) (value : V) :
    Sound (history ++ [.put key value]) (ledger.step (.put key value)) where
  clock := by simp [step, sound.clock]
  put other start value' found := by
    simp only [step, Table.lookup_insert_eq_ite] at found
    split at found
    next same =>
      obtain ⟨rfl, rfl⟩ := Prod.mk.inj (Option.some.inj found)
      subst same
      refine ⟨by simp [sound.clock], fun spent => ?_⟩
      have earlier := sound.spent_lt spent
      rw [← sound.clock] at earlier
      exact lt_irrefl _ earlier
    next =>
      obtain ⟨placed, unspent⟩ := sound.put other start value' found
      exact ⟨getElem?_append_of_some placed _, unspent⟩
  paired := (sound.keep (.put key value) fun _ _ found => found).paired
  once := sound.once

theorem step_take (sound : Sound history ledger) (key : K) :
    Sound (history ++ [.take key]) (ledger.step (.take key)) := by
  have kept : Sound (history ++ [.take key])
      ⟨ledger.clock + 1, ledger.slots.erase key, ledger.spent⟩ :=
    sound.keep (.take key) fun _ _ found => (Table.of_lookup_erase found).2
  cases found : ledger.slots.lookup key with
  | none =>
      simp only [step, found, Option.map_none, Option.toList_none,
        List.append_nil]
      exact kept
  | some entry =>
      obtain ⟨start, value⟩ := entry
      obtain ⟨placed, unspent⟩ := sound.put key start value found
      simp only [step, found, Option.map_some, Option.toList_some]
      constructor
      · exact kept.clock
      · intro other start' value' found'
        obtain ⟨placed', unspent'⟩ := kept.put other start' value' found'
        refine ⟨placed', ?_⟩
        rw [List.map_append, List.mem_append, not_or]
        refine ⟨unspent', ?_⟩
        rw [List.map_singleton, List.mem_singleton]
        rintro rfl
        -- one position cannot have put entries under two keys
        rw [getElem?_append_of_some placed] at placed'
        simp only [Option.some.injEq, SlotEvent.put.injEq] at placed'
        exact (Table.of_lookup_erase found').1 placed'.1.symm
      · intro start' stop spent
        rcases List.mem_append.mp spent with earlier | last
        · exact kept.paired start' stop earlier
        · obtain ⟨rfl, rfl⟩ := Prod.mk.inj (List.mem_singleton.mp last)
          have inside := (List.getElem?_eq_some_iff.mp placed).1
          refine ⟨by rw [sound.clock]; exact inside, key, value,
            getElem?_append_of_some placed _, ?_⟩
          simp [sound.clock]
      · rw [List.map_append, List.nodup_append]
        refine ⟨sound.once, by simp, ?_⟩
        intro start' member other last
        rw [List.map_singleton, List.mem_singleton] at last
        rintro rfl
        rw [last] at member
        exact unspent member

end Sound

theorem after_sound (history : List (SlotEvent K V)) :
    Sound history (after history) := by
  induction history using List.reverseRecOn with
  | nil =>
      constructor
      · rfl
      · intro key start value found
        simp [after, init] at found
      · intro start stop spent
        simp [after, init] at spent
      · exact List.nodup_nil
  | append_singleton history event induction =>
      rw [after_append_singleton]
      cases event with
      | put key value => exact induction.step_put key value
      | take key => exact induction.step_take key
      | lose key =>
          exact induction.keep _ fun _ _ found => (Table.of_lookup_erase found).2
      | idle => exact induction.keep _ fun _ _ found => found

theorem spent_append (history later : List (SlotEvent K V)) {use : Nat × Nat}
    (spent : use ∈ (after history).spent) :
    use ∈ (after (history ++ later)).spent := by
  induction later using List.reverseRecOn with
  | nil => rw [List.append_nil]; exact spent
  | append_singleton later event induction =>
      rw [← List.append_assoc, after_append_singleton]
      cases event with
      | take key => exact List.mem_append_left _ induction
      | put key value => exact induction
      | lose key => exact induction
      | idle => exact induction

end Ledger

def slotsAfter {K V : Type} [DecidableEq K]
    (history : List (SlotEvent K V)) : Table K V :=
  stateAfter SlotEvent.apply ∅ history

namespace Ledger

variable {K V : Type} [DecidableEq K]

theorem lookup_slots (history : List (SlotEvent K V)) (key : K) :
    ((after history).slots.lookup key).map Prod.snd =
      (slotsAfter history).lookup key := by
  induction history using List.reverseRecOn with
  | nil => simp [after, init, slotsAfter]
  | append_singleton history event induction =>
      rw [after_append_singleton, slotsAfter, stateAfter_append_singleton]
      cases event with
      | put other value =>
          simp only [step, SlotEvent.apply, Table.lookup_insert_eq_ite]
          split
          next => rfl
          next => exact induction
      | take other | lose other =>
          simp only [step, SlotEvent.apply, Table.lookup_erase_eq_ite]
          split
          next => rfl
          next => exact induction
      | idle => exact induction

/-- An entry that is taken out was put by an earlier event, which is spent with
it. -/
theorem spent_of_taken {before : List (SlotEvent K V)}
    (later : List (SlotEvent K V)) {event : SlotEvent K V} {value : V}
    (taken : event.taken? (slotsAfter before) = some value) :
    ∃ start key, event = .take key ∧ start < before.length ∧
      before[start]? = some (.put key value) ∧
        (start, before.length) ∈ (after (before ++ event :: later)).spent := by
  cases event with
  | take key =>
      have found : ((after before).slots.lookup key).map Prod.snd =
          some value := by
        rw [lookup_slots]
        exact taken
      obtain ⟨⟨start, _⟩, entry, rfl⟩ := Option.map_eq_some_iff.mp found
      have sound := after_sound before
      have placed := (sound.put key start _ entry).1
      refine ⟨start, key, rfl, (List.getElem?_eq_some_iff.mp placed).1, placed,
        ?_⟩
      rw [← List.singleton_append, ← List.append_assoc]
      apply spent_append
      rw [after_append_singleton]
      simp [step, entry, sound.clock]
  | put key value => cases taken
  | lose key => cases taken
  | idle => cases taken

theorem spent_inj (history : List (SlotEvent K V)) {start stop stop' : Nat}
    (spent : (start, stop) ∈ (after history).spent)
    (spent' : (start, stop') ∈ (after history).spent) : stop = stop' := by
  have once := (after_sound history).once
  have same := List.inj_on_of_nodup_map once spent spent' rfl
  exact (Prod.mk.inj same).2

end Ledger

end KubevirtMetrics.Data
