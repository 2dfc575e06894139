import KubevirtMetrics.Data.Run
import Mathlib.Data.Fintype.Card

namespace KubevirtMetrics.Exporter

open Data

/-! The fan-out at the end of a poll of the QMP and of the QGA collector: one
goroutine for each virtual machine, of which at most `cap(sem)` scrape at a
time. -/

/-- Where a goroutine is.  The deferred calls run in the order
`resultsMu.Unlock`, `<-sem`, `wg.Done`. -/
inductive Place
  | unborn
  | sending
  | scraping
  | locking
  | recording
  | receiving
  | leaving
  | done
  deriving DecidableEq

/-- A slot of `sem` is taken for the goroutine. -/
def Place.holds : Place → Bool
  | .scraping | .locking | .recording | .receiving => true
  | _ => false

/-- The goroutine counts in `wg`. -/
def Place.counts : Place → Bool
  | .unborn | .done => false
  | _ => true

structure Fanout (n : Nat) where
  started : Nat
  places : Fin n → Place
  /-- The number of values in the channel `sem`. -/
  sem : Nat
  wg : Nat
  resultsMu : Option (Fin n)
  /-- `wg.Wait` has returned. -/
  waited : Bool

inductive FanoutAction (n : Nat)
  | start
  | send (i : Fin n)
  | handOver (sender receiver : Fin n)
  | scrape (i : Fin n)
  | lock (i : Fin n)
  | unlock (i : Fin n)
  | receive (i : Fin n)
  | done (i : Fin n)
  | wait

namespace Fanout

variable {n : Nat}

def init : Fanout n where
  started := 0
  places _ := .unborn
  sem := 0
  wg := 0
  resultsMu := none
  waited := false

/-- A channel without a buffer passes a value only to a goroutine that is
receiving. -/
def Enabled (capacity : Nat) (s : Fanout n) : FanoutAction n → Prop
  | .start => s.started < n
  | .send i => s.places i = .sending ∧ s.sem < capacity
  | .handOver i j =>
      capacity = 0 ∧ s.places i = .sending ∧ s.places j = .receiving
  | .scrape i => s.places i = .scraping
  | .lock i => s.places i = .locking ∧ s.resultsMu = none
  | .unlock i => s.places i = .recording
  | .receive i => s.places i = .receiving ∧ 0 < s.sem
  | .done i => s.places i = .leaving
  | .wait => s.started = n ∧ s.wg = 0 ∧ s.waited = false

def move (s : Fanout n) (i : Fin n) (place : Place) : Fanout n :=
  { s with places := Function.update s.places i place }

def step (s : Fanout n) : FanoutAction n → Fanout n
  | .start =>
      if inside : s.started < n then
        { s.move ⟨s.started, inside⟩ .sending with
          started := s.started + 1, wg := s.wg + 1 }
      else s
  | .send i => { s.move i .scraping with sem := s.sem + 1 }
  | .handOver i j => (s.move i .scraping).move j .leaving
  | .scrape i => s.move i .locking
  | .lock i => { s.move i .recording with resultsMu := some i }
  | .unlock i => { s.move i .receiving with resultsMu := none }
  | .receive i => { s.move i .leaving with sem := s.sem - 1 }
  | .done i => { s.move i .done with wg := s.wg - 1 }
  | .wait => { s with waited := true }

def run (history : List (FanoutAction n)) : Fanout n :=
  stateAfter step init history

def Runs (capacity : Nat) (history : List (FanoutAction n)) : Prop :=
  Throughout (fun before action => Enabled capacity (run before) action) history

/-- Some goroutine, the one that started the others included, is unfinished and
none can take a step. -/
def Stuck (capacity : Nat) (s : Fanout n) : Prop :=
  (s.waited = false ∨ ∃ i, s.places i ≠ .done) ∧
    ∀ action, ¬ Enabled capacity s action

def NeverStuck (n capacity : Nat) : Prop :=
  ∀ history : List (FanoutAction n), Runs capacity history →
    ¬ Stuck capacity (run history)

/-! ### What holds of every run -/

def tally (p : Place → Bool) (places : Fin n → Place) : Nat :=
  (Finset.univ.filter fun i => p (places i) = true).card

theorem tally_update (p : Place → Bool) (places : Fin n → Place) (i : Fin n)
    (place : Place) :
    tally p (Function.update places i place) + (p (places i)).toNat =
      tally p places + (p place).toNat := by
  have others : ∀ f : Fin n → Place,
      tally p f = (p (f i)).toNat +
        ((Finset.univ.erase i).filter fun j => p (f j) = true).card := by
    intro f
    rw [tally, ← Finset.insert_erase (Finset.mem_univ i), Finset.filter_insert]
    split
    next holds =>
      rw [Finset.card_insert_of_notMem (by simp), holds]
      simp [add_comm]
    next fails => simp [fails]
  have same : ((Finset.univ.erase i).filter fun j =>
      p (Function.update places i place j) = true) =
        (Finset.univ.erase i).filter fun j => p (places j) = true := by
    apply Finset.filter_congr
    intro j member
    rw [Function.update_of_ne (Finset.ne_of_mem_erase member)]
  rw [others (Function.update places i place), others places, same,
    Function.update_self]
  omega

theorem tally_eq_zero_iff (p : Place → Bool) (places : Fin n → Place) :
    tally p places = 0 ↔ ∀ i, p (places i) = false := by
  simp [tally, Finset.filter_eq_empty_iff]

structure Sound (s : Fanout n) : Prop where
  unborn : ∀ i : Fin n, s.places i = .unborn ↔ s.started ≤ i
  started : s.started ≤ n
  sem : s.sem = tally Place.holds s.places
  wg : s.wg = tally Place.counts s.places
  resultsMu : ∀ i, s.places i = .recording ↔ s.resultsMu = some i
  waited : s.waited = true → ∀ i, s.places i = .done

theorem init_sound : (init : Fanout n).Sound where
  unborn _ := by simp [init]
  started := Nat.zero_le n
  sem := ((tally_eq_zero_iff _ _).mpr fun _ => rfl).symm
  wg := ((tally_eq_zero_iff _ _).mpr fun _ => rfl).symm
  resultsMu _ := by simp [init]
  waited claimed := by cases claimed

namespace Sound

variable {s : Fanout n} (sound : s.Sound)
include sound

/-- A step of one goroutine that runs. -/
theorem advance {i : Fin n} {old next : Place} (here : s.places i = old)
    (born : old ≠ .unborn) (alive : old ≠ .done) (born' : next ≠ .unborn)
    {sem wg : Nat} {resultsMu : Option (Fin n)}
    (semEq : sem + old.holds.toNat = s.sem + next.holds.toNat)
    (wgEq : wg + old.counts.toNat = s.wg + next.counts.toNat)
    (muIff : ∀ j, Function.update s.places i next j = .recording ↔
      resultsMu = some j) :
    Sound ⟨s.started, Function.update s.places i next, sem, wg, resultsMu,
      s.waited⟩ where
  unborn j := by
    change Function.update s.places i next j = .unborn ↔ s.started ≤ j
    by_cases same : j = i
    · subst same
      rw [Function.update_self, ← sound.unborn j, here]
      exact iff_of_false born' born
    · rw [Function.update_of_ne same]
      exact sound.unborn j
  started := sound.started
  sem := by
    have tallied := tally_update Place.holds s.places i next
    rw [here, ← sound.sem] at tallied
    dsimp only
    omega
  wg := by
    have tallied := tally_update Place.counts s.places i next
    rw [here, ← sound.wg] at tallied
    dsimp only
    omega
  resultsMu := muIff
  waited finished := absurd (here ▸ sound.waited finished i) alive

/-- The lock is not touched by a step that neither begins nor ends the part that
it protects. -/
theorem lock_kept {i : Fin n} {old next : Place} (here : s.places i = old)
    (outside : old ≠ .recording) (outside' : next ≠ .recording) (j : Fin n) :
    Function.update s.places i next j = .recording ↔ s.resultsMu = some j := by
  rw [← sound.resultsMu j]
  by_cases same : j = i
  · subst same
    rw [Function.update_self, here]
    exact iff_of_false outside' outside
  · rw [Function.update_of_ne same]

theorem wg_pos {i : Fin n} (counted : (s.places i).counts = true) :
    0 < s.wg := by
  rw [sound.wg, Nat.pos_iff_ne_zero]
  intro zero
  rw [(tally_eq_zero_iff _ _).mp zero i] at counted
  cases counted

theorem start (inside : s.started < n) : (s.step .start).Sound := by
  have unborn : s.places ⟨s.started, inside⟩ = .unborn :=
    (sound.unborn _).mpr le_rfl
  simp only [step, dif_pos inside, move]
  constructor
  · intro j
    by_cases same : j = ⟨s.started, inside⟩
    · subst same
      simp
    · have apart : j.val ≠ s.started := fun equal => same (Fin.ext equal)
      simp only [Function.update_of_ne same, sound.unborn j]
      omega
  · exact inside
  · have tallied := tally_update Place.holds s.places ⟨s.started, inside⟩ .sending
    rw [unborn, ← sound.sem] at tallied
    exact tallied.symm
  · have tallied :=
      tally_update Place.counts s.places ⟨s.started, inside⟩ .sending
    rw [unborn, ← sound.wg] at tallied
    exact tallied.symm
  · exact sound.lock_kept unborn (by decide) (by decide)
  · intro finished
    have ended := sound.waited finished ⟨s.started, inside⟩
    rw [unborn] at ended
    cases ended

theorem wait (all : s.started = n) (none : s.wg = 0) :
    (s.step .wait).Sound where
  unborn := sound.unborn
  started := sound.started
  sem := sound.sem
  wg := sound.wg
  resultsMu := sound.resultsMu
  waited _ i := by
    rw [sound.wg] at none
    have silent := (tally_eq_zero_iff _ _).mp none i
    have born : s.places i ≠ .unborn := fun unborn => by
      have late := (sound.unborn i).mp unborn
      omega
    change s.places i = .done
    cases place : s.places i with
    | done => rfl
    | unborn => exact absurd place born
    | _ => rw [place] at silent; cases silent

theorem step_sound {capacity : Nat} {action : FanoutAction n}
    (enabled : Enabled capacity s action) : (s.step action).Sound := by
  cases action with
  | start => exact sound.start enabled
  | send i =>
      exact sound.advance enabled.1 (by decide) (by decide) (by decide) rfl rfl
        (sound.lock_kept enabled.1 (by decide) (by decide))
  | handOver i j =>
      obtain ⟨-, sends, receives⟩ := enabled
      have taken : Sound ⟨s.started, Function.update s.places i .scraping,
          s.sem + 1, s.wg, s.resultsMu, s.waited⟩ :=
        sound.advance sends (by decide) (by decide) (by decide) rfl rfl
          (sound.lock_kept sends (by decide) (by decide))
      have apart : j ≠ i := by
        rintro rfl
        rw [sends] at receives
        cases receives
      have receives' : Function.update s.places i .scraping j = .receiving := by
        rw [Function.update_of_ne apart]
        exact receives
      exact taken.advance receives' (by decide) (by decide) (by decide) rfl rfl
        (taken.lock_kept receives' (by decide) (by decide))
  | scrape i =>
      exact sound.advance enabled (by decide) (by decide) (by decide) rfl rfl
        (sound.lock_kept enabled (by decide) (by decide))
  | lock i =>
      obtain ⟨waiting, free⟩ := enabled
      refine sound.advance waiting (by decide) (by decide) (by decide) rfl rfl ?_
      intro j
      by_cases same : j = i
      · subst same
        simp
      · rw [Function.update_of_ne same, sound.resultsMu j, free]
        simp [Ne.symm same]
  | unlock i =>
      refine sound.advance enabled (by decide) (by decide) (by decide) rfl rfl ?_
      intro j
      have owner := (sound.resultsMu i).mp enabled
      by_cases same : j = i
      · subst same
        simp
      · rw [Function.update_of_ne same, sound.resultsMu j, owner]
        simp [Ne.symm same]
  | receive i =>
      obtain ⟨receives, filled⟩ := enabled
      refine sound.advance receives (by decide) (by decide) (by decide) ?_ rfl
        (sound.lock_kept receives (by decide) (by decide))
      change s.sem - 1 + 1 = s.sem
      omega
  | done i =>
      have counted := sound.wg_pos (i := i) (by rw [enabled]; rfl)
      refine sound.advance enabled (by decide) (by decide) (by decide) rfl ?_
        (sound.lock_kept enabled (by decide) (by decide))
      change s.wg - 1 + 1 = s.wg
      omega
  | wait => exact sound.wait enabled.1 enabled.2.1

/-- As long as the channel has a buffer, somebody can go on. -/
theorem progress {capacity : Nat} (buffered : 0 < capacity)
    (unfinished : s.waited = false ∨ ∃ i, s.places i ≠ .done) :
    ∃ action, Enabled capacity s action := by
  have waiting : s.waited = false := by
    rcases unfinished with waiting | ⟨i, unfinished⟩
    · exact waiting
    · by_contra finished
      exact unfinished (sound.waited (by simpa using finished) i)
  rcases sound.started.lt_or_eq with more | all
  · exact ⟨.start, more⟩
  by_cases ended : ∀ i, (s.places i).counts = false
  · refine ⟨.wait, all, ?_, waiting⟩
    rw [sound.wg, tally_eq_zero_iff]
    exact ended
  by_cases held : ∀ i, (s.places i).holds = false
  · -- nobody has a slot, so whoever waits for one gets it
    push Not at ended
    obtain ⟨i, counted⟩ := ended
    cases place : s.places i with
    | unborn => simp [place, Place.counts] at counted
    | done => simp [place, Place.counts] at counted
    | sending =>
        refine ⟨.send i, place, ?_⟩
        rw [sound.sem, (tally_eq_zero_iff _ _).mpr held]
        exact buffered
    | leaving => exact ⟨.done i, place⟩
    | _ => have none := held i; rw [place] at none; cases none
  · push Not at held
    obtain ⟨i, holds⟩ := held
    cases place : s.places i with
    | scraping => exact ⟨.scrape i, place⟩
    | recording => exact ⟨.unlock i, place⟩
    | receiving =>
        refine ⟨.receive i, place, ?_⟩
        rw [sound.sem, Nat.pos_iff_ne_zero]
        intro zero
        exact holds ((tally_eq_zero_iff _ _).mp zero i)
    | locking =>
        cases owner : s.resultsMu with
        | none => exact ⟨.lock i, place, owner⟩
        | some j => exact ⟨.unlock j, (sound.resultsMu j).mpr owner⟩
    | _ => rw [place] at holds; exact absurd rfl holds

end Sound

theorem run_sound {capacity : Nat} {history : List (FanoutAction n)}
    (runs : Runs capacity history) : (run history).Sound :=
  stateAfter_invariant Sound init_sound
    (fun _ _ sound enabled => sound.step_sound enabled) runs

theorem neverStuck_of_pos {capacity : Nat} (buffered : 0 < capacity) :
    NeverStuck n capacity := by
  rintro history runs ⟨unfinished, stopped⟩
  obtain ⟨action, enabled⟩ := (run_sound runs).progress buffered unfinished
  exact stopped action enabled

theorem neverStuck_zero (capacity : Nat) : NeverStuck 0 capacity := by
  rintro history runs ⟨unfinished, stopped⟩
  have sound := run_sound runs
  rcases unfinished with waiting | ⟨i, -⟩
  · have none : (run history).wg = 0 := by
      rw [sound.wg, tally_eq_zero_iff]
      intro i
      exact i.elim0
    exact stopped .wait ⟨Nat.le_zero.mp sound.started, none, waiting⟩
  · exact i.elim0

/-- All goroutines are started before the first of them takes a step. -/
theorem run_starts {k : Nat} (le : k ≤ n) :
    (run (List.replicate k .start) : Fanout n) =
      ⟨k, fun i => if i.val < k then .sending else .unborn, 0, k, none,
        false⟩ := by
  induction k with
  | zero => rfl
  | succ k induction =>
      have earlier := induction (by omega)
      rw [run] at earlier ⊢
      rw [List.replicate_succ', stateAfter_append_singleton, earlier]
      have inside : k < n := le
      simp only [step, dif_pos inside, move]
      congr 1
      funext i
      rw [Function.update_apply]
      split
      next same => simp [same]
      next other =>
        have apart : i.val ≠ k := fun equal => other (Fin.ext equal)
        congr 1
        rw [eq_iff_iff]
        omega

theorem runs_starts (capacity : Nat) {k : Nat} (le : k ≤ n) :
    Runs capacity (List.replicate k .start : List (FanoutAction n)) := by
  induction k with
  | zero => exact throughout_nil _
  | succ k induction =>
      rw [List.replicate_succ', Runs, throughout_append_singleton]
      refine ⟨induction (by omega), ?_⟩
      rw [run_starts (by omega)]
      exact le

/-- Without a buffer nobody ever receives, so nobody gets past the sending. -/
theorem not_neverStuck (some : 0 < n) : ¬ NeverStuck n 0 := by
  intro never
  apply never _ (runs_starts 0 le_rfl)
  rw [run_starts le_rfl]
  refine ⟨.inl rfl, ?_⟩
  intro action
  cases action with
  | start => exact lt_irrefl n
  | send i => exact fun enabled => absurd enabled.2 (Nat.not_lt_zero _)
  | handOver i j => simp [Enabled]
  | scrape i => simp [Enabled]
  | lock i => simp [Enabled]
  | unlock i => simp [Enabled]
  | receive i => simp [Enabled]
  | done i => simp [Enabled]
  | wait => exact fun enabled => some.ne' enabled.2.1

theorem neverStuck_iff (n capacity : Nat) :
    NeverStuck n capacity ↔ 0 < capacity ∨ n = 0 := by
  constructor
  · intro never
    rcases Nat.eq_zero_or_pos capacity with rfl | buffered
    · rcases Nat.eq_zero_or_pos n with none | some
      · exact .inr none
      · exact absurd never (not_neverStuck some)
    · exact .inl buffered
  · rintro (buffered | rfl)
    · exact neverStuck_of_pos buffered
    · exact neverStuck_zero capacity

end Fanout

end KubevirtMetrics.Exporter
