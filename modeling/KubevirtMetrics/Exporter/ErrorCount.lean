import KubevirtMetrics.Exporter.Fanout
import Mathlib.Algebra.BigOperators.Fin
import Mathlib.Logic.Relation

namespace KubevirtMetrics.Exporter

open Data Relation

/-! The variable `scrapeErrors` of a poll.  The goroutines of the fan-out increment it
under `resultsMu`.  The loop that starts them increments it, too, for each connection
that it finds dead, and holds no lock.  An increment is a load and a store. -/

/-- What the loop finds of a machine: its connection is dead, it is passive and not due,
or a goroutine is started for it. -/
inductive Visit
  | dead
  | skip
  | scrape
  deriving DecidableEq

inductive Increment
  | pending
  | loaded (value : Nat)
  | stored
  deriving DecidableEq

def Increment.weight : Increment → Nat
  | .stored => 1
  | .pending | .loaded _ => 0

structure Counting (n : Nat) where
  fanout : Fanout n
  /-- The machines that the loop has not visited. -/
  rest : List Visit
  /-- What the loop has loaded. -/
  register : Option Nat
  increments : Fin n → Increment
  scrapeErrors : Nat

namespace Counting

variable {n : Nat}

def init (visits : List Visit) : Counting n :=
  ⟨.init, visits, none, fun _ => .pending, 0⟩

/-- An action of a goroutine that has been started. -/
def Own : FanoutAction n → Prop
  | .start | .wait => False
  | .send _ | .handOver _ _ | .scrape _ | .lock _ | .unlock _ | .receive _ | .done _ =>
      True

inductive Step (capacity : Nat) (fails : Fin n → Bool) : Counting n → Counting n → Prop
  | skip {s : Counting n} {rest : List Visit} (here : s.rest = .skip :: rest) :
      Step capacity fails s { s with rest := rest }
  | load {s : Counting n} {rest : List Visit} (here : s.rest = .dead :: rest)
      (idle : s.register = none) :
      Step capacity fails s { s with register := some s.scrapeErrors }
  | store {s : Counting n} {rest : List Visit} {value : Nat}
    (here : s.rest = .dead :: rest)
      (loaded : s.register = some value) :
      Step capacity fails s
        { s with rest := rest, register := none, scrapeErrors := value + 1 }
  | start {s : Counting n} {rest : List Visit} (here : s.rest = .scrape :: rest)
      (enabled : s.fanout.Enabled capacity .start) :
      Step capacity fails s { s with rest := rest, fanout := s.fanout.step .start }
  | loadIn {s : Counting n} {i : Fin n} (inside : s.fanout.places i = .recording)
      (failed : fails i = true) (pending : s.increments i = .pending) :
      Step capacity fails s
        { s with increments := Function.update s.increments i (.loaded s.scrapeErrors) }
  | storeIn {s : Counting n} {i : Fin n} {value : Nat}
      (loaded : s.increments i = .loaded value) :
      Step capacity fails s
        { s with
          increments := Function.update s.increments i .stored
          scrapeErrors := value + 1 }
  | go {s : Counting n} {action : FanoutAction n} (own : Own action)
      (enabled : s.fanout.Enabled capacity action)
      (counted : ∀ i, action = .unlock i → fails i = true → s.increments i = .stored) :
      Step capacity fails s { s with fanout := s.fanout.step action }
  | wait {s : Counting n} (visited : s.rest = [])
      (enabled : s.fanout.Enabled capacity .wait) :
      Step capacity fails s { s with fanout := s.fanout.step .wait }

abbrev Reaches (capacity : Nat) (fails : Fin n → Bool) : Counting n → Counting n → Prop :=
  ReflTransGen (Step capacity fails)

/-- Some order of the steps ends with this count. -/
def Ends (capacity : Nat) (visits : List Visit) (fails : Fin n → Bool) (count : Nat) :
    Prop :=
  ∃ s, Reaches capacity fails (init visits) s ∧ s.fanout.waited = true ∧
    s.scrapeErrors = count

/-- The increments that the code asks for. -/
def errors (visits : List Visit) (fails : Fin n → Bool) : Nat :=
  visits.count .dead + ∑ i, (fails i).toNat

/-- The loop visits no dead connection after it has started a scrape that fails. -/
def Separated (visits : List Visit) (fails : Fin n → Bool) : Prop :=
  ∀ before rest, visits = before ++ .dead :: rest →
    ∀ i : Fin n, i.val < before.count .scrape → fails i = false

/-! ### What holds of every run -/

end Counting

/-- A goroutine has not reached the part that `resultsMu` protects. -/
def Place.early : Place → Bool
  | .unborn | .sending | .scraping | .locking => true
  | .recording | .receiving | .leaving | .done => false

def Place.late : Place → Bool
  | .receiving | .leaving | .done => true
  | .unborn | .sending | .scraping | .locking | .recording => false

namespace Counting

variable {n : Nat} {capacity : Nat} {fails : Fin n → Bool} {visits : List Visit}
  {s t : Counting n}

/-- A goroutine increments between the lock and the unlock, if its scrape failed. -/
structure Timely (fails : Fin n → Bool) (place : Place) (increment : Increment)
    (i : Fin n) : Prop where
  failing : increment ≠ .pending → fails i = true
  early : place.early = true → increment = .pending
  late : place.late = true → fails i = true → increment = .stored

theorem Timely.recording {place : Place} {increment : Increment} {i : Fin n} {value : Nat}
    (timely : Timely fails place increment i) (loaded : increment = .loaded value) :
    place = .recording := by
  subst loaded
  have failed := timely.failing Increment.noConfusion
  cases place with
  | recording => rfl
  | unborn | sending | scraping | locking => cases timely.early rfl
  | receiving | leaving | done => cases timely.late rfl failed

structure Sound (visits : List Visit) (fails : Fin n → Bool) (s : Counting n) : Prop where
  fanout : s.fanout.Sound
  visited : ∃ before, visits = before ++ s.rest ∧ s.fanout.started = before.count .scrape
  register : s.register ≠ none → ∃ rest, s.rest = .dead :: rest
  timely : ∀ i, Timely fails (s.fanout.places i) (s.increments i) i
  waited : s.fanout.waited = true → s.rest = []

theorem init_sound : Sound visits fails (init visits : Counting n) where
  fanout := Fanout.init_sound
  visited := ⟨[], rfl, rfl⟩
  register := by
    intro loaded
    exact absurd rfl loaded
  timely i := ⟨fun other => absurd rfl other, fun _ => rfl, nofun⟩
  waited := nofun

/-! One goroutine moves. -/

theorem Timely.moved {place next : Place} {increment : Increment} {i : Fin n}
    (timely : Timely fails place increment i)
    (early : next.early = true → place.early = true)
    (late : next.late = true → place.late = true ∨
      (fails i = true → increment = .stored)) :
    Timely fails next increment i where
  failing := timely.failing
  early := fun isEarly => timely.early (early isEarly)
  late := by
    intro isLate
    rcases late isLate with before | recorded
    · exact timely.late before
    · exact recorded

theorem timely_update {places : Fin n → Place} {increments : Fin n → Increment}
    (timely : ∀ i, Timely fails (places i) (increments i) i) {j : Fin n} {next : Place}
    (moved : Timely fails next (increments j) j) (i : Fin n) :
    Timely fails (Function.update places j next i) (increments i) i := by
  rcases eq_or_ne i j with rfl | other
  · rw [Function.update_self]
    exact moved
  · rw [Function.update_of_ne other]
    exact timely i

theorem timely_increment {places : Fin n → Place} {increments : Fin n → Increment}
    (timely : ∀ i, Timely fails (places i) (increments i) i) {j : Fin n}
    {next : Increment} (moved : Timely fails (places j) next j) (i : Fin n) :
    Timely fails (places i) (Function.update increments j next i) i := by
  rcases eq_or_ne i j with rfl | other
  · rw [Function.update_self]
    exact moved
  · rw [Function.update_of_ne other]
    exact timely i

theorem timely_go (timely : ∀ i, Timely fails (s.fanout.places i) (s.increments i) i)
    {action : FanoutAction n} (own : Own action)
    (enabled : s.fanout.Enabled capacity action)
    (counted : ∀ i, action = .unlock i → fails i = true → s.increments i = .stored)
    (i : Fin n) :
    Timely fails ((s.fanout.step action).places i) (s.increments i) i := by
  cases action with
  | start | wait => cases own
  | send j =>
      apply timely_update timely
      apply (timely j).moved
      · intro _
        rw [enabled.1]
        rfl
      · exact nofun
  | handOver j k =>
      obtain ⟨-, sends, receives⟩ := enabled
      have sent : Timely fails .scraping (s.increments j) j := by
        apply (timely j).moved
        · intro _
          rw [sends]
          rfl
        · exact nofun
      apply timely_update (timely_update timely sent)
      apply (timely k).moved
      · exact nofun
      · intro _
        rw [receives]
        exact .inl rfl
  | scrape j =>
      apply timely_update timely
      apply (timely j).moved
      · intro _
        rw [enabled]
        rfl
      · exact nofun
  | lock j =>
      apply timely_update timely
      apply (timely j).moved
      · exact nofun
      · exact nofun
  | unlock j =>
      apply timely_update timely
      apply (timely j).moved
      · exact nofun
      · intro _
        exact .inr (counted j rfl)
  | receive j =>
      apply timely_update timely
      apply (timely j).moved
      · exact nofun
      · intro _
        rw [enabled.1]
        exact .inl rfl
  | done j =>
      apply timely_update timely
      apply (timely j).moved
      · exact nofun
      · intro _
        rw [enabled]
        exact .inl rfl

theorem step_own {fanout : Fanout n} {action : FanoutAction n} (own : Own action) :
    (fanout.step action).started = fanout.started ∧
      (fanout.step action).waited = fanout.waited := by
  cases action with
  | start | wait => cases own
  | send _ | handOver _ _ | scrape _ | lock _ | unlock _ | receive _ | done _ =>
      exact ⟨rfl, rfl⟩

theorem step_start {fanout : Fanout n} (inside : fanout.started < n) :
    fanout.step .start =
      { fanout with
        places := Function.update fanout.places ⟨fanout.started, inside⟩ .sending
        started := fanout.started + 1
        wg := fanout.wg + 1 } :=
  dif_pos inside

theorem visited_cons {visit : Visit} {rest : List Visit} {started : Nat}
    (visited : ∃ before, visits = before ++ visit :: rest ∧
      started = before.count .scrape) :
    ∃ before, visits = before ++ rest ∧
      started + [visit].count .scrape = before.count .scrape := by
  obtain ⟨before, split, count⟩ := visited
  refine ⟨before ++ [visit], ?_, ?_⟩
  · rw [split, List.append_assoc, List.singleton_append]
  · rw [count, List.count_append]

theorem Sound.step (sound : Sound visits fails s) (step : Step capacity fails s t) :
    Sound visits fails t := by
  cases step with
  | @skip rest here =>
      refine ⟨sound.fanout, visited_cons (here ▸ sound.visited), ?_, sound.timely, ?_⟩
      · intro loaded
        obtain ⟨rest', same⟩ := sound.register loaded
        rw [here] at same
        cases same
      · intro waited
        rw [sound.waited waited] at here
        cases here
  | @load rest here idle =>
      exact ⟨sound.fanout, sound.visited, fun _ => ⟨rest, here⟩, sound.timely,
        sound.waited⟩
  | @store rest value here loaded =>
      refine ⟨sound.fanout, visited_cons (here ▸ sound.visited), ?_, sound.timely, ?_⟩
      · intro other
        exact absurd rfl other
      · intro waited
        rw [sound.waited waited] at here
        cases here
  | @start rest here enabled =>
      have visited := visited_cons (here ▸ sound.visited)
      have fanout := sound.fanout.step_sound enabled
      have unborn := (sound.fanout.unborn ⟨s.fanout.started, enabled⟩).mpr le_rfl
      rw [step_start enabled] at fanout ⊢
      refine ⟨fanout, visited, ?_, ?_, ?_⟩
      · intro loaded
        obtain ⟨rest', same⟩ := sound.register loaded
        rw [here] at same
        cases same
      · apply timely_update sound.timely
        apply (sound.timely _).moved
        · intro _
          rw [unborn]
          rfl
        · exact nofun
      · intro waited
        rw [sound.waited waited] at here
        cases here
  | @loadIn i inside failed pending =>
      refine ⟨sound.fanout, sound.visited, sound.register, ?_, sound.waited⟩
      apply timely_increment sound.timely
      rw [inside]
      exact ⟨fun _ => failed, nofun, nofun⟩
  | @storeIn i value loaded =>
      refine ⟨sound.fanout, sound.visited, sound.register, ?_, sound.waited⟩
      apply timely_increment sound.timely
      rw [(sound.timely i).recording loaded]
      refine ⟨fun _ => (sound.timely i).failing ?_, nofun, nofun⟩
      rw [loaded]
      exact Increment.noConfusion
  | @go action own enabled counted =>
      refine ⟨sound.fanout.step_sound enabled, ?_, sound.register,
        timely_go sound.timely own enabled counted, ?_⟩
      · rw [(step_own own).1]
        exact sound.visited
      · rw [(step_own own).2]
        exact sound.waited
  | wait visited enabled =>
      exact ⟨sound.fanout.step_sound enabled, sound.visited, sound.register, sound.timely,
        fun _ => visited⟩

theorem Sound.of_reaches (sound : Sound visits fails s)
    (reaches : Reaches capacity fails s t) :
    Sound visits fails t := by
  induction reaches with
  | refl => exact sound
  | tail _ step induction => exact induction.step step

/-! ### No increment is counted twice -/

def recorded (increments : Fin n → Increment) : Nat := ∑ i, (increments i).weight

theorem recorded_update (increments : Fin n → Increment) (i : Fin n) (next : Increment) :
    recorded (Function.update increments i next) + (increments i).weight =
      recorded increments + next.weight := by
  have others : ∀ j ∈ Finset.univ.erase i,
      (Function.update increments i next j).weight = (increments j).weight := by
    intro j member
    rw [Function.update_of_ne (Finset.ne_of_mem_erase member)]
  have here := Finset.mem_univ i
  unfold recorded
  rw [← Finset.add_sum_erase _ _ here, ← Finset.add_sum_erase _ _ here,
    Finset.sum_congr rfl others, Function.update_self]
  omega

/-- `loss` increments have been lost, at least, and all that has been loaded is too
small. -/
structure Within (visits : List Visit) (loss : Nat) (s : Counting n) : Prop where
  count : s.scrapeErrors + s.rest.count .dead + loss ≤ visits.count .dead +
    recorded s.increments
  register : ∀ value, s.register = some value →
    value + s.rest.count .dead + loss ≤ visits.count .dead + recorded s.increments
  loaded : ∀ i value, s.increments i = .loaded value →
    value + s.rest.count .dead + loss ≤ visits.count .dead + recorded s.increments

theorem Within.step {loss : Nat} (within : Within visits loss s)
    (step : Step capacity fails s t) : Within visits loss t := by
  cases step with
  | @skip rest here =>
      have count : s.rest.count .dead = rest.count .dead := by
        rw [here]
        exact List.count_cons_of_ne (by decide)
      exact ⟨count ▸ within.count, count ▸ within.register, count ▸ within.loaded⟩
  | load here idle =>
      refine ⟨within.count, ?_, within.loaded⟩
      intro value loaded
      obtain rfl := Option.some.inj loaded
      exact within.count
  | @store rest value here loaded =>
      have count : s.rest.count .dead = rest.count .dead + 1 := by
        rw [here]
        exact List.count_cons_self
      refine ⟨?_, nofun, ?_⟩
      · have before := within.register value loaded
        dsimp only
        omega
      · intro i value loaded
        have before := within.loaded i value loaded
        dsimp only
        omega
  | @start rest here enabled =>
      have count : s.rest.count .dead = rest.count .dead := by
        rw [here]
        exact List.count_cons_of_ne (by decide)
      exact ⟨count ▸ within.count, count ▸ within.register, count ▸ within.loaded⟩
  | @loadIn i inside failed pending =>
      have same : recorded (Function.update s.increments i (.loaded s.scrapeErrors)) =
          recorded s.increments := by
        have updated := recorded_update s.increments i (.loaded s.scrapeErrors)
        rw [pending] at updated
        simpa only [Increment.weight, Nat.add_zero] using updated
      refine ⟨same ▸ within.count, same ▸ within.register, ?_⟩
      intro j value loaded
      dsimp only at loaded ⊢
      rw [same]
      rcases eq_or_ne j i with rfl | other
      · rw [Function.update_self] at loaded
        obtain rfl := Increment.loaded.inj loaded
        exact within.count
      · rw [Function.update_of_ne other] at loaded
        exact within.loaded j value loaded
  | @storeIn i value loaded =>
      have more : recorded (Function.update s.increments i .stored) =
          recorded s.increments + 1 := by
        have updated := recorded_update s.increments i .stored
        rw [loaded] at updated
        simpa only [Increment.weight, Nat.add_zero] using updated
      have before := within.loaded i value loaded
      refine ⟨?_, ?_, ?_⟩
      · rw [more]
        dsimp only
        omega
      · intro other inRegister
        rw [more]
        exact Nat.le_succ_of_le (within.register other inRegister)
      · intro j other inGoroutine
        dsimp only at inGoroutine ⊢
        rw [more]
        rcases eq_or_ne j i with rfl | apart
        · rw [Function.update_self] at inGoroutine
          cases inGoroutine
        · rw [Function.update_of_ne apart] at inGoroutine
          exact Nat.le_succ_of_le (within.loaded j other inGoroutine)
  | go own enabled counted => exact ⟨within.count, within.register, within.loaded⟩
  | wait visited enabled => exact ⟨within.count, within.register, within.loaded⟩

theorem Within.of_reaches {loss : Nat} (within : Within visits loss s)
    (reaches : Reaches capacity fails s t) : Within visits loss t := by
  induction reaches with
  | refl => exact within
  | tail _ step induction => exact induction.step step

theorem recorded_init : recorded (init visits : Counting n).increments = 0 :=
  Finset.sum_eq_zero fun _ _ => rfl

theorem init_within : Within visits 0 (init visits : Counting n) where
  count := by
    rw [recorded_init]
    exact Nat.le_of_eq (Nat.zero_add _)
  register := nofun
  loaded := nofun

/-- At the end every scrape that failed has been recorded. -/
theorem Sound.recorded_eq (sound : Sound visits fails s)
    (waited : s.fanout.waited = true) :
    recorded s.increments = ∑ i, (fails i).toNat := by
  apply Finset.sum_congr rfl
  intro i _
  have timely := sound.timely i
  rw [sound.fanout.waited waited i] at timely
  cases failed : fails i with
  | true =>
      rw [timely.late rfl failed]
      rfl
  | false =>
      have pending : s.increments i = .pending := by
        by_contra other
        rw [timely.failing other] at failed
        cases failed
      rw [pending]
      rfl

/-- Increments may be lost, but none is counted that did not happen. -/
theorem le_of_ends {count : Nat} (ends : Ends capacity visits fails count) :
    count ≤ errors visits fails := by
  obtain ⟨s, reaches, waited, rfl⟩ := ends
  have sound := init_sound.of_reaches reaches
  have bound := (init_within.of_reaches reaches).count
  rw [sound.recorded_eq waited] at bound
  unfold errors
  omega

/-! ### No increment is lost -/

/-- While dead connections are ahead of the loop, no goroutine increments. -/
theorem Sound.pending (sound : Sound visits fails s) (separated : Separated visits fails)
    {rest : List Visit} (here : s.rest = .dead :: rest) (i : Fin n) :
    s.increments i = .pending := by
  obtain ⟨before, split, started⟩ := sound.visited
  rw [here] at split
  rcases Nat.lt_or_ge i.val s.fanout.started with born | unborn
  · by_contra other
    rw [started] at born
    have failed := (sound.timely i).failing other
    rw [separated before rest split i born] at failed
    cases failed
  · apply (sound.timely i).early
    rw [(sound.fanout.unborn i).mpr unborn]
    rfl

/-- Nothing is lost, and what has been loaded is not outdated. -/
structure Exact (visits : List Visit) (s : Counting n) : Prop where
  count : s.scrapeErrors + s.rest.count .dead = visits.count .dead + recorded s.increments
  register : ∀ value, s.register = some value → value = s.scrapeErrors
  loaded : ∀ i value, s.increments i = .loaded value → value = s.scrapeErrors

theorem Exact.step (whole : Exact visits s) (sound : Sound visits fails s)
    (separated : Separated visits fails) (step : Step capacity fails s t) :
    Exact visits t := by
  cases step with
  | @skip rest here =>
      have count : s.rest.count .dead = rest.count .dead := by
        rw [here]
        exact List.count_cons_of_ne (by decide)
      exact ⟨count ▸ whole.count, whole.register, whole.loaded⟩
  | load here idle =>
      refine ⟨whole.count, ?_, whole.loaded⟩
      intro value loaded
      exact (Option.some.inj loaded).symm
  | @store rest value here loaded =>
      have count : s.rest.count .dead = rest.count .dead + 1 := by
        rw [here]
        exact List.count_cons_self
      refine ⟨?_, nofun, ?_⟩
      · have before := whole.count
        rw [whole.register value loaded]
        dsimp only
        omega
      · intro i value loaded
        have pending := sound.pending separated here i
        rw [loaded] at pending
        cases pending
  | @start rest here enabled =>
      have count : s.rest.count .dead = rest.count .dead := by
        rw [here]
        exact List.count_cons_of_ne (by decide)
      exact ⟨count ▸ whole.count, whole.register, whole.loaded⟩
  | @loadIn i inside failed pending =>
      have same := recorded_update s.increments i (.loaded s.scrapeErrors)
      rw [pending] at same
      refine ⟨?_, whole.register, ?_⟩
      · exact whole.count.trans (congrArg (visits.count .dead + ·) same.symm)
      · intro j value loaded
        dsimp only at loaded ⊢
        rcases eq_or_ne j i with rfl | other
        · rw [Function.update_self] at loaded
          exact (Increment.loaded.inj loaded).symm
        · rw [Function.update_of_ne other] at loaded
          exact whole.loaded j value loaded
  | @storeIn i value loaded =>
      have more := recorded_update s.increments i .stored
      have place := (sound.timely i).recording loaded
      rw [loaded] at more
      refine ⟨?_, ?_, ?_⟩
      · have before := whole.count
        rw [whole.loaded i value loaded]
        simp only [Increment.weight, Nat.add_zero] at more
        dsimp only
        omega
      · intro other inRegister
        have present : s.register ≠ none := by
          rw [inRegister]
          exact Option.some_ne_none other
        obtain ⟨rest, here⟩ := sound.register present
        rw [sound.pending separated here i] at loaded
        cases loaded
      · intro j other inGoroutine
        dsimp only at inGoroutine
        rcases eq_or_ne j i with rfl | apart
        · rw [Function.update_self] at inGoroutine
          cases inGoroutine
        · rw [Function.update_of_ne apart] at inGoroutine
          -- both would hold the lock
          have place' := (sound.timely j).recording inGoroutine
          have owner := (sound.fanout.resultsMu i).mp place
          rw [(sound.fanout.resultsMu j).mp place'] at owner
          exact absurd (Option.some.inj owner) apart
  | go own enabled counted => exact ⟨whole.count, whole.register, whole.loaded⟩
  | wait visited enabled => exact ⟨whole.count, whole.register, whole.loaded⟩

theorem init_exact : Exact visits (init visits : Counting n) where
  count := by
    rw [recorded_init]
    exact Nat.zero_add _
  register := nofun
  loaded := nofun

theorem exact_of_reaches (separated : Separated visits fails)
    (reaches : Reaches capacity fails (init visits) s) : Exact visits s := by
  induction reaches with
  | refl => exact init_exact
  | tail earlier step induction =>
      exact induction.step (init_sound.of_reaches earlier) separated step

theorem eq_of_ends (separated : Separated visits fails) {count : Nat}
    (ends : Ends capacity visits fails count) : count = errors visits fails := by
  obtain ⟨s, reaches, waited, rfl⟩ := ends
  have sound := init_sound.of_reaches reaches
  have count := (exact_of_reaches separated reaches).count
  rw [sound.recorded_eq waited, sound.waited waited] at count
  exact count

/-! ### An order that loses an increment -/

/-- No goroutine has a slot of `sem`. -/
def Idle (s : Counting n) : Prop := ∀ i, (s.fanout.places i).holds = false ∧
  s.fanout.places i ≠ .leaving

theorem reaches_go {action : FanoutAction n} (own : Own action)
    (enabled : s.fanout.Enabled capacity action)
    (counted : ∀ i, action = .unlock i → fails i = true → s.increments i = .stored) :
    Reaches capacity fails s { s with fanout := s.fanout.step action } :=
  .single (.go own enabled counted)

/-- A goroutine takes a slot, scrapes and locks. -/
def entered (s : Counting n) (i : Fin n) : Counting n :=
  { s with fanout := ((s.fanout.step (.send i)).step (.scrape i)).step (.lock i) }

theorem reaches_entered {i : Fin n} (sends : s.fanout.places i = .sending)
    (room : s.fanout.sem < capacity) (free : s.fanout.resultsMu = none) :
    Reaches capacity fails s (s.entered i) := by
  have first : Reaches capacity fails s { s with fanout := s.fanout.step (.send i) } :=
    reaches_go trivial ⟨sends, room⟩ nofun
  have second : Reaches capacity fails { s with fanout := s.fanout.step (.send i) }
      { s with fanout := (s.fanout.step (.send i)).step (.scrape i) } :=
    reaches_go trivial (Function.update_self ..) nofun
  have third : Reaches capacity fails
      { s with fanout := (s.fanout.step (.send i)).step (.scrape i) } (s.entered i) :=
    reaches_go trivial ⟨Function.update_self .., free⟩ nofun
  exact (first.trans second).trans third

/-- It increments, if its scrape has failed. -/
def counted (fails : Fin n → Bool) (s : Counting n) (i : Fin n) : Counting n :=
  if fails i = true then
    { s with
      increments := Function.update s.increments i .stored
      scrapeErrors := s.scrapeErrors + 1 }
  else s

theorem reaches_counted {i : Fin n} (inside : s.fanout.places i = .recording)
    (pending : s.increments i = .pending) :
    Reaches capacity fails s (s.counted fails i) := by
  unfold counted
  split
  next failed =>
    have loads : Step capacity fails s _ := .loadIn inside failed pending
    have stores : Step capacity fails { s with
        increments := Function.update s.increments i (.loaded s.scrapeErrors) } _ :=
      .storeIn (Function.update_self i _ _)
    rw [Function.update_idem] at stores
    exact (ReflTransGen.single loads).tail stores
  next => exact .refl

/-- It unlocks, gives the slot back and is done. -/
def left (s : Counting n) (i : Fin n) : Counting n :=
  { s with fanout := ((s.fanout.step (.unlock i)).step (.receive i)).step (.done i) }

theorem reaches_left {i : Fin n} (inside : s.fanout.places i = .recording)
    (holds : 0 < s.fanout.sem) (recorded : fails i = true → s.increments i = .stored) :
    Reaches capacity fails s (s.left i) := by
  have first :
      Reaches capacity fails s { s with fanout := s.fanout.step (.unlock i) } := by
    apply @reaches_go _ _ _ _ (.unlock i) trivial inside
    intro j same
    cases same
    exact recorded
  have second : Reaches capacity fails { s with fanout := s.fanout.step (.unlock i) }
      { s with fanout := (s.fanout.step (.unlock i)).step (.receive i) } :=
    reaches_go trivial ⟨Function.update_self .., holds⟩ nofun
  have third : Reaches capacity fails
      { s with fanout := (s.fanout.step (.unlock i)).step (.receive i) } (s.left i) :=
    reaches_go trivial (Function.update_self ..) nofun
  exact (first.trans second).trans third

def passed (fails : Fin n → Bool) (s : Counting n) (i : Fin n) : Counting n :=
  ((s.entered i).counted fails i).left i

theorem counted_fanout (i : Fin n) : (s.counted fails i).fanout = s.fanout := by
  unfold counted
  split
  next => rfl
  next => rfl

theorem passed_places (i : Fin n) :
    (s.passed fails i).fanout.places = Function.update s.fanout.places i .done := by
  have places : ((s.entered i).counted fails i).fanout.places =
      Function.update s.fanout.places i .recording := by
    rw [counted_fanout]
    show Function.update (Function.update (Function.update _ i _) i _) i _ = _
    rw [Function.update_idem, Function.update_idem]
  show Function.update (Function.update (Function.update _ i _) i _) i _ = _
  rw [Function.update_idem, Function.update_idem, places, Function.update_idem]

theorem passed_rest (i : Fin n) :
    (s.passed fails i).rest = s.rest ∧ (s.passed fails i).register = s.register ∧
      (s.passed fails i).fanout.waited = s.fanout.waited := by
  unfold passed left counted entered
  split
  next =>
    dsimp only [Fanout.step, Fanout.move]
    exact ⟨rfl, rfl, rfl⟩
  next =>
    dsimp only [Fanout.step, Fanout.move]
    exact ⟨rfl, rfl, rfl⟩

theorem passed_count {i : Fin n} (pending : s.increments i = .pending) :
    (s.passed fails i).scrapeErrors = s.scrapeErrors + (fails i).toNat ∧
      recorded (s.passed fails i).increments = recorded s.increments +
        (fails i).toNat := by
  unfold passed left counted entered
  cases fails i with
  | true =>
      have updated := recorded_update s.increments i .stored
      rw [pending] at updated
      rw [if_pos rfl]
      exact ⟨rfl, updated⟩
  | false =>
      rw [if_neg Bool.false_ne_true]
      exact ⟨rfl, rfl⟩

theorem Sound.free (sound : Sound visits fails s) (idle : Idle s) :
    s.fanout.sem = 0 ∧ s.fanout.resultsMu = none := by
  constructor
  · rw [sound.fanout.sem, Fanout.tally_eq_zero_iff]
    exact fun i => (idle i).1
  · apply Option.eq_none_iff_forall_ne_some.mpr
    intro i owner
    have place := (sound.fanout.resultsMu i).mpr owner
    have holds := (idle i).1
    rw [place] at holds
    cases holds

/-- One goroutine runs from its start to its end. -/
theorem Sound.reaches_passed (sound : Sound visits fails s) (idle : Idle s)
    (buffered : 0 < capacity) {i : Fin n} (sends : s.fanout.places i = .sending) :
    Reaches capacity fails s (s.passed fails i) := by
  obtain ⟨empty, free⟩ := sound.free idle
  have pending : s.increments i = .pending := by
    apply (sound.timely i).early
    rw [sends]
    rfl
  have enters : Reaches capacity fails s (s.entered i) :=
    reaches_entered sends (empty ▸ buffered) free
  have inside : (s.entered i).fanout.places i = .recording := Function.update_self i _ _
  apply (enters.trans (reaches_counted inside pending)).trans
  apply reaches_left
  · rw [counted_fanout]
    exact inside
  · rw [counted_fanout]
    exact Nat.succ_pos _
  · intro failed
    rw [counted, if_pos failed]
    exact Function.update_self i _ _

theorem Idle.passed (idle : Idle s) (i : Fin n) : Idle (s.passed fails i) := by
  intro j
  rw [passed_places]
  rcases eq_or_ne j i with rfl | other
  · rw [Function.update_self]
    exact ⟨rfl, Place.noConfusion⟩
  · rw [Function.update_of_ne other]
    exact idle j

/-- The loop visits a machine while all goroutines wait. -/
theorem Sound.reaches_visit (sound : Sound visits fails s)
    (scrapes : visits.count .scrape = n) (unloaded : s.register = none) {visit : Visit}
    {rest : List Visit} (here : s.rest = visit :: rest) :
    ∃ t, Reaches capacity fails s t ∧ t.register = none ∧ t.rest = rest ∧
      t.fanout.waited = s.fanout.waited ∧
      ∀ i, t.fanout.places i = s.fanout.places i ∨ t.fanout.places i = .sending := by
  cases visit with
  | skip => exact ⟨_, .single (.skip here), unloaded, rfl, rfl, fun _ => .inl rfl⟩
  | dead =>
      have loads : Step capacity fails s _ := .load here unloaded
      have stores : Step capacity fails { s with register := some s.scrapeErrors } _ :=
        .store here rfl
      exact ⟨_, (ReflTransGen.single loads).tail stores, rfl, rfl, rfl, fun _ => .inl rfl⟩
  | scrape =>
      have inside : s.fanout.started < n := by
        obtain ⟨before, split, started⟩ := sound.visited
        rw [split, here, List.count_append, List.count_cons_self] at scrapes
        omega
      refine ⟨_, .single (.start here inside), unloaded, rfl, ?_, ?_⟩
      · rw [step_start inside]
      · intro i
        rw [step_start inside]
        dsimp only
        rcases eq_or_ne i ⟨s.fanout.started, inside⟩ with rfl | other
        · rw [Function.update_self]
          exact .inr rfl
        · rw [Function.update_of_ne other]
          exact .inl rfl

theorem Sound.reaches_visited (sound : Sound visits fails s)
    (scrapes : visits.count .scrape = n) (unloaded : s.register = none)
    {front back : List Visit} (rest : s.rest = front ++ back) :
    ∃ t, Reaches capacity fails s t ∧ t.register = none ∧ t.rest = back ∧
      t.fanout.waited = s.fanout.waited ∧
      ∀ i, t.fanout.places i = s.fanout.places i ∨ t.fanout.places i = .sending := by
  induction front generalizing s with
  | nil => exact ⟨s, .refl, unloaded, rest, rfl, fun _ => .inl rfl⟩
  | cons visit front induction =>
      obtain ⟨middle, first, unloaded', rest', waited', places'⟩ :=
        sound.reaches_visit scrapes unloaded rest
      obtain ⟨t, later, unloaded'', rest'', waited'', places''⟩ :=
        induction (sound.of_reaches first) unloaded' rest'
      refine ⟨t, first.trans later, unloaded'', rest'', waited''.trans waited', ?_⟩
      intro i
      rcases places'' i with same | sends
      · rw [same]
        exact places' i
      · exact .inr sends

theorem Idle.of_sending (idle : Idle s)
    (places : ∀ i, t.fanout.places i = s.fanout.places i ∨ t.fanout.places i = .sending) :
    Idle t := by
  intro i
  rcases places i with same | sends
  · rw [same]
    exact idle i
  · rw [sends]
    exact ⟨rfl, Place.noConfusion⟩

/-- The goroutines end one after the other. -/
theorem Sound.reaches_waited (sound : Sound visits fails s)
    (scrapes : visits.count .scrape = n) (buffered : 0 < capacity) (idle : Idle s)
    (visited : s.rest = []) (running : s.fanout.waited = false) :
    ∃ t, Reaches capacity fails s t ∧ t.fanout.waited = true := by
  generalize left : Fanout.tally Place.counts s.fanout.places = remaining
  induction remaining generalizing s with
  | zero =>
      have all : s.fanout.started = n := by
        obtain ⟨before, split, started⟩ := sound.visited
        rw [split, visited, List.append_nil] at scrapes
        exact started.trans scrapes
      have wg : s.fanout.wg = 0 := sound.fanout.wg.trans left
      exact ⟨_, .single (.wait visited ⟨all, wg, running⟩), rfl⟩
  | succ remaining induction =>
      have unfinished : ∃ i, (s.fanout.places i).counts = true := by
        by_contra none
        have zero : Fanout.tally Place.counts s.fanout.places = 0 := by
          rw [Fanout.tally_eq_zero_iff]
          intro i
          exact Bool.eq_false_iff.mpr fun counts => none ⟨i, counts⟩
        rw [left] at zero
        cases zero
      obtain ⟨i, counts⟩ := unfinished
      have sends : s.fanout.places i = .sending := by
        obtain ⟨holds, stays⟩ := idle i
        cases place : s.fanout.places i with
        | sending => rfl
        | leaving => exact absurd place stays
        | unborn | done =>
            rw [place] at counts
            cases counts
        | scraping | locking | recording | receiving =>
            rw [place] at holds
            cases holds
      have passes := sound.reaches_passed idle buffered sends
      obtain ⟨rest, -, waited⟩ := @passed_rest n fails s i
      have fewer : Fanout.tally Place.counts (s.passed fails i).fanout.places =
          remaining := by
        have tallied := Fanout.tally_update Place.counts s.fanout.places i .done
        rw [left, sends, ← @passed_places n fails s i] at tallied
        exact Nat.succ.inj tallied
      obtain ⟨t, later, ended⟩ := induction (sound.of_reaches passes) (idle.passed i)
        (rest.trans visited) (waited.trans running) fewer
      exact ⟨t, passes.trans later, ended⟩

theorem Sound.ends (sound : Sound visits fails s) (scrapes : visits.count .scrape = n)
    (buffered : 0 < capacity) (idle : Idle s) (unloaded : s.register = none)
    (running : s.fanout.waited = false) :
    ∃ t, Reaches capacity fails s t ∧ t.fanout.waited = true := by
  obtain ⟨middle, first, -, rest, waited, places⟩ :=
    sound.reaches_visited scrapes unloaded (s.rest.append_nil).symm
  obtain ⟨t, later, ended⟩ := (sound.of_reaches first).reaches_waited scrapes buffered
    (idle.of_sending places) rest (waited.trans running)
  exact ⟨t, first.trans later, ended⟩

theorem init_idle : Idle (init visits : Counting n) :=
  fun _ => ⟨rfl, Place.noConfusion⟩

/-- In an idle state nothing is loaded by a goroutine. -/
theorem Sound.unloaded (sound : Sound visits fails s) (idle : Idle s) {i : Fin n}
    {value : Nat} : s.increments i ≠ .loaded value := by
  intro loaded
  have holds := (idle i).1
  rw [(sound.timely i).recording loaded] at holds
  cases holds

/-- The loop loads, a goroutine increments, the loop stores. -/
theorem Sound.exists_loss (sound : Sound visits fails s) (within : Within visits 0 s)
    (idle : Idle s) (buffered : 0 < capacity) {rest : List Visit}
    (here : s.rest = .dead :: rest) (unloaded : s.register = none) {i : Fin n}
    (sends : s.fanout.places i = .sending) (failed : fails i = true) :
    ∃ t, Reaches capacity fails s t ∧ Idle t ∧ t.register = none ∧
      t.fanout.waited = s.fanout.waited ∧ Within visits 1 t := by
  let loaded : Counting n := { s with register := some s.scrapeErrors }
  have loads : Reaches capacity fails s loaded := .single (.load here unloaded)
  have sound' : Sound visits fails loaded := sound.of_reaches loads
  have passes : Reaches capacity fails loaded (loaded.passed fails i) :=
    sound'.reaches_passed idle buffered sends
  have pending : loaded.increments i = .pending := by
    apply (sound.timely i).early
    rw [sends]
    rfl
  obtain ⟨rest', register, waited⟩ := @passed_rest n fails loaded i
  have idle' : Idle (loaded.passed fails i) := Idle.passed (s := loaded) idle i
  have stores : Step capacity fails (loaded.passed fails i) _ :=
    .store (rest'.trans here) register
  refine ⟨_, (loads.trans passes).tail stores, idle', rfl, waited, ?_⟩
  constructor
  · have count := within.count
    have more := (@passed_count n fails loaded i pending).2
    rw [here, List.count_cons_self] at count
    rw [failed] at more
    dsimp only
    rw [more]
    show _ ≤ _ + (recorded s.increments + 1)
    omega
  · exact nofun
  · intro j value inGoroutine
    exact absurd inGoroutine ((sound'.of_reaches passes).unloaded idle')

/-- The count is right in every order of the steps exactly if the loop has no dead
connection ahead when it starts a scrape that fails. -/
theorem ends_eq_iff (scrapes : visits.count .scrape = n) (buffered : 0 < capacity) :
    (∀ count, Ends capacity visits fails count → count = errors visits fails) ↔
      Separated visits fails := by
  constructor
  · intro exactly before rest split i started
    by_contra failing
    have failed : fails i = true := Bool.eq_true_of_not_eq_false failing
    obtain ⟨s, reaches, unloaded, here, waited, places⟩ :=
      @Sound.reaches_visited n capacity fails visits _ init_sound scrapes rfl before _
        split
    have sound := init_sound.of_reaches reaches
    have idle := init_idle.of_sending places
    have sends : s.fanout.places i = .sending := by
      rcases places i with unborn | sends
      · obtain ⟨before', split', started'⟩ := sound.visited
        rw [here, split] at split'
        have same := List.append_cancel_right split'
        have late := (sound.fanout.unborn i).mp unborn
        rw [started', ← same] at late
        omega
      · exact sends
    obtain ⟨t, loses, idle', unloaded', waited', within⟩ :=
      sound.exists_loss (init_within.of_reaches reaches) idle buffered here unloaded sends
        failed
    have sound' := sound.of_reaches loses
    obtain ⟨final, ends, ended⟩ :=
      sound'.ends scrapes buffered idle' unloaded' (waited'.trans waited)
    have total := exactly final.scrapeErrors
      ⟨final, (reaches.trans loses).trans ends, ended, rfl⟩
    have bound := (within.of_reaches ends).count
    rw [(sound'.of_reaches ends).recorded_eq ended] at bound
    unfold errors at total
    omega
  · intro separated count ends
    exact eq_of_ends separated ends

end Counting

end KubevirtMetrics.Exporter
