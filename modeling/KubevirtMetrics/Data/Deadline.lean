import Mathlib.Tactic

namespace KubevirtMetrics.Data

/-! Computations that take time and are cut off at a deadline. -/

inductive Fault (ε : Type)
  | expired
  | failed (error : ε)
  deriving DecidableEq

/-- From the deadline, if there is one, and the time at the start: the result and the
time at the end. -/
def Timed (ε α : Type) : Type := Option Int → Int → Except (Fault ε) α × Int

namespace Timed

variable {ε α β : Type}

instance : Monad (Timed ε) where
  pure value := fun _ now => (.ok value, now)
  bind m next := fun deadline now =>
    match m deadline now with
    | (.ok value, later) => next value deadline later
    | (.error fault, later) => (.error fault, later)

def fail (error : ε) : Timed ε α := fun _ now => (.error (.failed error), now)

def check : Timed ε Unit := fun deadline now =>
  match deadline with
  | none => (.ok (), now)
  | some limit => if limit ≤ now then (.error .expired, now) else (.ok (), now)

/-- A wait; one that would end at the deadline is cut off by it. -/
def spend (duration : Int) : Timed ε Unit := fun deadline now =>
  match deadline with
  | none => (.ok (), now + duration)
  | some limit =>
      if limit ≤ now + duration then (.error .expired, max now limit)
      else (.ok (), now + duration)

/-- A computation whose faults are values. -/
def attempt (m : Timed ε α) : Timed ε (Except (Fault ε) α) := fun deadline now =>
  (.ok (m deadline now).1, (m deadline now).2)

theorem bind_of_ok {m : Timed ε α} {next : α → Timed ε β} {deadline : Option Int}
    {now later : Int} {value : α} (ends : m deadline now = (.ok value, later)) :
    (m >>= next) deadline now = next value deadline later := by
  change (match m deadline now with
    | (.ok value, later) => next value deadline later
    | (.error fault, later) => (.error fault, later)) = _
  rw [ends]

theorem bind_of_error {m : Timed ε α} {next : α → Timed ε β} {deadline : Option Int}
    {now later : Int} {fault : Fault ε} (ends : m deadline now = (.error fault, later)) :
    (m >>= next) deadline now = (.error fault, later) := by
  change (match m deadline now with
    | (.ok value, later) => next value deadline later
    | (.error fault, later) => (.error fault, later)) = _
  rw [ends]

theorem of_bind_ok {m : Timed ε α} {next : α → Timed ε β} {deadline : Option Int}
    {now later : Int} {result : β}
    (ends : (m >>= next) deadline now = (.ok result, later)) :
    ∃ value between, m deadline now = (.ok value, between) ∧
      next value deadline between = (.ok result, later) := by
  rcases first : m deadline now with ⟨⟨fault⟩ | ⟨value⟩, between⟩
  · rw [bind_of_error first] at ends
    cases ends
  · rw [bind_of_ok first] at ends
    exact ⟨value, between, rfl, ends⟩

/-- Left to itself the computation ends in the time `span`, and so a deadline that is
later than that does not change it. -/
structure Within (m : Timed ε α) (span : Int) : Prop where
  forward : ∀ now, now ≤ (m none now).2
  lasts : ∀ now, (m none now).2 ≤ now + span
  unexpired : ∀ now, (m none now).1 ≠ .error .expired
  undisturbed : ∀ {now limit}, now + span < limit → m (some limit) now = m none now

namespace Within

variable {m : Timed ε α} {next : α → Timed ε β} {span rest : Int}

theorem nonneg (within : m.Within span) : 0 ≤ span := by
  have forward := within.forward 0
  have lasts := within.lasts 0
  omega

theorem mono (within : m.Within span) (longer : span ≤ rest) : m.Within rest where
  forward := within.forward
  lasts now := (within.lasts now).trans (by omega)
  unexpired := within.unexpired
  undisturbed late := within.undisturbed (by omega)

theorem pure (value : α) : Within (Pure.pure value : Timed ε α) 0 where
  forward := Int.le_refl
  lasts now := (Int.add_zero now).ge
  unexpired _ := nofun
  undisturbed _ := rfl

theorem fail (error : ε) : Within (Timed.fail error : Timed ε α) 0 where
  forward := Int.le_refl
  lasts now := (Int.add_zero now).ge
  unexpired _ := nofun
  undisturbed _ := rfl

theorem check : Within (Timed.check : Timed ε Unit) 0 where
  forward := Int.le_refl
  lasts now := (Int.add_zero now).ge
  unexpired _ := nofun
  undisturbed late := if_neg (by omega)

theorem spend {duration : Int} (nonneg : 0 ≤ duration) :
    Within (Timed.spend duration : Timed ε Unit) duration where
  forward _ := Int.le_add_of_nonneg_right nonneg
  lasts _ := Int.le_refl _
  unexpired _ := nofun
  undisturbed late := if_neg (Int.not_le.mpr late)

theorem bind (first : m.Within span) (second : ∀ value, (next value).Within rest)
    (nonneg : 0 ≤ rest) : (m >>= next).Within (span + rest) := by
  -- where the bind ends without a deadline, by how the first part ends
  have runs : ∀ now, now ≤ ((m >>= next) none now).2 ∧
      ((m >>= next) none now).2 ≤ now + (span + rest) ∧
      ((m >>= next) none now).1 ≠ .error .expired := by
    intro now
    have forward := first.forward now
    have lasts := first.lasts now
    have unexpired := first.unexpired now
    rcases ends : m none now with ⟨fault | value, later⟩ <;>
      rw [ends] at forward lasts unexpired
    · rw [bind_of_error ends]
      refine ⟨forward, ?_, fun same => unexpired (by rw [Except.error.inj same])⟩
      exact lasts.trans (by omega)
    · rw [bind_of_ok ends]
      have laterForward := (second value).forward later
      have laterLasts := (second value).lasts later
      dsimp only at forward lasts
      exact ⟨by omega, by omega, (second value).unexpired later⟩
  refine ⟨fun now => (runs now).1, fun now => (runs now).2.1,
    fun now => (runs now).2.2, ?_⟩
  intro now limit late
  have lasts := first.lasts now
  have same : m (some limit) now = m none now := first.undisturbed (by omega)
  rcases ends : m none now with ⟨fault | value, later⟩ <;> rw [ends] at same lasts
  · rw [bind_of_error ends, bind_of_error same]
  · rw [bind_of_ok ends, bind_of_ok same]
    dsimp only at lasts
    exact (second value).undisturbed (by omega)

theorem attempt (within : m.Within span) : m.attempt.Within span where
  forward := within.forward
  lasts := within.lasts
  unexpired _ := nofun
  undisturbed late := by
    unfold Timed.attempt
    rw [within.undisturbed late]

end Within

/-- How the computation ends where there is no deadline, at whatever time it starts. -/
def Yields (m : Timed ε α) (result : Except (Fault ε) α) : Prop :=
  ∀ now, (m none now).1 = result

namespace Yields

variable {m : Timed ε α} {next : α → Timed ε β}

theorem pure (value : α) :
    Yields (Pure.pure value : Timed ε α) (.ok value) := fun _ => rfl

theorem fail (error : ε) :
    Yields (Timed.fail error : Timed ε α) (.error (.failed error)) :=
  fun _ => rfl

theorem check : Yields (Timed.check : Timed ε Unit) (.ok ()) := fun _ => rfl

theorem spend (duration : Int) : Yields (Timed.spend duration : Timed ε Unit) (.ok ()) :=
  fun _ => rfl

theorem bind {value : α} {result : Except (Fault ε) β} (first : m.Yields (.ok value))
    (second : (next value).Yields result) : (m >>= next).Yields result := by
  intro now
  have ends : m none now = (.ok value, (m none now).2) := Prod.ext (first now) rfl
  rw [bind_of_ok ends]
  exact second _

theorem bind_error {fault : Fault ε} (first : m.Yields (.error fault)) :
    (m >>= next).Yields (.error fault) := by
  intro now
  have ends : m none now = (.error fault, (m none now).2) := Prod.ext (first now) rfl
  rw [bind_of_error ends]

theorem attempt {result : Except (Fault ε) α} (yields : m.Yields result) :
    m.attempt.Yields (.ok result) := fun now => congrArg Except.ok (yields now)

end Yields

end Timed

end KubevirtMetrics.Data
