import Mathlib.Data.List.Basic
import Mathlib.Tactic

namespace KubevirtMetrics.Data

universe u v

/-! Runs of a system, as the list of what has happened to it so far. -/

variable {S : Type u} {E : Type v}

/-- At every position of a history, `P` holds of what came before and of what
happens next. -/
def Throughout (P : List E → E → Prop) (history : List E) : Prop :=
  ∀ before event after, history = before ++ event :: after → P before event

@[simp] theorem throughout_nil (P : List E → E → Prop) : Throughout P [] := by
  intro before event after split
  simp at split

theorem Throughout.of_append {P : List E → E → Prop} {history later : List E}
    (holds : Throughout P (history ++ later)) : Throughout P history := by
  intro before event after split
  exact holds before event (after ++ later) (by simp [split])

theorem append_singleton_split {history before after : List E} {last event : E}
    (split : history ++ [last] = before ++ event :: after) :
    (before = history ∧ event = last ∧ after = []) ∨
      ∃ between, after = between ++ [last] ∧
        history = before ++ event :: between := by
  rcases List.eq_nil_or_concat after with rfl | ⟨between, final, rfl⟩
  · obtain ⟨rfl, same⟩ := List.append_inj' split rfl
    exact .inl ⟨rfl, (List.cons.inj same).1.symm, rfl⟩
  · rw [List.concat_eq_append, ← List.cons_append,
      ← List.append_assoc] at split
    obtain ⟨earlier, same⟩ := List.append_inj' split rfl
    rw [(List.cons.inj same).1]
    exact .inr ⟨between, List.concat_eq_append, earlier⟩

theorem throughout_append_singleton (P : List E → E → Prop)
    (history : List E) (event : E) :
    Throughout P (history ++ [event]) ↔
      Throughout P history ∧ P history event := by
  constructor
  · intro holds
    exact ⟨holds.of_append, holds history event [] rfl⟩
  · rintro ⟨earlier, last⟩ before other after split
    rcases append_singleton_split split with
      ⟨rfl, rfl, -⟩ | ⟨between, -, rfl⟩
    · exact last
    · exact earlier before other between rfl

theorem Throughout.mono {P Q : List E → E → Prop} {history : List E}
    (holds : Throughout P history)
    (implies : ∀ before event, P before event → Q before event) :
    Throughout Q history :=
  fun before event after split =>
    implies before event (holds before event after split)

theorem throughout_iff_get (P : List E → E → Prop) (history : List E) :
    Throughout P history ↔
      ∀ i : Fin history.length, P (history.take i) (history.get i) := by
  constructor
  · intro holds i
    apply holds _ _ (history.drop (i + 1))
    rw [List.get_eq_getElem, List.getElem_cons_drop, List.take_append_drop]
  · rintro holds before event after rfl
    have here := holds ⟨before.length, by simp⟩
    simpa using here

instance (P : List E → E → Prop) [∀ before event, Decidable (P before event)]
    (history : List E) : Decidable (Throughout P history) :=
  decidable_of_iff _ (throughout_iff_get P history).symm

def stateAfter (step : S → E → S) (init : S) (history : List E) : S :=
  history.foldl step init

@[simp] theorem stateAfter_nil (step : S → E → S) (init : S) :
    stateAfter step init [] = init := rfl

@[simp] theorem stateAfter_append_singleton (step : S → E → S) (init : S)
    (history : List E) (event : E) :
    stateAfter step init (history ++ [event]) =
      step (stateAfter step init history) event := by
  simp [stateAfter]

theorem stateAfter_invariant {step : S → E → S} {init : S}
    {Admissible : S → E → Prop} (Inv : S → Prop) (initial : Inv init)
    (preserved : ∀ state event,
      Inv state → Admissible state event → Inv (step state event))
    {history : List E}
    (admissible : Throughout
      (fun before event => Admissible (stateAfter step init before) event)
      history) :
    Inv (stateAfter step init history) := by
  induction history using List.reverseRecOn with
  | nil => exact initial
  | append_singleton history event induction =>
      rw [throughout_append_singleton] at admissible
      rw [stateAfter_append_singleton]
      exact preserved _ event (induction admissible.1) admissible.2

/-- A system that puts each event at most once into its output, as it comes. -/
theorem stateAfter_sublist {step : S → E → S} {init : S} (output : S → List E)
    (empty : output init = [])
    (once : ∀ state event, output (step state event) = output state ∨
      output (step state event) = output state ++ [event])
    (history : List E) :
    (output (stateAfter step init history)).Sublist history := by
  induction history using List.reverseRecOn with
  | nil => rw [stateAfter_nil, empty]
  | append_singleton history event induction =>
      rw [stateAfter_append_singleton]
      rcases once (stateAfter step init history) event with same | more
      · rw [same]
        exact induction.trans (List.sublist_append_left _ _)
      · rw [more]
        exact induction.append (List.Sublist.refl _)

end KubevirtMetrics.Data
