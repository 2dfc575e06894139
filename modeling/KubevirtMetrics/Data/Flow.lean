import Mathlib.Tactic

namespace KubevirtMetrics.Data

universe u v

/-! Functions that change a state and may return early: they go on with a state
or stop with one. -/

abbrev Flow (S : Type u) := Except S S

namespace Flow

variable {S : Type u} {α : Type v}

def state : Flow S → S
  | .ok s => s
  | .error s => s

theorem bind_eq_ok {flow : Flow S} {next : S → Flow S} {final : S} :
    flow.bind next = .ok final ↔
      ∃ s, flow = .ok s ∧ next s = .ok final := by
  cases flow <;> simp [Except.bind]

def loop (body : S → α → Flow S) : S → List α → Flow S
  | s, [] => .ok s
  | s, x :: xs => (body s x).bind fun s => loop body s xs

@[simp] theorem loop_nil (body : S → α → Flow S) (s : S) :
    loop body s [] = .ok s := rfl

theorem loop_cons (body : S → α → Flow S) (s : S) (x : α) (xs : List α) :
    loop body s (x :: xs) = (body s x).bind fun s => loop body s xs := rfl

theorem loop_invariant {body : S → α → Flow S} (Inv : S → Prop)
    {s final : S} {xs : List α}
    (preserved : ∀ s x s', x ∈ xs → Inv s → body s x = .ok s' → Inv s')
    (initial : Inv s) (ended : loop body s xs = .ok final) : Inv final := by
  induction xs generalizing s with
  | nil =>
      obtain rfl := Except.ok.inj ended
      exact initial
  | cons x xs induction =>
      rw [loop_cons, bind_eq_ok] at ended
      obtain ⟨s', round, rest⟩ := ended
      apply induction
      · intro t y t' member
        exact preserved t y t' (List.mem_cons_of_mem x member)
      · exact preserved s x s' List.mem_cons_self initial round
      · exact rest

/-- A loop whose rounds go on or stop whatever the state, while the invariant holds. -/
theorem loop_completes_iff {body : S → α → Flow S} (Inv : S → Prop)
    {goesOn : α → Prop} {xs : List α}
    (round : ∀ s, ∀ x ∈ xs, Inv s → ((∃ t, body s x = .ok t) ↔ goesOn x))
    (preserved : ∀ s x t, Inv s → body s x = .ok t → Inv t) {s : S}
    (initial : Inv s) :
    (∃ t, loop body s xs = .ok t) ↔ ∀ x ∈ xs, goesOn x := by
  induction xs generalizing s with
  | nil => exact iff_of_true ⟨s, rfl⟩ (by simp)
  | cons x xs induction =>
      have later : ∀ t, body s x = .ok t →
          ((∃ u, loop body t xs = .ok u) ↔ ∀ y ∈ xs, goesOn y) := fun t first =>
        induction (fun t y member => round t y (List.mem_cons_of_mem x member))
          (preserved s x t initial first)
      rw [List.forall_mem_cons, ← round s x List.mem_cons_self initial]
      constructor
      · intro ⟨u, ended⟩
        obtain ⟨t, first, rest⟩ := bind_eq_ok.mp ended
        exact ⟨⟨t, first⟩, (later t first).mp ⟨u, rest⟩⟩
      · intro ⟨⟨t, first⟩, others⟩
        obtain ⟨u, rest⟩ := (later t first).mpr others
        exact ⟨u, bind_eq_ok.mpr ⟨t, first, rest⟩⟩

theorem loop_append (body : S → α → Flow S) (s : S) (front back : List α) :
    loop body s (front ++ back) =
      (loop body s front).bind fun s => loop body s back := by
  induction front generalizing s with
  | nil => rfl
  | cons x front induction =>
      rw [List.cons_append, loop_cons, loop_cons]
      cases body s x with
      | ok t => exact induction t
      | error t => rfl

theorem loop_append_singleton_eq_ok {body : S → α → Flow S} {s final : S}
    {front : List α} {x : α} :
    loop body s (front ++ [x]) = .ok final ↔
      ∃ t, loop body s front = .ok t ∧ body t x = .ok final := by
  rw [loop_append, bind_eq_ok]
  refine exists_congr fun t => and_congr_right fun _ => ?_
  rw [loop_cons, bind_eq_ok]
  simp

@[simp] theorem state_ok (s : S) : state (.ok s) = s := rfl

@[simp] theorem state_error (s : S) : state (.error s) = s := rfl

theorem bind_state (Inv : S → Prop) {flow : Flow S} {next : S → Flow S}
    (first : Inv flow.state)
    (preserved : ∀ s, Inv s → Inv (next s).state) :
    Inv (state (flow.bind next)) := by
  cases flow with
  | ok s => exact preserved s first
  | error s => exact first

theorem state_loop_cons (body : S → α → Flow S) (s : S) (x : α)
    (xs : List α) :
    (loop body s (x :: xs)).state = (body s x).state ∨
      (loop body s (x :: xs)).state =
        (loop body (body s x).state xs).state := by
  rw [loop_cons]
  cases body s x with
  | ok t => exact .inr rfl
  | error t => exact .inl rfl

/-- What each round preserves, completed or not, holds of the state the loop
leaves. -/
theorem loop_state {body : S → α → Flow S} (Inv : S → Prop) {s : S}
    {xs : List α}
    (preserved : ∀ s x, x ∈ xs → Inv s → Inv (body s x).state)
    (initial : Inv s) : Inv (loop body s xs).state := by
  induction xs generalizing s with
  | nil => exact initial
  | cons x xs induction =>
      have round := preserved s x List.mem_cons_self initial
      rcases state_loop_cons body s x xs with first | rest
      · rw [first]
        exact round
      · rw [rest]
        exact induction
          (fun s y member => preserved s y (List.mem_cons_of_mem x member))
          round

end Flow

end KubevirtMetrics.Data
