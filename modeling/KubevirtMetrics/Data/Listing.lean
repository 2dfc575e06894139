import KubevirtMetrics.Data.Text

namespace KubevirtMetrics.Data.Text

/-! Items between separators, with white space around them. -/

structure Trimmed (core : List Char) : Prop where
  starts : ∀ c ∈ core.head?, isSpace c = false
  ends : ∀ c ∈ core.getLast?, isSpace c = false

/-- The ways to write a text with white space around it. -/
def Padded (core text : List Char) : Prop :=
  Trimmed core ∧ ∃ front back, text = front ++ (core ++ back) ∧
    (∀ c ∈ front, isSpace c = true) ∧ ∀ c ∈ back, isSpace c = true

def items (separator : Char) (text : List Char) : List (List Char) :=
  (text.splitOn separator).map trimSpace

/-- The ways to write items, one at least, with separators between them. -/
def Lists (separator : Char) (listed : List (List Char)) (text : List Char) : Prop :=
  ∃ parts, parts ≠ [] ∧ text = [separator].intercalate parts ∧
    (∀ part ∈ parts, separator ∉ part) ∧ List.Forall₂ Padded listed parts

theorem padded_trimSpace (text : List Char) : Padded (trimSpace text) text :=
  ⟨⟨trimSpace_starts text, trimSpace_ends text⟩, exists_trimSpace text⟩

theorem trimSpace_eq_nil {text : List Char} (spaces : ∀ c ∈ text, isSpace c = true) :
    trimSpace text = [] := by
  have gone : text.dropWhile isSpace = [] := List.dropWhile_eq_nil_iff.mpr spaces
  rw [trimSpace, gone]
  rfl

theorem trimSpace_of_padded {core text : List Char} (padded : Padded core text) :
    trimSpace text = core := by
  obtain ⟨trimmed, front, back, rfl, frontSpace, backSpace⟩ := padded
  rcases eq_or_ne core [] with rfl | nonempty
  · apply trimSpace_eq_nil
    intro c member
    exact (List.mem_append.mp member).elim (frontSpace c) (backSpace c)
  · exact trimSpace_blank frontSpace backSpace nonempty trimmed.starts trimmed.ends

theorem trimSpace_eq_iff {core text : List Char} :
    trimSpace text = core ↔ Padded core text := by
  constructor
  · intro same
    exact same ▸ padded_trimSpace text
  · exact trimSpace_of_padded

theorem not_mem_of_mem_splitOn {separator : Char} (text : List Char) :
    ∀ part ∈ text.splitOn separator, separator ∉ part := by
  intro part listed
  by_cases member : separator ∈ text
  · obtain ⟨front, back, rfl, plain⟩ := List.eq_append_cons_of_mem member
    have apart : ∀ c ∈ front, (c == separator) = false := fun c inside =>
      beq_false_of_ne fun same => plain (same ▸ inside)
    rw [List.splitOn, List.splitOnP_append_cons_of_forall_mem apart separator
      (beq_self_eq_true separator) back, List.mem_cons] at listed
    rcases listed with rfl | later
    · exact plain
    · exact not_mem_of_mem_splitOn back part later
  · rw [List.splitOn_eq_singleton member, List.mem_singleton] at listed
    exact listed ▸ member
termination_by text.length

theorem lists_items (separator : Char) (text : List Char) :
    Lists separator (items separator text) text := by
  refine ⟨text.splitOn separator, List.splitOn_ne_nil separator text,
    (List.intercalate_splitOn separator).symm, not_mem_of_mem_splitOn text, ?_⟩
  rw [items, List.forall₂_map_left_iff]
  exact List.forall₂_same.mpr fun part _ => padded_trimSpace part

theorem items_eq_iff {separator : Char} {listed : List (List Char)} {text : List Char} :
    items separator text = listed ↔ Lists separator listed text := by
  constructor
  · intro same
    exact same ▸ lists_items separator text
  · intro lists
    obtain ⟨parts, nonempty, rfl, plain, padded⟩ := lists
    rw [items, List.splitOn_intercalate separator plain nonempty]
    clear nonempty plain
    induction padded with
    | nil => rfl
    | cons first _ induction =>
        rw [List.map_cons, trimSpace_of_padded first, induction]

theorem items_of_blank {separator : Char} {text : List Char}
    (solid : isSpace separator = false) (blank : trimSpace text = []) :
    items separator text = [[]] := by
  obtain ⟨front, back, split, frontSpace, backSpace⟩ := exists_trimSpace text
  rw [blank, List.nil_append] at split
  have absent : separator ∉ text := by
    intro member
    rw [split] at member
    have space :=
      (List.mem_append.mp member).elim (frontSpace separator) (backSpace separator)
    rw [solid] at space
    cases space
  rw [items, List.splitOn_eq_singleton absent, List.map_singleton, blank]

end KubevirtMetrics.Data.Text
