import KubevirtMetrics.Virt.Pods

namespace KubevirtMetrics.Virt

open Data

/-! The equality-based selectors of Kubernetes, and what `matchesLabelFilter` makes
of them.  The QMP and the QGA collector have the same function. -/

def valueChar (c : Char) : Bool := c.isAlphanum || ['-', '_', '.'].contains c

def keyChar (c : Char) : Bool := valueChar c || c == '/'

theorem keyChar_of_valueChar {c : Char} (valid : valueChar c = true) :
    keyChar c = true := by
  rw [keyChar, valid]
  rfl

theorem isAlphanum_bounds {c : Char} (valid : c.isAlphanum = true) :
    45 ≤ c.toNat ∧ c.toNat ≤ 122 := by
  -- what `isAlphanum` computes
  have ranges : ((decide (c.val ≥ 'A'.val ∧ c.val ≤ 'Z'.val) ||
      (decide (c.val ≥ 'a'.val) && decide (c.val ≤ 'z'.val))) ||
      (decide (c.val ≥ '0'.val) && decide (c.val ≤ '9'.val))) = true := valid
  simp only [Bool.or_eq_true, Bool.and_eq_true, decide_eq_true_eq, ge_iff_le,
    UInt32.le_iff_toNat_le] at ranges
  rcases ranges with (⟨lower, upper⟩ | ⟨lower, upper⟩) | ⟨lower, upper⟩
  · exact ⟨le_trans (by decide) lower, le_trans upper (by decide)⟩
  · exact ⟨le_trans (by decide) lower, le_trans upper (by decide)⟩
  · exact ⟨le_trans (by decide) lower, le_trans upper (by decide)⟩

theorem keyChar_bounds {c : Char} (valid : keyChar c = true) :
    45 ≤ c.toNat ∧ c.toNat ≤ 122 := by
  simp only [keyChar, valueChar, Bool.or_eq_true, List.contains_cons,
    List.contains_nil, Bool.or_false, beq_iff_eq] at valid
  rcases valid with (alphanum | rfl | rfl | rfl) | rfl
  · exact isAlphanum_bounds alphanum
  all_goals decide

theorem keyChar_solid {c : Char} (valid : keyChar c = true) :
    Text.isSpace c = false := by
  obtain ⟨lower, upper⟩ := keyChar_bounds valid
  simp [Text.isSpace]
  omega

structure LabelKey where
  text : List Char
  nonempty : text ≠ []
  valid : text.all keyChar = true

structure LabelValue where
  text : List Char
  valid : text.all valueChar = true

def LabelKey.name (key : LabelKey) : String := String.ofList key.text

def LabelValue.name (value : LabelValue) : String := String.ofList value.text

inductive Comparison
  | equal
  | doubleEqual
  | notEqual
  deriving DecidableEq

/-- A comparison with the spaces before and after its operator. -/
inductive Requirement
  | present
  | compare (op : Comparison) (before after : Nat) (value : LabelValue)

/-- A term of a selector with the spaces around it. -/
structure SelectorTerm where
  left : Nat
  right : Nat
  key : LabelKey
  requirement : Requirement

def spaces (n : Nat) : List Char := List.replicate n ' '

def Comparison.symbol : Comparison → List Char
  | .equal => ['=']
  | .doubleEqual => ['=', '=']
  | .notEqual => ['!', '=']

def Requirement.text : Requirement → List Char
  | .present => []
  | .compare op before after value =>
      spaces before ++ op.symbol ++ spaces after ++ value.text

namespace SelectorTerm

def text (term : SelectorTerm) : List Char :=
  spaces term.left ++ term.key.text ++ term.requirement.text ++ spaces term.right

/-- The meaning of a term in Kubernetes. -/
def Holds (labels : Table String String) (term : SelectorTerm) : Prop :=
  match term.requirement with
  | .present => (labels.lookup term.key.name).isSome = true
  | .compare .notEqual _ _ value => labels.lookup term.key.name ≠ some value.name
  | .compare _ _ _ value => labels.lookup term.key.name = some value.name

instance (labels : Table String String) (term : SelectorTerm) :
    Decidable (term.Holds labels) := by
  unfold Holds
  split <;> infer_instance

end SelectorTerm

def Selects (labels : Table String String) (terms : List SelectorTerm) : Prop :=
  ∀ term ∈ terms, term.Holds labels

def filterText (terms : List SelectorTerm) : String :=
  String.ofList ([','].intercalate (terms.map SelectorTerm.text))

/-- The filter does what the selector says, whatever the labels. -/
def FollowsSelector (terms : List SelectorTerm) : Prop :=
  ∀ labels, matchesLabelFilter labels (filterText terms) = true ↔ Selects labels terms

/-! ### How the filter reads a term -/

/-- A value after spaces, which are cut off at the end of a term. -/
def padded (after : Nat) (value : LabelValue) : List Char :=
  if value.text = [] then [] else spaces after ++ value.text

namespace SelectorTerm

/-- The label the filter looks up, and the value it asks for. -/
def reading (term : SelectorTerm) : Option (List Char × List Char) :=
  match term.requirement with
  | .present => none
  | .compare .equal before after value =>
      some (term.key.text ++ spaces before, padded after value)
  | .compare .doubleEqual before after value =>
      some (term.key.text ++ spaces before, '=' :: padded after value)
  | .compare .notEqual before after value =>
      some (term.key.text ++ spaces before ++ ['!'], padded after value)

def Passes (labels : Table String String) (term : SelectorTerm) : Prop :=
  ∀ key value, term.reading = some (key, value) →
    labels.getD (String.ofList key) "" = String.ofList value

/-- The term without the spaces around it. -/
def core (term : SelectorTerm) : List Char :=
  term.key.text ++
    match term.requirement with
    | .present => []
    | .compare op before after value => spaces before ++ op.symbol ++ padded after value

theorem exists_text_eq (term : SelectorTerm) :
    ∃ right, term.text = spaces term.left ++ (term.core ++ spaces right) := by
  cases requirement : term.requirement with
  | present =>
      exact ⟨term.right, by simp [text, core, requirement, Requirement.text]⟩
  | compare op before after value =>
      by_cases empty : value.text = []
      · refine ⟨after + term.right, ?_⟩
        simp [text, core, requirement, Requirement.text, padded, empty, spaces,
          List.replicate_append_replicate]
      · exact ⟨term.right, by
          simp [text, core, requirement, Requirement.text, padded, empty]⟩

theorem space_of_mem_spaces {n : Nat} {c : Char} (member : c ∈ spaces n) : c = ' ' :=
  List.eq_of_mem_replicate member

theorem key_solid (term : SelectorTerm) :
    ∀ c ∈ term.key.text, Text.isSpace c = false := fun c member =>
  keyChar_solid (List.all_eq_true.mp term.key.valid c member)

theorem padded_ends {after : Nat} {value : LabelValue} :
    ∀ c ∈ (padded after value).getLast?, Text.isSpace c = false := by
  intro c last
  by_cases empty : value.text = []
  · simp [padded, empty] at last
  · rw [padded, if_neg empty, List.getLast?_append_of_ne_nil _ empty] at last
    exact keyChar_solid (keyChar_of_valueChar
      (List.all_eq_true.mp value.valid c (List.mem_of_getLast? last)))

theorem core_ends (term : SelectorTerm) :
    ∀ c ∈ term.core.getLast?, Text.isSpace c = false := by
  intro c last
  cases requirement : term.requirement with
  | present =>
      simp only [core, requirement, List.append_nil] at last
      exact term.key_solid c (List.mem_of_getLast? last)
  | compare op before after value =>
      simp only [core, requirement] at last
      by_cases empty : padded after value = []
      · have symbol : op.symbol.getLast? = some '=' := by cases op <;> rfl
        have shown : op.symbol ≠ [] := by cases op <;> decide
        rw [empty, List.append_nil, ← List.append_assoc,
          List.getLast?_append_of_ne_nil _ shown, symbol] at last
        obtain rfl : '=' = c := Option.some.inj last
        decide
      · rw [← List.append_assoc, List.getLast?_append_of_ne_nil _ empty] at last
        exact padded_ends c last

theorem trimSpace_text (term : SelectorTerm) :
    Text.trimSpace term.text = term.core := by
  obtain ⟨right, printed⟩ := term.exists_text_eq
  have blank : ∀ n, ∀ c ∈ spaces n, Text.isSpace c = true := by
    intro n c member
    rw [space_of_mem_spaces member]
    decide
  have starts : ∀ c ∈ term.core.head?, Text.isSpace c = false := by
    intro c first
    rw [core, List.head?_append_of_ne_nil _ term.key.nonempty] at first
    exact term.key_solid c (List.mem_of_mem_head? first)
  rw [printed]
  exact Text.trimSpace_blank (blank _) (blank _) (by simp [core, term.key.nonempty])
    starts term.core_ends

theorem cut?_core (term : SelectorTerm) : Text.cut? '=' term.core = term.reading := by
  have absent : ∀ c ∈ term.key.text, c ≠ '=' := by
    intro c member
    rintro rfl
    exact absurd (List.all_eq_true.mp term.key.valid _ member) (by decide)
  have absentSpaces : ∀ before, ∀ c ∈ term.key.text ++ spaces before, c ≠ '=' := by
    intro before c member
    rcases List.mem_append.mp member with inKey | inSpaces
    · exact absent c inKey
    · rw [space_of_mem_spaces inSpaces]
      decide
  cases requirement : term.requirement with
  | present =>
      simp only [core, reading, requirement, List.append_nil]
      exact Text.cut?_of_absent absent
  | compare op before after value =>
      have front := absentSpaces before
      cases op with
      | equal =>
          have cut := Text.cut?_append (padded after value) front
          simpa [core, reading, requirement, Comparison.symbol] using cut
      | doubleEqual =>
          have cut := Text.cut?_append ('=' :: padded after value) front
          simpa [core, reading, requirement, Comparison.symbol] using cut
      | notEqual =>
          have bang : ∀ c ∈ term.key.text ++ spaces before ++ ['!'], c ≠ '=' := by
            intro c member
            rcases List.mem_append.mp member with inFront | last
            · exact front c inFront
            · rw [List.mem_singleton.mp last]
              decide
          have cut := Text.cut?_append (padded after value) bang
          simpa [core, reading, requirement, Comparison.symbol] using cut

theorem comma_not_mem_text (term : SelectorTerm) : ',' ∉ term.text := by
  have notKey : ∀ {text : List Char}, text.all keyChar = true → ',' ∉ text :=
    fun valid member => absurd (List.all_eq_true.mp valid _ member) (by decide)
  have notSpaces : ∀ n, ',' ∉ spaces n := fun n member =>
    absurd (space_of_mem_spaces member) (by decide)
  have notRequirement : ',' ∉ term.requirement.text := by
    cases term.requirement with
    | present => exact List.not_mem_nil
    | compare op before after value =>
        have notSymbol : ',' ∉ op.symbol := by cases op <;> decide
        have notValue : ',' ∉ value.text := fun member =>
          absurd (List.all_eq_true.mp value.valid _ member) (by decide)
        simp [Requirement.text, notSpaces, notSymbol, notValue]
  simp [text, notSpaces, notRequirement, notKey term.key.valid]

end SelectorTerm

theorem matchesLabelFilter_iff (labels : Table String String)
    (terms : List SelectorTerm) :
    matchesLabelFilter labels (filterText terms) = true ↔
      ∀ term ∈ terms, term.Passes labels := by
  cases terms with
  | nil =>
      simp [matchesLabelFilter, filterText, List.intercalate, Text.cut?, Text.trimSpace]
  | cons first terms =>
      have parts : (filterText (first :: terms)).toList.splitOn ',' =
          (first :: terms).map SelectorTerm.text := by
        rw [filterText, String.toList_ofList]
        apply List.splitOn_intercalate
        · intro text member
          obtain ⟨term, -, rfl⟩ := List.mem_map.mp member
          exact term.comma_not_mem_text
        · simp
      rw [matchesLabelFilter, parts, List.all_map, List.all_eq_true]
      refine forall₂_congr fun term _ => ?_
      rw [Function.comp_apply, term.trimSpace_text, term.cut?_core,
        SelectorTerm.Passes]
      cases term.reading with
      | none => simp
      | some pair => simp [Prod.ext_iff]

/-! ### Where the two readings agree -/

namespace SelectorTerm

/-- `key=value` without a space, and with a value. -/
def Plain (term : SelectorTerm) : Prop :=
  ∃ value : LabelValue, value.text ≠ [] ∧ term.requirement = .compare .equal 0 0 value

/-- A key alone that another term of the selector asks for with a value. -/
def Implied (terms : List SelectorTerm) (term : SelectorTerm) : Prop :=
  term.requirement = .present ∧
    ∃ other ∈ terms, other.Plain ∧ other.key.name = term.key.name

theorem holds_congr {labels labels' : Table String String} {term : SelectorTerm}
    (same : labels'.lookup term.key.name = labels.lookup term.key.name) :
    term.Holds labels' ↔ term.Holds labels := by
  unfold Holds
  rw [same]

theorem passes_iff {labels : Table String String} {term : SelectorTerm}
    {key value : List Char} (read : term.reading = some (key, value)) :
    term.Passes labels ↔ labels.getD (String.ofList key) "" = String.ofList value := by
  simp [Passes, read]

theorem passes_of_present {labels : Table String String} {term : SelectorTerm}
    (present : term.requirement = .present) : term.Passes labels := by
  simp [Passes, reading, present]

theorem Plain.passes_iff_holds {labels : Table String String} {term : SelectorTerm}
    (plain : term.Plain) : term.Passes labels ↔ term.Holds labels := by
  obtain ⟨value, nonempty, requirement⟩ := plain
  have read : term.reading = some (term.key.text, value.text) := by
    simp [reading, requirement, spaces, padded, nonempty]
  have holds : term.Holds labels ↔ labels.lookup term.key.name = some value.name := by
    simp [Holds, requirement]
  have named : value.name ≠ "" := by
    simpa [LabelValue.name, String.ofList_eq_empty_iff] using nonempty
  rw [passes_iff read, holds]
  change (labels.lookup term.key.name).getD "" = value.name ↔ _
  cases labels.lookup term.key.name with
  | none => simp [named.symm]
  | some found => simp

end SelectorTerm

def Unsatisfiable (terms : List SelectorTerm) : Prop :=
  ∀ labels, ¬ Selects labels terms

/-- Two terms are read as asking one label for different values. -/
def Clash (terms : List SelectorTerm) : Prop :=
  ∃ first ∈ terms, ∃ second ∈ terms, ∃ key value value',
    first.reading = some (key, value) ∧ second.reading = some (key, value') ∧
      value ≠ value'

theorem followsSelector_of_plain {terms : List SelectorTerm}
    (plain : ∀ term ∈ terms, term.Plain ∨ term.Implied terms) :
    FollowsSelector terms := by
  intro labels
  rw [matchesLabelFilter_iff]
  constructor
  · intro passes term member
    rcases plain term member with plain | ⟨present, other, inTerms, plain, sameKey⟩
    · exact plain.passes_iff_holds.mp (passes term member)
    · have held := plain.passes_iff_holds.mp (passes other inTerms)
      obtain ⟨value, -, requirement⟩ := plain
      simp only [SelectorTerm.Holds, requirement] at held
      rw [sameKey] at held
      simp [SelectorTerm.Holds, present, held]
  · intro selected term member
    rcases plain term member with plain | ⟨present, -⟩
    · exact plain.passes_iff_holds.mpr (selected term member)
    · exact SelectorTerm.passes_of_present present

theorem Clash.not_passes {terms : List SelectorTerm} (clash : Clash terms)
    (labels : Table String String) : ¬ ∀ term ∈ terms, term.Passes labels := by
  obtain ⟨first, inTerms, second, inTerms', key, value, value', read, read', other⟩ :=
    clash
  intro passes
  have found := (SelectorTerm.passes_iff read).mp (passes first inTerms)
  have found' := (SelectorTerm.passes_iff read').mp (passes second inTerms')
  exact other (String.ofList_injective (found.symm.trans found'))

/-- Without a clash the labels that the terms are read as asking for pass. -/
theorem exists_passes {terms : List SelectorTerm} (compatible : ¬ Clash terms) :
    ∃ labels : Table String String, ∀ term ∈ terms, term.Passes labels := by
  let asked : SelectorTerm → Option (String × String) := fun term =>
    term.reading.map fun pair => (String.ofList pair.1, String.ofList pair.2)
  refine ⟨Table.insertAll ∅ (terms.filterMap asked), fun term member => ?_⟩
  intro key value read
  have entry : (String.ofList key, String.ofList value) ∈ terms.filterMap asked :=
    List.mem_filterMap.mpr ⟨term, member, by simp [asked, read]⟩
  have found : (Table.insertAll ∅ (terms.filterMap asked)).lookup (String.ofList key) =
      some (String.ofList value) := by
    refine Table.lookup_insertAll_of_agree ∅ (fun value' member' => ?_) entry
    obtain ⟨other, inTerms, asks⟩ := List.mem_filterMap.mp member'
    obtain ⟨⟨key', text⟩, read', same⟩ := Option.map_eq_some_iff.mp asks
    obtain ⟨sameKey, rfl⟩ := Prod.mk.inj same
    obtain rfl := String.ofList_injective sameKey
    by_contra different
    exact compatible ⟨other, inTerms, term, member, key', text, value, read', read,
      fun eq => different (congrArg String.ofList eq)⟩
  rw [Table.getD, found]
  rfl

section Satisfiable

variable {terms : List SelectorTerm} (follows : FollowsSelector terms)
    {labels : Table String String} (selected : Selects labels terms)

include follows selected

/-- The filter cannot look up a label that no term names. -/
theorem exists_key_of_reading {term : SelectorTerm} (member : term ∈ terms)
    {key value : List Char} (read : term.reading = some (key, value)) :
    ∃ other ∈ terms, other.key.text = key := by
  by_contra foreign
  simp only [not_exists, not_and] at foreign
  -- Any value may be added under that label without changing what is selected.
  let labels' := labels.insert (String.ofList key) (String.ofList ('x' :: value))
  have still : Selects labels' terms := by
    intro other inTerms
    apply (SelectorTerm.holds_congr ?_).mpr (selected other inTerms)
    apply Finmap.lookup_insert_of_ne
    intro same
    exact foreign other inTerms (String.ofList_injective same)
  have passes := (matchesLabelFilter_iff labels' terms).mp ((follows labels').mpr still)
  have found := (SelectorTerm.passes_iff read).mp (passes term member)
  rw [Table.getD_insert_self] at found
  exact absurd (String.ofList_injective found) (by simp)

theorem passes_of_selected {term : SelectorTerm} (member : term ∈ terms) :
    term.Passes labels :=
  (matchesLabelFilter_iff labels terms).mp ((follows labels).mpr selected) term member

/-- A label may be dropped that is asked for with no value at all. -/
theorem selects_erase {name : String}
    (blank : ∀ term ∈ terms, ∀ key value, term.reading = some (key, value) →
      String.ofList key = name → value = []) :
    Selects (labels.erase name) terms := by
  apply (follows _).mp
  rw [matchesLabelFilter_iff]
  intro term member key value read
  have found := (SelectorTerm.passes_iff read).mp
    (passes_of_selected follows selected member)
  rw [Table.getD, Table.lookup_erase_eq_ite]
  split
  next same =>
    rw [blank term member key value read same]
    rfl
  next => exact found

theorem compare_ne_notEqual {term : SelectorTerm} (member : term ∈ terms)
    {op : Comparison} {before after : Nat} {value : LabelValue}
    (requirement : term.requirement = .compare op before after value) :
    op ≠ .notEqual := by
  rintro rfl
  have read : term.reading =
      some (term.key.text ++ spaces before ++ ['!'], padded after value) := by
    simp [SelectorTerm.reading, requirement]
  obtain ⟨other, -, named⟩ := exists_key_of_reading follows selected member read
  have bang : '!' ∈ other.key.text := by simp [named]
  exact absurd (List.all_eq_true.mp other.key.valid _ bang) (by decide)

/-- A comparison is read as one of the label it names, so there is no space before
the operator. -/
theorem value_of_compare {term : SelectorTerm} (member : term ∈ terms)
    {op : Comparison} {before after : Nat} {value : LabelValue}
    (requirement : term.requirement = .compare op before after value) :
    before = 0 ∧ term.reading = some (term.key.text, value.text) := by
  have direct := compare_ne_notEqual follows selected member requirement
  have held := selected term member
  obtain ⟨text, read⟩ :
      ∃ text, term.reading = some (term.key.text ++ spaces before, text) := by
    cases op with
    | equal => exact ⟨padded after value, by simp [SelectorTerm.reading, requirement]⟩
    | doubleEqual =>
        exact ⟨'=' :: padded after value, by simp [SelectorTerm.reading, requirement]⟩
    | notEqual => exact absurd rfl direct
  obtain ⟨other, -, named⟩ := exists_key_of_reading follows selected member read
  have unspaced : before = 0 := by
    by_contra spaced
    have space : ' ' ∈ other.key.text := by simp [named, spaces, spaced]
    exact absurd (List.all_eq_true.mp other.key.valid _ space) (by decide)
  subst unspaced
  have found : labels.lookup term.key.name = some value.name := by
    cases op with
    | equal => simpa [SelectorTerm.Holds, requirement] using held
    | doubleEqual => simpa [SelectorTerm.Holds, requirement] using held
    | notEqual => exact absurd rfl direct
  have passes := (SelectorTerm.passes_iff read).mp
    (passes_of_selected follows selected member)
  have key : term.key.text ++ spaces 0 = term.key.text := List.append_nil _
  rw [key] at read passes
  have same : String.ofList value.text = String.ofList text := by
    rw [← passes, Table.getD]
    change value.name = (labels.lookup term.key.name).getD ""
    rw [found]
    rfl
  rw [String.ofList_injective same]
  exact ⟨rfl, read⟩

theorem plain_of_compare {term : SelectorTerm} (member : term ∈ terms)
    {op : Comparison} {before after : Nat} {value : LabelValue}
    (requirement : term.requirement = .compare op before after value) : term.Plain := by
  obtain ⟨rfl, read⟩ := value_of_compare follows selected member requirement
  cases op with
  | notEqual => exact absurd rfl (compare_ne_notEqual follows selected member requirement)
  | doubleEqual =>
      simp only [SelectorTerm.reading, requirement, Option.some.injEq, Prod.mk.injEq]
        at read
      have symbol : '=' ∈ value.text := by simp [← read.2]
      exact absurd (List.all_eq_true.mp value.valid _ symbol) (by decide)
  | equal =>
      have whole : padded after value = value.text := by
        simp only [SelectorTerm.reading, requirement, Option.some.injEq, Prod.mk.injEq]
          at read
        exact read.2
      by_cases empty : value.text = []
      · -- The filter does not tell an empty label from one that is absent.
        have erased : Selects (labels.erase term.key.name) terms := by
          apply selects_erase follows selected
          intro other inTerms key text read' same
          obtain rfl : key = term.key.text := String.ofList_injective same
          by_contra filled
          have differ : value.text ≠ text := by
            rw [empty]
            exact Ne.symm filled
          have clash : Clash terms :=
            ⟨term, member, other, inTerms, _, _, _, read, read', differ⟩
          exact clash.not_passes labels fun other => passes_of_selected follows selected
        have held := erased term member
        simp [SelectorTerm.Holds, requirement] at held
      · have unspaced : after = 0 := by
          have lengths := congrArg List.length whole
          simpa [padded, empty, spaces] using lengths
        exact ⟨value, empty, by rw [requirement, unspaced]⟩

theorem implied_of_present {term : SelectorTerm} (member : term ∈ terms)
    (present : term.requirement = .present) : term.Implied terms := by
  by_contra alone
  have erased : Selects (labels.erase term.key.name) terms := by
    refine selects_erase follows selected fun other inTerms key text read same => ?_
    cases requirement : other.requirement with
    | present => simp [SelectorTerm.reading, requirement] at read
    | compare op before after value =>
        obtain ⟨-, read'⟩ := value_of_compare follows selected inTerms requirement
        rw [read, Option.some.injEq, Prod.mk.injEq] at read'
        refine absurd ⟨present, other, inTerms,
          plain_of_compare follows selected inTerms requirement, ?_⟩ alone
        rw [LabelKey.name, ← read'.1, same]
  have held := erased term member
  simp [SelectorTerm.Holds, present] at held

end Satisfiable

/-- The filter is the selector exactly when each term is `key=value` without spaces
and with a value, or a key that such a term asks for anyway; apart from selectors
that select nothing and are read as contradictory. -/
theorem followsSelector_iff (terms : List SelectorTerm) :
    FollowsSelector terms ↔
      (∀ term ∈ terms, term.Plain ∨ term.Implied terms) ∨
        Unsatisfiable terms ∧ Clash terms := by
  constructor
  · intro follows
    by_cases satisfiable : ∃ labels, Selects labels terms
    · obtain ⟨labels, selected⟩ := satisfiable
      refine .inl fun term member => ?_
      cases requirement : term.requirement with
      | present => exact .inr (implied_of_present follows selected member requirement)
      | compare op before after value =>
          exact .inl (plain_of_compare follows selected member requirement)
    · refine .inr ⟨not_exists.mp satisfiable, ?_⟩
      by_contra compatible
      obtain ⟨labels, passes⟩ := exists_passes compatible
      exact satisfiable ⟨labels,
        (follows labels).mp ((matchesLabelFilter_iff labels terms).mpr passes)⟩
  · rintro (plain | ⟨unsatisfiable, clash⟩)
    · exact followsSelector_of_plain plain
    · intro labels
      rw [matchesLabelFilter_iff]
      exact iff_of_false (clash.not_passes labels) (unsatisfiable labels)

def appEqualsWeb : SelectorTerm where
  left := 0
  right := 0
  key := ⟨"app".toList, by decide, by decide⟩
  requirement := .compare .doubleEqual 0 0 ⟨"web".toList, by decide⟩

/-- `app==web` does not match the label `app` with the value `web`. -/
theorem doubleEqual_rejected :
    filterText [appEqualsWeb] = "app==web" ∧
      Selects ((∅ : Table String String).insert "app" "web") [appEqualsWeb] ∧
      matchesLabelFilter ((∅ : Table String String).insert "app" "web") "app==web" =
        false := by
  refine ⟨by decide +kernel, ?_, by decide +kernel⟩
  intro term member
  rw [List.mem_singleton.mp member]
  decide +kernel

end KubevirtMetrics.Virt
