namespace KubevirtMetrics.Data

/-! Regular expressions with captured groups.  Repetition is over single
characters.  A match is the leftmost one, and of those that start there the one
a backtracking search finds first. -/

inductive Regexp
  | one (accepts : Char → Bool)
  | many (greedy : Bool) (accepts : Char → Bool)
  | seq (first second : Regexp)
  | opt (body : Regexp)
  | group (body : Regexp)
  | endOfText

namespace Regexp

/-- One way to match a beginning of the text: the groups in the order of their
opening parentheses, and the text that is left. -/
structure Match where
  groups : List (List Char)
  rest : List Char

def groupCount : Regexp → Nat
  | .one _ | .many _ _ | .endOfText => 0
  | .seq first second => first.groupCount + second.groupCount
  | .opt body => body.groupCount
  | .group body => body.groupCount + 1

def rests (accepts : Char → Bool) : List Char → List (List Char)
  | [] => [[]]
  | c :: text =>
      (c :: text) :: if accepts c then rests accepts text else []

/-- All ways to match a beginning of the text, the preferred ones first. -/
def runs : Regexp → List Char → List Match
  | .one _, [] => []
  | .one accepts, c :: text => if accepts c then [⟨[], text⟩] else []
  | .many greedy accepts, text =>
      let lefts := rests accepts text
      (if greedy then lefts.reverse else lefts).map fun rest => ⟨[], rest⟩
  | .seq first second, text =>
      (first.runs text).flatMap fun front =>
        (second.runs front.rest).map fun back =>
          ⟨front.groups ++ back.groups, back.rest⟩
  | .opt body, text =>
      body.runs text ++ [⟨List.replicate body.groupCount [], text⟩]
  | .group body, text =>
      (body.runs text).map fun inner =>
        ⟨text.take (text.length - inner.rest.length) :: inner.groups,
          inner.rest⟩
  | .endOfText, text => if text.isEmpty then [⟨[], []⟩] else []

/-- The groups of the match at the beginning of the text, for `^`. -/
def matchAtStart (pattern : Regexp) (text : List Char) :
    Option (List (List Char)) :=
  (pattern.runs text).head?.map Match.groups

def search (pattern : Regexp) : List Char → Option (List (List Char))
  | [] => pattern.matchAtStart []
  | c :: text =>
      match pattern.matchAtStart (c :: text) with
      | some groups => some groups
      | none => pattern.search text

def literal : List Char → Regexp
  | [] => .many true fun _ => false
  | [c] => .one (· == c)
  | c :: text => .seq (.one (· == c)) (literal text)

def plus (greedy : Bool) (accepts : Char → Bool) : Regexp :=
  .seq (.one accepts) (.many greedy accepts)

def times (accepts : Char → Bool) : Nat → Regexp
  | 0 => .many true fun _ => false
  | 1 => .one accepts
  | n + 1 => .seq (.one accepts) (times accepts n)

def concat : List Regexp → Regexp
  | [] => .many true fun _ => false
  | [pattern] => pattern
  | pattern :: patterns => .seq pattern (concat patterns)

/-- The character class `.`, which does not match a line break. -/
def anyChar (c : Char) : Bool := c != '\n'

/-- The character class `\s`. -/
def space (c : Char) : Bool := [' ', '\t', '\n', '\x0c', '\r'].contains c

/-! ### The preferred match -/

def Prefers (pattern : Regexp) (text : List Char) (found : Match) : Prop :=
  (pattern.runs text).head? = some found

variable {pattern first second : Regexp} {accepts : Char → Bool}
    {text rest : List Char} {groups : List (List Char)}

theorem matchAtStart_eq (found : pattern.Prefers text ⟨groups, rest⟩) :
    pattern.matchAtStart text = some groups := by
  rw [matchAtStart, found]
  rfl

theorem prefers_one {c : Char} (accepted : accepts c = true) (text : List Char) :
    (one accepts).Prefers (c :: text) ⟨[], text⟩ := by
  rw [Prefers, runs, if_pos accepted]
  rfl

theorem getLast?_rests (accepts : Char → Bool) (text : List Char) :
    (rests accepts text).getLast? = some (text.dropWhile accepts) := by
  induction text with
  | nil => rfl
  | cons c text induction =>
      rw [rests, List.dropWhile_cons]
      split
      next => rw [List.getLast?_cons, induction, Option.getD_some]
      next => rfl

theorem prefers_many (accepts : Char → Bool) (text : List Char) :
    (many true accepts).Prefers text ⟨[], text.dropWhile accepts⟩ := by
  rw [Prefers, runs, if_pos rfl, List.head?_map, List.head?_reverse,
    getLast?_rests]
  rfl

theorem prefers_seq {middle : List Char} {groups' : List (List Char)}
    (front : first.Prefers text ⟨groups, middle⟩)
    (back : second.Prefers middle ⟨groups', rest⟩) :
    (seq first second).Prefers text ⟨groups ++ groups', rest⟩ := by
  obtain ⟨others, fronts⟩ := List.head?_eq_some_iff.mp front
  obtain ⟨others', backs⟩ := List.head?_eq_some_iff.mp back
  rw [Prefers, runs, fronts, List.flatMap_cons, backs]
  rfl

theorem prefers_group {word : List Char}
    (found : pattern.Prefers (word ++ rest) ⟨groups, rest⟩) :
    (group pattern).Prefers (word ++ rest) ⟨word :: groups, rest⟩ := by
  rw [Prefers, runs, List.head?_map, found, Option.map_some, List.length_append,
    Nat.add_sub_cancel, List.take_left']
  rfl

theorem prefers_literal (word rest : List Char) :
    (literal word).Prefers (word ++ rest) ⟨[], rest⟩ := by
  match word with
  | [] =>
      have nothing : rest.dropWhile (fun _ => false) = rest := by
        cases rest with
        | nil => rfl
        | cons c rest => rfl
      have found := prefers_many (fun _ => false) rest
      rw [nothing] at found
      exact found
  | [c] => exact prefers_one (beq_self_eq_true c) rest
  | c :: d :: word =>
      exact prefers_seq (prefers_one (beq_self_eq_true c) _)
        (prefers_literal (d :: word) rest)

theorem prefers_plus {word : List Char} (nonempty : word ≠ [])
    (all : ∀ c ∈ word, accepts c = true)
    (stops : ∀ c ∈ rest.head?, accepts c = false) :
    (plus true accepts).Prefers (word ++ rest) ⟨[], rest⟩ := by
  cases word with
  | nil => exact absurd rfl nonempty
  | cons c word =>
      have left : (word ++ rest).dropWhile accepts = rest := by
        rw [List.dropWhile_append_of_pos fun d member =>
          all d (List.mem_cons_of_mem c member)]
        cases rest with
        | nil => rfl
        | cons d rest =>
            exact List.dropWhile_cons_of_neg (by simp [stops d rfl])
      have found := prefers_many accepts (word ++ rest)
      rw [left] at found
      exact prefers_seq (prefers_one (all c List.mem_cons_self) _) found

/-! ### Any match -/

theorem exists_of_matchAtStart (found : pattern.matchAtStart text = some groups) :
    ∃ run ∈ pattern.runs text, run.groups = groups := by
  obtain ⟨run, first, same⟩ := Option.map_eq_some_iff.mp found
  exact ⟨run, List.mem_of_mem_head? first, same⟩

theorem exists_of_mem_seq {run : Match} (member : run ∈ (seq first second).runs text) :
    ∃ front ∈ first.runs text, ∃ back ∈ second.runs front.rest,
      run = ⟨front.groups ++ back.groups, back.rest⟩ := by
  obtain ⟨front, inFirst, rest⟩ := List.mem_flatMap.mp member
  obtain ⟨back, inSecond, same⟩ := List.mem_map.mp rest
  exact ⟨front, inFirst, back, inSecond, same.symm⟩

theorem text_of_mem_one {run : Match} (member : run ∈ (one accepts).runs text) :
    ∃ c, accepts c = true ∧ text = c :: run.rest := by
  cases text with
  | nil => cases member
  | cons c text =>
      rw [runs] at member
      split at member
      next accepted =>
        obtain rfl := List.mem_singleton.mp member
        exact ⟨c, accepted, rfl⟩
      next => cases member

theorem text_of_mem_literal {word text : List Char} {run : Match}
    (nonempty : word ≠ []) (member : run ∈ (literal word).runs text) :
    text = word ++ run.rest := by
  match word with
  | [] => exact absurd rfl nonempty
  | [c] =>
      obtain ⟨d, same, rfl⟩ := text_of_mem_one member
      rw [beq_iff_eq.mp same]
      rfl
  | c :: d :: word =>
      obtain ⟨front, inFirst, back, inSecond, rfl⟩ := exists_of_mem_seq member
      obtain ⟨e, same, rfl⟩ := text_of_mem_one inFirst
      rw [beq_iff_eq.mp same, text_of_mem_literal (List.cons_ne_nil d word) inSecond]
      rfl

/-! ### What a pattern reads -/

/-- The pattern reads `word` where `rest` is left. -/
def Reads : Regexp → (word rest : List Char) → (groups : List (List Char)) → Prop
  | .one accepts, word, _, groups =>
      groups = [] ∧ ∃ c, accepts c = true ∧ word = [c]
  | .many _ accepts, word, _, groups =>
      groups = [] ∧ ∀ c ∈ word, accepts c = true
  | .seq first second, word, rest, groups =>
      ∃ front back fronts backs, word = front ++ back ∧ groups = fronts ++ backs ∧
        first.Reads front (back ++ rest) fronts ∧ second.Reads back rest backs
  | .opt body, word, rest, groups =>
      body.Reads word rest groups ∨
        word = [] ∧ groups = List.replicate body.groupCount []
  | .group body, word, rest, groups =>
      ∃ inner, groups = word :: inner ∧ body.Reads word rest inner
  | .endOfText, word, rest, groups => groups = [] ∧ word = [] ∧ rest = []

theorem mem_rests_iff {accepts : Char → Bool} {text rest : List Char} :
    rest ∈ rests accepts text ↔
      ∃ word, text = word ++ rest ∧ ∀ c ∈ word, accepts c = true := by
  induction text with
  | nil =>
      rw [rests, List.mem_singleton]
      constructor
      · rintro rfl
        exact ⟨[], rfl, by simp⟩
      · rintro ⟨word, split, -⟩
        exact (List.append_eq_nil_iff.mp split.symm).2
  | cons c text induction =>
      rw [rests, List.mem_cons]
      constructor
      · rintro (rfl | member)
        · exact ⟨[], rfl, by simp⟩
        · split at member
          next accepted =>
            obtain ⟨word, rfl, all⟩ := induction.mp member
            exact ⟨c :: word, rfl, List.forall_mem_cons.mpr ⟨accepted, all⟩⟩
          next => cases member
      · rintro ⟨word, split, all⟩
        cases word with
        | nil => exact .inl split.symm
        | cons d word =>
            obtain ⟨rfl, rfl⟩ := List.cons.inj split
            obtain ⟨accepted, all⟩ := List.forall_mem_cons.mp all
            rw [if_pos accepted]
            exact .inr (induction.mpr ⟨word, rfl, all⟩)

/-- The ways the matcher finds are those of the language. -/
theorem mem_runs_iff (pattern : Regexp) {text rest : List Char}
    {groups : List (List Char)} :
    ⟨groups, rest⟩ ∈ pattern.runs text ↔
      ∃ word, text = word ++ rest ∧ pattern.Reads word rest groups := by
  induction pattern generalizing text rest groups with
  | one accepts =>
      constructor
      · intro member
        obtain ⟨c, accepted, rfl⟩ := text_of_mem_one member
        refine ⟨[c], rfl, ?_, c, accepted, rfl⟩
        rw [runs, if_pos accepted, List.mem_singleton] at member
        exact (Match.mk.inj member).1
      · rintro ⟨word, rfl, rfl, c, accepted, rfl⟩
        rw [List.singleton_append, runs, if_pos accepted]
        exact List.mem_singleton_self _
  | many greedy accepts =>
      have found : ⟨groups, rest⟩ ∈ (many greedy accepts).runs text ↔
          groups = [] ∧ rest ∈ rests accepts text := by
        have same : ∀ other,
            other ∈ (if greedy = true then (rests accepts text).reverse
              else rests accepts text) ↔ other ∈ rests accepts text := by
          intro other
          cases greedy <;> simp
        simp only [runs, List.mem_map, same]
        constructor
        · rintro ⟨other, member, made⟩
          obtain ⟨rfl, rfl⟩ := Match.mk.inj made
          exact ⟨rfl, member⟩
        · rintro ⟨rfl, member⟩
          exact ⟨rest, member, rfl⟩
      rw [found, mem_rests_iff]
      constructor
      · rintro ⟨rfl, word, split, all⟩
        exact ⟨word, split, rfl, all⟩
      · rintro ⟨word, split, rfl, all⟩
        exact ⟨rfl, word, split, all⟩
  | seq first second first_ih second_ih =>
      constructor
      · intro member
        obtain ⟨front, inFirst, back, inSecond, same⟩ := exists_of_mem_seq member
        obtain ⟨rfl, rfl⟩ := Match.mk.inj same
        obtain ⟨word, split, read⟩ := first_ih.mp inFirst
        obtain ⟨word', split', read'⟩ := second_ih.mp inSecond
        rw [split'] at split read
        exact ⟨word ++ word', by rw [split, List.append_assoc], word, word', _, _,
          rfl, rfl, read, read'⟩
      · rintro ⟨word, rfl, front, back, fronts, backs, rfl, rfl, read, read'⟩
        have inFirst := first_ih.mpr ⟨front, rfl, read⟩
        have inSecond := second_ih.mpr ⟨back, rfl, read'⟩
        rw [List.append_assoc, runs]
        exact List.mem_flatMap.mpr ⟨_, inFirst, List.mem_map.mpr ⟨_, inSecond, rfl⟩⟩
  | opt body body_ih =>
      rw [runs, List.mem_append, body_ih, List.mem_singleton]
      constructor
      · rintro (⟨word, split, read⟩ | skipped)
        · exact ⟨word, split, .inl read⟩
        · obtain ⟨rfl, rfl⟩ := Match.mk.inj skipped
          exact ⟨[], rfl, .inr ⟨rfl, rfl⟩⟩
      · rintro ⟨word, split, read | ⟨rfl, rfl⟩⟩
        · exact .inl ⟨word, split, read⟩
        · rw [split]
          exact .inr rfl
  | group body body_ih =>
      rw [runs, List.mem_map]
      constructor
      · rintro ⟨⟨inner, rest'⟩, member, same⟩
        obtain ⟨rfl, rfl⟩ := Match.mk.inj same
        obtain ⟨word, rfl, read⟩ := body_ih.mp member
        refine ⟨word, rfl, inner, ?_, read⟩
        simp
      · rintro ⟨word, rfl, inner, rfl, read⟩
        refine ⟨⟨inner, rest⟩, body_ih.mpr ⟨word, rfl, read⟩, ?_⟩
        simp
  | endOfText =>
      constructor
      · intro member
        rw [runs] at member
        split at member
        next empty =>
          obtain ⟨rfl, rfl⟩ := Match.mk.inj (List.mem_singleton.mp member)
          exact ⟨[], List.isEmpty_iff.mp empty, rfl, rfl, rfl⟩
        next => cases member
      · rintro ⟨word, rfl, rfl, rfl, rfl⟩
        exact List.mem_singleton_self _

theorem matchAtStart_isSome_iff (pattern : Regexp) (text : List Char) :
    (pattern.matchAtStart text).isSome = true ↔
      ∃ word rest groups, text = word ++ rest ∧ pattern.Reads word rest groups := by
  rw [matchAtStart, Option.isSome_map, List.isSome_head?]
  constructor
  · intro nonempty
    obtain ⟨⟨groups, rest⟩, runs, found⟩ :=
      List.exists_cons_of_ne_nil (by simpa using nonempty)
    have member : ⟨groups, rest⟩ ∈ pattern.runs text := by simp [found]
    obtain ⟨word, split, read⟩ := (mem_runs_iff pattern).mp member
    exact ⟨word, rest, groups, split, read⟩
  · rintro ⟨word, rest, groups, split, read⟩
    have member := (mem_runs_iff pattern).mpr ⟨word, split, read⟩
    simpa using List.ne_nil_of_mem member

theorem exists_of_search {pattern : Regexp} {text : List Char}
    {groups : List (List Char)} (found : pattern.search text = some groups) :
    ∃ front word rest, text = front ++ (word ++ rest) ∧
      pattern.Reads word rest groups := by
  have here : ∀ text, pattern.matchAtStart text = some groups →
      ∃ front word rest, text = front ++ (word ++ rest) ∧
        pattern.Reads word rest groups := by
    intro text found
    obtain ⟨⟨_, rest⟩, member, rfl⟩ := exists_of_matchAtStart found
    obtain ⟨word, split, read⟩ := (mem_runs_iff pattern).mp member
    exact ⟨[], word, rest, split, read⟩
  induction text with
  | nil => exact here [] found
  | cons c text induction =>
      rw [search] at found
      split at found
      next groups' first =>
        exact here (c :: text) (first.trans found)
      next =>
        obtain ⟨front, word, rest, rfl, read⟩ := induction found
        exact ⟨c :: front, word, rest, rfl, read⟩

theorem search_isSome {pattern : Regexp} {word rest : List Char}
    {groups : List (List Char)} (read : pattern.Reads word rest groups)
    (front : List Char) :
    (pattern.search (front ++ (word ++ rest))).isSome = true := by
  have here : (pattern.matchAtStart (word ++ rest)).isSome = true :=
    (matchAtStart_isSome_iff pattern _).mpr ⟨word, rest, groups, rfl, read⟩
  have first : ∀ text, (pattern.matchAtStart text).isSome = true →
      (pattern.search text).isSome = true := by
    intro text found
    cases text with
    | nil => exact found
    | cons c text =>
        obtain ⟨groups', found⟩ := Option.isSome_iff_exists.mp found
        rw [search, found]
        rfl
  induction front with
  | nil => exact first _ here
  | cons c front induction =>
      rw [List.cons_append, search]
      split
      next => rfl
      next => exact induction

/-- Where all readings of a text have the same groups, these are what a search
returns. -/
theorem search_eq_some {pattern : Regexp} {front word rest : List Char}
    {groups : List (List Char)} (read : pattern.Reads word rest groups)
    (unique : ∀ front' word' rest' groups',
      front ++ (word ++ rest) = front' ++ (word' ++ rest') →
        pattern.Reads word' rest' groups' → groups' = groups) :
    pattern.search (front ++ (word ++ rest)) = some groups := by
  obtain ⟨groups', found⟩ := Option.isSome_iff_exists.mp (search_isSome read front)
  obtain ⟨front', word', rest', split, read'⟩ := exists_of_search found
  rw [found, unique front' word' rest' groups' split read']

theorem reads_literal_iff {text word rest : List Char} {groups : List (List Char)} :
    (literal text).Reads word rest groups ↔ word = text ∧ groups = [] := by
  induction text generalizing word groups with
  | nil =>
      rw [literal, Reads]
      constructor
      · rintro ⟨rfl, none⟩
        exact ⟨List.eq_nil_iff_forall_not_mem.mpr fun c member =>
          absurd (none c member) (by simp), rfl⟩
      · rintro ⟨rfl, rfl⟩
        exact ⟨rfl, by simp⟩
  | cons c text induction =>
      have single : ∀ {word rest : List Char} {groups : List (List Char)},
          (one (· == c)).Reads word rest groups ↔ word = [c] ∧ groups = [] := by
        intro word rest groups
        simp [Reads, and_comm]
      cases text with
      | nil => exact single
      | cons d text =>
          change (seq (one (· == c)) (literal (d :: text))).Reads word rest groups ↔ _
          constructor
          · rintro ⟨front, back, fronts, backs, rfl, rfl, first, second⟩
            obtain ⟨rfl, rfl⟩ := single.mp first
            obtain ⟨rfl, rfl⟩ := induction.mp second
            exact ⟨rfl, rfl⟩
          · rintro ⟨rfl, rfl⟩
            exact ⟨[c], d :: text, [], [], rfl, rfl, single.mpr ⟨rfl, rfl⟩,
              induction.mpr ⟨rfl, rfl⟩⟩

theorem reads_plus_iff {greedy : Bool} {accepts : Char → Bool}
    {word rest : List Char} {groups : List (List Char)} :
    (plus greedy accepts).Reads word rest groups ↔
      groups = [] ∧ word ≠ [] ∧ ∀ c ∈ word, accepts c = true := by
  constructor
  · rintro ⟨_, back, _, _, rfl, rfl, ⟨rfl, c, accepted, rfl⟩, rfl, all⟩
    exact ⟨rfl, by simp, List.forall_mem_cons.mpr ⟨accepted, all⟩⟩
  · rintro ⟨rfl, nonempty, all⟩
    obtain ⟨c, back, rfl⟩ := List.exists_cons_of_ne_nil nonempty
    obtain ⟨accepted, all⟩ := List.forall_mem_cons.mp all
    exact ⟨[c], back, [], [], rfl, rfl, ⟨rfl, c, accepted, rfl⟩, rfl, all⟩

theorem reads_times_iff {accepts : Char → Bool} {n : Nat} {word rest : List Char}
    {groups : List (List Char)} :
    (times accepts n).Reads word rest groups ↔
      groups = [] ∧ word.length = n ∧ ∀ c ∈ word, accepts c = true := by
  induction n generalizing word groups with
  | zero =>
      constructor
      · rintro ⟨rfl, none⟩
        obtain rfl : word = [] := List.eq_nil_iff_forall_not_mem.mpr
          fun c member => absurd (none c member) (by simp)
        exact ⟨rfl, rfl, by simp⟩
      · rintro ⟨rfl, empty, -⟩
        rw [List.length_eq_zero_iff.mp empty]
        exact ⟨rfl, by simp⟩
  | succ n induction =>
      have step : (times accepts (n + 1)).Reads word rest groups ↔
          (seq (one accepts) (times accepts n)).Reads word rest groups := by
        cases n with
        | succ n => exact Iff.rfl
        | zero =>
            constructor
            · rintro ⟨rfl, c, accepted, rfl⟩
              exact ⟨[c], [], [], [], rfl, rfl, ⟨rfl, c, accepted, rfl⟩, rfl, by simp⟩
            · rintro ⟨_, back, _, _, rfl, rfl, first, second⟩
              obtain ⟨rfl, empty, -⟩ := induction.mp second
              rw [List.length_eq_zero_iff.mp empty, List.append_nil, List.append_nil]
              exact first
      rw [step]
      constructor
      · rintro ⟨_, back, _, _, rfl, rfl, ⟨rfl, c, accepted, rfl⟩, second⟩
        obtain ⟨rfl, long, all⟩ := induction.mp second
        exact ⟨rfl, by simp [long], List.forall_mem_cons.mpr ⟨accepted, all⟩⟩
      · rintro ⟨rfl, long, all⟩
        obtain ⟨c, back, rfl⟩ := List.exists_cons_of_length_eq_add_one long
        obtain ⟨accepted, all⟩ := List.forall_mem_cons.mp all
        exact ⟨[c], back, [], [], rfl, rfl, ⟨rfl, c, accepted, rfl⟩,
          induction.mpr ⟨rfl, Nat.succ.inj long, all⟩⟩

section Sequences

variable {first second : Regexp} {accepted : List Char → Prop} {word rest : List Char}
  {groups : List (List Char)}

theorem reads_endOfText_iff :
    endOfText.Reads word rest groups ↔ groups = [] ∧ word = [] ∧ rest = [] := Iff.rfl

/-- A sequence that starts with a pattern without groups. -/
theorem reads_seq_iff
    (silent : ∀ {word rest groups},
      first.Reads word rest groups ↔ groups = [] ∧ accepted word) :
    (seq first second).Reads word rest groups ↔
      ∃ front back, word = front ++ back ∧ accepted front ∧
        second.Reads back rest groups := by
  constructor
  · rintro ⟨front, back, _, backs, split, rfl, read, later⟩
    obtain ⟨rfl, here⟩ := silent.mp read
    exact ⟨front, back, split, here, later⟩
  · rintro ⟨front, back, split, here, later⟩
    exact ⟨front, back, [], groups, split, rfl, silent.mpr ⟨rfl, here⟩, later⟩

theorem reads_literal_seq_iff {text : List Char} :
    (seq (literal text) second).Reads word rest groups ↔
      ∃ back, word = text ++ back ∧ second.Reads back rest groups := by
  rw [reads_seq_iff (reads_literal_iff.trans and_comm)]
  constructor
  · rintro ⟨_, back, split, rfl, later⟩
    exact ⟨back, split, later⟩
  · rintro ⟨back, split, later⟩
    exact ⟨text, back, split, rfl, later⟩

/-- A sequence that starts with the group of such a pattern. -/
theorem reads_group_seq_iff
    (silent : ∀ {word rest groups},
      first.Reads word rest groups ↔ groups = [] ∧ accepted word) :
    (seq (group first) second).Reads word rest groups ↔
      ∃ front back backs, word = front ++ back ∧ groups = front :: backs ∧
        accepted front ∧ second.Reads back rest backs := by
  constructor
  · rintro ⟨front, back, _, backs, split, rfl, ⟨_, rfl, read⟩, later⟩
    obtain ⟨rfl, here⟩ := silent.mp read
    exact ⟨front, back, backs, split, rfl, here, later⟩
  · rintro ⟨front, back, backs, split, rfl, here, later⟩
    exact ⟨front, back, [front], backs, split, rfl, ⟨[], rfl, silent.mpr ⟨rfl, here⟩⟩,
      later⟩

end Sequences

end Regexp

end KubevirtMetrics.Data
