import Mathlib.Data.List.DropRight
import Mathlib.Tactic

namespace KubevirtMetrics.Data

/-! The functions of the `strings` and `strconv` packages, on lists of
characters. -/

namespace Text

def isSpace (c : Char) : Bool :=
  [0x09, 0x0a, 0x0b, 0x0c, 0x0d, 0x20, 0x85, 0xa0, 0x1680, 0x2028, 0x2029,
    0x202f, 0x205f, 0x3000].contains c.toNat ||
    (0x2000 ≤ c.toNat && c.toNat ≤ 0x200a)

def trimSpace (text : List Char) : List Char :=
  ((text.dropWhile isSpace).reverse.dropWhile isSpace).reverse

/-- The text with `\r\n` replaced by `\n`. -/
def unixLines : List Char → List Char
  | [] => []
  | c :: text =>
      if c = '\r' ∧ text.head? = some '\n' then unixLines text
      else c :: unixLines text

def cut? (sep : Char) : List Char → Option (List Char × List Char)
  | [] => none
  | c :: text =>
      if c = sep then some ([], text)
      else (cut? sep text).map fun parts => (c :: parts.1, parts.2)

/-- The text before and after the last separator. -/
def cutLast? (sep : Char) : List Char → Option (List Char × List Char)
  | [] => none
  | c :: text =>
      match cutLast? sep text with
      | some parts => some (c :: parts.1, parts.2)
      | none => if c = sep then some ([], text) else none

def trimPrefix (front text : List Char) : List Char :=
  if front.isPrefixOf text then text.drop front.length else text

def trimSuffix (back text : List Char) : List Char :=
  if back.isSuffixOf text then text.take (text.length - back.length) else text

/-- The text after the last occurrence of `part`, as one gets it from
`strings.LastIndex`. -/
def afterLast? (part : List Char) : List Char → Option (List Char)
  | [] => none
  | c :: text =>
      match afterLast? part text with
      | some rest => some rest
      | none =>
          if part.isPrefixOf (c :: text) then some ((c :: text).drop part.length)
          else none

def fields (text : List Char) : List (List Char) :=
  (text.splitOnP isSpace).filter fun field => !field.isEmpty

def digits? (text : List Char) : Option Nat :=
  if text.isEmpty || !text.all Char.isDigit then none
  else some (text.foldl (fun acc c => 10 * acc + (c.toNat - '0'.toNat)) 0)

/-- A separator that does not occur in the front part fixes where a text is
split. -/
theorem append_cons_inj {sep : Char}
    {front back front' back' : List Char}
    (absent : ∀ c ∈ front, c ≠ sep) (absent' : ∀ c ∈ front', c ≠ sep)
    (same : front ++ sep :: back = front' ++ sep :: back') :
    front = front' ∧ back = back' := by
  induction front generalizing front' with
  | nil =>
      cases front' with
      | nil => exact ⟨rfl, (List.cons.inj same).2⟩
      | cons c front' =>
          exact absurd (List.cons.inj same).1.symm (absent' c (by simp))
  | cons c front induction =>
      cases front' with
      | nil => exact absurd (List.cons.inj same).1 (absent c (by simp))
      | cons d front' =>
          obtain ⟨rfl, rest⟩ := List.cons.inj same
          obtain ⟨rfl, rfl⟩ := induction
            (fun x member => absent x (by simp [member]))
            (fun x member => absent' x (by simp [member])) rest
          exact ⟨rfl, rfl⟩

theorem cut?_append {sep : Char} {front : List Char} (back : List Char)
    (absent : ∀ c ∈ front, c ≠ sep) :
    cut? sep (front ++ sep :: back) = some (front, back) := by
  induction front with
  | nil => simp [cut?]
  | cons c front induction =>
      have rest := induction fun d member => absent d (by simp [member])
      simp [cut?, absent c (by simp), rest]

theorem cut?_eq_some {sep : Char} {text front back : List Char}
    (cut : cut? sep text = some (front, back)) :
    text = front ++ sep :: back := by
  induction text generalizing front with
  | nil => cases cut
  | cons c text induction =>
      rw [cut?] at cut
      split at cut
      next same =>
        obtain ⟨rfl, rfl⟩ := Prod.mk.inj (Option.some.inj cut)
        rw [same]
        rfl
      next =>
        obtain ⟨⟨rest, back'⟩, found, same⟩ := Option.map_eq_some_iff.mp cut
        obtain ⟨rfl, rfl⟩ := Prod.mk.inj same
        rw [induction found]
        rfl

theorem cut?_of_absent {sep : Char} {text : List Char}
    (absent : ∀ c ∈ text, c ≠ sep) : cut? sep text = none := by
  induction text with
  | nil => rfl
  | cons c text induction =>
      rw [cut?, if_neg (absent c List.mem_cons_self),
        induction fun d member => absent d (List.mem_cons_of_mem c member)]
      rfl

theorem trimSuffix_append (text back : List Char) :
    trimSuffix back (text ++ back) = text := by
  have suffix : back.isSuffixOf (text ++ back) = true :=
    List.isSuffixOf_iff_suffix.mpr (List.suffix_append text back)
  rw [trimSuffix, if_pos suffix, List.length_append, Nat.add_sub_cancel,
    List.take_left]

theorem trimSuffix_of_not {text back : List Char} (other : ¬ back <:+ text) :
    trimSuffix back text = text :=
  if_neg fun ends => other (List.isSuffixOf_iff_suffix.mp ends)

theorem dropWhile_blank {blank core : List Char}
    (space : ∀ c ∈ blank, isSpace c = true)
    (starts : ∀ c ∈ core.head?, isSpace c = false) :
    (blank ++ core).dropWhile isSpace = core := by
  rw [List.dropWhile_append_of_pos space]
  cases core with
  | nil => rfl
  | cons c core => exact List.dropWhile_cons_of_neg (by simp [starts c rfl])

/-- Blanks around a text that neither starts nor ends with one. -/
theorem trimSpace_blank {front core back : List Char}
    (frontSpace : ∀ c ∈ front, isSpace c = true)
    (backSpace : ∀ c ∈ back, isSpace c = true)
    (nonempty : core ≠ []) (starts : ∀ c ∈ core.head?, isSpace c = false)
    (ends : ∀ c ∈ core.getLast?, isSpace c = false) :
    trimSpace (front ++ (core ++ back)) = core := by
  have first : ∀ c ∈ (core ++ back).head?, isSpace c = false := by
    rw [List.head?_append_of_ne_nil core nonempty]
    exact starts
  rw [trimSpace, dropWhile_blank frontSpace first, List.reverse_append,
    dropWhile_blank (by simpa using backSpace) (by simpa using ends),
    List.reverse_reverse]

theorem trimSpace_ends (text : List Char) :
    ∀ c ∈ (trimSpace text).getLast?, isSpace c = false := by
  intro c last
  rw [trimSpace, List.getLast?_reverse] at last
  have first := List.head?_dropWhile_not isSpace (text.dropWhile isSpace).reverse
  rw [last] at first
  simpa using first

/-- The spaces that are cut off at the end. -/
def trailing (text : List Char) : List Char :=
  ((text.dropWhile isSpace).reverse.takeWhile isSpace).reverse

theorem trimSpace_append_trailing (text : List Char) :
    trimSpace text ++ trailing text = text.dropWhile isSpace := by
  rw [trimSpace, trailing, ← List.reverse_append, List.takeWhile_append_dropWhile,
    List.reverse_reverse]

theorem trimSpace_starts (text : List Char) :
    ∀ c ∈ (trimSpace text).head?, isSpace c = false := by
  intro c first
  have nonspace := List.head?_dropWhile_not isSpace text
  rw [← trimSpace_append_trailing, List.head?_append, first, Option.some_or] at nonspace
  simpa using nonspace

theorem exists_trimSpace (text : List Char) :
    ∃ front back, text = front ++ (trimSpace text ++ back) ∧
      (∀ c ∈ front, isSpace c = true) ∧ ∀ c ∈ back, isSpace c = true := by
  refine ⟨text.takeWhile isSpace, trailing text, ?_, fun c => List.mem_takeWhile_imp, ?_⟩
  · rw [trimSpace_append_trailing, List.takeWhile_append_dropWhile]
  · intro c member
    exact List.mem_takeWhile_imp (List.mem_reverse.mp member)

/-- Spaces cut off at either end do not show after both ends are trimmed. -/
theorem trimSpace_dropWhile (text : List Char) :
    trimSpace (text.dropWhile isSpace) = trimSpace text := by
  rw [trimSpace, List.dropWhile_idempotent]
  rfl

theorem trimSpace_reverse_dropWhile (text : List Char) :
    trimSpace (text.reverse.dropWhile isSpace).reverse = trimSpace text := by
  obtain ⟨front, back, split, frontSpace, backSpace⟩ := exists_trimSpace text
  have starts := trimSpace_starts text
  have ends := trimSpace_ends text
  by_cases empty : trimSpace text = []
  · have blank : ∀ c ∈ text, isSpace c = true := by
      rw [split, empty, List.nil_append]
      exact fun c member => (List.mem_append.mp member).elim (frontSpace c) (backSpace c)
    rw [List.dropWhile_eq_nil_iff.mpr (by simpa using blank), empty]
    rfl
  · have first : ∀ c ∈ ((trimSpace text).reverse ++ front.reverse).head?,
        isSpace c = false := by
      rw [List.head?_append_of_ne_nil _ (by simpa using empty), List.head?_reverse]
      exact ends
    have cut : (text.reverse.dropWhile isSpace).reverse =
        front ++ (trimSpace text ++ []) := by
      conv_lhs => rw [split]
      rw [List.reverse_append, List.reverse_append, List.append_assoc,
        dropWhile_blank (by simpa using backSpace) first, List.reverse_append,
        List.reverse_reverse, List.reverse_reverse, List.append_nil]
    rw [cut, trimSpace_blank frontSpace (by simp) empty starts ends]

theorem unixLines_drop {text : List Char} (next : text.head? = some '\n') :
    unixLines ('\r' :: text) = unixLines text :=
  if_pos ⟨rfl, next⟩

theorem unixLines_keep {c : Char} {text : List Char}
    (kept : ¬ (c = '\r' ∧ text.head? = some '\n')) :
    unixLines (c :: text) = c :: unixLines text :=
  if_neg kept

theorem unixLines_append {front back : List Char}
    (apart : front.getLast? ≠ some '\r' ∨ back.head? ≠ some '\n') :
    unixLines (front ++ back) = unixLines front ++ unixLines back := by
  induction front with
  | nil => rfl
  | cons c front induction =>
      cases front with
      | nil =>
          have kept : ¬ (c = '\r' ∧ back.head? = some '\n') := by
            rintro ⟨rfl, first⟩
            exact apart.elim (· rfl) (· first)
          have alone : ¬ (c = '\r' ∧ ([] : List Char).head? = some '\n') := by simp
          rw [List.singleton_append, unixLines_keep kept, unixLines_keep alone]
          rfl
      | cons d front =>
          have rest := induction (by simpa [List.getLast?_cons_cons] using apart)
          by_cases dropped : c = '\r' ∧ d = '\n'
          · obtain ⟨rfl, rfl⟩ := dropped
            rw [List.cons_append, unixLines_drop (by rfl), unixLines_drop (by rfl), rest]
          · rw [List.cons_append, unixLines_keep (by simpa using dropped),
              unixLines_keep (by simpa using dropped), rest]
            rfl

theorem unixLines_sublist (text : List Char) : (unixLines text).Sublist text := by
  induction text with
  | nil => exact List.Sublist.refl _
  | cons c text induction =>
      by_cases dropped : c = '\r' ∧ text.head? = some '\n'
      · obtain ⟨rfl, next⟩ := dropped
        rw [unixLines_drop next]
        exact induction.cons '\r'
      · rw [unixLines_keep dropped]
        exact induction.cons_cons c

theorem newline_mem_unixLines {text : List Char} (member : '\n' ∈ text) :
    '\n' ∈ unixLines text := by
  induction text with
  | nil => cases member
  | cons c text induction =>
      by_cases dropped : c = '\r' ∧ text.head? = some '\n'
      · obtain ⟨rfl, next⟩ := dropped
        rw [unixLines_drop next]
        exact induction (List.mem_of_mem_head? next)
      · rw [unixLines_keep dropped]
        rcases List.mem_cons.mp member with rfl | later
        · exact List.mem_cons_self
        · exact List.mem_cons_of_mem c (induction later)

theorem trimSpace_unixLines (text : List Char) :
    trimSpace (unixLines text) = unixLines (trimSpace text) := by
  obtain ⟨front, back, split, frontSpace, backSpace⟩ := exists_trimSpace text
  have starts := trimSpace_starts text
  have ends := trimSpace_ends text
  generalize trimSpace text = core at split starts ends
  subst split
  have blank : ∀ {part : List Char}, (∀ c ∈ part, isSpace c = true) →
      ∀ c ∈ unixLines part, isSpace c = true := fun space c member =>
    space c ((unixLines_sublist _).subset member)
  cases core with
  | nil =>
      have space : ∀ c ∈ unixLines (front ++ ([] ++ back)), isSpace c = true :=
        blank fun c member =>
          (List.mem_append.mp member).elim (frontSpace c) (backSpace c)
      rw [trimSpace, List.dropWhile_eq_nil_iff.mpr space]
      rfl
  | cons c core =>
      have solid := starts c rfl
      have notReturn : c ≠ '\r' := by
        rintro rfl
        exact absurd solid (by decide)
      have notNewline : c ≠ '\n' := by
        rintro rfl
        exact absurd solid (by decide)
      have first : unixLines (c :: core) = c :: unixLines core :=
        unixLines_keep fun dropped => notReturn dropped.1
      have closed : (c :: core).getLast? ≠ some '\r' := fun last =>
        absurd (ends _ last) (by decide)
      have parts : unixLines (front ++ (c :: core ++ back)) =
          unixLines front ++ (unixLines (c :: core) ++ unixLines back) := by
        rw [unixLines_append (.inr (by simpa using notNewline)),
          unixLines_append (.inl closed)]
      have last : ∀ d ∈ (unixLines (c :: core)).getLast?, isSpace d = false := by
        obtain ⟨init, d, whole⟩ :=
          (List.eq_nil_or_concat (c :: core)).resolve_left (List.cons_ne_nil c core)
        rw [List.concat_eq_append] at whole
        rw [whole] at ends ⊢
        have solid := ends d List.getLast?_concat
        have apart : d ≠ '\n' := by
          rintro rfl
          exact absurd solid (by decide)
        have alone : unixLines [d] = [d] := unixLines_keep (by simp)
        rw [unixLines_append (.inr (by simpa using apart)), alone]
        intro e same
        rw [List.getLast?_concat] at same
        exact Option.some.inj same ▸ solid
      rw [parts]
      exact trimSpace_blank (blank frontSpace) (blank backSpace) (by simp [first])
        (by simpa [first] using solid) last

theorem unixLines_of_absent {text : List Char} (absent : ∀ c ∈ text, c ≠ '\n') :
    unixLines text = text := by
  induction text with
  | nil => rfl
  | cons c text induction =>
      have kept : ¬ (c = '\r' ∧ text.head? = some '\n') := by
        rintro ⟨-, first⟩
        exact absent '\n' (List.mem_cons_of_mem c (List.mem_of_mem_head? first)) rfl
      rw [unixLines_keep kept,
        induction fun d member => absent d (List.mem_cons_of_mem c member)]

/-- A word at the start of a text, up to the first space, is its first field. -/
theorem fields_word {word : List Char} (nonempty : word ≠ [])
    (solid : word.all (!isSpace ·) = true) {sep : Char}
    (space : isSpace sep = true) (rest : List Char) :
    fields (word ++ sep :: rest) = word :: fields rest := by
  rw [fields, List.splitOnP_append_cons_of_forall_mem (by simpa using solid) sep
      space,
    List.filter_cons_of_pos (by simpa using nonempty)]
  rfl

theorem head?_fields (word after : List Char) {text : List Char}
    (nonempty : word ≠ []) (solid : word.all (!isSpace ·) = true)
    (starts : word ++ ' ' :: after <+: text) :
    (fields text).head? = some word := by
  obtain ⟨rest, rfl⟩ := starts
  rw [List.append_assoc, List.cons_append,
    fields_word nonempty solid (by decide)]
  rfl

theorem fields_append_space (front back : List Char) {sep : Char}
    (space : isSpace sep = true) :
    fields (front ++ sep :: back) = fields front ++ fields back := by
  rw [fields, List.splitOnP_append_cons front back space, List.filter_append]
  rfl

theorem fields_space_cons {sep : Char} (space : isSpace sep = true)
    (text : List Char) : fields (sep :: text) = fields text :=
  fields_append_space [] text space

theorem fields_blank {text : List Char} (blank : ∀ c ∈ text, isSpace c = true) :
    fields text = [] := by
  induction text with
  | nil => rfl
  | cons c text induction =>
      rw [fields_space_cons (blank c List.mem_cons_self)]
      exact induction fun d member => blank d (List.mem_cons_of_mem c member)

theorem fields_word_append {word rest : List Char} (nonempty : word ≠ [])
    (solid : word.all (!isSpace ·) = true)
    (stops : ∀ c ∈ rest.head?, isSpace c = true) :
    fields (word ++ rest) = word :: fields rest := by
  cases rest with
  | nil =>
      -- A text that ends with the word is read as if a space came after it.
      have spaced : fields (word ++ [' ']) = word :: fields [] :=
        fields_word nonempty solid (by decide) []
      rw [fields_append_space word [] (by decide)] at spaced
      rw [List.append_nil]
      exact (List.append_nil _).symm.trans spaced
  | cons c rest =>
      rw [fields_word nonempty solid (stops c rfl), fields_space_cons (stops c rfl)]

/-- Words after one space each, and blanks at the end. -/
theorem fields_words {words : List (List Char)} {ending : List Char}
    (solid : ∀ word ∈ words, word ≠ [] ∧ word.all (!isSpace ·) = true)
    (blank : ∀ c ∈ ending, isSpace c = true) :
    fields (words.flatMap (' ' :: ·) ++ ending) = words := by
  induction words with
  | nil => exact fields_blank blank
  | cons word words induction =>
      have rest := induction fun other member =>
        solid other (List.mem_cons_of_mem word member)
      have stops : ∀ c ∈ (words.flatMap (' ' :: ·) ++ ending).head?,
          isSpace c = true := by
        cases words with
        | nil => exact fun c first => blank c (List.mem_of_mem_head? first)
        | cons other words =>
            intro c first
            obtain rfl : ' ' = c := Option.some.inj first
            decide
      obtain ⟨nonempty, dense⟩ := solid word List.mem_cons_self
      rw [List.flatMap_cons, List.cons_append, List.cons_append,
        fields_space_cons (by decide), List.append_assoc,
        fields_word_append nonempty dense stops, rest]

theorem space_cons_intercalate (word : List Char) (words : List (List Char)) :
    ' ' :: [' '].intercalate (word :: words) = (word :: words).flatMap (' ' :: ·) := by
  induction words generalizing word with
  | nil => simp [List.intercalate]
  | cons other words induction =>
      rw [List.flatMap_cons, ← induction other]
      simp [List.intercalate]

theorem fields_intercalate {words : List (List Char)}
    (solid : ∀ word ∈ words, word ≠ [] ∧ word.all (!isSpace ·) = true) :
    fields ([' '].intercalate words) = words := by
  cases words with
  | nil => rfl
  | cons word words =>
      have spaced : isSpace ' ' = true := by decide
      rw [← fields_space_cons spaced, space_cons_intercalate,
        ← List.append_nil (List.flatMap _ _)]
      exact fields_words solid (by simp)

theorem length_fields_drop_one (text : List Char) :
    (fields (text.drop 1)).length ≤ (fields text).length := by
  cases text with
  | nil => exact le_rfl
  | cons c text =>
      by_cases space : isSpace c = true
      · rw [fields_space_cons space]
        exact le_rfl
      · obtain ⟨word, words, split⟩ :=
          List.exists_cons_of_ne_nil (List.splitOnP_ne_nil isSpace text)
        simp only [fields, List.drop_succ_cons, List.drop_zero,
          List.splitOnP_cons_eq_if_modifyHead, if_neg space, split, List.modifyHead_cons,
          List.filter_cons]
        split <;> simp

theorem fields_dropWhile (text : List Char) :
    fields (text.dropWhile isSpace) = fields text := by
  induction text with
  | nil => rfl
  | cons c text induction =>
      rw [List.dropWhile_cons]
      split
      next space => exact induction.trans (fields_space_cons space text).symm
      next => rfl

theorem fields_reverse_dropWhile (text : List Char) :
    fields (text.reverse.dropWhile isSpace).reverse = fields text := by
  induction text using List.reverseRecOn with
  | nil => rfl
  | append_singleton text c induction =>
      rw [List.reverse_append, List.reverse_singleton, List.singleton_append,
        List.dropWhile_cons]
      split
      next space =>
        rw [induction, fields_append_space text [] space]
        exact (List.append_nil _).symm
      next => rw [List.reverse_cons, List.reverse_reverse]

theorem fields_trimSpace (text : List Char) :
    fields (trimSpace text) = fields text := by
  rw [trimSpace, fields_reverse_dropWhile, fields_dropWhile]

theorem cutLast?_of_absent {sep : Char} {text : List Char}
    (absent : ∀ c ∈ text, c ≠ sep) : cutLast? sep text = none := by
  induction text with
  | nil => rfl
  | cons c text induction =>
      rw [cutLast?, induction fun d member => absent d (by simp [member])]
      exact if_neg (absent c (by simp))

theorem cutLast?_append {sep : Char} (front : List Char) {back : List Char}
    (absent : ∀ c ∈ back, c ≠ sep) :
    cutLast? sep (front ++ sep :: back) = some (front, back) := by
  induction front with
  | nil => simp [cutLast?, cutLast?_of_absent absent]
  | cons c front induction => simp [cutLast?, induction]

theorem absent_of_cutLast?_eq_none {sep : Char} {text : List Char}
    (cut : cutLast? sep text = none) : ∀ c ∈ text, c ≠ sep := by
  induction text with
  | nil => simp
  | cons c text induction =>
      rw [cutLast?] at cut
      cases rest : cutLast? sep text with
      | some parts => simp [rest] at cut
      | none =>
          rw [rest] at cut
          intro d member
          rcases List.mem_cons.mp member with rfl | member
          · rintro rfl
            simp at cut
          · exact induction rest d member

theorem cutLast?_eq_some {sep : Char} {text front back : List Char}
    (cut : cutLast? sep text = some (front, back)) :
    text = front ++ sep :: back ∧ ∀ c ∈ back, c ≠ sep := by
  induction text generalizing front with
  | nil => cases cut
  | cons c text induction =>
      rw [cutLast?] at cut
      cases rest : cutLast? sep text with
      | some parts =>
          rw [rest] at cut
          obtain ⟨rfl, rfl⟩ := Prod.mk.inj (Option.some.inj cut)
          obtain ⟨same, absent⟩ := induction rest
          exact ⟨congrArg (c :: ·) same, absent⟩
      | none =>
          rw [rest] at cut
          obtain ⟨rfl, made⟩ := Option.ite_none_right_eq_some.mp cut
          obtain ⟨rfl, rfl⟩ := Prod.mk.inj (Option.some.inj made)
          exact ⟨rfl, absent_of_cutLast?_eq_none rest⟩

theorem toString_ne_of_not_digit {sep : Char} (other : sep.isDigit = false)
    {n : Nat} : ∀ c ∈ (toString n).toList, c ≠ sep := by
  intro c member
  rw [Nat.toString_eq_repr, Nat.toList_repr] at member
  have digit := Nat.isDigit_of_mem_toDigits (by decide) (by decide) member
  rintro rfl
  simp [other] at digit

theorem toList_toString_inj {n m : Nat}
    (same : (toString n).toList = (toString m).toList) : n = m := by
  rw [Nat.toString_eq_repr, Nat.toString_eq_repr, Nat.toList_repr,
    Nat.toList_repr] at same
  rw [← Nat.ofDigitChars_ten_toDigits (n := n), same,
    Nat.ofDigitChars_ten_toDigits]

/-- `strconv.ParseUint` in base ten. -/
def parseUint? (bits : Nat) (text : List Char) : Option Nat :=
  (digits? text).filter fun value => value < 2 ^ bits

theorem parseUint?_of_not_digit {bits : Nat} {text : List Char} {c : Char}
    (member : c ∈ text) (other : c.isDigit = false) :
    parseUint? bits text = none := by
  have mixed : text.all Char.isDigit = false :=
    List.all_eq_false.mpr ⟨c, member, by simp [other]⟩
  rw [parseUint?, digits?, mixed, if_pos (by simp)]
  rfl

/-- A number as `%d` prints it. -/
def numeral (n : Nat) : List Char := (toString n).toList

theorem numeral_eq (n : Nat) : numeral n = Nat.toDigits 10 n := by
  rw [numeral, Nat.toString_eq_repr, Nat.toList_repr]

theorem numeral_ne_nil (n : Nat) : numeral n ≠ [] := by
  rw [numeral_eq]
  exact Nat.toDigits_ne_nil

theorem isDigit_of_mem_numeral {n : Nat} {c : Char} (member : c ∈ numeral n) :
    c.isDigit = true := by
  rw [numeral_eq] at member
  exact Nat.isDigit_of_mem_toDigits (by decide) (by decide) member

theorem isSpace_of_isDigit {c : Char} (digit : c.isDigit = true) :
    isSpace c = false := by
  have bounds : 48 ≤ c.toNat ∧ c.toNat ≤ 57 := by
    simpa [Char.isDigit, UInt32.le_iff_toNat_le] using digit
  simp [isSpace]
  omega

theorem solid_numeral (n : Nat) : (numeral n).all (!isSpace ·) = true := by
  rw [List.all_eq_true]
  intro c member
  rw [isSpace_of_isDigit (isDigit_of_mem_numeral member)]
  rfl

theorem digits?_numeral (n : Nat) : digits? (numeral n) = some n := by
  have nonempty : (numeral n).isEmpty = false := by
    simp [List.isEmpty_eq_false_iff, numeral_ne_nil]
  have decimal : (numeral n).all Char.isDigit = true := by
    rw [List.all_eq_true]
    exact fun c => isDigit_of_mem_numeral
  rw [digits?, nonempty, decimal, numeral_eq]
  exact congrArg some Nat.ofDigitChars_ten_toDigits

theorem parseUint?_numeral {bits n : Nat} (small : n < 2 ^ bits) :
    parseUint? bits (numeral n) = some n := by
  rw [parseUint?, digits?_numeral, Option.filter_some,
    if_pos (decide_eq_true small)]

/-- `strconv.Itoa`. -/
def itoa (n : Int) : List Char := (toString n).toList

theorem itoa_negSucc (n : Nat) : itoa (Int.negSucc n) = '-' :: numeral (n + 1) := by
  change ("-" ++ toString (n + 1)).toList = _
  rw [String.toList_append]
  rfl

theorem itoa_ne_nil (n : Int) : itoa n ≠ [] := by
  cases n with
  | ofNat n => exact numeral_ne_nil n
  | negSucc n => simp [itoa_negSucc]

theorem solid_itoa (n : Int) : (itoa n).all (!isSpace ·) = true := by
  cases n with
  | ofNat n => exact solid_numeral n
  | negSucc n =>
      rw [itoa_negSucc, List.all_cons, solid_numeral]
      decide

/-- `strconv.Atoi` where `int` has 64 bits. -/
def atoi? (text : List Char) : Option Int :=
  match text with
  | '-' :: rest =>
      ((digits? rest).filter fun value => value ≤ 2 ^ 63).map fun value =>
        -(value : Int)
  | '+' :: rest =>
      ((digits? rest).filter fun value => value < 2 ^ 63).map fun value =>
        (value : Int)
  | _ =>
      ((digits? text).filter fun value => value < 2 ^ 63).map fun value =>
        (value : Int)

theorem atoi?_itoa {n : Int} (lower : -2 ^ 63 ≤ n) (upper : n < 2 ^ 63) :
    atoi? (itoa n) = some n := by
  cases n with
  | ofNat n =>
      have small : n < 2 ^ 63 := Int.ofNat_lt.mp upper
      have decimal : ∀ c ∈ (numeral n).head?, c.isDigit = true := fun c first =>
        isDigit_of_mem_numeral (List.mem_of_mem_head? first)
      change atoi? (numeral n) = some (n : Int)
      unfold atoi?
      split
      next text =>
        exact absurd (decimal '-' (by rw [text]; rfl)) (by decide)
      next text =>
        exact absurd (decimal '+' (by rw [text]; rfl)) (by decide)
      next =>
        rw [digits?_numeral, Option.filter_some, if_pos (decide_eq_true small)]
        rfl
  | negSucc n =>
      have small : n + 1 ≤ 2 ^ 63 := by omega
      rw [itoa_negSucc, atoi?, digits?_numeral, Option.filter_some,
        if_pos (decide_eq_true small)]
      rfl

/-- What `strconv.ParseUint` returns beside its error: nothing of use at a
character that is no digit, and the largest value as soon as the number is out of
range. -/
def scanUint? (acc : Nat) : List Char → Option Nat
  | [] => some acc
  | c :: text =>
      if !c.isDigit then none
      else
        let next := 10 * acc + (c.toNat - '0'.toNat)
        if next < 2 ^ 64 then scanUint? next text else some (2 ^ 64 - 1)

/-- What `strconv.Atoi` returns beside its error: zero where the text is not a
number, and the nearest value where the number is out of range. -/
def atoiValue (text : List Char) : Int :=
  match text with
  | '-' :: rest => max (-2 ^ 63) (-((scanUint? 0 rest).getD 0 : Int))
  | '+' :: rest => min (2 ^ 63 - 1) ((scanUint? 0 rest).getD 0 : Int)
  | _ => min (2 ^ 63 - 1) ((scanUint? 0 text).getD 0 : Int)

example : atoiValue "-99999999999999999999".toList = -2 ^ 63 := by decide

def hexDigit? (c : Char) : Option Nat :=
  if c.isDigit then some (c.toNat - '0'.toNat)
  else if 'a' ≤ c && c ≤ 'f' then some (c.toNat - 'a'.toNat + 10)
  else if 'A' ≤ c && c ≤ 'F' then some (c.toNat - 'A'.toNat + 10)
  else none

def hexDigits? (text : List Char) : Option Nat :=
  if text.isEmpty then none
  else (text.mapM hexDigit?).map (List.foldl (fun acc d => 16 * acc + d) 0)

/-- `strconv.ParseInt` in base sixteen. -/
def parseHexInt? (bits : Nat) (text : List Char) : Option Int :=
  match text with
  | '-' :: rest =>
      ((hexDigits? rest).filter fun value => value ≤ 2 ^ (bits - 1)).map
        fun value => -(value : Int)
  | '+' :: rest =>
      ((hexDigits? rest).filter fun value => value < 2 ^ (bits - 1)).map
        fun value => (value : Int)
  | _ =>
      ((hexDigits? text).filter fun value => value < 2 ^ (bits - 1)).map
        fun value => (value : Int)

end Text

end KubevirtMetrics.Data
