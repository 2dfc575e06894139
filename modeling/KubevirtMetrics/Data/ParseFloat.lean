import KubevirtMetrics.Data.Binary64
import KubevirtMetrics.Data.Text
import Mathlib.Data.List.TakeWhile

namespace KubevirtMetrics.Data

/-! `strconv.ParseFloat` with 64 bits. -/

namespace Text

/-- An optional sign: whether it is a minus, and the rest. -/
def readSign : List Char → Bool × List Char
  | '-' :: text => (true, text)
  | '+' :: text => (false, text)
  | text => (false, text)

def special? (text : List Char) : Option Float64 :=
  if text.map Char.toLower = "nan".toList then some .nan
  else
    let rest := (readSign text).2.map Char.toLower
    if rest = "inf".toList ∨ rest = "infinity".toList then
      some (.infinite (readSign text).1)
    else none

def isFloatDigit (hex : Bool) (c : Char) : Bool :=
  c.isDigit || (hex && 'a' ≤ c.toLower && c.toLower ≤ 'f')

def floatDigit (c : Char) : Nat :=
  if c.isDigit then c.toNat - '0'.toNat else c.toLower.toNat - 'a'.toNat + 10

/-- The longest front part with digits, underscores and at most one dot. -/
def spanMantissa (hex : Bool) : Bool → List Char → List Char × List Char
  | _, [] => ([], [])
  | sawDot, c :: text =>
      if c = '_' || isFloatDigit hex c then
        let parts := spanMantissa hex sawDot text
        (c :: parts.1, parts.2)
      else if c = '.' && !sawDot then
        let parts := spanMantissa hex true text
        (c :: parts.1, parts.2)
      else ([], c :: text)

/-- The exponent part that starts with `marker`, and what follows it.  An
exponent stops growing at ten thousand. -/
def readExponent? (marker : Char) (text : List Char) :
    Option (Option Int × List Char) :=
  match text with
  | [] => some (none, [])
  | c :: rest =>
      if c.toLower = marker then
        let (negative, rest) := readSign rest
        if (rest.head?.map Char.isDigit).getD false then
          let digits := rest.takeWhile fun c => c.isDigit || c = '_'
          let e := (digits.filter (· ≠ '_')).foldl (fun (e : Nat) c =>
            if e < 10000 then 10 * e + floatDigit c else e) 0
          some (some (if negative then -(e : Int) else e),
            rest.drop digits.length)
        else none
      else some (none, text)

/-- The last character that `underscoreOK` has seen, as far as it matters. -/
inductive Saw
  | digit
  | underscore
  | other

def underscoresOK (hex : Bool) : Saw → List Char → Bool
  | .underscore, [] => false
  | _, [] => true
  | saw, c :: text =>
      if isFloatDigit hex c then underscoresOK hex .digit text
      else if c = '_' then
        match saw with
        | .digit => underscoresOK hex .underscore text
        | _ => false
      else
        match saw with
        | .underscore => false
        | _ => underscoresOK hex .other text

/-- Whether each underscore stands between digits; a base prefix counts as a
digit. -/
def underscoreOK (text : List Char) : Bool :=
  match (readSign text).2 with
  | '0' :: c :: rest =>
      if c.toLower = 'x' then underscoresOK true .digit rest
      else if c.toLower = 'b' ∨ c.toLower = 'o' then
        underscoresOK false .digit rest
      else underscoresOK false .other ('0' :: c :: rest)
  | rest => underscoresOK false .other rest

/-- Whether a number is in hexadecimal notation, and what follows the prefix
that says so. -/
def readHex : List Char → Bool × List Char
  | '0' :: x :: c :: rest =>
      if x.toLower = 'x' then (true, c :: rest)
      else (false, '0' :: x :: c :: rest)
  | body => (false, body)

/-- The number that a text in decimal or hexadecimal notation stands for. -/
def readFloat? (text : List Char) : Option ℚ :=
  let (negative, body) := readSign text
  let (hex, body) := readHex body
  let base := if hex then 16 else 10
  let (mantissa, rest) := spanMantissa hex false body
  let digits := mantissa.filter (isFloatDigit hex)
  if digits.isEmpty then none
  else
    match readExponent? (if hex then 'p' else 'e') rest with
    | none => none
    | some (exponent?, rest) =>
        if hex && exponent?.isNone then none
        else if !rest.isEmpty then none
        else if text.contains '_' && !underscoreOK text then none
        else
          let value := digits.foldl (fun (acc : Nat) c =>
            base * acc + floatDigit c) 0
          let fraction :=
            ((mantissa.dropWhile (· ≠ '.')).filter (isFloatDigit hex)).length
          let exponent := exponent?.getD 0
          let scale : ℚ := if hex then 2 ^ exponent else 10 ^ exponent
          let magnitude := (value : ℚ) / base ^ fraction * scale
          some (if negative then -magnitude else magnitude)

/-- Absent where `ParseFloat` returns an error: a number that rounds to an
infinite one is out of range. -/
def parseFloat? (text : List Char) : Option Float64 :=
  match special? text with
  | some x => some x
  | none =>
      match readFloat? text with
      | none => none
      | some q =>
          match Float64.ofRat q with
          | .infinite _ => none
          | x => some x

/-! ### Integers -/

theorem digits?_eq_some {text : List Char} {value : Nat}
    (read : digits? text = some value) :
    text ≠ [] ∧ (∀ c ∈ text, c.isDigit = true) ∧
      value = text.foldl (fun acc c => 10 * acc + (c.toNat - '0'.toNat)) 0 := by
  unfold digits? at read
  split at read
  next => cases read
  next accepted =>
    simp only [Bool.or_eq_true, Bool.not_eq_true', not_or,
      Bool.not_eq_false, List.all_eq_true, List.isEmpty_iff] at accepted
    exact ⟨accepted.1, accepted.2, (Option.some.inj read).symm⟩

theorem atoi?_eq_some {text : List Char} {n : Int} (read : atoi? text = some n) :
    ∃ value, digits? (readSign text).2 = some value ∧ value ≤ 2 ^ 63 ∧
      n = if (readSign text).1 then -(value : Int) else value := by
  unfold atoi? at read
  split at read
  next rest =>
    simp only [Option.pure_def, Option.bind_eq_bind, Option.map_eq_some_iff,
      Option.bind_eq_some_iff, Option.filter_eq_some_iff,
      decide_eq_true_eq] at read
    obtain ⟨_, ⟨value, ⟨found, bounded⟩, same⟩, rfl⟩ := read
    exact ⟨value, found, bounded, by rw [← Option.some.inj same]; rfl⟩
  next rest =>
    simp only [Option.pure_def, Option.bind_eq_bind, Option.map_eq_some_iff,
      Option.bind_eq_some_iff, Option.filter_eq_some_iff,
      decide_eq_true_eq] at read
    obtain ⟨_, ⟨value, ⟨found, bounded⟩, same⟩, rfl⟩ := read
    exact ⟨value, found, bounded.le, by rw [← Option.some.inj same]; rfl⟩
  next noMinus noPlus =>
    have unsigned : readSign text = (false, text) := by
      unfold readSign
      split
      next rest => exact absurd rfl (noMinus rest)
      next rest => exact absurd rfl (noPlus rest)
      next => rfl
    simp only [Option.pure_def, Option.bind_eq_bind, Option.map_eq_some_iff,
      Option.bind_eq_some_iff, Option.filter_eq_some_iff,
      decide_eq_true_eq] at read
    obtain ⟨_, ⟨value, ⟨found, bounded⟩, same⟩, rfl⟩ := read
    rw [unsigned]
    exact ⟨value, found, bounded.le, by rw [← Option.some.inj same]; rfl⟩

theorem readSign_cases (text : List Char) :
    text = (readSign text).2 ∨ text = '-' :: (readSign text).2 ∨
      text = '+' :: (readSign text).2 := by
  unfold readSign
  split
  next => exact .inr (.inl rfl)
  next => exact .inr (.inr rfl)
  next => exact .inl rfl

theorem spanMantissa_digits {text : List Char}
    (digits : ∀ c ∈ text, c.isDigit = true) (sawDot : Bool) :
    spanMantissa false sawDot text = (text, []) := by
  induction text with
  | nil => rfl
  | cons c text induction =>
      have rest := induction fun d member => digits d (by simp [member])
      simp [spanMantissa, isFloatDigit, digits c (by simp), rest]

theorem toLower_of_isDigit {c : Char} (digit : c.isDigit = true) :
    c.toLower = c := by
  have below : c.toNat ≤ 57 := by
    simp only [Char.isDigit, Bool.and_eq_true, decide_eq_true_eq] at digit
    exact digit.2
  unfold Char.toLower
  apply dif_neg
  rintro ⟨above, -⟩
  have above' : 65 ≤ c.toNat := above
  omega

theorem readHex_digits {text : List Char}
    (digits : ∀ c ∈ text, c.isDigit = true) : readHex text = (false, text) := by
  unfold readHex
  split
  next x c rest =>
    apply if_neg
    have digit := digits x (by simp)
    rw [toLower_of_isDigit digit]
    rintro rfl
    cases digit
  next => rfl

theorem floatDigit_of_isDigit {c : Char} (digit : c.isDigit = true) :
    floatDigit c = c.toNat - '0'.toNat :=
  if_pos digit

theorem mem_of_mem_readSign {text : List Char} {c : Char}
    (member : c ∈ (readSign text).2) : c ∈ text := by
  rcases readSign_cases text with same | same | same
  · rw [same]
    exact member
  · rw [same]
    exact List.mem_cons_of_mem _ member
  · rw [same]
    exact List.mem_cons_of_mem _ member

section Integers

variable {text : List Char} (nonempty : (readSign text).2 ≠ [])
  (digits : ∀ c ∈ (readSign text).2, c.isDigit = true)
include nonempty digits

theorem special?_of_digits : special? text = none := by
  obtain ⟨c, member⟩ := List.exists_mem_of_ne_nil _ nonempty
  have digit := digits c member
  have lowered {word : List Char} {rest : List Char} (inside : c ∈ rest)
      (same : rest.map Char.toLower = word) : c ∈ word := by
    rw [← same, ← toLower_of_isDigit digit]
    exact List.mem_map_of_mem inside
  have apart : ∀ word ∈ ["nan".toList, "inf".toList, "infinity".toList],
      c ∉ word := by
    intro word known inside
    have letters : ∀ word ∈ ["nan".toList, "inf".toList, "infinity".toList],
        ∀ d ∈ word, d.isDigit = false := by simp
    rw [letters word known c inside] at digit
    cases digit
  unfold special?
  rw [if_neg fun same =>
    apart _ (by simp) (lowered (mem_of_mem_readSign member) same)]
  refine if_neg ?_
  rintro (same | same)
  · exact apart _ (by simp) (lowered member same)
  · exact apart _ (by simp) (lowered member same)

theorem readFloat?_of_digits :
    readFloat? text =
      let value := (readSign text).2.foldl (fun acc c =>
        10 * acc + (c.toNat - '0'.toNat)) 0
      some (if (readSign text).1 then -(value : ℚ) else value) := by
  have noUnderscore : text.contains '_' = false := by
    rw [List.contains_eq_mem, decide_eq_false_iff_not]
    have absent : '_' ∉ (readSign text).2 := fun member =>
      absurd (digits _ member) (by decide)
    rcases readSign_cases text with same | same | same
    · rw [same]
      exact absent
    · rw [same]
      simpa using absent
    · rw [same]
      simpa using absent
  have noDot : (readSign text).2.dropWhile (· ≠ '.') = [] := by
    rw [List.dropWhile_eq_nil_iff]
    intro c member
    rw [decide_eq_true_eq]
    rintro rfl
    exact absurd (digits _ member) (by decide)
  have kept : (readSign text).2.filter (isFloatDigit false) =
      (readSign text).2 := by
    rw [List.filter_eq_self]
    intro c member
    simp [isFloatDigit, digits c member]
  have values : (readSign text).2.foldl (fun (acc : Nat) c =>
        10 * acc + floatDigit c) 0 =
      (readSign text).2.foldl (fun acc c =>
        10 * acc + (c.toNat - '0'.toNat)) 0 := by
    apply List.foldl_ext
    intro acc c member
    rw [floatDigit_of_isDigit (digits c member)]
  unfold readFloat?
  simp only [readHex_digits digits, spanMantissa_digits digits, kept, noDot,
    noUnderscore]
  simp [readExponent?, nonempty, values]

end Integers

theorem readSign_numeral (n : Nat) : readSign (numeral n) = (false, numeral n) := by
  obtain ⟨c, rest, same⟩ := List.exists_cons_of_ne_nil (numeral_ne_nil n)
  have digit : c.isDigit = true :=
    isDigit_of_mem_numeral (n := n) (same ▸ List.mem_cons_self)
  rw [same]
  unfold readSign
  split
  next signed =>
    obtain ⟨rfl, -⟩ := List.cons.inj signed
    exact absurd digit (by decide)
  next signed =>
    obtain ⟨rfl, -⟩ := List.cons.inj signed
    exact absurd digit (by decide)
  next => rfl

theorem readFloat?_signed {text : List Char} {negative : Bool} {n : Nat}
    (signed : readSign text = (negative, numeral n)) :
    readFloat? text = some (if negative then -(n : ℚ) else n) := by
  obtain ⟨nonempty, digits, value⟩ := digits?_eq_some (digits?_numeral n)
  have read := @readFloat?_of_digits text (by rwa [signed]) (by rwa [signed])
  rw [read, signed]
  dsimp only
  rw [← value]

theorem readFloat?_itoa (m : Int) : readFloat? (itoa m) = some (m : ℚ) := by
  cases m with
  | ofNat n => exact readFloat?_signed (readSign_numeral n)
  | negSucc n =>
      rw [itoa_negSucc, @readFloat?_signed _ true (n + 1) rfl]
      simp

/-- Where `ParseInt` reads an integer, `ParseFloat` reads the float next to
it. -/
theorem parseFloat?_of_atoi? {text : List Char} {n : Int}
    (read : atoi? text = some n) :
    parseFloat? text = some (.finite (Binary64.round n)) ∧
      Float64.ofRat n = .finite (Binary64.round n) := by
  obtain ⟨value, found, bounded, rfl⟩ := atoi?_eq_some read
  obtain ⟨nonempty, digits, valueEq⟩ := digits?_eq_some found
  have signed : (((if (readSign text).1 then -(value : Int) else value) : Int) : ℚ) =
      if (readSign text).1 then -(value : ℚ) else value := by
    split
    next => push_cast; rfl
    next => rfl
  have small : |(if (readSign text).1 then -(value : ℚ) else value)| ≤
      2 ^ (63 : ℤ) := by
    have magnitude : |(if (readSign text).1 then -(value : ℚ) else value)| =
        value := by
      split
      next => rw [abs_neg, Nat.abs_cast]
      next => rw [Nat.abs_cast]
    rw [magnitude]
    exact_mod_cast bounded
  have finite := Float64.ofRat_eq_finite small
  have number := readFloat?_of_digits nonempty digits
  rw [← valueEq] at number
  rw [signed]
  refine ⟨?_, finite⟩
  simp only [parseFloat?, special?_of_digits nonempty digits, number, finite]

end Text

end KubevirtMetrics.Data
