import Mathlib.Tactic
import KubevirtMetrics.Data.Text

namespace KubevirtMetrics.Data

/-! JSON texts: their values, a reader, and every way to write a value. -/

/-! ### Numbers -/

namespace Numeral

def takeDigits (text : List Char) : List Char × List Char :=
  (text.takeWhile Char.isDigit, text.dropWhile Char.isDigit)

def takeSign : List Char → List Char × List Char
  | [] => ([], [])
  | c :: rest => if c = '-' then (['-'], rest) else ([], c :: rest)

/-- No digit follows a leading zero. -/
def takeWhole : List Char → Option (List Char × List Char)
  | [] => none
  | c :: rest =>
      if c = '0' then some (['0'], rest)
      else if c.isDigit then some ((takeDigits rest).map (c :: ·) id)
      else none

/-- At least one digit. -/
def takeSome (front : List Char) : List Char → Option (List Char × List Char)
  | [] => none
  | c :: rest =>
      if c.isDigit then some ((takeDigits rest).map (front ++ c :: ·) id) else none

def takeFraction : List Char → Option (List Char × List Char)
  | [] => some ([], [])
  | c :: rest => if c = '.' then takeSome ['.'] rest else some ([], c :: rest)

def takeExponent : List Char → Option (List Char × List Char)
  | [] => some ([], [])
  | c :: rest =>
      if c = 'e' ∨ c = 'E' then
        match rest with
        | [] => none
        | s :: rest =>
            if s = '+' ∨ s = '-' then takeSome [c, s] rest else takeSome [c] (s :: rest)
      else some ([], c :: rest)

/-- The number at the start of a text, and what follows it. -/
def take (text : List Char) : Option (List Char × List Char) := do
  let (sign, text) := takeSign text
  let (whole, text) ← takeWhole text
  let (fraction, text) ← takeFraction text
  let (exponent, text) ← takeExponent text
  some (sign ++ whole ++ fraction ++ exponent, text)

end Numeral

/-- A number as it is written. -/
structure Literal where
  text : List Char
  valid : Numeral.take text = some (text, [])

/-! ### Values and tokens -/

inductive Json
  | null
  | bool (value : Bool)
  | number (literal : Literal)
  | string (text : List Char)
  | array (items : List Json)
  | object (members : List (List Char × Json))

namespace Json

inductive Token
  | openArray
  | closeArray
  | openObject
  | closeObject
  | comma
  | colon
  | null
  | bool (value : Bool)
  | number (literal : Literal)
  | string (text : List Char)

mutual

def tokens : Json → List Token
  | .null => [.null]
  | .bool value => [.bool value]
  | .number literal => [.number literal]
  | .string text => [.string text]
  | .array items => .openArray :: (itemTokens items ++ [.closeArray])
  | .object members => .openObject :: (memberTokens members ++ [.closeObject])

def itemTokens : List Json → List Token
  | [] => []
  | [item] => item.tokens
  | item :: next :: items => item.tokens ++ .comma :: itemTokens (next :: items)

def memberTokens : List (List Char × Json) → List Token
  | [] => []
  | [(key, value)] => .string key :: .colon :: value.tokens
  | (key, value) :: next :: members =>
      .string key :: .colon :: (value.tokens ++ .comma :: memberTokens (next :: members))

end

mutual

/-- The number of arrays and objects around the innermost value. -/
def depth : Json → Nat
  | .array items => itemDepth items + 1
  | .object members => memberDepth members + 1
  | _ => 0

def itemDepth : List Json → Nat
  | [] => 0
  | item :: items => max item.depth (itemDepth items)

def memberDepth : List (List Char × Json) → Nat
  | [] => 0
  | (_, value) :: members => max value.depth (memberDepth members)

end

/-! ### Strings -/

/-- What a piece of a string stands for: a character, or sixteen bits. -/
inductive StringUnit
  | char (c : Char)
  | code (n : Nat)

def escape? : Char → Option Char
  | '"' => some '"'
  | '\\' => some '\\'
  | '/' => some '/'
  | 'b' => some (Char.ofNat 8)
  | 'f' => some (Char.ofNat 12)
  | 'n' => some '\n'
  | 'r' => some '\r'
  | 't' => some '\t'
  | _ => none

def hexCode? (a b c d : Char) : Option Nat := do
  let w ← Text.hexDigit? a
  let x ← Text.hexDigit? b
  let y ← Text.hexDigit? c
  let z ← Text.hexDigit? d
  some (((w * 16 + x) * 16 + y) * 16 + z)

/-- The units up to the closing quote, and what follows it. -/
def readUnits : List Char → Option (List StringUnit × List Char)
  | [] => none
  | '\\' :: 'u' :: a :: b :: c :: d :: rest =>
      match hexCode? a b c d with
      | some n => (readUnits rest).map (Prod.map (.code n :: ·) id)
      | none => none
  | '\\' :: e :: rest =>
      match escape? e with
      | some c => (readUnits rest).map (Prod.map (.char c :: ·) id)
      | none => none
  | c :: rest =>
      if c = '"' then some ([], rest)
      else if c < ' ' ∨ c = '\\' then none
      else (readUnits rest).map (Prod.map (.char c :: ·) id)

def isHigh (n : Nat) : Bool := 0xD800 ≤ n && n < 0xDC00

def isLow (n : Nat) : Bool := 0xDC00 ≤ n && n < 0xE000

/-- Half of a surrogate pair stands for the replacement character. -/
def single (n : Nat) : Char :=
  if isHigh n || isLow n then Char.ofNat 0xFFFD else Char.ofNat n

def joinUnits : List StringUnit → List Char
  | [] => []
  | .char c :: units => c :: joinUnits units
  | .code high :: .code low :: units =>
      if isHigh high && isLow low then
        Char.ofNat (0x10000 + (high - 0xD800) * 0x400 + (low - 0xDC00)) :: joinUnits units
      else single high :: joinUnits (.code low :: units)
  | .code n :: units => single n :: joinUnits units

/-! ### The reader -/

def punctuation? : Char → Option Token
  | '[' => some .openArray
  | ']' => some .closeArray
  | '{' => some .openObject
  | '}' => some .closeObject
  | ',' => some .comma
  | ':' => some .colon
  | _ => none

def keywords : List (List Char × Token) :=
  [("null".toList, .null), ("true".toList, .bool true), ("false".toList, .bool false)]

def readLiteral (text : List Char) : Option (Literal × List Char) :=
  match Numeral.take text with
  | some (word, rest) =>
      if valid : Numeral.take word = some (word, []) then
        some (⟨word, valid⟩, rest)
      else none
  | none => none

/-- The token that starts with `c`, and what follows it. -/
def readToken (c : Char) (rest : List Char) : Option (Token × List Char) :=
  match punctuation? c with
  | some token => some (token, rest)
  | none =>
      if c = '"' then
        (readUnits rest).map (Prod.map (fun units => .string (joinUnits units)) id)
      else
        match keywords.find? (·.1.isPrefixOf (c :: rest)) with
        | some (word, token) => some (token, (c :: rest).drop word.length)
        | none => (readLiteral (c :: rest)).map (Prod.map .number id)

def isBlank (c : Char) : Bool := c == ' ' || c == '\t' || c == '\n' || c == '\r'

def readTokens : Nat → List Char → Option (List Token)
  | 0, _ => none
  | fuel + 1, text =>
      match text.dropWhile isBlank with
      | [] => some []
      | c :: rest => do
          let (token, rest) ← readToken c rest
          let tokens ← readTokens fuel rest
          some (token :: tokens)

/-- An array or an object that is open, and what it holds so far. -/
inductive Frame
  | array (items : List Json)
  | member (members : List (List Char × Json)) (key : List Char)

/-- What is due next. -/
inductive Reading
  | value (frames : List Frame)
  | firstItem (frames : List Frame)
  | nextItem (items : List Json) (frames : List Frame)
  | firstKey (frames : List Frame)
  | key (members : List (List Char × Json)) (frames : List Frame)
  | colon (members : List (List Char × Json)) (key : List Char) (frames : List Frame)
  | nextMember (members : List (List Char × Json)) (frames : List Frame)
  | done (value : Json)

def deliver (value : Json) : List Frame → Reading
  | [] => .done value
  | .array items :: frames => .nextItem (items ++ [value]) frames
  | .member members key :: frames => .nextMember (members ++ [(key, value)]) frames

def maxNestingDepth : Nat := 10000

/-- A value starts. -/
def start (frames : List Frame) : Token → Option Reading
  | .null => some (deliver .null frames)
  | .bool value => some (deliver (.bool value) frames)
  | .number literal => some (deliver (.number literal) frames)
  | .string text => some (deliver (.string text) frames)
  | .openArray =>
      if frames.length < maxNestingDepth then some (.firstItem frames) else none
  | .openObject =>
      if frames.length < maxNestingDepth then some (.firstKey frames) else none
  | _ => none

def step : Reading → Token → Option Reading
  | .value frames, token => start frames token
  | .firstItem frames, .closeArray => some (deliver (.array []) frames)
  | .firstItem frames, token => start (.array [] :: frames) token
  | .nextItem items frames, .comma => some (.value (.array items :: frames))
  | .nextItem items frames, .closeArray => some (deliver (.array items) frames)
  | .firstKey frames, .closeObject => some (deliver (.object []) frames)
  | .firstKey frames, .string key => some (.colon [] key frames)
  | .key members frames, .string key => some (.colon members key frames)
  | .colon members key frames, .colon => some (.value (.member members key :: frames))
  | .nextMember members frames, .comma => some (.key members frames)
  | .nextMember members frames, .closeObject => some (deliver (.object members) frames)
  | _, _ => none

def parse (tokens : List Token) : Option Json :=
  match tokens.foldlM step (.value []) with
  | some (.done value) => some value
  | _ => none

def read (text : List Char) : Option Json :=
  (readTokens (text.length + 1) text).bind parse

example : (read "[true, \x7b\"a\": null\x7d]".toList).isSome = true := by decide

example : (read "[true,]".toList).isSome = false := by decide

end Json

namespace Numeral

/-- What follows does not go on with a number. -/
def Stops (rest : List Char) : Prop :=
  ∀ c ∈ rest.head?, c.isDigit = false ∧ c ≠ '.' ∧ c ≠ 'e' ∧ c ≠ 'E'

theorem takeDigits_append {rest : List Char} (stops : Stops rest) (text : List Char) :
    takeDigits (text ++ rest) = (takeDigits text).map id (· ++ rest) := by
  induction text with
  | nil =>
      cases rest with
      | nil => rfl
      | cons c rest =>
          have other := (stops c rfl).1
          simp [takeDigits, other]
  | cons c text induction =>
      cases digit : c.isDigit with
      | false => simp [takeDigits, digit]
      | true =>
          have first := congrArg Prod.fst induction
          have second := congrArg Prod.snd induction
          simp only [takeDigits, Prod.map_fst, Prod.map_snd, id] at first second
          simp [takeDigits, digit, first, second]

theorem takeSome_append {front text word left rest : List Char}
    (read : takeSome front text = some (word, left)) (stops : Stops rest) :
    takeSome front (text ++ rest) = some (word, left ++ rest) := by
  cases text with
  | nil => cases read
  | cons c text =>
      rw [takeSome] at read
      rw [List.cons_append, takeSome]
      split at read
      next digit =>
        cases read
        rw [if_pos digit, takeDigits_append stops]
        rfl
      next => cases read

theorem takeWhole_append {text word left rest : List Char}
    (read : takeWhole text = some (word, left)) (stops : Stops rest) :
    takeWhole (text ++ rest) = some (word, left ++ rest) := by
  cases text with
  | nil => cases read
  | cons c text =>
      rw [takeWhole] at read
      rw [List.cons_append, takeWhole]
      split at read
      next zero =>
        cases read
        rw [if_pos zero]
      next other =>
        rw [if_neg other]
        split at read
        next digit =>
          cases read
          rw [if_pos digit, takeDigits_append stops]
          rfl
        next => cases read

theorem takeFraction_append {text word left rest : List Char}
    (read : takeFraction text = some (word, left)) (stops : Stops rest) :
    takeFraction (text ++ rest) = some (word, left ++ rest) := by
  cases text with
  | nil =>
      cases read
      cases rest with
      | nil => rfl
      | cons c rest => exact if_neg (stops c rfl).2.1
  | cons c text =>
      rw [takeFraction] at read
      rw [List.cons_append, takeFraction]
      split at read
      next point =>
        rw [if_pos point]
        exact takeSome_append read stops
      next other =>
        cases read
        rw [if_neg other]
        rfl

theorem takeExponent_append {text word left rest : List Char}
    (read : takeExponent text = some (word, left)) (stops : Stops rest) :
    takeExponent (text ++ rest) = some (word, left ++ rest) := by
  cases text with
  | nil =>
      cases read
      cases rest with
      | nil => rfl
      | cons c rest => exact if_neg (not_or.mpr (stops c rfl).2.2)
  | cons c text =>
      rw [takeExponent.eq_def] at read
      rw [List.cons_append, takeExponent.eq_def]
      dsimp only at read ⊢
      split at read
      next marker =>
        rw [if_pos marker]
        cases text with
        | nil => cases read
        | cons s text =>
            dsimp only [List.cons_append] at read ⊢
            split at read
            next sign =>
              rw [if_pos sign]
              exact takeSome_append read stops
            next unsigned =>
              rw [if_neg unsigned, ← List.cons_append]
              exact takeSome_append read stops
      next other =>
        cases read
        rw [if_neg other]
        rfl

theorem takeSign_append {text : List Char} (nonempty : text ≠ []) (rest : List Char) :
    takeSign (text ++ rest) = (takeSign text).map id (· ++ rest) := by
  cases text with
  | nil => exact absurd rfl nonempty
  | cons c text =>
      rw [List.cons_append, takeSign, takeSign]
      split
      next => rfl
      next => rfl

/-- A number ends where it cannot go on. -/
theorem take_append {text word left rest : List Char}
    (read : take text = some (word, left)) (stops : Stops rest) :
    take (text ++ rest) = some (word, left ++ rest) := by
  have nonempty : text ≠ [] := by
    rintro rfl
    cases read
  simp only [take, Option.bind_eq_bind, Option.bind_eq_some_iff, Prod.exists,
    Option.some.injEq, Prod.mk.injEq] at read ⊢
  obtain ⟨whole, afterWhole, readWhole, fraction, afterFraction, readFraction, exponent,
    afterExponent, readExponent, rfl, rfl⟩ := read
  refine ⟨whole, afterWhole ++ rest, ?_, fraction, afterFraction ++ rest,
    takeFraction_append readFraction stops, exponent, afterExponent ++ rest,
    takeExponent_append readExponent stops, ?_, rfl⟩
  · rw [takeSign_append nonempty]
    exact takeWhole_append readWhole stops
  · rw [takeSign_append nonempty]
    rfl

end Numeral

namespace Json

/-! ### Every way to write a value -/

/-- A piece of a string between the quotes. -/
inductive Piece
  | plain (c : Char)
  | escape (e : Char)
  | code (a b c d : Char)

namespace Piece

def text : Piece → List Char
  | .plain c => [c]
  | .escape e => ['\\', e]
  | .code a b c d => ['\\', 'u', a, b, c, d]

def unit? : Piece → Option StringUnit
  | .plain c => if c = '"' ∨ c < ' ' ∨ c = '\\' then none else some (.char c)
  | .escape e => (escape? e).map .char
  | .code a b c d => (hexCode? a b c d).map .code

theorem readUnits_text {piece : Piece} {unit : StringUnit}
    (reads : piece.unit? = some unit) (tail : List Char) :
    readUnits (piece.text ++ tail) = (readUnits tail).map (Prod.map (unit :: ·) id) := by
  cases piece with
  | plain c =>
      simp only [unit?] at reads
      split at reads
      next => cases reads
      next allowed =>
        cases reads
        obtain ⟨quote, allowed⟩ := not_or.mp allowed
        obtain ⟨printable, backslash⟩ := not_or.mp allowed
        rw [text, List.singleton_append, readUnits.eq_def]
        split
        next => contradiction
        next same => exact absurd (List.cons.inj same).1 backslash
        next same => exact absurd (List.cons.inj same).1 backslash
        next same =>
          obtain ⟨rfl, rfl⟩ := List.cons.inj same
          rw [if_neg quote, if_neg (not_or.mpr ⟨printable, backslash⟩)]
  | escape e =>
      obtain ⟨c, escaped, rfl⟩ := Option.map_eq_some_iff.mp reads
      rw [text, List.cons_append, List.singleton_append, readUnits.eq_def]
      split
      next => contradiction
      next same =>
        obtain rfl := (List.cons.inj (List.cons.inj same).2).1
        cases escaped
      next e' tail' _ same =>
        obtain ⟨rfl, rfl⟩ := List.cons.inj (List.cons.inj same).2
        rw [escaped]
      next c' rest _ unescaped same =>
        obtain ⟨rfl, rfl⟩ := List.cons.inj same
        exact (unescaped e tail rfl rfl).elim
  | code a b c d =>
      obtain ⟨n, coded, rfl⟩ := Option.map_eq_some_iff.mp reads
      rw [text]
      show readUnits ('\\' :: 'u' :: a :: b :: c :: d :: tail) = _
      rw [readUnits, coded]

end Piece

theorem readUnits_pieces {pieces : List Piece} {units : List StringUnit}
    (reads : pieces.mapM Piece.unit? = some units) (rest : List Char) :
    readUnits (pieces.flatMap Piece.text ++ '"' :: rest) = some (units, rest) := by
  induction pieces generalizing units with
  | nil =>
      cases reads
      rfl
  | cons piece pieces induction =>
      rw [List.mapM_cons] at reads
      obtain ⟨unit, first, units', others, rfl⟩ := by
        simpa only [Option.bind_eq_bind, Option.bind_eq_some_iff, Option.pure_def,
          Option.some.injEq] using reads
      rw [List.flatMap_cons, List.append_assoc, Piece.readUnits_text first,
        induction others]
      rfl

/-- The texts of a token. -/
inductive Word : Token → List Char → Prop
  | punctuation {c : Char} {token : Token} (mark : punctuation? c = some token) :
      Word token [c]
  | keyword {word : List Char} {token : Token} (member : (word, token) ∈ keywords) :
      Word token word
  | number (literal : Literal) : Word (.number literal) literal.text
  | string {pieces : List Piece} {units : List StringUnit}
      (reads : pieces.mapM Piece.unit? = some units) :
      Word (.string (joinUnits units)) ('"' :: (pieces.flatMap Piece.text ++ ['"']))

def Parted : Token → List Char → Prop
  | .number _, rest => Numeral.Stops rest
  | _, _ => True

/-- The texts of tokens, with blanks between them. -/
inductive Renders : List Token → List Char → Prop
  | nil {blank : List Char} (blanks : blank.all isBlank = true) : Renders [] blank
  | cons {blank word rest : List Char} {token : Token} {tokens : List Token}
      (blanks : blank.all isBlank = true) (written : Word token word)
      (parted : Parted token rest) (others : Renders tokens rest) :
      Renders (token :: tokens) (blank ++ (word ++ rest))

def Writes (value : Json) (text : List Char) : Prop := Renders value.tokens text

/-- The characters that a token starts with. -/
theorem punctuation?_spec {c : Char} {token : Token}
    (mark : punctuation? c = some token) :
    isBlank c = false := by
  unfold punctuation? at mark
  split at mark
  all_goals first | rfl | cases mark

theorem take_head {c : Char} {text : List Char} {parts : List Char × List Char}
    (read : Numeral.take (c :: text) = some parts) : c = '-' ∨ c.isDigit = true := by
  by_contra other
  obtain ⟨unsigned, other⟩ := not_or.mp other
  have zero : c ≠ '0' := by
    rintro rfl
    exact other rfl
  simp [Numeral.take, Numeral.takeSign, Numeral.takeWhole, unsigned, zero, other] at read

section Start

variable {c : Char} (starts : c = '-' ∨ c.isDigit = true)

include starts

theorem ne_of_starts {d : Char} (unsigned : d ≠ '-') (other : d.isDigit = false) :
    c ≠ d := by
  rintro rfl
  cases starts with
  | inl sign => exact unsigned sign
  | inr digit => exact Bool.noConfusion (other.symm.trans digit)

theorem isBlank_of_starts : isBlank c = false := by
  have space := ne_of_starts starts (d := ' ') (by decide) rfl
  have tab := ne_of_starts starts (d := '\t') (by decide) rfl
  have newline := ne_of_starts starts (d := '\n') (by decide) rfl
  have feed := ne_of_starts starts (d := '\r') (by decide) rfl
  simp [isBlank, space, tab, newline, feed]

theorem punctuation?_of_starts : punctuation? c = none := by
  unfold punctuation?
  split
  next => exact absurd rfl (ne_of_starts starts (by decide) rfl)
  next => exact absurd rfl (ne_of_starts starts (by decide) rfl)
  next => exact absurd rfl (ne_of_starts starts (by decide) rfl)
  next => exact absurd rfl (ne_of_starts starts (by decide) rfl)
  next => exact absurd rfl (ne_of_starts starts (by decide) rfl)
  next => exact absurd rfl (ne_of_starts starts (by decide) rfl)
  next => rfl

theorem keyword_of_starts (rest : List Char) :
    keywords.find? (·.1.isPrefixOf (c :: rest)) = none := by
  have n := ne_of_starts starts (d := 'n') (by decide) rfl
  have t := ne_of_starts starts (d := 't') (by decide) rfl
  have f := ne_of_starts starts (d := 'f') (by decide) rfl
  simp [keywords, n.symm, t.symm, f.symm]

end Start

theorem readLiteral_append (literal : Literal) {rest : List Char}
    (stops : Numeral.Stops rest) :
    readLiteral (literal.text ++ rest) = some (literal, rest) := by
  rw [readLiteral, Numeral.take_append literal.valid stops]
  exact dif_pos literal.valid

/-- The reader finds a token where it was written. -/
theorem readToken_word {token : Token} {word rest : List Char} (written : Word token word)
    (parted : Parted token rest) :
    ∃ c tail, word = c :: tail ∧ isBlank c = false ∧
      readToken c (tail ++ rest) = some (token, rest) := by
  cases written with
  | punctuation mark =>
      refine ⟨_, [], rfl, punctuation?_spec mark, ?_⟩
      rw [readToken, mark]
      rfl
  | keyword member =>
      simp only [keywords, List.mem_cons, List.not_mem_nil, or_false, Prod.mk.injEq]
        at member
      obtain ⟨rfl, rfl⟩ | ⟨rfl, rfl⟩ | ⟨rfl, rfl⟩ := member
      · exact ⟨'n', _, rfl, rfl, rfl⟩
      · exact ⟨'t', _, rfl, rfl, rfl⟩
      · exact ⟨'f', _, rfl, rfl, rfl⟩
  | number literal =>
      have valid := literal.valid
      rcases shape : literal.text with _ | ⟨c, tail⟩
      · rw [shape] at valid
        cases valid
      · rw [shape] at valid
        have starts := take_head valid
        have read := readLiteral_append literal parted
        rw [shape] at read
        refine ⟨c, tail, rfl, isBlank_of_starts starts, ?_⟩
        rw [readToken, punctuation?_of_starts starts]
        dsimp only
        rw [if_neg (ne_of_starts starts (by decide) rfl), keyword_of_starts starts]
        rw [List.cons_append] at read
        dsimp only
        rw [read]
        rfl
  | string reads =>
      refine ⟨'"', _, rfl, rfl, ?_⟩
      rw [readToken, List.append_assoc]
      show (readUnits _).map _ = _
      rw [List.singleton_append, readUnits_pieces reads]
      rfl

theorem dropWhile_blank {blank : List Char} (blanks : blank.all isBlank = true) {c : Char}
    (solid : isBlank c = false) (rest : List Char) :
    (blank ++ c :: rest).dropWhile isBlank = c :: rest := by
  induction blank with
  | nil => simp [solid]
  | cons d blank induction =>
      rw [List.all_cons, Bool.and_eq_true] at blanks
      rw [List.cons_append, List.dropWhile_cons_of_pos blanks.1]
      exact induction blanks.2

theorem readTokens_renders {tokens : List Token} {text : List Char}
    (renders : Renders tokens text) :
    ∀ {fuel : Nat}, text.length < fuel → readTokens fuel text = some tokens := by
  induction renders with
  | nil blanks =>
      intro fuel enough
      obtain ⟨fuel, rfl⟩ := Nat.exists_eq_succ_of_ne_zero (Nat.ne_zero_of_lt enough)
      rw [readTokens, List.dropWhile_eq_nil_iff.mpr (List.all_eq_true.mp blanks)]
  | cons blanks written parted others induction =>
      intro fuel enough
      obtain ⟨fuel, rfl⟩ := Nat.exists_eq_succ_of_ne_zero (Nat.ne_zero_of_lt enough)
      obtain ⟨c, tail, rfl, solid, read⟩ := readToken_word written parted
      rw [readTokens, List.cons_append, dropWhile_blank blanks solid]
      dsimp only
      rw [read]
      have shorter := @induction fuel (by simp at enough; omega)
      simp only [Option.bind_eq_bind, Option.bind_some, shorter]

/-! ### The parser accepts the tokens of a value -/

/-- The first item of an array is read like any other value. -/
theorem foldlM_firstItem (value : Json) (frames : List Frame) (rest : List Token) :
    (value.tokens ++ rest).foldlM step (.firstItem frames) =
      (value.tokens ++ rest).foldlM step (.value (.array [] :: frames)) := by
  cases value with
  | null => rfl
  | bool value => rfl
  | number literal => rfl
  | string text => rfl
  | array items => rfl
  | object members => rfl

theorem foldlM_firstItems (item : Json) (items : List Json) (frames : List Frame) :
    (itemTokens (item :: items)).foldlM step (.firstItem frames) =
      (itemTokens (item :: items)).foldlM step (.value (.array [] :: frames)) := by
  cases items with
  | nil =>
      have first := foldlM_firstItem item frames []
      rwa [List.append_nil] at first
  | cons next items =>
      rw [itemTokens]
      exact foldlM_firstItem item frames _

theorem foldlM_firstMembers (member : List Char × Json)
    (members : List (List Char × Json)) (frames : List Frame) :
    (memberTokens (member :: members)).foldlM step (.firstKey frames) =
      (memberTokens (member :: members)).foldlM step (.key [] frames) := by
  cases members with
  | nil => rfl
  | cons next members => rfl

mutual

theorem foldlM_tokens : (value : Json) → (frames : List Frame) →
    frames.length + value.depth ≤ maxNestingDepth →
    value.tokens.foldlM step (.value frames) = some (deliver value frames)
  | .null, _, _ => rfl
  | .bool _, _, _ => rfl
  | .number _, _, _ => rfl
  | .string _, _, _ => rfl
  | .array [], frames, fits => by
      have room : frames.length < maxNestingDepth := Nat.lt_of_succ_le fits
      rw [tokens, List.foldlM_cons, step, start, if_pos room]
      rfl
  | .array (item :: items), frames, fits => by
      rw [depth] at fits
      have room : frames.length < maxNestingDepth := by omega
      have body :=
        foldlM_itemTokens (item :: items) [] frames (List.cons_ne_nil item items)
        (by omega)
      rw [tokens, List.foldlM_cons, step, start, if_pos room]
      dsimp only [Option.bind_eq_bind, Option.bind_some]
      rw [List.foldlM_append, foldlM_firstItems, body]
      rfl
  | .object [], frames, fits => by
      have room : frames.length < maxNestingDepth := Nat.lt_of_succ_le fits
      rw [tokens, List.foldlM_cons, step, start, if_pos room]
      rfl
  | .object (member :: members), frames, fits => by
      rw [depth] at fits
      have room : frames.length < maxNestingDepth := by omega
      have body := foldlM_memberTokens (member :: members) [] frames
        (List.cons_ne_nil member members) (by omega)
      rw [tokens, List.foldlM_cons, step, start, if_pos room]
      dsimp only [Option.bind_eq_bind, Option.bind_some]
      rw [List.foldlM_append, foldlM_firstMembers, body]
      rfl

theorem foldlM_itemTokens : (items done : List Json) → (frames : List Frame) →
    items ≠ [] → frames.length + 1 + itemDepth items ≤ maxNestingDepth →
    (itemTokens items).foldlM step (.value (.array done :: frames)) =
      some (.nextItem (done ++ items) frames)
  | [], _, _, nonempty, _ => absurd rfl nonempty
  | [item], done, frames, _, fits => by
      rw [itemDepth] at fits
      rw [itemTokens, foldlM_tokens item (.array done :: frames) (by simp; omega)]
      rfl
  | item :: next :: items, done, frames, _, fits => by
      rw [itemDepth] at fits
      rw [itemTokens, List.foldlM_append,
        foldlM_tokens item (.array done :: frames) (by simp; omega)]
      dsimp only [Option.bind_eq_bind, Option.bind_some, deliver]
      rw [List.foldlM_cons, step]
      dsimp only [Option.bind_eq_bind, Option.bind_some]
      rw [foldlM_itemTokens (next :: items) (done ++ [item]) frames
        (List.cons_ne_nil next items) (by omega), List.append_assoc]
      rfl

theorem foldlM_memberTokens : (members done : List (List Char × Json)) →
    (frames : List Frame) → members ≠ [] →
    frames.length + 1 + memberDepth members ≤ maxNestingDepth →
    (memberTokens members).foldlM step (.key done frames) =
      some (.nextMember (done ++ members) frames)
  | [], _, _, nonempty, _ => absurd rfl nonempty
  | [(key, value)], done, frames, _, fits => by
      rw [memberDepth] at fits
      have read := foldlM_tokens value (.member done key :: frames) (by simp; omega)
      exact read
  | (key, value) :: next :: members, done, frames, _, fits => by
      rw [memberDepth] at fits
      have read := foldlM_tokens value (.member done key :: frames) (by simp; omega)
      have others := foldlM_memberTokens (next :: members) (done ++ [(key, value)]) frames
        (List.cons_ne_nil next members) (by omega)
      show (value.tokens ++ Token.comma :: memberTokens (next :: members)).foldlM step
        (.value (.member done key :: frames)) = _
      rw [List.foldlM_append, read]
      dsimp only [Option.bind_eq_bind, Option.bind_some, deliver]
      rw [List.foldlM_cons, step]
      dsimp only [Option.bind_eq_bind, Option.bind_some]
      rw [others, List.append_assoc]
      rfl

end

/-- A text of a value that is not nested too deeply is read as that value. -/
theorem read_of_writes {value : Json} {text : List Char} (writes : value.Writes text)
    (shallow : value.depth ≤ maxNestingDepth) : read text = some value := by
  rw [read, readTokens_renders writes (Nat.lt_succ_self text.length)]
  show parse value.tokens = some value
  rw [parse, foldlM_tokens value [] (by simpa using shallow)]
  rfl

end Json

end KubevirtMetrics.Data
