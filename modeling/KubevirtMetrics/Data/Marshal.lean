import Mathlib.Tactic
import KubevirtMetrics.Data.Json
import KubevirtMetrics.Data.ParseFloat

namespace KubevirtMetrics.Data

/-! Values of a program as JSON texts, both ways. -/

/-! ### Integers -/

namespace Numeral

theorem head_numeral {n : Nat} (positive : 0 < n) :
    ∃ c rest, Text.numeral n = c :: rest ∧ c ≠ '0' := by
  induction n using Nat.strong_induction_on with
  | _ n induction =>
      rw [Text.numeral_eq, Nat.toDigits_eq_if (by decide)]
      split
      next small =>
        refine ⟨n.digitChar, [], rfl, ?_⟩
        rw [Ne, Nat.digitChar_eq_zero]
        omega
      next large =>
        obtain ⟨c, rest, front, other⟩ := induction (n / 10) (by omega) (by omega)
        rw [Text.numeral_eq] at front
        exact ⟨c, rest ++ [(n % 10).digitChar], by rw [front]; rfl, other⟩

theorem takeDigits_digits {text : List Char} (digits : ∀ c ∈ text, c.isDigit = true) :
    takeDigits text = (text, []) := by
  rw [takeDigits, List.takeWhile_eq_self_iff.mpr digits,
    List.dropWhile_eq_nil_iff.mpr digits]

theorem takeWhole_numeral (n : Nat) :
    takeWhole (Text.numeral n) = some (Text.numeral n, []) := by
  rcases Nat.eq_zero_or_pos n with rfl | positive
  · rfl
  · obtain ⟨c, rest, shape, other⟩ := head_numeral positive
    have digits : ∀ d ∈ c :: rest, d.isDigit = true := by
      intro d member
      rw [← shape] at member
      exact Text.isDigit_of_mem_numeral member
    rw [shape, takeWhole, if_neg other, if_pos (digits c List.mem_cons_self),
      takeDigits_digits fun d member => digits d (List.mem_cons_of_mem c member)]
    rfl

theorem takeSign_numeral (n : Nat) :
    takeSign (Text.numeral n) = ([], Text.numeral n) := by
  rcases shape : Text.numeral n with _ | ⟨c, rest⟩
  · exact absurd shape (Text.numeral_ne_nil n)
  · have digit : c.isDigit = true :=
      Text.isDigit_of_mem_numeral (shape ▸ List.mem_cons_self : c ∈ Text.numeral n)
    rw [takeSign, if_neg]
    rintro rfl
    cases digit

theorem take_itoa (n : Int) : take (Text.itoa n) = some (Text.itoa n, []) := by
  cases n with
  | ofNat n =>
      show take (Text.numeral n) = some (Text.numeral n, [])
      simp [take, takeSign_numeral, takeWhole_numeral, takeFraction, takeExponent]
  | negSucc n =>
      rw [Text.itoa_negSucc]
      simp [take, takeSign, takeWhole_numeral, takeFraction, takeExponent]

end Numeral

def Literal.ofInt (n : Int) : Literal := ⟨Text.itoa n, Numeral.take_itoa n⟩

namespace Json

def int (n : Int) : Json := .number (.ofInt n)

def nat (n : Nat) : Json := int n

/-! ### Marshal -/

/-- A character that a browser or a script would take for markup is written as a code. -/
def quoted (c : Char) : Piece :=
  if c = '"' ∨ c = '\\' then .escape c
  else if c = Char.ofNat 8 then .escape 'b'
  else if c = Char.ofNat 12 then .escape 'f'
  else if c = '\n' then .escape 'n'
  else if c = '\r' then .escape 'r'
  else if c = '\t' then .escape 't'
  else if c < ' ' ∨ c = '<' ∨ c = '>' ∨ c = '&' then
    .code '0' '0' (Nat.digitChar (c.toNat / 16)) (Nat.digitChar (c.toNat % 16))
  else if c = Char.ofNat 0x2028 then .code '2' '0' '2' '8'
  else if c = Char.ofNat 0x2029 then .code '2' '0' '2' '9'
  else .plain c

def compact : Token → List Char
  | .openArray => ['[']
  | .closeArray => [']']
  | .openObject => ['{']
  | .closeObject => ['}']
  | .comma => [',']
  | .colon => [':']
  | .null => "null".toList
  | .bool true => "true".toList
  | .bool false => "false".toList
  | .number literal => literal.text
  | .string text => '"' :: ((text.map quoted).flatMap Piece.text ++ ['"'])

def marshal (value : Json) : List Char := value.tokens.flatMap compact

/-- A character is a unit by itself, or by its code. -/
def Stands (c : Char) (unit : StringUnit) : Prop := unit = .char c ∨ unit = .code c.toNat

theorem not_surrogate (c : Char) : isHigh c.toNat = false ∧ isLow c.toNat = false := by
  have valid : c.toNat < 0xD800 ∨ 0xDFFF < c.toNat ∧ c.toNat < 0x110000 := c.valid
  constructor
  · rw [isHigh, Bool.and_eq_false_iff, decide_eq_false_iff_not, decide_eq_false_iff_not]
    omega
  · rw [isLow, Bool.and_eq_false_iff, decide_eq_false_iff_not, decide_eq_false_iff_not]
    omega

theorem single_toNat (c : Char) : single c.toNat = c := by
  rw [single, (not_surrogate c).1, (not_surrogate c).2]
  exact Char.ofNat_toNat c

theorem joinUnits_stands {text : List Char} {units : List StringUnit}
    (stands : List.Forall₂ Stands text units) : joinUnits units = text := by
  induction stands with
  | nil => rfl
  | @cons c unit text units first others induction =>
      cases first with
      | inl char =>
          subst char
          exact congrArg (c :: ·) induction
      | inr code =>
          subst code
          unfold joinUnits
          split
          next => contradiction
          next same => cases same
          next high low units' same =>
            obtain ⟨same, rfl⟩ := List.cons.inj same
            cases same
            rw [(not_surrogate c).1, if_neg (by simp), single_toNat, induction]
          next n units' _ same =>
            obtain ⟨same, rfl⟩ := List.cons.inj same
            cases same
            rw [single_toNat, induction]

theorem hexDigit?_digitChar (n : Fin 16) :
    Text.hexDigit? (Nat.digitChar n) = some n.val := by
  revert n
  decide

theorem hexCode?_byte {n : Nat} (small : n < 256) :
    hexCode? '0' '0' (Nat.digitChar (n / 16)) (Nat.digitChar (n % 16)) = some n := by
  have high := hexDigit?_digitChar ⟨n / 16, by omega⟩
  have low := hexDigit?_digitChar ⟨n % 16, by omega⟩
  have zero : Text.hexDigit? '0' = some 0 := rfl
  simp only [hexCode?, high, low, zero, Option.bind_eq_bind, Option.bind_some]
  congr 1
  omega

theorem quoted_unit (c : Char) :
    ∃ unit, (quoted c).unit? = some unit ∧ Stands c unit := by
  unfold quoted
  split_ifs with special backspace feed newline carriage tab markup line paragraph
  · obtain rfl | rfl := special
    · exact ⟨_, rfl, .inl rfl⟩
    · exact ⟨_, rfl, .inl rfl⟩
  · exact ⟨_, rfl, .inl (congrArg StringUnit.char backspace.symm)⟩
  · exact ⟨_, rfl, .inl (congrArg StringUnit.char feed.symm)⟩
  · exact ⟨_, rfl, .inl (congrArg StringUnit.char newline.symm)⟩
  · exact ⟨_, rfl, .inl (congrArg StringUnit.char carriage.symm)⟩
  · exact ⟨_, rfl, .inl (congrArg StringUnit.char tab.symm)⟩
  · have small : c.toNat < 256 := by
      obtain control | rfl | rfl | rfl := markup
      · have bound : c.toNat < ' '.toNat := control
        exact lt_trans bound (by decide)
      · decide
      · decide
      · decide
    exact ⟨.code c.toNat, by rw [Piece.unit?, hexCode?_byte small]; rfl, .inr rfl⟩
  · exact ⟨_, rfl, .inr (line ▸ rfl)⟩
  · exact ⟨_, rfl, .inr (paragraph ▸ rfl)⟩
  · refine ⟨.char c, if_neg ?_, .inl rfl⟩
    obtain ⟨quote, backslash⟩ := not_or.mp special
    exact not_or.mpr ⟨quote, not_or.mpr ⟨(not_or.mp markup).1, backslash⟩⟩

theorem quoted_units (text : List Char) :
    ∃ units, (text.map quoted).mapM Piece.unit? = some units ∧
      List.Forall₂ Stands text units := by
  induction text with
  | nil => exact ⟨[], rfl, .nil⟩
  | cons c text induction =>
      obtain ⟨unit, first, stands⟩ := quoted_unit c
      obtain ⟨units, others, all⟩ := induction
      refine ⟨unit :: units, ?_, .cons stands all⟩
      rw [List.map_cons, List.mapM_cons, first, others]
      rfl

theorem word_compact (token : Token) : Word token (compact token) := by
  cases token with
  | openArray => exact .punctuation rfl
  | closeArray => exact .punctuation rfl
  | openObject => exact .punctuation rfl
  | closeObject => exact .punctuation rfl
  | comma => exact .punctuation rfl
  | colon => exact .punctuation rfl
  | null => exact .keyword (by simp [keywords, compact])
  | bool value =>
      cases value with
      | false => exact .keyword (by simp [keywords, compact])
      | true => exact .keyword (by simp [keywords, compact])
  | number literal => exact .number literal
  | string text =>
      obtain ⟨units, reads, stands⟩ := quoted_units text
      have word := Word.string reads
      rwa [joinUnits_stands stands] at word

def Token.isNumber : Token → Bool
  | .number _ => true
  | _ => false

theorem stops_compact {token : Token} (other : token.isNumber = false)
    (rest : List Char) :
    Numeral.Stops (compact token ++ rest) := by
  intro c first
  cases token with
  | openArray => cases first; decide
  | closeArray => cases first; decide
  | openObject => cases first; decide
  | closeObject => cases first; decide
  | comma => cases first; decide
  | colon => cases first; decide
  | null => cases first; decide
  | bool value =>
      cases value with
      | false => cases first; decide
      | true => cases first; decide
  | number literal => cases other
  | string text => cases first; decide

/-- No number follows a number. -/
def Separated (tokens : List Token) : Prop :=
  tokens.IsChain fun token next => token.isNumber = true → next.isNumber = false

theorem renders_compact {tokens : List Token} (separated : Separated tokens) :
    Renders tokens (tokens.flatMap compact) := by
  induction tokens with
  | nil => exact .nil rfl
  | cons token tokens induction =>
      have others := induction separated.tail
      refine @Renders.cons [] _ _ _ _ rfl (word_compact token) ?_ others
      cases token with
      | number literal =>
          cases tokens with
          | nil => exact nofun
          | cons next tokens =>
              exact stops_compact (separated.rel rfl) (tokens.flatMap compact)
      | _ => trivial

theorem Separated.cons {token : Token} {tokens : List Token}
    (other : token.isNumber = false) (separated : Separated tokens) :
    Separated (token :: tokens) := by
  refine List.isChain_cons.mpr ⟨?_, separated⟩
  intro next _ number
  exact Bool.noConfusion (other.symm.trans number)

theorem Separated.append {front back : List Token} {token : Token}
    (left : Separated front) (other : token.isNumber = false) (right : Separated back) :
    Separated (front ++ token :: back) := by
  refine List.isChain_append.mpr ⟨left, right.cons other, ?_⟩
  intro last _ next first number
  cases first
  exact other

mutual

theorem separated_tokens : (value : Json) → Separated value.tokens
  | .null => .singleton _
  | .bool _ => .singleton _
  | .number _ => .singleton _
  | .string _ => .singleton _
  | .array items => ((separated_items items).append rfl .nil).cons rfl
  | .object members => ((separated_members members).append rfl .nil).cons rfl

theorem separated_items : (items : List Json) → Separated (itemTokens items)
  | [] => .nil
  | [item] => separated_tokens item
  | item :: next :: items =>
      (separated_tokens item).append rfl (separated_items (next :: items))

theorem separated_members : (members : List (List Char × Json)) →
    Separated (memberTokens members)
  | [] => .nil
  | [(_, value)] => ((separated_tokens value).cons rfl).cons rfl
  | (_, value) :: next :: members =>
      (((separated_tokens value).append rfl (separated_members (next :: members))).cons
        rfl).cons rfl

end

theorem writes_marshal (value : Json) : value.Writes value.marshal :=
  renders_compact (separated_tokens value)

theorem read_marshal {value : Json} (shallow : value.depth ≤ maxNestingDepth) :
    read value.marshal = some value :=
  read_of_writes (writes_marshal value) shallow

/-! ### Unmarshal -/

/-- What a value becomes when a JSON value is decoded into it. -/
abbrev Into (α : Type) := α → Json → Option α

abbrev Members := List (List Char × Json)

/-- Names are compared without regard to case; two characters beyond ASCII have an ASCII
letter as their other case. -/
def foldChar (c : Char) : Char :=
  if c = Char.ofNat 0x17F then 'S'
  else if c = Char.ofNat 0x212A then 'K'
  else c.toUpper

def names (name : String) (key : List Char) : Bool :=
  key.map foldChar == name.toList.map foldChar

/-- The members that name a field are decoded into it one after the other. -/
def field {α : Type} (name : String) (into : Into α) (old : α) (members : Members) :
    Option α :=
  (members.filter fun member => names name member.1).foldlM
    (fun value member => into value member.2) old

namespace Into

variable {α : Type}

def int : Into Int
  | old, .null => some old
  | _, .number literal => Text.atoi? literal.text
  | _, _ => none

def uint (bits : Nat) : Into Nat
  | old, .null => some old
  | _, .number literal => Text.parseUint? bits literal.text
  | _, _ => none

def float : Into Float64
  | old, .null => some old
  | _, .number literal => Text.parseFloat? literal.text
  | _, _ => none

def bool : Into Bool
  | old, .null => some old
  | _, .bool value => some value
  | _, _ => none

def string : Into (List Char)
  | old, .null => some old
  | _, .string text => some text
  | _, _ => none

/-- A message that is kept as it is, also where it is `null`. -/
def raw : Into (Option Json)
  | _, value => some (some value)

def pointer (zero : α) (into : Into α) : Into (Option α)
  | _, .null => some none
  | old, value => (into (old.getD zero) value).map some

def slice (zero : α) (into : Into α) : Into (List α)
  | _, .null => some []
  | _, .array items => items.mapM (into zero)
  | _, _ => none

def object (fields : α → Members → Option α) : Into α
  | old, .null => some old
  | old, .object members => fields old members
  | _, _ => none

end Into

/-- `json.Unmarshal` into a fresh value. -/
def unmarshal {α : Type} (zero : α) (into : Into α) (text : List Char) : Option α :=
  (read text).bind (into zero)

/-! ### What members say -/

/-- The only member that names the field has this value. -/
def Has (members : Members) (name : String) (value : Json) : Prop :=
  ∃ key, members.filter (fun member => names name member.1) = [(key, value)]

def Lacks (members : Members) (name : String) : Prop :=
  members.filter (fun member => names name member.1) = []

section Field

variable {α : Type} {into : Into α} {old value : α} {members : Members} {name : String}

theorem field_of_has {json : Json} (has : Has members name json)
    (decodes : into old json = some value) :
    field name into old members = some value := by
  obtain ⟨key, only⟩ := has
  rw [field, only, List.foldlM_cons, decodes]
  rfl

theorem field_of_lacks (lacks : Lacks members name) :
    field name into old members = some old := by
  rw [field, lacks]
  rfl

end Field

theorem Into.int_int {n : Int} (old : Int) (lower : -2 ^ 63 ≤ n) (upper : n < 2 ^ 63) :
    Into.int old (.int n) = some n :=
  Text.atoi?_itoa lower upper

theorem Into.uint_nat {bits n : Nat} (old : Nat) (small : n < 2 ^ bits) :
    Into.uint bits old (.nat n) = some n :=
  Text.parseUint?_numeral small

theorem Into.slice_array {α : Type} {zero : α} {into : Into α} {items : List Json}
    {values : List α} (old : List α)
    (decodes :
      List.Forall₂ (fun item value => into zero item = some value) items values) :
    Into.slice zero into old (.array items) = some values := by
  rw [Into.slice]
  induction decodes with
  | nil => rfl
  | cons first _ induction =>
      rw [List.mapM_cons, first, induction]
      rfl

theorem Into.pointer_of {α : Type} {zero value : α} {into : Into α} {json : Json}
    (present : json ≠ .null) (decodes : into zero json = some value) :
    Into.pointer zero into none json = some (some value) := by
  rw [Into.pointer]
  · rw [Option.getD_none, decodes]
    rfl
  · exact present

/-! ### Looking into a value -/

def member? (members : Members) (name : String) : Option Json :=
  (members.find? (·.1 == name.toList)).map Prod.snd

def string? : Json → Option (List Char)
  | .string text => some text
  | _ => none

def bool? : Json → Option Bool
  | .bool value => some value
  | _ => none

def object? : Json → Option Members
  | .object members => some members
  | _ => none

def integerText? : List Char → Option Int
  | '-' :: digits => (Text.digits? digits).map fun (n : Nat) => -(n : Int)
  | digits => (Text.digits? digits).map fun (n : Nat) => (n : Int)

def integer? : Json → Option Int
  | .number literal => integerText? literal.text
  | _ => none

def list? {α : Type} (item? : Json → Option α) : Json → Option (List α)
  | .array items => items.mapM item?
  | _ => none

theorem integer?_int (n : Int) : integer? (.int n) = some n := by
  cases n with
  | ofNat n =>
      show integerText? (Text.numeral n) = some (n : Int)
      unfold integerText?
      split
      next digits shape =>
        have digit := @Text.isDigit_of_mem_numeral n '-' (shape ▸ List.mem_cons_self)
        cases digit
      next =>
        rw [Text.digits?_numeral]
        rfl
  | negSucc n =>
      show integerText? (Text.itoa (Int.negSucc n)) = some (Int.negSucc n)
      rw [Text.itoa_negSucc, integerText?, Text.digits?_numeral]
      rfl

theorem list?_map {α : Type} {item? : Json → Option α} {item : α → Json}
    (reads : ∀ value, item? (item value) = some value) (values : List α) :
    list? item? (.array (values.map item)) = some values := by
  show (values.map item).mapM item? = some values
  induction values with
  | nil => rfl
  | cons value values induction =>
      rw [List.map_cons, List.mapM_cons, reads, induction]
      rfl

theorem itemDepth_map {α : Type} {item : α → Json}
    (flat : ∀ value, (item value).depth = 0) (values : List α) :
    itemDepth (values.map item) = 0 := by
  induction values with
  | nil => rfl
  | cons value values induction =>
      rw [List.map_cons, itemDepth, flat, induction, max_self]

theorem memberDepth_of_mem {members : Members} {member : List Char × Json}
    (listed : member ∈ members) : member.2.depth ≤ memberDepth members := by
  induction members with
  | nil => cases listed
  | cons first members induction =>
      rw [memberDepth]
      cases listed with
      | head => exact Nat.le_max_left ..
      | tail _ listed => exact (induction listed).trans (Nat.le_max_right ..)

theorem itemDepth_of_mem {items : List Json} {item : Json} (listed : item ∈ items) :
    item.depth ≤ itemDepth items := by
  induction items with
  | nil => cases listed
  | cons first items induction =>
      rw [itemDepth]
      cases listed with
      | head => exact Nat.le_max_left ..
      | tail _ listed => exact (induction listed).trans (Nat.le_max_right ..)

theorem depth_of_has {members : Members} {name : String} {json : Json}
    (has : Has members name json) : json.depth ≤ memberDepth members := by
  obtain ⟨key, only⟩ := has
  have listed : (key, json) ∈ members.filter (fun member => names name member.1) := by
    rw [only]
    exact List.mem_cons_self
  exact memberDepth_of_mem (List.mem_of_mem_filter listed)

/-! ### What members show -/

section Shows

variable (members : Members) (name : String)

def ShowsString (value : List Char) : Prop :=
  Has members name (.string value) ∨ Lacks members name ∧ value = []

def ShowsBool (value : Bool) : Prop :=
  Has members name (.bool value) ∨ Lacks members name ∧ value = false

def ShowsNat (value : Nat) : Prop :=
  Has members name (.nat value) ∨ Lacks members name ∧ value = 0

def ShowsInt (value : Int) : Prop :=
  (-2 ^ 63 ≤ value ∧ value < 2 ^ 63) ∧ Has members name (.int value) ∨
    Lacks members name ∧ value = 0

def ShowsOption {α : Type} (shows : α → Json → Prop) : Option α → Prop
  | none => Lacks members name
  | some value => ∃ json, Has members name json ∧ shows value json

end Shows

def ShowsList {α : Type} (shows : α → Json → Prop) (values : List α) (json : Json) :
    Prop :=
  ∃ items, json = .array items ∧
    List.Forall₂ (fun item value => shows value item) items values

section Decode

variable {members : Members} {name : String}

theorem field_string {value : List Char} (shows : ShowsString members name value) :
    field name Into.string [] members = some value := by
  rcases shows with has | ⟨lacks, rfl⟩
  · exact field_of_has has rfl
  · exact field_of_lacks lacks

theorem field_bool {value : Bool} (shows : ShowsBool members name value) :
    field name Into.bool false members = some value := by
  rcases shows with has | ⟨lacks, rfl⟩
  · exact field_of_has has rfl
  · exact field_of_lacks lacks

theorem field_int {value : Int} (shows : ShowsInt members name value) :
    field name Into.int 0 members = some value := by
  rcases shows with ⟨⟨lower, upper⟩, has⟩ | ⟨lacks, rfl⟩
  · exact field_of_has has (Into.int_int 0 lower upper)
  · exact field_of_lacks lacks

theorem field_pointer {α : Type} {zero : α} {into : Into α} {shows : α → Json → Prop}
    {value : Option α} (shown : ShowsOption members name shows value)
    (decodes : ∀ {value json}, shows value json → json ≠ .null ∧
      into zero json = some value) :
    field name (.pointer zero into) none members = some value := by
  cases value with
  | none => exact field_of_lacks shown
  | some value =>
      obtain ⟨json, has, shown⟩ := shown
      obtain ⟨present, decoded⟩ := decodes shown
      exact field_of_has has (Into.pointer_of present decoded)

/-- The items of a list are nested less deeply than the list. -/
theorem slice_shows {α : Type} {zero : α} {into : Into α} {shows : α → Json → Prop}
    {values : List α} {json : Json} (shown : ShowsList shows values json)
    (decodes : ∀ {value item}, shows value item → item.depth ≤ json.depth →
      into zero item = some value) :
    Into.slice zero into [] json = some values := by
  obtain ⟨items, rfl, each⟩ := shown
  apply Into.slice_array
  have shallow : ∀ item ∈ items, item.depth ≤ (Json.array items).depth := by
    intro item listed
    exact (itemDepth_of_mem listed).trans (Nat.le_succ _)
  revert shallow
  generalize (Json.array items).depth = bound at decodes
  intro shallow
  induction each with
  | nil => exact .nil
  | cons first _ induction =>
      exact .cons (decodes first (shallow _ List.mem_cons_self))
        (induction fun item listed => shallow item (List.mem_cons_of_mem _ listed))

theorem field_raw (name : String) (old : Option Json) (members : Members) :
    ∃ result, field name .raw old members = some result := by
  unfold field
  induction members.filter (fun member => names name member.1) generalizing old with
  | nil => exact ⟨old, rfl⟩
  | cons member _ induction => exact induction (some member.2)

end Decode

end Json

end KubevirtMetrics.Data
