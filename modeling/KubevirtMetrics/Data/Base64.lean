import Mathlib.Tactic

namespace KubevirtMetrics.Data.Base64

/-! The standard encoding of bytes with 64 characters and padding. -/

def digit (n : Nat) : Char :=
  if n < 26 then Char.ofNat (65 + n)
  else if n < 52 then Char.ofNat (71 + n)
  else if n < 62 then Char.ofNat (n - 4)
  else if n = 62 then '+'
  else '/'

def value? (c : Char) : Option Nat :=
  if 'A' ≤ c ∧ c ≤ 'Z' then some (c.toNat - 65)
  else if 'a' ≤ c ∧ c ≤ 'z' then some (c.toNat - 71)
  else if '0' ≤ c ∧ c ≤ '9' then some (c.toNat + 4)
  else if c = '+' then some 62
  else if c = '/' then some 63
  else none

def encode : List UInt8 → List Char
  | [] => []
  | [a] => [digit (a.toNat / 4), digit (a.toNat % 4 * 16), '=', '=']
  | [a, b] =>
      [digit (a.toNat / 4), digit (a.toNat % 4 * 16 + b.toNat / 16),
        digit (b.toNat % 16 * 4), '=']
  | a :: b :: c :: rest =>
      digit (a.toNat / 4) :: digit (a.toNat % 4 * 16 + b.toNat / 16) ::
        digit (b.toNat % 16 * 4 + c.toNat / 64) :: digit (c.toNat % 64) :: encode rest

/-- Padding closes the text, and the bits it stands for are not looked at. -/
def decodeGroups : List Char → Option (List UInt8)
  | [] => some []
  | a :: b :: c :: d :: rest => do
      let w ← value? a
      let x ← value? b
      if c = '=' then
        if d = '=' ∧ rest = [] then some [UInt8.ofNat (w * 4 + x / 16)] else none
      else do
        let y ← value? c
        if d = '=' then
          if rest = [] then
            some [UInt8.ofNat (w * 4 + x / 16), UInt8.ofNat (x % 16 * 16 + y / 4)]
          else none
        else do
          let z ← value? d
          let bytes ← decodeGroups rest
          some (UInt8.ofNat (w * 4 + x / 16) :: UInt8.ofNat (x % 16 * 16 + y / 4) ::
            UInt8.ofNat (y % 4 * 64 + z) :: bytes)
  | _ => none

/-- A text may be broken into lines anywhere. -/
def lineBreak (c : Char) : Bool := c == '\n' || c == '\r'

def decode (text : List Char) : Option (List UInt8) :=
  decodeGroups (text.filter (!lineBreak ·))

theorem digit_spec (n : Fin 64) :
    value? (digit n) = some n.val ∧ digit n ≠ '=' ∧ lineBreak (digit n) = false := by
  revert n
  decide

theorem value?_digit {n : Nat} (small : n < 64) : value? (digit n) = some n :=
  (digit_spec ⟨n, small⟩).1

theorem digit_ne_pad {n : Nat} (small : n < 64) : digit n ≠ '=' :=
  (digit_spec ⟨n, small⟩).2.1

theorem lineBreak_digit {n : Nat} (small : n < 64) : lineBreak (digit n) = false :=
  (digit_spec ⟨n, small⟩).2.2

theorem ofNat_eq {n : Nat} {byte : UInt8} (same : n = byte.toNat) :
    UInt8.ofNat n = byte := by
  rw [same, UInt8.ofNat_toNat]

theorem decodeGroups_encode (bytes : List UInt8) :
    decodeGroups (encode bytes) = some bytes := by
  fun_induction encode bytes with
  | case1 => rfl
  | case2 a =>
      have bound := a.toNat_lt
      have first : value? (digit (a.toNat / 4)) = _ := value?_digit (by omega)
      have second : value? (digit (a.toNat % 4 * 16)) = _ := value?_digit (by omega)
      simp only [decodeGroups, first, second, Option.bind_eq_bind, Option.bind_some,
        and_self, if_true]
      rw [@ofNat_eq _ a (by omega)]
  | case3 a b =>
      have boundA := a.toNat_lt
      have boundB := b.toNat_lt
      have first : value? (digit (a.toNat / 4)) = _ := value?_digit (by omega)
      have second : value? (digit (a.toNat % 4 * 16 + b.toNat / 16)) = _ :=
        value?_digit (by omega)
      have third : value? (digit (b.toNat % 16 * 4)) = _ := value?_digit (by omega)
      have unpadded : digit (b.toNat % 16 * 4) ≠ '=' := digit_ne_pad (by omega)
      simp only [decodeGroups, first, second, third, unpadded, Option.bind_eq_bind,
        Option.bind_some, if_true, if_false]
      rw [@ofNat_eq _ a (by omega), @ofNat_eq _ b (by omega)]
  | case4 a b c rest induction =>
      have boundA := a.toNat_lt
      have boundB := b.toNat_lt
      have boundC := c.toNat_lt
      have first : value? (digit (a.toNat / 4)) = _ := value?_digit (by omega)
      have second : value? (digit (a.toNat % 4 * 16 + b.toNat / 16)) = _ :=
        value?_digit (by omega)
      have third : value? (digit (b.toNat % 16 * 4 + c.toNat / 64)) = _ :=
        value?_digit (by omega)
      have fourth : value? (digit (c.toNat % 64)) = _ := value?_digit (by omega)
      have unpadded : digit (b.toNat % 16 * 4 + c.toNat / 64) ≠ '=' :=
        digit_ne_pad (by omega)
      have unpadded' : digit (c.toNat % 64) ≠ '=' := digit_ne_pad (by omega)
      simp only [decodeGroups, first, second, third, fourth, unpadded, unpadded',
        induction, Option.bind_eq_bind, Option.bind_some, if_false]
      rw [@ofNat_eq _ a (by omega), @ofNat_eq _ b (by omega), @ofNat_eq _ c (by omega)]

/-- Where the lines of the encoded text end makes no difference. -/
theorem decode_of_encode {text : List Char} {bytes : List UInt8}
    (encoded : text.filter (!lineBreak ·) = encode bytes) : decode text = some bytes := by
  rw [decode, encoded, decodeGroups_encode]

/-- The encoded text is a single line. -/
theorem lineBreak_encode (bytes : List UInt8) :
    ∀ c ∈ encode bytes, lineBreak c = false := by
  have pad : lineBreak '=' = false := rfl
  fun_induction encode bytes with
  | case1 => exact nofun
  | case2 a =>
      have bound := a.toNat_lt
      simp only [List.forall_mem_cons]
      exact ⟨lineBreak_digit (by omega), lineBreak_digit (by omega), pad, pad, nofun⟩
  | case3 a b =>
      have boundA := a.toNat_lt
      have boundB := b.toNat_lt
      simp only [List.forall_mem_cons]
      exact ⟨lineBreak_digit (by omega), lineBreak_digit (by omega),
        lineBreak_digit (by omega), pad, nofun⟩
  | case4 a b c rest induction =>
      have boundA := a.toNat_lt
      have boundB := b.toNat_lt
      have boundC := c.toNat_lt
      simp only [List.forall_mem_cons]
      exact ⟨lineBreak_digit (by omega), lineBreak_digit (by omega),
        lineBreak_digit (by omega), lineBreak_digit (by omega), induction⟩

theorem filter_encode (bytes : List UInt8) :
    (encode bytes).filter (!lineBreak ·) = encode bytes := by
  apply List.filter_eq_self.mpr
  intro c listed
  rw [lineBreak_encode bytes c listed]
  rfl

/-! ### Characters as bytes -/

def utf8 (text : List Char) : List UInt8 := text.flatMap String.utf8EncodeChar

/-- A byte that does not start a character counts as the replacement character. -/
def runesIn : Nat → List UInt8 → List Char
  | 0, _ => []
  | _ + 1, [] => []
  | fuel + 1, byte :: bytes =>
      match (byte :: bytes).toByteArray.utf8DecodeChar? 0 with
      | some c => c :: runesIn fuel ((byte :: bytes).drop c.utf8Size)
      | none => Char.ofNat 0xFFFD :: runesIn fuel bytes

def runes (bytes : List UInt8) : List Char := runesIn bytes.length bytes

theorem runesIn_utf8 {text : List Char} {fuel : Nat} (enough : text.length ≤ fuel) :
    runesIn fuel (utf8 text) = text := by
  induction text generalizing fuel with
  | nil =>
      cases fuel with
      | zero => rfl
      | succ fuel => rfl
  | cons c text induction =>
      obtain ⟨fuel, rfl⟩ := Nat.exists_eq_succ_of_ne_zero (Nat.ne_zero_of_lt enough)
      have decodes : (utf8 (c :: text)).toByteArray.utf8DecodeChar? 0 = some c :=
        List.utf8DecodeChar?_utf8Encode_cons
      have rest : (utf8 (c :: text)).drop c.utf8Size = utf8 text := by
        rw [utf8, List.flatMap_cons, ← String.length_utf8EncodeChar]
        exact List.drop_left
      rcases shape : utf8 (c :: text) with _ | ⟨byte, bytes⟩
      · exact absurd (List.append_eq_nil_iff.mp shape).1 String.utf8EncodeChar_ne_nil
      · rw [shape] at decodes rest
        rw [runesIn, decodes]
        dsimp only
        rw [rest, induction (Nat.le_of_succ_le_succ enough)]

theorem length_le_utf8 (text : List Char) : text.length ≤ (utf8 text).length := by
  induction text with
  | nil => exact Nat.le_refl 0
  | cons c text induction =>
      have positive : 0 < (String.utf8EncodeChar c).length :=
        List.length_pos_iff.mpr String.utf8EncodeChar_ne_nil
      rw [utf8, List.flatMap_cons, List.length_append, List.length_cons]
      rw [utf8] at induction
      omega

theorem runes_utf8 (text : List Char) : runes (utf8 text) = text :=
  runesIn_utf8 (length_le_utf8 text)

end KubevirtMetrics.Data.Base64
