import KubevirtMetrics.Data.Exposition
import KubevirtMetrics.Data.Lists
import KubevirtMetrics.Data.Table
import Mathlib.Data.Char
import Mathlib.Data.Finset.Sort
import Mathlib.Data.List.Lex

namespace KubevirtMetrics.Script

open Data Exposition

/-! `openmetrics` of `export-kme-metrics.py`, which turns the answer to a range query into
a document for `promtool`. -/

/-- A value of a series.  Times are whole milliseconds, and JSON has them as a decimal
number of seconds. -/
structure Sample where
  millis : Int
  value : List Char
  bounded : |millis| < 2 ^ 63
  token : ∀ c ∈ value, c ≠ ' ' ∧ c ≠ '\n'

/-- The labels are those other than `__name__`. -/
structure Series where
  name : List Char
  labels : List (List Char × List Char)
  values : List Sample
  nonempty : name ≠ []
  named : name.all nameChar = true
  keyed : ∀ label ∈ labels, label.1.all nameChar = true
  distinct : (labels.map Prod.fst).Nodup
  sampled : values ≠ []

structure Payload where
  status : Option String
  resultType : Option String
  result : List Series

inductive ExportError
  | status (status : Option String)
  | resultType
  deriving DecidableEq

/-! ### Names -/

def histogramSuffixes : List (List Char) :=
  ["_bucket".toList, "_sum".toList, "_count".toList]

def isHistogram (name : List Char) : Bool :=
  histogramSuffixes.any fun suffix => suffix.isSuffixOf name

def isTotal (name : List Char) : Bool := "_total".toList.isSuffixOf name

def family (name : List Char) : List Char :=
  if isHistogram name then ((Text.cutLast? '_' name).map Prod.fst).getD name
  else if isTotal name then name.take (name.length - 6)
  else name

def metricType (name : List Char) : MetricType :=
  if isHistogram name then .histogram
  else if isTotal name then .counter
  else .gauge

/-! ### Labels -/

def hexDigits (n : Nat) : List Char :=
  [n / 4096 % 16, n / 256 % 16, n / 16 % 16, n % 16].map Nat.digitChar

def unicodeEscape (n : Nat) : List Char := '\\' :: 'u' :: hexDigits n

/-- A character inside the quotes of `json.dumps`. -/
def jsonEscape (c : Char) : List Char :=
  if c = '"' then ['\\', '"']
  else if c = '\\' then ['\\', '\\']
  else if c = '\n' then ['\\', 'n']
  else if c = '\r' then ['\\', 'r']
  else if c = '\t' then ['\\', 't']
  else if c = Char.ofNat 12 then ['\\', 'f']
  else if c = Char.ofNat 8 then ['\\', 'b']
  else if ' ' ≤ c ∧ c ≤ '~' then [c]
  else if c.toNat < 65536 then unicodeEscape c.toNat
  else
    let n := c.toNat - 65536
    unicodeEscape (55296 + n / 1024 % 1024) ++ unicodeEscape (56320 + n % 1024)

def dumps (text : List Char) : List Char := '"' :: (text.flatMap jsonEscape ++ ['"'])

namespace Series

def sortedLabels (series : Series) : List (List Char × List Char) :=
  series.labels.mergeSort fun a b => decide (a.1 ≤ b.1)

def labelText (series : Series) : List Char :=
  let labels := [','].intercalate
    (series.sortedLabels.map fun label => label.1 ++ '=' :: dumps label.2)
  if labels = [] then [] else '{' :: (labels ++ ['}'])

end Series

/-! ### The document -/

/-- `int(float(timestamp) * 1000)`. -/
def exportedTime (millis : Int) : Int :=
  Binary64.truncate (Binary64.round (Binary64.round (millis / 1000) * 1000))

def sampleLine (series : Series) (sample : Sample) : List Char :=
  series.name ++ (series.labelText ++ ' ' ::
    (sample.value ++ ' ' :: Text.itoa (exportedTime sample.millis)))

def grouped (result : List Series) : Table (List Char) (List Series) :=
  result.foldl (fun groups series => groups.insert (family series.name)
    (groups.getD (family series.name) [] ++ [series])) ∅

def sortedFamilies (result : List Series) : List (List Char) :=
  (grouped result).keys.sort (· ≤ ·)

/-- The group of a family is never empty. -/
def groupLines (familyName : List Char) (seriesGroup : List Series) : List (List Char) :=
  match seriesGroup with
  | [] => []
  | first :: _ =>
      typeLine familyName (metricType first.name) ::
        seriesGroup.flatMap fun series => series.values.map (sampleLine series)

def documentOf (result : List Series) : List Char :=
  document ((sortedFamilies result).flatMap fun familyName =>
    groupLines familyName ((grouped result).getD familyName []))

def openmetrics (payload : Payload) : Except ExportError (List Char) :=
  if payload.status ≠ some "success" then .error (.status payload.status)
  else if payload.resultType ≠ some "matrix" then .error .resultType
  else .ok (documentOf payload.result)

/-! ### Reading the labels -/

/-- The characters that come back: those that `json.dumps` leaves alone, and those for
which it has the escape sequence of the format. -/
def plainChar (c : Char) : Bool := c == '\n' || decide (' ' ≤ c ∧ c ≤ '~')

def readBack (c : Char) : List Char := if plainChar c then [c] else jsonEscape c

theorem spells_hexDigits (n : Nat) : Spells (hexDigits n) (hexDigits n) := by
  apply spells_normals
  intro c member
  obtain ⟨digit, among, rfl⟩ := List.mem_map.mp member
  have small : digit < 16 := by
    simp only [List.mem_cons, List.not_mem_nil, or_false] at among
    omega
  have normal : ∀ d : Fin 16, Nat.digitChar d ≠ '"' ∧ Nat.digitChar d ≠ '\\' := by decide
  exact normal ⟨digit, small⟩

theorem spells_unicodeEscape (n : Nat) : Spells (unicodeEscape n) (unicodeEscape n) :=
  (spells_escape 'u').append (spells_hexDigits n)

theorem jsonEscape_printable {c : Char} (quote : c ≠ '"') (backslash : c ≠ '\\')
    (printable : ' ' ≤ c ∧ c ≤ '~') : jsonEscape c = [c] := by
  have control : ∀ d, d < ' ' → c ≠ d := fun d below same =>
    absurd (same ▸ printable.1) (Char.not_le.mpr below)
  unfold jsonEscape
  rw [if_neg quote, if_neg backslash, if_neg (control '\n' (by decide)),
    if_neg (control '\r' (by decide)), if_neg (control '\t' (by decide)),
    if_neg (control (Char.ofNat 12) (by decide)),
    if_neg (control (Char.ofNat 8) (by decide)), if_pos printable]

/-- A sequence that the format does not have is read as it is written. -/
theorem jsonEscape_special {c : Char} (special : plainChar c = false) :
    Spells (jsonEscape c) (jsonEscape c) ∧ 1 < (jsonEscape c).length := by
  have quote : c ≠ '"' := by
    rintro rfl
    cases special
  have backslash : c ≠ '\\' := by
    rintro rfl
    cases special
  have newline : c ≠ '\n' := by
    rintro rfl
    cases special
  have control : ¬(' ' ≤ c ∧ c ≤ '~') := by
    intro printable
    simp [plainChar, printable] at special
  unfold jsonEscape
  rw [if_neg quote, if_neg backslash, if_neg newline, if_neg control]
  split_ifs
  · exact ⟨spells_escape 'r', Nat.one_lt_two⟩
  · exact ⟨spells_escape 't', Nat.one_lt_two⟩
  · exact ⟨spells_escape 'f', Nat.one_lt_two⟩
  · exact ⟨spells_escape 'b', Nat.one_lt_two⟩
  · exact ⟨spells_unicodeEscape c.toNat, by simp [unicodeEscape]⟩
  · exact ⟨(spells_unicodeEscape _).append
      (spells_unicodeEscape _), by simp [unicodeEscape]⟩

theorem spells_jsonEscape (c : Char) : Spells (jsonEscape c) (readBack c) := by
  unfold readBack
  cases plain : plainChar c with
  | false => exact (jsonEscape_special plain).1
  | true =>
      rw [if_pos rfl]
      by_cases quote : c = '"'
      · subst quote
        exact spells_escape '"'
      by_cases backslash : c = '\\'
      · subst backslash
        exact spells_escape '\\'
      by_cases newline : c = '\n'
      · subst newline
        exact spells_escape 'n'
      have printable : ' ' ≤ c ∧ c ≤ '~' := by simpa [plainChar, newline] using plain
      rw [jsonEscape_printable quote backslash printable]
      exact spells_normal quote backslash

theorem length_readBack (c : Char) : 1 ≤ (readBack c).length := by
  unfold readBack
  split
  next => exact Nat.le_refl 1
  next special => exact (jsonEscape_special (Bool.eq_false_iff.mpr special)).2.le

theorem plainChar_of_length {c : Char} (single : (readBack c).length = 1) :
    plainChar c = true := by
  by_contra special
  rw [readBack, if_neg special] at single
  exact absurd single (jsonEscape_special (Bool.eq_false_iff.mpr special)).2.ne'

theorem length_le_flatMap_readBack (text : List Char) :
    text.length ≤ (text.flatMap readBack).length := by
  induction text with
  | nil => exact Nat.le_refl 0
  | cons c text induction =>
      have first := length_readBack c
      rw [List.flatMap_cons, List.length_append, List.length_cons]
      omega

theorem flatMap_readBack_iff (text : List Char) :
    (text.flatMap readBack).length = text.length ↔ text.all plainChar = true := by
  induction text with
  | nil => exact iff_of_true rfl rfl
  | cons c text induction =>
      have first := length_readBack c
      have others := length_le_flatMap_readBack text
      rw [List.flatMap_cons, List.length_append, List.length_cons, List.all_cons,
        Bool.and_eq_true, ← induction]
      constructor
      · intro same
        exact ⟨plainChar_of_length (by omega), by omega⟩
      · rintro ⟨plain, same⟩
        rw [readBack, if_pos plain, same]
        exact Nat.add_comm 1 text.length

theorem flatMap_readBack_of_plain {text : List Char} (plain : text.all plainChar = true) :
    text.flatMap readBack = text := by
  induction text with
  | nil => rfl
  | cons c text induction =>
      rw [List.all_cons, Bool.and_eq_true] at plain
      rw [List.flatMap_cons, readBack, if_pos plain.1, induction plain.2]
      rfl

/-! ### Families -/

theorem admits_family (name : List Char) :
    (metricType name).Admits (family name) name := by
  unfold metricType family
  split
  next histogram =>
    obtain ⟨suffix, among, ends⟩ := List.any_eq_true.mp histogram
    obtain ⟨front, rfl⟩ := List.isSuffixOf_iff_suffix.mp ends
    have shape : ∃ word, suffix = '_' :: word ∧ word.all (· != '_') = true := by
      simp only [histogramSuffixes, List.mem_cons, List.not_mem_nil, or_false] at among
      rcases among with rfl | rfl | rfl
      · exact ⟨"bucket".toList, rfl, rfl⟩
      · exact ⟨"sum".toList, rfl, rfl⟩
      · exact ⟨"count".toList, rfl, rfl⟩
    obtain ⟨word, rfl, solid⟩ := shape
    rw [Text.cutLast?_append front fun c member =>
      bne_iff_ne.mp (List.all_eq_true.mp solid c member)]
    exact ⟨'_' :: word, among, rfl⟩
  next =>
    split
    next total =>
      obtain ⟨front, rfl⟩ := List.isSuffixOf_iff_suffix.mp total
      have short : (front ++ "_total".toList).length - 6 = front.length := by simp
      rw [short, List.take_left]
      exact ⟨"_total".toList, List.mem_singleton.mpr rfl, rfl⟩
    next => exact ⟨[], List.mem_singleton.mpr rfl, (List.append_nil name).symm⟩

theorem suffixes_disjoint {type other : MetricType} {suffix : List Char}
    (here : suffix ∈ type.suffixes) (there : suffix ∈ other.suffixes) : type = other := by
  have apart : ∀ suffix ∈ type.suffixes, suffix ∈ other.suffixes → type = other := by
    cases type <;> cases other <;> decide
  exact apart suffix here there

theorem admits_family_iff (type : MetricType) (name : List Char) :
    type.Admits (family name) name ↔ metricType name = type := by
  constructor
  · rintro ⟨suffix, here, same⟩
    obtain ⟨own, there, split⟩ := admits_family name
    have equal : suffix = own := List.append_cancel_left (same.symm.trans split)
    exact suffixes_disjoint there (equal ▸ here)
  · rintro rfl
    exact admits_family name

theorem family_named {name : List Char} (named : name.all nameChar = true) :
    (family name).all nameChar = true := by
  obtain ⟨suffix, -, split⟩ := admits_family name
  rw [split, List.all_append, Bool.and_eq_true] at named
  exact named.1

def members (result : List Series) (familyName : List Char) : List Series :=
  result.filter fun series => family series.name = familyName

theorem grouped_append_singleton (result : List Series) (series : Series) :
    grouped (result ++ [series]) = (grouped result).insert (family series.name)
      ((grouped result).getD (family series.name) [] ++ [series]) := by
  rw [grouped, List.foldl_append]
  rfl

theorem getD_grouped (result : List Series) (familyName : List Char) :
    (grouped result).getD familyName [] = members result familyName := by
  induction result using List.reverseRecOn with
  | nil => exact Table.getD_empty familyName []
  | append_singleton result series induction =>
      rw [grouped_append_singleton, members, List.filter_append]
      by_cases same : family series.name = familyName
      · subst same
        rw [Table.getD_insert_self, induction, members, List.filter_singleton]
        simp
      · rw [Table.getD_insert_of_ne _ (Ne.symm same), induction, List.filter_singleton]
        simp [same, members]

theorem mem_grouped (result : List Series) (familyName : List Char) :
    familyName ∈ grouped result ↔ ∃ series ∈ result, family series.name = familyName := by
  induction result using List.reverseRecOn with
  | nil => exact iff_of_false Finmap.notMem_empty nofun
  | append_singleton result series induction =>
      rw [grouped_append_singleton, Finmap.mem_insert, induction]
      constructor
      · rintro (rfl | ⟨other, member, same⟩)
        · exact ⟨series, by simp, rfl⟩
        · exact ⟨other, by simp [member], same⟩
      · rintro ⟨other, member, same⟩
        rcases List.mem_append.mp member with before | last
        · exact .inr ⟨other, before, same⟩
        · exact .inl (List.mem_singleton.mp last ▸ same.symm)

theorem mem_sortedFamilies (result : List Series) (familyName : List Char) :
    familyName ∈ sortedFamilies result ↔
      ∃ series ∈ result, family series.name = familyName := by
  rw [sortedFamilies, Finset.mem_sort, Finmap.mem_keys, mem_grouped]

theorem sortedFamilies_nodup (result : List Series) : (sortedFamilies result).Nodup :=
  Finset.sort_nodup _ _

theorem members_perm (result : List Series) :
    ((sortedFamilies result).flatMap (members result)).Perm result :=
  flatMap_filter_perm (fun series : Series => family series.name)
    (sortedFamilies_nodup result)
    fun series member => (mem_sortedFamilies result _).mpr ⟨series, member, rfl⟩

end KubevirtMetrics.Script
