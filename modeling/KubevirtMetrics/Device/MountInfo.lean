import KubevirtMetrics.Device.ProcMounts

namespace KubevirtMetrics.Device

open Data

/-! What `ParseMountInfo` makes of a mount table as the kernel prints it. -/

structure Word (text : List Char) : Prop where
  nonempty : text ≠ []
  solid : text.all (!Text.isSpace ·) = true

instance (text : List Char) : Decidable (Word text) :=
  decidable_of_iff (text ≠ [] ∧ text.all (!Text.isSpace ·) = true)
    ⟨fun ⟨nonempty, solid⟩ => ⟨nonempty, solid⟩,
      fun ⟨nonempty, solid⟩ => ⟨nonempty, solid⟩⟩

/-- A mount with what the table says about it beside the entry. -/
structure MountRecord where
  entry : MountEntry
  mountOptions : List Char
  optional : List (List Char)
  superOptions : List (List Char)
  mountIDBound : -2 ^ 63 ≤ entry.mountID ∧ entry.mountID < 2 ^ 63
  parentIDBound : -2 ^ 63 ≤ entry.parentID ∧ entry.parentID < 2 ^ 63
  words : ∀ text ∈ [entry.root.toList, entry.mountPoint.toList, mountOptions] ++
    optional ++ [entry.fsType.toList, entry.source.toList] ++ superOptions, Word text
  unseparated : ['-'] ∉ optional

namespace MountRecord

def device (record : MountRecord) : List Char :=
  Text.numeral record.entry.major.toNat ++ ':' :: Text.numeral record.entry.minor.toNat

/-- The fields before the optional ones. -/
def front (record : MountRecord) : List (List Char) :=
  [Text.itoa record.entry.mountID, Text.itoa record.entry.parentID, record.device,
    record.entry.root.toList, record.entry.mountPoint.toList, record.mountOptions]

/-- The fields after the separator. -/
def back (record : MountRecord) : List (List Char) :=
  record.entry.fsType.toList :: record.entry.source.toList :: record.superOptions

def fields (record : MountRecord) : List (List Char) :=
  record.front ++ (record.optional ++ ['-'] :: record.back)

/-- The line: the fields with one space between any two. -/
def text (record : MountRecord) : List Char :=
  [' '].intercalate record.fields

theorem word_device (record : MountRecord) : Word record.device where
  nonempty := by simp [device]
  solid := by
    rw [device, List.all_append, List.all_cons, Text.solid_numeral,
      Text.solid_numeral]
    decide

theorem word_of_mem_fields (record : MountRecord) {field : List Char}
    (member : field ∈ record.fields) : Word field := by
  have words := record.words
  simp only [List.mem_append, List.mem_cons, List.not_mem_nil, or_false] at words
  simp only [fields, front, back, List.mem_append, List.mem_cons, List.not_mem_nil,
    or_false] at member
  rcases member with (rfl | rfl | rfl | rfl | rfl | rfl) | optional | rfl | rfl | rfl |
    super
  · exact ⟨Text.itoa_ne_nil _, Text.solid_itoa _⟩
  · exact ⟨Text.itoa_ne_nil _, Text.solid_itoa _⟩
  · exact record.word_device
  · exact words _ (by simp)
  · exact words _ (by simp)
  · exact words _ (by simp)
  · exact words _ (by simp [optional])
  · decide
  · exact words _ (by simp)
  · exact words _ (by simp)
  · exact words _ (by simp [super])

theorem fields_text (record : MountRecord) :
    Text.fields record.text = record.fields :=
  Text.fields_intercalate fun _ member =>
    ⟨(record.word_of_mem_fields member).nonempty,
      (record.word_of_mem_fields member).solid⟩

theorem separatorIndex?_fields (record : MountRecord) :
    separatorIndex? record.fields 6 = some (record.optional.length + 6) := by
  have skipped : record.optional.findIdx? (· == ['-']) = none := by
    rw [List.findIdx?_eq_none_iff]
    intro field member
    simp only [beq_eq_false_iff_ne]
    rintro rfl
    exact record.unseparated member
  have dropped : record.fields.drop 6 = record.optional ++ ['-'] :: record.back := rfl
  rw [separatorIndex?, dropped, List.findIdx?_append, skipped, List.findIdx?_cons]
  simp

theorem getD_back (record : MountRecord) (i : Nat) :
    record.fields.getD (record.optional.length + 6 + (i + 1)) [] =
      record.back.getD i [] := by
  have place : record.optional.length + 6 + (i + 1) =
      record.front.length + (record.optional.length + (i + 1)) := by
    simp [front]
    omega
  rw [List.getD_eq_getElem?_getD, List.getD_eq_getElem?_getD, fields, place,
    List.getElem?_append_right (by omega), Nat.add_sub_cancel_left,
    List.getElem?_append_right (by omega), Nat.add_sub_cancel_left]
  rfl

/-- The number of optional fields does not shift what comes after the separator. -/
theorem parseMountInfoLine_of_fields (record : MountRecord) {line : List Char}
    (read : Text.fields line = record.fields) :
    parseMountInfoLine line = .ok record.entry := by
  have length : record.fields.length =
      record.optional.length + record.superOptions.length + 9 := by
    simp [fields, front, back]
    omega
  have colon : Text.cut? ':' (record.fields.getD 2 []) =
      some (Text.numeral record.entry.major.toNat,
        Text.numeral record.entry.minor.toNat) := by
    apply Text.cut?_append
    intro c member
    rintro rfl
    exact absurd (Text.isDigit_of_mem_numeral member) (by decide)
  have mountID : parseField Text.atoi? (record.fields.getD 0 []) =
      .ok record.entry.mountID := by
    change parseField Text.atoi? (Text.itoa record.entry.mountID) = _
    rw [parseField, Text.atoi?_itoa record.mountIDBound.1 record.mountIDBound.2]
  have parentID : parseField Text.atoi? (record.fields.getD 1 []) =
      .ok record.entry.parentID := by
    change parseField Text.atoi? (Text.itoa record.entry.parentID) = _
    rw [parseField, Text.atoi?_itoa record.parentIDBound.1 record.parentIDBound.2]
  have number : ∀ n : UInt32, parseField (Text.parseUint? 32) (Text.numeral n.toNat) =
      .ok n.toNat := by
    intro n
    rw [parseField, Text.parseUint?_numeral n.toNat_lt]
  have fsType : record.fields.getD (record.optional.length + 6 + 1) [] =
      record.entry.fsType.toList := record.getD_back 0
  have source : record.fields.getD (record.optional.length + 6 + 2) [] =
      record.entry.source.toList := record.getD_back 1
  have root : record.fields.getD 3 [] = record.entry.root.toList := rfl
  have mountPoint : record.fields.getD 4 [] = record.entry.mountPoint.toList := rfl
  simp only [parseMountInfoLine, read, length, colon, mountID, parentID, number,
    record.separatorIndex?_fields]
  rw [if_neg (by omega)]
  simp only [bind, Except.bind]
  rw [if_neg (by omega), fsType, source, root, mountPoint]
  simp only [UInt32.ofNat_toNat, String.ofList_toList]
  rfl

theorem single_text (record : MountRecord) : ∀ c ∈ record.text, c ≠ '\n' := by
  intro c member
  have spaced : c ∈ record.fields.flatMap (' ' :: ·) := by
    have printed : ' ' :: record.text = record.fields.flatMap (' ' :: ·) :=
      Text.space_cons_intercalate _ _
    rw [← printed]
    exact List.mem_cons_of_mem ' ' member
  obtain ⟨field, inLine, inField⟩ := List.mem_flatMap.mp spaced
  rcases List.mem_cons.mp inField with rfl | inField
  · decide
  · have solid := List.all_eq_true.mp (record.word_of_mem_fields inLine).solid c inField
    rintro rfl
    exact absurd solid (by decide)

end MountRecord

/-- A line of a mount table: a mount, or a line that the parser rejects. -/
inductive MountLine
  | mount (record : MountRecord)
  | malformed (text : List Char) (single : ∀ c ∈ text, c ≠ '\n')
      (rejected : (parseMountInfoLine text).toOption = none)

namespace MountLine

def text : MountLine → List Char
  | .mount record => record.text
  | .malformed text _ _ => text

def entry? : MountLine → Option MountEntry
  | .mount record => some record.entry
  | .malformed _ _ _ => none

theorem single (line : MountLine) : ∀ c ∈ line.text, c ≠ '\n' := by
  cases line with
  | mount record => exact record.single_text
  | malformed text single rejected => exact single

theorem parseMountInfoLine_text (line : MountLine) :
    (parseMountInfoLine line.text).toOption = line.entry? := by
  cases line with
  | mount record =>
      rw [text, record.parseMountInfoLine_of_fields record.fields_text]
      rfl
  | malformed text single rejected => exact rejected

end MountLine

theorem parseMountInfoLine_congr {line other : List Char}
    (same : Text.fields line = Text.fields other) :
    parseMountInfoLine line = parseMountInfoLine other := by
  unfold parseMountInfoLine
  rw [same]

/-- What the scanner cuts off at the end of a line is not part of a field. -/
theorem fields_dropReturn (line : List Char) :
    Text.fields (if line.getLast? = some '\r' then line.dropLast else line) =
      Text.fields line := by
  split
  next returned =>
    obtain ⟨front, rfl⟩ := List.getLast?_eq_some_iff.mp returned
    rw [List.dropLast_concat, Text.fields_append_space front [] (by decide)]
    exact (List.append_nil _).symm
  next => rfl

def mountTable (lines : List MountLine) : List Char :=
  (lines.map MountLine.text).flatMap (· ++ ['\n'])

theorem single_of_mem_texts {lines : List MountLine} :
    ∀ text ∈ lines.map MountLine.text, ∀ c ∈ text, c ≠ '\n' := by
  intro text member
  obtain ⟨line, -, rfl⟩ := List.mem_map.mp member
  exact line.single

def FitsScanner (line : List Char) : Prop :=
  (line.map fun c => c.utf8Size).sum ≤ maxScanLine

theorem parseMountInfo_of_fits {lines : List MountLine}
    (fit : ∀ line ∈ lines, FitsScanner line.text) :
    parseMountInfo (some (mountTable lines)) =
      .ok (lines.filterMap MountLine.entry?) := by
  have short : ((mountTable lines).splitOn '\n').any (fun line =>
      (line.map fun c => c.utf8Size).sum > maxScanLine) = false := by
    rw [mountTable, splitOn_lines single_of_mem_texts, List.any_eq_false]
    intro text member
    rcases List.mem_append.mp member with inLines | last
    · obtain ⟨line, inTable, rfl⟩ := List.mem_map.mp inLines
      rw [decide_eq_true_eq]
      exact Nat.not_lt.mpr (fit line inTable)
    · rw [List.mem_singleton.mp last]
      decide
  simp only [parseMountInfo, short]
  rw [if_neg (by decide), mountTable, scanLines_lines single_of_mem_texts,
    List.filterMap_map, List.filterMap_map]
  refine congrArg Except.ok (List.filterMap_congr fun line _ => ?_)
  rw [← line.parseMountInfoLine_text]
  exact congrArg Except.toOption (parseMountInfoLine_congr (fields_dropReturn line.text))

theorem parseMountInfo_of_long {lines : List MountLine} (line : MountLine)
    (member : line ∈ lines) (long : ¬ FitsScanner line.text) :
    parseMountInfo (some (mountTable lines)) = .error .lineTooLong := by
  have stops : ((mountTable lines).splitOn '\n').any (fun line =>
      (line.map fun c => c.utf8Size).sum > maxScanLine) = true := by
    rw [mountTable, splitOn_lines single_of_mem_texts, List.any_eq_true]
    exact ⟨line.text, by simp [List.mem_map_of_mem member],
      decide_eq_true (Nat.lt_of_not_le long)⟩
  simp only [parseMountInfo, stops]
  rfl

/-- Every mount is returned in its place as long as each line, malformed ones
included, fits into the buffer of the scanner; otherwise none is. -/
theorem parseMountInfo_mountTable_iff (lines : List MountLine) :
    parseMountInfo (some (mountTable lines)) = .ok (lines.filterMap MountLine.entry?) ↔
      ∀ line ∈ lines, FitsScanner line.text := by
  constructor
  · intro parsed line member
    by_contra long
    rw [parseMountInfo_of_long line member long] at parsed
    cases parsed
  · exact parseMountInfo_of_fits

/-- The mount of a root file system. -/
def rootMount : MountRecord where
  entry := ⟨22, 1, 252, 3, "/", "/", "xfs", "/dev/vda3"⟩
  mountOptions := "rw,relatime".toList
  optional := ["shared:1".toList]
  superOptions := ["rw,seclabel".toList]
  mountIDBound := by decide
  parentIDBound := by decide
  words := by decide
  unseparated := by decide

theorem length_le_maxScanLine {line : List Char} (fits : FitsScanner line) :
    line.length ≤ maxScanLine := by
  refine le_trans ?_ fits
  induction line with
  | nil => exact le_rfl
  | cons c line induction =>
      have positive := c.utf8Size_pos
      have rest := induction (le_trans (by simp) fits)
      simp only [List.length_cons, List.map_cons, List.sum_cons]
      omega

theorem MountRecord.length_field_le (record : MountRecord) {field : List Char}
    (member : field ∈ record.fields) : field.length ≤ record.text.length := by
  obtain ⟨front, back, split⟩ := List.append_of_mem member
  have printed : ' ' :: record.text = record.fields.flatMap (' ' :: ·) :=
    Text.space_cons_intercalate _ _
  have lengths := congrArg List.length printed
  rw [split, List.flatMap_append, List.flatMap_cons, List.length_append,
    List.length_append, List.length_cons, List.length_cons] at lengths
  omega

/-- An overlay with so many lower directories that its options have `n`
characters. -/
def overlayMount (n : Nat) (positive : 0 < n) : MountRecord where
  entry := ⟨23, 22, 0, 45, "/", "/overlay", "overlay", "overlay"⟩
  mountOptions := "rw,relatime".toList
  optional := []
  superOptions := [List.replicate n 'l']
  mountIDBound := by decide
  parentIDBound := by decide
  words := by
    have options : Word (List.replicate n 'l') := by
      refine ⟨by rw [Ne, List.replicate_eq_nil_iff]; omega, ?_⟩
      rw [List.all_eq_true]
      intro c member
      rw [List.eq_of_mem_replicate member]
      decide
    intro text member
    rcases List.mem_append.mp member with inFront | last
    · clear member
      revert text
      decide
    · rw [List.mem_singleton.mp last]
      exact options
  unseparated := List.not_mem_nil

/-- One mount whose line is too long for the scanner takes the others along. -/
theorem overlong_line_drops_mounts :
    parseMountInfo (some (mountTable
        [.mount (overlayMount 65536 (by decide)), .mount rootMount])) ≠
      .ok [(overlayMount 65536 (by decide)).entry, rootMount.entry] := by
  have long : ¬ FitsScanner (overlayMount 65536 (by decide)).text := by
    intro fits
    have options : List.replicate 65536 'l' ∈
        (overlayMount 65536 (by decide)).fields := by
      apply List.mem_append_right
      apply List.mem_append_right
      exact List.mem_cons_of_mem _ (List.mem_cons_of_mem _ (List.mem_cons_of_mem _
        List.mem_cons_self))
    have length := (MountRecord.length_field_le _ options).trans
      (length_le_maxScanLine fits)
    rw [List.length_replicate] at length
    exact absurd length (by decide)
  rw [parseMountInfo_of_long (.mount _) List.mem_cons_self long]
  nofun

end KubevirtMetrics.Device
