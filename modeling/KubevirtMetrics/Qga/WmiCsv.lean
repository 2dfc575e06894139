import KubevirtMetrics.Data.Csv
import KubevirtMetrics.Data.Table
import KubevirtMetrics.Qga.Types
import Mathlib.Data.List.ReduceOption

namespace KubevirtMetrics.Qga

open Data

/-! `ParseWMICSV` of `types.go`. -/

/-- The columns that every row must have. -/
inductive CounterColumn
  | name
  | rdQ
  | wrQ
  | rdOps
  | wrOps
  | ts
  deriving DecidableEq

namespace CounterColumn

def header : CounterColumn → List Char
  | .name => "name".toList
  | .rdQ => "avgdiskreadqueuelength".toList
  | .wrQ => "avgdiskwritequeuelength".toList
  | .rdOps => "diskreadspersec".toList
  | .wrOps => "diskwritespersec".toList
  | .ts => "timestamp_sys100ns".toList

end CounterColumn

def requiredColumns : List CounterColumn :=
  [.name, .rdQ, .wrQ, .rdOps, .wrOps, .ts]

inductive WMIError
  | parsing (error : Csv.Error)
  | noDataRows (lines : Nat)
  | missingColumn (column : CounterColumn)
  | counter (column : CounterColumn) (name : List Char)
  | noValidRows
  deriving DecidableEq

/-- The lower case of a character, where that is an ASCII letter: the names that are
compared have no others. -/
def lowerChar (c : Char) : Char :=
  if c = Char.ofNat 0x130 then 'i'
  else if c = Char.ofNat 0x212a then 'k'
  else c.toLower

def toLower (text : List Char) : List Char := text.map lowerChar

def colMap (header : List (List Char)) : Table (List Char) Nat :=
  Table.insertAll ∅
    (header.zipIdx.map fun entry => (toLower (Text.trimSpace entry.1), entry.2))

/-- The names for which a row is skipped: none, and `_Total` in any case. -/
def skippedName (name : List Char) : Bool :=
  name.isEmpty || toLower name == "_total".toList

def parseCounter (index : CounterColumn → Nat) (row : List (List Char))
    (name : List Char) (column : CounterColumn) : Except WMIError UInt64 :=
  match Text.parseUint? 64 (Text.trimSpace (row.getD (index column) [])) with
  | some value => .ok (UInt64.ofNat value)
  | none => .error (.counter column name)

/-- The body of the loop over the rows; no counters for a row that is skipped. -/
def parseRow (index : CounterColumn → Nat) (row : List (List Char)) :
    Except WMIError (Option DiskCounters) :=
  let maxIdx := (requiredColumns.map index).foldl max 0
  if row.length ≤ maxIdx then .ok none
  else
    let name := Text.trimSpace (row.getD (index .name) [])
    if skippedName name then .ok none
    else do
      let rdQ ← parseCounter index row name .rdQ
      let wrQ ← parseCounter index row name .wrQ
      let rdOps ← parseCounter index row name .rdOps
      let wrOps ← parseCounter index row name .wrOps
      let ts ← parseCounter index row name .ts
      .ok (some ⟨String.ofList name, rdQ, wrQ, rdOps, wrOps, ts⟩)

def parseRows (index : CounterColumn → Nat) (rows : List (List (List Char))) :
    Except WMIError (List DiskCounters) := do
  let results ← rows.mapM (parseRow index)
  if results.reduceOption.isEmpty then .error .noValidRows
  else .ok results.reduceOption

def parseRecords (records : List (List (List Char))) :
    Except WMIError (List DiskCounters) :=
  match records with
  | header :: first :: rows =>
      match requiredColumns.find? fun column =>
          ((colMap header).lookup column.header).isNone with
      | some column => .error (.missingColumn column)
      | none =>
          parseRows (fun column => (colMap header).getD column.header 0) (first :: rows)
  | _ => .error (.noDataRows records.length)

def parseWMICSV (data : List Char) : Except WMIError (List DiskCounters) :=
  match Csv.readAll (Text.trimSpace (Text.unixLines data)) with
  | .error error => .error (.parsing error)
  | .ok records => parseRecords records

/-! ### Printed counters -/

def CounterColumn.text (dc : DiskCounters) : CounterColumn → List Char
  | .name => dc.name.toList
  | .rdQ => Text.numeral dc.rdQueueLen.toNat
  | .wrQ => Text.numeral dc.wrQueueLen.toNat
  | .rdOps => Text.numeral dc.rdOps.toNat
  | .wrOps => Text.numeral dc.wrOps.toNat
  | .ts => Text.numeral dc.timestamp100ns.toNat

/-- A header with the six columns somewhere among others, in any case and with space
around their names. -/
structure CounterHeader where
  row : Csv.Row
  position : CounterColumn → Nat
  titled : ∀ column, ∃ cell, row.cells[position column]? = some cell ∧
    toLower (Text.trimSpace cell.text) = column.header
  untitled : ∀ i cell, row.cells[i]? = some cell → ∀ column,
    toLower (Text.trimSpace cell.text) = column.header → i = position column

/-- A row with each counter in its column, and anything in the others. -/
structure CounterRow (position : CounterColumn → Nat) where
  record : DiskCounters
  row : Csv.Row
  single : ∀ c ∈ record.name.toList, c ≠ '\n'
  shows : ∀ column, ∃ cell, row.cells[position column]? = some cell ∧
    Text.trimSpace cell.text = column.text record

structure CounterTable where
  header : CounterHeader
  rows : List (CounterRow header.position)

def CounterTable.text (table : CounterTable) (crlf : Bool) : List Char :=
  Csv.render crlf (table.header.row :: table.rows.map CounterRow.row)

def CounterTable.records (table : CounterTable) : List DiskCounters :=
  table.rows.map CounterRow.record

/-- A disk of its own: neither nameless nor the sum of all. -/
def listed (dc : DiskCounters) : Bool := !skippedName dc.name.toList

/-- The texts that are read for the cells of a row. -/
def readTexts (row : Csv.Row) : List (List Char) :=
  row.cells.map fun cell => Text.unixLines (Text.unixLines (Text.trimSpace cell.text))

theorem unixLines_unixLines_of_absent {text : List Char} (absent : ∀ c ∈ text, c ≠ '\n') :
    Text.unixLines (Text.unixLines text) = text := by
  rw [Text.unixLines_of_absent absent, Text.unixLines_of_absent absent]

theorem absent_of_toLower_eq {text : List Char} {column : CounterColumn}
    (title : toLower text = column.header) : ∀ c ∈ text, c ≠ '\n' := by
  intro c member
  rintro rfl
  have inHeader : lowerChar '\n' ∈ column.header :=
    title ▸ List.mem_map_of_mem member
  have absent : lowerChar '\n' ∉ column.header := by cases column <;> decide
  exact absent inHeader

theorem toLower_unixLines {text : List Char} {column : CounterColumn} :
    toLower (Text.unixLines (Text.unixLines text)) = column.header ↔
      toLower text = column.header := by
  constructor
  · intro title
    have absent := absent_of_toLower_eq title
    have source : ∀ c ∈ text, c ≠ '\n' := by
      intro c member
      rintro rfl
      exact absent '\n'
        (Text.newline_mem_unixLines (Text.newline_mem_unixLines member)) rfl
    rwa [unixLines_unixLines_of_absent source] at title
  · intro title
    rw [unixLines_unixLines_of_absent (absent_of_toLower_eq title)]
    exact title

namespace CounterHeader

theorem colMap_lookup (header : CounterHeader) {names : List (List Char)}
    (read : names.map Text.trimSpace = readTexts header.row) (column : CounterColumn) :
    (colMap names).lookup column.header = some (header.position column) := by
  have cellAt : ∀ i : Nat, (names[i]?).map Text.trimSpace =
      (readTexts header.row)[i]? := by
    intro i
    rw [← read, List.getElem?_map]
  apply Table.lookup_insertAll_of_agree
  · intro other member
    obtain ⟨⟨name, i⟩, indexed, same⟩ := List.mem_map.mp member
    obtain ⟨title, rfl⟩ := Prod.mk.inj same
    have found := cellAt i
    rw [List.mem_zipIdx_iff_getElem?.mp indexed, Option.map_some, readTexts,
      List.getElem?_map] at found
    obtain ⟨cell, here, text⟩ := Option.map_eq_some_iff.mp found.symm
    rw [← text, toLower_unixLines] at title
    exact header.untitled i cell here column title
  · obtain ⟨cell, here, title⟩ := header.titled column
    have found := cellAt (header.position column)
    rw [readTexts, List.getElem?_map, here, Option.map_some] at found
    obtain ⟨name, indexed, text⟩ := Option.map_eq_some_iff.mp found
    refine List.mem_map.mpr ⟨(name, header.position column),
      List.mem_zipIdx_iff_getElem?.mpr indexed, ?_⟩
    rw [text, toLower_unixLines.mpr title]

end CounterHeader

theorem CounterColumn.text_absent {dc : DiskCounters}
    (single : ∀ c ∈ dc.name.toList, c ≠ '\n') (column : CounterColumn) :
    ∀ c ∈ column.text dc, c ≠ '\n' := by
  have digits : ∀ n, ∀ c ∈ Text.numeral n, c ≠ '\n' := by
    intro n c member
    rintro rfl
    exact absurd (Text.isSpace_of_isDigit
      (Text.isDigit_of_mem_numeral member)) (by decide)
  cases column with
  | name => exact single
  | rdQ => exact digits dc.rdQueueLen.toNat
  | wrQ => exact digits dc.wrQueueLen.toNat
  | rdOps => exact digits dc.rdOps.toNat
  | wrOps => exact digits dc.wrOps.toNat
  | ts => exact digits dc.timestamp100ns.toNat

theorem parseCounter_numeral {index : CounterColumn → Nat} {row : List (List Char)}
    {column : CounterColumn} {value : UInt64}
    (shown : Text.trimSpace (row.getD (index column) []) = Text.numeral value.toNat)
    (name : List Char) : parseCounter index row name column = .ok value := by
  rw [parseCounter, shown, Text.parseUint?_numeral value.toNat_lt]
  exact congrArg Except.ok UInt64.ofNat_toNat

namespace CounterRow

variable {position : CounterColumn → Nat}

/-- What a row adds to the results. -/
def outcome (row : CounterRow position) : Option DiskCounters :=
  if listed row.record then some row.record else none

theorem read_at (row : CounterRow position) {texts : List (List Char)}
    (read : texts.map Text.trimSpace = readTexts row.row) (column : CounterColumn) :
    ∃ text, texts[position column]? = some text ∧
      Text.trimSpace text = column.text row.record := by
  obtain ⟨cell, here, shown⟩ := row.shows column
  have found : (texts.map Text.trimSpace)[position column]? =
      some (column.text row.record) := by
    rw [read, readTexts, List.getElem?_map, here, Option.map_some, shown,
      unixLines_unixLines_of_absent (column.text_absent row.single)]
  rw [List.getElem?_map] at found
  exact Option.map_eq_some_iff.mp found

theorem trimSpace_getD (row : CounterRow position) {texts : List (List Char)}
    (read : texts.map Text.trimSpace = readTexts row.row) (column : CounterColumn) :
    Text.trimSpace (texts.getD (position column) []) = column.text row.record := by
  obtain ⟨text, here, shown⟩ := row.read_at read column
  rw [List.getD_eq_getElem?_getD, here]
  exact shown

theorem maxIdx_lt (row : CounterRow position) {texts : List (List Char)}
    (read : texts.map Text.trimSpace = readTexts row.row) :
    (requiredColumns.map position).foldl max 0 < texts.length := by
  have inside : ∀ column, position column < texts.length := by
    intro column
    obtain ⟨text, here, -⟩ := row.read_at read column
    exact (List.getElem?_eq_some_iff.mp here).1
  simp only [requiredColumns, List.map_cons, List.map_nil, List.foldl_cons,
    List.foldl_nil, Nat.max_lt]
  exact ⟨⟨⟨⟨⟨⟨Nat.zero_lt_of_lt (inside .name), inside .name⟩, inside .rdQ⟩, inside .wrQ⟩,
    inside .rdOps⟩, inside .wrOps⟩, inside .ts⟩

theorem parseRow_eq (row : CounterRow position) {texts : List (List Char)}
    (read : texts.map Text.trimSpace = readTexts row.row) :
    parseRow position texts = .ok row.outcome := by
  have shown := row.trimSpace_getD read
  have named : Text.trimSpace (texts.getD (position .name) []) = row.record.name.toList :=
    shown .name
  unfold parseRow outcome listed
  dsimp only
  rw [if_neg (Nat.not_le.mpr (row.maxIdx_lt read)), named]
  cases skippedName row.record.name.toList with
  | true => rfl
  | false =>
      rw [if_neg Bool.false_ne_true, parseCounter_numeral (shown .rdQ),
        parseCounter_numeral (shown .wrQ), parseCounter_numeral (shown .rdOps),
        parseCounter_numeral (shown .wrOps), parseCounter_numeral (shown .ts),
        String.ofList_toList]
      rfl

theorem mapM_parseRow {rows : List (CounterRow position)} {read : List (List (List Char))}
    (same : read.map (List.map Text.trimSpace) = rows.map fun row => readTexts row.row) :
    read.mapM (parseRow position) = .ok (rows.map outcome) := by
  induction rows generalizing read with
  | nil =>
      rw [List.map_eq_nil_iff.mp same]
      rfl
  | cons row rows induction =>
      obtain ⟨texts, rest, rfl, here, later⟩ := List.map_eq_cons_iff.mp same
      rw [List.mapM_cons, row.parseRow_eq here, induction later]
      rfl

theorem reduceOption_outcome (rows : List (CounterRow position)) :
    (rows.map outcome).reduceOption = (rows.map record).filter listed := by
  induction rows with
  | nil => rfl
  | cons row rows induction =>
      rw [List.map_cons, List.map_cons, outcome]
      cases keep : listed row.record with
      | true =>
          rw [if_pos rfl, List.reduceOption_cons_of_some, induction,
            List.filter_cons_of_pos keep]
      | false =>
          rw [if_neg Bool.false_ne_true, List.reduceOption_cons_of_none, induction,
            List.filter_cons_of_neg (by simp [keep])]

end CounterRow

theorem parseRecords_cons {names : List (List Char)} {rows : List (List (List Char))}
    {index : CounterColumn → Nat} (nonempty : rows ≠ [])
    (lookups : ∀ column : CounterColumn,
      (colMap names).lookup column.header = some (index column)) :
    parseRecords (names :: rows) = parseRows index rows := by
  obtain ⟨first, rest, rfl⟩ := List.exists_cons_of_ne_nil nonempty
  have complete : requiredColumns.find? (fun column =>
      ((colMap names).lookup column.header).isNone) = none := by
    apply List.find?_eq_none.mpr
    intro column _
    rw [lookups]
    exact Bool.false_ne_true
  have indices : (fun column : CounterColumn => (colMap names).getD column.header 0) =
      index := by
    funext column
    rw [Table.getD, lookups]
    rfl
  rw [parseRecords, complete]
  exact congrArg (parseRows · (first :: rest)) indices

theorem parseRows_eq {position : CounterColumn → Nat} {rows : List (CounterRow position)}
    {read : List (List (List Char))}
    (same : read.map (List.map Text.trimSpace) = rows.map fun row => readTexts row.row)
    (some_listed : ∃ dc ∈ rows.map CounterRow.record, listed dc) :
    parseRows position read = .ok ((rows.map CounterRow.record).filter listed) := by
  obtain ⟨dc, member, keep⟩ := some_listed
  have nonempty : ((rows.map CounterRow.record).filter listed).isEmpty = false :=
    List.isEmpty_eq_false_iff.mpr (List.ne_nil_of_mem
      (List.mem_filter.mpr ⟨member, keep⟩))
  rw [← CounterRow.reduceOption_outcome] at nonempty ⊢
  rw [parseRows, CounterRow.mapM_parseRow same]
  exact if_neg (Bool.eq_false_iff.mp nonempty)

/-- The counters come back from any rendering of them, each in its own field and in
order, without the rows of the sums and the nameless ones. -/
theorem parseWMICSV_text (table : CounterTable) (crlf : Bool)
    (some_listed : ∃ dc ∈ table.records, listed dc) :
    parseWMICSV (table.text crlf) = .ok (table.records.filter listed) := by
  obtain ⟨records, decoded, same⟩ :=
    Csv.readAll_render crlf (List.cons_ne_nil table.header.row
      (table.rows.map CounterRow.row))
  rw [List.map_cons, List.map_map] at same
  obtain ⟨names, read, rfl, titles, rows⟩ := List.map_eq_cons_iff.mp same
  have nonempty : read ≠ [] := by
    rintro rfl
    obtain ⟨dc, member, -⟩ := some_listed
    rw [CounterTable.records, List.map_eq_nil_iff.mp rows.symm] at member
    exact List.not_mem_nil member
  rw [parseWMICSV, CounterTable.text, decoded]
  exact (parseRecords_cons nonempty (table.header.colMap_lookup titles)).trans
    (parseRows_eq rows some_listed)

/-- A cell as `ConvertTo-Csv` writes it. -/
def quotedCell (text : List Char) : Csv.Cell := ⟨text, true, nofun⟩

def sampleHeader : CounterHeader where
  row := ⟨quotedCell " Name".toList, ["AvgDiskReadQueueLength", "AvgDiskWriteQueueLength",
    "Caption", "DiskReadsPersec", "DiskWritesPersec", "Timestamp_Sys100NS"].map
      fun text => quotedCell text.toList, by decide⟩
  position := fun
    | .name => 0
    | .rdQ => 1
    | .wrQ => 2
    | .rdOps => 4
    | .wrOps => 5
    | .ts => 6
  titled := by
    intro column
    cases column <;> exact ⟨_, rfl, rfl⟩
  untitled := by
    intro i cell here column title
    have indexed : (cell, i) ∈ _ := List.mem_zipIdx_iff_getElem?.mpr here
    simp only [Csv.Row.cells, List.map_cons, List.map_nil, List.zipIdx_cons,
      List.zipIdx_nil, List.mem_cons, List.not_mem_nil, or_false, Prod.mk.injEq]
      at indexed
    rcases indexed with ⟨rfl, rfl⟩ | ⟨rfl, rfl⟩ | ⟨rfl, rfl⟩ | ⟨rfl, rfl⟩ | ⟨rfl, rfl⟩ |
      ⟨rfl, rfl⟩ | ⟨rfl, rfl⟩ <;>
      cases column <;> first | rfl | exact absurd title (by decide)

def sampleRow (record : DiskCounters) (single : record.name.toList.all (· != '\n') = true)
    (trimmed : ∀ column : CounterColumn,
      Text.trimSpace (column.text record) = column.text record) :
    CounterRow sampleHeader.position where
  record := record
  row := ⟨quotedCell record.name.toList,
    [.rdQ, .wrQ, .name, .rdOps, .wrOps, .ts].map fun column : CounterColumn =>
      quotedCell (column.text record), List.cons_ne_nil _ _⟩
  single := fun c member => bne_iff_ne.mp (List.all_eq_true.mp single c member)
  shows := by
    intro column
    refine ⟨quotedCell (column.text record), ?_, trimmed column⟩
    cases column <;> rfl

def sampleTable : CounterTable where
  header := sampleHeader
  rows := [
    sampleRow ⟨"0 C:", 7, 11, 3, 5, 133⟩ rfl (by intro column; cases column <;> rfl),
    sampleRow ⟨"_Total", 7, 11, 3, 5, 133⟩ rfl (by intro column; cases column <;> rfl)]

theorem parseWMICSV_sampleTable :
    parseWMICSV (sampleTable.text true) = .ok [⟨"0 C:", 7, 11, 3, 5, 133⟩] := by
  rw [parseWMICSV_text sampleTable true ⟨_, List.mem_cons_self, rfl⟩]
  rfl

end KubevirtMetrics.Qga
