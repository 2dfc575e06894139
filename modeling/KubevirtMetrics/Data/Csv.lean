import KubevirtMetrics.Data.Lists
import KubevirtMetrics.Data.Text

namespace KubevirtMetrics.Data

/-! The reader of `encoding/csv`, with commas between the fields, leading space
trimmed and any number of fields in a record. -/

namespace Csv

inductive Error
  | bareQuote
  | quote
  deriving DecidableEq

/-- Where the reader is: at the start of a line, at the start of a field, in a field
without or with quotes, or after a quote that may close the field. -/
inductive Mode
  | line
  | start
  | plain
  | quoted
  | closed
  deriving DecidableEq

structure Reader where
  mode : Mode
  field : List Char
  record : List (List Char)
  records : List (List (List Char))

namespace Reader

def endField (r : Reader) : Reader :=
  { r with mode := .start, field := [], record := r.record ++ [r.field] }

def endRecord (r : Reader) : Reader where
  mode := .line
  field := []
  record := []
  records := r.records ++ [r.record ++ [r.field]]

def add (r : Reader) (mode : Mode) (c : Char) : Reader :=
  { r with mode := mode, field := r.field ++ [c] }

def read (r : Reader) (c : Char) : Except Error Reader :=
  match r.mode with
  | .line =>
      -- An empty line is skipped.
      if c = '\n' then .ok r
      else if c = ',' then .ok r.endField
      else if c = '"' then .ok { r with mode := .quoted }
      else if Text.isSpace c then .ok { r with mode := .start }
      else .ok (r.add .plain c)
  | .start =>
      if c = '\n' then .ok r.endRecord
      else if c = ',' then .ok r.endField
      else if c = '"' then .ok { r with mode := .quoted }
      else if Text.isSpace c then .ok r
      else .ok (r.add .plain c)
  | .plain =>
      if c = '\n' then .ok r.endRecord
      else if c = ',' then .ok r.endField
      else if c = '"' then .error .bareQuote
      else .ok (r.add .plain c)
  | .quoted =>
      if c = '"' then .ok { r with mode := .closed }
      else .ok (r.add .quoted c)
  | .closed =>
      if c = '\n' then .ok r.endRecord
      else if c = ',' then .ok r.endField
      else if c = '"' then .ok (r.add .quoted c)
      else .error .quote

def finish (r : Reader) : Except Error (List (List (List Char))) :=
  match r.mode with
  | .line => .ok r.records
  | .start | .plain | .closed => .ok r.endRecord.records
  | .quoted => .error .quote

end Reader

/-- The reader takes `\r\n` for `\n`, and drops `\r` at the end of the text. -/
def readAll (text : List Char) : Except Error (List (List (List Char))) := do
  let text := if text.getLast? = some '\r' then text.dropLast else text
  let r ← (Text.unixLines text).foldlM Reader.read ⟨.line, [], [], []⟩
  r.finish

/-! ### Written fields -/

def plainChar (c : Char) : Bool := c != '\n' && c != '\r' && c != ',' && c != '"'

/-- A field as it is written, with or without quotes around it. -/
structure Cell where
  text : List Char
  quoted : Bool
  plain : quoted = false → text.all plainChar = true

def escape (text : List Char) : List Char :=
  text.flatMap fun c => if c = '"' then ['"', '"'] else [c]

namespace Cell

def render (cell : Cell) : List Char :=
  if cell.quoted then '"' :: (escape cell.text ++ ['"']) else cell.text

/-- What the reader makes of the field. -/
def value (cell : Cell) : List Char :=
  if cell.quoted then cell.text else cell.text.dropWhile Text.isSpace

end Cell

namespace Reader

def Reads (text : List Char) (r next : Reader) : Prop :=
  text.foldlM read r = .ok next

variable {r middle next : Reader} {front back : List Char} {c : Char}

theorem reads_nil (r : Reader) : Reads [] r r := rfl

theorem Reads.cons (step : r.read c = .ok middle) (rest : Reads back middle next) :
    Reads (c :: back) r next := by
  rw [Reads, foldlM_cons_ok step]
  exact rest

theorem Reads.append (first : Reads front r middle) (second : Reads back middle next) :
    Reads (front ++ back) r next := by
  rw [Reads] at first second ⊢
  rw [List.foldlM_append, first]
  exact second

theorem read_comma (closed : r.mode ≠ .quoted) : r.read ',' = .ok r.endField := by
  unfold read
  split
  next => rfl
  next => rfl
  next => rfl
  next inside => exact absurd inside closed
  next => rfl

theorem read_newline (closed : r.mode ≠ .quoted) (begun : r.mode ≠ .line) :
    r.read '\n' = .ok r.endRecord := by
  unfold read
  split
  next here => exact absurd here begun
  next => rfl
  next => rfl
  next inside => exact absurd inside closed
  next => rfl

theorem finish_eq (closed : r.mode ≠ .quoted) (begun : r.mode ≠ .line) :
    r.finish = .ok r.endRecord.records := by
  unfold finish
  split
  next here => exact absurd here begun
  next => rfl
  next => rfl
  next => rfl
  next inside => exact absurd inside closed

variable {field : List Char} {record : List (List Char)}
    {records : List (List (List Char))}

theorem plainChar_iff : plainChar c = true ↔ c ≠ '\n' ∧ c ≠ '\r' ∧ c ≠ ',' ∧ c ≠ '"' := by
  simp [plainChar, and_assoc]

theorem reads_plain {text : List Char} (plain : text.all plainChar = true) :
    Reads text ⟨.plain, field, record, records⟩
      ⟨.plain, field ++ text, record, records⟩ := by
  induction text generalizing field with
  | nil =>
      rw [List.append_nil]
      exact reads_nil _
  | cons c text induction =>
      obtain ⟨first, rest⟩ := Bool.and_eq_true_iff.mp plain
      obtain ⟨newline, -, comma, quote⟩ := plainChar_iff.mp first
      have step : read ⟨.plain, field, record, records⟩ c =
          .ok ⟨.plain, field ++ [c], record, records⟩ := by
        simp only [read]
        rw [if_neg newline, if_neg comma, if_neg quote]
        rfl
      have tail := @induction (field ++ [c]) rest
      rw [List.append_assoc] at tail
      exact .cons step tail

/-- Leading space is skipped. -/
theorem reads_unquoted {mode : Mode} {text : List Char}
    (ready : mode = .line ∨ mode = .start) (plain : text.all plainChar = true) :
    ∃ last, Reads text ⟨mode, [], record, records⟩
        ⟨last, text.dropWhile Text.isSpace, record, records⟩ ∧
      last ≠ .quoted ∧ (mode = .start → last ≠ .line) := by
  induction text generalizing mode with
  | nil =>
      refine ⟨mode, reads_nil _, ?_, ?_⟩
      · rcases ready with rfl | rfl <;> decide
      · rintro rfl
        decide
  | cons c text induction =>
      obtain ⟨first, rest⟩ := Bool.and_eq_true_iff.mp plain
      obtain ⟨newline, -, comma, quote⟩ := plainChar_iff.mp first
      by_cases space : Text.isSpace c = true
      · have step : read ⟨mode, [], record, records⟩ c =
            .ok ⟨.start, [], record, records⟩ := by
          rcases ready with rfl | rfl
          · simp only [read]
            rw [if_neg newline, if_neg comma, if_neg quote, if_pos space]
          · simp only [read]
            rw [if_neg newline, if_neg comma, if_neg quote, if_pos space]
        obtain ⟨last, tail, closed, begun⟩ := induction (.inr rfl) rest
        rw [List.dropWhile_cons_of_pos space]
        exact ⟨last, .cons step tail, closed, fun _ => begun rfl⟩
      · have step : read ⟨mode, [], record, records⟩ c =
            .ok ⟨.plain, [c], record, records⟩ := by
          rcases ready with rfl | rfl
          · simp only [read]
            rw [if_neg newline, if_neg comma, if_neg quote, if_neg space]
            rfl
          · simp only [read]
            rw [if_neg newline, if_neg comma, if_neg quote, if_neg space]
            rfl
        rw [List.dropWhile_cons_of_neg space]
        exact ⟨.plain, .cons step (reads_plain rest), by decide, fun _ => by decide⟩

theorem reads_escape (text : List Char) :
    Reads (escape text) ⟨.quoted, field, record, records⟩
      ⟨.quoted, field ++ text, record, records⟩ := by
  induction text generalizing field with
  | nil =>
      rw [List.append_nil]
      exact reads_nil _
  | cons c text induction =>
      have tail := @induction (field ++ [c])
      rw [List.append_assoc] at tail
      rw [escape, List.flatMap_cons]
      split
      next quote =>
        subst quote
        have opens : read ⟨.quoted, field, record, records⟩ '"' =
            .ok ⟨.closed, field, record, records⟩ := rfl
        have doubles : read ⟨.closed, field, record, records⟩ '"' =
            .ok ⟨.quoted, field ++ ['"'], record, records⟩ := rfl
        exact .cons opens (.cons doubles tail)
      next other =>
        have step : read ⟨.quoted, field, record, records⟩ c =
            .ok ⟨.quoted, field ++ [c], record, records⟩ := by
          simp only [read]
          rw [if_neg other]
          rfl
        exact .cons step tail

theorem reads_cell {mode : Mode} (ready : mode = .line ∨ mode = .start) (cell : Cell) :
    ∃ last, Reads cell.render ⟨mode, [], record, records⟩
        ⟨last, cell.value, record, records⟩ ∧
      last ≠ .quoted ∧ (mode = .start → last ≠ .line) := by
  by_cases quoted : cell.quoted = true
  · refine ⟨.closed, ?_, by decide, fun _ => by decide⟩
    rw [Cell.render, Cell.value, if_pos quoted, if_pos quoted]
    have opens : read ⟨mode, [], record, records⟩ '"' =
        .ok ⟨.quoted, [], record, records⟩ := by
      rcases ready with rfl | rfl
      · rfl
      · rfl
    have closes : read ⟨.quoted, cell.text, record, records⟩ '"' =
        .ok ⟨.closed, cell.text, record, records⟩ := rfl
    exact .cons opens ((reads_escape cell.text).append (.cons closes (reads_nil _)))
  · rw [Cell.render, Cell.value, if_neg quoted, if_neg quoted]
    exact reads_unquoted ready (cell.plain (Bool.eq_false_iff.mpr quoted))

/-! ### Records -/

theorem reads_cells {mode : Mode} (closed : mode ≠ .quoted) (cells : List Cell)
    (nonempty : cells ≠ []) :
    ∃ last fields value, Reads (cells.flatMap fun cell => ',' :: cell.render)
        ⟨mode, field, record, records⟩ ⟨last, value, fields, records⟩ ∧
      fields ++ [value] = record ++ field :: cells.map Cell.value ∧
      last ≠ .quoted ∧ last ≠ .line := by
  induction cells generalizing mode field record with
  | nil => exact absurd rfl nonempty
  | cons cell cells induction =>
      have comma : read ⟨mode, field, record, records⟩ ',' =
          .ok ⟨.start, [], record ++ [field], records⟩ := read_comma closed
      obtain ⟨last, here, notQuoted, notLine⟩ :=
        @reads_cell (record ++ [field]) records .start (.inr rfl) cell
      rw [List.flatMap_cons, List.cons_append]
      cases cells with
      | nil =>
          refine ⟨last, record ++ [field], cell.value, ?_, by simp, notQuoted,
            notLine rfl⟩
          rw [List.flatMap_nil, List.append_nil]
          exact .cons comma here
      | cons other cells =>
          obtain ⟨final, fields, value, tail, same, rest⟩ :=
            @induction cell.value (record ++ [field]) last notQuoted (by simp)
          refine ⟨final, fields, value, .cons comma (here.append tail), ?_, rest⟩
          rw [same]
          simp

end Reader

/-- A line of at least two cells. -/
structure Row where
  first : Cell
  others : List Cell
  wide : others ≠ []

namespace Row

def cells (row : Row) : List Cell := row.first :: row.others

def render (row : Row) : List Char :=
  row.first.render ++ row.others.flatMap fun cell => ',' :: cell.render

def values (row : Row) : List (List Char) := row.cells.map Cell.value

theorem reads_render (row : Row) (records : List (List (List Char))) :
    ∃ last fields value, Reader.Reads row.render ⟨.line, [], [], records⟩
        ⟨last, value, fields, records⟩ ∧
      fields ++ [value] = row.values ∧ last ≠ .quoted ∧ last ≠ .line := by
  obtain ⟨mode, first, closed, -⟩ :=
    @Reader.reads_cell [] records .line (.inl rfl) row.first
  obtain ⟨last, fields, value, rest, same, ends⟩ :=
    Reader.reads_cells closed row.others row.wide
  exact ⟨last, fields, value, first.append rest, same, ends⟩

end Row

/-- Lines that end with a line break each. -/
def renderLines (rows : List Row) : List Char :=
  rows.flatMap fun row => row.render ++ ['\n']

theorem reads_renderLines (rows : List Row) (records : List (List (List Char))) :
    Reader.Reads (renderLines rows) ⟨.line, [], [], records⟩
      ⟨.line, [], [], records ++ rows.map Row.values⟩ := by
  induction rows generalizing records with
  | nil =>
      rw [List.map_nil, List.append_nil]
      exact Reader.reads_nil _
  | cons row rows induction =>
      obtain ⟨last, fields, value, read, same, closed, begun⟩ := row.reads_render records
      have newline : Reader.read ⟨last, value, fields, records⟩ '\n' =
          .ok ⟨.line, [], [], records ++ [fields ++ [value]]⟩ :=
        Reader.read_newline closed begun
      rw [same] at newline
      have tail := induction (records ++ [row.values])
      rw [List.append_assoc] at tail
      exact (read.append (.cons newline (Reader.reads_nil _))).append tail

theorem foldlM_read_eq (rows : List Row) (row : Row) :
    (do
      let r ← (renderLines rows ++ row.render).foldlM Reader.read ⟨.line, [], [], []⟩
      r.finish) = .ok ((rows ++ [row]).map Row.values) := by
  obtain ⟨last, fields, value, read, same, closed, begun⟩ :=
    row.reads_render (rows.map Row.values)
  have whole := (reads_renderLines rows []).append read
  rw [Reader.Reads] at whole
  rw [whole]
  change Reader.finish _ = _
  rw [Reader.finish_eq closed begun, Reader.endRecord, same, List.map_append]
  rfl

/-! ### Line ends -/

theorem head?_escape (text : List Char) : (escape text).head? = text.head? := by
  cases text with
  | nil => rfl
  | cons c text =>
      rw [escape, List.flatMap_cons]
      split
      next quote =>
        rw [quote]
        rfl
      next => rfl

theorem unixLines_escape (text : List Char) :
    Text.unixLines (escape text) = escape (Text.unixLines text) := by
  induction text with
  | nil => rfl
  | cons c text induction =>
      by_cases dropped : c = '\r' ∧ text.head? = some '\n'
      · obtain ⟨rfl, next⟩ := dropped
        have printed : escape ('\r' :: text) = '\r' :: escape text := rfl
        rw [printed, Text.unixLines_drop (by rw [head?_escape, next]),
          Text.unixLines_drop next, induction]
      · rw [Text.unixLines_keep dropped]
        by_cases quote : c = '"'
        · subst quote
          change Text.unixLines ('"' :: '"' :: escape text) =
            '"' :: '"' :: escape (Text.unixLines text)
          rw [Text.unixLines_keep (by simp), Text.unixLines_keep (by simp), induction]
        · have printed : ∀ rest, escape (c :: rest) = c :: escape rest := by
            intro rest
            rw [escape, List.flatMap_cons, if_neg quote]
            rfl
          rw [printed, printed, Text.unixLines_keep (by rwa [head?_escape]), induction]

namespace Cell

theorem ne_of_plain {cell : Cell} (plain : cell.quoted = false) {c : Char}
    (member : c ∈ cell.text) : c ≠ '\n' ∧ c ≠ '\r' ∧ c ≠ ',' ∧ c ≠ '"' :=
  Reader.plainChar_iff.mp (List.all_eq_true.mp (cell.plain plain) c member)

theorem unixLines_text {cell : Cell} (plain : cell.quoted = false) :
    Text.unixLines cell.text = cell.text :=
  Text.unixLines_of_absent fun _ member => (ne_of_plain plain member).1

def unix (cell : Cell) : Cell where
  text := Text.unixLines cell.text
  quoted := cell.quoted
  plain unquoted := by
    rw [unixLines_text unquoted]
    exact cell.plain unquoted

theorem unixLines_render (cell : Cell) :
    Text.unixLines cell.render = cell.unix.render := by
  by_cases quoted : cell.quoted = true
  · simp only [render, unix, quoted, if_true]
    rw [Text.unixLines_keep (by simp), Text.unixLines_append (.inr (by simp)),
      unixLines_escape]
    rfl
  · simp only [render, unix, quoted]
    rfl

theorem getLast?_render_ne (cell : Cell) : cell.render.getLast? ≠ some '\r' := by
  by_cases quoted : cell.quoted = true
  · rw [render, if_pos quoted, ← List.cons_append, List.getLast?_concat]
    decide
  · rw [render, if_neg quoted]
    intro last
    exact (ne_of_plain (Bool.eq_false_iff.mpr quoted) (List.mem_of_getLast? last)).2.1 rfl

theorem unixLines_render_append (cell : Cell) (rest : List Char) :
    Text.unixLines (cell.render ++ rest) = cell.unix.render ++ Text.unixLines rest := by
  rw [Text.unixLines_append (.inl cell.getLast?_render_ne), unixLines_render]

end Cell

def lineEnd (crlf : Bool) : List Char := if crlf then ['\r', '\n'] else ['\n']

theorem unixLines_lineEnd_append (crlf : Bool) (rest : List Char) :
    Text.unixLines (lineEnd crlf ++ rest) = '\n' :: Text.unixLines rest := by
  have newline : Text.unixLines ('\n' :: rest) = '\n' :: Text.unixLines rest :=
    Text.unixLines_keep (by simp)
  cases crlf with
  | false => exact newline
  | true => exact (Text.unixLines_drop rfl).trans newline

namespace Row

def unix (row : Row) : Row where
  first := row.first.unix
  others := row.others.map Cell.unix
  wide := by simpa using row.wide

theorem unixLines_render_append (row : Row) (rest : List Char) :
    Text.unixLines (row.render ++ rest) = row.unix.render ++ Text.unixLines rest := by
  have others : ∀ cells : List Cell,
      Text.unixLines ((cells.flatMap fun cell => ',' :: cell.render) ++ rest) =
        ((cells.map Cell.unix).flatMap fun cell => ',' :: cell.render) ++
          Text.unixLines rest := by
    intro cells
    induction cells with
    | nil => rfl
    | cons cell cells induction =>
        rw [List.flatMap_cons, List.map_cons, List.flatMap_cons, List.cons_append,
          List.cons_append, Text.unixLines_keep (by simp), List.append_assoc,
          cell.unixLines_render_append, induction, List.cons_append, List.cons_append,
          List.append_assoc]
  rw [render, List.append_assoc, row.first.unixLines_render_append, others, render,
    List.append_assoc]
  rfl

end Row

/-- The text of a table. -/
def render (crlf : Bool) (rows : List Row) : List Char :=
  rows.flatMap fun row => row.render ++ lineEnd crlf

theorem unixLines_render (crlf : Bool) (rows : List Row) :
    Text.unixLines (render crlf rows) = renderLines (rows.map Row.unix) := by
  induction rows with
  | nil => rfl
  | cons row rows induction =>
      rw [render, List.flatMap_cons, List.append_assoc, row.unixLines_render_append,
        unixLines_lineEnd_append, ← render, induction]
      simp [renderLines]

theorem unixLines_renderLines_append (rows : List Row) (row : Row) :
    Text.unixLines (renderLines rows ++ row.render) =
      renderLines (rows.map Row.unix) ++ row.unix.render := by
  induction rows with
  | nil =>
      have whole := row.unixLines_render_append []
      rw [List.append_nil] at whole
      rw [renderLines, List.flatMap_nil, List.nil_append, whole]
      exact List.append_nil _
  | cons first rows induction =>
      rw [renderLines, List.flatMap_cons, List.append_assoc, List.append_assoc,
        first.unixLines_render_append, List.singleton_append,
        Text.unixLines_keep (by simp), ← renderLines, induction]
      simp [renderLines]

/-! ### Space around the text -/

theorem dropWhile_append_comma (text rest : List Char) :
    (text ++ ',' :: rest).dropWhile Text.isSpace =
      text.dropWhile Text.isSpace ++ ',' :: rest := by
  rw [List.dropWhile_append]
  split
  next blank =>
    rw [List.isEmpty_iff.mp blank]
    rfl
  next => rfl

namespace Cell

/-- The text of a cell up to line ends and space around it. -/
def trimmed (cell : Cell) : List Char := Text.trimSpace (Text.unixLines cell.text)

theorem trimSpace_value_unix (cell : Cell) :
    Text.trimSpace cell.unix.value = cell.trimmed := by
  rw [value]
  split
  next => rfl
  next => exact Text.trimSpace_dropWhile cell.unix.text

theorem trimmed_of_plain {cell : Cell} (plain : cell.quoted = false) :
    cell.trimmed = Text.trimSpace cell.text := by
  rw [trimmed, unixLines_text plain]

theorem exists_trimLeft (cell : Cell) (rest : List Char) :
    ∃ other : Cell, other.trimmed = cell.trimmed ∧
      (cell.render ++ ',' :: rest).dropWhile Text.isSpace =
        other.render ++ ',' :: rest := by
  by_cases quoted : cell.quoted = true
  · refine ⟨cell, rfl, ?_⟩
    rw [render, if_pos quoted]
    rfl
  · have unquoted := Bool.eq_false_iff.mpr quoted
    have plain := List.all_eq_true.mp (cell.plain unquoted)
    refine ⟨⟨cell.text.dropWhile Text.isSpace, false, fun _ => List.all_eq_true.mpr
      fun c member => plain c ((List.dropWhile_subset _) member)⟩, ?_, ?_⟩
    · rw [trimmed_of_plain rfl, trimmed_of_plain unquoted, Text.trimSpace_dropWhile]
    · rw [render, if_neg quoted]
      exact dropWhile_append_comma cell.text rest

theorem exists_trimRight (cell : Cell) (front : List Char) :
    ∃ other : Cell, other.trimmed = cell.trimmed ∧
      ((front ++ ',' :: (cell.render ++ ['\n'])).reverse.dropWhile Text.isSpace).reverse =
        front ++ ',' :: other.render := by
  have backwards : (front ++ ',' :: (cell.render ++ ['\n'])).reverse =
      '\n' :: (cell.render.reverse ++ ',' :: front.reverse) := by simp
  rw [backwards, List.dropWhile_cons_of_pos (by decide)]
  by_cases quoted : cell.quoted = true
  · refine ⟨cell, rfl, ?_⟩
    have last : cell.render.reverse = '"' :: (escape cell.text).reverse ++ ['"'] := by
      simp [render, quoted]
    rw [last, List.cons_append, List.cons_append,
      List.dropWhile_cons_of_neg (by decide), ← List.cons_append, ← List.cons_append,
      ← last]
    simp
  · have unquoted := Bool.eq_false_iff.mpr quoted
    have plain := List.all_eq_true.mp (cell.plain unquoted)
    refine ⟨⟨(cell.text.reverse.dropWhile Text.isSpace).reverse, false, fun _ =>
      List.all_eq_true.mpr fun c member => plain c (List.mem_reverse.mp
        ((List.dropWhile_subset _) (List.mem_reverse.mp member)))⟩, ?_, ?_⟩
    · rw [trimmed_of_plain rfl, trimmed_of_plain unquoted,
        Text.trimSpace_reverse_dropWhile]
    · rw [render, if_neg quoted, dropWhile_append_comma, List.reverse_append,
        List.reverse_cons, List.reverse_reverse, List.append_assoc]
      rfl

end Cell

namespace Row

def trimmed (row : Row) : List (List Char) := row.cells.map Cell.trimmed

theorem map_trimSpace_values (row : Row) :
    row.unix.values.map Text.trimSpace = row.trimmed := by
  have cellsEq : row.unix.cells = row.cells.map Cell.unix := rfl
  rw [values, cellsEq, List.map_map, List.map_map]
  exact List.map_congr_left fun cell _ => cell.trimSpace_value_unix

theorem exists_trimLeft (row : Row) (rest : List Char) :
    ∃ other : Row, other.trimmed = row.trimmed ∧
      (row.render ++ rest).dropWhile Text.isSpace = other.render ++ rest := by
  obtain ⟨first, others, wide⟩ := row
  cases others with
  | nil => exact absurd rfl wide
  | cons cell others =>
      obtain ⟨other, same, trimmed⟩ := first.exists_trimLeft
        (cell.render ++ (others.flatMap fun cell => ',' :: cell.render) ++ rest)
      refine ⟨⟨other, cell :: others, wide⟩, ?_, ?_⟩
      · simp [Row.trimmed, cells, same]
      · simpa [render] using trimmed

theorem exists_trimRight (row : Row) (front : List Char) :
    ∃ other : Row, other.trimmed = row.trimmed ∧
      ((front ++ (row.render ++ ['\n'])).reverse.dropWhile Text.isSpace).reverse =
        front ++ other.render := by
  obtain ⟨first, others, wide⟩ := row
  obtain ⟨init, last, rfl⟩ := (List.eq_nil_or_concat others).resolve_left wide
  obtain ⟨other, same, trimmed⟩ := last.exists_trimRight
    (front ++ (first.render ++ init.flatMap fun cell => ',' :: cell.render))
  refine ⟨⟨first, init ++ [other], by simp⟩, ?_, ?_⟩
  · simp [Row.trimmed, cells, same]
  · simpa [render] using trimmed

end Row

theorem exists_trimSpace_renderLines {rows : List Row} (nonempty : rows ≠ []) :
    ∃ init last, Text.trimSpace (renderLines rows) = renderLines init ++ last.render ∧
      (init ++ [last]).map Row.trimmed = rows.map Row.trimmed := by
  cases rows with
  | nil => exact absurd rfl nonempty
  | cons row rows =>
      obtain ⟨first, sameFirst, left⟩ := row.exists_trimLeft (['\n'] ++ renderLines rows)
      have split : renderLines (row :: rows) = row.render ++
          (['\n'] ++ renderLines rows) := by
        simp [renderLines]
      obtain ⟨init, last, ends⟩ :=
        (List.eq_nil_or_concat (first :: rows)).resolve_left (by simp)
      rw [List.concat_eq_append] at ends
      have joined : first.render ++ (['\n'] ++ renderLines rows) =
          renderLines init ++ (last.render ++ ['\n']) := by
        have whole := congrArg renderLines ends
        simpa [renderLines] using whole
      obtain ⟨other, sameLast, right⟩ := last.exists_trimRight (renderLines init)
      refine ⟨init, other, ?_, ?_⟩
      · rw [Text.trimSpace, split, left, joined, right]
      · have texts := congrArg (List.map Row.trimmed) ends
        rw [List.map_cons, List.map_append, List.map_singleton, sameFirst, ← sameLast]
          at texts
        rw [List.map_cons, texts, List.map_append]
        rfl

/-- Reading a table that was written with either line end, after the line ends are
unified and space around the whole text is cut off, gives its cells again up to line
ends and space around each. -/
theorem readAll_render (crlf : Bool) {rows : List Row} (nonempty : rows ≠ []) :
    ∃ records, readAll (Text.trimSpace (Text.unixLines (render crlf rows))) =
      .ok records ∧
      records.map (List.map Text.trimSpace) =
        rows.map fun row => row.cells.map fun cell =>
          Text.unixLines (Text.unixLines (Text.trimSpace cell.text)) := by
  have unified : rows.map Row.unix ≠ [] := by simpa using nonempty
  obtain ⟨init, last, text, same⟩ := exists_trimSpace_renderLines unified
  have unreturned : (renderLines init ++ last.render).getLast? ≠ some '\r' := by
    rw [← text]
    intro returned
    exact absurd (Text.trimSpace_ends _ _ returned) (by decide)
  refine ⟨((init.map Row.unix) ++ [last.unix]).map Row.values, ?_, ?_⟩
  · rw [unixLines_render, text, readAll]
    simp only [if_neg unreturned]
    rw [unixLines_renderLines_append]
    exact foldlM_read_eq (init.map Row.unix) last.unix
  · have rowsEq : (init.map Row.unix) ++ [last.unix] = (init ++ [last]).map Row.unix := by
      simp
    have trimmed : ((init ++ [last]).map Row.unix).map
        (List.map Text.trimSpace ∘ Row.values) =
        (init ++ [last]).map Row.trimmed := by
      rw [List.map_map]
      exact List.map_congr_left fun row _ => row.map_trimSpace_values
    rw [rowsEq, List.map_map, trimmed, same, List.map_map]
    apply List.map_congr_left
    intro row _
    have cellsEq : row.unix.cells = row.cells.map Cell.unix := rfl
    rw [Function.comp_apply, Row.trimmed, cellsEq, List.map_map]
    apply List.map_congr_left
    intro cell _
    rw [Function.comp_apply, Cell.trimmed, Text.trimSpace_unixLines, Cell.unix,
      Text.trimSpace_unixLines]

end Csv

end KubevirtMetrics.Data
