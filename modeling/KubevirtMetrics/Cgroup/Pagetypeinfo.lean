import KubevirtMetrics.Cgroup.Buddyinfo

namespace KubevirtMetrics.Cgroup

open Data

/-! `pagetypeinfo.go`. -/

def pagetypeSaturatedPageCeiling : Nat := 100000

/-- The migrate types that are excluded from movable memory. -/
inductive Excluded
  | unmovable
  | isolate
  deriving DecidableEq

def Excluded.migratype : Excluded → List Char
  | .unmovable => "Unmovable".toList
  | .isolate => "Isolate".toList

structure NumaPagetypeExcluded where
  numa : String
  unmovableOrderGe9Bytes : UInt64
  unmovableAllOrdersBytes : UInt64
  isolateOrderGe9Bytes : UInt64
  isolateAllOrdersBytes : UInt64
  deriving DecidableEq

abbrev PagetypeExcludedByZone := Table String (Table String NumaPagetypeExcluded)

namespace NumaPagetypeExcluded

def zero (numa : String) : NumaPagetypeExcluded := ⟨numa, 0, 0, 0, 0⟩

def bytes (entry : NumaPagetypeExcluded) : Excluded → OrderBytes
  | .unmovable => ⟨entry.unmovableOrderGe9Bytes, entry.unmovableAllOrdersBytes⟩
  | .isolate => ⟨entry.isolateOrderGe9Bytes, entry.isolateAllOrdersBytes⟩

/-- The assignments through `orderGe9Field` and `allOrdersField`. -/
def setBytes (entry : NumaPagetypeExcluded) (bytes : OrderBytes) :
    Excluded → NumaPagetypeExcluded
  | .unmovable => { entry with
      unmovableOrderGe9Bytes := bytes.orderGe9
      unmovableAllOrdersBytes := bytes.allOrders }
  | .isolate => { entry with
      isolateOrderGe9Bytes := bytes.orderGe9
      isolateAllOrdersBytes := bytes.allOrders }

@[simp] theorem setBytes_numa (entry : NumaPagetypeExcluded) (bytes : OrderBytes)
    (kind : Excluded) : (entry.setBytes bytes kind).numa = entry.numa := by
  cases kind with
  | unmovable => rfl
  | isolate => rfl

theorem bytes_setBytes (entry : NumaPagetypeExcluded) (bytes : OrderBytes)
    (kind other : Excluded) :
    (entry.setBytes bytes kind).bytes other =
      if other = kind then bytes else entry.bytes other := by
  cases kind with
  | unmovable =>
      cases other with
      | unmovable => rfl
      | isolate => rfl
  | isolate =>
      cases other with
      | unmovable => rfl
      | isolate => rfl

end NumaPagetypeExcluded

inductive PagetypeError
  | open_
  | count (numa : String) (order : Nat)
  | scan
  | noEntries
  | zone (zone : String)
  deriving DecidableEq

def parsePagetypePageCount (s : List Char) : Option Nat :=
  if ['>'].isPrefixOf s then some pagetypeSaturatedPageCeiling
  else Text.parseUint? 64 s

def excluded? (migratype : List Char) : Option Excluded :=
  if migratype = Excluded.unmovable.migratype then some .unmovable
  else if migratype = Excluded.isolate.migratype then some .isolate
  else none

def freeHeader : List Char := "Free pages count per migrate type".toList

def blocksHeader : List Char := "Number of blocks".toList

structure PagetypeScan where
  byZone : PagetypeExcludedByZone
  inFreeSection : Bool

/-- The entry that a row of an excluded migrate type leaves. -/
def updateEntry (byZone : PagetypeExcludedByZone) (zone numa : String)
    (kind : Excluded) (bytes : OrderBytes) : PagetypeExcludedByZone :=
  let entry := (byZone.nestedLookup zone numa).getD (.zero "")
  let entry := if entry.numa = "" then { entry with numa := numa } else entry
  byZone.nestedInsert zone numa (entry.setBytes bytes kind)

/-- The row of a free section. -/
def PagetypeScan.row (s : PagetypeScan) (line : List Char) :
    Except PagetypeError PagetypeScan :=
  match Text.fields line with
  | node :: numa :: zoneWord :: zone :: typeWord :: migratype :: count :: counts =>
      if node = "Node".toList ∧ zoneWord = "zone".toList ∧
          typeWord = "type".toList then
        match excluded? migratype with
        | none => .ok s
        | some kind =>
            match bytesFromCounts parsePagetypePageCount (count :: counts) with
            | .error order => .error (.count (trimComma numa) order)
            | .ok bytes =>
                .ok { s with
                  byZone := updateEntry s.byZone (trimComma zone)
                    (trimComma numa) kind bytes }
      else .ok s
  | _ => .ok s

/-- The body of the loop over the lines. -/
def PagetypeScan.line (s : PagetypeScan) (line : List Char) :
    Except PagetypeError PagetypeScan :=
  if freeHeader.isPrefixOf line then .ok { s with inFreeSection := true }
  else if !s.inFreeSection then .ok s
  else if blocksHeader.isPrefixOf line then
    .ok { s with inFreeSection := false }
  else if line = [] then .ok s
  else s.row line

def readPagetypeExcludedAllZones (content : Option (List Char)) :
    Except PagetypeError PagetypeExcludedByZone :=
  match content with
  | none => .error .open_
  | some text => do
      let (lines, complete) := scanned text
      let s ← lines.foldlM PagetypeScan.line ⟨∅, false⟩
      if !complete then throw .scan
      if s.byZone = ∅ then throw .noEntries
      return s.byZone

/-! ### The layouts of the file -/

inductive PageField
  | exact (blocks : Nat)
  | saturated (text : List Char)

namespace PageField

def text : PageField → List Char
  | .exact blocks => Text.numeral blocks
  | .saturated text => '>' :: text

def blocks : PageField → Nat
  | .exact blocks => blocks
  | .saturated _ => pagetypeSaturatedPageCeiling

theorem parse_text {field : PageField} (small : field.blocks < 2 ^ 64) :
    parsePagetypePageCount field.text = some field.blocks := by
  cases field with
  | saturated text => rfl
  | exact blocks =>
      have digits : ['>'].isPrefixOf (Text.numeral blocks) = false := by
        rw [← Bool.not_eq_true, List.isPrefixOf_iff_prefix]
        rintro ⟨rest, saturated⟩
        have marked : '>' ∈ Text.numeral blocks := saturated ▸ List.mem_cons_self
        exact Text.toString_ne_of_not_digit (by decide) '>' marked rfl
      rw [parsePagetypePageCount, text, digits]
      exact Text.parseUint?_numeral small

end PageField

/-- The free blocks of one migrate type in a zone of a node. -/
structure PageRow where
  numa : Nat
  zone : List Char
  migratype : List Char
  fields : List PageField
  counted : fields ≠ [] := by simp

namespace PageRow

def node (row : PageRow) : String := String.ofList (Text.numeral row.numa)

def zoneName (row : PageRow) : String := String.ofList row.zone

def kind (row : PageRow) : Option Excluded := excluded? row.migratype

def counts (row : PageRow) : List Nat := row.fields.map PageField.blocks

def bytes (row : PageRow) : OrderBytes :=
  ⟨UInt64.ofNat (freeBytes 9 row.counts), UInt64.ofNat (freeBytes 0 row.counts)⟩

def key (row : PageRow) : Nat × List Char × List Char :=
  (row.numa, row.zone, row.migratype)

/-- `Node 0, zone Normal, type Unmovable 1 2 ...`, with any white space between the
words. -/
def PrintedAs (row : PageRow) (line : ProcLine) : Prop :=
  Text.fields line.text =
    "Node".toList :: (Text.numeral row.numa ++ [',']) :: "zone".toList ::
      (row.zone ++ [',']) :: "type".toList :: row.migratype ::
        row.fields.map PageField.text

instance (row : PageRow) (line : ProcLine) : Decidable (row.PrintedAs line) :=
  inferInstanceAs (Decidable (Text.fields line.text = _))

end PageRow

/-- A line of the file, with the row that it prints; a line is in a section of free
pages or is not. -/
inductive PagetypeLine : Bool → ProcLine → Option PageRow → Bool → Prop
  | freeSection {inFree : Bool} {line : ProcLine}
      (header : freeHeader <+: line.text) : PagetypeLine inFree line none true
  | blocksSection {inFree : Bool} {line : ProcLine}
      (header : blocksHeader <+: line.text) : PagetypeLine inFree line none false
  | row {row : PageRow} {line : ProcLine} (printed : row.PrintedAs line) :
      PagetypeLine true line (some row) true
  | blockCounts {line : ProcLine} (other : ¬ freeHeader <+: line.text) :
      PagetypeLine false line none false
  | pageBlock {inFree : Bool} {line : ProcLine}
      (header : "Page block order:".toList <+: line.text ∨
        "Pages per block:".toList <+: line.text) :
      PagetypeLine inFree line none inFree
  | blank {inFree : Bool} {line : ProcLine} (blank : Text.fields line.text = []) :
      PagetypeLine inFree line none inFree

/-- The ways to print rows as a file. -/
inductive PagetypeText : Bool → List PageRow → List ProcLine → Prop
  | nil {inFree : Bool} : PagetypeText inFree [] []
  | line {inFree next : Bool} {row : Option PageRow} {rows : List PageRow}
      {line : ProcLine} {lines : List ProcLine}
      (first : PagetypeLine inFree line row next)
      (rest : PagetypeText next rows lines) :
      PagetypeText inFree (row.toList ++ rows) (line :: lines)

/-! ### One line -/

namespace PagetypeScan

theorem head?_of_freeHeader {text : List Char} (header : freeHeader <+: text) :
    (Text.fields text).head? = some "Free".toList :=
  Text.head?_fields "Free".toList "pages count per migrate type".toList
    (by decide) (by decide) header

theorem head?_of_blocksHeader {text : List Char} (header : blocksHeader <+: text) :
    (Text.fields text).head? = some "Number".toList :=
  Text.head?_fields "Number".toList "of blocks".toList (by decide)
    (by decide) header

theorem line_of_freeHeader (s : PagetypeScan) {text : List Char}
    (header : freeHeader <+: text) :
    s.line text = .ok { s with inFreeSection := true } :=
  if_pos (List.isPrefixOf_iff_prefix.mpr header)

theorem not_freeHeader {text : List Char}
    (other : (Text.fields text).head? ≠ some "Free".toList) :
    ¬ freeHeader.isPrefixOf text = true :=
  fun header => other (head?_of_freeHeader (List.isPrefixOf_iff_prefix.mp header))

theorem line_of_blocksHeader (s : PagetypeScan) {text : List Char}
    (header : blocksHeader <+: text) :
    s.line text = .ok { s with inFreeSection := false } := by
  have other : ¬ freeHeader.isPrefixOf text = true := by
    apply not_freeHeader
    rw [head?_of_blocksHeader header]
    decide
  rw [line, if_neg other, if_pos (List.isPrefixOf_iff_prefix.mpr header)]
  cases s with
  | mk byZone inFreeSection =>
      cases inFreeSection with
      | false => rfl
      | true => rfl

/-- A line that is not a header is read as a row, in a section of free pages. -/
theorem line_of_other (s : PagetypeScan) {text : List Char}
    (notFree : (Text.fields text).head? ≠ some "Free".toList)
    (notBlocks : (Text.fields text).head? ≠ some "Number".toList) :
    s.line text = if s.inFreeSection then s.row text else .ok s := by
  have other : ¬ blocksHeader.isPrefixOf text = true := fun header =>
    notBlocks (head?_of_blocksHeader (List.isPrefixOf_iff_prefix.mp header))
  rw [line, if_neg (not_freeHeader notFree)]
  cases s.inFreeSection with
  | false => rfl
  | true =>
      simp only [Bool.not_true, Bool.false_eq_true, if_false, if_true, other]
      split
      next empty =>
        subst empty
        rfl
      next => rfl

theorem row_of_other (s : PagetypeScan) {text : List Char}
    (other : (Text.fields text).head? ≠ some "Node".toList) :
    s.row text = .ok s := by
  unfold row
  split
  next node _ _ _ _ _ _ _ words =>
    refine if_neg ?_
    rintro ⟨rfl, -⟩
    rw [words] at other
    exact other rfl
  next => rfl

theorem line_of_skipped (s : PagetypeScan) {text : List Char}
    (notFree : (Text.fields text).head? ≠ some "Free".toList)
    (notBlocks : (Text.fields text).head? ≠ some "Number".toList)
    (notRow : (Text.fields text).head? ≠ some "Node".toList) :
    s.line text = .ok s := by
  rw [line_of_other s notFree notBlocks, row_of_other s notRow, ite_self]

theorem line_of_pageBlock (s : PagetypeScan) {text : List Char}
    (header : "Page block order:".toList <+: text ∨
      "Pages per block:".toList <+: text) :
    s.line text = .ok s := by
  rcases header with order | pages
  · have first : (Text.fields text).head? = some "Page".toList :=
      Text.head?_fields "Page".toList "block order:".toList (by decide)
        (by decide) order
    exact s.line_of_skipped (by simp [first]) (by simp [first]) (by simp [first])
  · have first : (Text.fields text).head? = some "Pages".toList :=
      Text.head?_fields "Pages".toList "per block:".toList (by decide)
        (by decide) pages
    exact s.line_of_skipped (by simp [first]) (by simp [first]) (by simp [first])

end PagetypeScan

theorem le_freeBytes {counts : List Nat} {blocks : Nat} (member : blocks ∈ counts) :
    blocks ≤ freeBytes 0 counts := by
  obtain ⟨order, inside, rfl⟩ := List.getElem_of_mem member
  have term := Finset.single_le_sum
    (f := fun order => counts.getD order 0 * (pageSize * 2 ^ order))
    (fun _ _ => Nat.zero_le _) (Finset.mem_range.mpr inside)
  rw [List.getD_eq_getElem _ _ inside] at term
  have positive : 0 < pageSize * 2 ^ order :=
    Nat.mul_pos (by decide) (Nat.two_pow_pos order)
  exact (Nat.le_mul_of_pos_right _ positive).trans
    (by simpa [freeBytes] using term)

namespace PageRow

theorem bytesFromCounts_texts {row : PageRow}
    (total : freeBytes 0 row.counts < 2 ^ 64) :
    bytesFromCounts parsePagetypePageCount (row.fields.map PageField.text) =
      .ok row.bytes := by
  apply bytesFromCounts_ok
  rw [counts, List.map_map, List.map_map]
  apply List.map_congr_left
  intro field member
  exact PageField.parse_text
    ((le_freeBytes (List.mem_map_of_mem member)).trans_lt total)

end PageRow

/-- What a row leaves in the table. -/
def addPageRow (byZone : PagetypeExcludedByZone) (row : PageRow) :
    PagetypeExcludedByZone :=
  match row.kind with
  | none => byZone
  | some kind => updateEntry byZone row.zoneName row.node kind row.bytes

namespace PagetypeScan

theorem row_of_printed (s : PagetypeScan) {row : PageRow} {line : ProcLine}
    (printed : row.PrintedAs line)
    (total : row.kind ≠ none → freeBytes 0 row.counts < 2 ^ 64) :
    s.row line.text = .ok { s with byZone := addPageRow s.byZone row } := by
  obtain ⟨field, others, fields⟩ := List.exists_cons_of_ne_nil row.counted
  have words := printed
  rw [PageRow.PrintedAs, fields, List.map_cons] at words
  simp only [PagetypeScan.row, words, and_self, if_true]
  unfold addPageRow PageRow.kind at *
  cases kind : excluded? row.migratype with
  | none => rfl
  | some kind' =>
      have bytes := PageRow.bytesFromCounts_texts (total (by simp [kind]))
      rw [fields, List.map_cons] at bytes
      simp only [bytes, trimComma, Text.trimSuffix_append]
      rfl

theorem line_of_printed {inFree next : Bool} {row : Option PageRow}
    {line : ProcLine} (printed : PagetypeLine inFree line row next)
    (totals : ∀ page ∈ row, page.kind ≠ none → freeBytes 0 page.counts < 2 ^ 64)
    (byZone : PagetypeExcludedByZone) :
    PagetypeScan.line ⟨byZone, inFree⟩ line.text =
      .ok ⟨row.toList.foldl addPageRow byZone, next⟩ := by
  cases printed with
  | freeSection header => exact line_of_freeHeader _ header
  | blocksSection header => exact line_of_blocksHeader _ header
  | @row page _ words =>
      have first : (Text.fields line.text).head? = some "Node".toList := by
        rw [words]
        rfl
      rw [line_of_other _ (by simp [first]) (by simp [first])]
      exact row_of_printed _ words (totals page rfl)
  | blockCounts other =>
      exact if_neg fun header => other (List.isPrefixOf_iff_prefix.mp header)
  | pageBlock header => exact line_of_pageBlock _ header
  | blank blank =>
      exact line_of_skipped _ (by simp [blank]) (by simp [blank]) (by simp [blank])

/-- The run over the lines leaves what the rows leave, whatever the layout. -/
theorem foldlM_line_of_printed {inFree : Bool} {rows : List PageRow}
    {lines : List ProcLine} (printed : PagetypeText inFree rows lines)
    (totals : ∀ row ∈ rows, row.kind ≠ none → freeBytes 0 row.counts < 2 ^ 64)
    (byZone : PagetypeExcludedByZone) :
    ∃ final, (lines.map ProcLine.text).foldlM PagetypeScan.line ⟨byZone, inFree⟩ =
      .ok ⟨rows.foldl addPageRow byZone, final⟩ := by
  induction printed generalizing byZone with
  | nil => exact ⟨_, rfl⟩
  | @line inFree next row rows line lines first rest induction =>
      have step := line_of_printed first (fun page member =>
        totals page (List.mem_append_left _ (Option.mem_toList.mpr member))) byZone
      rw [List.map_cons, foldlM_cons_ok step, List.foldl_append]
      exact induction
        (fun page member => totals page (List.mem_append_right _ member)) _

end PagetypeScan

/-! ### The table -/

namespace PageRow

/-- The row of an excluded migrate type that a field of an entry is read from. -/
def Fills (row : PageRow) (zone node : String) (kind : Excluded) : Prop :=
  row.zoneName = zone ∧ row.node = node ∧ row.kind = some kind

instance (row : PageRow) (zone node : String) (kind : Excluded) :
    Decidable (row.Fills zone node kind) :=
  inferInstanceAs (Decidable (_ ∧ _ ∧ _))

theorem migratype_eq {row : PageRow} {kind : Excluded}
    (own : row.kind = some kind) : row.migratype = kind.migratype := by
  unfold PageRow.kind excluded? at own
  split at own
  next unmovable =>
    obtain rfl := Option.some.inj own
    exact unmovable
  next =>
    split at own
    next isolate =>
      obtain rfl := Option.some.inj own
      exact isolate
    next => cases own

theorem fills_iff_key {row : PageRow} {kind : Excluded}
    (own : row.kind = some kind) (other : PageRow) :
    other.Fills row.zoneName row.node kind ↔ other.key = row.key := by
  constructor
  · rintro ⟨zone, node, same⟩
    have numa : other.numa = row.numa :=
      Text.toList_toString_inj (String.ofList_injective node)
    rw [key, numa, String.ofList_injective zone, migratype_eq same, key,
      migratype_eq own]
  · intro same
    obtain ⟨numa, rest⟩ := Prod.mk.inj same
    obtain ⟨zone, migratype⟩ := Prod.mk.inj rest
    refine ⟨congrArg String.ofList zone, ?_, ?_⟩
    · rw [node, numa, ← node]
    · rw [PageRow.kind, migratype]
      exact own

end PageRow

/-- The bytes of the row that fills a field, if there is one. -/
def filledBytes (rows : List PageRow) (zone node : String) (kind : Excluded) :
    OrderBytes :=
  match rows.find? fun row => row.Fills zone node kind with
  | none => ⟨0, 0⟩
  | some row => row.bytes

theorem filledBytes_of_mem {rows : List PageRow}
    (distinct : (rows.map PageRow.key).Nodup) {row : PageRow} (member : row ∈ rows)
    {kind : Excluded} (own : row.kind = some kind) :
    filledBytes rows row.zoneName row.node kind = row.bytes := by
  have found := find?_of_nodup distinct member
  simp only [← PageRow.fills_iff_key own] at found
  rw [filledBytes, found]

theorem filledBytes_of_absent {rows : List PageRow} {zone node : String}
    {kind : Excluded} (absent : ∀ row ∈ rows, ¬ row.Fills zone node kind) :
    filledBytes rows zone node kind = ⟨0, 0⟩ := by
  have missing : rows.find? (fun row => row.Fills zone node kind) = none := by
    rw [List.find?_eq_none]
    simpa using absent
  rw [filledBytes, missing]

theorem filledBytes_append (rows : List PageRow) {row : PageRow}
    {zone node : String} {kind : Excluded} (other : ¬ row.Fills zone node kind) :
    filledBytes (rows ++ [row]) zone node kind =
      filledBytes rows zone node kind := by
  rw [filledBytes, List.find?_append, List.find?_cons_of_neg (by simpa using other),
    List.find?_nil, Option.or_none]
  rfl

def entryOf (rows : List PageRow) (zone node : String) : NumaPagetypeExcluded :=
  ((NumaPagetypeExcluded.zero node).setBytes
    (filledBytes rows zone node .unmovable) .unmovable).setBytes
    (filledBytes rows zone node .isolate) .isolate

namespace NumaPagetypeExcluded

theorem ext_bytes {entry other : NumaPagetypeExcluded}
    (numa : entry.numa = other.numa)
    (bytes : ∀ kind, entry.bytes kind = other.bytes kind) : entry = other := by
  obtain ⟨ge9, all⟩ := OrderBytes.mk.inj (bytes .unmovable)
  obtain ⟨ge9', all'⟩ := OrderBytes.mk.inj (bytes .isolate)
  cases entry with
  | mk => cases other with
    | mk =>
      dsimp only at numa ge9 all ge9' all'
      rw [numa, ge9, all, ge9', all']

end NumaPagetypeExcluded

@[simp] theorem entryOf_numa (rows : List PageRow) (zone node : String) :
    (entryOf rows zone node).numa = node := rfl

@[simp] theorem entryOf_bytes (rows : List PageRow) (zone node : String)
    (kind : Excluded) :
    (entryOf rows zone node).bytes kind = filledBytes rows zone node kind := by
  cases kind with
  | unmovable => rfl
  | isolate => rfl

/-- The rows have an entry for a node in a zone. -/
def Listed (rows : List PageRow) (zone node : String) : Prop :=
  ∃ row ∈ rows, ∃ kind, row.Fills zone node kind

theorem listed_append (rows : List PageRow) {row : PageRow} {zone node : String} :
    Listed (rows ++ [row]) zone node ↔
      Listed rows zone node ∨ ∃ kind, row.Fills zone node kind := by
  simp only [Listed, List.mem_append, List.mem_singleton, or_and_right, exists_or,
    exists_eq_left]

theorem entryOf_of_not_listed {rows : List PageRow} {zone node : String}
    (absent : ¬ Listed rows zone node) :
    entryOf rows zone node = .zero node := by
  apply NumaPagetypeExcluded.ext_bytes (entryOf_numa rows zone node)
  intro kind
  rw [entryOf_bytes, filledBytes_of_absent fun row member fills =>
    absent ⟨row, member, kind, fills⟩]
  cases kind with
  | unmovable => rfl
  | isolate => rfl

open Classical in
theorem nestedLookup_updateEntry {byZone : PagetypeExcludedByZone}
    {rows : List PageRow}
    (table : ∀ zone node, byZone.nestedLookup zone node =
      if Listed rows zone node then some (entryOf rows zone node) else none)
    (zone numa zone' numa' : String) (kind : Excluded) (bytes : OrderBytes) :
    (updateEntry byZone zone numa kind bytes).nestedLookup zone' numa' =
      if zone' = zone ∧ numa' = numa then
        some ((entryOf rows zone numa).setBytes bytes kind)
      else byZone.nestedLookup zone' numa' := by
  have entry : (let entry := (byZone.nestedLookup zone numa).getD (.zero "")
      if entry.numa = "" then { entry with numa := numa } else entry) =
        entryOf rows zone numa := by
    rw [table]
    by_cases listed : Listed rows zone numa
    · rw [if_pos listed]
      dsimp only [Option.getD_some]
      split
      next unnamed =>
        rw [entryOf_numa] at unnamed
        subst unnamed
        rfl
      next => rfl
    · rw [if_neg listed, entryOf_of_not_listed listed]
      rfl
  rw [updateEntry, Table.nestedLookup_nestedInsert, entry]

open Classical in
/-- The table that the rows leave. -/
theorem nestedLookup_foldl_addPageRow {rows : List PageRow}
    (distinct : (rows.map PageRow.key).Nodup) (zone node : String) :
    (rows.foldl addPageRow ∅).nestedLookup zone node =
      if Listed rows zone node then some (entryOf rows zone node) else none := by
  induction rows using List.reverseRecOn generalizing zone node with
  | nil => simp [Listed]
  | append_singleton rows row induction =>
      have earlier := induction
        (distinct.sublist ((List.sublist_append_left rows [row]).map _))
      rw [List.foldl_append, List.foldl_cons, List.foldl_nil, addPageRow]
      by_cases here : ∃ kind, row.Fills zone node kind
      · -- the row sets the fields of its own migrate type and keeps the others
        obtain ⟨kind, rfl, rfl, own⟩ := here
        have listed : Listed (rows ++ [row]) row.zoneName row.node :=
          ⟨row, by simp, kind, rfl, rfl, own⟩
        rw [own]
        dsimp only
        rw [nestedLookup_updateEntry earlier, if_pos ⟨rfl, rfl⟩, if_pos listed]
        congr 1
        refine NumaPagetypeExcluded.ext_bytes (by simp) fun other => ?_
        rw [NumaPagetypeExcluded.bytes_setBytes, entryOf_bytes, entryOf_bytes]
        by_cases same : other = kind
        · rw [if_pos same, same, filledBytes_of_mem distinct (by simp) own]
        · rw [if_neg same, filledBytes_append]
          rintro ⟨-, -, own'⟩
          exact same (Option.some.inj (own'.symm.trans own))
      · have same : entryOf (rows ++ [row]) zone node = entryOf rows zone node := by
          refine NumaPagetypeExcluded.ext_bytes rfl fun kind => ?_
          rw [entryOf_bytes, entryOf_bytes,
            filledBytes_append rows fun fills => here ⟨kind, fills⟩]
        simp only [listed_append, here, or_false, same]
        cases own : row.kind with
        | none => exact earlier zone node
        | some kind =>
            dsimp only
            rw [nestedLookup_updateEntry earlier, if_neg, earlier]
            rintro ⟨rfl, rfl⟩
            exact here ⟨kind, rfl, rfl, own⟩

theorem mem_foldl_addPageRow (rows : List PageRow) (zone : String) :
    zone ∈ rows.foldl addPageRow ∅ ↔ ∃ node, Listed rows zone node := by
  induction rows using List.reverseRecOn with
  | nil => simp [Listed, Finmap.notMem_empty]
  | append_singleton rows row induction =>
      rw [List.foldl_append, List.foldl_cons, List.foldl_nil, addPageRow]
      simp only [listed_append, exists_or, ← induction]
      cases own : row.kind with
      | none => simp [PageRow.Fills, own]
      | some kind =>
          simp only [updateEntry, Table.mem_nestedInsert, PageRow.Fills, own]
          simp [or_comm, eq_comm]

/-- The table has, for each zone and node with a row of an excluded migrate type,
the bytes of these rows, and nothing else. -/
structure Exactly (rows : List PageRow) (byZone : PagetypeExcludedByZone) :
    Prop where
  zones : ∀ zone, zone ∈ byZone ↔ ∃ node, Listed rows zone node
  entries : ∀ zone node,
    (byZone.nestedLookup zone node).isSome ↔ Listed rows zone node
  named : ∀ zone node entry, byZone.nestedLookup zone node = some entry →
    entry.numa = node
  filled : ∀ zone node entry, byZone.nestedLookup zone node = some entry →
    ∀ row ∈ rows, ∀ kind, row.Fills zone node kind →
      (entry.bytes kind).orderGe9.toNat = freeBytes 9 row.counts ∧
        (entry.bytes kind).allOrders.toNat = freeBytes 0 row.counts
  unfilled : ∀ zone node entry, byZone.nestedLookup zone node = some entry →
    ∀ kind, (∀ row ∈ rows, ¬ row.Fills zone node kind) →
      entry.bytes kind = ⟨0, 0⟩

theorem freeBytes_antitone {least least' : Nat} (above : least ≤ least')
    (counts : List Nat) : freeBytes least' counts ≤ freeBytes least counts := by
  apply Finset.sum_le_sum
  intro order _
  split
  next inside => rw [if_pos (above.trans inside)]
  next => exact Nat.zero_le _

theorem exactly_foldl_addPageRow {rows : List PageRow}
    (distinct : (rows.map PageRow.key).Nodup)
    (totals : ∀ row ∈ rows, row.kind ≠ none → freeBytes 0 row.counts < 2 ^ 64) :
    Exactly rows (rows.foldl addPageRow ∅) := by
  have found : ∀ {zone node entry},
      (rows.foldl addPageRow ∅).nestedLookup zone node = some entry →
        entry = entryOf rows zone node := by
    intro zone node entry found
    rw [nestedLookup_foldl_addPageRow distinct] at found
    split at found
    next => exact (Option.some.inj found).symm
    next => cases found
  refine ⟨mem_foldl_addPageRow rows, ?_, ?_, ?_, ?_⟩
  · intro zone node
    rw [nestedLookup_foldl_addPageRow distinct]
    split
    next listed => simp [listed]
    next absent => simp [absent]
  · intro zone node entry present
    rw [found present, entryOf_numa]
  · intro zone node entry present row member kind fills
    obtain ⟨rfl, rfl, own⟩ := fills
    have total := totals row member (by simp [own])
    have large := (freeBytes_antitone (Nat.zero_le 9) row.counts).trans_lt total
    rw [found present, entryOf_bytes, filledBytes_of_mem distinct member own]
    exact ⟨UInt64.toNat_ofNat_of_lt' large, UInt64.toNat_ofNat_of_lt' total⟩
  · intro zone node entry present kind absent
    rw [found present, entryOf_bytes, filledBytes_of_absent absent]

theorem readPagetypeExcludedAllZones_eq {rows : List PageRow}
    {lines : List ProcLine} (printed : PagetypeText false rows lines)
    (totals : ∀ row ∈ rows, row.kind ≠ none → freeBytes 0 row.counts < 2 ^ 64) :
    readPagetypeExcludedAllZones (some (procText lines)) =
      if rows.foldl addPageRow ∅ = ∅ then .error .noEntries
      else .ok (rows.foldl addPageRow ∅) := by
  obtain ⟨final, read⟩ := PagetypeScan.foldlM_line_of_printed printed totals ∅
  simp only [readPagetypeExcludedAllZones, scanned_procText, read]
  rfl

/-- Every layout of the file gives the sums of the rows of an excluded migrate type;
without such a row there is no table. -/
theorem readPagetypeExcludedAllZones_printed (rows : List PageRow)
    (lines : List ProcLine) (printed : PagetypeText false rows lines)
    (distinct : (rows.map PageRow.key).Nodup)
    (totals : ∀ row ∈ rows, row.kind ≠ none → freeBytes 0 row.counts < 2 ^ 64) :
    ((∃ row ∈ rows, row.kind ≠ none) →
      ∃ byZone, readPagetypeExcludedAllZones (some (procText lines)) =
        .ok byZone ∧ Exactly rows byZone) ∧
    ((∀ row ∈ rows, row.kind = none) →
      readPagetypeExcludedAllZones (some (procText lines)) =
        .error .noEntries) := by
  have exactly := exactly_foldl_addPageRow distinct totals
  rw [readPagetypeExcludedAllZones_eq printed totals]
  constructor
  · rintro ⟨row, member, excluded⟩
    obtain ⟨kind, own⟩ := Option.ne_none_iff_exists'.mp excluded
    refine ⟨_, if_neg ?_, exactly⟩
    intro empty
    have present := (exactly.zones row.zoneName).mpr
      ⟨row.node, row, member, kind, rfl, rfl, own⟩
    rw [empty] at present
    exact Finmap.notMem_empty present
  · intro others
    refine if_pos ?_
    apply Finmap.ext_lookup
    intro zone
    rw [Finmap.lookup_empty, Finmap.lookup_eq_none, exactly.zones]
    rintro ⟨node, row, member, kind, -, -, own⟩
    rw [others row member] at own
    cases own

/-! Two sections of free pages, with block counts between them that look like a
row. -/

def unmovableRow : PageRow where
  numa := 0
  zone := "Normal".toList
  migratype := "Unmovable".toList
  fields := [.exact 1, .saturated "100000".toList]

def movableRow : PageRow where
  numa := 0
  zone := "Normal".toList
  migratype := "Movable".toList
  fields := [.exact 7, .exact 9]

def isolateRow : PageRow where
  numa := 1
  zone := "Normal".toList
  migratype := "Isolate".toList
  fields := [.exact 2, .exact 0]

def freeHeaderLine : ProcLine :=
  .ofText "Free pages count per migrate type at order 0 1 ".toList

def unmovableLine : ProcLine :=
  .ofText "Node 0, zone   Normal, type    Unmovable 1 >100000 ".toList

def movableLine : ProcLine :=
  .ofText "Node 0, zone   Normal, type      Movable 7 9 ".toList

def blocksHeaderLine : ProcLine :=
  .ofText "Number of blocks type     Unmovable  Movable ".toList

def blockCountsLine : ProcLine :=
  .ofText "Node 0, zone   Normal, type    Unmovable 5 5 ".toList

def isolateLine : ProcLine :=
  .ofText "Node 1, zone   Normal, type      Isolate 2 0 ".toList

theorem excluded_of_two_sections :
    ∃ byZone, readPagetypeExcludedAllZones (some (procText
        [freeHeaderLine, unmovableLine, movableLine, blocksHeaderLine,
          blockCountsLine, freeHeaderLine, isolateLine])) = .ok byZone ∧
      Exactly [unmovableRow, movableRow, isolateRow] byZone := by
  have unmovable : unmovableRow.PrintedAs unmovableLine := by decide +kernel
  have movable : movableRow.PrintedAs movableLine := by decide +kernel
  have isolate : isolateRow.PrintedAs isolateLine := by decide +kernel
  have header : freeHeader <+: freeHeaderLine.text := by decide
  have text : PagetypeText false [unmovableRow, movableRow, isolateRow]
      [freeHeaderLine, unmovableLine, movableLine, blocksHeaderLine,
        blockCountsLine, freeHeaderLine, isolateLine] :=
    .line (.freeSection header) (.line (.row unmovable) (.line (.row movable)
      (.line (.blocksSection (by decide)) (.line (.blockCounts (by decide))
        (.line (.freeSection header) (.line (.row isolate) .nil))))))
  refine (readPagetypeExcludedAllZones_printed _ _ text (by decide) ?_).1
    ⟨unmovableRow, by simp, by decide⟩
  intro row member _
  simp only [List.mem_cons, List.not_mem_nil, or_false] at member
  rcases member with rfl | rfl | rfl
  · decide
  · decide
  · decide

end KubevirtMetrics.Cgroup
