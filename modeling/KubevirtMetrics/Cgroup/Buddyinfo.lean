import Mathlib.Algebra.BigOperators.Fin
import Mathlib.Data.List.GetD
import Mathlib.Data.String.Basic
import KubevirtMetrics.Cgroup.ProcFile
import KubevirtMetrics.Data.Lists
import KubevirtMetrics.Data.Nested

namespace KubevirtMetrics.Cgroup

open Data

/-! `buddyinfo.go`. -/

def pageSize : Nat := 4096

/-- `uint64(4096) << order`, whatever the order. -/
def blockBytes (order : Nat) : UInt64 := UInt64.ofNat (pageSize * 2 ^ order)

structure OrderBytes where
  orderGe9 : UInt64
  allOrders : UInt64

def OrderBytes.add (acc : OrderBytes) (order : Nat) (blocks : UInt64) :
    OrderBytes :=
  let bytes := blocks * blockBytes order
  { orderGe9 := if order ≥ 9 then acc.orderGe9 + bytes else acc.orderGe9
    allOrders := acc.allOrders + bytes }

/-- The loop over the counts of a row, which `buddyinfo` and `pagetypeinfo` have in
common; the error is the order of a count that is not a number. -/
def bytesFromCounts (parse : List Char → Option Nat)
    (counts : List (List Char)) : Except Nat OrderBytes :=
  counts.zipIdx.foldlM (fun acc (countStr, order) =>
    match parse countStr with
    | none => .error order
    | some blocks => .ok (acc.add order (UInt64.ofNat blocks))) ⟨0, 0⟩

def buddyBytesFromCounts : List (List Char) → Except Nat OrderBytes :=
  bytesFromCounts (Text.parseUint? 64)

/-- The bytes of the free blocks of order `least` and above. -/
def freeBytes (least : Nat) (counts : List Nat) : Nat :=
  ∑ order ∈ Finset.range counts.length,
    if least ≤ order then counts.getD order 0 * (pageSize * 2 ^ order) else 0

theorem freeBytes_append (least : Nat) (counts : List Nat) (blocks : Nat) :
    freeBytes least (counts ++ [blocks]) = freeBytes least counts +
      if least ≤ counts.length then
        blocks * (pageSize * 2 ^ counts.length) else 0 := by
  rw [freeBytes, List.length_append, List.length_singleton,
    Finset.sum_range_succ]
  congr 1
  · apply Finset.sum_congr rfl
    intro order inside
    rw [List.getD_append _ _ _ _ (Finset.mem_range.mp inside)]
  · rw [List.getD_append_right _ _ _ _ le_rfl, Nat.sub_self,
      List.getD_cons_zero]

/-- The sums over the orders, on 64 bits, when the texts are those of the counts. -/
theorem bytesFromCounts_ok {parse : List Char → Option Nat}
    {texts : List (List Char)} {counts : List Nat}
    (printed : texts.map parse = counts.map some) :
    bytesFromCounts parse texts =
      .ok ⟨UInt64.ofNat (freeBytes 9 counts),
        UInt64.ofNat (freeBytes 0 counts)⟩ := by
  induction counts using List.reverseRecOn generalizing texts with
  | nil =>
      obtain rfl := List.map_eq_nil_iff.mp printed
      rfl
  | append_singleton counts blocks induction =>
      rw [List.map_append, List.map_singleton] at printed
      obtain ⟨front, back, rfl, earlier, last⟩ := List.map_eq_append_iff.mp printed
      obtain ⟨text, rfl, parsed⟩ := List.map_eq_singleton_iff.mp last
      have sums := induction earlier
      have length : front.length = counts.length := by
        simpa using congrArg List.length earlier
      unfold bytesFromCounts at sums ⊢
      rw [List.zipIdx_append, List.foldlM_append, sums]
      simp only [List.zipIdx_singleton, List.foldlM_cons, List.foldlM_nil,
        parsed, freeBytes_append, length, Nat.zero_add]
      change Except.ok (OrderBytes.add _ _ _) = _
      simp only [OrderBytes.add, blockBytes, Nat.zero_le, if_true,
        UInt64.ofNat_add, UInt64.ofNat_mul]
      split
      next => rw [UInt64.ofNat_mul, UInt64.ofNat_mul]
      next => rw [show UInt64.ofNat 0 = 0 from rfl, UInt64.add_zero]

theorem map_parseUint?_numeral {counts : List Nat}
    (small : ∀ blocks ∈ counts, blocks < 2 ^ 64) :
    (counts.map Text.numeral).map (Text.parseUint? 64) = counts.map some := by
  rw [List.map_map]
  apply List.map_congr_left
  intro blocks member
  exact Text.parseUint?_numeral (small blocks member)

/-! ### Reading -/

structure NumaBuddyFree where
  numa : String
  zone : String
  orderGe9Bytes : UInt64
  allOrdersBytes : UInt64
  deriving DecidableEq

structure BuddySnapshot where
  zonesByNUMA : Table String (Table String Bool)
  thpByNUMA : List NumaBuddyFree

inductive BuddyError
  | open_
  | count (numa : String) (order : Nat)
  | scan
  | noEntries
  | thpZone (zone numa : String)
  | noTHP
  deriving DecidableEq

def buddyZoneNormal : String := "Normal"

def buddyZoneMovable : String := "Movable"

def thpBuddyZone (zones : Table String Bool) : String :=
  if zones.getD buddyZoneMovable false then buddyZoneMovable else buddyZoneNormal

/-- A word of a row without the comma that may follow it. -/
def trimComma (part : List Char) : String :=
  String.ofList (Text.trimSuffix [','] part)

/-- The node, the zone and the counts of a row of the file. -/
def buddyRow? (line : List Char) : Option (String × String × List (List Char)) :=
  match Text.fields line with
  | node :: numa :: word :: zone :: count :: counts =>
      if node = "Node".toList ∧ word = "zone".toList then
        some (trimComma numa, trimComma zone, count :: counts)
      else none
  | _ => none

structure BuddyScan where
  zonesByNUMA : Table String (Table String Bool)
  freeByNUMAZone : Table String (Table String NumaBuddyFree)

/-- The body of the loop over the lines. -/
def BuddyScan.line (s : BuddyScan) (line : List Char) :
    Except BuddyError BuddyScan :=
  match buddyRow? line with
  | none => .ok s
  | some (numa, zone, counts) =>
      match buddyBytesFromCounts counts with
      | .error order => .error (.count numa order)
      | .ok bytes =>
          .ok ⟨s.zonesByNUMA.nestedInsert numa zone true,
            s.freeByNUMAZone.nestedInsert numa zone
              ⟨numa, zone, bytes.orderGe9, bytes.allOrders⟩⟩

/-- The body of the loop over the nodes. -/
def BuddyScan.thpEntry (s : BuddyScan) (numa : String) :
    Except BuddyError NumaBuddyFree :=
  let zone := thpBuddyZone (s.zonesByNUMA.getD numa ∅)
  match s.freeByNUMAZone.nestedLookup numa zone with
  | none => .error (.thpZone zone numa)
  | some entry => .ok entry

/-- `order` is the order in which the nodes are iterated. -/
def readBuddySnapshot (content : Option (List Char)) (order : List String) :
    Except BuddyError BuddySnapshot :=
  match content with
  | none => .error .open_
  | some text => do
      let (lines, complete) := scanned text
      let s ← lines.foldlM BuddyScan.line ⟨∅, ∅⟩
      if !complete then throw .scan
      if s.zonesByNUMA = ∅ then throw .noEntries
      let thpByNUMA ← order.mapM s.thpEntry
      if thpByNUMA.isEmpty then throw .noTHP
      return {
        zonesByNUMA := s.zonesByNUMA
        thpByNUMA := thpByNUMA.mergeSort fun a b => !(b.numa < a.numa) }

/-! ### Well-formed files -/

structure BuddyRow where
  numa : Nat
  zone : List Char
  counts : List Nat
  unmarked : ¬ [','] <:+ zone := by decide
  counted : counts ≠ [] := by decide
  small : ∀ blocks ∈ counts, blocks < 2 ^ 64 := by decide

namespace BuddyRow

def node (row : BuddyRow) : String := String.ofList (Text.numeral row.numa)

def zoneName (row : BuddyRow) : String := String.ofList row.zone

def entry (row : BuddyRow) : NumaBuddyFree where
  numa := row.node
  zone := row.zoneName
  orderGe9Bytes := UInt64.ofNat (freeBytes 9 row.counts)
  allOrdersBytes := UInt64.ofNat (freeBytes 0 row.counts)

/-- `Node 0, zone Normal 1 2 ...`, with any white space between the words. -/
def PrintedAs (row : BuddyRow) (line : ProcLine) : Prop :=
  Text.fields line.text =
    "Node".toList :: (Text.numeral row.numa ++ [',']) :: "zone".toList ::
      row.zone :: row.counts.map Text.numeral

instance (row : BuddyRow) (line : ProcLine) : Decidable (row.PrintedAs line) :=
  inferInstanceAs (Decidable (Text.fields line.text = _))

theorem buddyRow?_of_printed {row : BuddyRow} {line : ProcLine}
    (printed : row.PrintedAs line) :
    buddyRow? line.text =
      some (row.node, row.zoneName, row.counts.map Text.numeral) := by
  obtain ⟨blocks, rest, counts⟩ := List.exists_cons_of_ne_nil row.counted
  rw [PrintedAs, counts, List.map_cons] at printed
  simp only [buddyRow?, printed, and_self, if_true, counts, List.map_cons,
    trimComma, Text.trimSuffix_append, Text.trimSuffix_of_not row.unmarked]
  rfl

end BuddyRow

namespace BuddyScan

def addRow (s : BuddyScan) (row : BuddyRow) : BuddyScan :=
  ⟨s.zonesByNUMA.nestedInsert row.node row.zoneName true,
    s.freeByNUMAZone.nestedInsert row.node row.zoneName row.entry⟩

theorem line_of_printed (s : BuddyScan) {row : BuddyRow} {line : ProcLine}
    (printed : row.PrintedAs line) : s.line line.text = .ok (s.addRow row) := by
  have bytes : buddyBytesFromCounts (row.counts.map Text.numeral) =
      .ok ⟨UInt64.ofNat (freeBytes 9 row.counts),
        UInt64.ofNat (freeBytes 0 row.counts)⟩ :=
    bytesFromCounts_ok (map_parseUint?_numeral row.small)
  simp only [BuddyScan.line, BuddyRow.buddyRow?_of_printed printed, bytes]
  rfl

theorem foldlM_line_of_printed (s : BuddyScan) {rows : List BuddyRow}
    {lines : List ProcLine} (printed : rows.Forall₂ BuddyRow.PrintedAs lines) :
    (lines.map ProcLine.text).foldlM BuddyScan.line s =
      .ok (rows.foldl addRow s) := by
  induction printed generalizing s with
  | nil => rfl
  | cons first rest induction =>
      rw [List.map_cons, foldlM_cons_ok (s.line_of_printed first)]
      exact induction _

def ofRows (rows : List BuddyRow) : BuddyScan where
  zonesByNUMA := Table.nestedInsertAll ∅ (rows.map fun row =>
    (row.node, row.zoneName, true))
  freeByNUMAZone := Table.nestedInsertAll ∅ (rows.map fun row =>
    (row.node, row.zoneName, row.entry))

theorem foldl_addRow (rows : List BuddyRow) :
    rows.foldl addRow ⟨∅, ∅⟩ = ofRows rows := by
  induction rows using List.reverseRecOn with
  | nil => rfl
  | append_singleton rows row induction =>
      rw [List.foldl_append, List.foldl_cons, List.foldl_nil, induction]
      simp [ofRows, addRow, Table.nestedInsertAll]

end BuddyScan

/-- The row that the entry of a node and a zone comes from. -/
def lastRow (rows : List BuddyRow) (node zone : String) : Option BuddyRow :=
  rows.reverse.find? fun row => row.node = node && row.zoneName = zone

/-- The row of the zone that huge pages come from. -/
def thpRow (rows : List BuddyRow) (node : String) : Option BuddyRow :=
  (lastRow rows node buddyZoneMovable).or (lastRow rows node buddyZoneNormal)

namespace BuddyScan

theorem nestedLookup_rows {V : Type} (rows : List BuddyRow) (value : BuddyRow → V)
    (node zone : String) :
    (Table.nestedInsertAll ∅ (rows.map fun row =>
        (row.node, row.zoneName, value row))).nestedLookup node zone =
      (lastRow rows node zone).map value := by
  rw [Table.nestedLookup_nestedInsertAll, Table.nestedLookup_empty,
    Option.or_none, ← List.map_reverse, List.find?_map, Option.map_map]
  rfl

theorem getD_movable_ofRows (rows : List BuddyRow) (node : String) :
    ((ofRows rows).zonesByNUMA.getD node ∅).getD buddyZoneMovable false =
      (lastRow rows node buddyZoneMovable).isSome := by
  rw [Table.getD, Table.lookup_getD_empty]
  refine (congrArg (Option.getD · false)
    (nestedLookup_rows rows (fun _ => true) node buddyZoneMovable)).trans ?_
  cases lastRow rows node buddyZoneMovable with
  | none => rfl
  | some row => rfl

theorem thpEntry_ofRows (rows : List BuddyRow) (node : String) :
    (ofRows rows).thpEntry node =
      match thpRow rows node with
      | none => .error (.thpZone buddyZoneNormal node)
      | some row => .ok row.entry := by
  have free : ∀ zone, (ofRows rows).freeByNUMAZone.nestedLookup node zone =
      (lastRow rows node zone).map BuddyRow.entry :=
    nestedLookup_rows rows BuddyRow.entry node
  simp only [thpEntry, thpBuddyZone, getD_movable_ofRows, thpRow]
  cases found : lastRow rows node buddyZoneMovable with
  | some row => simp [free, found]
  | none =>
      simp only [Option.isSome_none, Bool.false_eq_true, if_false, free,
        Option.none_or]
      cases lastRow rows node buddyZoneNormal with
      | none => rfl
      | some row => rfl

end BuddyScan

/-- The loop over the nodes visits each node of the file once. -/
structure Visits (order : List String) (rows : List BuddyRow) : Prop where
  nodup : order.Nodup
  mem_iff : ∀ node, node ∈ order ↔ ∃ row ∈ rows, row.node = node

def BuddyRow.IsTHP (row : BuddyRow) : Prop :=
  row.zoneName = buddyZoneMovable ∨ row.zoneName = buddyZoneNormal

/-- Every node has a zone that huge pages come from. -/
def AllTHP (rows : List BuddyRow) : Prop :=
  ∀ row ∈ rows, ∃ other ∈ rows, other.node = row.node ∧ other.IsTHP

theorem lastRow_eq_some {rows : List BuddyRow} {node zone : String}
    {row : BuddyRow} (last : lastRow rows node zone = some row) :
    row ∈ rows ∧ row.node = node ∧ row.zoneName = zone := by
  have own := List.find?_some last
  rw [Bool.and_eq_true, decide_eq_true_eq, decide_eq_true_eq] at own
  exact ⟨List.mem_reverse.mp (List.mem_of_find?_eq_some last), own⟩

theorem lastRow_eq_none {rows : List BuddyRow} {node zone : String}
    (missing : lastRow rows node zone = none) {row : BuddyRow}
    (member : row ∈ rows) (here : row.node = node) : row.zoneName ≠ zone := by
  intro same
  have other := List.find?_eq_none.mp missing row (List.mem_reverse.mpr member)
  simp [here, same] at other

theorem thpRow_eq_some {rows : List BuddyRow} {node : String} {row : BuddyRow}
    (thp : thpRow rows node = some row) :
    row ∈ rows ∧ row.node = node ∧ row.IsTHP := by
  rcases Option.or_eq_some_iff.mp thp with movable | ⟨-, normal⟩
  · obtain ⟨member, here, zone⟩ := lastRow_eq_some movable
    exact ⟨member, here, .inl zone⟩
  · obtain ⟨member, here, zone⟩ := lastRow_eq_some normal
    exact ⟨member, here, .inr zone⟩

/-- The zone of the row is the one that the reader chooses. -/
theorem thpBuddyZone_ofRows {rows : List BuddyRow} {node : String} {row : BuddyRow}
    (thp : thpRow rows node = some row) :
    thpBuddyZone ((BuddyScan.ofRows rows).zonesByNUMA.getD node ∅) =
      row.zoneName := by
  rw [thpBuddyZone, BuddyScan.getD_movable_ofRows]
  rcases Option.or_eq_some_iff.mp thp with movable | ⟨missing, normal⟩
  · rw [movable, (lastRow_eq_some movable).2.2]
    rfl
  · rw [missing, (lastRow_eq_some normal).2.2]
    rfl

theorem exists_thpRow {rows : List BuddyRow} {row : BuddyRow}
    (member : row ∈ rows) (thp : row.IsTHP) :
    ∃ chosen, thpRow rows row.node = some chosen := by
  cases found : thpRow rows row.node with
  | some chosen => exact ⟨chosen, rfl⟩
  | none =>
      obtain ⟨movable, normal⟩ := Option.or_eq_none_iff.mp found
      rcases thp with zone | zone
      · exact absurd zone (lastRow_eq_none movable member rfl)
      · exact absurd zone (lastRow_eq_none normal member rfl)

section Printed

variable {rows : List BuddyRow} {lines : List ProcLine} {order : List String}
    (printed : rows.Forall₂ BuddyRow.PrintedAs lines) (visits : Visits order rows)

theorem mem_zonesByNUMA_ofRows {node : String} :
    node ∈ (BuddyScan.ofRows rows).zonesByNUMA ↔ ∃ row ∈ rows, row.node = node := by
  refine (Table.mem_nestedInsertAll _ _ _).trans ?_
  simp [Finmap.notMem_empty]

theorem zonesByNUMA_ofRows_ne_empty (present : rows ≠ []) :
    (BuddyScan.ofRows rows).zonesByNUMA ≠ ∅ := by
  obtain ⟨row, rest, rfl⟩ := List.exists_cons_of_ne_nil present
  intro empty
  have member : row.node ∈ (BuddyScan.ofRows (row :: rest)).zonesByNUMA :=
    mem_zonesByNUMA_ofRows.mpr ⟨row, List.mem_cons_self, rfl⟩
  rw [empty] at member
  exact Finmap.notMem_empty member

include printed in
theorem readBuddySnapshot_eq (order : List String) (present : rows ≠ []) :
    readBuddySnapshot (some (procText lines)) order =
      (order.mapM (BuddyScan.ofRows rows).thpEntry).bind fun thpByNUMA =>
        if thpByNUMA.isEmpty then .error .noTHP
        else .ok {
          zonesByNUMA := (BuddyScan.ofRows rows).zonesByNUMA
          thpByNUMA := thpByNUMA.mergeSort fun a b => !(b.numa < a.numa) } := by
  have read := BuddyScan.foldlM_line_of_printed ⟨∅, ∅⟩ printed
  rw [BuddyScan.foldl_addRow] at read
  simp only [readBuddySnapshot, scanned_procText, read]
  change (if (BuddyScan.ofRows rows).zonesByNUMA = ∅ then _ else _) = _
  rw [if_neg (zonesByNUMA_ofRows_ne_empty present)]
  rfl

include printed visits

theorem readBuddySnapshot_printed (present : rows ≠ []) (all : AllTHP rows) :
    ∃ entries : List NumaBuddyFree,
      readBuddySnapshot (some (procText lines)) order =
        .ok ⟨(BuddyScan.ofRows rows).zonesByNUMA, entries⟩ ∧
      (entries.map NumaBuddyFree.numa).Nodup ∧
      ∀ entry, entry ∈ entries ↔
        ∃ node row, thpRow rows node = some row ∧ row.entry = entry := by
  have found : ∀ node ∈ order, ∃ row, thpRow rows node = some row := by
    intro node member
    obtain ⟨row, listed, rfl⟩ := (visits.mem_iff node).mp member
    obtain ⟨other, listed', same, thp⟩ := all row listed
    rw [← same]
    exact exists_thpRow listed' thp
  have inhabited : Nonempty BuddyRow :=
    ⟨(List.exists_cons_of_ne_nil present).choose⟩
  choose! chosen isChosen using found
  have each : ∀ node ∈ order, (BuddyScan.ofRows rows).thpEntry node =
      .ok (chosen node).entry := by
    intro node member
    rw [BuddyScan.thpEntry_ofRows, isChosen node member]
  have names : ∀ node ∈ order, (chosen node).entry.numa = node :=
    fun node member => (thpRow_eq_some (isChosen node member)).2.1
  have perm := List.mergeSort_perm (order.map fun node => (chosen node).entry)
    fun a b => !(b.numa < a.numa)
  refine ⟨(order.map fun node => (chosen node).entry).mergeSort
    fun a b => !(b.numa < a.numa), ?_, ?_, ?_⟩
  · rw [readBuddySnapshot_eq printed order present, mapM_eq_ok each]
    refine if_neg ?_
    rw [List.isEmpty_iff, List.map_eq_nil_iff]
    obtain ⟨row, rest, rfl⟩ := List.exists_cons_of_ne_nil present
    exact List.ne_nil_of_mem
      ((visits.mem_iff row.node).mpr ⟨row, List.mem_cons_self, rfl⟩)
  · have labels : order.map (NumaBuddyFree.numa ∘ fun node =>
        (chosen node).entry) = order :=
      (List.map_congr_left names).trans (List.map_id order)
    rw [(perm.map NumaBuddyFree.numa).nodup_iff, List.map_map, labels]
    exact visits.nodup
  · intro entry
    rw [perm.mem_iff, List.mem_map]
    constructor
    · rintro ⟨node, member, rfl⟩
      exact ⟨node, chosen node, isChosen node member, rfl⟩
    · rintro ⟨node, row, thp, rfl⟩
      obtain ⟨listed, here, -⟩ := thpRow_eq_some thp
      have member : node ∈ order := (visits.mem_iff node).mpr ⟨row, listed, here⟩
      have same := (isChosen node member).symm.trans thp
      exact ⟨node, member, congrArg BuddyRow.entry (Option.some.inj same)⟩

theorem readBuddySnapshot_error (missing : ¬ AllTHP rows) :
    ∃ error, readBuddySnapshot (some (procText lines)) order = .error error := by
  simp only [AllTHP, not_forall, not_exists, not_and] at missing
  obtain ⟨row, member, without⟩ := missing
  have failing : thpRow rows row.node = none := by
    cases found : thpRow rows row.node with
    | none => rfl
    | some other =>
        obtain ⟨listed, here, thp⟩ := thpRow_eq_some found
        exact absurd thp (without other listed here)
  have fails : (BuddyScan.ofRows rows).thpEntry row.node =
      .error (.thpZone buddyZoneNormal row.node) := by
    rw [BuddyScan.thpEntry_ofRows, failing]
  obtain ⟨error, failed⟩ := mapM_eq_error
    ((visits.mem_iff row.node).mpr ⟨row, member, rfl⟩) fails
  refine ⟨error, ?_⟩
  rw [readBuddySnapshot_eq printed order (List.ne_nil_of_mem member), failed]
  rfl

/-- Whatever is read, its entries are those of the rows. -/
theorem readBuddySnapshot_ok {snapshot : BuddySnapshot}
    (read : readBuddySnapshot (some (procText lines)) order = .ok snapshot) :
    snapshot.zonesByNUMA = (BuddyScan.ofRows rows).zonesByNUMA ∧
      ∀ entry ∈ snapshot.thpByNUMA,
        ∃ node row, thpRow rows node = some row ∧ row.entry = entry := by
  by_cases present : rows = []
  · subst present
    cases printed with
    | nil => cases read
  · by_cases all : AllTHP rows
    · obtain ⟨entries, same, -, listed⟩ :=
        readBuddySnapshot_printed printed visits present all
      rw [same] at read
      obtain rfl := Except.ok.inj read
      exact ⟨rfl, fun entry member => (listed entry).mp member⟩
    · obtain ⟨error, failed⟩ := readBuddySnapshot_error printed visits all
      rw [failed] at read
      cases read

end Printed

/-! ### What other nodes change -/

/-- The entry that the snapshot has for a node. -/
def reportedFor (numa : Nat) (result : Except BuddyError BuddySnapshot) :
    Option NumaBuddyFree :=
  match result with
  | .ok snapshot => snapshot.thpByNUMA.find? fun entry =>
      entry.numa = String.ofList (Text.numeral numa)
  | .error _ => none

theorem lastRow_filter (rows : List BuddyRow) (numa : Nat) (zone : String) :
    lastRow (rows.filter fun row => row.numa = numa)
        (String.ofList (Text.numeral numa)) zone =
      lastRow rows (String.ofList (Text.numeral numa)) zone := by
  rw [lastRow, ← List.filter_reverse, List.find?_filter]
  congr 1
  funext row
  by_cases own : row.numa = numa
  · simp [own]
  · have elsewhere : row.node ≠ String.ofList (Text.numeral numa) :=
      fun same => own (Text.toList_toString_inj (String.ofList_injective same))
    simp [own, elsewhere]

theorem thpRow_filter (rows : List BuddyRow) (numa : Nat) :
    thpRow (rows.filter fun row => row.numa = numa)
        (String.ofList (Text.numeral numa)) =
      thpRow rows (String.ofList (Text.numeral numa)) := by
  rw [thpRow, lastRow_filter, lastRow_filter, thpRow]

theorem reportedFor_printed {rows : List BuddyRow} {lines : List ProcLine}
    {order : List String} (printed : rows.Forall₂ BuddyRow.PrintedAs lines)
    (visits : Visits order rows) {row : BuddyRow} (member : row ∈ rows)
    (thp : row.IsTHP) :
    ∃ chosen : BuddyRow,
      thpRow (rows.filter fun other => other.numa = row.numa) row.node =
          some chosen ∧
        (AllTHP rows → reportedFor row.numa (readBuddySnapshot
          (some (procText lines)) order) = some chosen.entry) ∧
        (¬ AllTHP rows → reportedFor row.numa (readBuddySnapshot
          (some (procText lines)) order) = none) := by
  obtain ⟨chosen, isChosen⟩ := exists_thpRow member thp
  refine ⟨chosen, (thpRow_filter rows row.numa).trans isChosen, ?_, ?_⟩
  · intro all
    obtain ⟨entries, read, nodup, listed⟩ := readBuddySnapshot_printed printed
      visits (List.ne_nil_of_mem member) all
    have present : chosen.entry ∈ entries :=
      (listed chosen.entry).mpr ⟨row.node, chosen, isChosen, rfl⟩
    have here : chosen.entry.numa = row.node := (thpRow_eq_some isChosen).2.1
    have found := find?_of_nodup nodup present
    rw [here] at found
    rw [read]
    exact found
  · intro missing
    obtain ⟨error, failed⟩ := readBuddySnapshot_error printed visits missing
    rw [failed]
    rfl

/-- Two files that agree on a node with a zone for huge pages have the same entry
for it exactly when both or neither have another node without such a zone. -/
theorem buddy_entry_independent_iff (rows rows' : List BuddyRow)
    (lines lines' : List ProcLine) (order order' : List String)
    (printed : rows.Forall₂ BuddyRow.PrintedAs lines)
    (printed' : rows'.Forall₂ BuddyRow.PrintedAs lines')
    (visits : Visits order rows) (visits' : Visits order' rows') (numa : Nat)
    (own : (rows.filter fun row => row.numa = numa) =
      rows'.filter fun row => row.numa = numa)
    (thp : ∃ row ∈ rows, row.numa = numa ∧ row.IsTHP) :
    reportedFor numa (readBuddySnapshot (some (procText lines')) order') =
        reportedFor numa (readBuddySnapshot (some (procText lines)) order) ↔
      (AllTHP rows ↔ AllTHP rows') := by
  obtain ⟨row, member, rfl, isTHP⟩ := thp
  have member' : row ∈ rows' := by
    have listed : row ∈ rows.filter fun other => other.numa = row.numa :=
      List.mem_filter.mpr ⟨member, decide_eq_true rfl⟩
    rw [own] at listed
    exact (List.mem_filter.mp listed).1
  obtain ⟨chosen, isChosen, found, lost⟩ :=
    reportedFor_printed printed visits member isTHP
  obtain ⟨chosen', isChosen', found', lost'⟩ :=
    reportedFor_printed printed' visits' member' isTHP
  rw [own, isChosen'] at isChosen
  obtain rfl := Option.some.inj isChosen
  by_cases all : AllTHP rows
  · by_cases all' : AllTHP rows'
    · simp [found all, found' all', all, all']
    · simp [found all, lost' all', all, all']
  · by_cases all' : AllTHP rows'
    · simp [lost all, found' all', all, all']
    · simp [lost all, lost' all', all, all']

/-! Node 0 has a Normal zone; node 1 has one or has only DMA. -/

def normalRow (numa : Nat) : BuddyRow where
  numa := numa
  zone := "Normal".toList
  counts := [3, 5]

def dmaRow : BuddyRow where
  numa := 1
  zone := "DMA".toList
  counts := [1, 0]

def normalLine0 : ProcLine :=
  .ofText "Node 0, zone   Normal      3      5 ".toList

def normalLine1 : ProcLine :=
  .ofText "Node 1, zone   Normal      3      5 ".toList

def dmaLine1 : ProcLine :=
  .ofText "Node 1, zone      DMA      1      0 ".toList

theorem printed_normalLine0 : (normalRow 0).PrintedAs normalLine0 := by
  decide +kernel

theorem buddy_entry_beside_normal_node :
    reportedFor 0 (readBuddySnapshot
        (some (procText [normalLine0, normalLine1])) ["1", "0"]) =
      reportedFor 0 (readBuddySnapshot (some (procText [normalLine0])) ["0"]) := by
  have visits : Visits ["0"] [normalRow 0] := by
    refine ⟨by decide, fun node => ?_⟩
    have zero : (normalRow 0).node = "0" := by decide
    simp [zero, eq_comm]
  have visits' : Visits ["1", "0"] [normalRow 0, normalRow 1] := by
    refine ⟨by decide, fun node => ?_⟩
    have zero : (normalRow 0).node = "0" := by decide
    have one : (normalRow 1).node = "1" := by decide
    simp [zero, one, eq_comm, or_comm]
  have second : (normalRow 1).PrintedAs normalLine1 := by decide +kernel
  refine (buddy_entry_independent_iff [normalRow 0] [normalRow 0, normalRow 1]
    [normalLine0] [normalLine0, normalLine1] ["0"] ["1", "0"]
    (.cons printed_normalLine0 .nil)
    (.cons printed_normalLine0 (.cons second .nil)) visits visits' 0 rfl
    ⟨normalRow 0, List.mem_singleton_self _, rfl, .inr rfl⟩).mpr ?_
  constructor
  · intro _ row member
    exact ⟨row, member, rfl, by
      simp only [List.mem_cons, List.not_mem_nil, or_false] at member
      rcases member with rfl | rfl
      · exact .inr rfl
      · exact .inr rfl⟩
  · intro _ row member
    obtain rfl := List.mem_singleton.mp member
    exact ⟨normalRow 0, member, rfl, .inr rfl⟩

/-- A second node that has only DMA takes the entry of the first away. -/
theorem buddy_entry_lost_beside_dma_node :
    [normalRow 0, dmaRow].Forall₂ BuddyRow.PrintedAs [normalLine0, dmaLine1] ∧
      reportedFor 0 (readBuddySnapshot (some (procText [normalLine0])) ["0"]) =
        some ⟨"0", "Normal", 0, 53248⟩ ∧
      reportedFor 0 (readBuddySnapshot
        (some (procText [normalLine0, dmaLine1])) ["0", "1"]) = none := by
  have second : dmaRow.PrintedAs dmaLine1 := by decide +kernel
  refine ⟨.cons printed_normalLine0 (.cons second .nil), ?_, ?_⟩
  · decide +kernel
  · decide +kernel

end KubevirtMetrics.Cgroup
