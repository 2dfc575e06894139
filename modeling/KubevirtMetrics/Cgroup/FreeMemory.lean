import KubevirtMetrics.Cgroup.Excluded
import KubevirtMetrics.Cgroup.Zoneinfo
import KubevirtMetrics.Data.Binary64
import KubevirtMetrics.Prometheus.Metric

namespace KubevirtMetrics.Cgroup

open Data Prometheus

/-! What `collector.go` does with the free memory of the node. -/

/-- The files as they are read in one poll; `buddyinfo` may be read twice. -/
structure MemoryFiles where
  buddyinfo : Option (List Char)
  buddyinfoAgain : Option (List Char)
  pagetypeinfo : Option (List Char)
  zoneinfo : Option (List Char)

/-- The orders in which the maps of one poll are iterated. -/
structure MemoryOrders where
  buddy : List String
  buddyAgain : List String
  pagetype : PagetypeOrders
  slab : List String

def buddyZonesByNUMA (content : Option (List Char)) (order : List String) :
    Except BuddyError (Table String (Table String Bool)) := do
  let snap ← readBuddySnapshot content order
  return snap.zonesByNUMA

structure NodeMemory where
  buddyByNuma : List NumaBuddyFree
  buddyAvailable : Bool
  excludedByNuma : List NumaPagetypeExcluded
  unmovableByNuma : List NumaPagetypeExcluded
  pagetypeAvailable : Bool
  zoneByNuma : List NumaZoneMemory
  slabReclaimableByNuma : List NumaSlabReclaimable
  zoneinfoAvailable : Bool

namespace NodeMemory

def collectNodeStats (files : MemoryFiles) (orders : MemoryOrders) :
    NodeMemory :=
  let buddy := (readBuddySnapshot files.buddyinfo orders.buddy).toOption
  let zonesByNUMA :=
    match buddy with
    | some snap => some snap.zonesByNUMA
    | none =>
        (buddyZonesByNUMA files.buddyinfoAgain orders.buddyAgain).toOption
  let pagetype := zonesByNUMA.bind fun zones =>
    (readPagetypeBuddyStats files.pagetypeinfo zones orders.pagetype).toOption
  let zoneinfo := (readZoneinfo files.zoneinfo orders.slab).toOption
  { buddyByNuma := buddy.elim [] BuddySnapshot.thpByNUMA
    buddyAvailable := buddy.isSome
    excludedByNuma := pagetype.elim [] Prod.fst
    unmovableByNuma := pagetype.elim [] Prod.snd
    pagetypeAvailable := pagetype.isSome
    zoneByNuma := zoneinfo.elim [] ZoneinfoSnapshot.zones
    slabReclaimableByNuma := zoneinfo.elim [] ZoneinfoSnapshot.slabReclaimable
    zoneinfoAvailable := zoneinfo.isSome }

inductive Desc
  | movableOrderGe9
  | movableAllOrders
  | buddyOrderGe9
  | buddyAllOrders
  | unmovableOrderGe9
  | unmovableAllOrders
  | zonePresentBytes
  | zoneFreeBytes
  | slabReclaimableBytes
  deriving DecidableEq

/-- A gauge of `float64(bytes)`. -/
def bytesGauge (desc : Desc) (bytes : UInt64) (labels : List String) :
    Metric Desc :=
  ⟨desc, .gauge (Binary64.round bytes.toNat), labels⟩

def unmovableMetrics (nodeName numa : String) (u : NumaPagetypeExcluded) :
    List (Metric Desc) :=
  [bytesGauge .unmovableOrderGe9 u.unmovableOrderGe9Bytes [nodeName, numa],
    bytesGauge .unmovableAllOrders u.unmovableAllOrdersBytes [nodeName, numa]]

def movableGe9 (ns : NodeMemory) (b : NumaBuddyFree) : UInt64 :=
  let e := (excludedByNUMAMap ns.excludedByNuma).getD b.numa (.zero "")
  subtractExcludedBytes b.orderGe9Bytes e.excludedOrderGe9Bytes

def movableAll (ns : NodeMemory) (b : NumaBuddyFree) : UInt64 :=
  let e := (excludedByNUMAMap ns.excludedByNuma).getD b.numa (.zero "")
  subtractExcludedBytes b.allOrdersBytes e.excludedAllOrdersBytes

/-- The metrics of a node whose free blocks are known. -/
def buddyMetrics (ns : NodeMemory) (nodeName : String) (b : NumaBuddyFree) :
    List (Metric Desc) :=
  let u := (excludedByNUMAMap ns.unmovableByNuma).getD b.numa (.zero "")
  [bytesGauge .buddyOrderGe9 b.orderGe9Bytes [nodeName, b.numa],
    bytesGauge .buddyAllOrders b.allOrdersBytes [nodeName, b.numa]] ++
  if ns.pagetypeAvailable then
    unmovableMetrics nodeName b.numa u ++
      [bytesGauge .movableOrderGe9 (ns.movableGe9 b) [nodeName, b.numa],
        bytesGauge .movableAllOrders (ns.movableAll b) [nodeName, b.numa]]
  else []

def zoneMetrics (nodeName : String) (z : NumaZoneMemory) : List (Metric Desc) :=
  [bytesGauge .zonePresentBytes z.presentBytes [nodeName, z.numa, z.zone],
    bytesGauge .zoneFreeBytes z.freeBytes [nodeName, z.numa, z.zone]]

/-- The metrics about the free blocks. -/
def blocks (ns : NodeMemory) (nodeName : String) : List (Metric Desc) :=
  if ns.buddyAvailable then ns.buddyByNuma.flatMap (ns.buddyMetrics nodeName)
  else if ns.pagetypeAvailable then
    ns.unmovableByNuma.flatMap fun e => unmovableMetrics nodeName e.numa e
  else []

def slabMetrics (ns : NodeMemory) (nodeName : String) : List (Metric Desc) :=
  ns.slabReclaimableByNuma.map fun s =>
    bytesGauge .slabReclaimableBytes s.reclaimableBytes [nodeName, s.numa]

/-- The metrics about memory that `Collect` sends. -/
def collect (ns : NodeMemory) (nodeName : String) : List (Metric Desc) :=
  ns.blocks nodeName ++
    if ns.zoneinfoAvailable then
      ns.zoneByNuma.flatMap (zoneMetrics nodeName) ++ ns.slabMetrics nodeName
    else []

end NodeMemory

/-! ### Sums over the orders -/

theorem freeBytes_eq_sum (least : Nat) {counts : List Nat} {n : Nat}
    (enough : counts.length ≤ n) :
    freeBytes least counts = ∑ order ∈ Finset.range n,
      if least ≤ order then counts.getD order 0 * (pageSize * 2 ^ order) else 0 := by
  apply Finset.sum_subset (Finset.range_subset_range.mpr enough)
  intro order _ outside
  rw [List.getD_eq_default _ _ (by simpa using outside), Nat.zero_mul, ite_self]

theorem freeBytes_mono (least : Nat) {counts counts' : List Nat}
    (below : ∀ order, counts.getD order 0 ≤ counts'.getD order 0) :
    freeBytes least counts ≤ freeBytes least counts' := by
  rw [freeBytes_eq_sum least (le_max_left counts.length counts'.length),
    freeBytes_eq_sum least (le_max_right counts.length counts'.length)]
  apply Finset.sum_le_sum
  intro order _
  split
  next => exact Nat.mul_le_mul_right _ (below order)
  next => exact le_rfl

theorem pageSize_dvd_freeBytes (least : Nat) (counts : List Nat) :
    pageSize ∣ freeBytes least counts := by
  apply Finset.dvd_sum
  intro order _
  split
  next => exact Dvd.dvd.mul_left (Nat.dvd_mul_right _ _) _
  next => exact Nat.dvd_zero _

section Orders

variable {buddy unmovable isolate : List Nat}
    (within : ∀ order, unmovable.getD order 0 + isolate.getD order 0 ≤
      buddy.getD order 0)

include within

theorem freeBytes_add_le (least : Nat) :
    freeBytes least unmovable + freeBytes least isolate ≤
      freeBytes least buddy := by
  let n := max unmovable.length (max isolate.length buddy.length)
  rw [freeBytes_eq_sum least (n := n) (by omega),
    freeBytes_eq_sum least (n := n) (by omega),
    freeBytes_eq_sum least (n := n) (by omega), ← Finset.sum_add_distrib]
  apply Finset.sum_le_sum
  intro order _
  split
  next =>
    rw [← Nat.add_mul]
    exact Nat.mul_le_mul_right _ (within order)
  next => exact le_rfl

/-- What is excluded below an order is at most what is free there. -/
theorem freeBytes_add_le_add (least : Nat) :
    freeBytes least buddy + (freeBytes 0 unmovable + freeBytes 0 isolate) ≤
      freeBytes 0 buddy + (freeBytes least unmovable + freeBytes least isolate) := by
  let n := max unmovable.length (max isolate.length buddy.length)
  have sums : ∀ least counts, counts.length ≤ n → freeBytes least counts = _ :=
    fun least counts => freeBytes_eq_sum least
  rw [sums least buddy (by omega), sums 0 unmovable (by omega),
    sums 0 isolate (by omega), sums 0 buddy (by omega),
    sums least unmovable (by omega), sums least isolate (by omega),
    ← Finset.sum_add_distrib, ← Finset.sum_add_distrib, ← Finset.sum_add_distrib,
    ← Finset.sum_add_distrib]
  apply Finset.sum_le_sum
  intro order _
  simp only [Nat.zero_le, if_true]
  -- both sides agree from `least` on; below it only the right has free blocks
  split
  next => exact le_rfl
  next =>
    have scaled := Nat.mul_le_mul_right (pageSize * 2 ^ order) (within order)
    rw [Nat.add_mul] at scaled
    omega

end Orders

/-! ### Counts and what the files show of them -/

/-- How a number of free blocks is printed: from the ceiling on it may be
saturated. -/
def PageField.Shows : PageField → Nat → Prop
  | .exact shown, blocks => shown = blocks
  | .saturated _, blocks => pagetypeSaturatedPageCeiling ≤ blocks

theorem PageField.Shows.blocks_le {field : PageField} {blocks : Nat}
    (shows : field.Shows blocks) : field.blocks ≤ blocks := by
  cases field with
  | exact shown => exact shows.le
  | saturated text => exact shows

theorem getD_blocks_le {fields : List PageField} {counts : List Nat}
    (shown : fields.Forall₂ PageField.Shows counts) (order : Nat) :
    (fields.map PageField.blocks).getD order 0 ≤ counts.getD order 0 := by
  induction shown generalizing order with
  | nil => exact le_rfl
  | cons first rest induction =>
      cases order with
      | zero => exact first.blocks_le
      | succ order => exact induction order

/-- The counts of the row that fills a field, if there is one. -/
def filledCounts (pages : List PageRow) (counts : PageRow → List Nat)
    (zone node : String) (kind : Excluded) : List Nat :=
  match pages.find? fun page => page.Fills zone node kind with
  | none => []
  | some page => counts page

theorem filledBytes_eq (pages : List PageRow) (zone node : String)
    (kind : Excluded) :
    filledBytes pages zone node kind =
      ⟨UInt64.ofNat (freeBytes 9 (filledCounts pages PageRow.counts zone node kind)),
        UInt64.ofNat
          (freeBytes 0 (filledCounts pages PageRow.counts zone node kind))⟩ := by
  unfold filledBytes filledCounts
  cases pages.find? fun page => page.Fills zone node kind with
  | none => rfl
  | some page => rfl

/-- The free blocks of a machine: the rows of `buddyinfo`, and those of
`pagetypeinfo` with the blocks that they stand for. -/
structure MemoryState where
  rows : List BuddyRow
  pages : List PageRow
  blocks : PageRow → List Nat
  distinct : (pages.map PageRow.key).Nodup
  shown : ∀ page ∈ pages, page.fields.Forall₂ PageField.Shows (blocks page)
  rowTotals : ∀ row ∈ rows, freeBytes 0 row.counts < 2 ^ 64
  pageTotals : ∀ page ∈ pages, page.kind ≠ none →
    freeBytes 0 (blocks page) < 2 ^ 64

namespace MemoryState

variable (state : MemoryState)

def thpRow (node : String) : Option BuddyRow := Cgroup.thpRow state.rows node

/-- The free blocks of each order in the zone that huge pages come from. -/
def buddyBlocks (node : String) : List Nat :=
  (state.thpRow node).elim [] BuddyRow.counts

/-- Those of them that are of an excluded migrate type. -/
def excludedBlocks (node : String) (kind : Excluded) : List Nat :=
  (state.thpRow node).elim [] fun row =>
    filledCounts state.pages state.blocks row.zoneName node kind

/-- At each order there are at least as many free blocks as excluded ones. -/
def Within (node : String) : Prop :=
  ∀ order, (state.excludedBlocks node .unmovable).getD order 0 +
    (state.excludedBlocks node .isolate).getD order 0 ≤
      (state.buddyBlocks node).getD order 0

/-- The files show the state, and each map that is made of them is iterated once. -/
structure PrintedIn (files : MemoryFiles) (orders : MemoryOrders) : Prop where
  buddyinfo : ∃ lines, files.buddyinfo = some (procText lines) ∧
    state.rows.Forall₂ BuddyRow.PrintedAs lines
  pagetypeinfo : ∃ lines, files.pagetypeinfo = some (procText lines) ∧
    PagetypeText false state.pages lines
  buddy : Visits orders.buddy state.rows
  pagetype : ∀ snapshot byZone,
    readBuddySnapshot files.buddyinfo orders.buddy = .ok snapshot →
    readPagetypeExcludedAllZones files.pagetypeinfo = .ok byZone →
      orders.pagetype.Visit byZone snapshot.zonesByNUMA

/-- Every node has a zone for huge pages, and that zone has excluded migrate types
on some node. -/
structure Available : Prop where
  zones : AllTHP state.rows
  excluded : ∀ row ∈ state.rows, ∀ thp, state.thpRow row.node = some thp →
    ∃ page ∈ state.pages, page.kind ≠ none ∧ page.zoneName = thp.zoneName

theorem shownTotals : ∀ page ∈ state.pages, page.kind ≠ none →
    freeBytes 0 page.counts < 2 ^ 64 := by
  intro page member excluded
  have shown := getD_blocks_le (state.shown page member)
  exact (freeBytes_mono 0 shown).trans_lt (state.pageTotals page member excluded)

theorem getD_filledCounts_le (zone node : String) (kind : Excluded) (order : Nat) :
    (filledCounts state.pages PageRow.counts zone node kind).getD order 0 ≤
      (filledCounts state.pages state.blocks zone node kind).getD order 0 := by
  unfold filledCounts
  cases found : state.pages.find? fun page => page.Fills zone node kind with
  | none => exact le_rfl
  | some page =>
      exact getD_blocks_le (state.shown page (List.mem_of_find?_eq_some found)) order

end MemoryState

/-! ### What is read -/

section Read

variable {state : MemoryState} {files : MemoryFiles} {orders : MemoryOrders}
    (printed : state.PrintedIn files orders)

include printed

theorem snapshot_of_read {snapshot : BuddySnapshot}
    (read : readBuddySnapshot files.buddyinfo orders.buddy = .ok snapshot) :
    snapshot.zonesByNUMA = (BuddyScan.ofRows state.rows).zonesByNUMA ∧
      ∀ entry ∈ snapshot.thpByNUMA, ∃ row,
        state.thpRow entry.numa = some row ∧ row.entry = entry := by
  obtain ⟨lines, text, rows⟩ := printed.buddyinfo
  rw [text] at read
  obtain ⟨zones, entries⟩ := readBuddySnapshot_ok rows printed.buddy read
  refine ⟨zones, fun entry member => ?_⟩
  obtain ⟨node, row, thp, rfl⟩ := entries entry member
  refine ⟨row, ?_, rfl⟩
  have here : row.entry.numa = node := (thpRow_eq_some thp).2.1
  rw [here]
  exact thp

theorem byZone_of_read {byZone : PagetypeExcludedByZone}
    (read : readPagetypeExcludedAllZones files.pagetypeinfo = .ok byZone) :
    byZone = state.pages.foldl addPageRow ∅ := by
  obtain ⟨lines, text, pages⟩ := printed.pagetypeinfo
  rw [text, readPagetypeExcludedAllZones_eq pages state.shownTotals] at read
  split at read
  next => cases read
  next => exact (Except.ok.inj read).symm

omit printed in
theorem named_foldl_addPageRow (state : MemoryState) (zone : String) :
    Named ((state.pages.foldl addPageRow ∅).getD zone ∅) := by
  intro numa entry found
  rw [Table.lookup_getD_empty] at found
  exact (exactly_foldl_addPageRow state.distinct state.shownTotals).named zone numa
    entry found

omit printed in
theorem thpExcluded_foldl_addPageRow {node : String} {row : BuddyRow}
    (thp : state.thpRow node = some row) :
    thpExcluded (state.pages.foldl addPageRow ∅)
        (BuddyScan.ofRows state.rows).zonesByNUMA node =
      entryOf state.pages row.zoneName node := by
  rw [thpExcluded, thpBuddyZone_ofRows thp,
    nestedLookup_foldl_addPageRow state.distinct]
  split
  next => rfl
  next absent => exact (entryOf_of_not_listed absent).symm

/-- The entry that is subtracted for a node is that of its zone for huge pages. -/
theorem excluded_of_read {snapshot : BuddySnapshot}
    {stats : List NumaPagetypeExcluded × List NumaPagetypeExcluded}
    (buddy : readBuddySnapshot files.buddyinfo orders.buddy = .ok snapshot)
    (read : readPagetypeBuddyStats files.pagetypeinfo snapshot.zonesByNUMA
      orders.pagetype = .ok stats)
    {row : BuddyRow} {node : String} (thp : state.thpRow node = some row) :
    (excludedByNUMAMap stats.1).lookup node =
      some (entryOf state.pages row.zoneName node) := by
  obtain ⟨byZone, pages, chosen, -⟩ := readPagetypeBuddyStats_eq_ok.mp read
  have visit := printed.pagetype snapshot byZone buddy pages
  obtain rfl := byZone_of_read printed pages
  obtain ⟨zones, -⟩ := snapshot_of_read printed buddy
  have member : node ∈ snapshot.zonesByNUMA := by
    obtain ⟨listed, here, -⟩ := thpRow_eq_some thp
    rw [zones, mem_zonesByNUMA_ofRows]
    exact ⟨row, listed, here⟩
  rw [pagetypeExcludedTHPZone_ok (named_foldl_addPageRow state) visit chosen member,
    zones, thpExcluded_foldl_addPageRow thp]

omit printed in
theorem getD_foldl_addPageRow_ne_empty {page : PageRow}
    (member : page ∈ state.pages) (excluded : page.kind ≠ none) :
    (state.pages.foldl addPageRow ∅).getD page.zoneName ∅ ≠ ∅ := by
  obtain ⟨kind, own⟩ := Option.ne_none_iff_exists'.mp excluded
  have listed : Listed state.pages page.zoneName page.node :=
    ⟨page, member, kind, rfl, rfl, own⟩
  have found := nestedLookup_foldl_addPageRow state.distinct page.zoneName page.node
  rw [if_pos listed, ← Table.lookup_getD_empty] at found
  intro empty
  rw [empty, Finmap.lookup_empty] at found
  cases found

/-- With excluded migrate types in each zone for huge pages, both files are read. -/
theorem exists_read (available : state.Available) (present : state.rows ≠ []) :
    ∃ snapshot stats,
      readBuddySnapshot files.buddyinfo orders.buddy = .ok snapshot ∧
      readPagetypeBuddyStats files.pagetypeinfo snapshot.zonesByNUMA
        orders.pagetype = .ok stats ∧
      ∀ node row, state.thpRow node = some row →
        row.entry ∈ snapshot.thpByNUMA := by
  obtain ⟨lines, text, rows⟩ := printed.buddyinfo
  obtain ⟨entries, read, -, listed⟩ :=
    readBuddySnapshot_printed rows printed.buddy present available.zones
  rw [← text] at read
  have thpPage : ∀ row ∈ state.rows, ∃ thp, state.thpRow row.node = some thp ∧
      ∃ page ∈ state.pages, page.kind ≠ none ∧ page.zoneName = thp.zoneName := by
    intro row member
    obtain ⟨other, listed', same, isTHP⟩ := available.zones row member
    obtain ⟨thp, chosen⟩ := exists_thpRow listed' isTHP
    rw [same] at chosen
    exact ⟨thp, chosen, available.excluded row member thp chosen⟩
  have pages : readPagetypeExcludedAllZones files.pagetypeinfo =
      .ok (state.pages.foldl addPageRow ∅) := by
    obtain ⟨lines', text', printed'⟩ := printed.pagetypeinfo
    rw [text', readPagetypeExcludedAllZones_eq printed' state.shownTotals]
    refine if_neg fun empty => ?_
    obtain ⟨row, rest, first⟩ := List.exists_cons_of_ne_nil present
    obtain ⟨thp, -, page, member, excluded, -⟩ :=
      thpPage row (first ▸ List.mem_cons_self)
    apply getD_foldl_addPageRow_ne_empty member excluded
    rw [empty, Table.getD_empty]
  obtain ⟨excluded, chosen⟩ := exists_pagetypeExcludedTHPZone
    (named_foldl_addPageRow state) (printed.pagetype _ _ read pages) (by
      intro numa member
      obtain ⟨row, listed', rfl⟩ := mem_zonesByNUMA_ofRows.mp member
      obtain ⟨thp, isTHP, page, member', excluded, zone⟩ := thpPage row listed'
      rw [thpBuddyZone_ofRows isTHP, ← zone]
      exact getD_foldl_addPageRow_ne_empty member' excluded)
  refine ⟨_, (excluded, _), read,
    readPagetypeBuddyStats_eq_ok.mpr ⟨_, pages, chosen, rfl⟩, ?_⟩
  intro node row thp
  exact (listed row.entry).mpr ⟨node, row, thp, rfl⟩

end Read

/-! ### What is exported -/

/-- The values that the dashboard stacks. -/
inductive THPMetric
  | buddyGe9
  | buddyAll
  | movableGe9
  | movableAll

def THPMetric.desc : THPMetric → NodeMemory.Desc
  | .buddyGe9 => .buddyOrderGe9
  | .buddyAll => .buddyAllOrders
  | .movableGe9 => .movableOrderGe9
  | .movableAll => .movableAllOrders

namespace NodeMemory

def Exports (ns : NodeMemory) (nodeName node : String) (metric : THPMetric)
    (value : ℚ) : Prop :=
  ⟨metric.desc, .gauge value, [nodeName, node]⟩ ∈ ns.collect nodeName

def thpBytes (ns : NodeMemory) (b : NumaBuddyFree) : THPMetric → Option UInt64
  | .buddyGe9 => some b.orderGe9Bytes
  | .buddyAll => some b.allOrdersBytes
  | .movableGe9 => if ns.pagetypeAvailable then some (ns.movableGe9 b) else none
  | .movableAll => if ns.pagetypeAvailable then some (ns.movableAll b) else none

theorem eq_bytesGauge_iff {desc desc' : Desc} {bytes : UInt64}
    {labels labels' : List String} {value : ℚ} :
    (⟨desc', .gauge value, labels'⟩ : Metric Desc) = bytesGauge desc bytes labels ↔
      desc = desc' ∧ labels = labels' ∧ Binary64.round bytes.toNat = value := by
  rw [bytesGauge, Metric.mk.injEq, MetricValue.gauge.injEq, eq_comm,
    eq_comm (a := value), eq_comm (a := labels'), and_comm (a := _ = value)]

theorem mem_buddyMetrics_iff (ns : NodeMemory) (nodeName node : String)
    (b : NumaBuddyFree) (metric : THPMetric) (value : ℚ) :
    ⟨metric.desc, .gauge value, [nodeName, node]⟩ ∈ ns.buddyMetrics nodeName b ↔
      b.numa = node ∧ ∃ bytes, ns.thpBytes b metric = some bytes ∧
        Binary64.round bytes.toNat = value := by
  cases available : ns.pagetypeAvailable with
  | false =>
      cases metric <;>
        simp [buddyMetrics, eq_bytesGauge_iff, THPMetric.desc, thpBytes, available]
  | true =>
      cases metric <;>
        simp [buddyMetrics, unmovableMetrics, eq_bytesGauge_iff, THPMetric.desc,
          thpBytes, available]

theorem notMem_unmovableMetrics (nodeName node numa : String)
    (u : NumaPagetypeExcluded) (metric : THPMetric) (value : ℚ) :
    ⟨metric.desc, .gauge value, [nodeName, node]⟩ ∉
      unmovableMetrics nodeName numa u := by
  cases metric <;> simp [unmovableMetrics, eq_bytesGauge_iff, THPMetric.desc]

theorem notMem_zoneMetrics (ns : NodeMemory) (nodeName node : String)
    (metric : THPMetric) (value : ℚ) :
    (⟨metric.desc, .gauge value, [nodeName, node]⟩ : Metric Desc) ∉
      ns.zoneByNuma.flatMap (zoneMetrics nodeName) ++ ns.slabMetrics nodeName := by
  rw [slabMetrics, List.mem_append, List.mem_flatMap, List.mem_map]
  rintro (⟨z, -, inZone⟩ | ⟨s, -, same⟩)
  · simp [zoneMetrics, eq_bytesGauge_iff] at inZone
  · rw [eq_comm, eq_bytesGauge_iff] at same
    cases metric <;> cases same.1

theorem exports_iff (ns : NodeMemory) (nodeName node : String)
    (metric : THPMetric) (value : ℚ) :
    ns.Exports nodeName node metric value ↔
      ns.buddyAvailable = true ∧ ∃ b ∈ ns.buddyByNuma, b.numa = node ∧
        ∃ bytes, ns.thpBytes b metric = some bytes ∧
          Binary64.round bytes.toNat = value := by
  rw [Exports, collect, List.mem_append, or_iff_left]
  · unfold blocks
    split
    next available =>
      simp only [available, true_and, List.mem_flatMap, mem_buddyMetrics_iff]
    next missing =>
      refine iff_of_false ?_ fun exported => missing exported.1
      split
      next =>
        rw [List.mem_flatMap]
        rintro ⟨e, -, member⟩
        exact notMem_unmovableMetrics nodeName node e.numa e metric value member
      next => exact List.not_mem_nil
  · split
    next => exact notMem_zoneMetrics ns nodeName node metric value
    next => exact List.not_mem_nil

section Buddy

variable {files : MemoryFiles} {orders : MemoryOrders} {snapshot : BuddySnapshot}
    (read : readBuddySnapshot files.buddyinfo orders.buddy = .ok snapshot)

include read

theorem collectNodeStats_of_buddy :
    (collectNodeStats files orders).buddyAvailable = true ∧
      (collectNodeStats files orders).buddyByNuma = snapshot.thpByNUMA ∧
      (collectNodeStats files orders).pagetypeAvailable =
        (readPagetypeBuddyStats files.pagetypeinfo snapshot.zonesByNUMA
          orders.pagetype).toOption.isSome := by
  simp [collectNodeStats, read, Except.toOption]

theorem excludedByNuma_of_read
    {stats : List NumaPagetypeExcluded × List NumaPagetypeExcluded}
    (pagetype : readPagetypeBuddyStats files.pagetypeinfo snapshot.zonesByNUMA
      orders.pagetype = .ok stats) :
    (collectNodeStats files orders).excludedByNuma = stats.1 := by
  simp [collectNodeStats, read, pagetype, Except.toOption]

end Buddy

theorem exists_snapshot {files : MemoryFiles} {orders : MemoryOrders}
    (available : (collectNodeStats files orders).buddyAvailable = true) :
    ∃ snapshot,
      readBuddySnapshot files.buddyinfo orders.buddy = .ok snapshot := by
  cases read : readBuddySnapshot files.buddyinfo orders.buddy with
  | error problem => simp [collectNodeStats, read, Except.toOption] at available
  | ok snapshot => exact ⟨snapshot, rfl⟩

end NodeMemory

namespace MemoryState

variable (state : MemoryState)

/-- What is shown of the excluded blocks. -/
def shownBlocks (node : String) (kind : Excluded) : List Nat :=
  (state.thpRow node).elim [] fun row =>
    filledCounts state.pages PageRow.counts row.zoneName node kind

def shownBytes (node : String) (least : Nat) : Nat :=
  freeBytes least (state.shownBlocks node .unmovable) +
    freeBytes least (state.shownBlocks node .isolate)

def excludedBytes (node : String) (least : Nat) : Nat :=
  freeBytes least (state.excludedBlocks node .unmovable) +
    freeBytes least (state.excludedBlocks node .isolate)

/-- The bytes that are exported for a node. -/
def exportedBytes (node : String) : THPMetric → Nat
  | .buddyGe9 => freeBytes 9 (state.buddyBlocks node)
  | .buddyAll => freeBytes 0 (state.buddyBlocks node)
  | .movableGe9 =>
      freeBytes 9 (state.buddyBlocks node) - state.shownBytes node 9
  | .movableAll =>
      freeBytes 0 (state.buddyBlocks node) - state.shownBytes node 0

theorem getD_shownBlocks_le (node : String) (kind : Excluded) (order : Nat) :
    (state.shownBlocks node kind).getD order 0 ≤
      (state.excludedBlocks node kind).getD order 0 := by
  unfold shownBlocks excludedBlocks
  cases state.thpRow node with
  | none => exact le_rfl
  | some row => exact state.getD_filledCounts_le row.zoneName node kind order

variable {state} {node : String}

theorem shownBytes_le_excludedBytes (least : Nat) :
    state.shownBytes node least ≤ state.excludedBytes node least :=
  Nat.add_le_add (freeBytes_mono least (state.getD_shownBlocks_le node .unmovable))
    (freeBytes_mono least (state.getD_shownBlocks_le node .isolate))

theorem shown_within (within : state.Within node) (order : Nat) :
    (state.shownBlocks node .unmovable).getD order 0 +
        (state.shownBlocks node .isolate).getD order 0 ≤
      (state.buddyBlocks node).getD order 0 :=
  (Nat.add_le_add (state.getD_shownBlocks_le node .unmovable order)
    (state.getD_shownBlocks_le node .isolate order)).trans (within order)

theorem pageSize_dvd_exportedBytes (metric : THPMetric) :
    pageSize ∣ state.exportedBytes node metric := by
  have buddy := fun least => pageSize_dvd_freeBytes least (state.buddyBlocks node)
  have shown : ∀ least, pageSize ∣ state.shownBytes node least := fun least =>
    Nat.dvd_add (pageSize_dvd_freeBytes _ _) (pageSize_dvd_freeBytes _ _)
  cases metric with
  | buddyGe9 => exact buddy 9
  | buddyAll => exact buddy 0
  | movableGe9 => exact Nat.dvd_sub (buddy 9) (shown 9)
  | movableAll => exact Nat.dvd_sub (buddy 0) (shown 0)

theorem buddyBytes_lt (least : Nat) :
    freeBytes least (state.buddyBlocks node) < 2 ^ 64 := by
  refine (freeBytes_antitone (Nat.zero_le least) _).trans_lt ?_
  unfold buddyBlocks
  cases found : state.thpRow node with
  | none => exact Nat.two_pow_pos 64
  | some row => exact state.rowTotals row (thpRow_eq_some found).1

theorem exportedBytes_lt (metric : THPMetric) :
    state.exportedBytes node metric < 2 ^ 64 := by
  cases metric with
  | buddyGe9 => exact buddyBytes_lt 9
  | buddyAll => exact buddyBytes_lt 0
  | movableGe9 => exact (Nat.sub_le _ _).trans_lt (buddyBytes_lt 9)
  | movableAll => exact (Nat.sub_le _ _).trans_lt (buddyBytes_lt 0)

/-- Whole pages are exported without rounding. -/
theorem round_exportedBytes (metric : THPMetric) :
    Binary64.round (state.exportedBytes node metric) =
      state.exportedBytes node metric :=
  Binary64.round_natCast (e := 12) (pageSize_dvd_exportedBytes metric)
    ((exportedBytes_lt metric).trans (by norm_num))

/-- Neither sum of excluded bytes wraps around. -/
theorem toNat_excludedBytes {row : BuddyRow} (thp : state.thpRow node = some row)
    (within : state.Within node) :
    (entryOf state.pages row.zoneName node).excludedOrderGe9Bytes.toNat =
        state.shownBytes node 9 ∧
      (entryOf state.pages row.zoneName node).excludedAllOrdersBytes.toNat =
        state.shownBytes node 0 := by
  have shown : ∀ kind, state.shownBlocks node kind =
      filledCounts state.pages PageRow.counts row.zoneName node kind := by
    intro kind
    rw [shownBlocks, thp]
    rfl
  have small : ∀ least, state.shownBytes node least < 2 ^ 64 := fun least =>
    (freeBytes_add_le (shown_within within) least).trans_lt (buddyBytes_lt least)
  have bytes := entryOf_bytes state.pages row.zoneName node
  constructor
  · change (((entryOf state.pages row.zoneName node).bytes .unmovable).orderGe9 +
      ((entryOf state.pages row.zoneName node).bytes .isolate).orderGe9).toNat = _
    rw [bytes, bytes, filledBytes_eq, filledBytes_eq, ← shown, ← shown,
      ← UInt64.ofNat_add]
    exact UInt64.toNat_ofNat_of_lt' (small 9)
  · change (((entryOf state.pages row.zoneName node).bytes .unmovable).allOrders +
      ((entryOf state.pages row.zoneName node).bytes .isolate).allOrders).toNat = _
    rw [bytes, bytes, filledBytes_eq, filledBytes_eq, ← shown, ← shown,
      ← UInt64.ofNat_add]
    exact UInt64.toNat_ofNat_of_lt' (small 0)

section Printed

variable {files : MemoryFiles} {orders : MemoryOrders}
    (printed : state.PrintedIn files orders) (within : state.Within node)

include printed within

theorem toNat_thpBytes {snapshot : BuddySnapshot}
    (read : readBuddySnapshot files.buddyinfo orders.buddy = .ok snapshot)
    {row : BuddyRow} (thp : state.thpRow node = some row) {metric : THPMetric}
    {bytes : UInt64}
    (value : (NodeMemory.collectNodeStats files orders).thpBytes row.entry metric =
      some bytes) :
    bytes.toNat = state.exportedBytes node metric := by
  have blocks : state.buddyBlocks node = row.counts := by
    rw [buddyBlocks, thp]
    rfl
  have buddy : ∀ least, (UInt64.ofNat (freeBytes least row.counts)).toNat =
      freeBytes least (state.buddyBlocks node) := by
    intro least
    rw [← blocks]
    exact UInt64.toNat_ofNat_of_lt' (buddyBytes_lt least)
  have here : row.entry.numa = node := (thpRow_eq_some thp).2.1
  obtain ⟨ge9, all⟩ := toNat_excludedBytes thp within
  have excluded : (NodeMemory.collectNodeStats files orders).pagetypeAvailable =
      true → (excludedByNUMAMap (NodeMemory.collectNodeStats files
        orders).excludedByNuma).getD row.entry.numa (.zero "") =
          entryOf state.pages row.zoneName node := by
    intro available
    rw [(NodeMemory.collectNodeStats_of_buddy read).2.2] at available
    cases pagetype : readPagetypeBuddyStats files.pagetypeinfo
        snapshot.zonesByNUMA orders.pagetype with
    | error problem =>
        rw [pagetype] at available
        cases available
    | ok stats =>
        rw [NodeMemory.excludedByNuma_of_read read pagetype, here, Table.getD,
          excluded_of_read printed read pagetype thp, Option.getD_some]
  cases metric with
  | buddyGe9 =>
      obtain rfl := Option.some.inj value
      exact buddy 9
  | buddyAll =>
      obtain rfl := Option.some.inj value
      exact buddy 0
  | movableGe9 =>
      simp only [NodeMemory.thpBytes] at value
      split at value
      next available =>
        obtain rfl := Option.some.inj value
        rw [NodeMemory.movableGe9, excluded available,
          toNat_subtractExcludedBytes, ge9]
        exact congrArg (· - _) (buddy 9)
      next => cases value
  | movableAll =>
      simp only [NodeMemory.thpBytes] at value
      split at value
      next available =>
        obtain rfl := Option.some.inj value
        rw [NodeMemory.movableAll, excluded available,
          toNat_subtractExcludedBytes, all]
        exact congrArg (· - _) (buddy 0)
      next => cases value

theorem exports_eq {nodeName : String} {metric : THPMetric} {value : ℚ}
    (exported : (NodeMemory.collectNodeStats files orders).Exports nodeName node
      metric value) : value = state.exportedBytes node metric := by
  obtain ⟨available, b, member, rfl, bytes, some_, rfl⟩ :=
    (NodeMemory.exports_iff _ _ _ _ _).mp exported
  obtain ⟨snapshot, read⟩ := NodeMemory.exists_snapshot available
  rw [(NodeMemory.collectNodeStats_of_buddy read).2.1] at member
  obtain ⟨row, thp, same⟩ := (snapshot_of_read printed read).2 b member
  rw [← same] at some_
  rw [toNat_thpBytes printed within read thp some_, round_exportedBytes]

theorem exports_exportedBytes (available : state.Available)
    (present : ∃ row ∈ state.rows, row.node = node) (nodeName : String)
    (metric : THPMetric) :
    (NodeMemory.collectNodeStats files orders).Exports nodeName node metric
      (state.exportedBytes node metric) := by
  obtain ⟨row, member, rfl⟩ := present
  obtain ⟨snapshot, stats, read, pagetype, entries⟩ :=
    exists_read printed available (List.ne_nil_of_mem member)
  obtain ⟨buddyAvailable, buddyByNuma, pagetypeAvailable⟩ :=
    NodeMemory.collectNodeStats_of_buddy read
  rw [pagetype] at pagetypeAvailable
  obtain ⟨other, listed, same, isTHP⟩ := available.zones row member
  obtain ⟨thp, chosen⟩ := exists_thpRow listed isTHP
  rw [same] at chosen
  have value : ∃ bytes, (NodeMemory.collectNodeStats files orders).thpBytes
      thp.entry metric = some bytes := by
    cases metric with
    | buddyGe9 => exact ⟨_, rfl⟩
    | buddyAll => exact ⟨_, rfl⟩
    | movableGe9 => exact ⟨_, if_pos pagetypeAvailable⟩
    | movableAll => exact ⟨_, if_pos pagetypeAvailable⟩
  obtain ⟨bytes, value⟩ := value
  refine (NodeMemory.exports_iff _ _ _ _ _).mpr ⟨buddyAvailable, thp.entry, ?_,
    (thpRow_eq_some chosen).2.1, bytes, value, ?_⟩
  · rw [buddyByNuma]
    exact entries row.node thp chosen
  · rw [toNat_thpBytes printed within read chosen value, round_exportedBytes]

end Printed

/-- The slices of the stack that a dashboard draws for a node are non-negative, and
no movable memory is missing from them. -/
structure Stacks (state : MemoryState) (node : String) (value : THPMetric → ℚ) :
    Prop where
  movable : value .movableGe9 ≤ value .movableAll
  movableAll : value .movableAll ≤ value .buddyAll
  movableGe9 : value .movableGe9 ≤ value .buddyGe9
  excluded : value .buddyGe9 - value .movableGe9 ≤
    value .buddyAll - value .movableAll
  trueGe9 : (freeBytes 9 (state.buddyBlocks node) : ℚ) -
    (freeBytes 9 (state.excludedBlocks node .unmovable) +
      freeBytes 9 (state.excludedBlocks node .isolate)) ≤ value .movableGe9
  trueAll : (freeBytes 0 (state.buddyBlocks node) : ℚ) -
    (freeBytes 0 (state.excludedBlocks node .unmovable) +
      freeBytes 0 (state.excludedBlocks node .isolate)) ≤ value .movableAll

theorem stacks_exportedBytes (within : state.Within node) :
    state.Stacks node fun metric => state.exportedBytes node metric := by
  have shown : ∀ least, state.shownBytes node least ≤
      freeBytes least (state.buddyBlocks node) :=
    freeBytes_add_le (shown_within within)
  have lower : freeBytes 9 (state.buddyBlocks node) + state.shownBytes node 0 ≤
      freeBytes 0 (state.buddyBlocks node) + state.shownBytes node 9 :=
    freeBytes_add_le_add (shown_within within) 9
  have fewer : state.shownBytes node 9 ≤ state.shownBytes node 0 :=
    Nat.add_le_add (freeBytes_antitone (Nat.zero_le 9) _)
      (freeBytes_antitone (Nat.zero_le 9) _)
  have missing : ∀ least, (freeBytes least (state.buddyBlocks node) : ℚ) -
      (freeBytes least (state.excludedBlocks node .unmovable) +
        freeBytes least (state.excludedBlocks node .isolate)) ≤
      (freeBytes least (state.buddyBlocks node) : ℚ) -
        state.shownBytes node least := by
    intro least
    have hidden : (state.shownBytes node least : ℚ) ≤
        state.excludedBytes node least :=
      Nat.cast_le.mpr (shownBytes_le_excludedBytes least)
    rw [excludedBytes, Nat.cast_add] at hidden
    linarith
  have lower' : (freeBytes 9 (state.buddyBlocks node) : ℚ) +
      state.shownBytes node 0 ≤
        freeBytes 0 (state.buddyBlocks node) + state.shownBytes node 9 := by
    exact_mod_cast lower
  have fewer' : (state.shownBytes node 9 : ℚ) ≤ state.shownBytes node 0 :=
    Nat.cast_le.mpr fewer
  have nonneg : ∀ least, (0 : ℚ) ≤ state.shownBytes node least :=
    fun least => Nat.cast_nonneg _
  constructor <;> simp only [exportedBytes, Nat.cast_sub (shown 9),
    Nat.cast_sub (shown 0)]
  · linarith
  · linarith [nonneg 0]
  · linarith [nonneg 9]
  · linarith
  · exact missing 9
  · exact missing 0

/-- Whatever is exported for a node stacks up; and it is exported when the files
show excluded blocks in each zone for huge pages. -/
theorem collect_stacks (state : MemoryState) (files : MemoryFiles)
    (orders : MemoryOrders) (printed : state.PrintedIn files orders)
    (nodeName node : String) (within : state.Within node) :
    (∀ value : THPMetric → ℚ,
      (∀ metric, (NodeMemory.collectNodeStats files orders).Exports nodeName node
        metric (value metric)) → state.Stacks node value) ∧
    (state.Available → (∃ row ∈ state.rows, row.node = node) →
      ∃ value : THPMetric → ℚ, ∀ metric,
        (NodeMemory.collectNodeStats files orders).Exports nodeName node metric
          (value metric)) := by
  constructor
  · intro value exported
    have same : value = fun metric => (state.exportedBytes node metric : ℚ) := by
      funext metric
      exact exports_eq printed within (exported metric)
    rw [same]
    exact stacks_exportedBytes within
  · intro available present
    exact ⟨_, exports_exportedBytes printed within available present nodeName⟩

end MemoryState

/-! A node with a saturated field. -/

def largeRow : BuddyRow where
  numa := 0
  zone := "Normal".toList
  counts := [3, 200000, 0, 0, 0, 0, 0, 0, 0, 5, 2]
  unmarked := (normalRow 0).unmarked

def largeLine : ProcLine :=
  .ofText "Node 0, zone   Normal      3 200000 0 0 0 0 0 0 0 5 2 ".toList

def pinnedRow : PageRow where
  numa := 0
  zone := "Normal".toList
  migratype := "Unmovable".toList
  fields := [.exact 1, .saturated "100000".toList, .exact 0, .exact 0, .exact 0,
    .exact 0, .exact 0, .exact 0, .exact 0, .exact 1, .exact 0]

def pinnedLine : ProcLine :=
  .ofText
    "Node    0, zone   Normal, type    Unmovable  1 >100000 0 0 0 0 0 0 0 1 0".toList

def offlinedRow : PageRow where
  numa := 0
  zone := "Normal".toList
  migratype := "Isolate".toList
  fields := [.exact 0, .exact 7, .exact 0, .exact 0, .exact 0, .exact 0, .exact 0,
    .exact 0, .exact 0, .exact 1, .exact 1]

def offlinedLine : ProcLine :=
  .ofText "Node    0, zone   Normal, type      Isolate  0 7 0 0 0 0 0 0 0 1 1".toList

def saturatedState : MemoryState where
  rows := [largeRow]
  pages := [pinnedRow, offlinedRow]
  blocks := fun page =>
    if page.kind = some .unmovable then [1, 150000, 0, 0, 0, 0, 0, 0, 0, 1, 0]
    else [0, 7, 0, 0, 0, 0, 0, 0, 0, 1, 1]
  distinct := by decide
  shown := by
    intro page member
    rcases List.mem_pair.mp member with rfl | rfl
    · have pinned : pinnedRow.kind = some .unmovable := by decide
      rw [if_pos pinned]
      refine .cons rfl (.cons (by decide : 100000 ≤ 150000) ?_)
      repeat' first | exact .nil | refine .cons rfl ?_
    · have offlined : offlinedRow.kind ≠ some .unmovable := by decide
      rw [if_neg offlined]
      repeat' first | exact .nil | refine .cons rfl ?_
  rowTotals := by
    intro row member
    obtain rfl := List.mem_singleton.mp member
    decide
  pageTotals := by
    intro page member _
    rcases List.mem_pair.mp member with rfl | rfl
    · decide
    · decide

def saturatedFiles : MemoryFiles where
  buddyinfo := some (procText [largeLine])
  buddyinfoAgain := none
  pagetypeinfo := some (procText [freeHeaderLine, pinnedLine, offlinedLine])
  zoneinfo := none

def saturatedOrders : MemoryOrders where
  buddy := ["0"]
  buddyAgain := []
  pagetype := {
    zones := ["0"]
    nodes := ["0"]
    entries := fun zone => if zone = "Normal" then ["0"] else []
    normal := ["0"]
    movable := []
    summed := ["0"] }
  slab := []

theorem saturated_printed : saturatedState.PrintedIn saturatedFiles saturatedOrders := by
  have large : largeRow.PrintedAs largeLine := by decide +kernel
  have pinned : pinnedRow.PrintedAs pinnedLine := by decide +kernel
  have offlined : offlinedRow.PrintedAs offlinedLine := by decide +kernel
  have rows : saturatedState.rows.Forall₂ BuddyRow.PrintedAs [largeLine] :=
    .cons large .nil
  have pages : PagetypeText false saturatedState.pages
      [freeHeaderLine, pinnedLine, offlinedLine] :=
    .line (.freeSection (by decide)) (.line (.row pinned) (.line (.row offlined) .nil))
  have visits : Visits ["0"] [largeRow] := by
    refine ⟨by decide, fun node => ?_⟩
    have zero : largeRow.node = "0" := by decide
    simp [zero, eq_comm]
  refine ⟨⟨_, rfl, rows⟩, ⟨_, rfl, pages⟩, visits, ?_⟩
  intro snapshot byZone read read'
  obtain ⟨zones, -⟩ := readBuddySnapshot_ok rows visits read
  have nodes : Table.Enumerates ["0"] snapshot.zonesByNUMA := by
    refine ⟨by decide, fun node => ?_⟩
    rw [zones, mem_zonesByNUMA_ofRows]
    exact visits.mem_iff node
  have entries : ∀ zone numa, numa ∈ byZone.getD zone ∅ ↔
      zone = "Normal" ∧ numa = "0" := by
    intro zone numa
    have exactly := exactly_foldl_addPageRow saturatedState.distinct
      saturatedState.shownTotals
    rw [saturatedFiles, readPagetypeExcludedAllZones_eq pages
      saturatedState.shownTotals] at read'
    split at read'
    next => cases read'
    next =>
      obtain rfl := Except.ok.inj read'
      rw [← Finmap.lookup_isSome, Table.lookup_getD_empty, exactly.entries]
      constructor
      · rintro ⟨page, member, kind, rfl, rfl, -⟩
        rcases List.mem_pair.mp member with rfl | rfl
        · exact ⟨by decide, by decide⟩
        · exact ⟨by decide, by decide⟩
      · rintro ⟨rfl, rfl⟩
        exact ⟨pinnedRow, List.mem_cons_self, .unmovable, by decide,
          by decide, by decide⟩
  have once : ∀ zone, Table.Enumerates (if zone = "Normal" then ["0"] else [])
      (byZone.getD zone ∅) := by
    intro zone
    constructor
    · split
      next => decide
      next => exact List.nodup_nil
    · intro numa
      rw [entries]
      split
      next here => simp [here]
      next elsewhere => simp [elsewhere]
  refine ⟨nodes, nodes, once, once "Normal", once "Movable", by decide, ?_⟩
  intro numa
  rw [entries, entries]
  simp [saturatedOrders, buddyZoneNormal, buddyZoneMovable]

theorem saturated_within : saturatedState.Within "0" := by
  have unmovable : saturatedState.excludedBlocks "0" .unmovable =
      [1, 150000, 0, 0, 0, 0, 0, 0, 0, 1, 0] := by decide +kernel
  have isolate : saturatedState.excludedBlocks "0" .isolate =
      [0, 7, 0, 0, 0, 0, 0, 0, 0, 1, 1] := by decide +kernel
  have buddy : saturatedState.buddyBlocks "0" =
      [3, 200000, 0, 0, 0, 0, 0, 0, 0, 5, 2] := by decide +kernel
  intro order
  rw [unmovable, isolate, buddy]
  rcases Nat.lt_or_ge order 11 with listed | beyond
  · interval_cases order <;> decide
  · rw [List.getD_eq_default _ _ beyond, List.getD_eq_default _ _ beyond,
      List.getD_eq_default _ _ beyond]

theorem saturated_node_stacks :
    ∃ value : THPMetric → ℚ,
      (∀ metric, (NodeMemory.collectNodeStats saturatedFiles
        saturatedOrders).Exports "worker" "0" metric (value metric)) ∧
      value .movableGe9 = 3 * 2 ^ 21 + 2 ^ 22 ∧
      saturatedState.Stacks "0" value := by
  obtain ⟨stacked, exported⟩ := MemoryState.collect_stacks saturatedState
    saturatedFiles saturatedOrders saturated_printed "worker" "0" saturated_within
  have available : saturatedState.Available := by
    constructor
    · intro row member
      obtain rfl := List.mem_singleton.mp member
      exact ⟨largeRow, member, rfl, .inr rfl⟩
    · intro row member thp chosen
      obtain ⟨listed, -, -⟩ := thpRow_eq_some chosen
      obtain rfl := List.mem_singleton.mp listed
      exact ⟨pinnedRow, List.mem_cons_self, by decide, rfl⟩
  obtain ⟨value, each⟩ := exported available
    ⟨largeRow, List.mem_singleton_self _, by decide⟩
  have movable : saturatedState.exportedBytes "0" .movableGe9 = 3 * 2 ^ 21 + 2 ^ 22 := by
    decide +kernel
  refine ⟨value, each, ?_, stacked value each⟩
  rw [MemoryState.exports_eq saturated_printed saturated_within (each .movableGe9),
    movable]
  norm_num

end KubevirtMetrics.Cgroup
