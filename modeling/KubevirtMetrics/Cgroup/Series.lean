import KubevirtMetrics.Cgroup.Collector

namespace KubevirtMetrics.Cgroup

open Data Cluster Virt Prometheus

/-! The series of one collection, whatever is in the files. -/

/-! ### Nodes of `buddyinfo` -/

/-- The entries are under the names of their nodes. -/
def BuddyScan.Named (s : BuddyScan) : Prop :=
  ∀ numa zone entry, s.freeByNUMAZone.nestedLookup numa zone = some entry →
    entry.numa = numa

theorem BuddyScan.Named.line {s s' : BuddyScan} {line : List Char} (named : s.Named)
    (read : s.line line = .ok s') : s'.Named := by
  unfold BuddyScan.line at read
  split at read
  next => exact Except.ok.inj read ▸ named
  next numa zone counts _ =>
    cases parsed : buddyBytesFromCounts counts with
    | error order =>
        rw [parsed] at read
        cases read
    | ok bytes =>
        rw [parsed] at read
        obtain rfl := Except.ok.inj read
        intro node other entry found
        rw [Table.nestedLookup_nestedInsert] at found
        split at found
        next same =>
          rw [← Option.some.inj found]
          exact same.1.symm
        next => exact named node other entry found

theorem thpEntry_numa {s : BuddyScan} (named : s.Named) {numa : String}
    {entry : NumaBuddyFree} (made : s.thpEntry numa = .ok entry) : entry.numa = numa := by
  unfold BuddyScan.thpEntry at made
  dsimp only at made
  split at made
  next => cases made
  next found => exact Except.ok.inj made ▸ named _ _ _ found

theorem mapM_thpEntry {s : BuddyScan} (named : s.Named) {order : List String}
    {entries : List NumaBuddyFree} (made : order.mapM s.thpEntry = .ok entries) :
    entries.map NumaBuddyFree.numa = order := by
  rw [← List.forall₂_eq_eq_eq, List.forall₂_map_left_iff]
  exact (forall₂_of_mapM_eq_ok made).flip.imp fun entry numa made =>
    thpEntry_numa named made

theorem readBuddySnapshot_nodup {content : Option (List Char)} {order : List String}
    (once : order.Nodup) {snapshot : BuddySnapshot}
    (read : readBuddySnapshot content order = .ok snapshot) :
    (snapshot.thpByNUMA.map NumaBuddyFree.numa).Nodup := by
  unfold readBuddySnapshot at read
  split at read
  next => cases read
  next text =>
    generalize scanned text = both at read
    obtain ⟨lines, complete⟩ := both
    obtain ⟨s, scan, read⟩ := bind_eq_ok.mp read
    have named : s.Named :=
      foldlM_invariant BuddyScan.Named (fun _ _ _ named read => named.line read)
        (fun _ _ _ found => by rw [Table.nestedLookup_empty] at found; cases found) scan
    cases complete with
    | false => cases read
    | true =>
        dsimp only at read
        rw [if_neg (by decide)] at read
        split at read
        next => cases read
        next =>
          obtain ⟨entries, made, read⟩ := bind_eq_ok.mp read
          split at read
          next => cases read
          next =>
            obtain rfl := Except.ok.inj read
            have perm := List.mergeSort_perm entries fun a b => !(b.numa < a.numa)
            rw [(perm.map _).nodup_iff, mapM_thpEntry named made]
            exact once

/-! ### Nodes of `pagetypeinfo` -/

def EntriesNamed (byZone : PagetypeExcludedByZone) : Prop :=
  ∀ zone numa entry, byZone.nestedLookup zone numa = some entry → entry.numa = numa

theorem EntriesNamed.updateEntry {byZone : PagetypeExcludedByZone}
    (named : EntriesNamed byZone) (zone numa : String) (kind : Excluded)
    (bytes : OrderBytes) :
    EntriesNamed (updateEntry byZone zone numa kind bytes) := by
  intro other node entry found
  unfold Cgroup.updateEntry at found
  dsimp only at found
  rw [Table.nestedLookup_nestedInsert] at found
  split at found
  next same =>
    rw [← Option.some.inj found, NumaPagetypeExcluded.setBytes_numa, same.2]
    cases old : byZone.nestedLookup zone numa with
    | none => rfl
    | some entry =>
        rw [Option.getD_some]
        split
        next => rfl
        next => exact named zone numa entry old
  next => exact named other node entry found

theorem EntriesNamed.row {s s' : PagetypeScan} {line : List Char}
    (named : EntriesNamed s.byZone) (read : s.row line = .ok s') :
    EntriesNamed s'.byZone := by
  unfold PagetypeScan.row at read
  split at read
  next =>
    split at read
    next =>
      split at read
      next => exact Except.ok.inj read ▸ named
      next =>
        split at read
        next => cases read
        next =>
          obtain rfl := Except.ok.inj read
          exact EntriesNamed.updateEntry named _ _ _ _
    next => exact Except.ok.inj read ▸ named
  next => exact Except.ok.inj read ▸ named

theorem EntriesNamed.line {s s' : PagetypeScan} {line : List Char}
    (named : EntriesNamed s.byZone) (read : s.line line = .ok s') :
    EntriesNamed s'.byZone := by
  unfold PagetypeScan.line at read
  split_ifs at read with header outside blocks empty
  · exact Except.ok.inj read ▸ named
  · exact Except.ok.inj read ▸ named
  · exact Except.ok.inj read ▸ named
  · exact Except.ok.inj read ▸ named
  · exact named.row read

theorem readPagetypeExcludedAllZones_named {content : Option (List Char)}
    {byZone : PagetypeExcludedByZone}
    (read : readPagetypeExcludedAllZones content = .ok byZone) :
    EntriesNamed byZone := by
  unfold readPagetypeExcludedAllZones at read
  split at read
  next => cases read
  next text =>
    generalize scanned text = both at read
    obtain ⟨lines, complete⟩ := both
    obtain ⟨s, scan, read⟩ := bind_eq_ok.mp read
    have named : EntriesNamed s.byZone :=
      foldlM_invariant (fun s : PagetypeScan => EntriesNamed s.byZone)
        (fun _ _ _ named read => named.line read)
        (fun _ _ _ found => by rw [Table.nestedLookup_empty] at found; cases found) scan
    cases complete with
    | false => cases read
    | true =>
        dsimp only at read
        rw [if_neg (by decide)] at read
        split at read
        next => cases read
        next => exact Except.ok.inj read ▸ named

theorem named_insertAll {entries : List (String × NumaPagetypeExcluded)}
    (own : ∀ entry ∈ entries, entry.2.numa = entry.1) :
    Named (Table.insertAll ∅ entries) := by
  intro numa entry found
  rcases Table.mem_of_lookup_insertAll found with listed | absent
  · exact own (numa, entry) listed
  · rw [Finmap.lookup_empty] at absent
    cases absent

theorem Named.addMovable {movable byNUMA : Table String NumaPagetypeExcluded}
    (source : Named movable) (named : Named byNUMA) (numa : String) :
    Named (addMovable movable byNUMA numa) := by
  unfold Cgroup.addMovable
  split
  next => exact named
  next entry found =>
    split
    next existing old =>
      intro node other listed
      rcases Table.of_lookup_insert listed with ⟨rfl, rfl⟩ | earlier
      · exact named node existing old
      · exact named node other earlier
    next =>
      intro node other listed
      rcases Table.of_lookup_insert listed with ⟨rfl, rfl⟩ | earlier
      · exact source node entry found
      · exact named node other earlier

theorem Named.foldl_addMovable {movable byNUMA : Table String NumaPagetypeExcluded}
    (source : Named movable) (named : Named byNUMA) (order : List String) :
    Named (order.foldl (Cgroup.addMovable movable) byNUMA) := by
  induction order generalizing byNUMA with
  | nil => exact named
  | cons numa order induction => exact induction (source.addMovable named numa)

theorem sortByNUMA_nodup {table : Table String NumaPagetypeExcluded} (named : Named table)
    {order : List String} (once : order.Nodup) :
    ((sortByNUMA (order.filterMap table.lookup)).map fun e => e.numa).Nodup := by
  have perm := List.mergeSort_perm (order.filterMap table.lookup) fun a b =>
    !(b.numa < a.numa)
  rw [sortByNUMA, (perm.map _).nodup_iff]
  exact once.sublist (map_filterMap_sublist named order)

theorem pagetypeUnmovableSum_nodup {byZone : PagetypeExcludedByZone}
    (named : EntriesNamed byZone) {orders : PagetypeOrders} (once : orders.summed.Nodup) :
    ((pagetypeUnmovableSum byZone orders).map fun e => e.numa).Nodup := by
  have zone : ∀ zone, Named (byZone.getD zone ∅) := by
    intro zone numa entry found
    rw [Table.lookup_getD_empty] at found
    exact named zone numa entry found
  unfold pagetypeUnmovableSum
  dsimp only
  split
  next => exact List.nodup_nil
  next =>
    apply sortByNUMA_nodup _ once
    apply (zone buddyZoneMovable).foldl_addMovable
    apply named_insertAll
    intro entry listed
    obtain ⟨numa, -, made⟩ := List.mem_filterMap.mp listed
    obtain ⟨inner, found, rfl⟩ := Option.map_eq_some_iff.mp made
    exact zone buddyZoneNormal numa inner found

/-! ### Nodes of `zoneinfo` -/

theorem readZoneinfo_eq_ok {text : List Char} {order : List String}
    {snapshot : ZoneinfoSnapshot} :
    readZoneinfo (some text) order = .ok snapshot ↔
      ∃ s, (scanned text).1.foldlM ZoneinfoScan.line ⟨[], none, false, ∅⟩ = .ok s ∧
        (scanned text).2 = true ∧ s.flush.isEmpty = false ∧
          s.snapshot order = snapshot := by
  unfold readZoneinfo
  dsimp only
  generalize scanned text = both
  obtain ⟨lines, complete⟩ := both
  rw [bind_eq_ok]
  apply exists_congr
  intro s
  apply and_congr_right
  intro _
  cases complete with
  | false =>
      apply iff_of_false
      · intro read
        cases read
      · intro ends
        exact Bool.false_ne_true ends.1
  | true =>
      dsimp only
      rw [if_neg (by decide), and_iff_right rfl]
      cases s.flush.isEmpty with
      | true =>
          apply iff_of_false
          · intro read
            cases read
          · intro ends
            exact Bool.false_ne_true ends.1.symm
      | false =>
          rw [if_neg Bool.false_ne_true, and_iff_right rfl]
          exact ⟨Except.ok.inj, congrArg Except.ok⟩

theorem readZoneinfo_slab_nodup {content : Option (List Char)} {order : List String}
    (once : order.Nodup) {snapshot : ZoneinfoSnapshot}
    (read : readZoneinfo content order = .ok snapshot) :
    (snapshot.slabReclaimable.map NumaSlabReclaimable.numa).Nodup := by
  cases content with
  | none => cases read
  | some text =>
      obtain ⟨s, -, -, -, rfl⟩ := readZoneinfo_eq_ok.mp read
      rw [ZoneinfoScan.snapshot, ((List.mergeSort_perm _ _).map _).nodup_iff]
      apply once.sublist (map_filterMap_sublist _ order)
      intro numa slab made
      obtain ⟨bytes, -, rfl⟩ := Option.map_eq_some_iff.mp made
      rfl

/-- The node and the zone that a line of `zoneinfo` begins. -/
def zoneHeader? (line : List Char) : Option (String × String) :=
  match nodeZoneRE.matchAtStart line with
  | some [numa, zone] => some (String.ofList numa, String.ofList zone)
  | _ => none

/-- The pages that a line counts as present. -/
def presentPages? (line : List Char) : Option Nat :=
  match Text.fields line with
  | key :: value :: _ =>
      if key = "present".toList then Text.parseUint? 64 value else none
  | _ => none

/-- A zone as it is listed: the line that begins it, and those up to the next such
line. -/
structure ListedZone where
  key : String × String
  body : List (List Char)

/-- The last count of its present pages. -/
def ListedZone.present (zone : ListedZone) : Nat :=
  (zone.body.filterMap presentPages?).getLast?.getD 0

/-- The zone has pages; their bytes are counted with 64 bits. -/
def ListedZone.populated (zone : ListedZone) : Bool :=
  zone.present * zonePageSize % 2 ^ 64 ≠ 0

/-- The lines before the first zone, and the zones. -/
def listedZones : List (List Char) → List (List Char) × List ListedZone
  | [] => ([], [])
  | line :: lines =>
      match zoneHeader? line with
      | some key => ([], ⟨key, (listedZones lines).1⟩ :: (listedZones lines).2)
      | none => (line :: (listedZones lines).1, (listedZones lines).2)

/-- The zones with pages of a file, as often as they are listed. -/
def populatedZones (text : List Char) : List (String × String) :=
  ((listedZones (Device.scanLines text)).2.filter ListedZone.populated).map
    ListedZone.key

theorem zoneBytesFromPages_pos (pages : Nat) :
    zoneBytesFromPages pages > 0 ↔ pages * zonePageSize % 2 ^ 64 ≠ 0 := by
  have size : (UInt64.ofNat zonePageSize).toNat = zonePageSize := rfl
  rw [gt_iff_lt, UInt64.lt_iff_toNat_lt, zoneBytesFromPages, UInt64.toNat_mul, size,
    UInt64.toNat_ofNat', Nat.mod_mul_mod, UInt64.toNat_zero, Nat.pos_iff_ne_zero]

namespace ZoneinfoScan

/-- The bytes of the present pages after some lines, from those before them. -/
def presentAfter (bytes : UInt64) (lines : List (List Char)) : UInt64 :=
  (lines.filterMap presentPages?).getLast?.elim bytes zoneBytesFromPages

theorem presentAfter_cons (bytes : UInt64) (line : List Char)
    (lines : List (List Char)) :
    presentAfter bytes (line :: lines) =
      presentAfter ((presentPages? line).elim bytes zoneBytesFromPages) lines := by
  unfold presentAfter
  rw [List.filterMap_cons]
  cases presentPages? line with
  | none => rfl
  | some pages =>
      rw [List.getLast?_cons]
      cases (lines.filterMap presentPages?).getLast? with
      | none => rfl
      | some last => rfl

theorem populated_iff {zone : ListedZone} :
    zone.populated = true ↔ presentAfter 0 zone.body > 0 := by
  have last : presentAfter 0 zone.body = zoneBytesFromPages zone.present := by
    unfold presentAfter ListedZone.present
    cases (zone.body.filterMap presentPages?).getLast? with
    | none => rfl
    | some pages => rfl
  rw [last, zoneBytesFromPages_pos, ListedZone.populated, decide_eq_true_iff]

/-- The zone that is being read is counted at the end, if it then has pages. -/
def pending (s : ZoneinfoScan) (lines : List (List Char)) : List (String × String) :=
  s.current.elim [] fun zone =>
    if presentAfter zone.presentBytes lines > 0 then [(zone.numa, zone.zone)] else []

theorem map_flush (s : ZoneinfoScan) :
    s.flush.map (fun z => (z.numa, z.zone)) =
      s.results.map (fun z => (z.numa, z.zone)) ++ s.pending [] := by
  unfold flush pending
  cases s.current with
  | none => exact (List.append_nil _).symm
  | some zone =>
      have same : presentAfter zone.presentBytes [] = zone.presentBytes := rfl
      rw [Option.elim_some, same]
      dsimp only
      by_cases pages : zone.presentBytes > 0
      · rw [if_pos pages, if_pos pages, List.map_append]
        rfl
      · rw [if_neg pages, if_neg pages, List.append_nil]

/-- What the lines inside a zone can change is its memory. -/
structure Keeps (s s' : ZoneinfoScan) (line : List Char) : Prop where
  results : s'.results = s.results
  current : s'.current.map (fun z => (z.numa, z.zone, z.presentBytes)) =
    s.current.map fun z =>
      (z.numa, z.zone, (presentPages? line).elim z.presentBytes zoneBytesFromPages)

theorem presentPages?_of_other {line : List Char}
    (other : ∀ value more, Text.fields line ≠ "present".toList :: value :: more) :
    presentPages? line = none := by
  unfold presentPages?
  split
  next key value more words =>
    rw [if_neg]
    intro same
    exact other value more (same ▸ words)
  next => rfl

/-- A line about something else leaves the zone with its present pages. -/
theorem Keeps.of_other {s s' : ZoneinfoScan} {line : List Char}
    (other : presentPages? line = none) (results : s'.results = s.results)
    (current : s'.current.map (fun z => (z.numa, z.zone, z.presentBytes)) =
      s.current.map fun z => (z.numa, z.zone, z.presentBytes)) :
    Keeps s s' line where
  results := results
  current := by
    rw [current, other]
    rfl

theorem keeps_of_statistic {s s' : ZoneinfoScan} {zone : NumaZoneMemory}
    (here : s.current = some zone) {line : List Char}
    (read : s.statistic zone (Text.fields line) = .ok s') : Keeps s s' line := by
  unfold statistic at read
  split at read
  next key value more words =>
    split at read
    next first =>
      have pages : presentPages? line = Text.parseUint? 64 value := by
        rw [presentPages?, words]
        exact if_pos first
      split at read
      next => cases read
      next parsed =>
        obtain rfl := Except.ok.inj read
        refine ⟨rfl, ?_⟩
        rw [here, pages, parsed]
        rfl
    next other =>
      have pages : presentPages? line = none := by
        rw [presentPages?, words]
        exact if_neg other
      -- The other statistics change the free pages, or the slabs of the node.
      have freed : ∀ free inNodeStats slabByNUMA, Keeps s
          ⟨s.results, some { zone with freeBytes := free }, inNodeStats, slabByNUMA⟩
          line := by
        intro free inNodeStats slabByNUMA
        refine .of_other pages rfl ?_
        rw [here]
        rfl
      have slabs : ∀ slabByNUMA, Keeps s { s with slabByNUMA := slabByNUMA } line :=
        fun slabByNUMA => .of_other pages rfl rfl
      split at read
      next =>
        split at read
        next => cases read
        next =>
          obtain rfl := Except.ok.inj read
          exact freed _ _ _
      next =>
        split at read
        next =>
          split at read
          next => cases read
          next =>
            obtain rfl := Except.ok.inj read
            exact freed _ _ _
        next =>
          split at read
          next =>
            split at read
            next => cases read
            next =>
              obtain rfl := Except.ok.inj read
              exact slabs _
          next =>
            obtain rfl := Except.ok.inj read
            exact slabs _
  next short =>
    obtain rfl := Except.ok.inj read
    exact .of_other (presentPages?_of_other fun value more => short _ value more) rfl rfl

theorem keeps_of_line {s s' : ZoneinfoScan} {line : List Char}
    (inside : zoneHeader? line = none) (read : s.line line = .ok s') :
    Keeps s s' line := by
  unfold ZoneinfoScan.line at read
  split at read
  next numa zone header =>
    rw [zoneHeader?, header] at inside
    cases inside
  next =>
    cases here : s.current with
    | none =>
        rw [here] at read
        obtain rfl := Except.ok.inj read
        exact ⟨rfl, by rw [here]; rfl⟩
    | some zone =>
        rw [here] at read
        dsimp only at read
        rw [Text.fields_trimSpace] at read
        split at read
        next empty =>
          obtain rfl := Except.ok.inj read
          refine .of_other (presentPages?_of_other ?_) rfl rfl
          intro value more words
          rw [← Text.fields_trimSpace, empty] at words
          cases words
        next =>
          split at read
          next heading =>
            obtain rfl := Except.ok.inj read
            refine .of_other (presentPages?_of_other ?_) rfl ?_
            · intro value more words
              have first := head?_of_heading (List.isPrefixOf_iff_prefix.mp heading)
              rw [words] at first
              exact absurd (Option.some.inj first) (by decide)
            · rw [here]
          next => exact keeps_of_statistic here read

theorem Keeps.pending {s s' : ZoneinfoScan} {line : List Char} (keeps : Keeps s s' line)
    (lines : List (List Char)) : s'.pending lines = s.pending (line :: lines) := by
  have current := keeps.current
  unfold ZoneinfoScan.pending
  cases before : s.current with
  | none =>
      rw [before, Option.map_none, Option.map_eq_none_iff] at current
      rw [current]
      rfl
  | some zone =>
      rw [before, Option.map_some] at current
      obtain ⟨zone', after, same⟩ := Option.map_eq_some_iff.mp current
      obtain ⟨numa, name, bytes⟩ := Prod.mk.inj same |>.imp_right Prod.mk.inj
      rw [after, Option.elim_some, Option.elim_some, presentAfter_cons, numa, name, bytes]

theorem line_of_zoneHeader {s s' : ZoneinfoScan} {line : List Char}
    {key : String × String} (header : zoneHeader? line = some key)
    (read : s.line line = .ok s') :
    s'.results = s.flush ∧ s'.current = some ⟨key.1, key.2, 0, 0⟩ := by
  unfold zoneHeader? at header
  unfold ZoneinfoScan.line at read
  split at header
  next numa zone found =>
    rw [found] at read
    obtain rfl := Option.some.inj header
    obtain rfl := Except.ok.inj read
    exact ⟨rfl, rfl⟩
  next => cases header

/-- The run collects the zones that are listed with pages, in order. -/
theorem map_flush_of_read {lines : List (List Char)} {s s' : ZoneinfoScan}
    (read : lines.foldlM ZoneinfoScan.line s = .ok s') :
    s'.flush.map (fun z => (z.numa, z.zone)) =
      s.results.map (fun z => (z.numa, z.zone)) ++ s.pending (listedZones lines).1 ++
        ((listedZones lines).2.filter ListedZone.populated).map ListedZone.key := by
  induction lines generalizing s with
  | nil =>
      obtain rfl := Except.ok.inj read
      rw [map_flush]
      exact (List.append_nil _).symm
  | cons line lines induction =>
      rw [List.foldlM_cons] at read
      obtain ⟨next, first, rest⟩ := bind_eq_ok.mp read
      rw [induction rest, listedZones]
      cases header : zoneHeader? line with
      | none =>
          have keeps := keeps_of_line header first
          rw [keeps.results, keeps.pending]
      | some key =>
          obtain ⟨results, current⟩ := line_of_zoneHeader header first
          have opened : next.pending (listedZones lines).1 ++
              ((listedZones lines).2.filter ListedZone.populated).map ListedZone.key =
            ((⟨key, (listedZones lines).1⟩ :: (listedZones lines).2).filter
              ListedZone.populated).map ListedZone.key := by
            rw [pending, current, Option.elim_some, List.filter_cons]
            by_cases pages : (⟨key, (listedZones lines).1⟩ : ListedZone).populated = true
            · rw [if_pos pages, if_pos (populated_iff.mp pages)]
              rfl
            · rw [if_neg pages, if_neg (populated_iff.not.mp pages)]
              rfl
          rw [results, map_flush, List.append_assoc, opened]

end ZoneinfoScan

theorem zones_of_readZoneinfo {text : List Char} {order : List String}
    {snapshot : ZoneinfoSnapshot}
    (read : readZoneinfo (some text) order = .ok snapshot) :
    (snapshot.zones.map fun z => (z.numa, z.zone)).Perm (populatedZones text) := by
  obtain ⟨s, scan, complete, -, rfl⟩ := readZoneinfo_eq_ok.mp read
  have lines : (scanned text).1 = Device.scanLines text := by
    unfold scanned at complete ⊢
    dsimp only at complete ⊢
    split at complete
    next short => rw [if_pos short]
    next => cases complete
  rw [lines] at scan
  refine ((List.mergeSort_perm _ _).map _).trans (List.Perm.of_eq ?_)
  rw [ZoneinfoScan.map_flush_of_read scan]
  rfl

/-! ### Series about the node -/

/-- The iterations over maps visit each key once. -/
structure MemoryOrders.Once (orders : MemoryOrders) : Prop where
  buddy : orders.buddy.Nodup
  summed : orders.pagetype.summed.Nodup
  slab : orders.slab.Nodup

namespace NodeMemory

/-- No node is listed twice. -/
structure Once (ns : NodeMemory) : Prop where
  buddy : (ns.buddyByNuma.map NumaBuddyFree.numa).Nodup
  unmovable : (ns.unmovableByNuma.map fun e => e.numa).Nodup
  slab : (ns.slabReclaimableByNuma.map NumaSlabReclaimable.numa).Nodup
  zones : ns.zoneinfoAvailable = false → ns.zoneByNuma = []

theorem collectNodeStats_once (files : MemoryFiles) {orders : MemoryOrders}
    (once : orders.Once) : (collectNodeStats files orders).Once where
  buddy := by
    show (((readBuddySnapshot files.buddyinfo orders.buddy).toOption.elim []
      BuddySnapshot.thpByNUMA).map _).Nodup
    cases read : readBuddySnapshot files.buddyinfo orders.buddy with
    | error error => exact List.nodup_nil
    | ok snapshot => exact readBuddySnapshot_nodup once.buddy read
  unmovable := by
    have listed : ∀ zones : Option (Table String (Table String Bool)),
        (((zones.bind fun zones => (readPagetypeBuddyStats files.pagetypeinfo zones
          orders.pagetype).toOption).elim [] Prod.snd).map fun e => e.numa).Nodup := by
      intro zones
      cases zones with
      | none => exact List.nodup_nil
      | some zones =>
          rw [Option.bind_some]
          cases read : readPagetypeBuddyStats files.pagetypeinfo zones
            orders.pagetype with
          | error error => exact List.nodup_nil
          | ok stats =>
              obtain ⟨byZone, all, -, sum⟩ := readPagetypeBuddyStats_eq_ok.mp read
              show (stats.2.map _).Nodup
              rw [← sum]
              exact pagetypeUnmovableSum_nodup (readPagetypeExcludedAllZones_named all)
                once.summed
    exact listed _
  slab := by
    show (((readZoneinfo files.zoneinfo orders.slab).toOption.elim []
      ZoneinfoSnapshot.slabReclaimable).map _).Nodup
    cases read : readZoneinfo files.zoneinfo orders.slab with
    | error error => exact List.nodup_nil
    | ok snapshot => exact readZoneinfo_slab_nodup once.slab read
  zones := by
    show (readZoneinfo files.zoneinfo orders.slab).toOption.isSome = false →
      (readZoneinfo files.zoneinfo orders.slab).toOption.elim []
        ZoneinfoSnapshot.zones = []
    cases (readZoneinfo files.zoneinfo orders.slab).toOption with
    | none => exact fun _ => rfl
    | some snapshot => exact nofun

variable {ns : NodeMemory} {nodeName : String}

theorem mem_unmovableMetrics {numa : String} {u : NumaPagetypeExcluded}
    {metric : Metric Desc} (member : metric ∈ unmovableMetrics nodeName numa u) :
    metric.labels = [nodeName, numa] ∧
      (metric.desc = .unmovableOrderGe9 ∨ metric.desc = .unmovableAllOrders) := by
  rcases List.mem_pair.mp member with rfl | rfl
  · exact ⟨rfl, .inl rfl⟩
  · exact ⟨rfl, .inr rfl⟩

/-- The metrics of a node have different names, none of them one of a zone. -/
theorem buddyMetrics_descs (ns : NodeMemory) (nodeName : String) (b : NumaBuddyFree) :
    ((ns.buddyMetrics nodeName b).map Metric.desc).Sublist
      [.buddyOrderGe9, .buddyAllOrders, .unmovableOrderGe9, .unmovableAllOrders,
        .movableOrderGe9, .movableAllOrders] := by
  unfold buddyMetrics
  dsimp only
  split
  next => exact .refl _
  next => exact List.sublist_append_left [Desc.buddyOrderGe9, .buddyAllOrders] _

theorem buddyMetrics_labels {b : NumaBuddyFree} {metric : Metric Desc}
    (member : metric ∈ ns.buddyMetrics nodeName b) :
    metric.labels = [nodeName, b.numa] := by
  unfold buddyMetrics at member
  dsimp only at member
  rcases List.mem_append.mp member with own | more
  · rcases List.mem_pair.mp own with rfl | rfl
    · rfl
    · rfl
  · split at more
    next =>
      rcases List.mem_append.mp more with unmovable | movable
      · exact (mem_unmovableMetrics unmovable).1
      · rcases List.mem_pair.mp movable with rfl | rfl
        · rfl
        · rfl
    next => cases more

/-- The first part of the collection: entries of different nodes. -/
theorem blocks_distinct {α : Type} {f : α → List (Metric Desc)} {sources : List α}
    (numa : α → String) (labels : ∀ source, ∀ metric ∈ f source,
      metric.labels = [nodeName, numa source])
    (descs : ∀ source, ((f source).map Metric.desc).Nodup)
    (once : (sources.map numa).Nodup) : DistinctSeries (sources.flatMap f) := by
  apply (distinctSeries_flatMap_of_key (fun labels => labels[1]?)
    (fun source => some (numa source))
    ?_ ?_).mpr
  · intro source _
    exact distinctSeries_of_desc (descs source)
  · intro source metric member
    rw [labels source metric member]
    rfl
  · have apart := once.map (Option.some_injective _)
    rwa [List.map_map] at apart

theorem blocks_distinctSeries (once : ns.Once) : DistinctSeries (ns.blocks nodeName) := by
  unfold blocks
  split
  next =>
    apply blocks_distinct NumaBuddyFree.numa
      (fun _ _ member => buddyMetrics_labels member) _ once.buddy
    intro b
    exact (by decide : List.Nodup _).sublist (ns.buddyMetrics_descs nodeName b)
  next =>
    split
    next =>
      apply blocks_distinct (fun e : NumaPagetypeExcluded => e.numa)
        (fun _ _ member => (mem_unmovableMetrics member).1) _ once.unmovable
      intro e
      exact (by decide : List.Nodup [Desc.unmovableOrderGe9, .unmovableAllOrders])
    next => exact List.nodup_nil

theorem mem_blocks_desc {metric : Metric Desc} (member : metric ∈ ns.blocks nodeName) :
    metric.desc ∈ [Desc.buddyOrderGe9, .buddyAllOrders, .unmovableOrderGe9,
      .unmovableAllOrders, .movableOrderGe9, .movableAllOrders] := by
  unfold blocks at member
  split at member
  next =>
    obtain ⟨b, -, inner⟩ := List.mem_flatMap.mp member
    exact (ns.buddyMetrics_descs nodeName b).mem (List.mem_map_of_mem inner)
  next =>
    split at member
    next =>
      obtain ⟨e, -, inner⟩ := List.mem_flatMap.mp member
      rcases (mem_unmovableMetrics inner).2 with same | same
      · rw [same]
        decide
      · rw [same]
        decide
    next => cases member

/-- The zones of a collection, by node and name. -/
def zoneKeys (ns : NodeMemory) : List (String × String) :=
  ns.zoneByNuma.map fun z => (z.numa, z.zone)

theorem mem_zoneMetrics {z : NumaZoneMemory} {metric : Metric Desc}
    (member : metric ∈ zoneMetrics nodeName z) :
    metric.labels = [nodeName, z.numa, z.zone] ∧
      (metric.desc = .zonePresentBytes ∨ metric.desc = .zoneFreeBytes) := by
  rcases List.mem_pair.mp member with rfl | rfl
  · exact ⟨rfl, .inl rfl⟩
  · exact ⟨rfl, .inr rfl⟩

theorem zones_distinct_iff (zones : List NumaZoneMemory) :
    DistinctSeries (zones.flatMap (zoneMetrics nodeName)) ↔
      (zones.map fun z => (z.numa, z.zone)).Nodup := by
  rw [distinctSeries_flatMap]
  constructor
  · intro ⟨_, apart⟩
    apply List.pairwise_map.mpr (apart.imp _)
    intro z other differ same
    obtain ⟨numa, zone⟩ := Prod.mk.inj same
    apply differ _ List.mem_cons_self _ List.mem_cons_self
    show (Desc.zonePresentBytes, [nodeName, z.numa, z.zone]) =
      (Desc.zonePresentBytes, [nodeName, other.numa, other.zone])
    rw [numa, zone]
  · intro distinct
    have descs : [Desc.zonePresentBytes, .zoneFreeBytes].Nodup := by decide
    refine ⟨fun z _ => distinctSeries_of_desc descs, ?_⟩
    apply (List.pairwise_map.mp distinct).imp
    intro z other apart metric member metric' member' same
    have equal : [nodeName, z.numa, z.zone] = [nodeName, other.numa, other.zone] := by
      rw [← (mem_zoneMetrics member).1, ← (mem_zoneMetrics member').1]
      exact congrArg Prod.snd same
    simp only [List.cons.injEq, and_true, true_and] at equal
    exact apart (Prod.ext equal.1 equal.2)

theorem slabMetrics_distinctSeries (once : ns.Once) :
    DistinctSeries (ns.slabMetrics nodeName) := by
  apply List.pairwise_map.mpr
  apply List.pairwise_map.mpr
  apply (List.pairwise_map.mp once.slab).imp
  intro s other apart same
  have labels : [nodeName, s.numa] = [nodeName, other.numa] := congrArg Prod.snd same
  simp only [List.cons.injEq, and_true, true_and] at labels
  exact apart labels

theorem collect_distinct_iff (once : ns.Once) :
    DistinctSeries (ns.collect nodeName) ↔ ns.zoneKeys.Nodup := by
  have zoneDesc : ∀ metric ∈ ns.zoneByNuma.flatMap (zoneMetrics nodeName),
      metric.desc = .zonePresentBytes ∨ metric.desc = .zoneFreeBytes := by
    intro metric member
    obtain ⟨z, -, inner⟩ := List.mem_flatMap.mp member
    exact (mem_zoneMetrics inner).2
  have slabDesc : ∀ metric ∈ ns.slabMetrics nodeName,
      metric.desc = .slabReclaimableBytes := by
    intro metric member
    obtain ⟨s, -, rfl⟩ := List.mem_map.mp member
    rfl
  unfold collect
  split
  next =>
    rw [distinctSeries_append_of_desc, and_iff_right (blocks_distinctSeries once),
      distinctSeries_append_of_desc, and_iff_left (slabMetrics_distinctSeries once)]
    · exact zones_distinct_iff _
    · intro metric inZone other inSlab
      rw [slabDesc other inSlab]
      rcases zoneDesc metric inZone with same | same
      · rw [same]
        exact nofun
      · rw [same]
        exact nofun
    · intro metric inBlock other inRest same
      have named := mem_blocks_desc inBlock
      rw [same] at named
      rcases List.mem_append.mp inRest with inZone | inSlab
      · rcases zoneDesc other inZone with desc | desc
        · rw [desc] at named
          revert named
          decide
        · rw [desc] at named
          revert named
          decide
      · rw [slabDesc other inSlab] at named
        revert named
        decide
  next unavailable =>
    rw [List.append_nil, zoneKeys, once.zones (Bool.eq_false_iff.mpr unavailable)]
    exact iff_of_true (blocks_distinctSeries once) List.nodup_nil

end NodeMemory

/-! ### Series about the machines -/

theorem select_names {pod : Pod} {info : PodInfo} (selected : select pod = some info) :
    info.namespace_ = pod.namespace_ ∧ info.podName = pod.name := by
  unfold select at selected
  dsimp only at selected
  split at selected
  next => cases selected
  next =>
    split at selected
    next => cases selected
    next =>
      split at selected
      next => cases selected
      next =>
        obtain rfl := Option.some.inj selected
        exact ⟨rfl, rfl⟩

theorem pollPod_names {cfg : Config} {root : List Char} {world : World} {info : PodInfo}
    {stats : VMIMemStats} (polled : pollPod cfg root world info = some stats) :
    stats.namespace_ = info.namespace_ ∧ stats.pod = info.podName := by
  unfold pollPod at polled
  simp only [Option.bind_eq_bind, Option.bind_eq_some_iff, Option.some.injEq] at polled
  obtain ⟨_, -, _, -, _, -, _, -, rfl⟩ := polled
  exact ⟨rfl, rfl⟩

/-- Pods are reported in the order of the store, each at most once. -/
theorem pollPods_names (cfg : Config) (root : List Char) (world : Nat → World)
    (pods : List Pod) :
    ((pollPods cfg root world pods).results.map fun s => (s.namespace_, s.pod)).Sublist
      (pods.map fun pod => (pod.namespace_, pod.name)) := by
  have numbered : pods.map (fun pod => (pod.namespace_, pod.name)) =
      pods.zipIdx.map fun entry => (entry.1.namespace_, entry.1.name) := by
    rw [← List.zipIdx_map_fst 0 pods, List.map_map, List.zipIdx_map_fst]
    rfl
  rw [numbered]
  unfold pollPods
  induction pods.zipIdx using List.reverseRecOn with
  | nil => exact .refl _
  | append_singleton entries entry induction =>
      rw [List.foldl_append, List.foldl_cons, List.foldl_nil, List.map_append,
        List.map_singleton]
      generalize entries.foldl (pollStep cfg root world) ⟨[], 0⟩ = polled at induction ⊢
      have skipped := induction.trans
        (List.sublist_append_left _ [(entry.1.namespace_, entry.1.name)])
      unfold pollStep
      split
      next => exact skipped
      next info selected =>
        split
        next => exact skipped
        next stats made =>
          obtain ⟨first, second⟩ := select_names selected
          obtain ⟨first', second'⟩ := pollPod_names made
          rw [List.map_append, List.map_singleton, first', second', first, second]
          exact induction.append (.refl _)

theorem vmis_distinctSeries {results : List VMIMemStats} (nodeName : String)
    (distinct : (results.map fun s => (s.namespace_, s.pod)).Nodup) :
    DistinctSeries (results.flatMap (vmiMetrics nodeName)) := by
  apply (distinctSeries_flatMap_of_key (fun labels => (labels[0]?, labels[3]?))
    (fun s => (some s.namespace_, some s.pod)) _ _).mpr
  · intro s _
    apply distinctSeries_of_desc
    have descs : (MemoryField.all.map Desc.vmi).Nodup := by decide
    exact descs
  · intro s metric member
    obtain ⟨field, -, rfl⟩ := List.mem_map.mp member
    rfl
  · apply List.pairwise_map.mpr
    apply (List.pairwise_map.mp distinct).imp
    intro s other apart same
    obtain ⟨first, second⟩ := Prod.mk.inj same
    exact apart (Prod.ext (Option.some.inj first) (Option.some.inj second))

/-! ### All series -/

theorem Node.metrics_distinct_iff {node : Node} {nodeName : String}
    (once : node.memory.Once) :
    DistinctSeries (node.metrics nodeName) ↔ node.memory.zoneKeys.Nodup := by
  have host : DistinctSeries (node.hostMetrics nodeName) := by
    apply distinctSeries_of_desc
    exact (by decide : List.Nodup _).sublist (node.hostMetrics_descs nodeName)
  rw [metrics, distinctSeries_append_of_desc, and_iff_right host,
    ← NodeMemory.collect_distinct_iff once]
  · exact distinctSeries_map_desc (fun _ _ => Desc.memory.inj) _
  · intro metric inHost other inMemory same
    obtain ⟨inner, -, rfl⟩ := List.mem_map.mp inMemory
    have listed := (node.hostMetrics_descs nodeName).mem (List.mem_map_of_mem inHost)
    rw [same] at listed
    simp at listed

theorem Collector.collect_distinct_iff {c : Collector} {nodeName : String}
    (distinct : (c.vmiResults.map fun s => (s.namespace_, s.pod)).Nodup)
    (once : c.node.memory.Once) :
    DistinctSeries (c.collect nodeName) ↔ c.node.memory.zoneKeys.Nodup := by
  have own : DistinctSeries [(⟨.scrapeErrors, .counter c.scrapeErrors, []⟩ : Metric Desc),
      ⟨.lastPoll, .gauge c.lastPollTS, []⟩] := by
    apply distinctSeries_of_desc
    exact (by decide : [Desc.scrapeErrors, .lastPoll].Nodup)
  have nodeDesc : ∀ metric ∈ c.node.metrics nodeName,
      metric.desc ∈ [Desc.khugepageCPU, .ksmdCPU, .ksmProfit, .thpSplitPMD,
        .thpCollapseAlloc] ∨
        ∃ desc, metric.desc = .memory desc := by
    intro metric member
    rcases List.mem_append.mp member with inHost | inMemory
    · exact .inl ((c.node.hostMetrics_descs nodeName).mem (List.mem_map_of_mem inHost))
    · obtain ⟨inner, -, rfl⟩ := List.mem_map.mp inMemory
      exact .inr ⟨inner.desc, rfl⟩
  have vmiDesc : ∀ metric ∈ c.vmiResults.flatMap (vmiMetrics nodeName),
      ∃ field, metric.desc = .vmi field := by
    intro metric member
    obtain ⟨s, -, inner⟩ := List.mem_flatMap.mp member
    obtain ⟨field, -, rfl⟩ := List.mem_map.mp inner
    exact ⟨field, rfl⟩
  unfold collect
  rw [distinctSeries_append_of_desc, distinctSeries_append_of_desc, and_iff_right own,
    and_iff_right (vmis_distinctSeries nodeName distinct), Node.metrics_distinct_iff once]
  · intro metric inOwn other inVmi same
    obtain ⟨field, vmi⟩ := vmiDesc other inVmi
    rw [vmi] at same
    rcases List.mem_pair.mp inOwn with rfl | rfl
    · cases same
    · cases same
  · intro metric front other inNode same
    have never : metric.desc ∈ [Desc.scrapeErrors, .lastPoll] ∨
        ∃ field, metric.desc = .vmi field := by
      rcases List.mem_append.mp front with inOwn | inVmi
      · exact .inl (List.mem_map_of_mem inOwn)
      · exact .inr (vmiDesc metric inVmi)
    rcases nodeDesc other inNode with host | ⟨desc, memory⟩
    · rw [← same] at host
      rcases never with inOwn | ⟨field, vmi⟩
      · rcases List.mem_pair.mp inOwn with own | own
        · rw [own] at host
          simp at host
        · rw [own] at host
          simp at host
      · rw [vmi] at host
        simp at host
    · rw [same, memory] at never
      simp at never

namespace Collector

theorem zoneKeys_nodup_iff (files : MemoryFiles) (orders : MemoryOrders) :
    (NodeMemory.collectNodeStats files orders).zoneKeys.Nodup ↔
      ∀ text, files.zoneinfo = some text →
        (readZoneinfo (some text) orders.slab).isOk → (populatedZones text).Nodup := by
  have zones : (NodeMemory.collectNodeStats files orders).zoneKeys =
      ((readZoneinfo files.zoneinfo orders.slab).toOption.elim []
        ZoneinfoSnapshot.zones).map fun z => (z.numa, z.zone) := rfl
  rw [zones]
  cases files.zoneinfo with
  | none => exact iff_of_true List.nodup_nil nofun
  | some text =>
      cases read : readZoneinfo (some text) orders.slab with
      | error error =>
          apply iff_of_true List.nodup_nil
          intro other same legible
          obtain rfl := Option.some.inj same
          rw [read] at legible
          cases legible
      | ok snapshot =>
          show (snapshot.zones.map _).Nodup ↔ _
          rw [(zones_of_readZoneinfo read).nodup_iff]
          constructor
          · intro distinct other same _
            exact Option.some.inj same ▸ distinct
          · intro distinct
            exact distinct text rfl (by rw [read]; rfl)

/-- Whatever is in the files, at the end of a run two metrics are one series exactly if
`zoneinfo` could be read and lists a zone with pages twice. -/
theorem run_distinct_iff {cfg : Config} {sysPath : List Char} {pid : Int}
    {files : FileTree} {proc : Proc} {nodeName : String} {history : List PollInput}
    {input : PollInput}
    (pods : (input.pods.map fun pod => (pod.namespace_, pod.name)).Nodup)
    (once : input.orders.Once) :
    DistinctSeries
        ((run cfg sysPath pid files proc (history ++ [input])).collect nodeName) ↔
      ∀ text, input.memory.zoneinfo = some text →
        (readZoneinfo (some text) input.orders.slab).isOk →
          (populatedZones text).Nodup := by
  rw [run_append_singleton, ← zoneKeys_nodup_iff]
  apply collect_distinct_iff
  · exact pods.sublist (pollPods_names cfg _ input.world input.pods)
  · exact NodeMemory.collectNodeStats_once input.memory once

end Collector

/-! A kernel that lists a zone twice. -/

def twiceText : String := "Node 0, zone DMA\n present 4\nNode 0, zone DMA\n present 4"

def twiceInput (text : String) : PollInput :=
  { sampleInput with memory.zoneinfo := some text.toList }

theorem run_distinct_iff_twice :
    DistinctSeries ((Collector.run (sampleMounts.config "node-1") "/sys".toList 7
        sampleFiles sampleInput.proc [twiceInput twiceText,
          twiceInput (twiceText ++ "\nNode 1, zone DMA\n present x")]).collect
            "node-1") ∧
      ¬ DistinctSeries ((Collector.run (sampleMounts.config "node-1") "/sys".toList 7
        sampleFiles sampleInput.proc [sampleInput, twiceInput twiceText]).collect
          "node-1") := by
  have pods : (sampleInput.pods.map fun pod => (pod.namespace_, pod.name)).Nodup :=
    List.nodup_singleton _
  have once : sampleInput.orders.Once := ⟨List.nodup_nil, List.nodup_nil, List.nodup_nil⟩
  constructor
  · apply (@Collector.run_distinct_iff _ _ _ _ _ _ [twiceInput twiceText] (twiceInput _)
      pods once).mpr
    intro text same legible
    obtain rfl := Option.some.inj same
    revert legible
    decide +kernel
  · intro distinct
    have zones := (@Collector.run_distinct_iff _ _ _ _ _ _ [sampleInput]
      (twiceInput twiceText) pods once).mp distinct _ rfl (by decide +kernel)
    revert zones
    decide +kernel

end KubevirtMetrics.Cgroup
