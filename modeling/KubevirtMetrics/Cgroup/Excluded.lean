import KubevirtMetrics.Cgroup.Pagetypeinfo

namespace KubevirtMetrics.Cgroup

open Data

/-! The part of `pagetypeinfo.go` that chooses and sums the entries of the nodes. -/

namespace NumaPagetypeExcluded

def excludedOrderGe9Bytes (e : NumaPagetypeExcluded) : UInt64 :=
  e.unmovableOrderGe9Bytes + e.isolateOrderGe9Bytes

def excludedAllOrdersBytes (e : NumaPagetypeExcluded) : UInt64 :=
  e.unmovableAllOrdersBytes + e.isolateAllOrdersBytes

end NumaPagetypeExcluded

def addPagetypeExcluded (dst src : NumaPagetypeExcluded) :
    NumaPagetypeExcluded where
  numa := dst.numa
  unmovableOrderGe9Bytes := dst.unmovableOrderGe9Bytes + src.unmovableOrderGe9Bytes
  unmovableAllOrdersBytes :=
    dst.unmovableAllOrdersBytes + src.unmovableAllOrdersBytes
  isolateOrderGe9Bytes := dst.isolateOrderGe9Bytes + src.isolateOrderGe9Bytes
  isolateAllOrdersBytes := dst.isolateAllOrdersBytes + src.isolateAllOrdersBytes

/-- `sort.Slice` by the node. -/
def sortByNUMA (results : List NumaPagetypeExcluded) : List NumaPagetypeExcluded :=
  results.mergeSort fun a b => !(b.numa < a.numa)

def excludedByNUMAMap (excluded : List NumaPagetypeExcluded) :
    Table String NumaPagetypeExcluded :=
  Table.insertAll ∅ (excluded.map fun e => (e.numa, e))

/-- `order` is the order in which the entries of the zone are iterated. -/
def pagetypeExcludedForZone (byZone : PagetypeExcludedByZone) (zone : String)
    (order : List String) : Except PagetypeError (List NumaPagetypeExcluded) :=
  let zoneNUMA := byZone.getD zone ∅
  if zoneNUMA = ∅ then .error (.zone zone)
  else .ok (sortByNUMA (order.filterMap zoneNUMA.lookup))

/-- The orders in which the maps are iterated. -/
structure PagetypeOrders where
  zones : List String
  nodes : List String
  entries : String → List String
  normal : List String
  movable : List String
  summed : List String

/-- The body of the first loop over the nodes. -/
def addZoneEntries (byZone : PagetypeExcludedByZone)
    (zonesByNUMA : Table String (Table String Bool)) (orders : PagetypeOrders)
    (zoneEntries : PagetypeExcludedByZone) (numa : String) :
    Except PagetypeError PagetypeExcludedByZone :=
  let zone := thpBuddyZone (zonesByNUMA.getD numa ∅)
  if zone ∈ zoneEntries then .ok zoneEntries
  else do
    let entries ← pagetypeExcludedForZone byZone zone (orders.entries zone)
    return zoneEntries.insert zone (excludedByNUMAMap entries)

def pagetypeExcludedTHPZone (byZone : PagetypeExcludedByZone)
    (zonesByNUMA : Table String (Table String Bool)) (orders : PagetypeOrders) :
    Except PagetypeError (List NumaPagetypeExcluded) := do
  let zoneEntries ← orders.zones.foldlM
    (addZoneEntries byZone zonesByNUMA orders) ∅
  let results := orders.nodes.map fun numa =>
    let zone := thpBuddyZone (zonesByNUMA.getD numa ∅)
    (zoneEntries.nestedLookup zone numa).getD (.zero numa)
  return sortByNUMA results

/-- The body of the loop over the entries of the Movable zone. -/
def addMovable (movable : Table String NumaPagetypeExcluded)
    (byNUMA : Table String NumaPagetypeExcluded) (numa : String) :
    Table String NumaPagetypeExcluded :=
  match movable.lookup numa with
  | none => byNUMA
  | some entry =>
      match byNUMA.lookup numa with
      | some existing => byNUMA.insert numa (addPagetypeExcluded existing entry)
      | none => byNUMA.insert numa entry

def pagetypeUnmovableSum (byZone : PagetypeExcludedByZone)
    (orders : PagetypeOrders) : List NumaPagetypeExcluded :=
  let normal := byZone.getD buddyZoneNormal ∅
  let movable := byZone.getD buddyZoneMovable ∅
  if normal = ∅ ∧ movable = ∅ then []
  else
    let byNUMA : Table String NumaPagetypeExcluded :=
      Table.insertAll ∅ (orders.normal.filterMap fun numa =>
        (normal.lookup numa).map fun entry => (numa, entry))
    let byNUMA := orders.movable.foldl (addMovable movable) byNUMA
    sortByNUMA (orders.summed.filterMap byNUMA.lookup)

def readPagetypeBuddyStats (content : Option (List Char))
    (zonesByNUMA : Table String (Table String Bool)) (orders : PagetypeOrders) :
    Except PagetypeError
      (List NumaPagetypeExcluded × List NumaPagetypeExcluded) := do
  let byZone ← readPagetypeExcludedAllZones content
  let excludedTHP ← pagetypeExcludedTHPZone byZone zonesByNUMA orders
  return (excludedTHP, pagetypeUnmovableSum byZone orders)

def subtractExcludedBytes (buddy excluded : UInt64) : UInt64 :=
  if buddy ≤ excluded then 0 else buddy - excluded

theorem readPagetypeBuddyStats_eq_ok {content : Option (List Char)}
    {zonesByNUMA : Table String (Table String Bool)} {orders : PagetypeOrders}
    {stats : List NumaPagetypeExcluded × List NumaPagetypeExcluded} :
    readPagetypeBuddyStats content zonesByNUMA orders = .ok stats ↔
      ∃ byZone, readPagetypeExcludedAllZones content = .ok byZone ∧
        pagetypeExcludedTHPZone byZone zonesByNUMA orders = .ok stats.1 ∧
        pagetypeUnmovableSum byZone orders = stats.2 := by
  unfold readPagetypeBuddyStats
  cases readPagetypeExcludedAllZones content with
  | error problem => simp [bind, Except.bind]
  | ok byZone =>
      cases thp : pagetypeExcludedTHPZone byZone zonesByNUMA orders with
      | error problem => simp [bind, Except.bind, thp]
      | ok excluded => simp [bind, Except.bind, pure, Except.pure, thp, Prod.ext_iff]

theorem toNat_subtractExcludedBytes (buddy excluded : UInt64) :
    (subtractExcludedBytes buddy excluded).toNat =
      buddy.toNat - excluded.toNat := by
  unfold subtractExcludedBytes
  split
  next le =>
    rw [UInt64.le_iff_toNat_le] at le
    rw [UInt64.toNat_zero]
    omega
  next more =>
    rw [UInt64.le_iff_toNat_le, not_le] at more
    rw [UInt64.toNat_sub_of_le _ _ (UInt64.le_iff_toNat_le.mpr more.le)]

/-! ### The entry of a node -/

/-- The entries are under the names of their nodes. -/
def Named (table : Table String NumaPagetypeExcluded) : Prop :=
  ∀ numa entry, table.lookup numa = some entry → entry.numa = numa

theorem excludedByNUMAMap_sortByNUMA {table : Table String NumaPagetypeExcluded}
    (named : Named table) {order : List String}
    (enumerates : Table.Enumerates order table) :
    excludedByNUMAMap (sortByNUMA (order.filterMap table.lookup)) = table := by
  have perm := List.mergeSort_perm (order.filterMap table.lookup)
    fun a b => !(b.numa < a.numa)
  have mem_iff : ∀ entry, entry ∈ sortByNUMA (order.filterMap table.lookup) ↔
      table.lookup entry.numa = some entry := by
    intro entry
    rw [sortByNUMA, perm.mem_iff, List.mem_filterMap]
    constructor
    · rintro ⟨numa, -, found⟩
      rw [named numa entry found]
      exact found
    · intro found
      refine ⟨entry.numa, (enumerates.mem_iff _).mpr ?_, found⟩
      exact Finmap.mem_of_lookup_eq_some found
  apply Table.insertAll_eq
  · rw [List.map_map]
    change ((sortByNUMA (order.filterMap table.lookup)).map fun e => e.numa).Nodup
    rw [sortByNUMA, (perm.map _).nodup_iff]
    exact enumerates.nodup.sublist (map_filterMap_sublist named order)
  · intro numa entry
    rw [List.mem_map]
    constructor
    · rintro ⟨other, member, same⟩
      obtain ⟨rfl, rfl⟩ := Prod.mk.inj same
      exact (mem_iff other).mp member
    · intro found
      have own := named numa entry found
      refine ⟨entry, (mem_iff entry).mpr (own ▸ found), ?_⟩
      rw [own]

/-- The iterations over the tables of a run visit each key once. -/
structure PagetypeOrders.Visit (orders : PagetypeOrders)
    (byZone : PagetypeExcludedByZone)
    (zonesByNUMA : Table String (Table String Bool)) : Prop where
  zones : Table.Enumerates orders.zones zonesByNUMA
  nodes : Table.Enumerates orders.nodes zonesByNUMA
  entries : ∀ zone, Table.Enumerates (orders.entries zone) (byZone.getD zone ∅)
  normal : Table.Enumerates orders.normal (byZone.getD buddyZoneNormal ∅)
  movable : Table.Enumerates orders.movable (byZone.getD buddyZoneMovable ∅)
  summedOnce : orders.summed.Nodup
  summed : ∀ numa, numa ∈ orders.summed ↔
    numa ∈ byZone.getD buddyZoneNormal ∅ ∨ numa ∈ byZone.getD buddyZoneMovable ∅

/-- The tables of some zones are copied. -/
def Copied (byZone zoneEntries : PagetypeExcludedByZone) : Prop :=
  ∀ zone table, zoneEntries.lookup zone = some table → table = byZone.getD zone ∅

theorem nestedLookup_of_copied {byZone zoneEntries : PagetypeExcludedByZone}
    (copied : Copied byZone zoneEntries) {zone : String}
    (present : zone ∈ zoneEntries) (numa : String) :
    zoneEntries.nestedLookup zone numa = byZone.nestedLookup zone numa := by
  obtain ⟨table, found⟩ := Finmap.mem_iff.mp present
  rw [Table.nestedLookup, found, Option.bind_some, copied zone table found,
    Table.lookup_getD_empty]

/-- The entry of a node in the zone that huge pages come from. -/
def thpExcluded (byZone : PagetypeExcludedByZone)
    (zonesByNUMA : Table String (Table String Bool)) (numa : String) :
    NumaPagetypeExcluded :=
  (byZone.nestedLookup (thpBuddyZone (zonesByNUMA.getD numa ∅)) numa).getD
    (.zero numa)

theorem thpExcluded_numa {byZone : PagetypeExcludedByZone}
    (named : ∀ zone, Named (byZone.getD zone ∅))
    {zonesByNUMA : Table String (Table String Bool)} (numa : String) :
    (thpExcluded byZone zonesByNUMA numa).numa = numa := by
  unfold thpExcluded
  cases found : byZone.nestedLookup (thpBuddyZone (zonesByNUMA.getD numa ∅))
      numa with
  | none => rfl
  | some entry =>
      rw [← Table.lookup_getD_empty] at found
      exact named _ numa entry found

section Nodes

variable {byZone : PagetypeExcludedByZone}
    {zonesByNUMA : Table String (Table String Bool)} {orders : PagetypeOrders}
    (named : ∀ zone, Named (byZone.getD zone ∅))
    (visit : orders.Visit byZone zonesByNUMA)

include named visit

theorem addZoneEntries_eq (zoneEntries : PagetypeExcludedByZone) (numa : String) :
    addZoneEntries byZone zonesByNUMA orders zoneEntries numa =
      let zone := thpBuddyZone (zonesByNUMA.getD numa ∅)
      if zone ∈ zoneEntries then .ok zoneEntries
      else if byZone.getD zone ∅ = ∅ then .error (.zone zone)
      else .ok (zoneEntries.insert zone (byZone.getD zone ∅)) := by
  simp only [addZoneEntries, pagetypeExcludedForZone]
  generalize thpBuddyZone (zonesByNUMA.getD numa ∅) = zone
  split
  next => rfl
  next =>
    split
    next => rfl
    next =>
      have same := excludedByNUMAMap_sortByNUMA (named zone) (visit.entries zone)
      exact congrArg (fun table => Except.ok (zoneEntries.insert zone table)) same

theorem addZoneEntries_ok {zoneEntries result : PagetypeExcludedByZone}
    {numa : String} (copied : Copied byZone zoneEntries)
    (done : addZoneEntries byZone zonesByNUMA orders zoneEntries numa =
      .ok result) :
    Copied byZone result ∧ (∀ zone ∈ zoneEntries, zone ∈ result) ∧
      thpBuddyZone (zonesByNUMA.getD numa ∅) ∈ result := by
  rw [addZoneEntries_eq named visit] at done
  dsimp only at done
  split at done
  next present =>
    obtain rfl := Except.ok.inj done
    exact ⟨copied, fun _ member => member, present⟩
  next absent =>
    split at done
    next => cases done
    next =>
      obtain rfl := Except.ok.inj done
      refine ⟨?_, fun zone member => Finmap.mem_insert.mpr (.inr member),
        Finmap.mem_insert.mpr (.inl rfl)⟩
      intro zone table found
      rw [Table.lookup_insert_eq_ite] at found
      split at found
      next here =>
        rw [here]
        exact (Option.some.inj found).symm
      next => exact copied zone table found

theorem foldlM_addZoneEntries_ok {numas : List String}
    {zoneEntries result : PagetypeExcludedByZone}
    (copied : Copied byZone zoneEntries)
    (done : numas.foldlM (addZoneEntries byZone zonesByNUMA orders) zoneEntries =
      .ok result) :
    Copied byZone result ∧ (∀ zone ∈ zoneEntries, zone ∈ result) ∧
      ∀ numa ∈ numas, thpBuddyZone (zonesByNUMA.getD numa ∅) ∈ result := by
  induction numas generalizing zoneEntries with
  | nil =>
      obtain rfl : zoneEntries = result := Except.ok.inj done
      exact ⟨copied, fun _ member => member, by simp⟩
  | cons numa numas induction =>
      rw [List.foldlM_cons] at done
      cases step : addZoneEntries byZone zonesByNUMA orders zoneEntries numa with
      | error problem =>
          rw [step] at done
          cases done
      | ok next =>
          rw [step] at done
          obtain ⟨copied', kept, here⟩ := addZoneEntries_ok named visit copied step
          obtain ⟨copied'', kept', rest⟩ := induction copied' done
          refine ⟨copied'', fun zone member => kept' zone (kept zone member), ?_⟩
          intro other member
          rcases List.mem_cons.mp member with rfl | later
          · exact kept' _ here
          · exact rest other later

theorem exists_foldlM_addZoneEntries {numas : List String}
    (filled : ∀ numa ∈ numas,
      byZone.getD (thpBuddyZone (zonesByNUMA.getD numa ∅)) ∅ ≠ ∅)
    (zoneEntries : PagetypeExcludedByZone) :
    ∃ result, numas.foldlM (addZoneEntries byZone zonesByNUMA orders) zoneEntries =
      .ok result := by
  induction numas generalizing zoneEntries with
  | nil => exact ⟨zoneEntries, rfl⟩
  | cons numa numas induction =>
      have step : ∃ next, addZoneEntries byZone zonesByNUMA orders zoneEntries
          numa = .ok next := by
        rw [addZoneEntries_eq named visit]
        dsimp only
        split
        next => exact ⟨_, rfl⟩
        next => exact ⟨_, if_neg (filled numa List.mem_cons_self)⟩
      obtain ⟨next, step⟩ := step
      rw [foldlM_cons_ok step]
      exact induction
        (fun other member => filled other (List.mem_cons_of_mem numa member)) next

/-- Each node gets the entry that its zone for huge pages has for it. -/
theorem pagetypeExcludedTHPZone_ok {excluded : List NumaPagetypeExcluded}
    (done : pagetypeExcludedTHPZone byZone zonesByNUMA orders = .ok excluded)
    {numa : String} (member : numa ∈ zonesByNUMA) :
    (excludedByNUMAMap excluded).lookup numa =
      some (thpExcluded byZone zonesByNUMA numa) := by
  unfold pagetypeExcludedTHPZone at done
  cases loop : orders.zones.foldlM (addZoneEntries byZone zonesByNUMA orders) ∅ with
  | error problem =>
      rw [loop] at done
      cases done
  | ok zoneEntries =>
      rw [loop] at done
      obtain ⟨copied, -, present⟩ := foldlM_addZoneEntries_ok named visit
        (fun zone table found => by simp at found) loop
      have results : (orders.nodes.map fun numa => (zoneEntries.nestedLookup
          (thpBuddyZone (zonesByNUMA.getD numa ∅)) numa).getD (.zero numa)) =
          orders.nodes.map (thpExcluded byZone zonesByNUMA) := by
        apply List.map_congr_left
        intro node listed
        -- the first loop has met the zone of every node of the second one
        have met := (visit.zones.mem_iff node).mpr
          ((visit.nodes.mem_iff node).mp listed)
        rw [nestedLookup_of_copied copied (present node met) node, thpExcluded]
      obtain rfl := Except.ok.inj done
      dsimp only
      rw [results]
      have perm := List.mergeSort_perm (orders.nodes.map
        (thpExcluded byZone zonesByNUMA)) fun a b => !(b.numa < a.numa)
      have names : (orders.nodes.map (thpExcluded byZone zonesByNUMA)).map
          NumaPagetypeExcluded.numa = orders.nodes := by
        rw [List.map_map]
        exact (List.map_congr_left fun node _ =>
          thpExcluded_numa named node).trans (List.map_id _)
      apply Table.lookup_insertAll_of_nodup
      · rw [List.map_map]
        change ((sortByNUMA _).map NumaPagetypeExcluded.numa).Nodup
        rw [sortByNUMA, (perm.map _).nodup_iff, names]
        exact visit.nodes.nodup
      · refine List.mem_map.mpr ⟨thpExcluded byZone zonesByNUMA numa, ?_, ?_⟩
        · rw [sortByNUMA, perm.mem_iff]
          exact List.mem_map_of_mem ((visit.nodes.mem_iff numa).mpr member)
        · rw [thpExcluded_numa named]

theorem exists_pagetypeExcludedTHPZone
    (filled : ∀ numa ∈ zonesByNUMA,
      byZone.getD (thpBuddyZone (zonesByNUMA.getD numa ∅)) ∅ ≠ ∅) :
    ∃ excluded, pagetypeExcludedTHPZone byZone zonesByNUMA orders =
      .ok excluded := by
  obtain ⟨result, done⟩ := exists_foldlM_addZoneEntries named visit
    (fun numa member => filled numa ((visit.zones.mem_iff numa).mp member)) ∅
  unfold pagetypeExcludedTHPZone
  rw [done]
  exact ⟨_, rfl⟩

end Nodes

end KubevirtMetrics.Cgroup
