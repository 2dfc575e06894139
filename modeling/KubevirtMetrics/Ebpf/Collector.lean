import KubevirtMetrics.Bpf.Tracer
import KubevirtMetrics.Device.ClaimNames
import KubevirtMetrics.Ebpf.Histogram

namespace KubevirtMetrics.Ebpf

open Data Prometheus Device Cluster
open Bpf (Hist HistKey)

/-! `collector.go`: what one collection reads from the histogram maps. -/

inductive Desc
  | podBlock
  | systemBlock
  | nfs
  | nfsVfs
  | subsystem
  deriving DecidableEq

def opLabels : List String := ["read", "write", "discard", "flush"]

def nfsVfsOpLabels : List String := ["read", "write", "open", "getattr"]

/-- The entries that an iteration over one histogram map returns, in its order.
An iteration may return a key more than once. -/
abbrev Visited := List (HistKey × Hist)

/-- `Programs`; a map is absent where its program is not loaded. -/
structure Programs where
  blockHists : Option Visited
  nfsHists : Option Visited
  nfsKprobeHists : Option Visited
  blockActive : Bool
  nfsActive : Bool
  nfsKprobeActive : Bool

structure Collector where
  nodeName : String
  buckets : List ℚ
  namespaces : List String

structure HistMap where
  desc : Desc
  /-- Where entries of unresolved devices go; they are dropped if absent. -/
  systemDesc : Option Desc
  maxOp : UInt8
  opLabels : List String

def HistMap.opLabel (kind : HistMap) (op : UInt8) : String :=
  kind.opLabels.getD op.toNat ""

def blockMap : HistMap := ⟨.podBlock, some .systemBlock, 3, opLabels⟩

def nfsMap : HistMap := ⟨.nfs, none, 1, opLabels⟩

def nfsKprobeMap : HistMap := ⟨.nfsVfs, none, 3, nfsVfsOpLabels⟩

namespace Collector

def namespaceAllowed (c : Collector) (ns : String) : Bool :=
  c.namespaces.isEmpty || c.namespaces.contains ns

def collectEntry (c : Collector) (resolver : Resolver) (kind : HistMap)
    (entry : HistKey × Hist) : Option (Metric Desc) :=
  let key := entry.1
  if key.op > kind.maxOp then none
  else
    let histogram := slotsToConstHistogram entry.2.slots c.buckets
    if histogram.count = 0 then none
    else
      match resolver.lookup key.dev with
      | some info =>
          if c.namespaceAllowed info.namespace_ then
            some ⟨kind.desc, .histogram histogram,
              [c.nodeName, info.namespace_, info.pvcName, info.podName,
                kind.opLabel key.op]⟩
          else none
      | none =>
          kind.systemDesc.map fun desc =>
            ⟨desc, .histogram histogram,
              [c.nodeName, devToString key.dev, kind.opLabel key.op]⟩

def collectMap (c : Collector) (resolver : Resolver) (kind : HistMap)
    (visited : Visited) : List (Metric Desc) :=
  visited.filterMap (c.collectEntry resolver kind)

def collectBlock (c : Collector) (resolver : Resolver) (visited : Visited) :
    List (Metric Desc) :=
  c.collectMap resolver blockMap visited

def collectNFS (c : Collector) (resolver : Resolver) (visited : Visited) :
    List (Metric Desc) :=
  c.collectMap resolver nfsMap visited

def collectNFSKprobe (c : Collector) (resolver : Resolver)
    (visited : Visited) : List (Metric Desc) :=
  c.collectMap resolver nfsKprobeMap visited

def collectSubsystemGauge (programs : Programs) : List (Metric Desc) :=
  let gauge (active : Bool) (name : String) : Metric Desc :=
    ⟨.subsystem, .gauge (if active then 1 else 0), [name]⟩
  [gauge programs.blockActive "block", gauge programs.nfsActive "nfs",
    gauge programs.nfsKprobeActive "nfs_kprobe"]

def collect (c : Collector) (resolver : Resolver) (programs : Programs) :
    List (Metric Desc) :=
  collectSubsystemGauge programs ++
    (programs.blockHists.elim [] (c.collectBlock resolver) ++
      (programs.nfsHists.elim [] (c.collectNFS resolver) ++
        programs.nfsKprobeHists.elim [] (c.collectNFSKprobe resolver)))

end Collector

/-! ### Series of one collection -/

/-- A loop that labels different operations and descriptors differently. -/
structure HistMap.Faithful (kind : HistMap) : Prop where
  labels : ∀ op other : UInt8, op ≤ kind.maxOp → other ≤ kind.maxOp →
    kind.opLabel op = kind.opLabel other → op = other
  descs : kind.systemDesc ≠ some kind.desc

theorem opLabel_inj (labels : List String) (maxOp : Nat)
    (nodup : labels.Nodup) (inside : maxOp < labels.length) (op other : UInt8)
    (le : op.toNat ≤ maxOp) (le' : other.toNat ≤ maxOp)
    (same : labels.getD op.toNat "" = labels.getD other.toNat "") :
    op = other := by
  rw [List.getD_eq_getElem _ _ (by omega), List.getD_eq_getElem _ _ (by omega),
    nodup.getElem_inj_iff] at same
  exact UInt8.toNat_inj.mp same

theorem blockMap_faithful : blockMap.Faithful where
  labels op other le le' :=
    opLabel_inj opLabels 3 (by decide) (by decide) op other
      (UInt8.le_iff_toNat_le.mp le) (UInt8.le_iff_toNat_le.mp le')
  descs := by decide

theorem nfsMap_faithful : nfsMap.Faithful where
  labels op other le le' :=
    opLabel_inj opLabels 1 (by decide) (by decide) op other
      (UInt8.le_iff_toNat_le.mp le) (UInt8.le_iff_toNat_le.mp le')
  descs := by decide

theorem nfsKprobeMap_faithful : nfsKprobeMap.Faithful where
  labels op other le le' :=
    opLabel_inj nfsVfsOpLabels 3 (by decide) (by decide) op other
      (UInt8.le_iff_toNat_le.mp le) (UInt8.le_iff_toNat_le.mp le')
  descs := by decide

namespace Collector

variable (c : Collector) (resolver : Resolver)

/-- A device that a loop has a series for: one of an allowed namespace or, where
there is a series for unresolved devices, one of none. -/
def Reports (kind : HistMap) (dev : UInt32) : Bool :=
  match resolver.lookup dev with
  | some info => c.namespaceAllowed info.namespace_
  | none => kind.systemDesc.isSome

/-- An entry that a collection exports: its operation is known, it holds a
sample, and there is a series for its device. -/
def Exports (kind : HistMap) (entry : HistKey × Hist) : Prop :=
  entry.1.op ≤ kind.maxOp ∧
    (slotsToConstHistogram entry.2.slots c.buckets).count ≠ 0 ∧
      c.Reports resolver kind entry.1.dev = true

instance (kind : HistMap) (entry : HistKey × Hist) :
    Decidable (c.Exports resolver kind entry) :=
  inferInstanceAs (Decidable (_ ∧ _ ∧ _))

def seriesOf (kind : HistMap) (key : HistKey) : Desc × List String :=
  match resolver.lookup key.dev with
  | some info =>
      (kind.desc, [c.nodeName, info.namespace_, info.pvcName, info.podName,
        kind.opLabel key.op])
  | none =>
      (kind.systemDesc.getD kind.desc,
        [c.nodeName, devToString key.dev, kind.opLabel key.op])

theorem collectEntry_eq (kind : HistMap) (entry : HistKey × Hist) :
    c.collectEntry resolver kind entry =
      if c.Exports resolver kind entry then
        some ⟨(c.seriesOf resolver kind entry.1).1,
          .histogram (slotsToConstHistogram entry.2.slots c.buckets),
          (c.seriesOf resolver kind entry.1).2⟩
      else none := by
  by_cases exported : c.Exports resolver kind entry
  · rw [if_pos exported]
    obtain ⟨known, nonempty, reports⟩ := exported
    simp only [collectEntry, if_neg (UInt8.not_lt.mpr known), if_neg nonempty]
    cases found : resolver.lookup entry.1.dev with
    | some info =>
        simp only [Reports, found] at reports
        simp [seriesOf, found, reports]
    | none =>
        simp only [Reports, found] at reports
        obtain ⟨desc, system⟩ := Option.isSome_iff_exists.mp reports
        simp [seriesOf, found, system]
  · rw [if_neg exported]
    simp only [collectEntry]
    split
    next => rfl
    next known =>
      split
      next => rfl
      next nonempty =>
        have refused : ¬ c.Reports resolver kind entry.1.dev = true :=
          fun reports =>
            exported ⟨UInt8.not_lt.mp known, nonempty, reports⟩
        split
        next info found =>
          simp only [Reports, found] at refused
          rw [if_neg refused]
        next found =>
          simp only [Reports, found, Bool.not_eq_true,
            Option.isSome_eq_false_iff, Option.isNone_iff_eq_none] at refused
          rw [refused]
          rfl

theorem series_of_collectEntry {kind : HistMap} {entry : HistKey × Hist}
    {metric : Metric Desc}
    (collected : c.collectEntry resolver kind entry = some metric) :
    c.Exports resolver kind entry ∧
      metric.series = c.seriesOf resolver kind entry.1 := by
  rw [collectEntry_eq] at collected
  split at collected
  next exported =>
    obtain rfl := Option.some.inj collected
    exact ⟨exported, rfl⟩
  next => simp at collected

/-- Two device numbers whose entries carry the same labels: one number, or two
that resolve to volumes of one pod with one claim name. -/
def SameVolume (dev other : UInt32) : Prop :=
  dev = other ∨ ∃ info info', resolver.lookup dev = some info ∧
    resolver.lookup other = some info' ∧
      info.namespace_ = info'.namespace_ ∧ info.pvcName = info'.pvcName ∧
        info.podName = info'.podName

theorem sameVolume_of_some {resolver : Resolver} {dev other : UInt32}
    {info info' : DeviceInfo} (found : resolver.lookup dev = some info)
    (found' : resolver.lookup other = some info') :
    SameVolume resolver dev other ↔
      info.namespace_ = info'.namespace_ ∧ info.pvcName = info'.pvcName ∧
        info.podName = info'.podName := by
  constructor
  · rintro (rfl | ⟨_, _, here, here', labels⟩)
    · rw [found] at found'
      obtain rfl := Option.some.inj found'
      exact ⟨rfl, rfl, rfl⟩
    · rw [found] at here
      rw [found'] at here'
      obtain rfl := Option.some.inj here
      obtain rfl := Option.some.inj here'
      exact labels
  · intro labels
    exact .inr ⟨info, info', found, found', labels⟩

theorem sameVolume_of_none {resolver : Resolver} {dev other : UInt32}
    (missing : resolver.lookup dev = none) :
    SameVolume resolver dev other ↔ dev = other := by
  constructor
  · rintro (same | ⟨_, _, found, -⟩)
    · exact same
    · simp [missing] at found
  · exact .inl

theorem SameVolume.symm {resolver : Resolver} {dev other : UInt32}
    (same : SameVolume resolver dev other) : SameVolume resolver other dev := by
  rcases same with rfl | ⟨info, info', found, found', ns, claim, pod⟩
  · exact .inl rfl
  · exact .inr ⟨info', info, found', found, ns.symm, claim.symm, pod.symm⟩

theorem seriesOf_of_some {kind : HistMap} {key : HistKey} {info : DeviceInfo}
    (found : resolver.lookup key.dev = some info) :
    c.seriesOf resolver kind key =
      (kind.desc, [c.nodeName, info.namespace_, info.pvcName, info.podName,
        kind.opLabel key.op]) := by
  simp [seriesOf, found]

theorem seriesOf_of_none {kind : HistMap} {key : HistKey}
    (missing : resolver.lookup key.dev = none) :
    c.seriesOf resolver kind key =
      (kind.systemDesc.getD kind.desc,
        [c.nodeName, devToString key.dev, kind.opLabel key.op]) := by
  simp [seriesOf, missing]

theorem systemDesc_ne {kind : HistMap} (faithful : kind.Faithful)
    {entry : HistKey × Hist} (exported : c.Exports resolver kind entry)
    (missing : resolver.lookup entry.1.dev = none) :
    kind.systemDesc.getD kind.desc ≠ kind.desc := by
  have present := exported.2.2
  simp only [Reports, missing] at present
  obtain ⟨desc, system⟩ := Option.isSome_iff_exists.mp present
  have apart := faithful.descs
  rw [system] at apart ⊢
  exact fun same => apart (congrArg some same)

theorem seriesOf_eq_iff {kind : HistMap} (faithful : kind.Faithful)
    {entry other : HistKey × Hist} (exported : c.Exports resolver kind entry)
    (exported' : c.Exports resolver kind other) :
    c.seriesOf resolver kind entry.1 = c.seriesOf resolver kind other.1 ↔
      entry.1.op = other.1.op ∧
        SameVolume resolver entry.1.dev other.1.dev := by
  have labelIff : kind.opLabel entry.1.op = kind.opLabel other.1.op ↔
      entry.1.op = other.1.op :=
    ⟨faithful.labels _ _ exported.1 exported'.1, fun same => by rw [same]⟩
  cases found : resolver.lookup entry.1.dev with
  | some info =>
      cases found' : resolver.lookup other.1.dev with
      | some info' =>
          rw [seriesOf_of_some c resolver found,
            seriesOf_of_some c resolver found', sameVolume_of_some found found']
          simp only [Prod.mk.injEq, List.cons.injEq, labelIff, true_and,
            and_true]
          tauto
      | none =>
          rw [seriesOf_of_some c resolver found,
            seriesOf_of_none c resolver found']
          have apart := c.systemDesc_ne resolver faithful exported' found'
          constructor
          · intro same
            exact absurd (congrArg Prod.fst same).symm apart
          · rintro ⟨-, same⟩
            rw [(sameVolume_of_none found').mp same.symm, found] at found'
            simp at found'
  | none =>
      rw [sameVolume_of_none found, seriesOf_of_none c resolver found]
      cases found' : resolver.lookup other.1.dev with
      | some info' =>
          rw [seriesOf_of_some c resolver found']
          have apart := c.systemDesc_ne resolver faithful exported found
          constructor
          · intro same
            exact absurd (congrArg Prod.fst same) apart
          · rintro ⟨-, same⟩
            rw [same, found'] at found
            simp at found
      | none =>
          rw [seriesOf_of_none c resolver found']
          simp only [Prod.mk.injEq, List.cons.injEq, labelIff, true_and,
            and_true, devToString_injective.eq_iff]
          tauto

theorem collectMap_distinctSeries_iff {kind : HistMap}
    (faithful : kind.Faithful) (visited : Visited) :
    DistinctSeries (c.collectMap resolver kind visited) ↔
      visited.Pairwise fun entry other =>
        c.Exports resolver kind entry → c.Exports resolver kind other →
          ¬ (entry.1.op = other.1.op ∧
            SameVolume resolver entry.1.dev other.1.dev) := by
  rw [collectMap, distinctSeries_filterMap]
  refine List.Pairwise.iff fun {entry other} => ?_
  constructor
  · intro apart exported exported' same
    rw [← c.seriesOf_eq_iff resolver faithful exported exported'] at same
    exact apart _ ((c.collectEntry_eq resolver kind entry).trans
      (if_pos exported)) _ ((c.collectEntry_eq resolver kind other).trans
        (if_pos exported')) same
  · intro apart metric collected metric' collected' same
    obtain ⟨exported, series⟩ := c.series_of_collectEntry resolver collected
    obtain ⟨exported', series'⟩ := c.series_of_collectEntry resolver collected'
    apply apart exported exported'
    rw [← c.seriesOf_eq_iff resolver faithful exported exported', ← series,
      ← series', same]

theorem desc_of_mem_collectMap {kind : HistMap} {visited : Visited}
    {metric : Metric Desc} (member : metric ∈ c.collectMap resolver kind visited) :
    metric.desc = kind.desc ∨ kind.systemDesc = some metric.desc := by
  obtain ⟨entry, -, collected⟩ := List.mem_filterMap.mp member
  obtain ⟨⟨-, -, reports⟩, series⟩ := c.series_of_collectEntry resolver collected
  have descEq : metric.desc = (c.seriesOf resolver kind entry.1).1 :=
    congrArg Prod.fst series
  rw [descEq]
  cases found : resolver.lookup entry.1.dev with
  | some info => exact .inl (by rw [seriesOf_of_some c resolver found])
  | none =>
      simp only [Reports, found] at reports
      obtain ⟨desc, system⟩ := Option.isSome_iff_exists.mp reports
      exact .inr (by rw [seriesOf_of_none c resolver found, system]; rfl)

end Collector

def Programs.maps (programs : Programs) : List (HistMap × Visited) :=
  [(blockMap, programs.blockHists.getD []),
    (nfsMap, programs.nfsHists.getD []),
    (nfsKprobeMap, programs.nfsKprobeHists.getD [])]

theorem faithful_of_mem_maps {programs : Programs}
    {source : HistMap × Visited} (member : source ∈ programs.maps) :
    source.1.Faithful := by
  simp only [Programs.maps, List.mem_cons, List.not_mem_nil, or_false] at member
  rcases member with rfl | rfl | rfl
  · exact blockMap_faithful
  · exact nfsMap_faithful
  · exact nfsKprobeMap_faithful

namespace Collector

theorem collect_eq (c : Collector) (resolver : Resolver)
    (programs : Programs) :
    c.collect resolver programs =
      collectSubsystemGauge programs ++
        (c.collectMap resolver blockMap (programs.blockHists.getD []) ++
          (c.collectMap resolver nfsMap (programs.nfsHists.getD []) ++
            c.collectMap resolver nfsKprobeMap
              (programs.nfsKprobeHists.getD []))) := by
  have elimEq : ∀ (kind : HistMap) (visits : Option Visited),
      visits.elim [] (c.collectMap resolver kind) =
        c.collectMap resolver kind (visits.getD []) := by
    intro kind visits
    cases visits <;> rfl
  rw [← elimEq, ← elimEq, ← elimEq]
  rfl

theorem desc_of_mem_nfs {c : Collector} {resolver : Resolver}
    {visited : Visited} {metric : Metric Desc}
    (member : metric ∈ c.collectMap resolver nfsMap visited) :
    metric.desc = .nfs := by
  rcases c.desc_of_mem_collectMap resolver member with same | system
  · exact same
  · simp [nfsMap] at system

theorem desc_of_mem_nfsKprobe {c : Collector} {resolver : Resolver}
    {visited : Visited} {metric : Metric Desc}
    (member : metric ∈ c.collectMap resolver nfsKprobeMap visited) :
    metric.desc = .nfsVfs := by
  rcases c.desc_of_mem_collectMap resolver member with same | system
  · exact same
  · simp [nfsKprobeMap] at system

theorem desc_of_mem_block {c : Collector} {resolver : Resolver}
    {visited : Visited} {metric : Metric Desc}
    (member : metric ∈ c.collectMap resolver blockMap visited) :
    metric.desc = .podBlock ∨ metric.desc = .systemBlock := by
  rcases c.desc_of_mem_collectMap resolver member with same | system
  · exact .inl same
  · exact .inr (Option.some.inj system).symm

theorem collect_distinctSeries_iff_maps (c : Collector) (resolver : Resolver)
    (programs : Programs) :
    DistinctSeries (c.collect resolver programs) ↔
      ∀ source ∈ programs.maps,
        DistinctSeries (c.collectMap resolver source.1 source.2) := by
  have gauges : DistinctSeries (collectSubsystemGauge programs) := by
    simp [DistinctSeries, Metric.series, collectSubsystemGauge]
  have gaugeDesc : ∀ metric ∈ collectSubsystemGauge programs,
      metric.desc = .subsystem := by
    simp [collectSubsystemGauge]
  rw [collect_eq, distinctSeries_append_of_desc,
    distinctSeries_append_of_desc, distinctSeries_append_of_desc]
  · simp [Programs.maps, gauges]
  · intro metric inNfs other inKprobe
    rw [desc_of_mem_nfs inNfs, desc_of_mem_nfsKprobe inKprobe]
    decide
  · intro metric inBlock other inRest
    have rest : other.desc = .nfs ∨ other.desc = .nfsVfs :=
      (List.mem_append.mp inRest).imp desc_of_mem_nfs desc_of_mem_nfsKprobe
    rcases desc_of_mem_block inBlock with same | same <;>
      rcases rest with same' | same' <;> simp [same, same']
  · intro metric inGauges other inRest
    rw [gaugeDesc metric inGauges]
    rcases List.mem_append.mp inRest with inBlock | inRest
    · rcases desc_of_mem_block inBlock with same | same <;> simp [same]
    · rcases List.mem_append.mp inRest with inNfs | inKprobe
      · simp [desc_of_mem_nfs inNfs]
      · simp [desc_of_mem_nfsKprobe inKprobe]

/-! ### Read off the mounts, the pods and the claims -/

/-- One device, or two whose last mounts are of volumes under one name, of one
pod or of two under one name. -/
def Collides (resolver : Resolver) (host : Host) (mounts : List MountEntry)
    (dev other : UInt32) : Prop :=
  dev = other ∨ ∃ pvName pod pvName' pod',
    resolver.LastOn host mounts dev pvName pod ∧
      resolver.LastOn host mounts other pvName' pod' ∧
        pod.namespace_ = pod'.namespace_ ∧ pod.name = pod'.name ∧
          SharesName host pvName pvName'

/-- An entry of a known operation that holds samples, on a device whose last mount
is of a pod in an allowed namespace or, where there is a series for such devices,
on one without mounts. -/
structure Visible (c : Collector) (resolver : Resolver) (host : Host)
    (mounts : List MountEntry) (kind : HistMap) (entry : HistKey × Hist) :
    Prop where
  known : entry.1.op ≤ kind.maxOp
  sampled : (∑ i, (entry.2.slots i).toNat) % 2 ^ 64 ≠ 0
  shown : (∃ pvName pod, resolver.LastOn host mounts entry.1.dev pvName pod ∧
      c.namespaceAllowed pod.namespace_ = true) ∨
    (kind.systemDesc.isSome ∧
      ∀ m ∈ mounts, ¬ resolver.OnDevice host entry.1.dev m)

theorem count_ne_zero_iff (slots : Fin Bpf.maxSlots → UInt64)
    (buckets : List ℚ) :
    (slotsToConstHistogram slots buckets).count ≠ 0 ↔
      (∑ i, (slots i).toNat) % 2 ^ 64 ≠ 0 := by
  rw [← slotTotals_cumulative, ← slotTotals_count, ne_eq, ← UInt64.toNat_inj]
  rfl

theorem exports_withMounts_iff (c : Collector) (resolver : Resolver)
    (host : Host) (mounts : List MountEntry) (kind : HistMap)
    (entry : HistKey × Hist) :
    c.Exports (resolver.withMounts host mounts) kind entry ↔
      c.Visible resolver host mounts kind entry := by
  have resolved := resolver.exists_lookup_deviceMap_iff host mounts entry.1.dev
    fun ns _ _ => c.namespaceAllowed ns = true
  have unresolved := resolver.lookup_deviceMap_eq_none_iff host mounts entry.1.dev
  have shown : c.Reports (resolver.withMounts host mounts) kind entry.1.dev =
      true ↔ (∃ pvName pod, resolver.LastOn host mounts entry.1.dev pvName pod ∧
        c.namespaceAllowed pod.namespace_ = true) ∨
      (kind.systemDesc.isSome ∧
        ∀ m ∈ mounts, ¬ resolver.OnDevice host entry.1.dev m) := by
    rw [← resolved, ← unresolved]
    unfold Reports Resolver.lookup Resolver.withMounts
    cases (resolver.deviceMap host mounts).lookup entry.1.dev <;> simp
  constructor
  · rintro ⟨known, sampled, reports⟩
    exact ⟨known, (count_ne_zero_iff _ _).mp sampled, shown.mp reports⟩
  · rintro ⟨known, sampled, reports⟩
    exact ⟨known, (count_ne_zero_iff _ _).mpr sampled, shown.mpr reports⟩

theorem sameVolume_withMounts_iff (resolver : Resolver) (host : Host)
    (mounts : List MountEntry) (dev other : UInt32) :
    SameVolume (resolver.withMounts host mounts) dev other ↔
      Collides resolver host mounts dev other := by
  unfold SameVolume Collides
  apply or_congr_right
  simp only [sharesName_iff]
  have second : ∀ ns pod claim,
      (∃ info, (resolver.withMounts host mounts).lookup other = some info ∧
        ns = info.namespace_ ∧ claim = info.pvcName ∧ pod = info.podName) ↔
      ∃ pvName owner, resolver.LastOn host mounts other pvName owner ∧
        ns = owner.namespace_ ∧ claim = resolvePVCName host pvName ∧
          pod = owner.name := fun ns pod claim =>
    resolver.exists_lookup_deviceMap_iff host mounts other fun ns' pod' claim' =>
      ns = ns' ∧ claim = claim' ∧ pod = pod'
  have both := resolver.exists_lookup_deviceMap_iff host mounts dev
    fun ns pod claim => ∃ info,
      (resolver.withMounts host mounts).lookup other = some info ∧
        ns = info.namespace_ ∧ claim = info.pvcName ∧ pod = info.podName
  constructor
  · rintro ⟨info, info', found, found', same⟩
    obtain ⟨pvName, owner, last, named⟩ := both.mp ⟨info, found, info', found', same⟩
    obtain ⟨pvName', owner', last', ns, claim, pod⟩ := (second _ _ _).mp named
    exact ⟨pvName, owner, pvName', owner', last, last', ns, pod, claim⟩
  · rintro ⟨pvName, owner, pvName', owner', last, last', ns, pod, claim⟩
    have named := (second _ _ _).mpr ⟨pvName', owner', last', ns, claim, pod⟩
    obtain ⟨info, found, info', found', same⟩ := both.mpr ⟨pvName, owner, last, named⟩
    exact ⟨info, info', found, found', same⟩

/-- The series of one collection are distinct exactly when no two visible entries
of one map have the same operation and devices that collide. -/
theorem collect_distinctSeries_iff (c : Collector) (resolver : Resolver)
    (host : Host) (mounts : List MountEntry) (programs : Programs) :
    DistinctSeries (c.collect (resolver.withMounts host mounts) programs) ↔
      ∀ source ∈ programs.maps, source.2.Pairwise fun entry other =>
        c.Visible resolver host mounts source.1 entry →
        c.Visible resolver host mounts source.1 other →
          ¬ (entry.1.op = other.1.op ∧
            Collides resolver host mounts entry.1.dev other.1.dev) := by
  rw [collect_distinctSeries_iff_maps]
  refine forall₂_congr fun source member => ?_
  rw [c.collectMap_distinctSeries_iff _ (faithful_of_mem_maps member)]
  simp only [sameVolume_withMounts_iff, exports_withMounts_iff]

/-! A claim and an inline volume of one pod can have the same name, and an
iteration can return a key twice. -/

def oneRead : Hist := Bpf.zeroHist.increment ⟨10, by decide⟩

def allNamespaces : Collector := ⟨"node-1", [], []⟩

def blockPrograms (visited : Visited) : Programs :=
  ⟨some visited, none, none, true, false, false⟩

def claimHost : Host where
  mountInfo := none
  stat _ := none
  podStore := some [Resolver.podA]
  pvcIndexer := some fun pvName =>
    some (if pvName = "pvc-7" then [⟨"data", "tenant-a", "pvc-7"⟩] else [])

def volumeMount (volume : String) (minor : UInt32) : MountEntry where
  mountID := 100
  parentID := 50
  major := 253
  minor := minor
  root := "/"
  mountPoint := "/pods/" ++ Resolver.podA.uid ++
    "/volumes/kubernetes.io~csi/" ++ volume ++ "/mount"
  fsType := "xfs"
  source := "/dev/mapper/" ++ volume

theorem two_volumes_share_a_series :
    ¬ DistinctSeries (allNamespaces.collect
        (Resolver.nodeResolver.withMounts claimHost
          [volumeMount "pvc-7" 3, volumeMount "data" 4])
        (blockPrograms [(⟨mkDev 253 3, 0⟩, oneRead),
          (⟨mkDev 253 4, 0⟩, oneRead)])) ∧
      ¬ DistinctSeries (allNamespaces.collect
        (Resolver.nodeResolver.withMounts claimHost [])
        (blockPrograms [(⟨mkDev 253 3, 0⟩, oneRead),
          (⟨mkDev 253 3, 0⟩, oneRead)])) := by
  decide +kernel

end Collector

end KubevirtMetrics.Ebpf
