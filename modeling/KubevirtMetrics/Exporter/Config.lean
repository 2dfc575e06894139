import KubevirtMetrics.Data.ParseFloat

namespace KubevirtMetrics.Exporter

open Data

/-! The configuration of the exporter, as far as its validation and the pollers
look at it.  Durations are in nanoseconds. -/

structure Config where
  tlsCertFile : String
  tlsKeyFile : String
  nodeName : String
  boundaries : List Float64
  boundariesNs : List Int
  enableQMP : Bool
  qmpPollInterval : Int
  qmpConcurrency : Int
  enableQGA : Bool
  qgaPollInterval : Int
  qgaConcurrency : Int
  enableKVM : Bool
  kvmPollInterval : Int
  enableCgroup : Bool
  cgroupPollInterval : Int
  enableEBPF : Bool
  ebpfScanInterval : Int

def Config.validate (c : Config) : Except String Unit := do
  if (c.tlsCertFile == "") != (c.tlsKeyFile == "") then
    throw "tls-cert-file and tls-key-file must be set together"
  if c.nodeName = "" then
    throw "NODE_NAME environment variable is required"
  if c.boundariesNs.length = 0 then
    throw "boundaries must contain at least one value"
  if c.enableEBPF && c.ebpfScanInterval ≤ 0 then
    throw ("ebpf-scan-interval must be positive, got " ++
      toString c.ebpfScanInterval)

/-! ### Boundaries -/

def boundaryItems (s : List Char) : List (List Char) :=
  (s.splitOn ',').map Text.trimSpace

/-- `strconv.ParseInt` in base ten with 64 bits is `strconv.Atoi`. -/
def parseBoundariesNs (s : List Char) : List Int :=
  (boundaryItems s).filterMap Text.atoi?

def parseBoundariesSeconds (s : List Char) : List Float64 :=
  Float64.sort (((boundaryItems s).filter fun p => !p.isEmpty).filterMap fun p =>
    (Text.parseFloat? p).map fun ns => ns.div 1000000000)

/-- The part of `Parse` that reads the flag `boundaries`. -/
def Config.withBoundaries (c : Config) (boundariesStr : List Char) : Config :=
  { c with
    boundariesNs := parseBoundariesNs boundariesStr
    boundaries := parseBoundariesSeconds boundariesStr }

/-- A float holds a nanosecond count as the number next to it. -/
def seconds (ns : Int) : Float64 := (Float64.ofRat ns).div 1000000000

/-- The virtual machine monitor takes the boundaries in nanoseconds, and both
kinds of histogram have the same buckets. -/
structure Config.BoundariesAgree (c : Config) : Prop where
  increasing : c.boundariesNs.Pairwise (· < ·)
  positive : ∀ ns ∈ c.boundariesNs, 0 < ns
  same : c.boundaries = c.boundariesNs.map seconds

theorem parseBoundariesSeconds_eq (s : List Char) :
    parseBoundariesSeconds s = Float64.sort ((boundaryItems s).filterMap fun p =>
      (Text.parseFloat? p).map fun ns => ns.div 1000000000) := by
  rw [parseBoundariesSeconds, List.filterMap_filter]
  congr 1
  apply List.filterMap_congr
  intro p _
  cases p with
  | nil => rfl
  | cons c p => rfl

theorem seconds_le {ns ns' : Int} (nonneg : 0 ≤ ns) (le : ns ≤ ns') :
    (seconds ns).le (seconds ns') = true := by
  have nonneg' : (0 : ℚ) ≤ ns := by exact_mod_cast nonneg
  apply Float64.div_mono (Float64.nonneg_ofRat nonneg') _ (by norm_num)
  exact Float64.le_ofRat nonneg' (by exact_mod_cast le)

theorem parseFloat?_of_integer {p : List Char} {ns : Int}
    (read : Text.atoi? p = some ns) :
    (Text.parseFloat? p).map (fun ns => ns.div 1000000000) =
      some (seconds ns) := by
  obtain ⟨parsed, exact⟩ := Text.parseFloat?_of_atoi? read
  rw [parsed, Option.map_some, seconds, exact]

/-- Both parsers drop the same items. -/
def OnlyIntegers (s : List Char) : Prop :=
  ∀ p ∈ boundaryItems s, (Text.parseFloat? p).isSome → (Text.atoi? p).isSome

theorem unsorted_eq {items : List (List Char)}
    (integers : ∀ p ∈ items, (Text.parseFloat? p).isSome →
      (Text.atoi? p).isSome) :
    items.filterMap (fun p => (Text.parseFloat? p).map fun ns =>
        ns.div 1000000000) =
      (items.filterMap Text.atoi?).map seconds := by
  rw [List.map_filterMap]
  apply List.filterMap_congr
  intro p member
  cases read : Text.atoi? p with
  | some ns => exact parseFloat?_of_integer read
  | none =>
      cases parsed : Text.parseFloat? p with
      | none => rfl
      | some x =>
          have integer := integers p member (by simp [parsed])
          simp [read] at integer

/-- Two parsers of which the second accepts more accept the same number of items
only if they accept the same items. -/
theorem isSome_of_length_le {α β γ : Type} {f : α → Option β} {g : α → Option γ}
    {items : List α} (more : ∀ p ∈ items, (f p).isSome → (g p).isSome)
    (le : (items.filterMap g).length ≤ (items.filterMap f).length) {p : α}
    (member : p ∈ items) (accepted : (g p).isSome) : (f p).isSome := by
  rw [List.length_filterMap_eq_countP, List.length_filterMap_eq_countP] at le
  by_contra rejected
  obtain ⟨front, back, rfl⟩ := List.append_of_mem member
  have fronts := List.countP_mono_left (l := front) (p := fun p => (f p).isSome)
    (q := fun p => (g p).isSome) fun p inside => more p (by simp [inside])
  have backs := List.countP_mono_left (l := back) (p := fun p => (f p).isSome)
    (q := fun p => (g p).isSome) fun p inside => more p (by simp [inside])
  simp only [List.countP_append, List.countP_cons, accepted, rejected,
    if_true] at le
  simp at le
  omega

theorem sorted_seconds {boundariesNs : List Int}
    (increasing : boundariesNs.Pairwise (· < ·))
    (positive : ∀ ns ∈ boundariesNs, 0 < ns) :
    (boundariesNs.map seconds).Pairwise fun x y => x.le y = true := by
  rw [List.pairwise_map]
  refine increasing.imp_of_mem fun {ns ns'} member _ less => ?_
  exact seconds_le (positive ns member).le less.le

/-- The items that are read as integers are positive and written in increasing
order, and no item is a number without being an integer. -/
structure InOrder (s : List Char) : Prop where
  positive : ∀ p ∈ boundaryItems s, ∀ ns, Text.atoi? p = some ns → 0 < ns
  increasing : (boundaryItems s).Pairwise fun p q => ∀ ns, Text.atoi? p = some ns →
    ∀ ns', Text.atoi? q = some ns' → ns < ns'
  integers : OnlyIntegers s

theorem increasing_parseBoundariesNs_iff (s : List Char) :
    (parseBoundariesNs s).Pairwise (· < ·) ↔
      (boundaryItems s).Pairwise fun p q => ∀ ns, Text.atoi? p = some ns →
        ∀ ns', Text.atoi? q = some ns' → ns < ns' := by
  rw [parseBoundariesNs, List.pairwise_filterMap]

theorem positive_parseBoundariesNs_iff (s : List Char) :
    (∀ ns ∈ parseBoundariesNs s, 0 < ns) ↔
      ∀ p ∈ boundaryItems s, ∀ ns, Text.atoi? p = some ns → 0 < ns := by
  constructor
  · intro positive p member ns read
    exact positive ns (List.mem_filterMap.mpr ⟨p, member, read⟩)
  · intro positive ns member
    obtain ⟨p, listed, read⟩ := List.mem_filterMap.mp member
    exact positive p listed ns read

theorem onlyIntegers_of_agree {c : Config} {s : List Char}
    (agree : (c.withBoundaries s).BoundariesAgree) : OnlyIntegers s := by
  have more : ∀ p ∈ boundaryItems s, (Text.atoi? p).isSome →
      ((Text.parseFloat? p).map fun ns => ns.div 1000000000).isSome := by
    intro p _ integer
    obtain ⟨ns, read⟩ := Option.isSome_iff_exists.mp integer
    rw [parseFloat?_of_integer read]
    rfl
  have lengths := congrArg List.length agree.same
  simp only [Config.withBoundaries, parseBoundariesSeconds_eq, Float64.sort,
    List.length_mergeSort, List.length_map] at lengths
  intro p member isFloat
  exact isSome_of_length_le more lengths.le member (by simpa using isFloat)

theorem boundariesAgree_iff (c : Config) (s : List Char) :
    (c.withBoundaries s).BoundariesAgree ↔ InOrder s := by
  constructor
  · intro agree
    exact ⟨(positive_parseBoundariesNs_iff s).mp agree.positive,
      (increasing_parseBoundariesNs_iff s).mp agree.increasing,
      onlyIntegers_of_agree agree⟩
  · intro ordered
    have increasing := (increasing_parseBoundariesNs_iff s).mpr ordered.increasing
    have positive := (positive_parseBoundariesNs_iff s).mpr ordered.positive
    refine ⟨increasing, positive, ?_⟩
    change parseBoundariesSeconds s = (parseBoundariesNs s).map seconds
    rw [parseBoundariesSeconds_eq, unsorted_eq ordered.integers]
    exact Float64.sort_eq_self (sorted_seconds increasing positive)

/-- A configuration with everything enabled. -/
def defaults : Config where
  tlsCertFile := ""
  tlsKeyFile := ""
  nodeName := "node-1"
  boundaries := []
  boundariesNs := []
  enableQMP := true
  qmpPollInterval := 60000000000
  qmpConcurrency := 8
  enableQGA := true
  qgaPollInterval := 60000000000
  qgaConcurrency := 8
  enableKVM := true
  kvmPollInterval := 30000000000
  enableCgroup := true
  cgroupPollInterval := 30000000000
  enableEBPF := true
  ebpfScanInterval := 30

/-- Out of order: one list is sorted and the other is not. -/
def unsortedBoundaries : Config :=
  defaults.withBoundaries "20000000,10000000".toList

/-- The second is no integer: one list drops it and the other does not. -/
def fractionalBoundaries : Config :=
  defaults.withBoundaries "10000000,1.5e7".toList

theorem accepted_boundaries_disagree :
    (unsortedBoundaries.validate = .ok () ∧
      ¬ unsortedBoundaries.BoundariesAgree) ∧
    (fractionalBoundaries.validate = .ok () ∧
      ¬ fractionalBoundaries.BoundariesAgree) := by
  constructor
  · refine ⟨by decide, fun agree => ?_⟩
    exact absurd agree.increasing (by decide)
  · refine ⟨by decide, fun agree => ?_⟩
    have lengths := congrArg List.length agree.same
    simp only [fractionalBoundaries, Config.withBoundaries,
      parseBoundariesSeconds_eq, Float64.sort, List.length_mergeSort,
      List.length_map] at lengths
    revert lengths
    decide +kernel

end KubevirtMetrics.Exporter
