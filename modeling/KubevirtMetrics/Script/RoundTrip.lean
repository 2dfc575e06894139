import KubevirtMetrics.Script.OpenMetrics

namespace KubevirtMetrics.Script

open Data Exposition

/-! The document that `openmetrics` writes, read back. -/

/-! ### Reading the lines -/

def samplesOf (group : List Series) : List (Series × Sample) :=
  group.flatMap fun series => series.values.map fun sample => (series, sample)

def exportLine (x : Series × Sample) : List Char := sampleLine x.1 x.2

/-- A sample as it is in the payload. -/
def payloadPoint (x : Series × Sample) : Point :=
  ⟨x.1.name, x.1.sortedLabels, x.2.value, x.2.millis⟩

/-- What is read for a sample. -/
def distort (point : Point) : Point :=
  ⟨point.name, point.labels.map fun label =>
    (label.1, label.2.flatMap readBack), point.value,
    exportedTime point.millis * 1000⟩

theorem writes_exportLine (x : Series × Sample) :
    Writes exportLine (fun x => distort (payloadPoint x)) x := by
  obtain ⟨series, sample⟩ := x
  constructor
  · have keys : ∀ label ∈ series.sortedLabels, (Prod.fst label).all nameChar = true :=
      fun label member => series.keyed label (List.mem_mergeSort.mp member)
    have spells : ∀ label ∈ series.sortedLabels,
        Spells (label.2.flatMap jsonEscape) (label.2.flatMap readBack) := fun label _ =>
      spells_flatMap fun c _ => spells_jsonEscape c
    have read := readSample_written series.nonempty series.named keys spells
      (fun c member => (sample.token c member).1)
      (Text.readFloat?_itoa (exportedTime sample.millis))
    have whole : ⌊(exportedTime sample.millis : ℚ) * 1000⌋ =
        exportedTime sample.millis * 1000 := by
      exact_mod_cast Int.floor_intCast (R := ℚ) (exportedTime sample.millis * 1000)
    rw [whole] at read
    exact read
  · obtain ⟨c, rest, same⟩ := List.exists_cons_of_ne_nil series.nonempty
    have first : nameChar c = true :=
      List.all_eq_true.mp series.named c (same ▸ List.mem_cons_self)
    intro d starts
    rw [exportLine, sampleLine, same] at starts
    obtain rfl := Option.some.inj starts
    rintro rfl
    cases first

theorem hexDigits_single (n : Nat) : (hexDigits n).all (· != '\n') = true := by
  have digits : ∀ d : Fin 16, (Nat.digitChar d != '\n') = true := by decide
  simp only [hexDigits, List.map_cons, List.map_nil, List.all_cons, List.all_nil,
    Bool.and_true, Bool.and_eq_true]
  exact ⟨digits ⟨_, Nat.mod_lt _ (by decide)⟩, digits ⟨_, Nat.mod_lt _ (by decide)⟩,
    digits ⟨_, Nat.mod_lt _ (by decide)⟩, digits ⟨_, Nat.mod_lt _ (by decide)⟩⟩

theorem jsonEscape_single (c : Char) : (jsonEscape c).all (· != '\n') = true := by
  unfold jsonEscape
  split_ifs with quote backslash newline _ _ _ _ printable
  · rfl
  · rfl
  · rfl
  · rfl
  · rfl
  · rfl
  · rfl
  · simpa using newline
  · exact hexDigits_single c.toNat
  · have high := hexDigits_single (55296 + (c.toNat - 65536) / 1024 % 1024)
    have low := hexDigits_single (56320 + (c.toNat - 65536) % 1024)
    simp only [unicodeEscape, List.all_append, List.all_cons, high, low]
    rfl

theorem dumps_single (text : List Char) : (dumps text).all (· != '\n') = true := by
  have body : (text.flatMap jsonEscape).all (· != '\n') = true := by
    rw [List.all_flatMap, List.all_eq_true]
    exact fun c _ => jsonEscape_single c
  rw [dumps, List.all_cons, List.all_append, body]
  rfl

theorem single_of_named {word : List Char} (named : word.all nameChar = true) :
    word.all (· != '\n') = true := by
  rw [List.all_eq_true] at named ⊢
  intro c member
  rw [bne_iff_ne]
  rintro rfl
  exact absurd (named '\n' member) (by decide)

theorem labelText_single (series : Series) : series.labelText.all (· != '\n') = true := by
  have each : ∀ label ∈ series.sortedLabels.map fun label =>
      label.1 ++ '=' :: dumps label.2,
      label.all (· != '\n') = true := by
    intro text member
    obtain ⟨label, among, rfl⟩ := List.mem_map.mp member
    have key := single_of_named (series.keyed label (List.mem_mergeSort.mp among))
    rw [List.all_append, List.all_cons, key, dumps_single]
    rfl
  have labels := @all_intercalate _ _ [','] _ rfl each
  unfold Series.labelText
  dsimp only
  split
  next => rfl
  next =>
    rw [List.all_cons, List.all_append, labels]
    rfl

theorem exportLine_single (x : Series × Sample) : '\n' ∉ exportLine x := by
  obtain ⟨series, sample⟩ := x
  have value : sample.value.all (· != '\n') = true := by
    rw [List.all_eq_true]
    exact fun c member => bne_iff_ne.mpr (sample.token c member).2
  have time : (Text.itoa (exportedTime sample.millis)).all (· != '\n') = true := by
    have solid := Text.solid_itoa (exportedTime sample.millis)
    rw [List.all_eq_true] at solid ⊢
    intro c member
    rw [bne_iff_ne]
    rintro rfl
    cases solid '\n' member
  have line : (exportLine (series, sample)).all (· != '\n') = true := by
    rw [exportLine, sampleLine, List.all_append, List.all_append, List.all_cons,
      List.all_append, List.all_cons, single_of_named series.named, labelText_single,
      value, time]
    rfl
  intro member
  exact bne_iff_ne.mp (List.all_eq_true.mp line '\n' member) rfl

theorem typeLine_single {familyName : List Char} (named : familyName.all nameChar = true)
    (type : MetricType) : '\n' ∉ typeLine familyName type := by
  have line : (typeLine familyName type).all (· != '\n') = true := by
    rw [typeLine, List.all_append, List.all_append, List.all_cons, single_of_named named]
    cases type <;> rfl
  intro member
  exact bne_iff_ne.mp (List.all_eq_true.mp line '\n' member) rfl

/-! ### Reading the document -/

def blockOf (result : List Series) (familyName : List Char) :
    Block (Series × Sample) where
  name := familyName
  type :=
    ((members result familyName).head?.map fun first => metricType first.name).getD .gauge
  samples := samplesOf (members result familyName)

def blocks (result : List Series) : List (Block (Series × Sample)) :=
  (sortedFamilies result).map (blockOf result)

theorem documentOf_eq (result : List Series) :
    documentOf result = document ((blocks result).flatMap (Block.lines exportLine)) := by
  unfold documentOf blocks
  rw [List.flatMap_map]
  apply congrArg
  apply List.flatMap_congr
  intro familyName member
  obtain ⟨series, among, same⟩ := (mem_sortedFamilies result familyName).mp member
  have found : series ∈ members result familyName :=
    List.mem_filter.mpr ⟨among, decide_eq_true same⟩
  obtain ⟨first, rest, group⟩ := List.exists_cons_of_ne_nil (List.ne_nil_of_mem found)
  rw [getD_grouped, Block.lines, blockOf, samplesOf, group, groupLines, List.map_flatMap]
  simp only [List.map_map]
  rfl

theorem mem_blocks {result : List Series} {block : Block (Series × Sample)}
    (member : block ∈ blocks result) :
    ∃ series ∈ result, block = blockOf result (family series.name) := by
  obtain ⟨familyName, sorted, rfl⟩ := List.mem_map.mp member
  obtain ⟨series, among, rfl⟩ := (mem_sortedFamilies result familyName).mp sorted
  exact ⟨series, among, rfl⟩

theorem readDocument_documentOf {result : List Series} (nonempty : result ≠ [])
    {families : List Family} :
    readDocument (documentOf result) = some families ↔
      (∀ block ∈ blocks result, block.Readable fun x => distort (payloadPoint x)) ∧
        families = ((blocks result).map
          (Block.family fun x => distort (payloadPoint x))).reverse := by
  have named : ∀ block ∈ blocks result, block.name.all nameChar = true := by
    intro block member
    obtain ⟨series, -, rfl⟩ := mem_blocks member
    exact family_named series.named
  have names : (blocks result).map Block.name = sortedFamilies result := by
    rw [blocks, List.map_map]
    exact List.map_id _
  obtain ⟨series, among⟩ := List.exists_mem_of_ne_nil result nonempty
  have inside : blockOf result (family series.name) ∈ blocks result :=
    List.mem_map_of_mem ((mem_sortedFamilies result _).mpr ⟨series, among, rfl⟩)
  have written : (blocks result).flatMap (Block.lines exportLine) ≠ [] :=
    List.ne_nil_of_mem (List.mem_flatMap.mpr ⟨_, inside, List.mem_cons_self⟩)
  have single : ∀ line ∈ (blocks result).flatMap (Block.lines exportLine),
      '\n' ∉ line := by
    intro line member
    obtain ⟨block, inside, listed⟩ := List.mem_flatMap.mp member
    rcases List.mem_cons.mp listed with rfl | sample
    · exact typeLine_single (named block inside) block.type
    · obtain ⟨x, -, rfl⟩ := List.mem_map.mp sample
      exact exportLine_single x
  rw [documentOf_eq, readDocument_document written single,
    readLines_blocks named (fun _ _ x _ => writes_exportLine x)
      (names ▸ sortedFamilies_nodup result) (fun _ _ => List.not_mem_nil),
      List.append_nil]

theorem mem_samplesOf {group : List Series} {x : Series × Sample} :
    x ∈ samplesOf group ↔ x.1 ∈ group ∧ x.2 ∈ x.1.values := by
  simp only [samplesOf, List.mem_flatMap, List.mem_map]
  constructor
  · rintro ⟨series, member, sample, listed, rfl⟩
    exact ⟨member, listed⟩
  · rintro ⟨member, listed⟩
    exact ⟨x.1, member, x.2, listed, rfl⟩

theorem readable_iff {result : List Series} {familyName : List Char} {first : Series}
    {rest : List Series} (group : members result familyName = first :: rest) :
    ((blockOf result familyName).Readable fun x => distort (payloadPoint x)) ↔
      familyName ≠ [] ∧
        ∀ series ∈ result, family series.name = familyName →
          metricType series.name = metricType first.name := by
  have type : (blockOf result familyName).type = metricType first.name := by
    rw [blockOf, group]
    rfl
  unfold Block.Readable
  rw [type]
  apply and_congr_right
  intro _
  constructor
  · intro admitted series among same
    obtain ⟨sample, listed⟩ := List.exists_mem_of_ne_nil _ series.sampled
    have inside : (series, sample) ∈ samplesOf (members result familyName) :=
      mem_samplesOf.mpr ⟨List.mem_filter.mpr ⟨among, decide_eq_true same⟩, listed⟩
    have admits : (metricType first.name).Admits familyName series.name :=
      admitted (series, sample) inside
    rwa [← same, admits_family_iff] at admits
  · intro typed x inside
    obtain ⟨among, same⟩ := List.mem_filter.mp (mem_samplesOf.mp inside).1
    have equal : family x.1.name = familyName := of_decide_eq_true same
    change (metricType first.name).Admits familyName x.1.name
    rw [← equal, admits_family_iff]
    exact typed x.1 among equal

/-- Every family has a name, and its series agree in their type. -/
def Uniform (result : List Series) : Prop :=
  (∀ series ∈ result, family series.name ≠ []) ∧
    ∀ series ∈ result, ∀ other ∈ result, family series.name = family other.name →
      metricType series.name = metricType other.name

theorem exists_first {result : List Series} {series : Series} (among : series ∈ result) :
    ∃ first rest, members result (family series.name) = first :: rest ∧
      first ∈ result ∧ family first.name = family series.name := by
  have found : series ∈ members result (family series.name) :=
    List.mem_filter.mpr ⟨among, decide_eq_true rfl⟩
  obtain ⟨first, rest, group⟩ := List.exists_cons_of_ne_nil (List.ne_nil_of_mem found)
  have first_mem : first ∈ members result (family series.name) := by
    rw [group]
    exact List.mem_cons_self
  obtain ⟨member, same⟩ := List.mem_filter.mp first_mem
  exact ⟨first, rest, group, member, of_decide_eq_true same⟩

theorem forall_readable_iff (result : List Series) :
    (∀ block ∈ blocks result, block.Readable fun x => distort (payloadPoint x)) ↔
      Uniform result := by
  constructor
  · intro readable
    have each : ∀ series ∈ result, _ := fun series among =>
      readable _ (List.mem_map_of_mem
        ((mem_sortedFamilies result _).mpr ⟨series, among, rfl⟩))
    constructor
    · exact fun series among => (each series among).1
    · intro series among other member same
      obtain ⟨first, rest, group, -, -⟩ := exists_first among
      have typed := ((readable_iff group).mp (each series among)).2
      rw [typed series among rfl, typed other member same.symm]
  · rintro ⟨nonempty, agree⟩ block member
    obtain ⟨series, among, rfl⟩ := mem_blocks member
    obtain ⟨first, rest, group, first_mem, same⟩ := exists_first among
    refine (readable_iff group).mpr ⟨nonempty series among, ?_⟩
    intro other member equal
    exact agree other member first first_mem (equal.trans same.symm)

theorem points_perm (result : List Series) :
    (((blocks result).map
      (Block.family fun x => distort (payloadPoint x))).reverse.flatMap
        Family.points).Perm (((samplesOf result).map payloadPoint).map distort) := by
  have grouped_samples : ((blocks result).map
      (Block.family fun x => distort (payloadPoint x))).flatMap Family.points =
        ((samplesOf ((sortedFamilies result).flatMap (members result))).map
          payloadPoint).map distort := by
    rw [List.flatMap_map, blocks, List.flatMap_map, samplesOf, List.flatMap_assoc,
      List.map_flatMap, List.map_flatMap]
    apply List.flatMap_congr
    intro familyName _
    rw [List.map_map]
    rfl
  have reordered := (List.reverse_perm ((blocks result).map
    (Block.family fun x => distort (payloadPoint x)))).flatMap_right Family.points
  rw [grouped_samples] at reordered
  exact reordered.trans
    ((((members_perm result).flatMap_right _).map payloadPoint).map distort)

/-! ### What comes back -/

theorem exportedTime_zero : exportedTime 0 = 0 := by
  simp [exportedTime, Binary64.round_zero, Binary64.truncate]

/-- Read as seconds, the milliseconds are far too late. -/
theorem lt_exportedTime {millis : Int} (large : 1000 ≤ |millis|) :
    |millis| < |exportedTime millis * 1000| := by
  have positive : (0 : ℚ) < 1000 := by norm_num
  have wide : (1000 : ℚ) ≤ |(millis : ℚ)| := by exact_mod_cast large
  have seconds : |(millis / 1000 : ℚ)| = |(millis : ℚ)| / 1000 := by
    rw [abs_div, abs_of_pos positive]
  have first :=
    @Binary64.half_le_abs_round (millis / 1000 : ℚ) (by rw [seconds]; linarith)
  have scaled : |Binary64.round (millis / 1000 : ℚ) * 1000| =
      |Binary64.round (millis / 1000 : ℚ)| * 1000 := by
    rw [abs_mul, abs_of_pos positive]
  have second := @Binary64.half_le_abs_round (Binary64.round (millis / 1000 : ℚ) * 1000)
    (by rw [scaled]; linarith)
  have truncated : _ ≤ |(exportedTime millis : ℚ)| := Binary64.abs_sub_one_le_truncate
    (Binary64.round (Binary64.round (millis / 1000 : ℚ) * 1000))
  have late : |(millis : ℚ)| < |(exportedTime millis : ℚ)| * 1000 := by linarith
  rw [abs_mul, abs_of_pos (by norm_num : (0 : Int) < 1000)]
  exact_mod_cast late

def labelLength (point : Point) : Nat :=
  (point.labels.map fun label => label.2.length).sum

theorem labelLength_le_distort (point : Point) :
    labelLength point ≤ labelLength (distort point) := by
  rw [labelLength, labelLength, distort, List.map_map]
  exact List.sum_le_sum fun label _ => length_le_flatMap_readBack label.2

theorem plain_of_labelLength {point : Point}
    (same : labelLength (distort point) = labelLength point) :
    ∀ label ∈ point.labels, label.2.all plainChar = true := by
  rw [labelLength, labelLength, distort, List.map_map] at same
  intro label member
  exact (flatMap_readBack_iff label.2).mp
    (eq_of_sum_eq (fun label _ => length_le_flatMap_readBack label.2) same label member)

theorem map_eq_self {α : Type*} {f : α → α} {xs : List α} (fixed : ∀ x ∈ xs, f x = x) :
    xs.map f = xs := by
  rw [List.map_congr_left fixed, List.map_id']

theorem distort_eq_self {point : Point}
    (plain : ∀ label ∈ point.labels, label.2.all plainChar = true)
    (epoch : point.millis = 0) :
    distort point = point := by
  have labels : (point.labels.map fun label => (label.1, label.2.flatMap readBack)) =
      point.labels :=
    map_eq_self fun label member =>
      Prod.ext rfl (flatMap_readBack_of_plain (plain label member))
  obtain ⟨name, _, value, millis⟩ := point
  dsimp only at labels epoch
  subst epoch
  rw [distort, labels, exportedTime_zero]
  rfl

theorem millis_cases {millis seconds : Int} (whole : millis = seconds * 1000) :
    millis = 0 ∨ millis.natAbs < (exportedTime millis * 1000).natAbs := by
  by_cases epoch : millis = 0
  · exact .inl epoch
  · have late := @lt_exportedTime millis (by rw [Int.abs_eq_natAbs]; omega)
    rw [Int.abs_eq_natAbs, Int.abs_eq_natAbs] at late
    exact .inr (Int.ofNat_lt.mp late)

theorem map_distort_perm_iff (points : List Point) :
    (points.map distort).Perm points ↔
      ∀ point ∈ points,
        (∀ label ∈ point.labels, label.2.all plainChar = true) ∧ point.millis = 0 := by
  constructor
  · intro perm
    -- every time that is read is a whole number of seconds
    have cases_ : ∀ point ∈ points, point.millis = 0 ∨
        point.millis.natAbs < (distort point).millis.natAbs := by
      intro point member
      obtain ⟨source, -, same⟩ := List.mem_map.mp (perm.mem_iff.mpr member)
      exact millis_cases (congrArg Point.millis same).symm
    have grows : ∀ point ∈ points, point.millis.natAbs ≤
        (distort point).millis.natAbs := by
      intro point member
      rcases cases_ point member with epoch | late
      · rw [epoch]
        exact Nat.zero_le _
      · exact late.le
    have times := measure_eq_of_map_perm perm grows
    have lengths := measure_eq_of_map_perm perm fun point _ =>
      labelLength_le_distort point
    intro point member
    refine ⟨plain_of_labelLength (lengths point member), ?_⟩
    exact (cases_ point member).resolve_right (times point member).not_gt
  · intro fixed
    rw [map_eq_self fun point member =>
      distort_eq_self (fixed point member).1 (fixed point member).2]

/-- The document of a successful answer is read, and has the samples of the answer, each
in a family of a type that admits its name. -/
def RoundTrips (result : List Series) : Prop :=
  ∃ text families, openmetrics ⟨some "success", some "matrix", result⟩ = .ok text ∧
    readDocument text = some families ∧
      (families.flatMap Family.points).Perm ((samplesOf result).map payloadPoint)

theorem openmetrics_matrix (result : List Series) :
    openmetrics ⟨some "success", some "matrix", result⟩ = .ok (documentOf result) := by
  rw [openmetrics, if_neg (not_not.mpr rfl), if_neg (not_not.mpr rfl)]

theorem not_roundTrips_nil : ¬RoundTrips [] := by
  rintro ⟨text, families, exported, read, -⟩
  rw [openmetrics_matrix] at exported
  obtain rfl := Except.ok.inj exported
  have none_sorted : sortedFamilies [] = [] := by
    apply List.eq_nil_iff_forall_not_mem.mpr
    intro familyName member
    obtain ⟨series, among, -⟩ := (mem_sortedFamilies [] familyName).mp member
    exact List.not_mem_nil among
  rw [documentOf, none_sorted, List.flatMap_nil, readDocument_nil] at read
  cases read

theorem roundTrips_iff_perm {result : List Series} (nonempty : result ≠ []) :
    RoundTrips result ↔ Uniform result ∧
      (((samplesOf result).map payloadPoint).map distort).Perm
        ((samplesOf result).map payloadPoint) := by
  unfold RoundTrips
  rw [openmetrics_matrix]
  constructor
  · rintro ⟨text, families, exported, read, same⟩
    obtain rfl := Except.ok.inj exported
    obtain ⟨readable, rfl⟩ := (readDocument_documentOf nonempty).mp read
    exact ⟨(forall_readable_iff result).mp readable, (points_perm result).symm.trans same⟩
  · rintro ⟨uniform, same⟩
    refine ⟨documentOf result, _, rfl, (readDocument_documentOf nonempty).mpr
      ⟨(forall_readable_iff result).mpr uniform, rfl⟩, (points_perm result).trans same⟩

theorem forall_samples_iff {result : List Series} {P : Point → Prop} :
    (∀ point ∈ (samplesOf result).map payloadPoint, P point) ↔
      ∀ series ∈ result, ∀ sample ∈ series.values, P (payloadPoint (series, sample)) := by
  rw [List.forall_mem_map]
  constructor
  · intro each series among sample listed
    exact each (series, sample) (mem_samplesOf.mpr ⟨among, listed⟩)
  · intro each x member
    obtain ⟨among, listed⟩ := mem_samplesOf.mp member
    exact each x.1 among x.2 listed

/-- The labels of the series are in the characters that come back, and its samples at the
time zero. -/
def ComesBack (series : Series) : Prop :=
  (∀ label ∈ series.labels, label.2.all plainChar = true) ∧
    ∀ sample ∈ series.values, sample.millis = 0

theorem comesBack_iff (series : Series) :
    ComesBack series ↔ ∀ sample ∈ series.values,
      (∀ label ∈ (payloadPoint (series, sample)).labels, label.2.all plainChar = true) ∧
        (payloadPoint (series, sample)).millis = 0 := by
  have labels : (∀ label ∈ series.sortedLabels, label.2.all plainChar = true) ↔
      ∀ label ∈ series.labels, label.2.all plainChar = true :=
    forall_congr' fun label => imp_congr_left List.mem_mergeSort
  constructor
  · intro back sample listed
    exact ⟨labels.mpr back.1, back.2 sample listed⟩
  · intro each
    obtain ⟨sample, listed⟩ := List.exists_mem_of_ne_nil _ series.sampled
    exact ⟨labels.mp (each sample listed).1, fun sample listed => (each sample listed).2⟩

theorem comesBack_of_roundTrips {result : List Series} (back : RoundTrips result) :
    ∀ series ∈ result, ComesBack series := by
  have nonempty : result ≠ [] := by
    rintro rfl
    exact not_roundTrips_nil back
  have fixed := (map_distort_perm_iff _).mp ((roundTrips_iff_perm nonempty).mp back).2
  intro series among
  exact (comesBack_iff series).mpr (forall_samples_iff.mp fixed series among)

/-- Decoding undoes the export exactly when there is something to export, the families are
uniform, and every series comes back. -/
theorem roundTrips_iff (result : List Series) :
    RoundTrips result ↔
      result ≠ [] ∧ Uniform result ∧ ∀ series ∈ result, ComesBack series := by
  constructor
  · intro back
    have nonempty : result ≠ [] := by
      rintro rfl
      exact not_roundTrips_nil back
    exact ⟨nonempty, ((roundTrips_iff_perm nonempty).mp back).1,
      comesBack_of_roundTrips back⟩
  · rintro ⟨nonempty, uniform, back⟩
    refine (roundTrips_iff_perm nonempty).mpr ⟨uniform, (map_distort_perm_iff _).mpr ?_⟩
    exact forall_samples_iff.mpr fun series among =>
      (comesBack_iff series).mp (back series among)

/-- A series with one sample, of July 2015. -/
def upSeries : Series where
  name := "kme_up".toList
  labels := []
  values := [⟨1435781430781, ['1'], by decide, by simp⟩]
  nonempty := List.cons_ne_nil _ _
  named := rfl
  keyed := nofun
  distinct := List.nodup_nil
  sampled := List.cons_ne_nil _ _

theorem milliseconds_read_as_seconds : ¬RoundTrips [upSeries] := by
  intro back
  have epoch := (comesBack_of_roundTrips back upSeries List.mem_cons_self).2 _
    List.mem_cons_self
  cases epoch

end KubevirtMetrics.Script
