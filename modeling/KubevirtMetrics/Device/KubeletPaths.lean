import KubevirtMetrics.Device.Resolver

namespace KubevirtMetrics.Device

open Data

/-! What the two regular expressions for kubelet paths accept, told by the segments
of a path. -/

def segments (path : List Char) : List (List Char) := path.splitOn '/'

theorem segments_append_slash (front back : List Char) :
    segments (front ++ '/' :: back) = segments front ++ segments back :=
  List.splitOnP_append_cons front back (by decide)

theorem segments_of_absent {word : List Char} (absent : ∀ c ∈ word, c ≠ '/') :
    segments word = [word] :=
  List.splitOn_eq_singleton fun member => absent '/' member rfl

/-- A name between two slashes. -/
structure PathSegment (word : List Char) : Prop where
  nonempty : word ≠ []
  solid : ∀ c ∈ word, c ≠ '/'

instance (word : List Char) : Decidable (PathSegment word) :=
  decidable_of_iff (word ≠ [] ∧ word.all (· != '/') = true)
    ⟨fun ⟨nonempty, solid⟩ => ⟨nonempty, by simpa using solid⟩,
      fun ⟨nonempty, solid⟩ => ⟨nonempty, by simpa using solid⟩⟩

/-- Lower-case hexadecimal digits in groups of eight, four, four, four and
twelve. -/
def CanonicalUID (uid : List Char) : Prop :=
  (uid.splitOn '-').map List.length = [8, 4, 4, 4, 12] ∧
    ∀ part ∈ uid.splitOn '-', part.all isHexDigit = true

instance (uid : List Char) : Decidable (CanonicalUID uid) :=
  inferInstanceAs (Decidable (_ ∧ _))

theorem ne_of_isHexDigit {word : List Char} (digits : word.all isHexDigit = true)
    {sep : Char} (other : isHexDigit sep = false) : ∀ c ∈ word, c ≠ sep := by
  intro c member
  rintro rfl
  simp [List.all_eq_true.mp digits c member] at other

theorem canonicalUID_iff (uid : List Char) :
    CanonicalUID uid ↔
      ∃ a b c d e : List Char, uid = a ++ '-' ::
        (b ++ '-' :: (c ++ '-' :: (d ++ '-' :: e))) ∧
        [a, b, c, d, e].map List.length = [8, 4, 4, 4, 12] ∧
        ∀ part ∈ [a, b, c, d, e], part.all isHexDigit = true := by
  constructor
  · rintro ⟨lengths, digits⟩
    have whole := @List.intercalate_splitOn _ uid _ _ '-'
    match parts : uid.splitOn '-' with
    | [a, b, c, d, e] =>
        rw [parts] at lengths digits whole
        exact ⟨a, b, c, d, e, by simpa [List.intercalate] using whole.symm, lengths,
          digits⟩
    | [] | [_] | [_, _] | [_, _, _] | [_, _, _, _] | _ :: _ :: _ :: _ :: _ :: _ :: _ =>
        rw [parts] at lengths
        simp at lengths
  · rintro ⟨a, b, c, d, e, rfl, lengths, digits⟩
    have absent : ∀ part ∈ [a, b, c, d, e], '-' ∉ part := fun part member dash =>
      ne_of_isHexDigit (digits part member) (by decide) '-' dash rfl
    have parts := List.splitOn_intercalate '-' absent (by simp)
    have joined : [('-' : Char)].intercalate [a, b, c, d, e] =
        a ++ '-' :: (b ++ '-' :: (c ++ '-' :: (d ++ '-' :: e))) := by
      simp [List.intercalate]
    rw [joined] at parts
    rw [CanonicalUID, parts]
    exact ⟨lengths, digits⟩

theorem CanonicalUID.solid {uid : List Char} (canonical : CanonicalUID uid) :
    ∀ c ∈ uid, c ≠ '/' := by
  obtain ⟨a, b, c, d, e, rfl, -, digits⟩ := (canonicalUID_iff uid).mp canonical
  have parts : ∀ part ∈ [a, b, c, d, e], ∀ x ∈ part, x ≠ '/' := fun part member =>
    ne_of_isHexDigit (digits part member) (by decide)
  simp only [List.mem_cons, List.not_mem_nil, or_false, forall_eq_or_imp, forall_eq]
    at parts
  obtain ⟨inA, inB, inC, inD, inE⟩ := parts
  intro x member
  simp only [List.mem_append, List.mem_cons] at member
  rcases member with h | rfl | h | rfl | h | rfl | h | rfl | h
  · exact inA x h
  · decide
  · exact inB x h
  · decide
  · exact inC x h
  · decide
  · exact inD x h
  · decide
  · exact inE x h

theorem reads_podUIDRe_iff {word rest : List Char} {groups : List (List Char)} :
    podUIDRe.Reads word rest groups ↔ groups = [] ∧ CanonicalUID word := by
  rw [canonicalUID_iff]
  simp only [podUIDRe, Regexp.concat, Regexp.reads_seq_iff Regexp.reads_times_iff,
    Regexp.reads_literal_seq_iff, Regexp.reads_times_iff]
  constructor
  · rintro ⟨a, _, rfl, ⟨lengthA, digitsA⟩, _, rfl, b, _, rfl, ⟨lengthB, digitsB⟩, _, rfl,
      c, _, rfl, ⟨lengthC, digitsC⟩, _, rfl, d, _, rfl, ⟨lengthD, digitsD⟩, e, rfl,
      none, lengthE, digitsE⟩
    refine ⟨none, a, b, c, d, e, rfl, by simp [*], ?_⟩
    simp only [List.mem_cons, List.not_mem_nil, or_false, forall_eq_or_imp, forall_eq,
      List.all_eq_true]
    exact ⟨digitsA, digitsB, digitsC, digitsD, digitsE⟩
  · rintro ⟨none, a, b, c, d, e, rfl, lengths, digits⟩
    simp only [List.mem_cons, List.not_mem_nil, or_false, forall_eq_or_imp, forall_eq,
      List.all_eq_true] at digits
    obtain ⟨digitsA, digitsB, digitsC, digitsD, digitsE⟩ := digits
    simp only [List.map_cons, List.map_nil, List.cons.injEq, and_true] at lengths
    obtain ⟨lengthA, lengthB, lengthC, lengthD, lengthE⟩ := lengths
    exact ⟨a, _, rfl, ⟨lengthA, digitsA⟩, _, rfl, b, _, rfl, ⟨lengthB, digitsB⟩, _, rfl,
      c, _, rfl, ⟨lengthC, digitsC⟩, _, rfl, d, _, rfl, ⟨lengthD, digitsD⟩, e, rfl,
      none, lengthE, digitsE⟩

/-! ### The paths of volumes -/

def podsSegment : List Char := "pods".toList

def volumesSegment : List Char := "volumes".toList

def mountSegment : List Char := "mount".toList

def devicesSegment : List Char := "volumeDevices".toList

def publishSegment : List Char := "publish".toList

def volumePath (root uid plugin last : List Char) : List Char :=
  root ++ '/' :: (podsSegment ++ '/' :: (uid ++ '/' ::
    (volumesSegment ++ '/' :: (plugin ++ '/' :: last))))

def devicePath (root name uid : List Char) : List Char :=
  root ++ '/' :: (devicesSegment ++ '/' :: (publishSegment ++ '/' ::
    (name ++ '/' :: uid)))

theorem reads_segment_iff {greedy : Bool} {word rest : List Char}
    {groups : List (List Char)} :
    (Regexp.plus greedy notSlash).Reads word rest groups ↔
      groups = [] ∧ PathSegment word := by
  rw [Regexp.reads_plus_iff]
  simp only [notSlash, bne_iff_ne]
  exact and_congr_right fun _ => ⟨fun ⟨nonempty, solid⟩ => ⟨nonempty, solid⟩,
    fun ⟨nonempty, solid⟩ => ⟨nonempty, solid⟩⟩

theorem reads_anyChars_iff {word rest : List Char} {groups : List (List Char)} :
    (Regexp.many true Regexp.anyChar).Reads word rest groups ↔
      groups = [] ∧ ∀ c ∈ word, Regexp.anyChar c = true := Iff.rfl

theorem reads_mountSuffix_iff {word rest : List Char} {groups : List (List Char)} :
    (Regexp.seq (.opt (.literal "/mount".toList)) .endOfText).Reads word rest groups ↔
      groups = [] ∧ (word = [] ∨ word = '/' :: mountSegment) ∧ rest = [] := by
  have mount : "/mount".toList = '/' :: mountSegment := by decide
  have suffix : ∀ {word rest : List Char} {groups : List (List Char)},
      (Regexp.opt (.literal "/mount".toList)).Reads word rest groups ↔
        groups = [] ∧ (word = [] ∨ word = '/' :: mountSegment) := by
    intro word rest groups
    rw [mount, Regexp.Reads, Regexp.reads_literal_iff]
    constructor
    · rintro (⟨whole, none⟩ | ⟨empty, none⟩)
      · exact ⟨none, .inr whole⟩
      · exact ⟨none, .inl empty⟩
    · rintro ⟨none, empty | whole⟩
      · exact .inr ⟨empty, none⟩
      · exact .inl ⟨whole, none⟩
  rw [Regexp.reads_seq_iff suffix]
  constructor
  · rintro ⟨front, _, rfl, ends, none, rfl, finished⟩
    rw [List.append_nil]
    exact ⟨none, ends, finished⟩
  · rintro ⟨none, ends, finished⟩
    exact ⟨word, [], (List.append_nil word).symm, ends, none, rfl, finished⟩

theorem reads_kubeletVolumeRe_iff {word rest : List Char}
    {groups : List (List Char)} :
    kubeletVolumeRe.Reads word rest groups ↔
      ∃ front uid plugin name tail, word = volumePath front uid plugin (name ++ tail) ∧
        rest = [] ∧ groups = [uid, name] ∧
        (∀ c ∈ front, Regexp.anyChar c = true) ∧ CanonicalUID uid ∧
        PathSegment plugin ∧ PathSegment name ∧
        (tail = [] ∨ tail = '/' :: mountSegment) := by
  have pods : ∀ back, "/pods/".toList ++ back = '/' :: (podsSegment ++ '/' :: back) :=
    fun _ => rfl
  have volumes : ∀ back, "/volumes/".toList ++ back = '/' ::
      (volumesSegment ++ '/' :: back) :=
    fun _ => rfl
  have slash : ∀ back, "/".toList ++ back = '/' :: back := fun _ => rfl
  simp only [kubeletVolumeRe, Regexp.concat, Regexp.reads_seq_iff reads_anyChars_iff,
    Regexp.reads_literal_seq_iff, Regexp.reads_group_seq_iff reads_podUIDRe_iff,
    Regexp.reads_seq_iff reads_segment_iff, Regexp.reads_group_seq_iff reads_segment_iff,
    reads_mountSuffix_iff, pods, volumes, slash]
  constructor
  · rintro ⟨front, _, rfl, line, _, rfl, uid, _, _, rfl, rfl, canonical, _, rfl,
      plugin, _, rfl, pluginSegment, _, rfl, name, tail, _, rfl, rfl, nameSegment,
      rfl, ends, finished⟩
    exact ⟨front, uid, plugin, name, tail, rfl, finished, rfl, line, canonical,
      pluginSegment, nameSegment, ends⟩
  · rintro ⟨front, uid, plugin, name, tail, rfl, finished, rfl, line, canonical,
      pluginSegment, nameSegment, ends⟩
    exact ⟨front, _, rfl, line, _, rfl, uid, _, _, rfl, rfl, canonical, _, rfl,
      plugin, _, rfl, pluginSegment, _, rfl, name, tail, _, rfl, rfl, nameSegment,
      rfl, ends, finished⟩

theorem reads_kubeletBlockDeviceRe_iff {word rest : List Char}
    {groups : List (List Char)} :
    kubeletBlockDeviceRe.Reads word rest groups ↔
      ∃ front name uid, word = devicePath front name uid ∧ rest = [] ∧
        groups = [name, uid] ∧ (∀ c ∈ front, Regexp.anyChar c = true) ∧
        PathSegment name ∧ CanonicalUID uid := by
  have publish : ∀ back, "/volumeDevices/publish/".toList ++ back =
      '/' :: (devicesSegment ++ '/' :: (publishSegment ++ '/' :: back)) := fun _ => rfl
  have slash : ∀ back, "/".toList ++ back = '/' :: back := fun _ => rfl
  simp only [kubeletBlockDeviceRe, Regexp.concat, Regexp.reads_seq_iff reads_anyChars_iff,
    Regexp.reads_literal_seq_iff, Regexp.reads_group_seq_iff reads_segment_iff,
    Regexp.reads_group_seq_iff reads_podUIDRe_iff, Regexp.reads_endOfText_iff, publish,
    slash]
  constructor
  · rintro ⟨front, _, rfl, line, _, rfl, name, _, _, rfl, rfl, nameSegment, _, rfl,
      uid, _, _, rfl, rfl, canonical, rfl, rfl, finished⟩
    rw [List.append_nil]
    exact ⟨front, name, uid, rfl, finished, rfl, line, nameSegment, canonical⟩
  · rintro ⟨front, name, uid, rfl, finished, rfl, line, nameSegment, canonical⟩
    exact ⟨front, _, rfl, line, _, rfl, name, _, _, rfl, rfl, nameSegment, _, rfl,
      uid, [], [], (List.append_nil uid).symm, rfl, canonical, rfl, rfl, finished⟩

/-! ### One reading for each path -/

/-- The path ends like one of a filesystem-mode volume. -/
def VolumeSegments (path uid name : List Char) : Prop :=
  CanonicalUID uid ∧ ∃ front plugin tail,
    segments path = front ++ [podsSegment, uid, volumesSegment, plugin, name] ++ tail ∧
      (tail = [] ∨ tail = [mountSegment])

/-- The path ends like one of a block-mode volume. -/
def DeviceSegments (path uid name : List Char) : Prop :=
  CanonicalUID uid ∧ ∃ front,
    segments path = front ++ [devicesSegment, publishSegment, name, uid]

theorem segments_volumePath (root : List Char) {uid plugin name tail : List Char}
    (canonical : CanonicalUID uid) (pluginSegment : PathSegment plugin)
    (nameSegment : PathSegment name) (ends : tail = [] ∨ tail = '/' :: mountSegment) :
    VolumeSegments (volumePath root uid plugin (name ++ tail)) uid name := by
  refine ⟨canonical, segments root, plugin, (segments tail).drop 1, ?_, ?_⟩
  · have last : segments (name ++ tail) = name :: (segments tail).drop 1 := by
      rcases ends with rfl | rfl
      · rw [List.append_nil, segments_of_absent nameSegment.solid]
        rfl
      · rw [segments_append_slash, segments_of_absent nameSegment.solid]
        rfl
    have pods : segments podsSegment = [podsSegment] := by decide
    have volumes : segments volumesSegment = [volumesSegment] := by decide
    rw [volumePath, segments_append_slash, segments_append_slash,
      segments_append_slash, segments_append_slash, segments_append_slash, last,
      segments_of_absent canonical.solid, segments_of_absent pluginSegment.solid,
      pods, volumes]
    simp
  · rcases ends with rfl | rfl
    · exact .inl rfl
    · exact .inr (by decide)

theorem segments_devicePath (root : List Char) {name uid : List Char}
    (nameSegment : PathSegment name) (canonical : CanonicalUID uid) :
    DeviceSegments (devicePath root name uid) uid name := by
  refine ⟨canonical, segments root, ?_⟩
  have devices : segments devicesSegment = [devicesSegment] := by decide
  have publish : segments publishSegment = [publishSegment] := by decide
  rw [devicePath, segments_append_slash, segments_append_slash,
    segments_append_slash, segments_append_slash,
    segments_of_absent canonical.solid, segments_of_absent nameSegment.solid,
    devices, publish]
  simp

theorem VolumeSegments.unique {path uid name uid' name' : List Char}
    (first : VolumeSegments path uid name) (second : VolumeSegments path uid' name') :
    uid' = uid ∧ name' = name := by
  obtain ⟨canonical, front, plugin, tail, split, ends⟩ := first
  obtain ⟨canonical', front', plugin', tail', split', ends'⟩ := second
  rw [split] at split'
  have backwards := congrArg List.reverse split'
  have notVolumes : ¬ CanonicalUID volumesSegment := by decide
  -- Compared from the last segment on; with a suffix on one side only, the UID of
  -- the other side would be the segment "volumes".
  rcases ends with rfl | rfl <;> rcases ends' with rfl | rfl <;>
    simp only [List.append_nil, List.reverse_append, List.reverse_cons,
      List.reverse_nil, List.nil_append, List.cons_append, List.cons.injEq]
      at backwards
  · exact ⟨backwards.2.2.2.1.symm, backwards.1.symm⟩
  · exact absurd (backwards.2.2.2.1 ▸ canonical) notVolumes
  · exact absurd (backwards.2.2.2.1 ▸ canonical') notVolumes
  · exact ⟨backwards.2.2.2.2.1.symm, backwards.2.1.symm⟩

theorem DeviceSegments.unique {path uid name uid' name' : List Char}
    (first : DeviceSegments path uid name) (second : DeviceSegments path uid' name') :
    uid' = uid ∧ name' = name := by
  obtain ⟨-, front, split⟩ := first
  obtain ⟨-, front', split'⟩ := second
  rw [split] at split'
  have backwards := congrArg List.reverse split'
  simp only [List.reverse_append, List.reverse_cons, List.reverse_nil,
    List.nil_append, List.cons_append, List.cons.injEq] at backwards
  exact ⟨backwards.1.symm, backwards.2.1.symm⟩

theorem VolumeSegments.not_device {path uid name uid' name' : List Char}
    (volume : VolumeSegments path uid name) : ¬ DeviceSegments path uid' name' := by
  rintro ⟨canonical', front', split'⟩
  obtain ⟨-, front, plugin, tail, split, ends⟩ := volume
  rw [split] at split'
  have backwards := congrArg List.reverse split'
  have notMount : ¬ CanonicalUID mountSegment := by decide
  have other : volumesSegment ≠ publishSegment := by decide
  rcases ends with rfl | rfl <;>
    simp only [List.append_nil, List.reverse_append, List.reverse_cons,
      List.reverse_nil, List.nil_append, List.cons_append, List.cons.injEq]
      at backwards
  · exact other backwards.2.2.1
  · exact notMount (backwards.1 ▸ canonical')

theorem volumeSegments_of_reads (front : List Char) {word rest : List Char}
    {groups : List (List Char)} (read : kubeletVolumeRe.Reads word rest groups) :
    ∃ uid name, groups = [uid, name] ∧
      VolumeSegments (front ++ (word ++ rest)) uid name := by
  obtain ⟨line, uid, plugin, name, tail, rfl, rfl, rfl, -, canonical, pluginSegment,
    nameSegment, ends⟩ := reads_kubeletVolumeRe_iff.mp read
  refine ⟨uid, name, rfl, ?_⟩
  have found := segments_volumePath (front ++ line) canonical pluginSegment nameSegment
    ends
  simpa [volumePath] using found

theorem deviceSegments_of_reads (front : List Char) {word rest : List Char}
    {groups : List (List Char)} (read : kubeletBlockDeviceRe.Reads word rest groups) :
    ∃ uid name, groups = [name, uid] ∧
      DeviceSegments (front ++ (word ++ rest)) uid name := by
  obtain ⟨line, name, uid, rfl, rfl, rfl, -, nameSegment, canonical⟩ :=
    reads_kubeletBlockDeviceRe_iff.mp read
  refine ⟨uid, name, rfl, ?_⟩
  have found := segments_devicePath (front ++ line) nameSegment canonical
  simpa [devicePath] using found

/-! ### The parsers -/

theorem parseKubeletVolumePath_volumePath {path : String} (root tail : List Char)
    {uid plugin name : List Char}
    (made : path.toList = volumePath root uid plugin (name ++ tail))
    (canonical : CanonicalUID uid) (pluginSegment : PathSegment plugin)
    (nameSegment : PathSegment name) (ends : tail = [] ∨ tail = '/' :: mountSegment) :
    parseKubeletVolumePath path = some (String.ofList uid, String.ofList name) := by
  -- The search may start at the root's end: what comes before is not looked at.
  have read : kubeletVolumeRe.Reads (volumePath [] uid plugin (name ++ tail)) []
      [uid, name] :=
    reads_kubeletVolumeRe_iff.mpr ⟨[], uid, plugin, name, tail, rfl, rfl, rfl, by simp,
      canonical, pluginSegment, nameSegment, ends⟩
  have whole : path.toList = root ++ (volumePath [] uid plugin (name ++ tail) ++ []) := by
    rw [made, List.append_nil]
    rfl
  have mine := segments_volumePath root canonical pluginSegment nameSegment ends
  have found : kubeletVolumeRe.search path.toList = some [uid, name] := by
    rw [whole]
    apply Regexp.search_eq_some read
    intro front word rest groups split other
    obtain ⟨uid', name', rfl, segments'⟩ := volumeSegments_of_reads front other
    rw [← split, ← whole, made] at segments'
    obtain ⟨rfl, rfl⟩ := mine.unique segments'
    rfl
  rw [parseKubeletVolumePath, found]

theorem parseKubeletBlockDevicePath_devicePath {path : String} (root : List Char)
    {name uid : List Char} (made : path.toList = devicePath root name uid)
    (nameSegment : PathSegment name) (canonical : CanonicalUID uid) :
    parseKubeletBlockDevicePath path = some (String.ofList uid, String.ofList name) := by
  have read : kubeletBlockDeviceRe.Reads (devicePath [] name uid) [] [name, uid] :=
    reads_kubeletBlockDeviceRe_iff.mpr ⟨[], name, uid, rfl, rfl, rfl, by simp,
      nameSegment, canonical⟩
  have whole : path.toList = root ++ (devicePath [] name uid ++ []) := by
    rw [made, List.append_nil]
    rfl
  have mine := segments_devicePath root nameSegment canonical
  have found : kubeletBlockDeviceRe.search path.toList = some [name, uid] := by
    rw [whole]
    apply Regexp.search_eq_some read
    intro front word rest groups split other
    obtain ⟨uid', name', rfl, segments'⟩ := deviceSegments_of_reads front other
    rw [← split, ← whole, made] at segments'
    obtain ⟨rfl, rfl⟩ := mine.unique segments'
    rfl
  rw [parseKubeletBlockDevicePath, found]

theorem volumeSegments_of_parse {path : String} {podUID pvName : String}
    (parsed : parseKubeletVolumePath path = some (podUID, pvName)) :
    VolumeSegments path.toList podUID.toList pvName.toList := by
  rw [parseKubeletVolumePath] at parsed
  split at parsed
  next uid name found =>
    obtain ⟨front, word, rest, split, read⟩ := Regexp.exists_of_search found
    obtain ⟨uid', name', same, segments'⟩ := volumeSegments_of_reads front read
    obtain ⟨rfl, rfl⟩ := Prod.mk.inj (Option.some.inj parsed)
    simp only [List.cons.injEq, and_true] at same
    rw [split, String.toList_ofList, String.toList_ofList, same.1, same.2]
    exact segments'
  next => cases parsed

theorem deviceSegments_of_parse {path : String} {podUID pvName : String}
    (parsed : parseKubeletBlockDevicePath path = some (podUID, pvName)) :
    DeviceSegments path.toList podUID.toList pvName.toList := by
  rw [parseKubeletBlockDevicePath] at parsed
  split at parsed
  next name uid found =>
    obtain ⟨front, word, rest, split, read⟩ := Regexp.exists_of_search found
    obtain ⟨uid', name', same, segments'⟩ := deviceSegments_of_reads front read
    obtain ⟨rfl, rfl⟩ := Prod.mk.inj (Option.some.inj parsed)
    simp only [List.cons.injEq, and_true] at same
    rw [split, String.toList_ofList, String.toList_ofList, same.1, same.2]
    exact segments'
  next => cases parsed

theorem parsers_exclusive (path : String) :
    parseKubeletVolumePath path = none ∨ parseKubeletBlockDevicePath path = none := by
  cases volume : parseKubeletVolumePath path with
  | none => exact .inl rfl
  | some pair =>
      cases device : parseKubeletBlockDevicePath path with
      | none => exact .inr rfl
      | some pair' =>
          exact absurd (deviceSegments_of_parse device)
            (volumeSegments_of_parse volume).not_device

/-- Any root, any plugin and any name that is one segment: the last segments of the
path decide. -/
theorem parse_kubelet_paths (root uid plugin name : String)
    (canonical : CanonicalUID uid.toList) (pluginSegment : PathSegment plugin.toList)
    (nameSegment : PathSegment name.toList) :
    parseKubeletVolumePath
        (root ++ "/pods/" ++ uid ++ "/volumes/" ++ plugin ++ "/" ++ name) =
      some (uid, name) ∧
    parseKubeletVolumePath
        (root ++ "/pods/" ++ uid ++ "/volumes/" ++ plugin ++ "/" ++ name ++ "/mount") =
      some (uid, name) ∧
    parseKubeletBlockDevicePath
        (root ++ "/volumeDevices/publish/" ++ name ++ "/" ++ uid) =
      some (uid, name) ∧
    ∀ path, parseKubeletVolumePath path = none ∨
      parseKubeletBlockDevicePath path = none := by
  have pods : "/pods/".toList = '/' :: (podsSegment ++ ['/']) := by decide
  have volumes : "/volumes/".toList = '/' :: (volumesSegment ++ ['/']) := by decide
  have publish : "/volumeDevices/publish/".toList =
      '/' :: (devicesSegment ++ '/' :: (publishSegment ++ ['/'])) := by decide
  have mount : "/mount".toList = '/' :: mountSegment := by decide
  have slash : "/".toList = ['/'] := by decide
  have whole : some (uid, name) =
      some (String.ofList uid.toList, String.ofList name.toList) := by
    rw [String.ofList_toList, String.ofList_toList]
  rw [whole]
  refine ⟨?_, ?_, ?_, parsers_exclusive⟩
  · apply parseKubeletVolumePath_volumePath root.toList [] ?_ canonical pluginSegment
      nameSegment (.inl rfl)
    simp only [String.toList_append, pods, volumes, slash]
    simp [volumePath]
  · apply parseKubeletVolumePath_volumePath root.toList _ ?_ canonical pluginSegment
      nameSegment (.inr rfl)
    simp only [String.toList_append, pods, volumes, slash, mount]
    simp [volumePath]
  · apply parseKubeletBlockDevicePath_devicePath root.toList ?_ nameSegment canonical
    simp only [String.toList_append, publish, slash]
    simp [devicePath]

/-- A volume named "mount" under a root that looks like a volume itself. -/
theorem parse_kubelet_paths_mount :
    parseKubeletVolumePath
        ("/pods/0a000000-0000-0000-0000-00000000000a/volumes/csi/x" ++ "/pods/" ++
          "0b000000-0000-0000-0000-00000000000b" ++ "/volumes/" ++ "mount" ++ "/" ++
          "mount" ++ "/mount") =
      some ("0b000000-0000-0000-0000-00000000000b", "mount") :=
  (parse_kubelet_paths _ _ _ _ (by decide) (by decide) (by decide)).2.1

end KubevirtMetrics.Device
