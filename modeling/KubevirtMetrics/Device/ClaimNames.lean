import KubevirtMetrics.Device.Resolver

namespace KubevirtMetrics.Device

open Data Cluster

/-! The claims that devices are labelled with.  `spec.volumeName` can be set in any
namespace, and the index returns the claims of a volume in no particular order. -/

def pvcByPVIndexFunc (pvc : PersistentVolumeClaim) : List String :=
  if pvc.volumeName = "" then [] else [pvc.volumeName]

/-- An index over the claims: for each volume it has the claims on it, in some
order. -/
def Serves (byIndex : String → Option (List PersistentVolumeClaim))
    (claims : List PersistentVolumeClaim) : Prop :=
  ∀ pvName items, byIndex pvName = some items →
    items.Perm (claims.filter fun pvc => pvName ∈ pvcByPVIndexFunc pvc)

/-- The claim that the index has first for a volume. -/
def claimOn (host : Host) (pvName : String) : Option PersistentVolumeClaim :=
  host.pvcIndexer.bind fun byIndex => (byIndex pvName).bind List.head?

/-- Two volumes under one name. -/
inductive SharesName (host : Host) (pvName other : String) : Prop
  | claims {claim claim' : PersistentVolumeClaim}
      (first : claimOn host pvName = some claim)
      (second : claimOn host other = some claim')
      (same : claim.name = claim'.name)
  /-- A claim has the name of a volume without claims, such as an inline one. -/
  | claimOfFirst {claim : PersistentVolumeClaim}
      (first : claimOn host pvName = some claim)
      (second : claimOn host other = none) (same : claim.name = other)
  | claimOfSecond {claim : PersistentVolumeClaim}
      (first : claimOn host pvName = none)
      (second : claimOn host other = some claim) (same : pvName = claim.name)
  | unclaimed (first : claimOn host pvName = none)
      (second : claimOn host other = none) (same : pvName = other)

theorem resolvePVCName_eq (host : Host) (pvName : String) :
    resolvePVCName host pvName =
      (claimOn host pvName).elim pvName PersistentVolumeClaim.name := by
  unfold resolvePVCName claimOn
  cases host.pvcIndexer with
  | none => rfl
  | some byIndex =>
      rw [Option.bind_some]
      dsimp only
      cases byIndex pvName with
      | none => rfl
      | some items => cases items <;> rfl

theorem sharesName_iff (host : Host) (pvName other : String) :
    SharesName host pvName other ↔
      resolvePVCName host pvName = resolvePVCName host other := by
  rw [resolvePVCName_eq, resolvePVCName_eq]
  constructor
  · intro shared
    cases shared with
    | claims first second same => rw [first, second]; exact same
    | claimOfFirst first second same => rw [first, second]; exact same
    | claimOfSecond first second same => rw [first, second]; exact same
    | unclaimed first second same => rw [first, second]; exact same
  · intro same
    cases first : claimOn host pvName with
    | some claim =>
        cases second : claimOn host other with
        | some claim' =>
            rw [first, second] at same
            exact .claims first second same
        | none =>
            rw [first, second] at same
            exact .claimOfFirst first second same
    | none =>
        cases second : claimOn host other with
        | some claim' =>
            rw [first, second] at same
            exact .claimOfSecond first second same
        | none =>
            rw [first, second] at same
            exact .unclaimed first second same

/-- `name` is the volume's own, or that of a claim on it in the namespace. -/
def OwnName (claims : List PersistentVolumeClaim)
    (namespace_ pvName name : String) : Prop :=
  name = pvName ∨ ∃ claim ∈ claims, claim.namespace_ = namespace_ ∧
    claim.volumeName = pvName ∧ claim.name = name

/-- The device is labelled with a name that its pod's namespace has for the volume
behind the mount. -/
def OwnClaim (claims : List PersistentVolumeClaim) (info : DeviceInfo) : Prop :=
  ∀ podUID pvName isBlock,
    parseKubeletPath info.mountPath = some (podUID, pvName, isBlock) →
      OwnName claims info.namespace_ pvName info.pvcName

namespace Resolver

theorem mountTarget_volume {resolver : Resolver} {host : Host} {m : MountEntry}
    {dev : UInt32} {pvName : String} {podMeta : PodMeta}
    (target : resolver.mountTarget host m = some (dev, pvName, podMeta)) :
    ∃ podUID isBlock,
      parseKubeletPath m.mountPoint = some (podUID, pvName, isBlock) := by
  obtain ⟨⟨podUID, pvName, isBlock⟩, parsed, rest⟩ :=
    Option.bind_eq_some_iff.mp target
  obtain ⟨dev, -, rest⟩ := Option.bind_eq_some_iff.mp rest
  obtain ⟨podMeta, -, same⟩ := Option.map_eq_some_iff.mp rest
  simp only [Prod.mk.injEq] at same
  obtain ⟨-, rfl, -⟩ := same
  exact ⟨podUID, isBlock, parsed⟩

/-- The mount that decides what a device is labelled with: the last one on it. -/
def Decides (resolver : Resolver) (host : Host) (mounts : List MountEntry)
    (dev : UInt32) (m : MountEntry) : Prop :=
  ∃ front back, mounts = front ++ m :: back ∧ ∀ later ∈ back, ∀ rest,
    resolver.mountTarget host later ≠ some (dev, rest)

/-- Whichever claim on the volume comes first, its name is one that the pod's
namespace has for the volume. -/
def ClaimsAgree (resolver : Resolver) (host : Host)
    (mounts : List MountEntry) (claims : List PersistentVolumeClaim) : Prop :=
  ∀ dev m pvName podMeta, resolver.Decides host mounts dev m →
    resolver.mountTarget host m = some (dev, pvName, podMeta) →
      ∀ claim ∈ claims, pvName ∈ pvcByPVIndexFunc claim →
        OwnName claims podMeta.namespace_ pvName claim.name

theorem lookup_scan_iff {resolver : Resolver} {host : Host}
    {mounts : List MountEntry} (parsed : parseMountInfo host.mountInfo = .ok mounts)
    (byIndex : String → Option (List PersistentVolumeClaim)) (dev : UInt32)
    (info : DeviceInfo) :
    (resolver.scan { host with pvcIndexer := some byIndex }).lookup dev =
        some info ↔
      ∃ m pvName podMeta, resolver.Decides host mounts dev m ∧
        resolver.mountTarget host m = some (dev, pvName, podMeta) ∧
          info = resolver.deviceInfo { host with pvcIndexer := some byIndex } m
            pvName podMeta := by
  have target : ∀ m, resolver.mountTarget
      { host with pvcIndexer := some byIndex } m =
        resolver.mountTarget host m := fun _ => rfl
  rw [lookup, scan, parsed]
  refine (lookup_deviceMap_iff resolver _ mounts dev info).trans ?_
  simp only [IsLast, onDevice_iff, resolveMount_eq, target]
  constructor
  · rintro ⟨m, ⟨-, front, back, split, last⟩, resolved⟩
    obtain ⟨⟨dev, pvName, podMeta⟩, here, same⟩ :=
      Option.map_eq_some_iff.mp resolved
    obtain ⟨rfl, rfl⟩ := Prod.mk.inj same
    refine ⟨m, pvName, podMeta, ⟨front, back, split, ?_⟩, here, rfl⟩
    intro later member rest there
    exact last later member ⟨_, Option.map_eq_some_iff.mpr ⟨_, there, rfl⟩⟩
  · rintro ⟨m, pvName, podMeta, ⟨front, back, split, last⟩, here, rfl⟩
    refine ⟨m, ⟨⟨_, Option.map_eq_some_iff.mpr ⟨_, here, rfl⟩⟩, front, back,
      split, ?_⟩, Option.map_eq_some_iff.mpr ⟨_, here, rfl⟩⟩
    rintro later member ⟨other, resolved⟩
    obtain ⟨⟨dev, rest⟩, there, same⟩ := Option.map_eq_some_iff.mp resolved
    obtain ⟨rfl, -⟩ := Prod.mk.inj same
    exact last later member rest there

theorem resolvePVCName_own (host : Host) {claims : List PersistentVolumeClaim}
    {byIndex : String → Option (List PersistentVolumeClaim)}
    (serves : Serves byIndex claims) {namespace_ pvName : String}
    (agree : ∀ claim ∈ claims, pvName ∈ pvcByPVIndexFunc claim →
      OwnName claims namespace_ pvName claim.name) :
    OwnName claims namespace_ pvName
      (resolvePVCName { host with pvcIndexer := some byIndex } pvName) := by
  simp only [resolvePVCName]
  split
  next pvc others served =>
    have first := (serves pvName _ served).mem_iff.mp List.mem_cons_self
    obtain ⟨member, indexed⟩ := List.mem_filter.mp first
    exact agree pvc member (of_decide_eq_true indexed)
  next => exact .inl rfl

/-- Any claim on a volume can come first. -/
theorem exists_serves_first {claims : List PersistentVolumeClaim}
    {claim : PersistentVolumeClaim} (member : claim ∈ claims)
    {pvName : String} (indexed : pvName ∈ pvcByPVIndexFunc claim) :
    ∃ byIndex, Serves byIndex claims ∧
      ∃ others, byIndex pvName = some (claim :: others) := by
  have listed : claim ∈ claims.filter fun pvc =>
      pvName ∈ pvcByPVIndexFunc pvc :=
    List.mem_filter.mpr ⟨member, decide_eq_true indexed⟩
  obtain ⟨front, back, split⟩ := List.append_of_mem listed
  refine ⟨fun name => some (if name = pvName then claim :: (front ++ back)
    else claims.filter fun pvc => name ∈ pvcByPVIndexFunc pvc), ?_, front ++ back,
    by simp⟩
  intro name items served
  rw [← Option.some.inj served]
  split
  next same =>
    rw [same, split]
    exact List.perm_middle.symm
  next => exact List.Perm.refl _

/-- Whatever order the index has: a scan labels every device with a name of its
pod's namespace exactly when every claim on the volume, in any namespace, has such
a name. -/
theorem scan_ownClaim_iff (resolver : Resolver) (host : Host)
    (claims : List PersistentVolumeClaim) (mounts : List MountEntry)
    (parsed : parseMountInfo host.mountInfo = .ok mounts) :
    (∀ byIndex, Serves byIndex claims → ∀ dev info,
      (resolver.scan { host with pvcIndexer := some byIndex }).lookup dev =
        some info → OwnClaim claims info) ↔
      resolver.ClaimsAgree host mounts claims := by
  constructor
  · intro own dev m pvName podMeta decides target claim member indexed
    obtain ⟨byIndex, serves, others, first⟩ := exists_serves_first member indexed
    obtain ⟨podUID, isBlock, path⟩ := mountTarget_volume target
    have labelled := own byIndex serves dev _
      ((lookup_scan_iff parsed byIndex dev _).mpr
        ⟨m, pvName, podMeta, decides, target, rfl⟩) podUID pvName isBlock path
    simpa [deviceInfo, resolvePVCName, first] using labelled
  · intro agree byIndex serves dev info found podUID pvName isBlock path
    obtain ⟨m, volume, podMeta, decides, target, rfl⟩ :=
      (lookup_scan_iff parsed byIndex dev info).mp found
    obtain ⟨uid, block, path'⟩ := mountTarget_volume target
    obtain ⟨-, rfl, -⟩ : uid = podUID ∧ volume = pvName ∧ block = isBlock := by
      simpa using path'.symm.trans path
    exact resolvePVCName_own host serves
      (agree dev m volume podMeta decides target)

/-! A volume of tenant-a's pod, and a claim on it that tenant-b made up. -/

def tenantHost : Host where
  mountInfo := some ("100 50 0:45 / /var/lib/kubelet/pods/" ++ podA.uid ++
    "/volumes/kubernetes.io~csi/pv-1/mount rw - ext4 /dev/sda rw\n").toList
  stat _ := none
  podStore := some [podA, podB]
  pvcIndexer := none

def ownClaim : PersistentVolumeClaim := ⟨"data", "tenant-a", "pv-1"⟩

def foreignClaim : PersistentVolumeClaim := ⟨"made-up", "tenant-b", "pv-1"⟩

def tenantMount : MountEntry where
  mountID := 100
  parentID := 50
  major := 0
  minor := 45
  root := "/"
  mountPoint := "/var/lib/kubelet/pods/" ++ podA.uid ++
    "/volumes/kubernetes.io~csi/pv-1/mount"
  fsType := "ext4"
  source := "/dev/sda"

theorem parse_tenantHost :
    parseMountInfo tenantHost.mountInfo = .ok [tenantMount] := by
  decide +kernel

theorem path_tenantMount :
    parseKubeletPath tenantMount.mountPoint = some (podA.uid, "pv-1", false) := by
  decide +kernel

theorem target_tenantMount :
    nodeResolver.mountTarget tenantHost tenantMount =
      some (mkDev 0 45, "pv-1", ⟨podA.name, podA.namespace_⟩) := by
  rw [mountTarget, path_tenantMount]
  rfl

theorem decides_tenantMount : nodeResolver.Decides tenantHost [tenantMount]
    (mkDev 0 45) tenantMount :=
  ⟨[], [], rfl, by simp⟩

theorem own_claim_is_attached :
    ∃ info, (nodeResolver.scan { tenantHost with
        pvcIndexer := some fun pvName =>
          if pvName = "pv-1" then some [ownClaim] else none }).lookup
            (mkDev 0 45) = some info ∧
      info.pvcName = "data" ∧ OwnClaim [ownClaim] info := by
  have serves : Serves (fun pvName => if pvName = "pv-1" then some [ownClaim]
      else none) [ownClaim] := by
    intro pvName items served
    rw [Option.ite_none_right_eq_some] at served
    obtain ⟨rfl, same⟩ := served
    rw [← Option.some.inj same]
    exact List.Perm.refl _
  have agree : nodeResolver.ClaimsAgree tenantHost [tenantMount] [ownClaim] := by
    rintro dev m pvName podMeta ⟨front, back, split, -⟩ target claim member -
    obtain rfl : tenantMount = m := by
      have listed : m ∈ [tenantMount] := split ▸ by simp
      exact (List.mem_singleton.mp listed).symm
    rw [target_tenantMount] at target
    obtain ⟨-, rfl, rfl⟩ : mkDev 0 45 = dev ∧ "pv-1" = pvName ∧
        ⟨podA.name, podA.namespace_⟩ = podMeta := by
      simpa using target
    exact .inr ⟨ownClaim, List.mem_singleton_self _, rfl, rfl,
      congrArg PersistentVolumeClaim.name (List.mem_singleton.mp member).symm⟩
  have found := (lookup_scan_iff parse_tenantHost
    (fun pvName => if pvName = "pv-1" then some [ownClaim] else none) _ _).mpr
      ⟨tenantMount, "pv-1", _, decides_tenantMount, target_tenantMount, rfl⟩
  exact ⟨_, found, rfl, (scan_ownClaim_iff nodeResolver tenantHost [ownClaim]
    [tenantMount] parse_tenantHost).mpr agree _ serves _ _ found⟩

/-- With tenant-b's claim first, the device of tenant-a's pod gets its name. -/
theorem foreign_claim_is_attached :
    Serves (fun pvName => if pvName = "pv-1" then some [foreignClaim, ownClaim]
      else none) [ownClaim, foreignClaim] ∧
    ∃ info, (nodeResolver.scan { tenantHost with
        pvcIndexer := some fun pvName =>
          if pvName = "pv-1" then some [foreignClaim, ownClaim]
          else none }).lookup (mkDev 0 45) = some info ∧
      info.namespace_ = "tenant-a" ∧ info.pvcName = "made-up" ∧
        ¬ OwnClaim [ownClaim, foreignClaim] info := by
  constructor
  · intro pvName items served
    rw [Option.ite_none_right_eq_some] at served
    obtain ⟨rfl, same⟩ := served
    rw [← Option.some.inj same]
    exact List.Perm.swap _ _ []
  · refine ⟨_, (lookup_scan_iff parse_tenantHost _ _ _).mpr
      ⟨tenantMount, "pv-1", _, decides_tenantMount, target_tenantMount, rfl⟩, rfl,
      rfl, ?_⟩
    intro own
    rcases own podA.uid "pv-1" false path_tenantMount with
      same | ⟨claim, member, here, -, name⟩
    · exact absurd same (by decide)
    · simp only [List.mem_cons, List.not_mem_nil, or_false] at member
      rcases member with rfl | rfl
      · exact absurd name (by decide)
      · exact absurd here (by decide)

end Resolver

end KubevirtMetrics.Device
