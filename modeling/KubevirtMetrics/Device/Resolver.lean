import KubevirtMetrics.Cluster.Objects
import KubevirtMetrics.Data.Regexp
import KubevirtMetrics.Device.ProcMounts

namespace KubevirtMetrics.Device

open Data Cluster

/-! `resolver.go`: from the mount table of the host to the volume behind a device
number. -/

structure DeviceInfo where
  pvcName : String
  podName : String
  namespace_ : String
  nodeName : String
  mountPath : String
  devPath : String
  isNFS : Bool
  deriving DecidableEq

def mkDev (major minor : UInt32) : UInt32 := (major <<< 20) ||| minor

def devToString (dev : UInt32) : String :=
  let major := dev >>> 20
  let minor := dev &&& (((1 : UInt32) <<< 20) - 1)
  toString major.toNat ++ ":" ++ toString minor.toNat

theorem devToString_injective : Function.Injective devToString := by
  intro dev other same
  have chars := congrArg String.toList same
  have colon : ":".toList = [':'] := by decide
  simp only [devToString, String.toList_append, colon, List.append_assoc,
    List.singleton_append] at chars
  have absent : ∀ n : Nat, ∀ c ∈ (toString n).toList, c ≠ ':' :=
    fun _ => Text.toString_ne_of_not_digit (by decide)
  obtain ⟨majorDigits, minorDigits⟩ :=
    Text.append_cons_inj (absent _) (absent _) chars
  have major := Text.toList_toString_inj majorDigits
  have minor := Text.toList_toString_inj minorDigits
  have mask : (((1 : UInt32) <<< 20) - 1).toNat = 2 ^ 20 - 1 := by decide
  have shift : (20 : UInt32).toNat % 32 = 20 := by decide
  simp only [UInt32.toNat_shiftRight, UInt32.toNat_and, mask, shift,
    Nat.and_two_pow_sub_one_eq_mod, Nat.shiftRight_eq_div_pow] at major minor
  apply UInt32.toNat_inj.mp
  omega

/-! ### Kubelet paths -/

def isHexDigit (c : Char) : Bool :=
  ('0' ≤ c && c ≤ '9') || ('a' ≤ c && c ≤ 'f')

def podUIDRe : Regexp :=
  .concat [.times isHexDigit 8, .literal ['-'], .times isHexDigit 4,
    .literal ['-'], .times isHexDigit 4, .literal ['-'],
    .times isHexDigit 4, .literal ['-'], .times isHexDigit 12]

def notSlash (c : Char) : Bool := c != '/'

/-- Filesystem-mode volumes:
`.../pods/<pod-uid>/volumes/<plugin>/<pv-name>[/mount]`. -/
def kubeletVolumeRe : Regexp :=
  .concat [.many true Regexp.anyChar, .literal "/pods/".toList,
    .group podUIDRe, .literal "/volumes/".toList, .plus true notSlash,
    .literal "/".toList, .group (.plus true notSlash),
    .opt (.literal "/mount".toList), .endOfText]

/-- Block-mode volumes: `.../volumeDevices/publish/<pv-name>/<pod-uid>`. -/
def kubeletBlockDeviceRe : Regexp :=
  .concat [.many true Regexp.anyChar,
    .literal "/volumeDevices/publish/".toList, .group (.plus true notSlash),
    .literal "/".toList, .group podUIDRe, .endOfText]

def parseKubeletVolumePath (mountPoint : String) : Option (String × String) :=
  match kubeletVolumeRe.search mountPoint.toList with
  | some [podUID, pvName] => some (String.ofList podUID, String.ofList pvName)
  | _ => none

def parseKubeletBlockDevicePath (mountPoint : String) :
    Option (String × String) :=
  match kubeletBlockDeviceRe.search mountPoint.toList with
  | some [pvName, podUID] => some (String.ofList podUID, String.ofList pvName)
  | _ => none

/-! ### What a scan reads -/

structure Stat where
  mode : UInt32
  rdev : UInt64

/-- What the host and the cluster answer while a scan runs.  Answers are absent
where the call fails, and stores where they are nil. -/
structure Host where
  mountInfo : Option (List Char)
  stat : String → Option Stat
  podStore : Option (List Pod)
  pvcIndexer : Option (String → Option (List PersistentVolumeClaim))

def sIFBLK : UInt32 := 0x6000

def statBlockDevice (host : Host) (path : String) : Option UInt32 :=
  match host.stat path with
  | none => none
  | some stat =>
      if stat.mode &&& sIFBLK = 0 then none
      else
        let major : UInt64 := (stat.rdev >>> 8) &&& 0xfff
        let minor : UInt64 :=
          (stat.rdev &&& (0xff : UInt64)) |||
            ((stat.rdev >>> 12) &&& (0xfff00 : UInt64))
        some (mkDev major.toUInt32 minor.toUInt32)

structure PodMeta where
  name : String
  namespace_ : String

def podMetaMap (host : Host) : Table String PodMeta :=
  match host.podStore with
  | none => ∅
  | some pods =>
      Table.insertAll ∅ (pods.map fun pod =>
        (pod.uid, ⟨pod.name, pod.namespace_⟩))

def resolvePVCName (host : Host) (pvName : String) : String :=
  match host.pvcIndexer with
  | none => pvName
  | some byIndex =>
      match byIndex pvName with
      | some (pvc :: _) => pvc.name
      | _ => pvName

/-! ### Scanning -/

structure Resolver where
  devices : Table UInt32 DeviceInfo
  nodeName : String
  procPath : String

/-- The pod UID and volume name of a kubelet path, and whether it is a block-mode
volume. -/
def parseKubeletPath (mountPoint : String) : Option (String × String × Bool) :=
  match parseKubeletBlockDevicePath mountPoint with
  | some (podUID, pvName) => some (podUID, pvName, true)
  | none =>
      match parseKubeletVolumePath mountPoint with
      | some (podUID, pvName) => some (podUID, pvName, false)
      | none => none

namespace Resolver

def deviceNumber (resolver : Resolver) (host : Host) (m : MountEntry)
    (isBlock : Bool) : Option UInt32 :=
  if isBlock then
    statBlockDevice host (resolver.procPath ++ "/1/root" ++ m.mountPoint)
  else
    some (mkDev m.major m.minor)

/-- The body of the loop of `scan`: the entry one mount adds to the map. -/
def resolveMount (resolver : Resolver) (host : Host) (m : MountEntry) :
    Option (UInt32 × DeviceInfo) :=
  match parseKubeletPath m.mountPoint with
  | none => none
  | some (podUID, pvName, isBlock) =>
      match resolver.deviceNumber host m isBlock with
      | none => none
      | some dev =>
          match (podMetaMap host).lookup podUID with
          | none => none
          | some podMeta =>
              some (dev, {
                pvcName := resolvePVCName host pvName
                podName := podMeta.name
                namespace_ := podMeta.namespace_
                nodeName := resolver.nodeName
                mountPath := m.mountPoint
                devPath := m.source
                isNFS := m.fsType == "nfs" || m.fsType == "nfs4" })

def deviceMap (resolver : Resolver) (host : Host) (mounts : List MountEntry) :
    Table UInt32 DeviceInfo :=
  Table.insertAll ∅ (mounts.filterMap (resolver.resolveMount host))

def withMounts (resolver : Resolver) (host : Host) (mounts : List MountEntry) :
    Resolver :=
  { resolver with devices := resolver.deviceMap host mounts }

def scan (resolver : Resolver) (host : Host) : Resolver :=
  match parseMountInfo host.mountInfo with
  | .error _ => resolver
  | .ok mounts => resolver.withMounts host mounts

def lookup (resolver : Resolver) (dev : UInt32) : Option DeviceInfo :=
  resolver.devices.lookup dev

/-! ### What a mount stands for -/

/-- Before its claim is looked up: the device, the volume, and the pod. -/
def mountTarget (resolver : Resolver) (host : Host) (m : MountEntry) :
    Option (UInt32 × String × PodMeta) :=
  (parseKubeletPath m.mountPoint).bind fun (podUID, pvName, isBlock) =>
    (resolver.deviceNumber host m isBlock).bind fun dev =>
      ((podMetaMap host).lookup podUID).map fun podMeta => (dev, pvName, podMeta)

def deviceInfo (resolver : Resolver) (host : Host) (m : MountEntry)
    (pvName : String) (podMeta : PodMeta) : DeviceInfo where
  pvcName := resolvePVCName host pvName
  podName := podMeta.name
  namespace_ := podMeta.namespace_
  nodeName := resolver.nodeName
  mountPath := m.mountPoint
  devPath := m.source
  isNFS := m.fsType == "nfs" || m.fsType == "nfs4"

theorem resolveMount_eq (resolver : Resolver) (host : Host) (m : MountEntry) :
    resolver.resolveMount host m =
      (resolver.mountTarget host m).map fun target =>
        (target.1, resolver.deviceInfo host m target.2.1 target.2.2) := by
  unfold resolveMount mountTarget
  cases parseKubeletPath m.mountPoint with
  | none => rfl
  | some path =>
      obtain ⟨podUID, pvName, isBlock⟩ := path
      simp only [Option.bind_some]
      cases resolver.deviceNumber host m isBlock with
      | none => rfl
      | some dev =>
          simp only [Option.bind_some]
          cases (podMetaMap host).lookup podUID with
          | none => rfl
          | some podMeta => rfl

end Resolver

/-- The pod of the store with a UID; of several the last one counts. -/
def PodOf (host : Host) (uid : String) (pod : Pod) : Prop :=
  IsLast (fun pod => pod.uid = uid) (host.podStore.getD []) pod

theorem lookup_podMetaMap_iff {host : Host} {uid : String} {podMeta : PodMeta} :
    (podMetaMap host).lookup uid = some podMeta ↔
      ∃ pod, PodOf host uid pod ∧ podMeta = ⟨pod.name, pod.namespace_⟩ := by
  have listed : podMetaMap host = Table.insertAll ∅
      ((host.podStore.getD []).filterMap fun pod =>
        some (pod.uid, (⟨pod.name, pod.namespace_⟩ : PodMeta))) := by
    unfold podMetaMap
    cases host.podStore with
    | none => rfl
    | some pods => rw [List.filterMap_eq_map']; rfl
  rw [listed, Table.lookup_insertAll_filterMap]
  simp only [Option.some.injEq, Prod.mk.injEq, exists_and_left,
    exists_eq', and_true]
  apply exists_congr
  intro pod
  constructor
  · rintro ⟨last, -, same⟩
    exact ⟨last, same.symm⟩
  · rintro ⟨last, same⟩
    exact ⟨last, last.1, same.symm⟩

def MountEntry.onNFS (m : MountEntry) : Bool :=
  m.fsType == "nfs" || m.fsType == "nfs4"

namespace Resolver

/-- The mount has a volume of a pod of the store on a device. -/
def Mounts (resolver : Resolver) (host : Host) (m : MountEntry) (dev : UInt32)
    (pvName : String) (pod : Pod) : Prop :=
  ∃ isBlock, parseKubeletPath m.mountPoint = some (pod.uid, pvName, isBlock) ∧
    resolver.deviceNumber host m isBlock = some dev ∧ PodOf host pod.uid pod

/-- The mount has some volume on the device. -/
def OnDevice (resolver : Resolver) (host : Host) (dev : UInt32)
    (m : MountEntry) : Prop :=
  ∃ pvName pod, resolver.Mounts host m dev pvName pod

theorem resolveMount_eq_some_iff {resolver : Resolver} {host : Host}
    {m : MountEntry} {dev : UInt32} {info : DeviceInfo} :
    resolver.resolveMount host m = some (dev, info) ↔
      ∃ pvName pod, resolver.Mounts host m dev pvName pod ∧
        info = resolver.deviceInfo host m pvName ⟨pod.name, pod.namespace_⟩ := by
  simp only [resolveMount_eq, mountTarget, Option.map_eq_some_iff,
    Option.bind_eq_some_iff, lookup_podMetaMap_iff]
  constructor
  · rintro ⟨_, ⟨⟨uid, pvName, isBlock⟩, path, _, device, _, ⟨pod, behind, rfl⟩,
      rfl⟩, same⟩
    obtain ⟨rfl, rfl⟩ := Prod.mk.inj same
    obtain rfl := behind.1
    exact ⟨pvName, pod, ⟨isBlock, path, device, behind⟩, rfl⟩
  · rintro ⟨pvName, pod, ⟨isBlock, path, device, behind⟩, rfl⟩
    exact ⟨_, ⟨_, path, dev, device, _, ⟨pod, behind, rfl⟩, rfl⟩, rfl⟩

theorem onDevice_iff {resolver : Resolver} {host : Host} {dev : UInt32}
    {m : MountEntry} : resolver.OnDevice host dev m ↔
      ∃ info, resolver.resolveMount host m = some (dev, info) := by
  simp only [resolveMount_eq_some_iff]
  constructor
  · rintro ⟨pvName, pod, mounts⟩
    exact ⟨_, pvName, pod, mounts, rfl⟩
  · rintro ⟨_, pvName, pod, mounts, -⟩
    exact ⟨pvName, pod, mounts⟩

/-- The last mount on a device decides what the device resolves to. -/
theorem lookup_deviceMap_iff (resolver : Resolver) (host : Host)
    (mounts : List MountEntry) (dev : UInt32) (info : DeviceInfo) :
    (resolver.deviceMap host mounts).lookup dev = some info ↔
      ∃ m, IsLast (resolver.OnDevice host dev) mounts m ∧
        resolver.resolveMount host m = some (dev, info) := by
  rw [deviceMap, Table.lookup_insertAll_filterMap]
  simp only [← onDevice_iff]

theorem lookup_deviceMap_eq_none_iff (resolver : Resolver) (host : Host)
    (mounts : List MountEntry) (dev : UInt32) :
    (resolver.deviceMap host mounts).lookup dev = none ↔
      ∀ m ∈ mounts, ¬ resolver.OnDevice host dev m := by
  constructor
  · intro missing m member here
    obtain ⟨last, final⟩ := exists_isLast member here
    obtain ⟨info, resolved⟩ := onDevice_iff.mp final.1
    rw [(resolver.lookup_deviceMap_iff host mounts dev info).mpr
      ⟨last, final, resolved⟩] at missing
    cases missing
  · intro absent
    apply Option.eq_none_iff_forall_ne_some.mpr
    intro info found
    obtain ⟨m, final, -⟩ :=
      (resolver.lookup_deviceMap_iff host mounts dev info).mp found
    exact absent m final.mem final.1

/-- The last mount on a device, with the volume and the pod that it stands for. -/
def LastOn (resolver : Resolver) (host : Host) (mounts : List MountEntry)
    (dev : UInt32) (pvName : String) (pod : Pod) : Prop :=
  ∃ m, IsLast (resolver.OnDevice host dev) mounts m ∧
    resolver.Mounts host m dev pvName pod

/-- What a collection reads of the device comes from the last mount on it. -/
theorem exists_lookup_deviceMap_iff (resolver : Resolver) (host : Host)
    (mounts : List MountEntry) (dev : UInt32) (P : String → String → String → Prop) :
    (∃ info, (resolver.deviceMap host mounts).lookup dev = some info ∧
        P info.namespace_ info.podName info.pvcName) ↔
      ∃ pvName pod, resolver.LastOn host mounts dev pvName pod ∧
        P pod.namespace_ pod.name (resolvePVCName host pvName) := by
  simp only [lookup_deviceMap_iff, resolveMount_eq_some_iff]
  constructor
  · rintro ⟨_, ⟨m, final, pvName, pod, mounted, rfl⟩, holds⟩
    exact ⟨pvName, pod, ⟨m, final, mounted⟩, holds⟩
  · rintro ⟨pvName, pod, ⟨m, final, mounted⟩, holds⟩
    exact ⟨_, ⟨m, final, pvName, pod, mounted, rfl⟩, holds⟩

/-! ### Order of the mount table -/

def OrderIndependent (resolver : Resolver) (host : Host)
    (mounts : List MountEntry) : Prop :=
  ∀ reordered : List MountEntry, reordered.Perm mounts → ∀ dev,
    (resolver.deviceMap host reordered).lookup dev =
      (resolver.deviceMap host mounts).lookup dev

/-- Mounts on one device are at one place and of one source, all or none of them
on NFS. -/
def OneMountPerDevice (resolver : Resolver) (host : Host)
    (mounts : List MountEntry) : Prop :=
  ∀ first ∈ mounts, ∀ second ∈ mounts, ∀ dev,
    resolver.OnDevice host dev first → resolver.OnDevice host dev second →
      first.mountPoint = second.mountPoint ∧ first.source = second.source ∧
        first.onNFS = second.onNFS

/-- The place of a mount has the volume and the pod, so what else a device
resolves to is its source and whether it is on NFS. -/
theorem info_eq_iff {resolver : Resolver} {host : Host}
    {first second : MountEntry} {dev : UInt32} {info other : DeviceInfo}
    (resolved : resolver.resolveMount host first = some (dev, info))
    (resolved' : resolver.resolveMount host second = some (dev, other)) :
    info = other ↔ first.mountPoint = second.mountPoint ∧
      first.source = second.source ∧ first.onNFS = second.onNFS := by
  obtain ⟨pvName, pod, ⟨isBlock, path, -, behind⟩, rfl⟩ :=
    resolveMount_eq_some_iff.mp resolved
  obtain ⟨pvName', pod', ⟨isBlock', path', -, behind'⟩, rfl⟩ :=
    resolveMount_eq_some_iff.mp resolved'
  constructor
  · intro same
    exact ⟨congrArg DeviceInfo.mountPath same,
      congrArg DeviceInfo.devPath same, congrArg DeviceInfo.isNFS same⟩
  · rintro ⟨place, source, nfs⟩
    rw [place, path'] at path
    simp only [Option.some.injEq, Prod.mk.injEq] at path
    obtain ⟨uid, rfl, -⟩ := path
    rw [← uid] at behind
    obtain rfl := behind.unique behind'
    unfold MountEntry.onNFS at nfs
    unfold deviceInfo
    rw [place, source, nfs]

theorem lookup_deviceMap_of_oneMount {resolver : Resolver} {host : Host}
    {mounts : List MountEntry} (single : resolver.OneMountPerDevice host mounts)
    {m : MountEntry} (member : m ∈ mounts) {dev : UInt32} {info : DeviceInfo}
    (resolved : resolver.resolveMount host m = some (dev, info)) :
    (resolver.deviceMap host mounts).lookup dev = some info := by
  obtain ⟨last, final⟩ := exists_isLast member (onDevice_iff.mpr ⟨info, resolved⟩)
  obtain ⟨other, resolved'⟩ := onDevice_iff.mp final.1
  have same := (info_eq_iff resolved' resolved).mpr
    (single last final.mem m member dev final.1 (onDevice_iff.mpr ⟨info, resolved⟩))
  exact (resolver.lookup_deviceMap_iff host mounts dev info).mpr
    ⟨last, final, same ▸ resolved'⟩

theorem OneMountPerDevice.perm {resolver : Resolver} {host : Host}
    {mounts reordered : List MountEntry}
    (single : resolver.OneMountPerDevice host mounts)
    (perm : reordered.Perm mounts) :
    resolver.OneMountPerDevice host reordered := fun first firstMem second
    secondMem => single first (perm.mem_iff.mp firstMem) second
      (perm.mem_iff.mp secondMem)

theorem exists_perm_append_singleton {mounts : List MountEntry}
    {m : MountEntry} (member : m ∈ mounts) :
    ∃ others : List MountEntry, (others ++ [m]).Perm mounts := by
  obtain ⟨front, back, rfl⟩ := List.append_of_mem member
  exact ⟨front ++ back, by
    rw [List.append_assoc]
    exact (List.perm_append_singleton m back).append_left front⟩

/-- The last mount of the table decides for its device. -/
theorem lookup_deviceMap_append_singleton {resolver : Resolver} {host : Host}
    (mounts : List MountEntry) {m : MountEntry} {dev : UInt32}
    {info : DeviceInfo} (resolved : resolver.resolveMount host m =
      some (dev, info)) :
    (resolver.deviceMap host (mounts ++ [m])).lookup dev = some info :=
  (resolver.lookup_deviceMap_iff host (mounts ++ [m]) dev info).mpr
    ⟨m, ⟨onDevice_iff.mpr ⟨info, resolved⟩, mounts, [], rfl, by simp⟩, resolved⟩

theorem deviceMap_order_independent_iff (resolver : Resolver) (host : Host)
    (mounts : List MountEntry) :
    resolver.OrderIndependent host mounts ↔
      resolver.OneMountPerDevice host mounts := by
  constructor
  · intro independent first firstMem second secondMem dev onFirst onSecond
    obtain ⟨info, firstResolved⟩ := onDevice_iff.mp onFirst
    obtain ⟨other, secondResolved⟩ := onDevice_iff.mp onSecond
    -- Put each of the two mounts last in turn.
    obtain ⟨others, perm⟩ := exists_perm_append_singleton firstMem
    obtain ⟨others', perm'⟩ := exists_perm_append_singleton secondMem
    have firstLast := independent _ perm dev
    have secondLast := independent _ perm' dev
    rw [lookup_deviceMap_append_singleton others firstResolved] at firstLast
    rw [lookup_deviceMap_append_singleton others' secondResolved]
      at secondLast
    exact (info_eq_iff firstResolved secondResolved).mp
      (Option.some.inj (firstLast.trans secondLast.symm))
  · intro single reordered perm dev
    apply Option.ext
    intro info
    constructor
    · intro found
      obtain ⟨m, final, resolved⟩ :=
        (resolver.lookup_deviceMap_iff host reordered dev info).mp found
      exact lookup_deviceMap_of_oneMount single (perm.mem_iff.mp final.mem)
        resolved
    · intro found
      obtain ⟨m, final, resolved⟩ :=
        (resolver.lookup_deviceMap_iff host mounts dev info).mp found
      exact lookup_deviceMap_of_oneMount (single.perm perm)
        (perm.mem_iff.mpr final.mem) resolved

/-! Two pods that mount one NFS export share its superblock, and so its device
number. -/

def nodeResolver : Resolver := ⟨∅, "node-1", "/host/proc"⟩

def podA : Pod :=
  ⟨"virt-launcher-a", "tenant-a", "0a000000-0000-0000-0000-00000000000a",
    .running, ∅⟩

def podB : Pod :=
  ⟨"virt-launcher-b", "tenant-b", "0b000000-0000-0000-0000-00000000000b",
    .running, ∅⟩

def twoPodHost : Host where
  mountInfo := none
  stat _ := none
  podStore := some [podA, podB]
  pvcIndexer := none

def nfsMount (pod : Pod) : MountEntry where
  mountID := 100
  parentID := 50
  major := 0
  minor := 45
  root := "/"
  mountPoint := "/var/lib/kubelet/pods/" ++ pod.uid ++
    "/volumes/kubernetes.io~csi/nfs-vol/mount"
  fsType := "nfs4"
  source := "10.0.0.1:/export"

theorem shared_nfs_mount_depends_on_order :
    ¬ nodeResolver.OrderIndependent twoPodHost
      [nfsMount podA, nfsMount podB] := by
  intro independent
  have swapped := independent [nfsMount podB, nfsMount podA]
    (List.Perm.swap _ _ []) (mkDev 0 45)
  revert swapped
  decide +kernel

end Resolver

end KubevirtMetrics.Device
