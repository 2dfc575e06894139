import Mathlib.Data.Rat.Defs
import KubevirtMetrics.Data.Regexp

namespace KubevirtMetrics.Qmp

open Data

/-! `types.go`: the answers of QEMU and the names in its device paths. -/

structure LatencyHist where
  boundaries : List ℚ
  bins : List UInt64
  deriving DecidableEq

structure BlockStats where
  rdTotalTimeNs : UInt64
  wrTotalTimeNs : UInt64
  flushTotalTimeNs : UInt64
  rdLatencyHistogram : Option LatencyHist
  wrLatencyHistogram : Option LatencyHist
  flushLatencyHistogram : Option LatencyHist
  deriving DecidableEq

inductive BlockDevice
  | mk (qdev : String) (stats : BlockStats) (backing : Option BlockDevice)

def BlockDevice.stats : BlockDevice → BlockStats
  | .mk _ stats _ => stats

def BlockDevice.effectiveQDev : BlockDevice → String
  | .mk qdev _ backing =>
      if qdev ≠ "" then qdev
      else
        match backing with
        | some device => device.effectiveQDev
        | none => ""

def hasHistograms (dev : BlockDevice) : Bool :=
  dev.stats.rdLatencyHistogram.isSome

structure VirtioDevice where
  path : String
  name : String
  deriving DecidableEq

structure VirtQueueStatus where
  inuse : UInt32
  vringNum : UInt32

/-- `^/machine/peripheral/(ua-(.+?)/.+)$` -/
def virtioRegex : Regexp :=
  .concat [.literal "/machine/peripheral/".toList,
    .group (.concat [.literal "ua-".toList,
      .group (.plus false Regexp.anyChar), .literal "/".toList,
      .plus true Regexp.anyChar]),
    .endOfText]

/-- `^ua-(.+)$` -/
def flatRegex : Regexp :=
  .concat [.literal "ua-".toList, .group (.plus true Regexp.anyChar),
    .endOfText]

/-- `^/machine/peripheral/([^/]+)/` -/
def peripheralNameRegex : Regexp :=
  .concat [.literal "/machine/peripheral/".toList,
    .group (.plus true fun c => c != '/'), .literal "/".toList]

def extractDiskInfo (qdev : String) : Option (String × String) :=
  match virtioRegex.matchAtStart qdev.toList with
  | some [deviceID, disk] =>
      some (String.ofList disk, String.ofList deviceID)
  | _ =>
      match flatRegex.matchAtStart qdev.toList with
      | some [disk] => some (String.ofList disk, qdev)
      | _ => none

def extractControllerName (path : String) : Option String :=
  match peripheralNameRegex.matchAtStart path.toList with
  | some [name] =>
      let name := if "ua-".toList.isPrefixOf name then name.drop 3 else name
      some (String.ofList name)
  | _ => none

def isVirtioBlk (dev : VirtioDevice) : Bool :=
  "virtio-blk".toList.isPrefixOf dev.name.toList

def isVirtioScsi (dev : VirtioDevice) : Bool :=
  "virtio-scsi".toList.isPrefixOf dev.name.toList

example :
    extractDiskInfo "/machine/peripheral/ua-rootdisk/virtio-backend" =
      some ("rootdisk", "ua-rootdisk/virtio-backend") := by
  decide +kernel

end KubevirtMetrics.Qmp
