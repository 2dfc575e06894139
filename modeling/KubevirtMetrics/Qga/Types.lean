import Mathlib.Data.Rat.Defs
import Mathlib.Algebra.Order.Ring.Rat
import KubevirtMetrics.Data.Text

namespace KubevirtMetrics.Qga

open Data

/-! `types.go` and the drive index of `diskmap.go`. -/

structure DiskCounters where
  name : String
  rdQueueLen : UInt64
  wrQueueLen : UInt64
  rdOps : UInt64
  wrOps : UInt64
  timestamp100ns : UInt64
  deriving DecidableEq

/-- Exact rationals stand for the floats. -/
structure DiskMetrics where
  name : String
  rdLatSec : ℚ
  wrLatSec : ℚ
  rdIOPS : ℚ
  wrIOPS : ℚ
  elapsedSec : ℚ
  deriving DecidableEq

def latencyAndRate (prevQueue currQueue prevOps currOps : UInt64)
    (elapsedSec : ℚ) : ℚ × ℚ :=
  let ops := currOps - prevOps
  if 0 < ops then
    ((currQueue - prevQueue).toNat / ops.toNat / 10 ^ 7,
      ops.toNat / elapsedSec)
  else (0, 0)

def computeMetrics (prev curr : DiskCounters) : DiskMetrics :=
  if curr.timestamp100ns ≤ prev.timestamp100ns then ⟨curr.name, 0, 0, 0, 0, 0⟩
  else
    let elapsedSec : ℚ :=
      (curr.timestamp100ns - prev.timestamp100ns).toNat / 10 ^ 7
    let (rdLatSec, rdIOPS) := latencyAndRate prev.rdQueueLen curr.rdQueueLen
      prev.rdOps curr.rdOps elapsedSec
    let (wrLatSec, wrIOPS) := latencyAndRate prev.wrQueueLen curr.wrQueueLen
      prev.wrOps curr.wrOps elapsedSec
    ⟨curr.name, rdLatSec, wrLatSec, rdIOPS, wrIOPS, elapsedSec⟩

theorem computeMetrics_name (prev curr : DiskCounters) :
    (computeMetrics prev curr).name = curr.name := by
  unfold computeMetrics
  split
  next => rfl
  next => rfl

def parseDiskIndex (name : String) : Option Int :=
  let text := Text.trimSpace name.toList
  match Text.cut? ' ' text with
  | none => Text.atoi? text
  | some (index, _) => Text.atoi? index

example : parseDiskIndex " 1 E:" = some 1 := by decide

end KubevirtMetrics.Qga
