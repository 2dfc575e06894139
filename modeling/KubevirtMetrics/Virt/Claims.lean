import KubevirtMetrics.Data.Table

namespace KubevirtMetrics.Virt

open Data

/-! `FetchPVCMap` and the lazy refresh that both collectors build on it. -/

structure VolumeStatus where
  name : String
  claimName : Option String

/-- What reading the VMI object gives.  The volume status is absent where the
object has none. -/
inductive FetchReply
  | noClient
  | failed
  | object (volumeStatus : Option (List VolumeStatus))

def claimEntry (status : VolumeStatus) : Option (String × String) :=
  if status.name = "" then none
  else
    match status.claimName with
    | none => none
    | some claimName =>
        if claimName ≠ "" then some (status.name, claimName) else none

def fetchPVCMap : FetchReply → Table String String
  | .noClient | .failed | .object none => ∅
  | .object (some volumeStatus) =>
      Table.insertAll ∅ (volumeStatus.filterMap claimEntry)

theorem fetchPVCMap_unnamed (fetch : FetchReply) :
    (fetchPVCMap fetch).lookup "" = none := by
  unfold fetchPVCMap
  split
  next => rfl
  next => rfl
  next => rfl
  next volumeStatus =>
    rw [Table.lookup_insertAll_of_absent]
    · rfl
    · intro entry member named
      obtain ⟨status, -, claimed⟩ := List.mem_filterMap.mp member
      unfold claimEntry at claimed
      split at claimed
      next => cases claimed
      next some =>
        split at claimed
        next => cases claimed
        next =>
          split at claimed
          next =>
            rw [← Option.some.inj claimed] at named
            exact some named
          next => cases claimed

/-- The VMI object was not read. -/
def FetchReply.fails : FetchReply → Bool
  | .noClient | .failed => true
  | .object _ => false

theorem fetchPVCMap_of_fails {fetch : FetchReply} (fails : fetch.fails = true) :
    fetchPVCMap fetch = ∅ := by
  cases fetch with
  | noClient => rfl
  | failed => rfl
  | object volumeStatus => cases fails

structure ClaimCache where
  pvcMap : Table String String
  pvcRefreshed : Bool

namespace ClaimCache

def refreshPVC (cache : ClaimCache) (fetch : FetchReply) (disk : String) :
    String × ClaimCache :=
  let pvc := cache.pvcMap.getD disk ""
  if pvc = "" && !cache.pvcRefreshed then
    let pvcMap := fetchPVCMap fetch
    (pvcMap.getD disk "", ⟨pvcMap, true⟩)
  else
    (pvc, cache)

theorem refreshPVC_fetched {cache : ClaimCache}
    (fetched : ∃ fetch, cache.pvcMap = fetchPVCMap fetch) (fetch : FetchReply)
    (disk : String) :
    ∃ fetch', (cache.refreshPVC fetch disk).2.pvcMap = fetchPVCMap fetch' := by
  simp only [refreshPVC]
  split
  next => exact ⟨fetch, rfl⟩
  next => exact fetched

/-- Looking up the disk does not fetch the claims again, or there are none to
lose. -/
def Settled (pvcMap : Table String String) (disk : String) : Prop :=
  pvcMap = ∅ ∨ pvcMap.getD disk "" ≠ ""

theorem refreshPVC_settled {cache : ClaimCache} {fetch : FetchReply}
    {disk : String} (failed : fetchPVCMap fetch = ∅)
    (settled : Settled cache.pvcMap disk) :
    (cache.refreshPVC fetch disk).1 = cache.pvcMap.getD disk "" ∧
      (cache.refreshPVC fetch disk).2.pvcMap = cache.pvcMap := by
  cases settled with
  | inl none =>
      simp only [refreshPVC, failed, none]
      split
      next => exact ⟨rfl, rfl⟩
      next => exact ⟨rfl, none⟩
  | inr known => simp [refreshPVC, known]

end ClaimCache

end KubevirtMetrics.Virt
