import KubevirtMetrics.Qmp.Scrape

namespace KubevirtMetrics.Qmp

open Data Virt

/-! What a completed scrape reports, without the claims. -/

def Reply.isOk : Reply α → Bool
  | .ok _ => true
  | _ => false

def VirtqueueResult.key (vq : VirtqueueResult) : String × String × Nat :=
  (vq.disk, vq.bus, vq.queue)

def Answers.queues (answers : Answers) (device : Nat) (nq : Int) : List Nat :=
  (List.range nq.toNat).filter fun qi =>
    (answers.virtioQueueStatus device qi).isOk

def Answers.queueCount (answers : Answers) (numQueues : Table String Int)
    (entry : VirtioDevice × Nat) : Option Int :=
  match numQueues.lookup entry.1.path with
  | some nq => some nq
  | none =>
      match answers.virtioStatus entry.2 with
      | .ok nq => some nq
      | _ => none

namespace Scrape

def deviceKeys (bus : Bus) (answers : Answers) (numQueues : Table String Int)
    (entry : VirtioDevice × Nat) : List (String × String × Nat) :=
  if !bus.owns entry.1 then []
  else
    match bus.disk entry.1.path with
    | none => []
    | some disk =>
        match answers.queueCount numQueues entry with
        | none => []
        | some nq =>
            (answers.queues entry.2 nq).map fun qi => (disk, bus.name, qi)

/-- From `s` to `s'` only queues with the given keys were reported. -/
structure Adds (bus : Bus) (s s' : Scrape)
    (keys : List (String × String × Nat)) : Prop where
  queues : ∃ added, s'.virtqueues = s.virtqueues ++ added ∧
    added.map VirtqueueResult.key = keys ∧
      (bus.hasClaims = false → ∀ vq ∈ added, vq.pvc = "")
  devices : s'.devices = s.devices

theorem Adds.refl (bus : Bus) (s : Scrape) : Adds bus s s [] :=
  ⟨⟨[], by simp, rfl, fun _ _ member => by cases member⟩, rfl⟩

theorem Adds.trans {bus : Bus} {s t u : Scrape}
    {front back : List (String × String × Nat)} (first : Adds bus s t front)
    (second : Adds bus t u back) : Adds bus s u (front ++ back) := by
  obtain ⟨added, reported, keys, blank⟩ := first.queues
  obtain ⟨added', reported', keys', blank'⟩ := second.queues
  refine ⟨⟨added ++ added', ?_, ?_, ?_⟩, second.devices.trans first.devices⟩
  · rw [reported', reported, List.append_assoc]
  · rw [List.map_append, keys, keys']
  · intro unclaimed vq member
    rcases List.mem_append.mp member with member | member
    · exact blank unclaimed vq member
    · exact blank' unclaimed vq member

theorem addQueue_adds (bus : Bus) (answers : Answers) (disk : String)
    (s : Scrape) (qi : Nat) (qs : VirtQueueStatus) :
    Adds bus s (s.addQueue bus answers disk qi qs) [(disk, bus.name, qi)] := by
  let pvc := (if bus.hasClaims then s.claims.refreshPVC answers.fetch disk
    else ("", s.claims)).1
  refine ⟨⟨[⟨disk, pvc, bus.name, qi, qs.inuse, qs.vringNum⟩], rfl, rfl, ?_⟩,
    rfl⟩
  intro unclaimed vq member
  rw [List.mem_singleton.mp member]
  simp [pvc, unclaimed]

theorem queryQueues_adds {bus : Bus} {answers : Answers} {device : Nat}
    {disk : String} {nq : Int} {s s' : Scrape}
    (queried : s.queryQueues bus answers device disk nq = .ok s') :
    Adds bus s s'
        ((answers.queues device nq).map fun qi => (disk, bus.name, qi)) ∧
      s'.numQueues = s.numQueues := by
  unfold queryQueues at queried
  unfold Answers.queues
  generalize List.range nq.toNat = qis at queried
  induction qis generalizing s with
  | nil =>
      obtain rfl := Except.ok.inj queried
      exact ⟨.refl bus s, rfl⟩
  | cons qi qis induction =>
      obtain ⟨t, asked, rest⟩ := Flow.bind_eq_ok.mp queried
      obtain ⟨later, sameLater⟩ := induction rest
      obtain ⟨-, ⟨qs, answered, done⟩ | ⟨refused, rfl⟩⟩ :=
        attempt_eq_ok.mp asked
      · obtain rfl := Except.ok.inj done
        refine ⟨?_, sameLater⟩
        rw [List.filter_cons_of_pos (by rw [answered]; rfl)]
        exact (addQueue_adds bus answers disk s qi qs).trans later
      · rw [List.filter_cons_of_neg (by rw [refused]; exact Bool.false_ne_true)]
        exact ⟨later, sameLater⟩

theorem queryDevice_adds {bus : Bus} {answers : Answers} {s s' : Scrape}
    {entry : VirtioDevice × Nat}
    (queried : s.queryDevice bus answers entry = .ok s') :
    Adds bus s s' (deviceKeys bus answers s.numQueues entry) ∧
      ∀ path, (bus.owns entry.1 = true → path ≠ entry.1.path) →
        s'.numQueues.lookup path = s.numQueues.lookup path := by
  unfold queryDevice at queried
  unfold deviceKeys
  cases owned : bus.owns entry.1 with
  | false =>
      simp only [owned, Bool.not_false, if_true] at queried
      obtain rfl := Except.ok.inj queried
      exact ⟨.refl bus s, fun _ _ => rfl⟩
  | true =>
      simp only [owned, Bool.not_true, Bool.false_eq_true, if_false]
        at queried ⊢
      cases label : bus.disk entry.1.path with
      | none =>
          simp only [label] at queried
          obtain rfl := Except.ok.inj queried
          exact ⟨.refl bus s, fun _ _ => rfl⟩
      | some disk =>
          simp only [label, Answers.queueCount] at queried ⊢
          cases cached : s.numQueues.lookup entry.1.path with
          | some nq =>
              simp only [cached] at queried
              obtain ⟨adds, same⟩ := queryQueues_adds queried
              exact ⟨adds, fun _ _ => by rw [same]⟩
          | none =>
              simp only [cached] at queried
              obtain ⟨-, ⟨nq, answered, done⟩ | ⟨refused, rfl⟩⟩ :=
                attempt_eq_ok.mp queried
              · obtain ⟨adds, same⟩ := queryQueues_adds done
                simp only [answered]
                refine ⟨?_, fun path other => ?_⟩
                · split at adds
                  next => exact ⟨adds.queues, adds.devices⟩
                  next => exact adds
                · rw [same]
                  split
                  next => exact Finmap.lookup_insert_of_ne _ (other trivial)
                  next => rfl
              · rw [refused]
                exact ⟨.refl bus s', fun _ _ => rfl⟩

theorem deviceKeys_congr {bus : Bus} {answers : Answers}
    {numQueues numQueues' : Table String Int} {entry : VirtioDevice × Nat}
    (same : bus.owns entry.1 = true →
      numQueues'.lookup entry.1.path = numQueues.lookup entry.1.path) :
    deviceKeys bus answers numQueues' entry =
      deviceKeys bus answers numQueues entry := by
  unfold deviceKeys Answers.queueCount
  cases owned : bus.owns entry.1 with
  | false => rfl
  | true => rw [same owned]

theorem queryDevices_adds {bus : Bus} {answers : Answers} {s s' : Scrape}
    {entries : List (VirtioDevice × Nat)}
    (distinct : (entries.map fun entry => entry.1.path).Nodup)
    (queried : Flow.loop (queryDevice bus answers) s entries = .ok s') :
    Adds bus s s' (entries.flatMap (deviceKeys bus answers s.numQueues)) ∧
      ∀ path, (∀ entry ∈ entries, bus.owns entry.1 = true →
        path ≠ entry.1.path) →
          s'.numQueues.lookup path = s.numQueues.lookup path := by
  induction entries generalizing s with
  | nil =>
      obtain rfl := Except.ok.inj queried
      exact ⟨.refl bus s, fun _ _ => rfl⟩
  | cons entry entries induction =>
      obtain ⟨t, asked, rest⟩ := Flow.bind_eq_ok.mp queried
      obtain ⟨fresh, distinct⟩ := List.nodup_cons.mp distinct
      obtain ⟨here, sameHere⟩ := queryDevice_adds asked
      obtain ⟨later, sameLater⟩ := induction distinct rest
      have keysEq : entries.flatMap (deviceKeys bus answers t.numQueues) =
          entries.flatMap (deviceKeys bus answers s.numQueues) := by
        apply List.flatMap_congr
        intro other member
        apply deviceKeys_congr
        intro _
        apply sameHere
        intro _ same
        exact fresh (List.mem_map.mpr ⟨other, member, same⟩)
      refine ⟨?_, fun path apart => ?_⟩
      · rw [List.flatMap_cons, ← keysEq]
        exact here.trans later
      · rw [sameLater path fun other member =>
          apart other (List.mem_cons_of_mem entry member)]
        exact sameHere path (apart entry List.mem_cons_self)

/-- No request that is made about the device expires. -/
def Lasts (bus : Bus) (answers : Answers) (numQueues : Table String Int)
    (entry : VirtioDevice × Nat) : Prop :=
  bus.owns entry.1 = true → bus.disk entry.1.path ≠ none →
    (numQueues.lookup entry.1.path = none →
      answers.virtioStatus entry.2 ≠ .expired) ∧
    ∀ nq, answers.queueCount numQueues entry = some nq →
      ∀ qi < nq.toNat, answers.virtioQueueStatus entry.2 qi ≠ .expired

theorem lasts_congr {bus : Bus} {answers : Answers}
    {numQueues numQueues' : Table String Int} {entry : VirtioDevice × Nat}
    (same : bus.owns entry.1 = true →
      numQueues'.lookup entry.1.path = numQueues.lookup entry.1.path) :
    Lasts bus answers numQueues' entry ↔ Lasts bus answers numQueues entry := by
  unfold Lasts Answers.queueCount
  apply forall_congr'
  intro owned
  rw [same owned]

theorem attempt_completes_iff {s : Scrape} (opened : s.closed = false)
    {reply : Reply α} {next : Scrape → α → Flow Scrape} :
    (∃ t, s.attempt reply next = .ok t) ↔
      reply ≠ .expired ∧ ∀ value, reply = .ok value → ∃ t, next s value = .ok t := by
  simp only [attempt_eq_ok, opened, true_and]
  cases reply with
  | ok value => simp
  | failed => simp
  | expired => simp

theorem queryQueues_completes_iff {bus : Bus} {answers : Answers} {device : Nat}
    {disk : String} {nq : Int} {s : Scrape} (opened : s.closed = false) :
    (∃ t, s.queryQueues bus answers device disk nq = .ok t) ↔
      ∀ qi < nq.toNat, answers.virtioQueueStatus device qi ≠ .expired := by
  have rounds : (∃ t, s.queryQueues bus answers device disk nq = .ok t) ↔
      ∀ qi ∈ List.range nq.toNat, answers.virtioQueueStatus device qi ≠ .expired := by
    apply Flow.loop_completes_iff fun t : Scrape => t.closed = false
    · intro t qi _ stillOpen
      rw [attempt_completes_iff stillOpen, and_iff_left]
      exact fun qs _ => ⟨_, rfl⟩
    · intro t qi u stillOpen asked
      obtain ⟨-, ⟨qs, -, done⟩ | ⟨-, rfl⟩⟩ := attempt_eq_ok.mp asked
      · rw [← Except.ok.inj done, addQueue_closed]
        exact stillOpen
      · exact stillOpen
    · exact opened
  simpa only [List.mem_range] using rounds

theorem queryDevice_completes_iff {bus : Bus} {answers : Answers} {s : Scrape}
    {entry : VirtioDevice × Nat} (opened : s.closed = false) :
    (∃ t, s.queryDevice bus answers entry = .ok t) ↔
      Lasts bus answers s.numQueues entry := by
  unfold queryDevice Lasts Answers.queueCount
  cases owned : bus.owns entry.1 with
  | false => simp
  | true =>
      cases label : bus.disk entry.1.path with
      | none => simp
      | some disk =>
          cases cached : s.numQueues.lookup entry.1.path with
          | some nq => simp [queryQueues_completes_iff opened]
          | none =>
              have counted : ∀ nq : Int, (if nq > 0 then { s with
                  numQueues := s.numQueues.insert entry.1.path nq } else s).closed =
                    false := by
                intro nq
                split
                next => exact opened
                next => exact opened
              simp only [Bool.not_true, Bool.false_eq_true, if_false,
                attempt_completes_iff opened, queryQueues_completes_iff (counted _)]
              cases answers.virtioStatus entry.2 with
              | ok nq => simp
              | failed => simp
              | expired => simp

theorem queryDevices_completes_iff {bus : Bus} {answers : Answers} {s : Scrape}
    {entries : List (VirtioDevice × Nat)} (opened : s.closed = false)
    (distinct : (entries.map fun entry => entry.1.path).Nodup) :
    (∃ t, Flow.loop (queryDevice bus answers) s entries = .ok t) ↔
      ∀ entry ∈ entries, Lasts bus answers s.numQueues entry := by
  induction entries generalizing s with
  | nil => exact iff_of_true ⟨s, rfl⟩ (by simp)
  | cons entry entries induction =>
      obtain ⟨fresh, distinct⟩ := List.nodup_cons.mp distinct
      have later : ∀ t, s.queryDevice bus answers entry = .ok t →
          ((∃ u, Flow.loop (queryDevice bus answers) t entries = .ok u) ↔
            ∀ other ∈ entries, Lasts bus answers s.numQueues other) := by
        intro t first
        rw [induction (queryDevice_closed opened first) distinct]
        apply forall₂_congr
        intro other member
        apply lasts_congr
        intro _
        apply (queryDevice_adds first).2
        intro _ same
        exact fresh (List.mem_map.mpr ⟨other, member, same⟩)
      rw [List.forall_mem_cons, ← queryDevice_completes_iff opened]
      constructor
      · intro ⟨u, ended⟩
        obtain ⟨t, first, rest⟩ := Flow.bind_eq_ok.mp ended
        exact ⟨⟨t, first⟩, (later t first).mp ⟨u, rest⟩⟩
      · intro ⟨⟨t, first⟩, others⟩
        obtain ⟨u, rest⟩ := (later t first).mpr others
        exact ⟨u, Flow.bind_eq_ok.mpr ⟨t, first, rest⟩⟩

def reportedDisk (dev : BlockDevice) : Option String :=
  if hasHistograms dev then (extractDiskInfo dev.effectiveQDev).map Prod.fst
  else none

theorem addDevice_reports (answers : Answers) (s : Scrape)
    (dev : BlockDevice) :
    (s.addDevice answers dev).devices.map DeviceResult.disk =
        s.devices.map DeviceResult.disk ++ (reportedDisk dev).toList ∧
      (s.addDevice answers dev).virtqueues = s.virtqueues ∧
        (s.addDevice answers dev).numQueues = s.numQueues := by
  unfold addDevice reportedDisk
  cases extractDiskInfo dev.effectiveQDev with
  | none => simp
  | some info =>
      cases hasHistograms dev with
      | false => simp
      | true => simp

theorem addDevices_report (answers : Answers) (s : Scrape)
    (entries : List BlockDevice) :
    (entries.foldl (addDevice answers) s).devices.map DeviceResult.disk =
        s.devices.map DeviceResult.disk ++ entries.filterMap reportedDisk ∧
      (entries.foldl (addDevice answers) s).virtqueues = s.virtqueues ∧
        (entries.foldl (addDevice answers) s).numQueues = s.numQueues := by
  induction entries generalizing s with
  | nil => simp
  | cons dev entries induction =>
      obtain ⟨disks, queues, counts⟩ := addDevice_reports answers s dev
      obtain ⟨laterDisks, laterQueues, laterCounts⟩ :=
        induction (s.addDevice answers dev)
      rw [List.foldl_cons]
      refine ⟨?_, laterQueues.trans queues, laterCounts.trans counts⟩
      rw [laterDisks, disks, List.filterMap_cons]
      cases reportedDisk dev with
      | none => simp
      | some disk => simp

theorem not_both_buses (dev : VirtioDevice) (blk : isVirtioBlk dev = true) :
    isVirtioScsi dev = false := by
  cases scsi : isVirtioScsi dev with
  | false => rfl
  | true =>
      have shorter := List.prefix_of_prefix_length_le
        (List.isPrefixOf_iff_prefix.mp blk)
        (List.isPrefixOf_iff_prefix.mp scsi) (by decide)
      exact absurd shorter (by decide)

/-- The queues of a completed scrape: those of the virtio-blk devices, then those
of the virtio-scsi controllers, which carry no claim. -/
def ReportsQueues (answers : Answers) (numQueues : Table String Int)
    (devices : List VirtioDevice) (virtqueues : List VirtqueueResult) : Prop :=
  ∃ blk scsi, virtqueues = blk ++ scsi ∧
    blk.map VirtqueueResult.key =
      devices.zipIdx.flatMap (deviceKeys virtioBlk answers numQueues) ∧
    scsi.map VirtqueueResult.key =
      devices.zipIdx.flatMap (deviceKeys virtioScsi answers numQueues) ∧
    ∀ vq ∈ scsi, vq.pvc = ""

theorem run_reports {cfg : PollerConfig} {answers : Answers}
    {entries : List BlockDevice} {s s' : Scrape}
    (fresh : s.devices = [] ∧ s.virtqueues = [])
    (distinct : ∀ devices, answers.virtio = .ok devices →
      (devices.map VirtioDevice.path).Nodup)
    (ended : s.run cfg answers entries = .ok s') :
    s'.devices.map DeviceResult.disk = entries.filterMap reportedDisk ∧
      match answers.virtio with
      | .ok devices =>
          ReportsQueues answers s.numQueues devices s'.virtqueues
      | _ => s'.virtqueues = [] := by
  obtain ⟨t, armed, rest⟩ := Flow.bind_eq_ok.mp ended
  obtain ⟨devicesT, queuesT, countsT, -⟩ :=
    armDevices_report cfg answers entries.zipIdx s
  rw [armed, Flow.state_ok] at devicesT queuesT countsT
  obtain ⟨disksU, queuesU, countsU⟩ := addDevices_report answers t entries
  rw [devicesT, fresh.1, List.map_nil, List.nil_append] at disksU
  rw [queuesT, fresh.2] at queuesU
  rw [countsT] at countsU
  obtain ⟨-, ⟨devices, listed, queried⟩ | ⟨refused, rfl⟩⟩ :=
    attempt_eq_ok.mp rest
  · rw [listed]
    have distinctPaths : (devices.zipIdx.map fun entry =>
        entry.1.path).Nodup := by
      have paths := distinct devices listed
      rw [← List.zipIdx_map_fst 0 devices, List.map_map] at paths
      exact paths
    obtain ⟨u, blk, scsi⟩ := Flow.bind_eq_ok.mp queried
    obtain ⟨addsBlk, sameBlk⟩ := queryDevices_adds distinctPaths blk
    obtain ⟨addsScsi, -⟩ := queryDevices_adds distinctPaths scsi
    obtain ⟨blkQueues, reportedBlk, keysBlk, -⟩ := addsBlk.queues
    obtain ⟨scsiQueues, reportedScsi, keysScsi, blank⟩ := addsScsi.queues
    refine ⟨?_, blkQueues, scsiQueues, ?_, ?_, ?_, blank rfl⟩
    · rw [addsScsi.devices, addsBlk.devices]
      exact disksU
    · rw [reportedScsi, reportedBlk, queuesU, List.nil_append]
    · rw [keysBlk, countsU]
    · rw [keysScsi]
      apply List.flatMap_congr
      intro entry member
      apply deviceKeys_congr
      intro owned
      rw [← countsU]
      apply sameBlk
      intro other member' ownedBlk samePath
      -- distinct paths make the two entries one device
      obtain rfl :=
        List.inj_on_of_nodup_map distinctPaths member member' samePath
      have apart : isVirtioScsi entry.1 = false := not_both_buses _ ownedBlk
      exact Bool.false_ne_true (apart.symm.trans owned)
  · rw [refused]
    exact ⟨disksU, queuesU⟩

theorem deviceKeys_nodup (bus : Bus) (answers : Answers)
    (numQueues : Table String Int) (entry : VirtioDevice × Nat) :
    (deviceKeys bus answers numQueues entry).Nodup := by
  unfold deviceKeys
  split
  next => exact List.nodup_nil
  next =>
    split
    next => exact List.nodup_nil
    next =>
      split
      next => exact List.nodup_nil
      next disk _ nq _ =>
        refine List.Nodup.map ?_ (List.nodup_range.filter _)
        intro qi qj same
        exact (Prod.mk.inj (Prod.mk.inj same).2).2

theorem mem_deviceKeys {bus : Bus} {answers : Answers}
    {numQueues : Table String Int} {entry : VirtioDevice × Nat}
    {key : String × String × Nat}
    (member : key ∈ deviceKeys bus answers numQueues entry) :
    bus.owns entry.1 = true ∧ bus.disk entry.1.path = some key.1 ∧
      key.2.1 = bus.name := by
  unfold deviceKeys at member
  split at member
  next => cases member
  next owned =>
    split at member
    next => cases member
    next disk label =>
      split at member
      next => cases member
      next =>
        obtain ⟨qi, -, rfl⟩ := List.mem_map.mp member
        exact ⟨by simpa using owned, label, rfl⟩

def controllerQueues (answers : Answers) (numQueues : Table String Int)
    (entry : VirtioDevice × Nat) : List Nat :=
  if isVirtioScsi entry.1 && (extractControllerName entry.1.path).isSome then
    (answers.queueCount numQueues entry).elim [] (answers.queues entry.2)
  else []

theorem deviceKeys_virtioScsi (answers : Answers)
    (numQueues : Table String Int) (entry : VirtioDevice × Nat) :
    deviceKeys virtioScsi answers numQueues entry =
      (controllerQueues answers numQueues entry).map fun qi =>
        ("", "scsi", qi) := by
  have owns : virtioScsi.owns entry.1 = isVirtioScsi entry.1 := rfl
  have disk : virtioScsi.disk entry.1.path =
      (extractControllerName entry.1.path).map fun _ => "" := rfl
  have name : virtioScsi.name = "scsi" := rfl
  unfold deviceKeys controllerQueues
  rw [owns, disk, name]
  cases isVirtioScsi entry.1 with
  | false => simp
  | true =>
      cases extractControllerName entry.1.path with
      | none => simp
      | some _ =>
          cases answers.queueCount numQueues entry with
          | none => simp
          | some nq => simp

def blkDisk (dev : VirtioDevice) : Option String :=
  if isVirtioBlk dev then (extractDiskInfo dev.path).map Prod.fst else none

theorem blkDisk_of_mem_deviceKeys {answers : Answers}
    {numQueues : Table String Int} {entry : VirtioDevice × Nat}
    {key : String × String × Nat}
    (member : key ∈ deviceKeys virtioBlk answers numQueues entry) :
    blkDisk entry.1 = some key.1 := by
  obtain ⟨owned, label, -⟩ := mem_deviceKeys member
  have blk : isVirtioBlk entry.1 = true := owned
  simp only [blkDisk, blk, if_true]
  exact label

theorem blkKeys_nodup {answers : Answers} {numQueues : Table String Int}
    {devices : List VirtioDevice}
    (distinct : (devices.filterMap blkDisk).Nodup) :
    (devices.zipIdx.flatMap
      (deviceKeys virtioBlk answers numQueues)).Nodup := by
  rw [List.nodup_flatMap]
  refine ⟨fun entry _ => deviceKeys_nodup _ _ _ entry, ?_⟩
  have disks := List.pairwise_filterMap.mp distinct
  rw [← List.zipIdx_map_fst 0 devices, List.pairwise_map] at disks
  refine disks.imp ?_
  intro entry other apart key member member'
  exact apart key.1 (blkDisk_of_mem_deviceKeys member) key.1
    (blkDisk_of_mem_deviceKeys member') rfl

theorem scsiKeys_nodup_iff (answers : Answers) (numQueues : Table String Int)
    (devices : List VirtioDevice) :
    (devices.zipIdx.flatMap (deviceKeys virtioScsi answers numQueues)).Nodup ↔
      devices.zipIdx.Pairwise fun entry other =>
        (controllerQueues answers numQueues entry).Disjoint
          (controllerQueues answers numQueues other) := by
  rw [List.nodup_flatMap,
    and_iff_right fun entry _ => deviceKeys_nodup _ _ _ entry]
  refine List.Pairwise.iff fun {entry other} => ?_
  simp only [Function.onFun, deviceKeys_virtioScsi]
  constructor
  · intro apart qi member member'
    exact apart (List.mem_map_of_mem member) (List.mem_map_of_mem member')
  · intro apart key member member'
    obtain ⟨qi, here, rfl⟩ := List.mem_map.mp member
    obtain ⟨qj, there, same⟩ := List.mem_map.mp member'
    obtain rfl : qj = qi := (Prod.mk.inj (Prod.mk.inj same).2).2
    exact apart here there

end Scrape

end KubevirtMetrics.Qmp
