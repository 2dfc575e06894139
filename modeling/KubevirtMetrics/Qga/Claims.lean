import KubevirtMetrics.Qga.Scrape
import KubevirtMetrics.Qmp.Claims

namespace KubevirtMetrics.Qga

open Data Virt

/-! The claims a virtual machine is reported with while the VMI object cannot be
read. -/

/-- A scrape with these answers reports a drive of the disk. -/
def Asks (vs : VMState) (answers : Answers) (disk : String) : Prop :=
  ∃ rows, answers.counters = .counters rows ∧
    ∃ name ∈ vs.reported answers rows,
      volumeOf (vs.mapDisks answers).1 name = some disk

namespace Scrape

structure Labels (pvcMap : Table String String) (s : Scrape) : Prop where
  claims : s.claims.pvcMap = pvcMap
  disks : ∀ entry ∈ s.disks, entry.disk ≠ "" →
    entry.pvc = pvcMap.getD entry.disk ""

theorem Labels.addDisk {pvcMap : Table String String} {s : Scrape}
    (labels : Labels pvcMap s) {fetch : FetchReply}
    (failed : fetchPVCMap fetch = ∅) {diskMap : Option (Table Int String)}
    {metrics : DiskMetrics}
    (settled : ∀ disk, volumeOf diskMap metrics.name = some disk →
      ClaimCache.Settled pvcMap disk) :
    Labels pvcMap (s.addDisk diskMap fetch metrics) := by
  unfold Scrape.addDisk
  cases volume : volumeOf diskMap metrics.name with
  | none =>
      refine ⟨labels.claims, ?_⟩
      intro entry member named
      rcases List.mem_append.mp member with earlier | last
      · exact labels.disks entry earlier named
      · rw [List.mem_singleton.mp last] at named
        exact absurd rfl named
  | some disk =>
      obtain ⟨pvc, same⟩ := ClaimCache.refreshPVC_settled failed
        (labels.claims ▸ settled disk volume)
      refine ⟨same.trans labels.claims, ?_⟩
      intro entry member named
      rcases List.mem_append.mp member with earlier | last
      · exact labels.disks entry earlier named
      · rw [List.mem_singleton.mp last]
        exact pvc.trans (by rw [labels.claims])

theorem Labels.diff {pvcMap : Table String String} {s : Scrape}
    (labels : Labels pvcMap s) {fetch : FetchReply}
    (failed : fetchPVCMap fetch = ∅) {diskMap : Option (Table Int String)}
    {prev : Table String DiskCounters} {rows : List DiskCounters} {name : String}
    (settled : advanced prev (snapshotOf rows) name = true →
      ∀ disk, volumeOf diskMap name = some disk → ClaimCache.Settled pvcMap disk) :
    Labels pvcMap (s.diff prev (snapshotOf rows) diskMap fetch name) := by
  unfold advanced at settled
  unfold Scrape.diff
  split
  next curr old found foundOld =>
    rw [found, foundOld] at settled
    simp only []
    split
    next elapsed =>
      apply labels.addDisk failed
      rw [computeMetrics_name, (snapshotOf_lookup found).2]
      exact settled (decide_eq_true elapsed)
    next => exact labels
  next => exact labels

theorem diff_fetched {prev curr : Table String DiskCounters}
    {diskMap : Option (Table Int String)} {fetch : FetchReply} {s : Scrape}
    (fetched : ∃ fetch', s.claims.pvcMap = fetchPVCMap fetch')
    (name : String) :
    ∃ fetch', (s.diff prev curr diskMap fetch name).claims.pvcMap =
      fetchPVCMap fetch' := by
  unfold Scrape.diff
  split
  next =>
    simp only []
    split
    next =>
      unfold Scrape.addDisk
      split
      next => exact fetched
      next disk _ => exact ClaimCache.refreshPVC_fetched fetched fetch disk
    next => exact fetched
  next => exact fetched

end Scrape

namespace VMState

variable {vs : VMState} {answers : Answers} {rows : List DiskCounters}

theorem disksOf_labels (fails : answers.fetch.fails = true)
    (answered : answers.counters = .counters rows)
    (settled : ∀ disk, Asks vs answers disk →
      ClaimCache.Settled vs.pvcMap disk) :
    Scrape.Labels vs.pvcMap (vs.disksOf answers rows) := by
  have start : Scrape.Labels vs.pvcMap ⟨⟨vs.pvcMap, false⟩, []⟩ :=
    ⟨rfl, by simp⟩
  unfold disksOf
  cases before : vs.prevSnapshot with
  | none => exact start
  | some prev =>
      apply List.foldlRecOn _ _ start
      intro s labels name member
      apply labels.diff (fetchPVCMap_of_fails fails)
      intro timed disk volume
      refine settled disk ⟨rows, answered, name, ?_, volume⟩
      rw [reported, before]
      exact List.mem_filter.mpr ⟨member, timed⟩

theorem disksOf_fetched (fetched : ∃ fetch, vs.pvcMap = fetchPVCMap fetch) :
    ∃ fetch, (vs.disksOf answers rows).claims.pvcMap = fetchPVCMap fetch := by
  unfold disksOf
  split
  next => exact fetched
  next prev _ =>
    exact List.foldlRecOn answers.order _
      (motive := fun s : Scrape => ∃ fetch, s.claims.pvcMap = fetchPVCMap fetch) fetched
      fun s holds name _ => Scrape.diff_fetched holds name

end VMState

namespace Session

theorem scrape_keeps_claims {cfg : CollectorConfig} {session : Session}
    {answers : Answers} (fails : answers.fetch.fails = true)
    (settled : ∀ disk, Asks session.vm answers disk →
      ClaimCache.Settled session.vm.pvcMap disk) :
    (session.next cfg answers).vm.pvcMap = session.vm.pvcMap ∧
      ∀ result, (session.scrape cfg answers).result = .ok (some result) →
        ∀ entry ∈ result.disks, entry.disk ≠ "" →
          entry.pvc = session.vm.pvcMap.getD entry.disk "" := by
  rw [next_pvcMap]
  rcases session.vm.scrapeVM_cases cfg session.clientClosed answers with
    ⟨error, closed, failed⟩ | ⟨rows, answered, done⟩
  · rw [scrape, failed]
    refine ⟨rfl, ?_⟩
    intro result scraped
    cases scraped
  · have labels := VMState.disksOf_labels fails answered settled
    simp only [scrape, done]
    refine ⟨labels.claims, ?_⟩
    intro result scraped
    rw [VMState.resultOf_disks (Except.ok.inj scraped)]
    exact labels.disks

/-- In the scrape after the history, each disk with a claim known at the start
is reported with that claim. -/
def KeepsClaims (cfg : CollectorConfig) (session : Session)
    (history : List Answers) (answers : Answers) : Prop :=
  ∀ result, ((stateAfter (next cfg) session history).scrape cfg
      answers).result = .ok (some result) →
    ∀ disk claim, session.vm.pvcMap.lookup disk = some claim → claim ≠ "" →
      ∀ entry ∈ result.disks, entry.disk = disk → entry.pvc = claim

/-- In none of the scrapes the VMI object can be read, and every disk they ask
for has a known claim. -/
def Settled (cfg : CollectorConfig) (session : Session)
    (history : List Answers) : Prop :=
  Throughout (fun before answers => answers.fetch.fails = true ∧
    ∀ disk, Asks (stateAfter (next cfg) session before).vm answers disk →
      ClaimCache.Settled session.vm.pvcMap disk) history

theorem after_pvcMap {cfg : CollectorConfig} {session : Session}
    {history : List Answers} (settled : Settled cfg session history) :
    (stateAfter (next cfg) session history).vm.pvcMap = session.vm.pvcMap := by
  induction history using List.reverseRecOn with
  | nil => rfl
  | append_singleton history answers induction =>
      unfold Settled at settled
      rw [throughout_append_singleton] at settled
      obtain ⟨earlier, fails, asked⟩ := settled
      have same := induction earlier
      rw [stateAfter_append_singleton, (scrape_keeps_claims fails ?_).1, same]
      intro disk asks
      rw [same]
      exact asked disk asks

theorem after_unnamed (cfg : CollectorConfig) (pod : PodInfo)
    (fetch : FetchReply) (client : Nat) (history : List Answers) :
    (stateAfter (next cfg) (dial pod fetch client)
      history).vm.pvcMap.lookup "" = none := by
  have fetched : ∃ fetch', (stateAfter (next cfg) (dial pod fetch client)
      history).vm.pvcMap = fetchPVCMap fetch' := by
    induction history using List.reverseRecOn with
    | nil => exact ⟨fetch, rfl⟩
    | append_singleton history answers induction =>
        rw [stateAfter_append_singleton, next_pvcMap]
        generalize stateAfter (next cfg) (dial pod fetch client) history =
          session at induction
        rcases session.vm.scrapeVM_cases cfg session.clientClosed answers with
          ⟨error, closed, failed⟩ | ⟨rows, -, done⟩
        · simp only [scrape, failed]
          exact induction
        · simp only [scrape, done]
          exact VMState.disksOf_fetched induction
  obtain ⟨fetch', same⟩ := fetched
  rw [same]
  exact fetchPVCMap_unnamed fetch'

theorem keepsClaims_of_settled {cfg : CollectorConfig} {session : Session}
    {history : List Answers} {answers : Answers}
    (unnamed : session.vm.pvcMap.lookup "" = none)
    (settled : Settled cfg session (history ++ [answers])) :
    KeepsClaims cfg session history answers := by
  intro result scraped disk claim known _
  unfold Settled at settled
  rw [throughout_append_singleton] at settled
  obtain ⟨earlier, fails, asked⟩ := settled
  have same := after_pvcMap earlier
  have disks := (scrape_keeps_claims fails (by
    intro disk asks
    rw [same]
    exact asked disk asks)).2 result scraped
  rw [same] at disks
  intro entry member here
  have named : disk ≠ "" := by
    intro empty
    rw [empty, unnamed] at known
    cases known
  rw [disks entry member (here ▸ named), here, Table.getD, known]
  rfl

end Session

/-- For both collectors: while the VMI object cannot be read, the known claims
are reported as long as every disk that is asked for has one. -/
theorem claims_survive_failed_reads (qmpCfg : Qmp.PollerConfig)
    (qgaCfg : CollectorConfig) (pod : PodInfo) (fetch : FetchReply)
    (client : Nat) (qmpHistory qmpStretch : List Qmp.Answers)
    (qmpLast : Qmp.Answers) (qgaHistory qgaStretch : List Answers)
    (qgaLast : Answers) (qmp : Qmp.Session) (qga : Session)
    (qmpReached : qmp = stateAfter (Qmp.Session.next qmpCfg)
      (Qmp.Session.dial pod fetch client) qmpHistory)
    (qgaReached : qga = stateAfter (Session.next qgaCfg)
      (Session.dial pod fetch client) qgaHistory) :
    (Qmp.Session.Settled qmpCfg qmp (qmpStretch ++ [qmpLast]) →
      Qmp.Session.KeepsClaims qmpCfg qmp qmpStretch qmpLast) ∧
    (Session.Settled qgaCfg qga (qgaStretch ++ [qgaLast]) →
      Session.KeepsClaims qgaCfg qga qgaStretch qgaLast) := by
  constructor
  · intro settled
    apply Qmp.Session.keepsClaims_of_settled _ settled
    rw [qmpReached]
    exact Qmp.Session.after_unnamed qmpCfg pod fetch client qmpHistory
  · intro settled
    apply Session.keepsClaims_of_settled _ settled
    rw [qgaReached]
    exact Session.after_unnamed qgaCfg pod fetch client qgaHistory

/-! A machine with the volumes `cloudinit` and `data`, of which only `data` has
a claim. -/

def vmInfo : PodInfo := ⟨"tenant-a", "virt-launcher-vm", "vm"⟩

def dataClaim : FetchReply :=
  .object (some [⟨"cloudinit", none⟩, ⟨"data", some "pvc-data"⟩])

def qmpConfig : Qmp.PollerConfig := ⟨"node-1", [1000000], [], ""⟩

def measured : Qmp.BlockStats :=
  ⟨0, 0, 0, some ⟨[1000000], [0, 0]⟩, none, none⟩

def qmpAnswers (disks : List String) : Qmp.Answers where
  blockStats := .ok (disks.map fun qdev => .mk qdev measured none)
  enableHistogram _ := .ok ()
  virtio := .ok []
  virtioStatus _ := .failed
  virtioQueueStatus _ _ := .failed
  fetch := .failed

def qgaConfig : CollectorConfig := ⟨"node-1", 60000000000, 3, [], ""⟩

def qgaAnswers (drives : List String) (time : UInt64) : Answers where
  counters := .counters (drives.map fun drive => ⟨drive, 0, 0, 0, 0, time⟩)
  diskMap := .ok (Table.insertAll ∅ [(0, "cloudinit"), (1, "data")])
  fetch := .failed
  order := drives

def qmpSession : Qmp.Session := .dial vmInfo dataClaim 1

def qgaSession : Session := .dial vmInfo dataClaim 1

theorem asks_qmpAnswers_data {numQueues : Table String Int} {disk : String}
    (asks : Qmp.Asks numQueues (qmpAnswers ["ua-data"]) disk) : disk = "data" := by
  obtain ⟨entries, answered,
    ⟨dev, member, reported⟩ | ⟨devices, listed, entry, member, -⟩⟩ := asks
  · obtain rfl := Qmp.Reply.ok.inj answered
    obtain rfl := List.mem_singleton.mp member
    have named : Qmp.Scrape.reportedDisk (.mk "ua-data" measured none) =
        some "data" := by decide +kernel
    exact Option.some.inj (reported.symm.trans named)
  · obtain rfl := Qmp.Reply.ok.inj listed
    cases member

theorem asks_qgaAnswers_data {vs : VMState} {time : UInt64} {disk : String}
    (volume : volumeOf (vs.mapDisks (qgaAnswers ["1 D:"] time)).1 "1 D:" =
      some "data")
    (asks : Asks vs (qgaAnswers ["1 D:"] time) disk) : disk = "data" := by
  obtain ⟨rows, -, name, member, found⟩ := asks
  have listed : name ∈ ["1 D:"] := by
    unfold VMState.reported at member
    split at member
    next => cases member
    next => exact List.mem_of_mem_filter member
  obtain rfl := List.mem_singleton.mp listed
  exact Option.some.inj (found.symm.trans volume)

theorem data_keeps_its_claim :
    Qmp.Session.KeepsClaims qmpConfig qmpSession [qmpAnswers ["ua-data"]]
      (qmpAnswers ["ua-data"]) ∧
    Session.KeepsClaims qgaConfig qgaSession [qgaAnswers ["1 D:"] 1]
      (qgaAnswers ["1 D:"] 2) := by
  have survive := claims_survive_failed_reads qmpConfig qgaConfig vmInfo
    dataClaim 1 [] [qmpAnswers ["ua-data"]] (qmpAnswers ["ua-data"]) []
    [qgaAnswers ["1 D:"] 1] (qgaAnswers ["1 D:"] 2) qmpSession qgaSession rfl rfl
  refine ⟨survive.1 ?_, survive.2 ?_⟩
  · intro before other after split
    have member : other ∈ before ++ other :: after :=
      List.mem_append_right before List.mem_cons_self
    rw [← split] at member
    have same : other = qmpAnswers ["ua-data"] := by simpa using member
    rw [same]
    refine ⟨rfl, fun disk asks => .inr ?_⟩
    rw [asks_qmpAnswers_data asks]
    decide +kernel
  · have known : ClaimCache.Settled qgaSession.vm.pvcMap "data" :=
      .inr (by decide +kernel)
    change Throughout _ ([qgaAnswers ["1 D:"] 1] ++ [qgaAnswers ["1 D:"] 2])
    rw [throughout_append_singleton, ← List.nil_append [qgaAnswers ["1 D:"] 1],
      throughout_append_singleton]
    refine ⟨⟨throughout_nil _, rfl, fun disk asks => ?_⟩, rfl, fun disk asks => ?_⟩
    · rw [asks_qgaAnswers_data (by decide +kernel) asks]
      exact known
    · rw [asks_qgaAnswers_data (by decide +kernel) asks]
      exact known

/-- A disk without a claim is asked for first: its refresh fails, and the claim
of `data` is gone. -/
theorem failed_refresh_loses_claim :
    ¬ Qmp.Session.KeepsClaims qmpConfig qmpSession []
      (qmpAnswers ["ua-cloudinit", "ua-data"]) ∧
    ¬ Session.KeepsClaims qgaConfig
      (stateAfter (Session.next qgaConfig) qgaSession
        [qgaAnswers ["0 C:", "1 D:"] 1]) []
      (qgaAnswers ["0 C:", "1 D:"] 2) := by
  constructor
  · intro keeps
    have labels := (keeps ⟨"tenant-a", "vm", "node-1", "virt-launcher-vm",
      [⟨"cloudinit", "", measured⟩, ⟨"data", "", measured⟩], []⟩
      (by decide +kernel) "data" "pvc-data" (by decide +kernel) (by decide)).1
    exact absurd (labels ⟨"data", "", measured⟩ (by simp) rfl) (by decide)
  · intro keeps
    have labels := keeps ⟨"tenant-a", "vm", "node-1", "virt-launcher-vm",
      [⟨⟨"0 C:", 0, 0, 0, 0, 1 / 10 ^ 7⟩, "cloudinit", ""⟩,
        ⟨⟨"1 D:", 0, 0, 0, 0, 1 / 10 ^ 7⟩, "data", ""⟩]⟩
      (by decide +kernel) "data" "pvc-data" (by decide +kernel) (by decide)
    exact absurd (labels ⟨⟨"1 D:", 0, 0, 0, 0, 1 / 10 ^ 7⟩, "data", ""⟩
      (by simp) rfl) (by decide)

end KubevirtMetrics.Qga
