import KubevirtMetrics.Qmp.Queues

namespace KubevirtMetrics.Qmp

open Data Virt

/-! The claims a connection reports while the VMI object cannot be read. -/

/-- A scrape with these answers looks up the claim of the disk, if the connection
lasts; `numQueues` are the queues that are known before it. -/
def Asks (numQueues : Table String Int) (answers : Answers) (disk : String) : Prop :=
  ∃ entries, answers.blockStats = .ok entries ∧
    ((∃ dev ∈ entries, Scrape.reportedDisk dev = some disk) ∨
      Scrape.Queried numQueues answers Scrape.virtioBlk disk)

namespace Scrape

structure Labels (pvcMap : Table String String) (s : Scrape) : Prop where
  claims : s.claims.pvcMap = pvcMap
  devices : ∀ dev ∈ s.devices, dev.pvc = pvcMap.getD dev.disk ""
  queues : ∀ queue ∈ s.virtqueues, queue.disk ≠ "" →
    queue.pvc = pvcMap.getD queue.disk ""

variable {pvcMap : Table String String} {numQueues : Table String Int}
    {answers : Answers}

theorem Labels.addDevice {s : Scrape} (labels : Labels pvcMap s)
    (failed : fetchPVCMap answers.fetch = ∅) {dev : BlockDevice}
    (settled : ∀ disk, reportedDisk dev = some disk →
      ClaimCache.Settled pvcMap disk) :
    Labels pvcMap (s.addDevice answers dev) := by
  unfold reportedDisk at settled
  unfold Scrape.addDevice
  cases info : extractDiskInfo dev.effectiveQDev with
  | none => exact labels
  | some found =>
      obtain ⟨disk, id⟩ := found
      cases histogram : hasHistograms dev with
      | false => exact labels
      | true =>
          rw [info, histogram] at settled
          obtain ⟨pvc, same⟩ := ClaimCache.refreshPVC_settled failed
            (labels.claims ▸ settled disk rfl)
          refine ⟨same.trans labels.claims, ?_, labels.queues⟩
          intro result member
          rcases List.mem_append.mp member with earlier | last
          · exact labels.devices result earlier
          · rw [List.mem_singleton.mp last]
            exact pvc.trans (by rw [labels.claims])

theorem queried_scsi {disk : String}
    (queried : Queried numQueues answers virtioScsi disk) : disk = "" := by
  obtain ⟨devices, -, entry, -, -, named, -⟩ := queried
  obtain ⟨_, -, same⟩ := Option.map_eq_some_iff.mp named
  exact same.symm

theorem labels_stable (failed : fetchPVCMap answers.fetch = ∅)
    {entries : List BlockDevice} (answered : answers.blockStats = .ok entries)
    (settled : ∀ disk, Asks numQueues answers disk → ClaimCache.Settled pvcMap disk) :
    Stable numQueues answers (Labels pvcMap) where
  close _ labels := ⟨labels.claims, labels.devices, labels.queues⟩
  count _ labels := ⟨labels.claims, labels.devices, labels.queues⟩
  blk {s disk} qi qs queried labels := by
    obtain ⟨pvc, same⟩ := ClaimCache.refreshPVC_settled failed
      (labels.claims ▸ settled disk ⟨entries, answered, .inr queried⟩)
    refine ⟨same.trans labels.claims, labels.devices, ?_⟩
    intro queue member named
    rcases List.mem_append.mp member with earlier | last
    · exact labels.queues queue earlier named
    · rw [List.mem_singleton.mp last]
      exact pvc.trans (by rw [labels.claims])
  scsi qi qs queried labels := by
    refine ⟨labels.claims, labels.devices, ?_⟩
    intro queue member named
    rcases List.mem_append.mp member with earlier | last
    · exact labels.queues queue earlier named
    · rw [List.mem_singleton.mp last] at named
      exact absurd (queried_scsi queried) named

theorem run_labels (cfg : PollerConfig)
    (failed : fetchPVCMap answers.fetch = ∅)
    {entries : List BlockDevice} {s : Scrape}
    (settled : ∀ disk, Asks s.numQueues answers disk →
      ClaimCache.Settled pvcMap disk)
    (answered : answers.blockStats = .ok entries) (labels : Labels pvcMap s) :
    Labels pvcMap (s.run cfg answers entries).state := by
  apply (labels_stable failed answered settled).run
  · intro t dev member holds
    apply holds.addDevice failed
    intro disk reported
    exact settled disk ⟨entries, answered, .inl ⟨dev, member, reported⟩⟩
  · obtain ⟨devices, queues, -, claims⟩ :=
      armDevices_report cfg answers entries.zipIdx s
    exact ⟨claims ▸ labels.claims, devices ▸ labels.devices,
      queues ▸ labels.queues⟩

def Fetched (s : Scrape) : Prop :=
  ∃ fetch, s.claims.pvcMap = fetchPVCMap fetch

theorem fetched_stable (numQueues : Table String Int) (answers : Answers) :
    Stable numQueues answers Fetched where
  close _ fetched := fetched
  count _ fetched := fetched
  blk {_ disk} _ _ _ fetched :=
    ClaimCache.refreshPVC_fetched fetched answers.fetch disk
  scsi _ _ _ fetched := fetched

theorem run_fetched {cfg : PollerConfig} {entries : List BlockDevice}
    {s : Scrape} (fetched : s.Fetched) :
    (s.run cfg answers entries).state.Fetched := by
  apply (fetched_stable s.numQueues answers).run
  · intro t dev _ holds
    unfold Scrape.addDevice
    split
    next => exact holds
    next disk _ _ =>
      split
      next => exact holds
      next => exact ClaimCache.refreshPVC_fetched holds answers.fetch disk
  · obtain ⟨-, -, -, claims⟩ := armDevices_report cfg answers entries.zipIdx s
    unfold Fetched
    rw [claims]
    exact fetched

end Scrape

namespace Session

theorem scrape_keeps_claims {cfg : PollerConfig} {session : Session}
    {answers : Answers} (fails : answers.fetch.fails = true)
    (settled : ∀ disk, Asks session.conn.numQueues answers disk →
      ClaimCache.Settled session.conn.pvcMap disk) :
    (session.next cfg answers).conn.pvcMap = session.conn.pvcMap ∧
      ∀ result, (session.scrape cfg answers).result = some result →
        (∀ dev ∈ result.devices,
          dev.pvc = session.conn.pvcMap.getD dev.disk "") ∧
        ∀ queue ∈ result.virtqueues, queue.disk ≠ "" →
          queue.pvc = session.conn.pvcMap.getD queue.disk "" := by
  rcases session.conn.scrapeVM_cases cfg session.clientClosed answers with
    ⟨same, -, none⟩ | ⟨entries, s, answered, rfl, finished, -, reported⟩
  · refine ⟨congrArg VMConnection.pvcMap same, ?_⟩
    intro result scraped
    rw [scrape, none] at scraped
    cases scraped
  · have labels := Scrape.run_labels cfg (fetchPVCMap_of_fails fails)
      (s := session.conn.start false) settled answered
      ⟨rfl, by simp [VMConnection.start], by simp [VMConnection.start]⟩
    refine ⟨?_, ?_⟩
    · rw [next, scrape, finished]
      exact labels.claims
    · intro result scraped
      obtain ⟨devices, queues⟩ := reported result scraped
      rw [devices, queues]
      exact ⟨labels.devices, labels.queues⟩

/-- In the scrape after the history, each disk with a claim known at the start
is reported with that claim. -/
def KeepsClaims (cfg : PollerConfig) (session : Session)
    (history : List Answers) (answers : Answers) : Prop :=
  ∀ result, ((stateAfter (next cfg) session history).scrape cfg
      answers).result = some result →
    ∀ disk claim, session.conn.pvcMap.lookup disk = some claim → claim ≠ "" →
      (∀ dev ∈ result.devices, dev.disk = disk → dev.pvc = claim) ∧
      ∀ queue ∈ result.virtqueues, queue.disk = disk → queue.pvc = claim

theorem after_unnamed (cfg : PollerConfig) (pod : PodInfo) (fetch : FetchReply)
    (client : Nat) (history : List Answers) :
    (stateAfter (next cfg) (dial pod fetch client)
      history).conn.pvcMap.lookup "" = none := by
  have fetched : ∃ fetch', (stateAfter (next cfg) (dial pod fetch client)
      history).conn.pvcMap = fetchPVCMap fetch' := by
    induction history using List.reverseRecOn with
    | nil => exact ⟨fetch, rfl⟩
    | append_singleton history answers induction =>
        rw [stateAfter_append_singleton]
        generalize stateAfter (next cfg) (dial pod fetch client) history =
          session at induction
        rcases session.conn.scrapeVM_cases cfg session.clientClosed answers with
          ⟨same, -⟩ | ⟨entries, s, -, rfl, finished, -⟩
        · rw [next, scrape, same]
          exact induction
        · rw [next, scrape, finished]
          exact Scrape.run_fetched (s := session.conn.start false) induction
  obtain ⟨fetch', same⟩ := fetched
  rw [same]
  exact fetchPVCMap_unnamed fetch'

/-- In none of the scrapes the VMI object can be read, and every disk they ask
for has a known claim. -/
def Settled (cfg : PollerConfig) (session : Session) (history : List Answers) : Prop :=
  Throughout (fun before answers => answers.fetch.fails = true ∧
    ∀ disk, Asks (stateAfter (next cfg) session before).conn.numQueues answers disk →
      ClaimCache.Settled session.conn.pvcMap disk) history

theorem after_pvcMap {cfg : PollerConfig} {session : Session}
    {history : List Answers} (settled : Settled cfg session history) :
    (stateAfter (next cfg) session history).conn.pvcMap =
      session.conn.pvcMap := by
  induction history using List.reverseRecOn with
  | nil => rfl
  | append_singleton history answers induction =>
      unfold Settled at settled
      rw [throughout_append_singleton] at settled
      obtain ⟨earlier, fails, asked⟩ := settled
      have same := induction earlier
      rw [stateAfter_append_singleton, (scrape_keeps_claims fails ?_).1, same]
      intro disk asks
      rw [same]
      exact asked disk asks

theorem keepsClaims_of_settled {cfg : PollerConfig} {session : Session}
    {history : List Answers} {answers : Answers}
    (unnamed : session.conn.pvcMap.lookup "" = none)
    (settled : Settled cfg session (history ++ [answers])) :
    KeepsClaims cfg session history answers := by
  intro result scraped disk claim known _
  unfold Settled at settled
  rw [throughout_append_singleton] at settled
  obtain ⟨earlier, fails, asked⟩ := settled
  have same := after_pvcMap earlier
  obtain ⟨devices, queues⟩ := (scrape_keeps_claims fails (by
    intro disk asks
    rw [same]
    exact asked disk asks)).2 result scraped
  rw [same] at devices queues
  have label : session.conn.pvcMap.getD disk "" = claim := by
    rw [Table.getD, known]
    rfl
  have named : disk ≠ "" := by
    intro empty
    rw [empty, unnamed] at known
    cases known
  refine ⟨fun dev member here => ?_, fun queue member here => ?_⟩
  · rw [devices dev member, here, label]
  · rw [queues queue member (here ▸ named), here, label]

end Session

end KubevirtMetrics.Qmp
