import KubevirtMetrics.Data.Flow
import KubevirtMetrics.Qmp.Types
import KubevirtMetrics.Virt.Claims
import KubevirtMetrics.Virt.Pods
import KubevirtMetrics.Data.Run

namespace KubevirtMetrics.Qmp

open Data Virt

/-! `scrapeVM` of `collector.go`: one scrape of one virtual machine. -/

/-- How a request ends.  When its context runs out while it is in flight the
client is closed; otherwise a failure leaves the client as it was. -/
inductive Reply (α : Type)
  | ok (value : α)
  | failed
  | expired
  deriving DecidableEq

/-- `Client.call`: what the caller gets, and whether the client is closed then. -/
def callClient (closed : Bool) (reply : Reply α) : Option α × Bool :=
  if closed then (none, true)
  else
    match reply with
    | .ok value => (some value, false)
    | .failed => (none, false)
    | .expired => (none, true)

/-- The answers that one scrape can ask for, by the position of the request in
its loop. -/
structure Answers where
  blockStats : Reply (List BlockDevice)
  enableHistogram : Nat → Reply Unit
  virtio : Reply (List VirtioDevice)
  virtioStatus : Nat → Reply Int
  virtioQueueStatus : Nat → Nat → Reply VirtQueueStatus
  fetch : FetchReply

structure DeviceResult where
  disk : String
  pvc : String
  stats : BlockStats
  deriving DecidableEq

structure VirtqueueResult where
  disk : String
  pvc : String
  bus : String
  queue : Nat
  inuse : UInt32
  vringNum : UInt32
  deriving DecidableEq

structure VMIResult where
  namespace_ : String
  name : String
  node : String
  podName : String
  devices : List DeviceResult
  virtqueues : List VirtqueueResult
  deriving DecidableEq

structure PollerConfig where
  nodeName : String
  boundariesNs : List Int
  namespaces : List String
  labelFilter : String

structure ArmCommand where
  id : String
  boundaries : List Int
  deriving DecidableEq

/-- The variables of `scrapeVM` and the fields of the connection it changes. -/
structure Scrape where
  closed : Bool
  armed : Table String Bool
  numQueues : Table String Int
  claims : ClaimCache
  commands : List ArmCommand
  devices : List DeviceResult
  virtqueues : List VirtqueueResult

namespace Scrape

/-- A request after which an error is skipped unless it closed the client. -/
def attempt (s : Scrape) (reply : Reply α) (next : Scrape → α → Flow Scrape) :
    Flow Scrape :=
  match callClient s.closed reply with
  | (some value, closed) => next { s with closed := closed } value
  | (none, closed) =>
      if closed then .error { s with closed := closed }
      else .ok { s with closed := closed }

def armDevice (cfg : PollerConfig) (answers : Answers) (s : Scrape)
    (entry : BlockDevice × Nat) : Flow Scrape :=
  match extractDiskInfo entry.1.effectiveQDev with
  | none => .ok s
  | some (_, deviceID) =>
      if s.armed.getD deviceID false then .ok s
      else if !hasHistograms entry.1 then
        let s : Scrape := { s with
          commands := s.commands ++ [⟨deviceID, cfg.boundariesNs⟩] }
        s.attempt (answers.enableHistogram entry.2) fun s _ =>
          .ok { s with armed := s.armed.insert deviceID true }
      else
        .ok { s with armed := s.armed.insert deviceID true }

def addDevice (answers : Answers) (s : Scrape) (dev : BlockDevice) : Scrape :=
  match extractDiskInfo dev.effectiveQDev with
  | none => s
  | some (disk, _) =>
      if !hasHistograms dev then s
      else
        let (pvc, claims) := s.claims.refreshPVC answers.fetch disk
        { s with
          claims := claims
          devices := s.devices ++ [⟨disk, pvc, dev.stats⟩] }

/-- What differs between the loops over virtio-blk and virtio-scsi devices. -/
structure Bus where
  name : String
  owns : VirtioDevice → Bool
  -- devices whose path gives no disk label are skipped
  disk : String → Option String
  hasClaims : Bool

def virtioBlk : Bus where
  name := "virtio"
  owns := isVirtioBlk
  disk path := (extractDiskInfo path).map Prod.fst
  hasClaims := true

/-- The controller's name only decides whether the device is skipped. -/
def virtioScsi : Bus where
  name := "scsi"
  owns := isVirtioScsi
  disk path := (extractControllerName path).map fun _ => ""
  hasClaims := false

def addQueue (bus : Bus) (answers : Answers) (disk : String) (s : Scrape)
    (qi : Nat) (qs : VirtQueueStatus) : Scrape :=
  let (pvc, claims) :=
    if bus.hasClaims then s.claims.refreshPVC answers.fetch disk
    else ("", s.claims)
  { s with
    claims := claims
    virtqueues := s.virtqueues ++
      [⟨disk, pvc, bus.name, qi, qs.inuse, qs.vringNum⟩] }

def queryQueues (bus : Bus) (answers : Answers) (device : Nat) (disk : String)
    (nq : Int) (s : Scrape) : Flow Scrape :=
  Flow.loop (fun s qi =>
    s.attempt (answers.virtioQueueStatus device qi) fun s qs =>
      .ok (s.addQueue bus answers disk qi qs)) s (List.range nq.toNat)

def queryDevice (bus : Bus) (answers : Answers) (s : Scrape)
    (entry : VirtioDevice × Nat) : Flow Scrape :=
  if !bus.owns entry.1 then .ok s
  else
    match bus.disk entry.1.path with
    | none => .ok s
    | some disk =>
        match s.numQueues.lookup entry.1.path with
        | some nq => s.queryQueues bus answers entry.2 disk nq
        | none =>
            s.attempt (answers.virtioStatus entry.2) fun s nq =>
              let s :=
                if nq > 0 then
                  { s with numQueues := s.numQueues.insert entry.1.path nq }
                else s
              s.queryQueues bus answers entry.2 disk nq

def run (cfg : PollerConfig) (answers : Answers) (entries : List BlockDevice)
    (s : Scrape) : Flow Scrape :=
  (Flow.loop (armDevice cfg answers) s entries.zipIdx).bind fun s =>
    (entries.foldl (addDevice answers) s).attempt answers.virtio
      fun s devices =>
        (Flow.loop (queryDevice virtioBlk answers) s devices.zipIdx).bind
          fun s => Flow.loop (queryDevice virtioScsi answers) s devices.zipIdx

end Scrape

/-- `vmConnection`; the client is named by the number of its dialling. -/
structure VMConnection where
  client : Nat
  namespace_ : String
  vmi : String
  podName : String
  armed : Table String Bool
  numQueues : Table String Int
  pvcMap : Table String String
  closed : Bool

structure ScrapeOutcome where
  result : Option VMIResult
  conn : VMConnection
  clientClosed : Bool
  commands : List ArmCommand

def newConnection (pod : PodInfo) (fetch : FetchReply) (client : Nat) :
    VMConnection where
  client := client
  namespace_ := pod.namespace_
  vmi := pod.vmiName
  podName := pod.podName
  armed := ∅
  numQueues := ∅
  pvcMap := fetchPVCMap fetch
  closed := false

namespace VMConnection

def start (conn : VMConnection) (closed : Bool) : Scrape where
  closed := closed
  armed := conn.armed
  numQueues := conn.numQueues
  claims := ⟨conn.pvcMap, false⟩
  commands := []
  devices := []
  virtqueues := []

def finish (conn : VMConnection) (s : Scrape) : VMConnection :=
  { conn with
    armed := s.armed
    numQueues := s.numQueues
    pvcMap := s.claims.pvcMap }

def scrapeVM (cfg : PollerConfig) (conn : VMConnection) (clientClosed : Bool)
    (answers : Answers) : ScrapeOutcome :=
  if conn.closed then ⟨none, conn, clientClosed, []⟩
  else
    match callClient clientClosed answers.blockStats with
    | (none, closed) => ⟨none, conn, closed, []⟩
    | (some entries, closed) =>
        match (conn.start closed).run cfg answers entries with
        | .error s => ⟨none, conn.finish s, s.closed, s.commands⟩
        | .ok s =>
            ⟨some {
              namespace_ := conn.namespace_
              name := conn.vmi
              node := cfg.nodeName
              podName := conn.podName
              devices := s.devices
              virtqueues := s.virtqueues },
              conn.finish s, s.closed, s.commands⟩

end VMConnection

/-! ### Open clients -/

theorem callClient_ok {closed closed' : Bool} {reply : Reply α} {value : α}
    (called : callClient closed reply = (some value, closed')) :
    closed = false ∧ closed' = false ∧ reply = .ok value := by
  unfold callClient at called
  cases closed with
  | true => simp at called
  | false =>
      cases reply with
      | ok v =>
          simp only [Bool.false_eq_true, if_false, Prod.mk.injEq,
            Option.some.injEq] at called
          exact ⟨rfl, called.2.symm, by rw [called.1]⟩
      | failed => simp at called
      | expired => simp at called

namespace Scrape

theorem attempt_eq_ok {s final : Scrape} {reply : Reply α}
    {next : Scrape → α → Flow Scrape} :
    s.attempt reply next = .ok final ↔
      s.closed = false ∧ ((∃ value, reply = .ok value ∧
        next s value = .ok final) ∨ (reply = .failed ∧ final = s)) := by
  obtain ⟨closed, armed, numQueues, claims, commands, devices, virtqueues⟩ := s
  cases closed with
  | true => simp [attempt, callClient]
  | false =>
      cases reply with
      | ok value => simp [attempt, callClient]
      | failed => simp [attempt, callClient, eq_comm]
      | expired => simp [attempt, callClient]

theorem attempt_cases (s : Scrape) (reply : Reply α)
    (next : Scrape → α → Flow Scrape) :
    (∃ value, reply = .ok value ∧ s.attempt reply next = next s value) ∨
      ∃ closed, (s.attempt reply next).state = { s with closed := closed } := by
  obtain ⟨closed, armed, numQueues, claims, commands, devices, virtqueues⟩ := s
  cases closed with
  | true => exact .inr ⟨true, rfl⟩
  | false =>
      cases reply with
      | ok value => exact .inl ⟨value, rfl, rfl⟩
      | failed => exact .inr ⟨false, rfl⟩
      | expired => exact .inr ⟨true, rfl⟩

theorem armDevice_reports (cfg : PollerConfig) (answers : Answers) (s : Scrape)
    (entry : BlockDevice × Nat) :
    (s.armDevice cfg answers entry).state.devices = s.devices ∧
      (s.armDevice cfg answers entry).state.virtqueues = s.virtqueues ∧
      (s.armDevice cfg answers entry).state.numQueues = s.numQueues ∧
      (s.armDevice cfg answers entry).state.claims = s.claims := by
  unfold armDevice
  split
  next => exact ⟨rfl, rfl, rfl, rfl⟩
  next =>
    split
    next => exact ⟨rfl, rfl, rfl, rfl⟩
    next =>
      split
      next =>
        rcases attempt_cases _ _ _ with ⟨_, -, done⟩ | ⟨closed, stopped⟩
        · rw [done]
          exact ⟨rfl, rfl, rfl, rfl⟩
        · rw [stopped]
          exact ⟨rfl, rfl, rfl, rfl⟩
      next => exact ⟨rfl, rfl, rfl, rfl⟩

theorem armDevices_report (cfg : PollerConfig) (answers : Answers)
    (rounds : List (BlockDevice × Nat)) (s : Scrape) :
    (Flow.loop (armDevice cfg answers) s rounds).state.devices = s.devices ∧
      (Flow.loop (armDevice cfg answers) s rounds).state.virtqueues =
        s.virtqueues ∧
      (Flow.loop (armDevice cfg answers) s rounds).state.numQueues =
        s.numQueues ∧
      (Flow.loop (armDevice cfg answers) s rounds).state.claims = s.claims := by
  apply Flow.loop_state (fun t : Scrape => t.devices = s.devices ∧
    t.virtqueues = s.virtqueues ∧ t.numQueues = s.numQueues ∧
      t.claims = s.claims) _ ⟨rfl, rfl, rfl, rfl⟩
  intro t entry _ ⟨devices, queues, counts, claims⟩
  obtain ⟨devices', queues', counts', claims'⟩ :=
    armDevice_reports cfg answers t entry
  exact ⟨devices'.trans devices, queues'.trans queues, counts'.trans counts,
    claims'.trans claims⟩

theorem addDevice_keeps (answers : Answers) (s : Scrape) (dev : BlockDevice) :
    (s.addDevice answers dev).numQueues = s.numQueues ∧
      (s.addDevice answers dev).closed = s.closed := by
  unfold addDevice
  split
  next => exact ⟨rfl, rfl⟩
  next =>
    split
    next => exact ⟨rfl, rfl⟩
    next => exact ⟨rfl, rfl⟩

theorem addDevices_keep (answers : Answers) (s : Scrape) (entries : List BlockDevice) :
    (entries.foldl (addDevice answers) s).numQueues = s.numQueues ∧
      (entries.foldl (addDevice answers) s).closed = s.closed := by
  apply List.foldlRecOn entries (addDevice answers)
    (motive := fun t => t.numQueues = s.numQueues ∧ t.closed = s.closed) ⟨rfl, rfl⟩
  intro t ⟨counts, closed⟩ dev _
  obtain ⟨counts', closed'⟩ := addDevice_keeps answers t dev
  exact ⟨counts'.trans counts, closed'.trans closed⟩

@[simp] theorem addQueue_closed (bus : Bus) (answers : Answers)
    (disk : String) (s : Scrape) (qi : Nat) (qs : VirtQueueStatus) :
    (s.addQueue bus answers disk qi qs).closed = s.closed := rfl

theorem armDevice_closed {cfg : PollerConfig} {answers : Answers}
    {s s' : Scrape} {entry : BlockDevice × Nat} (opened : s.closed = false)
    (armed : s.armDevice cfg answers entry = .ok s') : s'.closed = false := by
  unfold armDevice at armed
  split at armed
  next => exact Except.ok.inj armed ▸ opened
  next =>
    split at armed
    next => exact Except.ok.inj armed ▸ opened
    next =>
      split at armed
      next =>
        obtain ⟨-, ⟨_, -, done⟩ | ⟨-, rfl⟩⟩ := attempt_eq_ok.mp armed
        · exact Except.ok.inj done ▸ opened
        · exact opened
      next => exact Except.ok.inj armed ▸ opened

theorem queryQueues_closed {bus : Bus} {answers : Answers} {device : Nat}
    {disk : String} {nq : Int} {s s' : Scrape} (opened : s.closed = false)
    (queried : s.queryQueues bus answers device disk nq = .ok s') :
    s'.closed = false := by
  refine Flow.loop_invariant (fun s => s.closed = false) ?_ opened queried
  intro t qi t' _ stillOpen asked
  obtain ⟨-, ⟨qs, -, done⟩ | ⟨-, rfl⟩⟩ := attempt_eq_ok.mp asked
  · rw [← Except.ok.inj done, addQueue_closed]
    exact stillOpen
  · exact stillOpen

theorem queryDevice_closed {bus : Bus} {answers : Answers} {s s' : Scrape}
    {entry : VirtioDevice × Nat} (opened : s.closed = false)
    (queried : s.queryDevice bus answers entry = .ok s') :
    s'.closed = false := by
  unfold queryDevice at queried
  split at queried
  next => exact Except.ok.inj queried ▸ opened
  next =>
    split at queried
    next => exact Except.ok.inj queried ▸ opened
    next =>
      split at queried
      next => exact queryQueues_closed opened queried
      next =>
        obtain ⟨-, ⟨nq, -, counted⟩ | ⟨-, rfl⟩⟩ := attempt_eq_ok.mp queried
        · refine queryQueues_closed ?_ counted
          split
          next => exact opened
          next => exact opened
        · exact opened

theorem run_closed {cfg : PollerConfig} {answers : Answers}
    {entries : List BlockDevice} {s s' : Scrape} (opened : s.closed = false)
    (ended : s.run cfg answers entries = .ok s') : s'.closed = false := by
  obtain ⟨t, armed, rest⟩ := Flow.bind_eq_ok.mp ended
  have openThen : t.closed = false :=
    Flow.loop_invariant (fun s => s.closed = false)
      (fun _ _ _ _ => armDevice_closed) opened armed
  obtain ⟨stillOpen, ⟨devices, -, queried⟩ | ⟨-, rfl⟩⟩ := attempt_eq_ok.mp rest
  · obtain ⟨u, blk, scsi⟩ := Flow.bind_eq_ok.mp queried
    have openBlk : u.closed = false :=
      Flow.loop_invariant (fun s => s.closed = false)
        (fun _ _ _ _ => queryDevice_closed) stillOpen blk
    exact Flow.loop_invariant (fun s => s.closed = false)
      (fun _ _ _ _ => queryDevice_closed) openBlk scsi
  · exact stillOpen

/-! ### Invariants of the queries

A property of the scrape is kept by all queries for virtqueues, completed or
not, when every queue they add keeps it. -/

/-- The number of queues of a device, known before the scrape or answered. -/
def Counted (numQueues : Table String Int) (answers : Answers)
    (devices : List VirtioDevice) (path : String) (nq : Int) : Prop :=
  numQueues.lookup path = some nq ∨ ∃ entry ∈ devices.zipIdx,
    entry.1.path = path ∧ answers.virtioStatus entry.2 = .ok nq

/-- The status of a queue of the disk is answered. -/
def Queried (numQueues : Table String Int) (answers : Answers) (bus : Bus)
    (disk : String) : Prop :=
  ∃ devices, answers.virtio = .ok devices ∧ ∃ entry ∈ devices.zipIdx,
    bus.owns entry.1 = true ∧ bus.disk entry.1.path = some disk ∧
    ∃ nq, Counted numQueues answers devices entry.1.path nq ∧
      ∃ qi < nq.toNat, ∃ qs, answers.virtioQueueStatus entry.2 qi = .ok qs

def Keeps (numQueues : Table String Int) (answers : Answers)
    (Inv : Scrape → Prop) (bus : Bus) : Prop :=
  ∀ {s disk} qi qs, Queried numQueues answers bus disk → Inv s →
    Inv (s.addQueue bus answers disk qi qs)

/-- `numQueues` is what is known before the scrape. -/
structure Stable (numQueues : Table String Int) (answers : Answers)
    (Inv : Scrape → Prop) : Prop where
  close : ∀ {s} closed, Inv s → Inv { s with closed := closed }
  count : ∀ {s} numQueues, Inv s → Inv { s with numQueues := numQueues }
  blk : Keeps numQueues answers Inv virtioBlk
  scsi : Keeps numQueues answers Inv virtioScsi

/-- Every number that the scrape has is counted. -/
def Knows (numQueues : Table String Int) (answers : Answers)
    (devices : List VirtioDevice) (s : Scrape) : Prop :=
  ∀ path nq, s.numQueues.lookup path = some nq →
    Counted numQueues answers devices path nq

theorem queryQueues_numQueues (bus : Bus) (answers : Answers) (device : Nat)
    (disk : String) (nq : Int) (s : Scrape) :
    (s.queryQueues bus answers device disk nq).state.numQueues = s.numQueues := by
  apply Flow.loop_state fun t : Scrape => t.numQueues = s.numQueues
  · intro t qi _ same
    rcases attempt_cases t (answers.virtioQueueStatus device qi) _ with
      ⟨qs, -, done⟩ | ⟨closed, stopped⟩
    · rw [done]
      exact same
    · rw [stopped]
      exact same
  · rfl

namespace Stable

variable {numQueues : Table String Int} {answers : Answers} {Inv : Scrape → Prop}

theorem attempt {s : Scrape} {reply : Reply α} {next : Scrape → α → Flow Scrape}
    (stable : Stable numQueues answers Inv) (initial : Inv s)
    (answered : ∀ value, reply = .ok value → Inv (next s value).state) :
    Inv (s.attempt reply next).state := by
  rcases attempt_cases s reply next with ⟨value, ok, done⟩ | ⟨closed, stopped⟩
  · rw [done]
    exact answered value ok
  · rw [stopped]
    exact stable.close closed initial

theorem queryQueues (stable : Stable numQueues answers Inv) {bus : Bus}
    (keeps : Keeps numQueues answers Inv bus) {device : Nat} {disk : String}
    {nq : Int} {s : Scrape}
    (queried : ∀ qi < nq.toNat, ∀ qs, answers.virtioQueueStatus device qi = .ok qs →
      Queried numQueues answers bus disk)
    (initial : Inv s) : Inv (s.queryQueues bus answers device disk nq).state := by
  apply Flow.loop_state Inv
  · intro s qi member holds
    apply stable.attempt holds
    intro qs answered
    exact keeps qi qs (queried qi (List.mem_range.mp member) qs answered) holds
  · exact initial

theorem queryDevice (stable : Stable numQueues answers Inv) {bus : Bus}
    (keeps : Keeps numQueues answers Inv bus) {devices : List VirtioDevice}
    {entry : VirtioDevice × Nat} {s : Scrape}
    (answered : answers.virtio = .ok devices) (member : entry ∈ devices.zipIdx)
    (initial : Inv s) (knows : Knows numQueues answers devices s) :
    Inv (s.queryDevice bus answers entry).state ∧
      Knows numQueues answers devices (s.queryDevice bus answers entry).state := by
  unfold Scrape.queryDevice
  split
  next => exact ⟨initial, knows⟩
  next owned =>
    split
    next => exact ⟨initial, knows⟩
    next disk path =>
      have queried : ∀ nq, Counted numQueues answers devices entry.1.path nq →
          ∀ qi < nq.toNat, ∀ qs, answers.virtioQueueStatus entry.2 qi = .ok qs →
            Queried numQueues answers bus disk := by
        intro nq counted qi inside qs status
        exact ⟨devices, answered, entry, member, by simpa using owned, path, nq, counted,
          qi, inside, qs, status⟩
      split
      next nq cached =>
        refine ⟨stable.queryQueues keeps (queried nq (knows _ nq cached)) initial, ?_⟩
        unfold Knows
        rw [queryQueues_numQueues]
        exact knows
      next =>
        rcases attempt_cases s (answers.virtioStatus entry.2) _ with
          ⟨nq, status, done⟩ | ⟨closed, stopped⟩
        · have counted : Counted numQueues answers devices entry.1.path nq :=
            .inr ⟨entry, member, rfl, status⟩
          rw [done]
          constructor
          · apply stable.queryQueues keeps (queried nq counted)
            split
            next => exact stable.count _ initial
            next => exact initial
          · unfold Knows
            rw [queryQueues_numQueues]
            intro other number found
            split at found
            next =>
              rcases Table.of_lookup_insert found with ⟨rfl, rfl⟩ | earlier
              · exact counted
              · exact knows other number earlier
            next => exact knows other number found
        · rw [stopped]
          exact ⟨stable.close closed initial, knows⟩

theorem queryDevices (stable : Stable numQueues answers Inv) {bus : Bus}
    (keeps : Keeps numQueues answers Inv bus) {devices : List VirtioDevice}
    (answered : answers.virtio = .ok devices) {s : Scrape}
    (initial : Inv s ∧ Knows numQueues answers devices s) :
    Inv (Flow.loop (Scrape.queryDevice bus answers) s devices.zipIdx).state ∧
      Knows numQueues answers devices
        (Flow.loop (Scrape.queryDevice bus answers) s devices.zipIdx).state := by
  apply Flow.loop_state fun t => Inv t ∧ Knows numQueues answers devices t
  · intro t entry member ⟨holds, knows⟩
    exact stable.queryDevice keeps answered member holds knows
  · exact initial

theorem run {cfg : PollerConfig} {entries : List BlockDevice} {s : Scrape}
    (stable : Stable s.numQueues answers Inv)
    (device : ∀ {s dev}, dev ∈ entries → Inv s → Inv (s.addDevice answers dev))
    (armed : Inv (Flow.loop (armDevice cfg answers) s entries.zipIdx).state) :
    Inv (s.run cfg answers entries).state := by
  obtain ⟨-, -, same, -⟩ := armDevices_report cfg answers entries.zipIdx s
  unfold Scrape.run
  cases loop : Flow.loop (armDevice cfg answers) s entries.zipIdx with
  | error t =>
      rw [loop] at armed
      exact armed
  | ok t =>
      rw [loop, Flow.state_ok] at armed same
      have added : Inv (entries.foldl (addDevice answers) t) :=
        List.foldlRecOn entries _ armed fun _ kept _ member => device member kept
      rw [Except.bind]
      apply stable.attempt added
      intro devices answered
      have knows : Knows s.numQueues answers devices
          (entries.foldl (addDevice answers) t) := by
        intro path nq found
        rw [(addDevices_keep answers t entries).1, same] at found
        exact .inl found
      refine (Flow.bind_state (fun u => Inv u ∧ Knows s.numQueues answers devices u)
        (stable.queryDevices stable.blk answered ⟨added, knows⟩) ?_).1
      intro u holds
      exact stable.queryDevices stable.scsi answered holds

end Stable

end Scrape

namespace VMConnection

theorem scrapeVM_cases (cfg : PollerConfig) (conn : VMConnection)
    (clientClosed : Bool) (answers : Answers) :
    ((conn.scrapeVM cfg clientClosed answers).conn = conn ∧
      (conn.scrapeVM cfg clientClosed answers).commands = [] ∧
      (conn.scrapeVM cfg clientClosed answers).result = none) ∨
    ∃ entries s, answers.blockStats = .ok entries ∧
      s = ((conn.start false).run cfg answers entries).state ∧
      (conn.scrapeVM cfg clientClosed answers).conn = conn.finish s ∧
      (conn.scrapeVM cfg clientClosed answers).commands = s.commands ∧
      ∀ result, (conn.scrapeVM cfg clientClosed answers).result = some result →
        result.devices = s.devices ∧ result.virtqueues = s.virtqueues := by
  unfold scrapeVM
  split
  next => exact .inl ⟨rfl, rfl, rfl⟩
  next =>
    split
    next => exact .inl ⟨rfl, rfl, rfl⟩
    next entries closed called =>
      obtain ⟨rfl, rfl, answered⟩ := callClient_ok called
      refine .inr ⟨entries, _, answered, rfl, ?_⟩
      cases (conn.start false).run cfg answers entries with
      | ok s =>
          refine ⟨rfl, rfl, ?_⟩
          intro result scraped
          cases scraped
          exact ⟨rfl, rfl⟩
      | error s =>
          refine ⟨rfl, rfl, ?_⟩
          intro result scraped
          cases scraped

theorem scrapeVM_conn (cfg : PollerConfig) (conn : VMConnection)
    (clientClosed : Bool) (answers : Answers) :
    ∃ armed numQueues pvcMap,
      (conn.scrapeVM cfg clientClosed answers).conn =
        { conn with
          armed := armed, numQueues := numQueues, pvcMap := pvcMap } := by
  rcases conn.scrapeVM_cases cfg clientClosed answers with ⟨same, -⟩ |
    ⟨entries, s, -, -, finished, -⟩
  · exact ⟨conn.armed, conn.numQueues, conn.pvcMap, same⟩
  · exact ⟨_, _, _, finished⟩

theorem scrapeVM_result {cfg : PollerConfig} {conn : VMConnection}
    {clientClosed : Bool} {answers : Answers} {result : VMIResult}
    (scraped : (conn.scrapeVM cfg clientClosed answers).result = some result) :
    ∃ entries s, answers.blockStats = .ok entries ∧ clientClosed = false ∧
      (conn.start false).run cfg answers entries = .ok s ∧
      result = ⟨conn.namespace_, conn.vmi, cfg.nodeName, conn.podName,
        s.devices, s.virtqueues⟩ ∧
      (conn.scrapeVM cfg clientClosed answers).clientClosed = false ∧
      (conn.scrapeVM cfg clientClosed answers).conn = conn.finish s := by
  revert scraped
  unfold scrapeVM
  split
  next => intro scraped; cases scraped
  next =>
    split
    next => intro scraped; cases scraped
    next entries closed called =>
      obtain ⟨rfl, rfl, answered⟩ := callClient_ok called
      split
      next => intro scraped; cases scraped
      next s ended =>
        intro scraped
        exact ⟨entries, s, answered, rfl, ended, (Option.some.inj scraped).symm,
          Scrape.run_closed rfl ended, rfl⟩

end VMConnection

/-! ### One connection over its scrapes -/

structure Session where
  conn : VMConnection
  clientClosed : Bool

namespace Session

def dial (pod : PodInfo) (fetch : FetchReply) (client : Nat) : Session :=
  ⟨newConnection pod fetch client, false⟩

def scrape (cfg : PollerConfig) (session : Session) (answers : Answers) :
    ScrapeOutcome :=
  session.conn.scrapeVM cfg session.clientClosed answers

def next (cfg : PollerConfig) (session : Session) (answers : Answers) :
    Session :=
  ⟨(session.scrape cfg answers).conn, (session.scrape cfg answers).clientClosed⟩

@[simp] theorem next_closed (cfg : PollerConfig) (session : Session)
    (answers : Answers) :
    (session.next cfg answers).conn.closed = session.conn.closed := by
  obtain ⟨armed, numQueues, pvcMap, same⟩ :=
    session.conn.scrapeVM_conn cfg session.clientClosed answers
  simp [next, scrape, same]

theorem after_closed (cfg : PollerConfig) (pod : PodInfo) (fetch : FetchReply)
    (client : Nat) (history : List Answers) :
    (stateAfter (next cfg) (dial pod fetch client) history).conn.closed =
      false := by
  induction history using List.reverseRecOn with
  | nil => rfl
  | append_singleton history answers induction =>
      rw [stateAfter_append_singleton, next_closed, induction]

theorem scrape_commands {cfg : PollerConfig} {session : Session}
    {answers : Answers} {entries : List BlockDevice}
    (opened : session.conn.closed = false)
    (clientOpen : session.clientClosed = false)
    (answered : answers.blockStats = .ok entries) :
    (session.scrape cfg answers).commands =
      ((session.conn.start false).run cfg answers entries).state.commands := by
  unfold scrape VMConnection.scrapeVM
  simp only [opened, clientOpen, answered, callClient, Bool.false_eq_true,
    if_false]
  cases (session.conn.start false).run cfg answers entries with
  | ok s => rfl
  | error s => rfl

end Session

end KubevirtMetrics.Qmp
