import KubevirtMetrics.Data.Marshal
import KubevirtMetrics.Qmp.Scrape

namespace KubevirtMetrics.Qmp

open Data Virt
open Data.Json (Into Members field unmarshal Has Lacks member? string? object? integer?
  list? ShowsString ShowsNat ShowsInt ShowsOption ShowsList)

/-! The commands of `client.go` as the texts that go over the connection, and what is made
of the texts that come back. -/

/-- What becomes of the text of a command. -/
abbrev Transport := List Char → Reply (List Char)

def qmpCommand (execute : String) (arguments : Option Members) : Json :=
  .object (("execute".toList, .string execute.toList) ::
    arguments.elim [] fun members => [("arguments".toList, .object members)])

structure QMPError where
  class_ : List Char
  desc : List Char

structure QMPResponse where
  return_ : Option Json
  error : Option QMPError

def qmpError : Into QMPError := .object fun old members => do
  let class_ ← field "class" .string old.class_ members
  let desc ← field "desc" .string old.desc members
  some ⟨class_, desc⟩

def qmpResponse : Into QMPResponse := .object fun old members => do
  let return_ ← field "return" .raw old.return_ members
  let error ← field "error" (.pointer ⟨[], []⟩ qmpError) old.error members
  some ⟨return_, error⟩

/-- The result is absent where the answer has none. -/
def execQMP (transport : Transport) (command : String) (arguments : Option Members) :
    Reply (Option Json) :=
  match transport (qmpCommand command arguments).marshal with
  | .failed => .failed
  | .expired => .expired
  | .ok result =>
      match unmarshal ⟨none, none⟩ qmpResponse result with
      | none => .failed
      | some resp => if resp.error.isSome then .failed else .ok resp.return_

/-- There is nothing to parse where the answer has no result. -/
def parsed {α : Type} (zero : α) (into : Into α) : Reply (Option Json) → Reply α
  | .failed => .failed
  | .expired => .expired
  | .ok result =>
      match result.bind (into zero) with
      | some value => .ok value
      | none => .failed

/-! ### The types of `types.go` -/

def text : Into String := fun old json => (Into.string old.toList json).map String.ofList

def uint64 : Into UInt64 := fun old json => (Into.uint 64 old.toNat json).map UInt64.ofNat

def uint32 : Into UInt32 := fun old json => (Into.uint 32 old.toNat json).map UInt32.ofNat

def boundary : Into ℚ
  | old, .null => some old
  | _, .number literal =>
      match Text.parseFloat? literal.text with
      | some (.finite value) => some value
      | _ => none
  | _, _ => none

def latencyHist : Into LatencyHist := .object fun old members => do
  let boundaries ← field "boundaries" (.slice 0 boundary) old.boundaries members
  let bins ← field "bins" (.slice 0 uint64) old.bins members
  some ⟨boundaries, bins⟩

def histogram : Into (Option LatencyHist) := .pointer ⟨[], []⟩ latencyHist

/-- The numbers of operations are decoded, and not looked at later. -/
def blockStats : Into BlockStats := .object fun old members => do
  let _ ← field "rd_operations" uint64 0 members
  let _ ← field "wr_operations" uint64 0 members
  let _ ← field "flush_operations" uint64 0 members
  let rdTotalTimeNs ← field "rd_total_time_ns" uint64 old.rdTotalTimeNs members
  let wrTotalTimeNs ← field "wr_total_time_ns" uint64 old.wrTotalTimeNs members
  let flushTotalTimeNs ← field "flush_total_time_ns" uint64 old.flushTotalTimeNs members
  let rd ← field "rd_latency_histogram" histogram old.rdLatencyHistogram members
  let wr ← field "wr_latency_histogram" histogram old.wrLatencyHistogram members
  let flush ← field "flush_latency_histogram" histogram old.flushLatencyHistogram members
  some ⟨rdTotalTimeNs, wrTotalTimeNs, flushTotalTimeNs, rd, wr, flush⟩

def zeroStats : BlockStats := ⟨0, 0, 0, none, none, none⟩

def zeroDevice : BlockDevice := .mk "" zeroStats none

/-- A text is not read if it nests deeper than `Json.maxNestingDepth`, so the chain of
backing devices is bounded. -/
def blockDevice : Nat → Into BlockDevice
  | 0 => fun _ _ => none
  | depth + 1 => .object fun old members =>
      match old with
      | .mk qdev stats backing => do
          let qdev ← field "qdev" text qdev members
          let stats ← field "stats" blockStats stats members
          let backing ← field "backing" (.pointer zeroDevice (blockDevice depth)) backing
            members
          some (.mk qdev stats backing)

def virtioDevice : Into VirtioDevice := .object fun old members => do
  let path ← field "path" text old.path members
  let name ← field "name" text old.name members
  some ⟨path, name⟩

/-- Of the status, the number of queues. -/
def virtioStatus : Into Int := .object fun old members => do
  let _ ← field "name" text "" members
  field "num-vqs" .int old members

def virtQueueStatus : Into VirtQueueStatus := .object fun old members => do
  let _ ← field "name" text "" members
  let _ ← field "queue-index" .int 0 members
  let inuse ← field "inuse" uint32 old.inuse members
  let vringNum ← field "vring-num" uint32 old.vringNum members
  some ⟨inuse, vringNum⟩

/-! ### The queries -/

def queryBlockStats (transport : Transport) : Reply (List BlockDevice) :=
  parsed [] (.slice zeroDevice (blockDevice Json.maxNestingDepth))
    (execQMP transport "query-blockstats" none)

/-- The keys of the arguments are sorted. -/
def enableHistogram (transport : Transport) (deviceID : String)
    (boundariesNs : List Int) :
    Reply Unit :=
  match execQMP transport "block-latency-histogram-set"
      (some [("boundaries".toList, .array (boundariesNs.map .int)),
        ("id".toList, .string deviceID.toList)]) with
  | .failed => .failed
  | .expired => .expired
  | .ok _ => .ok ()

def queryVirtio (transport : Transport) : Reply (List VirtioDevice) :=
  parsed [] (.slice ⟨"", ""⟩ virtioDevice) (execQMP transport "x-query-virtio" none)

def queryVirtioStatus (transport : Transport) (path : String) : Reply Int :=
  parsed 0 virtioStatus
    (execQMP transport "x-query-virtio-status"
      (some [("path".toList, .string path.toList)]))

def queryVirtioQueueStatus (transport : Transport) (path : String) (queue : Nat) :
    Reply VirtQueueStatus :=
  parsed ⟨0, 0⟩ virtQueueStatus
    (execQMP transport "x-query-virtio-queue-status"
      (some [("path".toList, .string path.toList), ("queue".toList, .nat queue)]))

/-- What a scrape can ask for; requests in a loop are told apart by their positions. -/
structure Operations where
  queryBlockStats : Reply (List BlockDevice)
  enableHistogram : Nat → String → List Int → Reply Unit
  queryVirtio : Reply (List VirtioDevice)
  queryVirtioStatus : Nat → String → Reply Int
  queryVirtioQueueStatus : Nat → Nat → String → Reply VirtQueueStatus

def replied {α : Type} : Reply (List α) → List α
  | .ok values => values
  | _ => []

/-- The answers of the requests that `scrapeVM` makes about the entries it was given. -/
def Operations.answers (operations : Operations) (cfg : PollerConfig)
    (fetch : FetchReply) :
    Answers where
  blockStats := operations.queryBlockStats
  enableHistogram i :=
    match (replied operations.queryBlockStats)[i]?.bind fun device =>
        extractDiskInfo device.effectiveQDev with
    | some (_, deviceID) => operations.enableHistogram i deviceID cfg.boundariesNs
    | none => .failed
  virtio := operations.queryVirtio
  virtioStatus i :=
    match (replied operations.queryVirtio)[i]? with
    | some device => operations.queryVirtioStatus i device.path
    | none => .failed
  virtioQueueStatus i queue :=
    match (replied operations.queryVirtio)[i]? with
    | some device => operations.queryVirtioQueueStatus i queue device.path
    | none => .failed
  fetch := fetch

inductive Request
  | blockStats
  | enableHistogram (i : Nat)
  | virtio
  | virtioStatus (i : Nat)
  | virtioQueueStatus (i queue : Nat)

/-- The requests over a connection whose other end may change from one to the next. -/
def wired (connection : Request → Transport) : Operations where
  queryBlockStats := queryBlockStats (connection .blockStats)
  enableHistogram i := enableHistogram (connection (.enableHistogram i))
  queryVirtio := queryVirtio (connection .virtio)
  queryVirtioStatus i := queryVirtioStatus (connection (.virtioStatus i))
  queryVirtioQueueStatus i queue path :=
    queryVirtioQueueStatus (connection (.virtioQueueStatus i queue)) path queue

/-! ### The other end -/

/-- A command as the monitor understands it. -/
inductive MonitorCommand
  | queryBlockStats
  | blockLatencyHistogramSet (id : List Char) (boundaries : List Int)
  | queryVirtio
  | queryVirtioStatus (path : List Char)
  | queryVirtioQueueStatus (path : List Char) (queue : Int)

def monitorCommand (value : Json) : Option MonitorCommand := do
  let members ← object? value
  let execute ← (member? members "execute").bind string?
  let arguments := ((member? members "arguments").bind object?).getD []
  if execute = "query-blockstats".toList then some .queryBlockStats
  else if execute = "block-latency-histogram-set".toList then do
    let id ← (member? arguments "id").bind string?
    let boundaries ← (member? arguments "boundaries").bind (list? integer?)
    some (.blockLatencyHistogramSet id boundaries)
  else if execute = "x-query-virtio".toList then some .queryVirtio
  else if execute = "x-query-virtio-status".toList then
    ((member? arguments "path").bind string?).map .queryVirtioStatus
  else if execute = "x-query-virtio-queue-status".toList then do
    let path ← (member? arguments "path").bind string?
    let queue ← (member? arguments "queue").bind integer?
    some (.queryVirtioQueueStatus path queue)
  else none

def received (sent : List Char) : Option MonitorCommand :=
  (Json.read sent).bind monitorCommand

theorem received_of {value : Json} {command : MonitorCommand}
    (shallow : value.depth ≤ Json.maxNestingDepth)
    (understood : monitorCommand value = some command) :
    received value.marshal = some command := by
  rw [received, Json.read_marshal shallow, Option.bind_some, understood]

theorem received_queryBlockStats :
    received (qmpCommand "query-blockstats" none).marshal = some .queryBlockStats :=
  received_of (by decide) rfl

theorem received_enableHistogram (deviceID : String) (boundariesNs : List Int) :
    received (qmpCommand "block-latency-histogram-set"
        (some [("boundaries".toList, .array (boundariesNs.map .int)),
          ("id".toList, .string deviceID.toList)])).marshal =
      some (.blockLatencyHistogramSet deviceID.toList boundariesNs) := by
  apply received_of
  · have flat := Json.itemDepth_map (fun n : Int => show (Json.int n).depth = 0 from rfl)
      boundariesNs
    simp only [qmpCommand, Option.elim_some, Json.depth, Json.memberDepth, flat]
    decide
  · show ((list? integer? (.array (boundariesNs.map .int))).bind fun boundaries =>
      some (MonitorCommand.blockLatencyHistogramSet deviceID.toList boundaries)) = _
    rw [Json.list?_map Json.integer?_int]
    rfl

theorem received_queryVirtio :
    received (qmpCommand "x-query-virtio" none).marshal = some .queryVirtio :=
  received_of (by decide) rfl

theorem received_queryVirtioStatus (path : String) :
    received (qmpCommand "x-query-virtio-status"
        (some [("path".toList, .string path.toList)])).marshal =
      some (.queryVirtioStatus path.toList) := by
  apply received_of
  · simp only [qmpCommand, Option.elim_some, Json.depth, Json.memberDepth]
    decide
  · rfl

theorem received_queryVirtioQueueStatus (path : String) (queue : Nat) :
    received (qmpCommand "x-query-virtio-queue-status"
        (some [("path".toList, .string path.toList),
          ("queue".toList, .nat queue)])).marshal =
      some (.queryVirtioQueueStatus path.toList queue) := by
  apply received_of
  · simp only [qmpCommand, Option.elim_some, Json.depth, Json.memberDepth, Json.nat,
      Json.int]
    decide
  · show ((integer? (.int queue)).bind fun queue =>
      some (MonitorCommand.queryVirtioQueueStatus path.toList queue)) = _
    rw [Json.integer?_int]
    rfl

/-! ### What a result shows -/

section Shows

variable (members : Members) (name : String)

def ShowsText (value : String) : Prop := ShowsString members name value.toList

def ShowsUInt64 (value : UInt64) : Prop := ShowsNat members name value.toNat

def ShowsUInt32 (value : UInt32) : Prop := ShowsNat members name value.toNat

end Shows

/-- The boundaries are whole nanoseconds, and small enough to be exact. -/
def ShowsHist (hist : LatencyHist) (json : Json) : Prop :=
  ∃ (members : Members) (boundaries : List Nat), json = .object members ∧
    hist.boundaries = boundaries.map (fun (n : Nat) => (n : ℚ)) ∧
      (∀ n ∈ boundaries, n < 2 ^ 53) ∧
    Has members "boundaries" (.array (boundaries.map .nat)) ∧
    Has members "bins" (.array (hist.bins.map fun n => .nat n.toNat))

structure ShowsStats (stats : BlockStats) (members : Members) : Prop where
  rdOperations : ∃ n, ShowsUInt64 members "rd_operations" n
  wrOperations : ∃ n, ShowsUInt64 members "wr_operations" n
  flushOperations : ∃ n, ShowsUInt64 members "flush_operations" n
  rdTotalTimeNs : ShowsUInt64 members "rd_total_time_ns" stats.rdTotalTimeNs
  wrTotalTimeNs : ShowsUInt64 members "wr_total_time_ns" stats.wrTotalTimeNs
  flushTotalTimeNs : ShowsUInt64 members "flush_total_time_ns" stats.flushTotalTimeNs
  rdLatencyHistogram :
    ShowsOption members "rd_latency_histogram" ShowsHist stats.rdLatencyHistogram
  wrLatencyHistogram :
    ShowsOption members "wr_latency_histogram" ShowsHist stats.wrLatencyHistogram
  flushLatencyHistogram :
    ShowsOption members "flush_latency_histogram" ShowsHist stats.flushLatencyHistogram

/-- The members of a device may stand in any order, with others between them. -/
def ShowsDevice : BlockDevice → Json → Prop
  | .mk qdev stats backing, json =>
      ∃ members inner, json = .object members ∧ ShowsText members "qdev" qdev ∧
        Has members "stats" (.object inner) ∧ ShowsStats stats inner ∧
        match backing with
        | none => Lacks members "backing"
        | some device => ∃ json, Has members "backing" json ∧ ShowsDevice device json

def ShowsVirtioDevice (device : VirtioDevice) (json : Json) : Prop :=
  ∃ members, json = .object members ∧ ShowsText members "path" device.path ∧
    ShowsText members "name" device.name

def ShowsVirtioStatus (numVqs : Int) (json : Json) : Prop :=
  ∃ members, json = .object members ∧ (∃ name, ShowsText members "name" name) ∧
    ShowsInt members "num-vqs" numVqs

def ShowsQueueStatus (status : VirtQueueStatus) (json : Json) : Prop :=
  ∃ members, json = .object members ∧ (∃ name, ShowsText members "name" name) ∧
    (∃ index, ShowsInt members "queue-index" index) ∧
    ShowsUInt32 members "inuse" status.inuse ∧
    ShowsUInt32 members "vring-num" status.vringNum

section Decode

variable {members : Members} {name : String}

theorem field_text {value : String} (shows : ShowsText members name value) :
    field name text "" members = some value := by
  rcases shows with has | ⟨lacks, empty⟩
  · apply Json.field_of_has has
    show some (String.ofList value.toList) = some value
    rw [String.ofList_toList]
  · rw [Json.field_of_lacks lacks, String.toList_eq_nil_iff.mp empty]

theorem uint64_nat (old value : UInt64) : uint64 old (.nat value.toNat) = some value := by
  rw [uint64, Json.Into.uint_nat _ value.toNat_lt, Option.map_some, UInt64.ofNat_toNat]

theorem field_uint64 {value : UInt64} (shows : ShowsUInt64 members name value) :
    field name uint64 0 members = some value := by
  rcases shows with has | ⟨lacks, zero⟩
  · exact Json.field_of_has has (uint64_nat 0 value)
  · obtain rfl : value = 0 := UInt64.toNat_inj.mp zero
    exact Json.field_of_lacks lacks

theorem field_uint32 {value : UInt32} (shows : ShowsUInt32 members name value) :
    field name uint32 0 members = some value := by
  rcases shows with has | ⟨lacks, zero⟩
  · apply Json.field_of_has has
    rw [uint32, Json.Into.uint_nat _ value.toNat_lt, Option.map_some, UInt32.ofNat_toNat]
  · obtain rfl : value = 0 := UInt32.toNat_inj.mp zero
    exact Json.field_of_lacks lacks

theorem boundary_nat {n : Nat} (small : n < 2 ^ 53) :
    boundary 0 (.nat n) = some (n : ℚ) := by
  have read : Text.atoi? (Text.itoa n) = some (n : Int) :=
    Text.atoi?_itoa (by omega) (by exact_mod_cast small.trans (by norm_num))
  have float := (Text.parseFloat?_of_atoi? read).1
  have exact' := @Binary64.round_natCast n 0 (one_dvd n) small
  show (match Text.parseFloat? (Text.itoa n) with
    | some (.finite value) => some value
    | _ => none) = _
  rw [float]
  exact congrArg some (by exact_mod_cast exact')

theorem latencyHist_shows {hist : LatencyHist} {json : Json}
    (shows : ShowsHist hist json) :
    latencyHist ⟨[], []⟩ json = some hist := by
  obtain ⟨members, boundaries, rfl, same, small, hasBoundaries, hasBins⟩ := shows
  have first : field "boundaries" (Into.slice 0 boundary) [] members =
      some hist.boundaries := by
    apply Json.field_of_has hasBoundaries
    apply Json.Into.slice_array
    rw [same, List.forall₂_map_left_iff, List.forall₂_map_right_iff, List.forall₂_same]
    exact fun n member => boundary_nat (small n member)
  have second : field "bins" (Into.slice 0 uint64) [] members = some hist.bins := by
    apply Json.field_of_has hasBins
    apply Json.Into.slice_array
    rw [List.forall₂_map_left_iff, List.forall₂_same]
    exact fun n _ => uint64_nat 0 n
  show ((field "boundaries" (Into.slice 0 boundary) [] members).bind fun boundaries =>
    (field "bins" (Into.slice 0 uint64) [] members).bind fun bins =>
      some (LatencyHist.mk boundaries bins)) = some hist
  rw [first, second]
  rfl

theorem field_histogram {hist : Option LatencyHist}
    (shows : ShowsOption members name ShowsHist hist) :
    field name histogram none members = some hist := by
  apply Json.field_pointer shows
  intro value json shown
  refine ⟨?_, latencyHist_shows shown⟩
  rintro rfl
  obtain ⟨_, _, same, _⟩ := shown
  cases same

theorem blockStats_shows {stats : BlockStats} (shows : ShowsStats stats members) :
    blockStats zeroStats (.object members) = some stats := by
  obtain ⟨_, rdOperations⟩ := shows.rdOperations
  obtain ⟨_, wrOperations⟩ := shows.wrOperations
  obtain ⟨_, flushOperations⟩ := shows.flushOperations
  simp only [blockStats, Json.Into.object, zeroStats, Option.bind_eq_bind,
    Option.bind_some, field_uint64 rdOperations, field_uint64 wrOperations,
    field_uint64 flushOperations, field_uint64 shows.rdTotalTimeNs,
    field_uint64 shows.wrTotalTimeNs, field_uint64 shows.flushTotalTimeNs,
    field_histogram shows.rdLatencyHistogram, field_histogram shows.wrLatencyHistogram,
    field_histogram shows.flushLatencyHistogram]

theorem ShowsDevice.ne_null {device : BlockDevice} {json : Json}
    (shows : ShowsDevice device json) : json ≠ .null := by
  cases device with
  | mk qdev stats backing =>
      unfold ShowsDevice at shows
      obtain ⟨members, inner, rfl, -⟩ := shows
      nofun

/-- By recursion on the chain of backing devices, each one level deeper in the text. -/
theorem blockDevice_shows : (device : BlockDevice) → {json : Json} → {depth : Nat} →
    ShowsDevice device json → json.depth ≤ depth →
    blockDevice depth zeroDevice json = some device
  | .mk qdev stats backing, json, depth, shows, shallow => by
      unfold ShowsDevice at shows
      obtain ⟨members, inner, rfl, hasQDev, hasStats, showsStats, hasBacking⟩ := shows
      cases depth with
      | zero => cases shallow
      | succ depth =>
          have bound : Json.memberDepth members ≤ depth := Nat.le_of_succ_le_succ shallow
          have last :
              field "backing" (Into.pointer zeroDevice (blockDevice depth)) none members =
                some backing := by
            cases backing with
            | none => exact Json.field_of_lacks hasBacking
            | some device =>
                obtain ⟨json, has, shown⟩ := hasBacking
                have decoded :=
                  blockDevice_shows device shown ((Json.depth_of_has has).trans bound)
                exact Json.field_of_has has (Json.Into.pointer_of shown.ne_null decoded)
          have second := Json.field_of_has hasStats (blockStats_shows showsStats)
          show ((field "qdev" text "" members).bind fun qdev =>
            (field "stats" blockStats zeroStats members).bind fun stats =>
              (field "backing" (Into.pointer zeroDevice (blockDevice depth)) none
                members).bind fun backing => some (BlockDevice.mk qdev stats backing)) = _
          rw [field_text hasQDev, second, last]
          rfl

theorem virtioDevice_shows {device : VirtioDevice} {json : Json}
    (shows : ShowsVirtioDevice device json) :
    virtioDevice ⟨"", ""⟩ json = some device := by
  obtain ⟨members, rfl, path, name⟩ := shows
  simp only [virtioDevice, Json.Into.object, field_text path, field_text name,
    Option.bind_eq_bind, Option.bind_some]

theorem virtioStatus_shows {numVqs : Int} {json : Json}
    (shows : ShowsVirtioStatus numVqs json) : virtioStatus 0 json = some numVqs := by
  obtain ⟨members, rfl, ⟨_, name⟩, number⟩ := shows
  simp only [virtioStatus, Json.Into.object, field_text name, Json.field_int number,
    Option.bind_eq_bind, Option.bind_some]

theorem virtQueueStatus_shows {status : VirtQueueStatus} {json : Json}
    (shows : ShowsQueueStatus status json) :
    virtQueueStatus ⟨0, 0⟩ json = some status := by
  obtain ⟨members, rfl, ⟨_, name⟩, ⟨_, index⟩, inuse, vringNum⟩ := shows
  simp only [virtQueueStatus, Json.Into.object, field_text name, Json.field_int index,
    field_uint32 inuse, field_uint32 vringNum, Option.bind_eq_bind, Option.bind_some]

end Decode

/-! ### A connection that conveys the answers of a machine -/

/-- The text of an answer to a command. -/
inductive Conveyed {α : Type} (shows : α → Json → Prop) :
    Reply α → Reply (List Char) → Prop
  | expired : Conveyed shows .expired .expired
  | failed : Conveyed shows .failed .failed
  | refused {members : Members} {sent : List Char} {error : Members}
      (writes : (Json.object members).Writes sent)
      (shallow : (Json.object members).depth ≤ Json.maxNestingDepth)
      (has : Has members "error" (.object error))
      (class_ : ∃ value, ShowsText error "class" value)
      (desc : ∃ value, ShowsText error "desc" value) :
      Conveyed shows .failed (.ok sent)
  | answered {members : Members} {sent : List Char} {json : Json} {value : α}
      (writes : (Json.object members).Writes sent)
      (shallow : (Json.object members).depth ≤ Json.maxNestingDepth)
      (has : Has members "return" json) (lacks : Lacks members "error")
      (shown : shows value json) :
      Conveyed shows (.ok value) (.ok sent)

/-- Whatever text a command comes in, the machine does what the command says, and its
answer comes back in some text. -/
structure Conveys (machine : Operations) (connection : Request → Transport) : Prop where
  blockStats : ∀ {sent}, received sent = some .queryBlockStats →
    Conveyed (ShowsList ShowsDevice) machine.queryBlockStats (connection .blockStats sent)
  enableHistogram : ∀ {i sent id boundaries},
    received sent = some (.blockLatencyHistogramSet id boundaries) →
    Conveyed (fun _ _ => True) (machine.enableHistogram i (String.ofList id) boundaries)
      (connection (.enableHistogram i) sent)
  virtio : ∀ {sent}, received sent = some .queryVirtio →
    Conveyed (ShowsList ShowsVirtioDevice) machine.queryVirtio (connection .virtio sent)
  virtioStatus : ∀ {i sent path}, received sent = some (.queryVirtioStatus path) →
    Conveyed ShowsVirtioStatus (machine.queryVirtioStatus i (String.ofList path))
      (connection (.virtioStatus i) sent)
  virtioQueueStatus : ∀ {i sent path} {queue : Nat},
    received sent = some (.queryVirtioQueueStatus path queue) →
    Conveyed ShowsQueueStatus (machine.queryVirtioQueueStatus i queue
      (String.ofList path))
      (connection (.virtioQueueStatus i queue) sent)

theorem qmpResponse_answered {members : Members} {json : Json}
    (has : Has members "return" json) (lacks : Lacks members "error") :
    qmpResponse ⟨none, none⟩ (.object members) = some ⟨some json, none⟩ := by
  have first : field "return" Into.raw none members = some (some json) :=
    Json.field_of_has has rfl
  have second : field "error" (Into.pointer ⟨[], []⟩ qmpError) none members = some none :=
    Json.field_of_lacks lacks
  simp only [qmpResponse, Json.Into.object, first, second, Option.bind_eq_bind,
    Option.bind_some]

theorem qmpError_shown {error : Members} {class_ desc : String}
    (showsClass : ShowsText error "class" class_)
    (showsDesc : ShowsText error "desc" desc) :
    qmpError ⟨[], []⟩ (.object error) = some ⟨class_.toList, desc.toList⟩ := by
  simp only [qmpError, Json.Into.object, Json.field_string showsClass,
    Json.field_string showsDesc, Option.bind_eq_bind, Option.bind_some]

theorem qmpResponse_refused {members error : Members}
    (has : Has members "error" (.object error)) {value : QMPError}
    (decoded : qmpError ⟨[], []⟩ (.object error) = some value) :
    ∃ result, qmpResponse ⟨none, none⟩ (.object members) = some ⟨result, some value⟩ := by
  obtain ⟨result, first⟩ := Json.field_raw "return" none members
  have second : field "error" (Into.pointer ⟨[], []⟩ qmpError) none members =
      some (some value) :=
    Json.field_of_has has (Json.Into.pointer_of nofun decoded)
  refine ⟨result, ?_⟩
  simp only [qmpResponse, Json.Into.object, first, second, Option.bind_eq_bind,
    Option.bind_some]

/-- What a command returns, whatever text the answer came in. -/
theorem execQMP_conveyed {α : Type} {shows : α → Json → Prop} {transport : Transport}
    {command : String} {arguments : Option Members} {answer : Reply α}
    (conveyed : Conveyed shows answer
      (transport (qmpCommand command arguments).marshal)) :
    (answer = .expired ∧ execQMP transport command arguments = .expired) ∨
    (answer = .failed ∧ execQMP transport command arguments = .failed) ∨
    ∃ value json, answer = .ok value ∧
      execQMP transport command arguments = .ok (some json) ∧
      shows value json ∧ json.depth ≤ Json.maxNestingDepth := by
  unfold execQMP
  generalize transport (qmpCommand command arguments).marshal = sent at conveyed
  cases conveyed with
  | expired => exact .inl ⟨rfl, rfl⟩
  | failed => exact .inr (.inl ⟨rfl, rfl⟩)
  | refused writes shallow has class_ desc =>
      obtain ⟨_, showsClass⟩ := class_
      obtain ⟨_, showsDesc⟩ := desc
      obtain ⟨result, refused⟩ :=
        qmpResponse_refused has (qmpError_shown showsClass showsDesc)
      refine .inr (.inl ⟨rfl, ?_⟩)
      dsimp only
      rw [unmarshal, Json.read_of_writes writes shallow, Option.bind_some, refused]
      rfl
  | @answered members sent json value writes shallow has lacks shown =>
      refine .inr (.inr ⟨value, json, rfl, ?_, shown, ?_⟩)
      · dsimp only
        rw [unmarshal, Json.read_of_writes writes shallow, Option.bind_some,
          qmpResponse_answered has lacks]
        rfl
      · exact (Json.depth_of_has has).trans ((Nat.le_succ _).trans shallow)

theorem parsed_conveyed {α : Type} {shows : α → Json → Prop} {transport : Transport}
    {command : String} {arguments : Option Members} {answer : Reply α} {zero : α}
    {into : Into α}
    (conveyed : Conveyed shows answer (transport (qmpCommand command arguments).marshal))
    (decodes : ∀ {value json}, shows value json → json.depth ≤ Json.maxNestingDepth →
      into zero json = some value) :
    parsed zero into (execQMP transport command arguments) = answer := by
  rcases execQMP_conveyed conveyed with
    ⟨rfl, sent⟩ | ⟨rfl, sent⟩ | ⟨value, json, rfl, sent, shown, shallow⟩
  · rw [sent, parsed]
  · rw [sent, parsed]
  · rw [sent, parsed, Option.bind_some, decodes shown shallow]

section Connection

variable {machine : Operations} {connection : Request → Transport}
  (conveys : Conveys machine connection)

include conveys

theorem wired_queryBlockStats :
    (wired connection).queryBlockStats = machine.queryBlockStats := by
  apply parsed_conveyed (conveys.blockStats received_queryBlockStats)
  intro values json shown shallow
  apply Json.slice_shows shown
  intro device item shown deep
  exact blockDevice_shows device shown (deep.trans shallow)

theorem wired_enableHistogram (i : Nat) (deviceID : String) (boundariesNs : List Int) :
    (wired connection).enableHistogram i deviceID boundariesNs =
      machine.enableHistogram i deviceID boundariesNs := by
  have conveyed := @Conveys.enableHistogram _ _ conveys i _ _ _
    (received_enableHistogram deviceID boundariesNs)
  rw [String.ofList_toList] at conveyed
  show enableHistogram (connection (.enableHistogram i)) deviceID boundariesNs = _
  unfold enableHistogram
  rcases execQMP_conveyed conveyed with
    ⟨same, sent⟩ | ⟨same, sent⟩ | ⟨value, json, same, sent, -⟩
  · rw [sent, same]
  · rw [sent, same]
  · rw [sent, same]

theorem wired_queryVirtio : (wired connection).queryVirtio = machine.queryVirtio := by
  apply parsed_conveyed (conveys.virtio received_queryVirtio)
  intro values json shown _
  apply Json.slice_shows shown
  intro device item shown _
  exact virtioDevice_shows shown

theorem wired_queryVirtioStatus (i : Nat) (path : String) :
    (wired connection).queryVirtioStatus i path = machine.queryVirtioStatus i path := by
  have conveyed :=
    @Conveys.virtioStatus _ _ conveys i _ _ (received_queryVirtioStatus path)
  rw [String.ofList_toList] at conveyed
  apply parsed_conveyed conveyed
  intro numVqs json shown _
  exact virtioStatus_shows shown

theorem wired_queryVirtioQueueStatus (i queue : Nat) (path : String) :
    (wired connection).queryVirtioQueueStatus i queue path =
      machine.queryVirtioQueueStatus i queue path := by
  have conveyed := @Conveys.virtioQueueStatus _ _ conveys i _ _ queue
    (received_queryVirtioQueueStatus path queue)
  rw [String.ofList_toList] at conveyed
  apply parsed_conveyed conveyed
  intro status json shown _
  exact virtQueueStatus_shows shown

theorem wired_eq : wired connection = machine := by
  have arms := funext fun i => funext fun deviceID => funext fun boundariesNs =>
    wired_enableHistogram conveys i deviceID boundariesNs
  have statuses := funext fun i => funext fun path =>
    wired_queryVirtioStatus conveys i path
  have queues := funext fun i => funext fun queue => funext fun path =>
    wired_queryVirtioQueueStatus conveys i queue path
  cases machine with
  | mk =>
      exact Operations.mk.injEq .. |>.mpr ⟨wired_queryBlockStats conveys, arms,
        wired_queryVirtio conveys, statuses, queues⟩

end Connection

/-- A scrape over the texts of a connection is the scrape of the machine at its other
end. -/
theorem scrapeVM_wired (cfg : PollerConfig) (conn : VMConnection) (closed : Bool)
    (fetch : FetchReply) {machine : Operations} {connection : Request → Transport}
    (conveys : Conveys machine connection) :
    conn.scrapeVM cfg closed ((wired connection).answers cfg fetch) =
      conn.scrapeVM cfg closed (machine.answers cfg fetch) := by
  rw [wired_eq conveys]

/-! A machine with a disk whose histograms are on, under a node without a name, and a
virtio disk that is armed by the scrape. -/

def sampleHist : LatencyHist := ⟨[1000000], [3, 4]⟩

def sampleStats : BlockStats := ⟨70, 0, 0, some sampleHist, none, none⟩

def rootPath : String := "/machine/peripheral/ua-root/virtio-backend"

def sampleDevices : List BlockDevice :=
  [.mk "" sampleStats (some (.mk "ua-data" zeroStats none)), .mk rootPath zeroStats none]

def sampleMachine : Operations where
  queryBlockStats := .ok sampleDevices
  enableHistogram _ _ _ := .ok ()
  queryVirtio := .ok [⟨rootPath, "virtio-blk"⟩]
  queryVirtioStatus _ _ := .ok 1
  queryVirtioQueueStatus _ _ _ := .ok ⟨2, 256⟩

def sampleStatsMembers : Members :=
  [("wr_total_time_ns".toList, .nat 0), ("rd_total_time_ns".toList, .nat 70),
    ("rd_latency_histogram".toList, .object
      [("bins".toList, .array [.nat 3, .nat 4]),
        ("boundaries".toList, .array [.nat 1000000])])]

/-- A device without counts. -/
def quietMembers (qdev : String) : Members :=
  [("stats".toList, .object []), ("qdev".toList, .string qdev.toList)]

def sampleMembers : Members :=
  [("device".toList, .string []), ("stats".toList, .object sampleStatsMembers),
    ("backing".toList, .object (quietMembers "ua-data"))]

def returning (json : Json) : Json := .object [("return".toList, json)]

def sampleConnection : Request → Transport
  | .blockStats, _ =>
      .ok (returning (.array [.object sampleMembers,
        .object (quietMembers rootPath)])).marshal
  | .enableHistogram _, _ => .ok (returning (.object [])).marshal
  | .virtio, _ =>
      .ok (returning (.array [.object [("name".toList, .string "virtio-blk".toList),
        ("path".toList, .string rootPath.toList)]])).marshal
  | .virtioStatus _, _ => .ok (returning (.object [("num-vqs".toList, .int 1)])).marshal
  | .virtioQueueStatus _ _, _ =>
      .ok (returning (.object [("vring-num".toList, .nat 256),
        ("inuse".toList, .nat 2)])).marshal

theorem sampleStats_shown : ShowsStats sampleStats sampleStatsMembers where
  rdOperations := ⟨0, .inr ⟨rfl, rfl⟩⟩
  wrOperations := ⟨0, .inr ⟨rfl, rfl⟩⟩
  flushOperations := ⟨0, .inr ⟨rfl, rfl⟩⟩
  rdTotalTimeNs := .inl ⟨_, rfl⟩
  wrTotalTimeNs := .inl ⟨_, rfl⟩
  flushTotalTimeNs := .inr ⟨rfl, rfl⟩
  rdLatencyHistogram :=
    ⟨_, ⟨_, rfl⟩, _, [1000000], rfl, by simp [sampleHist], by simp, ⟨_, rfl⟩, ⟨_, rfl⟩⟩
  wrLatencyHistogram := rfl
  flushLatencyHistogram := rfl

theorem zeroStats_shown : ShowsStats zeroStats [] :=
  ⟨⟨0, .inr ⟨rfl, rfl⟩⟩, ⟨0, .inr ⟨rfl, rfl⟩⟩, ⟨0, .inr ⟨rfl, rfl⟩⟩, .inr ⟨rfl, rfl⟩,
    .inr ⟨rfl, rfl⟩, .inr ⟨rfl, rfl⟩, rfl, rfl, rfl⟩

theorem quietDevice_shown (qdev : String) :
    ShowsDevice (.mk qdev zeroStats none) (.object (quietMembers qdev)) := by
  unfold ShowsDevice
  exact ⟨_, _, rfl, .inl ⟨_, rfl⟩, ⟨_, rfl⟩, zeroStats_shown, rfl⟩

theorem sampleDevice_shown :
    ShowsDevice (.mk "" sampleStats (some (.mk "ua-data" zeroStats none)))
      (.object sampleMembers) := by
  unfold ShowsDevice
  exact ⟨_, _, rfl, .inr ⟨rfl, rfl⟩, ⟨_, rfl⟩, sampleStats_shown, _, ⟨_, rfl⟩,
    quietDevice_shown "ua-data"⟩

theorem conveyed_returning {α : Type} {shows : α → Json → Prop} {value : α} {json : Json}
    (shown : shows value json)
    (shallow : (returning json).depth ≤ Json.maxNestingDepth) :
    Conveyed shows (.ok value) (.ok (returning json).marshal) :=
  .answered (Json.writes_marshal (returning json)) shallow ⟨_, rfl⟩ rfl shown

theorem sampleConnection_conveys : Conveys sampleMachine sampleConnection where
  blockStats _ := conveyed_returning
    ⟨_, rfl, .cons sampleDevice_shown
      (.cons (quietDevice_shown rootPath) .nil)⟩ (by decide)
  enableHistogram _ := conveyed_returning trivial (by decide)
  virtio _ := conveyed_returning
    ⟨_, rfl, .cons ⟨_, rfl, .inl ⟨_, rfl⟩, .inl ⟨_, rfl⟩⟩ .nil⟩ (by decide)
  virtioStatus _ := conveyed_returning
    ⟨_, rfl, ⟨"", .inr ⟨rfl, rfl⟩⟩, .inl ⟨by decide, _, rfl⟩⟩ (by decide)
  virtioQueueStatus _ := conveyed_returning
    ⟨_, rfl, ⟨"", .inr ⟨rfl, rfl⟩⟩, ⟨0, .inr ⟨rfl, rfl⟩⟩, .inl ⟨_, rfl⟩, .inl ⟨_, rfl⟩⟩
    (by decide)

def sampleConfig : PollerConfig := ⟨"node-1", [1000000], [], ""⟩

def sampleConn : VMConnection :=
  newConnection ⟨"default", "virt-launcher-vm", "vm"⟩ .failed 0

theorem scrapeVM_wired_sample :
    (sampleConn.scrapeVM sampleConfig false
        ((wired sampleConnection).answers sampleConfig .failed)).result =
      some ⟨"default", "vm", "node-1", "virt-launcher-vm", [⟨"data", "", sampleStats⟩],
        [⟨"root", "", "virtio", 0, 2, 256⟩]⟩ ∧
    (sampleConn.scrapeVM sampleConfig false
        ((wired sampleConnection).answers sampleConfig .failed)).commands =
      [⟨"ua-root/virtio-backend", [1000000]⟩] := by
  rw [scrapeVM_wired sampleConfig sampleConn false .failed sampleConnection_conveys]
  constructor
  · decide +kernel
  · decide +kernel

end KubevirtMetrics.Qmp
