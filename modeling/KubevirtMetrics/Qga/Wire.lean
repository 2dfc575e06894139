import KubevirtMetrics.Data.Base64
import KubevirtMetrics.Qga.Guest
import KubevirtMetrics.Qmp.Wire

namespace KubevirtMetrics.Qga

open Data Virt Qmp
open Data.Json (Into Members field unmarshal Has Lacks member? string? bool? object?
  integer? list? ShowsString ShowsBool ShowsInt ShowsOption ShowsList)

/-! The requests of a scrape to the guest agent as texts, and a process in the guest. -/

/-- `base64.StdEncoding.DecodeString`, and the bytes as characters. -/
def decodeString (data : List Char) : Option (List Char) :=
  (Base64.decode data).map Base64.runes

/-- What `AgentCommand` returns. -/
inductive AgentText
  | failed (message : List Char)
  | text (result : List Char)

def AgentText.answer {α : Type} (zero : α) (into : Into α) : AgentText → AgentAnswer α
  | .failed message => .failed message
  | .text result =>
      match unmarshal zero into result with
      | some value => .reply value
      | none => .unparsable

def execResponse : Into Int := .object fun old members =>
  field "return" (.object fun old members => field "pid" .int old members) old members

def execStatusReturn : Into ExecStatus := .object fun old members => do
  let exited ← field "exited" .bool old.exited members
  let exitCode ← field "exitcode" (.pointer 0 .int) old.exitCode members
  let signal ← field "signal" (.pointer 0 .int) old.signal members
  let outData ← field "out-data" .string old.outData members
  let errData ← field "err-data" .string old.errData members
  let outTruncated ← field "out-truncated" .bool old.outTruncated members
  let errTruncated ← field "err-truncated" .bool old.errTruncated members
  some ⟨exited, exitCode, signal, outData, errData, outTruncated, errTruncated⟩

def execStatusResponse : Into ExecStatus := .object fun old members =>
  field "return" execStatusReturn old members

def noStatus : ExecStatus := ⟨false, none, none, [], [], false, false⟩

def guestPCIController : Into PCIAddr := .object fun old members => do
  let domain ← field "domain" .int old.domain members
  let bus ← field "bus" .int old.bus members
  let slot ← field "slot" .int old.slot members
  let function ← field "function" .int old.function members
  some ⟨domain, bus, slot, function⟩

def guestDiskAddress : Into GuestDiskAddress := .object fun old members => do
  let _ ← field "bus-type" text "" members
  let serial ← field "serial" text old.serial members
  let pci ← field "pci-controller" (.pointer ⟨0, 0, 0, 0⟩ guestPCIController)
    old.pciController members
  let bus ← field "bus" .int old.bus members
  let target ← field "target" .int old.target members
  let unit ← field "unit" .int old.unit members
  some ⟨serial, pci, bus, target, unit⟩

def guestDiskEntry : Into GuestDiskEntry := .object fun old members => do
  let name ← field "name" text old.name members
  let address ← field "address" (.pointer ⟨"", none, 0, 0, 0⟩ guestDiskAddress)
    old.address members
  some ⟨name, address⟩

def guestGetDisksResponse : Into (List GuestDiskEntry) := .object fun old members =>
  field "return" (.slice ⟨"", none⟩ guestDiskEntry) old members

/-! ### The commands -/

def diskCounterPath : List Char := "powershell.exe".toList

def diskCounterArgs : List (List Char) :=
  ["-NoProfile".toList, "-NonInteractive".toList, "-Command".toList,
    ("Get-CimInstance Win32_PerfRawData_PerfDisk_PhysicalDisk | Select-Object " ++
      "Name,AvgDiskReadQueueLength,AvgDiskWriteQueueLength,DiskReadsPerSec," ++
      "DiskWritesPerSec,Timestamp_Sys100NS | ConvertTo-Csv -NoTypeInformation").toList]

/-- The keys are sorted. -/
def guestExecCommand (path : List Char) (args : List (List Char)) : Json :=
  .object [("arguments".toList, .object
      [("arg".toList, .array (args.map .string)), ("capture-output".toList, .bool true),
        ("path".toList, .string path)]),
    ("execute".toList, .string "guest-exec".toList)]

def guestExecStatusCommand (pid : Int) : Json :=
  .object [("arguments".toList, .object [("pid".toList, .int pid)]),
    ("execute".toList, .string "guest-exec-status".toList)]

/-- This command is written out in the source. -/
def guestGetDisksCommand : List Char := "\x7b\"execute\":\"guest-get-disks\"\x7d".toList

/-- The connection to the agent, and how long each command takes. -/
structure GuestLink where
  exec : List Char → AgentText × Int
  execStatus : Nat → List Char → AgentText × Int
  getDisks : List Char → AgentText × Int

namespace GuestLink

def ask {α : Type} (zero : α) (into : Into α) (reply : AgentText × Int) :
    AgentCommand α :=
  ⟨reply.1.answer zero into, reply.2⟩

def exec' (link : GuestLink) : AgentCommand Int :=
  ask 0 execResponse (link.exec (guestExecCommand diskCounterPath
    diskCounterArgs).marshal)

/-- The process that the later commands ask about. -/
def pid (link : GuestLink) : Int :=
  match link.exec'.answer with
  | .reply pid => pid
  | _ => 0

def agent (link : GuestLink) : GuestAgent where
  exec := link.exec'
  execStatus attempt :=
    ask noStatus execStatusResponse
      (link.execStatus attempt (guestExecStatusCommand link.pid).marshal)
  getDisks := ask [] guestGetDisksResponse (link.getDisks guestGetDisksCommand)

end GuestLink

/-! ### A process in the guest -/

inductive AgentRequest
  | exec (path : List Char) (args : List (List Char)) (captureOutput : Bool)
  | execStatus (pid : Int)
  | getDisks

def agentRequest (value : Json) : Option AgentRequest := do
  let members ← object? value
  let execute ← (member? members "execute").bind string?
  let arguments := ((member? members "arguments").bind object?).getD []
  if execute = "guest-exec".toList then do
    let path ← (member? arguments "path").bind string?
    let args ← (member? arguments "arg").bind (list? string?)
    let captureOutput ← (member? arguments "capture-output").bind bool?
    some (.exec path args captureOutput)
  else if execute = "guest-exec-status".toList then
    ((member? arguments "pid").bind integer?).map .execStatus
  else if execute = "guest-get-disks".toList then some .getDisks
  else none

def requested (sent : List Char) : Option AgentRequest :=
  (Json.read sent).bind agentRequest

inductive Ending
  | exited (code : Int)
  | killed (signal : Int)

/-- The process that prints the counters, and the disks of the guest. -/
structure GuestRun where
  pid : Int
  started : 0 < pid
  -- the number of polls that find the process running
  running : Nat
  ending : Ending
  stdout : List Char
  stderr : List Char
  disks : List GuestDiskEntry

/-- The output as the agent sends it; its lines may be broken anywhere. -/
def ShowsOutput (members : Members) (name : String) (output : List Char) : Prop :=
  ∃ data, ShowsString members name data ∧
    data.filter (!Base64.lineBreak ·) = Base64.encode (Base64.utf8 output)

def ShowsNumber (number : Int) (json : Json) : Prop :=
  json = .int number ∧ -2 ^ 63 ≤ number ∧ number < 2 ^ 63

def Ending.exitCode? : Ending → Option Int
  | .exited code => some code
  | .killed _ => none

def Ending.signal? : Ending → Option Int
  | .exited _ => none
  | .killed signal => some signal

/-- What the agent knows of a process that has ended. -/
structure ShowsExit (run : GuestRun) (members : Members) : Prop where
  exited : Has members "exited" (.bool true)
  exitCode : ShowsOption members "exitcode" ShowsNumber run.ending.exitCode?
  signal : ShowsOption members "signal" ShowsNumber run.ending.signal?
  outData : ShowsOutput members "out-data" run.stdout
  errData : ShowsOutput members "err-data" run.stderr
  outTruncated : ShowsBool members "out-truncated" false
  errTruncated : ∃ truncated, ShowsBool members "err-truncated" truncated

structure ShowsRunning (members : Members) : Prop where
  exited : Has members "exited" (.bool false)
  exitCode : Lacks members "exitcode"
  signal : Lacks members "signal"
  outData : Lacks members "out-data"
  errData : Lacks members "err-data"
  outTruncated : ShowsBool members "out-truncated" false
  errTruncated : ShowsBool members "err-truncated" false

def ShowsPCI (pci : PCIAddr) (json : Json) : Prop :=
  ∃ members, json = .object members ∧ ShowsInt members "domain" pci.domain ∧
    ShowsInt members "bus" pci.bus ∧ ShowsInt members "slot" pci.slot ∧
    ShowsInt members "function" pci.function

def ShowsAddress (address : GuestDiskAddress) (json : Json) : Prop :=
  ∃ members, json = .object members ∧ (∃ busType, ShowsText members "bus-type" busType) ∧
    ShowsText members "serial" address.serial ∧
    ShowsOption members "pci-controller" ShowsPCI address.pciController ∧
    ShowsInt members "bus" address.bus ∧ ShowsInt members "target" address.target ∧
    ShowsInt members "unit" address.unit

def ShowsDisk (disk : GuestDiskEntry) (json : Json) : Prop :=
  ∃ members, json = .object members ∧ ShowsText members "name" disk.name ∧
    ShowsOption members "address" ShowsAddress disk.address

/-- The text of an answer with a result. -/
def Returns (reply : AgentText) (shows : Json → Prop) : Prop :=
  ∃ result members json, reply = .text result ∧ (Json.object members).Writes result ∧
    (Json.object members).depth ≤ Json.maxNestingDepth ∧ Has members "return" json ∧
      shows json

/-- The agent does what the commands say, in whatever texts they come. -/
structure ConveysRun (run : GuestRun) (link : GuestLink) : Prop where
  exec : ∀ {sent}, requested sent = some (.exec diskCounterPath diskCounterArgs true) →
    Returns (link.exec sent).1 fun json =>
      ∃ members, json = .object members ∧ ShowsInt members "pid" run.pid
  running : ∀ {attempt sent}, requested sent = some (.execStatus run.pid) →
    attempt < run.running →
    Returns (link.execStatus attempt sent).1 fun json =>
      ∃ members, json = .object members ∧ ShowsRunning members
  exited : ∀ {attempt sent}, requested sent = some (.execStatus run.pid) →
    run.running ≤ attempt →
    Returns (link.execStatus attempt sent).1 fun json =>
      ∃ members, json = .object members ∧ ShowsExit run members
  getDisks : ∀ {sent}, requested sent = some .getDisks →
    Returns (link.getDisks sent).1 (ShowsList ShowsDisk run.disks)

def GuestRun.counters (run : GuestRun) : Except (Fault GuestError) (List DiskCounters) :=
  if run.stdout = [] then .error (.failed .noOutput)
  else
    match parseWMICSV run.stdout with
    | .ok counters => .ok counters
    | .error error => .error (.failed (.csv error))

/-- A process that was killed counts as one that ended well. -/
def GuestRun.ended (run : GuestRun) : Except (Fault GuestError) (List DiskCounters) :=
  match run.ending with
  | .exited code =>
      if code ≠ 0 then .error (.failed (.exited code run.stderr)) else run.counters
  | .killed _ => run.counters

/-- What comes of the process. -/
def GuestRun.outcome (run : GuestRun) : Except (Fault GuestError) (List DiskCounters) :=
  if guestExecStatusAttempts ≤ run.running then .error (.failed (.notExited run.pid))
  else run.ended

/-! ### Reading the answers -/

theorem requested_exec (path : List Char) (args : List (List Char)) :
    requested (guestExecCommand path args).marshal = some (.exec path args true) := by
  have flat :=
    Json.itemDepth_map (fun arg : List Char => show (Json.string arg).depth = 0 from rfl)
    args
  have shallow : (guestExecCommand path args).depth ≤ Json.maxNestingDepth := by
    simp only [guestExecCommand, Json.depth, Json.memberDepth, flat]
    decide
  have listed :=
    Json.list?_map (fun arg => show string? (.string arg) = some arg from rfl) args
  rw [requested, Json.read_marshal shallow]
  show ((list? string? (.array (args.map .string))).bind fun args =>
    some (AgentRequest.exec path args true)) = _
  rw [listed]
  rfl

theorem requested_execStatus (pid : Int) :
    requested (guestExecStatusCommand pid).marshal = some (.execStatus pid) := by
  have shallow : (guestExecStatusCommand pid).depth ≤ Json.maxNestingDepth := by
    simp only [guestExecStatusCommand, Json.depth, Json.memberDepth, Json.int]
    decide
  rw [requested, Json.read_marshal shallow]
  show (integer? (.int pid)).map AgentRequest.execStatus = _
  rw [Json.integer?_int]
  rfl

theorem requested_getDisks : requested guestGetDisksCommand = some .getDisks := by
  have written : guestGetDisksCommand =
      (Json.object [("execute".toList, .string "guest-get-disks".toList)]).marshal := by
    decide
  rw [requested, written, Json.read_marshal (by decide)]
  rfl

theorem Returns.answer {α : Type} {zero value : α} {inner : Into α} {reply : AgentText}
    {shows : Json → Prop} (returns : Returns reply shows)
    (decodes : ∀ {json}, shows json → inner zero json = some value) :
    reply.answer zero (.object fun old members => field "return" inner old members) =
      .reply value := by
  obtain ⟨result, members, json, rfl, writes, shallow, has, shown⟩ := returns
  have decoded := Json.field_of_has has (decodes shown)
  rw [AgentText.answer, unmarshal, Json.read_of_writes writes shallow, Option.bind_some,
    Json.Into.object, decoded]

section Decode

variable {members : Members} {name : String}

theorem field_number {value : Option Int}
    (shows : ShowsOption members name ShowsNumber value) :
    field name (.pointer 0 .int) none members = some value := by
  apply Json.field_pointer shows
  intro number json shown
  obtain ⟨rfl, lower, upper⟩ := shown
  exact ⟨nofun, Json.Into.int_int 0 lower upper⟩

theorem guestPCIController_shows {pci : PCIAddr} {json : Json}
    (shows : ShowsPCI pci json) :
    guestPCIController ⟨0, 0, 0, 0⟩ json = some pci := by
  obtain ⟨members, rfl, domain, bus, slot, function⟩ := shows
  simp only [guestPCIController, Json.Into.object, Json.field_int domain,
    Json.field_int bus, Json.field_int slot, Json.field_int function, Option.bind_eq_bind,
    Option.bind_some]

theorem guestDiskAddress_shows {address : GuestDiskAddress} {json : Json}
    (shows : ShowsAddress address json) :
    guestDiskAddress ⟨"", none, 0, 0, 0⟩ json = some address := by
  obtain ⟨members, rfl, ⟨_, busType⟩, serial, pci, bus, target, unit⟩ := shows
  have controller :
      field "pci-controller" (.pointer ⟨0, 0, 0, 0⟩ guestPCIController) none members =
        some address.pciController := by
    apply Json.field_pointer pci
    intro value json shown
    refine ⟨?_, guestPCIController_shows shown⟩
    obtain ⟨_, rfl, _⟩ := shown
    nofun
  simp only [guestDiskAddress, Json.Into.object, field_text busType, field_text serial,
    controller, Json.field_int bus, Json.field_int target, Json.field_int unit,
    Option.bind_eq_bind, Option.bind_some]

theorem guestDiskEntry_shows {disk : GuestDiskEntry} {json : Json}
    (shows : ShowsDisk disk json) :
    guestDiskEntry ⟨"", none⟩ json = some disk := by
  obtain ⟨members, rfl, name, shown⟩ := shows
  have address :
      field "address" (.pointer ⟨"", none, 0, 0, 0⟩ guestDiskAddress) none members =
        some disk.address := by
    apply Json.field_pointer shown
    intro value json shown
    refine ⟨?_, guestDiskAddress_shows shown⟩
    obtain ⟨_, rfl, _⟩ := shown
    nofun
  simp only [guestDiskEntry, Json.Into.object, field_text name, address,
    Option.bind_eq_bind, Option.bind_some]

/-- The data are not decoded where there are none. -/
theorem decodeData_output {output : List Char} (error : GuestError)
    (shows : ShowsOutput members name output) :
    ∃ data, field name .string [] members = some data ∧
      (decodeData decodeString data error).Yields (.ok output) := by
  obtain ⟨data, shown, encoded⟩ := shows
  refine ⟨data, Json.field_string shown, ?_⟩
  have decoded : decodeString data = some output := by
    rw [decodeString, Base64.decode_of_encode encoded, Option.map_some, Base64.runes_utf8]
  unfold decodeData
  split
  next empty =>
    subst empty
    cases decoded
    exact .pure []
  next =>
    rw [decoded]
    exact .pure output

end Decode

theorem agentCommand_yields {α : Type} {command : GuestCommand} {sent : AgentCommand α}
    {value : α} (replied : sent.answer = .reply value) :
    (agentCommand command sent).Yields (.ok value) := by
  apply Timed.Yields.check.bind
  apply (Timed.Yields.spend sent.duration).bind
  rw [replied]
  exact .pure value

/-! ### The process seen through the agent -/

namespace GuestRun

variable (run : GuestRun)

def result (errTruncated : Bool) : ExecResult :=
  ⟨true, run.ending.exitCode?.getD 0, run.ending.signal?.getD 0, run.stdout, run.stderr,
    false, errTruncated⟩

theorem diskCounters_counters {result : ExecResult} (stdout : result.stdout = run.stdout)
    (exitCode : result.exitCode = 0) : result.diskCounters.Yields run.counters := by
  unfold ExecResult.diskCounters counters
  rw [if_neg (not_not.mpr exitCode), stdout]
  split
  next => exact .fail GuestError.noOutput
  next =>
    cases parseWMICSV run.stdout with
    | ok counters => exact .pure counters
    | error error => exact .fail (GuestError.csv error)

theorem diskCounters_result (errTruncated : Bool) :
    (run.result errTruncated).diskCounters.Yields run.ended := by
  have code : (run.result errTruncated).exitCode = run.ending.exitCode?.getD 0 := rfl
  unfold ended
  cases ends : run.ending with
  | killed signal =>
      rw [ends] at code
      exact run.diskCounters_counters rfl code
  | exited exitCode =>
      replace code : (run.result errTruncated).exitCode = exitCode := by
        rw [code, ends]
        rfl
      dsimp only
      split
      next failed =>
        unfold ExecResult.diskCounters
        rw [code, if_pos failed]
        exact .fail (GuestError.exited exitCode run.stderr)
      next ended => exact run.diskCounters_counters rfl (code.trans (not_not.mp ended))

end GuestRun

def stillRunning : ExecResult := ⟨false, 0, 0, [], [], false, false⟩

theorem guestExecStatus_running {sent : AgentCommand ExecStatus}
    (replied : sent.answer = .reply noStatus) :
    (guestExecStatus decodeString sent).Yields (.ok stillRunning) := by
  apply (agentCommand_yields replied).bind
  apply (Timed.Yields.pure ([] : List Char)).bind
  apply (Timed.Yields.pure ([] : List Char)).bind
  exact .pure stillRunning

theorem execStatusReturn_running {members : Members} (shows : ShowsRunning members) :
    execStatusReturn noStatus (.object members) = some noStatus := by
  simp only [execStatusReturn, Json.Into.object, noStatus,
    Json.field_bool (.inl shows.exited), Json.field_of_lacks shows.exitCode,
    Json.field_of_lacks shows.signal, Json.field_of_lacks shows.outData,
    Json.field_of_lacks shows.errData, Json.field_bool shows.outTruncated,
    Json.field_bool shows.errTruncated, Option.bind_eq_bind, Option.bind_some]

theorem execStatusReturn_exited {run : GuestRun} {members : Members}
    (shows : ShowsExit run members) :
    ∃ status truncated, execStatusReturn noStatus (.object members) = some status ∧
      ∀ {sent : AgentCommand ExecStatus}, sent.answer = .reply status →
        (guestExecStatus decodeString sent).Yields (.ok (run.result truncated)) := by
  obtain ⟨truncated, errTruncated⟩ := shows.errTruncated
  obtain ⟨outData, outField, stdout⟩ := decodeData_output .decodingStdout shows.outData
  obtain ⟨errData, errField, stderr⟩ := decodeData_output .decodingStderr shows.errData
  refine ⟨⟨true, run.ending.exitCode?, run.ending.signal?, outData, errData, false,
    truncated⟩, truncated, ?_, ?_⟩
  · simp only [execStatusReturn, Json.Into.object, noStatus,
      Json.field_bool (.inl shows.exited), field_number shows.exitCode,
      field_number shows.signal, outField, errField, Json.field_bool shows.outTruncated,
      Json.field_bool errTruncated, Option.bind_eq_bind, Option.bind_some]
  · intro sent replied
    apply (agentCommand_yields replied).bind
    apply stdout.bind
    apply stderr.bind
    exact .pure (run.result truncated)

theorem sleepAfter_yields (execWait : Int) (attempt : Nat) :
    (sleepAfter execWait attempt).Yields (.ok ()) := by
  unfold sleepAfter
  split
  next => exact .spend _
  next => exact .pure ()

section Link

variable {run : GuestRun} {link : GuestLink} (conveys : ConveysRun run link)

include conveys

theorem agent_exec : link.agent.exec.answer = .reply run.pid := by
  apply (conveys.exec (requested_exec diskCounterPath diskCounterArgs)).answer
  intro json shown
  obtain ⟨members, rfl, pid⟩ := shown
  exact Json.field_int pid

theorem link_pid : link.pid = run.pid := by
  unfold GuestLink.pid
  rw [show link.exec'.answer = .reply run.pid from agent_exec conveys]

theorem requested_status :
    requested (guestExecStatusCommand link.pid).marshal = some (.execStatus run.pid) := by
  rw [link_pid conveys]
  exact requested_execStatus run.pid

theorem agent_running {attempt : Nat} (early : attempt < run.running) :
    (link.agent.execStatus attempt).answer = .reply noStatus := by
  apply (conveys.running (requested_status conveys) early).answer
  intro json shown
  obtain ⟨members, rfl, shown⟩ := shown
  exact execStatusReturn_running shown

theorem agent_exited {attempt : Nat} (late : run.running ≤ attempt) :
    ∃ truncated, (guestExecStatus decodeString (link.agent.execStatus attempt)).Yields
      (.ok (run.result truncated)) := by
  obtain ⟨result, members, json, reply, writes, shallow, has, inner, rfl, shown⟩ :=
    conveys.exited (requested_status conveys) late
  obtain ⟨status, truncated, decoded, yields⟩ := execStatusReturn_exited shown
  refine ⟨truncated, yields ?_⟩
  exact Returns.answer ⟨result, members, _, reply, writes, shallow, has, rfl⟩
    fun same => same ▸ decoded

theorem agent_getDisks : link.agent.getDisks.answer = .reply run.disks := by
  apply (conveys.getDisks requested_getDisks).answer
  intro json shown
  apply Json.slice_shows shown
  intro disk item shown _
  exact guestDiskEntry_shows shown

variable (execWait : Int)

/-- One poll more that finds the process running. -/
theorem pollStatus_running {attempt remaining : Nat} (early : attempt < run.running)
    {result : Except (Fault GuestError) ExecResult}
    (later :
      (pollStatus decodeString link.agent execWait run.pid (attempt + 1) remaining).Yields
        result) :
    (pollStatus decodeString link.agent execWait run.pid attempt (remaining + 1)).Yields
      result := by
  apply Timed.Yields.check.bind
  apply (guestExecStatus_running (agent_running conveys early)).bind
  apply (sleepAfter_yields execWait attempt).bind
  exact later

theorem pollStatus_exhausts {attempt remaining : Nat}
    (long : attempt + remaining ≤ run.running) :
    (pollStatus decodeString link.agent execWait run.pid attempt remaining).Yields
      (.error (.failed (.notExited run.pid))) := by
  induction remaining generalizing attempt with
  | zero => exact .fail (GuestError.notExited run.pid)
  | succ remaining induction =>
      apply pollStatus_running conveys execWait (by omega)
      exact induction (by omega)

theorem pollStatus_finds {attempt remaining : Nat} (lower : attempt ≤ run.running)
    (upper : run.running < attempt + remaining) :
    ∃ truncated,
      (pollStatus decodeString link.agent execWait run.pid attempt remaining).Yields
        (.ok (run.result truncated)) := by
  induction remaining generalizing attempt with
  | zero => omega
  | succ remaining induction =>
      rcases Nat.lt_or_eq_of_le lower with early | now
      · obtain ⟨truncated, found⟩ := @induction (attempt + 1) early (by omega)
        exact ⟨truncated, pollStatus_running conveys execWait early found⟩
      · obtain ⟨truncated, found⟩ := agent_exited conveys now.ge
        refine ⟨truncated, ?_⟩
        apply Timed.Yields.check.bind
        apply found.bind
        exact .pure (run.result truncated)

theorem collectDiskCounters_yields :
    (collectDiskCounters decodeString link.agent execWait).Yields run.outcome := by
  have executed : (guestExec link.agent.exec).Yields (.ok run.pid) := by
    apply (agentCommand_yields (agent_exec conveys)).bind
    rw [if_neg run.started.ne']
    exact .pure run.pid
  apply executed.bind
  unfold GuestRun.outcome
  split
  next long =>
    apply Timed.Yields.bind_error
    apply (Timed.Yields.spend (max 0 execWait)).bind
    exact pollStatus_exhausts conveys execWait (by omega)
  next short =>
    obtain ⟨truncated, found⟩ :=
      pollStatus_finds conveys execWait (Nat.zero_le run.running)
      (by omega : run.running < 0 + guestExecStatusAttempts)
    have waited : (guestExecWait decodeString link.agent execWait run.pid).Yields
        (.ok (run.result truncated)) := by
      apply (Timed.Yields.spend (max 0 execWait)).bind
      exact found
    apply waited.bind
    exact run.diskCounters_result truncated

theorem guestRequests_yields (needDiskMap : Bool) :
    (guestRequests decodeString link.agent execWait needDiskMap).Yields
      (run.outcome.map fun counters =>
        (counters, if needDiskMap then some (Except.ok run.disks) else none)) := by
  have collected := collectDiskCounters_yields conveys execWait
  cases outcome : run.outcome with
  | error fault =>
      rw [outcome] at collected
      exact collected.bind_error
  | ok counters =>
      rw [outcome] at collected
      apply collected.bind
      cases needDiskMap with
      | false => exact .pure (counters, none)
      | true =>
          apply (agentCommand_yields (agent_getDisks conveys)).attempt.bind
          exact .pure (counters, some (Except.ok run.disks))

end Link

/-- A scrape that has the time it needs reports what the process in the guest printed,
whatever the texts are in which the agent answers. -/
theorem guestRequests_conveyed {run : GuestRun} {link : GuestLink}
    (conveys : ConveysRun run link) {limit execWait : Int}
    (answers : link.agent.AnswersWithin limit) (wait : 0 ≤ execWait) (needDiskMap : Bool)
    {now deadline : Int}
    (late : now + (limit * 7 + execWait * 6 + if needDiskMap then limit else 0) <
      deadline) :
    (guestRequests decodeString link.agent execWait needDiskMap (some deadline) now).1 =
      run.outcome.map fun counters =>
        (counters, if needDiskMap then some (Except.ok run.disks) else none) := by
  have within := guestRequests_within decodeString answers wait needDiskMap
  rw [within.undisturbed late]
  exact guestRequests_yields conveys execWait needDiskMap now

def sampleRun : GuestRun where
  pid := 4242
  started := by decide
  running := 1
  ending := .exited 0
  stdout := ("Name,AvgDiskReadQueueLength,AvgDiskWriteQueueLength,DiskReadsPerSec," ++
    "DiskWritesPerSec,Timestamp_Sys100NS\n0 C:,1,2,3,4,7\n").toList
  stderr := []
  disks := [⟨"\\\\.\\PhysicalDrive0", none⟩]

def sampleLink : GuestLink where
  exec _ :=
    (.text (Json.object [("return".toList, .object [("pid".toList, .int 4242)])]).marshal,
    20000000)
  execStatus attempt _ :=
    match attempt with
    | 0 =>
        (.text
          (Json.object [("return".toList,
            .object [("exited".toList, .bool false)])]).marshal,
          20000000)
    | _ + 1 =>
        (.text (Json.object [("return".toList, .object
          [("exitcode".toList, .int 0),
            ("out-data".toList, .string (Base64.encode (Base64.utf8 sampleRun.stdout))),
            ("exited".toList, .bool true)])]).marshal, 20000000)
  getDisks _ :=
    (.text (Json.object [("return".toList, .array [.object
      [("name".toList, .string "\\\\.\\PhysicalDrive0".toList)]])]).marshal, 20000000)

theorem sampleLink_conveys : ConveysRun sampleRun sampleLink where
  exec _ := ⟨_, _, _, rfl, Json.writes_marshal _, by decide, ⟨_, rfl⟩, _, rfl,
    .inl ⟨⟨by decide, by decide⟩, _, rfl⟩⟩
  running := by
    intro attempt sent _ early
    obtain rfl : attempt = 0 := by
      have bound : attempt < 1 := early
      omega
    exact ⟨_, _, _, rfl, Json.writes_marshal _, by decide, ⟨_, rfl⟩, _, rfl,
      ⟨⟨_, rfl⟩, rfl, rfl, rfl, rfl, .inr ⟨rfl, rfl⟩, .inr ⟨rfl, rfl⟩⟩⟩
  exited := by
    intro attempt sent _ late
    obtain ⟨attempt, rfl⟩ := Nat.exists_eq_add_of_le late
    rw [Nat.add_comm]
    exact ⟨_, _, _, rfl, Json.writes_marshal _, by decide, ⟨_, rfl⟩, _, rfl,
      ⟨⟨_, rfl⟩, ⟨_, ⟨_, rfl⟩, rfl, by decide, by decide⟩, rfl,
        ⟨_, .inl ⟨_, rfl⟩, Base64.filter_encode _⟩, ⟨[], .inr ⟨rfl, rfl⟩, rfl⟩,
        .inr ⟨rfl, rfl⟩, false, .inr ⟨rfl, rfl⟩⟩⟩
  getDisks _ := ⟨_, _, _, rfl, Json.writes_marshal _, by decide, ⟨_, rfl⟩, _, rfl,
    .cons ⟨_, rfl, .inl ⟨_, rfl⟩, rfl⟩ .nil⟩

theorem sampleLink_answers : sampleLink.agent.AnswersWithin 5000000000 where
  exec := ⟨by decide, by decide⟩
  execStatus attempt := by
    have same : (sampleLink.agent.execStatus attempt).duration = 20000000 := by
      cases attempt with
      | zero => rfl
      | succ attempt => rfl
    rw [same]
    exact ⟨by decide, by decide⟩
  getDisks := ⟨by decide, by decide⟩

theorem guestRequests_conveyed_sample :
    (guestRequests decodeString sampleLink.agent 1000000000 true (some 50000000000) 0).1 =
      sampleRun.outcome.map fun counters =>
        (counters, some (Except.ok sampleRun.disks)) :=
  guestRequests_conveyed sampleLink_conveys sampleLink_answers (by decide) true
    (by decide)

/-! ### What is reported was printed -/

theorem agentCommand_ok {α : Type} {command : GuestCommand} {sent : AgentCommand α}
    {deadline : Option Int} {now later : Int} {value : α}
    (ends : agentCommand command sent deadline now = (.ok value, later)) :
    sent.answer = .reply value := by
  obtain ⟨_, _, _, spent⟩ := Timed.of_bind_ok ends
  obtain ⟨_, _, _, answered⟩ := Timed.of_bind_ok spent
  cases reply : sent.answer with
  | failed message =>
      rw [reply, AgentAnswer.result] at answered
      split at answered <;> cases answered
  | unparsable =>
      rw [reply] at answered
      cases answered
  | reply result =>
      rw [reply] at answered
      cases answered
      rfl

theorem AgentText.of_answer {α : Type} {zero value : α} {into : Into α}
    {reply : AgentText} (answered : reply.answer zero into = .reply value) :
    ∃ result, reply = .text result ∧ unmarshal zero into result = some value := by
  cases reply with
  | failed message => cases answered
  | text result =>
      rw [AgentText.answer] at answered
      split at answered
      next decoded => exact ⟨result, rfl, AgentAnswer.reply.inj answered ▸ decoded⟩
      next => cases answered

/-- A text that came back for a command about the process. -/
def GuestLink.Reports (link : GuestLink) (attempt : Nat) (status : ExecStatus) : Prop :=
  ∃ result, (link.execStatus attempt (guestExecStatusCommand link.pid).marshal).1 =
    .text result ∧
    unmarshal noStatus execStatusResponse result = some status

/-- No data are an empty output. -/
def outputOf (data : List Char) : Option (List Char) :=
  if data = [] then some [] else decodeString data

theorem decodeData_ok {data output : List Char} {error : GuestError}
    {deadline : Option Int} {now later : Int}
    (ends : decodeData decodeString data error deadline now = (.ok output, later)) :
    outputOf data = some output := by
  unfold decodeData at ends
  unfold outputOf
  split at ends
  next empty =>
    cases ends
    exact if_pos empty
  next present =>
    rw [if_neg present]
    cases decoded : decodeString data with
    | none =>
        rw [decoded] at ends
        cases ends
    | some text =>
        rw [decoded] at ends
        cases ends
        rfl

def GuestLink.Running (link : GuestLink) (attempt : Nat) : Prop :=
  ∃ status, link.Reports attempt status ∧ status.exited = false

def GuestLink.Ended (link : GuestLink) (attempt : Nat) (exitCode : Int)
    (stdout : List Char) :
    Prop :=
  ∃ status, link.Reports attempt status ∧ status.exited = true ∧
    status.outTruncated = false ∧
    status.exitCode.getD 0 = exitCode ∧ outputOf status.outData = some stdout

theorem guestExecStatus_ok {link : GuestLink} {attempt : Nat} {deadline : Option Int}
    {now later : Int} {result : ExecResult}
    (ends : guestExecStatus decodeString (link.agent.execStatus attempt) deadline now =
      (.ok result, later)) :
    (result.exited = false → link.Running attempt) ∧
      (result.exited = true → result.outTruncated = false →
        link.Ended attempt result.exitCode result.stdout) := by
  obtain ⟨status, _, replied, decoding⟩ := Timed.of_bind_ok ends
  obtain ⟨stdout, _, first, decoding⟩ := Timed.of_bind_ok decoding
  obtain ⟨stderr, _, _, decoded⟩ := Timed.of_bind_ok decoding
  cases decoded
  have reports : link.Reports attempt status :=
    AgentText.of_answer (agentCommand_ok replied)
  constructor
  · intro running
    exact ⟨status, reports, running⟩
  · intro exited whole
    exact ⟨status, reports, exited, whole, rfl, decodeData_ok first⟩

/-- The poll that found the process ended, and those before it. -/
theorem pollStatus_ok {link : GuestLink} {execWait pid : Int} {deadline : Option Int}
    {attempt remaining : Nat} {now later : Int} {result : ExecResult}
    (ends :
      pollStatus decodeString link.agent execWait pid attempt remaining deadline now =
        (.ok result, later)) :
    ∃ found, found < attempt + remaining ∧
      link.Ended found result.exitCode result.stdout ∧
      ∀ {earlier}, attempt ≤ earlier → earlier < found → link.Running earlier := by
  induction remaining generalizing attempt now with
  | zero => cases ends
  | succ remaining induction =>
      obtain ⟨_, _, _, asked⟩ := Timed.of_bind_ok ends
      obtain ⟨polled, _, replied, judged⟩ := Timed.of_bind_ok asked
      obtain ⟨running, ended⟩ := guestExecStatus_ok replied
      split at judged
      next exited =>
        split at judged
        next => cases judged
        next whole =>
          cases judged
          refine ⟨attempt, by omega, ended exited (Bool.eq_false_of_not_eq_true whole),
            ?_⟩
          intro earlier lower upper
          omega
      next exited =>
        obtain ⟨_, _, _, rest⟩ := Timed.of_bind_ok judged
        obtain ⟨found, bound, last, before⟩ := induction rest
        refine ⟨found, by omega, last, ?_⟩
        intro earlier lower upper
        rcases Nat.lt_or_eq_of_le lower with after | rfl
        · exact before after upper
        · exact running (Bool.eq_false_of_not_eq_true exited)

theorem ExecResult.diskCounters_ok {result : ExecResult} {deadline : Option Int}
    {now later : Int} {counters : List DiskCounters}
    (ends : result.diskCounters deadline now = (.ok counters, later)) :
    result.exitCode = 0 ∧ parseWMICSV result.stdout = .ok counters := by
  unfold diskCounters at ends
  split at ends
  next => cases ends
  next code =>
    split at ends
    next => cases ends
    next =>
      cases parsed : parseWMICSV result.stdout with
      | error error =>
          rw [parsed] at ends
          cases ends
      | ok parsed =>
          rw [parsed] at ends
          cases ends
          exact ⟨not_not.mp code, rfl⟩

/-- Counters are those of the whole output of a process that the agent said had ended
with the code 0, or without a code, after it had said at each earlier poll that it was
running. -/
theorem collectDiskCounters_printed {link : GuestLink} {execWait : Int}
    {deadline : Option Int} {now later : Int} {counters : List DiskCounters}
    (collected : collectDiskCounters decodeString link.agent execWait deadline now =
      (.ok counters, later)) :
    link.pid ≠ 0 ∧ ∃ attempt stdout, attempt < guestExecStatusAttempts ∧
      link.Ended attempt 0 stdout ∧ parseWMICSV stdout = .ok counters ∧
      ∀ {earlier}, earlier < attempt → link.Running earlier := by
  obtain ⟨pid, _, executed, waiting⟩ := Timed.of_bind_ok collected
  obtain ⟨result, _, waited, judged⟩ := Timed.of_bind_ok waiting
  obtain ⟨_, _, _, polled⟩ := Timed.of_bind_ok waited
  obtain ⟨started, _, replied, nonzero⟩ := Timed.of_bind_ok executed
  obtain ⟨attempt, bound, last, before⟩ := pollStatus_ok polled
  obtain ⟨code, parsed⟩ := ExecResult.diskCounters_ok judged
  constructor
  · unfold GuestLink.pid
    rw [show link.exec'.answer = .reply started from agentCommand_ok replied]
    split at nonzero
    next => cases nonzero
    next => assumption
  · refine ⟨attempt, result.stdout, by omega, code ▸ last, parsed, ?_⟩
    intro earlier early
    exact before (Nat.zero_le earlier) early

set_option maxRecDepth 4000 in
theorem sampleRun_outcome : sampleRun.outcome = .ok [⟨"0 C:", 1, 2, 3, 4, 7⟩] := by
  have parsed : parseWMICSV sampleRun.stdout = .ok [⟨"0 C:", 1, 2, 3, 4, 7⟩] := rfl
  unfold GuestRun.outcome GuestRun.ended GuestRun.counters
  rw [parsed]
  rfl

theorem collectDiskCounters_printed_sample :
    sampleLink.pid ≠ 0 ∧ ∃ attempt stdout, attempt < guestExecStatusAttempts ∧
      sampleLink.Ended attempt 0 stdout ∧
        parseWMICSV stdout = .ok [⟨"0 C:", 1, 2, 3, 4, 7⟩] ∧
      ∀ {earlier}, earlier < attempt → sampleLink.Running earlier := by
  have ends :=
    (collectDiskCounters_yields sampleLink_conveys 1000000000 0).trans sampleRun_outcome
  rcases run : collectDiskCounters decodeString sampleLink.agent 1000000000 none 0 with
    ⟨result, later⟩
  rw [run] at ends
  obtain rfl : result = _ := ends
  exact collectDiskCounters_printed run

end KubevirtMetrics.Qga
