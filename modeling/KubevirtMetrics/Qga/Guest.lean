import KubevirtMetrics.Data.Deadline
import KubevirtMetrics.Qga.DiskMap
import KubevirtMetrics.Qga.Scrape
import KubevirtMetrics.Qga.WmiCsv

namespace KubevirtMetrics.Qga

open Data Virt Qmp

/-! The requests of a scrape to the guest agent, in `client.go`, and the deadline that
`collector.go` sets for them. -/

inductive GuestCommand
  | exec
  | execStatus
  | getDisks
  deriving DecidableEq

/-- The string that `AgentCommand` returns, and how it is decoded. -/
inductive AgentAnswer (α : Type)
  | failed (message : List Char)
  | unparsable
  | reply (value : α)

structure AgentCommand (α : Type) where
  answer : AgentAnswer α
  duration : Int

inductive GuestError
  | commandBlacklisted
  | command (command : GuestCommand) (message : List Char)
  | parsing (command : GuestCommand)
  | pidZero
  | decodingStdout
  | decodingStderr
  | outputTruncated (pid : Int)
  | notExited (pid : Int)
  | exited (code : Int) (stderr : List Char)
  | noOutput
  | csv (error : WMIError)
  deriving DecidableEq

def isBlacklistError (message : List Char) : Bool :=
  decide ("has been disabled".toList <:+: message) &&
    decide ("the command is not allowed".toList <:+: message)

def AgentAnswer.result {α : Type} (command : GuestCommand) :
    AgentAnswer α → Timed GuestError α
  | .failed message =>
      if isBlacklistError message then .fail .commandBlacklisted
      else .fail (.command command message)
  | .unparsable => .fail (.parsing command)
  | .reply value => pure value

/-- `Client.call` looks at the context before it sends the command, and gives up when
the context expires under it. -/
def agentCommand {α : Type} (command : GuestCommand) (sent : AgentCommand α) :
    Timed GuestError α := do
  Timed.check
  Timed.spend sent.duration
  sent.answer.result command

def guestExec (sent : AgentCommand Int) : Timed GuestError Int := do
  let pid ← agentCommand .exec sent
  if pid = 0 then .fail .pidZero else pure pid

/-- `execStatusResponse`; the data are still encoded. -/
structure ExecStatus where
  exited : Bool
  exitCode : Option Int
  signal : Option Int
  outData : List Char
  errData : List Char
  outTruncated : Bool
  errTruncated : Bool

structure ExecResult where
  exited : Bool
  exitCode : Int
  signal : Int
  stdout : List Char
  stderr : List Char
  outTruncated : Bool
  errTruncated : Bool

/-- What `CollectDiskCounters` makes of a result. -/
def ExecResult.diskCounters (result : ExecResult) :
    Timed GuestError (List DiskCounters) :=
  if result.exitCode ≠ 0 then .fail (.exited result.exitCode result.stderr)
  else if result.stdout = [] then .fail .noOutput
  else
    match parseWMICSV result.stdout with
    | .ok counters => pure counters
    | .error error => .fail (.csv error)

def guestExecStatusAttempts : Nat := 6

/-- A timer of no or a negative duration fires at once. -/
def sleepCtx (d : Int) : Timed GuestError Unit := .spend (max 0 d)

structure GuestAgent where
  exec : AgentCommand Int
  -- by the number of the attempt
  execStatus : Nat → AgentCommand ExecStatus
  getDisks : AgentCommand (List GuestDiskEntry)

section Requests

-- `base64.StdEncoding.DecodeString`
variable (decodeString : List Char → Option (List Char))

def decodeData (data : List Char) (error : GuestError) : Timed GuestError (List Char) :=
  if data = [] then pure []
  else
    match decodeString data with
    | some decoded => pure decoded
    | none => .fail error

def guestExecStatus (sent : AgentCommand ExecStatus) : Timed GuestError ExecResult := do
  let resp ← agentCommand .execStatus sent
  let stdout ← decodeData decodeString resp.outData .decodingStdout
  let stderr ← decodeData decodeString resp.errData .decodingStderr
  pure ⟨resp.exited, resp.exitCode.getD 0, resp.signal.getD 0, stdout, stderr,
    resp.outTruncated, resp.errTruncated⟩

variable (agent : GuestAgent) (execWait : Int)

/-- There is no sleep after the last attempt. -/
def sleepAfter (attempt : Nat) : Timed GuestError Unit :=
  if attempt < guestExecStatusAttempts - 1 then sleepCtx execWait else pure ()

/-- The loop of `GuestExecWait`, with the attempts that remain. -/
def pollStatus (pid : Int) : Nat → Nat → Timed GuestError ExecResult
  | _, 0 => .fail (.notExited pid)
  | attempt, remaining + 1 => do
      Timed.check
      let result ← guestExecStatus decodeString (agent.execStatus attempt)
      if result.exited then
        if result.outTruncated then .fail (.outputTruncated pid) else pure result
      else do
        sleepAfter execWait attempt
        pollStatus pid (attempt + 1) remaining

def guestExecWait (pid : Int) : Timed GuestError ExecResult := do
  sleepCtx execWait
  pollStatus decodeString agent execWait pid 0 guestExecStatusAttempts

def collectDiskCounters : Timed GuestError (List DiskCounters) := do
  let pid ← guestExec agent.exec
  let result ← guestExecWait decodeString agent execWait pid
  result.diskCounters

/-- The requests of `scrapeVM`: what becomes of the disks has no influence on the
counters. -/
def guestRequests (needDiskMap : Bool) :
    Timed GuestError
      (List DiskCounters × Option (Except (Fault GuestError) (List GuestDiskEntry))) := do
  let counters ← collectDiskCounters decodeString agent execWait
  if needDiskMap then do
    let disks ← (agentCommand .getDisks agent.getDisks).attempt
    pure (counters, some disks)
  else pure (counters, none)

end Requests

/-! ### The budget -/

/-- The settings of the collector that concern time: seconds, and nanoseconds. -/
structure GuestTiming where
  qgaTimeout : Int32
  execWait : Int64

namespace GuestTiming

variable (timing : GuestTiming)

def second : Int64 := 1000000000

def scrapeBudget (needDiskMap : Bool) : Int64 :=
  let agent := timing.qgaTimeout.toInt64 * second
  let budget := agent * (1 + Int64.ofNat guestExecStatusAttempts) +
    timing.execWait * Int64.ofNat guestExecStatusAttempts + 2 * second
  if needDiskMap then budget + agent else budget

/-- The longest time that a command may take, in nanoseconds. -/
def agentTimeout : Int := timing.qgaTimeout.toInt * 10 ^ 9

/-- The budget without the limits of its type. -/
def exactBudget (needDiskMap : Bool) : Int :=
  timing.agentTimeout * 7 + timing.execWait.toInt * 6 + 2 * 10 ^ 9 +
    if needDiskMap then timing.agentTimeout else 0

theorem toInt_add_eq {a b : Int64} {x y : Int} (left : a.toInt = x) (right : b.toInt = y)
    (lower : 0 ≤ x + y) (upper : x + y < 2 ^ 63) : (a + b).toInt = x + y := by
  rw [Int64.toInt_add, left, right]
  exact Int.bmod_eq_of_le (by omega) (by omega)

theorem toInt_mul_eq {a b : Int64} {x y : Int} (left : a.toInt = x) (right : b.toInt = y)
    (lower : 0 ≤ x * y) (upper : x * y < 2 ^ 63) : (a * b).toInt = x * y := by
  rw [Int64.toInt_mul, left, right]
  exact Int.bmod_eq_of_le (by omega) (by omega)

theorem scrapeBudget_toInt {timing : GuestTiming} {needDiskMap : Bool}
    (timeout : 0 ≤ timing.qgaTimeout.toInt) (wait : 0 ≤ timing.execWait.toInt)
    (fits : timing.exactBudget needDiskMap < 2 ^ 63) :
    (timing.scrapeBudget needDiskMap).toInt = timing.exactBudget needDiskMap := by
  have nonneg : 0 ≤ timing.agentTimeout := Int.mul_nonneg timeout (by decide)
  have small : timing.agentTimeout * 7 + timing.execWait.toInt * 6 + 2 * 10 ^ 9 <
      2 ^ 63 := by
    unfold exactBudget at fits
    split at fits <;> omega
  have agent : (timing.qgaTimeout.toInt64 * second).toInt = timing.agentTimeout :=
    toInt_mul_eq (Int32.toInt_toInt64 _) (by decide : second.toInt = 10 ^ 9) nonneg
      (Int.lt_of_le_of_lt (by omega : timing.agentTimeout ≤ _) small)
  have six : (Int64.ofNat guestExecStatusAttempts).toInt = 6 := by decide
  have seven : (1 + Int64.ofNat guestExecStatusAttempts).toInt = 7 := by decide
  have margin : (2 * second).toInt = 2 * 10 ^ 9 := by decide
  have calls := toInt_mul_eq agent seven (by omega) (by omega)
  have sleeps := toInt_mul_eq (Eq.refl timing.execWait.toInt) six (by omega) (by omega)
  have requests := toInt_add_eq calls sleeps (by omega) (by omega)
  have base := toInt_add_eq requests margin (by omega) (by omega)
  unfold exactBudget at fits ⊢
  cases needDiskMap with
  | false => exact base.trans (Int.add_zero _).symm
  | true => exact toInt_add_eq base agent (by omega) fits

end GuestTiming

/-! ### The time of the requests -/

/-- How long the commands may take. -/
structure GuestAgent.AnswersWithin (agent : GuestAgent) (limit : Int) : Prop where
  exec : 0 ≤ agent.exec.duration ∧ agent.exec.duration ≤ limit
  execStatus : ∀ attempt, 0 ≤ (agent.execStatus attempt).duration ∧
    (agent.execStatus attempt).duration ≤ limit
  getDisks : 0 ≤ agent.getDisks.duration ∧ agent.getDisks.duration ≤ limit

theorem AgentAnswer.result_within {α : Type} (command : GuestCommand)
    (answer : AgentAnswer α) : (answer.result command).Within 0 := by
  cases answer with
  | failed message =>
      rw [result]
      split
      next => exact .fail GuestError.commandBlacklisted
      next => exact .fail (GuestError.command command message)
  | unparsable => exact .fail (GuestError.parsing command)
  | reply value => exact .pure value

theorem agentCommand_within {α : Type} {command : GuestCommand} {sent : AgentCommand α}
    {limit : Int} (answered : 0 ≤ sent.duration ∧ sent.duration ≤ limit) :
    (agentCommand command sent).Within limit := by
  have spent := (Timed.Within.spend answered.1).bind
    (fun _ => sent.answer.result_within command) le_rfl
  exact (Timed.Within.check.bind (fun _ => spent) spent.nonneg).mono (by omega)

section Requests

variable (decodeString : List Char → Option (List Char))

theorem decodeData_within (data : List Char) (error : GuestError) :
    (decodeData decodeString data error).Within 0 := by
  unfold decodeData
  split
  next => exact .pure []
  next =>
    split
    next decoded _ => exact .pure decoded
    next => exact .fail error

theorem guestExecStatus_within {sent : AgentCommand ExecStatus} {limit : Int}
    (answered : 0 ≤ sent.duration ∧ sent.duration ≤ limit) :
    (guestExecStatus decodeString sent).Within limit := by
  have decoded := fun resp : ExecStatus =>
    (decodeData_within decodeString resp.outData .decodingStdout).bind
      (fun stdout => (decodeData_within decodeString resp.errData .decodingStderr).bind
        (fun stderr => Timed.Within.pure (ExecResult.mk resp.exited (resp.exitCode.getD 0)
          (resp.signal.getD 0) stdout stderr resp.outTruncated resp.errTruncated)) le_rfl)
      le_rfl
  exact ((agentCommand_within answered).bind decoded le_rfl).mono (by omega)

theorem guestExec_within {sent : AgentCommand Int} {limit : Int}
    (answered : 0 ≤ sent.duration ∧ sent.duration ≤ limit) :
    (guestExec sent).Within limit := by
  have judged : ∀ pid : Int,
      (if pid = 0 then .fail .pidZero else pure pid : Timed GuestError Int).Within 0 := by
    intro pid
    split
    next => exact .fail GuestError.pidZero
    next => exact .pure pid
  exact ((agentCommand_within answered).bind judged le_rfl).mono (by omega)

variable {agent : GuestAgent} {limit execWait : Int}

/-- The time of the polls that remain, with a sleep between any two of them. -/
def pollSpan (limit execWait : Int) (remaining : Nat) : Int :=
  remaining * limit + (remaining - 1 : Nat) * execWait

theorem pollSpan_succ (limit execWait : Int) (remaining : Nat) :
    pollSpan limit execWait (remaining + 1) =
      limit + ((if remaining = 0 then 0 else execWait) +
        pollSpan limit execWait remaining) := by
  unfold pollSpan
  cases remaining with
  | zero => simp
  | succ remaining =>
      rw [if_neg (Nat.succ_ne_zero remaining), Nat.add_sub_cancel, Nat.add_sub_cancel]
      push_cast
      ring

theorem sleepCtx_within (wait : 0 ≤ execWait) : (sleepCtx execWait).Within execWait := by
  rw [sleepCtx, max_eq_right wait]
  exact .spend wait

theorem sleepAfter_within (wait : 0 ≤ execWait) {attempt remaining : Nat}
    (count : attempt + (remaining + 1) = guestExecStatusAttempts) :
    (sleepAfter execWait attempt).Within (if remaining = 0 then 0 else execWait) := by
  unfold sleepAfter
  by_cases last : remaining = 0
  · rw [if_neg (by omega), if_pos last]
    exact .pure ()
  · rw [if_pos (by omega), if_neg last]
    exact sleepCtx_within wait

theorem pollStatus_within (answers : agent.AnswersWithin limit) (wait : 0 ≤ execWait)
    (pid : Int) {attempt remaining : Nat}
    (count : attempt + remaining = guestExecStatusAttempts) :
    (pollStatus decodeString agent execWait pid attempt remaining).Within
      (pollSpan limit execWait remaining) := by
  induction remaining generalizing attempt with
  | zero => exact (Timed.Within.fail (GuestError.notExited pid)).mono (by simp [pollSpan])
  | succ remaining induction =>
      have slept := sleepAfter_within wait count
      have later := @induction (attempt + 1) (by omega)
      have retried := slept.bind (fun _ => later) later.nonneg
      have judged : ∀ result : ExecResult, (if result.exited then
            if result.outTruncated then .fail (.outputTruncated pid) else pure result
          else do
            sleepAfter execWait attempt
            pollStatus decodeString agent execWait pid (attempt + 1) remaining :
              Timed GuestError ExecResult).Within
          ((if remaining = 0 then 0 else execWait) +
              pollSpan limit execWait remaining) := by
        intro result
        split
        next =>
          split
          next =>
            exact (Timed.Within.fail (GuestError.outputTruncated pid)).mono retried.nonneg
          next => exact (Timed.Within.pure result).mono retried.nonneg
        next => exact retried
      have polled :=
        (guestExecStatus_within decodeString (answers.execStatus attempt)).bind
        judged retried.nonneg
      rw [pollSpan_succ]
      exact (Timed.Within.check.bind (fun _ => polled) polled.nonneg).mono
        (Int.zero_add _).le

theorem guestExecWait_within (answers : agent.AnswersWithin limit) (wait : 0 ≤ execWait)
    (pid : Int) :
    (guestExecWait decodeString agent execWait pid).Within
      (limit * 6 + execWait * 6) := by
  have polled := pollStatus_within decodeString answers wait pid
    (Nat.zero_add guestExecStatusAttempts)
  refine ((sleepCtx_within wait).bind (fun _ => polled) polled.nonneg).mono ?_
  change execWait + ((6 : Int) * limit + (5 : Int) * execWait) ≤ limit * 6 + execWait * 6
  omega

theorem ExecResult.diskCounters_within (result : ExecResult) :
    result.diskCounters.Within 0 := by
  unfold diskCounters
  split
  next => exact .fail (GuestError.exited result.exitCode result.stderr)
  next =>
    split
    next => exact .fail GuestError.noOutput
    next =>
      split
      next counters _ => exact .pure counters
      next error _ => exact .fail (GuestError.csv error)

theorem collectDiskCounters_within (answers : agent.AnswersWithin limit)
    (wait : 0 ≤ execWait) :
    (collectDiskCounters decodeString agent execWait).Within
      (limit * 7 + execWait * 6) := by
  have waited := fun pid : Int =>
    (guestExecWait_within decodeString answers wait pid).bind
      ExecResult.diskCounters_within le_rfl
  refine ((guestExec_within answers.exec).bind waited (waited 0).nonneg).mono ?_
  omega

theorem guestRequests_within (answers : agent.AnswersWithin limit) (wait : 0 ≤ execWait)
    (needDiskMap : Bool) :
    (guestRequests decodeString agent execWait needDiskMap).Within
      (limit * 7 + execWait * 6 + if needDiskMap then limit else 0) := by
  have collected := collectDiskCounters_within decodeString answers wait
  cases needDiskMap with
  | false => exact collected.bind (fun counters => .pure (counters, none)) le_rfl
  | true =>
      have asked := (@agentCommand_within _ .getDisks _ _ answers.getDisks).attempt
      refine collected.bind (fun counters => ?_) asked.nonneg
      exact (asked.bind (fun disks => .pure (counters, some disks)) le_rfl).mono
        (Int.add_zero limit).le

end Requests

/-! ### The virtual machine after the scrape -/

abbrev GuestOutcome :=
  Except (Fault GuestError)
    (List DiskCounters × Option (Except (Fault GuestError) (List GuestDiskEntry)))

namespace GuestOutcome

/-- An expired context is one of the errors of `isDeadClient`. -/
def counters : GuestOutcome → CountersReply
  | .ok (rows, _) => .counters rows
  | .error .expired => .failed .dead true
  | .error (.failed .commandBlacklisted) => .failed .blacklisted false
  | .error (.failed _) => .failed .soft false

def disks : GuestOutcome → Reply (Option (List GuestDiskEntry))
  | .ok (_, some (.ok entries)) => .ok (some entries)
  | .ok (_, some (.error .expired)) => .expired
  | _ => .failed

/-- The answers of a scrape; the description of the domain is asked for without a
deadline. -/
def answers (outcome : GuestOutcome) (domain : Option XmlDomain) (fetch : FetchReply)
    (order : List String) : Answers where
  counters := outcome.counters
  diskMap := MapReplies.diskMap
    ⟨outcome.disks, domain.elim .failed fun domain => .ok (some domain)⟩
  fetch := fetch
  order := order

def Unexpired (outcome : GuestOutcome) : Prop :=
  outcome ≠ .error .expired ∧ ∀ rows, outcome ≠ .ok (rows, some (.error .expired))

theorem counters_of_unexpired {outcome : GuestOutcome} (unexpired : outcome.Unexpired)
    {error : ScrapeError} {closed : Bool}
    (failed : outcome.counters = .failed error closed) :
    error ≠ .dead ∧ closed = false := by
  unfold counters at failed
  split at failed
  next => cases failed
  next => exact absurd rfl unexpired.1
  next =>
    cases failed
    exact ⟨nofun, rfl⟩
  next =>
    cases failed
    exact ⟨nofun, rfl⟩

theorem disks_of_unexpired {outcome : GuestOutcome} (unexpired : outcome.Unexpired) :
    outcome.disks ≠ .expired := by
  unfold disks
  split
  next => nofun
  next rows => exact absurd rfl (unexpired.2 rows)
  next => nofun

theorem diskMap_of_unexpired {outcome : GuestOutcome} (unexpired : outcome.Unexpired)
    (domain : Option XmlDomain) (fetch : FetchReply) (order : List String) :
    (outcome.answers domain fetch order).diskMap ≠ .expired := by
  have asked := disks_of_unexpired unexpired
  unfold answers MapReplies.diskMap
  dsimp only
  split
  next expired => exact absurd expired asked
  next => nofun
  next => nofun
  next =>
    split
    next => nofun
    next =>
      cases domain with
      | none => nofun
      | some domain => nofun

end GuestOutcome

theorem guestRequests_unexpired (decodeString : List Char → Option (List Char))
    {agent : GuestAgent} {limit execWait : Int} (answers : agent.AnswersWithin limit)
    (wait : 0 ≤ execWait) (needDiskMap : Bool) (now : Int) :
    GuestOutcome.Unexpired
      (guestRequests decodeString agent execWait needDiskMap none now).1 := by
  refine ⟨(guestRequests_within decodeString answers wait needDiskMap).unexpired now, ?_⟩
  intro rows
  unfold guestRequests
  rcases ends : collectDiskCounters decodeString agent execWait none now with
    ⟨fault | counters, later⟩
  · rw [Timed.bind_of_error ends]
    nofun
  · rw [Timed.bind_of_ok ends]
    cases needDiskMap with
    | false => nofun
    | true =>
        intro same
        have asked :=
          (@agentCommand_within _ .getDisks _ _ answers.getDisks).unexpired later
        exact asked (Option.some.inj (Prod.mk.inj (Except.ok.inj same)).2)

def Session.Open (session : Session) : Prop :=
  session.vm.closed = false ∧ session.clientClosed = false

theorem handleScrapeError_ne_drop (cfg : CollectorConfig) (vs : VMState)
    {error : ScrapeError} (alive : error ≠ .dead) :
    handleScrapeError cfg vs error false ≠ .drop := by
  unfold handleScrapeError
  split
  next => nofun
  next =>
    rw [if_neg (by simp [alive])]
    split
    next => nofun
    next => nofun

theorem VMState.mapDisks_open (vs : VMState) {answers : Answers}
    (unexpired : answers.diskMap ≠ .expired) : (vs.mapDisks answers).2 = false := by
  unfold mapDisks tryBuildDiskMap callClient
  split
  next =>
    cases reply : answers.diskMap with
    | ok diskMap => rfl
    | failed => rfl
    | expired => exact absurd reply unexpired
  next => rfl

theorem Session.next_open (cfg : CollectorConfig) {session : Session}
    (opened : session.Open) {outcome : GuestOutcome} (unexpired : outcome.Unexpired)
    (domain : Option XmlDomain) (fetch : FetchReply) (order : List String) :
    (session.next cfg (outcome.answers domain fetch order)).Open := by
  obtain ⟨vmOpen, clientOpen⟩ := opened
  have attempted : ¬(session.vm.closed || session.clientClosed) = true := by
    simp [vmOpen, clientOpen]
  unfold next scrape VMState.scrapeVM
  rw [if_neg attempted]
  cases reply : (outcome.answers domain fetch order).counters with
  | counters rows =>
      exact ⟨vmOpen, session.vm.mapDisks_open
        (GuestOutcome.diskMap_of_unexpired unexpired domain fetch order)⟩
  | failed error closed =>
      obtain ⟨alive, rfl⟩ := GuestOutcome.counters_of_unexpired unexpired reply
      rcases handleScrapeError_cases cfg session.vm error false with
        dropped | ⟨-, again⟩ | ⟨vm, same, passive⟩
      · exact absurd dropped (handleScrapeError_ne_drop cfg session.vm alive)
      · simp only [again]
        exact ⟨vmOpen, rfl⟩
      · simp only [passive]
        rcases same with rfl | rfl
        · exact ⟨vmOpen, rfl⟩
        · exact ⟨vmOpen, rfl⟩

/-- The time of the requests stays below the budget by its margin, so the deadline changes
nothing and the virtual machine is not dropped. -/
theorem scrape_within_budget (timing : GuestTiming) (needDiskMap : Bool)
    (timeout : 0 ≤ timing.qgaTimeout.toInt) (wait : 0 ≤ timing.execWait.toInt)
    (fits : timing.exactBudget needDiskMap < 2 ^ 63)
    (decodeString : List Char → Option (List Char)) (agent : GuestAgent)
    (answered : agent.AnswersWithin timing.agentTimeout) (now : Int) :
    let requests := guestRequests decodeString agent timing.execWait.toInt needDiskMap
    let budget := (timing.scrapeBudget needDiskMap).toInt
    (requests none now).2 - now ≤ budget - 2 * 10 ^ 9 ∧
      requests (some (now + budget)) now = requests none now ∧
      ∀ (cfg : CollectorConfig) (session : Session), session.Open →
        ∀ (domain : Option XmlDomain) (fetch : FetchReply) (order : List String),
          (session.next cfg (GuestOutcome.answers (requests (some (now + budget)) now).1
            domain fetch order)).Open := by
  intro requests budget
  have within := guestRequests_within decodeString answered wait needDiskMap
  have spans : budget = timing.agentTimeout * 7 + timing.execWait.toInt * 6 + 2 * 10 ^ 9 +
      if needDiskMap then timing.agentTimeout else 0 :=
    GuestTiming.scrapeBudget_toInt timeout wait fits
  have lasts := within.lasts now
  have same : requests (some (now + budget)) now = requests none now :=
    within.undisturbed (by omega)
  refine ⟨?_, same, ?_⟩
  · change
      (guestRequests decodeString agent timing.execWait.toInt needDiskMap none now).2 -
        now ≤ _
    omega
  · intro cfg session opened domain fetch order
    rw [same]
    exact session.next_open cfg opened
      (guestRequests_unexpired decodeString answered wait needDiskMap now)
      domain fetch order

def slowCommand {α : Type} (value : α) : AgentCommand α := ⟨.reply value, 10 * 10 ^ 9⟩

/-- A guest that uses up the timeout of every command, and in which the process ends only
before the last poll. -/
def slowAgent : GuestAgent where
  exec := slowCommand 4242
  execStatus attempt :=
    slowCommand ⟨decide (attempt = 5), none, none, [], [], false, false⟩
  getDisks := slowCommand []

theorem slowAgent_within_budget :
    (guestRequests some slowAgent (10 ^ 9) true none 0).2 - 0 ≤
      ((GuestTiming.mk 10 1000000000).scrapeBudget true).toInt - 2 * 10 ^ 9 := by
  have whole : 0 ≤ (10 * 10 ^ 9 : Int) ∧
      (10 * 10 ^ 9 : Int) ≤ (GuestTiming.mk 10 1000000000).agentTimeout := by decide
  exact (scrape_within_budget ⟨10, 1000000000⟩ true (by decide) (by decide) (by decide)
    some slowAgent ⟨whole, fun _ => whole, whole⟩ 0).1

/-! Settings whose products fit in the budget's type, but not their sum. -/

def promptCommand {α : Type} (value : α) : AgentCommand α := ⟨.reply value, 0⟩

/-- A guest that answers at once, and in which the process has ended by then. -/
def promptAgent : GuestAgent where
  exec := promptCommand 4242
  execStatus _ := promptCommand ⟨true, none, none, [], [], false, false⟩
  getDisks := promptCommand []

def longWait : GuestTiming := ⟨10, 1537228672809129301⟩

/-- The sum wraps around: the deadline has passed before the first command, and the
virtual machine is dropped. -/
theorem wrapped_budget_drops :
    0 ≤ longWait.qgaTimeout.toInt ∧ 0 ≤ longWait.execWait.toInt ∧
    longWait.agentTimeout * 7 < 2 ^ 63 ∧ longWait.execWait.toInt * 6 < 2 ^ 63 ∧
    promptAgent.AnswersWithin longWait.agentTimeout ∧
    (longWait.scrapeBudget false).toInt = -9223371964854775810 ∧
    ¬ (guestRequests some promptAgent longWait.execWait.toInt false none 0).2 - 0 ≤
      (longWait.scrapeBudget false).toInt - 2 * 10 ^ 9 ∧
    ¬ ((Session.dial ⟨"tenant-a", "virt-launcher-vm", "vm"⟩ .failed 0).next
      ⟨"node-1", 60000000000, 3, [], ""⟩
      (GuestOutcome.answers (guestRequests some promptAgent longWait.execWait.toInt
        false (some (0 + (longWait.scrapeBudget false).toInt)) 0).1
          none .failed [])).Open := by
  have instant : 0 ≤ (0 : Int) ∧ 0 ≤ longWait.agentTimeout := by decide
  refine ⟨by decide, by decide, by decide, by decide,
    ⟨instant, fun _ => instant, instant⟩, by decide, by decide, ?_⟩
  intro opened
  exact absurd opened.1 (by decide)

end KubevirtMetrics.Qga
