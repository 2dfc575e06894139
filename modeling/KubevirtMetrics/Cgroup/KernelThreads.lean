import KubevirtMetrics.Data.Binary64
import KubevirtMetrics.Data.Run
import KubevirtMetrics.Data.Text

namespace KubevirtMetrics.Cgroup

open Data

/-! The kernel threads whose CPU time the cgroup collector reports, in
`kthread.go` and `collectNodeStats`. -/

/-- A `/proc` as it is during one poll.  `entries` are the names in the order of
`os.ReadDir`; those that are numbers are process IDs in decimal. -/
structure Proc where
  listable : Bool
  entries : List (List Char)
  comm : List Char → Option (List Char)
  stat : List Char → Option (List Char)
  numbered : ∀ entry ∈ entries, ∀ pid, Text.atoi? entry = some pid →
    0 < pid ∧ Text.itoa pid = entry

def userHZ : ℚ := 100

def findKernelThreadPID (name : List Char) (proc : Proc) : Option Int :=
  if proc.listable then
    proc.entries.findSome? fun entry =>
      match Text.atoi? entry with
      | none => none
      | some pid =>
          match proc.comm entry with
          | none => none
          | some comm => if Text.trimSpace comm = name then some pid else none
  else none

/-- The ticks in the fields after the name; the sum is one of 64 bits. -/
def fieldTicks? (fields : List (List Char)) : Option Nat :=
  if fields.length < 13 then none
  else do
    let utime ← Text.parseUint? 64 (fields.getD 11 [])
    let stime ← Text.parseUint? 64 (fields.getD 12 [])
    some ((utime + stime) % 2 ^ 64)

/-- The ticks in the text of a `stat` file. -/
def statTicks? (s : List Char) : Option Nat :=
  match Text.cutLast? ')' s with
  | none => none
  | some (_, rest) =>
      if rest.length ≤ 1 then none else fieldTicks? (Text.fields (rest.drop 1))

def readProcessCPUSeconds (pid : Int) (proc : Proc) : Option Float64 := do
  let s ← proc.stat (Text.itoa pid)
  let ticks ← statTicks? s
  some ((Float64.ofRat ticks).div userHZ)

/-- A line of `/proc/<pid>/stat`.  The name of the process is any text; the state
and the numbers after it have no parenthesis. -/
structure StatLine where
  pid : Int
  comm : List Char
  fields : List (List Char)
  ending : List Char
  solid : ∀ field ∈ fields, field ≠ [] ∧ field.all (!Text.isSpace ·) = true
  unclosed : ∀ field ∈ fields, field.all (· ≠ ')') = true
  blank : ending.all Text.isSpace = true

namespace StatLine

def front (line : StatLine) : List Char :=
  Text.itoa line.pid ++ " (".toList ++ line.comm

def rest (line : StatLine) : List Char :=
  line.fields.flatMap (' ' :: ·) ++ line.ending

def text (line : StatLine) : List Char := line.front ++ ')' :: line.rest

theorem unclosed_rest (line : StatLine) : ∀ c ∈ line.rest, c ≠ ')' := by
  intro c member
  rcases List.mem_append.mp member with inFields | inEnding
  · obtain ⟨field, inLine, inField⟩ := List.mem_flatMap.mp inFields
    rcases List.mem_cons.mp inField with rfl | inField
    · decide
    · exact of_decide_eq_true (List.all_eq_true.mp (line.unclosed field inLine) c inField)
  · rintro rfl
    exact absurd (List.all_eq_true.mp line.blank _ inEnding) (by decide)

theorem fields_rest (line : StatLine) : Text.fields line.rest = line.fields :=
  Text.fields_words line.solid (List.all_eq_true.mp line.blank)

theorem fields_drop_rest (line : StatLine) :
    Text.fields (line.rest.drop 1) = line.fields := by
  rw [← line.fields_rest]
  cases first : line.rest with
  | nil => rfl
  | cons c rest =>
      have space : Text.isSpace c = true := by
        rw [StatLine.rest] at first
        cases printed : line.fields with
        | nil =>
            rw [printed] at first
            exact List.all_eq_true.mp line.blank c
              (List.mem_of_mem_head? (congrArg List.head? first))
        | cons field fields =>
            rw [printed] at first
            obtain rfl : ' ' = c := (List.cons.inj first).1
            decide
      exact (Text.fields_space_cons space rest).symm

end StatLine

/-- Nothing before the last parenthesis matters, whatever is in the name. -/
theorem statTicks?_append (front : List Char) {rest : List Char}
    (unclosed : ∀ c ∈ rest, c ≠ ')') :
    statTicks? (front ++ ')' :: rest) = fieldTicks? (Text.fields (rest.drop 1)) := by
  simp only [statTicks?, Text.cutLast?_append front unclosed]
  split
  next short =>
    have nothing : rest.drop 1 = [] := List.drop_eq_nil_of_le short
    rw [nothing]
    rfl
  next => rfl

theorem statTicks?_text (line : StatLine) :
    statTicks? line.text = fieldTicks? line.fields := by
  rw [StatLine.text, statTicks?_append line.front line.unclosed_rest,
    line.fields_drop_rest]

theorem statTicks?_of_times {line : StatLine} {utime stime : Nat}
    (user : line.fields[11]? = some (Text.numeral utime))
    (system : line.fields[12]? = some (Text.numeral stime))
    (fits : utime + stime < 2 ^ 64) :
    statTicks? line.text = some (utime + stime) := by
  have long : ¬ line.fields.length < 13 := by
    obtain ⟨bound, -⟩ := List.getElem?_eq_some_iff.mp system
    omega
  rw [statTicks?_text, fieldTicks?, if_neg long, List.getD_eq_getElem?_getD,
    List.getD_eq_getElem?_getD, user, system, Option.getD_some, Option.getD_some,
    Text.parseUint?_numeral (by omega), Text.parseUint?_numeral (by omega)]
  exact congrArg some (Nat.mod_eq_of_lt fits)

theorem statTicks?_of_not_digit {line : StatLine} {i : Nat} {field : List Char}
    {c : Char} (time : i = 11 ∨ i = 12) (printed : line.fields[i]? = some field)
    (member : c ∈ field) (other : c.isDigit = false) :
    statTicks? line.text = none := by
  have unread : Text.parseUint? 64 (line.fields.getD i []) = none := by
    rw [List.getD_eq_getElem?_getD, printed]
    exact Text.parseUint?_of_not_digit member other
  rw [statTicks?_text, fieldTicks?]
  split
  next => rfl
  next =>
    rcases time with rfl | rfl
    · rw [unread]
      rfl
    · rw [unread]
      cases Text.parseUint? 64 (line.fields.getD 11 []) with
      | none => rfl
      | some utime => rfl

theorem statTicks?_of_few {s : List Char}
    (few : ∀ front rest, s = front ++ ')' :: rest → (∀ c ∈ rest, c ≠ ')') →
      (Text.fields rest).length < 13) :
    statTicks? s = none := by
  cases cut : Text.cutLast? ')' s with
  | none => rw [statTicks?, cut]
  | some parts =>
      obtain ⟨front, rest⟩ := parts
      obtain ⟨rfl, unclosed⟩ := Text.cutLast?_eq_some cut
      have short := few front rest rfl unclosed
      have drop := Text.length_fields_drop_one rest
      rw [statTicks?_append front unclosed, fieldTicks?, if_pos (by omega)]

/-- The fields are found from the right end, for every name; the quotient is the
one of `float64`. -/
theorem readProcessCPUSeconds_eq (proc : Proc) (pid : Int) (s : List Char)
    (reads : proc.stat (Text.itoa pid) = some s) :
    (∀ line : StatLine, s = line.text → ∀ utime stime : Nat,
      line.fields[11]? = some (Text.numeral utime) →
      line.fields[12]? = some (Text.numeral stime) →
      utime + stime < 2 ^ 64 →
      readProcessCPUSeconds pid proc =
        some ((Float64.ofRat ((utime + stime : Nat) : ℚ)).div 100)) ∧
    (∀ line : StatLine, s = line.text →
      ∀ i, i = 11 ∨ i = 12 → ∀ field, line.fields[i]? = some field →
      (∃ c ∈ field, c.isDigit = false) → readProcessCPUSeconds pid proc = none) ∧
    ((∀ front rest, s = front ++ ')' :: rest → (∀ c ∈ rest, c ≠ ')') →
      (Text.fields rest).length < 13) → readProcessCPUSeconds pid proc = none) := by
  have read : readProcessCPUSeconds pid proc =
      (statTicks? s).map fun ticks : Nat => (Float64.ofRat ticks).div userHZ := by
    rw [readProcessCPUSeconds, reads]
    change ((statTicks? s).bind fun ticks : Nat => _) = _
    cases statTicks? s with
    | none => rfl
    | some ticks => rfl
  rw [read]
  refine ⟨?_, ?_, ?_⟩
  · intro line printed utime stime user system fits
    rw [printed, statTicks?_of_times user system fits]
    rfl
  · intro line printed i time field found
    rintro ⟨c, member, other⟩
    rw [printed, statTicks?_of_not_digit time found member other]
    rfl
  · intro few
    rw [statTicks?_of_few few]
    rfl

/-- A process whose name looks like the end of its own line. -/
def misleadingLine : StatLine where
  pid := 42
  comm := ") S 1 1 1 0 -1 4 0 0 0 0 900 900 (".toList
  fields := ["S", "1", "1", "1", "0", "-1", "4", "0", "0", "0", "0", "7", "5",
    "0"].map String.toList
  ending := ['\n']
  solid := by decide
  unclosed := by decide
  blank := by decide

theorem readProcessCPUSeconds_misleadingLine :
    readProcessCPUSeconds 42
        ⟨false, [], fun _ => none, fun _ => some misleadingLine.text, nofun⟩ =
      some ((Float64.ofRat ((7 + 5 : Nat) : ℚ)).div 100) :=
  (readProcessCPUSeconds_eq _ 42 misleadingLine.text rfl).1 misleadingLine rfl 7 5
    (by decide) (by decide) (by decide)

structure KernelThreads where
  khugepagePID : Int
  ksmdPID : Int

structure NodeStats where
  khugepageCPU : Float64
  khugepageAvailable : Bool
  ksmdCPU : Float64
  ksmdAvailable : Bool

def khugepaged : List Char := "khugepaged".toList

def ksmd : List Char := "ksmd".toList

def rediscoverKhugepaged (proc : Proc) : Int :=
  (findKernelThreadPID khugepaged proc).getD 0

def rediscoverKsmd (proc : Proc) : Int :=
  (findKernelThreadPID ksmd proc).getD 0

def discoverKernelThreads (proc : Proc) : KernelThreads :=
  ⟨rediscoverKhugepaged proc, rediscoverKsmd proc⟩

/-- What `collectNodeStats` does for one thread: the PID that it remembers
afterwards, and the CPU time if it is available. -/
def collectThread (rediscover : Proc → Int) (pid : Int) (proc : Proc) :
    Int × Option Float64 :=
  if pid > 0 then
    match readProcessCPUSeconds pid proc with
    | some cpu => (pid, some cpu)
    | none =>
        let pid := rediscover proc
        if pid > 0 then (pid, readProcessCPUSeconds pid proc) else (pid, none)
  else (pid, none)

def collectNodeStats (c : KernelThreads) (proc : Proc) :
    KernelThreads × NodeStats :=
  let (khugepagePID, khugepage) :=
    collectThread rediscoverKhugepaged c.khugepagePID proc
  let (ksmdPID, ksm) := collectThread rediscoverKsmd c.ksmdPID proc
  (⟨khugepagePID, ksmdPID⟩,
    { khugepageCPU := khugepage.getD (.finite 0)
      khugepageAvailable := khugepage.isSome
      ksmdCPU := ksm.getD (.finite 0)
      ksmdAvailable := ksm.isSome })

/-- The remembered PIDs after some polls; `start` is `/proc` when the collector
starts to run. -/
def remembered (start : Proc) (polls : List Proc) : KernelThreads :=
  stateAfter (fun c proc => (collectNodeStats c proc).1)
    (discoverKernelThreads start) polls

/-! ### What the polls report -/

/-- The name in a `comm` file, which ends with a newline. -/
def commName (comm : List Char) : List Char :=
  match comm.reverse with
  | '\n' :: rest => rest.reverse
  | _ => comm

/-- A process of `/proc` by its PID and name. -/
def Proc.Names (proc : Proc) (name : List Char) (pid : Int) : Prop :=
  ∃ entry ∈ proc.entries, Text.atoi? entry = some pid ∧
    (proc.comm entry).map commName = some name

def Proc.WellFormedStat (proc : Proc) (pid : Int) : Prop :=
  (readProcessCPUSeconds pid proc).isSome = true

instance (proc : Proc) (pid : Int) : Decidable (proc.WellFormedStat pid) :=
  inferInstanceAs (Decidable (_ = true))

def Proc.Running (proc : Proc) (name : List Char) : Prop :=
  ∃ pid, proc.Names name pid ∧ proc.WellFormedStat pid

/-- What a poll says about one thread; `pid` is the process that was read. -/
structure Reports (proc : Proc) (name : List Char) (pid : Int)
    (available : Bool) (cpu : Float64) : Prop where
  available_iff : available = true ↔ proc.Running name
  own : available = true →
    proc.Names name pid ∧ readProcessCPUSeconds pid proc = some cpu

def ReportsThreads (start : Proc) (before : List Proc) (proc : Proc) : Prop :=
  let (c, ns) := collectNodeStats (remembered start before) proc
  Reports proc khugepaged c.khugepagePID ns.khugepageAvailable ns.khugepageCPU ∧
    Reports proc ksmd c.ksmdPID ns.ksmdAvailable ns.ksmdCPU

/-- The remembered PID leads to the thread, if there is one. -/
structure UpToDate (proc : Proc) (name : List Char) (pid : Int) : Prop where
  missing : pid ≤ 0 → ¬ proc.Running name
  reused : 0 < pid → proc.WellFormedStat pid → proc.Names name pid
  /-- The search takes the first process that it can mistake for the thread. -/
  found : 0 < pid → ¬ proc.WellFormedStat pid → proc.Running name →
    ∃ first, findKernelThreadPID name proc = some first ∧
      proc.WellFormedStat first
  exact : 0 < pid → ¬ proc.WellFormedStat pid → ∀ first,
    findKernelThreadPID name proc = some first → proc.WellFormedStat first →
      proc.Names name first

theorem findKernelThreadPID_pos {name : List Char} {proc : Proc} {pid : Int}
    (found : findKernelThreadPID name proc = some pid) : 0 < pid := by
  unfold findKernelThreadPID at found
  split at found
  next =>
    obtain ⟨entry, member, accepted⟩ := List.exists_of_findSome?_eq_some found
    split at accepted
    next => cases accepted
    next number read =>
      split at accepted
      next => cases accepted
      next =>
        split at accepted
        next =>
          obtain rfl := Option.some.inj accepted
          exact (proc.numbered entry member _ read).1
        next => cases accepted
  next => cases found

theorem collectThread_cases (name : List Char) (pid : Int) (proc : Proc) :
    let result := collectThread
      (fun proc => (findKernelThreadPID name proc).getD 0) pid proc
    (pid ≤ 0 ∧ result = (pid, none)) ∨
      (0 < pid ∧ ∃ cpu, readProcessCPUSeconds pid proc = some cpu ∧
        result = (pid, some cpu)) ∨
      (0 < pid ∧ readProcessCPUSeconds pid proc = none ∧
        ((findKernelThreadPID name proc = none ∧ result = (0, none)) ∨
          ∃ first, findKernelThreadPID name proc = some first ∧
            result = (first, readProcessCPUSeconds first proc))) := by
  intro result
  by_cases remembered : pid > 0
  · cases read : readProcessCPUSeconds pid proc with
    | some cpu =>
        refine .inr (.inl ⟨remembered, cpu, rfl, ?_⟩)
        simp only [result, collectThread, if_pos remembered, read]
    | none =>
        refine .inr (.inr ⟨remembered, rfl, ?_⟩)
        cases found : findKernelThreadPID name proc with
        | none =>
            refine .inl ⟨rfl, ?_⟩
            simp [result, collectThread, remembered, read, found]
        | some first =>
            refine .inr ⟨first, rfl, ?_⟩
            have positive := findKernelThreadPID_pos found
            simp [result, collectThread, remembered, read, found, positive]
  · refine .inl ⟨not_lt.mp remembered, ?_⟩
    simp only [result, collectThread, if_neg remembered]

theorem reports_none {proc : Proc} {name : List Char} {pid : Int}
    {cpu : Float64} :
    Reports proc name pid false cpu ↔ ¬ proc.Running name := by
  constructor
  · intro reports running
    cases reports.available_iff.mpr running
  · intro idle
    exact ⟨iff_of_false (by decide) idle, fun available => by cases available⟩

theorem reports_read {proc : Proc} {name : List Char} {pid : Int}
    {cpu : Float64} (read : readProcessCPUSeconds pid proc = some cpu) :
    Reports proc name pid true cpu ↔ proc.Names name pid := by
  constructor
  · intro reports
    exact (reports.own rfl).1
  · intro names
    have running : proc.Running name :=
      ⟨pid, names, by simp [Proc.WellFormedStat, read]⟩
    exact ⟨iff_of_true rfl running, fun _ => ⟨names, read⟩⟩

/-- One poll, by the PID remembered before it. -/
theorem collectThread_reports_iff (name : List Char) (pid : Int) (proc : Proc)
    {result : Int × Option Float64}
    (collected : result = collectThread
      (fun proc => (findKernelThreadPID name proc).getD 0) pid proc) :
    Reports proc name result.1 result.2.isSome (result.2.getD (.finite 0)) ↔
      UpToDate proc name pid := by
  rcases collectThread_cases name pid proc with
    ⟨nonpos, same⟩ | ⟨pos, cpu, read, same⟩ |
      ⟨pos, unread, ⟨absent, same⟩ | ⟨first, found, same⟩⟩
  · rw [collected, same]
    refine reports_none.trans ⟨fun idle => ?_, fun current => ?_⟩
    · exact ⟨fun _ => idle, fun pos => absurd pos nonpos.not_gt,
        fun pos => absurd pos nonpos.not_gt, fun pos => absurd pos nonpos.not_gt⟩
    · exact current.missing nonpos
  · rw [collected, same]
    have wellFormed : proc.WellFormedStat pid := by
      simp [Proc.WellFormedStat, read]
    refine (reports_read read).trans ⟨fun names => ?_, fun current => ?_⟩
    · exact ⟨fun nonpos => absurd pos nonpos.not_gt, fun _ _ => names,
        fun _ malformed => absurd wellFormed malformed,
        fun _ malformed => absurd wellFormed malformed⟩
    · exact current.reused pos wellFormed
  · rw [collected, same]
    have malformed : ¬ proc.WellFormedStat pid := by
      simp [Proc.WellFormedStat, unread]
    refine reports_none.trans ⟨fun idle => ?_, fun current running => ?_⟩
    · exact ⟨fun nonpos => absurd pos nonpos.not_gt,
        fun _ wellFormed => absurd wellFormed malformed,
        fun _ _ running => absurd running idle,
        fun _ _ first found => by rw [absent] at found; cases found⟩
    · obtain ⟨first, found, -⟩ := current.found pos malformed running
      rw [absent] at found
      cases found
  · rw [collected, same]
    have malformed : ¬ proc.WellFormedStat pid := by
      simp [Proc.WellFormedStat, unread]
    cases read : readProcessCPUSeconds first proc with
    | some cpu =>
        have wellFormed : proc.WellFormedStat first := by
          simp [Proc.WellFormedStat, read]
        refine (reports_read read).trans ⟨fun names => ?_, fun current => ?_⟩
        · refine ⟨fun nonpos => absurd pos nonpos.not_gt,
            fun _ wellFormed => absurd wellFormed malformed,
            fun _ _ _ => ⟨first, found, wellFormed⟩, ?_⟩
          intro _ _ other found' _
          rw [found] at found'
          obtain rfl := Option.some.inj found'
          exact names
        · exact current.exact pos malformed first found wellFormed
    | none =>
        have malformed' : ¬ proc.WellFormedStat first := by
          simp [Proc.WellFormedStat, read]
        refine reports_none.trans ⟨fun idle => ?_, fun current running => ?_⟩
        · refine ⟨fun nonpos => absurd pos nonpos.not_gt,
            fun _ wellFormed => absurd wellFormed malformed,
            fun _ _ running => absurd running idle, ?_⟩
          intro _ _ other found' wellFormed
          rw [found] at found'
          obtain rfl := Option.some.inj found'
          exact absurd wellFormed malformed'
        · obtain ⟨other, found', wellFormed⟩ :=
            current.found pos malformed running
          rw [found] at found'
          obtain rfl := Option.some.inj found'
          exact malformed' wellFormed

/-- The polls of a run report the threads exactly when each finds the remembered
PIDs up to date. -/
theorem polls_report_iff (start : Proc) (polls : List Proc) :
    Throughout (ReportsThreads start) polls ↔
      Throughout (fun before proc =>
        UpToDate proc khugepaged (remembered start before).khugepagePID ∧
          UpToDate proc ksmd (remembered start before).ksmdPID) polls := by
  have poll : ∀ before proc, ReportsThreads start before proc ↔
      UpToDate proc khugepaged (remembered start before).khugepagePID ∧
        UpToDate proc ksmd (remembered start before).ksmdPID := fun _ proc =>
    and_congr (collectThread_reports_iff khugepaged _ proc rfl)
      (collectThread_reports_iff ksmd _ proc rfl)
  simp only [Throughout, poll]

/-- A `/proc` with one process. -/
def Proc.single (pid : Int) (positive : 0 < pid)
    (decimal : Text.atoi? (Text.itoa pid) = some pid)
    (comm stat : String) : Proc where
  listable := true
  entries := [Text.itoa pid]
  comm entry := if entry = Text.itoa pid then some comm.toList else none
  stat entry := if entry = Text.itoa pid then some stat.toList else none
  numbered entry member other read := by
    obtain rfl := List.mem_singleton.mp member
    obtain rfl := Option.some.inj (decimal.symm.trans read)
    exact ⟨positive, rfl⟩

def procWithThread : Proc := .single 50 (by decide) (by decide) "khugepaged\n"
  "50 (khugepaged) S 2 0 0 0 -1 2129984 0 0 0 0 500 300 0 0 20 0 1 0 100 0 0"

def procWithoutThread : Proc := .single 1 (by decide) (by decide) "systemd\n"
  "1 (systemd) S 0 1 1 0 -1 4194560 0 0 0 0 7 8 0 0 20 0 1 0 2 0 0"

/-- The process ID of the thread is in use for another process. -/
def procWithReusedPID : Proc := .single 50 (by decide) (by decide) "qemu-kvm\n"
  "50 (qemu-kvm) S 1 50 50 0 -1 4194560 0 0 0 0 90000 4000 0 0 20 0 9 0 700 0 0"

theorem procWithThread_running : procWithThread.Running khugepaged :=
  ⟨50, ⟨Text.itoa 50, by decide, by decide, by decide⟩, by decide +kernel⟩

/-- A thread that stops and starts again is not found; a process that has the
process ID of the thread is taken for it. -/
theorem stale_pid_is_not_noticed :
    ¬ Throughout (ReportsThreads procWithThread)
        [procWithoutThread, procWithThread] ∧
      ¬ Throughout (ReportsThreads procWithThread) [procWithReusedPID] := by
  constructor
  · intro reports
    have last := (reports [procWithoutThread] procWithThread [] rfl).1
    have available := last.available_iff.mpr procWithThread_running
    revert available
    decide +kernel
  · intro reports
    have first := (reports [] procWithReusedPID [] rfl).1
    obtain ⟨⟨entry, member, -, named⟩, -⟩ := first.own (by decide +kernel)
    obtain rfl := List.mem_singleton.mp member
    revert named
    decide

end KubevirtMetrics.Cgroup
