import KubevirtMetrics.Bpf.Nfs

namespace KubevirtMetrics.Bpf

open Data

/-! `nfs_kprobe_latency.c`. -/

/-- `struct nfs_kprobe_start_val`; the padding is always zero. -/
structure KprobeStart where
  ts : UInt64
  dev : UInt32
  op : UInt8
  deriving DecidableEq

/-- Threads are the values of `bpf_get_current_pid_tgid`. -/
structure KprobeTracer where
  starts : Table UInt64 KprobeStart
  hists : Table HistKey Hist

def KprobeTracer.init : KprobeTracer := ⟨∅, ∅⟩

def recordStart (thread : UInt64) (dev : UInt32) (op : UInt8) (now : UInt64)
    (tracer : KprobeTracer) : KprobeTracer :=
  { tracer with starts := tracer.starts.insert thread ⟨now, dev, op⟩ }

/-! The arguments of the probed functions lead to an inode, of whose superblock
the device is read. -/

def kprobeNfsFileRead (thread : UInt64) (inode : Inode) :=
  recordStart thread inode.dev 0

def kprobeNfsFileWrite (thread : UInt64) (inode : Inode) :=
  recordStart thread inode.dev 1

def kprobeNfsFileOpen (thread : UInt64) (inode : Inode) :=
  recordStart thread inode.dev 2

def kprobeNfs4FileOpen (thread : UInt64) (inode : Inode) :=
  recordStart thread inode.dev 2

def kprobeNfsGetattr (thread : UInt64) (inode : Inode) :=
  recordStart thread inode.dev 3

/-- The return handler of all probed functions. -/
def kretprobeNfsVfs (thread now : UInt64) (tracer : KprobeTracer) :
    KprobeTracer :=
  match tracer.starts.lookup thread with
  | none => tracer
  | some start =>
      let delta := toS64 (now - start.ts)
      let hk : HistKey := ⟨start.dev, start.op⟩
      let tracer := { tracer with starts := tracer.starts.erase thread }
      if delta < 0 then tracer
      else { tracer with hists := observe tracer.hists hk (latencySlot delta) }

inductive NfsFunction
  | nfsFileRead
  | nfsFileWrite
  | nfsFileOpen
  | nfs4FileOpen
  | nfsGetattr
  deriving DecidableEq

def NfsFunction.op : NfsFunction → UInt8
  | .nfsFileRead => 0
  | .nfsFileWrite => 1
  | .nfsFileOpen | .nfs4FileOpen => 2
  | .nfsGetattr => 3

def NfsFunction.kprobe :
    NfsFunction → UInt64 → Inode → UInt64 → KprobeTracer → KprobeTracer
  | .nfsFileRead => kprobeNfsFileRead
  | .nfsFileWrite => kprobeNfsFileWrite
  | .nfsFileOpen => kprobeNfsFileOpen
  | .nfs4FileOpen => kprobeNfs4FileOpen
  | .nfsGetattr => kprobeNfsGetattr

theorem NfsFunction.kprobe_eq (fn : NfsFunction) (thread : UInt64)
    (inode : Inode) (now : UInt64) (tracer : KprobeTracer) :
    fn.kprobe thread inode now tracer =
      recordStart thread inode.dev fn.op now tracer := by
  cases fn <;> rfl

inductive KprobeEvent
  | enter (fn : NfsFunction) (thread : UInt64) (inode : Inode) (now : UInt64)
  | leave (fn : NfsFunction) (thread : UInt64) (now : UInt64)
  | evictStart (thread : UInt64)
  | evictHist (key : HistKey)
  deriving DecidableEq

namespace KprobeTracer

def step (tracer : KprobeTracer) : KprobeEvent → KprobeTracer
  | .enter fn thread inode now => fn.kprobe thread inode now tracer
  | .leave _ thread now => kretprobeNfsVfs thread now tracer
  | .evictStart thread =>
      { tracer with starts := tracer.starts.erase thread }
  | .evictHist key => { tracer with hists := tracer.hists.erase key }

def run (trace : List KprobeEvent) : KprobeTracer := stateAfter step init trace

theorem run_append_singleton (trace : List KprobeEvent) (event : KprobeEvent) :
    run (trace ++ [event]) = (run trace).step event :=
  stateAfter_append_singleton step init trace event

end KprobeTracer

theorem kretprobeNfsVfs_starts (thread now : UInt64) (tracer : KprobeTracer) :
    (kretprobeNfsVfs thread now tracer).starts =
      tracer.starts.erase thread := by
  unfold kretprobeNfsVfs
  split
  next missing => exact (Table.erase_of_lookup_none missing).symm
  next =>
    dsimp only
    split
    next => rfl
    next => rfl

theorem kretprobeNfsVfs_hists (thread now : UInt64) (tracer : KprobeTracer) :
    (kretprobeNfsVfs thread now tracer).hists =
      match tracer.starts.lookup thread with
      | none => tracer.hists
      | some start =>
          if toS64 (now - start.ts) < 0 then tracer.hists
          else observe tracer.hists ⟨start.dev, start.op⟩
            (latencySlot (toS64 (now - start.ts))) := by
  unfold kretprobeNfsVfs
  split
  next => rfl
  next =>
    dsimp only
    split
    next => rfl
    next => rfl

/-! ### The calls of a thread -/

/-- A probed function that has been entered and has not returned; `nested` once
another one was entered inside it. -/
structure OpenCall where
  fn : NfsFunction
  dev : UInt32
  entered : UInt64
  nested : Bool
  deriving DecidableEq

/-- The open calls of each thread, the innermost first. -/
def callStep (calls : UInt64 → List OpenCall) :
    KprobeEvent → UInt64 → List OpenCall
  | .enter fn thread inode now =>
      Function.update calls thread (⟨fn, inode.dev, now, false⟩ ::
        (calls thread).map fun call => { call with nested := true })
  | .leave _ thread _ => Function.update calls thread (calls thread).tail
  | .evictStart _ | .evictHist _ => calls

def openCalls (trace : List KprobeEvent) : UInt64 → List OpenCall :=
  stateAfter callStep (fun _ => []) trace

theorem openCalls_append_singleton (trace : List KprobeEvent)
    (event : KprobeEvent) :
    openCalls (trace ++ [event]) = callStep (openCalls trace) event :=
  stateAfter_append_singleton callStep _ trace event

def KprobeEvent.time? : KprobeEvent → Option UInt64
  | .enter _ _ _ now | .leave _ _ now => some now
  | _ => none

/-- What returns is the innermost open call of its thread, start entries are not
evicted and the clock is monotone. -/
structure WellNestedCalls (trace : List KprobeEvent) : Prop where
  nested : Throughout (fun before event => ∀ fn thread now,
    event = .leave fn thread now →
      ((openCalls before thread).map OpenCall.fn).head? = some fn) trace
  kept : ∀ thread, .evictStart thread ∉ trace
  monotone : Throughout (fun before event =>
    ∀ earlier ∈ before.filterMap KprobeEvent.time?, ∀ now ∈ event.time?,
      earlier ≤ now) trace

/-- Every return adds exactly one sample, to the device and operation of its own
entry and with its own elapsed time. -/
def SamplesOwnCall (trace : List KprobeEvent) : Prop :=
  Throughout (fun before event => ∀ fn thread now call outer,
    event = .leave fn thread now → openCalls before thread = call :: outer →
      AddsSample (KprobeTracer.run before).hists
        (KprobeTracer.run (before ++ [event])).hists ⟨call.dev, call.fn.op⟩
        (now.toNat - call.entered.toNat)) trace

/-- No call that returns had another one inside it, and each returns within
`2 ^ 63` nanoseconds. -/
def CallsApart (trace : List KprobeEvent) : Prop :=
  Throughout (fun before event => ∀ fn thread now call outer,
    event = .leave fn thread now → openCalls before thread = call :: outer →
      call.nested = false ∧ now.toNat - call.entered.toNat < 2 ^ 63) trace

theorem openCalls_tail_nested (trace : List KprobeEvent) (thread : UInt64) :
    ∀ call ∈ (openCalls trace thread).tail, call.nested = true := by
  induction trace using List.reverseRecOn with
  | nil => simp [openCalls]
  | append_singleton trace event induction =>
      rw [openCalls_append_singleton]
      cases event with
      | enter fn other inode now =>
          simp only [callStep, Function.update_apply]
          split
          next =>
            intro call member
            obtain ⟨inner, -, rfl⟩ := List.mem_map.mp member
            rfl
          next => exact induction
      | leave fn other now =>
          simp only [callStep, Function.update_apply]
          split
          next same =>
            subst same
            intro call member
            exact induction call (List.mem_of_mem_tail member)
          next => exact induction
      | evictStart other => exact induction
      | evictHist key => exact induction

/-- The start that the return handler finds for a thread: that of its innermost
call, unless a call inside has used the slot. -/
def currentStart : List OpenCall → Option KprobeStart
  | [] => none
  | call :: _ =>
      if call.nested then none
      else some ⟨call.entered, call.dev, call.fn.op⟩

theorem currentStart_of_nested {calls : List OpenCall}
    (nested : ∀ call ∈ calls, call.nested = true) :
    currentStart calls = none := by
  cases calls with
  | nil => rfl
  | cons call outer => simp [currentStart, nested call (by simp)]

theorem lookup_starts {trace : List KprobeEvent}
    (kept : ∀ thread, .evictStart thread ∉ trace) (thread : UInt64) :
    (KprobeTracer.run trace).starts.lookup thread =
      currentStart (openCalls trace thread) := by
  induction trace using List.reverseRecOn with
  | nil => rfl
  | append_singleton trace event induction =>
      have earlier := induction fun other member =>
        kept other (List.mem_append_left _ member)
      rw [openCalls_append_singleton, KprobeTracer.run_append_singleton]
      cases event with
      | enter fn other inode now =>
          simp only [KprobeTracer.step, fn.kprobe_eq, recordStart, callStep,
            Table.lookup_insert_eq_ite, Function.update_apply]
          split
          next => simp [currentStart]
          next => exact earlier
      | leave fn other now =>
          simp only [KprobeTracer.step, kretprobeNfsVfs_starts, callStep,
            Table.lookup_erase_eq_ite, Function.update_apply]
          split
          next same =>
            rw [currentStart_of_nested (openCalls_tail_nested trace other)]
          next => exact earlier
      | evictStart other => exact absurd (by simp) (kept other)
      | evictHist key => exact earlier

/-! ### The sample of a return -/

theorem openCalls_entered {trace : List KprobeEvent} {thread : UInt64}
    {call : OpenCall} (running : call ∈ openCalls trace thread) :
    call.entered ∈ trace.filterMap KprobeEvent.time? := by
  induction trace using List.reverseRecOn generalizing call with
  | nil => simp [openCalls] at running
  | append_singleton trace event induction =>
      rw [openCalls_append_singleton] at running
      rw [List.filterMap_append, List.mem_append]
      cases event with
      | enter fn other inode now =>
          simp only [callStep, Function.update_apply] at running
          split at running
          next same =>
            subst same
            rcases List.mem_cons.mp running with rfl | below
            · exact .inr (by simp [KprobeEvent.time?])
            · obtain ⟨inner, member, rfl⟩ := List.mem_map.mp below
              have earlier := induction member
              exact .inl earlier
          next => exact .inl (induction running)
      | leave fn other now =>
          simp only [callStep, Function.update_apply] at running
          split at running
          next same =>
            subst same
            exact .inl (induction (List.mem_of_mem_tail running))
          next => exact .inl (induction running)
      | evictStart other => exact .inl (induction running)
      | evictHist key => exact .inl (induction running)

theorem not_addsSample_self (hists : Table HistKey Hist) (key : HistKey)
    (ns : Nat) : ¬ AddsSample hists hists key ns := by
  intro adds
  have inside : slotOf ns < maxSlots := by
    simp only [slotOf, maxSlots]
    omega
  have counted := adds key ⟨slotOf ns, inside⟩
  rw [if_pos ⟨rfl, rfl⟩] at counted
  exact absurd counted.symm (by simp)

theorem elapsed_neg {entered now : UInt64} (le : entered ≤ now)
    (late : ¬ now.toNat - entered.toNat < 2 ^ 63) :
    toS64 (now - entered) < 0 := by
  have difference := UInt64.toNat_sub_of_le now entered le
  have bound := (now - entered).toNat_lt
  rw [toS64, BitVec.toInt_eq_toNat_cond, UInt64.toNat_toBitVec, if_neg (by omega)]
  omega

/-- One return, by the call it ends. -/
theorem leave_addsSample_iff {before : List KprobeEvent}
    (kept : ∀ thread, .evictStart thread ∉ before) {fn : NfsFunction}
    {thread now : UInt64} {call : OpenCall} {outer : List OpenCall}
    (running : openCalls before thread = call :: outer)
    (le : call.entered ≤ now) :
    AddsSample (KprobeTracer.run before).hists
        (KprobeTracer.run (before ++ [.leave fn thread now])).hists
        ⟨call.dev, call.fn.op⟩ (now.toNat - call.entered.toNat) ↔
      call.nested = false ∧ now.toNat - call.entered.toNat < 2 ^ 63 := by
  have found := lookup_starts kept thread
  rw [running, currentStart] at found
  rw [KprobeTracer.run_append_singleton]
  simp only [KprobeTracer.step, kretprobeNfsVfs_hists, found]
  cases nested : call.nested with
  | true => simp [not_addsSample_self]
  | false =>
      simp only [Bool.false_eq_true, if_false, true_and]
      by_cases prompt : now.toNat - call.entered.toNat < 2 ^ 63
      · rw [Handlers.elapsed_eq le prompt, if_neg (by omega)]
        exact iff_of_true (observe_addsSample _ _ _ prompt) prompt
      · rw [if_pos (elapsed_neg le prompt)]
        exact iff_of_false (not_addsSample_self _ _ _) prompt

theorem samplesOwnCall_iff (trace : List KprobeEvent)
    (wellNested : WellNestedCalls trace) :
    SamplesOwnCall trace ↔ CallsApart trace := by
  have atReturn : ∀ before event after, trace = before ++ event :: after →
      ∀ fn thread now call outer, event = .leave fn thread now →
        openCalls before thread = call :: outer →
        (AddsSample (KprobeTracer.run before).hists
            (KprobeTracer.run (before ++ [event])).hists
            ⟨call.dev, call.fn.op⟩ (now.toNat - call.entered.toNat) ↔
          call.nested = false ∧ now.toNat - call.entered.toNat < 2 ^ 63) := by
    rintro before _ after split fn thread now call outer rfl running
    have kept : ∀ thread, .evictStart thread ∉ before := fun other member =>
      wellNested.kept other (by rw [split]; exact List.mem_append_left _ member)
    have entered : call.entered ∈ before.filterMap KprobeEvent.time? :=
      openCalls_entered (by rw [running]; exact List.mem_cons_self)
    exact leave_addsSample_iff kept running
      (wellNested.monotone before _ after split _ entered now rfl)
  constructor
  · intro samplesOwn before event after split fn thread now call outer returns
      running
    exact (atReturn before event after split fn thread now call outer returns
      running).mp (samplesOwn before event after split fn thread now call outer
        returns running)
  · intro apart before event after split fn thread now call outer returns
      running
    exact (atReturn before event after split fn thread now call outer returns
      running).mpr (apart before event after split fn thread now call outer
        returns running)

/-- A read on one thread and an open on another, overlapping in time. -/
def readBesideOpen : List KprobeEvent :=
  [.enter .nfsFileRead 1 ⟨100, 0x2f⟩ 1000, .enter .nfs4FileOpen 2 ⟨200, 0x30⟩ 2000,
    .leave .nfsFileRead 1 900000, .leave .nfs4FileOpen 2 950000]

theorem readBesideOpen_samplesOwnCall : SamplesOwnCall readBesideOpen :=
  (samplesOwnCall_iff readBesideOpen
    { nested := by
        simp [readBesideOpen, throughout_iff_get, Fin.forall_fin_succ,
          openCalls, stateAfter, callStep, Function.update_apply]
      kept := by simp [readBesideOpen]
      monotone := by
        simp [readBesideOpen, throughout_iff_get, Fin.forall_fin_succ,
          KprobeEvent.time?, forall_and] }).mpr (by
    simp only [CallsApart, readBesideOpen, throughout_iff_get]
    simp [Fin.forall_fin_succ, openCalls, stateAfter, callStep,
      Function.update_apply]
    constructor
    · rintro _ _ _ call outer rfl rfl rfl running
      obtain ⟨rfl, rfl⟩ := List.cons.inj running
      decide
    · rintro _ _ _ call outer rfl rfl rfl running
      obtain ⟨rfl, rfl⟩ := List.cons.inj running
      decide)

/-- A write inside which the attributes of its file are read: the return of the
inner call uses up the slot of the thread and the write is not counted. -/
def getattrInsideWrite : List KprobeEvent :=
  [.enter .nfsFileWrite 1 ⟨100, 0x2f⟩ 1000000,
    .enter .nfsGetattr 1 ⟨100, 0x2f⟩ 2000000, .leave .nfsGetattr 1 3000000,
    .leave .nfsFileWrite 1 900000000]

theorem getattrInsideWrite_drops_write :
    WellNestedCalls getattrInsideWrite ∧ ¬ SamplesOwnCall getattrInsideWrite := by
  constructor
  · constructor
    · simp [getattrInsideWrite, throughout_iff_get, Fin.forall_fin_succ,
        openCalls, stateAfter, callStep, Function.update_apply]
    · simp [getattrInsideWrite]
    · simp [getattrInsideWrite, throughout_iff_get, Fin.forall_fin_succ,
        KprobeEvent.time?, forall_and]
  · intro samplesOwn
    have sampled := samplesOwn (getattrInsideWrite.take 3) _ [] rfl
      .nfsFileWrite 1 900000000 ⟨.nfsFileWrite, 0x2f, 1000000, true⟩ [] rfl
      (by decide) ⟨0x2f, 1⟩ ⟨19, by decide⟩
    revert sampled
    decide +kernel

end KubevirtMetrics.Bpf
