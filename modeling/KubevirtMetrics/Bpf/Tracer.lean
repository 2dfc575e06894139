import KubevirtMetrics.Bpf.Histogram
import KubevirtMetrics.Data.Spans

namespace KubevirtMetrics.Bpf

open Data

/-! What the request tracers have in common: a table of start times, a table of
histograms, and a completion handler that moves one entry from the first to the
second. -/

/-- `struct block_hist_key` and `struct nfs_hist_key`; the padding is always
zero. -/
structure HistKey where
  dev : UInt32
  op : UInt8
  deriving DecidableEq

structure Tracer (K : Type) where
  starts : Table K UInt64
  hists : Table HistKey Hist

def Tracer.init : Tracer K := ⟨∅, ∅⟩

section Handlers

variable {R K : Type} [DecidableEq R] [DecidableEq K]

/-- The body of a completion handler.  `histKey` is absent for an operation
that is not classified: its start entry is removed and nothing is counted. -/
def recordLatency (tracer : Tracer K) (key : K) (histKey : Option HistKey)
    (now : UInt64) : Tracer K :=
  match tracer.starts.lookup key with
  | none => tracer
  | some ts =>
      let delta := toS64 (now - ts)
      let tracer := { tracer with starts := tracer.starts.erase key }
      if delta < 0 then tracer
      else
        match histKey with
        | none => tracer
        | some hk =>
            { tracer with hists := observe tracer.hists hk (latencySlot delta) }

structure Handlers (R K : Type) [DecidableEq K] where
  key : R → K
  histKey : R → Option HistKey
  issue : R → UInt64 → Tracer K → Tracer K
  complete : R → UInt64 → Tracer K → Tracer K
  issue_eq : ∀ request now tracer, issue request now tracer =
    if (histKey request).isSome then
      { tracer with starts := tracer.starts.insert (key request) now }
    else tracer
  complete_eq : ∀ request now tracer, complete request now tracer =
    recordLatency tracer (key request) (histKey request) now

/-- What can happen to a tracer.  Both maps are `LRU_HASH` maps, from which the
kernel may drop an entry at any time. -/
inductive TracerEvent (R K : Type)
  | issue (request : R) (now : UInt64)
  | complete (request : R) (now : UInt64)
  | evictStart (key : K)
  | evictHist (key : HistKey)
  deriving DecidableEq

namespace Handlers

def step (handlers : Handlers R K) (tracer : Tracer K) :
    TracerEvent R K → Tracer K
  | .issue request now => handlers.issue request now tracer
  | .complete request now => handlers.complete request now tracer
  | .evictStart key => { tracer with starts := tracer.starts.erase key }
  | .evictHist key => { tracer with hists := tracer.hists.erase key }

def run (handlers : Handlers R K) (trace : List (TracerEvent R K)) : Tracer K :=
  stateAfter handlers.step .init trace

def Classified (handlers : Handlers R K) (request : R) : Prop :=
  (handlers.histKey request).isSome = true

def probe (handlers : Handlers R K) : Probe R K where
  key := handlers.key
  tracked request := (handlers.histKey request).isSome

end Handlers

def TracerEvent.span? : TracerEvent R K → Option (SpanEvent R UInt64)
  | .issue request now => some (.start request now)
  | .complete request now => some (.finish request now)
  | _ => none

def TracerEvent.time? : TracerEvent R K → Option UInt64
  | .issue _ now | .complete _ now => some now
  | _ => none

def spans (trace : List (TracerEvent R K)) : List (SpanEvent R UInt64) :=
  trace.filterMap TracerEvent.span?

def pending (trace : List (TracerEvent R K)) : List (R × UInt64) :=
  Probe.inFlight (spans trace)

/-- Each completion belongs to one request issued before it and not completed
yet, start entries are not evicted and the clock is monotone. -/
structure WellFormed (trace : List (TracerEvent R K)) : Prop where
  nested : Probe.WellNested (spans trace)
  kept : ∀ key, .evictStart key ∉ trace
  monotone : Throughout (fun before event =>
    ∀ earlier ∈ before.filterMap TracerEvent.time?, ∀ now ∈ event.time?,
      earlier ≤ now) trace

def samples (hists : Table HistKey Hist) (key : HistKey)
    (slot : Fin maxSlots) : UInt64 :=
  (hists.getD key zeroHist).slots slot

/-- `after` has one sample more than `before`: a latency of `ns` nanoseconds in
the histogram of `key`. -/
def AddsSample (before after : Table HistKey Hist) (key : HistKey)
    (ns : Nat) : Prop :=
  ∀ other slot, samples after other slot =
    samples before other slot +
      if other = key ∧ slot.val = slotOf ns then 1 else 0

theorem samples_observe (hists : Table HistKey Hist) (key other : HistKey)
    (slot cell : Fin maxSlots) :
    samples (observe hists key slot) other cell = samples hists other cell +
      if other = key ∧ cell = slot then 1 else 0 := by
  rw [observe_eq, samples, samples]
  by_cases same : other = key
  · subst same
    rw [Table.getD_insert_self]
    by_cases here : cell = slot
    · subst here
      simp [Hist.increment]
    · simp [Hist.increment, here]
  · rw [Table.getD_insert_of_ne hists same]
    simp [same]

theorem observe_addsSample (hists : Table HistKey Hist) (key : HistKey)
    (ns : Nat) (bounded : ns < 2 ^ 63) :
    AddsSample hists (observe hists key (latencySlot ns)) key ns := by
  intro other slot
  simp only [samples_observe, Fin.ext_iff, latencySlot_val ns bounded]

namespace Handlers

/-- Every completion of a classified request adds exactly one sample, in the
slot of that request's own completion time minus its own issue time. -/
def SamplesOwnLatency (handlers : Handlers R K)
    (trace : List (TracerEvent R K)) : Prop :=
  Throughout (fun before event =>
    ∀ request now key issued,
      event = .complete request now → handlers.histKey request = some key →
      (request, issued) ∈ pending before →
      AddsSample (handlers.run before).hists
        (handlers.run (before ++ [event])).hists key
        (now.toNat - issued.toNat)) trace

/-- While a classified request is in flight its key is its own: no classified
request is issued and no other request completes on it; and the request
completes within `2 ^ 63` nanoseconds. -/
structure KeysApart (handlers : Handlers R K)
    (trace : List (TracerEvent R K)) : Prop where
  exclusive : handlers.probe.Exclusive (spans trace)
  prompt : Throughout (fun before event =>
    ∀ request now issued, event = .complete request now →
      handlers.Classified request → (request, issued) ∈ pending before →
      now.toNat - issued.toNat < 2 ^ 63) trace

/-- Clocks that started less than `2 ^ 63` nanoseconds ago. -/
theorem prompt_of_early (handlers : Handlers R K) {trace : List (TracerEvent R K)}
    (early : ∀ now ∈ trace.filterMap TracerEvent.time?, now.toNat < 2 ^ 63) :
    Throughout (fun before event =>
      ∀ request now issued, event = .complete request now →
        handlers.Classified request → (request, issued) ∈ pending before →
        now.toNat - issued.toNat < 2 ^ 63) trace := by
  intro before event after split request now issued completes _ _
  have shown : now ∈ trace.filterMap TracerEvent.time? := by
    rw [List.mem_filterMap]
    refine ⟨event, ?_, by rw [completes]; rfl⟩
    rw [split]
    exact List.mem_append_right before List.mem_cons_self
  exact lt_of_le_of_lt (Nat.sub_le _ _) (early now shown)

omit [DecidableEq R] in
@[simp] theorem run_append_singleton (handlers : Handlers R K)
    (trace : List (TracerEvent R K)) (event : TracerEvent R K) :
    handlers.run (trace ++ [event]) =
      handlers.step (handlers.run trace) event := by
  simp [run]

theorem recordLatency_starts (tracer : Tracer K) (key : K)
    (histKey : Option HistKey) (now : UInt64) :
    (recordLatency tracer key histKey now).starts = tracer.starts.erase key := by
  unfold recordLatency
  split
  next missing => exact (Table.erase_of_lookup_none missing).symm
  next =>
    dsimp only
    split
    next => rfl
    next => split <;> rfl

omit [DecidableEq R] in
/-- Without evictions the start map is the table of the tracer's probe. -/
theorem run_starts (handlers : Handlers R K) {trace : List (TracerEvent R K)}
    (kept : ∀ key, .evictStart key ∉ trace) :
    (handlers.run trace).starts = handlers.probe.starts (spans trace) := by
  induction trace using List.reverseRecOn with
  | nil => rfl
  | append_singleton trace event induction =>
      have earlier := induction fun key member =>
        kept key (List.mem_append_left _ member)
      rw [run_append_singleton, spans, List.filterMap_append]
      cases event with
      | issue request now =>
          simp only [step, handlers.issue_eq, TracerEvent.span?,
            List.filterMap_cons, List.filterMap_nil, Probe.starts,
            stateAfter_append_singleton, Probe.startStep, probe]
          split <;> rw [earlier] <;> rfl
      | complete request now =>
          simp only [step, handlers.complete_eq, recordLatency_starts,
            TracerEvent.span?, List.filterMap_cons, List.filterMap_nil,
            Probe.starts, stateAfter_append_singleton, Probe.startStep]
          rw [earlier]
          rfl
      | evictStart key => exact absurd (by simp) (kept key)
      | evictHist key =>
          simp only [step, TracerEvent.span?, List.filterMap_cons,
            List.filterMap_nil, List.append_nil]
          exact earlier

omit [DecidableEq K] in
theorem pending_le {trace : List (TracerEvent R K)}
    {event : TracerEvent R K} {request : R} {issued now : UInt64}
    (monotone : ∀ earlier ∈ trace.filterMap TracerEvent.time?,
      ∀ now ∈ event.time?, earlier ≤ now)
    (running : (request, issued) ∈ pending trace)
    (clock : event.time? = some now) : issued ≤ now := by
  have started := Probe.start_mem_of_inFlight running
  obtain ⟨issue, member, issueSpan⟩ := List.mem_filterMap.mp started
  refine monotone issued (List.mem_filterMap.mpr ⟨issue, member, ?_⟩) now clock
  cases issue with
  | issue _ _ =>
      simp only [TracerEvent.span?, Option.some.injEq, SpanEvent.start.injEq]
        at issueSpan
      simp [TracerEvent.time?, issueSpan.2]
  | complete _ _ => simp [TracerEvent.span?] at issueSpan
  | evictStart _ => simp [TracerEvent.span?] at issueSpan
  | evictHist _ => simp [TracerEvent.span?] at issueSpan

theorem elapsed_eq {issued now : UInt64} (le : issued ≤ now)
    (prompt : now.toNat - issued.toNat < 2 ^ 63) :
    toS64 (now - issued) = ((now.toNat - issued.toNat : Nat) : Int) := by
  have difference := UInt64.toNat_sub_of_le now issued le
  rw [toS64_of_lt _ (by omega), difference]

theorem samplesOwnLatency_of_keysApart (handlers : Handlers R K)
    {trace : List (TracerEvent R K)} (wellFormed : WellFormed trace)
    (apart : handlers.KeysApart trace) : handlers.SamplesOwnLatency trace := by
  intro before event after split request now key issued completes classified
    running
  subst completes
  have isClassified : handlers.Classified request := by
    simp [Classified, classified]
  have prompt := apart.prompt before _ after split request now issued rfl
    isClassified running
  have le : issued ≤ now :=
    pending_le (wellFormed.monotone before _ after split) running rfl
  have kept : ∀ key, .evictStart key ∉ before := fun key member =>
    wellFormed.kept key (by rw [split]; exact List.mem_append_left _ member)
  have exclusive : handlers.probe.Exclusive (spans before) := by
    have whole := apart.exclusive
    rw [split, spans, List.filterMap_append] at whole
    exact whole.of_append
  have found := handlers.probe.lookup_starts_of_inFlight exclusive running
    isClassified
  rw [← handlers.run_starts kept] at found
  have recordedEq : (handlers.run (before ++ [.complete request now])).hists =
      observe (handlers.run before).hists key
        (latencySlot ((now.toNat - issued.toNat : Nat) : Int)) := by
    rw [run_append_singleton]
    simp only [step, handlers.complete_eq, recordLatency]
    change (handlers.run before).starts.lookup (handlers.key request) =
      some issued at found
    simp only [found, classified, elapsed_eq le prompt]
    rw [if_neg (by omega)]
  rw [recordedEq]
  exact observe_addsSample _ key _ prompt

end Handlers

end Handlers

end KubevirtMetrics.Bpf
