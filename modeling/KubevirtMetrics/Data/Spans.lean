import KubevirtMetrics.Data.Run
import KubevirtMetrics.Data.Table

namespace KubevirtMetrics.Data

/-! Pairing the start and the end of overlapping operations.  A probe sees the
two ends separately and joins them through a table of start times, under a key
it can compute at either end. -/

inductive SpanEvent (R : Type) (T : Type)
  | start (op : R) (time : T)
  | finish (op : R) (time : T)

/-- What a probe can tell about an operation: the key it files the start under,
and whether it records the start at all. -/
structure Probe (R : Type) (K : Type) where
  key : R → K
  tracked : R → Bool

namespace Probe

variable {R K T : Type} [DecidableEq R] [DecidableEq K]

def startStep (probe : Probe R K) (starts : Table K T) :
    SpanEvent R T → Table K T
  | .start op time =>
      if probe.tracked op then starts.insert (probe.key op) time else starts
  | .finish op _ => starts.erase (probe.key op)

def starts (probe : Probe R K) (history : List (SpanEvent R T)) : Table K T :=
  stateAfter probe.startStep ∅ history

def inFlightStep (running : List (R × T)) : SpanEvent R T → List (R × T)
  | .start op time => (op, time) :: running
  | .finish op _ => running.filter fun entry => entry.1 ≠ op

def inFlight (history : List (SpanEvent R T)) : List (R × T) :=
  stateAfter inFlightStep [] history

/-- An operation starts once at a time, and only a running one finishes. -/
def NestsIn (running : List (R × T)) : SpanEvent R T → Prop
  | .start op _ => op ∉ running.map Prod.fst
  | .finish op _ => op ∈ running.map Prod.fst

instance (running : List (R × T)) :
    (event : SpanEvent R T) → Decidable (NestsIn running event)
  | .start op _ => inferInstanceAs (Decidable (op ∉ running.map Prod.fst))
  | .finish op _ => inferInstanceAs (Decidable (op ∈ running.map Prod.fst))

def WellNested (history : List (SpanEvent R T)) : Prop :=
  Throughout (fun before event => NestsIn (inFlight before) event) history

/-- The event leaves the keys of the other tracked operations in progress
alone. -/
def Separate (probe : Probe R K) (running : List (R × T)) :
    SpanEvent R T → Prop
  | .start op _ =>
      probe.tracked op = true → ∀ other ∈ running.map Prod.fst,
        probe.tracked other = true → probe.key other ≠ probe.key op
  | .finish op _ =>
      ∀ other ∈ running.map Prod.fst, other ≠ op →
        probe.tracked other = true → probe.key other ≠ probe.key op

instance (probe : Probe R K) (running : List (R × T)) :
    (event : SpanEvent R T) → Decidable (probe.Separate running event)
  | .start op _ => inferInstanceAs (Decidable (probe.tracked op = true →
      ∀ other ∈ running.map Prod.fst,
        probe.tracked other = true → probe.key other ≠ probe.key op))
  | .finish op _ => inferInstanceAs (Decidable (
      ∀ other ∈ running.map Prod.fst, other ≠ op →
        probe.tracked other = true → probe.key other ≠ probe.key op))

def Exclusive (probe : Probe R K) (history : List (SpanEvent R T)) : Prop :=
  Throughout (fun before event => probe.Separate (inFlight before) event)
    history

theorem start_mem_of_inFlight {history : List (SpanEvent R T)} {op : R} {time : T}
    (running : (op, time) ∈ inFlight history) : .start op time ∈ history := by
  induction history using List.reverseRecOn with
  | nil => simp [inFlight] at running
  | append_singleton history event induction =>
      simp only [inFlight, stateAfter_append_singleton] at running
      cases event with
      | start newOp newTime =>
          simp only [inFlightStep, List.mem_cons, Prod.mk.injEq] at running
          rcases running with ⟨rfl, rfl⟩ | running
          · simp
          · exact List.mem_append_left _ (induction running)
      | finish doneOp doneTime =>
          simp only [inFlightStep, List.mem_filter] at running
          exact List.mem_append_left _ (induction running.1)

/-- Under `Exclusive` the table holds the own start time of every tracked
operation in progress. -/
theorem lookup_starts_of_inFlight (probe : Probe R K)
    {history : List (SpanEvent R T)} (exclusive : probe.Exclusive history)
    {op : R} {time : T} (running : (op, time) ∈ inFlight history)
    (tracked : probe.tracked op = true) :
    (probe.starts history).lookup (probe.key op) = some time := by
  induction history using List.reverseRecOn generalizing op time with
  | nil => simp [inFlight] at running
  | append_singleton history event induction =>
      rw [Exclusive, throughout_append_singleton] at exclusive
      obtain ⟨earlier, guard⟩ := exclusive
      simp only [inFlight, stateAfter_append_singleton] at running
      simp only [starts, stateAfter_append_singleton]
      cases event with
      | start newOp newTime =>
          simp only [inFlightStep, List.mem_cons, Prod.mk.injEq] at running
          simp only [startStep]
          split
          next newTracked =>
            rcases running with ⟨rfl, rfl⟩ | running
            · exact Finmap.lookup_insert _
            · have distinct := guard newTracked op
                (List.mem_map_of_mem (f := Prod.fst) running) tracked
              rw [Finmap.lookup_insert_of_ne _ distinct]
              exact induction earlier running tracked
          next untracked =>
            rcases running with ⟨rfl, rfl⟩ | running
            · exact absurd tracked untracked
            · exact induction earlier running tracked
      | finish doneOp doneTime =>
          simp only [inFlightStep, List.mem_filter, decide_eq_true_eq] at running
          obtain ⟨running, other⟩ := running
          have distinct := guard op
            (List.mem_map_of_mem (f := Prod.fst) running) other tracked
          simp only [startStep]
          rw [Finmap.lookup_erase_ne distinct]
          exact induction earlier running tracked

end Probe

end KubevirtMetrics.Data
