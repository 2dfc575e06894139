import KubevirtMetrics.Bpf.Kprobe
import KubevirtMetrics.Data.Slots
import KubevirtMetrics.Ebpf.Collector

namespace KubevirtMetrics.Ebpf

open Data Bpf

/-! Where the counts of the histogram maps come from: each is paid for with one
recorded start, which no other count uses. -/

section Accounts

variable {E : Type}

/-- The event at position `i` adds one to a slot of the histogram of `key`;
`hists` is the histogram map after a trace. -/
def IncrementAt (hists : List E → Table HistKey Hist) (events : List E) (i : Nat)
    (key : HistKey) (slot : Fin maxSlots) : Prop :=
  i < events.length ∧
    hists (events.take (i + 1)) = observe (hists (events.take i)) key slot

def Increments (hists : List E → Table HistKey Hist) (events : List E) :
    Set Nat :=
  {i | ∃ key slot, IncrementAt hists events i key slot}

/-- What a tracer records and what it uses a record for. -/
structure Bookkeeping (E : Type) where
  Recorded : E → Prop
  /-- The count that the second event makes of the record of the first. -/
  Uses : E → E → HistKey → Fin maxSlots → Prop
  /-- After the given trace, the event is a completion that must not count. -/
  Silent : List E → E → Prop
  evicts : E → Option HistKey

structure Accounts (hists : List E → Table HistKey Hist) (books : Bookkeeping E)
    (kind : HistMap) (events : List E) : Prop where
  /-- Every increment uses an earlier record, and no record is used twice. -/
  once : ∃ source : Nat → Nat, Set.InjOn source (Increments hists events) ∧
    ∀ i key slot, IncrementAt hists events i key slot → source i < i ∧
      ∃ start finish, events[source i]? = some start ∧
        events[i]? = some finish ∧ books.Recorded start ∧
          books.Uses start finish key slot
  few : (Increments hists events).ncard ≤
    {i : Nat | ∃ start ∈ events[i]?, books.Recorded start}.ncard
  /-- The collector has a label for the operation of every increment. -/
  labelled : ∀ i key slot, IncrementAt hists events i key slot →
    key.op ≤ kind.maxOp ∧ key.op.toNat < kind.opLabels.length
  silent : Throughout (fun before event => books.Silent before event →
    hists (before ++ [event]) = hists before) events
  /-- Besides increments only evictions change a histogram. -/
  changes : Throughout (fun before event =>
    (∃ key slot, hists (before ++ [event]) = observe (hists before) key slot) ∨
      hists (before ++ [event]) = hists before ∨
        ∃ key, books.evicts event = some key ∧
          hists (before ++ [event]) = (hists before).erase key) events

end Accounts

/-! ### Increments of a histogram map -/

theorem observe_ne_self (hists : Table HistKey Hist) (key : HistKey)
    (slot : Fin maxSlots) : observe hists key slot ≠ hists := by
  intro same
  have counted := samples_observe hists key key slot slot
  rw [same, if_pos ⟨rfl, rfl⟩] at counted
  exact absurd counted.symm (by simp)

theorem observe_inj {hists : Table HistKey Hist} {key other : HistKey}
    {slot cell : Fin maxSlots}
    (same : observe hists key slot = observe hists other cell) :
    key = other ∧ slot = cell := by
  have counted := samples_observe hists other key cell slot
  rw [← same, samples_observe, if_pos ⟨rfl, rfl⟩] at counted
  by_contra differ
  rw [if_neg differ] at counted
  exact absurd counted (by simp)

theorem observe_ne_erase (hists : Table HistKey Hist) (key evicted : HistKey)
    (slot : Fin maxSlots) : observe hists key slot ≠ hists.erase evicted := by
  intro same
  have found : (hists.erase evicted).lookup key =
      some ((hists.getD key zeroHist).increment slot) := by
    rw [← same, observe_eq]
    exact Finmap.lookup_insert hists
  obtain ⟨-, earlier⟩ := Table.of_lookup_erase found
  -- the entry of `key` would have to be its own increment
  apply observe_ne_self hists key slot
  rw [observe_eq]
  apply Finmap.ext_lookup
  intro other
  rw [Table.lookup_insert_eq_ite]
  split
  next here => rw [here, earlier]
  next => rfl

/-! ### Tracers as users of slots -/

/-- A tracer whose events put start entries, take them out and lose them, and
count at most when an entry is taken out. -/
structure Recorder (S E K V : Type) [DecidableEq K] where
  init : S
  step : S → E → S
  starts : S → Table K V
  hists : S → Table HistKey Hist
  slotEvent : E → SlotEvent K V
  /-- What the event counts for the entry that it takes out. -/
  sample : E → V → Option (HistKey × Fin maxSlots)
  evicts : E → Option HistKey
  starts_init : starts init = ∅
  starts_step : ∀ state event,
    starts (step state event) = (slotEvent event).apply (starts state)
  hists_step : ∀ state event, hists (step state event) =
    match evicts event with
    | some key => (hists state).erase key
    | none =>
        match ((slotEvent event).taken? (starts state)).bind (sample event) with
        | some (key, slot) => observe (hists state) key slot
        | none => hists state

namespace Recorder

variable {S E K V : Type} [DecidableEq K] (recorder : Recorder S E K V)

def run (events : List E) : S := stateAfter recorder.step recorder.init events

def histsAfter (events : List E) : Table HistKey Hist :=
  recorder.hists (recorder.run events)

theorem starts_run (events : List E) :
    recorder.starts (recorder.run events) =
      slotsAfter (events.map recorder.slotEvent) := by
  induction events using List.reverseRecOn with
  | nil => exact recorder.starts_init
  | append_singleton events event induction =>
      rw [run, stateAfter_append_singleton, recorder.starts_step, List.map_append,
        List.map_singleton, slotsAfter, stateAfter_append_singleton]
      rw [run, slotsAfter] at induction
      rw [induction]

theorem histsAfter_append_singleton (events : List E) (event : E) :
    recorder.histsAfter (events ++ [event]) =
      match recorder.evicts event with
      | some key => (recorder.histsAfter events).erase key
      | none =>
          match ((recorder.slotEvent event).taken?
              (slotsAfter (events.map recorder.slotEvent))).bind
              (recorder.sample event) with
          | some (key, slot) => observe (recorder.histsAfter events) key slot
          | none => recorder.histsAfter events := by
  rw [histsAfter, run, stateAfter_append_singleton, recorder.hists_step,
    ← recorder.starts_run]
  rfl

theorem taken_of_observe {before : List E} {event : E} {key : HistKey}
    {slot : Fin maxSlots}
    (counts : recorder.histsAfter (before ++ [event]) =
      observe (recorder.histsAfter before) key slot) :
    ∃ value, (recorder.slotEvent event).taken?
        (slotsAfter (before.map recorder.slotEvent)) = some value ∧
      recorder.sample event value = some (key, slot) := by
  rw [histsAfter_append_singleton] at counts
  split at counts
  next => exact absurd counts.symm (observe_ne_erase _ _ _ _)
  next =>
    split at counts
    next counted sampled =>
      obtain ⟨rfl, rfl⟩ := observe_inj counts
      exact Option.bind_eq_some_iff.mp sampled
    next => exact absurd counts.symm (observe_ne_self _ _ _)

theorem take_succ {events : List E} {i : Nat} (inside : i < events.length) :
    events.take (i + 1) = events.take i ++ [events[i]] := by
  simp

theorem increment_spends {events : List E} {i : Nat} {key : HistKey}
    {slot : Fin maxSlots}
    (increment : IncrementAt recorder.histsAfter events i key slot) :
    ∃ start, start < i ∧
      (start, i) ∈ (Ledger.after (events.map recorder.slotEvent)).spent ∧
      ∃ first last cell value, events[start]? = some first ∧
        events[i]? = some last ∧ recorder.slotEvent first = .put cell value ∧
          recorder.slotEvent last = .take cell ∧
            recorder.sample last value = some (key, slot) := by
  obtain ⟨inside, counts⟩ := increment
  rw [take_succ inside] at counts
  obtain ⟨value, taken, sampled⟩ := recorder.taken_of_observe counts
  have whole : events.map recorder.slotEvent =
      (events.take i).map recorder.slotEvent ++ recorder.slotEvent events[i] ::
        (events.drop (i + 1)).map recorder.slotEvent := by
    rw [← List.map_cons, ← List.map_append, List.getElem_cons_drop,
      List.take_append_drop]
  obtain ⟨start, cell, takes, earlier, placed, spent⟩ :=
    Ledger.spent_of_taken ((events.drop (i + 1)).map recorder.slotEvent) taken
  rw [List.length_map, List.length_take_of_le (Nat.le_of_lt inside)]
    at earlier spent
  rw [List.getElem?_map, List.getElem?_take_of_lt earlier] at placed
  obtain ⟨first, found, puts⟩ := Option.map_eq_some_iff.mp placed
  refine ⟨start, earlier, by rw [whole]; exact spent, first, events[i], cell,
    value, found, List.getElem?_eq_getElem inside, puts, takes, sampled⟩

theorem exists_source (events : List E) :
    ∃ source : Nat → Nat,
      Set.InjOn source (Increments recorder.histsAfter events) ∧
      ∀ i key slot, IncrementAt recorder.histsAfter events i key slot →
        source i < i ∧ ∃ first last cell value,
          events[source i]? = some first ∧ events[i]? = some last ∧
            recorder.slotEvent first = .put cell value ∧
              recorder.slotEvent last = .take cell ∧
                recorder.sample last value = some (key, slot) := by
  have each : ∀ i, ∃ start, i ∈ Increments recorder.histsAfter events →
      (start, i) ∈ (Ledger.after (events.map recorder.slotEvent)).spent ∧
      ∀ key slot, IncrementAt recorder.histsAfter events i key slot →
        start < i ∧ ∃ first last cell value,
          events[start]? = some first ∧ events[i]? = some last ∧
            recorder.slotEvent first = .put cell value ∧
              recorder.slotEvent last = .take cell ∧
                recorder.sample last value = some (key, slot) := by
    intro i
    by_cases incrementing : i ∈ Increments recorder.histsAfter events
    · obtain ⟨key, slot, increment⟩ := incrementing
      obtain ⟨start, earlier, spent, uses⟩ := recorder.increment_spends increment
      refine ⟨start, fun _ => ⟨spent, fun other cell again => ?_⟩⟩
      obtain ⟨rfl, rfl⟩ := observe_inj (increment.2.symm.trans again.2)
      exact ⟨earlier, uses⟩
    · exact ⟨0, fun increments => absurd increments incrementing⟩
  choose source spends using each
  refine ⟨source, ?_, fun i key slot increment =>
    (spends i ⟨key, slot, increment⟩).2 key slot increment⟩
  intro i increments j increments' same
  have spent := (spends i increments).1
  rw [same] at spent
  exact Ledger.spent_inj _ spent (spends j increments').1

/-- What is left to say of a tracer: how its slots look in its own events. -/
theorem accounts (books : Bookkeeping E) (kind : HistMap) (events : List E)
    (uses : ∀ first last cell value key slot,
      recorder.slotEvent first = .put cell value →
      recorder.slotEvent last = .take cell →
      recorder.sample last value = some (key, slot) →
      books.Recorded first ∧ books.Uses first last key slot)
    (labelled : ∀ event value key slot,
      recorder.sample event value = some (key, slot) →
      (∃ first cell, recorder.slotEvent first = .put cell value) →
      key.op ≤ kind.maxOp ∧ key.op.toNat < kind.opLabels.length)
    (silent : ∀ before event, books.Silent before event →
      recorder.histsAfter (before ++ [event]) = recorder.histsAfter before)
    (evicts : books.evicts = recorder.evicts) :
    Accounts recorder.histsAfter books kind events := by
  obtain ⟨source, injective, sourced⟩ := recorder.exists_source events
  have once : ∀ i key slot, IncrementAt recorder.histsAfter events i key slot →
      source i < i ∧ ∃ start finish, events[source i]? = some start ∧
        events[i]? = some finish ∧ books.Recorded start ∧
          books.Uses start finish key slot := by
    intro i key slot increment
    obtain ⟨earlier, first, last, cell, value, start, finish, puts, takes,
      sampled⟩ := sourced i key slot increment
    exact ⟨earlier, first, last, start, finish,
      uses first last cell value key slot puts takes sampled⟩
  refine ⟨⟨source, injective, once⟩, ?_, ?_, ?_, ?_⟩
  · have finite : {i : Nat | ∃ start ∈ events[i]?, books.Recorded start}.Finite := by
      apply (Finset.range events.length).finite_toSet.subset
      rintro i ⟨start, found, -⟩
      rw [Finset.mem_coe, Finset.mem_range]
      exact (List.getElem?_eq_some_iff.mp found).1
    refine Set.ncard_le_ncard_of_injOn source ?_ injective finite
    rintro i ⟨key, slot, increment⟩
    obtain ⟨-, start, -, found, -, recorded, -⟩ := once i key slot increment
    exact ⟨start, found, recorded⟩
  · intro i key slot increment
    obtain ⟨-, first, last, cell, value, -, -, puts, -, sampled⟩ :=
      sourced i key slot increment
    exact labelled last value key slot sampled ⟨first, cell, puts⟩
  · intro before event _ _
    exact silent before event
  · intro before event after _
    rw [recorder.histsAfter_append_singleton, evicts]
    split
    next key evicted => exact .inr (.inr ⟨key, evicted, rfl⟩)
    next =>
      split
      next key slot _ => exact .inl ⟨key, slot, rfl⟩
      next => exact .inr (.inl rfl)

end Recorder

/-! ### The request tracers -/

section Handlers

variable {R K : Type} [DecidableEq K]

/-- Two requests share a start entry where they have one key. -/
def handlersBooks (handlers : Handlers R K) : Bookkeeping (TracerEvent R K) where
  Recorded event :=
    ∃ request now, event = .issue request now ∧ handlers.Classified request
  Uses start finish key slot :=
    ∃ first issued request now, start = .issue first issued ∧
      finish = .complete request now ∧
      handlers.key first = handlers.key request ∧
      handlers.histKey request = some key ∧
      0 ≤ toS64 (now - issued) ∧ slot = latencySlot (toS64 (now - issued))
  Silent before event :=
    ∃ request now, event = .complete request now ∧
      ((handlers.run before).starts.lookup (handlers.key request) = none ∨
        (∃ issued, (handlers.run before).starts.lookup (handlers.key request) =
          some issued ∧ toS64 (now - issued) < 0) ∨
        handlers.histKey request = none)
  evicts
    | .evictHist key => some key
    | _ => none

def handlersSlotEvent (handlers : Handlers R K) :
    TracerEvent R K → SlotEvent K UInt64
  | .issue request now =>
      if (handlers.histKey request).isSome then .put (handlers.key request) now
      else .idle
  | .complete request _ => .take (handlers.key request)
  | .evictStart key => .lose key
  | .evictHist _ => .idle

def handlersSample (handlers : Handlers R K) :
    TracerEvent R K → UInt64 → Option (HistKey × Fin maxSlots)
  | .complete request now, issued =>
      if toS64 (now - issued) < 0 then none
      else (handlers.histKey request).map fun key =>
        (key, latencySlot (toS64 (now - issued)))
  | _, _ => none

theorem recordLatency_hists (tracer : Tracer K) (key : K)
    (histKey : Option HistKey) (now : UInt64) :
    (recordLatency tracer key histKey now).hists =
      match (tracer.starts.lookup key).bind fun issued =>
          if toS64 (now - issued) < 0 then none
          else histKey.map fun key =>
            (key, latencySlot (toS64 (now - issued))) with
      | some (key, slot) => observe tracer.hists key slot
      | none => tracer.hists := by
  unfold recordLatency
  cases tracer.starts.lookup key with
  | none => rfl
  | some issued =>
      dsimp only [Option.bind_some]
      split
      next => rfl
      next => cases histKey <;> rfl

def handlersRecorder (handlers : Handlers R K) :
    Recorder (Tracer K) (TracerEvent R K) K UInt64 where
  init := .init
  step := handlers.step
  starts := Tracer.starts
  hists := Tracer.hists
  slotEvent := handlersSlotEvent handlers
  sample := handlersSample handlers
  evicts := (handlersBooks handlers).evicts
  starts_init := rfl
  starts_step tracer event := by
    cases event with
    | issue request now =>
        simp only [Handlers.step, handlers.issue_eq, handlersSlotEvent]
        split <;> rfl
    | complete request now =>
        simp only [Handlers.step, handlers.complete_eq,
          Handlers.recordLatency_starts]
        rfl
    | evictStart key => rfl
    | evictHist key => rfl
  hists_step tracer event := by
    cases event with
    | issue request now =>
        simp only [Handlers.step, handlers.issue_eq, handlersSlotEvent,
          handlersBooks]
        split <;> rfl
    | complete request now =>
        simp only [Handlers.step, handlers.complete_eq, recordLatency_hists]
        rfl
    | evictStart key => rfl
    | evictHist key => rfl

theorem handlers_account (handlers : Handlers R K) (kind : HistMap)
    (labelled : ∀ request key, handlers.histKey request = some key →
      key.op ≤ kind.maxOp ∧ key.op.toNat < kind.opLabels.length)
    (events : List (TracerEvent R K)) :
    Accounts (fun events => (handlers.run events).hists)
      (handlersBooks handlers) kind events := by
  apply (handlersRecorder handlers).accounts
  · intro first last cell value key slot puts takes sampled
    cases first with
    | issue first issued =>
        simp only [handlersRecorder, handlersSlotEvent] at puts
        split at puts
        next classified =>
          obtain ⟨rfl, rfl⟩ := SlotEvent.put.inj puts
          cases last with
          | complete request now =>
              simp only [handlersRecorder, handlersSample] at sampled
              split at sampled
              next => cases sampled
              next elapsed =>
                obtain ⟨_, found, same⟩ := Option.map_eq_some_iff.mp sampled
                obtain ⟨rfl, rfl⟩ := Prod.mk.inj same
                exact ⟨⟨first, _, rfl, classified⟩, first, _, request, now, rfl,
                  rfl, (SlotEvent.take.inj takes).symm, found, by omega, rfl⟩
          | issue _ _ => cases sampled
          | evictStart _ => cases sampled
          | evictHist _ => cases sampled
        next => cases puts
    | complete _ _ => cases puts
    | evictStart _ => cases puts
    | evictHist _ => cases puts
  · intro event value key slot sampled _
    cases event with
    | complete request now =>
        simp only [handlersRecorder, handlersSample] at sampled
        split at sampled
        next => cases sampled
        next =>
          obtain ⟨_, found, same⟩ := Option.map_eq_some_iff.mp sampled
          obtain ⟨rfl, rfl⟩ := Prod.mk.inj same
          exact labelled request _ found
    | issue _ _ => cases sampled
    | evictStart _ => cases sampled
    | evictHist _ => cases sampled
  · rintro before _ ⟨request, now, rfl, reason⟩
    change (handlers.run (before ++ [_])).hists = (handlers.run before).hists
    rw [handlers.run_append_singleton]
    simp only [Handlers.step, handlers.complete_eq, recordLatency_hists]
    rcases reason with missing | ⟨issued, found, negative⟩ | unclassified
    · rw [missing]
      rfl
    · rw [found, Option.bind_some, if_pos negative]
    · rw [unclassified]
      cases (handlers.run before).starts.lookup (handlers.key request) with
      | none => rfl
      | some issued => simp
  · rfl

end Handlers

theorem blockHistKey_labelled (request : BlockRequest) (key : HistKey)
    (classified : blockHandlers.histKey request = some key) :
    key.op ≤ blockMap.maxOp ∧ key.op.toNat < blockMap.opLabels.length := by
  simp only [blockHandlers, BlockRq.histKey] at classified
  split at classified
  next => cases classified
  next known =>
    obtain rfl := Option.some.inj classified
    revert known
    simp only [classifyOp]
    split <;> decide

theorem nfsHistKey_labelled (request : NfsRequest) (key : HistKey)
    (classified : nfsHandlers.histKey request = some key) :
    key.op ≤ nfsMap.maxOp ∧ key.op.toNat < nfsMap.opLabels.length := by
  obtain rfl := Option.some.inj classified
  change request.op.code ≤ nfsMap.maxOp ∧
    request.op.code.toNat < nfsMap.opLabels.length
  cases request.op <;> decide

/-! ### The function tracer -/

/-- The key is that of the entry whose start is used. -/
def kprobeBooks : Bookkeeping KprobeEvent where
  Recorded event := ∃ fn thread inode now, event = .enter fn thread inode now
  Uses start finish key slot :=
    ∃ fn thread inode entered left now, start = .enter fn thread inode entered ∧
      finish = .leave left thread now ∧ key = ⟨inode.dev, fn.op⟩ ∧
      0 ≤ toS64 (now - entered) ∧ slot = latencySlot (toS64 (now - entered))
  Silent before event :=
    ∃ fn thread now, event = .leave fn thread now ∧
      ((KprobeTracer.run before).starts.lookup thread = none ∨
        ∃ start, (KprobeTracer.run before).starts.lookup thread = some start ∧
          toS64 (now - start.ts) < 0)
  evicts
    | .evictHist key => some key
    | _ => none

def kprobeSlotEvent : KprobeEvent → SlotEvent UInt64 KprobeStart
  | .enter fn thread inode now => .put thread ⟨now, inode.dev, fn.op⟩
  | .leave _ thread _ => .take thread
  | .evictStart thread => .lose thread
  | .evictHist _ => .idle

def kprobeSample :
    KprobeEvent → KprobeStart → Option (HistKey × Fin maxSlots)
  | .leave _ _ now, start =>
      if toS64 (now - start.ts) < 0 then none
      else some (⟨start.dev, start.op⟩, latencySlot (toS64 (now - start.ts)))
  | _, _ => none

def kprobeRecorder : Recorder KprobeTracer KprobeEvent UInt64 KprobeStart where
  init := .init
  step := KprobeTracer.step
  starts := KprobeTracer.starts
  hists := KprobeTracer.hists
  slotEvent := kprobeSlotEvent
  sample := kprobeSample
  evicts := kprobeBooks.evicts
  starts_init := rfl
  starts_step tracer event := by
    cases event with
    | enter fn thread inode now =>
        rw [KprobeTracer.step, fn.kprobe_eq]
        rfl
    | leave fn thread now => exact kretprobeNfsVfs_starts thread now tracer
    | evictStart thread => rfl
    | evictHist key => rfl
  hists_step tracer event := by
    cases event with
    | enter fn thread inode now =>
        rw [KprobeTracer.step, fn.kprobe_eq]
        rfl
    | leave fn thread now =>
        simp only [KprobeTracer.step, kretprobeNfsVfs_hists, kprobeSlotEvent,
          SlotEvent.taken?, kprobeBooks]
        cases tracer.starts.lookup thread with
        | none => rfl
        | some start =>
            simp only [Option.bind_some, kprobeSample]
            split <;> rfl
    | evictStart thread => rfl
    | evictHist key => rfl

theorem nfsFunction_labelled (fn : NfsFunction) :
    fn.op ≤ nfsKprobeMap.maxOp ∧
      fn.op.toNat < nfsKprobeMap.opLabels.length := by
  cases fn <;> decide

theorem kprobe_accounts (events : List KprobeEvent) :
    Accounts (fun events => (KprobeTracer.run events).hists) kprobeBooks
      nfsKprobeMap events := by
  apply kprobeRecorder.accounts
  · intro first last cell value key slot puts takes sampled
    cases first with
    | enter fn thread inode entered =>
        obtain ⟨rfl, rfl⟩ := SlotEvent.put.inj puts
        cases last with
        | leave left other now =>
            obtain rfl := SlotEvent.take.inj takes
            simp only [kprobeRecorder, kprobeSample] at sampled
            split at sampled
            next => cases sampled
            next elapsed =>
              obtain ⟨rfl, rfl⟩ := Prod.mk.inj (Option.some.inj sampled)
              exact ⟨⟨fn, _, inode, entered, rfl⟩, fn, _, inode, entered, left,
                now, rfl, rfl, rfl, by omega, rfl⟩
        | enter _ _ _ _ => cases sampled
        | evictStart _ => cases sampled
        | evictHist _ => cases sampled
    | leave _ _ _ => cases puts
    | evictStart _ => cases puts
    | evictHist _ => cases puts
  · rintro event value key slot sampled ⟨first, cell, puts⟩
    cases first with
    | enter fn thread inode entered =>
        obtain ⟨rfl, rfl⟩ := SlotEvent.put.inj puts
        cases event with
        | leave left other now =>
            simp only [kprobeRecorder, kprobeSample] at sampled
            split at sampled
            next => cases sampled
            next =>
              obtain ⟨rfl, rfl⟩ := Prod.mk.inj (Option.some.inj sampled)
              exact nfsFunction_labelled fn
        | enter _ _ _ _ => cases sampled
        | evictStart _ => cases sampled
        | evictHist _ => cases sampled
    | leave _ _ _ => cases puts
    | evictStart _ => cases puts
    | evictHist _ => cases puts
  · rintro before _ ⟨fn, thread, now, rfl, reason⟩
    change (KprobeTracer.run (before ++ [_])).hists =
      (KprobeTracer.run before).hists
    rw [KprobeTracer.run_append_singleton]
    simp only [KprobeTracer.step, kretprobeNfsVfs_hists]
    rcases reason with missing | ⟨start, found, negative⟩
    · rw [missing]
    · rw [found]
      exact if_pos negative
  · rfl

theorem tracers_account (blockEvents : List (TracerEvent BlockRequest ReqKey))
    (nfsEvents : List (TracerEvent NfsRequest NfsReqKey))
    (kprobeEvents : List KprobeEvent) :
    Accounts (fun events => (blockHandlers.run events).hists)
        (handlersBooks blockHandlers) blockMap blockEvents ∧
      Accounts (fun events => (nfsHandlers.run events).hists)
        (handlersBooks nfsHandlers) nfsMap nfsEvents ∧
      Accounts (fun events => (KprobeTracer.run events).hists)
        kprobeBooks nfsKprobeMap kprobeEvents :=
  ⟨handlers_account blockHandlers blockMap blockHistKey_labelled blockEvents,
    handlers_account nfsHandlers nfsMap nfsHistKey_labelled nfsEvents,
    kprobe_accounts kprobeEvents⟩

end KubevirtMetrics.Ebpf
