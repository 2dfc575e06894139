import KubevirtMetrics.Qmp.Client

namespace KubevirtMetrics.Qmp

open Data

/-! What a call on the client guarantees, whatever the other goroutines do. -/

/-! ### What one call sees of the steps of the others -/

/-- The call of whose goroutine an action is a step. -/
def Action.call? : Action → Option Nat
  | .invoke i _ | .lock i | .checkContext i | .checkClosed i | .afterFunc i
  | .begin i | .finish i _ | .stop i | .receive i | .unlock i => some i
  | _ => none

/-- The call of whose callback an action is a step. -/
def Action.callback? : Action → Option Nat
  | .fire i | .signal i => some i
  | .enter (.callback i) | .store (.callback i) | .shut (.callback i) => some i
  | _ => none

namespace ClientState

variable {s : ClientState} {action : Action} {i : Nat}

theorem setCall_of_ne (s : ClientState) {i j : Nat} (distinct : i ≠ j)
    (call : Call) : (s.setCall j call).calls i = s.calls i := by
  rw [setCall_calls, if_neg distinct]

theorem step_calls_of_ne (other : action.call? ≠ some i)
    (callback : action.callback? ≠ some i) :
    (s.step action).calls i = s.calls i := by
  have distinct : ∀ j, action.call? = some j ∨ action.callback? = some j →
      i ≠ j := by
    rintro j (own | own) rfl
    · exact other own
    · exact callback own
  cases action with
  | invoke j ctx | lock j | begin j | finish j err | receive j | afterFunc j =>
      exact s.setCall_of_ne (distinct j (.inl rfl)) _
  | checkContext j | checkClosed j =>
      simp only [step]
      split
      next => exact s.setCall_of_ne (distinct j (.inl rfl)) _
      next => exact s.setCall_of_ne (distinct j (.inl rfl)) _
  | stop j =>
      simp only [step]
      split
      next err here =>
        unfold stop
        split
        next => exact s.setCall_of_ne (distinct j (.inl rfl)) _
        next => exact s.setCall_of_ne (distinct j (.inl rfl)) _
      next => rfl
  | unlock j =>
      simp only [step]
      split
      next value here => exact s.setCall_of_ne (distinct j (.inl rfl)) _
      next => rfl
  | fire j | signal j => exact s.setCall_of_ne (distinct j (.inr rfl)) _
  | cancel ctx err | close n | store closer | shut closer => rfl
  | enter closer =>
      simp only [step]
      split
      next => rfl
      next => rfl
      next => rfl

/-- The steps of its callback leave a call where it is. -/
theorem step_place_of_ne (other : action.call? ≠ some i) :
    ((s.step action).calls i).place = (s.calls i).place := by
  by_cases callback : action.callback? = some i
  · cases action with
    | fire j | signal j =>
        obtain rfl : j = i := Option.some.inj callback
        simp only [step, setClosing, setCall_calls]
        simp
    | enter closer =>
        simp only [step]
        split
        next => rfl
        next => rfl
        next => rfl
    | store closer | shut closer => rfl
    | _ => cases callback
  · rw [step_calls_of_ne other callback]

theorem not_own_of_returned {value : Return}
    (returned : (s.calls i).place = .returned value)
    (enabled : s.Enabled action) : action.call? ≠ some i := by
  intro own
  cases action with
  | invoke j ctx | checkContext j | checkClosed j | afterFunc j | begin j
  | finish j err =>
      obtain rfl : j = i := Option.some.inj own
      cases returned.symm.trans enabled
  | lock j | receive j =>
      obtain rfl : j = i := Option.some.inj own
      cases returned.symm.trans enabled.1
  | stop j | unlock j =>
      obtain rfl : j = i := Option.some.inj own
      obtain ⟨_, here⟩ := enabled
      cases returned.symm.trans here
  | _ => cases own

theorem returned_step {value : Return}
    (returned : (s.calls i).place = .returned value)
    (enabled : s.Enabled action) :
    ((s.step action).calls i).place = .returned value := by
  rw [step_place_of_ne (not_own_of_returned returned enabled)]
  exact returned

/-- The callback of a call that has returned is not pending, and if it ever
started it has ended. -/
theorem Consistent.callback_over (consistent : s.Consistent) {value : Return}
    (returned : (s.calls i).place = .returned value) :
    (s.calls i).after ≠ .pending ∧
      (s.closing (.callback i) = .idle ∨
        (s.closing (.callback i) = .left ∧ (s.calls i).done = true)) := by
  have idle := (consistent.calls i).idle
  have fits := consistent.fits_of_place returned
  cases value with
  | fn err =>
      have stopped : (s.calls i).after = .stopped := fits
      exact ⟨by simp [stopped], .inl (idle (by simp [stopped]))⟩
  | clientClosed =>
      have unregistered : (s.calls i).after = .unregistered := fits
      exact ⟨by simp [unregistered], .inl (idle (by simp [unregistered]))⟩
  | context err =>
      rcases fits.2.2 with unregistered | ⟨started, done⟩
      · replace unregistered : (s.calls i).after = .unregistered := unregistered
        exact ⟨by simp [unregistered], .inl (idle (by simp [unregistered]))⟩
      · replace started : (s.calls i).after = .started := started
        exact ⟨by simp [started],
          .inr ⟨(consistent.calls i).signalled done, done⟩⟩

theorem not_callback_of_returned (consistent : s.Consistent) {value : Return}
    (returned : (s.calls i).place = .returned value)
    (enabled : s.Enabled action) : action.callback? ≠ some i := by
  obtain ⟨notPending, ended⟩ := consistent.callback_over returned
  have outside : ∀ closing, s.closing (.callback i) = closing →
      closing = .idle ∨ closing = .left := by
    rintro closing rfl
    exact ended.imp_right And.left
  intro own
  cases action with
  | fire j =>
      obtain rfl : j = i := Option.some.inj own
      exact notPending enabled.1
  | signal j =>
      obtain rfl : j = i := Option.some.inj own
      rcases ended with idle | ⟨-, done⟩
      · cases idle.symm.trans enabled.1
      · cases done.symm.trans enabled.2
  | enter closer =>
      cases closer with
      | callback j =>
          obtain rfl : j = i := Option.some.inj own
          simpa using outside _ enabled.1
      | caller n => cases own
  | store closer | shut closer =>
      cases closer with
      | callback j =>
          obtain rfl : j = i := Option.some.inj own
          simpa using outside _ enabled
      | caller n => cases own
  | _ => cases own

theorem started_step (consistent : s.Consistent)
    (started : (s.calls i).after = .started) (enabled : s.Enabled action) :
    ((s.step action).calls i).after = .started := by
  by_cases callback : action.callback? = some i
  · cases action with
    | fire j =>
        obtain rfl : j = i := Option.some.inj callback
        simp [step, setClosing, setCall]
    | signal j =>
        obtain rfl : j = i := Option.some.inj callback
        simpa [step, setCall] using started
    | enter closer =>
        simp only [step]
        split
        next => exact started
        next => exact started
        next => exact started
    | store closer | shut closer => exact started
    | _ => cases callback
  by_cases own : action.call? = some i
  · have fits := consistent.calls i
    cases action with
    | invoke j ctx | afterFunc j =>
        -- only a call without a callback takes this step
        obtain rfl : j = i := Option.some.inj own
        have unregistered : (s.calls j).after = .unregistered :=
          consistent.fits_of_place enabled
        cases started.symm.trans unregistered
    | lock j | begin j | finish j err | receive j =>
        obtain rfl : j = i := Option.some.inj own
        simpa [step, setPlace, setCall] using started
    | checkContext j | checkClosed j =>
        obtain rfl : j = i := Option.some.inj own
        simp only [step]
        split
        next => simpa [setPlace, setCall] using started
        next => simpa [setPlace, setCall] using started
    | stop j =>
        obtain rfl : j = i := Option.some.inj own
        obtain ⟨err, here⟩ := enabled
        simp only [step, here, stop]
        rw [if_neg (by simp [started])]
        simpa [setPlace, setCall] using started
    | unlock j =>
        obtain rfl : j = i := Option.some.inj own
        obtain ⟨value, here⟩ := enabled
        simp only [step, here]
        simpa [setPlace, setCall] using started
    | _ => cases own
  · rw [step_calls_of_ne own callback]
    exact started

/-- The only step that changes the flag is the one that stores it. -/
theorem step_closed (s : ClientState) (action : Action) :
    (s.step action).closed = s.closed ∨
      ∃ closer, action = .store closer ∧ (s.step action).closed = true := by
  cases action with
  | store closer => exact .inr ⟨closer, rfl, rfl⟩
  | checkContext j | checkClosed j | unlock j | enter closer =>
      left
      simp only [step]
      split <;> rfl
  | stop j =>
      left
      simp only [step]
      split
      next =>
        unfold stop
        split
        next => rfl
        next => rfl
      next => rfl
  | _ => exact .inl rfl

theorem closed_step (closed : s.closed = true) :
    (s.step action).closed = true := by
  rcases s.step_closed action with same | ⟨-, -, stored⟩
  · rw [same]
    exact closed
  · exact stored

end ClientState

/-- The places of a call that found the client closed when it took the lock. -/
def Place.barred : Place → Bool
  | .locked | .uncancelled | .leaving _ | .returned _ => true
  | _ => false

namespace ClientState

variable {s : ClientState} {action : Action} {i : Nat}

theorem barred_step (closed : s.closed = true)
    (barred : (s.calls i).place.barred = true) (enabled : s.Enabled action) :
    ((s.step action).calls i).place.barred = true := by
  by_cases own : action.call? = some i
  · cases action with
    | invoke j ctx | afterFunc j | begin j | finish j err =>
        obtain rfl : j = i := Option.some.inj own
        rw [show (s.calls j).place = _ from enabled] at barred
        cases barred
    | lock j | receive j =>
        obtain rfl : j = i := Option.some.inj own
        rw [enabled.1] at barred
        cases barred
    | stop j =>
        obtain rfl : j = i := Option.some.inj own
        obtain ⟨err, here⟩ := enabled
        rw [here] at barred
        cases barred
    | checkContext j =>
        obtain rfl : j = i := Option.some.inj own
        simp only [step]
        split
        next => simp [setPlace, setCall, Place.barred]
        next => simp [setPlace, setCall, Place.barred]
    | checkClosed j =>
        obtain rfl : j = i := Option.some.inj own
        simp [step, closed, setPlace, setCall, Place.barred]
    | unlock j =>
        obtain rfl : j = i := Option.some.inj own
        obtain ⟨value, here⟩ := enabled
        simp [step, here, setPlace, setCall, Place.barred]
    | _ => cases own
  · rw [step_place_of_ne own]
    exact barred

theorem not_begin_of_barred (barred : (s.calls i).place.barred = true)
    (enabled : s.Enabled action) : action ≠ .begin i := by
  rintro rfl
  rw [show (s.calls i).place = .registered from enabled] at barred
  cases barred

/-! ### Every started callback lets its call return -/

end ClientState

/-- The steps of the goroutines that are under way: no new call, caller of `Close`
or cancellation. -/
def Action.underWay : Action → Bool
  | .invoke _ _ | .cancel _ _ | .close _ | .fire _ => false
  | _ => true

namespace ClientState

inductive Reaches (s : ClientState) : ClientState → Prop
  | refl : Reaches s s
  | step {t : ClientState} {action : Action} : Reaches s t →
      action.underWay = true → t.Enabled action → Reaches s (t.step action)

namespace Reaches

variable {s t u : ClientState}

theorem single (action : Action) (underWay : action.underWay = true)
    (enabled : s.Enabled action) : Reaches s (s.step action) :=
  Reaches.refl.step underWay enabled

theorem trans (first : Reaches s t) (second : Reaches t u) : Reaches s u := by
  induction second with
  | refl => exact first
  | step _ underWay enabled earlier => exact earlier.step underWay enabled

theorem consistent (reaches : Reaches s t) (start : s.Consistent) :
    t.Consistent := by
  induction reaches with
  | refl => exact start
  | step _ _ enabled earlier => exact earlier.step enabled

theorem exists_later {history : List Action} (runs : Runs history)
    (reaches : Reaches (run history) t) :
    ∃ later, Runs (history ++ later) ∧
      (∀ action ∈ later, action.underWay = true) ∧
        run (history ++ later) = t := by
  induction reaches with
  | refl => exact ⟨[], by simpa using runs, by simp, by simp⟩
  | @step t action _ underWay enabled earlier =>
      obtain ⟨later, runs', all, rfl⟩ := earlier
      refine ⟨later ++ [action], ?_, ?_, ?_⟩
      · rw [← List.append_assoc]
        exact (throughout_append_singleton _ _ _).mpr ⟨runs', enabled⟩
      · intro other member
        rcases List.mem_append.mp member with member | member
        · exact all other member
        · rw [List.mem_singleton.mp member]
          exact underWay
      · rw [← List.append_assoc, run_append_singleton]

end Reaches

variable {s : ClientState} {i : Nat}

/-- The goroutine that runs the function of `closeOnce` can finish it. -/
theorem exists_shut {closer : Closer}
    (busy : s.closing closer = .storing ∨ s.closing closer = .shutting) :
    ∃ t, Reaches s t ∧ t.calls = s.calls ∧ t.closeOnce = .done ∧
      t.closing = Function.update s.closing closer .left := by
  rcases busy with storing | shutting
  · have stored : (s.step (.store closer)).closing closer = .shutting :=
      Function.update_self ..
    refine ⟨(s.step (.store closer)).step (.shut closer),
      (Reaches.single (.store closer) rfl storing).trans
        (.single (.shut closer) rfl stored), rfl, rfl, ?_⟩
    exact Function.update_idem ..
  · exact ⟨s.step (.shut closer), .single _ rfl shutting, rfl, rfl, rfl⟩

theorem exists_left (consistent : s.Consistent) {closer : Closer}
    (inside : s.closing closer ≠ .idle) :
    ∃ t, Reaches s t ∧ t.calls = s.calls ∧ t.closing closer = .left := by
  cases here : s.closing closer with
  | idle => exact absurd here inside
  | left => exact ⟨s, .refl, rfl, here⟩
  | storing =>
      obtain ⟨t, reaches, calls, -, closing⟩ := exists_shut (.inl here)
      exact ⟨t, reaches, calls, by rw [closing, Function.update_self]⟩
  | shutting =>
      obtain ⟨t, reaches, calls, -, closing⟩ := exists_shut (.inr here)
      exact ⟨t, reaches, calls, by rw [closing, Function.update_self]⟩
  | entering =>
      cases once : s.closeOnce with
      | done =>
          have enabled : s.Enabled (.enter closer) := ⟨here, by simp [once]⟩
          refine ⟨s.step (.enter closer), Reaches.single _ rfl enabled, ?_, ?_⟩
          · simp only [step, once]
            rfl
          · simp only [step, once]
            exact Function.update_self ..
      | fresh =>
          have enabled : s.Enabled (.enter closer) := ⟨here, by simp [once]⟩
          have entered : (s.step (.enter closer)).closing closer = .storing := by
            simp only [step, once]
            exact Function.update_self ..
          obtain ⟨t, reaches, calls, -, closing⟩ := exists_shut (.inl entered)
          refine ⟨t, (Reaches.single _ rfl enabled).trans reaches, ?_, ?_⟩
          · rw [calls]
            simp only [step, once]
            rfl
          · rw [closing, Function.update_self]
      | running =>
          -- another goroutine is in the function: it finishes first
          obtain ⟨owner, busy⟩ := consistent.once.owned once
          obtain ⟨t, reaches, calls, done, closing⟩ := exists_shut busy
          have waits : t.closing closer = .entering := by
            rw [closing, Function.update_of_ne]
            · exact here
            · rintro rfl
              simp [here] at busy
          have enabled : t.Enabled (.enter closer) := ⟨waits, by simp [done]⟩
          refine ⟨t.step (.enter closer), reaches.step rfl enabled, ?_, ?_⟩
          · simp only [step, done]
            exact calls
          · simp only [step, done]
            exact Function.update_self ..

theorem exists_done (consistent : s.Consistent)
    (started : (s.calls i).after = .started) :
    ∃ t, Reaches s t ∧ (t.calls i).after = .started ∧
      (t.calls i).done = true := by
  obtain ⟨t, reaches, calls, left⟩ := exists_left consistent
    ((consistent.calls i).callback.mpr started)
  cases done : (t.calls i).done with
  | true => exact ⟨t, reaches, by rw [calls]; exact started, done⟩
  | false =>
      refine ⟨t.step (.signal i), reaches.step rfl ⟨left, done⟩, ?_, ?_⟩
      · simpa [step, setCall, calls] using started
      · simp [step, setCall]

def CanReturn (s : ClientState) (i : Nat) : Prop :=
  ∃ t, Reaches s t ∧ ∃ value, (t.calls i).place = .returned value

theorem CanReturn.before (action : Action) (underWay : action.underWay = true)
    (enabled : s.Enabled action) (later : CanReturn (s.step action) i) :
    CanReturn s i := by
  obtain ⟨t, reaches, returned⟩ := later
  exact ⟨t, (Reaches.single action underWay enabled).trans reaches, returned⟩

theorem canReturn_of_leaving {value : Return}
    (here : (s.calls i).place = .leaving value) : CanReturn s i := by
  refine ⟨s.step (.unlock i), .single _ rfl ⟨value, here⟩, value, ?_⟩
  simp [step, here, setPlace, setCall]

theorem canReturn_of_awaiting (here : (s.calls i).place = .awaiting)
    (done : (s.calls i).done = true) : CanReturn s i := by
  have leaving : ((s.step (.receive i)).calls i).place =
      .leaving (.context (s.ctxErr (s.calls i).ctx)) := by
    simp [step, setPlace, setCall]
  exact .before (.receive i) rfl ⟨here, done⟩ (canReturn_of_leaving leaving)

theorem canReturn_of_ran {err : Option String}
    (here : (s.calls i).place = .ran err)
    (started : (s.calls i).after = .started)
    (done : (s.calls i).done = true) : CanReturn s i := by
  have stopped : s.step (.stop i) = s.setPlace i .awaiting := by
    simp only [step, here, stop]
    rw [if_neg (by simp [started])]
  apply CanReturn.before (.stop i) rfl ⟨err, here⟩
  apply canReturn_of_awaiting
  · simp [stopped, setPlace, setCall]
  · simpa [stopped, setPlace, setCall] using done

theorem canReturn_of_running (here : (s.calls i).place = .running)
    (started : (s.calls i).after = .started)
    (done : (s.calls i).done = true) : CanReturn s i := by
  have ran : ((s.step (.finish i none)).calls i).place = .ran none := by
    simp [step, setPlace, setCall]
  apply CanReturn.before (.finish i none) rfl here
  apply canReturn_of_ran ran
  · simpa [step, setPlace, setCall] using started
  · simpa [step, setPlace, setCall] using done

/-- A call whose callback has ended can go on to its return from any place. -/
theorem canReturn_of_done (consistent : s.Consistent)
    (started : (s.calls i).after = .started)
    (done : (s.calls i).done = true) : CanReturn s i := by
  cases here : (s.calls i).place with
  | returned value => exact ⟨s, .refl, value, here⟩
  | leaving value => exact canReturn_of_leaving here
  | awaiting => exact canReturn_of_awaiting here done
  | ran err => exact canReturn_of_ran here started done
  | running => exact canReturn_of_running here started done
  | registered =>
      apply CanReturn.before (.begin i) rfl here
      apply canReturn_of_running
      · simp [step, setPlace, setCall]
      · simpa [step, setPlace, setCall] using started
      · simpa [step, setPlace, setCall] using done
  | _ =>
      have unregistered : (s.calls i).after = .unregistered :=
        consistent.fits_of_place here
      cases started.symm.trans unregistered

theorem canReturn_of_started (consistent : s.Consistent)
    (started : (s.calls i).after = .started) : CanReturn s i := by
  obtain ⟨t, reaches, still, done⟩ := exists_done consistent started
  obtain ⟨u, reaches', returned⟩ :=
    canReturn_of_done (reaches.consistent consistent) still done
  exact ⟨u, reaches.trans reaches', returned⟩

/-! ### Whole runs -/

variable {history : List Action}

theorem started_of_fired (runs : Runs history) (fired : .fire i ∈ history) :
    ((run history).calls i).after = .started := by
  induction history using List.reverseRecOn with
  | nil => cases fired
  | append_singleton history action induction =>
      obtain ⟨earlier, enabled⟩ := (throughout_append_singleton _ _ _).mp runs
      rw [run_append_singleton]
      rcases List.mem_append.mp fired with before | last
      · exact started_step (run_consistent earlier) (induction earlier before)
          enabled
      · rw [← List.mem_singleton.mp last]
        simp [step, setClosing, setCall]

theorem returned_of_append {before after : List Action} {value : Return}
    (runs : Runs (before ++ after))
    (returned : ((run before).calls i).place = .returned value) :
    ((run (before ++ after)).calls i).place = .returned value := by
  induction after using List.reverseRecOn with
  | nil => rw [List.append_nil]; exact returned
  | append_singleton after action induction =>
      rw [← List.append_assoc] at runs ⊢
      obtain ⟨earlier, enabled⟩ := (throughout_append_singleton _ _ _).mp runs
      rw [run_append_singleton]
      exact returned_step (induction earlier) enabled

theorem barred_of_append {before after : List Action}
    (runs : Runs (before ++ after)) (closed : (run before).closed = true)
    (barred : ((run before).calls i).place.barred = true) :
    (run (before ++ after)).closed = true ∧
      ((run (before ++ after)).calls i).place.barred = true ∧
        .begin i ∉ after := by
  induction after using List.reverseRecOn with
  | nil => rw [List.append_nil]; exact ⟨closed, barred, by simp⟩
  | append_singleton after action induction =>
      rw [← List.append_assoc] at runs ⊢
      obtain ⟨earlier, enabled⟩ := (throughout_append_singleton _ _ _).mp runs
      obtain ⟨stillClosed, stillBarred, notBegun⟩ := induction earlier
      rw [run_append_singleton]
      refine ⟨closed_step stillClosed,
        barred_step stillClosed stillBarred enabled, ?_⟩
      rw [List.mem_append, List.mem_singleton, not_or]
      exact ⟨notBegun, (not_begin_of_barred stillBarred enabled).symm⟩

theorem value_of_started (consistent : (run history).Consistent)
    (started : ((run history).calls i).after = .started) {value : Return}
    (returned : ((run history).calls i).place = .returned value) :
    ∃ err, value = .context (some err) ∧
      (run history).ctxErr ((run history).calls i).ctx = some err ∧
        (run history).closed = true ∧ (run history).connClosed = true := by
  have fits := consistent.fits_of_place returned
  cases value with
  | fn err =>
      have stopped : ((run history).calls i).after = .stopped := fits
      cases started.symm.trans stopped
  | clientClosed =>
      have unregistered : ((run history).calls i).after = .unregistered := fits
      cases started.symm.trans unregistered
  | context err =>
      obtain ⟨present, same, -⟩ := fits
      obtain ⟨err, rfl⟩ := Option.ne_none_iff_exists'.mp present
      refine ⟨err, rfl, same.symm, consistent.once.shut ?_⟩
      rcases (consistent.callback_over returned).2 with idle | ⟨left, -⟩
      · exact absurd idle ((consistent.calls i).callback.mpr started)
      · exact consistent.once.left _ left

/-- What holds of every interleaving of calls, cancellations and `Close`. -/
structure Guarantees (history : List Action) : Prop where
  /-- Two `fn` bodies never overlap. -/
  exclusive : ∀ i j, ((run history).calls i).place = .running →
    ((run history).calls j).place = .running → i = j
  /-- The client is closed by a goroutine in `Close` and in no other way. -/
  closedBy : Throughout (fun before action => (run before).closed = false →
    (run (before ++ [action])).closed = true →
      ∃ closer, action = .store closer) history
  /-- After a call has returned, a cancellation runs no callback of the call. -/
  late : ∀ before ctx err after, history = before ++ .cancel ctx err :: after →
    ∀ i value, ((run before).calls i).place = .returned value →
      ∀ action ∈ after, action.callback? ≠ some i
  own : ∀ i err, ((run history).calls i).place = .returned (.fn err) →
    .fire i ∉ history
  cancelled : ∀ i value, .fire i ∈ history →
    ((run history).calls i).place = .returned value →
      ∃ err, value = .context (some err) ∧
        (run history).ctxErr ((run history).calls i).ctx = some err ∧
          (run history).closed = true ∧ (run history).connClosed = true
  /-- Nothing keeps a call whose callback has started from returning. -/
  returns : ∀ i, .fire i ∈ history → ∃ later, Runs (history ++ later) ∧
    (∀ action ∈ later, action.underWay = true) ∧
      ∃ err, ((run (history ++ later)).calls i).place =
        .returned (.context (some err))
  barred : ∀ before i after, history = before ++ .lock i :: after →
    (run before).closed = true →
      .begin i ∉ after ∧ ((run history).calls i).place ≠ .running

theorem running_unique (consistent : s.Consistent) {j : Nat}
    (here : (s.calls i).place = .running)
    (there : (s.calls j).place = .running) : i = j := by
  have holdsI := (consistent.holder i).mp (by simp [here, Place.holds])
  have holdsJ := (consistent.holder j).mp (by simp [there, Place.holds])
  exact Option.some.inj (holdsI.symm.trans holdsJ)

theorem not_callback_after_returned {before after : List Action}
    (runs : Runs (before ++ after)) {value : Return}
    (returned : ((run before).calls i).place = .returned value)
    {action : Action} (member : action ∈ after) :
    action.callback? ≠ some i := by
  obtain ⟨between, rest, rfl⟩ := List.append_of_mem member
  have enabled := runs (before ++ between) action rest (by simp)
  have runs' : Runs (before ++ between) := by
    rw [← List.append_assoc] at runs
    exact runs.of_append
  exact not_callback_of_returned (run_consistent runs')
    (returned_of_append runs' returned) enabled

theorem calls_are_guarded (history : List Action) (runs : Runs history) :
    Guarantees history := by
  have consistent := run_consistent runs
  constructor
  · intro i j here there
    exact running_unique consistent here there
  · intro before action after split opened closes
    rw [run_append_singleton] at closes
    rcases (run before).step_closed action with same | ⟨closer, stores, -⟩
    · rw [same, opened] at closes
      cases closes
    · exact ⟨closer, stores⟩
  · intro before ctx err after split i value returned action member
    rw [split] at runs
    exact not_callback_after_returned runs returned
      (List.mem_cons_of_mem _ member)
  · intro i err returned fired
    obtain ⟨_, value, -⟩ := value_of_started consistent
      (started_of_fired runs fired) returned
    cases value
  · intro i value fired returned
    exact value_of_started consistent (started_of_fired runs fired) returned
  · intro i fired
    obtain ⟨t, reaches, value, returned⟩ :=
      canReturn_of_started consistent (started_of_fired runs fired)
    obtain ⟨later, runs', underWay, rfl⟩ := reaches.exists_later runs
    have fired' : .fire i ∈ history ++ later := List.mem_append_left _ fired
    obtain ⟨err, rfl, -⟩ := value_of_started (run_consistent runs')
      (started_of_fired runs' fired') returned
    exact ⟨later, runs', underWay, err, returned⟩
  · intro before i after split closed
    have regroup : before ++ .lock i :: after =
        (before ++ [.lock i]) ++ after := by simp
    rw [split, regroup] at runs ⊢
    obtain ⟨-, enabled⟩ :=
      (throughout_append_singleton _ _ _).mp runs.of_append
    have locked : ((run (before ++ [.lock i])).calls i).place.barred = true := by
      rw [run_append_singleton]
      simp [step, setPlace, setCall, Place.barred]
    obtain ⟨-, stillBarred, notBegun⟩ := barred_of_append runs
      (by rw [run_append_singleton]; exact closed_step closed) locked
    refine ⟨notBegun, fun running => ?_⟩
    rw [running] at stillBarred
    cases stillBarred

/-- A call is cancelled while `fn` runs, and a second one waits for the lock. -/
def cancelledInFlight : List Action :=
  [.invoke 0 7, .invoke 1 8, .lock 0, .checkContext 0, .checkClosed 0,
    .afterFunc 0, .begin 0, .cancel 7 .canceled, .fire 0, .enter (.callback 0),
    .store (.callback 0), .finish 0 (some "EOF"), .stop 0, .shut (.callback 0),
    .signal 0, .receive 0, .unlock 0, .lock 1, .checkContext 1, .checkClosed 1,
    .unlock 1]

theorem cancelledInFlight_is_guarded :
    ((run cancelledInFlight).calls 0).place =
        .returned (.context (some .canceled)) ∧
      ((run cancelledInFlight).calls 1).place = .returned .clientClosed ∧
      Guarantees cancelledInFlight := by
  refine ⟨by decide +kernel, by decide +kernel, calls_are_guarded _ ?_⟩
  unfold Runs
  decide +kernel

end ClientState

end KubevirtMetrics.Qmp
