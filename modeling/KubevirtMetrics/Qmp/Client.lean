import KubevirtMetrics.Data.Run

namespace KubevirtMetrics.Qmp

open Data

/-! `Close` and `call` of `client.go`: the steps that the goroutines using one
client take, in any order.  Calls, contexts and callers of `Close` are numbered. -/

inductive ContextError
  | canceled
  | deadlineExceeded
  deriving DecidableEq

/-- What a call returns: the result of `fn`, the value of `ctx.Err()`, or
`ErrClientClosed`. -/
inductive Return
  | fn (err : Option String)
  | context (err : Option ContextError)
  | clientClosed
  deriving DecidableEq

/-- Where a goroutine is in `call`. -/
inductive Place
  | idle
  -- at `c.mu.Lock()`
  | locking
  -- at `ctx.Err()`
  | locked
  -- at `c.closed.Load()`
  | uncancelled
  -- at `context.AfterFunc`
  | usable
  | registered
  -- in `fn`
  | running
  -- at `stop()`
  | ran (err : Option String)
  -- at `<-done`
  | awaiting
  -- at the deferred `c.mu.Unlock()`
  | leaving (value : Return)
  | returned (value : Return)
  deriving DecidableEq

/-- The state of the function registered with `context.AfterFunc`. -/
inductive AfterFunc
  | unregistered
  | pending
  | stopped
  | started
  deriving DecidableEq

structure Call where
  ctx : Nat
  place : Place
  after : AfterFunc
  -- the channel `done` is closed
  done : Bool
  deriving DecidableEq

/-- Who runs `Close`: the callback of a call, or another caller. -/
inductive Closer
  | callback (call : Nat)
  | caller (n : Nat)
  deriving DecidableEq

/-- Where a goroutine is in `Close`. -/
inductive Closing
  | idle
  -- at `c.closeOnce.Do`
  | entering
  -- at `c.closed.Store(true)`
  | storing
  -- at `c.conn.Close()`
  | shutting
  | left
  deriving DecidableEq

inductive Once
  | fresh
  | running
  | done
  deriving DecidableEq

structure ClientState where
  holder : Option Nat
  closed : Bool
  connClosed : Bool
  closeOnce : Once
  ctxErr : Nat → Option ContextError
  calls : Nat → Call
  closing : Closer → Closing

inductive Action
  | invoke (call ctx : Nat)
  | lock (call : Nat)
  | checkContext (call : Nat)
  | checkClosed (call : Nat)
  | afterFunc (call : Nat)
  | begin (call : Nat)
  | finish (call : Nat) (err : Option String)
  | stop (call : Nat)
  | receive (call : Nat)
  | unlock (call : Nat)
  | cancel (ctx : Nat) (err : ContextError)
  | fire (call : Nat)
  | close (n : Nat)
  | enter (closer : Closer)
  | store (closer : Closer)
  | shut (closer : Closer)
  | signal (call : Nat)
  deriving DecidableEq

namespace ClientState

def init : ClientState where
  holder := none
  closed := false
  connClosed := false
  closeOnce := .fresh
  ctxErr _ := none
  calls _ := ⟨0, .idle, .unregistered, false⟩
  closing _ := .idle

def setCall (s : ClientState) (i : Nat) (call : Call) : ClientState :=
  { s with calls := Function.update s.calls i call }

def setPlace (s : ClientState) (i : Nat) (place : Place) : ClientState :=
  s.setCall i { s.calls i with place := place }

def setClosing (s : ClientState) (closer : Closer) (closing : Closing) :
    ClientState :=
  { s with closing := Function.update s.closing closer closing }

/-- The callback starts at most once and only when its context is done; `Do`
waits while another goroutine runs the function. -/
def Enabled (s : ClientState) : Action → Prop
  | .invoke i _ => (s.calls i).place = .idle
  | .lock i => (s.calls i).place = .locking ∧ s.holder = none
  | .checkContext i => (s.calls i).place = .locked
  | .checkClosed i => (s.calls i).place = .uncancelled
  | .afterFunc i => (s.calls i).place = .usable
  | .begin i => (s.calls i).place = .registered
  | .finish i _ => (s.calls i).place = .running
  | .stop i => ∃ err, (s.calls i).place = .ran err
  | .receive i => (s.calls i).place = .awaiting ∧ (s.calls i).done = true
  | .unlock i => ∃ value, (s.calls i).place = .leaving value
  | .cancel ctx _ => s.ctxErr ctx = none
  | .fire i => (s.calls i).after = .pending ∧ s.ctxErr (s.calls i).ctx ≠ none
  | .close n => s.closing (.caller n) = .idle
  | .enter closer => s.closing closer = .entering ∧ s.closeOnce ≠ .running
  | .store closer => s.closing closer = .storing
  | .shut closer => s.closing closer = .shutting
  | .signal i => s.closing (.callback i) = .left ∧ (s.calls i).done = false

/-- `stop` reports true exactly when it kept the callback from starting. -/
def stop (s : ClientState) (i : Nat) (err : Option String) : ClientState :=
  if (s.calls i).after = .pending then
    s.setCall i
      { s.calls i with after := .stopped, place := .leaving (.fn err) }
  else s.setPlace i .awaiting

def step (s : ClientState) : Action → ClientState
  | .invoke i ctx => s.setCall i ⟨ctx, .locking, .unregistered, false⟩
  | .lock i => { s.setPlace i .locked with holder := some i }
  | .checkContext i =>
      match s.ctxErr (s.calls i).ctx with
      | none => s.setPlace i .uncancelled
      | some err => s.setPlace i (.leaving (.context (some err)))
  | .checkClosed i =>
      if s.closed then s.setPlace i (.leaving .clientClosed)
      else s.setPlace i .usable
  | .afterFunc i =>
      s.setCall i { s.calls i with after := .pending, place := .registered }
  | .begin i => s.setPlace i .running
  | .finish i err => s.setPlace i (.ran err)
  | .stop i =>
      match (s.calls i).place with
      | .ran err => s.stop i err
      | _ => s
  | .receive i =>
      s.setPlace i (.leaving (.context (s.ctxErr (s.calls i).ctx)))
  | .unlock i =>
      match (s.calls i).place with
      | .leaving value => { s.setPlace i (.returned value) with holder := none }
      | _ => s
  | .cancel ctx err => { s with ctxErr := Function.update s.ctxErr ctx (some err) }
  | .fire i =>
      (s.setCall i { s.calls i with after := .started }).setClosing (.callback i)
        .entering
  | .close n => s.setClosing (.caller n) .entering
  | .enter closer =>
      match s.closeOnce with
      | .fresh => { s.setClosing closer .storing with closeOnce := .running }
      | .running => s
      | .done => s.setClosing closer .left
  | .store closer => { s.setClosing closer .shutting with closed := true }
  | .shut closer =>
      { s.setClosing closer .left with connClosed := true, closeOnce := .done }
  | .signal i => s.setCall i { s.calls i with done := true }

instance (s : ClientState) : DecidablePred s.Enabled
  | .stop i =>
      match here : (s.calls i).place with
      | .ran err => isTrue ⟨err, here⟩
      | .idle | .locking | .locked | .uncancelled | .usable | .registered
      | .running | .awaiting | .leaving _ | .returned _ =>
          isFalse (by rintro ⟨err, ran⟩; cases here.symm.trans ran)
  | .unlock i =>
      match here : (s.calls i).place with
      | .leaving value => isTrue ⟨value, here⟩
      | .idle | .locking | .locked | .uncancelled | .usable | .registered
      | .running | .ran _ | .awaiting | .returned _ =>
          isFalse (by rintro ⟨value, leaves⟩; cases here.symm.trans leaves)
  | .invoke i _ => inferInstanceAs (Decidable ((s.calls i).place = .idle))
  | .lock i => inferInstanceAs
      (Decidable ((s.calls i).place = .locking ∧ s.holder = none))
  | .checkContext i => inferInstanceAs (Decidable ((s.calls i).place = .locked))
  | .checkClosed i =>
      inferInstanceAs (Decidable ((s.calls i).place = .uncancelled))
  | .afterFunc i => inferInstanceAs (Decidable ((s.calls i).place = .usable))
  | .begin i => inferInstanceAs (Decidable ((s.calls i).place = .registered))
  | .finish i _ => inferInstanceAs (Decidable ((s.calls i).place = .running))
  | .receive i => inferInstanceAs
      (Decidable ((s.calls i).place = .awaiting ∧ (s.calls i).done = true))
  | .cancel ctx _ => inferInstanceAs (Decidable (s.ctxErr ctx = none))
  | .fire i => inferInstanceAs (Decidable
      ((s.calls i).after = .pending ∧ s.ctxErr (s.calls i).ctx ≠ none))
  | .close n => inferInstanceAs (Decidable (s.closing (.caller n) = .idle))
  | .enter closer => inferInstanceAs
      (Decidable (s.closing closer = .entering ∧ s.closeOnce ≠ .running))
  | .store closer => inferInstanceAs (Decidable (s.closing closer = .storing))
  | .shut closer => inferInstanceAs (Decidable (s.closing closer = .shutting))
  | .signal i => inferInstanceAs (Decidable
      (s.closing (.callback i) = .left ∧ (s.calls i).done = false))

def run (history : List Action) : ClientState := stateAfter step init history

def Runs (history : List Action) : Prop :=
  Throughout (fun before action => Enabled (run before) action) history

theorem run_append_singleton (history : List Action) (action : Action) :
    run (history ++ [action]) = (run history).step action :=
  stateAfter_append_singleton step init history action

end ClientState

/-! ### What holds between any two steps -/

def Place.holds : Place → Bool
  | .idle | .locking | .returned _ => false
  | _ => true

/-- What the value a call returns says about its callback. -/
def Return.Fits (call : Call) (err : Option ContextError) : Return → Prop
  | .fn _ => call.after = .stopped
  | .clientClosed => call.after = .unregistered
  | .context value => value ≠ none ∧ value = err ∧
      (call.after = .unregistered ∨ (call.after = .started ∧ call.done = true))

/-- What the place of a call says about its callback. -/
def Call.Fits (call : Call) (err : Option ContextError) : Prop :=
  match call.place with
  | .idle | .locking | .locked | .uncancelled | .usable =>
      call.after = .unregistered
  | .registered | .running | .ran _ =>
      call.after = .pending ∨ call.after = .started
  | .awaiting => call.after = .started
  | .leaving value | .returned value => value.Fits call err

theorem Call.Fits.imp {call next : Call} {err err' : Option ContextError}
    (fits : call.Fits err) (same : next.place = call.place)
    (unregistered : call.after = .unregistered → next.after = .unregistered)
    (pending : call.after = .pending →
      next.after = .pending ∨ next.after = .started)
    (started : call.after = .started → next.after = .started)
    (value : ∀ value : Return, value.Fits call err → value.Fits next err') :
    next.Fits err' := by
  unfold Fits at fits ⊢
  rw [same]
  generalize call.place = place at fits ⊢
  cases place with
  | registered => exact fits.elim pending fun run => .inr (started run)
  | running => exact fits.elim pending fun run => .inr (started run)
  | ran _ => exact fits.elim pending fun run => .inr (started run)
  | awaiting => exact started fits
  | leaving returned => exact value returned fits
  | returned returned => exact value returned fits
  | _ => exact unregistered fits

/-- A call, the error of its context and the place of its callback in `Close`. -/
structure Call.Consistent (call : Call) (err : Option ContextError)
    (closing : Closing) : Prop where
  fits : call.Fits err
  cancelled : call.after = .started → err ≠ none
  callback : closing ≠ .idle ↔ call.after = .started
  signalled : call.done = true → closing = .left

namespace Call.Consistent

variable {call : Call} {err : Option ContextError} {closing : Closing}

theorem setPlace (consistent : call.Consistent err closing) {place : Place}
    (fits : Call.Fits { call with place := place } err) :
    Call.Consistent { call with place := place } err closing where
  fits := fits
  cancelled := consistent.cancelled
  callback := consistent.callback
  signalled := consistent.signalled

theorem setAfter (consistent : call.Consistent err closing)
    (waiting : call.after ≠ .started) {after : AfterFunc} {place : Place}
    (still : after ≠ .started)
    (fits : Call.Fits { call with after := after, place := place } err) :
    Call.Consistent { call with after := after, place := place } err
      closing where
  fits := fits
  cancelled started := absurd started still
  callback := by
    rw [consistent.callback]
    exact ⟨fun started => absurd started waiting,
      fun started => absurd started still⟩
  signalled := consistent.signalled

theorem idle (consistent : call.Consistent err closing)
    (waiting : call.after ≠ .started) : closing = .idle := by
  by_contra inside
  exact waiting (consistent.callback.mp inside)

theorem not_done (consistent : call.Consistent err closing)
    (waiting : call.after ≠ .started) : call.done = false := by
  cases done : call.done with
  | false => rfl
  | true =>
      cases (consistent.signalled done).symm.trans (consistent.idle waiting)

/-- A context is cancelled once: what a call knows of its error stays true. -/
theorem cancel (consistent : call.Consistent err closing) (live : err = none)
    (later : Option ContextError) : call.Consistent later closing where
  fits := by
    refine consistent.fits.imp rfl (fun same => same) .inl (fun same => same) ?_
    intro value fits
    cases value with
    | fn _ => exact fits
    | clientClosed => exact fits
    | context value => exact absurd (fits.2.1.trans live) fits.1
  cancelled started := absurd live (consistent.cancelled started)
  callback := consistent.callback
  signalled := consistent.signalled

theorem fire (consistent : call.Consistent err closing)
    (pending : call.after = .pending) (done : err ≠ none) :
    Call.Consistent { call with after := .started } err .entering where
  fits := by
    refine consistent.fits.imp rfl ?_ (fun _ => .inr rfl) (fun _ => rfl) ?_
    · intro unregistered
      rw [pending] at unregistered
      cases unregistered
    · intro value fits
      -- no call with a pending callback has come to its return
      cases value with
      | fn _ => exact absurd (pending.symm.trans fits) (by simp)
      | clientClosed => exact absurd (pending.symm.trans fits) (by simp)
      | context value =>
          rcases fits.2.2 with unregistered | ⟨started, -⟩
          · exact absurd (pending.symm.trans unregistered) (by simp)
          · exact absurd (pending.symm.trans started) (by simp)
  cancelled _ := done
  callback := by simp
  signalled signalled := by
    rw [consistent.not_done (by simp [pending])] at signalled
    cases signalled

theorem move (consistent : call.Consistent err closing) {next : Closing}
    (inside : closing ≠ .idle) (before : closing ≠ .left)
    (still : next ≠ .idle) : call.Consistent err next where
  fits := consistent.fits
  cancelled := consistent.cancelled
  callback := by
    rw [← consistent.callback]
    exact ⟨fun _ => inside, fun _ => still⟩
  signalled done := absurd (consistent.signalled done) before

theorem signal (consistent : call.Consistent err closing)
    (left : closing = .left) :
    Call.Consistent { call with done := true } err closing where
  fits := by
    refine consistent.fits.imp rfl (fun same => same) .inl (fun same => same) ?_
    intro value fits
    cases value with
    | fn _ => exact fits
    | clientClosed => exact fits
    | context value =>
        exact ⟨fits.1, fits.2.1, fits.2.2.imp_right fun ran => ⟨ran.1, rfl⟩⟩
  cancelled := consistent.cancelled
  callback := consistent.callback
  signalled _ := left

end Call.Consistent

/-- The function of `closeOnce` runs once, and `Close` returns after it. -/
structure ClosesOnce (closing : Closer → Closing) (closeOnce : Once)
    (closed connClosed : Bool) : Prop where
  stored : ∀ closer, closing closer = .shutting → closed = true
  left : ∀ closer, closing closer = .left → closeOnce = .done
  shut : closeOnce = .done → closed = true ∧ connClosed = true
  owned : closeOnce = .running →
    ∃ closer, closing closer = .storing ∨ closing closer = .shutting

namespace ClosesOnce

variable {closing : Closer → Closing} {closeOnce : Once}
  {closed connClosed : Bool} {closer : Closer}

theorem call (once : ClosesOnce closing closeOnce closed connClosed)
    (idle : closing closer = .idle) :
    ClosesOnce (Function.update closing closer .entering) closeOnce closed
      connClosed where
  stored other shutting := by
    rw [Function.update_apply] at shutting
    split at shutting
    next => cases shutting
    next => exact once.stored other shutting
  left other left := by
    rw [Function.update_apply] at left
    split at left
    next => cases left
    next => exact once.left other left
  shut := once.shut
  owned running := by
    obtain ⟨other, busy⟩ := once.owned running
    refine ⟨other, ?_⟩
    rw [Function.update_apply, if_neg]
    · exact busy
    · rintro rfl
      simp [idle] at busy

theorem own (once : ClosesOnce closing .fresh closed connClosed) :
    ClosesOnce (Function.update closing closer .storing) .running closed
      connClosed where
  stored other shutting := by
    rw [Function.update_apply] at shutting
    split at shutting
    next => cases shutting
    next => exact once.stored other shutting
  left other left := by
    rw [Function.update_apply] at left
    split at left
    next => cases left
    next => cases once.left other left
  shut done := by cases done
  owned _ := ⟨closer, .inl (Function.update_self ..)⟩

theorem pass (once : ClosesOnce closing .done closed connClosed) :
    ClosesOnce (Function.update closing closer .left) .done closed
      connClosed where
  stored _ _ := (once.shut rfl).1
  left _ _ := rfl
  shut := once.shut
  owned running := by cases running

theorem store (once : ClosesOnce closing closeOnce closed connClosed) :
    ClosesOnce (Function.update closing closer .shutting) closeOnce true
      connClosed where
  stored _ _ := rfl
  left other left := by
    rw [Function.update_apply] at left
    split at left
    next => cases left
    next => exact once.left other left
  shut done := ⟨rfl, (once.shut done).2⟩
  owned _ := ⟨closer, .inr (Function.update_self ..)⟩

theorem finish (once : ClosesOnce closing closeOnce closed connClosed)
    (shutting : closing closer = .shutting) :
    ClosesOnce (Function.update closing closer .left) .done closed true where
  stored _ _ := once.stored closer shutting
  left _ _ := rfl
  shut _ := ⟨once.stored closer shutting, rfl⟩
  owned running := by cases running

end ClosesOnce

structure ClientState.Consistent (s : ClientState) : Prop where
  holder : ∀ i, (s.calls i).place.holds = true ↔ s.holder = some i
  calls : ∀ i, (s.calls i).Consistent (s.ctxErr (s.calls i).ctx)
    (s.closing (.callback i))
  once : ClosesOnce s.closing s.closeOnce s.closed s.connClosed

namespace ClientState

variable {s : ClientState}

theorem setCall_calls (s : ClientState) (i j : Nat) (call : Call) :
    (s.setCall i call).calls j = if j = i then call else s.calls j := by
  simp [setCall, Function.update_apply]

theorem init_consistent : init.Consistent where
  holder i := by simp [init, Place.holds]
  calls i := by
    constructor
    · rfl
    · intro started
      cases started
    · simp [init]
    · intro done
      cases done
  once := by
    constructor
    · intro closer shutting
      cases shutting
    · intro closer left
      cases left
    · intro done
      cases done
    · intro running
      cases running

namespace Consistent

/-- A step of one call, which may take or release the lock. -/
theorem setCall (consistent : s.Consistent) {i : Nat} {call : Call}
    {holder : Option Nat}
    (own : call.place.holds = true ↔ holder = some i)
    (others : ∀ j, j ≠ i → (s.holder = some j ↔ holder = some j))
    (fits : call.Consistent (s.ctxErr call.ctx) (s.closing (.callback i))) :
    ({ s.setCall i call with holder := holder } : ClientState).Consistent where
  holder j := by
    change ((s.setCall i call).calls j).place.holds = true ↔ _
    rw [setCall_calls]
    split
    next same => rw [same]; exact own
    next other => rw [consistent.holder]; exact others j other
  calls j := by
    change ((s.setCall i call).calls j).Consistent
      (s.ctxErr ((s.setCall i call).calls j).ctx) (s.closing (.callback j))
    rw [setCall_calls]
    split
    next same => rw [same]; exact fits
    next => exact consistent.calls j
  once := consistent.once

/-- A step of one call that neither takes nor releases the lock. -/
theorem setCall_of_holds (consistent : s.Consistent) {i : Nat} {call : Call}
    (same : call.place.holds = (s.calls i).place.holds)
    (fits : call.Consistent (s.ctxErr call.ctx) (s.closing (.callback i))) :
    (s.setCall i call).Consistent :=
  consistent.setCall (by rw [same]; exact consistent.holder i)
    (fun _ _ => Iff.rfl) fits

theorem setPlace (consistent : s.Consistent) {i : Nat} {place : Place}
    (same : place.holds = (s.calls i).place.holds)
    (fits : Call.Fits { s.calls i with place := place }
      (s.ctxErr (s.calls i).ctx)) : (s.setPlace i place).Consistent :=
  consistent.setCall_of_holds same ((consistent.calls i).setPlace fits)

theorem fits_of_place (consistent : s.Consistent) {i : Nat} {place : Place}
    (here : (s.calls i).place = place) :
    Call.Fits { s.calls i with place := place } (s.ctxErr (s.calls i).ctx) := by
  subst here
  exact (consistent.calls i).fits

theorem lock (consistent : s.Consistent) {i : Nat}
    (here : (s.calls i).place = .locking) (free : s.holder = none) :
    (s.step (.lock i)).Consistent := by
  refine consistent.setCall (by simp [Place.holds]) ?_ ?_
  · intro j other
    simp [free, other.symm]
  · have unregistered := consistent.fits_of_place here
    exact (consistent.calls i).setPlace unregistered

theorem checkContext (consistent : s.Consistent) {i : Nat}
    (here : (s.calls i).place = .locked) :
    (s.step (.checkContext i)).Consistent := by
  have unregistered := consistent.fits_of_place here
  simp only [step]
  split
  next => exact consistent.setPlace (by simp [here, Place.holds]) unregistered
  next err failed =>
    refine consistent.setPlace (by simp [here, Place.holds]) ?_
    exact ⟨Option.some_ne_none err, failed.symm, .inl unregistered⟩

theorem checkClosed (consistent : s.Consistent) {i : Nat}
    (here : (s.calls i).place = .uncancelled) :
    (s.step (.checkClosed i)).Consistent := by
  have unregistered := consistent.fits_of_place here
  simp only [step]
  split
  next => exact consistent.setPlace (by simp [here, Place.holds]) unregistered
  next => exact consistent.setPlace (by simp [here, Place.holds]) unregistered

theorem afterFunc (consistent : s.Consistent) {i : Nat}
    (here : (s.calls i).place = .usable) :
    (s.step (.afterFunc i)).Consistent := by
  have unregistered : (s.calls i).after = .unregistered :=
    consistent.fits_of_place here
  refine consistent.setCall_of_holds (by simp [here, Place.holds]) ?_
  exact (consistent.calls i).setAfter (by simp [unregistered]) (by simp)
    (.inl rfl)

theorem stop (consistent : s.Consistent) {i : Nat} {err : Option String}
    (here : (s.calls i).place = .ran err) : (s.stop i err).Consistent := by
  have registered := consistent.fits_of_place here
  unfold ClientState.stop
  split
  next pending =>
    refine consistent.setCall_of_holds (by simp [here, Place.holds]) ?_
    exact (consistent.calls i).setAfter (by simp [pending]) (by simp) rfl
  next started =>
    refine consistent.setPlace (by simp [here, Place.holds]) ?_
    exact registered.resolve_left started

theorem receive (consistent : s.Consistent) {i : Nat}
    (here : (s.calls i).place = .awaiting) (done : (s.calls i).done = true) :
    (s.step (.receive i)).Consistent := by
  have started : (s.calls i).after = .started := consistent.fits_of_place here
  refine consistent.setPlace (by simp [here, Place.holds]) ?_
  exact ⟨(consistent.calls i).cancelled started, rfl, .inr ⟨started, done⟩⟩

theorem unlock (consistent : s.Consistent) {i : Nat} {value : Return}
    (here : (s.calls i).place = .leaving value) :
    (s.step (.unlock i)).Consistent := by
  have holding : s.holder = some i :=
    (consistent.holder i).mp (by simp [here, Place.holds])
  have fits := consistent.fits_of_place here
  simp only [step, here]
  refine consistent.setCall (by simp [Place.holds]) ?_ ?_
  · intro j other
    simp [holding, other.symm]
  · exact (consistent.calls i).setPlace fits

theorem cancel (consistent : s.Consistent) {ctx : Nat} (err : ContextError)
    (live : s.ctxErr ctx = none) :
    (s.step (.cancel ctx err)).Consistent where
  holder := consistent.holder
  calls i := by
    change (s.calls i).Consistent
      (Function.update s.ctxErr ctx (some err) (s.calls i).ctx) _
    rw [Function.update_apply]
    split
    next same => exact (consistent.calls i).cancel (same ▸ live) _
    next => exact consistent.calls i
  once := consistent.once

/-- A step of one goroutine in `Close`. -/
theorem setClosing (consistent : s.Consistent) {closer : Closer}
    {closing : Closing} {closeOnce : Once} {closed connClosed : Bool}
    (inside : s.closing closer ≠ .idle) (before : s.closing closer ≠ .left)
    (still : closing ≠ .idle)
    (once : ClosesOnce (Function.update s.closing closer closing) closeOnce
      closed connClosed) :
    ({ s.setClosing closer closing with
        closeOnce := closeOnce
        closed := closed
        connClosed := connClosed } : ClientState).Consistent where
  holder := consistent.holder
  calls i := by
    change (s.calls i).Consistent (s.ctxErr (s.calls i).ctx)
      (Function.update s.closing closer closing (.callback i))
    rw [Function.update_apply]
    split
    next same =>
      subst same
      exact (consistent.calls i).move inside before still
    next => exact consistent.calls i
  once := once

theorem invoke (consistent : s.Consistent) {i : Nat} (ctx : Nat)
    (here : (s.calls i).place = .idle) :
    (s.step (.invoke i ctx)).Consistent := by
  have unregistered : (s.calls i).after = .unregistered :=
    consistent.fits_of_place here
  have silent := (consistent.calls i).idle (by simp [unregistered])
  refine consistent.setCall_of_holds (by simp [here, Place.holds]) ?_
  constructor
  · rfl
  · intro started
    cases started
  · simp [silent]
  · intro done
    cases done

theorem fire (consistent : s.Consistent) {i : Nat}
    (pending : (s.calls i).after = .pending)
    (done : s.ctxErr (s.calls i).ctx ≠ none) :
    (s.step (.fire i)).Consistent where
  holder j := by
    change ((s.setCall i _).calls j).place.holds = true ↔ s.holder = some j
    rw [setCall_calls, ← consistent.holder]
    split
    next same => rw [same]
    next => rfl
  calls j := by
    change ((s.setCall i _).calls j).Consistent
      (s.ctxErr ((s.setCall i _).calls j).ctx)
      (Function.update s.closing (.callback i) .entering (.callback j))
    rw [setCall_calls, Function.update_apply]
    by_cases same : j = i
    · subst same
      simp only [if_true]
      exact (consistent.calls j).fire pending done
    · simp only [same, if_false, Closer.callback.injEq]
      exact consistent.calls j
  once := consistent.once.call ((consistent.calls i).idle (by simp [pending]))

theorem close (consistent : s.Consistent) {n : Nat}
    (idle : s.closing (.caller n) = .idle) :
    (s.step (.close n)).Consistent where
  holder := consistent.holder
  calls i := by
    change (s.calls i).Consistent (s.ctxErr (s.calls i).ctx)
      (Function.update s.closing (.caller n) .entering (.callback i))
    rw [Function.update_of_ne (by simp)]
    exact consistent.calls i
  once := consistent.once.call idle

theorem enter (consistent : s.Consistent) {closer : Closer}
    (here : s.closing closer = .entering) :
    (s.step (.enter closer)).Consistent := by
  simp only [step]
  have once := consistent.once
  split
  next fresh =>
    rw [fresh] at once
    exact consistent.setClosing (by simp [here]) (by simp [here]) (by simp)
      once.own
  next => exact consistent
  next done =>
    have passed : ClosesOnce (Function.update s.closing closer .left)
        s.closeOnce s.closed s.connClosed := by
      rw [done] at once ⊢
      exact once.pass
    exact consistent.setClosing (by simp [here]) (by simp [here]) (by simp)
      passed

/-- Every step keeps the state consistent. -/
theorem step (consistent : s.Consistent) {action : Action}
    (enabled : s.Enabled action) : (s.step action).Consistent := by
  cases action with
  | invoke i ctx => exact consistent.invoke ctx enabled
  | lock i => exact consistent.lock enabled.1 enabled.2
  | checkContext i => exact consistent.checkContext enabled
  | checkClosed i => exact consistent.checkClosed enabled
  | afterFunc i => exact consistent.afterFunc enabled
  | begin i =>
      have registered := consistent.fits_of_place enabled
      exact consistent.setPlace (by simp [show _ = _ from enabled, Place.holds])
        registered
  | finish i err =>
      have registered := consistent.fits_of_place enabled
      exact consistent.setPlace (by simp [show _ = _ from enabled, Place.holds])
        registered
  | stop i =>
      obtain ⟨err, here⟩ := enabled
      simp only [ClientState.step, here]
      exact consistent.stop here
  | receive i => exact consistent.receive enabled.1 enabled.2
  | unlock i =>
      obtain ⟨value, here⟩ := enabled
      exact consistent.unlock here
  | cancel ctx err => exact consistent.cancel err enabled
  | fire i => exact consistent.fire enabled.1 enabled.2
  | close n => exact consistent.close enabled
  | enter closer => exact consistent.enter enabled.1
  | store closer =>
      have here : s.closing closer = .storing := enabled
      exact consistent.setClosing (by simp [here]) (by simp [here]) (by simp)
        consistent.once.store
  | shut closer =>
      have here : s.closing closer = .shutting := enabled
      exact consistent.setClosing (by simp [here]) (by simp [here]) (by simp)
        (consistent.once.finish here)
  | signal i =>
      exact consistent.setCall_of_holds rfl
        ((consistent.calls i).signal enabled.1)

end Consistent

theorem run_consistent {history : List Action} (runs : Runs history) :
    (run history).Consistent :=
  stateAfter_invariant Consistent init_consistent
    (fun _ _ consistent enabled => consistent.step enabled) runs

end ClientState

end KubevirtMetrics.Qmp
