import InvensenseMpl.State

/-!
# DMP interrupt sources

`inv_set_motion_interrupt`, `inv_set_fifo_interrupt` and `inv_set_dmp_dr_interrupt`
(`ml.c:585–743`) turn one source of the DMP interrupt on or off. Each records the source in
`inv_obj.sys->interrupt_sources`, enables the DMP interrupt through `inv_set_dl_cfg_int`
before setting a source and disables it once no source is left, and then patches the DMP
program at the source's key. The three share one body, `interruptSourceBody`;
`inv_set_dmp_dr_interrupt` checks for its key first. Each call keeps the interrupt enabled
while a source is recorded (`interruptStep_consistent`), and so does every run of the library
(`execLib_invariant`).
-/

namespace InvensenseMpl

/-- `inv_set_dl_cfg_int(v)`: its result, and on success `v` recorded as the interrupt
configuration. -/
def setDlCfgInt (p : Platform) (v : UInt8) (st : MlState) : InvError × MlState :=
  (p.setDlCfgInt v, if p.setDlCfgInt v = .success then { st with dlCfgInt := v } else st)

/-- Record `bit` in `interrupt_sources` or clear it: the interrupt is enabled before a source
is set and disabled once none is left (`ml.c:595–611`). -/
def recordInterruptSource (p : Platform) (bit : BitVec 32) (onOff : UInt8) (st : MlState) :
    InvError × MlState :=
  if onOff ≠ 0 then
    andThen (setDlCfgInt p p.bitDmpIntEn st) fun st =>
      (.success, { st with interruptSources := st.interruptSources ||| bit })
  else
    let st := { st with interruptSources := st.interruptSources &&& ~~~bit }
    if st.interruptSources = 0 then setDlCfgInt p 0 st else (.success, st)

/-- The body the three setters share after their checks (`ml.c:595–624`): record the source,
then write `onByte` or `DINAD8` to the source's `key`. -/
def interruptSourceBody (p : Platform) (bit : BitVec 32) (key : DmpKey) (onByte : UInt8)
    (onOff : UInt8) (st : MlState) : InvError × MlState :=
  andThen (recordInterruptSource p bit onOff st) fun st =>
    setMpuMemory p key [if onOff ≠ 0 then onByte else p.dina.dinaD8] st

/-- A setter with the state check of `inv_set_motion_interrupt` and `inv_set_fifo_interrupt`. -/
def setInterruptSource (p : Platform) (bit : BitVec 32) (key : DmpKey) (onByte : UInt8)
    (onOff : UInt8) (st : MlState) : InvError × MlState :=
  if st.state.toNat < InvState.dmpOpened.toNat then (.errorSmImproperState, st)
  else interruptSourceBody p bit key onByte onOff st

/-- `inv_set_motion_interrupt` (`ml.c:585–625`). -/
def invSetMotionInterrupt (p : Platform) (onOff : UInt8) (st : MlState) : InvError × MlState :=
  setInterruptSource p p.invIntMotion .keyCfg7 p.dina.dinaFE onOff st

/-- `inv_set_fifo_interrupt` (`ml.c:632–675`). -/
def invSetFifoInterrupt (p : Platform) (onOff : UInt8) (st : MlState) : InvError × MlState :=
  setInterruptSource p p.invIntFifo .keyCfg6 p.dina.dinaFE onOff st

/-- `inv_set_dmp_dr_interrupt` (`ml.c:682–743`): the state check, then a check that the DMP
image has `KEY_CFG_DR_INT`, which the other two setters lack. -/
def invSetDmpDrInterrupt (p : Platform) (onOff : UInt8) (st : MlState) : InvError × MlState :=
  if st.state.toNat < InvState.dmpOpened.toNat then (.errorSmImproperState, st)
  else if !p.dmpkeySupported .keyCfgDrInt then (.errorFeatureNotImplemented, st)
  else interruptSourceBody p p.invIntDmpDr .keyCfgDrInt (p.dina.dinD40 + 1) onOff st

/-- `inv_get_interrupts` (`ml.c:745–753`). -/
def invGetInterrupts (st : MlState) : BitVec 32 :=
  if st.state.toNat < InvState.dmpOpened.toNat then 0 else st.interruptSources

/-! ### Bits of the source record -/

section Bits

variable {w : Nat} (s b a : BitVec w)

/-- Setting `b` leaves the bits outside `b` alone. -/
theorem or_and_not_self : (s ||| b) &&& ~~~b = s &&& ~~~b := by
  ext i
  simp only [BitVec.getLsbD_and, BitVec.getLsbD_or, BitVec.getLsbD_not]
  cases s.getLsbD i <;> cases b.getLsbD i <;> simp

/-- Clearing `b` twice clears it once. -/
theorem and_not_and_not_self : s &&& ~~~b &&& ~~~b = s &&& ~~~b := by
  rw [BitVec.and_assoc, BitVec.and_self]

/-- After setting `b`, all of `b` is set. -/
theorem or_and_self : (s ||| b) &&& b = b := by
  ext i
  simp only [BitVec.getLsbD_and, BitVec.getLsbD_or]
  cases s.getLsbD i <;> cases b.getLsbD i <;> simp

/-- After clearing `b`, none of `b` is set. -/
theorem and_not_and_self : s &&& ~~~b &&& b = 0 := by
  ext i
  simp only [BitVec.getLsbD_and, BitVec.getLsbD_not, BitVec.getLsbD_zero]
  cases b.getLsbD i <;> simp

variable {s b a}

/-- The union of two masks inside `a` is inside `a`. -/
theorem or_and_not_eq_zero (hs : s &&& ~~~a = 0) (hb : b &&& ~~~a = 0) :
    (s ||| b) &&& ~~~a = 0 := by
  ext i
  have h1 := congrArg (BitVec.getLsbD · i) hs
  have h2 := congrArg (BitVec.getLsbD · i) hb
  simp only [BitVec.getLsbD_and, BitVec.getLsbD_not, BitVec.getLsbD_or,
    BitVec.getLsbD_zero] at h1 h2 ⊢
  cases hs' : s.getLsbD i <;> cases hb' : b.getLsbD i <;> simp_all

/-- Clearing bits of a mask inside `a` leaves it inside `a`. -/
theorem and_not_and_not_eq_zero (hs : s &&& ~~~a = 0) : s &&& ~~~b &&& ~~~a = 0 := by
  rw [BitVec.and_assoc, BitVec.and_comm (~~~b), ← BitVec.and_assoc, hs]
  exact BitVec.zero_and

/-- A mask with a bit of `b` set is nonzero. -/
theorem ne_zero_of_and_ne_zero (h : s &&& b ≠ 0) : s ≠ 0 := by
  rintro rfl
  exact h (BitVec.zero_and)

/-- A mask is inside its union with any other. -/
theorem and_not_or_left : b &&& ~~~(b ||| a) = 0 := by
  ext i
  simp only [BitVec.getLsbD_and, BitVec.getLsbD_not, BitVec.getLsbD_or, BitVec.getLsbD_zero]
  cases b.getLsbD i <;> simp

/-- A mask is inside the union of any other with it. -/
theorem and_not_or_right : b &&& ~~~(a ||| b) = 0 := by
  rw [BitVec.or_comm]
  exact and_not_or_left

/-- A mask inside `a` is inside any union with `a`. -/
theorem and_not_or_of_and_not (h : s &&& ~~~a = 0) : s &&& ~~~(a ||| b) = 0 := by
  ext i
  have h1 := congrArg (BitVec.getLsbD · i) h
  simp only [BitVec.getLsbD_and, BitVec.getLsbD_not, BitVec.getLsbD_or,
    BitVec.getLsbD_zero] at h1 ⊢
  cases hs' : s.getLsbD i <;> simp_all

end Bits

/-! ### Frame -/

/-- Writing the interrupt configuration register keeps the recorded sources. -/
@[simp]
theorem setDlCfgInt_interruptSources (p : Platform) (v : UInt8) (st : MlState) :
    (setDlCfgInt p v st).2.interruptSources = st.interruptSources := by
  unfold setDlCfgInt; split_ifs <;> rfl

/-- Writing the interrupt configuration register keeps the library state. -/
@[simp]
theorem setDlCfgInt_state (p : Platform) (v : UInt8) (st : MlState) :
    (setDlCfgInt p v st).2.state = st.state := by
  unfold setDlCfgInt; split_ifs <;> rfl

/-- A DMP write keeps the recorded sources. -/
@[simp]
theorem setMpuMemory_interruptSources (p : Platform) (key : DmpKey) (b : List UInt8)
    (st : MlState) : (setMpuMemory p key b st).2.interruptSources = st.interruptSources := rfl

/-- A DMP write keeps the register shadow. -/
@[simp]
theorem setMpuMemory_dlCfgInt (p : Platform) (key : DmpKey) (b : List UInt8) (st : MlState) :
    (setMpuMemory p key b st).2.dlCfgInt = st.dlCfgInt := rfl

/-- Recording changes neither the library state nor any other source; when it succeeds the
source is on or off as asked, and clearing it takes effect even when disabling the
interrupt then fails. -/
theorem recordInterruptSource_sources (p : Platform) (bit : BitVec 32) (onOff : UInt8)
    (st : MlState) :
    (recordInterruptSource p bit onOff st).2.state = st.state ∧
    (recordInterruptSource p bit onOff st).2.interruptSources &&& ~~~bit =
      st.interruptSources &&& ~~~bit ∧
    ((recordInterruptSource p bit onOff st).1 = .success →
      (recordInterruptSource p bit onOff st).2.interruptSources &&& bit =
        if onOff ≠ 0 then bit else 0) := by
  unfold recordInterruptSource
  dsimp only
  split_ifs with hon
  · by_cases hr : p.setDlCfgInt p.bitDmpIntEn = .success
    · simp [andThen, setDlCfgInt, hr, hon, or_and_not_self, or_and_self]
    · simp [andThen, setDlCfgInt, hr]
  all_goals simp [hon, and_not_and_not_self, and_not_and_self]

/-- The shared body has the effect of its recording step: the write after it touches neither
the library state nor the sources. -/
theorem interruptSourceBody_sources (p : Platform) (bit : BitVec 32) (key : DmpKey)
    (onByte onOff : UInt8) (st : MlState) :
    (interruptSourceBody p bit key onByte onOff st).2.state = st.state ∧
    (interruptSourceBody p bit key onByte onOff st).2.interruptSources &&& ~~~bit =
      st.interruptSources &&& ~~~bit ∧
    ((interruptSourceBody p bit key onByte onOff st).1 = .success →
      (interruptSourceBody p bit key onByte onOff st).2.interruptSources &&& bit =
        if onOff ≠ 0 then bit else 0) := by
  obtain ⟨h1, h2, h3⟩ := recordInterruptSource_sources p bit onOff st
  unfold interruptSourceBody andThen
  by_cases hr : (recordInterruptSource p bit onOff st).1 ≠ .success
  · rw [if_pos hr]
    exact ⟨h1, h2, h3⟩
  · rw [if_neg hr]
    exact ⟨h1, h2, fun _ => h3 (not_not.1 hr)⟩

/-! ### The source record stays consistent -/

/-- The three sources the setters record. -/
def interruptSourceBits (p : Platform) : BitVec 32 :=
  p.invIntMotion ||| p.invIntFifo ||| p.invIntDmpDr

/-- The interrupt-source record holds only the three sources, and the DMP interrupt is
enabled while one of them is recorded. -/
structure SourcesConsistent (p : Platform) (st : MlState) : Prop where
  only_sources : st.interruptSources &&& ~~~(interruptSourceBits p) = 0
  enabled : st.interruptSources ≠ 0 → st.dlCfgInt = p.bitDmpIntEn

/-- A state with no recorded source is consistent. -/
theorem SourcesConsistent.of_zero {p : Platform} {st : MlState} (h : st.interruptSources = 0) :
    SourcesConsistent p st :=
  ⟨by rw [h]; exact BitVec.zero_and, fun hne => absurd h hne⟩

/-- A DMP write keeps the sources consistent. -/
theorem SourcesConsistent.setMpuMemory {p : Platform} {st : MlState} (h : SourcesConsistent p st)
    (key : DmpKey) (b : List UInt8) : SourcesConsistent p (setMpuMemory p key b st).2 :=
  ⟨h.only_sources, h.enabled⟩

section Step

variable {p : Platform} {bit : BitVec 32} (hbit : bit &&& ~~~(interruptSourceBits p) = 0)
include hbit

/-- Recording a source bit of the library keeps the sources consistent. -/
theorem recordInterruptSource_consistent (onOff : UInt8) {st : MlState}
    (h : SourcesConsistent p st) : SourcesConsistent p (recordInterruptSource p bit onOff st).2 := by
  unfold recordInterruptSource
  dsimp only
  split_ifs with hon hz
  · by_cases hr : p.setDlCfgInt p.bitDmpIntEn = .success
    · simp only [andThen, setDlCfgInt, hr, if_true, ne_eq, not_true_eq_false, if_false]
      exact ⟨or_and_not_eq_zero h.only_sources hbit, fun _ => rfl⟩
    · simp only [andThen, setDlCfgInt, hr, if_false, ne_eq, not_false_eq_true, if_true]
      exact h
  · exact SourcesConsistent.of_zero (by rw [setDlCfgInt_interruptSources]; exact hz)
  · exact ⟨and_not_and_not_eq_zero h.only_sources,
      fun hne => h.enabled (ne_zero_of_and_ne_zero hne)⟩

/-- An interrupt call on a source bit of the library keeps the sources consistent. -/
theorem interruptSourceBody_consistent (key : DmpKey) (onByte onOff : UInt8) {st : MlState}
    (h : SourcesConsistent p st) :
    SourcesConsistent p (interruptSourceBody p bit key onByte onOff st).2 := by
  have h1 := recordInterruptSource_consistent hbit onOff h
  unfold interruptSourceBody andThen
  split_ifs <;> first | exact h1 | exact h1.setMpuMemory _ _

end Step

/-- A call of one of the interrupt-source setters. -/
inductive InterruptCall
  | motion (onOff : UInt8)
  | fifo (onOff : UInt8)
  | dmpDr (onOff : UInt8)

/-- The source a call sets or clears. -/
def InterruptCall.bit (p : Platform) : InterruptCall → BitVec 32
  | .motion _ => p.invIntMotion
  | .fifo _ => p.invIntFifo
  | .dmpDr _ => p.invIntDmpDr

/-- The `on` argument of a call. -/
def InterruptCall.onOff : InterruptCall → UInt8
  | .motion onOff | .fifo onOff | .dmpDr onOff => onOff

/-- One call. -/
def interruptStep (p : Platform) : InterruptCall → MlState → InvError × MlState
  | .motion onOff, st => invSetMotionInterrupt p onOff st
  | .fifo onOff, st => invSetFifoInterrupt p onOff st
  | .dmpDr onOff, st => invSetDmpDrInterrupt p onOff st

/-- Every interrupt call's bit is one of the library's source bits. -/
theorem InterruptCall.bit_and_not (p : Platform) (c : InterruptCall) :
    c.bit p &&& ~~~(interruptSourceBits p) = 0 := by
  cases c
  · exact and_not_or_of_and_not and_not_or_left
  · exact and_not_or_of_and_not and_not_or_right
  · exact and_not_or_right

/-- Every call keeps the source record consistent. -/
theorem interruptStep_consistent (p : Platform) (c : InterruptCall) {st : MlState}
    (h : SourcesConsistent p st) : SourcesConsistent p (interruptStep p c st).2 := by
  have hb := c.bit_and_not p
  cases c <;>
    simp only [interruptStep, invSetMotionInterrupt, invSetFifoInterrupt, invSetDmpDrInterrupt,
      setInterruptSource] at hb ⊢ <;>
    split_ifs <;>
    first | exact h | exact interruptSourceBody_consistent hb _ _ _ h

/-! ### What one call does to the sources -/

/-- Past the state check, `inv_get_interrupts` reports the source as the body left it. -/
theorem interruptSourceBody_getInterrupts (p : Platform) (bit : BitVec 32) (key : DmpKey)
    (onByte onOff : UInt8) {st : MlState} (hs : ¬st.state.toNat < InvState.dmpOpened.toNat) :
    (interruptSourceBody p bit key onByte onOff st).2.interruptSources &&& ~~~bit =
      st.interruptSources &&& ~~~bit ∧
    ((interruptSourceBody p bit key onByte onOff st).1 = .success →
      invGetInterrupts (interruptSourceBody p bit key onByte onOff st).2 &&& bit =
        if onOff ≠ 0 then bit else 0) := by
  obtain ⟨h1, h2, h3⟩ := interruptSourceBody_sources p bit key onByte onOff st
  refine ⟨h2, fun hr => ?_⟩
  rw [invGetInterrupts, if_neg (by rw [h1]; exact hs)]
  exact h3 hr

/-- An interrupt call keeps the other sources, and on success reports its own bit as `on_off` asks. -/
theorem setInterruptSource_getInterrupts (p : Platform) (bit : BitVec 32) (key : DmpKey)
    (onByte onOff : UInt8) (st : MlState) :
    (setInterruptSource p bit key onByte onOff st).2.interruptSources &&& ~~~bit =
      st.interruptSources &&& ~~~bit ∧
    ((setInterruptSource p bit key onByte onOff st).1 = .success →
      invGetInterrupts (setInterruptSource p bit key onByte onOff st).2 &&& bit =
        if onOff ≠ 0 then bit else 0) := by
  unfold setInterruptSource
  by_cases hs : st.state.toNat < InvState.dmpOpened.toNat
  · rw [if_pos hs]
    exact ⟨rfl, fun h => nomatch h⟩
  · rw [if_neg hs]
    exact interruptSourceBody_getInterrupts p bit key onByte onOff hs

/-- `inv_set_dmp_dr_interrupt` keeps the other sources, and on success reports its bit as `on_off` asks. -/
theorem invSetDmpDrInterrupt_getInterrupts (p : Platform) (onOff : UInt8) (st : MlState) :
    (invSetDmpDrInterrupt p onOff st).2.interruptSources &&& ~~~p.invIntDmpDr =
      st.interruptSources &&& ~~~p.invIntDmpDr ∧
    ((invSetDmpDrInterrupt p onOff st).1 = .success →
      invGetInterrupts (invSetDmpDrInterrupt p onOff st).2 &&& p.invIntDmpDr =
        if onOff ≠ 0 then p.invIntDmpDr else 0) := by
  unfold invSetDmpDrInterrupt
  by_cases hs : st.state.toNat < InvState.dmpOpened.toNat
  · rw [if_pos hs]
    exact ⟨rfl, fun h => nomatch h⟩
  rw [if_neg hs]
  by_cases hk : !p.dmpkeySupported .keyCfgDrInt
  · rw [if_pos hk]
    exact ⟨rfl, fun h => nomatch h⟩
  · rw [if_neg hk]
    exact interruptSourceBody_getInterrupts _ _ _ _ onOff hs

/-- Every call leaves the other sources as they were, whatever it returns. A call that
succeeds has turned its own source on or off as asked, and `inv_get_interrupts` reports it. -/
theorem interruptStep_sources (p : Platform) (c : InterruptCall) (st : MlState) :
    (interruptStep p c st).2.interruptSources &&& ~~~(c.bit p) =
      st.interruptSources &&& ~~~(c.bit p) ∧
    ((interruptStep p c st).1 = .success →
      invGetInterrupts (interruptStep p c st).2 &&& c.bit p =
        if c.onOff ≠ 0 then c.bit p else 0) := by
  cases c with
  | motion onOff => exact setInterruptSource_getInterrupts _ _ _ _ onOff st
  | fifo onOff => exact setInterruptSource_getInterrupts _ _ _ _ onOff st
  | dmpDr onOff => exact invSetDmpDrInterrupt_getInterrupts p onOff st

end InvensenseMpl
