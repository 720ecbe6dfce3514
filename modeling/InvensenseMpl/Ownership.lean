import InvensenseMpl.Session
import InvensenseMpl.Interrupts
import InvensenseMpl.BiasSources
import InvensenseMpl.MpuSensors
import InvensenseMpl.NoMotion
import InvensenseMpl.Mpu6050Config
import InvensenseMpl.Fusion

/-!
# Which entry points own which part of the state

The entry points of `ml.c` share `inv_obj`, but four parts of it each belong to one group of
them. The session (`inv_serial_start`, `inv_serial_stop`) owns the library state and the
serial handle (`MlState.sessionPart`). The interrupt-source setters (`ml.c:585–743`) own the
source record, the interrupt configuration and the DMP keys that configure the sources
(`MlState.interruptPart`). The switches of `ml.c:1123–1551` own the state callbacks.
`inv_apply_calibration` and `inv_set_accel_mounting` own the mounting scalars
`inv_gyro_orient` and `inv_accel_orient` (`MlState.mountPart`), which the calibration
functions decode.

This module proves that every entry point leaves the parts it does not own as they were:
one frame lemma per function, stated on `MlState.control`, the four parts together. The
frame of each function lists the DMP keys it writes, so that none of them configures an
interrupt source.
-/

namespace InvensenseMpl

/-! ### The parts -/

/-- `KEY_CFG_6`, `KEY_CFG_7` and `KEY_CFG_DR_INT`: the keys that configure the interrupt
sources. -/
def DmpKey.IsInterruptCfg : DmpKey → Bool
  | .keyCfg6 | .keyCfg7 | .keyCfgDrInt => true
  | _ => false

/-- What the session owns: `inv_get_state()` and the serial handle. -/
def MlState.sessionPart (st : MlState) : InvState × Bool := (st.state, st.serialHandleOpen)

/-- What the interrupt-source setters own: `interrupt_sources`, the interrupt configuration,
and the writes to the keys that configure the sources. -/
def MlState.interruptPart (st : MlState) : BitVec 32 × UInt8 × List (DmpKey × List UInt8) :=
  (st.interruptSources, st.dlCfgInt, st.dmpWrites.filter fun w => w.1.IsInterruptCfg)

/-- What `inv_apply_calibration` and `inv_set_accel_mounting` own: the mounting scalars. -/
def MlState.mountPart (st : MlState) : Nat × Nat := (st.gyroOrient, st.accelOrient)

/-- The parts owned by the session, the interrupt-source setters and the switches. -/
def MlState.modeParts (st : MlState) :
    (InvState × Bool) × (BitVec 32 × UInt8 × List (DmpKey × List UInt8)) ×
      List StateCallback :=
  (st.sessionPart, st.interruptPart, st.stateCallbacks)

/-- The four owned parts. -/
def MlState.control (st : MlState) :
    ((InvState × Bool) × (BitVec 32 × UInt8 × List (DmpKey × List UInt8)) ×
      List StateCallback) × (Nat × Nat) :=
  (st.modeParts, st.mountPart)

section Parts

variable {p : Platform}

/-- A write to a key that configures no source keeps the setters' part. -/
theorem interruptPart_setMpuMemory {key : DmpKey} (h : key.IsInterruptCfg = false)
    (b : List UInt8) (st : MlState) :
    (setMpuMemory p key b st).2.interruptPart = st.interruptPart := by
  simp [MlState.interruptPart, setMpuMemory, h]

/-- A write to a key that configures no source keeps the owned parts. -/
theorem control_setMpuMemory {key : DmpKey} (h : key.IsInterruptCfg = false) (b : List UInt8)
    (st : MlState) : (setMpuMemory p key b st).2.control = st.control := by
  rw [MlState.control, MlState.modeParts, interruptPart_setMpuMemory h]
  rfl

/-- Writes to keys of `keys`, none of which configures an interrupt source, keep the owned
parts. -/
theorem control_setMpuMemory_of_mem {keys : List DmpKey}
    (hk : ∀ k ∈ keys, k.IsInterruptCfg = false) :
    ∀ k ∈ keys, ∀ st b, (setMpuMemory p k b st).2.control = st.control :=
  fun k h st b => control_setMpuMemory (hk k h) b st

/-- Session consistency depends on the session's part only. -/
theorem SessionConsistent.of_sessionPart {st st' : MlState} (h : SessionConsistent st)
    (he : st'.sessionPart = st.sessionPart) : SessionConsistent st' := by
  simp only [MlState.sessionPart, Prod.mk.injEq] at he
  simpa only [SessionConsistent, he] using h

/-- Source consistency depends on the setters' part only. -/
theorem SourcesConsistent.of_interruptPart {st st' : MlState} (h : SourcesConsistent p st)
    (he : st'.interruptPart = st.interruptPart) : SourcesConsistent p st' := by
  simp only [MlState.interruptPart, Prod.mk.injEq] at he
  exact ⟨he.1 ▸ h.only_sources, fun hne => he.2.1 ▸ h.enabled (he.1 ▸ hne)⟩

end Parts

/-! ### The owners keep the other parts -/

section Owners

variable (p : Platform)

/-- The session changes only the library state and the serial handle. -/
theorem sessionStep_parts (c : SessionCall) (st : MlState) :
    (sessionStep p c st).2.interruptPart = st.interruptPart ∧
      (sessionStep p c st).2.stateCallbacks = st.stateCallbacks ∧
      (sessionStep p c st).2.mountPart = st.mountPart := by
  let f := fun st : MlState => (st.interruptPart, st.stateCallbacks, st.mountPart)
  have transition : ∀ s (st : MlState), f (stateTransition p s st).2 = f st := fun s st => by
    unfold stateTransition; dsimp only; split_ifs <;> rfl
  suffices f (sessionStep p c st).2 = f st by simpa [f] using this
  cases c with
  | start =>
    show f (invSerialStart p st).2 = f st
    unfold invSerialStart
    split_ifs
    · rfl
    refine andThen_keeps f (transition _ _) fun st h => ?_
    dsimp only
    split_ifs
    exacts [(transition _ _).trans h, h]
  | stop =>
    show f (invSerialStop p st).2 = f st
    unfold invSerialStop
    dsimp only
    split_ifs
    exacts [rfl, transition _ _, transition _ _]

/-- The setters change only the source record, the interrupt configuration and their keys. -/
theorem interruptStep_parts (c : InterruptCall) (st : MlState) :
    (interruptStep p c st).2.sessionPart = st.sessionPart ∧
      (interruptStep p c st).2.stateCallbacks = st.stateCallbacks ∧
      (interruptStep p c st).2.mountPart = st.mountPart := by
  let f := fun st : MlState => (st.sessionPart, st.stateCallbacks, st.mountPart)
  have body : ∀ bit key onByte onOff (st : MlState),
      f (interruptSourceBody p bit key onByte onOff st).2 = f st := by
    intro bit key onByte onOff st
    refine andThen_keeps f ?_ fun _ h => h
    unfold recordInterruptSource setDlCfgInt
    split_ifs <;> simp only [andThen] <;> split_ifs <;> rfl
  suffices f (interruptStep p c st).2 = f st by simpa [f] using this
  cases c <;>
    simp only [interruptStep, invSetMotionInterrupt, invSetFifoInterrupt, invSetDmpDrInterrupt,
      setInterruptSource] <;>
    split_ifs <;> first | rfl | exact body ..

/-- The switches change only the state callbacks, the gyro data source and the writes to
`KEY_D_0_163` and `KEY_FCFG_5`. -/
theorem biasStep_parts (c : BiasCall) (st : MlState) :
    (biasStep p c st).2.sessionPart = st.sessionPart ∧
      (biasStep p c st).2.interruptPart = st.interruptPart ∧
      (biasStep p c st).2.mountPart = st.mountPart := by
  let f := fun st : MlState => (st.sessionPart, st.interruptPart, st.mountPart)
  have sync : ∀ cb k (st : MlState), f (syncStateCallback p cb k st).2 = f st := by
    intro cb k st
    unfold syncStateCallback checkStateCallback registerStateCallback unregisterStateCallback
    dsimp only
    split_ifs <;> rfl
  have source : ∀ s (st : MlState), f (setGyroDataSource p s st).2 = f st := by
    intro s st
    unfold setGyroDataSource
    dsimp only
    split_ifs <;> rfl
  have write : ∀ key, key.IsInterruptCfg = false → ∀ b (st : MlState),
      f (setMpuMemory p key b st).2 = f st :=
    fun key h b st => by simp only [f, interruptPart_setMpuMemory h]; rfl
  suffices f (biasStep p c st).2 = f st by simpa [f] using this
  cases c <;>
    simp only [biasStep, invSetDeadZoneHigh, invSetDeadZoneZero, setDeadZoneFixed,
      invSetDeadZoneNormal, invEnableBiasFromLPF, invDisableBiasFromLPF, invEnableBiasFromGravity,
      invDisableBiasFromGravity]
  all_goals first
    | exact andThen_keeps f (sync _ _ _) fun st h => (write _ (by rfl) _ st).trans h
    | exact andThen_keeps f (source _ _) fun st h => (sync _ _ st).trans h

end Owners

/-! ### The other entry points keep all four parts -/

section Others

variable (p : Platform)

/-- `inv_reset_motion` writes `KEY_D_1_106`, `KEY_D_1_96`, `KEY_D_0_96` and `KEY_D_2_96`. -/
theorem invResetMotion_control (st : MlState) : (invResetMotion p st).2.control = st.control := by
  unfold invResetMotion
  refine andThen_keeps _ (control_setMpuMemory (by rfl) _ _) fun st h => ?_
  refine andThen_keeps _ ((control_setMpuMemory (by rfl) _ _).trans h) fun st h => ?_
  refine andThen_keeps _ ((control_setMpuMemory (by rfl) _ _).trans h) fun st h => ?_
  refine andThen_keeps _ ?_ fun st h => h
  split
  · exact (control_setMpuMemory (by rfl) _ _).trans h
  · exact h

/-- `inv_set_no_motion_thresh` writes no owned part. -/
theorem invSetNoMotionThresh_control (tmp : Int) (st : MlState) :
    (invSetNoMotionThresh p tmp st).2.control = st.control := by
  unfold invSetNoMotionThresh
  split_ifs
  · rfl
  · rfl
  · exact andThen_keeps _ (control_setMpuMemory (by rfl) _ _) fun st h =>
      (invResetMotion_control p st).trans h

/-- `inv_set_no_motion_time` writes no owned part. -/
theorem invSetNoMotionTime_control (tmp : Int) (st : MlState) :
    (invSetNoMotionTime p tmp st).2.control = st.control := by
  unfold invSetNoMotionTime
  split_ifs
  · rfl
  · rfl
  · exact andThen_keeps _ (control_setMpuMemory (by rfl) _ _) fun st h =>
      (invResetMotion_control p st).trans h

/-- `inv_set_mpu_6050_config` writes `KEY_D_ACT0` and `KEY_D_ACS*`. -/
theorem invSetMpu6050Config_control (cfg : MldlCfg) (st : MlState) {r : InvError × MlState}
    (h : invSetMpu6050Config p cfg st = .ok r) : r.2.control = st.control := by
  unfold invSetMpu6050Config at h
  dsimp only at h
  split_ifs at h
  · cases h
    rfl
  obtain ⟨_, -, rfl⟩ := except_map_eq_ok h
  refine andThen_keeps _ (control_setMpuMemory (by rfl) _ _) fun st h => ?_
  refine andThen_keeps _ ((control_setMpuMemory (by rfl) _ _).trans h) fun st h => ?_
  exact andThen_keeps _ ((control_setMpuMemory (by rfl) _ _).trans h) fun st h =>
    (control_setMpuMemory (by rfl) _ _).trans h

/-- `inv_apply_endian_accel` writes no owned part. -/
theorem invApplyEndianAccel_control (cfg : MldlCfg) (st : MlState) {r : InvError × MlState}
    (h : invApplyEndianAccel p cfg st = .ok r) : r.2.control = st.control := by
  unfold invApplyEndianAccel at h
  split at h
  · cases h
    rfl
  · split at h
    · cases h
    · cases h
      exact control_setMpuMemory (by rfl) _ _

/-- `inv_freescale_sensor_fusion_8bit` writes no owned part. -/
theorem invFreescaleSensorFusion8bit_control (st : MlState) {r : InvError × MlState}
    (h : invFreescaleSensorFusion8bit p st = .ok r) : r.2.control = st.control := by
  rw [invFreescaleSensorFusion8bit_write] at h
  cases h
  exact control_setMpuMemory (by rfl) _ _

/-- Taking the interrupt triggers writes no owned part. -/
theorem takeTriggers_control (st : MlState) : (takeTriggers p st).2.control = st.control := by
  unfold takeTriggers clearInterruptTrigger
  dsimp only
  split_ifs <;> rfl

/-- `inv_update_data` writes no owned part. -/
theorem invUpdateData_control {α : Type} {m : Nat} (cfg : MldlCfg) (cbs : CallbackInterrupt α m)
    (st : MlState) {r : InvError × List α × MlState} (h : invUpdateData p cfg cbs st = .ok r) :
    r.2.2.control = st.control := by
  unfold invUpdateData at h
  by_cases h1 : st.state ≠ .dmpStarted
  · rw [if_pos h1] at h
    cases h
    rfl
  rw [if_neg h1] at h
  dsimp only at h
  by_cases h2 : p.readAndProcessFifo (fifoTries p cfg) ≠ .success
  · rw [if_pos h2] at h
    cases h
    rfl
  rw [if_neg h2] at h
  rcases htk : takeTriggers p st with ⟨b, st'⟩
  have hc : st'.control = st.control := by rw [← takeTriggers_control p st, htk]
  rw [htk] at h
  dsimp only at h
  split at h
  · obtain ⟨_, -, h⟩ := except_bind_eq_ok h
    cases h
    exact hc
  · cases h
    exact hc

/-- `inv_gyro_dmp_cal` writes `KEY_FCFG_1`, `KEY_FCFG_3` and `KEY_D_0_104`. -/
theorem invGyroDmpCal_control (cfg : MldlCfg) (st : MlState) {r : InvError × MlState}
    (h : invGyroDmpCal p cfg st = .ok r) : r.2.control = st.control :=
  invGyroDmpCal_keeps _ p (control_setMpuMemory_of_mem (by decide)) (fun _ _ _ => rfl) cfg st r h

/-- `inv_accel_dmp_cal` writes `KEY_D_1_152`, `KEY_FCFG_2`, `KEY_FCFG_7` and `KEY_D_0_108`. -/
theorem invAccelDmpCal_control (cfg : MldlCfg) (st : MlState) {r : InvError × MlState}
    (h : invAccelDmpCal p cfg st = .ok r) : r.2.control = st.control :=
  invAccelDmpCal_keeps _ p (control_setMpuMemory_of_mem (by decide)) cfg st r h

/-- `inv_gyro_var_cal` writes no key. -/
theorem invGyroVarCal_control (cfg : MldlCfg) (st : MlState) {r : InvError × MlState}
    (h : invGyroVarCal p cfg st = .ok r) : r.2.control = st.control := by
  obtain ⟨_, _, _, _, hr⟩ := invGyroVarCal_frame h
  rw [hr]
  rfl

/-- `inv_accel_var_cal` writes no key. -/
theorem invAccelVarCal_control (st : MlState) {r : InvError × MlState}
    (h : invAccelVarCal st = .ok r) : r.2.control = st.control := by
  obtain ⟨_, hr⟩ := invAccelVarCal_frame h
  rw [hr]
  rfl

/-- `inv_set_compass_calibration` writes `KEY_CPASS_MTX_*`. -/
theorem invSetCompassCalibration_control (orientation : Mount) (st : MlState) :
    (invSetCompassCalibration p orientation st).2.control = st.control :=
  invSetCompassCalibration_keeps _ (fun _ _ _ => control_setMpuMemory (by rfl) _ _) _ st

/-- A property that every call of `inv_apply_calibration` keeps holds after it: each callee
keeps the owned parts, and the function itself sets only the sensitivity, the gyro scalar and
the accelerometer mounting. -/
theorem invApplyCalibration_holds (P : MlState → Prop) (cfg : MldlCfg)
    (hkeep : ∀ {st st' : MlState}, st'.control = st.control → P st → P st')
    (hgyro : ∀ st : MlState, P st →
      P { st with gyroOrient := invOrientationMatrixToScalar cfg.gyroOrientation })
    (hmount : ∀ st, P st → P (invSetAccelMounting (cfg.accelPdataOrientation.getD fun _ => 0) st))
    {st : MlState} (hP : P st) {r : InvError × MlState} (h : invApplyCalibration p cfg st = .ok r) :
    P r.2 := by
  have step : ∀ {x : Except Fault (InvError × MlState)} {st : MlState},
      (∀ r, x = .ok r → r.2.control = st.control) → P st → ∀ r, x = .ok r → P r.2 :=
    fun hx hs r hr => hkeep (hx r hr) hs
  unfold invApplyCalibration at h
  obtain ⟨_, h1, h⟩ := except_bind_eq_ok h
  obtain ⟨s, rfl⟩ := applyAccelSens_frame h1
  have hs : P { st with accelSens := s } := @hkeep st _ rfl hP
  split at h
  · cases h
  split at h
  · cases h
    exact hs
  refine thenCal_holds P (step (fun _ => invGyroDmpCal_control p cfg _) (hgyro _ hs))
    (fun st h2 => thenCal_holds P (step (fun _ => invGyroVarCal_control p cfg st) h2)
      fun st h3 => thenCal_holds P
        (step (fun _ => invAccelDmpCal_control p cfg (invSetAccelMounting _ st)) (hmount st h3))
      fun st h4 => thenCal_holds P (step (fun _ => invAccelVarCal_control st) h4)
      fun st h5 r hr => ?_) r h
  split at hr <;> cases hr
  · exact hkeep (invSetCompassCalibration_control p _ st) h5
  · exact h5

/-- `inv_apply_calibration` sets the mounting scalars, and writes the keys of
`inv_gyro_dmp_cal` and `inv_accel_dmp_cal`, and `KEY_CPASS_MTX_*`. -/
theorem invApplyCalibration_modeParts (cfg : MldlCfg) (st : MlState) {r : InvError × MlState}
    (h : invApplyCalibration p cfg st = .ok r) : r.2.modeParts = st.modeParts :=
  invApplyCalibration_holds p (fun st' => st'.modeParts = st.modeParts) cfg
    (fun hc hs => (congrArg Prod.fst hc).trans hs) (fun _ hs => hs) (fun _ hs => hs) rfl h

/-- The first writes of `inv_set_mpu_sensors` touch no owned part. -/
theorem sensorsPrepare_control (cfg : MldlCfg) (sensors : Nat) (st : MlState) :
    (sensorsPrepare p cfg sensors st).2.control = st.control := by
  unfold sensorsPrepare dmpTurnOn
  refine andThen_keeps _ ?_ fun st h => ?_
  · split
    · exact andThen_keeps _ rfl fun _ h => andThen_keeps _ h fun _ h => h
    · rfl
  · split <;> exact h

/-- The accel `KEY_FCFG_2` write of `inv_set_mpu_sensors` touches no owned part. -/
theorem accelFcfg2Write_control (cfg : MldlCfg) (sensors : Nat) (st : MlState)
    {w : Option InvError × MlState} (h : accelFcfg2Write p cfg sensors st = .ok w) :
    w.2.control = st.control := by
  unfold accelFcfg2Write at h
  split at h
  · cases h
    rfl
  split_ifs at h
  · cases h
    rfl
  split at h
  · cases h
  obtain ⟨_, -, h⟩ := except_bind_eq_ok h
  cases h
  exact @control_setMpuMemory p _ (by rfl) _ _

/-- The closing writes of `inv_set_mpu_sensors` touch no owned part. -/
theorem sensorsResume_control (cfg : MldlCfg) (sensors : Nat) (started : Bool)
    (result : InvError) (st : MlState) :
    (sensorsResume p cfg sensors started result st).2.control = st.control := by
  have hr : (if started then dmpRestart p sensors st else (result, st)).2.control =
      st.control := by
    split
    · exact andThen_keeps _ rfl fun st h =>
        andThen_keeps _ ((invResetMotion_control p st).trans h) fun _ h => h
    · rfl
  unfold sensorsResume
  generalize (if started then dmpRestart p sensors st else (result, st)) = r at hr ⊢
  dsimp only
  split_ifs <;> exact hr

/-- `inv_set_mpu_sensors` writes `KEY_FCFG_2` and, through `inv_reset_motion`, the keys of the
reset. -/
theorem invSetMpuSensors_control (cfg : MldlCfg) (sensors : Nat) (st : MlState)
    {r : InvError × MldlCfg × MlState} (h : invSetMpuSensors p cfg sensors st = .ok r) :
    r.2.2.control = st.control := by
  unfold invSetMpuSensors at h
  split_ifs at h
  · cases h
    rfl
  split at h
  · cases h
    rfl
  dsimp only at h
  split_ifs at h
  · cases h
    exact sensorsPrepare_control p cfg sensors st
  obtain ⟨w, hw, h⟩ := except_bind_eq_ok h
  cases h
  exact ((sensorsResume_control p cfg sensors _ _ _).trans
    (accelFcfg2Write_control p cfg sensors _ hw)).trans (sensorsPrepare_control p cfg sensors st)

end Others

end InvensenseMpl
