import InvensenseMpl.DmpCal
import InvensenseMpl.ResetMotion
import InvensenseMpl.ApplyCalibration

/-!
# Turning the sensors on and off

`inv_set_mpu_sensors` (`ml.c:1958–2104`) takes a bit mask of the axes to run. It accepts a
three-axis group (accelerometer, compass, pressure) only whole, and only when the platform
data describes the group's slave. `sensorsError` is that check; the masks it accepts are
exactly those of `SensorsWellFormed` (`sensorsError_eq_none_iff`). A rejected mask changes
nothing, and every mask the call accepts is well formed and becomes `requested_sensors`.

An accepted mask then resumes the accelerometer when the DMP turns on, tells the mode-change
callback, programs the accelerometer axes into `KEY_FCFG_2`, records the mask and, when the DMP
runs, restarts it around `inv_reset_motion`. Two things are not checked. The result of the
`KEY_FCFG_2` write is replaced by a later one whenever the DMP is started, so a failed write
is reported as `INV_SUCCESS`. And `slave[EXT_SLAVE_TYPE_ACCEL]` is read whenever the platform
data has an accelerometer, so accelerometer data without a slave faults; with a slave and a
nonzero entry in each row of its mounting matrix, the call never faults.
-/

namespace InvensenseMpl

/-! ### The mask check -/

/-- The two checks of one three-axis group (`ml.c:1967–1974`, and again for the compass at
`1976–1983` and the pressure sensor at `1985–1992`): a part of a group is not implemented,
and a requested group needs its platform data. -/
def sensorGroupError (sensors mask : Nat) (present : Bool) : Option InvError :=
  if sensors &&& mask ≠ mask ∧ sensors &&& mask ≠ 0 then some .errorFeatureNotImplemented
  else if sensors &&& mask ≠ 0 ∧ present = false then some .errorSerialDeviceNotRecognized
  else none

/-- The checks of `inv_set_mpu_sensors` (`ml.c:1967–1992`): the first group error. -/
def sensorsError (p : Platform) (cfg : MldlCfg) (sensors : Nat) : Option InvError :=
  sensorGroupError sensors p.invThreeAxisAccel cfg.accelPdataOrientation.isSome <|>
  sensorGroupError sensors p.invThreeAxisCompass cfg.compassPdataOrientation.isSome <|>
  sensorGroupError sensors p.invThreeAxisPressure cfg.pressurePdataPresent

/-- A group is off, or whole with its slave described by the platform data. -/
def GroupWellFormed (sensors mask : Nat) (present : Bool) : Prop :=
  sensors &&& mask = 0 ∨ sensors &&& mask = mask ∧ present = true

/-- Whether a group is well formed is computed. -/
instance (sensors mask : Nat) (present : Bool) : Decidable (GroupWellFormed sensors mask present) :=
  inferInstanceAs (Decidable (_ ∨ _))

/-- Every three-axis group of `sensors` is off, or whole with its slave described. -/
def SensorsWellFormed (p : Platform) (cfg : MldlCfg) (sensors : Nat) : Prop :=
  GroupWellFormed sensors p.invThreeAxisAccel cfg.accelPdataOrientation.isSome ∧
  GroupWellFormed sensors p.invThreeAxisCompass cfg.compassPdataOrientation.isSome ∧
  GroupWellFormed sensors p.invThreeAxisPressure cfg.pressurePdataPresent

/-- Whether a sensor mask is well formed is computed. -/
instance (p : Platform) (cfg : MldlCfg) (sensors : Nat) :
    Decidable (SensorsWellFormed p cfg sensors) :=
  inferInstanceAs (Decidable (_ ∧ _))

/-! ### The request -/

/-- A call of `inv_set_mpu_sensors` into another layer: recorded, with its result. -/
def mpuCall (p : Platform) (c : MpuCall) (st : MlState) : InvError × MlState :=
  (p.mpuCall c, { st with mpuCalls := st.mpuCalls ++ [c] })

/-- `config.apply` (`ml.c:2002–2003`, `2091–2092`): the accelerometer is not suspended. -/
def accelApply (p : Platform) (cfg : MldlCfg) : Bool :=
  cfg.mpuStatus &&& p.mpuAccelIsSuspended = 0

/-- The accelerometer resume when the DMP turns on (`ml.c:1995–2025`); the result of
`inv_init_fifo_hardare` is not read. -/
def dmpTurnOn (p : Platform) (cfg : MldlCfg) (st : MlState) : InvError × MlState :=
  andThen (mpuCall p (.configAccel .odrResume (accelApply p cfg) (p.samplingRateHz * 1000)) st)
    fun st =>
  andThen (mpuCall p (.configAccel .irqResume (accelApply p cfg) p.mpuSlaveIrqTypeNone) st)
    fun st => (.success, (mpuCall p .initFifoHardware st).2)

/-- The calls of `inv_set_mpu_sensors` before it programs the accelerometer
(`ml.c:1994–2033`): the resume when the DMP turns on, then the mode-change callback. -/
def sensorsPrepare (p : Platform) (cfg : MldlCfg) (sensors : Nat) (st : MlState) :
    InvError × MlState :=
  andThen (if sensors &&& p.invDmpProcessor ≠ 0 ∧ cfg.requestedSensors &&& p.invDmpProcessor = 0
    then dmpTurnOn p cfg st else (.success, st)) fun st =>
  if p.advFeaturesEnabled ∧ st.modeChangeCbSet = true
  then mpuCall p (.modeChange cfg.requestedSensors sensors) st else (.success, st)

/-- `inv_set_mode_change` (`ml.c:2106–2110`): whether the new `mode_change_cb` is non-NULL. -/
def invSetModeChange (set : Bool) (st : MlState) : MlState :=
  { st with modeChangeCbSet := set }

/-- The `inv_mpu6050_accel` mode of `inv_set_mpu_sensors` (`ml.c:2040–2048`). -/
def accelMode (p : Platform) (sensors id : Nat) : Int :=
  if p.accelIdMpu6050 = id then 0 else if sensors &&& p.invThreeAxisCompass ≠ 0 then 1 else 2

/-- The `KEY_FCFG_2` write of `inv_set_mpu_sensors` (`ml.c:2035–2051`): its result, or
`none` when nothing is written. `slave[EXT_SLAVE_TYPE_ACCEL]->id` is read without a check. -/
def accelFcfg2Write (p : Platform) (cfg : MldlCfg) (sensors : Nat) (st : MlState) :
    Except Fault (Option InvError × MlState) :=
  match cfg.accelPdataOrientation with
  | none => .ok (none, st)
  | some mount =>
    if sensors &&& p.invThreeAxisAccel = 0 then .ok (none, st) else
    match cfg.accelSlaveId with
    | none => .error .nullDereference
    | some id => do
      let regs ← invMpu6050Accel p.dina (invOrientationMatrixToScalar mount)
        (accelMode p sensors id)
      let r := setMpuMemory p .keyFcfg2 (List.ofFn regs) st
      return (some r.1, r.2)

/-- The restart of a running DMP (`ml.c:2056–2071`). -/
def dmpRestart (p : Platform) (sensors : Nat) (st : MlState) : InvError × MlState :=
  andThen (mpuCall p (.dlStart sensors) st) fun st =>
  andThen (invResetMotion p st) fun st =>
  mpuCall p (.dlStopAllBut sensors) st

/-- What `inv_set_mpu_sensors` does once it has recorded the mask (`ml.c:2055–2103`), from
the result `result` it has so far; the result of `inv_set_fifo_rate` is not read. -/
def sensorsResume (p : Platform) (cfg : MldlCfg) (sensors : Nat) (started : Bool)
    (result : InvError) (st : MlState) : InvError × MlState :=
  let r := if started then dmpRestart p sensors st else (result, st)
  if started ∧ r.1 ≠ .success then r else
  let dmp := sensors &&& p.invDmpProcessor ≠ 0
  let accel := sensors &&& p.invThreeAxisAccel ≠ 0
  let st := if accel ∨ dmp then (mpuCall p (.setFifoRate 0xffff) r.2).2 else r.2
  if ¬dmp ∧ accel then
    mpuCall p (.configAccel .irqResume (accelApply p cfg) p.mpuSlaveIrqTypeDataReady) st
  else (r.1, st)

/-- `inv_set_mpu_sensors` (`ml.c:1958–2104`): its result, the configuration with its
`requested_sensors`, and the state. -/
def invSetMpuSensors (p : Platform) (cfg : MldlCfg) (sensors : Nat) (st : MlState) :
    Except Fault (InvError × MldlCfg × MlState) :=
  if st.state.toNat < InvState.dmpOpened.toNat then .ok (.errorSmImproperState, cfg, st) else
  match sensorsError p cfg sensors with
  | some e => .ok (e, cfg, st)
  | none =>
    let r := sensorsPrepare p cfg sensors st
    if r.1 ≠ .success then .ok (r.1, cfg, r.2) else do
    let w ← accelFcfg2Write p cfg sensors r.2
    let r := sensorsResume p cfg sensors (st.state = .dmpStarted) (w.1.getD .success) w.2
    return (r.1, { cfg with requestedSensors := sensors }, r.2)

/-! ### Accepted masks -/

/-- A group's checks pass exactly when it is well formed. -/
theorem sensorGroupError_eq_none_iff (sensors mask : Nat) (present : Bool) :
    sensorGroupError sensors mask present = none ↔ GroupWellFormed sensors mask present := by
  unfold sensorGroupError GroupWellFormed
  by_cases h0 : sensors &&& mask = 0 <;> by_cases hm : sensors &&& mask = mask <;>
    cases present <;> simp [h0, hm]

/-- A group's checks never report success as an error. -/
theorem sensorGroupError_ne_success (sensors mask : Nat) (present : Bool) :
    sensorGroupError sensors mask present ≠ some .success := by
  unfold sensorGroupError
  split_ifs <;> simp

/-- The checks accept exactly the well-formed masks. -/
theorem sensorsError_eq_none_iff (p : Platform) (cfg : MldlCfg) (sensors : Nat) :
    sensorsError p cfg sensors = none ↔ SensorsWellFormed p cfg sensors := by
  simp only [sensorsError, SensorsWellFormed, ← sensorGroupError_eq_none_iff]
  rcases sensorGroupError sensors p.invThreeAxisAccel _ with _ | e <;>
    rcases sensorGroupError sensors p.invThreeAxisCompass _ with _ | e' <;> simp

/-- The sensor checks never report success as an error. -/
theorem sensorsError_ne_success (p : Platform) (cfg : MldlCfg) (sensors : Nat) :
    sensorsError p cfg sensors ≠ some .success := by
  have h1 := sensorGroupError_ne_success sensors p.invThreeAxisAccel
    cfg.accelPdataOrientation.isSome
  have h2 := sensorGroupError_ne_success sensors p.invThreeAxisCompass
    cfg.compassPdataOrientation.isSome
  have h3 := sensorGroupError_ne_success sensors p.invThreeAxisPressure cfg.pressurePdataPresent
  unfold sensorsError
  revert h1 h2
  rcases sensorGroupError sensors p.invThreeAxisAccel cfg.accelPdataOrientation.isSome
    with _ | e <;>
    rcases sensorGroupError sensors p.invThreeAxisCompass cfg.compassPdataOrientation.isSome
      with _ | e' <;> simp_all

/-- Whatever it returns, `inv_set_mpu_sensors` leaves the configuration as it was with an
error, or accepted the mask and recorded it as `requested_sensors`. -/
theorem invSetMpuSensors_cfg {p : Platform} {cfg cfg' : MldlCfg} {sensors : Nat}
    {st st' : MlState} {r : InvError} (h : invSetMpuSensors p cfg sensors st = .ok (r, cfg', st')) :
    cfg' = cfg ∧ r ≠ .success ∨ InvState.dmpOpened.toNat ≤ st.state.toNat ∧
      sensorsError p cfg sensors = none ∧ cfg' = { cfg with requestedSensors := sensors } := by
  unfold invSetMpuSensors at h
  by_cases hs : st.state.toNat < InvState.dmpOpened.toNat
  · rw [if_pos hs] at h
    cases h
    exact Or.inl ⟨rfl, by decide⟩
  rw [if_neg hs] at h
  rcases he : sensorsError p cfg sensors with _ | e <;> rw [he] at h
  · dsimp only at h
    by_cases hr : (sensorsPrepare p cfg sensors st).1 = .success
    · rw [if_neg (not_not.2 hr)] at h
      rcases hw : accelFcfg2Write p cfg sensors (sensorsPrepare p cfg sensors st).2 with _ | w <;>
        rw [hw] at h
      · cases h
      · cases h
        exact Or.inr ⟨by omega, rfl, rfl⟩
    · rw [if_pos hr] at h
      cases h
      exact Or.inl ⟨rfl, hr⟩
  · cases h
    exact Or.inl ⟨rfl, fun hr => sensorsError_ne_success p cfg sensors (hr ▸ he)⟩

/-- The error of a group that is not well formed: `INV_ERROR_SERIAL_DEVICE_NOT_RECOGNIZED` when
it is asked for whole, `INV_ERROR_FEATURE_NOT_IMPLEMENTED` when in part. -/
theorem sensorGroupError_of_malformed {sensors mask : Nat} {present : Bool}
    (h : ¬GroupWellFormed sensors mask present) :
    sensorGroupError sensors mask present = some (if sensors &&& mask = mask
      then .errorSerialDeviceNotRecognized else .errorFeatureNotImplemented) := by
  unfold GroupWellFormed at h
  unfold sensorGroupError
  by_cases hm : sensors &&& mask = mask <;> cases present <;> simp_all

/-- From `INV_STATE_DMP_OPENED` on, a mask that is not well formed is rejected with the error of
its first malformed group, in the order accelerometer, compass, pressure:
`INV_ERROR_FEATURE_NOT_IMPLEMENTED` for a group asked for in part, and
`INV_ERROR_SERIAL_DEVICE_NOT_RECOGNIZED` for a group asked for whole whose slave the platform
data does not describe. Neither the configuration nor the state changes. -/
theorem invSetMpuSensors_rejects_malformed (p : Platform) (cfg : MldlCfg) (sensors : Nat)
    (st : MlState) (hs : InvState.dmpOpened.toNat ≤ st.state.toNat)
    (hw : ¬SensorsWellFormed p cfg sensors) :
    invSetMpuSensors p cfg sensors st = .ok (
      let code := fun mask => if sensors &&& mask = mask then InvError.errorSerialDeviceNotRecognized
        else .errorFeatureNotImplemented
      if ¬GroupWellFormed sensors p.invThreeAxisAccel cfg.accelPdataOrientation.isSome then
        code p.invThreeAxisAccel
      else if ¬GroupWellFormed sensors p.invThreeAxisCompass cfg.compassPdataOrientation.isSome
      then code p.invThreeAxisCompass
      else code p.invThreeAxisPressure, cfg, st) := by
  unfold SensorsWellFormed at hw
  rw [invSetMpuSensors, if_neg (by omega), sensorsError]
  by_cases ha : GroupWellFormed sensors p.invThreeAxisAccel cfg.accelPdataOrientation.isSome
  · rw [(sensorGroupError_eq_none_iff _ _ _).2 ha, if_neg (not_not.2 ha)]
    by_cases hc : GroupWellFormed sensors p.invThreeAxisCompass cfg.compassPdataOrientation.isSome
    · rw [(sensorGroupError_eq_none_iff _ _ _).2 hc, if_neg (not_not.2 hc),
        sensorGroupError_of_malformed fun h => hw ⟨ha, hc, h⟩]
      rfl
    · rw [sensorGroupError_of_malformed hc, if_pos hc]
      rfl
  · rw [sensorGroupError_of_malformed ha, if_pos ha]
    rfl

/-- The accelerometer group asked for with its x axis only, and the compass group whole without
compass platform data: the accelerometer's error comes first. -/
theorem invSetMpuSensors_rejects_x_accel :
    InvState.dmpOpened.toNat ≤ ({ (default : MlState) with state := .dmpOpened }).state.toNat ∧
    ¬SensorsWellFormed Platform.sample default 0x390 ∧
    invSetMpuSensors Platform.sample default 0x390 { (default : MlState) with state := .dmpOpened } =
      .ok (.errorFeatureNotImplemented, default, { (default : MlState) with state := .dmpOpened }) :=
  ⟨by decide, by decide, (invSetMpuSensors_rejects_malformed _ _ _ _ (by decide) (by decide)).trans
    rfl⟩

/-- Every mask that `inv_set_mpu_sensors` accepts with `INV_SUCCESS` is well formed, and the
configuration it leaves has that mask as `requested_sensors` and nothing else changed. -/
theorem invSetMpuSensors_success_wellFormed (p : Platform) (cfg cfg' : MldlCfg) (sensors : Nat)
    (st st' : MlState) (h : invSetMpuSensors p cfg sensors st = .ok (.success, cfg', st')) :
    InvState.dmpOpened.toNat ≤ st.state.toNat ∧ SensorsWellFormed p cfg sensors ∧
      cfg' = { cfg with requestedSensors := sensors } := by
  rcases invSetMpuSensors_cfg h with ⟨-, hr⟩ | ⟨hs, he, hc⟩
  · exact absurd rfl hr
  · exact ⟨hs, (sensorsError_eq_none_iff p cfg sensors).1 he, hc⟩

/-- The whole accelerometer group `0x70`, on an identity-mounted slave with id 1. -/
theorem invSetMpuSensors_success_accel :
    ∃ st', invSetMpuSensors { (default : Platform) with invThreeAxisAccel := 0x70 }
        { (default : MldlCfg) with
          accelPdataOrientation := some ![1, 0, 0, 0, 1, 0, 0, 0, 1], accelSlaveId := some 1 }
        0x70 { (default : MlState) with state := .dmpOpened } =
        .ok (.success, { (default : MldlCfg) with
          accelPdataOrientation := some ![1, 0, 0, 0, 1, 0, 0, 0, 1], accelSlaveId := some 1,
          requestedSensors := 0x70 }, st') ∧
      InvState.dmpOpened.toNat ≤
        ({ (default : MlState) with state := .dmpOpened }).state.toNat ∧
      SensorsWellFormed { (default : Platform) with invThreeAxisAccel := 0x70 }
        { (default : MldlCfg) with
          accelPdataOrientation := some ![1, 0, 0, 0, 1, 0, 0, 0, 1], accelSlaveId := some 1 }
        0x70 ∧
      ({ (default : MldlCfg) with
          accelPdataOrientation := some ![1, 0, 0, 0, 1, 0, 0, 0, 1], accelSlaveId := some 1,
          requestedSensors := 0x70 } : MldlCfg) =
        { ({ (default : MldlCfg) with
          accelPdataOrientation := some ![1, 0, 0, 0, 1, 0, 0, 0, 1], accelSlaveId := some 1 } :
            MldlCfg) with requestedSensors := 0x70 } :=
  ⟨_, rfl, invSetMpuSensors_success_wellFormed _ _ _ _ _ _ rfl⟩

/-! ### Faults -/

/-- With an accelerometer slave wherever there is accelerometer platform data, and a nonzero
entry in each row of its matrix, the `KEY_FCFG_2` step does not fault. -/
theorem accelFcfg2Write_ok {p : Platform} {cfg : MldlCfg}
    (hslave : cfg.accelPdataOrientation.isSome → cfg.accelSlaveId.isSome)
    (hrows : ∀ m, cfg.accelPdataOrientation = some m → ∀ i, ∃ j, m.entry i j ≠ 0)
    (sensors : Nat) (st : MlState) : ∃ w, accelFcfg2Write p cfg sensors st = .ok w := by
  unfold accelFcfg2Write
  cases hpd : cfg.accelPdataOrientation with
  | none => exact ⟨_, rfl⟩
  | some m =>
    obtain ⟨id, hid⟩ := Option.isSome_iff_exists.1 (hslave (by rw [hpd]; rfl))
    obtain ⟨h0, h1, h2⟩ := scalar_fields_lt m (hrows m hpd)
    obtain ⟨regs, hr⟩ := invMpu6050Accel_ok h0 h1 h2 p.dina (accelMode p sensors id)
    split_ifs
    · exact ⟨_, rfl⟩
    · rw [hid]
      exact ⟨_, by simp only [hr, except_ok_bind]; rfl⟩

/-- A well-formed mask from `INV_STATE_DMP_OPENED` on, once the calls before the
accelerometer programming succeed: what is left of `inv_set_mpu_sensors`. -/
theorem invSetMpuSensors_of_accepted {p : Platform} {cfg : MldlCfg} {sensors : Nat}
    {st : MlState} (hs : InvState.dmpOpened.toNat ≤ st.state.toNat)
    (hw : SensorsWellFormed p cfg sensors) (hr : (sensorsPrepare p cfg sensors st).1 = .success) :
    invSetMpuSensors p cfg sensors st =
      accelFcfg2Write p cfg sensors (sensorsPrepare p cfg sensors st).2 >>= fun w =>
        let r := sensorsResume p cfg sensors (st.state = .dmpStarted) (w.1.getD .success) w.2
        .ok (r.1, { cfg with requestedSensors := sensors }, r.2) := by
  rw [invSetMpuSensors, if_neg (by omega), (sensorsError_eq_none_iff p cfg sensors).2 hw]
  exact if_neg (not_not.2 hr)

/-- An accelerometer in the mask, accelerometer platform data and no accelerometer slave:
the `KEY_FCFG_2` step dereferences the missing slave. -/
theorem accelFcfg2Write_null {p : Platform} {cfg : MldlCfg} {sensors : Nat}
    (hpd : cfg.accelPdataOrientation.isSome) (hid : cfg.accelSlaveId = none)
    (ha : sensors &&& p.invThreeAxisAccel ≠ 0) (st : MlState) :
    accelFcfg2Write p cfg sensors st = .error .nullDereference := by
  obtain ⟨m, hm⟩ := Option.isSome_iff_exists.1 hpd
  simp only [accelFcfg2Write, hm, if_neg ha, hid]

/-- When the accelerometer resumes and the mode-change callback succeed, so do the calls before
the accelerometer programming. -/
theorem sensorsPrepare_success {p : Platform}
    (hc : ∀ key apply data, p.mpuCall (.configAccel key apply data) = .success)
    (hm : ∀ requested sensors, p.mpuCall (.modeChange requested sensors) = .success)
    (cfg : MldlCfg) (sensors : Nat) (st : MlState) :
    (sensorsPrepare p cfg sensors st).1 = .success := by
  simp only [sensorsPrepare, dmpTurnOn, andThen, mpuCall, hc, ne_eq, not_true_eq_false, if_false]
  split_ifs <;> simp only [mpuCall, hm]

/-- When the platform data has an accelerometer slave wherever it has accelerometer data, and
each row of the accelerometer matrix a nonzero entry, `inv_set_mpu_sensors` never faults, for
every mask, every library state and whatever its calls return. -/
theorem invSetMpuSensors_ok (p : Platform) (cfg : MldlCfg) (sensors : Nat) (st : MlState)
    (hslave : cfg.accelPdataOrientation.isSome → cfg.accelSlaveId.isSome)
    (hrows : ∀ m, cfg.accelPdataOrientation = some m → ∀ i, ∃ j, m.entry i j ≠ 0) :
    ∃ r, invSetMpuSensors p cfg sensors st = .ok r := by
  unfold invSetMpuSensors
  by_cases hs : st.state.toNat < InvState.dmpOpened.toNat
  · exact ⟨_, if_pos hs⟩
  rw [if_neg hs]
  rcases sensorsError p cfg sensors with _ | e
  · dsimp only
    split_ifs
    · exact ⟨_, rfl⟩
    · obtain ⟨w, hw⟩ :=
        accelFcfg2Write_ok hslave hrows sensors (sensorsPrepare p cfg sensors st).2
      exact ⟨_, by rw [hw]; rfl⟩
  · exact ⟨_, rfl⟩

/-- With accelerometer platform data but no accelerometer slave, a well-formed mask with the
accelerometer faults from `INV_STATE_DMP_OPENED` on once the calls before the accelerometer
programming (the accelerometer resumes and the mode-change callback) succeed:
`slave[EXT_SLAVE_TYPE_ACCEL]->id` is read through a null pointer. -/
theorem invSetMpuSensors_null_accel_slave (p : Platform) (cfg : MldlCfg) (sensors : Nat)
    (st : MlState) (hs : InvState.dmpOpened.toNat ≤ st.state.toNat)
    (hw : SensorsWellFormed p cfg sensors) (hpd : cfg.accelPdataOrientation.isSome)
    (hid : cfg.accelSlaveId = none) (ha : sensors &&& p.invThreeAxisAccel ≠ 0)
    (hc : ∀ key apply data, p.mpuCall (.configAccel key apply data) = .success)
    (hm : ∀ requested sensors, p.mpuCall (.modeChange requested sensors) = .success) :
    invSetMpuSensors p cfg sensors st = .error .nullDereference := by
  rw [invSetMpuSensors_of_accepted hs hw (sensorsPrepare_success hc hm cfg sensors st),
    accelFcfg2Write_null hpd hid ha]
  rfl

/-- Identity accelerometer platform data without its slave, on the sample platform. -/
theorem invSetMpuSensors_null_accel_slave_identity :
    InvState.dmpOpened.toNat ≤ ({ (default : MlState) with state := .dmpOpened }).state.toNat ∧
    SensorsWellFormed Platform.sample
      { (default : MldlCfg) with accelPdataOrientation := some ![1, 0, 0, 0, 1, 0, 0, 0, 1] }
      0x70 ∧
    (0x70 &&& Platform.sample.invThreeAxisAccel ≠ 0) ∧
    invSetMpuSensors Platform.sample
      { (default : MldlCfg) with accelPdataOrientation := some ![1, 0, 0, 0, 1, 0, 0, 0, 1] } 0x70
      { (default : MlState) with state := .dmpOpened } = .error .nullDereference :=
  ⟨by decide, by decide, by decide,
    invSetMpuSensors_null_accel_slave _ _ _ _ (by decide) (by decide) rfl rfl (by decide)
      (fun _ _ _ => rfl) fun _ _ => rfl⟩

/-! ### The restart -/

/-- When the calls and the writes of a restart succeed, so does the restart; it keeps the
DMP writes made before it and leaves the motion state `INV_MOTION`. -/
theorem dmpRestart_success {p : Platform} (hc : ∀ c, p.mpuCall c = .success)
    (hw : ∀ k b, k ≠ .keyFcfg2 → p.setMpuMemory k b = .success)
    (hb : ∀ v, p.setGyroBiasInDps v = .success) (sensors : Nat) (st : MlState) :
    (dmpRestart p sensors st).1 = .success ∧
      st.dmpWrites <+: (dmpRestart p sensors st).2.dmpWrites ∧
      (dmpRestart p sensors st).2.motionState = p.invMotion := by
  obtain ⟨hmot, -, ws, hws, -⟩ := invResetMotion_writes p (mpuCall p (.dlStart sensors) st).2
  have h : dmpRestart p sensors st = mpuCall p (.dlStopAllBut sensors)
      (invResetMotion p (mpuCall p (.dlStart sensors) st).2).2 := by
    simp only [dmpRestart, andThen, mpuCall, hc, invResetMotion_success hw hb, ne_eq,
      not_true_eq_false, if_false]
  rw [h]
  exact ⟨hc _, ⟨ws, hws.symm⟩, hmot⟩

/-- With the DMP started and a restart that succeeds, the resume returns `INV_SUCCESS`
whatever result it is given, once its calls succeed; it changes nothing but the call log. -/
theorem sensorsResume_started {p : Platform} (hc : ∀ c, p.mpuCall c = .success) (cfg : MldlCfg)
    (sensors : Nat) (result : InvError) (st : MlState)
    (hr : (dmpRestart p sensors st).1 = .success) :
    (sensorsResume p cfg sensors true result st).1 = .success ∧ ∃ calls,
      (sensorsResume p cfg sensors true result st).2 =
        { (dmpRestart p sensors st).2 with mpuCalls := calls } := by
  simp only [sensorsResume, if_true, hr, true_and, ne_eq, not_true_eq_false, if_false]
  constructor
  · split_ifs <;> simp [mpuCall, hc, hr]
  · split_ifs <;> exact ⟨_, rfl⟩

/-- With the DMP started, a mask with the accelerometer, an accelerometer slave whose matrix
has a nonzero entry in each row, and every call and every other write succeeding,
`inv_set_mpu_sensors` writes the accelerometer axes to `KEY_FCFG_2` and returns
`INV_SUCCESS`, whatever that write returns: the restart replaces its result. It records the
mask and resets the motion. -/
theorem invSetMpuSensors_drops_fcfg2_result (p : Platform) (cfg : MldlCfg) (sensors : Nat)
    (st : MlState) (mount : Mount) (id : Nat) (hs : st.state = .dmpStarted)
    (hw : SensorsWellFormed p cfg sensors) (hpd : cfg.accelPdataOrientation = some mount)
    (hid : cfg.accelSlaveId = some id) (hrows : ∀ i, ∃ j, mount.entry i j ≠ 0)
    (ha : sensors &&& p.invThreeAxisAccel ≠ 0) (hc : ∀ c, p.mpuCall c = .success)
    (hmem : ∀ k b, k ≠ .keyFcfg2 → p.setMpuMemory k b = .success)
    (hb : ∀ v, p.setGyroBiasInDps v = .success) :
    ∃ regs st', invMpu6050Accel p.dina (invOrientationMatrixToScalar mount)
        (accelMode p sensors id) = .ok regs ∧
      invSetMpuSensors p cfg sensors st =
        .ok (.success, { cfg with requestedSensors := sensors }, st') ∧
      (.keyFcfg2, List.ofFn regs) ∈ st'.dmpWrites ∧ st'.motionState = p.invMotion := by
  obtain ⟨h0, h1, h2⟩ := scalar_fields_lt mount hrows
  obtain ⟨regs, hregs⟩ := invMpu6050Accel_ok h0 h1 h2 p.dina (accelMode p sensors id)
  let s := (setMpuMemory p .keyFcfg2 (List.ofFn regs) (sensorsPrepare p cfg sensors st).2).2
  have hwrite : accelFcfg2Write p cfg sensors (sensorsPrepare p cfg sensors st).2 =
      .ok (some (p.setMpuMemory .keyFcfg2 (List.ofFn regs)), s) := by
    simp only [accelFcfg2Write, hpd, if_neg ha, hid, hregs, except_ok_bind]
    rfl
  obtain ⟨hr, hpre, hmot⟩ := dmpRestart_success hc hmem hb sensors s
  obtain ⟨hres, calls, hst⟩ := sensorsResume_started hc cfg sensors
    (p.setMpuMemory .keyFcfg2 (List.ofFn regs)) s hr
  refine ⟨regs, (sensorsResume p cfg sensors true (p.setMpuMemory .keyFcfg2 (List.ofFn regs))
    s).2, hregs, ?_, ?_⟩
  · rw [invSetMpuSensors_of_accepted (by rw [hs]; decide) hw
      (sensorsPrepare_success (fun _ _ _ => hc _) (fun _ _ => hc _) cfg sensors st), hwrite]
    simp only [hs, decide_True, Option.getD_some, except_ok_bind, hres]
  · rw [hst]
    exact ⟨hpre.subset (List.mem_append_right _ (List.mem_singleton_self _)), hmot⟩

/-- A running DMP on the sample platform and a `KEY_FCFG_2` write that fails with
`INV_ERROR_MEMORY_SET`. -/
theorem invSetMpuSensors_drops_fcfg2_error :
    (∀ b, ({ Platform.sample with
        setMpuMemory := fun k _ => if k = .keyFcfg2 then .errorMemorySet else .success } :
          Platform).setMpuMemory .keyFcfg2 b = .errorMemorySet) ∧
    SensorsWellFormed Platform.sample
      { (default : MldlCfg) with
        accelPdataOrientation := some ![1, 0, 0, 0, 1, 0, 0, 0, 1], accelSlaveId := some 1 }
      0x70 ∧
    ∃ regs st', invMpu6050Accel Dina.spelled
        (invOrientationMatrixToScalar ![1, 0, 0, 0, 1, 0, 0, 0, 1])
        (accelMode Platform.sample 0x70 1) = .ok regs ∧
      invSetMpuSensors { Platform.sample with
          setMpuMemory := fun k _ => if k = .keyFcfg2 then .errorMemorySet else .success }
        { (default : MldlCfg) with
          accelPdataOrientation := some ![1, 0, 0, 0, 1, 0, 0, 0, 1], accelSlaveId := some 1 }
        0x70 { (default : MlState) with state := .dmpStarted } =
        .ok (.success, { (default : MldlCfg) with
          accelPdataOrientation := some ![1, 0, 0, 0, 1, 0, 0, 0, 1], accelSlaveId := some 1,
          requestedSensors := 0x70 }, st') ∧
      (.keyFcfg2, List.ofFn regs) ∈ st'.dmpWrites ∧ st'.motionState = 1 :=
  ⟨fun _ => rfl, by decide,
    invSetMpuSensors_drops_fcfg2_result { Platform.sample with
        setMpuMemory := fun k _ => if k = .keyFcfg2 then .errorMemorySet else .success }
      { (default : MldlCfg) with
        accelPdataOrientation := some ![1, 0, 0, 0, 1, 0, 0, 0, 1], accelSlaveId := some 1 }
      0x70 { (default : MlState) with state := .dmpStarted } ![1, 0, 0, 0, 1, 0, 0, 0, 1] 1 rfl
      (by decide) rfl rfl (by decide) (by decide) (fun _ => rfl) (fun _ _ hk => if_neg hk)
      fun _ => rfl⟩

end InvensenseMpl
