import InvensenseMpl.DmpCal

/-!
# Applying the mounting calibration

`inv_apply_calibration` (`ml.c:205–275`) is where the orientation functions are called. It
sets the accelerometer sensitivity from the platform data and, with the DMP open, encodes
the gyro matrix into `inv_gyro_orient`, runs `inv_gyro_dmp_cal` and `inv_gyro_var_cal`,
mounts the accelerometer matrix (nine zeros when the platform data has none), runs
`inv_accel_dmp_cal` and `inv_accel_var_cal`, and programs the compass matrix. The `float`
computations of the compass path are left out: `inv_set_compass_calibration` is modelled
by its DMP writes and its result.

`inv_apply_endian_accel` (`ml.c:281–318`) checks the accelerometer slave but not its platform
data, whose `bus` it reads: it faults exactly when there is a slave and no platform data, and
otherwise returns its check's code or the result of its one write (`invApplyEndianAccel_spec`).
-/

namespace InvensenseMpl

/-- The DMP matrix entry that `inv_set_compass_calibration` writes for an orientation entry:
`regp`, `regn` or `reg0` (`ml.c:1084–1104`). -/
def compassMtxBytes (x : Int8) : List UInt8 :=
  if x = 1 then [64, 0, 0, 0] else if x = -1 then [64 + 128, 0, 0, 0] else [0, 0, 0, 0]

/-- The loop of `inv_set_compass_calibration` over the keys `ks` (`ml.c:1095–1104`), and
whether a write failed: `errors += result` adds codes that are zero only for `INV_SUCCESS`. -/
def compassWrites (p : Platform) (orientation : Mount) : List (Fin 9) → MlState → Bool × MlState
  | [], st => (false, st)
  | kk :: ks, st =>
    let r := setMpuMemory p (.keyCpassMtx kk) (compassMtxBytes (orientation kk)) st
    let rest := compassWrites p orientation ks r.2
    (r.1 != .success || rest.1, rest.2)

/-- `inv_set_compass_calibration` (`ml.c:1060–1115`) without its `float` computations of
`calmat->compass` and `mag->sens`. -/
def invSetCompassCalibration (p : Platform) (orientation : Mount) (st : MlState) :
    InvError × MlState :=
  let r := if p.dmpkeySupported (.keyCpassMtx 0) then
      compassWrites p orientation (List.finRange 9) st
    else (false, st)
  (if r.1 then .errorMemorySet else .success, r.2)

/-- The accelerometer sensitivity that `inv_apply_calibration` sets from the platform data
(`ml.c:217–233`); `RANGE_FIXEDPOINT_TO_FLOAT` reads `slave[EXT_SLAVE_TYPE_ACCEL]`. -/
def applyAccelSens (p : Platform) (cfg : MldlCfg) (st : MlState) : Except Fault MlState :=
  match cfg.accelPdataOrientation, cfg.accelSlaveId with
  | none, _ => .ok st
  | some _, none => .error .nullDereference
  | some _, some id =>
    if p.accelIdMpu6050 = id then
      if cfg.accelSensTrim = 0 then .error .divisionByZero
      else .ok { st with accelSens := Int.tdiv cfg.accelRangeSens cfg.accelSensTrim * 8192 }
    else .ok { st with accelSens := Int.tdiv cfg.accelRangeSens 2 }

/-- Continue with `k` after a calibration step that succeeded, and return any other result
(`if (result != INV_SUCCESS) return result;`). -/
def thenCal (r : Except Fault (InvError × MlState))
    (k : MlState → Except Fault (InvError × MlState)) : Except Fault (InvError × MlState) := do
  let (e, st) ← r
  if e ≠ .success then .ok (e, st) else k st

/-- `inv_apply_calibration` (`ml.c:205–275`); the compass branch reads
`slave[EXT_SLAVE_TYPE_COMPASS]->range` when the platform data has a compass. -/
def invApplyCalibration (p : Platform) (cfg : MldlCfg) (st : MlState) :
    Except Fault (InvError × MlState) := do
  let st ← applyAccelSens p cfg st
  if cfg.compassPdataOrientation.isSome && !cfg.compassSlavePresent then .error .nullDereference
  else if st.state ≠ .dmpOpened then .ok (.success, st)
  else
    let st := { st with gyroOrient := invOrientationMatrixToScalar cfg.gyroOrientation }
    thenCal (invGyroDmpCal p cfg st) fun st =>
    thenCal (invGyroVarCal p cfg st) fun st =>
    thenCal (invAccelDmpCal p cfg
      (invSetAccelMounting (cfg.accelPdataOrientation.getD fun _ => 0) st)) fun st =>
    thenCal (invAccelVarCal st) fun st =>
    if cfg.compassSlavePresent then
      .ok (invSetCompassCalibration p (cfg.compassPdataOrientation.getD fun _ => 0) st)
    else .ok (.success, st)

/-! ### Steps -/

/-- A first step that returns, then a continuation that returns after a success, returns. -/
theorem thenCal_ok {x : Except Fault (InvError × MlState)}
    {k : MlState → Except Fault (InvError × MlState)} {e : InvError} {st : MlState}
    (hx : x = .ok (e, st)) (hk : e = .success → ∃ r, k st = .ok r) : ∃ r, thenCal x k = .ok r := by
  rw [thenCal, hx, except_ok_bind]
  dsimp only
  split_ifs with he
  · exact ⟨_, rfl⟩
  · exact hk (not_not.1 he)

/-- After a successful first step, `thenCal` is the continuation on its state. -/
theorem thenCal_success {x : Except Fault (InvError × MlState)}
    {k : MlState → Except Fault (InvError × MlState)} {st : MlState}
    (hx : x = .ok (.success, st)) : thenCal x k = k st := by
  rw [thenCal, hx, except_ok_bind]
  rfl

/-- A property that every result of a step has, and that the continuation keeps, holds after
`thenCal`. -/
theorem thenCal_holds (P : MlState → Prop) {x : Except Fault (InvError × MlState)}
    {k : MlState → Except Fault (InvError × MlState)}
    (hx : ∀ r, x = .ok r → P r.2) (hk : ∀ st, P st → ∀ r, k st = .ok r → P r.2) :
    ∀ r, thenCal x k = .ok r → P r.2 := by
  intro r h
  obtain ⟨⟨e, st⟩, hx', h⟩ := except_bind_eq_ok h
  dsimp only at h
  split_ifs at h
  · cases h
    exact hx _ hx'
  · exact hk st (hx _ hx') r h

/-- A view of the state that a step keeps on every result it returns, and that the
continuation keeps, is kept by `thenCal`. -/
theorem thenCal_keeps {α : Type} (f : MlState → α) {x : Except Fault (InvError × MlState)}
    {k : MlState → Except Fault (InvError × MlState)} {v : α}
    (hx : ∀ r, x = .ok r → f r.2 = v) (hk : ∀ st, f st = v → ∀ r, k st = .ok r → f r.2 = v) :
    ∀ r, thenCal x k = .ok r → f r.2 = v :=
  thenCal_holds (f · = v) hx hk

/-- The sensitivity step changes only `accel->sens`. -/
theorem applyAccelSens_frame {p : Platform} {cfg : MldlCfg} {st st' : MlState}
    (h : applyAccelSens p cfg st = .ok st') : ∃ s, st' = { st with accelSens := s } := by
  unfold applyAccelSens at h
  split at h
  · cases h
    exact ⟨_, rfl⟩
  · cases h
  · split_ifs at h <;> cases h <;> exact ⟨_, rfl⟩

/-- Without an accelerometer slave, `inv_accel_dmp_cal` returns an error and changes nothing. -/
theorem invAccelDmpCal_of_no_slave (p : Platform) {cfg : MldlCfg} (st : MlState)
    (h : cfg.accelSlaveId = none) : ∃ e, e ≠ .success ∧ invAccelDmpCal p cfg st = .ok (e, st) := by
  unfold invAccelDmpCal
  by_cases hs : st.state ≠ .dmpOpened
  · rw [if_pos hs]
    exact ⟨.errorSmImproperState, nofun, rfl⟩
  · rw [if_neg hs]
    simp only [h]
    exact ⟨.errorInvalidConfiguration, nofun, rfl⟩

/-- The nine-zero mounting gives `inv_accel_dmp_cal` the scalar 511: a slave with a nonzero
id makes it read `tmp[3]`; otherwise the call succeeds and keeps the state and orientation. -/
theorem invAccelDmpCal_zeroMount {p : Platform} (hw : ∀ k b, p.setMpuMemory k b = .success)
    {cfg : MldlCfg} (st : MlState) {id : Nat} (hs : st.state = .dmpOpened)
    (hid : cfg.accelSlaveId = some id) (ho : st.accelOrient = 511) :
    (id ≠ 0 → invAccelDmpCal p cfg st = .error (.outOfBounds 3)) ∧
    (id = 0 → ∃ st', invAccelDmpCal p cfg st = .ok (.success, st') ∧
      st'.state = .dmpOpened ∧ st'.accelOrient = 511) := by
  simp only [invAccelDmpCal, hs, hid, ne_eq, not_true_eq_false, if_false]
  constructor
  · intro h0
    by_cases hk : p.dmpkeySupported .keyD_1_152
    · rw [if_pos hk, thenWrite_of_success (hw _ _), if_pos h0, ho]
      rfl
    · rw [if_neg hk, if_pos h0, ho]
      rfl
  · rintro rfl
    by_cases hk : p.dmpkeySupported .keyD_1_152
    · simp only [if_pos hk, thenWrite_of_success (hw _ _), not_true_eq_false, if_false,
        setMpuMemory, hw]
      exact ⟨_, rfl, hs, ho⟩
    · simp only [hk, not_true_eq_false, if_false, setMpuMemory, hw]
      exact ⟨_, rfl, hs, ho⟩

/-- `inv_accel_var_cal` on the scalar 511 stores row 2 at `calmat->accel[9]`. -/
theorem invAccelVarCal_zeroMount {st : MlState} (hs : st.state = .dmpOpened)
    (ho : st.accelOrient = 511) : invAccelVarCal st = .error (.outOfBounds 9) := by
  simp only [invAccelVarCal, hs, ho, ne_eq, not_true_eq_false, if_false]
  rfl

/-- When every serial write succeeds, the compass loop reports no error and changes only the
DMP writes. -/
theorem compassWrites_success {p : Platform} (hw : ∀ k b, p.setMpuMemory k b = .success)
    (orientation : Mount) (ks : List (Fin 9)) (st : MlState) :
    ∃ w, compassWrites p orientation ks st = (false, { st with dmpWrites := w }) := by
  induction ks generalizing st with
  | nil => exact ⟨st.dmpWrites, rfl⟩
  | cons kk ks ih =>
    obtain ⟨w, hw'⟩ := ih (setMpuMemory p (.keyCpassMtx kk) (compassMtxBytes (orientation kk)) st).2
    refine ⟨w, ?_⟩
    simp only [compassWrites, hw']
    simp [setMpuMemory, hw]

/-- The compass loop writes only `KEY_CPASS_MTX_*`. -/
theorem compassWrites_keeps {α : Type} (f : MlState → α) {p : Platform}
    (hw : ∀ kk st b, f (setMpuMemory p (.keyCpassMtx kk) b st).2 = f st) (orientation : Mount)
    (ks : List (Fin 9)) (st : MlState) : f (compassWrites p orientation ks st).2 = f st := by
  induction ks generalizing st with
  | nil => rfl
  | cons kk ks ih => exact (ih _).trans (hw kk st _)

/-- A projection that the compass matrix writes keep is kept by `inv_set_compass_calibration`. -/
theorem invSetCompassCalibration_keeps {α : Type} (f : MlState → α) {p : Platform}
    (hw : ∀ kk st b, f (setMpuMemory p (.keyCpassMtx kk) b st).2 = f st) (orientation : Mount)
    (st : MlState) : f (invSetCompassCalibration p orientation st).2 = f st := by
  unfold invSetCompassCalibration
  split
  · exact compassWrites_keeps f hw orientation _ st
  · rfl

/-- When the bus accepts every write, `inv_set_compass_calibration` succeeds and changes only the write log. -/
theorem invSetCompassCalibration_success {p : Platform}
    (hw : ∀ k b, p.setMpuMemory k b = .success) (orientation : Mount) (st : MlState) :
    ∃ w, invSetCompassCalibration p orientation st = (.success, { st with dmpWrites := w }) := by
  unfold invSetCompassCalibration
  split_ifs
  · obtain ⟨w, h⟩ := compassWrites_success hw orientation (List.finRange 9) st
    exact ⟨w, by simp only [h, if_false, Bool.false_eq_true]⟩
  · exact ⟨st.dmpWrites, rfl⟩

/-! ### Platform data the decoders accept -/

/-- Platform data that `inv_apply_calibration` can use: a nonzero entry in each row of the
gyro matrix, and of the accelerometer matrix when there is one; an accelerometer slave
exactly when there is accelerometer platform data; a nonzero trim for an MPU6050
accelerometer; and a compass slave when there is compass platform data. -/
structure WellMounted (p : Platform) (cfg : MldlCfg) : Prop where
  gyro_rows : ∀ i, ∃ j, cfg.gyroOrientation.entry i j ≠ 0
  accel_rows : ∀ m, cfg.accelPdataOrientation = some m → ∀ i, ∃ j, m.entry i j ≠ 0
  accel_slave : cfg.accelPdataOrientation.isSome = cfg.accelSlaveId.isSome
  accel_trim : cfg.accelSlaveId = some p.accelIdMpu6050 → cfg.accelSensTrim ≠ 0
  compass_slave : cfg.compassPdataOrientation.isSome → cfg.compassSlavePresent

/-- With well-formed platform data the sensitivity is set without a fault, and nothing else. -/
theorem applyAccelSens_ok {p : Platform} {cfg : MldlCfg} (h : WellMounted p cfg) (st : MlState) :
    ∃ s, applyAccelSens p cfg st = .ok { st with accelSens := s } := by
  have hsl := h.accel_slave
  unfold applyAccelSens
  cases hpd : cfg.accelPdataOrientation with
  | none => exact ⟨st.accelSens, rfl⟩
  | some m =>
    cases hid : cfg.accelSlaveId with
    | none => rw [hpd, hid] at hsl; cases hsl
    | some id =>
      simp only
      split_ifs with h6 ht
      · exact absurd ht (h.accel_trim (by rw [hid, h6]))
      · exact ⟨_, rfl⟩
      · exact ⟨_, rfl⟩

/-- With well-formed platform data, `inv_apply_calibration` never faults, whatever the
library state and whatever the serial writes return. -/
theorem invApplyCalibration_ok (p : Platform) (cfg : MldlCfg) (st : MlState)
    (h : WellMounted p cfg) : ∃ r, invApplyCalibration p cfg st = .ok r := by
  obtain ⟨s, hs⟩ := applyAccelSens_ok h st
  simp only [invApplyCalibration, hs, except_ok_bind]
  have hc : (cfg.compassPdataOrientation.isSome && !cfg.compassSlavePresent) = false := by
    cases hp : cfg.compassPdataOrientation.isSome
    · rfl
    · simp [h.compass_slave hp]
  rw [if_neg (by rw [hc]; exact Bool.false_ne_true)]
  by_cases hst : st.state ≠ .dmpOpened
  · rw [if_pos hst]
    exact ⟨_, rfl⟩
  rw [if_neg hst]
  obtain ⟨g0, g1, g2⟩ := scalar_fields_lt _ h.gyro_rows
  obtain ⟨⟨e2, st2⟩, h2⟩ := invGyroDmpCal_ok g0 g1 g2 p cfg
    { { st with accelSens := s } with gyroOrient := invOrientationMatrixToScalar cfg.gyroOrientation } rfl
  have k2 :=
    invGyroDmpCal_keeps MlState.gyroOrient p (fun _ _ _ _ => rfl) (fun _ _ _ => rfl) cfg _ _ h2
  refine thenCal_ok h2 fun _ => ?_
  obtain ⟨⟨e3, st3⟩, h3⟩ := invGyroVarCal_ok g0 g1 g2 p cfg st2 k2
  refine thenCal_ok h3 fun _ => ?_
  cases hpd : cfg.accelPdataOrientation with
  | none =>
    have hid : cfg.accelSlaveId = none := by
      have := h.accel_slave; rw [hpd] at this; exact Option.not_isSome_iff_eq_none.1 (by simp [← this])
    obtain ⟨e4, he4, h4⟩ := invAccelDmpCal_of_no_slave p
      (invSetAccelMounting ((none : Option Mount).getD fun _ => 0) st3) hid
    exact thenCal_ok h4 fun he => absurd he he4
  | some m =>
    obtain ⟨a0, a1, a2⟩ := scalar_fields_lt m (h.accel_rows m hpd)
    obtain ⟨⟨e4, st4⟩, h4⟩ := invAccelDmpCal_ok a0 a1 a2 p cfg (invSetAccelMounting m st3) rfl
    have k4 := invAccelDmpCal_keeps MlState.accelOrient p (fun _ _ _ _ => rfl) cfg _ _ h4
    refine thenCal_ok h4 fun _ => ?_
    obtain ⟨⟨e5, st5⟩, h5⟩ := invAccelVarCal_ok a0 a1 a2 st4 k4
    refine thenCal_ok h5 fun _ => ?_
    split <;> exact ⟨_, rfl⟩

/-! ### The pipeline -/

/-- The gyro steps of `inv_apply_calibration` on a gyro matrix with a nonzero entry in each
row succeed when every serial write does, and keep the library state and the accelerometer
sensitivity. -/
theorem gyroCal_success {p : Platform} (hw : ∀ k b, p.setMpuMemory k b = .success)
    (cfg : MldlCfg) (st : MlState) (hs : st.state = .dmpOpened)
    (hg : ∀ i, ∃ j, cfg.gyroOrientation.entry i j ≠ 0) :
    ∃ st', st'.state = .dmpOpened ∧ st'.accelSens = st.accelSens ∧
      (∀ i j : Fin 3,
        st'.calmatGyro (flatIdx i j) = decodedSign (invOrientationMatrixToScalar cfg.gyroOrientation)
          ![0x004, 0x020, 0x100] i j * st'.gyroSens ∧
        st'.calmatGyroOrient (flatIdx i j) = decodedSign
          (invOrientationMatrixToScalar cfg.gyroOrientation) ![0x004, 0x020, 0x100] i j * 2 ^ 30) ∧
      ∀ k : MlState → Except Fault (InvError × MlState),
        thenCal (invGyroDmpCal p cfg
          { st with gyroOrient := invOrientationMatrixToScalar cfg.gyroOrientation }) (fun st =>
          thenCal (invGyroVarCal p cfg st) k) = k st' := by
  obtain ⟨g0, g1, g2⟩ := scalar_fields_lt _ hg
  obtain ⟨st2, h2⟩ := invGyroDmpCal_success g0 g1 g2 hw cfg
    { st with gyroOrient := invOrientationMatrixToScalar cfg.gyroOrientation } hs rfl
  have k2 := invGyroDmpCal_keeps (fun st => (st.state, st.gyroOrient, st.accelSens)) p
    (fun _ _ _ _ => rfl) (fun _ _ _ => rfl) cfg _ _ h2
  simp only [Prod.mk.injEq] at k2
  obtain ⟨g, r, h3, hv⟩ := invGyroVarCal_spec p cfg st2 (k2.1.trans hs)
    (fun i => k2.2.1 ▸ (column_lt_three_iff _ i).mpr (hg i))
  refine ⟨{ st2 with
      gyroSens := gyroSensOf cfg, gyroSf := p.q30Mult (gyroSensOf cfg) 767603923,
      calmatGyro := g, calmatGyroOrient := r }, k2.1.trans hs, k2.2.2,
    fun i j => k2.2.1 ▸ hv i j, fun k => ?_⟩
  rw [thenCal_success h2, thenCal_success h3]

/-- With an accelerometer slave but no accelerometer platform data, `inv_apply_calibration`
mounts nine zeros, and once the gyro steps and the serial writes succeed it faults:
`inv_accel_dmp_cal` reads `tmp[3]` for a slave with a nonzero id, and `inv_accel_var_cal`
stores at `calmat->accel[9]` otherwise. -/
theorem invApplyCalibration_faults_without_accel_pdata (p : Platform) (cfg : MldlCfg)
    (st : MlState) (id : Nat) (hs : st.state = .dmpOpened)
    (hg : ∀ i, ∃ j, cfg.gyroOrientation.entry i j ≠ 0)
    (hc : cfg.compassPdataOrientation.isSome → cfg.compassSlavePresent)
    (hpd : cfg.accelPdataOrientation = none) (hid : cfg.accelSlaveId = some id)
    (hw : ∀ k b, p.setMpuMemory k b = .success) :
    invApplyCalibration p cfg st = .error (.outOfBounds (if id ≠ 0 then 3 else 9)) := by
  have hcs : (cfg.compassPdataOrientation.isSome && !cfg.compassSlavePresent) = false := by
    cases hp : cfg.compassPdataOrientation.isSome
    · rfl
    · simp [hc hp]
  simp only [invApplyCalibration, applyAccelSens, hpd, except_ok_bind, hcs, Option.getD_none,
    Bool.false_eq_true, if_false]
  rw [if_neg (not_not.2 hs)]
  obtain ⟨st3, hs3, -, -, h3⟩ := gyroCal_success hw cfg st hs hg
  rw [h3]
  have h0 := invAccelDmpCal_zeroMount hw (invSetAccelMounting (fun _ => 0) st3) hs3 hid
    (show invOrientationMatrixToScalar (fun _ => 0) = 511 by decide)
  by_cases hid0 : id = 0
  · obtain ⟨st4, h4, hs4, ho4⟩ := h0.2 hid0
    rw [thenCal_success h4, if_neg (not_not.2 hid0)]
    simp only [thenCal, invAccelVarCal_zeroMount hs4 ho4, except_error_bind]
  · rw [h0.1 hid0, if_pos hid0]
    rfl

/-- An accelerometer slave with id 1 and no accelerometer platform data. -/
theorem invApplyCalibration_faults_without_accel_pdata_id1 :
    (({ (default : MlState) with state := .dmpOpened }).state = .dmpOpened ∧
    (∀ i, ∃ j, Mount.entry ![1, 0, 0, 0, 1, 0, 0, 0, 1] i j ≠ 0) ∧
    ((default : MldlCfg).compassPdataOrientation.isSome → (default : MldlCfg).compassSlavePresent) ∧
    (default : MldlCfg).accelPdataOrientation = none ∧
    (∀ k b, (default : Platform).setMpuMemory k b = .success)) ∧
    invApplyCalibration default
      { (default : MldlCfg) with
        gyroOrientation := ![1, 0, 0, 0, 1, 0, 0, 0, 1], accelSlaveId := some 1 }
      { (default : MlState) with state := .dmpOpened } = .error (.outOfBounds 3) :=
  ⟨⟨rfl, by decide, by decide, rfl, fun _ _ => rfl⟩,
    invApplyCalibration_faults_without_accel_pdata default _ _ 1 rfl (by decide) (by decide) rfl rfl
      fun _ _ => rfl⟩

/-- When every serial write succeeds, the platform data is well formed with one nonzero
entry in each row of the gyro matrix, and there is an accelerometer,
`inv_apply_calibration` in `INV_STATE_DMP_OPENED` succeeds, and the gyro matrices it leaves
are the sign pattern of the gyro mounting times `gyro->sens` and times `2^30`. -/
theorem invApplyCalibration_gyro_mount (p : Platform) (cfg : MldlCfg) (st : MlState)
    (h : WellMounted p cfg) (hm : cfg.gyroOrientation.OneNonzeroPerRow)
    (ha : cfg.accelSlaveId.isSome) (hs : st.state = .dmpOpened)
    (hw : ∀ k b, p.setMpuMemory k b = .success) :
    ∃ st', invApplyCalibration p cfg st = .ok (.success, st') ∧ ∀ i j : Fin 3,
      st'.calmatGyro (flatIdx i j) = (cfg.gyroOrientation.entry i j).sign * st'.gyroSens ∧
      st'.calmatGyroOrient (flatIdx i j) = (cfg.gyroOrientation.entry i j).sign * 2 ^ 30 := by
  obtain ⟨s, hsens⟩ := applyAccelSens_ok h st
  have hcs : (cfg.compassPdataOrientation.isSome && !cfg.compassSlavePresent) = false := by
    cases hp : cfg.compassPdataOrientation.isSome
    · rfl
    · simp [h.compass_slave hp]
  simp only [invApplyCalibration, hsens, except_ok_bind, hcs, Bool.false_eq_true, if_false]
  rw [if_neg (not_not.2 hs)]
  obtain ⟨st3, hs3, -, hv3, h3⟩ :=
    gyroCal_success hw cfg { st with accelSens := s } hs h.gyro_rows
  rw [h3]
  obtain ⟨m, hpd⟩ := Option.isSome_iff_exists.1 (h.accel_slave ▸ ha)
  obtain ⟨id, hid⟩ := Option.isSome_iff_exists.1 ha
  obtain ⟨a0, a1, a2⟩ := scalar_fields_lt m (h.accel_rows m hpd)
  obtain ⟨st4, h4⟩ := invAccelDmpCal_success a0 a1 a2 hw cfg (invSetAccelMounting m st3)
    hs3 hid rfl
  have k4 := invAccelDmpCal_keeps
    (fun st => (st.state, st.accelOrient, st.calmatGyro, st.calmatGyroOrient, st.gyroSens)) p
    (fun _ _ _ _ => rfl) cfg _ _ h4
  simp only [Prod.mk.injEq] at k4
  obtain ⟨st5, h5⟩ := invAccelVarCal_success st4 (k4.1.trans hs3)
    (k4.2.1 ▸ a0) (k4.2.1 ▸ a1) (k4.2.1 ▸ a2)
  obtain ⟨a, ha5⟩ := invAccelVarCal_frame h5
  simp only at ha5
  rw [hpd, Option.getD_some, thenCal_success h4, thenCal_success h5]
  have hsign : ∀ i j : Fin 3,
      st5.calmatGyro (flatIdx i j) = (cfg.gyroOrientation.entry i j).sign * st5.gyroSens ∧
      st5.calmatGyroOrient (flatIdx i j) = (cfg.gyroOrientation.entry i j).sign * 2 ^ 30 := by
    intro i j
    rw [ha5, k4.2.2.1, k4.2.2.2.1, k4.2.2.2.2,
      ← hm.decodedSign_eq _ i j (ownSignMasks i)]
    exact hv3 i j
  split
  · obtain ⟨w, hc⟩ := invSetCompassCalibration_success hw
      (cfg.compassPdataOrientation.getD fun _ => 0) st5
    exact ⟨{ st5 with dmpWrites := w }, by rw [hc], hsign⟩
  · exact ⟨st5, rfl, hsign⟩

/-- A signed-permutation gyro mounting, an identity accelerometer mounting on a slave with id 1. -/
theorem invApplyCalibration_gyro_mount_rotation :
    WellMounted default { (default : MldlCfg) with
      gyroOrientation := ![0, 0, -1, 1, 0, 0, 0, -1, 0],
      accelPdataOrientation := some ![1, 0, 0, 0, 1, 0, 0, 0, 1], accelSlaveId := some 1 } ∧
    Mount.OneNonzeroPerRow ![0, 0, -1, 1, 0, 0, 0, -1, 0] ∧
    (some 1 : Option Nat).isSome ∧
    ({ (default : MlState) with state := .dmpOpened }).state = .dmpOpened ∧
    (∀ k b, (default : Platform).setMpuMemory k b = .success) ∧
    ∃ st', invApplyCalibration default { (default : MldlCfg) with
        gyroOrientation := ![0, 0, -1, 1, 0, 0, 0, -1, 0],
        accelPdataOrientation := some ![1, 0, 0, 0, 1, 0, 0, 0, 1], accelSlaveId := some 1 }
        { (default : MlState) with state := .dmpOpened } = .ok (.success, st') ∧
      ∀ i j : Fin 3,
        st'.calmatGyro (flatIdx i j) =
          (Mount.entry ![0, 0, -1, 1, 0, 0, 0, -1, 0] i j).sign * st'.gyroSens ∧
        st'.calmatGyroOrient (flatIdx i j) =
          (Mount.entry ![0, 0, -1, 1, 0, 0, 0, -1, 0] i j).sign * 2 ^ 30 :=
  have h : WellMounted default { (default : MldlCfg) with
      gyroOrientation := ![0, 0, -1, 1, 0, 0, 0, -1, 0],
      accelPdataOrientation := some ![1, 0, 0, 0, 1, 0, 0, 0, 1], accelSlaveId := some 1 } :=
    ⟨by decide, fun m hm => by cases hm; decide, rfl, fun h => absurd h (by decide), nofun⟩
  ⟨h, by decide, rfl, rfl, fun _ _ => rfl,
    invApplyCalibration_gyro_mount default _ _ h (by decide) rfl rfl fun _ _ => rfl⟩

/-! ### Accelerometer endianness -/

/-- The four bytes that `inv_apply_endian_accel` writes for an endianness (`ml.c:301–315`). -/
def endianRegs : SlaveEndian → List UInt8
  | .fs8Big | .fs16Big | .little => [0, 64, 0, 0]
  | _ => [0, 0, 64, 0]

/-- `inv_apply_endian_accel` (`ml.c:281–318`): `slave[EXT_SLAVE_TYPE_ACCEL]` is checked,
`pdata_slave[EXT_SLAVE_TYPE_ACCEL]` is not. -/
def invApplyEndianAccel (p : Platform) (cfg : MldlCfg) (st : MlState) :
    Except Fault (InvError × MlState) :=
  if cfg.accelSlaveId.isNone then .ok (.errorInvalidConfiguration, st) else
  match cfg.accelPdataOrientation with
  | none => .error .nullDereference
  | some _ =>
    let endian := if cfg.accelPdataBus ≠ p.extSlaveBusSecondary then .big else cfg.accelSlaveEndian
    .ok (setMpuMemory p .keyD_1_236 (endianRegs endian) st)

/-- `inv_apply_endian_accel` returns `INV_ERROR_INVALID_CONFIGURATION` and changes nothing
without an accelerometer slave, and faults at the `NULL` platform data with a slave but no
accelerometer platform data. Otherwise it writes `{0, 64, 0, 0}` to `KEY_D_1_236` for a
little-endian, FS8 or FS16 big-endian slave on the secondary bus, `{0, 0, 64, 0}` for every
other, and returns the result of that write. -/
theorem invApplyEndianAccel_spec (p : Platform) (cfg : MldlCfg) (st : MlState) :
    invApplyEndianAccel p cfg st =
      if cfg.accelSlaveId = none then .ok (.errorInvalidConfiguration, st)
      else if cfg.accelPdataOrientation = none then .error .nullDereference
      else .ok (setMpuMemory p .keyD_1_236
        (if cfg.accelPdataBus = p.extSlaveBusSecondary ∧
            cfg.accelSlaveEndian ∈ [.little, .fs8Big, .fs16Big] then [0, 64, 0, 0]
          else [0, 0, 64, 0]) st) := by
  unfold invApplyEndianAccel
  cases cfg.accelSlaveId <;> cases cfg.accelPdataOrientation <;> try rfl
  by_cases hb : cfg.accelPdataBus = p.extSlaveBusSecondary <;>
    cases cfg.accelSlaveEndian <;> simp [hb, endianRegs]

end InvensenseMpl
