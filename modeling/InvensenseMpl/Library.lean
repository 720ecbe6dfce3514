import InvensenseMpl.Ownership

/-!
# The library as one state machine

`ml.c` is a library: its entry points are called in any order, each on the state the calls
before it left. `libStep` is one call of any modelled entry point and `execLib` a run of
calls; a fault ends the run. The layers below `ml.c` may answer each call differently: call
`i` of a run sees the results `bus i`, while the constants of the headers stay those of the
platform. The machine follows the state, and drops the codes the calls return.

From the frames of `Ownership`, every run keeps what each group of entry points establishes,
whatever other calls are interleaved with it:
* the interrupt-source record stays consistent, no state callback is registered twice, and
  `requested_sensors` stays a well-formed mask, whatever the layers below return
  (`execLib_invariant`);
* the state is `SERIAL_CLOSED` exactly when no port is open, when the two results the session
  does not check succeed at every call (`execLib_session`);
* with well-formed platform data, a callback table that represents a registry, mounting
  scalars that decode and arguments that `ml.c` can use, no call faults (`execLib_ok`);
* the callback table follows the abstract registry of `CallbackRefinement` through the
  registrations of the run (`execLib_table`), and the state callbacks the abstract registry
  of `BiasSources` through its switch calls (`execLib_stateCallbacks`).
-/

namespace InvensenseMpl

/-! ### The machine -/

/-- What the library keeps between calls. -/
structure Library (α : Type) (m : Nat) where
  /-- `struct mldl_cfg`, as `inv_get_dl_config()` returns it. -/
  cfg : MldlCfg
  /-- The globals of `ml.c` and `inv_obj`. -/
  st : MlState
  /-- `mlxCallbackInterrupt`, the DMP-interrupt callbacks. -/
  cbs : CallbackInterrupt α m

/-- The entry points that own no part of the state: they change calibration, motion and DMP
data only. -/
inductive DataCall
  | applyEndianAccel
  | updateData
  | resetMotion
  /-- `inv_check_flag(flag)`. -/
  | checkFlag (flag : Int)
  /-- `inv_set_no_motion_thresh`, from the `long` it computes. -/
  | noMotionThresh (tmp : Int)
  /-- `inv_set_no_motion_time`, from the `long` it computes. -/
  | noMotionTime (tmp : Int)
  | mpu6050Config
  | fusion16bit
  | fusion8bit
  /-- `inv_set_mode_change`, with whether the function pointer is non-`NULL`. -/
  | setModeChange (set : Bool)
  | accelVarCal
  | gyroVarCal
  | accelDmpCal
  | gyroDmpCal
  /-- `inv_set_compass_calibration(range, orientation)`, from its orientation. -/
  | setCompassCalibration (orientation : Mount)
  deriving DecidableEq

/-- The entry points that set the mounting scalars. -/
inductive CalibrationCall
  /-- `inv_apply_calibration()`. -/
  | apply
  /-- `inv_set_accel_mounting(mount)`. -/
  | setAccelMounting (mount : Mount)
  deriving DecidableEq

/-- A call of a modelled entry point, with its arguments. -/
inductive LibCall (α : Type)
  | session (c : SessionCall)
  | interrupt (c : InterruptCall)
  | bias (c : BiasCall)
  | dmpInterruptCb (c : Call α)
  | setMpuSensors (sensors : Nat)
  | calibration (c : CalibrationCall)
  | data (c : DataCall)

variable {α : Type} {m : Nat}

/-- One call of an entry point that owns no part of the state. -/
def dataStep (p : Platform) (cfg : MldlCfg) (cbs : CallbackInterrupt α m) :
    DataCall → MlState → Except Fault MlState
  | .applyEndianAccel, st => (invApplyEndianAccel p cfg st).map Prod.snd
  | .updateData, st => (invUpdateData p cfg cbs st).map fun r => r.2.2
  | .resetMotion, st => .ok (invResetMotion p st).2
  | .checkFlag flag, st => (invCheckFlag p flag st).map Prod.snd
  | .noMotionThresh tmp, st => .ok (invSetNoMotionThresh p tmp st).2
  | .noMotionTime tmp, st => .ok (invSetNoMotionTime p tmp st).2
  | .mpu6050Config, st => (invSetMpu6050Config p cfg st).map Prod.snd
  | .fusion16bit, st => .ok (invFreescaleSensorFusion16bit p st).2
  | .fusion8bit, st => (invFreescaleSensorFusion8bit p st).map Prod.snd
  | .setModeChange set, st => .ok (invSetModeChange set st)
  | .accelVarCal, st => (invAccelVarCal st).map Prod.snd
  | .gyroVarCal, st => (invGyroVarCal p cfg st).map Prod.snd
  | .accelDmpCal, st => (invAccelDmpCal p cfg st).map Prod.snd
  | .gyroDmpCal, st => (invGyroDmpCal p cfg st).map Prod.snd
  | .setCompassCalibration orientation, st => .ok (invSetCompassCalibration p orientation st).2

/-- One call of an entry point that sets the mounting scalars. -/
def calibrationStep (p : Platform) (cfg : MldlCfg) :
    CalibrationCall → MlState → Except Fault MlState
  | .apply, st => (invApplyCalibration p cfg st).map Prod.snd
  | .setAccelMounting mount, st => .ok (invSetAccelMounting mount st)

/-- The switch call of a library call, if it is one. -/
def LibCall.toBias : LibCall α → Option BiasCall
  | .bias c => some c
  | _ => none

/-- The registry call of a library call, if it is one. -/
def LibCall.toDmpInterruptCb : LibCall α → Option (Call α)
  | .dmpInterruptCb c => some c
  | _ => none

/-- What `inv_set_accel_mounting` needs and does not check: a nonzero entry in each row. -/
def CalibrationCall.Admissible : CalibrationCall → Prop
  | .apply => True
  | .setAccelMounting mount => ∀ i, ∃ j, mount.entry i j ≠ 0

/-- What the data entry points need and do not check: a flag within `sys->flags`, and
accelerometer platform data (`accelData`) for `inv_accel_var_cal`, which decodes the
accelerometer mounting without looking for a slave. -/
def DataCall.Admissible (p : Platform) (accelData : Bool) : DataCall → Prop
  | .checkFlag flag => 0 ≤ flag ∧ flag < p.numFlags
  | .accelVarCal => accelData = true
  | _ => True

/-- What `ml.c` needs of a call and does not check. -/
def LibCall.Admissible (p : Platform) (accelData : Bool) : LibCall α → Prop
  | .calibration c => c.Admissible
  | .data c => c.Admissible p accelData
  | _ => True

/-! ### Results that do not depend on the layers below -/

section WithBus

variable {p : Platform} {b : Bus}

/-- Well-formed platform data does not depend on what the layers below return. -/
theorem WellMounted.withBus {cfg : MldlCfg} (h : WellMounted p cfg) (b : Bus) :
    WellMounted (p.withBus b) cfg :=
  ⟨h.1, h.2, h.3, h.4, h.5⟩

/-- Nor does the consistency of the source record. -/
theorem sourcesConsistent_withBus {st : MlState} :
    SourcesConsistent (p.withBus b) st ↔ SourcesConsistent p st :=
  ⟨fun h => ⟨h.1, h.2⟩, fun h => ⟨h.1, h.2⟩⟩

end WithBus

/-! ### Calls that own no part -/

section Data

variable {p : Platform}

/-- The entry points of `DataCall` keep the four owned parts. -/
theorem dataStep_control (cfg : MldlCfg) (cbs : CallbackInterrupt α m) (c : DataCall)
    {st st' : MlState} (h : dataStep p cfg cbs c st = .ok st') : st'.control = st.control := by
  have keeps : ∀ {β : Type} {x : Except Fault (β × MlState)},
      (∀ {r}, x = .ok r → r.2.control = st.control) → x.map Prod.snd = .ok st' →
        st'.control = st.control := fun hx hm => by
    obtain ⟨r, hr, rfl⟩ := except_map_eq_ok hm
    exact hx hr
  cases c with
  | resetMotion => cases h; exact invResetMotion_control p st
  | noMotionThresh tmp => cases h; exact invSetNoMotionThresh_control p tmp st
  | noMotionTime tmp => cases h; exact invSetNoMotionTime_control p tmp st
  | fusion16bit => cases h; exact control_setMpuMemory (by rfl) _ _
  | setModeChange => cases h; rfl
  | setCompassCalibration orientation =>
    cases h; exact invSetCompassCalibration_control p orientation st
  | checkFlag flag =>
    exact keeps (fun hr => by rw [((invCheckFlag_ok_iff p flag st _).1 hr).2.2]; rfl) h
  | updateData =>
    obtain ⟨r, hr, rfl⟩ := except_map_eq_ok h
    exact invUpdateData_control p cfg cbs st hr
  | applyEndianAccel => exact keeps (invApplyEndianAccel_control p cfg st) h
  | mpu6050Config => exact keeps (invSetMpu6050Config_control p cfg st) h
  | fusion8bit => exact keeps (invFreescaleSensorFusion8bit_control p st) h
  | accelVarCal => exact keeps (invAccelVarCal_control st) h
  | gyroVarCal => exact keeps (invGyroVarCal_control p cfg st) h
  | accelDmpCal => exact keeps (invAccelDmpCal_control p cfg st) h
  | gyroDmpCal => exact keeps (invGyroDmpCal_control p cfg st) h

/-- The entry points of `CalibrationCall` keep the parts of the session, the setters and the
switches. -/
theorem calibrationStep_modeParts (cfg : MldlCfg) (c : CalibrationCall) {st st' : MlState}
    (h : calibrationStep p cfg c st = .ok st') : st'.modeParts = st.modeParts := by
  cases c with
  | apply =>
    obtain ⟨r, hr, rfl⟩ := except_map_eq_ok h
    exact invApplyCalibration_modeParts p cfg st hr
  | setAccelMounting => cases h; rfl

/-- With at most `MAX_INTERRUPT_PROCESSES` callbacks counted, `inv_update_data` returns. -/
theorem invUpdateData_ok (p : Platform) (cfg : MldlCfg) (cbs : CallbackInterrupt α m)
    (st : MlState) (hm : cbs.numInterruptProcesses ≤ m) :
    ∃ r, invUpdateData p cfg cbs st = .ok r := by
  unfold invUpdateData
  by_cases h1 : st.state ≠ .dmpStarted
  · exact ⟨_, if_pos h1⟩
  rw [if_neg h1]
  dsimp only
  by_cases h2 : p.readAndProcessFifo (fifoTries p cfg) ≠ .success
  · exact ⟨_, if_pos h2⟩
  rw [if_neg h2]
  cases takeTriggers p st with
  | mk b st' =>
    dsimp only
    split
    · rw [invRunDmpInteruptCb_eq cbs hm]
      exact ⟨_, rfl⟩
    · exact ⟨_, rfl⟩

end Data

/-! ### Mounting scalars that decode -/

/-- The three column fields of a mounting scalar are below 3, as for a matrix with a nonzero
entry in each row: every decoder of `ml.c` indexes in bounds. -/
def ScalarDecodable (o : Nat) : Prop := o % 4 < 3 ∧ o / 8 % 4 < 3 ∧ o / 64 % 4 < 3

/-- Whether a scalar decodes is computed. -/
instance (o : Nat) : Decidable (ScalarDecodable o) := inferInstanceAs (Decidable (_ ∧ _ ∧ _))

/-- The mounting scalars decode: the gyro's always, the accelerometer's when there is
accelerometer platform data. -/
structure MountsDecodable (cfg : MldlCfg) (st : MlState) : Prop where
  gyro : ScalarDecodable st.gyroOrient
  accel : cfg.accelPdataOrientation.isSome → ScalarDecodable st.accelOrient

/-- Whether the scalars decode depends on the mounting part and the accelerometer data only. -/
theorem MountsDecodable.of_eq {cfg cfg' : MldlCfg} {st st' : MlState}
    (h : MountsDecodable cfg st) (hm : st'.mountPart = st.mountPart)
    (hc : cfg'.accelPdataOrientation = cfg.accelPdataOrientation) : MountsDecodable cfg' st' := by
  simp only [MlState.mountPart, Prod.mk.injEq] at hm
  exact ⟨hm.1 ▸ h.gyro, fun ha => hm.2 ▸ h.accel (hc ▸ ha)⟩

/-- With well-formed platform data, `inv_apply_calibration` leaves scalars that decode: it
encodes the gyro matrix, and mounts the accelerometer matrix, or nine zeros when there is no
accelerometer data. -/
theorem invApplyCalibration_mountsDecodable {p : Platform} {cfg : MldlCfg} {st : MlState}
    {r : InvError × MlState} (h : WellMounted p cfg) (hd : MountsDecodable cfg st)
    (hr : invApplyCalibration p cfg st = .ok r) : MountsDecodable cfg r.2 := by
  refine invApplyCalibration_holds p (MountsDecodable cfg) cfg
    (fun hc hs => hs.of_eq (congrArg Prod.snd hc) rfl)
    (fun _ hs => ⟨scalar_fields_lt _ h.gyro_rows, hs.accel⟩)
    (fun _ hs => ⟨hs.gyro, fun ha => ?_⟩) hd hr
  obtain ⟨m, hm⟩ := Option.isSome_iff_exists.1 ha
  rw [invSetAccelMounting, hm]
  exact scalar_fields_lt m (h.accel_rows m hm)

/-- An admissible calibration call leaves scalars that decode. -/
theorem calibrationStep_mountsDecodable {p : Platform} {cfg : MldlCfg} (h : WellMounted p cfg)
    {c : CalibrationCall} (hc : c.Admissible)
    {st st' : MlState} (hd : MountsDecodable cfg st) (hs : calibrationStep p cfg c st = .ok st') :
    MountsDecodable cfg st' := by
  cases c with
  | apply =>
    obtain ⟨r, hr, rfl⟩ := except_map_eq_ok hs
    exact invApplyCalibration_mountsDecodable h hd hr
  | setAccelMounting mount =>
    cases hs
    exact ⟨hd.gyro, fun _ => scalar_fields_lt mount hc⟩

/-- An admissible call of `DataCall` returns when the platform data is well formed, at most
`MAX_INTERRUPT_PROCESSES` callbacks are counted, the shift of `inv_set_mpu_6050_config` is
defined and the mounting scalars decode. -/
theorem dataStep_ok {p : Platform} {cfg : MldlCfg} {cbs : CallbackInterrupt α m}
    (h : WellMounted p cfg) (hm : cbs.numInterruptProcesses ≤ m) (ha : p.ActTempDefined)
    {st : MlState} (hd : MountsDecodable cfg st) (c : DataCall)
    (hc : c.Admissible p cfg.accelPdataOrientation.isSome) :
    ∃ st', dataStep p cfg cbs c st = .ok st' := by
  have ok : ∀ {β : Type} {x : Except Fault (β × MlState)}, (∃ r, x = .ok r) →
      ∃ st', x.map Prod.snd = .ok st' := fun ⟨r, hr⟩ => ⟨r.2, by rw [hr]; rfl⟩
  cases c with
  | applyEndianAccel =>
    rw [dataStep, invApplyEndianAccel_spec]
    split_ifs with hs hp
    · exact ⟨_, rfl⟩
    · exact absurd h.accel_slave (by simp [hp, Option.ne_none_iff_isSome.1 hs])
    all_goals exact ⟨_, rfl⟩
  | updateData =>
    obtain ⟨r, hr⟩ := invUpdateData_ok p cfg cbs st hm
    exact ⟨r.2.2, by rw [dataStep, hr]; rfl⟩
  | checkFlag flag => exact ok ⟨_, (invCheckFlag_ok_iff p flag st _).2 ⟨hc.1, hc.2, rfl⟩⟩
  | mpu6050Config => exact ok (invSetMpu6050Config_ok ha cfg st)
  | fusion8bit => exact ok ⟨_, invFreescaleSensorFusion8bit_write p st⟩
  | accelVarCal =>
    obtain ⟨a0, a1, a2⟩ := hd.accel hc
    exact ok (invAccelVarCal_ok a0 a1 a2 st rfl)
  | gyroVarCal =>
    obtain ⟨g0, g1, g2⟩ := hd.gyro
    exact ok (invGyroVarCal_ok g0 g1 g2 p cfg st rfl)
  | accelDmpCal =>
    cases hid : cfg.accelSlaveId with
    | none =>
      obtain ⟨_, -, hr⟩ := invAccelDmpCal_of_no_slave p st hid
      exact ok ⟨_, hr⟩
    | some id =>
      obtain ⟨a0, a1, a2⟩ := hd.accel (by rw [h.accel_slave, hid]; rfl)
      exact ok (invAccelDmpCal_ok a0 a1 a2 p cfg st rfl)
  | gyroDmpCal =>
    obtain ⟨g0, g1, g2⟩ := hd.gyro
    exact ok (invGyroDmpCal_ok g0 g1 g2 p cfg st rfl)
  | _ => exact ⟨_, rfl⟩

variable [DecidableEq α]

/-- One call of the library. -/
def libStep (p : Platform) : LibCall α → Library α m → Except Fault (Library α m)
  | .session c, s => .ok { s with st := (sessionStep p c s.st).2 }
  | .interrupt c, s => .ok { s with st := (interruptStep p c s.st).2 }
  | .bias c, s => .ok { s with st := (biasStep p c s.st).2 }
  | .dmpInterruptCb c, s => (callbackStep c s.cbs).map fun r => { s with cbs := r.2 }
  | .setMpuSensors sensors, s =>
    (invSetMpuSensors p s.cfg sensors s.st).map fun r => { s with cfg := r.2.1, st := r.2.2 }
  | .calibration c, s => (calibrationStep p s.cfg c s.st).map fun st => { s with st := st }
  | .data c, s => (dataStep p s.cfg s.cbs c s.st).map fun st => { s with st := st }

/-- A run of calls, each on the state the previous one left, call `i` with the results
`bus i` of the layers below; a fault ends it. -/
def execLib (p : Platform) (bus : Nat → Bus) :
    List (LibCall α) → Library α m → Except Fault (Library α m)
  | [], s => .ok s
  | c :: cs, s => libStep (p.withBus (bus 0)) c s >>= execLib p (fun i => bus (i + 1)) cs

/-! ### Runs -/

section Runs

variable (p : Platform)

/-- A property that every call keeps, on results of the layers below with property `Q`, holds
after every run whose results all have it. -/
theorem execLib_preserves (Q : Bus → Prop) (P : Library α m → Prop)
    (hstep : ∀ b c s s', Q b → P s → libStep (p.withBus b) c s = .ok s' → P s') :
    ∀ cs bus s s', (∀ i, Q (bus i)) → P s → execLib p bus cs s = .ok s' → P s' := by
  intro cs
  induction cs with
  | nil =>
    intro bus s s' _ h hr
    cases hr
    exact h
  | cons c cs ih =>
    intro bus s s' hq h hr
    obtain ⟨s₁, h₁, hr⟩ := except_bind_eq_ok hr
    exact ih _ s₁ s' (fun i => hq (i + 1)) (hstep _ c s s₁ (hq 0) h h₁) hr

/-- When every call with property `R` from a state with property `P`, on results of the layers
below with property `Q`, returns a state with `P`, every run of such calls on such results
from such a state returns. -/
theorem execLib_returns (Q : Bus → Prop) (R : LibCall α → Prop) (P : Library α m → Prop)
    (hstep : ∀ b c s, Q b → R c → P s → ∃ s', libStep (p.withBus b) c s = .ok s' ∧ P s') :
    ∀ cs bus s, (∀ i, Q (bus i)) → (∀ c ∈ cs, R c) → P s → ∃ s', execLib p bus cs s = .ok s' := by
  intro cs
  induction cs with
  | nil => exact fun _ s _ _ _ => ⟨s, rfl⟩
  | cons c cs ih =>
    intro bus s hq hr h
    obtain ⟨s₁, h₁, hP⟩ := hstep _ c s (hq 0) (hr c (List.mem_cons_self c cs)) h
    obtain ⟨s', h'⟩ := ih _ s₁ (fun i => hq (i + 1)) (fun c hc => hr c (List.mem_cons_of_mem _ hc)) hP
    exact ⟨s', by rw [execLib, h₁, except_ok_bind, h']⟩

end Runs

/-! ### What one call changes -/

section Step

variable {p : Platform}

variable {c : LibCall α} {s s' : Library α m}

/-- What one call can do: a session call, a setter, a switch or a calibration call runs its
function on the state, and every other call keeps the four owned parts. -/
theorem libStep_cases (h : libStep p c s = .ok s') :
    (∃ sc, c = .session sc ∧ s'.st = (sessionStep p sc s.st).2) ∨
    (∃ ic, c = .interrupt ic ∧ s'.st = (interruptStep p ic s.st).2) ∨
    (∃ bc, c = .bias bc ∧ s'.st = (biasStep p bc s.st).2) ∨
    (∃ cc, c = .calibration cc ∧ calibrationStep p s.cfg cc s.st = .ok s'.st) ∨
    (s'.st.control = s.st.control ∧ c.toBias = none) := by
  cases c with
  | session sc => cases h; exact .inl ⟨sc, rfl, rfl⟩
  | interrupt ic => cases h; exact .inr (.inl ⟨ic, rfl, rfl⟩)
  | bias bc => cases h; exact .inr (.inr (.inl ⟨bc, rfl, rfl⟩))
  | calibration cc =>
    obtain ⟨_, hr, rfl⟩ := except_map_eq_ok h
    exact .inr (.inr (.inr (.inl ⟨cc, rfl, hr⟩)))
  | dmpInterruptCb =>
    obtain ⟨_, -, rfl⟩ := except_map_eq_ok h
    exact .inr (.inr (.inr (.inr ⟨rfl, rfl⟩)))
  | setMpuSensors sensors =>
    obtain ⟨_, hr, rfl⟩ := except_map_eq_ok h
    exact .inr (.inr (.inr (.inr ⟨invSetMpuSensors_control p _ sensors _ hr, rfl⟩)))
  | data dc =>
    obtain ⟨_, hr, rfl⟩ := except_map_eq_ok h
    exact .inr (.inr (.inr (.inr ⟨dataStep_control _ _ dc hr, rfl⟩)))

/-- Only a session call changes the session's part. -/
theorem libStep_sessionPart (h : libStep p c s = .ok s') :
    s'.st.sessionPart = s.st.sessionPart ∨ ∃ sc, s'.st = (sessionStep p sc s.st).2 := by
  rcases libStep_cases h with ⟨sc, -, he⟩ | ⟨ic, -, he⟩ | ⟨bc, -, he⟩ | ⟨cc, -, he⟩ | ⟨hc, -⟩
  · exact .inr ⟨sc, he⟩
  · exact .inl (he ▸ (interruptStep_parts p ic s.st).1)
  · exact .inl (he ▸ (biasStep_parts p bc s.st).1)
  · exact .inl (congrArg (·.1) (calibrationStep_modeParts _ cc he))
  · exact .inl (congrArg (·.1.1) hc)

/-- Only an interrupt-source setter changes the setters' part. -/
theorem libStep_interruptPart (h : libStep p c s = .ok s') :
    s'.st.interruptPart = s.st.interruptPart ∨ ∃ ic, s'.st = (interruptStep p ic s.st).2 := by
  rcases libStep_cases h with ⟨sc, -, he⟩ | ⟨ic, -, he⟩ | ⟨bc, -, he⟩ | ⟨cc, -, he⟩ | ⟨hc, -⟩
  · exact .inl (he ▸ (sessionStep_parts p sc s.st).1)
  · exact .inr ⟨ic, he⟩
  · exact .inl (he ▸ (biasStep_parts p bc s.st).2.1)
  · exact .inl (congrArg (·.2.1) (calibrationStep_modeParts _ cc he))
  · exact .inl (congrArg (·.1.2.1) hc)

/-- Only a switch call changes the state callbacks. -/
theorem libStep_stateCallbacks (h : libStep p c s = .ok s') :
    (s'.st.stateCallbacks = s.st.stateCallbacks ∧ c.toBias = none) ∨
      ∃ bc, c = .bias bc ∧ s'.st = (biasStep p bc s.st).2 := by
  rcases libStep_cases h with ⟨sc, rfl, he⟩ | ⟨ic, rfl, he⟩ | hb | ⟨cc, rfl, he⟩ | ⟨hc, hn⟩
  · exact .inl ⟨he ▸ (sessionStep_parts p sc s.st).2.1, rfl⟩
  · exact .inl ⟨he ▸ (interruptStep_parts p ic s.st).2.1, rfl⟩
  · exact .inr hb
  · exact .inl ⟨congrArg (·.2.2) (calibrationStep_modeParts _ cc he), rfl⟩
  · exact .inl ⟨congrArg (·.1.2.2) hc, hn⟩

/-- Only a calibration call changes the mounting scalars. -/
theorem libStep_mountPart (h : libStep p c s = .ok s') :
    s'.st.mountPart = s.st.mountPart ∨
      ∃ cc, c = .calibration cc ∧ calibrationStep p s.cfg cc s.st = .ok s'.st := by
  rcases libStep_cases h with ⟨sc, -, he⟩ | ⟨ic, -, he⟩ | ⟨bc, -, he⟩ | hc | ⟨hc, -⟩
  · exact .inl (he ▸ (sessionStep_parts p sc s.st).2.2)
  · exact .inl (he ▸ (interruptStep_parts p ic s.st).2.2)
  · exact .inl (he ▸ (biasStep_parts p bc s.st).2.2)
  · exact .inr hc
  · exact .inl (congrArg Prod.snd hc)

/-- Only `inv_set_mpu_sensors` changes the configuration. -/
theorem libStep_cfg (h : libStep p c s = .ok s') :
    s'.cfg = s.cfg ∨ ∃ sensors e, invSetMpuSensors p s.cfg sensors s.st = .ok (e, s'.cfg, s'.st) := by
  cases c with
  | setMpuSensors sensors =>
    obtain ⟨r, hr, rfl⟩ := except_map_eq_ok h
    exact .inr ⟨sensors, r.1, hr⟩
  | dmpInterruptCb => obtain ⟨_, -, rfl⟩ := except_map_eq_ok h; exact .inl rfl
  | calibration => obtain ⟨_, -, rfl⟩ := except_map_eq_ok h; exact .inl rfl
  | data => obtain ⟨_, -, rfl⟩ := except_map_eq_ok h; exact .inl rfl
  | _ => cases h; exact .inl rfl

/-- A call changes the configuration at most in `requested_sensors`. -/
theorem libStep_cfg_eq (h : libStep p c s = .ok s') :
    ∃ sensors, s'.cfg = { s.cfg with requestedSensors := sensors } := by
  rcases libStep_cfg h with he | ⟨sensors, e, he⟩
  · exact ⟨s.cfg.requestedSensors, he⟩
  rcases invSetMpuSensors_cfg he with ⟨hc, -⟩ | ⟨-, -, hc⟩
  exacts [⟨s.cfg.requestedSensors, hc⟩, ⟨sensors, hc⟩]

/-- Only a registry call changes the callback table. -/
theorem libStep_cbs (h : libStep p c s = .ok s') :
    (s'.cbs = s.cbs ∧ c.toDmpInterruptCb = none) ∨
      ∃ cc e, c = .dmpInterruptCb cc ∧ callbackStep cc s.cbs = .ok (e, s'.cbs) := by
  cases c with
  | dmpInterruptCb cc =>
    obtain ⟨r, hr, rfl⟩ := except_map_eq_ok h
    exact .inr ⟨cc, r.1, rfl, hr⟩
  | setMpuSensors => obtain ⟨_, -, rfl⟩ := except_map_eq_ok h; exact .inl ⟨rfl, rfl⟩
  | calibration => obtain ⟨_, -, rfl⟩ := except_map_eq_ok h; exact .inl ⟨rfl, rfl⟩
  | data => obtain ⟨_, -, rfl⟩ := except_map_eq_ok h; exact .inl ⟨rfl, rfl⟩
  | _ => cases h; exact .inl ⟨rfl, rfl⟩

end Step

/-! ### The invariant -/

/-- What every call keeps, whatever the layers below return. -/
structure LibInvariant (p : Platform) (s : Library α m) : Prop where
  /-- The interrupt-source record holds only the three sources, and the DMP interrupt is
  enabled while one of them is recorded. -/
  sources : SourcesConsistent p s.st
  /-- No state callback is registered twice. -/
  stateCallbacks_nodup : s.st.stateCallbacks.Nodup
  /-- `requested_sensors` is a mask that `inv_set_mpu_sensors` accepts. -/
  requested : SensorsWellFormed p s.cfg s.cfg.requestedSensors

/-- Every call keeps the invariant, whatever the layers below return. -/
theorem libStep_invariant {p : Platform} {b : Bus} {c : LibCall α} {s s' : Library α m}
    (h : LibInvariant p s) (hs : libStep (p.withBus b) c s = .ok s') : LibInvariant p s' where
  sources := by
    rcases libStep_interruptPart hs with he | ⟨ic, he⟩
    · exact h.sources.of_interruptPart he
    · exact he ▸ sourcesConsistent_withBus.1
        (interruptStep_consistent _ ic (sourcesConsistent_withBus.2 h.sources))
  stateCallbacks_nodup := by
    rcases libStep_stateCallbacks hs with ⟨he, -⟩ | ⟨bc, -, he⟩
    · exact he ▸ h.stateCallbacks_nodup
    · exact he ▸ (biasStep_spec _ bc s.st h.stateCallbacks_nodup).1
  requested := by
    rcases libStep_cfg hs with he | ⟨sensors, e, he⟩
    · exact he ▸ h.requested
    rcases invSetMpuSensors_cfg he with ⟨hc, -⟩ | ⟨-, hw, hc⟩
    · exact hc ▸ h.requested
    · exact hc ▸ (sensorsError_eq_none_iff _ s.cfg sensors).1 hw

/-- Over every run of the library, whatever each call of the layers below returns and in
whatever order the calls come: the interrupt-source record holds only `INV_INT_MOTION`,
`INV_INT_FIFO` and `INV_INT_DMP_DR`, and the last `inv_set_dl_cfg_int` that succeeded enabled
the DMP interrupt while one is recorded; no state callback is registered twice; and
`requested_sensors` is a mask whose three-axis groups are each off, or whole with their slave
described. -/
theorem execLib_invariant (p : Platform) (bus : Nat → Bus) (cs : List (LibCall α))
    (s s' : Library α m) (h : LibInvariant p s) (hrun : execLib p bus cs s = .ok s') :
    LibInvariant p s' :=
  execLib_preserves p (fun _ => True) (LibInvariant p)
    (fun _ _ _ _ _ h hs => libStep_invariant h hs) cs bus s s' (fun _ => trivial) h hrun

/-- On the sample platform, with an identity gyro and the DMP opened: the FIFO interrupt
turned on, the
low-pass-filter bias enabled with `check_compass` on a bus that rejects its `KEY_FCFG_5`
write, an empty mask, a registration, the calibration applied and a flag checked. -/
theorem execLib_invariant_opened :
    LibInvariant Platform.sample (⟨{ (default : MldlCfg) with
      gyroOrientation := ![1, 0, 0, 0, 1, 0, 0, 0, 1] }, { (default : MlState) with state := .dmpOpened },
      invInitMlCb⟩ : Library Nat 2) ∧
    ∃ s', execLib Platform.sample
        (fun i => if i = 1 then { (default : Bus) with
          setMpuMemory := fun k _ => if k = .keyFcfg5 then .errorMemorySet else .success }
          else default)
        [.interrupt (.fifo 1), .bias (.enableLpf true true), .setMpuSensors 0,
          .dmpInterruptCb (.register (some 7)), .calibration .apply, .data (.checkFlag 6)]
        (⟨{ (default : MldlCfg) with gyroOrientation := ![1, 0, 0, 0, 1, 0, 0, 0, 1] },
          { (default : MlState) with state := .dmpOpened }, invInitMlCb⟩ : Library Nat 2) = .ok s' ∧
      LibInvariant Platform.sample s' :=
  have h0 : LibInvariant Platform.sample (⟨{ (default : MldlCfg) with
      gyroOrientation := ![1, 0, 0, 0, 1, 0, 0, 0, 1] }, { (default : MlState) with state := .dmpOpened },
      invInitMlCb⟩ : Library Nat 2) :=
    ⟨.of_zero rfl, List.nodup_nil, by decide⟩
  ⟨h0, except_exists_ok_and ⟨_, rfl⟩ fun _ hs => execLib_invariant _ _ _ _ _ h0 hs⟩

/-! ### The session -/

/-- When the rollback transition and the close succeed at every call, every run of the library
from a state that is `SERIAL_CLOSED` exactly when no port is open keeps it so, whatever the
other results of the layers below and whatever other calls are interleaved with the starts
and stops. -/
theorem execLib_session (p : Platform) (bus : Nat → Bus)
    (hp : ∀ i, (p.withBus (bus i)).SessionResultsSucceed) (cs : List (LibCall α))
    (s s' : Library α m) (h : SessionConsistent s.st) (hrun : execLib p bus cs s = .ok s') :
    SessionConsistent s'.st := by
  refine execLib_preserves p (fun b => (p.withBus b).SessionResultsSucceed)
    (fun s => SessionConsistent s.st) (fun b c s s' hb h hs => ?_) cs bus s s' hp h hrun
  rcases libStep_sessionPart hs with he | ⟨sc, he⟩
  · exact h.of_sessionPart he
  · rw [he]
    exact sessionStep_consistent _ hb sc h

/-- A start whose open fails, a start, a reset, a stop and a start again from the initial
state, on the sample platform. -/
theorem execLib_session_restart :
    (∀ i, (Platform.sample.withBus (if i = 0 then { (default : Bus) with
      serialOpen := .other 1 } else default)).SessionResultsSucceed) ∧
    SessionConsistent (default : MlState) ∧
    ∃ s', execLib Platform.sample
        (fun i => if i = 0 then { (default : Bus) with serialOpen := .other 1 } else default)
        [.session .start, .session .start, .data .resetMotion, .session .stop, .session .start]
        (⟨default, default, invInitMlCb⟩ : Library Nat 2) = .ok s' ∧ SessionConsistent s'.st :=
  have hp : ∀ i, (Platform.sample.withBus (if i = 0 then { (default : Bus) with
      serialOpen := .other 1 } else default)).SessionResultsSucceed := fun i => by
    by_cases h : i = 0 <;> simp only [h, if_true, if_false] <;> exact ⟨rfl, rfl⟩
  have h0 : SessionConsistent (default : MlState) := Iff.intro (fun _ => rfl) fun _ => rfl
  ⟨hp, h0, except_exists_ok_and ⟨_, rfl⟩ fun _ hs => execLib_session _ _ hp _ _ _ h0 hs⟩

/-! ### No fault -/

section Returns

variable {p : Platform} {b : Bus} {c : LibCall α} {s s' : Library α m}

/-- A call keeps the accelerometer platform data. -/
theorem libStep_accelPdata (hs : libStep (p.withBus b) c s = .ok s') :
    s'.cfg.accelPdataOrientation = s.cfg.accelPdataOrientation := by
  obtain ⟨_, he⟩ := libStep_cfg_eq hs
  rw [he]

/-- A call keeps well-formed platform data. -/
theorem libStep_wellMounted (h : WellMounted p s.cfg) (hs : libStep (p.withBus b) c s = .ok s') :
    WellMounted p s'.cfg := by
  obtain ⟨_, he⟩ := libStep_cfg_eq hs
  rw [he]
  exact ⟨h.gyro_rows, h.accel_rows, h.accel_slave, h.accel_trim, h.compass_slave⟩

/-- A call keeps a callback table that represents a registry. -/
theorem libStep_registry (ht : ∃ r : Registry α m, s.cbs.entries = r.entries)
    (hs : libStep (p.withBus b) c s = .ok s') : ∃ r : Registry α m, s'.cbs.entries = r.entries := by
  obtain ⟨r, hr⟩ := ht
  rcases libStep_cbs hs with ⟨he, -⟩ | ⟨cc, e, -, hc⟩
  · exact ⟨r, by rw [he, hr]⟩
  · obtain ⟨t, ht, hte⟩ := callbackStep_refines cc s.cbs r hr
    obtain ⟨-, rfl⟩ := Prod.mk.inj (Except.ok.inj (hc.symm.trans ht))
    exact ⟨_, hte⟩

/-- An admissible call keeps mounting scalars that decode. -/
theorem libStep_mountsDecodable (h : WellMounted p s.cfg)
    (hc : c.Admissible p s.cfg.accelPdataOrientation.isSome) (hd : MountsDecodable s.cfg s.st)
    (hs : libStep (p.withBus b) c s = .ok s') : MountsDecodable s'.cfg s'.st := by
  have hpd := libStep_accelPdata hs
  rcases libStep_mountPart hs with he | ⟨cc, rfl, hcal⟩
  · exact hd.of_eq he hpd
  · exact (calibrationStep_mountsDecodable (h.withBus b) hc hd hcal).of_eq rfl hpd

/-- With well-formed platform data, a callback table that represents a registry, mounting
scalars that decode and a defined shift in `inv_set_mpu_6050_config`, an admissible call
returns. -/
theorem libStep_returns (h : WellMounted p s.cfg) (ht : ∃ r : Registry α m, s.cbs.entries = r.entries)
    (hd : MountsDecodable s.cfg s.st) (ha : (p.withBus b).ActTempDefined)
    (hc : c.Admissible p s.cfg.accelPdataOrientation.isSome) :
    ∃ s', libStep (p.withBus b) c s = .ok s' := by
  obtain ⟨r, hr⟩ := ht
  cases c with
  | dmpInterruptCb cc =>
    obtain ⟨t, hc, -⟩ := callbackStep_refines cc s.cbs r hr
    exact ⟨{ s with cbs := t }, by rw [libStep, hc]; rfl⟩
  | setMpuSensors sensors =>
    obtain ⟨r', hx⟩ := invSetMpuSensors_ok (p.withBus b) s.cfg sensors s.st
      (fun hs => by rwa [← h.accel_slave]) h.accel_rows
    exact ⟨_, by rw [libStep, hx]; rfl⟩
  | calibration cc =>
    cases cc with
    | apply =>
      obtain ⟨r', hx⟩ := invApplyCalibration_ok (p.withBus b) s.cfg s.st (h.withBus b)
      exact ⟨_, by rw [libStep, calibrationStep, hx]; rfl⟩
    | setAccelMounting => exact ⟨_, rfl⟩
  | data dc =>
    obtain ⟨st', hx⟩ := dataStep_ok (h.withBus b) (num_le_of_entries hr) ha hd dc hc
    exact ⟨{ s with st := st' }, by rw [libStep, hx]; rfl⟩
  | _ => exact ⟨_, rfl⟩

end Returns

/-- With platform data that `inv_apply_calibration` can use (a nonzero entry in each row of
the gyro matrix and of the accelerometer matrix, an accelerometer slave exactly when there is
accelerometer data, a nonzero trim for an MPU6050 accelerometer, a compass slave for compass
data), a callback table that represents a registry, as `inv_init_ml_cb` leaves it, and
mounting scalars that decode: no run of admissible calls faults, whatever their order and
whatever each call of the layers below returns, as long as every serial read of the self-test
bytes that succeeds gives a field of `atc[3]` below 32. Admissible calls check flags within
`sys->flags`, mount matrices with a nonzero entry in each row, and call `inv_accel_var_cal`
only with accelerometer platform data. -/
theorem execLib_ok (p : Platform) (bus : Nat → Bus) (cs : List (LibCall α)) (s : Library α m)
    (h : WellMounted p s.cfg) (ht : ∃ r : Registry α m, s.cbs.entries = r.entries)
    (hd : MountsDecodable s.cfg s.st) (ha : ∀ i, (p.withBus (bus i)).ActTempDefined)
    (hc : ∀ c ∈ cs, c.Admissible p s.cfg.accelPdataOrientation.isSome) :
    ∃ s', execLib p bus cs s = .ok s' :=
  execLib_returns p (fun b => (p.withBus b).ActTempDefined)
    (fun c => c.Admissible p s.cfg.accelPdataOrientation.isSome)
    (fun t => WellMounted p t.cfg ∧ (∃ r : Registry α m, t.cbs.entries = r.entries) ∧
      MountsDecodable t.cfg t.st ∧ t.cfg.accelPdataOrientation = s.cfg.accelPdataOrientation)
    (fun _ c t hb hc ⟨h, ht, hd, hpd⟩ => by
      rw [← hpd] at hc
      obtain ⟨t', hs⟩ := libStep_returns h ht hd hb hc
      exact ⟨t', hs, libStep_wellMounted h hs, libStep_registry ht hs,
        libStep_mountsDecodable h hc hd hs, (libStep_accelPdata hs).trans hpd⟩)
    cs bus s ha hc ⟨h, ht, hd, rfl⟩

/-- On the sample platform, with a rotated gyro, an identity-mounted accelerometer with id 1
and the table of `inv_init_ml_cb`: the calibration applied, the accelerometer remounted and
calibrated again, a flag checked, the self-test trim written from bytes read at the fifth
call, the accelerometer turned on, a data update and the 8-bit fusion program. -/
theorem execLib_ok_rotation :
    WellMounted Platform.sample { (default : MldlCfg) with
      gyroOrientation := ![0, 0, -1, 1, 0, 0, 0, -1, 0],
      accelPdataOrientation := some ![1, 0, 0, 0, 1, 0, 0, 0, 1], accelSlaveId := some 1 } ∧
    (∃ r : Registry Nat 2, (invInitMlCb : CallbackInterrupt Nat 2).entries = r.entries) ∧
    MountsDecodable { (default : MldlCfg) with
      gyroOrientation := ![0, 0, -1, 1, 0, 0, 0, -1, 0],
      accelPdataOrientation := some ![1, 0, 0, 0, 1, 0, 0, 0, 1], accelSlaveId := some 1 }
      { (default : MlState) with state := .dmpOpened } ∧
    (∀ i, (Platform.sample.withBus (if i = 4 then { (default : Bus) with
      serialReadAtc := (.success, ![0x20, 0x05, 0x3f, 0x11]) } else default)).ActTempDefined) ∧
    (∀ c ∈ ([.calibration .apply, .calibration (.setAccelMounting ![0, 1, 0, 1, 0, 0, 0, 0, -1]),
        .data .accelVarCal, .data (.checkFlag 6), .data .mpu6050Config, .setMpuSensors 0x70,
        .data .updateData, .data .fusion8bit] : List (LibCall Nat)),
      c.Admissible Platform.sample true) ∧
    ∃ s', execLib Platform.sample (fun i => if i = 4 then { (default : Bus) with
        serialReadAtc := (.success, ![0x20, 0x05, 0x3f, 0x11]) } else default)
        [.calibration .apply, .calibration (.setAccelMounting ![0, 1, 0, 1, 0, 0, 0, 0, -1]),
          .data .accelVarCal, .data (.checkFlag 6), .data .mpu6050Config, .setMpuSensors 0x70,
          .data .updateData, .data .fusion8bit]
        (⟨{ (default : MldlCfg) with
          gyroOrientation := ![0, 0, -1, 1, 0, 0, 0, -1, 0],
          accelPdataOrientation := some ![1, 0, 0, 0, 1, 0, 0, 0, 1], accelSlaveId := some 1 },
          { (default : MlState) with state := .dmpOpened }, invInitMlCb⟩ : Library Nat 2) =
        .ok s' :=
  have h : WellMounted Platform.sample { (default : MldlCfg) with
      gyroOrientation := ![0, 0, -1, 1, 0, 0, 0, -1, 0],
      accelPdataOrientation := some ![1, 0, 0, 0, 1, 0, 0, 0, 1], accelSlaveId := some 1 } :=
    ⟨by decide, fun m hm => by cases hm; decide, rfl, fun h => absurd h (by decide), nofun⟩
  have hd : MountsDecodable { (default : MldlCfg) with
      gyroOrientation := ![0, 0, -1, 1, 0, 0, 0, -1, 0],
      accelPdataOrientation := some ![1, 0, 0, 0, 1, 0, 0, 0, 1], accelSlaveId := some 1 }
      { (default : MlState) with state := .dmpOpened } :=
    ⟨by decide, fun _ => by decide⟩
  have ha : ∀ i, (Platform.sample.withBus (if i = 4 then { (default : Bus) with
      serialReadAtc := (.success, ![0x20, 0x05, 0x3f, 0x11]) } else default)).ActTempDefined :=
    fun i => by
      by_cases hi : i = 4 <;> simp only [hi, if_true, if_false] <;> decide
  have hc : ∀ c ∈ ([.calibration .apply,
      .calibration (.setAccelMounting ![0, 1, 0, 1, 0, 0, 0, 0, -1]), .data .accelVarCal,
      .data (.checkFlag 6), .data .mpu6050Config, .setMpuSensors 0x70, .data .updateData,
      .data .fusion8bit] : List (LibCall Nat)), c.Admissible Platform.sample true := by
    simp only [List.mem_cons, List.mem_singleton, List.not_mem_nil, or_false]
    rintro c (rfl | rfl | rfl | rfl | rfl | rfl | rfl | rfl)
    · trivial
    · exact (by decide : ∀ i : Fin 3, ∃ j : Fin 3, Mount.entry ![0, 1, 0, 1, 0, 0, 0, 0, -1] i j ≠ 0)
    · rfl
    · exact ⟨by decide, by decide⟩
    all_goals trivial
  ⟨h, ⟨Registry.empty, rfl⟩, hd, ha, hc, execLib_ok _ _ _ _ h ⟨Registry.empty, rfl⟩ hd ha hc⟩

/-! ### The registries -/

/-- Through every run of the library, the callback table represents the abstract registry
reached by the run's `inv_register_dmp_interupt_cb` and `inv_unregister_dmp_interupt_cb`
calls alone, whatever other calls come between them and whatever the layers below return; so
`inv_run_dmp_interupt_cb`, as the next `inv_update_data` calls it, calls exactly that
registry's callbacks, in order. -/
theorem execLib_table (p : Platform) (bus : Nat → Bus) (cs : List (LibCall α))
    (s s' : Library α m) (r : Registry α m) (h : s.cbs.entries = r.entries)
    (hrun : execLib p bus cs s = .ok s') :
    s'.cbs.entries = (r.exec (cs.filterMap LibCall.toDmpInterruptCb)).2.entries ∧
    invRunDmpInteruptCb s'.cbs = .ok (r.exec (cs.filterMap LibCall.toDmpInterruptCb)).2.invoked := by
  have he : s'.cbs.entries = (r.exec (cs.filterMap LibCall.toDmpInterruptCb)).2.entries := by
    induction cs generalizing s r bus with
    | nil =>
      cases hrun
      exact h
    | cons c cs ih =>
      obtain ⟨s₁, h₁, hrun₁⟩ := except_bind_eq_ok hrun
      rcases libStep_cbs h₁ with ⟨hc, hn⟩ | ⟨cc, e, rfl, hc⟩
      · rw [List.filterMap_cons_none hn]
        exact ih _ s₁ r (by rw [hc]; exact h) hrun₁
      · obtain ⟨t, ht, hte⟩ := callbackStep_refines cc s.cbs r h
        obtain ⟨-, rfl⟩ := Prod.mk.inj (Except.ok.inj (hc.symm.trans ht))
        exact ih _ s₁ _ hte hrun₁
  refine ⟨he, ?_⟩
  rw [invRunDmpInteruptCb_eq _ (num_le_of_entries he), he]
  rfl

/-- Two registrations around a session start and a data update, then an unregistration, on
the sample platform whose FIFO processing fails at the fourth call. -/
theorem execLib_table_registrations :
    (invInitMlCb : CallbackInterrupt Nat 2).entries = (Registry.empty : Registry Nat 2).entries ∧
    ∃ s', execLib Platform.sample
        (fun i => if i = 3 then { (default : Bus) with readAndProcessFifo := fun _ => .error }
          else default)
        [.dmpInterruptCb (.register (some 1)), .session .start,
          .dmpInterruptCb (.register (some 2)), .data .updateData,
          .dmpInterruptCb (.unregister (some 1))]
        (⟨default, default, invInitMlCb⟩ : Library Nat 2) = .ok s' ∧
      s'.cbs.entries = ((Registry.empty : Registry Nat 2).exec (([.dmpInterruptCb
        (.register (some 1)), .session .start, .dmpInterruptCb (.register (some 2)),
        .data .updateData, .dmpInterruptCb (.unregister (some 1))] : List (LibCall Nat)).filterMap
          LibCall.toDmpInterruptCb)).2.entries ∧
      invRunDmpInteruptCb s'.cbs = .ok ((Registry.empty : Registry Nat 2).exec
        (([.dmpInterruptCb (.register (some 1)), .session .start,
          .dmpInterruptCb (.register (some 2)), .data .updateData,
          .dmpInterruptCb (.unregister (some 1))] : List (LibCall Nat)).filterMap
            LibCall.toDmpInterruptCb)).2.invoked :=
  ⟨rfl, except_exists_ok_and ⟨_, rfl⟩ fun _ hs => execLib_table _ _ _ _ _ _ (by rfl) hs⟩

/-- When the registry calls of `mlstates.c` and `inv_set_gyro_data_source` succeed at every
call, through every run of the library from a registry without duplicates, whatever other
calls come between the switch calls and whatever the other results of the layers below, a
state callback is registered exactly when the last switch call of its feature asked for it
with `check_compass`, or, with no such call, when it was registered before. -/
theorem execLib_stateCallbacks (p : Platform) (bus : Nat → Bus)
    (hok : ∀ i, (p.withBus (bus i)).SwitchesSucceed) (cs : List (LibCall α))
    (s s' : Library α m) (hn : s.st.stateCallbacks.Nodup) (hrun : execLib p bus cs s = .ok s')
    (cb : StateCallback) :
    cb ∈ s'.st.stateCallbacks ↔
      expectedRegistered cb (cs.filterMap LibCall.toBias) (decide (cb ∈ s.st.stateCallbacks)) =
        true := by
  induction cs generalizing s bus with
  | nil =>
    cases hrun
    simp [expectedRegistered]
  | cons c cs ih =>
    obtain ⟨s₁, h₁, hrun₁⟩ := except_bind_eq_ok hrun
    have ih' := ih _ (fun i => hok (i + 1)) s₁
    rcases libStep_stateCallbacks h₁ with ⟨he, hnb⟩ | ⟨bc, rfl, he⟩
    · rw [List.filterMap_cons_none hnb, ih' (by rw [he]; exact hn) hrun₁, he]
    obtain ⟨h1, h2, h3⟩ := biasStep_spec _ bc s.st hn
    rw [List.filterMap_cons_some (show LibCall.toBias (.bias bc : LibCall α) = some bc from rfl),
      expectedRegistered, ih' (by rw [he]; exact h1) hrun₁, he]
    suffices h : decide (cb ∈ (biasStep (p.withBus (bus 0)) bc s.st).2.stateCallbacks) =
        if bc.target.1 = cb then bc.target.2 else decide (cb ∈ s.st.stateCallbacks) by rw [h]
    split_ifs with hc
    · subst hc
      exact Bool.eq_iff_iff.2 (by simpa using h3 (hok 0))
    · exact Bool.eq_iff_iff.2 (by simpa using h2 cb (Ne.symm hc))

/-- The low-pass-filter bias enabled with `check_compass`, then gravity enabled and disabled,
around a session start and a reset whose writes fail, on the sample platform. -/
theorem execLib_stateCallbacks_lpf :
    (∀ i, (Platform.sample.withBus (if i = 3 then { (default : Bus) with
      setMpuMemory := fun _ _ => .errorMemorySet } else default)).SwitchesSucceed) ∧
    (default : MlState).stateCallbacks.Nodup ∧
    ∃ s', execLib Platform.sample (fun i => if i = 3 then { (default : Bus) with
          setMpuMemory := fun _ _ => .errorMemorySet } else default)
        [.bias (.enableLpf true true), .session .start, .bias (.enableGravity true true),
          .data .resetMotion, .bias .disableGravity]
        (⟨default, default, invInitMlCb⟩ : Library Nat 2) = .ok s' ∧
      (StateCallback.biasFromLpf ∈ s'.st.stateCallbacks ↔
        expectedRegistered .biasFromLpf (([.bias (.enableLpf true true), .session .start,
          .bias (.enableGravity true true), .data .resetMotion, .bias .disableGravity] :
            List (LibCall Nat)).filterMap LibCall.toBias)
          (decide (StateCallback.biasFromLpf ∈ (default : MlState).stateCallbacks)) = true) :=
  have hok : ∀ i, (Platform.sample.withBus (if i = 3 then { (default : Bus) with
      setMpuMemory := fun _ _ => .errorMemorySet } else default)).SwitchesSucceed := fun i => by
    by_cases h : i = 3 <;> simp only [h, if_true, if_false] <;>
      exact ⟨rfl, fun _ => rfl, fun _ => rfl, fun _ => rfl⟩
  ⟨hok, List.nodup_nil, except_exists_ok_and ⟨_, rfl⟩ fun _ hs =>
    execLib_stateCallbacks _ _ hok _ _ _ List.nodup_nil hs _⟩

end InvensenseMpl
