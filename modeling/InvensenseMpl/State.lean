import InvensenseMpl.Orientation

/-!
# Library state and platform

The globals of `ml.c` and the fields of `inv_obj` and `struct mldl_cfg` that the
calibration functions read and write (`src/invensense/libsensors/mlsdk/mllite/ml.c`).
`long` values are `Int`: the model does not wrap, and a C run that overflows one is
undefined. What `ml.c` takes from headers and files outside `src/` (the `DINA*` opcode
bytes of `dmpDefault.h`, `inv_q30_mult`, `inv_set_mpu_memory`, …) is a `Platform`
parameter, so that every result holds for every choice of them.
-/

namespace InvensenseMpl

/-- The `KEY_*` DMP memory locations that the modelled functions write (`dmpKey.h`). -/
inductive DmpKey
  | keyD_1_152
  | keyFcfg1
  | keyFcfg2
  | keyFcfg3
  | keyFcfg7
  | keyD_0_104
  | keyD_0_108
  | keyCfg6
  | keyCfg7
  | keyCfgDrInt
  | keyFcfgAz
  | keyFcfgFscale
  | keyDAct0
  | keyDAcsx
  | keyDAcsy
  | keyDAcsz
  | keyD_1_106
  | keyD_1_96
  | keyD_0_96
  | keyD_2_96
  | keyD_0_163
  | keyFcfg5
  | keyD_1_236
  | keyD_1_108
  /-- `keyList[k]` of `inv_set_compass_calibration`: `KEY_CPASS_MTX_00` … `KEY_CPASS_MTX_22`. -/
  | keyCpassMtx (k : Fin 9)
  deriving DecidableEq, Repr, Inhabited

/-- The `DINA*` opcode bytes of `dmpDefault.h` that the modelled functions emit. -/
structure Dina where
  dina0C : UInt8
  dinaC9 : UInt8
  dina2C : UInt8
  dina4C : UInt8
  dinaCD : UInt8
  dina6C : UInt8
  dinaCF : UInt8
  dina80 : UInt8
  dina2D : UInt8
  dina35 : UInt8
  dina3D : UInt8
  dina55 : UInt8
  dina7D : UInt8
  dina90 : UInt8
  dina26 : UInt8
  dina46 : UInt8
  dina66 : UInt8
  dina76 : UInt8
  dina36 : UInt8
  dina56 : UInt8
  dinaFE : UInt8
  dinaD8 : UInt8
  dinD40 : UInt8
  dinaCC : UInt8
  dina0E : UInt8
  dinaCE : UInt8
  dinaCB : UInt8
  dina0A : UInt8
  dinaC3 : UInt8
  dinaA0 : UInt8
  dina3E : UInt8
  dina5E : UInt8
  dina7E : UInt8
  dinaC2 : UInt8
  dinaF8 : UInt8
  dina54 : UInt8
  dina50 : UInt8
  dina7C : UInt8
  dina78 : UInt8
  dina28 : UInt8
  deriving Inhabited

/-- The state-change callbacks of `ml.c` that `inv_register_state_callback` of `mlstates.c`
keeps. -/
inductive StateCallback
  | deadZone
  | biasFromLpf
  | biasFromGravity
  deriving DecidableEq, Repr, Inhabited

/-- `slave->endian`: `EXT_SLAVE_LITTLE_ENDIAN`, `EXT_SLAVE_BIG_ENDIAN`,
`EXT_SLAVE_FS8_BIG_ENDIAN`, `EXT_SLAVE_FS16_BIG_ENDIAN`, or another value. -/
inductive SlaveEndian
  | little
  | big
  | fs8Big
  | fs16Big
  | other (value : Int)
  deriving DecidableEq, Repr, Inhabited

/-- `MPU_SLAVE_CONFIG_ODR_RESUME` and `MPU_SLAVE_CONFIG_IRQ_RESUME`. -/
inductive SlaveConfigKey
  | odrResume
  | irqResume
  deriving DecidableEq, Repr, Inhabited

/-- The calls of `inv_set_mpu_sensors` into `mldl.c`, `mlFIFO.c` and the mode-change callback,
with their arguments. -/
inductive MpuCall
  /-- `inv_mpu_config_accel` with `config.key`, `config.apply` and `*config.data`. -/
  | configAccel (key : SlaveConfigKey) (apply : Bool) (data : Int)
  | initFifoHardware
  /-- `mode_change_cb(requested_sensors, sensors)`. -/
  | modeChange (requested sensors : Nat)
  | dlStart (sensors : Nat)
  /-- `inv_dl_stop(~sensors)`. -/
  | dlStopAllBut (sensors : Nat)
  | setFifoRate (rate : Nat)
  deriving DecidableEq, Repr

/-- `INV_GYRO_FROM_RAW` and `INV_GYRO_FROM_QUATERNION`: the sources `inv_set_gyro_data_source`
selects. -/
inductive GyroSource
  | fromRaw
  | fromQuaternion
  deriving DecidableEq, Repr, Inhabited

/-- The results of the calls `ml.c` makes into the layers below it, outside `src/`: the serial
bus, the DMP loader, the state machine of `mlstates.c`, the FIFO and the OS. They can differ
from one call of the library to the next. -/
structure Bus where
  /-- The result of `inv_set_mpu_memory(key, length, bytes)` on the serial bus. -/
  setMpuMemory : DmpKey → List UInt8 → InvError
  /-- The result of `inv_set_dl_cfg_int(v)` of `mldl.c`. -/
  setDlCfgInt : UInt8 → InvError
  /-- `inv_serial_read(handle, mpu_addr, 0x0d, 4, atc)` of `mlsl.c`: its result, and the four
  accelerometer self-test bytes it reads into `atc`. -/
  serialReadAtc : InvError × (Fin 4 → UInt8)
  /-- `inv_get_tick_count()` of the OS layer. -/
  tickCount : Nat
  /-- The result of `inv_set_gyro_bias_in_dps(bias, 0)` of `mlBiasNoMotion.c`. -/
  setGyroBiasInDps : (Fin 3 → Int) → InvError
  /-- The results of `inv_check_state_callback`, `inv_register_state_callback` and
  `inv_unregister_state_callback` of `mlstates.c`. -/
  checkStateCallback : InvError
  registerStateCallback : StateCallback → InvError
  unregisterStateCallback : StateCallback → InvError
  /-- The result of `inv_set_gyro_data_source(source)`. -/
  setGyroDataSource : GyroSource → InvError
  /-- The results of `inv_state_transition(state)` of `mlstates.c`, and of `inv_serial_open`
  and `inv_serial_close` of `mlsl.c`. -/
  stateTransition : InvState → InvError
  serialOpen : InvError
  serialClose : InvError
  /-- The results of `inv_read_and_process_fifo(ftry, &got)` and `inv_get_fifo_status()` of
  `mlFIFO.c`. -/
  readAndProcessFifo : Nat → InvError
  fifoStatus : InvError
  /-- `inv_mpu_get_sampling_rate_hz(mldl_cfg->mpu_gyro_cfg)`. -/
  samplingRateHz : Int
  /-- The results of the calls of `inv_set_mpu_sensors`. -/
  mpuCall : MpuCall → InvError
  deriving Inhabited

/-- Constants and external functions that `ml.c` uses but that are defined outside `src/`,
with the results of its calls into the layers below it. -/
structure Platform extends Bus where
  dina : Dina
  /-- `ACCEL_ID_KXSD9` of `mpu.h`. -/
  accelIdKxsd9 : Nat
  /-- `ACCEL_ID_MPU6050` of `mpu.h`. -/
  accelIdMpu6050 : Nat
  /-- `MPU_PRODUCT_KEY_B1_E1_5` of `mldl_cfg.h`. -/
  mpuProductKeyB1E15 : Nat
  /-- `inv_q30_mult` of `mlmath.c`. -/
  q30Mult : Int → Int → Int
  /-- `inv_int32_to_big8` of `mlmath.c`: the four bytes a `long` is written as. -/
  int32ToBig8 : Int → List UInt8
  /-- `inv_dmpkey_supported` of the DMP image. -/
  dmpkeySupported : DmpKey → Bool
  /-- `BIT_DMP_INT_EN` of `mpu.h`. -/
  bitDmpIntEn : UInt8
  /-- `INV_INT_MOTION`, `INV_INT_FIFO` and `INV_INT_DMP_DR` of `ml.h`. -/
  invIntMotion : BitVec 32
  invIntFifo : BitVec 32
  invIntDmpDr : BitVec 32
  /-- `INV_MOTION` and `INV_MOTION_STATE_CHANGE` of `ml.h`. -/
  invMotion : Nat
  invMotionStateChange : Nat
  /-- The number of elements of `inv_obj.sys->flags`, declared in a header outside `src/`. -/
  numFlags : Nat
  /-- `INTSRC_AUX1`, `INTSRC_MPU` and `INV_DMP_PROCESSOR` of the headers. -/
  intsrcAux1 : Nat
  intsrcMpu : Nat
  invDmpProcessor : Nat
  /-- `INV_THREE_AXIS_ACCEL`, `INV_THREE_AXIS_COMPASS` and `INV_THREE_AXIS_PRESSURE` of `ml.h`. -/
  invThreeAxisAccel : Nat
  invThreeAxisCompass : Nat
  invThreeAxisPressure : Nat
  /-- `MPU_ACCEL_IS_SUSPENDED`, `MPU_SLAVE_IRQ_TYPE_NONE` and `MPU_SLAVE_IRQ_TYPE_DATA_READY`. -/
  mpuAccelIsSuspended : Nat
  mpuSlaveIrqTypeNone : Int
  mpuSlaveIrqTypeDataReady : Int
  /-- `IS_INV_ADVFEATURES_ENABLED(inv_obj)`. -/
  advFeaturesEnabled : Bool
  /-- `EXT_SLAVE_BUS_SECONDARY`. -/
  extSlaveBusSecondary : Nat
  deriving Inhabited

/-- The constants of `p` with the results `b` of the layers below. -/
def Platform.withBus (p : Platform) (b : Bus) : Platform := { p with toBus := b }

/-- The fields of `struct mldl_cfg` that the calibration functions read. -/
structure MldlCfg where
  /-- `mpu_chip_info->gyro_sens_trim`. -/
  gyroSensTrim : Int
  /-- `mpu_gyro_cfg->full_scale`. -/
  fullScale : Nat
  /-- `slave[EXT_SLAVE_TYPE_ACCEL]`: absent, or present with its `id`. -/
  accelSlaveId : Option Nat
  /-- `MPL_PROD_KEY(mpu_chip_info->product_id, mpu_chip_info->product_revision)`. -/
  prodKey : Nat
  /-- `pdata->orientation`: the gyro mounting matrix. -/
  gyroOrientation : Mount
  /-- `pdata_slave[EXT_SLAVE_TYPE_ACCEL]`: absent, or present with its `orientation`. -/
  accelPdataOrientation : Option Mount
  /-- `pdata_slave[EXT_SLAVE_TYPE_COMPASS]`: absent, or present with its `orientation`. -/
  compassPdataOrientation : Option Mount
  /-- Whether `slave[EXT_SLAVE_TYPE_COMPASS]` is set. -/
  compassSlavePresent : Bool
  /-- `(long)(accelScale * 65536L)`, computed in `float` from `slave[EXT_SLAVE_TYPE_ACCEL]->range`. -/
  accelRangeSens : Int
  /-- `mpu_chip_info->accel_sens_trim`. -/
  accelSensTrim : Int
  /-- `inv_mpu_cfg->requested_sensors`. -/
  requestedSensors : Nat
  /-- Whether `pdata_slave[EXT_SLAVE_TYPE_PRESSURE]` is set. -/
  pressurePdataPresent : Bool
  /-- `inv_mpu_state->status`. -/
  mpuStatus : Nat
  /-- `slave[EXT_SLAVE_TYPE_ACCEL]->endian`. -/
  accelSlaveEndian : SlaveEndian
  /-- `pdata_slave[EXT_SLAVE_TYPE_ACCEL]->bus`. -/
  accelPdataBus : Nat
  deriving Inhabited

/-- The globals of `ml.c` and the fields of `inv_obj` that the modelled functions use. -/
structure MlState where
  /-- `inv_get_state()`. -/
  state : InvState
  /-- `inv_gyro_orient`. -/
  gyroOrient : Nat
  /-- `inv_accel_orient`. -/
  accelOrient : Nat
  /-- `inv_obj.accel->sens`. -/
  accelSens : Int
  /-- `inv_obj.gyro->sens`. -/
  gyroSens : Int
  /-- `inv_obj.gyro->sf`. -/
  gyroSf : Int
  /-- `inv_obj.calmat->accel`. -/
  calmatAccel : Fin 9 → Int
  /-- `inv_obj.calmat->gyro`. -/
  calmatGyro : Fin 9 → Int
  /-- `inv_obj.calmat->gyro_orient`. -/
  calmatGyroOrient : Fin 9 → Int
  /-- `inv_obj.sys->interrupt_sources`. -/
  interruptSources : BitVec 32
  /-- The value of the last `inv_set_dl_cfg_int` call that succeeded. -/
  dlCfgInt : UInt8
  /-- The `inv_set_mpu_memory` calls made so far, oldest first. -/
  dmpWrites : List (DmpKey × List UInt8)
  /-- `inv_obj.gyro->bias`. -/
  gyroBias : Fin 3 → Int
  /-- `inv_obj.lite_fusion->motion_state`, `motion_duration` and `no_motion_accel_time`. -/
  motionState : Nat
  motionDuration : Nat
  noMotionAccelTime : Nat
  /-- `inv_obj.sys->flags`. -/
  flags : Nat → Int
  /-- The `inv_set_motion_state` calls made so far, oldest first. -/
  motionStateCalls : List Nat
  /-- The callbacks registered with `inv_register_state_callback`, oldest first. -/
  stateCallbacks : List StateCallback
  /-- The source of the last `inv_set_gyro_data_source` call that succeeded. -/
  gyroDataSource : GyroSource
  /-- Whether `g_mlsl_handle` is a serial port that `inv_serial_open` opened and
  `inv_serial_close` has not closed. -/
  serialHandleOpen : Bool
  /-- The interrupt triggers that `inv_get_interrupt_trigger` reads and
  `inv_clear_interrupt_trigger` clears, by `INTSRC_*` index. -/
  interruptTriggers : Nat → Bool
  /-- Whether `inv_obj.adv_fusion->mode_change_cb` is set. -/
  modeChangeCbSet : Bool
  /-- The calls of `inv_set_mpu_sensors` made so far, oldest first. -/
  mpuCalls : List MpuCall
  deriving Inhabited

/-- `inv_set_accel_mounting` (`ml.c:905–908`). -/
def invSetAccelMounting (mount : Mount) (st : MlState) : MlState :=
  { st with accelOrient := invOrientationMatrixToScalar mount }

/-- One `inv_set_mpu_memory` call: recorded, and its result returned. -/
def setMpuMemory (p : Platform) (key : DmpKey) (bytes : List UInt8) (st : MlState) :
    InvError × MlState :=
  (p.setMpuMemory key bytes, { st with dmpWrites := st.dmpWrites ++ [(key, bytes)] })

/-- Continue with `k` after a call that succeeded, and return any other result as it is: the
`if (result) { LOG_RESULT_LOCATION(result); return result; }` that follows each call. -/
def andThen (r : InvError × MlState) (k : MlState → InvError × MlState) : InvError × MlState :=
  if r.1 ≠ .success then r else k r.2

/-! ### Runs of writes -/

/-- The writes `ws` in order, each followed by the early return of `andThen`. -/
def runWrites (p : Platform) : List (DmpKey × List UInt8) → MlState → InvError × MlState
  | [], st => (.success, st)
  | (key, bytes) :: ws, st => andThen (setMpuMemory p key bytes st) (runWrites p ws)

/-- A run of writes returns the result of the first write that fails, or success, and records
the writes up to and including that one. -/
theorem runWrites_spec (p : Platform) (ws : List (DmpKey × List UInt8)) (st : MlState) :
    runWrites p ws st =
      ((ws.find? fun w => p.setMpuMemory w.1 w.2 ≠ .success).elim .success
          (fun w => p.setMpuMemory w.1 w.2),
        { st with
          dmpWrites := st.dmpWrites ++
            ws.take (ws.findIdx (fun w => p.setMpuMemory w.1 w.2 ≠ .success) + 1) }) := by
  induction ws generalizing st with
  | nil => simp [runWrites]
  | cons w ws ih =>
    obtain ⟨key, bytes⟩ := w
    by_cases hw : p.setMpuMemory key bytes = .success
    · simp [runWrites, andThen, setMpuMemory, hw, ih, List.find?_cons, List.findIdx_cons]
    · simp [runWrites, andThen, setMpuMemory, hw, List.find?_cons, List.findIdx_cons]

/-- When every write succeeds, a run records all of them and succeeds. -/
theorem runWrites_of_success (p : Platform) (ws : List (DmpKey × List UInt8)) (st : MlState)
    (hw : ∀ w ∈ ws, p.setMpuMemory w.1 w.2 = .success) :
    runWrites p ws st = (.success, { st with dmpWrites := st.dmpWrites ++ ws }) := by
  induction ws generalizing st with
  | nil => simp [runWrites]
  | cons w ws ih =>
    obtain ⟨key, bytes⟩ := w
    simp [runWrites, andThen, setMpuMemory, hw _ (List.mem_cons_self _ _),
      ih _ fun w h => hw w (List.mem_cons_of_mem _ h)]

/-! ### A platform for the worked cases -/

/-- The `DINA*` opcodes with the byte that the last two hex digits of each name spell (`DINA0C`
is `0x0c`): forty distinct bytes. -/
def Dina.spelled : Dina where
  dina0C := 0x0c
  dinaC9 := 0xc9
  dina2C := 0x2c
  dina4C := 0x4c
  dinaCD := 0xcd
  dina6C := 0x6c
  dinaCF := 0xcf
  dina80 := 0x80
  dina2D := 0x2d
  dina35 := 0x35
  dina3D := 0x3d
  dina55 := 0x55
  dina7D := 0x7d
  dina90 := 0x90
  dina26 := 0x26
  dina46 := 0x46
  dina66 := 0x66
  dina76 := 0x76
  dina36 := 0x36
  dina56 := 0x56
  dinaFE := 0xfe
  dinaD8 := 0xd8
  dinD40 := 0x40
  dinaCC := 0xcc
  dina0E := 0x0e
  dinaCE := 0xce
  dinaCB := 0xcb
  dina0A := 0x0a
  dinaC3 := 0xc3
  dinaA0 := 0xa0
  dina3E := 0x3e
  dina5E := 0x5e
  dina7E := 0x7e
  dinaC2 := 0xc2
  dinaF8 := 0xf8
  dina54 := 0x54
  dina50 := 0x50
  dina7C := 0x7c
  dina78 := 0x78
  dina28 := 0x28

/-- A `long` as the four bytes of its 32-bit two's complement, most significant first. -/
def int32Big8 (v : Int) : List UInt8 :=
  let n := (v % 2 ^ 32).toNat
  [UInt8.ofNat (n / 2 ^ 24), UInt8.ofNat (n / 2 ^ 16), UInt8.ofNat (n / 2 ^ 8), UInt8.ofNat n]

/-- A platform whose constants are distinct and nonzero: the spelled `DINA*` bytes, big-endian
words, the Q30 product `a * b >> 30`, every key supported, one-bit interrupt masks, and calls
below `ml.c` that succeed. -/
def Platform.sample : Platform where
  toBus := default
  dina := Dina.spelled
  accelIdKxsd9 := 2
  accelIdMpu6050 := 3
  mpuProductKeyB1E15 := 5
  q30Mult a b := a * b / 2 ^ 30
  int32ToBig8 := int32Big8
  dmpkeySupported _ := true
  bitDmpIntEn := 0x02
  invIntMotion := 0x02
  invIntFifo := 0x01
  invIntDmpDr := 0x80
  invMotion := 1
  invMotionStateChange := 6
  numFlags := 8
  intsrcAux1 := 1
  intsrcMpu := 2
  invDmpProcessor := 0x20
  invThreeAxisAccel := 0x70
  invThreeAxisCompass := 0x380
  invThreeAxisPressure := 0x1c00
  mpuAccelIsSuspended := 1
  mpuSlaveIrqTypeNone := 0
  mpuSlaveIrqTypeDataReady := 1
  advFeaturesEnabled := true
  extSlaveBusSecondary := 1

example : int32Big8 (-2) = [0xff, 0xff, 0xff, 0xfe] ∧ int32Big8 0x40000000 = [0x40, 0, 0, 0] := by
  decide

end InvensenseMpl
