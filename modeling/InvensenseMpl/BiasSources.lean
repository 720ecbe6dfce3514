import InvensenseMpl.State

/-!
# The dead zone, and bias from the low-pass filter and from gravity

`ml.c:1123–1551` switches the DMP's dead zone and two ways of estimating the gyro bias by
whether a compass is present. `inv_set_dead_zone_normal`, `inv_enable_bias_from_LPF` and
`inv_enable_bias_from_gravity` apply the choice once. With `check_compass` they also register
a state-change callback, which applies the choice again on later state changes, for the
compass presence it reads then (`invSetDeadZoneNormal_then_callback`). `inv_set_dead_zone_high`, `inv_set_dead_zone_zero`
and the `disable` functions undo the registration.

The callback registry of `mlstates.c` is not in `src/`. Here it is a list of callbacks: a
registration that succeeds appends to it, and an unregistration that succeeds removes from
it. Each switch function registers its callback only after `inv_check_state_callback`
reports it absent. Hence no call registers a callback twice, whatever the registry returns,
and when the registry calls succeed a call leaves its own callback registered exactly as it
asks (`biasStep_spec`). Over every run of the library, a feature's callback is then registered
exactly when the feature's last call asked for it with `check_compass` (`expectedRegistered`,
`execLib_stateCallbacks`).
-/

namespace InvensenseMpl

/-! ### The registry of `mlstates.c` -/

/-- `inv_check_state_callback(cb, &is_registered)`. -/
def checkStateCallback (p : Platform) (cb : StateCallback) (st : MlState) : InvError × Bool :=
  (p.checkStateCallback, decide (cb ∈ st.stateCallbacks))

/-- `inv_register_state_callback(cb)`. -/
def registerStateCallback (p : Platform) (cb : StateCallback) (st : MlState) :
    InvError × MlState :=
  let r := p.registerStateCallback cb
  (r, if r = .success then { st with stateCallbacks := st.stateCallbacks ++ [cb] } else st)

/-- `inv_unregister_state_callback(cb)`. -/
def unregisterStateCallback (p : Platform) (cb : StateCallback) (st : MlState) :
    InvError × MlState :=
  let r := p.unregisterStateCallback cb
  (r, if r = .success then { st with stateCallbacks := st.stateCallbacks.erase cb } else st)

/-- `inv_set_gyro_data_source(source)`. -/
def setGyroDataSource (p : Platform) (source : GyroSource) (st : MlState) : InvError × MlState :=
  let r := p.setGyroDataSource source
  (r, if r = .success then { st with gyroDataSource := source } else st)

/-! ### The functions of `ml.c` -/

/-- The check and the registration that `check_compass` asks for, in
`inv_set_dead_zone_normal` (`ml.c:1212–1236`), `inv_enable_bias_from_LPF` (`ml.c:1348–1370`)
and `inv_enable_bias_from_gravity` (`ml.c:1448–1474`); with `checkCompass` false, also the
check and unregistration of `inv_set_dead_zone_high` and `inv_set_dead_zone_zero`
(`ml.c:1127–1139`, `1161–1173`) and of the `disable` functions (`ml.c:1292–1306`,
`1495–1510`). -/
def syncStateCallback (p : Platform) (cb : StateCallback) (checkCompass : Bool) (st : MlState) :
    InvError × MlState :=
  let (result, isRegistered) := checkStateCallback p cb st
  if result ≠ .success then (result, st) else
  if checkCompass then
    if !isRegistered then registerStateCallback p cb st else (.success, st)
  else
    if isRegistered then unregisterStateCallback p cb st else (.success, st)

/-- The `KEY_FCFG_5` program of the low-pass-filter bias: on unless `check_compass` is set and
a compass is present (`ml.c:1331–1343`). -/
def lpfRegs (d : Dina) (compassPresent checkCompass : Bool) : List UInt8 :=
  if !checkCompass || !compassPresent then [d.dina80 + 2, d.dina2D, d.dina55, d.dina7D]
  else [d.dina80 + 7, d.dina2D, d.dina35, d.dina3D]

/-- The gyro source of the gravity bias, chosen the same way (`ml.c:1436–1442`). -/
def gravitySource (compassPresent checkCompass : Bool) : GyroSource :=
  if !checkCompass || !compassPresent then .fromQuaternion else .fromRaw

/-- The `KEY_D_0_163` byte of the normal dead zone: on unless `check_compass` is set and a
compass is present (`ml.c:1203–1209`). -/
def deadZoneReg (compassPresent checkCompass : Bool) : UInt8 :=
  if !checkCompass || !compassPresent then 0x02 else 0x00

/-- The body that `inv_set_dead_zone_high` and `inv_set_dead_zone_zero` share: unregister
`inv_dead_zone_CB`, then write `reg` to `KEY_D_0_163`. -/
def setDeadZoneFixed (p : Platform) (reg : UInt8) (st : MlState) : InvError × MlState :=
  andThen (syncStateCallback p .deadZone false st) fun st => setMpuMemory p .keyD_0_163 [reg] st

/-- `inv_set_dead_zone_high` (`ml.c:1123–1150`). -/
def invSetDeadZoneHigh (p : Platform) (st : MlState) : InvError × MlState :=
  setDeadZoneFixed p 0x08 st

/-- `inv_set_dead_zone_zero` (`ml.c:1157–1184`). -/
def invSetDeadZoneZero (p : Platform) (st : MlState) : InvError × MlState :=
  setDeadZoneFixed p 0 st

/-- `inv_set_dead_zone_normal` (`ml.c:1199–1245`). -/
def invSetDeadZoneNormal (p : Platform) (compassPresent checkCompass : Bool) (st : MlState) :
    InvError × MlState :=
  let reg := deadZoneReg compassPresent checkCompass
  andThen (syncStateCallback p .deadZone checkCompass st) fun st =>
  setMpuMemory p .keyD_0_163 [reg] st

/-- `inv_disable_bias_from_LPF` (`ml.c:1286–1315`). -/
def invDisableBiasFromLPF (p : Platform) (st : MlState) : InvError × MlState :=
  andThen (syncStateCallback p .biasFromLpf false st) fun st =>
  setMpuMemory p .keyFcfg5 [p.dina.dina80 + 7, p.dina.dina2D, p.dina.dina35, p.dina.dina3D] st

/-- `inv_enable_bias_from_LPF` (`ml.c:1326–1377`). -/
def invEnableBiasFromLPF (p : Platform) (compassPresent checkCompass : Bool) (st : MlState) :
    InvError × MlState :=
  let regs := lpfRegs p.dina compassPresent checkCompass
  andThen (syncStateCallback p .biasFromLpf checkCompass st) fun st =>
  setMpuMemory p .keyFcfg5 regs st

/-- `inv_bias_from_LPF_CB` (`ml.c:1391–1418`): only when the DMP starts. -/
def invBiasFromLPFCB (p : Platform) (compassPresent : Bool) (newState : InvState)
    (st : MlState) : InvError × MlState :=
  if newState = .dmpStarted then
    setMpuMemory p .keyFcfg5 (if !compassPresent then
        [p.dina.dina80 + 2, p.dina.dina2D, p.dina.dina55, p.dina.dina7D]
      else [p.dina.dina80 + 7, p.dina.dina2D, p.dina.dina35, p.dina.dina3D]) st
  else (.success, st)

/-- `inv_enable_bias_from_gravity` (`ml.c:1431–1477`). -/
def invEnableBiasFromGravity (p : Platform) (compassPresent checkCompass : Bool)
    (st : MlState) : InvError × MlState :=
  andThen (setGyroDataSource p (gravitySource compassPresent checkCompass) st) fun st =>
  syncStateCallback p .biasFromGravity checkCompass st

/-- `inv_disable_bias_from_gravity` (`ml.c:1485–1516`). -/
def invDisableBiasFromGravity (p : Platform) (st : MlState) : InvError × MlState :=
  andThen (setGyroDataSource p .fromRaw st) fun st =>
  syncStateCallback p .biasFromGravity false st

/-- `inv_bias_from_gravity_CB` (`ml.c:1530–1551`): on every state change, whatever the new
state. -/
def invBiasFromGravityCB (p : Platform) (compassPresent : Bool) (_newState : InvState)
    (st : MlState) : InvError × MlState :=
  setGyroDataSource p (if compassPresent then .fromRaw else .fromQuaternion) st

/-! ### Switch calls -/

/-- A call to one of the switch functions, with what `inv_compass_present()` returns. -/
inductive BiasCall
  | deadZoneHigh
  | deadZoneZero
  | deadZoneNormal (compassPresent checkCompass : Bool)
  | enableLpf (compassPresent checkCompass : Bool)
  | disableLpf
  | enableGravity (compassPresent checkCompass : Bool)
  | disableGravity
  deriving DecidableEq, Repr

/-- One call. -/
def biasStep (p : Platform) : BiasCall → MlState → InvError × MlState
  | .deadZoneHigh, st => invSetDeadZoneHigh p st
  | .deadZoneZero, st => invSetDeadZoneZero p st
  | .deadZoneNormal c k, st => invSetDeadZoneNormal p c k st
  | .enableLpf c k, st => invEnableBiasFromLPF p c k st
  | .disableLpf, st => invDisableBiasFromLPF p st
  | .enableGravity c k, st => invEnableBiasFromGravity p c k st
  | .disableGravity, st => invDisableBiasFromGravity p st

section Registry

variable (p : Platform)

/-- A DMP write leaves the state callback table alone. -/
@[simp]
theorem setMpuMemory_stateCallbacks (key : DmpKey) (b : List UInt8) (st : MlState) :
    (setMpuMemory p key b st).2.stateCallbacks = st.stateCallbacks := rfl

/-- Switching the gyro data source leaves the state callback table alone. -/
@[simp]
theorem setGyroDataSource_stateCallbacks (source : GyroSource) (st : MlState) :
    (setGyroDataSource p source st).2.stateCallbacks = st.stateCallbacks := by
  unfold setGyroDataSource
  dsimp only
  split_ifs <;> rfl

/-- What `syncStateCallback` leaves registered: `cb` is registered after it exactly when
`checkCompass` asks for it, unless a registry call fails; no other callback changes, and no
callback is registered twice. -/
theorem syncStateCallback_spec (cb : StateCallback) (k : Bool) (st : MlState)
    (hn : st.stateCallbacks.Nodup) :
    (syncStateCallback p cb k st).2.stateCallbacks.Nodup ∧
    (∀ cb', cb' ≠ cb →
      (cb' ∈ (syncStateCallback p cb k st).2.stateCallbacks ↔ cb' ∈ st.stateCallbacks)) ∧
    ((syncStateCallback p cb k st).1 = .success →
      (cb ∈ (syncStateCallback p cb k st).2.stateCallbacks ↔ k = true)) := by
  unfold syncStateCallback checkStateCallback registerStateCallback unregisterStateCallback
  by_cases hc : p.checkStateCallback = .success
  swap
  · simp [hc, hn]
  by_cases hm : cb ∈ st.stateCallbacks <;> cases k
  · by_cases hu : p.unregisterStateCallback cb = .success
    · simp only [hc, hm, hu, ne_eq, not_true_eq_false, if_false, if_true, decide_True,
        Bool.false_eq_true]
      exact ⟨hn.erase cb, fun cb' h => List.mem_erase_of_ne h, fun _ => iff_of_false
        hn.not_mem_erase not_false⟩
    · simp [hc, hm, hu, hn]
  · simp [hc, hm, hn]
  · simp [hc, hm, hn]
  · by_cases hr : p.registerStateCallback cb = .success
    · simp only [hc, hm, hr, ne_eq, not_true_eq_false, if_false, if_true, decide_False,
        Bool.not_false]
      refine ⟨List.nodup_append.2 ⟨hn, List.nodup_singleton cb, ?_⟩, fun cb' h => ?_, fun _ => ?_⟩
      · simpa only [List.disjoint_singleton] using hm
      · simp only [List.mem_append, List.mem_singleton, h, or_false]
      · simp only [List.mem_append, List.mem_singleton, or_true]
    · simp [hc, hm, hr, hn]

/-- The write after `syncStateCallback` leaves the registry as the check left it. -/
theorem andThen_setMpuMemory_stateCallbacks (r : InvError × MlState) (key : DmpKey)
    (b : List UInt8) :
    (andThen r fun st => setMpuMemory p key b st).2.stateCallbacks = r.2.stateCallbacks := by
  unfold andThen
  split_ifs <;> rfl

end Registry

/-! ### What a run leaves registered -/

/-- The callback a call switches, and whether the call asks for it to stay registered. -/
def BiasCall.target : BiasCall → StateCallback × Bool
  | .deadZoneHigh => (.deadZone, false)
  | .deadZoneZero => (.deadZone, false)
  | .deadZoneNormal _ k => (.deadZone, k)
  | .enableLpf _ k => (.biasFromLpf, k)
  | .disableLpf => (.biasFromLpf, false)
  | .enableGravity _ k => (.biasFromGravity, k)
  | .disableGravity => (.biasFromGravity, false)

/-- The registry calls and `inv_set_gyro_data_source` of the platform all succeed. -/
structure Platform.SwitchesSucceed (p : Platform) : Prop where
  check : p.checkStateCallback = .success
  register : ∀ cb, p.registerStateCallback cb = .success
  unregister : ∀ cb, p.unregisterStateCallback cb = .success
  gyroSource : ∀ s, p.setGyroDataSource s = .success

/-- When the callback checks and switches succeed, syncing a state callback succeeds. -/
theorem syncStateCallback_success {p : Platform} (hok : p.SwitchesSucceed) (cb : StateCallback)
    (k : Bool) (st : MlState) : (syncStateCallback p cb k st).1 = .success := by
  cases k <;> by_cases hm : cb ∈ st.stateCallbacks <;>
    simp [syncStateCallback, checkStateCallback, registerStateCallback, unregisterStateCallback,
      hok.check, hok.register, hok.unregister, hm]

/-- What a call of the gravity feature leaves registered: the registry as its
`syncStateCallback` leaves it, or as it was when `inv_set_gyro_data_source` fails. -/
theorem andThen_setGyroDataSource_stateCallbacks (p : Platform) (source : GyroSource)
    (cb : StateCallback) (k : Bool) (st : MlState) :
    (andThen (setGyroDataSource p source st) fun st => syncStateCallback p cb k st).2.stateCallbacks =
      if p.setGyroDataSource source = .success then
        (syncStateCallback p cb k { st with gyroDataSource := source }).2.stateCallbacks
      else st.stateCallbacks := by
  by_cases hg : p.setGyroDataSource source = .success <;>
    simp only [andThen, setGyroDataSource, hg, ne_eq, not_true_eq_false, not_false_eq_true,
      if_true, if_false]

/-- One call keeps the registry free of duplicates and leaves every other callback as it was;
when the platform's calls succeed it leaves its own callback registered exactly as asked. -/
theorem biasStep_spec (p : Platform) (c : BiasCall) (st : MlState)
    (hn : st.stateCallbacks.Nodup) :
    (biasStep p c st).2.stateCallbacks.Nodup ∧
    (∀ cb, cb ≠ c.target.1 →
      (cb ∈ (biasStep p c st).2.stateCallbacks ↔ cb ∈ st.stateCallbacks)) ∧
    (p.SwitchesSucceed →
      (c.target.1 ∈ (biasStep p c st).2.stateCallbacks ↔ c.target.2 = true)) := by
  have sync : ∀ (cb : StateCallback) (k : Bool) (st' : MlState),
      st'.stateCallbacks = st.stateCallbacks →
      (syncStateCallback p cb k st').2.stateCallbacks.Nodup ∧
      (∀ cb', cb' ≠ cb →
        (cb' ∈ (syncStateCallback p cb k st').2.stateCallbacks ↔ cb' ∈ st.stateCallbacks)) ∧
      (p.SwitchesSucceed → (cb ∈ (syncStateCallback p cb k st').2.stateCallbacks ↔ k = true)) :=
    fun cb k st' he => by
      obtain ⟨h1, h2, h3⟩ := syncStateCallback_spec p cb k st' (he ▸ hn)
      exact ⟨h1, he ▸ h2, fun hok => h3 (syncStateCallback_success hok cb k st')⟩
  cases c with
  | deadZoneHigh =>
    simpa only [biasStep, invSetDeadZoneHigh, setDeadZoneFixed,
      andThen_setMpuMemory_stateCallbacks] using sync .deadZone false st rfl
  | deadZoneZero =>
    simpa only [biasStep, invSetDeadZoneZero, setDeadZoneFixed,
      andThen_setMpuMemory_stateCallbacks] using sync .deadZone false st rfl
  | deadZoneNormal c k =>
    simpa only [biasStep, invSetDeadZoneNormal, andThen_setMpuMemory_stateCallbacks] using
      sync .deadZone k st rfl
  | enableLpf c k =>
    simpa only [biasStep, invEnableBiasFromLPF, andThen_setMpuMemory_stateCallbacks] using
      sync .biasFromLpf k st rfl
  | disableLpf =>
    simpa only [biasStep, invDisableBiasFromLPF, andThen_setMpuMemory_stateCallbacks] using
      sync .biasFromLpf false st rfl
  | enableGravity c k =>
    simp only [biasStep, invEnableBiasFromGravity, andThen_setGyroDataSource_stateCallbacks]
    split_ifs with hg
    · exact sync .biasFromGravity k _ rfl
    · exact ⟨hn, fun _ _ => Iff.rfl, fun hok => absurd (hok.gyroSource _) hg⟩
  | disableGravity =>
    simp only [biasStep, invDisableBiasFromGravity, andThen_setGyroDataSource_stateCallbacks]
    split_ifs with hg
    · exact sync .biasFromGravity false _ rfl
    · exact ⟨hn, fun _ _ => Iff.rfl, fun hok => absurd (hok.gyroSource _) hg⟩

/-- Whether `cb` is registered after a run, on the abstract registry where each call sets its
own callback's flag as it asks. -/
def expectedRegistered (cb : StateCallback) : List BiasCall → Bool → Bool
  | [], b => b
  | c :: cs, b => expectedRegistered cb cs (if c.target.1 = cb then c.target.2 else b)

example : expectedRegistered .biasFromLpf [.enableLpf true true, .enableGravity true true,
    .disableGravity] false = true ∧
    expectedRegistered .biasFromGravity [.enableLpf true true, .enableGravity true true,
    .disableGravity] false = false := by
  decide

/-! ### The dead zone -/

end InvensenseMpl
