import InvensenseMpl.Calibration

/-!
# DMP orientation programming

`inv_mpu6050_accel`, `inv_accel_dmp_cal` and `inv_gyro_dmp_cal`
(`src/invensense/libsensors/mlsdk/mllite/ml.c:755–1027`). Each reads the column fields
of an orientation scalar and emits DMP opcode bytes: the accelerometer functions through
three-entry tables `tmp[field]`, `inv_gyro_dmp_cal` through an `if` chain per row that
assigns its byte only for the fields 0, 1 and 2. A field of 3, which only the error code
7 of `inv_row_2_scale` produces, reads past a table or leaves a byte unassigned.
-/

namespace InvensenseMpl

/-- `inv_mpu6050_accel` (`ml.c:755–817`): the six instruction bytes for `mode`. -/
def invMpu6050Accel (d : Dina) (orient : Nat) (mode : Int) : Except Fault (Fin 6 → UInt8) :=
  let fill := d.dina90 + 7
  match mode with
  | 0 => do
    let tmp := ![d.dina0C, d.dinaC9, d.dina2C]
    let r0 ← loadAt tmp (orient &&& 3)
    let r1 ← loadAt tmp ((orient >>> 3) &&& 3)
    let r2 ← loadAt tmp ((orient >>> 6) &&& 3)
    return ![r0, r1, r2, fill, fill, fill]
  | 1 => do
    let tmp := ![d.dina4C, d.dinaCD, d.dina6C]
    let r1 ← loadAt tmp (orient &&& 3)
    let r2 ← loadAt tmp ((orient >>> 3) &&& 3)
    let r3 ← loadAt tmp ((orient >>> 6) &&& 3)
    return ![d.dina80 + 1, r1, r2, r3, fill, fill]
  | 2 => do
    let tmp := ![d.dinaCF, d.dina0C, d.dinaC9]
    let tmp1 := d.dina80
    let tmp2 := d.dina80 + 1
    if orient &&& 3 ≠ 0 then
      let r1 ← loadAt tmp (orient &&& 3)
      if (orient >>> 3) &&& 3 ≠ 0 then
        let r2 ← loadAt tmp ((orient >>> 3) &&& 3)
        let r4 ← loadAt tmp ((orient >>> 6) &&& 3)
        return ![tmp2, r1, r2, tmp1, r4, fill]
      else
        let r3 ← loadAt tmp ((orient >>> 3) &&& 3)
        let r5 ← loadAt tmp ((orient >>> 6) &&& 3)
        return ![tmp2, r1, tmp1, r3, tmp2, r5]
    else
      let r1 ← loadAt tmp (orient &&& 3)
      let r3 ← loadAt tmp ((orient >>> 3) &&& 3)
      let r4 ← loadAt tmp ((orient >>> 6) &&& 3)
      return ![tmp1, r1, tmp2, r3, r4, fill]
  | _ => .ok fun _ => fill

/-- Sequence a serial write: stop with its result unless it is `INV_SUCCESS`. -/
def thenWrite (p : Platform) (key : DmpKey) (bytes : List UInt8) (st : MlState)
    (rest : MlState → Except Fault (InvError × MlState)) : Except Fault (InvError × MlState) :=
  let r := setMpuMemory p key bytes st
  if r.1 ≠ .success then .ok r else rest r.2

/-- The zero-g offsets that `inv_accel_dmp_cal` writes to `KEY_D_1_152` (`ml.c:834–847`). -/
def accelZeroG (p : Platform) (id : Nat) : List UInt8 :=
  if p.accelIdKxsd9 = id then [0x80, 0x0, 0x80, 0x0] else [0, 0, 0, 0]

/-- The axis map and axis signs that `inv_accel_dmp_cal` writes for a slave with a nonzero
id (`ml.c:849–883`), then `rest`. -/
def accelAxes (p : Platform) (cfg : MldlCfg) (o : Nat) (st : MlState)
    (rest : MlState → Except Fault (InvError × MlState)) : Except Fault (InvError × MlState) := do
  let d := p.dina
  let tmp := ![d.dina0C, d.dinaC9, d.dina2C]
  let r0 ← loadAt tmp (o &&& 3)
  let r1 ← loadAt tmp ((o >>> 3) &&& 3)
  let r2 ← loadAt tmp ((o >>> 6) &&& 3)
  thenWrite p .keyFcfg2 [r0, r1, r2] st fun st =>
    let s0 := if o &&& 4 ≠ 0 then d.dina26 ||| 1 else d.dina26
    let s1 := if o &&& 0x20 ≠ 0 then d.dina46 ||| 1 else d.dina46
    let b2 := if cfg.prodKey = p.mpuProductKeyB1E15 then d.dina76 else d.dina66
    let s2 := if o &&& 0x100 ≠ 0 then b2 ||| 1 else b2
    thenWrite p .keyFcfg7 [s0, s1, s2] st rest

/-- The two bytes of the scale factor `sf = 2^30 / accel->sens` (`ml.c:885–890`): the low
16 bits of the quotient, high byte first, as `unsigned long` keeps them. -/
def accelSfBytes (sens : Int) : List UInt8 :=
  let sf : Int := if sens ≠ 0 then Int.tdiv 1073741824 sens else 0
  let low := (sf % 65536).toNat
  [UInt8.ofNat (low / 256), UInt8.ofNat low]

/-- `inv_accel_dmp_cal` (`ml.c:819–903`). -/
def invAccelDmpCal (p : Platform) (cfg : MldlCfg) (st : MlState) :
    Except Fault (InvError × MlState) :=
  if st.state ≠ .dmpOpened then .ok (.errorSmImproperState, st) else
  match cfg.accelSlaveId with
  | none => .ok (.errorInvalidConfiguration, st)
  | some id =>
    let finish (st : MlState) := .ok (setMpuMemory p .keyD_0_108 (accelSfBytes st.accelSens) st)
    let axes (st' : MlState) := if id ≠ 0 then accelAxes p cfg st.accelOrient st' finish else finish st'
    if p.dmpkeySupported .keyD_1_152 then thenWrite p .keyD_1_152 (accelZeroG p id) st axes
    else axes st

/-- One row of `inv_gyro_dmp_cal`'s `if` chain (`ml.c:967–984`): the byte for `field`
when it equals one of the three values, and no assignment otherwise. -/
def fcfg1Byte (d : Dina) (field k0 k1 k2 : Nat) : Option UInt8 :=
  if field = k0 then some d.dina4C
  else if field = k1 then some d.dinaCD
  else if field = k2 then some d.dina6C
  else none

/-- `inv_gyro_dmp_cal` (`ml.c:954–1027`); writing a byte no branch assigned is a fault. -/
def invGyroDmpCal (p : Platform) (cfg : MldlCfg) (st : MlState) :
    Except Fault (InvError × MlState) :=
  if st.state ≠ .dmpOpened then .ok (.errorSmImproperState, st) else do
    let d := p.dina
    let o := st.gyroOrient
    let r0 ← assigned (fcfg1Byte d (o &&& 3) 0 1 2)
    let r1 ← assigned (fcfg1Byte d (o &&& 0x18) 0 0x8 0x10)
    let r2 ← assigned (fcfg1Byte d (o &&& 0xc0) 0 0x40 0x80)
    thenWrite p .keyFcfg1 [r0, r1, r2] st fun st =>
      let s0 := if o &&& 4 ≠ 0 then d.dina36 ||| 1 else d.dina36
      let s1 := if o &&& 0x20 ≠ 0 then d.dina56 ||| 1 else d.dina56
      let s2 := if o &&& 0x100 ≠ 0 then d.dina76 ||| 1 else d.dina76
      thenWrite p .keyFcfg3 [s0, s1, s2] st fun st =>
        let sens := gyroSensOf cfg
        let sf := p.q30Mult sens 767603923
        let st := { st with gyroSens := sens, gyroSf := sf }
        thenWrite p .keyD_0_104 (p.int32ToBig8 sf) st fun st => .ok (.success, st)

/-! ### Index safety -/

/-- A write that succeeds hands its state to what follows. -/
theorem thenWrite_of_success {p : Platform} {key : DmpKey} {bytes : List UInt8}
    (h : p.setMpuMemory key bytes = .success) (st : MlState)
    (rest : MlState → Except Fault (InvError × MlState)) :
    thenWrite p key bytes st rest = rest (setMpuMemory p key bytes st).2 := by
  simp [thenWrite, setMpuMemory, h]

/-- A serial write never faults; the run faults only if what follows it does. -/
theorem thenWrite_ok (p : Platform) (key : DmpKey) (bytes : List UInt8) (st : MlState)
    {rest : MlState → Except Fault (InvError × MlState)} (h : ∀ st, ∃ r, rest st = .ok r) :
    ∃ r, thenWrite p key bytes st rest = .ok r := by
  unfold thenWrite
  dsimp only
  split_ifs
  · exact ⟨_, rfl⟩
  · exact h _

/-- A field below 3, scaled to its bit position `m`, selects a byte of the `if` chain. -/
theorem fcfg1Byte_isSome (d : Dina) {f : Nat} (m : Nat) (hf : f < 3) (hm : 0 < m) :
    ∃ b, fcfg1Byte d (f * m) 0 m (2 * m) = some b := by
  have h2 : 2 * m ≠ m := by omega
  have h2' : 2 * m ≠ 0 := by omega
  obtain rfl | rfl | rfl : f = 0 ∨ f = 1 ∨ f = 2 := by omega
  all_goals simp [fcfg1Byte, hm.ne', h2, h2']

section Safe

variable {o : Nat} (h0 : o % 4 < 3) (h1 : o / 8 % 4 < 3) (h2 : o / 64 % 4 < 3)
include h0 h1 h2

/-- `inv_mpu6050_accel` indexes in bounds for a decodable scalar. -/
theorem invMpu6050Accel_ok (d : Dina) (mode : Int) : ∃ r, invMpu6050Accel d o mode = .ok r := by
  unfold invMpu6050Accel
  split <;> simp [loadAt, Nat.shiftRight_eq_div_pow, h0, h1, h2]
  split_ifs <;> simp

/-- The axis writes of `inv_accel_dmp_cal` return whenever what follows them returns. -/
theorem accelAxes_ok (p : Platform) (cfg : MldlCfg) (st : MlState)
    {rest : MlState → Except Fault (InvError × MlState)} (h : ∀ st, ∃ r, rest st = .ok r) :
    ∃ r, accelAxes p cfg o st rest = .ok r := by
  simp only [accelAxes, and_0x03, Nat.shiftRight_eq_div_pow, Nat.reducePow, loadAt_of_lt _ h0,
    loadAt_of_lt _ h1, loadAt_of_lt _ h2, except_ok_bind]
  exact thenWrite_ok _ _ _ _ fun _ => thenWrite_ok _ _ _ _ h

/-- `inv_accel_dmp_cal` never faults when the accel mounting scalar decodes. -/
theorem invAccelDmpCal_ok (p : Platform) (cfg : MldlCfg) (st : MlState)
    (ho : st.accelOrient = o) : ∃ r, invAccelDmpCal p cfg st = .ok r := by
  unfold invAccelDmpCal
  by_cases hs : st.state ≠ .dmpOpened
  · exact ⟨_, if_pos hs⟩
  rw [if_neg hs]
  cases cfg.accelSlaveId with
  | none => exact ⟨_, rfl⟩
  | some id =>
    have hax : ∀ st' : MlState, ∃ r, (if id ≠ 0 then accelAxes p cfg st.accelOrient st'
        (fun st => .ok (setMpuMemory p .keyD_0_108 (accelSfBytes st.accelSens) st))
        else .ok (setMpuMemory p .keyD_0_108 (accelSfBytes st'.accelSens) st')) = .ok r := by
      intro st'
      split_ifs
      · exact ho ▸ accelAxes_ok h0 h1 h2 _ _ _ fun _ => ⟨_, rfl⟩
      · exact ⟨_, rfl⟩
    dsimp only
    by_cases hk : p.dmpkeySupported .keyD_1_152
    · rw [if_pos hk]
      exact thenWrite_ok _ _ _ _ hax
    · rw [if_neg hk]
      exact hax st

/-- `inv_gyro_dmp_cal` never faults when the gyro mounting scalar decodes. -/
theorem invGyroDmpCal_ok (p : Platform) (cfg : MldlCfg) (st : MlState)
    (ho : st.gyroOrient = o) : ∃ r, invGyroDmpCal p cfg st = .ok r := by
  obtain ⟨b0, hb0⟩ := fcfg1Byte_isSome p.dina 1 h0 Nat.one_pos
  obtain ⟨b1, hb1⟩ := fcfg1Byte_isSome p.dina 8 h1 (by decide)
  obtain ⟨b2, hb2⟩ := fcfg1Byte_isSome p.dina 64 h2 (by decide)
  simp only [Nat.mul_one, Nat.reduceMul] at hb0 hb1 hb2
  unfold invGyroDmpCal
  by_cases hs : st.state ≠ .dmpOpened
  · exact ⟨_, if_pos hs⟩
  rw [if_neg hs]
  simp only [ho, and_0x03, and_0x18, and_0xc0, hb0, hb1, hb2, assigned_some, except_ok_bind]
  exact thenWrite_ok _ _ _ _ fun _ => thenWrite_ok _ _ _ _ fun _ =>
    thenWrite_ok _ _ _ _ fun _ => ⟨_, rfl⟩

/-- The matrix of a decodable scalar is built without an out-of-bounds store. -/
theorem orientMatrix_ok (sign : Fin 3 → Nat) (v : Int) : ∃ a, orientMatrix o sign v = .ok a := by
  obtain ⟨a, ha, -⟩ := orientMatrix_spec o sign v fun i => by fin_cases i <;> simpa
  exact ⟨a, ha⟩

/-- `inv_accel_var_cal` never faults when the accel mounting scalar decodes. -/
theorem invAccelVarCal_ok (st : MlState) (ho : st.accelOrient = o) :
    ∃ r, invAccelVarCal st = .ok r := by
  obtain ⟨a, ha⟩ := orientMatrix_ok h0 h1 h2 ![0x004, 0x004, 0x100] st.accelSens
  unfold invAccelVarCal
  split_ifs
  · exact ⟨_, rfl⟩
  · exact ⟨_, by rw [ho, ha]; rfl⟩

/-- `inv_gyro_var_cal` never faults when the gyro mounting scalar decodes. -/
theorem invGyroVarCal_ok (p : Platform) (cfg : MldlCfg) (st : MlState)
    (ho : st.gyroOrient = o) : ∃ r, invGyroVarCal p cfg st = .ok r := by
  obtain ⟨a, ha⟩ := orientMatrix_ok h0 h1 h2 ![0x004, 0x020, 0x100] (gyroSensOf cfg)
  obtain ⟨b, hb⟩ := orientMatrix_ok h0 h1 h2 ![0x004, 0x020, 0x100] (2 ^ 30)
  unfold invGyroVarCal
  split_ifs
  · exact ⟨_, rfl⟩
  · exact ⟨_, by simp only [ho, ha, hb, except_ok_bind]; rfl⟩

variable {p : Platform} (hw : ∀ k b, p.setMpuMemory k b = .success)
include hw

/-- When every serial write succeeds, so does `inv_gyro_dmp_cal` in `INV_STATE_DMP_OPENED`. -/
theorem invGyroDmpCal_success (cfg : MldlCfg) (st : MlState) (hs : st.state = .dmpOpened)
    (ho : st.gyroOrient = o) : ∃ st', invGyroDmpCal p cfg st = .ok (.success, st') := by
  obtain ⟨b0, hb0⟩ := fcfg1Byte_isSome p.dina 1 h0 Nat.one_pos
  obtain ⟨b1, hb1⟩ := fcfg1Byte_isSome p.dina 8 h1 (by decide)
  obtain ⟨b2, hb2⟩ := fcfg1Byte_isSome p.dina 64 h2 (by decide)
  simp only [Nat.mul_one, Nat.reduceMul] at hb0 hb1 hb2
  simp only [invGyroDmpCal, hs, ho, ne_eq, not_true_eq_false, if_false, and_0x03, and_0x18,
    and_0xc0, hb0, hb1, hb2, assigned_some, except_ok_bind, thenWrite_of_success (hw _ _)]
  exact ⟨_, rfl⟩

/-- When every serial write succeeds, so does `inv_accel_dmp_cal` with an accelerometer slave
in `INV_STATE_DMP_OPENED`. -/
theorem invAccelDmpCal_success (cfg : MldlCfg) (st : MlState) {id : Nat}
    (hs : st.state = .dmpOpened) (hid : cfg.accelSlaveId = some id) (ho : st.accelOrient = o) :
    ∃ st', invAccelDmpCal p cfg st = .ok (.success, st') := by
  have hax : ∀ st', ∃ st'', (if id ≠ 0 then accelAxes p cfg st.accelOrient st'
      (fun st => .ok (setMpuMemory p .keyD_0_108 (accelSfBytes st.accelSens) st))
      else .ok (setMpuMemory p .keyD_0_108 (accelSfBytes st'.accelSens) st')) =
      (.ok (.success, st'') : Except Fault (InvError × MlState)) := by
    intro st'
    split_ifs
    · simp only [accelAxes, ho, and_0x03, Nat.shiftRight_eq_div_pow, Nat.reducePow,
        loadAt_of_lt _ h0, loadAt_of_lt _ h1, loadAt_of_lt _ h2, except_ok_bind,
        thenWrite_of_success (hw _ _), setMpuMemory, hw]
      exact ⟨_, rfl⟩
    · simp only [setMpuMemory, hw]
      exact ⟨_, rfl⟩
  simp only [invAccelDmpCal, hs, hid, ne_eq, not_true_eq_false, if_false]
  by_cases hk : p.dmpkeySupported .keyD_1_152
  · rw [if_pos hk, thenWrite_of_success (hw _ _)]
    exact hax _
  · rw [if_neg hk]
    exact hax st

end Safe

/-- `inv_accel_var_cal` in `INV_STATE_DMP_OPENED` on a scalar whose column fields are `0`, `1`
or `2` succeeds. -/
theorem invAccelVarCal_success (st : MlState) (hs : st.state = .dmpOpened)
    (h0 : st.accelOrient % 4 < 3) (h1 : st.accelOrient / 8 % 4 < 3)
    (h2 : st.accelOrient / 64 % 4 < 3) : ∃ st', invAccelVarCal st = .ok (.success, st') := by
  obtain ⟨a, ha⟩ := orientMatrix_ok h0 h1 h2 ![0x004, 0x004, 0x100] st.accelSens
  simp only [invAccelVarCal, hs, ha, ne_eq, not_true_eq_false, if_false, except_ok_bind]
  exact ⟨_, rfl⟩

/-! ### Frame -/

section Frame

variable {α : Type} (f : MlState → α) (p : Platform)

/-- A view of the state that every write to `key` leaves alone is kept by a write to `key`
and by whatever follows it, if that keeps it. -/
theorem thenWrite_keeps {key : DmpKey} (hw : ∀ st b, f (setMpuMemory p key b st).2 = f st)
    (bytes : List UInt8) {st : MlState} {v : α} (hst : f st = v)
    {rest : MlState → Except Fault (InvError × MlState)}
    (hrest : ∀ st', f st' = v → ∀ r, rest st' = .ok r → f r.2 = v) :
    ∀ r, thenWrite p key bytes st rest = .ok r → f r.2 = v := by
  intro r h
  unfold thenWrite at h
  dsimp only at h
  split_ifs at h
  · cases h
    exact (hw st bytes).trans hst
  · exact hrest _ ((hw st bytes).trans hst) r h

/-- A projection kept by the `KEY_FCFG_2` and `KEY_FCFG_7` writes and by what follows is kept by the axis writes. -/
theorem accelAxes_keeps (hw2 : ∀ st b, f (setMpuMemory p .keyFcfg2 b st).2 = f st)
    (hw7 : ∀ st b, f (setMpuMemory p .keyFcfg7 b st).2 = f st) (cfg : MldlCfg) (o : Nat) {st : MlState} {v : α} (hst : f st = v)
    {rest : MlState → Except Fault (InvError × MlState)}
    (hrest : ∀ st', f st' = v → ∀ r, rest st' = .ok r → f r.2 = v) :
    ∀ r, accelAxes p cfg o st rest = .ok r → f r.2 = v := by
  intro r h
  unfold accelAxes at h
  obtain ⟨_, -, h⟩ := except_bind_eq_ok h
  obtain ⟨_, -, h⟩ := except_bind_eq_ok h
  obtain ⟨_, -, h⟩ := except_bind_eq_ok h
  exact thenWrite_keeps f p hw2 _ hst (fun _ h' => thenWrite_keeps f p hw7 _ h' hrest) r h

/-- `inv_accel_dmp_cal` changes only the DMP writes, and writes only `KEY_D_1_152`,
`KEY_FCFG_2`, `KEY_FCFG_7` and `KEY_D_0_108`. -/
theorem invAccelDmpCal_keeps (hw : ∀ k ∈ [DmpKey.keyD_1_152, .keyFcfg2, .keyFcfg7, .keyD_0_108],
      ∀ st b, f (setMpuMemory p k b st).2 = f st)
    (cfg : MldlCfg) (st : MlState) :
    ∀ r, invAccelDmpCal p cfg st = .ok r → f r.2 = f st := by
  intro r h
  unfold invAccelDmpCal at h
  by_cases hs : st.state ≠ .dmpOpened
  · rw [if_pos hs] at h
    cases h; rfl
  rw [if_neg hs] at h
  cases hid : cfg.accelSlaveId with
  | none => simp only [hid, Except.ok.injEq] at h; rw [← h]
  | some id =>
    simp only [hid] at h
    have hfin : ∀ st', f st' = f st → ∀ r,
        (.ok (setMpuMemory p .keyD_0_108 (accelSfBytes st'.accelSens) st') :
          Except Fault (InvError × MlState)) = .ok r → f r.2 = f st := by
      intro st' h' r hr
      cases hr
      exact (hw _ (by decide) st' _).trans h'
    have hax : ∀ st', f st' = f st → ∀ r, (if id ≠ 0 then accelAxes p cfg st.accelOrient st'
        (fun st => .ok (setMpuMemory p .keyD_0_108 (accelSfBytes st.accelSens) st))
        else .ok (setMpuMemory p .keyD_0_108 (accelSfBytes st'.accelSens) st')) = .ok r →
        f r.2 = f st := by
      intro st' h' r hr
      split_ifs at hr
      · exact accelAxes_keeps f p (hw _ (by decide)) (hw _ (by decide)) cfg _ h' hfin r hr
      · exact hfin st' h' r hr
    by_cases hk : p.dmpkeySupported .keyD_1_152
    · rw [if_pos hk] at h
      exact thenWrite_keeps f p (hw _ (by decide)) _ rfl hax r h
    · rw [if_neg hk] at h
      exact hax st rfl r h

/-- `inv_gyro_dmp_cal` changes only the DMP writes and the gyro sensitivity fields, and writes
only `KEY_FCFG_1`, `KEY_FCFG_3` and `KEY_D_0_104`. -/
theorem invGyroDmpCal_keeps
    (hw : ∀ k ∈ [DmpKey.keyFcfg1, .keyFcfg3, .keyD_0_104], ∀ st b,
      f (setMpuMemory p k b st).2 = f st)
    (hg : ∀ st a b, f { st with gyroSens := a, gyroSf := b } = f st)
    (cfg : MldlCfg) (st : MlState) :
    ∀ r, invGyroDmpCal p cfg st = .ok r → f r.2 = f st := by
  intro r h
  unfold invGyroDmpCal at h
  split_ifs at h
  · cases h; rfl
  obtain ⟨_, -, h⟩ := except_bind_eq_ok h
  obtain ⟨_, -, h⟩ := except_bind_eq_ok h
  obtain ⟨_, -, h⟩ := except_bind_eq_ok h
  refine thenWrite_keeps f p (hw _ (by decide)) _ rfl (fun _ h1 =>
    thenWrite_keeps f p (hw _ (by decide)) _ h1 fun _ h2 =>
    thenWrite_keeps f p (hw _ (by decide)) _ ((hg _ _ _).trans h2) fun _ h3 r hr => ?_) r h
  cases hr
  exact h3

end Frame

/-- `inv_accel_var_cal` changes only `calmat->accel`. -/
theorem invAccelVarCal_frame {st : MlState} {r : InvError × MlState}
    (h : invAccelVarCal st = .ok r) : ∃ a, r.2 = { st with calmatAccel := a } := by
  unfold invAccelVarCal at h
  split_ifs at h
  · cases h; exact ⟨st.calmatAccel, rfl⟩
  · obtain ⟨a, -, h⟩ := except_bind_eq_ok h
    cases h
    exact ⟨a, rfl⟩

/-- `inv_gyro_var_cal` changes only the gyro sensitivity fields and the gyro matrices. -/
theorem invGyroVarCal_frame {p : Platform} {cfg : MldlCfg} {st : MlState}
    {r : InvError × MlState} (h : invGyroVarCal p cfg st = .ok r) :
    ∃ a b g o, r.2 = { st with
      gyroSens := a, gyroSf := b, calmatGyro := g, calmatGyroOrient := o } := by
  unfold invGyroVarCal at h
  split_ifs at h
  · cases h; exact ⟨_, _, _, _, rfl⟩
  · obtain ⟨g, -, h⟩ := except_bind_eq_ok h
    obtain ⟨o, -, h⟩ := except_bind_eq_ok h
    cases h
    exact ⟨_, _, g, o, rfl⟩

/-- A matrix with a nonzero entry in each row has column fields `0`, `1` or `2`. -/
theorem scalar_fields_lt (mtx : Mount) (h : ∀ i, ∃ j, mtx.entry i j ≠ 0) :
    invOrientationMatrixToScalar mtx % 4 < 3 ∧ invOrientationMatrixToScalar mtx / 8 % 4 < 3 ∧
      invOrientationMatrixToScalar mtx / 64 % 4 < 3 := by
  have hc := fun i => (column_lt_three_iff mtx i).mpr (h i)
  exact ⟨by simpa using hc 0, hc 1, hc 2⟩

/-- Every index that `ml.c` derives from the scalar of a mounting matrix with a nonzero
entry in each row stays in its array: each calibration store lands in the row it
decodes, and none of the decoding functions faults. -/
theorem mount_decoders_in_bounds (p : Platform) (cfg : MldlCfg) (st : MlState) (mtx : Mount)
    (mode : Int) (h : ∀ i, ∃ j, mtx.entry i j ≠ 0) :
    (∀ i : Fin 3, rowIndex (invOrientationMatrixToScalar mtx) i / 3 = i.val) ∧
    (∃ r, invAccelVarCal (invSetAccelMounting mtx st) = .ok r) ∧
    (∃ r, invAccelDmpCal p cfg (invSetAccelMounting mtx st) = .ok r) ∧
    (∃ r, invMpu6050Accel p.dina (invOrientationMatrixToScalar mtx) mode = .ok r) ∧
    (∃ r, invGyroVarCal p cfg { st with gyroOrient := invOrientationMatrixToScalar mtx } = .ok r) ∧
    (∃ r, invGyroDmpCal p cfg { st with gyroOrient := invOrientationMatrixToScalar mtx } = .ok r) := by
  have hc := fun i => (column_lt_three_iff mtx i).mpr (h i)
  obtain ⟨h0, h1, h2⟩ := scalar_fields_lt mtx h
  refine ⟨fun i => ?_, invAccelVarCal_ok h0 h1 h2 _ rfl, invAccelDmpCal_ok h0 h1 h2 _ _ _ rfl,
    invMpu6050Accel_ok h0 h1 h2 _ _, invGyroVarCal_ok h0 h1 h2 _ _ _ rfl,
    invGyroDmpCal_ok h0 h1 h2 _ _ _ rfl⟩
  have := hc i
  rw [rowIndex_eq]
  omega

/-- The identity mounting matrix has a nonzero entry in each row, so every decoder runs. -/
theorem mount_decoders_in_bounds_identity :
    (∀ i, ∃ j, Mount.entry ![1, 0, 0, 0, 1, 0, 0, 0, 1] i j ≠ 0) ∧
    (∀ i : Fin 3, rowIndex (invOrientationMatrixToScalar ![1, 0, 0, 0, 1, 0, 0, 0, 1]) i / 3 =
      i.val) ∧
    (∃ r, invAccelVarCal (invSetAccelMounting ![1, 0, 0, 0, 1, 0, 0, 0, 1] default) = .ok r) ∧
    (∃ r, invAccelDmpCal default default
      (invSetAccelMounting ![1, 0, 0, 0, 1, 0, 0, 0, 1] default) = .ok r) ∧
    (∃ r, invMpu6050Accel default (invOrientationMatrixToScalar ![1, 0, 0, 0, 1, 0, 0, 0, 1]) 0 =
      .ok r) ∧
    (∃ r, invGyroVarCal default default { (default : MlState) with
      gyroOrient := invOrientationMatrixToScalar ![1, 0, 0, 0, 1, 0, 0, 0, 1] } = .ok r) ∧
    (∃ r, invGyroDmpCal default default { (default : MlState) with
      gyroOrient := invOrientationMatrixToScalar ![1, 0, 0, 0, 1, 0, 0, 0, 1] } = .ok r) :=
  ⟨by decide, mount_decoders_in_bounds default default default _ 0 (by decide)⟩

/-- The all-zero mounting matrix, which `inv_apply_calibration` passes on when no
accelerometer platform data is present, has the scalar 511: every column field is 3.
Row 0's store lands in row 1, row 2's store and the table loads run past their arrays,
and `inv_gyro_dmp_cal` leaves `regs[0]` unassigned. -/
theorem zeroMount_indices_out_of_bounds :
    invOrientationMatrixToScalar (fun _ => 0) = 511 ∧ rowIndex 511 0 = 3 ∧ rowIndex 511 2 = 9 ∧
    invAccelVarCal (invSetAccelMounting (fun _ => 0)
      { (default : MlState) with state := .dmpOpened }) = .error (.outOfBounds 9) ∧
    invAccelDmpCal default { (default : MldlCfg) with accelSlaveId := some 1 }
      (invSetAccelMounting (fun _ => 0) { (default : MlState) with state := .dmpOpened }) =
      .error (.outOfBounds 3) ∧
    invMpu6050Accel default 511 0 = .error (.outOfBounds 3) ∧
    invGyroVarCal default default
      { (default : MlState) with state := .dmpOpened, gyroOrient := 511 } =
      .error (.outOfBounds 9) ∧
    invGyroDmpCal default default
      { (default : MlState) with state := .dmpOpened, gyroOrient := 511 } = .error .indeterminate :=
  ⟨by decide, rfl, rfl, rfl, rfl, rfl, rfl, rfl⟩

end InvensenseMpl
