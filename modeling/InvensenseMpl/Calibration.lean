import InvensenseMpl.State
import Mathlib.Data.Fin.VecNotation

/-!
# Variable calibration matrices

`inv_accel_var_cal` and `inv_gyro_var_cal`
(`src/invensense/libsensors/mlsdk/mllite/ml.c:910–952`). Both clear a 3×3 matrix of
`long`s and store, for each row, `SIGNSET(orient & mask) * value` at the column that the
orientation scalar encodes for that row. They share that code (`orientMatrix`) and differ
in the sign masks: `inv_gyro_var_cal` reads each row's own sign bit, `inv_accel_var_cal`
reads row 0's bit `0x004` for row 1 as well.
-/

namespace InvensenseMpl

/-- The index `ml.c` stores row `i` of a calibration matrix at, decoded from `orient`
(`ml.c:919–921,941–946`). -/
def rowIndex (orient : Nat) : Fin 3 → Nat :=
  ![orient &&& 0x03, ((orient &&& 0x18) >>> 3) + 3, ((orient &&& 0xc0) >>> 6) + 6]

/-- The matrix that `inv_accel_var_cal` and `inv_gyro_var_cal` build: nine zeros
(`memset`), then `SIGNSET(orient & sign i) * value` at row `i`'s index, rows in order. -/
def orientMatrix (orient : Nat) (sign : Fin 3 → Nat) (value : Int) :
    Except Fault (Fin 9 → Int) := do
  let a₁ ← storeAt (fun _ => 0) (rowIndex orient 0) (signset (orient &&& sign 0) * value)
  let a₂ ← storeAt a₁ (rowIndex orient 1) (signset (orient &&& sign 1) * value)
  storeAt a₂ (rowIndex orient 2) (signset (orient &&& sign 2) * value)

/-- `inv_accel_var_cal` (`ml.c:910–924`); its row 1 is signed by the mask `0x004`. -/
def invAccelVarCal (st : MlState) : Except Fault (InvError × MlState) :=
  if st.state ≠ .dmpOpened then .ok (.errorSmImproperState, st) else do
    let accel ← orientMatrix st.accelOrient ![0x004, 0x004, 0x100] st.accelSens
    return (.success, { st with calmatAccel := accel })

/-- `inv_obj.gyro->sens` as `inv_gyro_var_cal` and `inv_gyro_dmp_cal` compute it
(`ml.c:933–937,1009–1014`); `/` of C truncates toward zero. -/
def gyroSensOf (cfg : MldlCfg) : Int :=
  if cfg.gyroSensTrim ≠ 0 then 250 * 2 ^ cfg.fullScale * Int.tdiv (131 * 2 ^ 15) cfg.gyroSensTrim
  else 2000 * 2 ^ 15

/-- `inv_gyro_var_cal` (`ml.c:926–952`). -/
def invGyroVarCal (p : Platform) (cfg : MldlCfg) (st : MlState) :
    Except Fault (InvError × MlState) :=
  if st.state ≠ .dmpOpened then .ok (.errorSmImproperState, st) else do
    let sens := gyroSensOf cfg
    let gyro ← orientMatrix st.gyroOrient ![0x004, 0x020, 0x100] sens
    let orient ← orientMatrix st.gyroOrient ![0x004, 0x020, 0x100] (2 ^ 30)
    return (.success, { st with
      gyroSens := sens, gyroSf := p.q30Mult sens 767603923,
      calmatGyro := gyro, calmatGyroOrient := orient })

/-- The sign that `orientMatrix` gives entry `(i, j)`: zero off the decoded column. -/
def decodedSign (orient : Nat) (sign : Fin 3 → Nat) (i j : Fin 3) : Int :=
  if j.val = orient / 8 ^ i.val % 4 then signset (orient &&& sign i) else 0

/-! ### The shared matrix -/

/-- Row `i`'s index is `3 i` plus its two-bit column field of `orient`. -/
theorem rowIndex_eq (o : Nat) (i : Fin 3) : rowIndex o i = 3 * i.val + o / 8 ^ i.val % 4 := by
  fin_cases i <;> simp [rowIndex, Nat.shiftRight_eq_div_pow] <;> omega

/-- When every decoded column is a column, the three stores stay in their rows and the
matrix holds `decodedSign * value`. -/
theorem orientMatrix_spec (o : Nat) (sign : Fin 3 → Nat) (v : Int)
    (h : ∀ i : Fin 3, o / 8 ^ i.val % 4 < 3) :
    ∃ a, orientMatrix o sign v = .ok a ∧
      ∀ i j : Fin 3, a (flatIdx i j) = decodedSign o sign i j * v := by
  have hidx : ∀ i, rowIndex o i = (flatIdx i ⟨_, h i⟩).val := rowIndex_eq o
  refine ⟨_, by simp only [orientMatrix, hidx, storeAt_of_lt _ (Fin.isLt _)]; rfl, ?_⟩
  intro i j
  have := j.isLt
  have h0 : o % 4 < 3 := by simpa using h 0
  have h1 : o / 8 % 4 < 3 := h 1
  have h2 : o / 64 % 4 < 3 := h 2
  simp only [Fin.eta, Function.update_apply, decodedSign, Fin.ext_iff, flatIdx]
  fin_cases i <;> simp <;> split_ifs <;> first | rfl | omega

/-! ### Decoding a mounting matrix -/

section Decode

variable {mtx : Mount} (hm : mtx.OneNonzeroPerRow)
include hm

/-- Each row's column field names a column: no store leaves its row. -/
theorem Mount.OneNonzeroPerRow.column_lt (i : Fin 3) :
    invOrientationMatrixToScalar mtx / 8 ^ i.val % 4 < 3 := by
  obtain ⟨c, -, -, hd⟩ := hm.digit i
  have := c.isLt
  split_ifs at hd <;> omega

/-- A mask that tests row `i`'s own sign bit decodes the sign of the row's entry. -/
theorem Mount.OneNonzeroPerRow.decodedSign_eq (sign : Fin 3 → Nat) (i j : Fin 3)
    (hs : ∀ o, o &&& sign i ≠ 0 ↔ o / 8 ^ i.val / 4 % 2 = 1) :
    decodedSign (invOrientationMatrixToScalar mtx) sign i j = (mtx.entry i j).sign := by
  obtain ⟨c, hc, hsign, -⟩ := hm.code i
  obtain ⟨hcol, hneg⟩ := hm.column_digit i
  simp only [decodedSign, hsign, hcol, hm.column_eq hc, Fin.val_inj, signset, ne_eq, hs,
    ← ne_eq, hneg]

/-- `inv_accel_var_cal`'s row 1 is signed by bit `0x004`: it carries row 0's sign. -/
theorem Mount.OneNonzeroPerRow.accelRow1_eq (j : Fin 3) :
    decodedSign (invOrientationMatrixToScalar mtx) ![0x004, 0x004, 0x100] 1 j =
      if mtx.entry 1 j = 0 then 0 else if mtx.RowNegative 0 then -1 else 1 := by
  obtain ⟨c, hc, hu⟩ := hm 1
  obtain ⟨hcol, -⟩ := hm.column_digit 1
  obtain ⟨-, hneg⟩ := hm.column_digit 0
  have hz : mtx.entry 1 j = 0 ↔ ¬j = c := ⟨fun h hj => hc (hj ▸ h), fun h => by_contra (h ∘ hu j)⟩
  simp only [Fin.val_zero, Fin.val_one, pow_zero, pow_one, Nat.div_one] at hcol hneg
  simp only [decodedSign, Fin.val_one, pow_one, hcol, hm.column_eq hc, Fin.val_inj, hz,
    Matrix.cons_val_one, Matrix.head_cons, and_0x004, signset, ← hneg, ite_not]
  split_ifs <;> omega

end Decode

/-- The masks `0x004`, `0x020`, `0x100` test the sign bit of rows 0, 1 and 2. -/
theorem ownSignMasks (i : Fin 3) (o : Nat) :
    o &&& ![0x004, 0x020, 0x100] i ≠ 0 ↔ o / 8 ^ i.val / 4 % 2 = 1 := by
  fin_cases i <;>
    simp only [Fin.zero_eta, Fin.mk_one, Fin.reduceFinMk, Matrix.cons_val_zero,
      Matrix.cons_val_one, Matrix.cons_val_two, Matrix.head_cons, Matrix.tail_cons, and_0x004,
      and_0x020, and_0x100, ne_eq, Fin.val_zero, Fin.val_one, Fin.val_two, Nat.reducePow,
      Nat.div_one] <;>
    omega

/-- `inv_gyro_var_cal` in `INV_STATE_DMP_OPENED` on a scalar whose column fields are `0`, `1`
or `2` succeeds: it sets `gyro->sens` and `gyro->sf` and stores the decoded signs times the
sensitivity and times `2^30`. -/
theorem invGyroVarCal_spec (p : Platform) (cfg : MldlCfg) (st : MlState)
    (hs : st.state = .dmpOpened) (hcol : ∀ i : Fin 3, st.gyroOrient / 8 ^ i.val % 4 < 3) :
    ∃ g r, invGyroVarCal p cfg st = .ok (.success, { st with
        gyroSens := gyroSensOf cfg, gyroSf := p.q30Mult (gyroSensOf cfg) 767603923,
        calmatGyro := g, calmatGyroOrient := r }) ∧
      ∀ i j : Fin 3,
        g (flatIdx i j) = decodedSign st.gyroOrient ![0x004, 0x020, 0x100] i j * gyroSensOf cfg ∧
        r (flatIdx i j) = decodedSign st.gyroOrient ![0x004, 0x020, 0x100] i j * 2 ^ 30 := by
  obtain ⟨g, hg, hgv⟩ := orientMatrix_spec _ ![0x004, 0x020, 0x100] (gyroSensOf cfg) hcol
  obtain ⟨r, hr, hrv⟩ := orientMatrix_spec _ ![0x004, 0x020, 0x100] (2 ^ 30) hcol
  exact ⟨g, r, by simp only [invGyroVarCal, hs, hg, hr]; rfl, fun i j => ⟨hgv i j, hrv i j⟩⟩

/-- `inv_gyro_var_cal` on the scalar of a matrix with one nonzero entry per row succeeds
and stores, at every position, the sign of the matrix entry times `gyro->sens` in
`calmat->gyro` and times `2^30` in `calmat->gyro_orient`. -/
theorem invGyroVarCal_reproduces_mount (p : Platform) (cfg : MldlCfg) (st : MlState)
    (mtx : Mount) (hm : mtx.OneNonzeroPerRow)
    (ho : st.gyroOrient = invOrientationMatrixToScalar mtx) (hs : st.state = .dmpOpened) :
    ∃ st', invGyroVarCal p cfg st = .ok (.success, st') ∧ ∀ i j : Fin 3,
      st'.calmatGyro (flatIdx i j) = (mtx.entry i j).sign * st'.gyroSens ∧
      st'.calmatGyroOrient (flatIdx i j) = (mtx.entry i j).sign * 2 ^ 30 := by
  obtain ⟨g, r, h, hv⟩ := invGyroVarCal_spec p cfg st hs (ho ▸ hm.column_lt)
  refine ⟨_, h, fun i j => ?_⟩
  simp only [(hv i j).1, (hv i j).2, ho, hm.decodedSign_eq _ i j (ownSignMasks i), and_self]

/-- `inv_gyro_var_cal` on a signed permutation mixing columns and signs. -/
theorem invGyroVarCal_reproduces_rotation :
    Mount.OneNonzeroPerRow ![0, 0, -1, 1, 0, 0, 0, -1, 0] ∧
    ∃ st', invGyroVarCal default default { (default : MlState) with
        state := .dmpOpened,
        gyroOrient := invOrientationMatrixToScalar ![0, 0, -1, 1, 0, 0, 0, -1, 0] } =
        .ok (.success, st') ∧ ∀ i j : Fin 3,
      st'.calmatGyro (flatIdx i j) =
        (Mount.entry ![0, 0, -1, 1, 0, 0, 0, -1, 0] i j).sign * st'.gyroSens ∧
      st'.calmatGyroOrient (flatIdx i j) =
        (Mount.entry ![0, 0, -1, 1, 0, 0, 0, -1, 0] i j).sign * 2 ^ 30 :=
  ⟨by decide, invGyroVarCal_reproduces_mount default default _ _ (by decide) rfl rfl⟩

/-- The masks `0x004`, `0x004`, `0x100` of `inv_accel_var_cal` test the own sign bit of
rows 0 and 2. -/
theorem accelSignMasks (i : Fin 3) (hi : i ≠ 1) (o : Nat) :
    o &&& ![0x004, 0x004, 0x100] i ≠ 0 ↔ o / 8 ^ i.val / 4 % 2 = 1 := by
  fin_cases i
  · simp only [Fin.zero_eta, Fin.isValue, Matrix.cons_val_zero, and_0x004, ne_eq, Fin.val_zero,
      pow_zero, Nat.div_one]
    omega
  · exact absurd rfl hi
  · simp only [Fin.reduceFinMk, Fin.isValue, Matrix.cons_val_two, Matrix.tail_cons,
      Matrix.head_cons, and_0x100, ne_eq, Nat.reducePow]
    omega

/-- What `inv_accel_var_cal` computes from the scalar of a matrix with one nonzero entry
per row: it succeeds, and its matrix is the matrix's sign pattern times `accel->sens`
exactly when the sensitivity is zero or rows 0 and 1 have the same sign. -/
theorem invAccelVarCal_reproduces_mount_iff (st : MlState) (mtx : Mount)
    (hm : mtx.OneNonzeroPerRow) (ho : st.accelOrient = invOrientationMatrixToScalar mtx)
    (hs : st.state = .dmpOpened) :
    ∃ st', invAccelVarCal st = .ok (.success, st') ∧ st'.accelSens = st.accelSens ∧
      ((∀ i j : Fin 3, st'.calmatAccel (flatIdx i j) = (mtx.entry i j).sign * st'.accelSens) ↔
        (st.accelSens = 0 ∨ (mtx.RowNegative 0 ↔ mtx.RowNegative 1))) := by
  have hcol : ∀ i : Fin 3, st.accelOrient / 8 ^ i.val % 4 < 3 := ho ▸ hm.column_lt
  obtain ⟨a, ha, hav⟩ := orientMatrix_spec _ ![0x004, 0x004, 0x100] st.accelSens hcol
  refine ⟨_, by simp only [invAccelVarCal, hs, ha]; rfl, by rfl, ?_⟩
  obtain ⟨c1, hne, hs1, -⟩ := hm.code 1
  have hrow : ∀ i, i ≠ 1 → ∀ j, decodedSign st.accelOrient ![0x004, 0x004, 0x100] i j =
      (mtx.entry i j).sign := fun i hi j => ho ▸ hm.decodedSign_eq _ i j (accelSignMasks i hi)
  have hr1 : ∀ j, decodedSign st.accelOrient ![0x004, 0x004, 0x100] 1 j =
      if mtx.entry 1 j = 0 then 0 else if mtx.RowNegative 0 then -1 else 1 :=
    fun j => ho ▸ hm.accelRow1_eq j
  simp only [hav]
  constructor
  · intro h
    have h1 := h 1 c1
    rw [hr1, hs1, if_neg hne, if_pos rfl] at h1
    by_cases h0 : mtx.RowNegative 0 <;> by_cases h1' : mtx.RowNegative 1
    · exact .inr (iff_of_true h0 h1')
    · left
      simp only [h0, h1', if_true, if_false] at h1
      omega
    · left
      simp only [h0, h1', if_true, if_false] at h1
      omega
    · exact .inr (iff_of_false h0 h1')
  · intro h i j
    by_cases hi : i = 1
    · subst hi
      rw [hr1, hs1]
      by_cases hj : j = c1
      · subst hj
        rcases h with h | h <;> simp [hne, h]
      · have hz : mtx.entry 1 j = 0 := Int.sign_eq_zero_iff_zero.mp (by simp [hs1, hj])
        simp [hz, hj]
    · exact congrArg (· * st.accelSens) (hrow i hi j)

/-- On `diag(1, -1, 1)`, whose rows 0 and 1 differ in sign, the matrix is not the sign
pattern. -/
theorem invAccelVarCal_reproduces_mount_iff_diag :
    Mount.OneNonzeroPerRow ![1, 0, 0, 0, -1, 0, 0, 0, 1] ∧
    ∃ st', invAccelVarCal (invSetAccelMounting ![1, 0, 0, 0, -1, 0, 0, 0, 1]
        { (default : MlState) with state := .dmpOpened, accelSens := 16384 }) =
        .ok (.success, st') ∧ st'.accelSens = 16384 ∧
      ((∀ i j : Fin 3, st'.calmatAccel (flatIdx i j) =
          (Mount.entry ![1, 0, 0, 0, -1, 0, 0, 0, 1] i j).sign * st'.accelSens) ↔
        ((16384 : Int) = 0 ∨ (Mount.RowNegative ![1, 0, 0, 0, -1, 0, 0, 0, 1] 0 ↔
          Mount.RowNegative ![1, 0, 0, 0, -1, 0, 0, 0, 1] 1))) :=
  ⟨by decide, invAccelVarCal_reproduces_mount_iff _ _ (by decide) rfl rfl⟩

/-- After `inv_set_accel_mounting(diag(1, -1, 1))` with `accel->sens = 16384`,
`inv_accel_var_cal` stores `+16384` at `calmat->accel[4]`, where the matrix has `-1`. -/
theorem invAccelVarCal_row1_sign_of_diag :
    ∃ st', invAccelVarCal (invSetAccelMounting ![1, 0, 0, 0, -1, 0, 0, 0, 1]
        { (default : MlState) with state := .dmpOpened, accelSens := 16384 }) =
        .ok (.success, st') ∧
      st'.calmatAccel (flatIdx 1 1) = 16384 ∧
      (Mount.entry ![1, 0, 0, 0, -1, 0, 0, 0, 1] 1 1).sign * 16384 = -16384 :=
  ⟨_, rfl, rfl, by decide⟩

end InvensenseMpl
