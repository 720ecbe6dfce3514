import InvensenseMpl.DmpCal

/-!
# What the DMP is told about the mounting

For a mounting matrix with one nonzero entry per row, `inv_gyro_dmp_cal` and
`inv_accel_dmp_cal` (`ml.c:819–1027`) program the DMP with, for each row, an opcode chosen by
the column of the row's entry and an opcode whose bit 0 marks a negative row. Both read each
row's sign from that row's own bit of the scalar, also for row 1, which
`inv_accel_var_cal` signs with row 0's bit instead.
-/

namespace InvensenseMpl

/-- The opcode `inv_gyro_dmp_cal` writes to `KEY_FCFG_1` for a row whose entry is in column
`c` (`ml.c:967–984`). -/
def fcfg1Opcode (d : Dina) (c : Fin 3) : UInt8 := ![d.dina4C, d.dinaCD, d.dina6C] c

/-- The opcode `inv_accel_dmp_cal` writes to `KEY_FCFG_2` for a row whose entry is in column
`c`: `tmp[c]` (`ml.c:852–858`). -/
def fcfg2Opcode (d : Dina) (c : Fin 3) : UInt8 := ![d.dina0C, d.dinaC9, d.dina2C] c

/-- A sign opcode with bit 0 set for a negative row. -/
def signedOpcode (b : UInt8) (neg : Prop) [Decidable neg] : UInt8 := if neg then b ||| 1 else b

/-- The `if` chain of `inv_gyro_dmp_cal` picks column `c`'s opcode for the field `c * m`. -/
theorem fcfg1Byte_column (d : Dina) (c : Fin 3) (m : Nat) (hm : 0 < m) :
    fcfg1Byte d (c.val * m) 0 m (2 * m) = some (fcfg1Opcode d c) := by
  have h2 : 2 * m ≠ m := by omega
  have h2' : 2 * m ≠ 0 := by omega
  fin_cases c <;> simp [fcfg1Byte, fcfg1Opcode, hm.ne', h2, h2']

/-- The mask tests of both DMP functions on the scalar of a matrix with one nonzero entry per
row: each column field is the row's column, and each sign bit is set exactly for a negative
row. -/
theorem Mount.OneNonzeroPerRow.scalar_fields {mtx : Mount} (h : mtx.OneNonzeroPerRow) :
    invOrientationMatrixToScalar mtx % 4 = (mtx.column 0).val ∧
    invOrientationMatrixToScalar mtx / 8 % 4 = (mtx.column 1).val ∧
    invOrientationMatrixToScalar mtx / 64 % 4 = (mtx.column 2).val ∧
    (¬invOrientationMatrixToScalar mtx / 4 % 2 * 4 = 0 ↔ mtx.RowNegative 0) ∧
    (¬invOrientationMatrixToScalar mtx / 32 % 2 * 32 = 0 ↔ mtx.RowNegative 1) ∧
    (¬invOrientationMatrixToScalar mtx / 256 % 2 * 256 = 0 ↔ mtx.RowNegative 2) := by
  obtain ⟨c0, n0⟩ := h.column_digit 0
  obtain ⟨c1, n1⟩ := h.column_digit 1
  obtain ⟨c2, n2⟩ := h.column_digit 2
  simp only [Fin.val_zero, Fin.val_one, Fin.val_two, pow_zero, pow_one, Nat.div_one,
    Nat.reducePow] at c0 n0 c1 n1 c2 n2
  exact ⟨c0, c1, c2, by rw [← n0]; omega, by rw [← n1]; omega, by rw [← n2]; omega⟩

/-- For a gyro matrix with one nonzero entry per row, and serial writes that succeed,
`inv_gyro_dmp_cal` writes each row's column opcode to `KEY_FCFG_1`, each row's sign opcode
to `KEY_FCFG_3`, and the scale factor to `KEY_D_0_104`. -/
theorem invGyroDmpCal_programs_mount (p : Platform) (cfg : MldlCfg) (st : MlState)
    (mtx : Mount) (hm : mtx.OneNonzeroPerRow)
    (ho : st.gyroOrient = invOrientationMatrixToScalar mtx) (hs : st.state = .dmpOpened)
    (hw : ∀ k b, p.setMpuMemory k b = .success) :
    invGyroDmpCal p cfg st = .ok (.success, { st with
      gyroSens := gyroSensOf cfg, gyroSf := p.q30Mult (gyroSensOf cfg) 767603923,
      dmpWrites := st.dmpWrites ++
        [(.keyFcfg1, [fcfg1Opcode p.dina (mtx.column 0), fcfg1Opcode p.dina (mtx.column 1),
            fcfg1Opcode p.dina (mtx.column 2)]),
          (.keyFcfg3, [signedOpcode p.dina.dina36 (mtx.RowNegative 0),
            signedOpcode p.dina.dina56 (mtx.RowNegative 1),
            signedOpcode p.dina.dina76 (mtx.RowNegative 2)]),
          (.keyD_0_104, p.int32ToBig8 (p.q30Mult (gyroSensOf cfg) 767603923))] }) := by
  obtain ⟨c0, c1, c2, n0, n1, n2⟩ := hm.scalar_fields
  have f0 := fcfg1Byte_column p.dina (mtx.column 0) 1 Nat.one_pos
  have f1 := fcfg1Byte_column p.dina (mtx.column 1) 8 (by decide)
  have f2 := fcfg1Byte_column p.dina (mtx.column 2) 64 (by decide)
  simp only [Nat.mul_one, Nat.reduceMul] at f0 f1 f2
  simp only [invGyroDmpCal, hs, ho, ne_eq, not_true_eq_false, if_false, and_0x03, and_0x18,
    and_0xc0, and_0x004, and_0x020, and_0x100, c0, c1, c2, n0, n1, n2, f0, f1, f2, assigned_some,
    except_ok_bind, thenWrite_of_success (hw _ _), setMpuMemory, hw, signedOpcode,
    List.append_assoc, List.singleton_append]

/-- The rotation `x ↦ -z`, `y ↦ x`, `z ↦ -y`: rows 0 and 2 are negative, and the rows' entries
are in columns 2, 0 and 1. -/
theorem invGyroDmpCal_programs_rotation :
    Mount.OneNonzeroPerRow ![0, 0, -1, 1, 0, 0, 0, -1, 0] ∧
    (∀ k b, (default : Platform).setMpuMemory k b = .success) ∧
    invGyroDmpCal default default { (default : MlState) with
        state := .dmpOpened,
        gyroOrient := invOrientationMatrixToScalar ![0, 0, -1, 1, 0, 0, 0, -1, 0] } =
      .ok (.success, { (default : MlState) with
        state := .dmpOpened,
        gyroOrient := invOrientationMatrixToScalar ![0, 0, -1, 1, 0, 0, 0, -1, 0],
        gyroSens := gyroSensOf default,
        gyroSf := (default : Platform).q30Mult (gyroSensOf default) 767603923,
        dmpWrites :=
          [(.keyFcfg1, [(default : Dina).dina6C, (default : Dina).dina4C, (default : Dina).dinaCD]),
            (.keyFcfg3, [(default : Dina).dina36 ||| 1, (default : Dina).dina56,
              (default : Dina).dina76 ||| 1]),
            (.keyD_0_104, (default : Platform).int32ToBig8
              ((default : Platform).q30Mult (gyroSensOf default) 767603923))] }) :=
  ⟨by decide, fun _ _ => rfl,
    (invGyroDmpCal_programs_mount default default _ ![0, 0, -1, 1, 0, 0, 0, -1, 0] (by decide)
      rfl rfl fun _ _ => rfl).trans rfl⟩

/-- For an accelerometer matrix with one nonzero entry per row, a slave with a nonzero id, and
serial writes that succeed, `inv_accel_dmp_cal` writes each row's column opcode to
`KEY_FCFG_2` and each row's sign opcode to `KEY_FCFG_7`, row 1's from row 1's own bit. -/
theorem invAccelDmpCal_programs_mount (p : Platform) (cfg : MldlCfg) (st : MlState)
    (mtx : Mount) (hm : mtx.OneNonzeroPerRow) {id : Nat} (hid : cfg.accelSlaveId = some id)
    (hid0 : id ≠ 0) (ho : st.accelOrient = invOrientationMatrixToScalar mtx)
    (hs : st.state = .dmpOpened) (hw : ∀ k b, p.setMpuMemory k b = .success) :
    invAccelDmpCal p cfg st = .ok (.success, { st with
      dmpWrites := st.dmpWrites ++
        ((if p.dmpkeySupported .keyD_1_152 then [(.keyD_1_152, accelZeroG p id)] else []) ++
        [(.keyFcfg2, [fcfg2Opcode p.dina (mtx.column 0), fcfg2Opcode p.dina (mtx.column 1),
            fcfg2Opcode p.dina (mtx.column 2)]),
          (.keyFcfg7, [signedOpcode p.dina.dina26 (mtx.RowNegative 0),
            signedOpcode p.dina.dina46 (mtx.RowNegative 1),
            signedOpcode (if cfg.prodKey = p.mpuProductKeyB1E15 then p.dina.dina76
              else p.dina.dina66) (mtx.RowNegative 2)]),
          (.keyD_0_108, accelSfBytes st.accelSens)]) }) := by
  obtain ⟨c0, c1, c2, n0, n1, n2⟩ := hm.scalar_fields
  have hax : ∀ st' : MlState, st'.accelSens = st.accelSens →
      accelAxes p cfg st.accelOrient st'
        (fun st => .ok (setMpuMemory p .keyD_0_108 (accelSfBytes st.accelSens) st)) =
      .ok (.success, { st' with
        dmpWrites := st'.dmpWrites ++
          [(.keyFcfg2, [fcfg2Opcode p.dina (mtx.column 0), fcfg2Opcode p.dina (mtx.column 1),
              fcfg2Opcode p.dina (mtx.column 2)]),
            (.keyFcfg7, [signedOpcode p.dina.dina26 (mtx.RowNegative 0),
              signedOpcode p.dina.dina46 (mtx.RowNegative 1),
              signedOpcode (if cfg.prodKey = p.mpuProductKeyB1E15 then p.dina.dina76
                else p.dina.dina66) (mtx.RowNegative 2)]),
            (.keyD_0_108, accelSfBytes st.accelSens)] }) := by
    intro st' hsens
    simp only [accelAxes, ho, and_0x03, Nat.shiftRight_eq_div_pow, Nat.reducePow, c0, c1, c2, loadAt_val,
      except_ok_bind, thenWrite_of_success (hw _ _), ne_eq, and_0x004, and_0x020, and_0x100,
      n0, n1, n2, setMpuMemory, hw, signedOpcode, fcfg2Opcode, hsens, List.append_assoc,
      List.singleton_append]
  rw [invAccelDmpCal, if_neg (not_not.2 hs)]
  simp only [hid, ne_eq, hid0, not_false_eq_true, if_true]
  by_cases hk : p.dmpkeySupported .keyD_1_152
  · rw [if_pos hk, thenWrite_of_success (hw _ _), hax (setMpuMemory p _ _ st).2 rfl]
    simp only [setMpuMemory, hk, if_true, List.append_assoc, List.singleton_append]
  · rw [if_neg hk, hax _ rfl]
    simp only [hk, Bool.false_eq_true, if_false, List.nil_append]

/-- The same rotation as accelerometer mounting, on a slave with id 1. -/
theorem invAccelDmpCal_programs_rotation :
    Mount.OneNonzeroPerRow ![0, 0, -1, 1, 0, 0, 0, -1, 0] ∧
    ({ (default : MldlCfg) with accelSlaveId := some 1 }).accelSlaveId = some 1 ∧ 1 ≠ 0 ∧
    (∀ k b, (default : Platform).setMpuMemory k b = .success) ∧
    invAccelDmpCal default { (default : MldlCfg) with accelSlaveId := some 1 }
        { (default : MlState) with
          state := .dmpOpened, accelSens := 16384,
          accelOrient := invOrientationMatrixToScalar ![0, 0, -1, 1, 0, 0, 0, -1, 0] } =
      .ok (.success, { (default : MlState) with
        state := .dmpOpened, accelSens := 16384,
        accelOrient := invOrientationMatrixToScalar ![0, 0, -1, 1, 0, 0, 0, -1, 0],
        dmpWrites :=
          [(.keyFcfg2, [(default : Dina).dina2C, (default : Dina).dina0C, (default : Dina).dinaC9]),
            (.keyFcfg7, [(default : Dina).dina26 ||| 1, (default : Dina).dina46,
              (default : Dina).dina76 ||| 1]),
            (.keyD_0_108, accelSfBytes 16384)] }) :=
  ⟨by decide, rfl, by decide, fun _ _ => rfl,
    (invAccelDmpCal_programs_mount default _ _ ![0, 0, -1, 1, 0, 0, 0, -1, 0] (by decide) rfl
      (by decide) rfl rfl fun _ _ => rfl).trans rfl⟩

end InvensenseMpl
