import InvensenseMpl.State

/-!
# Freescale accelerometer fusion programs

`inv_freescale_sensor_fusion_16bit` and `inv_freescale_sensor_fusion_8bit`
(`ml.c:1774–1950`) choose DMP opcodes by the axis permutation of the accelerometer
orientation, `inv_accel_orient & 0xdb`: the three column fields without the sign bits. The
8-bit program is built in the 27-byte array `regs` through the cursor `kk`: ten fixed
bytes, ten chosen by the permutation, and seven more. For every orientation the cursor stops
at exactly 27, so no store runs past `regs` and every byte written to the DMP was assigned
(`invFreescaleSensorFusion8bit_write`).
-/

namespace InvensenseMpl

/-- `inv_freescale_sensor_fusion_16bit` (`ml.c:1774–1816`). -/
def invFreescaleSensorFusion16bit (p : Platform) (st : MlState) : InvError × MlState :=
  let d := p.dina
  let rr := match st.accelOrient &&& 0xdb with
    | 0x50 => [d.dinaCE, d.dina0E, d.dinaCD]
    | 0x81 => [d.dinaCE, d.dinaCB, d.dina0E]
    | 0x11 => [d.dinaCC, d.dina0E, d.dinaCB]
    | 0x42 => [d.dina0A, d.dinaCF, d.dinaCB]
    | 0x0a => [d.dina0A, d.dinaCB, d.dinaCD]
    | _ => [d.dinaCC, d.dinaCF, d.dina0E]
  setMpuMemory p .keyFcfgAz rr st

/-- The ten bytes that `inv_freescale_sensor_fusion_8bit` stores by axis permutation
(`ml.c:1843–1925`). -/
def fusion8bitAxes (d : Dina) (orient : Nat) : List UInt8 :=
  match orient &&& 0xdb with
  | 0x50 => [d.dinaCB, d.dinaCF, d.dina7C,
      d.dina78, d.dina78, d.dina78, d.dina78, d.dina78, d.dina78, d.dina78]
  | 0x81 => [d.dina2C, d.dina28, d.dina28, d.dina28, d.dina28, d.dina28, d.dina28, d.dina28,
      d.dinaCD, d.dinaCB]
  | 0x11 => [d.dina2C, d.dina28, d.dina28, d.dina28, d.dina28, d.dina28, d.dina28, d.dina28,
      d.dinaCB, d.dinaCF]
  | 0x42 => [d.dinaCF, d.dinaCD, d.dina7C,
      d.dina78, d.dina78, d.dina78, d.dina78, d.dina78, d.dina78, d.dina78]
  | 0x0a => [d.dinaCD, d.dina54, d.dina50, d.dina50, d.dina50, d.dina50, d.dina50, d.dina50,
      d.dina50, d.dinaCF]
  | _ => [d.dinaCB, d.dina54, d.dina50, d.dina50, d.dina50, d.dina50, d.dina50, d.dina50,
      d.dina50, d.dinaCD]

/-- The bytes `inv_freescale_sensor_fusion_8bit` stores through `regs[kk++]`, in order
(`ml.c:1831–1935`). -/
def fusion8bitBytes (d : Dina) (orient : Nat) : List UInt8 :=
  [d.dinaC3, d.dina90 + 14, d.dinaA0 + 9, d.dina3E, d.dina5E, d.dina7E,
    d.dinaC2, d.dinaA0 + 9, d.dina90 + 9, d.dinaF8 + 2] ++
  fusion8bitAxes d orient ++
  [d.dina90 + 7, d.dinaF8 + 3, d.dinaA0 + 9, d.dina0E, d.dina0E, d.dina0E, d.dinaF8 + 1]

/-- `regs[kk++] = b` for each byte `b` in turn. -/
def pushRegs {n : Nat} :
    (Fin n → Option UInt8) → Nat → List UInt8 → Except Fault ((Fin n → Option UInt8) × Nat)
  | regs, kk, [] => .ok (regs, kk)
  | regs, kk, b :: bs => do
    let regs ← storeAt regs kk (some b)
    pushRegs regs (kk + 1) bs

/-- `regs[0..k)` as `inv_set_mpu_memory(key, k, regs)` reads them. -/
def readRegs {n : Nat} (regs : Fin n → Option UInt8) : Nat → Except Fault (List UInt8)
  | 0 => .ok []
  | k + 1 => do
    let rest ← readRegs regs k
    let b ← assigned (← loadAt regs k)
    .ok (rest ++ [b])

/-- `inv_freescale_sensor_fusion_8bit` (`ml.c:1824–1950`): `regs` starts unassigned. -/
def invFreescaleSensorFusion8bit (p : Platform) (st : MlState) :
    Except Fault (InvError × MlState) := do
  let (regs, kk) ← pushRegs (fun _ : Fin 27 => none) 0 (fusion8bitBytes p.dina st.accelOrient)
  let bytes ← readRegs regs kk
  .ok (setMpuMemory p .keyFcfgFscale bytes st)

/-! ### The cursor stays in `regs` -/

section Cursor

variable {n : Nat}

/-- Storing `bs` from the end of an assigned prefix `pre` assigns `pre ++ bs`, and leaves the
cursor after it. -/
theorem pushRegs_spec (bs pre : List UInt8) (regs : Fin n → Option UInt8)
    (hpre : ∀ i : Fin n, i.val < pre.length → regs i = pre[i.val]?)
    (h : pre.length + bs.length ≤ n) :
    ∃ regs', pushRegs regs pre.length bs = .ok (regs', pre.length + bs.length) ∧
      ∀ i : Fin n, i.val < pre.length + bs.length → regs' i = (pre ++ bs)[i.val]? := by
  induction bs generalizing pre regs with
  | nil => exact ⟨regs, rfl, by simpa using hpre⟩
  | cons b bs ih =>
    have hlt : pre.length < n := by simp only [List.length_cons] at h; omega
    have hpre' : ∀ i : Fin n, i.val < (pre ++ [b]).length →
        Function.update regs ⟨pre.length, hlt⟩ (some b) i = (pre ++ [b])[i.val]? := by
      intro i hi
      simp only [List.length_append, List.length_singleton] at hi
      by_cases hi' : i = ⟨pre.length, hlt⟩
      · subst hi'; simp
      · have : i.val < pre.length := by
          have := Fin.val_ne_of_ne hi'; simp only at this; omega
        rw [Function.update_noteq hi', hpre i this, List.getElem?_append_left this]
    obtain ⟨regs', hpush, hregs'⟩ := ih (pre ++ [b]) _ hpre' (by simp at h ⊢; omega)
    refine ⟨regs', ?_, fun i hi => ?_⟩
    · simp only [pushRegs, storeAt_of_lt _ hlt, except_ok_bind]
      simpa [Nat.add_assoc, Nat.add_comm 1] using hpush
    · simpa using hregs' i (by simp at hi ⊢; omega)

/-- Reading back an assigned prefix `l` returns it. -/
theorem readRegs_spec (l : List UInt8) (regs : Fin n → Option UInt8)
    (hl : ∀ i : Fin n, i.val < l.length → regs i = l[i.val]?) (hn : l.length ≤ n) :
    ∀ k ≤ l.length, readRegs regs k = .ok (l.take k) := by
  intro k hk
  induction k with
  | zero => rfl
  | succ k ih =>
    have hkn : k < n := by omega
    have hk' : k < l.length := by omega
    simp only [readRegs, ih (by omega), except_ok_bind, loadAt_of_lt _ hkn,
      hl ⟨k, hkn⟩ hk', List.getElem?_eq_getElem hk', assigned_some, List.take_succ,
      Option.toList_some]

end Cursor

/-- Every permutation stores ten bytes. -/
theorem fusion8bitAxes_length (d : Dina) (orient : Nat) : (fusion8bitAxes d orient).length = 10 := by
  unfold fusion8bitAxes; split <;> rfl

/-- The program stores 27 bytes, the size of `regs`. -/
theorem fusion8bitBytes_length (d : Dina) (orient : Nat) : (fusion8bitBytes d orient).length = 27 := by
  simp [fusion8bitBytes, fusion8bitAxes_length]

/-- The stores of the 8-bit program stay in `regs` and assign every byte read back:
`KEY_FCFG_FSCALE` receives the bytes in the order they were stored. -/
theorem invFreescaleSensorFusion8bit_write (p : Platform) (st : MlState) :
    invFreescaleSensorFusion8bit p st =
      .ok (setMpuMemory p .keyFcfgFscale (fusion8bitBytes p.dina st.accelOrient) st) := by
  have hlen := fusion8bitBytes_length p.dina st.accelOrient
  obtain ⟨regs, hpush, hregs⟩ := pushRegs_spec (fusion8bitBytes p.dina st.accelOrient) []
    (fun _ : Fin 27 => none) (fun _ h => absurd h (Nat.not_lt_zero _)) (by simp [hlen])
  simp only [List.nil_append, List.length_nil, Nat.zero_add] at hpush hregs
  simp only [invFreescaleSensorFusion8bit, hpush, except_ok_bind,
    readRegs_spec _ regs hregs (by omega) _ le_rfl, List.take_length]

end InvensenseMpl
