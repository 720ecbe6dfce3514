import InvensenseMpl.Calibration
import Mathlib.Tactic.Ring

/-!
# Resetting the motion state

`inv_reset_motion` (`ml.c:393–460`) does three things. It marks the device as moving. It
rewrites the DMP's motion registers. It pushes the gyro bias back to the DMP through
`calmat->gyro_orient`, the Q30 matrix that `inv_gyro_var_cal` builds from the gyro mounting.
`inv_check_flag` (`ml.c:569–577`) reads one flag and clears it, without checking the index:
a flag outside `sys->flags` faults (`invCheckFlag_ok_iff`).

Whatever its writes return, a reset changes only the motion fields and the two logs
(`invResetMotion_frame`). When `inv_q30_mult` is the `(long long)a * b >> 30` of
`mlmath.c`, the words a reset pushes after `inv_gyro_var_cal` are the scaled bias, permuted
and signed as the mounting matrix says (`gyroVarCal_then_resetMotion`).
-/

namespace InvensenseMpl

/-- `inv_set_motion_state(state)` of `mlstates.c`: recorded. -/
def setMotionState (s : Nat) (st : MlState) : MlState :=
  { st with motionStateCalls := st.motionStateCalls ++ [s] }

/-- `bias_tmp[ii]` (`ml.c:429–431`). -/
def biasTmp (p : Platform) (bias : Fin 3 → Int) (ii : Fin 3) : Int :=
  p.q30Mult (bias ii) 767603923

/-- `bias_value[ii]` (`ml.c:432–439`): row `ii` of `gyro_orient` applied to `bias_tmp` in
Q30. -/
def biasValue (p : Platform) (tmp : Fin 3 → Int) (orient : Fin 9 → Int) (ii : Fin 3) : Int :=
  p.q30Mult (tmp 0) (orient (flatIdx ii 0)) + p.q30Mult (tmp 1) (orient (flatIdx ii 1)) +
    p.q30Mult (tmp 2) (orient (flatIdx ii 2))

/-- The twelve bytes of `bias` (`ml.c:426–441`): each `bias_value[ii]` as
`inv_int32_to_big8` writes it at `&bias[4 * ii]`. -/
def resetMotionBias (p : Platform) (bias : Fin 3 → Int) (orient : Fin 9 → Int) : List UInt8 :=
  let v := biasValue p (biasTmp p bias) orient
  p.int32ToBig8 (v 0) ++ p.int32ToBig8 (v 1) ++ p.int32ToBig8 (v 2)

/-- The two bytes of `motion_duration`, high first (`ml.c:404–405`). -/
def motionDurationBytes (d : Nat) : List UInt8 :=
  [UInt8.ofNat (d >>> 8 &&& 0xff), UInt8.ofNat (d &&& 0xff)]

/-- `inv_reset_motion` (`ml.c:393–460`). `flags[INV_MOTION_STATE_CHANGE]` is stored at a
constant index of the headers, taken to lie within the array. -/
def invResetMotion (p : Platform) (st : MlState) : InvError × MlState :=
  let st := setMotionState p.invMotion st
  let st := { st with
    motionState := p.invMotion,
    flags := Function.update st.flags p.invMotionStateChange p.invMotion,
    noMotionAccelTime := p.tickCount }
  andThen (setMpuMemory p .keyD_1_106 (motionDurationBytes st.motionDuration) st) fun st =>
  andThen (setMpuMemory p .keyD_1_96 (List.replicate 8 0) st) fun st =>
  andThen (setMpuMemory p .keyD_0_96 (p.int32ToBig8 0x40000000) st) fun st =>
  andThen (if p.dmpkeySupported .keyD_2_96 then
      setMpuMemory p .keyD_2_96 (resetMotionBias p st.gyroBias st.calmatGyroOrient) st
    else (p.setGyroBiasInDps st.gyroBias, st)) fun st =>
  (.success, setMotionState p.invMotion st)

/-- `inv_check_flag` (`ml.c:569–577`): `flags[flag]` read and cleared. The index is not checked,
so a `flag` outside the array faults. -/
def invCheckFlag (p : Platform) (flag : Int) (st : MlState) : Except Fault (Int × MlState) :=
  if flag < 0 then .error (.negativeIndex flag) else
  if p.numFlags ≤ flag.toNat then .error (.outOfBounds flag.toNat) else
  .ok (st.flags flag.toNat, { st with flags := Function.update st.flags flag.toNat 0 })

/-- `inv_check_flag` returns a result exactly for a `flag` within `flags`, and then only clears
that flag. -/
theorem invCheckFlag_ok_iff (p : Platform) (flag : Int) (st : MlState) (r : Int × MlState) :
    invCheckFlag p flag st = .ok r ↔ 0 ≤ flag ∧ flag < p.numFlags ∧
      r = (st.flags flag.toNat, { st with flags := Function.update st.flags flag.toNat 0 }) := by
  unfold invCheckFlag
  split_ifs with h0 h1
  · exact ⟨nofun, fun h => absurd h.1 (not_le.2 h0)⟩
  · exact ⟨nofun, fun h => absurd h.2.1 (by omega)⟩
  · exact ⟨fun h => ⟨by omega, by omega, (Except.ok.inj h).symm⟩, fun h => h.2.2 ▸ rfl⟩

/-! ### Every reset marks the motion -/

/-- A property that the state of a result has, and that every continuation keeps, holds
after `andThen`. -/
theorem andThen_holds (P : MlState → Prop) {r : InvError × MlState}
    {k : MlState → InvError × MlState} (hr : P r.2) (hk : ∀ st, P st → P (k st).2) :
    P (andThen r k).2 := by
  unfold andThen
  split_ifs
  exacts [hr, hk _ hr]

/-- A projection that every continuation keeps at `a` is `a` after `andThen`. -/
theorem andThen_keeps {α : Type} (f : MlState → α) {r : InvError × MlState}
    {k : MlState → InvError × MlState} {a : α} (hr : f r.2 = a)
    (hk : ∀ st, f st = a → f (k st).2 = a) : f (andThen r k).2 = a :=
  andThen_holds (f · = a) hr hk

/-- The state without its two logs. -/
def MlState.withoutLogs (st : MlState) : MlState :=
  { st with dmpWrites := [], motionStateCalls := [] }

/-- A DMP write changes only the logs. -/
@[simp]
theorem withoutLogs_setMpuMemory (p : Platform) (key : DmpKey) (b : List UInt8) (st : MlState) :
    (setMpuMemory p key b st).2.withoutLogs = st.withoutLogs := rfl

/-- A motion state change changes only the logs. -/
@[simp]
theorem withoutLogs_setMotionState (s : Nat) (st : MlState) :
    (setMotionState s st).withoutLogs = st.withoutLogs := rfl

/-- Whatever its calls return, `inv_reset_motion` sets the motion state, the motion-change flag
and the no-motion time, and changes nothing else but the logs of DMP writes and motion-state
calls. -/
theorem invResetMotion_frame (p : Platform) (st : MlState) :
    ∃ w c, (invResetMotion p st).2 = { st with
      motionState := p.invMotion,
      flags := Function.update st.flags p.invMotionStateChange p.invMotion,
      noMotionAccelTime := p.tickCount,
      dmpWrites := w, motionStateCalls := c } := by
  have h : (invResetMotion p st).2.withoutLogs =
      ({ st with
        motionState := p.invMotion,
        flags := Function.update st.flags p.invMotionStateChange p.invMotion,
        noMotionAccelTime := p.tickCount } : MlState).withoutLogs := by
    unfold invResetMotion
    refine andThen_keeps _ rfl fun st h => ?_
    refine andThen_keeps _ h fun st h => ?_
    refine andThen_keeps _ h fun st h => ?_
    refine andThen_keeps _ ?_ fun st h => h
    split <;> exact h
  generalize (invResetMotion p st).2 = s at h ⊢
  refine ⟨s.dmpWrites, s.motionStateCalls, ?_⟩
  calc s = { s.withoutLogs with
          dmpWrites := s.dmpWrites, motionStateCalls := s.motionStateCalls } := rfl
    _ = _ := by rw [h]; rfl

/-! ### The bias a reset pushes -/

/-- `inv_q30_mult` as `mlmath.c` computes it: `(long long)a * b >> 30`. -/
def Platform.Q30Exact (p : Platform) : Prop := ∀ a b, p.q30Mult a b = a * b / 2 ^ 30

/-- A mounting matrix with one nonzero entry per row, applied to `v` as the signed permutation
of its signs. -/
def Mount.rotate (mtx : Mount) (v : Fin 3 → Int) (i : Fin 3) : Int :=
  (mtx.entry i (mtx.column i)).sign * v (mtx.column i)

/-- With exact arithmetic, multiplying by `s` in Q30 is multiplying by `s`. -/
theorem q30Mult_mul_two_pow {p : Platform} (hq : p.Q30Exact) (a s : Int) :
    p.q30Mult a (s * 2 ^ 30) = s * a := by
  rw [hq, show a * (s * 2 ^ 30) = s * a * 2 ^ 30 by ring]
  exact Int.mul_ediv_cancel _ (by norm_num)

/-- Through a Q30 sign matrix of a mounting with one nonzero entry per row, `bias_value` is
`bias_tmp` rotated by the mounting. -/
theorem biasValue_of_mount {p : Platform} (hq : p.Q30Exact) {mtx : Mount}
    (hm : mtx.OneNonzeroPerRow) (tmp : Fin 3 → Int) {orient : Fin 9 → Int}
    (ho : ∀ i j, orient (flatIdx i j) = (mtx.entry i j).sign * 2 ^ 30) (ii : Fin 3) :
    biasValue p tmp orient ii = mtx.rotate tmp ii := by
  simp only [biasValue, ho, q30Mult_mul_two_pow hq]
  exact hm.dot_eq Int.sign rfl tmp ii

/-- After `inv_gyro_var_cal` on a gyro mounting with one nonzero entry per row, with the
`inv_q30_mult` of `mlmath.c`, `KEY_D_2_96` supported and writes that succeed,
`inv_reset_motion` succeeds and pushes to `KEY_D_2_96` the bias `bias_tmp` rotated by the
mounting. -/
theorem gyroVarCal_then_resetMotion (p : Platform) (cfg : MldlCfg) (st : MlState) (mtx : Mount)
    (hm : mtx.OneNonzeroPerRow) (hg : st.gyroOrient = invOrientationMatrixToScalar mtx)
    (hs : st.state = .dmpOpened) (hq : p.Q30Exact) (hk : p.dmpkeySupported .keyD_2_96 = true)
    (hw : ∀ k b, p.setMpuMemory k b = .success) :
    ∃ st', invGyroVarCal p cfg st = .ok (.success, st') ∧
      invResetMotion p st' = (.success, { st' with
        motionState := p.invMotion,
        flags := Function.update st'.flags p.invMotionStateChange p.invMotion,
        noMotionAccelTime := p.tickCount,
        motionStateCalls := st'.motionStateCalls ++ [p.invMotion, p.invMotion],
        dmpWrites := st'.dmpWrites ++
          [(.keyD_1_106, motionDurationBytes st.motionDuration), (.keyD_1_96, List.replicate 8 0),
            (.keyD_0_96, p.int32ToBig8 0x40000000),
            (.keyD_2_96, p.int32ToBig8 (mtx.rotate (biasTmp p st.gyroBias) 0) ++
              p.int32ToBig8 (mtx.rotate (biasTmp p st.gyroBias) 1) ++
              p.int32ToBig8 (mtx.rotate (biasTmp p st.gyroBias) 2))] }) := by
  obtain ⟨g, r, hv, hr⟩ := invGyroVarCal_spec p cfg st hs (hg ▸ hm.column_lt)
  have ho : ∀ i j, r (flatIdx i j) = (mtx.entry i j).sign * 2 ^ 30 := fun i j => by
    rw [(hr i j).2, hg, hm.decodedSign_eq _ i j (ownSignMasks i)]
  refine ⟨_, hv, ?_⟩
  simp only [invResetMotion, setMotionState, andThen, setMpuMemory, hw, hk, if_true, ne_eq,
    not_true_eq_false, if_false, resetMotionBias, biasValue_of_mount hq hm _ ho,
    List.append_assoc, List.singleton_append, List.cons_append, List.nil_append]

/-- The rotation `x ↦ -z`, `y ↦ x`, `z ↦ -y` and a nonzero bias, on the sample platform: the
bytes of the rotated bias that the reset pushes. -/
theorem gyroVarCal_then_resetMotion_rotation :
    Mount.OneNonzeroPerRow ![0, 0, -1, 1, 0, 0, 0, -1, 0] ∧
    ({ (default : MlState) with
        state := .dmpOpened, gyroBias := ![2 ^ 20, 2 ^ 21, -3 * 2 ^ 20],
        gyroOrient := invOrientationMatrixToScalar ![0, 0, -1, 1, 0, 0, 0, -1, 0] }).state =
      .dmpOpened ∧
    Platform.sample.Q30Exact ∧
    ∃ st', invGyroVarCal Platform.sample default
        { (default : MlState) with
          state := .dmpOpened, gyroBias := ![2 ^ 20, 2 ^ 21, -3 * 2 ^ 20],
          gyroOrient := invOrientationMatrixToScalar ![0, 0, -1, 1, 0, 0, 0, -1, 0] } =
        .ok (.success, st') ∧
      invResetMotion Platform.sample st' =
        (.success, { st' with
          motionState := 1, flags := Function.update st'.flags 6 1, noMotionAccelTime := 0,
          motionStateCalls := st'.motionStateCalls ++ [1, 1],
          dmpWrites := st'.dmpWrites ++
            [(.keyD_1_106, [0x00, 0x00]), (.keyD_1_96, List.replicate 8 0),
              (.keyD_0_96, [0x40, 0x00, 0x00, 0x00]),
              (.keyD_2_96, [0x00, 0x22, 0x50, 0x88, 0x00, 0x0b, 0x70, 0x2d,
                0xff, 0xe9, 0x1f, 0xa6])] }) :=
  ⟨by decide, rfl, fun _ _ => rfl,
    gyroVarCal_then_resetMotion Platform.sample default _ ![0, 0, -1, 1, 0, 0, 0, -1, 0]
      (by decide) rfl rfl (fun _ _ => rfl) rfl (fun _ _ => rfl)⟩

example : Mount.rotate ![0, 0, -1, 1, 0, 0, 0, -1, 0]
      (biasTmp { (default : Platform) with q30Mult := fun a b => a * b / 2 ^ 30 }
        ![2 ^ 30, 2 ^ 31, -3 * 2 ^ 30]) =
    ![2302811769, 767603923, -1535207846] := by
  decide

/-! ### The writes of a reset -/

/-- What a reset writes. It leaves the motion state `INV_MOTION` and keeps `motion_duration`;
it appends to the DMP writes, each of its `KEY_D_1_106` writes is the two bytes of
`motion_duration`, and it writes no `KEY_D_1_108`. -/
theorem invResetMotion_writes (p : Platform) (st : MlState) :
    (invResetMotion p st).2.motionState = p.invMotion ∧
    (invResetMotion p st).2.motionDuration = st.motionDuration ∧
    ∃ ws, (invResetMotion p st).2.dmpWrites = st.dmpWrites ++ ws ∧ ∀ kb ∈ ws,
      (kb.1 = .keyD_1_106 → kb.2 = motionDurationBytes st.motionDuration) ∧
        kb.1 ≠ .keyD_1_108 := by
  let Good : DmpKey × List UInt8 → Prop := fun kb =>
    (kb.1 = .keyD_1_106 → kb.2 = motionDurationBytes st.motionDuration) ∧ kb.1 ≠ .keyD_1_108
  let P : MlState → Prop := fun s => s.motionState = p.invMotion ∧
    s.motionDuration = st.motionDuration ∧
      ∃ ws, s.dmpWrites = st.dmpWrites ++ ws ∧ ∀ kb ∈ ws, Good kb
  have hw : ∀ k b s, Good (k, b) → P s → P (setMpuMemory p k b s).2 := by
    rintro k b s hg ⟨hm, hd, ws, hws, hall⟩
    refine ⟨hm, hd, ws ++ [(k, b)], by rw [← List.append_assoc, ← hws]; rfl,
      fun kb hkb => ?_⟩
    rcases List.mem_append.1 hkb with h | h
    exacts [hall kb h, List.mem_singleton.1 h ▸ hg]
  have other : ∀ k b, k ≠ .keyD_1_106 → k ≠ .keyD_1_108 → Good (k, b) :=
    fun _ _ h1 h2 => ⟨fun h => absurd h h1, h2⟩
  show P (invResetMotion p st).2
  unfold invResetMotion
  refine andThen_holds P
    (hw _ _ _ ⟨fun _ => rfl, (by decide : DmpKey.keyD_1_106 ≠ .keyD_1_108)⟩
      ⟨rfl, rfl, [], (List.append_nil _).symm, nofun⟩) fun s h => ?_
  refine andThen_holds P (hw _ _ _ (other _ _ (by decide) (by decide)) h) fun s h => ?_
  refine andThen_holds P (hw _ _ _ (other _ _ (by decide) (by decide)) h) fun s h => ?_
  refine andThen_holds P ?_ fun s h => h
  split
  exacts [hw _ _ _ (other _ _ (by decide) (by decide)) h, h]

/-- When the bus accepts every write but `KEY_FCFG_2`, and the bias setter succeeds, `inv_reset_motion` succeeds. -/
theorem invResetMotion_success {p : Platform}
    (hw : ∀ k b, k ≠ .keyFcfg2 → p.setMpuMemory k b = .success)
    (hb : ∀ v, p.setGyroBiasInDps v = .success) (st : MlState) :
    (invResetMotion p st).1 = .success := by
  simp only [invResetMotion, andThen, setMpuMemory, hw .keyD_1_106 _ (by decide),
    hw .keyD_1_96 _ (by decide), hw .keyD_0_96 _ (by decide), ne_eq, not_true_eq_false, if_false]
  split <;> simp [hw .keyD_2_96 _ (by decide), hb]

end InvensenseMpl
