import InvensenseMpl.State
import Mathlib.Data.Int.Bitwise
import Mathlib.Tactic.Ring
import Mathlib.Algebra.Order.Ring.Abs
import Mathlib.Data.Fin.VecNotation

/-!
# Accelerometer self-test trim of the MPU6050

`inv_set_mpu_6050_config` (`ml.c:2115–2173`) reads four self-test bytes `atc` from register
`0x0d` and writes four `long`s to the DMP. The six-bit field of `atc[3]` gives the word at
`KEY_D_ACT0`. The fields of `atc[0..2]` give a trim vector `s`, which the gyro mounting
matrix rotates into `KEY_D_ACSX`, `KEY_D_ACSY` and `KEY_D_ACSZ`.

The two kinds of field are sign-extended by different tests, `temp >= 32` and `s[kk] > 32`.
A field of `atc[3]` of 32 or more makes `temp` negative, and `temp << 21` then shifts a
negative value, which C leaves undefined: the model faults there. Otherwise, for a mounting
matrix with entries in `{-1, 0, 1}` and one nonzero entry per row, every word written fits in
32 bits, so the unbounded `long` of the model is the `long` of the target
(`invSetMpu6050Config_of_unitMount`).
-/

namespace InvensenseMpl

/-! ### The words -/

/-- `temp` after `ml.c:2132–2134`: the low six bits of `atc[3]`, less 64 from 32 up. -/
def actTemp (b : UInt8) : Int :=
  let temp : Int := (b &&& 0x3f).toNat
  if temp ≥ 32 then temp - 64 else temp

/-- The `long` written to `KEY_D_ACT0` (`ml.c:2135–2137`). Shifting a negative `temp` left is
undefined (C11 6.5.7p4), and the model faults there. -/
def act0Word (temp : Int) : Except Fault Int :=
  if temp < 0 then .error .negativeShift else
  let temp := Int.lor (temp <<< (21 : Int)) 0x100000
  let temp := temp + (1 : Int) <<< (29 : Int)
  let temp := -temp
  .ok temp

/-- `s[kk]` after `ml.c:2145–2148`: the low six bits of `atc[kk]`, less 64 above 32, times
2516582. -/
def acsTrim (b : UInt8) : Int :=
  let s : Int := (b &&& 0x3f).toNat
  let s := if s > 32 then s - 64 else s
  s * 2516582

/-- `s2[kk]` (`ml.c:2151–2155`): row `kk` of `pdata->orientation` times `s`. -/
def acsWord (mtx : Mount) (s : Fin 3 → Int) (kk : Fin 3) : Int :=
  mtx.entry kk 0 * s 0 + mtx.entry kk 1 * s 1 + mtx.entry kk 2 * s 2

/-- `inv_set_mpu_6050_config` (`ml.c:2115–2173`). -/
def invSetMpu6050Config (p : Platform) (cfg : MldlCfg) (st : MlState) :
    Except Fault (InvError × MlState) :=
  let atc := p.serialReadAtc.2
  if p.serialReadAtc.1 ≠ .success then .ok (p.serialReadAtc.1, st) else
  (act0Word (actTemp (atc 3))).map fun temp =>
  andThen (setMpuMemory p .keyDAct0 (p.int32ToBig8 temp) st) fun st =>
  let s2 := acsWord cfg.gyroOrientation fun kk => acsTrim (atc kk.castSucc)
  andThen (setMpuMemory p .keyDAcsx (p.int32ToBig8 (s2 0)) st) fun st =>
  andThen (setMpuMemory p .keyDAcsy (p.int32ToBig8 (s2 1)) st) fun st =>
  setMpuMemory p .keyDAcsz (p.int32ToBig8 (s2 2)) st

/-! ### Arithmetic of the words -/

section Arithmetic

/-- An `or` with zero is the identity. -/
theorem lor_zero_right (m : Int) : Int.lor m 0 = m := by
  cases m with
  | ofNat n => simp [Int.lor]
  | negSucc n =>
    simp only [Int.lor, Int.negSucc.injEq]
    exact Nat.eq_of_testBit_eq fun k => by simp [Nat.testBit_ldiff]

/-- A multiple of `2^(k+1)` has bit `k` clear, so setting it with `|` adds `2^k`, also for a
negative multiple. -/
theorem lor_mul_two_pow (m : Int) (k : Nat) :
    Int.lor (m * 2 ^ (k + 1)) (2 ^ k) = m * 2 ^ (k + 1) + 2 ^ k := by
  induction k with
  | zero =>
    have h := Int.lor_bit false m true 0
    simp only [Int.bit_val, lor_zero_right, cond_false, cond_true, Bool.false_or] at h
    simpa [mul_comm] using h
  | succ k ih =>
    have h := Int.lor_bit false (m * 2 ^ (k + 1)) false (2 ^ k)
    simp only [Int.bit_val, ih, Bool.or_false, cond_false, add_zero] at h
    calc Int.lor (m * 2 ^ (k + 1 + 1)) (2 ^ (k + 1))
        = Int.lor (2 * (m * 2 ^ (k + 1))) (2 * 2 ^ k) := by congr 1 <;> ring
      _ = 2 * (m * 2 ^ (k + 1) + 2 ^ k) := h
      _ = m * 2 ^ (k + 1 + 1) + 2 ^ (k + 1) := by ring

/-- Masking with `0x3f` keeps the low six bits. -/
@[simp]
theorem and_0x3f_toNat (b : UInt8) : (b &&& 0x3f).toNat = b.toNat % 64 := by
  rw [UInt8.and_toNat]
  exact Nat.and_pow_two_sub_one_eq_mod _ 6

/-- The shift, `| 0x100000`, add and negate of `ml.c:2135–2137`, as arithmetic, where the shift
is defined. -/
theorem act0Word_eq {t : Int} (ht : 0 ≤ t) : act0Word t = .ok (-(t * 2 ^ 21 + 2 ^ 20 + 2 ^ 29)) := by
  have h21 : t <<< (21 : Int) = t * 2 ^ (20 + 1) := by
    simpa using Int.shiftLeft_eq_mul_pow t 21
  have h29 : (1 : Int) <<< (29 : Int) = 2 ^ 29 := by simpa using Int.one_shiftLeft 29
  have h20 : (0x100000 : Int) = 2 ^ 20 := by norm_num
  simp only [act0Word, if_neg (not_lt.2 ht), h21, h29, h20, lor_mul_two_pow]

/-- A negative `temp` faults at the shift. -/
theorem act0Word_of_neg {t : Int} (ht : t < 0) : act0Word t = .error .negativeShift := if_pos ht

/-- `temp` is the six-bit two's complement value of the field: in `[-32, 32)` and congruent
to it modulo 64. -/
theorem actTemp_bounds (b : UInt8) :
    -32 ≤ actTemp b ∧ actTemp b < 32 ∧ (actTemp b - (b.toNat % 64 : Nat)) % 64 = 0 := by
  simp only [actTemp, and_0x3f_toNat]
  split_ifs <;> omega

/-- `temp` is negative exactly when the field is 32 or more. -/
theorem actTemp_neg_iff (b : UInt8) : actTemp b < 0 ↔ 32 ≤ b.toNat % 64 := by
  simp only [actTemp, and_0x3f_toNat]
  split_ifs <;> omega

/-- `s[kk] / 2516582` lies in `[-31, 32]`, the range of the `> 32` test. -/
theorem acsTrim_bounds (b : UInt8) :
    -31 * 2516582 ≤ acsTrim b ∧ acsTrim b ≤ 32 * 2516582 := by
  simp only [acsTrim, and_0x3f_toNat]
  split_ifs <;> omega

end Arithmetic

/-! ### Rotation of the trim -/

/-- With one nonzero entry per row, `s2[kk]` is the row's entry times the trim of its
column. -/
theorem acsWord_of_oneNonzero {mtx : Mount} (hm : mtx.OneNonzeroPerRow) (s : Fin 3 → Int)
    (kk : Fin 3) : acsWord mtx s kk = mtx.entry kk (mtx.column kk) * s (mtx.column kk) :=
  hm.dot_eq (fun x => x) rfl s kk

/-- An entry of absolute value at most one does not enlarge a bound on what it multiplies. -/
theorem abs_unit_mul_le {e x B : Int} (he : |e| ≤ 1) (hx : |x| ≤ B) : |e * x| ≤ B :=
  (abs_mul e x).trans_le ((mul_le_of_le_one_left (abs_nonneg x) he).trans hx)

/-! ### What the function writes -/

/-- The four `long`s `inv_set_mpu_6050_config` writes, with `KEY_D_ACT0`'s in closed form. -/
def mpu6050ConfigWords (mtx : Mount) (atc : Fin 4 → UInt8) : List (DmpKey × Int) :=
  let s := fun kk : Fin 3 => acsTrim (atc kk.castSucc)
  [(.keyDAct0, -(actTemp (atc 3) * 2 ^ 21 + 2 ^ 20 + 2 ^ 29)),
    (.keyDAcsx, acsWord mtx s 0), (.keyDAcsy, acsWord mtx s 1), (.keyDAcsz, acsWord mtx s 2)]

/-- A call that returns its state with success, after `andThen`, leaves the result as it is. -/
@[simp]
theorem andThen_success_self (r : InvError × MlState) : andThen r (fun st => (.success, st)) = r := by
  obtain ⟨e, st⟩ := r
  by_cases h : e = .success <;> simp [andThen, h]

/-- After a failed serial read `inv_set_mpu_6050_config` returns its result and changes
nothing; with a field of `atc[3]` of 32 or more it faults at the shift; otherwise it runs the
four writes of `mpu6050ConfigWords`, each followed by the early return. -/
theorem invSetMpu6050Config_eq (p : Platform) (cfg : MldlCfg) (st : MlState) :
    invSetMpu6050Config p cfg st =
      if p.serialReadAtc.1 ≠ .success then .ok (p.serialReadAtc.1, st)
      else if 32 ≤ (p.serialReadAtc.2 3).toNat % 64 then .error .negativeShift
      else .ok (runWrites p ((mpu6050ConfigWords cfg.gyroOrientation p.serialReadAtc.2).map
        fun w => (w.1, p.int32ToBig8 w.2)) st) := by
  unfold invSetMpu6050Config
  dsimp only
  split_ifs with hr ht
  · rfl
  · rw [act0Word_of_neg ((actTemp_neg_iff _).2 ht)]
    rfl
  · rw [act0Word_eq (not_lt.1 (mt (actTemp_neg_iff _).1 ht))]
    simp only [Except.map, mpu6050ConfigWords, List.map, runWrites, andThen_success_self]

/-- The shift of `ml.c:2135` is defined: a serial read that succeeds gives `atc[3]` a field
below 32. -/
def Platform.ActTempDefined (p : Platform) : Prop :=
  p.serialReadAtc.1 = .success → (p.serialReadAtc.2 3).toNat % 64 < 32

/-- Whether the temperature shift is defined is computed. -/
instance (p : Platform) : Decidable p.ActTempDefined := inferInstanceAs (Decidable (_ → _))

/-- Where the shift is defined, `inv_set_mpu_6050_config` returns. -/
theorem invSetMpu6050Config_ok {p : Platform} (h : p.ActTempDefined) (cfg : MldlCfg)
    (st : MlState) : ∃ r, invSetMpu6050Config p cfg st = .ok r := by
  rw [invSetMpu6050Config_eq]
  split_ifs with hr ht
  · exact ⟨_, rfl⟩
  · exact absurd (h (not_not.1 hr)) (by omega)
  · exact ⟨_, rfl⟩

/-- For a gyro mounting matrix with one nonzero entry per row, each of them `1` or `-1`,
`KEY_D_ACS*` receive the signed trims of the rows' columns, and every word lies in
`[-2^31, 2^31)`. -/
theorem mpu6050ConfigWords_of_unitMount (mtx : Mount) (hm : mtx.OneNonzeroPerRow)
    (hu : ∀ i j, |mtx.entry i j| ≤ 1) (atc : Fin 4 → UInt8) :
    mpu6050ConfigWords mtx atc =
      [(.keyDAct0, -(actTemp (atc 3) * 2 ^ 21 + 2 ^ 20 + 2 ^ 29)),
        (.keyDAcsx, mtx.entry 0 (mtx.column 0) * acsTrim (atc (mtx.column 0).castSucc)),
        (.keyDAcsy, mtx.entry 1 (mtx.column 1) * acsTrim (atc (mtx.column 1).castSucc)),
        (.keyDAcsz, mtx.entry 2 (mtx.column 2) * acsTrim (atc (mtx.column 2).castSucc))] ∧
    ∀ w ∈ mpu6050ConfigWords mtx atc, -2 ^ 31 ≤ w.2 ∧ w.2 < 2 ^ 31 := by
  refine ⟨by simp only [mpu6050ConfigWords, acsWord_of_oneNonzero hm], ?_⟩
  have ht := actTemp_bounds (atc 3)
  have hs : ∀ i, -2 ^ 31 ≤ mtx.entry i (mtx.column i) * acsTrim (atc (mtx.column i).castSucc) ∧
      mtx.entry i (mtx.column i) * acsTrim (atc (mtx.column i).castSucc) < 2 ^ 31 := fun i => by
    obtain ⟨hl, hh⟩ := acsTrim_bounds (atc (mtx.column i).castSucc)
    have := abs_le.1 (abs_unit_mul_le (hu i (mtx.column i)) (abs_le.2 ⟨by omega, hh⟩))
    omega
  simp only [mpu6050ConfigWords, acsWord_of_oneNonzero hm, List.mem_cons, List.mem_singleton,
    List.not_mem_nil, or_false]
  rintro w (rfl | rfl | rfl | rfl)
  · constructor <;> omega
  · exact hs 0
  · exact hs 1
  · exact hs 2

/-- For a gyro mounting matrix with one nonzero entry per row, each of them `1` or `-1`, and a
serial read of `atc` that succeeds: `inv_set_mpu_6050_config` faults at the shift when the field
of `atc[3]` is 32 or more; otherwise it writes `KEY_D_ACT0` and the signed trims of the rows'
columns to `KEY_D_ACS*`, as four big-endian `long`s each followed by the early return, and
every word lies in `[-2^31, 2^31)`. -/
theorem invSetMpu6050Config_of_unitMount (p : Platform) (cfg : MldlCfg) (st : MlState)
    (atc : Fin 4 → UInt8) (hr : p.serialReadAtc = (.success, atc))
    (hm : cfg.gyroOrientation.OneNonzeroPerRow) (hu : ∀ i j, |cfg.gyroOrientation.entry i j| ≤ 1) :
    (32 ≤ (atc 3).toNat % 64 → invSetMpu6050Config p cfg st = .error .negativeShift) ∧
    ((atc 3).toNat % 64 < 32 → invSetMpu6050Config p cfg st =
      .ok (runWrites p ((mpu6050ConfigWords cfg.gyroOrientation atc).map
        fun w => (w.1, p.int32ToBig8 w.2)) st)) ∧
    mpu6050ConfigWords cfg.gyroOrientation atc =
      [(.keyDAct0, -(actTemp (atc 3) * 2 ^ 21 + 2 ^ 20 + 2 ^ 29)),
        (.keyDAcsx, cfg.gyroOrientation.entry 0 (cfg.gyroOrientation.column 0) *
          acsTrim (atc (cfg.gyroOrientation.column 0).castSucc)),
        (.keyDAcsy, cfg.gyroOrientation.entry 1 (cfg.gyroOrientation.column 1) *
          acsTrim (atc (cfg.gyroOrientation.column 1).castSucc)),
        (.keyDAcsz, cfg.gyroOrientation.entry 2 (cfg.gyroOrientation.column 2) *
          acsTrim (atc (cfg.gyroOrientation.column 2).castSucc))] ∧
    ∀ w ∈ mpu6050ConfigWords cfg.gyroOrientation atc, -2 ^ 31 ≤ w.2 ∧ w.2 < 2 ^ 31 := by
  have he := invSetMpu6050Config_eq p cfg st
  simp only [hr, ne_eq, not_true_eq_false, if_false] at he
  exact ⟨fun ht => by rw [he, if_pos ht], fun ht => by rw [he, if_neg (by omega)],
    mpu6050ConfigWords_of_unitMount _ hm hu atc⟩

/-- The rotation `x ↦ -z`, `y ↦ x`, `z ↦ -y` with self-test fields 32, 5, 63 and 17, on the
sample platform: the four writes, as big-endian bytes. -/
theorem invSetMpu6050Config_of_rotation :
    ({ Platform.sample with serialReadAtc := (.success, ![0x20, 0x05, 0x3f, 0x11]) } :
      Platform).serialReadAtc = (.success, ![0x20, 0x05, 0x3f, 0x11]) ∧
    Mount.OneNonzeroPerRow ![0, 0, -1, 1, 0, 0, 0, -1, 0] ∧
    (∀ i j, |Mount.entry ![0, 0, -1, 1, 0, 0, 0, -1, 0] i j| ≤ 1) ∧
    invSetMpu6050Config { Platform.sample with serialReadAtc := (.success, ![0x20, 0x05, 0x3f, 0x11]) }
      { (default : MldlCfg) with gyroOrientation := ![0, 0, -1, 1, 0, 0, 0, -1, 0] } default =
      .ok (.success, { (default : MlState) with
        dmpWrites := [(.keyDAct0, [0xdd, 0xd0, 0x00, 0x00]), (.keyDAcsx, [0x00, 0x26, 0x66, 0x66]),
          (.keyDAcsy, [0x04, 0xcc, 0xcc, 0xc0]), (.keyDAcsz, [0xff, 0x40, 0x00, 0x02])] }) :=
  have h := invSetMpu6050Config_of_unitMount
    { Platform.sample with serialReadAtc := (.success, ![0x20, 0x05, 0x3f, 0x11]) }
    { (default : MldlCfg) with gyroOrientation := ![0, 0, -1, 1, 0, 0, 0, -1, 0] } default
    ![0x20, 0x05, 0x3f, 0x11] rfl (by decide) (by decide)
  ⟨rfl, by decide, by decide, (h.2.1 (by decide)).trans
    (congrArg Except.ok (runWrites_of_success _ _ _ fun _ _ => rfl))⟩

end InvensenseMpl
