import InvensenseMpl.ResetMotion

/-!
# The no-motion setters

`inv_set_no_motion_thresh` and `inv_set_no_motion_time` (`ml.c:1590–1703`) turn their
`float` argument into a `long` `tmp`, reject it outside a range with `INV_ERROR`, write it
to the DMP most significant byte first, and reset the motion. The model starts from `tmp`:
the `float` products `thresh * thresh * 2.045f` and `time * 200` are left out.

The DMP reads a word back big-endian (`bigEndianValue`), and every accepted value is written
as a word that reads back as that value. The threshold goes to `KEY_D_1_108`, which the
reset does not overwrite (`invSetNoMotionThresh_spec`). The time becomes `motion_duration`
and goes to `KEY_D_1_106`; the reset writes `motion_duration` there again, and every such
write reads back as the new time (`invSetNoMotionTime_spec`).
-/

namespace InvensenseMpl

/-! ### Big-endian words -/

/-- The value of a DMP word, most significant byte first. -/
def bigEndianValue (bs : List UInt8) : Nat :=
  bs.foldl (fun acc b => 256 * acc + b.toNat) 0

/-- The four bytes of `regs` in `inv_set_no_motion_thresh` (`ml.c:1602–1605`). -/
def noMotionThreshBytes (tmp : Nat) : List UInt8 :=
  [UInt8.ofNat (tmp >>> 24), UInt8.ofNat (tmp >>> 16 &&& 0xff), UInt8.ofNat (tmp >>> 8 &&& 0xff),
    UInt8.ofNat (tmp &&& 0xff)]

/-- The byte of a number is its value mod 256. -/
@[simp] theorem toNat_uint8OfNat (n : Nat) : (UInt8.ofNat n).toNat = n % 256 := rfl

/-- Masking with `0xff` keeps the low byte. -/
@[simp] theorem and_0xff (x : Nat) : x &&& 0xff = x % 256 := Nat.and_pow_two_sub_one_eq_mod x 8

/-- The two bytes written for a duration below `2^16` read back as it. -/
theorem bigEndianValue_motionDurationBytes {d : Nat} (h : d < 2 ^ 16) :
    bigEndianValue (motionDurationBytes d) = d := by
  simp only [bigEndianValue, motionDurationBytes, List.foldl, toNat_uint8OfNat, and_0xff,
    Nat.shiftRight_eq_div_pow, Nat.mod_mod]
  omega

/-- The four bytes written for a threshold below `2^32` read back as it. -/
theorem bigEndianValue_noMotionThreshBytes {t : Nat} (h : t < 2 ^ 32) :
    bigEndianValue (noMotionThreshBytes t) = t := by
  simp only [bigEndianValue, noMotionThreshBytes, List.foldl, toNat_uint8OfNat, and_0xff,
    Nat.shiftRight_eq_div_pow, Nat.mod_mod]
  omega

example : noMotionThreshBytes 8180000 = [0x00, 0x7c, 0xd1, 0x20] := by decide

/-! ### The setters -/

/-- `inv_set_no_motion_thresh` (`ml.c:1590–1621`), from
`tmp = (long)(thresh * thresh * 2.045f)`. -/
def invSetNoMotionThresh (p : Platform) (tmp : Int) (st : MlState) : InvError × MlState :=
  if tmp < 0 then (.error, st)
  else if tmp > 8180000 then (.error, st)
  else
    andThen (setMpuMemory p .keyD_1_108 (noMotionThreshBytes tmp.toNat) st) fun st =>
    invResetMotion p st

/-- `inv_set_no_motion_time` (`ml.c:1663–1703`), from `tmp = (long)(time * 200)`. -/
def invSetNoMotionTime (p : Platform) (tmp : Int) (st : MlState) : InvError × MlState :=
  if tmp < 0 then (.error, st)
  else if tmp > 65535 then (.error, st)
  else
    let st := { st with motionDuration := tmp.toNat % 2 ^ 16 }
    andThen (setMpuMemory p .keyD_1_106 (motionDurationBytes st.motionDuration) st) fun st =>
    invResetMotion p st

/-- `inv_set_no_motion_thresh` rejects a value outside `0 … 8180000` with `INV_ERROR` and
changes nothing. It writes any other value to `KEY_D_1_108` as a word that reads back as the
value; the reset that follows a successful write writes no other `KEY_D_1_108`. -/
theorem invSetNoMotionThresh_spec (p : Platform) (tmp : Int) (st : MlState) :
    ((tmp < 0 ∨ 8180000 < tmp) → invSetNoMotionThresh p tmp st = (.error, st)) ∧
    (0 ≤ tmp → tmp ≤ 8180000 → ∃ b ws,
      (invSetNoMotionThresh p tmp st).2.dmpWrites = st.dmpWrites ++ (.keyD_1_108, b) :: ws ∧
      (bigEndianValue b : Int) = tmp ∧ ∀ kb ∈ ws, kb.1 ≠ .keyD_1_108) := by
  refine ⟨fun h => ?_, fun h0 h1 => ?_⟩
  · unfold invSetNoMotionThresh
    rcases h with h | h
    · rw [if_pos h]
    · rw [if_neg (by omega), if_pos h]
  have hv : (bigEndianValue (noMotionThreshBytes tmp.toNat) : Int) = tmp := by
    rw [bigEndianValue_noMotionThreshBytes (by omega)]
    omega
  rw [invSetNoMotionThresh, if_neg (by omega), if_neg (by omega)]
  refine ⟨noMotionThreshBytes tmp.toNat, ?_⟩
  unfold andThen
  split_ifs
  · exact ⟨[], rfl, hv, nofun⟩
  · obtain ⟨-, -, ws, hws, hall⟩ :=
      invResetMotion_writes p (setMpuMemory p .keyD_1_108 (noMotionThreshBytes tmp.toNat) st).2
    exact ⟨ws, by rw [hws]; simp [setMpuMemory], hv, fun kb hkb => (hall kb hkb).2⟩

/-- `inv_set_no_motion_time` rejects a value outside `0 … 65535` with `INV_ERROR` and changes
nothing. Any other value becomes `motion_duration` and is written to `KEY_D_1_106`; every
`KEY_D_1_106` write of the call, its own and the reset's, is a word that reads back as the
value. -/
theorem invSetNoMotionTime_spec (p : Platform) (tmp : Int) (st : MlState) :
    ((tmp < 0 ∨ 65535 < tmp) → invSetNoMotionTime p tmp st = (.error, st)) ∧
    (0 ≤ tmp → tmp ≤ 65535 →
      ((invSetNoMotionTime p tmp st).2.motionDuration : Int) = tmp ∧
      ∃ ws, (invSetNoMotionTime p tmp st).2.dmpWrites = st.dmpWrites ++ ws ∧
        (∃ b, (.keyD_1_106, b) ∈ ws) ∧
        ∀ b, (.keyD_1_106, b) ∈ ws → (bigEndianValue b : Int) = tmp) := by
  refine ⟨fun h => ?_, fun h0 h1 => ?_⟩
  · unfold invSetNoMotionTime
    rcases h with h | h
    · rw [if_pos h]
    · rw [if_neg (by omega), if_pos h]
  have hd : ((tmp.toNat % 2 ^ 16 : Nat) : Int) = tmp := by omega
  have hv : (bigEndianValue (motionDurationBytes (tmp.toNat % 2 ^ 16)) : Int) = tmp := by
    rw [bigEndianValue_motionDurationBytes (Nat.mod_lt _ (by norm_num)), hd]
  rw [invSetNoMotionTime, if_neg (by omega), if_neg (by omega)]
  dsimp only
  unfold andThen
  split_ifs
  · refine ⟨hd, [(.keyD_1_106, motionDurationBytes (tmp.toNat % 2 ^ 16))], rfl,
      ⟨_, List.mem_singleton_self _⟩, fun b hb => ?_⟩
    obtain rfl := (Prod.mk.inj (List.mem_singleton.1 hb)).2
    exact hv
  · obtain ⟨-, hdur, ws, hws, hall⟩ := invResetMotion_writes p
      (setMpuMemory p .keyD_1_106 (motionDurationBytes (tmp.toNat % 2 ^ 16))
        { st with motionDuration := tmp.toNat % 2 ^ 16 }).2
    refine ⟨(congrArg Nat.cast hdur).trans hd,
      (.keyD_1_106, motionDurationBytes (tmp.toNat % 2 ^ 16)) :: ws,
      by rw [hws]; simp [setMpuMemory], ⟨_, List.mem_cons_self _ _⟩, fun b hb => ?_⟩
    obtain rfl : b = motionDurationBytes (tmp.toNat % 2 ^ 16) := by
      rcases List.mem_cons.1 hb with h | h
      exacts [(Prod.mk.inj h).2, (hall _ h).1 rfl]
    exact hv

end InvensenseMpl
