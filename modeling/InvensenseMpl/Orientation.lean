import InvensenseMpl.Basic
import Mathlib.Data.Fintype.Basic
import Mathlib.Tactic.FinCases

/-!
# Orientation scalar

`inv_row_2_scale` and `inv_orientation_matrix_to_scalar`
(`src/invensense/libsensors/mlsdk/mllite/ml.c:1728–1766`). A 3×3 mounting matrix of
`signed char`s is packed into one `unsigned short`: row `i` gives a 3-bit code in bits
`3i … 3i+2`, its low two bits the column of the row's first nonzero entry and its high
bit that entry's sign. A row of zeros has the error code 7. Callers decode the fields
with masks; the mask lemmas below turn each mask into `/` and `%`, so that every
decoding fact is a goal for `omega`.
-/

namespace InvensenseMpl

/-- A mounting matrix as `ml.c` receives it: nine `signed char`s, row-major. -/
abbrev Mount := Fin 9 → Int8

/-- Position of entry `(i, j)` in a row-major array of nine elements. -/
def flatIdx (i j : Fin 3) : Fin 9 := ⟨3 * i.val + j.val, by omega⟩

namespace Mount

/-- Row `i`, the three `signed char`s from `mtx + 3 * i`. -/
def row (mtx : Mount) (i : Fin 3) : Fin 3 → Int8 := fun j => mtx (flatIdx i j)

/-- Entry `(i, j)` promoted to `int`, as every comparison of `ml.c` sees it. -/
def entry (mtx : Mount) (i j : Fin 3) : Int := (mtx (flatIdx i j)).toInt

/-- Every row has exactly one nonzero entry: a signed permutation matrix up to magnitudes. -/
def OneNonzeroPerRow (mtx : Mount) : Prop := ∀ i : Fin 3, ∃! j : Fin 3, mtx.entry i j ≠ 0

/-- Whether a matrix has one nonzero entry per row is computed. -/
instance : DecidablePred OneNonzeroPerRow := fun mtx =>
  inferInstanceAs (Decidable (∀ i : Fin 3, ∃ j : Fin 3,
    mtx.entry i j ≠ 0 ∧ ∀ k : Fin 3, mtx.entry i k ≠ 0 → k = j))

/-- Row `i` has a negative entry. -/
def RowNegative (mtx : Mount) (i : Fin 3) : Prop := ∃ j, mtx.entry i j < 0

/-- Whether a row has a negative entry is computed. -/
instance (mtx : Mount) : DecidablePred mtx.RowNegative := fun i =>
  inferInstanceAs (Decidable (∃ j : Fin 3, mtx.entry i j < 0))

/-- The column of row `i`'s first nonzero entry, `2` for a row of zeros. -/
def column (mtx : Mount) (i : Fin 3) : Fin 3 :=
  if mtx.entry i 0 ≠ 0 then 0 else if mtx.entry i 1 ≠ 0 then 1 else 2

end Mount

/-- `inv_row_2_scale` (`ml.c:1728–1746`): the code of a row's first nonzero entry,
its column plus 4 when negative; 7 for a row of zeros. -/
def invRow2Scale (row : Fin 3 → Int8) : Nat :=
  if 0 < (row 0).toInt then 0
  else if (row 0).toInt < 0 then 4
  else if 0 < (row 1).toInt then 1
  else if (row 1).toInt < 0 then 5
  else if 0 < (row 2).toInt then 2
  else if (row 2).toInt < 0 then 6
  else 7

/-- `inv_orientation_matrix_to_scalar` (`ml.c:1749–1766`): the three row codes at bits
0, 3 and 6. -/
def invOrientationMatrixToScalar (mtx : Mount) : Nat :=
  invRow2Scale (mtx.row 0) ||| invRow2Scale (mtx.row 1) <<< 3 ||| invRow2Scale (mtx.row 2) <<< 6

/-! ### Row codes -/

/-- A row code fits in three bits. -/
theorem invRow2Scale_lt_eight (row : Fin 3 → Int8) : invRow2Scale row < 8 := by
  unfold invRow2Scale
  repeat' split
  all_goals decide

/-- The column field of a code is 3 exactly for the error code of a row of zeros. -/
theorem invRow2Scale_mod_four_eq_three_iff (row : Fin 3 → Int8) :
    invRow2Scale row % 4 = 3 ↔ ∀ j, (row j).toInt = 0 := by
  rw [Fin.forall_fin_succ, Fin.forall_fin_succ, Fin.forall_fin_succ]
  unfold invRow2Scale
  split_ifs <;> simp <;> omega

/-- A row whose only nonzero entry is in column `j` has code `j`, plus 4 when negative. -/
theorem invRow2Scale_of_unique (row : Fin 3 → Int8) (j : Fin 3) (hj : (row j).toInt ≠ 0)
    (hz : ∀ k, k ≠ j → (row k).toInt = 0) :
    invRow2Scale row = j.val + if (row j).toInt < 0 then 4 else 0 := by
  unfold invRow2Scale
  fin_cases j <;> simp only [Fin.zero_eta, Fin.mk_one, Fin.reduceFinMk] at hj hz ⊢
  · rcases Int.lt_or_gt_of_ne hj with h | h <;> simp [h, h.not_lt]
  · rcases Int.lt_or_gt_of_ne hj with h | h <;> simp [hz 0 (by decide), h, h.not_lt]
  · rcases Int.lt_or_gt_of_ne hj with h | h <;>
      simp [hz 0 (by decide), hz 1 (by decide), h, h.not_lt]

/-- The scalar is the base-8 number whose digits are the three row codes. -/
theorem invOrientationMatrixToScalar_eq (mtx : Mount) :
    invOrientationMatrixToScalar mtx =
      invRow2Scale (mtx.row 0) + 8 * invRow2Scale (mtx.row 1) + 64 * invRow2Scale (mtx.row 2) := by
  have h0 := invRow2Scale_lt_eight (mtx.row 0)
  have h1 := invRow2Scale_lt_eight (mtx.row 1)
  have low : invRow2Scale (mtx.row 0) ||| invRow2Scale (mtx.row 1) <<< 3 =
      2 ^ 3 * invRow2Scale (mtx.row 1) + invRow2Scale (mtx.row 0) := by
    rw [Nat.mul_add_lt_is_or h0, Nat.or_comm, Nat.shiftLeft_eq, Nat.mul_comm]
  rw [invOrientationMatrixToScalar, low, Nat.shiftLeft_eq, Nat.mul_comm _ (2 ^ 6), Nat.or_comm,
    ← Nat.mul_add_lt_is_or (by omega)]
  omega

/-- Every orientation scalar fits in nine bits. -/
theorem invOrientationMatrixToScalar_lt (mtx : Mount) : invOrientationMatrixToScalar mtx < 512 := by
  have := invRow2Scale_lt_eight (mtx.row 0)
  have := invRow2Scale_lt_eight (mtx.row 1)
  have := invRow2Scale_lt_eight (mtx.row 2)
  rw [invOrientationMatrixToScalar_eq]
  omega

/-- Base-8 digit `i` of the scalar is row `i`'s code. -/
theorem invOrientationMatrixToScalar_digit (mtx : Mount) (i : Fin 3) :
    invOrientationMatrixToScalar mtx / 8 ^ i.val % 8 = invRow2Scale (mtx.row i) := by
  have := invRow2Scale_lt_eight (mtx.row 0)
  have := invRow2Scale_lt_eight (mtx.row 1)
  have := invRow2Scale_lt_eight (mtx.row 2)
  rw [invOrientationMatrixToScalar_eq]
  fin_cases i <;> simp <;> omega

/-- A row with a nonzero entry has a column field below 3; a row of zeros has field 3. -/
theorem column_lt_three_iff (mtx : Mount) (i : Fin 3) :
    invOrientationMatrixToScalar mtx / 8 ^ i.val % 4 < 3 ↔ ∃ j, mtx.entry i j ≠ 0 := by
  have hd := invOrientationMatrixToScalar_digit mtx i
  have hz := invRow2Scale_mod_four_eq_three_iff (mtx.row i)
  have := invRow2Scale_lt_eight (mtx.row i)
  constructor
  · intro hlt
    by_contra hall
    push_neg at hall
    have := hz.mpr hall
    omega
  · rintro ⟨j, hj⟩
    have : ¬invRow2Scale (mtx.row i) % 4 = 3 := fun h3 => hj (hz.mp h3 j)
    omega

/-! ### Masks as arithmetic -/

/-- A mask of `n` ones shifted up by `k` keeps the bits `k … k+n-1`. -/
theorem and_mask_eq (x k n : Nat) : x &&& (2 ^ n - 1) * 2 ^ k = x / 2 ^ k % 2 ^ n * 2 ^ k := by
  apply Nat.eq_of_testBit_eq
  intro i
  rw [Nat.testBit_and, Nat.mul_comm _ (2 ^ k), Nat.mul_comm _ (2 ^ k), Nat.testBit_mul_pow_two,
    Nat.testBit_mul_pow_two, Nat.testBit_two_pow_sub_one, Nat.testBit_mod_two_pow,
    ← Nat.shiftRight_eq_div_pow, Nat.testBit_shiftRight]
  by_cases h : k ≤ i
  · simp [h, Nat.add_sub_cancel' h, Bool.and_comm]
  · simp [h]

/-- Mask `0x03`, the column field of row 0, as arithmetic. -/
@[simp] theorem and_0x03 (x : Nat) : x &&& 0x03 = x % 4 := Nat.and_pow_two_sub_one_eq_mod x 2

/-- Mask `0x004`, the sign bit of row 0, as arithmetic. -/
@[simp] theorem and_0x004 (x : Nat) : x &&& 0x004 = x / 4 % 2 * 4 := and_mask_eq x 2 1

/-- Mask `0x18`, the column field of row 1, as arithmetic. -/
@[simp] theorem and_0x18 (x : Nat) : x &&& 0x18 = x / 8 % 4 * 8 := and_mask_eq x 3 2

/-- Mask `0x020`, the sign bit of row 1, as arithmetic. -/
@[simp] theorem and_0x020 (x : Nat) : x &&& 0x020 = x / 32 % 2 * 32 := and_mask_eq x 5 1

/-- Mask `0xc0`, the column field of row 2, as arithmetic. -/
@[simp] theorem and_0xc0 (x : Nat) : x &&& 0xc0 = x / 64 % 4 * 64 := and_mask_eq x 6 2

/-- Mask `0x100`, the sign bit of row 2, as arithmetic. -/
@[simp] theorem and_0x100 (x : Nat) : x &&& 0x100 = x / 256 % 2 * 256 := and_mask_eq x 8 1

/-- A two-bit field read by shift and mask. -/
@[simp] theorem shiftRight_and_3 (x k : Nat) : x >>> k &&& 3 = x / 2 ^ k % 4 := by
  rw [Nat.shiftRight_eq_div_pow]
  exact Nat.and_pow_two_sub_one_eq_mod _ 2

/-! ### Decoding a signed permutation -/

/-- In a matrix with one nonzero entry per row, row `i`'s code holds the column `c` of
its entry and whether the row is negative; every sign of the row is read off `c`. -/
theorem Mount.OneNonzeroPerRow.code {mtx : Mount} (h : mtx.OneNonzeroPerRow) (i : Fin 3) :
    ∃ c : Fin 3, mtx.entry i c ≠ 0 ∧ (∀ j, (mtx.entry i j).sign =
        if j = c then (if mtx.RowNegative i then -1 else 1) else 0) ∧
      invRow2Scale (mtx.row i) = c.val + if mtx.RowNegative i then 4 else 0 := by
  obtain ⟨c, hc, hu⟩ := h i
  have hz : ∀ k, k ≠ c → mtx.entry i k = 0 := fun k hk => by
    by_contra hne
    exact hk (hu k hne)
  have hneg : mtx.RowNegative i ↔ mtx.entry i c < 0 :=
    ⟨fun ⟨k, hk⟩ => by
      by_cases hkc : k = c
      · exact hkc ▸ hk
      · simp [hz k hkc] at hk,
     fun hlt => ⟨c, hlt⟩⟩
  refine ⟨c, hc, fun j => ?_, by rw [invRow2Scale_of_unique (mtx.row i) c hc hz]; simp only [hneg]; rfl⟩
  by_cases hj : j = c
  · subst hj
    rcases Int.lt_or_gt_of_ne hc with hlt | hgt
    · simp [Int.sign_eq_neg_one_of_neg hlt, hneg, hlt]
    · simp [Int.sign_eq_one_of_pos hgt, hneg, Int.not_lt.mpr hgt.le]
  · simp [hz j hj, hj]

/-- Row `i`'s digit of the scalar, for a matrix with one nonzero entry per row. -/
theorem Mount.OneNonzeroPerRow.digit {mtx : Mount} (h : mtx.OneNonzeroPerRow) (i : Fin 3) :
    ∃ c : Fin 3, mtx.entry i c ≠ 0 ∧ (∀ j, (mtx.entry i j).sign =
        if j = c then (if mtx.RowNegative i then -1 else 1) else 0) ∧
      invOrientationMatrixToScalar mtx / 8 ^ i.val % 8 = c.val + if mtx.RowNegative i then 4 else 0 := by
  obtain ⟨c, hc, hs, hcode⟩ := h.code i
  exact ⟨c, hc, hs, by rw [invOrientationMatrixToScalar_digit, hcode]⟩

/-- In a matrix with one nonzero entry per row, `column` finds that entry. -/
theorem Mount.OneNonzeroPerRow.column_eq {mtx : Mount} (h : mtx.OneNonzeroPerRow) {i c : Fin 3}
    (hc : mtx.entry i c ≠ 0) : mtx.column i = c := by
  obtain ⟨c', -, hu⟩ := h i
  have hcc : c = c' := hu c hc
  unfold Mount.column
  split_ifs with h0 h1
  · exact (hu 0 h0).trans hcc.symm
  · exact (hu 1 h1).trans hcc.symm
  · subst hcc
    fin_cases c
    · exact absurd hc h0
    · exact absurd hc h1
    · rfl

/-- With one nonzero entry per row, row `i` of `f ∘ entry`, for an `f` that keeps zero, dotted
with `v` picks the entry's column. -/
theorem Mount.OneNonzeroPerRow.dot_eq {mtx : Mount} (h : mtx.OneNonzeroPerRow) (f : Int → Int)
    (hf : f 0 = 0) (v : Fin 3 → Int) (i : Fin 3) :
    f (mtx.entry i 0) * v 0 + f (mtx.entry i 1) * v 1 + f (mtx.entry i 2) * v 2 =
      f (mtx.entry i (mtx.column i)) * v (mtx.column i) := by
  obtain ⟨j, hj, hu⟩ := h i
  have hz : ∀ k, k ≠ j → mtx.entry i k = 0 := fun k hk => by_contra fun h => hk (hu k h)
  rw [h.column_eq hj]
  fin_cases j <;> simp [hz, hf]

/-- Row `i`'s digit of the scalar holds the column of its entry and, in bit 2, its sign. -/
theorem Mount.OneNonzeroPerRow.column_digit {mtx : Mount} (h : mtx.OneNonzeroPerRow)
    (i : Fin 3) :
    invOrientationMatrixToScalar mtx / 8 ^ i.val % 4 = (mtx.column i).val ∧
      (invOrientationMatrixToScalar mtx / 8 ^ i.val / 4 % 2 = 1 ↔ mtx.RowNegative i) := by
  obtain ⟨c, hc, -, hd⟩ := h.digit i
  rw [h.column_eq hc]
  have hlt := c.isLt
  split_ifs at hd with hn
  · exact ⟨by omega, iff_of_true (by omega) hn⟩
  · exact ⟨by omega, iff_of_false (by omega) hn⟩

end InvensenseMpl
