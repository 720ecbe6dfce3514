import InvensenseMpl.Basic
import Mathlib.Data.List.Range

/-!
# DMP interrupt callbacks

The registry of functions that `inv_run_dmp_interupt_cb` calls on each DMP interrupt
(`src/invensense/libsensors/mlsdk/mllite/ml.c:88–101,329–388`): a count and an array of
`MAX_INTERRUPT_PROCESSES` function pointers. Each `for` loop is a structural recursion
over the slots it has left to visit. Slot accesses are checked, so a count that ran past
the array would show as a `Fault`; the lemmas below say when none does.
-/

namespace InvensenseMpl

/-- `tMLXCallbackInterrupt` (`ml.c:88–94`) with `MAX_INTERRUPT_PROCESSES = m`; a slot holds
a function pointer, `none` being `NULL`. -/
structure CallbackInterrupt (α : Type) (m : Nat) where
  numInterruptProcesses : Nat
  processInterruptCb : Fin m → Option α

variable {α : Type} {m : Nat}

/-- `inv_init_ml_cb` (`ml.c:98–101`): the whole record zeroed. -/
def invInitMlCb : CallbackInterrupt α m := ⟨0, fun _ => none⟩

/-- The duplicate scan of `inv_register_dmp_interupt_cb` (`ml.c:337–341`) over the `n`
slots from `kk`: `true` at the first one that holds `func`. -/
def registeredFrom [DecidableEq α] (cb : Fin m → Option α) (func : Option α) : Nat → Nat → Except Fault Bool
  | 0, _ => .ok false
  | n + 1, kk => do
    let f ← loadAt cb kk
    if f = func then .ok true else registeredFrom cb func n (kk + 1)

/-- `inv_register_dmp_interupt_cb` (`ml.c:329–349`). -/
def invRegisterDmpInteruptCb [DecidableEq α] (func : Option α) (s : CallbackInterrupt α m) :
    Except Fault (InvError × CallbackInterrupt α m) :=
  if (s.numInterruptProcesses : Int) ≤ (m : Int) - 1 then do
    let dup ← registeredFrom s.processInterruptCb func s.numInterruptProcesses 0
    if dup then .ok (.errorInvalidParameter, s) else do
      let cb ← storeAt s.processInterruptCb s.numInterruptProcesses func
      .ok (.success, ⟨s.numInterruptProcesses + 1, cb⟩)
  else .ok (.errorMemoryExausted, s)

/-- The left shift of `inv_unregister_dmp_interupt_cb` (`ml.c:364–368`):
`cb[jj - 1] = cb[jj]` for the `n` slots from `jj`. -/
def shiftFrom : (Fin m → Option α) → Nat → Nat → Except Fault (Fin m → Option α)
  | cb, 0, _ => .ok cb
  | cb, n + 1, jj => do
    let f ← loadAt cb jj
    let cb ← storeAt cb (jj - 1) f
    shiftFrom cb n (jj + 1)

/-- The search of `inv_unregister_dmp_interupt_cb` (`ml.c:361–373`) over the `n` slots
from `kk`: the first slot holding `func` is shifted out. -/
def unregisterFrom [DecidableEq α] (s : CallbackInterrupt α m) (func : Option α) :
    Nat → Nat → Except Fault (InvError × CallbackInterrupt α m)
  | 0, _ => .ok (.errorInvalidParameter, s)
  | n + 1, kk => do
    let f ← loadAt s.processInterruptCb kk
    if f = func then do
      let cb ← shiftFrom s.processInterruptCb (s.numInterruptProcesses - (kk + 1)) (kk + 1)
      .ok (.success, ⟨s.numInterruptProcesses - 1, cb⟩)
    else unregisterFrom s func n (kk + 1)

/-- `inv_unregister_dmp_interupt_cb` (`ml.c:356–374`). -/
def invUnregisterDmpInteruptCb [DecidableEq α] (func : Option α) (s : CallbackInterrupt α m) :
    Except Fault (InvError × CallbackInterrupt α m) :=
  unregisterFrom s func s.numInterruptProcesses 0

/-- The loop of `inv_run_dmp_interupt_cb` over the `n` slots from `kk`: the callbacks it
calls, in order; `NULL` slots are skipped. -/
def runFrom (cb : Fin m → Option α) : Nat → Nat → Except Fault (List α)
  | 0, _ => .ok []
  | n + 1, kk => do
    let f ← loadAt cb kk
    let rest ← runFrom cb n (kk + 1)
    .ok (f.toList ++ rest)

/-- `inv_run_dmp_interupt_cb` (`ml.c:381–388`), for callbacks that leave the registry
alone: the sequence of calls it makes. -/
def invRunDmpInteruptCb (s : CallbackInterrupt α m) : Except Fault (List α) :=
  runFrom s.processInterruptCb s.numInterruptProcesses 0

/-- Slot `k` of a callback array read at a `Nat` index; `NULL` past the end. -/
def slot (cb : Fin m → Option α) (k : Nat) : Option α := if h : k < m then cb ⟨k, h⟩ else none

/-- The registered pointers: slots `0 … numInterruptProcesses - 1`, in order. -/
def CallbackInterrupt.entries (s : CallbackInterrupt α m) : List (Option α) :=
  (List.range' 0 s.numInterruptProcesses).map (slot s.processInterruptCb)

/-! ### Slots -/

/-- A load below the table's size reads the slot. -/
theorem loadAt_eq_slot (cb : Fin m → Option α) {k : Nat} (h : k < m) :
    loadAt cb k = .ok (slot cb k) := by
  simp [loadAt, slot, h]

/-- After a store at `k`, slot `k` reads the stored value and every other slot is unchanged. -/
theorem slot_update (cb : Fin m → Option α) {k : Nat} (hk : k < m) (v : Option α) (i : Nat) :
    slot (Function.update cb ⟨k, hk⟩ v) i = if i = k then v else slot cb i := by
  unfold slot
  split_ifs with h1 h2 h2 <;> simp_all [Function.update_apply, Fin.ext_iff]

/-- The table lists one entry per counted registration. -/
@[simp] theorem length_entries (s : CallbackInterrupt α m) :
    s.entries.length = s.numInterruptProcesses := by
  simp [CallbackInterrupt.entries]

/-! ### Loops -/

/-- The duplicate scan answers whether `func` is in the slots it visits. -/
theorem registeredFrom_eq [DecidableEq α] (cb : Fin m → Option α) (func : Option α) (n kk : Nat)
    (h : kk + n ≤ m) :
    registeredFrom cb func n kk = .ok (decide (func ∈ (List.range' kk n).map (slot cb))) := by
  induction n generalizing kk with
  | zero => simp [registeredFrom]
  | succ n ih =>
    rw [registeredFrom, loadAt_eq_slot _ (by omega), except_ok_bind, ih (kk + 1) (by omega)]
    by_cases hf : slot cb kk = func <;> simp [List.range'_succ, hf, Ne.symm]

/-- The shift moves slots `jj … jj + n - 1` one place down and keeps every other slot. -/
theorem shiftFrom_spec (cb : Fin m → Option α) (n jj : Nat) (h1 : 1 ≤ jj) (h : jj + n ≤ m) :
    ∃ cb', shiftFrom cb n jj = .ok cb' ∧ ∀ k,
      slot cb' k = if jj - 1 ≤ k ∧ k < jj - 1 + n then slot cb (k + 1) else slot cb k := by
  induction n generalizing cb jj with
  | zero => exact ⟨cb, rfl, fun k => by rw [if_neg (by omega)]⟩
  | succ n ih =>
    obtain ⟨cb', hcb', hs⟩ := ih (Function.update cb ⟨jj - 1, by omega⟩ (slot cb jj)) (jj + 1)
      (by omega) (by omega)
    refine ⟨cb', ?_, fun k => ?_⟩
    · rw [shiftFrom, loadAt_eq_slot _ (by omega), except_ok_bind, storeAt_of_lt _ (by omega),
        except_ok_bind, hcb']
    · rw [hs, Nat.add_sub_cancel]
      by_cases hin : jj ≤ k ∧ k < jj + n
      · rw [if_pos hin, slot_update, if_neg (by omega), if_pos (by omega)]
      · rw [if_neg hin, slot_update]
        by_cases hk : k = jj - 1
        · rw [if_pos hk, if_pos (by omega), hk, Nat.sub_add_cancel h1]
        · rw [if_neg hk, if_neg (by omega)]

/-- The run calls the non-`NULL` pointers of the slots it visits, in order. -/
theorem runFrom_eq (cb : Fin m → Option α) (n kk : Nat) (h : kk + n ≤ m) :
    runFrom cb n kk = .ok (((List.range' kk n).map (slot cb)).filterMap id) := by
  induction n generalizing kk with
  | zero => rfl
  | succ n ih =>
    rw [runFrom, loadAt_eq_slot _ (by omega), except_ok_bind, ih (kk + 1) (by omega)]
    cases hf : slot cb kk <;> simp [List.range'_succ, hf]

/-- Shifting indices by one before reading is reading one slot further on. -/
theorem map_range'_succ {β : Type} (f : Nat → β) (a t : Nat) :
    (List.range' a t).map (fun k => f (k + 1)) = (List.range' (a + 1) t).map f := by
  induction t generalizing a with
  | zero => rfl
  | succ t ih => simp [List.range'_succ, ih]

/-- The entries around slot `kk`: those before it, its pointer, and those after it. -/
theorem entries_split (s : CallbackInterrupt α m) {kk : Nat} (h : kk < s.numInterruptProcesses) :
    s.entries = (List.range' 0 kk).map (slot s.processInterruptCb) ++
      slot s.processInterruptCb kk ::
        (List.range' (kk + 1) (s.numInterruptProcesses - kk - 1)).map (slot s.processInterruptCb) := by
  have hr := List.range'_append 0 kk (s.numInterruptProcesses - kk) 1
  rw [show s.numInterruptProcesses - kk = (s.numInterruptProcesses - kk - 1) + 1 by omega,
    List.range'_succ] at hr
  rw [CallbackInterrupt.entries, show s.numInterruptProcesses =
    s.numInterruptProcesses - kk - 1 + 1 + kk by omega, ← hr]
  simp

/-! ### Operations -/

section Ops

variable [DecidableEq α]

/-- Registering into a full table returns `INV_ERROR_MEMORY_EXAUSTED` and changes nothing. -/
theorem invRegisterDmpInteruptCb_full (func : Option α) (s : CallbackInterrupt α m)
    (h : m ≤ s.numInterruptProcesses) :
    invRegisterDmpInteruptCb func s = .ok (.errorMemoryExausted, s) := by
  rw [invRegisterDmpInteruptCb, if_neg (by omega)]

/-- Registering a function already in the table returns `INV_ERROR_INVALID_PARAMETER` and changes nothing. -/
theorem invRegisterDmpInteruptCb_dup (func : Option α) (s : CallbackInterrupt α m)
    (h : s.numInterruptProcesses < m) (hf : func ∈ s.entries) :
    invRegisterDmpInteruptCb func s = .ok (.errorInvalidParameter, s) := by
  rw [invRegisterDmpInteruptCb, if_pos (by omega), registeredFrom_eq _ _ _ _ (by omega)]
  simp only [CallbackInterrupt.entries] at hf
  simp [hf]

/-- Registering a new function into a table with room appends it and counts it. -/
theorem invRegisterDmpInteruptCb_fresh (func : Option α) (s : CallbackInterrupt α m)
    (h : s.numInterruptProcesses < m) (hf : func ∉ s.entries) :
    ∃ s', invRegisterDmpInteruptCb func s = .ok (.success, s') ∧
      s'.numInterruptProcesses = s.numInterruptProcesses + 1 ∧ s'.entries = s.entries ++ [func] := by
  refine ⟨⟨s.numInterruptProcesses + 1,
    Function.update s.processInterruptCb ⟨s.numInterruptProcesses, h⟩ func⟩, ?_, rfl, ?_⟩
  · rw [invRegisterDmpInteruptCb, if_pos (by omega), registeredFrom_eq _ _ _ _ (by omega)]
    simp only [CallbackInterrupt.entries] at hf
    simp [hf, storeAt_of_lt _ h]
  · simp only [CallbackInterrupt.entries, List.range'_1_concat, List.map_append, Nat.zero_add,
      List.map_cons, List.map_nil, slot_update, if_pos rfl]
    congr 1
    exact List.map_congr_left fun k hk => by
      rw [slot_update, if_neg (by simp [List.mem_range'_1] at hk; omega)]

/-- Removing the pointer from slot `kk`, the first that holds it: the shifted array holds
the entries without it. -/
theorem unregisterFrom_found (s : CallbackInterrupt α m) (func : Option α) {kk : Nat}
    (hk : kk < s.numInterruptProcesses) (hm : s.numInterruptProcesses ≤ m)
    (hpre : func ∉ (List.range' 0 kk).map (slot s.processInterruptCb))
    (hf : slot s.processInterruptCb kk = func) :
    ∃ cb', shiftFrom s.processInterruptCb (s.numInterruptProcesses - (kk + 1)) (kk + 1) = .ok cb' ∧
      (⟨s.numInterruptProcesses - 1, cb'⟩ : CallbackInterrupt α m).entries = s.entries.erase func := by
  obtain ⟨cb', hcb', hs⟩ := shiftFrom_spec s.processInterruptCb
    (s.numInterruptProcesses - (kk + 1)) (kk + 1) (by omega) (by omega)
  refine ⟨cb', hcb', ?_⟩
  rw [entries_split s hk, hf, List.erase_append_right _ hpre, List.erase_cons_head,
    CallbackInterrupt.entries, show s.numInterruptProcesses - 1 =
      (s.numInterruptProcesses - kk - 1) + kk by omega, ← List.range'_append, List.map_append,
    Nat.zero_add, Nat.one_mul, ← map_range'_succ]
  congr 1
  · exact List.map_congr_left fun k hk' => by
      rw [hs, if_neg (by simp [List.mem_range'_1] at hk'; omega)]
  · exact List.map_congr_left fun k hk' => by
      rw [hs, if_pos (by simp [List.mem_range'_1] at hk'; omega)]

/-- The search of `inv_unregister_dmp_interupt_cb` from slot `kk`, when the slots before
it do not hold `func`. -/
theorem unregisterFrom_spec (s : CallbackInterrupt α m) (func : Option α) (n kk : Nat)
    (hn : kk + n = s.numInterruptProcesses) (hm : s.numInterruptProcesses ≤ m)
    (hpre : func ∉ (List.range' 0 kk).map (slot s.processInterruptCb)) :
    (func ∉ s.entries → unregisterFrom s func n kk = .ok (.errorInvalidParameter, s)) ∧
    (func ∈ s.entries → ∃ s', unregisterFrom s func n kk = .ok (.success, s') ∧
      s'.numInterruptProcesses = s.numInterruptProcesses - 1 ∧
      s'.entries = s.entries.erase func) := by
  induction n generalizing kk with
  | zero =>
    subst hn
    exact ⟨fun _ => rfl, fun hf => absurd hf hpre⟩
  | succ n ih =>
    rw [unregisterFrom, loadAt_eq_slot _ (by omega), except_ok_bind]
    by_cases hf : slot s.processInterruptCb kk = func
    · obtain ⟨cb', hcb', hent⟩ := unregisterFrom_found s func (by omega) hm hpre hf
      refine ⟨fun hn' => absurd ?_ hn', fun _ => ⟨_, ?_, rfl, hent⟩⟩
      · rw [entries_split s (by omega : kk < _), hf]
        simp
      · rw [if_pos hf, hcb', except_ok_bind]
    · rw [if_neg hf]
      refine ih (kk + 1) (by omega) ?_
      rw [List.range'_1_concat, List.map_append]
      simp [hpre, Ne.symm hf]

/-- Unregistering a function not in the table returns `INV_ERROR_INVALID_PARAMETER` and changes nothing. -/
theorem invUnregisterDmpInteruptCb_absent (func : Option α) (s : CallbackInterrupt α m)
    (hm : s.numInterruptProcesses ≤ m) (hf : func ∉ s.entries) :
    invUnregisterDmpInteruptCb func s = .ok (.errorInvalidParameter, s) :=
  (unregisterFrom_spec s func _ 0 (Nat.zero_add _) hm (by simp)).1 hf

/-- Unregistering a function in the table removes its first entry and uncounts it. -/
theorem invUnregisterDmpInteruptCb_present (func : Option α) (s : CallbackInterrupt α m)
    (hm : s.numInterruptProcesses ≤ m) (hf : func ∈ s.entries) :
    ∃ s', invUnregisterDmpInteruptCb func s = .ok (.success, s') ∧
      s'.numInterruptProcesses = s.numInterruptProcesses - 1 ∧
      s'.entries = s.entries.erase func :=
  (unregisterFrom_spec s func _ 0 (Nat.zero_add _) hm (by simp)).2 hf

end Ops

/-- Running the table calls the registered functions in table order. -/
theorem invRunDmpInteruptCb_eq (s : CallbackInterrupt α m) (hm : s.numInterruptProcesses ≤ m) :
    invRunDmpInteruptCb s = .ok (s.entries.filterMap id) :=
  runFrom_eq _ _ 0 (by omega)

end InvensenseMpl
