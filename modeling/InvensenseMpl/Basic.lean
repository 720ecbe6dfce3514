import Mathlib.Logic.Function.Basic

/-!
# Result codes, library states and C arrays

Shared vocabulary of the `ml.c` model (`src/invensense/libsensors/mlsdk/mllite/ml.c`).
The numeric values of `inv_error_t` and of the `INV_STATE_*` constants live in
`mltypes.h` and `mlstates.h`, outside `src/`; the model keeps their names only.
Array accesses at a computed index are checked: a load or store past the end, or a
read of a byte that was never assigned, ends the run in a `Fault`.
-/

namespace InvensenseMpl

/-- The `inv_error_t` codes that the modelled functions return; `other` stands for a code
passed through from the serial layer (`inv_set_mpu_memory`). -/
inductive InvError
  | success
  | errorInvalidParameter
  | errorMemoryExausted
  | errorSmImproperState
  | errorInvalidConfiguration
  | errorFeatureNotImplemented
  | errorMemorySet
  | errorSerialDeviceNotRecognized
  /-- `INV_ERROR`. -/
  | error
  | other (code : Nat)
  deriving DecidableEq, Repr, Inhabited

/-- `inv_get_state()`: the library states that `ml.c` tests, in their declared order. -/
inductive InvState
  | serialClosed
  | serialOpened
  | dmpOpened
  | dmpStarted
  deriving DecidableEq, Repr, Inhabited

/-- The position of a state in that order, which `inv_get_state() < INV_STATE_DMP_OPENED`
compares. -/
def InvState.toNat : InvState → Nat
  | .serialClosed => 0
  | .serialOpened => 1
  | .dmpOpened => 2
  | .dmpStarted => 3

/-- What a C run can reach besides returning: a load or store at `index` past the end of
its array or at a negative index, the use of a local byte that no branch assigned, a `NULL`
pointer followed, an integer division by zero, or a left shift of a negative value (undefined
in C11 6.5.7p4). -/
inductive Fault
  | outOfBounds (index : Nat)
  | negativeIndex (index : Int)
  | indeterminate
  | nullDereference
  | divisionByZero
  | negativeShift
  deriving DecidableEq, Repr

/-- `SIGNSET(x)` (`ml.c:70`): `-1` for a nonzero argument, `+1` for zero. -/
def signset (x : Nat) : Int := if x ≠ 0 then -1 else 1

/-- `a[i]` on a C array of `n` elements; a load past the end is a fault. -/
def loadAt {β : Type} {n : Nat} (a : Fin n → β) (i : Nat) : Except Fault β :=
  if h : i < n then .ok (a ⟨i, h⟩) else .error (.outOfBounds i)

/-- `a[i] = v` on a C array of `n` elements; a store past the end is a fault. -/
def storeAt {β : Type} {n : Nat} (a : Fin n → β) (i : Nat) (v : β) :
    Except Fault (Fin n → β) :=
  if h : i < n then .ok (Function.update a ⟨i, h⟩ v) else .error (.outOfBounds i)

/-- A local byte that must have been assigned before it is used. -/
def assigned {β : Type} : Option β → Except Fault β
  | some b => .ok b
  | none => .error .indeterminate

/-- Sequencing after a step that returned runs the rest on its value. -/
@[simp] theorem except_ok_bind {ε α β : Type} (a : α) (f : α → Except ε β) :
    (Except.ok a >>= f) = f a := rfl

/-- Sequencing after a fault is that fault. -/
@[simp] theorem except_error_bind {ε α β : Type} (e : ε) (f : α → Except ε β) :
    (Except.error e >>= f) = Except.error e := rfl

/-- A sequenced run that returned went through a first step that returned. -/
theorem except_bind_eq_ok {ε α β : Type} {x : Except ε α} {f : α → Except ε β} {b : β}
    (h : x >>= f = .ok b) : ∃ a, x = .ok a ∧ f a = .ok b := by
  cases x with
  | error e => cases h
  | ok a => exact ⟨a, rfl, h⟩

/-- Mapping a returned value applies the function. -/
@[simp] theorem except_map_ok {ε α β : Type} (f : α → β) (a : α) :
    (Except.ok a : Except ε α).map f = .ok (f a) := rfl

/-- A mapped run that returned went through a run that returned. -/
theorem except_map_eq_ok {ε α β : Type} {f : α → β} {x : Except ε α} {b : β}
    (h : x.map f = .ok b) : ∃ a, x = .ok a ∧ f a = b := by
  cases x with
  | error e => cases h
  | ok a => exact ⟨a, rfl, Except.ok.inj h⟩

/-- A run that returns, and whose every result has `P`, returns a result with `P`. -/
theorem except_exists_ok_and {ε α : Type} {x : Except ε α} {P : α → Prop}
    (hx : ∃ a, x = .ok a) (h : ∀ a, x = .ok a → P a) : ∃ a, x = .ok a ∧ P a :=
  let ⟨a, ha⟩ := hx
  ⟨a, ha, h a ha⟩

section Access

variable {β : Type} {n : Nat}

/-- An assigned byte is read. -/
@[simp] theorem assigned_some (b : β) : assigned (some b) = .ok b := rfl

/-- `SIGNSET` of a clear bit is `1`. -/
@[simp] theorem signset_zero : signset 0 = 1 := rfl

/-- A load below the array's length reads the element. -/
theorem loadAt_of_lt (a : Fin n → β) {i : Nat} (h : i < n) : loadAt a i = .ok (a ⟨i, h⟩) :=
  dif_pos h

/-- A load at an index of the array's own type reads the element. -/
@[simp]
theorem loadAt_val (a : Fin n → β) (c : Fin n) : loadAt a c.val = .ok (a c) :=
  loadAt_of_lt a c.isLt

/-- A store below the array's length updates that element. -/
theorem storeAt_of_lt (a : Fin n → β) {i : Nat} (h : i < n) (v : β) :
    storeAt a i v = .ok (Function.update a ⟨i, h⟩ v) :=
  dif_pos h

end Access

end InvensenseMpl
