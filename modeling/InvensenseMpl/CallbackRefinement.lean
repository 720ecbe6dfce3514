import InvensenseMpl.Callback

/-!
# The callback registry as a bounded list

What the DMP interrupt registry of `ml.c` is for, without slots or counts: a list of at
most `MAX_INTERRUPT_PROCESSES` callbacks in registration order, none of them twice.
`Registry` carries both facts as fields, so no invalid registry can be built. Its
operations follow the description of `inv_register_dmp_interupt_cb` and
`inv_unregister_dmp_interupt_cb`; `callbackStep_refines` shows that one C call computes
one abstract operation, and `callbackExec_refines` extends it to every run.
-/

namespace InvensenseMpl

/-- The abstract registry: its callbacks in order, at most `m` of them, none twice. -/
structure Registry (α : Type) (m : Nat) where
  entries : List (Option α)
  length_le : entries.length ≤ m
  nodup : entries.Nodup

/-- A call on the registry, with the pointer it passes. -/
inductive Call (α : Type)
  | register (func : Option α)
  | unregister (func : Option α)

namespace Registry

variable {α : Type} [DecidableEq α] {m : Nat}

/-- No callbacks, as after `inv_init_ml_cb`. -/
def empty : Registry α m := ⟨[], Nat.zero_le _, List.nodup_nil⟩

/-- Registering `f` appends it and succeeds when there is room and `f` is new; otherwise
the registry is unchanged, with `INV_ERROR_MEMORY_EXAUSTED` when it is full and
`INV_ERROR_INVALID_PARAMETER` when `f` is already in it. -/
def register (f : Option α) (r : Registry α m) : InvError × Registry α m :=
  if h : r.entries.length < m ∧ f ∉ r.entries then
    (.success, ⟨r.entries ++ [f], by simp only [List.length_append, List.length_singleton]; omega,
      List.pairwise_append.2 ⟨r.nodup, List.pairwise_singleton _ _, by
        simp only [List.mem_singleton]
        rintro a ha _ rfl rfl
        exact h.2 ha⟩⟩)
  else if m ≤ r.entries.length then (.errorMemoryExausted, r)
  else (.errorInvalidParameter, r)

/-- Unregistering `f` removes it, keeping the order of the others, and succeeds; an absent
`f` leaves the registry unchanged, with `INV_ERROR_INVALID_PARAMETER`. -/
def unregister (f : Option α) (r : Registry α m) : InvError × Registry α m :=
  if f ∈ r.entries then
    (.success, ⟨r.entries.erase f, (List.length_erase_le _ _).trans r.length_le, r.nodup.erase f⟩)
  else (.errorInvalidParameter, r)

/-- The callbacks that one interrupt calls: the non-`NULL` entries, in order. -/
def invoked (r : Registry α m) : List α := r.entries.filterMap id

/-- One call. -/
def step : Call α → Registry α m → InvError × Registry α m
  | .register f, r => r.register f
  | .unregister f, r => r.unregister f

/-- A run of calls: the codes returned, and the registry reached. -/
def exec : List (Call α) → Registry α m → List InvError × Registry α m
  | [], r => ([], r)
  | c :: cs, r =>
    let (e, r') := step c r
    let (es, r'') := exec cs r'
    (e :: es, r'')

end Registry

variable {α : Type} {m : Nat}

/-- A record whose registered pointers are those of a registry keeps its count in bounds. -/
theorem num_le_of_entries {s : CallbackInterrupt α m} {r : Registry α m}
    (h : s.entries = r.entries) : s.numInterruptProcesses ≤ m := by
  rw [← length_entries, h]
  exact r.length_le

variable [DecidableEq α]

/-- One call of the C code. -/
def callbackStep : Call α → CallbackInterrupt α m → Except Fault (InvError × CallbackInterrupt α m)
  | .register f, s => invRegisterDmpInteruptCb f s
  | .unregister f, s => invUnregisterDmpInteruptCb f s

/-- A run of calls of the C code: the codes returned, and the record reached. -/
def callbackExec :
    List (Call α) → CallbackInterrupt α m → Except Fault (List InvError × CallbackInterrupt α m)
  | [], s => .ok ([], s)
  | c :: cs, s => do
    let (e, s') ← callbackStep c s
    let (es, s'') ← callbackExec cs s'
    .ok (e :: es, s'')

/-! ### Simulation -/

/-- One C call from a record that represents `r` computes the abstract step: the same
code, and a record that represents the new registry. -/
theorem callbackStep_refines (c : Call α) (s : CallbackInterrupt α m) (r : Registry α m)
    (h : s.entries = r.entries) :
    ∃ s', callbackStep c s = .ok ((r.step c).1, s') ∧ s'.entries = (r.step c).2.entries := by
  have hlen : s.numInterruptProcesses = r.entries.length := by rw [← length_entries, h]
  cases c with
  | register f =>
    simp only [callbackStep, Registry.step, Registry.register]
    by_cases hfull : m ≤ s.numInterruptProcesses
    · rw [invRegisterDmpInteruptCb_full f s hfull, dif_neg (by omega), if_pos (by omega)]
      exact ⟨s, rfl, h⟩
    by_cases hf : f ∈ r.entries
    · rw [invRegisterDmpInteruptCb_dup f s (by omega) (h ▸ hf), dif_neg (by simp [hf]),
        if_neg (by omega)]
      exact ⟨s, rfl, h⟩
    · obtain ⟨s', hs', -, hent⟩ := invRegisterDmpInteruptCb_fresh f s (by omega) (h ▸ hf)
      rw [hs', dif_pos ⟨by omega, hf⟩]
      exact ⟨s', rfl, by rw [hent, h]⟩
  | unregister f =>
    simp only [callbackStep, Registry.step, Registry.unregister]
    by_cases hf : f ∈ r.entries
    · obtain ⟨s', hs', -, hent⟩ :=
        invUnregisterDmpInteruptCb_present f s (num_le_of_entries h) (h ▸ hf)
      rw [hs', if_pos hf]
      exact ⟨s', rfl, by rw [hent, h]⟩
    · rw [invUnregisterDmpInteruptCb_absent f s (num_le_of_entries h) (h ▸ hf), if_neg hf]
      exact ⟨s, rfl, h⟩

/-- Every run of C calls from a record that represents `r` computes the abstract run. -/
theorem callbackExec_refines (cs : List (Call α)) (s : CallbackInterrupt α m)
    (r : Registry α m) (h : s.entries = r.entries) :
    ∃ s', callbackExec cs s = .ok ((r.exec cs).1, s') ∧ s'.entries = (r.exec cs).2.entries := by
  induction cs generalizing s r with
  | nil => exact ⟨s, rfl, h⟩
  | cons c cs ih =>
    obtain ⟨s₁, hs₁, h₁⟩ := callbackStep_refines c s r h
    obtain ⟨s₂, hs₂, h₂⟩ := ih s₁ (r.step c).2 h₁
    exact ⟨s₂, by rw [callbackExec, hs₁, except_ok_bind]; simp only [hs₂, except_ok_bind]; rfl, h₂⟩

/-- Every sequence of `inv_register_dmp_interupt_cb` and `inv_unregister_dmp_interupt_cb`
calls from `inv_init_ml_cb` runs without a fault and returns the codes of the abstract
registry. In the record it reaches, the count is at most `MAX_INTERRUPT_PROCESSES`, the
registered pointers are pairwise distinct and are the abstract list, and
`inv_run_dmp_interupt_cb` calls exactly its non-`NULL` callbacks, in order. -/
theorem dmpInteruptCb_registry_refines (cs : List (Call α)) :
    ∃ s, callbackExec cs (invInitMlCb : CallbackInterrupt α m) =
        .ok (((Registry.empty : Registry α m).exec cs).1, s) ∧
      s.numInterruptProcesses ≤ m ∧ s.entries.Nodup ∧
      s.entries = ((Registry.empty : Registry α m).exec cs).2.entries ∧
      invRunDmpInteruptCb s = .ok ((Registry.empty : Registry α m).exec cs).2.invoked := by
  obtain ⟨s, hs, hent⟩ := callbackExec_refines cs invInitMlCb Registry.empty rfl
  refine ⟨s, hs, num_le_of_entries hent, hent ▸ (Registry.empty.exec cs).2.nodup, hent, ?_⟩
  rw [invRunDmpInteruptCb_eq s (num_le_of_entries hent), hent]
  rfl

end InvensenseMpl
