import InvensenseMpl.Library

/-!
# The source record and the DMP program

`inv_set_motion_interrupt`, `inv_set_fifo_interrupt` and `inv_set_dmp_dr_interrupt`
(`ml.c:585–743`) keep one fact in two places: the bit of the source in
`inv_obj.sys->interrupt_sources`, and the opcode at the source's key in the DMP program
(`DINAFE` at `KEY_CFG_7` or `KEY_CFG_6`, `DIND40 + 1` at `KEY_CFG_DR_INT`, `DINAD8` for off).

The DMP memory is read off the write log: a key holds the bytes of the last write to it that
the bus accepted (`dmpMemory`). `ImageConsistent` says that the two places agree. When every
call of a run finds a bus that accepts the setters' writes and `inv_set_dl_cfg_int(0)`, the run
keeps the agreement, whatever other calls come between the setters and whatever else the bus
returns (`execLib_imageConsistent`).
The setters change the record before they write the DMP and do not undo it, so a rejected
write leaves the two disagreeing (`interruptStep_write_fails`).
-/

namespace InvensenseMpl

/-! ### The DMP memory -/

/-- The bytes at `key` as the writes `ws` left them: those of the last write to `key` that
the bus accepted, or `none` if it accepted none. -/
def dmpMemory (p : Platform) (ws : List (DmpKey × List UInt8)) (key : DmpKey) :
    Option (List UInt8) :=
  ((ws.filter fun w => w.1 = key ∧ p.setMpuMemory w.1 w.2 = .success).getLast?).map Prod.snd

/-- One more write changes the image at its own key only, and only when the bus accepts it. -/
theorem dmpMemory_append_write (p : Platform) (ws : List (DmpKey × List UInt8)) (k : DmpKey)
    (b : List UInt8) (key : DmpKey) :
    dmpMemory p (ws ++ [(k, b)]) key =
      if k = key ∧ p.setMpuMemory k b = .success then some b else dmpMemory p ws key := by
  unfold dmpMemory
  rw [List.filter_append, List.filter_singleton]
  split_ifs with h
  · rw [decide_eq_true h, cond_true, List.getLast?_concat, Option.map_some']
  · rw [decide_eq_false h, cond_false, List.append_nil]

/-- A key that configures a source holds what the writes to such keys left there. -/
theorem dmpMemory_filter (p : Platform) (ws : List (DmpKey × List UInt8)) {key : DmpKey}
    (hk : key.IsInterruptCfg = true) :
    dmpMemory p (ws.filter fun w => w.1.IsInterruptCfg) key = dmpMemory p ws key := by
  unfold dmpMemory
  rw [List.filter_filter]
  congr 3
  funext w
  by_cases h : w.1 = key
  · simp [h, hk]
  · simp [h]

/-! ### What the shared body does -/

section Body

variable (p : Platform) (bit : BitVec 32) (key : DmpKey) (onByte onOff : UInt8) (st : MlState)

/-- Recording an interrupt source writes nothing to the DMP. -/
theorem recordInterruptSource_dmpWrites :
    (recordInterruptSource p bit onOff st).2.dmpWrites = st.dmpWrites := by
  unfold recordInterruptSource setDlCfgInt andThen
  dsimp only
  split_ifs <;> rfl

/-- Recording succeeds with the source set or cleared as asked; or `inv_set_dl_cfg_int`
refuses to enable the interrupt and nothing is recorded; or it refuses to disable it once the
last source is gone, and the source is cleared all the same. -/
theorem recordInterruptSource_cases :
    ((recordInterruptSource p bit onOff st).1 = .success ∧
      (recordInterruptSource p bit onOff st).2.interruptSources =
        if onOff ≠ 0 then st.interruptSources ||| bit else st.interruptSources &&& ~~~bit) ∨
    (onOff ≠ 0 ∧ (recordInterruptSource p bit onOff st).1 = p.setDlCfgInt p.bitDmpIntEn ∧
      p.setDlCfgInt p.bitDmpIntEn ≠ .success ∧
      (recordInterruptSource p bit onOff st).2.interruptSources = st.interruptSources) ∨
    (onOff = 0 ∧ (recordInterruptSource p bit onOff st).1 = p.setDlCfgInt 0 ∧
      p.setDlCfgInt 0 ≠ .success ∧
      (recordInterruptSource p bit onOff st).2.interruptSources =
        st.interruptSources &&& ~~~bit) := by
  unfold recordInterruptSource setDlCfgInt andThen
  by_cases hon : onOff = 0
  · subst hon
    by_cases hd : p.setDlCfgInt 0 = .success <;>
      simp only [ne_eq, not_true_eq_false, if_false] <;> split_ifs <;> simp [hd]
  · by_cases hd : p.setDlCfgInt p.bitDmpIntEn = .success <;> simp [hon, hd]

/-- The DMP write of an interrupt call keeps the sources its record step left. -/
theorem interruptSourceBody_interruptSources :
    (interruptSourceBody p bit key onByte onOff st).2.interruptSources =
      (recordInterruptSource p bit onOff st).2.interruptSources := by
  unfold interruptSourceBody andThen
  split_ifs <;> rfl

/-- An interrupt call returns its record step's error, or else the result of its DMP write. -/
theorem interruptSourceBody_result :
    (interruptSourceBody p bit key onByte onOff st).1 =
      if (recordInterruptSource p bit onOff st).1 = .success then
        p.setMpuMemory key [if onOff ≠ 0 then onByte else p.dina.dinaD8]
      else (recordInterruptSource p bit onOff st).1 := by
  unfold interruptSourceBody andThen
  split_ifs <;> first | rfl | contradiction

/-- The body changes the DMP memory, as a bus `r` accepts writes, only at its key, and only
when recording succeeded and `r` accepts the write. -/
theorem interruptSourceBody_dmpMemory (r : Platform) (k : DmpKey) :
    dmpMemory r (interruptSourceBody p bit key onByte onOff st).2.dmpWrites k =
      if (recordInterruptSource p bit onOff st).1 = .success ∧ key = k ∧
          r.setMpuMemory key [if onOff ≠ 0 then onByte else p.dina.dinaD8] = .success then
        some [if onOff ≠ 0 then onByte else p.dina.dinaD8]
      else dmpMemory r st.dmpWrites k := by
  unfold interruptSourceBody andThen
  by_cases hr : (recordInterruptSource p bit onOff st).1 = .success
  · rw [if_neg (not_not.2 hr)]
    simp only [setMpuMemory, dmpMemory_append_write, recordInterruptSource_dmpWrites, hr, true_and]
  · rw [if_pos hr, recordInterruptSource_dmpWrites, if_neg fun h => hr h.1]

end Body

/-! ### The sources -/

/-- The three sources of the DMP interrupt. -/
inductive DmpInterrupt
  | motion
  | fifo
  | dmpDr
  deriving DecidableEq, Repr

/-- The source's bit in `interrupt_sources`. -/
def DmpInterrupt.bit (p : Platform) : DmpInterrupt → BitVec 32
  | .motion => p.invIntMotion
  | .fifo => p.invIntFifo
  | .dmpDr => p.invIntDmpDr

/-- The key whose opcode turns the source on in the DMP program. -/
def DmpInterrupt.key : DmpInterrupt → DmpKey
  | .motion => .keyCfg7
  | .fifo => .keyCfg6
  | .dmpDr => .keyCfgDrInt

/-- The opcode that turns the source on; `DINAD8` turns each of them off. -/
def DmpInterrupt.onByte (p : Platform) : DmpInterrupt → UInt8
  | .motion => p.dina.dinaFE
  | .fifo => p.dina.dinaFE
  | .dmpDr => p.dina.dinD40 + 1

/-- The source a setter call sets or clears. -/
def InterruptCall.source : InterruptCall → DmpInterrupt
  | .motion _ => .motion
  | .fifo _ => .fifo
  | .dmpDr _ => .dmpDr

/-- The source bits are constants of the headers. -/
@[simp]
theorem DmpInterrupt.bit_withBus (p : Platform) (b : Bus) (d : DmpInterrupt) :
    d.bit (p.withBus b) = d.bit p := by
  cases d <;> rfl

/-- So are the opcodes. -/
@[simp]
theorem DmpInterrupt.onByte_withBus (p : Platform) (b : Bus) (d : DmpInterrupt) :
    d.onByte (p.withBus b) = d.onByte p := by
  cases d <;> rfl

/-- Each source has its own key. -/
theorem DmpInterrupt.key_inj {d d' : DmpInterrupt} (h : d.key = d'.key) : d = d' := by
  cases d <;> cases d' <;> first | rfl | cases h

/-- Each source's key configures an interrupt source. -/
theorem DmpInterrupt.key_isInterruptCfg (d : DmpInterrupt) : d.key.IsInterruptCfg = true := by
  cases d <;> rfl

/-- The record agrees with the DMP program: a source is recorded exactly when its key holds
its on-opcode. -/
def ImageConsistent (p : Platform) (st : MlState) : Prop :=
  ∀ d : DmpInterrupt,
    st.interruptSources &&& d.bit p ≠ 0 ↔ dmpMemory p st.dmpWrites d.key = some [d.onByte p]

/-- What the agreement needs of the platform: distinct nonzero source bits, on-opcodes other
than `DINAD8`, and a bus that accepts the setters' writes and `inv_set_dl_cfg_int(0)`. -/
structure Platform.SourceWritesSucceed (p : Platform) : Prop where
  bit_ne_zero : ∀ d : DmpInterrupt, d.bit p ≠ 0
  bit_disjoint : ∀ d d' : DmpInterrupt, d ≠ d' → d.bit p &&& d'.bit p = 0
  onByte_ne : ∀ d : DmpInterrupt, d.onByte p ≠ p.dina.dinaD8
  disable : p.setDlCfgInt 0 = .success
  write_on : ∀ d : DmpInterrupt, p.setMpuMemory d.key [d.onByte p] = .success
  write_off : ∀ d : DmpInterrupt, p.setMpuMemory d.key [p.dina.dinaD8] = .success

section Bits

variable {w : Nat} {s b a : BitVec w}

/-- Setting bits outside `a` does not change the bits in `a`. -/
theorem or_and_of_and_eq_zero (h : b &&& a = 0) : (s ||| b) &&& a = s &&& a := by
  ext i
  have h1 := congrArg (BitVec.getLsbD · i) h
  simp only [BitVec.getLsbD_and, BitVec.getLsbD_or, BitVec.getLsbD_zero] at h1 ⊢
  cases s.getLsbD i <;> cases hb : b.getLsbD i <;> simp_all

/-- Clearing bits outside `a` does not change the bits in `a`. -/
theorem and_not_and_of_and_eq_zero (h : b &&& a = 0) : s &&& ~~~b &&& a = s &&& a := by
  ext i
  have h1 := congrArg (BitVec.getLsbD · i) h
  simp only [BitVec.getLsbD_and, BitVec.getLsbD_not, BitVec.getLsbD_zero] at h1 ⊢
  cases s.getLsbD i <;> cases hb : b.getLsbD i <;> simp_all

end Bits

/-! ### The agreement -/

section Image

variable {p : Platform} {st st' : MlState}

/-- No source recorded and nothing written, as the library starts. -/
theorem ImageConsistent.of_initial (hs : st.interruptSources = 0) (hw : st.dmpWrites = []) :
    ImageConsistent p st := fun d => by
  rw [hs, hw]
  exact iff_of_false (not_not.2 BitVec.zero_and) nofun

/-- Image consistency carries over to a state with the same sources and the same image at every interrupt key. -/
theorem ImageConsistent.of_eq (h : ImageConsistent p st)
    (hs : st'.interruptSources = st.interruptSources)
    (hm : ∀ d : DmpInterrupt, dmpMemory p st'.dmpWrites d.key = dmpMemory p st.dmpWrites d.key) :
    ImageConsistent p st' := fun d => by rw [hs, hm]; exact h d

/-- The agreement depends on the setters' part of the state only. -/
theorem ImageConsistent.of_interruptPart (h : ImageConsistent p st)
    (he : st'.interruptPart = st.interruptPart) : ImageConsistent p st' := by
  simp only [MlState.interruptPart, Prod.mk.injEq] at he
  refine h.of_eq he.1 fun d => ?_
  rw [← dmpMemory_filter p _ d.key_isInterruptCfg, he.2.2,
    dmpMemory_filter p _ d.key_isInterruptCfg]

/-- A source set or cleared, with its key written as asked, keeps the agreement. -/
theorem ImageConsistent.flip (hp : p.SourceWritesSucceed) (h : ImageConsistent p st)
    (d₀ : DmpInterrupt) (onOff : UInt8)
    (hs : st'.interruptSources = if onOff ≠ 0 then st.interruptSources ||| d₀.bit p
      else st.interruptSources &&& ~~~(d₀.bit p))
    (hm : ∀ k, dmpMemory p st'.dmpWrites k = if d₀.key = k then
      some [if onOff ≠ 0 then d₀.onByte p else p.dina.dinaD8] else dmpMemory p st.dmpWrites k) :
    ImageConsistent p st' := by
  intro d
  rw [hs, hm]
  by_cases hd : d₀ = d
  · subst hd
    rw [if_pos rfl]
    split_ifs
    · rw [or_and_self]
      exact iff_of_true (hp.bit_ne_zero d₀) rfl
    · rw [and_not_and_self]
      exact iff_of_false (not_not.2 rfl) fun h =>
        hp.onByte_ne d₀ (List.singleton_inj.1 (Option.some_inj.1 h)).symm
  · rw [if_neg fun h => hd (DmpInterrupt.key_inj h), ← h d]
    split_ifs
    · rw [or_and_of_and_eq_zero (hp.bit_disjoint _ _ hd)]
    · rw [and_not_and_of_and_eq_zero (hp.bit_disjoint _ _ hd)]

/-- A source set or cleared while its key keeps what it held breaks the agreement. -/
theorem not_imageConsistent_of_flip (h : ImageConsistent p st) {d₀ : DmpInterrupt}
    {onOff : UInt8} (hbit : d₀.bit p ≠ 0)
    (hflip : onOff ≠ 0 ↔ st.interruptSources &&& d₀.bit p = 0)
    (hs : st'.interruptSources = if onOff ≠ 0 then st.interruptSources ||| d₀.bit p
      else st.interruptSources &&& ~~~(d₀.bit p))
    (hm : dmpMemory p st'.dmpWrites d₀.key = dmpMemory p st.dmpWrites d₀.key) :
    ¬ImageConsistent p st' := by
  intro h'
  have h2 := h' d₀
  rw [hs, hm] at h2
  by_cases hon : onOff ≠ 0
  · rw [if_pos hon, or_and_self] at h2
    exact (h d₀).2 (h2.1 hbit) (hflip.1 hon)
  · rw [if_neg hon, and_not_and_self] at h2
    exact h2.2 ((h d₀).1 fun hz => hon (hflip.2 hz)) rfl

/-- The shared body, on a bus `b` that accepts the setters' writes, keeps the agreement as a
platform `p` that accepts them judges the DMP memory. -/
theorem interruptSourceBody_image {b : Bus} (hp : p.SourceWritesSucceed)
    (hb : (p.withBus b).SourceWritesSucceed) (d₀ : DmpInterrupt) (onOff : UInt8)
    (h : ImageConsistent p st) :
    ImageConsistent p
      (interruptSourceBody (p.withBus b) (d₀.bit p) d₀.key (d₀.onByte p) onOff st).2 := by
  rcases recordInterruptSource_cases (p.withBus b) (d₀.bit p) onOff st with
    ⟨hr, hs⟩ | ⟨-, hr, hne, hs⟩ | ⟨-, -, hne, -⟩
  · refine h.flip hp d₀ onOff (by rw [interruptSourceBody_interruptSources, hs]) fun k => ?_
    rw [interruptSourceBody_dmpMemory]
    by_cases hk : d₀.key = k
    · have hw : p.setMpuMemory d₀.key
          [if onOff ≠ 0 then d₀.onByte p else p.dina.dinaD8] = .success := by
        split_ifs
        exacts [hp.write_on d₀, hp.write_off d₀]
      rw [if_pos hk, if_pos ⟨hr, hk, hw⟩]
      rfl
    · rw [if_neg fun h => hk h.2.1, if_neg hk]
  · refine h.of_eq (by rw [interruptSourceBody_interruptSources, hs]) fun d => ?_
    rw [interruptSourceBody_dmpMemory, if_neg fun h => hne (hr ▸ h.1)]
  · exact absurd hb.disable hne

end Image

/-! ### The setters -/

section Step

variable (p : Platform)

/-- Once the DMP is opened, and with the data-ready key supported, an interrupt call is the shared body. -/
theorem interruptStep_eq_body (c : InterruptCall) {st : MlState}
    (hs : ¬st.state.toNat < InvState.dmpOpened.toNat)
    (hk : c.source = .dmpDr → p.dmpkeySupported .keyCfgDrInt = true) :
    interruptStep p c st =
      interruptSourceBody p (c.source.bit p) c.source.key (c.source.onByte p) c.onOff st := by
  cases c with
  | motion => exact if_neg hs
  | fifo => exact if_neg hs
  | dmpDr =>
    rw [interruptStep, invSetDmpDrInterrupt, if_neg hs, hk rfl]
    rfl

/-- A call is refused and changes nothing, or is the shared body on its source. -/
theorem interruptStep_refused_or_body (c : InterruptCall) (st : MlState) :
    (interruptStep p c st).2 = st ∨
      interruptStep p c st =
        interruptSourceBody p (c.source.bit p) c.source.key (c.source.onByte p) c.onOff st := by
  by_cases hs : st.state.toNat < InvState.dmpOpened.toNat
  · left
    cases c <;> simp only [interruptStep, invSetMotionInterrupt, invSetFifoInterrupt,
      setInterruptSource, invSetDmpDrInterrupt, if_pos hs]
  by_cases hk : c.source = .dmpDr → p.dmpkeySupported .keyCfgDrInt = true
  · exact .inr (interruptStep_eq_body p c hs hk)
  left
  cases c with
  | dmpDr =>
    rw [interruptStep, invSetDmpDrInterrupt, if_neg hs,
      if_pos (by simpa [InterruptCall.source] using hk)]
  | _ => exact absurd (fun h => nomatch h) hk

end Step

/-- Every setter call on a bus that accepts the setters' writes keeps the agreement. -/
theorem interruptStep_image {p : Platform} {b : Bus} (hp : p.SourceWritesSucceed)
    (hb : (p.withBus b).SourceWritesSucceed) (c : InterruptCall) {st : MlState}
    (h : ImageConsistent p st) : ImageConsistent p (interruptStep (p.withBus b) c st).2 := by
  rcases interruptStep_refused_or_body (p.withBus b) c st with he | he
  · rw [he]
    exact h
  · rw [he, DmpInterrupt.bit_withBus, DmpInterrupt.onByte_withBus]
    exact interruptSourceBody_image hp hb c.source c.onOff h

/-! ### Runs -/

variable {α : Type} {m : Nat} [DecidableEq α]

/-- When the three source bits are distinct and nonzero, the on-opcodes differ from `DINAD8`,
and the bus of every call accepts the setters' writes and `inv_set_dl_cfg_int(0)`, every run
of the library from a state where the record and the DMP agree keeps them agreeing, whatever
the other calls, their order and the other results of the bus: `INV_INT_MOTION`,
`INV_INT_FIFO` and `INV_INT_DMP_DR` are each recorded in `interrupt_sources` exactly when
`KEY_CFG_7`, `KEY_CFG_6` and `KEY_CFG_DR_INT` hold `DINAFE`, `DINAFE` and `DIND40 + 1`. The DMP
memory is judged by the platform's own bus, which accepts the setters' writes too. -/
theorem execLib_imageConsistent (p : Platform) (bus : Nat → Bus) (hp : p.SourceWritesSucceed)
    (hb : ∀ i, (p.withBus (bus i)).SourceWritesSucceed) (cs : List (LibCall α))
    (s s' : Library α m) (h : ImageConsistent p s.st) (hrun : execLib p bus cs s = .ok s') :
    ImageConsistent p s'.st := by
  refine execLib_preserves p (fun b => (p.withBus b).SourceWritesSucceed)
    (fun s => ImageConsistent p s.st) (fun b c s s' hb h hs => ?_) cs bus s s' hb h hrun
  rcases libStep_interruptPart hs with he | ⟨ic, he⟩
  · exact h.of_interruptPart he
  · rw [he]
    exact interruptStep_image hp hb ic h

/-- The motion and FIFO interrupts turned on, a reset whose writes the bus rejects, and the
motion interrupt turned off, on the sample platform. -/
theorem execLib_imageConsistent_motion_fifo :
    Platform.sample.SourceWritesSucceed ∧
    (∀ i, (Platform.sample.withBus (if i = 2 then { (default : Bus) with
      setMpuMemory := fun k _ => if k.IsInterruptCfg then .success else .errorMemorySet }
      else default)).SourceWritesSucceed) ∧
    ∃ s', execLib Platform.sample (fun i => if i = 2 then { (default : Bus) with
          setMpuMemory := fun k _ => if k.IsInterruptCfg then .success else .errorMemorySet }
          else default)
        [.interrupt (.motion 1), .interrupt (.fifo 1), .data .resetMotion, .interrupt (.motion 0)]
        (⟨default, { (default : MlState) with state := .dmpOpened }, invInitMlCb⟩ :
          Library Nat 2) = .ok s' ∧ ImageConsistent Platform.sample s'.st :=
  have hs : ∀ b : Bus, b.setDlCfgInt 0 = .success →
      (∀ d : DmpInterrupt, ∀ x, b.setMpuMemory d.key x = .success) →
      (Platform.sample.withBus b).SourceWritesSucceed := fun _ hd hw =>
    ⟨fun d => by rw [DmpInterrupt.bit_withBus]; cases d <;> decide,
      fun d d' h => by
        rw [DmpInterrupt.bit_withBus, DmpInterrupt.bit_withBus]
        cases d <;> cases d' <;> first | exact absurd rfl h | decide,
      fun d => by
        rw [DmpInterrupt.onByte_withBus]
        show d.onByte Platform.sample ≠ Platform.sample.dina.dinaD8
        cases d <;> decide,
      hd, fun d => hw d _, fun d => hw d _⟩
  have hb : ∀ i, (Platform.sample.withBus (if i = 2 then { (default : Bus) with
      setMpuMemory := fun k _ => if k.IsInterruptCfg then .success else .errorMemorySet }
      else default)).SourceWritesSucceed := fun i => by
    by_cases h : i = 2 <;> simp only [h, if_true, if_false] <;>
      exact hs _ rfl fun d _ => by cases d <;> rfl
  ⟨hs default rfl fun _ _ => rfl, hb, except_exists_ok_and ⟨_, rfl⟩ fun _ hr =>
    execLib_imageConsistent _ _ (hs default rfl fun _ _ => rfl) hb _ _ _ (.of_initial rfl rfl) hr⟩

/-! ### A rejected write -/

/-- The setters change the record before they write the DMP, and do not undo it. From a state
where the two agree, a call past its checks that flips its source, on a bus that rejects the
write to the source's key, returns an error and leaves the record and the DMP disagreeing:
the source is recorded as asked, and its key holds what it held. -/
theorem interruptStep_write_fails (p : Platform) (c : InterruptCall) (st : MlState)
    (h : ImageConsistent p st) (hs : ¬st.state.toNat < InvState.dmpOpened.toNat)
    (hk : c.source = .dmpDr → p.dmpkeySupported .keyCfgDrInt = true)
    (hbit : c.source.bit p ≠ 0) (hen : p.setDlCfgInt p.bitDmpIntEn = .success)
    (hflip : c.onOff ≠ 0 ↔ st.interruptSources &&& c.source.bit p = 0)
    (hw : p.setMpuMemory c.source.key
      [if c.onOff ≠ 0 then c.source.onByte p else p.dina.dinaD8] ≠ .success) :
    (interruptStep p c st).1 ≠ .success ∧ ¬ImageConsistent p (interruptStep p c st).2 := by
  rw [interruptStep_eq_body p c hs hk, interruptSourceBody_result]
  have hsrc := interruptSourceBody_interruptSources p (c.source.bit p) c.source.key
    (c.source.onByte p) c.onOff st
  have hm := interruptSourceBody_dmpMemory p (c.source.bit p) c.source.key
    (c.source.onByte p) c.onOff st p c.source.key
  rcases recordInterruptSource_cases p (c.source.bit p) c.onOff st with
    ⟨hr, hs⟩ | ⟨-, -, hne, -⟩ | ⟨hon, hr, hne, hs⟩
  · rw [if_pos hr]
    refine ⟨hw, not_imageConsistent_of_flip h hbit hflip (hsrc.trans hs) ?_⟩
    rw [hm, if_neg fun h => hw h.2.2]
  · exact absurd hen hne
  · rw [if_neg (hr ▸ hne)]
    refine ⟨hr ▸ hne, not_imageConsistent_of_flip h hbit hflip ?_ ?_⟩
    · rw [hsrc, hs, if_neg (not_not.2 hon)]
    · rw [hm, if_neg fun h => hne (hr ▸ h.1)]

/-- The motion interrupt turned on from the opened state, on a bus that rejects every write
to `KEY_CFG_7`. -/
theorem interruptStep_write_fails_motion :
    ImageConsistent { (default : Platform) with
        invIntMotion := 4
        setMpuMemory := fun k _ => if k = .keyCfg7 then .errorMemorySet else .success }
      { (default : MlState) with state := .dmpOpened } ∧
    (interruptStep { (default : Platform) with
        invIntMotion := 4
        setMpuMemory := fun k _ => if k = .keyCfg7 then .errorMemorySet else .success }
      (.motion 1) { (default : MlState) with state := .dmpOpened }).1 ≠ .success ∧
    ¬ImageConsistent { (default : Platform) with
        invIntMotion := 4
        setMpuMemory := fun k _ => if k = .keyCfg7 then .errorMemorySet else .success }
      (interruptStep { (default : Platform) with
          invIntMotion := 4
          setMpuMemory := fun k _ => if k = .keyCfg7 then .errorMemorySet else .success }
        (.motion 1) { (default : MlState) with state := .dmpOpened }).2 :=
  ⟨.of_initial rfl rfl, interruptStep_write_fails _ (.motion 1) _ (.of_initial rfl rfl)
    (by decide) nofun (by decide) rfl (by decide) (by decide)⟩

end InvensenseMpl
