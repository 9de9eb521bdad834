import MshvBindings.Regs.Lemmas.RegisterFile
import MshvBindings.Regs.Lemmas.Ppr
import Mathlib.Data.List.FinRange

/-!
This module characterises both directions of the LAPIC codec. The decoder leaves the register
file `ofWords (decodedRegisters h)` for the record `h` at the start of the buffer, and the encoder
writes `encodedRecord r` at the start of a fresh page; `fieldOffset` is the table of where each
record field lives in the register file.
-/

namespace MshvBindings

/-- The offsets of the 18 registers the decoder copies from a record field. -/
def scalarOffsets : List Nat :=
  [localApicOffsetApicId, localApicOffsetVersion, localApicOffsetRemoteRead, localApicOffsetLdr,
    localApicOffsetDfr, localApicOffsetSpurious, localApicOffsetError, localApicOffsetIcrLow,
    localApicOffsetIcrHigh, localApicOffsetTimerLvt, localApicOffsetThermalLvt,
    localApicOffsetPerfmonLvt, localApicOffsetLint0Lvt, localApicOffsetLint1Lvt,
    localApicOffsetErrorLvt, localApicOffsetInitialCount, localApicOffsetCurrentCount,
    localApicOffsetDivider]

/-- The offsets of word `i` of the ISR, TMR and IRR. -/
def vectorOffsetsAt (i : Fin 8) : List Nat :=
  [localApicOffsetIsr + i.val * 16, localApicOffsetTmr + i.val * 16,
    localApicOffsetIrr + i.val * 16]

/-- The offsets of the 24 vector words. -/
def vectorOffsets : List Nat := (List.finRange 8).flatMap vectorOffsetsAt

/-- Every offset the decoder writes. -/
def decodedOffsets : List Nat := localApicOffsetPpr :: scalarOffsets ++ vectorOffsets

/-- The vector word a record puts at an offset of the ISR, TMR or IRR range. -/
def vectorWord (hv : HvLocalInterruptControllerState) (off : Nat) : BitVec 32 :=
  if localApicOffsetIsr ≤ off ∧ off < localApicOffsetTmr then
    hv.apicIsr (Fin.ofNat ((off - localApicOffsetIsr) / 16))
  else if localApicOffsetTmr ≤ off ∧ off < localApicOffsetIrr then
    hv.apicTmr (Fin.ofNat ((off - localApicOffsetTmr) / 16))
  else if localApicOffsetIrr ≤ off ∧ off < localApicOffsetIrr + 128 then
    hv.apicIrr (Fin.ofNat ((off - localApicOffsetIrr) / 16))
  else 0

theorem fin_ofNat_stride (i : Fin 8) (base : Nat) :
    (Fin.ofNat ((base + i.val * 16 - base) / 16) : Fin 8) = i :=
  Fin.ext (by simp [Fin.ofNat])

theorem vectorWord_isr (hv : HvLocalInterruptControllerState) (i : Fin 8) :
    vectorWord hv (localApicOffsetIsr + i.val * 16) = hv.apicIsr i := by
  have := i.isLt
  rw [vectorWord, if_pos (by simp [localApicOffsetIsr, localApicOffsetTmr]; omega),
    fin_ofNat_stride]

theorem vectorWord_tmr (hv : HvLocalInterruptControllerState) (i : Fin 8) :
    vectorWord hv (localApicOffsetTmr + i.val * 16) = hv.apicTmr i := by
  have := i.isLt
  rw [vectorWord, if_neg (by simp [localApicOffsetIsr, localApicOffsetTmr]),
    if_pos (by simp [localApicOffsetIrr, localApicOffsetTmr]; omega), fin_ofNat_stride]

theorem vectorWord_irr (hv : HvLocalInterruptControllerState) (i : Fin 8) :
    vectorWord hv (localApicOffsetIrr + i.val * 16) = hv.apicIrr i := by
  have := i.isLt
  rw [vectorWord,
    if_neg (by simp [localApicOffsetIsr, localApicOffsetTmr, localApicOffsetIrr]; omega),
    if_neg (by simp [localApicOffsetIrr, localApicOffsetTmr]),
    if_pos (by simp [localApicOffsetIrr]; omega), fin_ofNat_stride]

theorem foldl_storeVectors_step (hv : HvLocalInterruptControllerState) (l : List (Fin 8))
    (w : Nat → BitVec 32) :
    l.foldl (storeVectors.step hv) (ofWords w) =
      ofWords fun off =>
        if off ∈ l.flatMap vectorOffsetsAt then vectorWord hv off else w off := by
  induction l generalizing w with
  | nil => simp
  | cons i l ih =>
    have h16 : ∀ base, base % 16 = 0 → (base + i.val * 16) % 16 = 0 := fun _ _ => by omega
    rw [List.foldl_cons, storeVectors.step, storeU32_ofWords _ (h16 _ rfl),
      storeU32_ofWords _ (h16 _ rfl), storeU32_ofWords _ (h16 _ rfl), ih]
    refine congrArg ofWords (funext fun off => ?_)
    simp only [List.flatMap_cons, List.mem_append, vectorOffsetsAt, List.mem_cons,
      List.mem_singleton, List.not_mem_nil, or_false, Function.update_apply]
    by_cases hl : off ∈ l.flatMap vectorOffsetsAt
    . simp [hl]
    . simp only [hl, ite_false, or_false]
      split_ifs <;> subst_vars <;> simp_all [vectorWord_isr, vectorWord_tmr, vectorWord_irr]

theorem storeVectors_ofWords (hv : HvLocalInterruptControllerState) (w : Nat → BitVec 32) :
    storeVectors hv (ofWords w) =
      ofWords fun off => if off ∈ vectorOffsets then vectorWord hv off else w off :=
  foldl_storeVectors_step hv _ w


/-- What the decoder leaves in the register at each offset, latest store first; the offsets are
distinct, so the order of the tests does not matter. -/
def decodedRegisters (hv : HvLocalInterruptControllerState) (off : Nat) : BitVec 32 :=
  if off = localApicOffsetPpr then highestIsrv hv.apicIsr
  else if off ∈ vectorOffsets then vectorWord hv off
  else if off = localApicOffsetDivider then hv.apicDivideConfiguration
  else if off = localApicOffsetCurrentCount then hv.apicCounterValue
  else if off = localApicOffsetInitialCount then hv.apicInitialCount
  else if off = localApicOffsetErrorLvt then hv.apicLvtError
  else if off = localApicOffsetLint1Lvt then hv.apicLvtLint1
  else if off = localApicOffsetLint0Lvt then hv.apicLvtLint0
  else if off = localApicOffsetPerfmonLvt then hv.apicLvtPerfmon
  else if off = localApicOffsetThermalLvt then hv.apicLvtThermal
  else if off = localApicOffsetTimerLvt then hv.apicLvtTimer
  else if off = localApicOffsetIcrHigh then hv.apicIcrHigh
  else if off = localApicOffsetIcrLow then hv.apicIcrLow
  else if off = localApicOffsetError then hv.apicEsr
  else if off = localApicOffsetSpurious then hv.apicSpurious
  else if off = localApicOffsetDfr then hv.apicDfr
  else if off = localApicOffsetLdr then hv.apicLdr
  else if off = localApicOffsetRemoteRead then hv.apicRemoteRead
  else if off = localApicOffsetVersion then hv.apicVersion
  else if off = localApicOffsetApicId then hv.apicId
  else 0

theorem tryFrom_eq (L : LapicLayout) (b : Buffer) (h : L.size ≤ b.size) :
    LapicState.tryFrom L b = .ok ⟨ofWords (decodedRegisters (L.read b.buf))⟩ := by
  rw [LapicState.tryFrom, if_neg (by omega)]
  simp (disch := decide) only [show (default : LapicState).regs = Bytes.zeroed from rfl,
    zeroed_eq_ofWords, storeU32_ofWords, storeVectors_ofWords]
  refine congrArg (fun w => (Except.ok ⟨ofWords w⟩ : Except Fault LapicState))
    (funext fun off => ?_)
  simp only [Function.update_apply, decodedRegisters]

theorem tryFrom_eq_error (L : LapicLayout) (b : Buffer) (h : b.size < L.size) :
    LapicState.tryFrom L b = .error (.errno einval) := by
  rw [LapicState.tryFrom, if_pos h]


/-- The record `Buffer::try_from(&LapicState)` builds from a register file. -/
def encodedRecord (r : LapicState) : HvLocalInterruptControllerState where
  apicId := loadU32 r.regs localApicOffsetApicId
  apicVersion := loadU32 r.regs localApicOffsetVersion
  apicLdr := loadU32 r.regs localApicOffsetLdr
  apicDfr := loadU32 r.regs localApicOffsetDfr
  apicSpurious := loadU32 r.regs localApicOffsetSpurious
  apicIsr i := loadU32 r.regs (localApicOffsetIsr + i.val * 16)
  apicTmr i := loadU32 r.regs (localApicOffsetTmr + i.val * 16)
  apicIrr i := loadU32 r.regs (localApicOffsetIrr + i.val * 16)
  apicEsr := loadU32 r.regs localApicOffsetError
  apicIcrHigh := loadU32 r.regs localApicOffsetIcrHigh
  apicIcrLow := loadU32 r.regs localApicOffsetIcrLow
  apicLvtTimer := loadU32 r.regs localApicOffsetTimerLvt
  apicLvtThermal := loadU32 r.regs localApicOffsetThermalLvt
  apicLvtPerfmon := loadU32 r.regs localApicOffsetPerfmonLvt
  apicLvtLint0 := loadU32 r.regs localApicOffsetLint0Lvt
  apicLvtLint1 := loadU32 r.regs localApicOffsetLint1Lvt
  apicLvtError := loadU32 r.regs localApicOffsetErrorLvt
  apicLvtCmci := 0
  apicErrorStatus := 0
  apicInitialCount := loadU32 r.regs localApicOffsetInitialCount
  apicCounterValue := loadU32 r.regs localApicOffsetCurrentCount
  apicDivideConfiguration := loadU32 r.regs localApicOffsetDivider
  apicRemoteRead := loadU32 r.regs localApicOffsetRemoteRead

theorem foldl_loadVectors_step (state : Bytes 1024) (l : List (Fin 8))
    (hv : HvLocalInterruptControllerState) :
    l.foldl (loadVectors.step state) hv =
      { hv with
        apicIsr := fun i => if i ∈ l then loadU32 state (localApicOffsetIsr + i.val * 16)
          else hv.apicIsr i
        apicTmr := fun i => if i ∈ l then loadU32 state (localApicOffsetTmr + i.val * 16)
          else hv.apicTmr i
        apicIrr := fun i => if i ∈ l then loadU32 state (localApicOffsetIrr + i.val * 16)
          else hv.apicIrr i } := by
  induction l generalizing hv with
  | nil => rfl
  | cons i l ih =>
    rw [List.foldl_cons, ih]
    simp only [loadVectors.step, List.mem_cons, Function.update_apply]
    congr 1 <;> funext j <;> by_cases hj : j = i <;> simp [hj]

theorem tryFromLapicState_eq (L : LapicLayout) (alloc : Alloc) (r : LapicState) (m : Bytes 4096)
    (hm : alloc ⟨4096, 4096⟩ = some m) :
    Buffer.tryFromLapicState L alloc r =
      .ok ⟨⟨4096, 4096⟩, L.write (encodedRecord r) m⟩ := by
  have hpages : (L.size + hvPageSize - 1) >>> hvHypPageShift * hvPageSize = hvPageSize := by
    unfold LapicLayout.size; decide
  simp only [Buffer.tryFromLapicState, hpages, Buffer.new_of_alloc fromSizeAlign_page hm,
    loadVectors, foldl_loadVectors_step, List.mem_finRange, ite_true]
  rfl


/-- The register offset each record field is copied to and read back from; the error status and
the CMCI LVT have none. -/
def fieldOffset : LapicField → Option Nat
  | .apicId => some localApicOffsetApicId
  | .apicVersion => some localApicOffsetVersion
  | .apicLdr => some localApicOffsetLdr
  | .apicDfr => some localApicOffsetDfr
  | .apicSpurious => some localApicOffsetSpurious
  | .apicIsr i => some (localApicOffsetIsr + i.val * 16)
  | .apicTmr i => some (localApicOffsetTmr + i.val * 16)
  | .apicIrr i => some (localApicOffsetIrr + i.val * 16)
  | .apicEsr => some localApicOffsetError
  | .apicIcrHigh => some localApicOffsetIcrHigh
  | .apicIcrLow => some localApicOffsetIcrLow
  | .apicLvtTimer => some localApicOffsetTimerLvt
  | .apicLvtThermal => some localApicOffsetThermalLvt
  | .apicLvtPerfmon => some localApicOffsetPerfmonLvt
  | .apicLvtLint0 => some localApicOffsetLint0Lvt
  | .apicLvtLint1 => some localApicOffsetLint1Lvt
  | .apicLvtError => some localApicOffsetErrorLvt
  | .apicLvtCmci => none
  | .apicErrorStatus => none
  | .apicInitialCount => some localApicOffsetInitialCount
  | .apicCounterValue => some localApicOffsetCurrentCount
  | .apicDivideConfiguration => some localApicOffsetDivider
  | .apicRemoteRead => some localApicOffsetRemoteRead

theorem mem_vectorOffsets (hi : off ∈ vectorOffsetsAt i) : off ∈ vectorOffsets :=
  List.mem_flatMap.2 ⟨i, List.mem_finRange i, hi⟩

theorem mem_decodedOffsets (hf : fieldOffset f = some off) : off ∈ decodedOffsets := by
  unfold decodedOffsets
  cases f with
  | apicIsr i | apicTmr i | apicIrr i =>
    cases hf
    exact List.mem_cons_of_mem _
      (List.mem_append_right _ (mem_vectorOffsets (i := i) (by simp [vectorOffsetsAt])))
  | apicLvtCmci | apicErrorStatus => cases hf
  | _ => cases hf; decide

theorem aligned_of_mem_decodedOffsets (h : off ∈ decodedOffsets) :
    off % 16 = 0 ∧ off < 1024 := by
  have : ∀ o ∈ decodedOffsets, o % 16 = 0 ∧ o < 1024 := by decide
  exact this off h

theorem decodedRegisters_of_mem_vectorOffsetsAt (hv : HvLocalInterruptControllerState)
    (hi : off ∈ vectorOffsetsAt i) : decodedRegisters hv off = vectorWord hv off := by
  have := i.isLt
  have hppr : off ≠ localApicOffsetPpr := by
    simp only [vectorOffsetsAt, List.mem_cons, List.mem_singleton, List.not_mem_nil, or_false] at hi
    simp only [localApicOffsetPpr, localApicOffsetIsr, localApicOffsetTmr,
      localApicOffsetIrr] at hi ⊢
    omega
  rw [decodedRegisters, if_neg hppr, if_pos (mem_vectorOffsets hi)]

theorem decodedRegisters_fieldOffset (hv : HvLocalInterruptControllerState)
    (hf : fieldOffset f = some off) : decodedRegisters hv off = hv.get f := by
  cases f with
  | apicIsr i | apicTmr i | apicIrr i =>
    cases hf
    rw [decodedRegisters_of_mem_vectorOffsetsAt hv (i := i) (by simp [vectorOffsetsAt])]
    first | exact vectorWord_isr hv i | exact vectorWord_tmr hv i | exact vectorWord_irr hv i
  | apicLvtCmci | apicErrorStatus => cases hf
  | _ => cases hf; rfl

theorem decodedRegisters_of_not_mem (hv : HvLocalInterruptControllerState)
    (h : off ∉ decodedOffsets) : decodedRegisters hv off = 0 := by
  simp only [decodedOffsets, scalarOffsets, List.cons_append, List.mem_cons, List.mem_append,
    List.mem_singleton, not_or] at h
  simp [decodedRegisters, h]

theorem loadU32_decoded (hv : HvLocalInterruptControllerState) (h : off ∈ decodedOffsets) :
    loadU32 (ofWords (decodedRegisters hv)) off = decodedRegisters hv off :=
  loadU32_ofWords _ (aligned_of_mem_decodedOffsets h).1 (aligned_of_mem_decodedOffsets h).2

theorem decoded_apply_eq_zero (hv : HvLocalInterruptControllerState) (j : Fin 1024)
    (hj : ∀ o ∈ decodedOffsets, ¬(o ≤ j.val ∧ j.val < o + 4)) :
    ofWords (decodedRegisters hv) j = 0 :=
  ofWords_apply_eq_zero _ j fun h4 =>
    decodedRegisters_of_not_mem hv fun hmem => hj _ hmem ⟨by omega, by omega⟩

theorem get_encodedRecord (r : LapicState) (f : LapicField) :
    (encodedRecord r).get f = match fieldOffset f with
      | some off => loadU32 r.regs off
      | none => 0 := by
  cases f <;> rfl

theorem get_clearStatus (hv : HvLocalInterruptControllerState) (f : LapicField) :
    ({ hv with apicErrorStatus := 0, apicLvtCmci := 0 } : HvLocalInterruptControllerState).get f =
      match fieldOffset f with
      | some _ => hv.get f
      | none => 0 := by
  cases f <;> rfl

theorem decodedRegisters_clearStatus (hv : HvLocalInterruptControllerState) :
    decodedRegisters { hv with apicErrorStatus := 0, apicLvtCmci := 0 } = decodedRegisters hv :=
  rfl

theorem loadU32_decoded_ppr (hv : HvLocalInterruptControllerState) :
    loadU32 (ofWords (decodedRegisters hv)) localApicOffsetPpr = highestIsrv hv.apicIsr := by
  rw [loadU32_decoded _ (List.mem_cons_self _ _)]
  rfl

theorem isHighestInService_decoded_ppr (hv : HvLocalInterruptControllerState) :
    IsHighestInService hv.apicIsr
      (loadU32 (ofWords (decodedRegisters hv)) localApicOffsetPpr).toNat := by
  rw [loadU32_decoded_ppr]
  exact highestIsrv_spec _

theorem exists_fieldOffset_of_mem_scalarOffsets (h : off ∈ scalarOffsets) :
    ∃ f, fieldOffset f = some off := by
  have : ∀ o ∈ scalarOffsets, ∃ f, fieldOffset f = some o := by decide
  exact this off h

theorem loadU32_decoded_encodedRecord (r : LapicState) (hf : fieldOffset f = some off) :
    loadU32 (ofWords (decodedRegisters (encodedRecord r))) off = loadU32 r.regs off := by
  rw [loadU32_decoded _ (mem_decodedOffsets hf), decodedRegisters_fieldOffset _ hf,
    get_encodedRecord, hf]

theorem tryFrom_registers (L : LapicLayout) (b : Buffer) (h : HvLocalInterruptControllerState)
    (hb : L.read b.buf = h) (hs : L.size ≤ b.size) :
    ∃ r, LapicState.tryFrom L b = .ok r ∧
      (∀ f off, fieldOffset f = some off → loadU32 r.regs off = h.get f) ∧
      IsHighestInService h.apicIsr (loadU32 r.regs localApicOffsetPpr).toNat ∧
      (∀ j : Fin 1024, (∀ o ∈ decodedOffsets, ¬(o ≤ j.val ∧ j.val < o + 4)) → r.regs j = 0) ∧
      (∀ b' : Buffer, L.size ≤ b'.size → (∀ j < L.size, b'.buf.get j = b.buf.get j) →
        LapicState.tryFrom L b' = .ok r) ∧
      (∀ b' : Buffer, L.size ≤ b'.size →
        ({ L.read b'.buf with apicErrorStatus := 0, apicLvtCmci := 0 } :
            HvLocalInterruptControllerState) =
          { h with apicErrorStatus := 0, apicLvtCmci := 0 } →
        LapicState.tryFrom L b' = .ok r) ∧
      (∀ b' : Buffer, b'.size < L.size → LapicState.tryFrom L b' = .error (.errno einval)) := by
  subst hb
  refine ⟨_, tryFrom_eq L b hs, fun f off hf => ?_, isHighestInService_decoded_ppr _,
    decoded_apply_eq_zero _, fun b' hs' hbytes => ?_, fun b' hs' hst => ?_,
    fun b' hs' => tryFrom_eq_error L b' hs'⟩
  . rw [loadU32_decoded _ (mem_decodedOffsets hf), decodedRegisters_fieldOffset _ hf]
  . rw [tryFrom_eq L b' hs', L.read_congr hbytes]
  . rw [tryFrom_eq L b' hs', ← decodedRegisters_clearStatus, hst, decodedRegisters_clearStatus]

theorem tryFrom_registers_counting :
    let L := LapicLayout.inOrder
    let b : Buffer := ⟨⟨176, 4⟩, fun j => BitVec.ofNat 8 (j.val + 1)⟩
    let h := L.read b.buf
    (L.read b.buf = h ∧ L.size ≤ b.size) ∧
    ∃ r, LapicState.tryFrom L b = .ok r ∧
      (∀ f off, fieldOffset f = some off → loadU32 r.regs off = h.get f) ∧
      IsHighestInService h.apicIsr (loadU32 r.regs localApicOffsetPpr).toNat ∧
      (∀ j : Fin 1024, (∀ o ∈ decodedOffsets, ¬(o ≤ j.val ∧ j.val < o + 4)) → r.regs j = 0) ∧
      (∀ b' : Buffer, L.size ≤ b'.size → (∀ j < L.size, b'.buf.get j = b.buf.get j) →
        LapicState.tryFrom L b' = .ok r) ∧
      (∀ b' : Buffer, L.size ≤ b'.size →
        ({ L.read b'.buf with apicErrorStatus := 0, apicLvtCmci := 0 } :
            HvLocalInterruptControllerState) =
          { h with apicErrorStatus := 0, apicLvtCmci := 0 } →
        LapicState.tryFrom L b' = .ok r) ∧
      (∀ b' : Buffer, b'.size < L.size → LapicState.tryFrom L b' = .error (.errno einval)) :=
  ⟨⟨rfl, Nat.le_refl 176⟩, tryFrom_registers _ _ _ rfl (Nat.le_refl 176)⟩

theorem tryFrom_ppr_highest_in_service (L : LapicLayout) (b : Buffer) (hs : L.size ≤ b.size) :
    ∃ r, LapicState.tryFrom L b = .ok r ∧
      IsHighestInService (L.read b.buf).apicIsr (loadU32 r.regs localApicOffsetPpr).toNat ∧
      ∀ i, (L.read b.buf).apicIsr i ≠ 0 →
        (leadingZeros ((L.read b.buf).apicIsr i)).toNat ≤ 31 ∧
          31 - (leadingZeros ((L.read b.buf).apicIsr i)).toNat + i.val * 4 * 8 < 2 ^ 32 :=
  ⟨_, tryFrom_eq L b hs, by rw [loadU32_decoded_ppr]; exact highestIsrv_spec _,
    fun i => highestIsrv_no_overflow _ i⟩

theorem tryFrom_ppr_highest_in_service_counting :
    let L := LapicLayout.inOrder
    let b : Buffer := ⟨⟨176, 4⟩, fun j => BitVec.ofNat 8 (j.val + 1)⟩
    L.size ≤ b.size ∧
    ∃ r, LapicState.tryFrom L b = .ok r ∧
      IsHighestInService (L.read b.buf).apicIsr (loadU32 r.regs localApicOffsetPpr).toNat ∧
      ∀ i, (L.read b.buf).apicIsr i ≠ 0 →
        (leadingZeros ((L.read b.buf).apicIsr i)).toNat ≤ 31 ∧
          31 - (leadingZeros ((L.read b.buf).apicIsr i)).toNat + i.val * 4 * 8 < 2 ^ 32 :=
  ⟨Nat.le_refl 176, tryFrom_ppr_highest_in_service _ _ (Nat.le_refl 176)⟩

theorem tryFromLapicState_tryFrom (L : LapicLayout) (alloc : Alloc) (r : LapicState)
    (m : Bytes 4096) (hm : alloc ⟨4096, 4096⟩ = some m) :
    ∃ b, Buffer.tryFromLapicState L alloc r = .ok b ∧ L.size ≤ b.size ∧
      ∃ r', LapicState.tryFrom L b = .ok r' ∧
        (∀ off ∈ scalarOffsets, loadU32 r'.regs off = loadU32 r.regs off) ∧
        (∀ i, ∀ off ∈ vectorOffsetsAt i, loadU32 r'.regs off = loadU32 r.regs off) ∧
        IsHighestInService (fun i => loadU32 r.regs (localApicOffsetIsr + i.val * 16))
          (loadU32 r'.regs localApicOffsetPpr).toNat ∧
        (∀ j : Fin 1024, (∀ o ∈ decodedOffsets, ¬(o ≤ j.val ∧ j.val < o + 4)) → r'.regs j = 0) := by
  have hs : L.size ≤ (⟨⟨4096, 4096⟩, L.write (encodedRecord r) m⟩ : Buffer).size := by
    simp [Buffer.size]
  refine ⟨_, tryFromLapicState_eq L alloc r m hm, hs, _, tryFrom_eq L _ hs, ?_⟩
  rw [L.read_write _ _ (by decide : 176 ≤ 4096)]
  refine ⟨fun off h => ?_, fun i off h => ?_, isHighestInService_decoded_ppr (encodedRecord r),
    decoded_apply_eq_zero _⟩
  . obtain ⟨f, hf⟩ := exists_fieldOffset_of_mem_scalarOffsets h
    exact loadU32_decoded_encodedRecord r hf
  . simp only [vectorOffsetsAt, List.mem_cons, List.mem_singleton, List.not_mem_nil,
      or_false] at h
    rcases h with rfl | rfl | rfl
    . exact loadU32_decoded_encodedRecord r (f := .apicIsr i) rfl
    . exact loadU32_decoded_encodedRecord r (f := .apicTmr i) rfl
    . exact loadU32_decoded_encodedRecord r (f := .apicIrr i) rfl

theorem tryFromLapicState_tryFrom_counting :
    let L := LapicLayout.inOrder
    let alloc : Alloc := fun _ => some fun j => BitVec.ofNat 8 (j.val + 1)
    let r : LapicState := ⟨fun j => BitVec.ofNat 8 j.val⟩
    alloc ⟨4096, 4096⟩ = some (fun j : Fin 4096 => BitVec.ofNat 8 (j.val + 1)) ∧
    ∃ b, Buffer.tryFromLapicState L alloc r = .ok b ∧ L.size ≤ b.size ∧
      ∃ r', LapicState.tryFrom L b = .ok r' ∧
        (∀ off ∈ scalarOffsets, loadU32 r'.regs off = loadU32 r.regs off) ∧
        (∀ i, ∀ off ∈ vectorOffsetsAt i, loadU32 r'.regs off = loadU32 r.regs off) ∧
        IsHighestInService (fun i => loadU32 r.regs (localApicOffsetIsr + i.val * 16))
          (loadU32 r'.regs localApicOffsetPpr).toNat ∧
        (∀ j : Fin 1024, (∀ o ∈ decodedOffsets, ¬(o ≤ j.val ∧ j.val < o + 4)) → r'.regs j = 0) :=
  ⟨rfl, tryFromLapicState_tryFrom _ _ _ _ rfl⟩

theorem tryFrom_tryFromLapicState (L : LapicLayout) (b : Buffer)
    (h : HvLocalInterruptControllerState) (hb : L.read b.buf = h) (hs : L.size ≤ b.size)
    (alloc : Alloc) (m : Bytes 4096) (hm : alloc ⟨4096, 4096⟩ = some m) :
    ∃ r, LapicState.tryFrom L b = .ok r ∧
      ∃ b', Buffer.tryFromLapicState L alloc r = .ok b' ∧ L.size ≤ b'.size ∧
        L.read b'.buf = { h with apicErrorStatus := 0, apicLvtCmci := 0 } := by
  subst hb
  refine ⟨_, tryFrom_eq L b hs, _, tryFromLapicState_eq L alloc _ m hm, by simp [Buffer.size],
    ?_⟩
  rw [L.read_write _ _ (by decide : 176 ≤ 4096)]
  apply HvLocalInterruptControllerState.ext_get
  intro f
  rw [get_encodedRecord, get_clearStatus]
  cases hf : fieldOffset f with
  | none => rfl
  | some off =>
    dsimp only
    rw [loadU32_decoded _ (mem_decodedOffsets hf), decodedRegisters_fieldOffset _ hf]

theorem tryFrom_tryFromLapicState_counting :
    let L := LapicLayout.inOrder
    let b : Buffer := ⟨⟨176, 4⟩, fun j => BitVec.ofNat 8 (j.val + 1)⟩
    let h := L.read b.buf
    let alloc : Alloc := fun _ => some fun j => BitVec.ofNat 8 (j.val + 1)
    (L.read b.buf = h ∧ L.size ≤ b.size ∧
      alloc ⟨4096, 4096⟩ = some (fun j : Fin 4096 => BitVec.ofNat 8 (j.val + 1))) ∧
    ∃ r, LapicState.tryFrom L b = .ok r ∧
      ∃ b', Buffer.tryFromLapicState L alloc r = .ok b' ∧ L.size ≤ b'.size ∧
        L.read b'.buf = { h with apicErrorStatus := 0, apicLvtCmci := 0 } :=
  ⟨⟨rfl, Nat.le_refl 176, rfl⟩,
    tryFrom_tryFromLapicState LapicLayout.inOrder ⟨⟨176, 4⟩, fun j => BitVec.ofNat 8 (j.val + 1)⟩
      _ rfl (Nat.le_refl 176) _ _ rfl⟩

end MshvBindings
