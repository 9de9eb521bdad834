import MshvBindings.Memory
import Mathlib.Logic.Equiv.Defs
import Mathlib.Tactic.DeriveFintype

/-!
This module contains the LAPIC codec of `regs.rs`: the hypervisor's compact
`hv_local_interrupt_controller_state` record, the 1024-byte `LapicState` register file, and the
two `TryFrom` conversions between a `Buffer` holding the record and the register file.
-/

namespace MshvBindings

/-! The register offsets of the local APIC MMIO page (`LOCAL_APIC_OFFSET_*`). -/

def localApicOffsetApicId : Nat := 0x20
def localApicOffsetVersion : Nat := 0x30
def localApicOffsetPpr : Nat := 0xA0
def localApicOffsetRemoteRead : Nat := 0xC0
def localApicOffsetLdr : Nat := 0xD0
def localApicOffsetDfr : Nat := 0xE0
def localApicOffsetSpurious : Nat := 0xF0
def localApicOffsetIsr : Nat := 0x100
def localApicOffsetTmr : Nat := 0x180
def localApicOffsetIrr : Nat := 0x200
def localApicOffsetError : Nat := 0x280
def localApicOffsetIcrLow : Nat := 0x300
def localApicOffsetIcrHigh : Nat := 0x310
def localApicOffsetTimerLvt : Nat := 0x320
def localApicOffsetThermalLvt : Nat := 0x330
def localApicOffsetPerfmonLvt : Nat := 0x340
def localApicOffsetLint0Lvt : Nat := 0x350
def localApicOffsetLint1Lvt : Nat := 0x360
def localApicOffsetErrorLvt : Nat := 0x370
def localApicOffsetInitialCount : Nat := 0x380
def localApicOffsetCurrentCount : Nat := 0x390
def localApicOffsetDivider : Nat := 0x3E0

/-- The fields of `hv_local_interrupt_controller_state`, each `u32` word of it. -/
inductive LapicField where
  | apicId | apicVersion | apicLdr | apicDfr | apicSpurious
  | apicIsr (i : Fin 8) | apicTmr (i : Fin 8) | apicIrr (i : Fin 8)
  | apicEsr | apicIcrHigh | apicIcrLow
  | apicLvtTimer | apicLvtThermal | apicLvtPerfmon | apicLvtLint0 | apicLvtLint1
  | apicLvtError | apicLvtCmci | apicErrorStatus
  | apicInitialCount | apicCounterValue | apicDivideConfiguration | apicRemoteRead
  deriving DecidableEq, Fintype, Repr

/-- `hv_local_interrupt_controller_state`, the record the hypervisor transfers. -/
structure HvLocalInterruptControllerState where
  apicId : BitVec 32
  apicVersion : BitVec 32
  apicLdr : BitVec 32
  apicDfr : BitVec 32
  apicSpurious : BitVec 32
  apicIsr : Fin 8 → BitVec 32
  apicTmr : Fin 8 → BitVec 32
  apicIrr : Fin 8 → BitVec 32
  apicEsr : BitVec 32
  apicIcrHigh : BitVec 32
  apicIcrLow : BitVec 32
  apicLvtTimer : BitVec 32
  apicLvtThermal : BitVec 32
  apicLvtPerfmon : BitVec 32
  apicLvtLint0 : BitVec 32
  apicLvtLint1 : BitVec 32
  apicLvtError : BitVec 32
  apicLvtCmci : BitVec 32
  apicErrorStatus : BitVec 32
  apicInitialCount : BitVec 32
  apicCounterValue : BitVec 32
  apicDivideConfiguration : BitVec 32
  apicRemoteRead : BitVec 32

namespace HvLocalInterruptControllerState

/-- The word a record holds in a field. -/
def get (h : HvLocalInterruptControllerState) : LapicField → BitVec 32
  | .apicId => h.apicId
  | .apicVersion => h.apicVersion
  | .apicLdr => h.apicLdr
  | .apicDfr => h.apicDfr
  | .apicSpurious => h.apicSpurious
  | .apicIsr i => h.apicIsr i
  | .apicTmr i => h.apicTmr i
  | .apicIrr i => h.apicIrr i
  | .apicEsr => h.apicEsr
  | .apicIcrHigh => h.apicIcrHigh
  | .apicIcrLow => h.apicIcrLow
  | .apicLvtTimer => h.apicLvtTimer
  | .apicLvtThermal => h.apicLvtThermal
  | .apicLvtPerfmon => h.apicLvtPerfmon
  | .apicLvtLint0 => h.apicLvtLint0
  | .apicLvtLint1 => h.apicLvtLint1
  | .apicLvtError => h.apicLvtError
  | .apicLvtCmci => h.apicLvtCmci
  | .apicErrorStatus => h.apicErrorStatus
  | .apicInitialCount => h.apicInitialCount
  | .apicCounterValue => h.apicCounterValue
  | .apicDivideConfiguration => h.apicDivideConfiguration
  | .apicRemoteRead => h.apicRemoteRead

/-- The record holding `f x` in each field `x`. -/
def ofFn (f : LapicField → BitVec 32) : HvLocalInterruptControllerState where
  apicId := f .apicId
  apicVersion := f .apicVersion
  apicLdr := f .apicLdr
  apicDfr := f .apicDfr
  apicSpurious := f .apicSpurious
  apicIsr i := f (.apicIsr i)
  apicTmr i := f (.apicTmr i)
  apicIrr i := f (.apicIrr i)
  apicEsr := f .apicEsr
  apicIcrHigh := f .apicIcrHigh
  apicIcrLow := f .apicIcrLow
  apicLvtTimer := f .apicLvtTimer
  apicLvtThermal := f .apicLvtThermal
  apicLvtPerfmon := f .apicLvtPerfmon
  apicLvtLint0 := f .apicLvtLint0
  apicLvtLint1 := f .apicLvtLint1
  apicLvtError := f .apicLvtError
  apicLvtCmci := f .apicLvtCmci
  apicErrorStatus := f .apicErrorStatus
  apicInitialCount := f .apicInitialCount
  apicCounterValue := f .apicCounterValue
  apicDivideConfiguration := f .apicDivideConfiguration
  apicRemoteRead := f .apicRemoteRead

end HvLocalInterruptControllerState

/--
The packing of `hv_local_interrupt_controller_state`, whose declaration lives in the generated
bindings: 44 `u32` words with no padding (`size_of` is 176); `slot` says which word holds which
field.
-/
structure LapicLayout where
  slot : LapicField ≃ Fin 44

namespace LapicLayout

/-- `size_of::<hv_local_interrupt_controller_state>()`. -/
def size (_ : LapicLayout) : Nat := 176

@[simp] theorem size_eq (L : LapicLayout) : L.size = 176 := rfl

/-- `&*(buf as *const hv_local_interrupt_controller_state)`: the record at the start of `m`. -/
def read (L : LapicLayout) (m : Bytes n) : HvLocalInterruptControllerState :=
  .ofFn fun f => loadU32 m (4 * L.slot f)

/-- `*hv_state = h` through a pointer to the start of `m`. -/
def write (L : LapicLayout) (h : HvLocalInterruptControllerState) (m : Bytes n) : Bytes n :=
  fun j => if hj : j.val < 176 then byteOf (h.get (L.slot.symm ⟨j.val / 4, by omega⟩)) (j.val % 4)
    else m j

end LapicLayout

/-- The word each field takes when the fields are packed in the order `LapicField` lists them. -/
def LapicField.index : LapicField → Fin 44
  | .apicId => 0
  | .apicVersion => 1
  | .apicLdr => 2
  | .apicDfr => 3
  | .apicSpurious => 4
  | .apicIsr i => ⟨5 + i.val, by omega⟩
  | .apicTmr i => ⟨13 + i.val, by omega⟩
  | .apicIrr i => ⟨21 + i.val, by omega⟩
  | .apicEsr => 29
  | .apicIcrHigh => 30
  | .apicIcrLow => 31
  | .apicLvtTimer => 32
  | .apicLvtThermal => 33
  | .apicLvtPerfmon => 34
  | .apicLvtLint0 => 35
  | .apicLvtLint1 => 36
  | .apicLvtError => 37
  | .apicLvtCmci => 38
  | .apicErrorStatus => 39
  | .apicInitialCount => 40
  | .apicCounterValue => 41
  | .apicDivideConfiguration => 42
  | .apicRemoteRead => 43

/-- The field packed at word `k`, the inverse of `LapicField.index`. -/
def LapicField.ofIndex (k : Fin 44) : LapicField :=
  if h : k.val < 5 then
    [.apicId, .apicVersion, .apicLdr, .apicDfr, .apicSpurious].get ⟨k.val, by simp; omega⟩
  else if h : k.val < 13 then .apicIsr ⟨k.val - 5, by omega⟩
  else if h : k.val < 21 then .apicTmr ⟨k.val - 13, by omega⟩
  else if h : k.val < 29 then .apicIrr ⟨k.val - 21, by omega⟩
  else
    [.apicEsr, .apicIcrHigh, .apicIcrLow, .apicLvtTimer, .apicLvtThermal, .apicLvtPerfmon,
      .apicLvtLint0, .apicLvtLint1, .apicLvtError, .apicLvtCmci, .apicErrorStatus,
      .apicInitialCount, .apicCounterValue, .apicDivideConfiguration, .apicRemoteRead].get
      ⟨k.val - 29, by simp; omega⟩

/-- The layout that packs the fields in the order `LapicField` lists them. -/
def LapicLayout.inOrder : LapicLayout where
  slot :=
    { toFun := LapicField.index
      invFun := LapicField.ofIndex
      left_inv := by decide
      right_inv := by decide }

/-- `LapicState`: the register file, each register at its MMIO offset. -/
structure LapicState where
  regs : Bytes 1024

/-- `LapicState::default`, all zero. -/
instance : Inhabited LapicState := ⟨⟨Bytes.zeroed⟩⟩

/-- `u32::leading_zeros`: the zero bits above the most significant set bit, 32 for zero. -/
def leadingZeros (v : BitVec 32) : BitVec 32 :=
  BitVec.ofNat 32 (go 32)
where
  /-- The zero bits scanned from bit `k - 1` down before the first set one. -/
  go : Nat → Nat
    | 0 => 0
    | k + 1 => if v.getLsbD k then 0 else go k + 1

/-- The highest-priority in-service vector of `LapicState::try_from`: the loop
`for i in (0..8).rev()` that breaks at the first nonzero ISR word. -/
def highestIsrv (isr : Fin 8 → BitVec 32) : BitVec 32 :=
  go 8 (Nat.le_refl 8)
where
  /-- The loop from index `n - 1` down, `0` when it finds no set word. -/
  go : (n : Nat) → n ≤ 8 → BitVec 32
    | 0, _ => 0
    | n + 1, h =>
      let val := isr ⟨n, h⟩
      if val ≠ 0 then 31 - leadingZeros val + BitVec.ofNat 32 n * 4 * 8 else go n (by omega)

/-- The `for i in 0..8` loop of `LapicState::try_from`: word `i` of the ISR, TMR and IRR at its
16-byte stride. -/
def storeVectors (hvState : HvLocalInterruptControllerState) (state : Bytes 1024) :
    Bytes 1024 :=
  (List.finRange 8).foldl step state
where
  step (state : Bytes 1024) (i : Fin 8) : Bytes 1024 :=
    let state := storeU32 state (localApicOffsetIsr + i.val * 16) (hvState.apicIsr i)
    let state := storeU32 state (localApicOffsetTmr + i.val * 16) (hvState.apicTmr i)
    storeU32 state (localApicOffsetIrr + i.val * 16) (hvState.apicIrr i)

/-- `impl TryFrom<Buffer> for LapicState`. -/
def LapicState.tryFrom (L : LapicLayout) (buf : Buffer) : Except Fault LapicState :=
  let ret : LapicState := default
  let state := ret.regs
  if buf.size < L.size then
    .error (.errno einval)
  else
    let hvState := L.read buf.buf
    let state := storeU32 state localApicOffsetApicId hvState.apicId
    let state := storeU32 state localApicOffsetVersion hvState.apicVersion
    let state := storeU32 state localApicOffsetRemoteRead hvState.apicRemoteRead
    let state := storeU32 state localApicOffsetLdr hvState.apicLdr
    let state := storeU32 state localApicOffsetDfr hvState.apicDfr
    let state := storeU32 state localApicOffsetSpurious hvState.apicSpurious
    let state := storeU32 state localApicOffsetError hvState.apicEsr
    let state := storeU32 state localApicOffsetIcrLow hvState.apicIcrLow
    let state := storeU32 state localApicOffsetIcrHigh hvState.apicIcrHigh
    let state := storeU32 state localApicOffsetTimerLvt hvState.apicLvtTimer
    let state := storeU32 state localApicOffsetThermalLvt hvState.apicLvtThermal
    let state := storeU32 state localApicOffsetPerfmonLvt hvState.apicLvtPerfmon
    let state := storeU32 state localApicOffsetLint0Lvt hvState.apicLvtLint0
    let state := storeU32 state localApicOffsetLint1Lvt hvState.apicLvtLint1
    let state := storeU32 state localApicOffsetErrorLvt hvState.apicLvtError
    let state := storeU32 state localApicOffsetInitialCount hvState.apicInitialCount
    let state := storeU32 state localApicOffsetCurrentCount hvState.apicCounterValue
    let state := storeU32 state localApicOffsetDivider hvState.apicDivideConfiguration
    let state := storeVectors hvState state
    let isrv := highestIsrv hvState.apicIsr
    let state := storeU32 state localApicOffsetPpr isrv
    .ok ⟨state⟩

/-- The `for i in 0..8` loop of `Buffer::try_from(&LapicState)`: the vector words read back from
their strides into the record. -/
def loadVectors (state : Bytes 1024) (hvState : HvLocalInterruptControllerState) :
    HvLocalInterruptControllerState :=
  (List.finRange 8).foldl step hvState
where
  step (hvState : HvLocalInterruptControllerState) (i : Fin 8) :
      HvLocalInterruptControllerState :=
    { hvState with
      apicIsr := Function.update hvState.apicIsr i (loadU32 state (localApicOffsetIsr + i.val * 16))
      apicTmr := Function.update hvState.apicTmr i (loadU32 state (localApicOffsetTmr + i.val * 16))
      apicIrr := Function.update hvState.apicIrr i
        (loadU32 state (localApicOffsetIrr + i.val * 16)) }

/-- `impl TryFrom<&LapicState> for Buffer`: the record is built through `hv_state`, a reference
into the fresh page, and so lands at the start of the buffer. -/
def Buffer.tryFromLapicState (L : LapicLayout) (alloc : Alloc) (reg : LapicState) :
    Except Fault Buffer := do
  let hvStateSize := L.size
  let numPages := (hvStateSize + hvPageSize - 1) >>> hvHypPageShift
  let buffer ← Buffer.new alloc (numPages * hvPageSize) hvPageSize
  let state := reg.regs
  let hvState : HvLocalInterruptControllerState :=
    { apicId := loadU32 state localApicOffsetApicId
      apicVersion := loadU32 state localApicOffsetVersion
      apicRemoteRead := loadU32 state localApicOffsetRemoteRead
      apicLdr := loadU32 state localApicOffsetLdr
      apicDfr := loadU32 state localApicOffsetDfr
      apicSpurious := loadU32 state localApicOffsetSpurious
      apicEsr := loadU32 state localApicOffsetError
      apicIcrLow := loadU32 state localApicOffsetIcrLow
      apicIcrHigh := loadU32 state localApicOffsetIcrHigh
      apicLvtTimer := loadU32 state localApicOffsetTimerLvt
      apicLvtThermal := loadU32 state localApicOffsetThermalLvt
      apicLvtPerfmon := loadU32 state localApicOffsetPerfmonLvt
      apicLvtLint0 := loadU32 state localApicOffsetLint0Lvt
      apicLvtLint1 := loadU32 state localApicOffsetLint1Lvt
      apicLvtError := loadU32 state localApicOffsetErrorLvt
      apicInitialCount := loadU32 state localApicOffsetInitialCount
      apicCounterValue := loadU32 state localApicOffsetCurrentCount
      apicDivideConfiguration := loadU32 state localApicOffsetDivider
      apicErrorStatus := 0
      apicLvtCmci := 0
      apicIsr := fun _ => 0
      apicTmr := fun _ => 0
      apicIrr := fun _ => 0 }
  let hvState := loadVectors state hvState
  pure { buffer with buf := L.write hvState buffer.buf }

end MshvBindings
