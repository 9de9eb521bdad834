import MshvBindings.Memory
import Mathlib.Algebra.Order.Ring.Nat

/-!
This module contains the VP-state component directory of `regs.rs`: five hypervisor state
components laid out one after another in one `AllVpStateComponents` buffer, and the indexed copy
of one component to or from a `Buffer`.
-/

namespace MshvBindings

/-- Modelled from the spec: `MSHV_VP_STATE_LAPIC`, the first of the five components. -/
def mshvVpStateLapic : Nat := 0
/-- Modelled from the spec: `MSHV_VP_STATE_XSAVE`, the second component. -/
def mshvVpStateXsave : Nat := 1
/-- Modelled from the spec: `MSHV_VP_STATE_SIMP`, the synthetic message page. -/
def mshvVpStateSimp : Nat := 2
/-- Modelled from the spec: `MSHV_VP_STATE_SIEFP`, the synthetic event flags page. -/
def mshvVpStateSiefp : Nat := 3
/-- Modelled from the spec: `MSHV_VP_STATE_SYNTHETIC_TIMERS`, the last component. -/
def mshvVpStateSyntheticTimers : Nat := 4
/-- Modelled from the spec: `MSHV_VP_STATE_COUNT`, five components. -/
def mshvVpStateCount : Nat := 5

/--
Modelled from the spec: `size_of::<hv_synthetic_timers_state>()`, a record declared in the
generated bindings, is 200 bytes.
-/
def hvSyntheticTimersStateSize : Nat := 200

/-- `initialize_comp_sizes`: each component's size at its index. -/
def initializeCompSizes : List Nat :=
  let vpStateCompSize := List.replicate mshvVpStateCount 0
  -- `size_of::<LapicState>()`
  let vpStateCompSize := vpStateCompSize.set mshvVpStateLapic 1024
  -- `size_of::<XSave>()`
  let vpStateCompSize := vpStateCompSize.set mshvVpStateXsave 4096
  let vpStateCompSize := vpStateCompSize.set mshvVpStateSimp hvPageSize
  let vpStateCompSize := vpStateCompSize.set mshvVpStateSiefp hvPageSize
  vpStateCompSize.set mshvVpStateSyntheticTimers hvSyntheticTimersStateSize

/-- `VP_STATE_COMP_SIZES`. -/
def vpStateCompSizes : List Nat := initializeCompSizes

/-- `VP_STATE_COMPONENTS_BUFFER_SIZE`. -/
def vpStateComponentsBufferSize : Nat :=
  vpStateCompSizes.getD mshvVpStateLapic 0 + vpStateCompSizes.getD mshvVpStateXsave 0 +
    vpStateCompSizes.getD mshvVpStateSimp 0 + vpStateCompSizes.getD mshvVpStateSiefp 0 +
    vpStateCompSizes.getD mshvVpStateSyntheticTimers 0

/-- `get_vp_state_comp_start_offset`: the sizes of the components before `index` summed. -/
def getVpStateCompStartOffset (index : Nat) : Nat := (vpStateCompSizes.take index).sum

/-- `AllVpStateComponents`. -/
structure AllVpStateComponents where
  buffer : Bytes vpStateComponentsBufferSize

/-- `AllVpStateComponents::default`, all zero. -/
instance : Inhabited AllVpStateComponents := ⟨⟨Bytes.zeroed⟩⟩

/-- `AllVpStateComponents::copy_to_or_from_buffer`: copy component `index` to the start of
`buffer`, or from it. Both objects may change, so the call returns both. -/
def AllVpStateComponents.copyToOrFromBuffer (self : AllVpStateComponents) (index : Nat)
    (buffer : Buffer) (toBuffer : Bool) : Except Fault (AllVpStateComponents × Buffer) :=
  match vpStateCompSizes[index]? with
  | none => .error (.panic "index out of bounds")
  | some len =>
    if len > buffer.size then
      .error (.panic "Invalid buffer length for state components")
    else
      let start := getVpStateCompStartOffset index
      let end_ := start + len
      if vpStateComponentsBufferSize < end_ then
        .error (.panic "range end index out of range for slice")
      else if toBuffer then
        .ok (self, { buffer with buf := ptrCopy self.buffer start buffer.buf 0 len })
      else
        .ok ({ self with buffer := ptrCopy buffer.buf 0 self.buffer start len }, buffer)

end MshvBindings
