import Mathlib.Data.BitVec

/-!
This module contains the segment and table registers of `regs.rs` and their conversions to and
from the hypervisor's packed `hv_x64_segment_register` and `hv_x64_table_register`.
-/

namespace MshvBindings

/-- `SegmentRegister`: a segment register with its descriptor attributes one per byte. -/
structure SegmentRegister where
  base : BitVec 64 := 0
  limit : BitVec 32 := 0
  selector : BitVec 16 := 0
  type_ : BitVec 8 := 0
  present : BitVec 8 := 0
  dpl : BitVec 8 := 0
  db : BitVec 8 := 0
  s : BitVec 8 := 0
  l : BitVec 8 := 0
  g : BitVec 8 := 0
  avl : BitVec 8 := 0
  unusable : BitVec 8 := 0
  padding : BitVec 8 := 0
  deriving DecidableEq, Repr

/--
`hv_x64_segment_register`, declared in the generated bindings: base, limit, selector and the
16-bit attribute word that bindgen's bitfield accessors read and write.
-/
structure HvX64SegmentRegister where
  base : BitVec 64 := 0
  limit : BitVec 32 := 0
  selector : BitVec 16 := 0
  attributes : BitVec 16 := 0
  deriving DecidableEq, Repr

namespace Attributes

/-- bindgen's `__BindgenBitfieldUnit::get(bit_offset, bit_width)` on the attribute word. -/
def bitfieldGet (attrs : BitVec 16) (off width : Nat) : BitVec 16 :=
  (attrs.extractLsb' off width).setWidth 16

/-- bindgen's `__BindgenBitfieldUnit::set(bit_offset, bit_width, val)`: the field's bits take the
low `width` bits of `val`, every other bit of the word keeps its value. -/
def bitfieldSet (attrs : BitVec 16) (off width : Nat) (val : BitVec 16) : BitVec 16 :=
  let mask : BitVec 16 := (BitVec.allOnes width).setWidth 16 <<< off
  (attrs &&& ~~~mask) ||| ((val <<< off) &&& mask)

/-! The accessors bindgen generates for the attribute bitfields, each at its own position. -/

def segmentType (a : BitVec 16) := bitfieldGet a 0 4
def nonSystemSegment (a : BitVec 16) := bitfieldGet a 4 1
def descriptorPrivilegeLevel (a : BitVec 16) := bitfieldGet a 5 2
def present (a : BitVec 16) := bitfieldGet a 7 1
def reserved (a : BitVec 16) := bitfieldGet a 8 4
def available (a : BitVec 16) := bitfieldGet a 12 1
/-- `_long` (bindgen prefixes the C names `long` and `default`). -/
def long_ (a : BitVec 16) := bitfieldGet a 13 1
def default_ (a : BitVec 16) := bitfieldGet a 14 1
def granularity (a : BitVec 16) := bitfieldGet a 15 1

def setSegmentType (a v : BitVec 16) := bitfieldSet a 0 4 v
def setNonSystemSegment (a v : BitVec 16) := bitfieldSet a 4 1 v
def setDescriptorPrivilegeLevel (a v : BitVec 16) := bitfieldSet a 5 2 v
def setPresent (a v : BitVec 16) := bitfieldSet a 7 1 v
def setReserved (a v : BitVec 16) := bitfieldSet a 8 4 v
def setAvailable (a v : BitVec 16) := bitfieldSet a 12 1 v
def setLong (a v : BitVec 16) := bitfieldSet a 13 1 v
def setDefault (a v : BitVec 16) := bitfieldSet a 14 1 v
def setGranularity (a v : BitVec 16) := bitfieldSet a 15 1 v

end Attributes

/-- `impl From<hv_x64_segment_register> for SegmentRegister`. -/
def SegmentRegister.fromHv (hvReg : HvX64SegmentRegister) : SegmentRegister :=
  let reg : SegmentRegister :=
    { base := hvReg.base, limit := hvReg.limit, selector := hvReg.selector,
      unusable := 0, padding := 0 }
  let a := hvReg.attributes
  { reg with
    type_ := (Attributes.segmentType a).setWidth 8
    present := (Attributes.present a).setWidth 8
    dpl := (Attributes.descriptorPrivilegeLevel a).setWidth 8
    db := (Attributes.default_ a).setWidth 8
    s := (Attributes.nonSystemSegment a).setWidth 8
    l := (Attributes.long_ a).setWidth 8
    g := (Attributes.granularity a).setWidth 8
    avl := (Attributes.available a).setWidth 8 }

open Attributes in
/-- `impl From<SegmentRegister> for hv_x64_segment_register`: the attribute word starts at zero
and each setter writes one field. -/
def HvX64SegmentRegister.fromReg (reg : SegmentRegister) : HvX64SegmentRegister :=
  let hvReg : HvX64SegmentRegister :=
    { base := reg.base, limit := reg.limit, selector := reg.selector }
  let a := hvReg.attributes
  let a := setSegmentType a (reg.type_.setWidth 16)
  let a := setPresent a (reg.present.setWidth 16)
  let a := setDescriptorPrivilegeLevel a (reg.dpl.setWidth 16)
  let a := setDefault a (reg.db.setWidth 16)
  let a := setNonSystemSegment a (reg.s.setWidth 16)
  let a := setLong a (reg.l.setWidth 16)
  let a := setGranularity a (reg.g.setWidth 16)
  let a := setAvailable a (reg.avl.setWidth 16)
  { hvReg with attributes := a }

/-- `TableRegister`. -/
structure TableRegister where
  base : BitVec 64
  limit : BitVec 16
  deriving DecidableEq, Repr

/--
Modelled from the spec: `hv_x64_table_register` is declared in the generated bindings; the
spec gives its packed form as the base, the limit and three reserved pad bytes.
-/
structure HvX64TableRegister where
  pad : Fin 3 → BitVec 8
  limit : BitVec 16
  base : BitVec 64

/-- `impl From<hv_x64_table_register> for TableRegister`. -/
def TableRegister.fromHv (reg : HvX64TableRegister) : TableRegister :=
  { base := reg.base, limit := reg.limit }

/-- `impl From<TableRegister> for hv_x64_table_register`. -/
def HvX64TableRegister.fromReg (reg : TableRegister) : HvX64TableRegister :=
  { limit := reg.limit, base := reg.base, pad := fun _ => 0 }

end MshvBindings
