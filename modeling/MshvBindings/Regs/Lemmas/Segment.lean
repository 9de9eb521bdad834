import MshvBindings.Regs.Impl.Segment
import Mathlib.Tactic.IntervalCases
import Mathlib.Tactic.Positivity

/-!
This module proves that the segment register codec is exact on the attribute bits it names:
unpacking a packed register keeps every field within its width, and packing an unpacked one
gives back the attribute word with only its reserved bits cleared.
-/

namespace MshvBindings

namespace Attributes

theorem getLsbD_bitfieldSet (a v : BitVec 16) (off width i : Nat) :
    (bitfieldSet a off width v).getLsbD i =
      if off ≤ i ∧ i < off + width ∧ i < 16 then v.getLsbD (i - off) else a.getLsbD i := by
  simp only [bitfieldSet, BitVec.getLsbD_or, BitVec.getLsbD_and, BitVec.getLsbD_not,
    BitVec.getLsbD_shiftLeft, BitVec.getLsbD_setWidth, BitVec.getLsbD_allOnes]
  by_cases hi : i < 16
  . by_cases h : off ≤ i ∧ i < off + width
    . simp [h, hi, show ¬i < off by omega, show i - off < width by omega,
        show i - off < 16 by omega]
    . rw [if_neg (by omega)]
      rcases Nat.lt_or_ge i off with h' | h'
      . simp [hi, h']
      . simp [hi, show ¬i < off by omega, show ¬i - off < width by omega]
  . simp [hi, BitVec.getLsbD_ge a i (by omega)]

theorem getLsbD_bitfieldGet (a : BitVec 16) (off width i : Nat) :
    (bitfieldGet a off width).getLsbD i =
      (decide (i < 16) && decide (i < width) && a.getLsbD (off + i)) := by
  simp [bitfieldGet, Bool.and_assoc]

theorem bitfieldGet_bitfieldSet_of_disjoint (a v : BitVec 16)
    (h : off + width ≤ off' ∨ off' + width' ≤ off) :
    bitfieldGet (bitfieldSet a off' width' v) off width = bitfieldGet a off width := by
  apply BitVec.eq_of_getLsbD_eq
  intro ⟨i, _⟩
  simp only [getLsbD_bitfieldGet, getLsbD_bitfieldSet]
  by_cases hi : i < width
  . rw [if_neg (by omega)]
  . simp [hi]

theorem bitfieldGet_bitfieldSet_self (a v : BitVec 16) (h : off + width ≤ 16) :
    bitfieldGet (bitfieldSet a off width v) off width = bitfieldGet v 0 width := by
  apply BitVec.eq_of_getLsbD_eq
  intro ⟨i, _⟩
  simp only [getLsbD_bitfieldGet, getLsbD_bitfieldSet]
  by_cases hi : i < width
  . simp [hi, show off + i < 16 by omega]
  . simp [hi]

end Attributes

open Attributes

/-- The low `width` bits of an attribute byte, the others cleared. -/
def lowBits (v : BitVec 8) (width : Nat) : BitVec 8 := (v.setWidth width).setWidth 8

theorem lowBits_eq_self_iff (v : BitVec 8) (h : width ≤ 8) :
    lowBits v width = v ↔ v.toNat < 2 ^ width := by
  rw [BitVec.toNat_eq]
  simp only [lowBits, BitVec.toNat_setWidth]
  have : v.toNat % 2 ^ width < 2 ^ 8 :=
    lt_of_lt_of_le (Nat.mod_lt _ (by positivity)) (Nat.pow_le_pow_right (by omega) h)
  rw [Nat.mod_eq_of_lt this]
  exact Nat.mod_eq_iff_lt (by positivity)

theorem setWidth_bitfieldGet_setWidth (v : BitVec 8) :
    (bitfieldGet (v.setWidth 16) 0 width).setWidth 8 = lowBits v width := by
  apply BitVec.eq_of_getLsbD_eq
  intro ⟨i, hi⟩
  simp [lowBits, getLsbD_bitfieldGet, show i < 16 by omega]

theorem fromHv_fromReg (x : SegmentRegister) :
    SegmentRegister.fromHv (HvX64SegmentRegister.fromReg x) =
      { x with
        type_ := lowBits x.type_ 4, present := lowBits x.present 1, dpl := lowBits x.dpl 2,
        db := lowBits x.db 1, s := lowBits x.s 1, l := lowBits x.l 1, g := lowBits x.g 1,
        avl := lowBits x.avl 1, unusable := 0, padding := 0 } := by
  simp (disch := omega) only [SegmentRegister.fromHv, HvX64SegmentRegister.fromReg, segmentType,
    present, descriptorPrivilegeLevel, default_, nonSystemSegment, long_, granularity, available,
    setSegmentType, setPresent, setDescriptorPrivilegeLevel, setDefault, setNonSystemSegment,
    setLong, setGranularity, setAvailable, bitfieldGet_bitfieldSet_of_disjoint,
    bitfieldGet_bitfieldSet_self, setWidth_bitfieldGet_setWidth]

theorem fromHv_fromReg_eq_self_iff (x : SegmentRegister) :
    (SegmentRegister.fromHv (HvX64SegmentRegister.fromReg x)).base = x.base ∧
    (SegmentRegister.fromHv (HvX64SegmentRegister.fromReg x)).limit = x.limit ∧
    (SegmentRegister.fromHv (HvX64SegmentRegister.fromReg x)).selector = x.selector ∧
    (SegmentRegister.fromHv (HvX64SegmentRegister.fromReg x) = x ↔
      x.type_.toNat < 16 ∧ x.dpl.toNat < 4 ∧ x.present.toNat ≤ 1 ∧ x.db.toNat ≤ 1 ∧
      x.s.toNat ≤ 1 ∧ x.l.toNat ≤ 1 ∧ x.g.toNat ≤ 1 ∧ x.avl.toNat ≤ 1 ∧
      x.unusable = 0 ∧ x.padding = 0) := by
  rw [fromHv_fromReg]
  refine ⟨rfl, rfl, rfl, ?_⟩
  cases x
  simp only [SegmentRegister.mk.injEq, true_and, lowBits_eq_self_iff _ (show 4 ≤ 8 by omega),
    lowBits_eq_self_iff _ (show 2 ≤ 8 by omega), lowBits_eq_self_iff _ (show 1 ≤ 8 by omega),
    Nat.reducePow]
  constructor
  . rintro ⟨h1, h2, h3, h4, h5, h6, h7, h8, h9, h10⟩
    exact ⟨h1, h3, by omega, by omega, by omega, by omega, by omega, by omega, h9.symm,
      h10.symm⟩
  . rintro ⟨h1, h2, h3, h4, h5, h6, h7, h8, h9, h10⟩
    exact ⟨h1, by omega, h2, by omega, by omega, by omega, by omega, by omega, h9.symm,
      h10.symm⟩

theorem fromReg_fromHv (y : HvX64SegmentRegister) :
    HvX64SegmentRegister.fromReg (SegmentRegister.fromHv y) =
      { y with attributes := y.attributes &&& 0xF0FF#16 } := by
  simp only [SegmentRegister.fromHv, HvX64SegmentRegister.fromReg, HvX64SegmentRegister.mk.injEq,
    true_and]
  apply BitVec.eq_of_getLsbD_eq
  intro ⟨i, hi⟩
  simp only [segmentType, present, descriptorPrivilegeLevel, default_, nonSystemSegment, long_,
    granularity, available, setSegmentType, setPresent, setDescriptorPrivilegeLevel, setDefault,
    setNonSystemSegment, setLong, setGranularity, setAvailable, getLsbD_bitfieldSet,
    BitVec.getLsbD_setWidth, getLsbD_bitfieldGet, BitVec.getLsbD_and]
  interval_cases i <;> simp

end MshvBindings
