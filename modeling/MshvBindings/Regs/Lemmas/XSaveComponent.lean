import MshvBindings.Regs.Lemmas.VpState
import MshvBindings.Regs.Lemmas.XSave

/-!
This module connects the VP-state directory with the XSAVE codec. The directory's XSAVE component
is as large as the `XSave` area, so the component copied out to a page decodes to itself, and an
area encoded to a page is copied back in as the component, with the other components unchanged.
-/

namespace MshvBindings

theorem vpStateCompSizes_xsave : vpStateCompSizes.getD mshvVpStateXsave 0 = 4096 := rfl

/-- The XSAVE component and the XSAVE codec agree: a page holding the component copied out
decodes to the component's bytes, and an area encoded to a page and copied in becomes the
component, every byte outside it unchanged. -/
theorem xsave_component_codec (d : AllVpStateComponents) (b : Buffer) (hb : b.size = 4096)
    (alloc : Alloc) (x : XSave) (m : Bytes 4096) (hm : alloc ⟨4096, 4096⟩ = some m) :
    (∃ b', d.copyToOrFromBuffer mshvVpStateXsave b true = .ok (d, b') ∧
      XSave.tryFrom b' =
        .ok ⟨fun j => d.buffer.get (getVpStateCompStartOffset mshvVpStateXsave + j)⟩) ∧
    ∃ p d', Buffer.tryFromXSave alloc x = .ok p ∧
      d.copyToOrFromBuffer mshvVpStateXsave p false = .ok (d', p) ∧
      (∀ j : Fin 4096,
        d'.buffer.get (getVpStateCompStartOffset mshvVpStateXsave + j) = x.buffer j) ∧
      ∀ k, ¬inComponent mshvVpStateXsave k → d'.buffer.get k = d.buffer.get k := by
  have hi : mshvVpStateXsave < mshvVpStateCount := by decide
  refine ⟨⟨_, copyToOrFromBuffer_eq_ok d b true hi (by rw [vpStateCompSizes_xsave, hb]), ?_⟩,
    _, _, tryFromXSave_eq alloc x m hm, copyToOrFromBuffer_eq_ok d _ false hi le_rfl,
    fun j => ?_, fun k hk => ?_⟩
  . rw [tryFrom_eq_of_le _ (by exact hb.le)]
    refine congrArg (fun w => (Except.ok ⟨w⟩ : Except Fault XSave)) (funext fun j => ?_)
    have hj : j.val < b.size := hb.symm ▸ j.isLt
    dsimp only
    rw [if_pos (by exact hj), get_copyToBuffer d b (by rw [vpStateCompSizes_xsave, hb]),
      if_pos (by exact j.isLt)]
  . have hin : inComponent mshvVpStateXsave (getVpStateCompStartOffset mshvVpStateXsave + j) := by
      simp only [inComponent, vpStateCompSizes_xsave]
      omega
    rw [get_copyFromBuffer d _ hi, if_pos hin, Nat.add_sub_cancel_left, get_ptrCopy]
    simp
  . rw [get_copyFromBuffer d _ hi, if_neg hk]

theorem xsave_component_codec_counting :
    let d : AllVpStateComponents := ⟨fun j => BitVec.ofNat 8 j.val⟩
    let b : Buffer := ⟨⟨4096, 4096⟩, fun j => BitVec.ofNat 8 (j.val + 7)⟩
    let alloc : Alloc := fun _ => some fun j => BitVec.ofNat 8 (j.val + 1)
    let x : XSave := ⟨fun j => BitVec.ofNat 8 (j.val + 3)⟩
    b.size = 4096 ∧ alloc ⟨4096, 4096⟩ = some (fun j => BitVec.ofNat 8 (j.val + 1)) ∧
    (∃ b', d.copyToOrFromBuffer mshvVpStateXsave b true = .ok (d, b') ∧
      XSave.tryFrom b' =
        .ok ⟨fun j => d.buffer.get (getVpStateCompStartOffset mshvVpStateXsave + j)⟩) ∧
    ∃ p d', Buffer.tryFromXSave alloc x = .ok p ∧
      d.copyToOrFromBuffer mshvVpStateXsave p false = .ok (d', p) ∧
      (∀ j : Fin 4096,
        d'.buffer.get (getVpStateCompStartOffset mshvVpStateXsave + j) = x.buffer j) ∧
      ∀ k, ¬inComponent mshvVpStateXsave k → d'.buffer.get k = d.buffer.get k :=
  ⟨rfl, rfl, xsave_component_codec _ ⟨⟨4096, 4096⟩, _⟩ rfl _ _ _ rfl⟩

end MshvBindings
