import MshvBindings.Regs.Impl.XSave

/-!
This module proves the XSAVE codec exact: the encoder's page rounding yields a buffer the
decoder accepts, the area comes back unchanged, and the decoder rejects exactly the buffers
larger than the area.
-/

namespace MshvBindings

theorem xsave_numPages : (4096 + hvPageSize - 1) >>> hvHypPageShift = 1 := by decide

theorem tryFromXSave_eq (alloc : Alloc) (x : XSave) (m : Bytes 4096)
    (hm : alloc ⟨4096, 4096⟩ = some m) :
    Buffer.tryFromXSave alloc x = .ok ⟨⟨4096, 4096⟩, ptrCopy x.buffer 0 m 0 4096⟩ := by
  simp only [Buffer.tryFromXSave, xsave_numPages, Nat.one_mul,
    Buffer.new_of_alloc fromSizeAlign_page hm]
  rfl

theorem tryFrom_eq_of_le (b : Buffer) (h : b.size ≤ 4096) :
    XSave.tryFrom b = .ok ⟨fun j => if j.val < b.size then b.buf.get j else 0⟩ := by
  rw [XSave.tryFrom, if_neg (by omega)]
  congr
  funext j
  simp [ptrCopy_apply, default, Bytes.zeroed]

theorem tryFrom_eq_error_iff (b : Buffer) :
    XSave.tryFrom b = .error (.errno einval) ↔ 4096 < b.size := by
  by_cases h : 4096 < b.size
  . simp [XSave.tryFrom, h]
  . simp [XSave.tryFrom, h]

theorem tryFromXSave_tryFrom (alloc : Alloc) (x : XSave) (m : Bytes 4096)
    (hm : alloc ⟨4096, 4096⟩ = some m) :
    (∃ b, Buffer.tryFromXSave alloc x = .ok b ∧
      b.layout = ⟨((4096 + hvPageSize - 1) >>> hvHypPageShift) * hvPageSize, hvPageSize⟩ ∧
      4096 ≤ b.size ∧ (∀ j : Fin 4096, b.buf.get j = x.buffer j) ∧ XSave.tryFrom b = .ok x) ∧
    ∀ b : Buffer, (XSave.tryFrom b = .error (.errno einval) ↔ 4096 < b.size) ∧
      (b.size ≤ 4096 → XSave.tryFrom b = .ok ⟨fun j => if j.val < b.size then b.buf.get j else 0⟩) := by
  refine ⟨⟨⟨⟨4096, 4096⟩, ptrCopy x.buffer 0 m 0 4096⟩, tryFromXSave_eq alloc x m hm, rfl,
    le_refl _, fun j => ?_, ?_⟩,
    fun b => ⟨tryFrom_eq_error_iff b, tryFrom_eq_of_le b⟩⟩
  . simp [ptrCopy_apply]
  . rw [tryFrom_eq_of_le ⟨⟨4096, 4096⟩, ptrCopy x.buffer 0 m 0 4096⟩ (le_refl 4096)]
    congr
    funext j
    simp [ptrCopy_apply, Buffer.size]

theorem tryFromXSave_tryFrom_counting :
    let alloc : Alloc := fun _ => some fun j => BitVec.ofNat 8 (j.val + 1)
    let x : XSave := ⟨fun j => BitVec.ofNat 8 j.val⟩
    alloc ⟨4096, 4096⟩ = some (fun j : Fin 4096 => BitVec.ofNat 8 (j.val + 1)) ∧
    (∃ b, Buffer.tryFromXSave alloc x = .ok b ∧
      b.layout = ⟨((4096 + hvPageSize - 1) >>> hvHypPageShift) * hvPageSize, hvPageSize⟩ ∧
      4096 ≤ b.size ∧ (∀ j : Fin 4096, b.buf.get j = x.buffer j) ∧ XSave.tryFrom b = .ok x) ∧
    ∀ b : Buffer, (XSave.tryFrom b = .error (.errno einval) ↔ 4096 < b.size) ∧
      (b.size ≤ 4096 → XSave.tryFrom b = .ok ⟨fun j => if j.val < b.size then b.buf.get j else 0⟩) :=
  ⟨rfl, tryFromXSave_tryFrom _ _ _ rfl⟩

end MshvBindings
