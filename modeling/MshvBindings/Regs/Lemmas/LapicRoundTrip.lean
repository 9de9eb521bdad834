import MshvBindings.Regs.Lemmas.Lapic

/-!
This module gives the exact round trip of the LAPIC codec. The decoder of `LapicState::try_from`
only produces register files that are zero outside its registers and whose PPR is the highest
vector in service of their own ISR, and an encode followed by a decode returns a register file
unchanged exactly when it is such a file. Decoding is therefore stable: decode, encode and
decode again gives the first decode's file.
-/

namespace MshvBindings

/-- A register file as the decoder leaves it: zero outside the registers it writes, and the PPR
holding the highest vector in service of the file's own ISR. -/
def IsDecodedFile (regs : Bytes 1024) : Prop :=
  (∀ j : Fin 1024, (∀ o ∈ decodedOffsets, ¬(o ≤ j.val ∧ j.val < o + 4)) → regs j = 0) ∧
    IsHighestInService (fun i => loadU32 regs (localApicOffsetIsr + i.val * 16))
      (loadU32 regs localApicOffsetPpr).toNat

instance : DecidablePred IsDecodedFile := fun _ => inferInstanceAs (Decidable (_ ∧ _))

theorem isDecodedFile_decoded (hv : HvLocalInterruptControllerState) :
    IsDecodedFile (ofWords (decodedRegisters hv)) := by
  have hisr : (fun i : Fin 8 =>
      loadU32 (ofWords (decodedRegisters hv)) (localApicOffsetIsr + i.val * 16)) = hv.apicIsr :=
    funext fun i => by
      rw [loadU32_decoded _ (mem_decodedOffsets (f := .apicIsr i) rfl),
        decodedRegisters_fieldOffset _ (f := .apicIsr i) rfl]
      rfl
  exact ⟨decoded_apply_eq_zero hv, hisr ▸ isHighestInService_decoded_ppr hv⟩

theorem isDecodedFile_of_tryFrom (L : LapicLayout) (b : Buffer) (r : LapicState)
    (h : LapicState.tryFrom L b = .ok r) : IsDecodedFile r.regs := by
  by_cases hs : L.size ≤ b.size
  . rw [tryFrom_eq L b hs] at h
    cases h
    exact isDecodedFile_decoded _
  . rw [tryFrom_eq_error L b (Nat.lt_of_not_le hs)] at h
    cases h

theorem exists_fieldOffset_of_mem_decodedOffsets (h : off ∈ decodedOffsets)
    (hp : off ≠ localApicOffsetPpr) : ∃ f, fieldOffset f = some off := by
  rcases List.mem_append.1 ((List.mem_cons.1 h).resolve_left hp) with h | h
  . exact exists_fieldOffset_of_mem_scalarOffsets h
  . obtain ⟨i, -, hi⟩ := List.mem_flatMap.1 h
    simp only [vectorOffsetsAt, List.mem_cons, List.mem_singleton, List.not_mem_nil,
      or_false] at hi
    rcases hi with rfl | rfl | rfl
    exacts [⟨.apicIsr i, rfl⟩, ⟨.apicTmr i, rfl⟩, ⟨.apicIrr i, rfl⟩]

theorem loadU32_decoded_encodedRecord_of_isDecodedFile (r : LapicState)
    (hr : IsDecodedFile r.regs) (ho : off ∈ decodedOffsets) :
    loadU32 (ofWords (decodedRegisters (encodedRecord r))) off = loadU32 r.regs off := by
  by_cases hp : off = localApicOffsetPpr
  . subst hp
    rw [loadU32_decoded_ppr, BitVec.eq_of_toNat_eq ((isHighestInService_iff _ _).1 hr.2)]
    rfl
  . obtain ⟨f, hf⟩ := exists_fieldOffset_of_mem_decodedOffsets ho hp
    exact loadU32_decoded_encodedRecord r hf

theorem decoded_encodedRecord (r : LapicState) (hr : IsDecodedFile r.regs) :
    ofWords (decodedRegisters (encodedRecord r)) = r.regs := by
  funext j
  by_cases h : ∃ o ∈ decodedOffsets, o ≤ j.val ∧ j.val < o + 4
  . obtain ⟨o, ho, hj⟩ := h
    rw [apply_eq_byteOf_loadU32 (ofWords _) j hj, apply_eq_byteOf_loadU32 r.regs j hj,
      loadU32_decoded_encodedRecord_of_isDecodedFile r hr ho]
  . have hj : ∀ o ∈ decodedOffsets, ¬(o ≤ j.val ∧ j.val < o + 4) :=
      fun o ho hj => h ⟨o, ho, hj⟩
    rw [decoded_apply_eq_zero _ j hj, hr.1 j hj]

theorem tryFrom_encoded_eq_self_iff (L : LapicLayout) (r : LapicState) (m : Bytes 4096) :
    LapicState.tryFrom L ⟨⟨4096, 4096⟩, L.write (encodedRecord r) m⟩ = .ok r ↔
      IsDecodedFile r.regs := by
  rw [tryFrom_eq L _ (by simp [Buffer.size]), L.read_write _ _ (by decide : 176 ≤ 4096)]
  refine ⟨fun h => ?_, fun hr => by rw [decoded_encodedRecord r hr]⟩
  rw [← Except.ok.inj h]
  exact isDecodedFile_decoded _

/-- The exact round trip of the LAPIC codec: the decoder produces only decoded files, an encode
and a decode return a register file unchanged exactly when it is a decoded file, and so a decode,
an encode and a decode again return the first decode's file. -/
theorem lapicState_round_trip (L : LapicLayout) (alloc : Alloc) (m : Bytes 4096)
    (hm : alloc ⟨4096, 4096⟩ = some m) :
    (∀ b r, LapicState.tryFrom L b = .ok r → IsDecodedFile r.regs) ∧
    (∀ r : LapicState, ∃ b, Buffer.tryFromLapicState L alloc r = .ok b ∧
      (LapicState.tryFrom L b = .ok r ↔ IsDecodedFile r.regs)) ∧
    ∀ b, L.size ≤ b.size → ∃ r b', LapicState.tryFrom L b = .ok r ∧
      Buffer.tryFromLapicState L alloc r = .ok b' ∧ LapicState.tryFrom L b' = .ok r := by
  refine ⟨isDecodedFile_of_tryFrom L,
    fun r => ⟨_, tryFromLapicState_eq L alloc r m hm, tryFrom_encoded_eq_self_iff L r m⟩,
    fun b hs => ⟨_, _, tryFrom_eq L b hs, tryFromLapicState_eq L alloc _ m hm, ?_⟩⟩
  exact (tryFrom_encoded_eq_self_iff L _ m).2 (isDecodedFile_of_tryFrom L b _ (tryFrom_eq L b hs))

theorem lapicState_round_trip_counting :
    let alloc : Alloc := fun _ => some fun j => BitVec.ofNat 8 (j.val + 1)
    alloc ⟨4096, 4096⟩ = some (fun j : Fin 4096 => BitVec.ofNat 8 (j.val + 1)) ∧
    (∀ b r, LapicState.tryFrom LapicLayout.inOrder b = .ok r → IsDecodedFile r.regs) ∧
    (∀ r : LapicState, ∃ b, Buffer.tryFromLapicState LapicLayout.inOrder alloc r = .ok b ∧
      (LapicState.tryFrom LapicLayout.inOrder b = .ok r ↔ IsDecodedFile r.regs)) ∧
    ∀ b, LapicLayout.inOrder.size ≤ b.size → ∃ r b',
      LapicState.tryFrom LapicLayout.inOrder b = .ok r ∧
      Buffer.tryFromLapicState LapicLayout.inOrder alloc r = .ok b' ∧
      LapicState.tryFrom LapicLayout.inOrder b' = .ok r :=
  ⟨rfl, lapicState_round_trip LapicLayout.inOrder _ _ rfl⟩

end MshvBindings
