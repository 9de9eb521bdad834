import MshvBindings.Regs.Impl.Lapic

/-!
This module views the LAPIC register file as its registers: one 32-bit word at each 16-byte
aligned offset, zeros in the rest of each slot. Aligned stores and loads act on that view, and
the hypervisor record reads back from the bytes it was written to.
-/

namespace MshvBindings

/-- The register file whose 16-byte slot at offset `off` holds `w off` in its low word and
zeros in the other twelve bytes. -/
def ofWords (w : Nat → BitVec 32) : Bytes 1024 :=
  fun j => if j.val % 16 < 4 then byteOf (w (j.val / 16 * 16)) (j.val % 16) else 0

@[simp] theorem byteOf_zero (k : Nat) : byteOf 0 k = 0 :=
  BitVec.eq_of_getLsbD_eq fun _ => by simp [byteOf]

theorem storeU32_ofWords (w : Nat → BitVec 32) (h16 : off % 16 = 0) :
    storeU32 (ofWords w) off v = ofWords (Function.update w off v) := by
  funext ⟨j, hj⟩
  simp only [storeU32, ofWords, Function.update_apply]
  by_cases hin : off ≤ j ∧ j < off + 4
  . simp [hin, show j % 16 < 4 by omega, show j / 16 * 16 = off by omega,
      show j - off = j % 16 by omega]
  . simp only [hin, ite_false]
    split
    . rw [if_neg (by omega)]
    . rfl

theorem loadU32_ofWords (w : Nat → BitVec 32) (h16 : off % 16 = 0) (h : off < 1024) :
    loadU32 (ofWords w) off = w off :=
  loadU32_of_bytes fun k hk => by
    rw [Bytes.get_of_lt _ (by omega)]
    simp [ofWords, show (off + k) % 16 = k by omega, show (off + k) / 16 * 16 = off by omega, hk]

theorem ofWords_apply_eq_zero (w : Nat → BitVec 32) (j : Fin 1024)
    (h : j.val % 16 < 4 → w (j.val / 16 * 16) = 0) : ofWords w j = 0 := by
  unfold ofWords
  split
  . rw [h ‹_›, byteOf_zero]
  . rfl

theorem zeroed_eq_ofWords : (Bytes.zeroed : Bytes 1024) = ofWords fun _ => 0 := by
  funext j
  rw [ofWords_apply_eq_zero _ _ fun _ => rfl]
  rfl

namespace HvLocalInterruptControllerState

@[simp] theorem get_ofFn (f : LapicField → BitVec 32) (x : LapicField) :
    (ofFn f).get x = f x := by
  cases x <;> rfl

@[simp] theorem ofFn_get (h : HvLocalInterruptControllerState) : ofFn h.get = h := rfl

theorem ext_get {h h' : HvLocalInterruptControllerState} (he : ∀ f, h.get f = h'.get f) :
    h = h' := by
  rw [← ofFn_get h, ← ofFn_get h', funext he]

end HvLocalInterruptControllerState

namespace LapicLayout

theorem read_write (L : LapicLayout) (h : HvLocalInterruptControllerState) (m : Bytes n)
    (hn : 176 ≤ n) : L.read (L.write h m) = h := by
  conv => rhs; rw [← HvLocalInterruptControllerState.ofFn_get h]
  refine congrArg HvLocalInterruptControllerState.ofFn (funext fun f => loadU32_of_bytes ?_)
  intro k hk
  have hs := (L.slot f).isLt
  rw [Bytes.get_of_lt _ (by omega)]
  have h1 : (4 * (L.slot f).val + k) / 4 = L.slot f := by omega
  simp only [write, show 4 * (L.slot f).val + k < 176 by omega, dite_true, h1,
    show (4 * (L.slot f).val + k) % 4 = k by omega, Fin.eta, Equiv.symm_apply_apply]

theorem read_congr (L : LapicLayout) {m : Bytes n} {m' : Bytes n'}
    (h : ∀ j < L.size, m.get j = m'.get j) : L.read m = L.read m' := by
  refine congrArg HvLocalInterruptControllerState.ofFn (funext fun f => loadU32_congr ?_)
  have hs := (L.slot f).isLt
  exact fun k hk => h _ (by simp [size]; omega)

end LapicLayout

end MshvBindings
