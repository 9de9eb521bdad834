import MshvBindings.Regs.Impl.Lapic
import Mathlib.Data.Nat.Find

/-!
This module proves that the processor priority `LapicState::try_from` derives from the ISR is the
highest in-service vector: `leading_zeros` finds a word's most significant set bit, and the
reverse scan with its early break finds the highest nonzero word.
-/

namespace MshvBindings

/-- Whether vector `v` is in service in `isr`: bit `v % 32` of word `v / 32` is set. -/
def inService (isr : Fin 8 → BitVec 32) (v : Nat) : Bool :=
  if h : v < 256 then (isr ⟨v / 32, Nat.div_lt_of_lt_mul h⟩).getLsbD (v % 32) else false

theorem leadingZeros.go_eq (v : BitVec 32) (hp : v.getLsbD p) (hk : p < k)
    (habove : ∀ b, p < b → b < k → v.getLsbD b = false) :
    leadingZeros.go v k = k - 1 - p := by
  induction k with
  | zero => omega
  | succ k ih =>
    by_cases hkp : k = p
    . subst hkp; simp [go, hp]
    . rw [go, if_neg (by simp [habove k (by omega) (by omega)]),
        ih (by omega) fun b h1 h2 => habove b h1 (by omega)]
      omega

theorem exists_highest_bit {v : BitVec 32} (hv : v ≠ 0) :
    ∃ p < 32, v.getLsbD p ∧ ∀ b, p < b → b < 32 → v.getLsbD b = false := by
  classical
  have hex : ∃ b, b ≤ 31 ∧ v.getLsbD b := by
    by_contra hno
    exact hv (BitVec.eq_of_getLsbD_eq fun ⟨i, hi⟩ => by
      simpa using fun h => hno ⟨i, by omega, h⟩)
  obtain ⟨b, hb, hbit⟩ := hex
  let P := fun b => v.getLsbD b = true
  refine ⟨Nat.findGreatest P 31, by have := Nat.findGreatest_le (P := P) 31; omega,
    Nat.findGreatest_spec (P := P) hb hbit, fun c h1 h2 => ?_⟩
  simpa [P] using Nat.findGreatest_is_greatest (P := P) h1 (by omega)

theorem toNat_sub_leadingZeros (hp : v.getLsbD p) (hp32 : p < 32)
    (habove : ∀ b, p < b → b < 32 → v.getLsbD b = false) :
    (leadingZeros v).toNat = 31 - p ∧ (31 - leadingZeros v).toNat = p := by
  have hlz : (leadingZeros v).toNat = 31 - p := by
    rw [leadingZeros, leadingZeros.go_eq v hp (by omega) habove, BitVec.toNat_ofNat]
    omega
  refine ⟨hlz, ?_⟩
  rw [BitVec.toNat_sub, hlz]
  simp
  omega


theorem inService_of_bit (isr : Fin 8 → BitVec 32) (i : Fin 8) (hp : p < 32)
    (hbit : (isr i).getLsbD p) : inService isr (32 * i.val + p) := by
  have h1 : (32 * i.val + p) / 32 = i.val := by omega
  have h2 : (32 * i.val + p) % 32 = p := by omega
  simp [inService, show 32 * i.val + p < 256 by omega, h1, h2, hbit]

theorem bit_of_inService (h : inService isr v) :
    ∃ hv : v < 256, (isr ⟨v / 32, Nat.div_lt_of_lt_mul hv⟩).getLsbD (v % 32) := by
  unfold inService at h
  split at h
  . exact ⟨‹_›, h⟩
  . contradiction

/-- `ppr` is the highest vector in service in `isr`, and `0` when every ISR word is zero. -/
def IsHighestInService (isr : Fin 8 → BitVec 32) (ppr : Nat) : Prop :=
  ((∃ v, inService isr v) → inService isr ppr ∧ ∀ v, inService isr v → v ≤ ppr) ∧
  ((∀ i, isr i = 0) → ppr = 0)

theorem highestIsrv.go_found (isr : Fin 8 → BitVec 32) (hn : n + 1 ≤ 8)
    (hval : isr ⟨n, hn⟩ ≠ 0) (hp : (isr ⟨n, hn⟩).getLsbD p) (hp32 : p < 32)
    (habove : ∀ b, p < b → b < 32 → (isr ⟨n, hn⟩).getLsbD b = false) :
    (go isr (n + 1) hn).toNat = 32 * n + p := by
  have hsub := (toNat_sub_leadingZeros hp hp32 habove).2
  simp only [go, ne_eq, hval, not_false_eq_true, ite_true, BitVec.toNat_add, BitVec.toNat_mul,
    BitVec.toNat_ofNat, hsub, show (4 : BitVec 32).toNat = 4 from rfl,
    show (8 : BitVec 32).toNat = 8 from rfl]
  omega

theorem highestIsrv.go_spec (isr : Fin 8 → BitVec 32) (n : Nat) (hn : n ≤ 8) :
    ((∀ i : Fin 8, i.val < n → isr i = 0) → go isr n hn = 0) ∧
    ((∃ v < 32 * n, inService isr v) →
      inService isr (go isr n hn).toNat ∧
        ∀ v < 32 * n, inService isr v → v ≤ (go isr n hn).toNat) := by
  induction n with
  | zero => exact ⟨fun _ => rfl, fun ⟨v, hv, _⟩ => by omega⟩
  | succ n ih =>
    have ih := ih (by omega)
    by_cases hval : isr ⟨n, hn⟩ = 0
    . have hgo : go isr (n + 1) hn = go isr n (by omega) := by simp [go, hval]
      have hlow : ∀ v < 32 * (n + 1), inService isr v → v < 32 * n := fun v hv hs => by
        obtain ⟨hv256, hbit⟩ := bit_of_inService hs
        by_contra hge
        have : (⟨v / 32, by omega⟩ : Fin 8) = ⟨n, hn⟩ := Fin.ext (by simp; omega)
        simp [this, hval] at hbit
      rw [hgo]
      refine ⟨fun hz => ih.1 fun i hi => hz i (by omega), fun ⟨v, hv, hs⟩ => ?_⟩
      have := ih.2 ⟨v, hlow v hv hs, hs⟩
      exact ⟨this.1, fun w hw hws => this.2 w (hlow w hw hws) hws⟩
    . obtain ⟨p, hp32, hp, habove⟩ := exists_highest_bit hval
      rw [go_found isr hn hval hp hp32 habove]
      refine ⟨fun hz => absurd (hz ⟨n, hn⟩ (by simp)) hval,
        fun _ => ⟨?_, fun v hv hs => ?_⟩⟩
      . exact inService_of_bit isr ⟨n, hn⟩ hp32 hp
      . obtain ⟨hv256, hbit⟩ := bit_of_inService hs
        by_cases hw : v / 32 = n
        . have : (⟨v / 32, by omega⟩ : Fin 8) = ⟨n, hn⟩ := Fin.ext hw
          rw [this] at hbit
          have : v % 32 ≤ p := by
            by_contra hgt
            simp [habove (v % 32) (by omega) (by omega)] at hbit
          omega
        . omega

theorem highestIsrv_spec (isr : Fin 8 → BitVec 32) :
    IsHighestInService isr (highestIsrv isr).toNat := by
  have h := highestIsrv.go_spec isr 8 (Nat.le_refl 8)
  refine ⟨fun ⟨v, hs⟩ => ?_, fun hz => by simp [highestIsrv, h.1 fun i _ => hz i]⟩
  have hv := (bit_of_inService hs).1
  exact ⟨(h.2 ⟨v, by omega, hs⟩).1,
    fun w hws => (h.2 ⟨v, by omega, hs⟩).2 w (bit_of_inService hws).1 hws⟩

theorem exists_inService_of_ne_zero (isr : Fin 8 → BitVec 32) (hval : isr i ≠ 0) :
    ∃ v, inService isr v := by
  obtain ⟨p, hp32, hp, -⟩ := exists_highest_bit hval
  exact ⟨_, inService_of_bit isr i hp32 hp⟩

theorem isHighestInService_unique (ha : IsHighestInService isr a)
    (hb : IsHighestInService isr b) : a = b := by
  by_cases hv : ∃ v, inService isr v
  . exact Nat.le_antisymm ((hb.1 hv).2 a (ha.1 hv).1) ((ha.1 hv).2 b (hb.1 hv).1)
  . have hz : ∀ i, isr i = 0 := fun i => by
      by_contra hval
      exact hv (exists_inService_of_ne_zero isr hval)
    rw [ha.2 hz, hb.2 hz]

theorem isHighestInService_iff (isr : Fin 8 → BitVec 32) (ppr : Nat) :
    IsHighestInService isr ppr ↔ ppr = (highestIsrv isr).toNat :=
  ⟨fun h => isHighestInService_unique h (highestIsrv_spec isr),
    fun h => h ▸ highestIsrv_spec isr⟩

instance : Decidable (IsHighestInService isr ppr) :=
  decidable_of_iff _ (isHighestInService_iff isr ppr).symm

-- The example of the spec: bit 2 of ISR word 7 in service, vector 7 * 32 + 2.
example : IsHighestInService (fun i => if i = 7 then 0x4 else 0) 226 := by decide

-- Only the highest word counts: vector 33 in word 1 is not the highest, 226 is.
example : ¬IsHighestInService (fun i => if i = 7 then 0x4 else if i = 1 then 0x2 else 0) 33 := by
  decide

theorem highestIsrv_no_overflow (isr : Fin 8 → BitVec 32) (i : Fin 8) (hval : isr i ≠ 0) :
    (leadingZeros (isr i)).toNat ≤ 31 ∧
      31 - (leadingZeros (isr i)).toNat + i.val * 4 * 8 < 2 ^ 32 := by
  obtain ⟨p, hp32, hp, habove⟩ := exists_highest_bit hval
  have := (toNat_sub_leadingZeros hp hp32 habove).1
  omega

end MshvBindings
