import MshvBindings.Regs.Impl.VpState
import Mathlib.Tactic.IntervalCases

/-!
This module proves that the VP-state directory is a partition of its buffer into the five
components, that each indexed copy moves exactly one component's bytes, and that a run of copies
changes only the components it copies into.
-/

namespace MshvBindings

/-- Byte `k` of the directory belongs to component `i`. -/
def inComponent (i k : Nat) : Prop :=
  getVpStateCompStartOffset i ≤ k ∧ k < getVpStateCompStartOffset i + vpStateCompSizes.getD i 0

instance : Decidable (inComponent i k) := inferInstanceAs (Decidable (_ ∧ _))

theorem getElem?_vpStateCompSizes (hi : i < mshvVpStateCount) :
    vpStateCompSizes[i]? = some (vpStateCompSizes.getD i 0) := by
  have : ∀ i < mshvVpStateCount, vpStateCompSizes[i]? = some (vpStateCompSizes.getD i 0) := by
    decide
  exact this i hi

theorem getVpStateCompStartOffset_add_le (hi : i < mshvVpStateCount) :
    getVpStateCompStartOffset i + vpStateCompSizes.getD i 0 ≤ vpStateComponentsBufferSize := by
  have : ∀ i < mshvVpStateCount,
      getVpStateCompStartOffset i + vpStateCompSizes.getD i 0 ≤ vpStateComponentsBufferSize := by
    decide
  exact this i hi

theorem copyToOrFromBuffer_eq_ok (d : AllVpStateComponents) (b : Buffer) (toBuffer : Bool)
    (hi : i < mshvVpStateCount) (hb : vpStateCompSizes.getD i 0 ≤ b.size) :
    d.copyToOrFromBuffer i b toBuffer =
      let start := getVpStateCompStartOffset i
      let len := vpStateCompSizes.getD i 0
      if toBuffer then .ok (d, { b with buf := ptrCopy d.buffer start b.buf 0 len })
      else .ok ({ d with buffer := ptrCopy b.buf 0 d.buffer start len }, b) := by
  rw [AllVpStateComponents.copyToOrFromBuffer, getElem?_vpStateCompSizes hi]
  simp only
  rw [if_neg (Nat.not_lt.2 hb), if_neg (Nat.not_lt.2 (getVpStateCompStartOffset_add_le hi))]

theorem copyToOrFromBuffer_eq_error (d : AllVpStateComponents) (b : Buffer) (toBuffer : Bool)
    (hi : i < mshvVpStateCount) (hb : b.size < vpStateCompSizes.getD i 0) :
    d.copyToOrFromBuffer i b toBuffer =
      .error (.panic "Invalid buffer length for state components") := by
  rw [AllVpStateComponents.copyToOrFromBuffer, getElem?_vpStateCompSizes hi]
  simp only
  rw [if_pos hb]

theorem get_copyFromBuffer (d : AllVpStateComponents) (b : Buffer) (hi : i < mshvVpStateCount)
    (k : Nat) :
    (ptrCopy b.buf 0 d.buffer (getVpStateCompStartOffset i) (vpStateCompSizes.getD i 0)).get k =
      if inComponent i k then b.buf.get (k - getVpStateCompStartOffset i) else d.buffer.get k := by
  have := getVpStateCompStartOffset_add_le hi
  rw [get_ptrCopy, Nat.zero_add]
  by_cases h : inComponent i k
  . rw [if_pos ⟨h.1, h.2, by unfold inComponent at h; omega⟩, if_pos h]
  . rw [if_neg fun h' => h ⟨h'.1, h'.2.1⟩, if_neg h]

theorem get_copyToBuffer (d : AllVpStateComponents) (b : Buffer)
    (hb : vpStateCompSizes.getD i 0 ≤ b.size) (k : Nat) :
    (ptrCopy d.buffer (getVpStateCompStartOffset i) b.buf 0 (vpStateCompSizes.getD i 0)).get k =
      if k < vpStateCompSizes.getD i 0 then d.buffer.get (getVpStateCompStartOffset i + k)
      else b.buf.get k := by
  rw [get_ptrCopy, Nat.zero_add, Nat.sub_zero]
  by_cases h : k < vpStateCompSizes.getD i 0
  . rw [if_pos ⟨Nat.zero_le k, h, Nat.lt_of_lt_of_le h hb⟩, if_pos h]
  . rw [if_neg fun h' => h h'.2.1, if_neg h]

theorem copyToOrFromBuffer_frame (d : AllVpStateComponents) (b : Buffer) (toBuffer : Bool)
    (hi : i < mshvVpStateCount) (hb : vpStateCompSizes.getD i 0 ≤ b.size) :
    ∃ d' b', d.copyToOrFromBuffer i b toBuffer = .ok (d', b') ∧ b'.layout = b.layout ∧
      ∀ k, (toBuffer = false → ¬inComponent i k) → d'.buffer.get k = d.buffer.get k := by
  rw [copyToOrFromBuffer_eq_ok d b toBuffer hi hb]
  cases toBuffer with
  | true => exact ⟨_, _, rfl, rfl, fun _ _ => rfl⟩
  | false =>
    refine ⟨_, _, rfl, rfl, fun k hk => ?_⟩
    rw [get_copyFromBuffer d b hi, if_neg (hk rfl)]

/-- A caller's sequence of copies between the directory and one scratch buffer, stopped by the
first panic. -/
def copyRun : List (Nat × Bool) → AllVpStateComponents × Buffer →
    Except Fault (AllVpStateComponents × Buffer)
  | [], s => .ok s
  | (i, toBuffer) :: ops, (d, b) =>
    match d.copyToOrFromBuffer i b toBuffer with
    | .ok s => copyRun ops s
    | .error e => .error e

theorem copyRun_frame (ops : List (Nat × Bool)) (d : AllVpStateComponents) (b : Buffer)
    (hops : ∀ op ∈ ops, op.1 < mshvVpStateCount ∧ vpStateCompSizes.getD op.1 0 ≤ b.size) :
    ∃ d' b', copyRun ops (d, b) = .ok (d', b') ∧ b'.layout = b.layout ∧
      ∀ k, (∀ op ∈ ops, op.2 = false → ¬inComponent op.1 k) →
        d'.buffer.get k = d.buffer.get k := by
  induction ops generalizing d b with
  | nil => exact ⟨d, b, rfl, rfl, fun _ _ => rfl⟩
  | cons op ops ih =>
    obtain ⟨i, toBuffer⟩ := op
    have ⟨hi, hb⟩ := hops _ (List.mem_cons_self _ _)
    obtain ⟨d₁, b₁, hstep, hlayout, hframe⟩ :=
      copyToOrFromBuffer_frame d b toBuffer hi hb
    have hsize : b₁.size = b.size := by simp [Buffer.size, hlayout]
    obtain ⟨d', b', hrun, hlayout', hframe'⟩ :=
      ih d₁ b₁ fun op hop => hsize ▸ hops op (List.mem_cons_of_mem _ hop)
    refine ⟨d', b', by simp [copyRun, hstep, hrun], hlayout'.trans hlayout, fun k hk => ?_⟩
    rw [hframe' k fun op hop => hk op (List.mem_cons_of_mem _ hop),
      hframe k (hk _ (List.mem_cons_self _ _))]

theorem copy_out_and_back (d d' : AllVpStateComponents) (b : Buffer) (hi : i < mshvVpStateCount)
    (hb : vpStateCompSizes.getD i 0 ≤ b.size) :
    ∃ b' d'', d.copyToOrFromBuffer i b true = .ok (d, b') ∧
      d'.copyToOrFromBuffer i b' false = .ok (d'', b') ∧
      ∀ k, d''.buffer.get k = if inComponent i k then d.buffer.get k else d'.buffer.get k := by
  refine ⟨_, _, copyToOrFromBuffer_eq_ok d b true hi hb,
    copyToOrFromBuffer_eq_ok d' _ false hi hb, fun k => ?_⟩
  rw [get_copyFromBuffer d' _ hi]
  split
  . next h =>
    rw [get_copyToBuffer d b hb, if_pos (by unfold inComponent at h; omega)]
    congr 1
    unfold inComponent at h
    omega
  . rfl

theorem inComponent_unique (hk : k < vpStateComponentsBufferSize) :
    ∃! i, i < mshvVpStateCount ∧ inComponent i k := by
  have h : getVpStateCompStartOffset 0 = 0 ∧ getVpStateCompStartOffset 1 = 1024 ∧
      getVpStateCompStartOffset 2 = 5120 ∧ getVpStateCompStartOffset 3 = 9216 ∧
      getVpStateCompStartOffset 4 = 13312 ∧ vpStateCompSizes.getD 0 0 = 1024 ∧
      vpStateCompSizes.getD 1 0 = 4096 ∧ vpStateCompSizes.getD 2 0 = 4096 ∧
      vpStateCompSizes.getD 3 0 = 4096 ∧ vpStateCompSizes.getD 4 0 = 200 ∧
      vpStateComponentsBufferSize = 13512 ∧ mshvVpStateCount = 5 := by decide
  obtain ⟨h0, h1, h2, h3, h4, l0, l1, l2, l3, l4, hsz, hc⟩ := h
  have hunique : ∀ j, j < mshvVpStateCount ∧ inComponent j k →
      j = if k < 1024 then 0 else if k < 5120 then 1 else if k < 9216 then 2
        else if k < 13312 then 3 else 4 := by
    rintro j ⟨hj, hin⟩
    unfold inComponent at hin
    rw [hc] at hj
    interval_cases j <;> simp only [h0, h1, h2, h3, h4, l0, l1, l2, l3, l4] at hin <;>
      split_ifs <;> omega
  refine ⟨_, ⟨by split_ifs <;> omega, ?_⟩, hunique⟩
  unfold inComponent
  split_ifs <;> simp only [h0, h1, h2, h3, h4, l0, l1, l2, l3, l4] <;> omega

theorem copyToOrFromBuffer_partition :
    (∀ i < mshvVpStateCount, getVpStateCompStartOffset i = (vpStateCompSizes.take i).sum ∧
      getVpStateCompStartOffset i + vpStateCompSizes.getD i 0 ≤ vpStateComponentsBufferSize) ∧
    (∀ k < vpStateComponentsBufferSize, ∃! i, i < mshvVpStateCount ∧ inComponent i k) ∧
    (∀ (d : AllVpStateComponents) (i : Nat) (b : Buffer), i < mshvVpStateCount →
      vpStateCompSizes.getD i 0 ≤ b.size →
      (∃ d', d.copyToOrFromBuffer i b false = .ok (d', b) ∧
        ∀ k, d'.buffer.get k = if inComponent i k
          then b.buf.get (k - getVpStateCompStartOffset i) else d.buffer.get k) ∧
      (∃ b', d.copyToOrFromBuffer i b true = .ok (d, b') ∧ b'.layout = b.layout ∧
        ∀ k, b'.buf.get k = if k < vpStateCompSizes.getD i 0
          then d.buffer.get (getVpStateCompStartOffset i + k) else b.buf.get k)) ∧
    (∀ (d : AllVpStateComponents) (i : Nat) (b : Buffer) (toBuffer : Bool),
      i < mshvVpStateCount → b.size < vpStateCompSizes.getD i 0 →
      d.copyToOrFromBuffer i b toBuffer =
        .error (.panic "Invalid buffer length for state components")) ∧
    (∀ (d d' : AllVpStateComponents) (i : Nat) (b : Buffer), i < mshvVpStateCount →
      vpStateCompSizes.getD i 0 ≤ b.size →
      ∃ b' d'', d.copyToOrFromBuffer i b true = .ok (d, b') ∧
        d'.copyToOrFromBuffer i b' false = .ok (d'', b') ∧
        ∀ k, d''.buffer.get k = if inComponent i k then d.buffer.get k else d'.buffer.get k) ∧
    (∀ (ops : List (Nat × Bool)) (d : AllVpStateComponents) (b : Buffer),
      (∀ op ∈ ops, op.1 < mshvVpStateCount ∧ vpStateCompSizes.getD op.1 0 ≤ b.size) →
      ∃ d' b', copyRun ops (d, b) = .ok (d', b') ∧ b'.layout = b.layout ∧
        ∀ k, (∀ op ∈ ops, op.2 = false → ¬inComponent op.1 k) →
          d'.buffer.get k = d.buffer.get k) :=
  ⟨fun _ hi => ⟨rfl, getVpStateCompStartOffset_add_le hi⟩,
    fun _ hk => inComponent_unique hk,
    fun d _ b hi hb =>
      ⟨⟨_, copyToOrFromBuffer_eq_ok d b false hi hb, get_copyFromBuffer d b hi⟩,
        ⟨_, copyToOrFromBuffer_eq_ok d b true hi hb, rfl, get_copyToBuffer d b hb⟩⟩,
    fun d _ b t hi hb => copyToOrFromBuffer_eq_error d b t hi hb,
    fun d d' _ b hi hb => copy_out_and_back d d' b hi hb,
    copyRun_frame⟩

end MshvBindings
