import MshvBindings.Regs.Lemmas.VpState

/-!
This module states what the VP-state directory is for: five independent byte arrays, one per
hypervisor state component, each copied whole to or from a caller's buffer. The flat buffer of
`AllVpStateComponents` refines that model: its view as five arrays loses nothing, and each copy,
and each run of copies, is the model's copy seen through that view.
-/

namespace MshvBindings

/-- The five components as separate arrays, each of its own size. -/
def VpStateComponents : Type :=
  (i : Fin mshvVpStateCount) → Bytes (vpStateCompSizes.getD i 0)

namespace VpStateComponents

/-- What one indexed copy is for: a valid index names a component, a buffer shorter than the
component is refused, a copy out puts the component at the start of the buffer, and a copy in
replaces the component by the buffer's first bytes. -/
def copy (c : VpStateComponents) (index : Nat) (buffer : Buffer) (toBuffer : Bool) :
    Except Fault (VpStateComponents × Buffer) :=
  if h : index < mshvVpStateCount then
    if buffer.size < vpStateCompSizes.getD index 0 then
      .error (.panic "Invalid buffer length for state components")
    else if toBuffer then
      .ok (c, { buffer with
        buf := fun k => if hk : k.val < vpStateCompSizes.getD index 0
          then c ⟨index, h⟩ ⟨k.val, hk⟩ else buffer.buf k })
    else .ok (Function.update c ⟨index, h⟩ fun j => buffer.buf.get j, buffer)
  else .error (.panic "index out of bounds")

/-- A run of model copies, stopped by the first failure. -/
def run : List (Nat × Bool) → VpStateComponents × Buffer →
    Except Fault (VpStateComponents × Buffer)
  | [], s => .ok s
  | (i, toBuffer) :: ops, (c, b) =>
    match c.copy i b toBuffer with
    | .ok s => run ops s
    | .error e => .error e

theorem copy_copyIn (c : VpStateComponents) (b : Buffer) (hi : i < mshvVpStateCount)
    (hb : vpStateCompSizes.getD i 0 ≤ b.size) :
    c.copy i b false = .ok (Function.update c ⟨i, hi⟩ fun j => b.buf.get j, b) := by
  rw [copy, dif_pos hi, if_neg (Nat.not_lt.2 hb), if_neg Bool.false_ne_true]

theorem run_copyIn (ops : List Nat) (c : VpStateComponents) (b : Buffer)
    (hops : ∀ i ∈ ops, i < mshvVpStateCount ∧ vpStateCompSizes.getD i 0 ≤ b.size) :
    run (ops.map fun i => (i, false)) (c, b) =
      .ok (fun i => if i.val ∈ ops then fun j => b.buf.get j else c i, b) := by
  induction ops generalizing c with
  | nil => simp [run]
  | cons i ops ih =>
    have ⟨hi, hb⟩ := hops i (List.mem_cons_self _ _)
    rw [List.map_cons, run, copy_copyIn c b hi hb]
    dsimp only
    rw [ih _ fun i' h' => hops i' (List.mem_cons_of_mem _ h')]
    refine congrArg (fun c => Except.ok (c, b)) (funext fun i' => ?_)
    by_cases h : i' = ⟨i, hi⟩
    . subst h; simp
    . have : i'.val ≠ i := fun h' => h (Fin.ext h')
      simp [Function.update_noteq h, this]

end VpStateComponents

/-- The directory seen as its five components: component `i` is the slice at its start offset. -/
def AllVpStateComponents.components (d : AllVpStateComponents) : VpStateComponents :=
  fun i j => d.buffer.get (getVpStateCompStartOffset i + j)

theorem inComponent_start_add (j : Fin (vpStateCompSizes.getD i 0)) :
    inComponent i (getVpStateCompStartOffset i + j) := by
  unfold inComponent
  omega

theorem eq_of_inComponent (hi : i < mshvVpStateCount) (hi' : i' < mshvVpStateCount)
    (h : inComponent i k) (h' : inComponent i' k) : i = i' := by
  have hk : k < vpStateComponentsBufferSize :=
    Nat.lt_of_lt_of_le h.2 (getVpStateCompStartOffset_add_le hi)
  obtain ⟨_, _, huniq⟩ := inComponent_unique hk
  exact (huniq i ⟨hi, h⟩).trans (huniq i' ⟨hi', h'⟩).symm

theorem components_injective : Function.Injective AllVpStateComponents.components := by
  rintro ⟨m⟩ ⟨m'⟩ h
  congr 1
  funext k
  obtain ⟨i, ⟨hi, hk⟩, -⟩ := inComponent_unique k.isLt
  have hj : k.val - getVpStateCompStartOffset i < vpStateCompSizes.getD i 0 := by
    unfold inComponent at hk
    omega
  simpa only [AllVpStateComponents.components, Nat.add_sub_cancel' hk.1, Bytes.get_fin] using
    congrFun (congrFun h ⟨i, hi⟩) ⟨_, hj⟩

theorem getElem?_vpStateCompSizes_eq_none (hi : mshvVpStateCount ≤ i) :
    vpStateCompSizes[i]? = none :=
  List.getElem?_eq_none hi

theorem copyToOrFromBuffer_eq_index_error (d : AllVpStateComponents) (b : Buffer)
    (toBuffer : Bool) (hi : mshvVpStateCount ≤ i) :
    d.copyToOrFromBuffer i b toBuffer = .error (.panic "index out of bounds") := by
  rw [AllVpStateComponents.copyToOrFromBuffer, getElem?_vpStateCompSizes_eq_none hi]

theorem components_copyToBuffer (d : AllVpStateComponents) (b : Buffer)
    (hi : i < mshvVpStateCount) (hb : vpStateCompSizes.getD i 0 ≤ b.size) :
    ({ b with buf := (ptrCopy d.buffer (getVpStateCompStartOffset i) b.buf 0
        (vpStateCompSizes.getD i 0)) } : Buffer) =
      { b with buf := fun k => if hk : k.val < vpStateCompSizes.getD i 0
          then d.components ⟨i, hi⟩ ⟨k.val, hk⟩ else b.buf k } := by
  refine congrArg (fun buf => ({ b with buf := buf } : Buffer)) (funext fun k => ?_)
  have h := get_copyToBuffer d b hb k
  rw [Bytes.get_fin] at h
  rw [h]
  split <;> simp_all [AllVpStateComponents.components]

theorem components_copyFromBuffer (d : AllVpStateComponents) (b : Buffer)
    (hi : i < mshvVpStateCount) :
    AllVpStateComponents.components
        { d with buffer := (ptrCopy b.buf 0 d.buffer (getVpStateCompStartOffset i)
          (vpStateCompSizes.getD i 0)) } =
      Function.update d.components ⟨i, hi⟩ fun j => b.buf.get j := by
  funext i' j
  simp only [AllVpStateComponents.components]
  rw [get_copyFromBuffer d b hi]
  by_cases h : i' = ⟨i, hi⟩
  . subst h
    rw [Function.update_same, if_pos (inComponent_start_add j), Nat.add_sub_cancel_left]
  . rw [Function.update_noteq h, if_neg fun hin =>
      h (Fin.ext (eq_of_inComponent i'.isLt hi (inComponent_start_add j) hin))]
    rfl

theorem copyToOrFromBuffer_simulates (d : AllVpStateComponents) (index : Nat) (b : Buffer)
    (toBuffer : Bool) :
    (d.copyToOrFromBuffer index b toBuffer).map (Prod.map AllVpStateComponents.components id) =
      d.components.copy index b toBuffer := by
  unfold VpStateComponents.copy
  split
  . next hi =>
    split
    . next hb => rw [copyToOrFromBuffer_eq_error d b toBuffer hi hb]; rfl
    . next hb =>
      rw [copyToOrFromBuffer_eq_ok d b toBuffer hi (Nat.not_lt.1 hb)]
      cases toBuffer with
      | true =>
        exact congrArg (fun b' => Except.ok (d.components, b'))
          (components_copyToBuffer d b hi (Nat.not_lt.1 hb))
      | false => exact congrArg (fun c => Except.ok (c, b)) (components_copyFromBuffer d b hi)
  . next hi => rw [copyToOrFromBuffer_eq_index_error d b toBuffer (Nat.not_lt.1 hi)]; rfl

theorem copyRun_simulates (ops : List (Nat × Bool)) (d : AllVpStateComponents) (b : Buffer) :
    (copyRun ops (d, b)).map (Prod.map AllVpStateComponents.components id) =
      VpStateComponents.run ops (d.components, b) := by
  induction ops generalizing d b with
  | nil => rfl
  | cons op ops ih =>
    have hstep := copyToOrFromBuffer_simulates d op.1 b op.2
    simp only [copyRun, VpStateComponents.run]
    cases hs : d.copyToOrFromBuffer op.1 b op.2 with
    | error e => rw [hs] at hstep; rw [← hstep]; rfl
    | ok s => rw [hs] at hstep; rw [← hstep]; exact ih s.1 s.2

/-- Every run of copies of the code is the model's run of the same copies, and the model's
state determines the directory's. -/
theorem copyRun_refines :
    Function.Injective AllVpStateComponents.components ∧
    ∀ (ops : List (Nat × Bool)) (d : AllVpStateComponents) (b : Buffer),
      (copyRun ops (d, b)).map (Prod.map AllVpStateComponents.components id) =
        VpStateComponents.run ops (d.components, b) :=
  ⟨components_injective, copyRun_simulates⟩

/-- Copies into the directory from one buffer set each component they name to the buffer's first
bytes and keep the others: the order of the copies and how often each is named do not matter. -/
theorem copyRun_copyIn (ops : List Nat) (d : AllVpStateComponents) (b : Buffer)
    (hops : ∀ i ∈ ops, i < mshvVpStateCount ∧ vpStateCompSizes.getD i 0 ≤ b.size) :
    ∃ d', copyRun (ops.map fun i => (i, false)) (d, b) = .ok (d', b) ∧
      d'.components =
        (fun i => if i.val ∈ ops then fun j => b.buf.get j else d.components i :
          VpStateComponents) := by
  have hsim := copyRun_simulates (ops.map fun i => (i, false)) d b
  rw [VpStateComponents.run_copyIn ops _ b hops] at hsim
  cases hr : copyRun (ops.map fun i => (i, false)) (d, b) with
  | error e => rw [hr] at hsim; cases hsim
  | ok s =>
    rw [hr] at hsim
    obtain ⟨hc, hb⟩ := Prod.mk.inj (Except.ok.inj hsim)
    exact ⟨s.1, by rw [← hb]; rfl, hc⟩

theorem copyRun_copyIn_lapic_twice :
    let d : AllVpStateComponents := ⟨fun j => BitVec.ofNat 8 j.val⟩
    let b : Buffer := ⟨⟨4096, 4096⟩, fun j => BitVec.ofNat 8 (j.val + 1)⟩
    (∀ i ∈ [mshvVpStateLapic, mshvVpStateXsave, mshvVpStateLapic],
      i < mshvVpStateCount ∧ vpStateCompSizes.getD i 0 ≤ b.size) ∧
    ∃ d', copyRun ([mshvVpStateLapic, mshvVpStateXsave, mshvVpStateLapic].map
        fun i => (i, false)) (d, b) = .ok (d', b) ∧
      d'.components =
        (fun i => if i.val ∈ [mshvVpStateLapic, mshvVpStateXsave, mshvVpStateLapic]
          then fun j => b.buf.get j else d.components i :
          VpStateComponents) :=
  have h : ∀ i ∈ [mshvVpStateLapic, mshvVpStateXsave, mshvVpStateLapic],
      i < mshvVpStateCount ∧ vpStateCompSizes.getD i 0 ≤ 4096 := by decide
  ⟨h, copyRun_copyIn _ _ _ h⟩

end MshvBindings
