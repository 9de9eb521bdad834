import Mathlib.Data.Fintype.Pi
import Mathlib.Data.BitVec

/-!
This module contains the memory the marshalling code of `regs.rs` works on: fixed byte arrays,
the native-endian `u32` accesses it makes through casted pointers, `ptr::copy`, and the
aligned `Buffer` that carries state to and from the hypervisor.
-/

namespace MshvBindings

/-- A Rust `[u8; n]` (or `[c_char; n]`, read as raw bytes). -/
abbrev Bytes (n : Nat) := Fin n → BitVec 8

namespace Bytes

/-- The byte at a pointer offset, zero past the end (the code never reads there). -/
def get (m : Bytes n) (j : Nat) : BitVec 8 :=
  if h : j < n then m ⟨j, h⟩ else 0

/-- The all-zero array of `std::mem::zeroed()`. -/
def zeroed : Bytes n := fun _ => 0

theorem get_of_lt (m : Bytes n) (h : j < n) : m.get j = m ⟨j, h⟩ := by
  simp [get, h]

@[simp] theorem get_fin (m : Bytes n) (j : Fin n) : m.get j = m j := by
  simp [get]

end Bytes

/-- The byte `k` of a word in memory order on little-endian x86_64. -/
def byteOf (v : BitVec 32) (k : Nat) : BitVec 8 := v.extractLsb' (8 * k) 8

/-- `*(p.offset(off) as *mut u32) = v`: store the four bytes of `v` from offset `off` on. -/
def storeU32 (m : Bytes n) (off : Nat) (v : BitVec 32) : Bytes n :=
  fun j => if off ≤ j.val ∧ j.val < off + 4 then byteOf v (j.val - off) else m j

/-- `*(p.offset(off) as *mut u32)` read as a value: the little-endian word at `off`. -/
def loadU32 (m : Bytes n) (off : Nat) : BitVec 32 :=
  m.get (off + 3) ++ m.get (off + 2) ++ m.get (off + 1) ++ m.get off

/-- `ptr::copy(src.add(srcOff), dst.add(dstOff), count)` between two distinct objects. -/
def ptrCopy (src : Bytes a) (srcOff : Nat) (dst : Bytes b) (dstOff count : Nat) : Bytes b :=
  fun j => if dstOff ≤ j.val ∧ j.val < dstOff + count then src.get (srcOff + (j.val - dstOff))
    else dst j

theorem byteOf_join (v : BitVec 32) :
    byteOf v 3 ++ byteOf v 2 ++ byteOf v 1 ++ byteOf v 0 = v := by
  ext i
  simp only [byteOf, BitVec.getLsbD_append, BitVec.getLsbD_extractLsb']
  obtain ⟨i, hi⟩ := i
  simp only
  by_cases h8 : i < 8
  . simp [h8]
  by_cases h16 : i < 16
  . simp [h8, show i - 8 < 8 by omega, show 8 + (i - 8) = i by omega]
  by_cases h24 : i < 24
  . simp [h8, show ¬i - 8 < 8 by omega, show i - 8 - 8 < 8 by omega,
      show 16 + (i - 8 - 8) = i by omega]
  . simp [h8, show ¬i - 8 < 8 by omega, show ¬i - 8 - 8 < 8 by omega,
      show i - 8 - 8 - 8 < 8 by omega, show 24 + (i - 8 - 8 - 8) = i by omega]

theorem loadU32_of_bytes {m : Bytes n} (h : ∀ k < 4, m.get (off + k) = byteOf v k) :
    loadU32 m off = v := by
  have h0 : m.get off = byteOf v 0 := h 0 (by omega)
  rw [loadU32, h 3 (by omega), h 2 (by omega), h 1 (by omega), h0, byteOf_join]

theorem loadU32_congr {m : Bytes n} {m' : Bytes n'}
    (h : ∀ k < 4, m.get (off + k) = m'.get (off + k)) : loadU32 m off = loadU32 m' off := by
  have h0 : m.get off = m'.get off := h 0 (by omega)
  rw [loadU32, loadU32, h 3 (by omega), h 2 (by omega), h 1 (by omega), h0]

theorem byteOf_loadU32 (m : Bytes n) (hk : k < 4) :
    byteOf (loadU32 m off) k = m.get (off + k) := by
  apply BitVec.eq_of_getLsbD_eq
  intro ⟨i, hi⟩
  simp only [byteOf, loadU32, BitVec.getLsbD_extractLsb', BitVec.getLsbD_append]
  obtain rfl | rfl | rfl | rfl : k = 0 ∨ k = 1 ∨ k = 2 ∨ k = 3 := by omega
  . simp [hi]
  . simp [hi, show ¬8 + i < 8 by omega]
  . simp [hi, show ¬16 + i < 8 by omega, show ¬16 + i - 8 < 8 by omega,
      show 16 + i - 8 - 8 = i by omega]
  . simp [hi, show ¬24 + i < 8 by omega, show ¬24 + i - 8 < 8 by omega,
      show ¬24 + i - 8 - 8 < 8 by omega, show 24 + i - 8 - 8 - 8 = i by omega]

theorem apply_eq_byteOf_loadU32 (m : Bytes n) (j : Fin n) (h : off ≤ j.val ∧ j.val < off + 4) :
    m j = byteOf (loadU32 m off) (j.val - off) := by
  rw [byteOf_loadU32 m (by omega), Nat.add_sub_cancel' h.1, Bytes.get_fin]

theorem ptrCopy_apply (src : Bytes a) (dst : Bytes b) (j : Fin b) :
    ptrCopy src srcOff dst dstOff count j =
      if dstOff ≤ j.val ∧ j.val < dstOff + count then src.get (srcOff + (j.val - dstOff))
      else dst j := rfl

theorem get_ptrCopy (src : Bytes a) (dst : Bytes b) (k : Nat) :
    (ptrCopy src srcOff dst dstOff count).get k =
      if dstOff ≤ k ∧ k < dstOff + count ∧ k < b then src.get (srcOff + (k - dstOff))
      else dst.get k := by
  by_cases hk : k < b
  . simp only [Bytes.get_of_lt _ hk, ptrCopy_apply, hk, and_true]
  . simp [Bytes.get, hk]

/-- An error the code returns, or a panic. -/
inductive Fault where
  /-- `Err(errno::Error::new(code))`. -/
  | errno (code : Nat)
  /-- A `panic!`, an `unwrap` of an error or an out-of-bounds index. -/
  | panic (msg : String)
  deriving DecidableEq, Repr

/-- `libc::EINVAL` on Linux. -/
def einval : Nat := 22

/-- `libc::ENOMEM` on Linux. -/
def enomem : Nat := 12

/--
Modelled from the spec: `HV_PAGE_SIZE` is defined outside this file; the spec's component
sizes (a synthetic message page of one hypervisor page, 4096 bytes of the 13512) fix it.
-/
def hvPageSize : Nat := 4096

/--
Modelled from the spec: `HV_HYP_PAGE_SHIFT`, the base-two logarithm of the hypervisor page
size, comes from the generated bindings.
-/
def hvHypPageShift : Nat := 12

/-- `std::alloc::Layout`, a size and an alignment. -/
structure Layout where
  size : Nat
  align : Nat
  deriving DecidableEq, Repr

/-- `isize::MAX` on x86_64. -/
def isizeMax : Nat := 2 ^ 63 - 1

/-- `Layout::from_size_align`: the alignment is a power of two and the size rounded up to it
does not exceed `isize::MAX`. -/
def Layout.fromSizeAlign (size align : Nat) : Option Layout :=
  if 0 < align ∧ align &&& (align - 1) = 0 ∧ size ≤ isizeMax - (align - 1) then
    some ⟨size, align⟩
  else
    none

/-- What `std::alloc::alloc` hands back for a layout: memory of that size whose contents are
unspecified, or `none` for a null pointer. -/
abbrev Alloc := (layout : Layout) → Option (Bytes layout.size)

/-- `Buffer`: an allocation together with the layout it was made with. -/
structure Buffer where
  layout : Layout
  buf : Bytes layout.size

namespace Buffer

def size (b : Buffer) : Nat := b.layout.size

/-- `Buffer::new`. -/
def new (alloc : Alloc) (size align : Nat) : Except Fault Buffer :=
  match Layout.fromSizeAlign size align with
  | none => .error (.panic "called Result::unwrap() on an Err value: LayoutError")
  | some layout =>
    match alloc layout with
    | none => .error (.errno enomem)
    | some buf => .ok ⟨layout, buf⟩

/-- `Buffer::zero_out_buf`. -/
def zeroOutBuf (b : Buffer) : Buffer := { b with buf := Bytes.zeroed }

theorem new_of_alloc {alloc : Alloc} {sz al : Nat} {l : Layout} {m : Bytes l.size}
    (hl : Layout.fromSizeAlign sz al = some l) (hm : alloc l = some m) :
    Buffer.new alloc sz al = .ok ⟨l, m⟩ := by
  simp [Buffer.new, hl, hm]

end Buffer

theorem fromSizeAlign_page :
    Layout.fromSizeAlign hvPageSize hvPageSize = some ⟨4096, 4096⟩ := by
  decide

end MshvBindings
