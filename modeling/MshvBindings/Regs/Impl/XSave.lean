import MshvBindings.Memory

/-!
This module contains the XSAVE codec of `regs.rs`: the 4096-byte `XSave` area and its two
`TryFrom` conversions with a page-granular `Buffer`.
-/

namespace MshvBindings

/-- `XSave`: the XSAVE area, bytes this layer does not interpret. -/
structure XSave where
  buffer : Bytes 4096

/-- `XSave::default`, all zero. -/
instance : Inhabited XSave := ⟨⟨Bytes.zeroed⟩⟩

/-- `impl TryFrom<Buffer> for XSave`: copy the whole buffer into a zeroed area, which it must
fit. -/
def XSave.tryFrom (buf : Buffer) : Except Fault XSave :=
  let ret : XSave := default
  let retSize := 4096
  if retSize < buf.size then
    .error (.errno einval)
  else
    .ok { ret with buffer := ptrCopy buf.buf 0 ret.buffer 0 buf.size }

/-- `impl TryFrom<&XSave> for Buffer`: the area copied to the start of whole hypervisor pages. -/
def Buffer.tryFromXSave (alloc : Alloc) (reg : XSave) : Except Fault Buffer := do
  let regSize := 4096
  let numPages := (regSize + hvPageSize - 1) >>> hvHypPageShift
  let buffer ← Buffer.new alloc (numPages * hvPageSize) hvPageSize
  pure { buffer with buf := ptrCopy reg.buffer 0 buffer.buf 0 regSize }

end MshvBindings
