import Mathlib.Data.BitVec

/-!
This module contains the MSR tables of `regs.rs`: the resolver `msr_to_hv_reg_name` from an MSR
number to the hypervisor's register name, and `get_partition_supported_msrs`, which lists the
MSRs a virtual processor with given features synchronizes.
-/

namespace MshvBindings

def ia32MsrTsc : BitVec 32 := 0x00000010
def ia32MsrEfer : BitVec 32 := 0xC0000080
def ia32MsrKernelGsBase : BitVec 32 := 0xC0000102
def ia32MsrApicBase : BitVec 32 := 0x0000001B
def ia32MsrPat : BitVec 32 := 0x0277
def ia32MsrSysenterCs : BitVec 32 := 0x00000174
def ia32MsrSysenterEsp : BitVec 32 := 0x00000175
def ia32MsrSysenterEip : BitVec 32 := 0x00000176
def ia32MsrStar : BitVec 32 := 0xC0000081
def ia32MsrLstar : BitVec 32 := 0xC0000082
def ia32MsrCstar : BitVec 32 := 0xC0000083
def ia32MsrSfmask : BitVec 32 := 0xC0000084

def ia32MsrMtrrCap : BitVec 32 := 0x00FE
def ia32MsrMtrrDefType : BitVec 32 := 0x02FF
def ia32MsrMtrrPhysbase0 : BitVec 32 := 0x0200
def ia32MsrMtrrPhysmask0 : BitVec 32 := 0x0201
def ia32MsrMtrrPhysbase1 : BitVec 32 := 0x0202
def ia32MsrMtrrPhysmask1 : BitVec 32 := 0x0203
def ia32MsrMtrrPhysbase2 : BitVec 32 := 0x0204
def ia32MsrMtrrPhysmask2 : BitVec 32 := 0x0205
def ia32MsrMtrrPhysbase3 : BitVec 32 := 0x0206
def ia32MsrMtrrPhysmask3 : BitVec 32 := 0x0207
def ia32MsrMtrrPhysbase4 : BitVec 32 := 0x0208
def ia32MsrMtrrPhysmask4 : BitVec 32 := 0x0209
def ia32MsrMtrrPhysbase5 : BitVec 32 := 0x020A
def ia32MsrMtrrPhysmask5 : BitVec 32 := 0x020B
def ia32MsrMtrrPhysbase6 : BitVec 32 := 0x020C
def ia32MsrMtrrPhysmask6 : BitVec 32 := 0x020D
def ia32MsrMtrrPhysbase7 : BitVec 32 := 0x020E
def ia32MsrMtrrPhysmask7 : BitVec 32 := 0x020F

def ia32MsrMtrrFix64k00000 : BitVec 32 := 0x0250
def ia32MsrMtrrFix16k80000 : BitVec 32 := 0x0258
def ia32MsrMtrrFix16kA0000 : BitVec 32 := 0x0259
def ia32MsrMtrrFix4kC0000 : BitVec 32 := 0x0268
def ia32MsrMtrrFix4kC8000 : BitVec 32 := 0x0269
def ia32MsrMtrrFix4kD0000 : BitVec 32 := 0x026A
def ia32MsrMtrrFix4kD8000 : BitVec 32 := 0x026B
def ia32MsrMtrrFix4kE0000 : BitVec 32 := 0x026C
def ia32MsrMtrrFix4kE8000 : BitVec 32 := 0x026D
def ia32MsrMtrrFix4kF0000 : BitVec 32 := 0x026E
def ia32MsrMtrrFix4kF8000 : BitVec 32 := 0x026F

def ia32MsrTscAux : BitVec 32 := 0xC0000103
def ia32MsrBndcfgs : BitVec 32 := 0x00000d90
def ia32MsrDebugCtl : BitVec 32 := 0x1D9
def ia32MsrSpecCtrl : BitVec 32 := 0x00000048
def ia32MsrTscAdjust : BitVec 32 := 0x0000003b

def ia32MsrMiscEnable : BitVec 32 := 0x000001a0
def msrIa32Ssp : BitVec 32 := 0x000007a0
/-- user mode cet -/
def msrIa32UCet : BitVec 32 := 0x000006a0
/-- kernel mode cet -/
def msrIa32SCet : BitVec 32 := 0x000006a2
/-- ring-0 shadow stack pointer -/
def msrIa32Pl0Ssp : BitVec 32 := 0x000006a4
/-- ring-1 shadow stack pointer -/
def msrIa32Pl1Ssp : BitVec 32 := 0x000006a5
/-- ring-2 shadow stack pointer -/
def msrIa32Pl2Ssp : BitVec 32 := 0x000006a6
/-- ring-3 shadow stack pointer -/
def msrIa32Pl3Ssp : BitVec 32 := 0x000006a7
def msrIa32InterruptSspTableAddr : BitVec 32 := 0x000006A8
def msrIa32RegisterUXss : BitVec 32 := 0x8008B

/--
The synthetic MSR numbers `HV_X64_MSR_*` that `regs.rs` uses and the generated bindings declare.
-/
structure HvMsrNumbers where
  hvX64MsrGuestOsId : BitVec 32
  hvX64MsrSint : Fin 16 → BitVec 32
  hvX64MsrScontrol : BitVec 32
  hvX64MsrSiefp : BitVec 32
  hvX64MsrSimp : BitVec 32
  hvX64MsrReferenceTsc : BitVec 32
  hvX64MsrEom : BitVec 32

/-- The synthetic MSR numbers, in the order of the arms of `msr_to_hv_reg_name`. -/
def HvMsrNumbers.toList (n : HvMsrNumbers) : List (BitVec 32) :=
  [n.hvX64MsrGuestOsId, n.hvX64MsrSint 0, n.hvX64MsrSint 1, n.hvX64MsrSint 2,
    n.hvX64MsrSint 3, n.hvX64MsrSint 4, n.hvX64MsrSint 5, n.hvX64MsrSint 6, n.hvX64MsrSint 7,
    n.hvX64MsrSint 8, n.hvX64MsrSint 9, n.hvX64MsrSint 10, n.hvX64MsrSint 11,
    n.hvX64MsrSint 12, n.hvX64MsrSint 13, n.hvX64MsrSint 14, n.hvX64MsrSint 15,
    n.hvX64MsrScontrol, n.hvX64MsrSiefp, n.hvX64MsrSimp, n.hvX64MsrReferenceTsc,
    n.hvX64MsrEom]

/-- An MSR number of the range `0x40000000 ..< 0x80000000`, which holds the hypervisor's
synthetic MSRs and none of the architectural MSRs `regs.rs` names. -/
def InHypervisorRange (m : BitVec 32) : Prop :=
  0x40000000 ≤ m.toNat ∧ m.toNat < 0x80000000

instance : DecidablePred InHypervisorRange := fun _ => inferInstanceAs (Decidable (_ ∧ _))

/--
The generated bindings' synthetic MSR numbers, which `regs.rs` does not declare: any numbers of
the hypervisor range, all different.
-/
structure HvMsrIndices extends HvMsrNumbers where
  inHypervisorRange : ∀ m ∈ toHvMsrNumbers.toList, InHypervisorRange m
  nodup : toHvMsrNumbers.toList.Nodup

/-- The register names `hv_register_name_*` that `msr_to_hv_reg_name` returns: distinct
constants of the generated bindings. -/
inductive HvRegisterName where
  | hvX64RegisterTsc | hvX64RegisterEfer | hvX64RegisterKernelGsBase | hvX64RegisterApicBase
  | hvX64RegisterPat | hvX64RegisterSysenterCs | hvX64RegisterSysenterEsp
  | hvX64RegisterSysenterEip | hvX64RegisterStar | hvX64RegisterLstar | hvX64RegisterCstar
  | hvX64RegisterSfmask
  | hvX64RegisterMsrMtrrCap | hvX64RegisterMsrMtrrDefType
  | hvX64RegisterMsrMtrrPhysBase0 | hvX64RegisterMsrMtrrPhysMask0
  | hvX64RegisterMsrMtrrPhysBase1 | hvX64RegisterMsrMtrrPhysMask1
  | hvX64RegisterMsrMtrrPhysBase2 | hvX64RegisterMsrMtrrPhysMask2
  | hvX64RegisterMsrMtrrPhysBase3 | hvX64RegisterMsrMtrrPhysMask3
  | hvX64RegisterMsrMtrrPhysBase4 | hvX64RegisterMsrMtrrPhysMask4
  | hvX64RegisterMsrMtrrPhysBase5 | hvX64RegisterMsrMtrrPhysMask5
  | hvX64RegisterMsrMtrrPhysBase6 | hvX64RegisterMsrMtrrPhysMask6
  | hvX64RegisterMsrMtrrPhysBase7 | hvX64RegisterMsrMtrrPhysMask7
  | hvX64RegisterMsrMtrrFix64k00000 | hvX64RegisterMsrMtrrFix16k80000
  | hvX64RegisterMsrMtrrFix16kA0000 | hvX64RegisterMsrMtrrFix4kC0000
  | hvX64RegisterMsrMtrrFix4kC8000 | hvX64RegisterMsrMtrrFix4kD0000
  | hvX64RegisterMsrMtrrFix4kD8000 | hvX64RegisterMsrMtrrFix4kE0000
  | hvX64RegisterMsrMtrrFix4kE8000 | hvX64RegisterMsrMtrrFix4kF0000
  | hvX64RegisterMsrMtrrFix4kF8000
  | hvX64RegisterTscAux | hvX64RegisterBndcfgs | hvX64RegisterDebugCtl | hvX64RegisterTscAdjust
  | hvX64RegisterSpecCtrl | hvRegisterGuestOsId
  | hvRegisterSint0 | hvRegisterSint1 | hvRegisterSint2 | hvRegisterSint3 | hvRegisterSint4
  | hvRegisterSint5 | hvRegisterSint6 | hvRegisterSint7 | hvRegisterSint8 | hvRegisterSint9
  | hvRegisterSint10 | hvRegisterSint11 | hvRegisterSint12 | hvRegisterSint13
  | hvRegisterSint14 | hvRegisterSint15
  | hvX64RegisterMsrIa32MiscEnable | hvRegisterScontrol | hvRegisterSiefp | hvRegisterSimp
  | hvRegisterReferenceTsc | hvRegisterEom | hvX64RegisterUXss | hvX64RegisterUCet
  | hvX64RegisterSCet | hvX64RegisterSsp | hvX64RegisterPl0Ssp | hvX64RegisterPl1Ssp
  | hvX64RegisterPl2Ssp | hvX64RegisterPl3Ssp | hvX64RegisterInterruptSspTableAddr
  deriving DecidableEq, Repr

open HvRegisterName in
/-- The arms of the match in `msr_to_hv_reg_name`, in source order. -/
def msrToHvRegNameArms (idx : HvMsrIndices) : List (BitVec 32 × HvRegisterName) :=
  [(ia32MsrTsc, hvX64RegisterTsc),
   (ia32MsrEfer, hvX64RegisterEfer),
   (ia32MsrKernelGsBase, hvX64RegisterKernelGsBase),
   (ia32MsrApicBase, hvX64RegisterApicBase),
   (ia32MsrPat, hvX64RegisterPat),
   (ia32MsrSysenterCs, hvX64RegisterSysenterCs),
   (ia32MsrSysenterEsp, hvX64RegisterSysenterEsp),
   (ia32MsrSysenterEip, hvX64RegisterSysenterEip),
   (ia32MsrStar, hvX64RegisterStar),
   (ia32MsrLstar, hvX64RegisterLstar),
   (ia32MsrCstar, hvX64RegisterCstar),
   (ia32MsrSfmask, hvX64RegisterSfmask),
   (ia32MsrMtrrCap, hvX64RegisterMsrMtrrCap),
   (ia32MsrMtrrDefType, hvX64RegisterMsrMtrrDefType),
   (ia32MsrMtrrPhysbase0, hvX64RegisterMsrMtrrPhysBase0),
   (ia32MsrMtrrPhysmask0, hvX64RegisterMsrMtrrPhysMask0),
   (ia32MsrMtrrPhysbase1, hvX64RegisterMsrMtrrPhysBase1),
   (ia32MsrMtrrPhysmask1, hvX64RegisterMsrMtrrPhysMask1),
   (ia32MsrMtrrPhysbase2, hvX64RegisterMsrMtrrPhysBase2),
   (ia32MsrMtrrPhysmask2, hvX64RegisterMsrMtrrPhysMask2),
   (ia32MsrMtrrPhysbase3, hvX64RegisterMsrMtrrPhysBase3),
   (ia32MsrMtrrPhysmask3, hvX64RegisterMsrMtrrPhysMask3),
   (ia32MsrMtrrPhysbase4, hvX64RegisterMsrMtrrPhysBase4),
   (ia32MsrMtrrPhysmask4, hvX64RegisterMsrMtrrPhysMask4),
   (ia32MsrMtrrPhysbase5, hvX64RegisterMsrMtrrPhysBase5),
   (ia32MsrMtrrPhysmask5, hvX64RegisterMsrMtrrPhysMask5),
   (ia32MsrMtrrPhysbase6, hvX64RegisterMsrMtrrPhysBase6),
   (ia32MsrMtrrPhysmask6, hvX64RegisterMsrMtrrPhysMask6),
   (ia32MsrMtrrPhysbase7, hvX64RegisterMsrMtrrPhysBase7),
   (ia32MsrMtrrPhysmask7, hvX64RegisterMsrMtrrPhysMask7),
   (ia32MsrMtrrFix64k00000, hvX64RegisterMsrMtrrFix64k00000),
   (ia32MsrMtrrFix16k80000, hvX64RegisterMsrMtrrFix16k80000),
   (ia32MsrMtrrFix16kA0000, hvX64RegisterMsrMtrrFix16kA0000),
   (ia32MsrMtrrFix4kC0000, hvX64RegisterMsrMtrrFix4kC0000),
   (ia32MsrMtrrFix4kC8000, hvX64RegisterMsrMtrrFix4kC8000),
   (ia32MsrMtrrFix4kD0000, hvX64RegisterMsrMtrrFix4kD0000),
   (ia32MsrMtrrFix4kD8000, hvX64RegisterMsrMtrrFix4kD8000),
   (ia32MsrMtrrFix4kE0000, hvX64RegisterMsrMtrrFix4kE0000),
   (ia32MsrMtrrFix4kE8000, hvX64RegisterMsrMtrrFix4kE8000),
   (ia32MsrMtrrFix4kF0000, hvX64RegisterMsrMtrrFix4kF0000),
   (ia32MsrMtrrFix4kF8000, hvX64RegisterMsrMtrrFix4kF8000),
   (ia32MsrTscAux, hvX64RegisterTscAux),
   (ia32MsrBndcfgs, hvX64RegisterBndcfgs),
   (ia32MsrDebugCtl, hvX64RegisterDebugCtl),
   (ia32MsrTscAdjust, hvX64RegisterTscAdjust),
   (ia32MsrSpecCtrl, hvX64RegisterSpecCtrl),
   (idx.hvX64MsrGuestOsId, hvRegisterGuestOsId),
   (idx.hvX64MsrSint 0, hvRegisterSint0),
   (idx.hvX64MsrSint 1, hvRegisterSint1),
   (idx.hvX64MsrSint 2, hvRegisterSint2),
   (idx.hvX64MsrSint 3, hvRegisterSint3),
   (idx.hvX64MsrSint 4, hvRegisterSint4),
   (idx.hvX64MsrSint 5, hvRegisterSint5),
   (idx.hvX64MsrSint 6, hvRegisterSint6),
   (idx.hvX64MsrSint 7, hvRegisterSint7),
   (idx.hvX64MsrSint 8, hvRegisterSint8),
   (idx.hvX64MsrSint 9, hvRegisterSint9),
   (idx.hvX64MsrSint 10, hvRegisterSint10),
   (idx.hvX64MsrSint 11, hvRegisterSint11),
   (idx.hvX64MsrSint 12, hvRegisterSint12),
   (idx.hvX64MsrSint 13, hvRegisterSint13),
   (idx.hvX64MsrSint 14, hvRegisterSint14),
   (idx.hvX64MsrSint 15, hvRegisterSint15),
   (ia32MsrMiscEnable, hvX64RegisterMsrIa32MiscEnable),
   (idx.hvX64MsrScontrol, hvRegisterScontrol),
   (idx.hvX64MsrSiefp, hvRegisterSiefp),
   (idx.hvX64MsrSimp, hvRegisterSimp),
   (idx.hvX64MsrReferenceTsc, hvRegisterReferenceTsc),
   (idx.hvX64MsrEom, hvRegisterEom),
   (msrIa32RegisterUXss, hvX64RegisterUXss),
   (msrIa32UCet, hvX64RegisterUCet),
   (msrIa32SCet, hvX64RegisterSCet),
   (msrIa32Ssp, hvX64RegisterSsp),
   (msrIa32Pl0Ssp, hvX64RegisterPl0Ssp),
   (msrIa32Pl1Ssp, hvX64RegisterPl1Ssp),
   (msrIa32Pl2Ssp, hvX64RegisterPl2Ssp),
   (msrIa32Pl3Ssp, hvX64RegisterPl3Ssp),
   (msrIa32InterruptSspTableAddr, hvX64RegisterInterruptSspTableAddr)]

/-- `msr_to_hv_reg_name`: the first arm whose MSR is `msr` names the register. -/
def msrToHvRegName (idx : HvMsrIndices) (msr : BitVec 32) : Except String HvRegisterName :=
  match (msrToHvRegNameArms idx).lookup msr with
  | some name => .ok name
  | none => .error "Not a supported hv_register_name msr"

/-- `MSRS_SYNIC`. -/
def msrsSynic (idx : HvMsrIndices) : List (BitVec 32) :=
  [idx.hvX64MsrSint 0, idx.hvX64MsrSint 1, idx.hvX64MsrSint 2, idx.hvX64MsrSint 3,
    idx.hvX64MsrSint 4, idx.hvX64MsrSint 5, idx.hvX64MsrSint 6, idx.hvX64MsrSint 7,
    idx.hvX64MsrSint 8, idx.hvX64MsrSint 9, idx.hvX64MsrSint 10, idx.hvX64MsrSint 11,
    idx.hvX64MsrSint 12, idx.hvX64MsrSint 13, idx.hvX64MsrSint 14, idx.hvX64MsrSint 15,
    idx.hvX64MsrScontrol, idx.hvX64MsrSiefp, idx.hvX64MsrSimp]

/-- `MSRS_COMMON`. -/
def msrsCommon (idx : HvMsrIndices) : List (BitVec 32) :=
  [ia32MsrTsc, ia32MsrEfer, ia32MsrKernelGsBase, ia32MsrApicBase, ia32MsrPat,
    ia32MsrSysenterCs, ia32MsrSysenterEsp, ia32MsrSysenterEip, ia32MsrStar, ia32MsrLstar,
    ia32MsrCstar, ia32MsrSfmask, ia32MsrMtrrDefType,
    ia32MsrMtrrPhysbase0, ia32MsrMtrrPhysmask0, ia32MsrMtrrPhysbase1, ia32MsrMtrrPhysmask1,
    ia32MsrMtrrPhysbase2, ia32MsrMtrrPhysmask2, ia32MsrMtrrPhysbase3, ia32MsrMtrrPhysmask3,
    ia32MsrMtrrPhysbase4, ia32MsrMtrrPhysmask4, ia32MsrMtrrPhysbase5, ia32MsrMtrrPhysmask5,
    ia32MsrMtrrPhysbase6, ia32MsrMtrrPhysmask6, ia32MsrMtrrPhysbase7, ia32MsrMtrrPhysmask7,
    ia32MsrMtrrFix64k00000, ia32MsrMtrrFix16k80000, ia32MsrMtrrFix16kA0000,
    ia32MsrMtrrFix4kC0000, ia32MsrMtrrFix4kC8000, ia32MsrMtrrFix4kD0000, ia32MsrMtrrFix4kD8000,
    ia32MsrMtrrFix4kE0000, ia32MsrMtrrFix4kE8000, ia32MsrMtrrFix4kF0000, ia32MsrMtrrFix4kF8000,
    ia32MsrDebugCtl, idx.hvX64MsrEom]

/-- `MSRS_CET_SS`. -/
def msrsCetSs : List (BitVec 32) :=
  [msrIa32UCet, msrIa32SCet, msrIa32Ssp, msrIa32Pl0Ssp, msrIa32Pl1Ssp, msrIa32Pl2Ssp,
    msrIa32Pl3Ssp, msrIa32InterruptSspTableAddr]

/-- The one-bit fields of `hv_partition_processor_features` that
`get_partition_supported_msrs` reads. -/
structure HvPartitionProcessorFeatures where
  cetSsSupport : Bool
  rdtscpSupport : Bool
  deriving DecidableEq, Repr

/-- The one-bit field of `hv_partition_processor_xsave_features` that
`get_partition_supported_msrs` reads. -/
structure HvPartitionProcessorXsaveFeatures where
  xsaveSupervisorSupport : Bool
  deriving DecidableEq, Repr

/-- The one-bit fields of `hv_partition_synthetic_processor_features` that
`get_partition_supported_msrs` reads. -/
structure HvPartitionSyntheticProcessorFeatures where
  accessSynicRegs : Bool
  accessPartitionReferenceTsc : Bool
  accessHypercallRegs : Bool
  deriving DecidableEq, Repr

/-- `VpFeatures`. -/
structure VpFeatures where
  procFeatures : HvPartitionProcessorFeatures
  xsaveFeatures : HvPartitionProcessorXsaveFeatures
  syntheticFeatures : HvPartitionSyntheticProcessorFeatures
  deriving DecidableEq, Repr

/-- `get_partition_supported_msrs`: the common MSRs, then each feature's MSRs in a fixed order. -/
def getPartitionSupportedMsrs (idx : HvMsrIndices) (features : VpFeatures) : List (BitVec 32) :=
  let msrs : List (BitVec 32) := []
  let msrs := msrs ++ msrsCommon idx
  let msrs := if features.procFeatures.cetSsSupport then msrs ++ msrsCetSs else msrs
  let msrs := if features.procFeatures.rdtscpSupport then msrs ++ [ia32MsrTscAux] else msrs
  let msrs :=
    if features.xsaveFeatures.xsaveSupervisorSupport then msrs ++ [msrIa32RegisterUXss]
    else msrs
  let msrs := if features.syntheticFeatures.accessSynicRegs then msrs ++ msrsSynic idx else msrs
  let msrs :=
    if features.syntheticFeatures.accessPartitionReferenceTsc then
      msrs ++ [idx.hvX64MsrReferenceTsc]
    else msrs
  if features.syntheticFeatures.accessHypercallRegs then msrs ++ [idx.hvX64MsrGuestOsId]
  else msrs

end MshvBindings
