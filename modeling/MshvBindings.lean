import MshvBindings.Memory
import MshvBindings.Regs.Impl.Segment
import MshvBindings.Regs.Impl.Lapic
import MshvBindings.Regs.Impl.XSave
import MshvBindings.Regs.Impl.VpState
import MshvBindings.Regs.Impl.Msr
import MshvBindings.Regs.Lemmas.Segment
import MshvBindings.Regs.Lemmas.Ppr
import MshvBindings.Regs.Lemmas.RegisterFile
import MshvBindings.Regs.Lemmas.Lapic
import MshvBindings.Regs.Lemmas.XSave
import MshvBindings.Regs.Lemmas.VpState
import MshvBindings.Regs.Lemmas.XSaveComponent
import MshvBindings.Regs.Lemmas.VpStateRefinement
import MshvBindings.Regs.Lemmas.LapicRoundTrip
