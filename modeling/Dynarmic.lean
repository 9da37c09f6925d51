import Dynarmic.Arm.Types
import Dynarmic.Arm.Pseudocode
import Dynarmic.Common.Lanes
import Dynarmic.Common.Shifts
import Dynarmic.Common.Swar
import Dynarmic.X64.Machine
import Dynarmic.X64.Instr
import Dynarmic.X64.Compare
import Dynarmic.X64.Run
import Dynarmic.IR.Basic
import Dynarmic.IR.Print
import Dynarmic.BackendX64.EmitM
import Dynarmic.BackendX64.Bindings
import Dynarmic.BackendX64.Shift
import Dynarmic.Proofs.Shift
import Dynarmic.BackendX64.DataProcessing
import Dynarmic.Proofs.DataProcessing
import Dynarmic.BackendX64.Packed
import Dynarmic.Proofs.Packed
import Dynarmic.BackendX64.Terminal
import Dynarmic.Proofs.Cond
import Dynarmic.Proofs.Terminal
import Dynarmic.Proofs.Prelude
import Dynarmic.BackendX64.Rsb
import Dynarmic.Proofs.Rsb
import Dynarmic.BackendX64.StateAccess
import Dynarmic.Proofs.StateAccess
import Dynarmic.BackendX64.Alu
import Dynarmic.Proofs.Alu
import Dynarmic.Proofs.Print
import Dynarmic.BackendX64.Flags
import Dynarmic.BackendX64.HostCalls
import Dynarmic.Proofs.Flags
import Dynarmic.Proofs.HostCalls
