import Mathlib

/-!
# Guest-side types

Condition codes, registers and location descriptors of the ARM guest, and the CPSR bits the
backend reads and writes. `conditionPassed` is the ARM `ConditionPassed` pseudocode that
`EmitCond` has to agree with.
-/

namespace Dynarmic.Arm

/-- ARM condition codes, in encoding order. -/
inductive Cond where
  | EQ | NE | CS | CC | MI | PL | VS | VC | HI | LS | GE | LT | GT | LE | AL | NV
  deriving DecidableEq, Repr

/-- The 32-bit CPSR. -/
abbrev Cpsr := BitVec 32

def nBit (cpsr : Cpsr) : Bool := cpsr.getLsbD 31
def zBit (cpsr : Cpsr) : Bool := cpsr.getLsbD 30
def cBit (cpsr : Cpsr) : Bool := cpsr.getLsbD 29
def vBit (cpsr : Cpsr) : Bool := cpsr.getLsbD 28

/-- ARM `ConditionPassed` on the NZCV bits of the CPSR. -/
def conditionPassed (cond : Cond) (cpsr : Cpsr) : Bool :=
  match cond with
  | .EQ => zBit cpsr
  | .NE => !zBit cpsr
  | .CS => cBit cpsr
  | .CC => !cBit cpsr
  | .MI => nBit cpsr
  | .PL => !nBit cpsr
  | .VS => vBit cpsr
  | .VC => !vBit cpsr
  | .HI => cBit cpsr && !zBit cpsr
  | .LS => !cBit cpsr || zBit cpsr
  | .GE => nBit cpsr == vBit cpsr
  | .LT => nBit cpsr != vBit cpsr
  | .GT => !zBit cpsr && nBit cpsr == vBit cpsr
  | .LE => zBit cpsr || nBit cpsr != vBit cpsr
  | .AL => true
  | .NV => true

/-- A guest core register; `PC` is register 15. -/
abbrev Reg := Fin 16

def Reg.PC : Reg := 15

/-- A VFP extended register: a single `S0..S31` or a double `D0..D31`. -/
inductive ExtReg where
  | S (index : Fin 32)
  | D (index : Fin 32)
  deriving DecidableEq, Repr

/-- A guest location: the PC with the CPSR.T and CPSR.E flags and the FPSCR mode bits. -/
structure LocationDescriptor where
  PC : BitVec 32
  TFlag : Bool
  EFlag : Bool
  FPSCR : BitVec 32
  deriving DecidableEq, Repr

/-- Modelled from the spec: `location_descriptor.h` is not under src/. The 64-bit cache key
of a location, the key that `EmitTerminal(PopRSBHint)` recomputes from the guest state: the
T and E bits moved from CPSR bits 5 and 9 down to bits 3 and 7, or'd with the FPSCR mode
bits, above the PC. -/
def LocationDescriptor.UniqueHash (loc : LocationDescriptor) : BitVec 64 :=
  let upper : BitVec 32 :=
    ((BitVec.ofBool loc.TFlag).setWidth 32 <<< 3 ||| (BitVec.ofBool loc.EFlag).setWidth 32 <<< 7)
      ||| loc.FPSCR
  upper.setWidth 64 <<< 32 ||| loc.PC.setWidth 64

/-- The PC sits in the low word of the hash, so a hash fixes the PC of its location. -/
theorem UniqueHash_low (loc : LocationDescriptor) :
    loc.UniqueHash.setWidth 32 = loc.PC := by
  ext i
  simp [LocationDescriptor.UniqueHash]

/-- FPSCR.FTZ (flush-to-zero) and FPSCR.DN (default NaN) of the location's mode bits. -/
def LocationDescriptor.FTZ (loc : LocationDescriptor) : Bool := loc.FPSCR.getLsbD 24
def LocationDescriptor.DN (loc : LocationDescriptor) : Bool := loc.FPSCR.getLsbD 25

end Dynarmic.Arm
