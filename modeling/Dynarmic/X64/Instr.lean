import Dynarmic.X64.Machine
import Dynarmic.Common.Lanes

/-!
# Host instructions and their semantics

The x86-64 instructions the emitters ask the code buffer for, with the SDM's results and
flags. `exec` runs one straight-line instruction; `run` runs a listing, following forward
jumps to labels and stopping at a jump out of the listing.
-/

namespace Dynarmic.X64

open Common

/-- x86 condition codes under their canonical names (`c` is `b`, `z` is `e`, `ae` is `nb`). -/
inductive CondCode where
  | o | no | b | nb | e | ne | be | a | s | ns | p | np | l | nl | le | g
  deriving DecidableEq, Repr

/-- The condition of a `Jcc`, `SETcc` or `CMOVcc`; `none` when it reads an undefined flag. -/
def CondCode.eval (f : Flags) : CondCode → Option Bool
  | .o => f.of
  | .no => (! ·) <$> f.of
  | .b => f.cf
  | .nb => (! ·) <$> f.cf
  | .e => f.zf
  | .ne => (! ·) <$> f.zf
  | .be => do return (← f.cf) || (← f.zf)
  | .a => do return !(← f.cf) && !(← f.zf)
  | .s => f.sf
  | .ns => (! ·) <$> f.sf
  | .p => f.pf
  | .np => (! ·) <$> f.pf
  | .l => do return (← f.sf) != (← f.of)
  | .nl => do return (← f.sf) == (← f.of)
  | .le => do return (← f.zf) || (← f.sf) != (← f.of)
  | .g => do return !(← f.zf) && (← f.sf) == (← f.of)

/-- A label: a named local label of an `inLocalLabel` scope, or an `Xbyak::Label` object. -/
inductive Label where
  | named (scope : Nat) (name : String)
  | fresh (id : Nat)
  deriving DecidableEq, Repr

/-- A jump target: a label of the listing, an absolute code address, or a register. -/
inductive Target where
  | label (l : Label)
  | ptr (p : BitVec 64)
  | reg (r : Gpr)
  deriving DecidableEq, Repr

inductive Instr where
  | mov (w : Width) (dst src : Operand)
  | movzx (w : Width) (dst : Gpr) (sw : Width) (src : Operand)
  | movsx (w : Width) (dst : Gpr) (sw : Width) (src : Operand)
  | lea (w : Width) (dst base : Gpr) (index : Option Gpr) (disp : Nat)
  | add (w : Width) (dst src : Operand)
  | adc (w : Width) (dst src : Operand)
  | sub (w : Width) (dst src : Operand)
  | sbb (w : Width) (dst src : Operand)
  | cmp (w : Width) (dst src : Operand)
  | and_ (w : Width) (dst src : Operand)
  | or_ (w : Width) (dst src : Operand)
  | xor_ (w : Width) (dst src : Operand)
  | test (w : Width) (dst src : Operand)
  | not_ (w : Width) (dst : Operand)
  | neg (w : Width) (dst : Operand)
  | shl (w : Width) (dst count : Operand)
  | shr (w : Width) (dst count : Operand)
  | sar (w : Width) (dst count : Operand)
  | ror (w : Width) (dst count : Operand)
  | rol (w : Width) (dst count : Operand)
  | rcr (w : Width) (dst count : Operand)
  | shld (w : Width) (dst src : Gpr) (count : Nat)
  | bt (w : Width) (src bit : Operand)
  | bsr (w : Width) (dst : Gpr) (src : Operand)
  | lzcnt (w : Width) (dst : Gpr) (src : Operand)
  | stc
  | cmc
  | setcc (cc : CondCode) (dst : Operand)
  | cmovcc (cc : CondCode) (w : Width) (dst : Gpr) (src : Operand)
  | jcc (cc : CondCode) (t : Target)
  | jmp (t : Target)
  | L (l : Label)
  | movd (dst src : Operand)
  | movq (dst src : Operand)
  | pxor (dst src : Xmm)
  | pshufb (dst src : Xmm)
  | paddw (dst src : Xmm)
  | psrlw (dst : Xmm) (count : Nat)
  | CallFunction (f : HostFn)
  | ReturnFromRunCode (MXCSR_switch : Bool)
  | SwitchMxcsrOnEntry
  | SwitchMxcsrOnExit
  | int3
  | nop
  deriving Repr

/-! ### Flag computations -/

/-- PF: set when the low byte of the result has an even number of ones. -/
def parity {n : Nat} (r : BitVec n) : Bool :=
  ((List.range 8).filter (fun i => r.getLsbD i)).length % 2 == 0

/-- The flags of `ADD`/`ADC` computing `a + b + c = r`. -/
@[simps] def addFlags {n : Nat} (a b : BitVec n) (c : Bool) (r : BitVec n) : Flags where
  cf := some (decide (2 ^ n ≤ a.toNat + b.toNat + c.toNat))
  pf := some (parity r)
  af := some ((a ^^^ b ^^^ r).getLsbD 4)
  zf := some (r == 0)
  sf := some r.msb
  of := some (a.msb == b.msb && r.msb != a.msb)

/-- The flags of `SUB`/`SBB`/`CMP` computing `a - b - c = r`. -/
@[simps] def subFlags {n : Nat} (a b : BitVec n) (c : Bool) (r : BitVec n) : Flags where
  cf := some (decide (a.toNat < b.toNat + c.toNat))
  pf := some (parity r)
  af := some ((a ^^^ b ^^^ r).getLsbD 4)
  zf := some (r == 0)
  sf := some r.msb
  of := some (a.msb != b.msb && r.msb != a.msb)

/-- The flags of `AND`/`OR`/`XOR`/`TEST`: CF and OF cleared, AF undefined. -/
@[simps] def logicFlags {n : Nat} (r : BitVec n) : Flags where
  cf := some false
  pf := some (parity r)
  af := none
  zf := some (r == 0)
  sf := some r.msb
  of := some false

/-- The count of a shift or rotate: five bits, six for a qword. -/
def maskCount (w : Width) (c : Nat) : Nat := c % (if w = .qword then 64 else 32)

/-- `SHL`: CF is the last bit shifted out, OF is defined for a count of one only. -/
@[simps] def shlFlags {n : Nat} (a : BitVec n) (k : Nat) (f : Flags) : Flags :=
  { f with
    cf := if k ≤ n then some (a.getLsbD (n - k)) else none, pf := some (parity (a <<< k)),
    af := none, zf := some (a <<< k == 0), sf := some (a <<< k).msb,
    of := if k = 1 ∧ k ≤ n then some ((a <<< k).msb != a.getLsbD (n - k)) else none }

/-- `SHR`: CF is the last bit shifted out, OF is the old sign for a count of one. -/
@[simps] def shrFlags {n : Nat} (a : BitVec n) (k : Nat) (f : Flags) : Flags :=
  { f with
    cf := if k ≤ n then some (a.getLsbD (k - 1)) else none, pf := some (parity (a >>> k)),
    af := none, zf := some (a >>> k == 0), sf := some (a >>> k).msb,
    of := if k = 1 then some a.msb else none }

/-- `SAR`: CF is the last bit shifted out, OF is cleared for a count of one. -/
@[simps] def sarFlags {n : Nat} (a : BitVec n) (k : Nat) (f : Flags) : Flags :=
  { f with
    cf := if k ≤ n then some (a.getLsbD (k - 1)) else none, pf := some (parity (a.sshiftRight k)),
    af := none, zf := some (a.sshiftRight k == 0), sf := some (a.sshiftRight k).msb,
    of := if k = 1 then some false else none }

/-- `ROR` by `k`, leaving `r`: CF is the result's sign, OF is defined for a count of one only. -/
@[simps] def rorFlags {n : Nat} (r : BitVec n) (k : Nat) (f : Flags) : Flags :=
  { f with cf := some r.msb, of := if k = 1 then some (r.msb != r.getLsbD (n - 2)) else none }

/-- `ROL` by `k`, leaving `r`: CF is the result's bit 0. -/
@[simps] def rolFlags {n : Nat} (r : BitVec n) (k : Nat) (f : Flags) : Flags :=
  { f with cf := some (r.getLsbD 0), of := if k = 1 then some (r.msb != r.getLsbD 0) else none }

/-- `RCR` of `a` with carry in `c` by `k`: CF is the last bit rotated out, `co`. -/
@[simps] def rcrFlags {n : Nat} (a : BitVec n) (c co : Bool) (k : Nat) (f : Flags) : Flags :=
  { f with cf := some co, of := if k = 1 then some (a.msb != c) else none }

/-- `BT`: CF is the bit tested; OF, SF, AF and PF are undefined, ZF is kept. -/
@[simps] def btFlags (b : Bool) (f : Flags) : Flags :=
  { f with cf := some b, pf := none, af := none, sf := none, of := none }

/-- The zero bits of `a` met scanning down from bit `k - 1` to the first set bit: the loop of
the SDM's `LZCNT`, and of `BSR`, which returns the index where it stops. -/
def zerosFrom {n : Nat} (a : BitVec n) : Nat → Nat
  | 0 => 0
  | k + 1 => if a.getLsbD k then 0 else zerosFrom a k + 1

/-! ### Execution -/

/-- Run one ALU instruction on `dst` and `src`: read both, compute the result and flags,
write the result back if `write`. -/
def alu (m : Machine) (w : Width) (dst src : Operand) (write : Bool)
    (op : BitVec w.bits → BitVec w.bits → Option (BitVec w.bits × Flags)) : Option Machine := do
  let a ← readOp m w dst
  let b ← readOp m w src
  let (r, f) ← op a b
  if write then writeOp (m.setFlags f) w dst r else some (m.setFlags f)

/-- Run a shift or rotate whose masked count is `k`; a zero count changes nothing. -/
def shift (m : Machine) (w : Width) (dst count : Operand)
    (op : BitVec w.bits → Nat → Flags → BitVec w.bits × Flags) : Option Machine := do
  let c ← readOp m .byte count
  let k := maskCount w c.toNat
  let a ← readOp m w dst
  if k = 0 then some m else
    let (r, f) := op a k m.flags
    writeOp (m.setFlags f) w dst r

/-- Byte `i` of a 128-bit register. -/
def byteOf (v : BitVec 128) (i : Nat) : Nat := lane 8 i v.toNat

/-- One straight-line instruction; `none` when it reads an undefined flag or an operand it
cannot address. Jumps, labels and exits are left to `run`. -/
def exec (m : Machine) : Instr → Option Machine
  | .mov w dst src =>
    match w, src with
    | .qword, .imm v => writeOp m .qword dst (BitVec.ofNat 64 v)
    | w, src => do writeOp m w dst (← readOp m w src)
  | .movzx w dst sw src => do writeOp m w (.reg dst) ((← readOp m sw src).setWidth w.bits)
  | .movsx w dst sw src => do writeOp m w (.reg dst) ((← readOp m sw src).signExtend w.bits)
  | .lea w dst base index disp =>
    let addr := m.gpr base + (match index with | some r => m.gpr r | none => 0) + BitVec.ofNat 64 disp
    writeOp m w (.reg dst) (addr.setWidth w.bits)
  | .add w dst src => alu m w dst src true fun a b => some (a + b, addFlags a b false (a + b))
  | .adc w dst src => alu m w dst src true fun a b => do
      let c ← m.flags.cf
      let r := a + b + BitVec.ofNat _ c.toNat
      return (r, addFlags a b c r)
  | .sub w dst src => alu m w dst src true fun a b => some (a - b, subFlags a b false (a - b))
  | .sbb w dst src => alu m w dst src true fun a b => do
      let c ← m.flags.cf
      let r := a - b - BitVec.ofNat _ c.toNat
      return (r, subFlags a b c r)
  | .cmp w dst src => alu m w dst src false fun a b => some (a - b, subFlags a b false (a - b))
  | .and_ w dst src => alu m w dst src true fun a b => some (a &&& b, logicFlags (a &&& b))
  | .or_ w dst src => alu m w dst src true fun a b => some (a ||| b, logicFlags (a ||| b))
  | .xor_ w dst src => alu m w dst src true fun a b => some (a ^^^ b, logicFlags (a ^^^ b))
  | .test w dst src => alu m w dst src false fun a b => some (a &&& b, logicFlags (a &&& b))
  | .not_ w dst => do writeOp m w dst (~~~(← readOp m w dst))
  | .neg w dst => do
      let a ← readOp m w dst
      writeOp (m.setFlags (subFlags 0 a false (0 - a))) w dst (0 - a)
  | .shl w dst count => shift m w dst count fun a k f => (a <<< k, shlFlags a k f)
  | .shr w dst count => shift m w dst count fun a k f => (a >>> k, shrFlags a k f)
  | .sar w dst count => shift m w dst count fun a k f => (a.sshiftRight k, sarFlags a k f)
  | .ror w dst count => shift m w dst count fun a k f =>
      (a.rotateRight (k % w.bits), rorFlags (a.rotateRight (k % w.bits)) k f)
  | .rol w dst count => shift m w dst count fun a k f =>
      (a.rotateLeft (k % w.bits), rolFlags (a.rotateLeft (k % w.bits)) k f)
  | .rcr w dst count => do
      let c ← m.flags.cf
      shift m w dst count fun a k f =>
        let v := (BitVec.ofBool c ++ a).rotateRight (k % (w.bits + 1))
        (v.setWidth w.bits, rcrFlags a c v.msb k f)
  | .shld w dst src count => do
      let a ← readOp m w (.reg dst)
      let b ← readOp m w (.reg src)
      let k := maskCount w count
      if k = 0 then some m else
        let r := (a <<< k) ||| (b >>> (w.bits - k))
        let f : Flags :=
          { cf := some (a.getLsbD (w.bits - k)), pf := some (parity r), af := none,
            zf := some (r == 0), sf := some r.msb,
            of := if k = 1 then some (r.msb != a.msb) else none }
        writeOp (m.setFlags f) w (.reg dst) r
  | .bt w src bit => do
      let a ← readOp m w src
      let i ← readOp m w bit
      some (m.setFlags (btFlags (a.getLsbD (i.toNat % w.bits)) m.flags))
  | .bsr w dst src => do
      let a ← readOp m w src
      let f : Flags :=
        { cf := none, pf := none, af := none, zf := some (a == 0), sf := none, of := none }
      -- The SDM leaves the destination undefined for a zero source; it is kept here, and the
      -- emitters' proofs start from any value in it.
      if a = 0 then some (m.setFlags f) else
        writeOp (m.setFlags f) w (.reg dst) (BitVec.ofNat w.bits (w.bits - 1 - zerosFrom a w.bits))
  | .lzcnt w dst src => do
      let a ← readOp m w src
      let r := BitVec.ofNat w.bits (zerosFrom a w.bits)
      let f : Flags :=
        { cf := some (a == 0), pf := none, af := none, zf := some (r == 0), sf := none, of := none }
      writeOp (m.setFlags f) w (.reg dst) r
  | .stc => some (m.setFlags { m.flags with cf := some true })
  | .cmc => do some (m.setFlags { m.flags with cf := some !(← m.flags.cf) })
  | .setcc cc dst => do writeOp m .byte dst (BitVec.ofBool (← cc.eval m.flags) |>.setWidth 8)
  | .cmovcc cc w dst src => do
      let c ← cc.eval m.flags
      let v ← readOp m w src
      writeOp m w (.reg dst) (if c then v else (m.gpr dst).setWidth w.bits)
  | .movd dst src => do writeOp m .dword dst (← readOp m .dword src)
  | .movq dst src => do writeOp m .qword dst (← readOp m .qword src)
  | .pxor dst src => some (m.setXmm dst (m.xmm dst ^^^ m.xmm src))
  | .pshufb dst src =>
    let a := m.xmm dst
    let ctl := m.xmm src
    some (m.setXmm dst (BitVec.ofNat 128 (ofLanes 8 (fun i =>
      if (byteOf ctl i).testBit 7 then 0 else byteOf a (byteOf ctl i % 16)) 16)))
  | .paddw dst src =>
    let a := m.xmm dst
    let b := m.xmm src
    some (m.setXmm dst (BitVec.ofNat 128 (ofLanes 16 (fun i =>
      lane 16 i a.toNat + lane 16 i b.toNat) 8)))
  | .psrlw dst count =>
    let a := m.xmm dst
    some (m.setXmm dst (BitVec.ofNat 128 (ofLanes 16 (fun i => lane 16 i a.toNat >>> count) 8)))
  | .SwitchMxcsrOnEntry | .SwitchMxcsrOnExit | .nop => some m
  | .CallFunction _ | .ReturnFromRunCode _ | .int3 | .jcc _ _ | .jmp _ | .L _ => none

/-- How control leaves a listing. -/
inductive Exit where
  /-- A jump to an absolute host address: a block entry or a dispatcher address. -/
  | jump (target : BitVec 64)
  /-- `ReturnFromRunCode`: back to the dispatcher, switching MXCSR back unless the code already
  did. -/
  | returnFromRunCode (MXCSR_switch : Bool)
  /-- `int3`. -/
  | trap
  deriving DecidableEq, Repr

/-- What one instruction does to control: fall through, jump to a label of the listing,
leave the listing, or get stuck. -/
inductive Control where
  | next (m : Machine)
  | goto (l : Label) (m : Machine)
  | exit (e : Exit) (m : Machine)
  | stuck

/-- The result of running a listing: it falls through its end, leaves it, or gets stuck. -/
inductive Outcome where
  | next (m : Machine)
  | exit (e : Exit) (m : Machine)
  | stuck

def jumpTo (m : Machine) : Target → Control
  | .label l => .goto l m
  | .ptr p => .exit (.jump p) m
  | .reg r => .exit (.jump (m.gpr r)) m

/-- One instruction, given the effect `host` of each host call. -/
def step (host : HostFn → Machine → Machine) (m : Machine) (i : Instr) : Control :=
  match i with
  | .L _ => .next m
  | .jmp t => jumpTo m t
  | .jcc cc t =>
    match cc.eval m.flags with
    | none => .stuck
    | some false => .next m
    | some true => jumpTo m t
  | .ReturnFromRunCode c => .exit (.returnFromRunCode c) m
  | .int3 => .exit .trap m
  | .CallFunction f => .next (host f { m with calls := f :: m.calls })
  | i =>
    match exec m i with
    | some m' => .next m'
    | none => .stuck

/-- Whether an instruction places label `l`. -/
def Instr.places (l : Label) (i : Instr) : Bool :=
  match i with
  | .L l' => l' == l
  | _ => false

/-- Run a listing. `skip` is the label a taken forward jump is looking for; instructions
before it are passed over. -/
def run (host : HostFn → Machine → Machine) : List Instr → Option Label → Machine → Outcome
  | [], none, m => .next m
  | [], some _, _ => .stuck
  | i :: rest, some l, m => run host rest (if i.places l then none else some l) m
  | i :: rest, none, m =>
    match step host m i with
    | .next m' => run host rest none m'
    | .goto l m' => run host rest (some l) m'
    | .exit e m' => .exit e m'
    | .stuck => .stuck

end Dynarmic.X64
