import Dynarmic.IR.Basic

/-!
# Printing terminals

`TerminalToString` is the line `DumpBlock` ends a block's dump with: the terminal's name and,
in braces, its target location or its nested terminals. Locations print as
`LocDescToString`'s four comma-separated fields. `Arm::CondToString` is not under src/, so
the printer takes the name of a condition as its parameter `CondToString`.
-/

namespace Dynarmic.IR

/-- `"{%u,%s,%s,%u}"` of the PC, `T` or `!T`, `E` or `!E`, and the FPSCR mode bits. -/
def LocDescToString (loc : Arm.LocationDescriptor) : String :=
  "\x7b" ++ toString loc.PC.toNat ++ "," ++ (if loc.TFlag then "T" else "!T") ++ "," ++
    (if loc.EFlag then "E" else "!E") ++ "," ++ toString loc.FPSCR.toNat ++ "\x7d"

def TerminalToString (CondToString : Arm.Cond → String) : Terminal → String
  | .Interpret next => "Interpret\x7b" ++ LocDescToString next ++ "\x7d"
  | .ReturnToDispatch => "ReturnToDispatch\x7b\x7d"
  | .LinkBlock next => "LinkBlock\x7b" ++ LocDescToString next ++ "\x7d"
  | .LinkBlockFast next => "LinkBlockFast\x7b" ++ LocDescToString next ++ "\x7d"
  | .PopRSBHint => "PopRSBHint\x7b\x7d"
  | .If if_ then_ else_ => "If\x7b" ++ CondToString if_ ++ ", " ++
      TerminalToString CondToString then_ ++ ", " ++ TerminalToString CondToString else_ ++ "\x7d"
  | .CheckHalt else_ => "CheckHalt\x7b" ++ TerminalToString CondToString else_ ++ "\x7d"

example : TerminalToString (fun _ => "eq") (.If .EQ (.LinkBlock ⟨4, true, false, 0⟩) .PopRSBHint) =
    "If\x7beq, LinkBlock\x7b\x7b4,T,!E,0\x7d\x7d, PopRSBHint\x7b\x7d\x7d" := by
  decide

end Dynarmic.IR
