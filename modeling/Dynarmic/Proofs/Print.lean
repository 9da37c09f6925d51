import Dynarmic.IR.Print

/-!
# Terminal dumps read back

A reader for the text `TerminalToString` prints, and its round trip: reading the dump of a
terminal followed by any text gives back the terminal and that text. Two terminals therefore
never dump alike, for any naming of the conditions with no two names alike and no comma in
a name, the comma being what ends the condition of an `If`.
-/

namespace Dynarmic.IR

/-! ### Fields -/

/-- The value of a run of decimal digits. -/
def decimal (ds : List Char) : Nat := ds.foldl (fun n d => 10 * n + (d.toNat - '0'.toNat)) 0

/-- A `%u` field: the longest run of digits, which must not be empty. -/
def readNat (cs : List Char) : Option (Nat × List Char) :=
  let ds := cs.takeWhile Char.isDigit
  if ds = [] then none else some (decimal ds, cs.dropWhile Char.isDigit)

theorem digitChar_decimal (d : Nat) (lt : d < 10) :
    (Nat.digitChar d).isDigit = true ∧ (Nat.digitChar d).toNat - '0'.toNat = d := by
  interval_cases d <;> decide

theorem decimal_append_digit (ds : List Char) (d : Char) :
    decimal (ds ++ [d]) = 10 * decimal ds + (d.toNat - '0'.toNat) := by
  simp [decimal, List.foldl_append]

theorem toDigitsCore_decimal (fuel n : Nat) (ds : List Char) (enough : n < fuel) :
    ∃ digits, Nat.toDigitsCore 10 fuel n ds = digits ++ ds ∧ digits ≠ [] ∧
      (∀ d ∈ digits, d.isDigit = true) ∧ decimal digits = n := by
  induction fuel generalizing n ds with
  | zero => omega
  | succ fuel ih =>
    obtain ⟨isDigit, value⟩ := digitChar_decimal (n % 10) (Nat.mod_lt _ (by decide))
    by_cases last : n / 10 = 0
    · refine ⟨[Nat.digitChar (n % 10)], by simp [Nat.toDigitsCore, last], by simp,
        by simp [isDigit], ?_⟩
      simp only [decimal, List.foldl_cons, List.foldl_nil]
      omega
    · obtain ⟨digits, core, nonempty, allDigits, higher⟩ :=
        ih (n / 10) (Nat.digitChar (n % 10) :: ds) (by omega)
      refine ⟨digits ++ [Nat.digitChar (n % 10)], by simp [Nat.toDigitsCore, last, core],
        by simp, ?_, ?_⟩
      · simp only [List.mem_append, List.mem_singleton]
        rintro d (member | rfl)
        exacts [allDigits d member, isDigit]
      · rw [decimal_append_digit, higher, value]
        omega

/-- A `%u` field reads back as the number it prints, up to the first non-digit after it. -/
theorem readNat_toString (n : Nat) (c : Char) (rest : List Char) (stop : c.isDigit = false) :
    readNat ((toString n).data ++ c :: rest) = some (n, c :: rest) := by
  obtain ⟨digits, core, nonempty, allDigits, value⟩ :=
    toDigitsCore_decimal (n + 1) n [] (by omega)
  have printed : (toString n).data = digits := by simpa using core
  simp [readNat, printed, List.takeWhile_append_of_pos allDigits,
    List.dropWhile_append_of_pos allDigits, nonempty, value, stop]

/-- Strip the literal `s` from the front. -/
def token (s : String) (cs : List Char) : Option (List Char) := cs.dropPrefix? s.data

/-- A `T`/`!T` or `E`/`!E` field. -/
def readFlag (flag : Char) : List Char → Option (Bool × List Char)
  | '!' :: c :: rest => if c = flag then some (false, rest) else none
  | c :: rest => if c = flag then some (true, rest) else none
  | [] => none

def readLoc (cs : List Char) : Option (Arm.LocationDescriptor × List Char) := do
  let cs ← token "\x7b" cs
  let (pc, cs) ← readNat cs
  let cs ← token "," cs
  let (t, cs) ← readFlag 'T' cs
  let cs ← token "," cs
  let (e, cs) ← readFlag 'E' cs
  let cs ← token "," cs
  let (fpscr, cs) ← readNat cs
  let cs ← token "\x7d" cs
  return (⟨BitVec.ofNat 32 pc, t, e, BitVec.ofNat 32 fpscr⟩, cs)

/-- A flag field reads back as the flag it prints. -/
theorem readFlag_ite (b : Bool) (flag : Char) (notBang : flag ≠ '!') (rest : List Char) :
    readFlag flag ((if b then [flag] else ['!', flag]) ++ rest) = some (b, rest) := by
  cases b
  · simp [readFlag]
  · simp only [if_true, List.singleton_append, readFlag]
    split <;> simp_all

/-- A location reads back as the location it prints. -/
theorem readLoc_LocDescToString (loc : Arm.LocationDescriptor) (rest : List Char) :
    readLoc ((LocDescToString loc).data ++ rest) = some (loc, rest) := by
  obtain ⟨pc, t, e, fpscr⟩ := loc
  simp only [LocDescToString, String.data_append, List.append_assoc, apply_ite String.data]
  simp only [readLoc, token, List.dropPrefix?, List.cons_append, List.nil_append, List.append_eq,
    beq_self_eq_true, if_true, Option.bind_eq_bind, Option.some_bind, Option.pure_def,
    BitVec.ofNat_toNat, BitVec.setWidth_eq, readFlag_ite _ 'T' (by decide),
    readFlag_ite _ 'E' (by decide),
    readNat_toString _ _ _ (show ','.isDigit = false by decide),
    readNat_toString _ _ _ (show '\x7d'.isDigit = false by decide)]

/-! ### Terminals -/

/-- The nesting depth of `If` and `CheckHalt`: the fuel `readTerminal` needs. -/
def Terminal.depth : Terminal → Nat
  | .If _ then_ else_ => max then_.depth else_.depth + 1
  | .CheckHalt else_ => else_.depth + 1
  | _ => 0

/-- Every condition, in encoding order. -/
def allConds : List Arm.Cond :=
  [.EQ, .NE, .CS, .CC, .MI, .PL, .VS, .VC, .HI, .LS, .GE, .LT, .GT, .LE, .AL, .NV]

theorem mem_allConds (c : Arm.Cond) : c ∈ allConds := by
  cases c <;> decide

section Reader

variable (CondToString : Arm.Cond → String)

/-- The condition a name stands for. -/
def condNamed (name : List Char) : Option Arm.Cond :=
  allConds.find? fun c => (CondToString c).data == name

/-- Read one terminal as `TerminalToString` prints it, with `fuel` bounding the nesting. -/
def readTerminal : Nat → List Char → Option (Terminal × List Char)
  | 0, _ => none
  | fuel + 1, cs =>
    (do
      let cs ← token "Interpret\x7b" cs
      let (next, cs) ← readLoc cs
      let cs ← token "\x7d" cs
      pure (.Interpret next, cs)) <|>
    (do
      let cs ← token "ReturnToDispatch\x7b\x7d" cs
      pure (.ReturnToDispatch, cs)) <|>
    (do
      let cs ← token "LinkBlock\x7b" cs
      let (next, cs) ← readLoc cs
      let cs ← token "\x7d" cs
      pure (.LinkBlock next, cs)) <|>
    (do
      let cs ← token "LinkBlockFast\x7b" cs
      let (next, cs) ← readLoc cs
      let cs ← token "\x7d" cs
      pure (.LinkBlockFast next, cs)) <|>
    (do
      let cs ← token "PopRSBHint\x7b\x7d" cs
      pure (.PopRSBHint, cs)) <|>
    (do
      let cs ← token "If\x7b" cs
      let if_ ← condNamed CondToString (cs.takeWhile (· != ','))
      let cs ← token ", " (cs.dropWhile (· != ','))
      let (then_, cs) ← readTerminal fuel cs
      let cs ← token ", " cs
      let (else_, cs) ← readTerminal fuel cs
      let cs ← token "\x7d" cs
      pure (.If if_ then_ else_, cs)) <|>
    (do
      let cs ← token "CheckHalt\x7b" cs
      let (else_, cs) ← readTerminal fuel cs
      let cs ← token "\x7d" cs
      pure (.CheckHalt else_, cs))

/-- A whole dump line read back: one terminal and nothing after it. -/
def readTerminalDump (s : String) : Option Terminal :=
  match readTerminal CondToString (s.data.length + 1) s.data with
  | some (t, []) => some t
  | _ => none

/-- A dump is longer than its terminal is deep, so its length is fuel enough to read it. -/
theorem depth_lt_length (t : Terminal) :
    t.depth < (TerminalToString CondToString t).data.length := by
  induction t <;>
  simp only [Terminal.depth, TerminalToString, String.data_append, List.length_append,
    List.length_cons, List.length_nil] <;>
  omega

variable {CondToString} (injective : Function.Injective CondToString)
  (commaFree : ∀ c, ',' ∉ (CondToString c).data)

include injective in
theorem condNamed_CondToString (c : Arm.Cond) :
    condNamed CondToString (CondToString c).data = some c := by
  cases found : allConds.find? fun c' => (CondToString c').data == (CondToString c).data with
  | none => simpa using List.find?_eq_none.mp found c (mem_allConds c)
  | some c' =>
    have same : (CondToString c').data = (CondToString c).data := by
      simpa using List.find?_some found
    rw [condNamed, found, injective (String.ext same)]

include commaFree in
theorem CondToString_notComma (c : Arm.Cond) : ∀ a ∈ (CondToString c).data, (a != ',') = true :=
  fun _ member => by simp [ne_of_mem_of_not_mem member (commaFree c)]

include commaFree in
theorem takeWhile_CondToString (c : Arm.Cond) (rest : List Char) :
    ((CondToString c).data ++ ',' :: rest).takeWhile (· != ',') = (CondToString c).data := by
  rw [List.takeWhile_append_of_pos (CondToString_notComma commaFree c)]
  simp

include commaFree in
theorem dropWhile_CondToString (c : Arm.Cond) (rest : List Char) :
    ((CondToString c).data ++ ',' :: rest).dropWhile (· != ',') = ',' :: rest := by
  rw [List.dropWhile_append_of_pos (CondToString_notComma commaFree c)]
  simp

include injective commaFree in
/-- Reading the dump of a terminal followed by any text gives back the terminal and the text. -/
theorem readTerminal_TerminalToString (t : Terminal) (fuel : Nat) (enough : t.depth < fuel)
    (rest : List Char) :
    readTerminal CondToString fuel ((TerminalToString CondToString t).data ++ rest) =
      some (t, rest) := by
  obtain ⟨fuel, rfl⟩ : ∃ f, fuel = f + 1 := ⟨fuel - 1, by omega⟩
  induction t generalizing fuel rest
  case' Interpret next | LinkBlock next | LinkBlockFast next =>
    have read := readLoc_LocDescToString next ('\x7d' :: rest)
    simp only [TerminalToString, String.data_append, List.append_assoc]
    generalize (LocDescToString next).data = text at read ⊢
  case' ReturnToDispatch | PopRSBHint =>
    simp only [TerminalToString, String.data_append, List.append_assoc]
  case' If if_ then_ else_ ihThen ihElse =>
    obtain ⟨thenFits, elseFits⟩ := max_lt_iff.mp (Nat.lt_of_succ_lt_succ enough)
    obtain ⟨fuel, rfl⟩ : ∃ f, fuel = f + 1 := ⟨fuel - 1, by omega⟩
    have name := takeWhile_CondToString commaFree if_
    have next := dropWhile_CondToString commaFree if_
    have named := condNamed_CondToString injective if_
    simp only [TerminalToString, String.data_append, List.append_assoc]
  case' CheckHalt else_ ih =>
    replace enough := Nat.lt_of_succ_lt_succ enough
    obtain ⟨fuel, rfl⟩ : ∃ f, fuel = f + 1 := ⟨fuel - 1, by omega⟩
    simp only [TerminalToString, String.data_append, List.append_assoc]
  -- each case now reads its keyword, then its fields or children
  all_goals
    clear injective commaFree
    rw [readTerminal]
    simp only [token, List.dropPrefix?, List.cons_append, List.nil_append, List.append_eq,
      beq_self_eq_true, beq_iff_eq, ↓Char.isValue, Char.reduceEq, ↓reduceIte,
      Option.bind_eq_bind, Option.some_bind, Option.none_bind, Option.pure_def,
      Option.some_orElse, Option.none_orElse, *]

include injective commaFree in
/-- Two terminals with the same dump are the same terminal. -/
theorem TerminalToString_injective : Function.Injective (TerminalToString CondToString) := by
  intro t u same
  have readT :=
    readTerminal_TerminalToString injective commaFree t (t.depth + u.depth + 1) (by omega) []
  have readU :=
    readTerminal_TerminalToString injective commaFree u (t.depth + u.depth + 1) (by omega) []
  rw [same, readU] at readT
  simpa using readT.symm

include injective commaFree in
/-- A terminal's dump reads back as that terminal. -/
theorem readTerminalDump_TerminalToString (t : Terminal) :
    readTerminalDump CondToString (TerminalToString CondToString t) = some t := by
  have read := readTerminal_TerminalToString injective commaFree t
    ((TerminalToString CondToString t).data.length + 1)
    (Nat.lt_succ_of_lt (depth_lt_length CondToString t)) []
  rw [List.append_nil] at read
  rw [readTerminalDump, read]

end Reader

/-- The ARM mnemonics of the conditions, a naming with no comma and no two alike. -/
def condMnemonic : Arm.Cond → String
  | .EQ => "eq" | .NE => "ne" | .CS => "cs" | .CC => "cc" | .MI => "mi" | .PL => "pl"
  | .VS => "vs" | .VC => "vc" | .HI => "hi" | .LS => "ls" | .GE => "ge" | .LT => "lt"
  | .GT => "gt" | .LE => "le" | .AL => "al" | .NV => "nv"

theorem condMnemonic_injective : Function.Injective condMnemonic := by
  have named (c : Arm.Cond) : condNamed condMnemonic (condMnemonic c).data = some c := by
    cases c <;> rfl
  intro c d same
  simpa [named] using congrArg (condNamed condMnemonic ∘ String.data) same

theorem condMnemonic_commaFree (c : Arm.Cond) : ',' ∉ (condMnemonic c).data := by
  cases c <;> decide

theorem TerminalToString_injective_condMnemonic :
    Function.Injective condMnemonic ∧ (∀ c, ',' ∉ (condMnemonic c).data) ∧
      Function.Injective (TerminalToString condMnemonic) :=
  ⟨condMnemonic_injective, condMnemonic_commaFree,
    TerminalToString_injective condMnemonic_injective condMnemonic_commaFree⟩

/-- A terminal with every kind of node under an `If`. -/
def nestedTerminal : Terminal :=
  .If .GE (.CheckHalt (.LinkBlock ⟨0x1000, true, false, 0x3000000⟩))
    (.If .AL (.Interpret ⟨8, false, true, 0⟩) (.If .NV (.LinkBlockFast ⟨4, false, false, 0⟩)
      (.If .EQ .PopRSBHint .ReturnToDispatch)))

theorem readTerminalDump_TerminalToString_nestedTerminal :
    Function.Injective condMnemonic ∧ (∀ c, ',' ∉ (condMnemonic c).data) ∧
      readTerminalDump condMnemonic (TerminalToString condMnemonic nestedTerminal) =
        some nestedTerminal :=
  ⟨condMnemonic_injective, condMnemonic_commaFree,
    readTerminalDump_TerminalToString condMnemonic_injective condMnemonic_commaFree
      nestedTerminal⟩

end Dynarmic.IR
