import Dynarmic.Proofs.Cond

/-!
# Terminals reach the leaf the guest state selects

`TerminalSpec` is the reference semantics of a terminal tree: `If` follows ARM
`ConditionPassed` on the guest CPSR and `CheckHalt` returns to the dispatcher when a halt is
requested, down to a leaf, whose outcome it states. The code `EmitTerminal` writes reaches that
outcome from every machine, for every tree of conditions `EmitCond` handles; each leaf's code is
run once in its own lemma and the tree by induction, with `Appended` keeping each forward jump
from landing in code emitted after its label was made.
-/

namespace Dynarmic.X64

/-- The guest state with the PC, `Reg[15]`, set to `pc`. -/
def JitState.setPC (j : JitState) (pc : BitVec 32) : JitState :=
  { j with Reg := Function.update j.Reg Arm.Reg.PC pc }

/-- The location the guest state is at: its PC, CPSR.T (bit 5), CPSR.E (bit 9) and FPSCR
mode bits. -/
def JitState.location (j : JitState) : Arm.LocationDescriptor :=
  ⟨j.Reg Arm.Reg.PC, j.Cpsr.getLsbD 5, j.Cpsr.getLsbD 9, j.FPSCR_mode⟩

/-- `CMP qword, 0` then `JG`: taken when the value is positive as a signed word. -/
theorem cond_g_cmp_zero {n : Nat} (a : BitVec n) :
    CondCode.eval (subFlags a 0#n false a) .g = some (decide (0 < a.toInt)) := by
  have lt : (a.toNat : Int) < 2 ^ n := by exact_mod_cast a.isLt
  rw [BitVec.toInt_eq_msb_cond]
  cases msb : a.msb
  · by_cases zero : a = 0#n
    · simp [CondCode.eval, msb, zero]
    · have : a.toNat ≠ 0 := fun h => zero (BitVec.eq_of_toNat_eq (by simpa using h))
      simp [CondCode.eval, msb, zero, Nat.pos_of_ne_zero this]
  · have : a ≠ 0#n := fun h => by simp [h] at msb
    simp [CondCode.eval, msb, this]
    omega

end Dynarmic.X64

namespace Dynarmic.IR

end Dynarmic.IR

namespace Dynarmic.BackendX64

open X64 IR EmitM

/-! ### The reference semantics -/

/-- A CPSR with bit `i` set to `b`. -/
def setCpsrBit (cpsr : BitVec 32) (i : Nat) (b : Bool) : BitVec 32 :=
  if b then cpsr ||| BitVec.twoPow 32 i else cpsr &&& ~~~BitVec.twoPow 32 i

theorem getLsbD_setCpsrBit (cpsr : BitVec 32) {i : Nat} (hi : i < 32) (b : Bool) (k : Nat) :
    (setCpsrBit cpsr i b).getLsbD k = if k = i then b else cpsr.getLsbD k := by
  by_cases same : k = i
  · subst same
    cases b <;> simp [setCpsrBit, hi]
  · by_cases hk : k < 32
    · cases b <;> simp [setCpsrBit, same, Ne.symm same, hk]
    · simp [BitVec.getLsbD_ge _ _ (Nat.le_of_not_lt hk), same]

/-- The CPSR `EmitLinkFlags next initial_location` leaves: T (bit 5) and E (bit 9) set to the
target's where the target's differ from the initial location's. -/
def LinkCpsr (next initial_location : Arm.LocationDescriptor) (cpsr : BitVec 32) : BitVec 32 :=
  let t := if next.TFlag = initial_location.TFlag then cpsr else setCpsrBit cpsr 5 next.TFlag
  if next.EFlag = initial_location.EFlag then t else setCpsrBit t 9 next.EFlag

/-- The code leaves through `e` with guest state `j`. -/
def ExitsWith (o : Outcome) (e : Exit) (j : JitState) : Prop := ∃ m, o = .exit e m ∧ m.jit = j

@[simp] theorem ExitsWith_exit {e e' : Exit} {m : Machine} {j : JitState} :
    ExitsWith (.exit e m) e' j ↔ e = e' ∧ m.jit = j :=
  ⟨fun ⟨_, h, same⟩ => by cases h; exact ⟨rfl, same⟩, fun ⟨he, hj⟩ => ⟨m, by rw [he], hj⟩⟩

/-- The code pointer of the last of the first `n` RSB entries whose location hash is `key`, or
`default` when none is. -/
def RSBLookup (j : JitState) (key : BitVec 64) (n : Nat) (default : BitVec 64) : BitVec 64 :=
  (List.range n).foldl
    (fun acc i => if j.rsb_location_descriptors i = key then j.rsb_codeptrs i else acc) default

/-- The reference semantics of a terminal: from guest state `j`, with the host calls `calls`
made so far, the outcome the code of terminal `t` has to reach. `If` follows ARM
`ConditionPassed` on the CPSR and `CheckHalt` returns to the dispatcher when a halt is
requested. `Interpret` stores the target PC and calls the interpreter fallback with it;
`LinkBlock` jumps to the target's block while cycles remain and `LinkBlockFast` whenever the
target has one, both after setting the target's T and E, and otherwise return to the dispatcher
with the target's PC; `PopRSBHint` jumps to the RSB entry of the current location. -/
def TerminalSpec (env : EmitEnv) (L : Arm.LocationDescriptor)
    (host : HostFn → Machine → Machine) (j : JitState) (calls : List HostFn) :
    Terminal → Outcome → Prop
  | .Interpret next, o => ∃ m : Machine, m.jit = j.setPC next.PC ∧
      m.calls = .InterpreterFallback :: calls ∧ m.gpr ABI_PARAM1 = next.PC.setWidth 64 ∧
      m.gpr ABI_PARAM2 = env.jit_interface ∧ m.gpr ABI_PARAM3 = env.user_arg ∧
      o = .exit (.returnFromRunCode false) (host .InterpreterFallback m)
  | .ReturnToDispatch, o => ExitsWith o (.returnFromRunCode true) j
  | .LinkBlock next, o =>
    let linked := { j with Cpsr := LinkCpsr next L j.Cpsr }
    match env.block_descriptors next.UniqueHash with
    | some d =>
      if 0 < j.cycles_remaining.toInt then ExitsWith o (.jump d.code_ptr) linked
      else ExitsWith o (.returnFromRunCode true) (linked.setPC next.PC)
    | none => ExitsWith o (.returnFromRunCode true) (linked.setPC next.PC)
  | .LinkBlockFast next, o =>
    let linked := { j with Cpsr := LinkCpsr next L j.Cpsr }
    match env.block_descriptors next.UniqueHash with
    | some d => ExitsWith o (.jump d.code_ptr) linked
    | none => ExitsWith o (.jump env.ReturnFromRunCodeAddress) (linked.setPC next.PC)
  | .PopRSBHint, o =>
    ExitsWith o (.jump (RSBLookup j j.location.UniqueHash env.RSBSize env.ReturnFromRunCodeAddress)) j
  | .If cond then_ else_, o =>
    if Arm.conditionPassed cond j.Cpsr then TerminalSpec env L host j calls then_ o
    else TerminalSpec env L host j calls else_ o
  | .CheckHalt else_, o =>
    if j.halt_requested ≠ 0 then ExitsWith o (.jump env.ReturnFromRunCodeAddress) j
    else TerminalSpec env L host j calls else_ o

/-- Every terminal leaves the code: none falls through its end. -/
theorem TerminalSpec.exits {env : EmitEnv} {L : Arm.LocationDescriptor} {host j calls} :
    ∀ {t : Terminal} {o : Outcome}, TerminalSpec env L host j calls t o → ∃ e m, o = .exit e m
  | .Interpret _, _, ⟨_, _, _, _, _, _, rfl⟩ => ⟨_, _, rfl⟩
  | .ReturnToDispatch, _, ⟨_, rfl, _⟩ => ⟨_, _, rfl⟩
  | .LinkBlock next, o, h => by
    simp only [TerminalSpec] at h
    split at h
    · split at h <;> obtain ⟨_, rfl, _⟩ := h <;> exact ⟨_, _, rfl⟩
    · obtain ⟨_, rfl, _⟩ := h; exact ⟨_, _, rfl⟩
  | .LinkBlockFast next, o, h => by
    simp only [TerminalSpec] at h
    split at h <;> obtain ⟨_, rfl, _⟩ := h <;> exact ⟨_, _, rfl⟩
  | .PopRSBHint, _, ⟨_, rfl, _⟩ => ⟨_, _, rfl⟩
  | .If cond _ _, o, h => by
    simp only [TerminalSpec] at h
    split at h
    · exact TerminalSpec.exits h
    · exact TerminalSpec.exits h
  | .CheckHalt _, o, h => by
    simp only [TerminalSpec] at h
    split at h
    · obtain ⟨_, rfl, _⟩ := h; exact ⟨_, _, rfl⟩
    · exact TerminalSpec.exits h

/-! ### Emitting terminals -/

/-- The assembler fits each patch site's instructions in the bytes `Patch` later rewrites
there: a `JG` in 6, a `JMP`, or a PC store followed by one, in 13. -/
structure PatchSitesFit (env : EmitEnv) : Prop where
  jg : ∀ p, env.size (.jcc .g (.ptr p)) ≤ 6
  jmp : ∀ p, env.size (.jmp (.ptr p)) ≤ 13
  jmp_fallback : ∀ pc p,
    env.size (.mov .dword (.mem (.reg Arm.Reg.PC)) (.imm pc)) + env.size (.jmp (.ptr p)) ≤ 13

/-- `EmitTerminal t L` succeeds from `st`, only appends, and from every machine its code reaches
the outcome `TerminalSpec` gives. -/
def EmitsTerminal (env : EmitEnv) (L : Arm.LocationDescriptor) (t : Terminal) (st : EmitState) :
    Prop :=
  ∃ st', EmitTerminal t L env st = .ok ((), st') ∧ Appended st st' ∧
    ∀ host m, TerminalSpec env L host m.jit m.calls t (run host (codeSince st st') none m)

/-- The state after emitting `i`. -/
def EmitState.after (env : EmitEnv) (st : EmitState) (i : Instr) : EmitState :=
  { st with cur := st.cur + env.size i, log := st.log ++ [(st.cur, i)] }

/-! ### `EmitLinkFlags` -/

theorem ofNat_one_shiftLeft {i : Nat} : BitVec.ofNat 32 (1 <<< i) = BitVec.twoPow 32 i := by
  apply BitVec.eq_of_toNat_eq
  simp [Nat.shiftLeft_eq]

theorem ofNat_not_one_shiftLeft {i : Nat} :
    BitVec.ofNat 32 ((~~~(1 <<< i : BitVec 32)).toNat) = ~~~BitVec.twoPow 32 i := by
  rw [BitVec.ofNat_toNat, BitVec.setWidth_eq]
  rfl

/-- One half of `EmitLinkFlags`: where `differs`, the code sets CPSR bit `i` to `b`. -/
theorem linkBit_spec (differs : Prop) [Decidable differs] (b : Bool) (i : Nat)
    (env : EmitEnv) (st : EmitState) :
    ∃ st', (if differs then
        (if b then emit (.or_ .dword (.mem .cpsr) (.imm (1 <<< i)))
        else emit (.and_ .dword (.mem .cpsr) (.imm ((~~~(1 <<< i : BitVec 32)).toNat))))
      else pure ()) env st = .ok ((), st') ∧ Appended st st' ∧
      ∀ host m, ∃ m', run host (codeSince st st') none m = .next m' ∧
        m'.jit = { m.jit with Cpsr := if differs then setCpsrBit m.jit.Cpsr i b else m.jit.Cpsr } ∧
        m'.calls = m.calls := by
  by_cases d : differs
  · cases b <;> simp only [d, if_true, Bool.false_eq_true, if_false, emit_apply, Except.ok.injEq, Prod.mk.injEq, true_and, exists_eq_left'] <;>
      refine ⟨⟨by simp, le_rfl, by simp [codeSince]⟩, fun host m => ?_⟩ <;>
      simp [- BitVec.toNat_not, codeSince, run_exec, run_nil, Instr.straight, exec, alu, readOp, writeOp, readField, writeField, Mem.width, immValue, Width.bits, setCpsrBit, ofNat_one_shiftLeft, ofNat_not_one_shiftLeft]
  · simp only [d, if_false, pure_apply, Except.ok.injEq, Prod.mk.injEq, true_and, exists_eq_left']
    refine ⟨⟨List.prefix_refl _, le_rfl, by simp [codeSince]⟩, fun host m => ⟨m, by simp [codeSince, run_nil], rfl, rfl⟩⟩

/-- `EmitLinkFlags` sets T and E as `LinkCpsr` says and writes nothing else of the guest
state. -/
theorem EmitLinkFlags_spec (next L : Arm.LocationDescriptor) (env : EmitEnv) (st : EmitState) :
    ∃ st', EmitLinkFlags next L env st = .ok ((), st') ∧ Appended st st' ∧
      ∀ host m, ∃ m', run host (codeSince st st') none m = .next m' ∧
        m'.jit = { m.jit with Cpsr := LinkCpsr next L m.jit.Cpsr } ∧ m'.calls = m.calls := by
  obtain ⟨st₁, e₁, a₁, r₁⟩ := linkBit_spec (next.TFlag ≠ L.TFlag) next.TFlag 5 env st
  obtain ⟨st₂, e₂, a₂, r₂⟩ := linkBit_spec (next.EFlag ≠ L.EFlag) next.EFlag 9 env st₁
  have emits : EmitLinkFlags next L env st = .ok ((), st₂) := by
    clear r₁ r₂ a₁ a₂
    unfold EmitLinkFlags
    split_ifs at e₁ e₂ ⊢ <;>
      simp_all only [bind_apply, pure_apply, Except.ok.injEq, Prod.mk.injEq, true_and]
  refine ⟨st₂, emits, a₁.trans a₂, fun host m => ?_⟩
  obtain ⟨m₁, run₁, jit₁, calls₁⟩ := r₁ host m
  obtain ⟨m₂, run₂, jit₂, calls₂⟩ := r₂ host m₁
  refine ⟨m₂, by rw [codeSince_trans a₁.grows a₂.grows, run_append_next _ _ run₁, run₂], ?_,
    by rw [calls₂, calls₁]⟩
  rw [jit₂, jit₁]
  simp [LinkCpsr, ite_not]
/-! ### The RSB scan -/

/-- The unrolled scan of `PopRSBHint` over entries `is`: compare each entry's hash with `rbx`
and move its code pointer into `rax` when they are equal. -/
def rsbScanCode (is : List Nat) : List Instr :=
  is.flatMap fun i =>
    [.cmp .qword (.reg .rbx) (.mem (.rsbLocationDescriptor i)),
      .cmovcc .e .qword .rax (.mem (.rsbCodeptr i))]

theorem rsbScanCode_cons (i : Nat) (is : List Nat) :
    rsbScanCode (i :: is) = .cmp .qword (.reg .rbx) (.mem (.rsbLocationDescriptor i)) ::
      .cmovcc .e .qword .rax (.mem (.rsbCodeptr i)) :: rsbScanCode is := rfl

theorem rsbScan_emits (env : EmitEnv) (is : List Nat) (st : EmitState) :
    ∃ st', (is.forM fun i => do
        emit (.cmp .qword (.reg .rbx) (.mem (.rsbLocationDescriptor i)))
        emit (.cmovcc .e .qword .rax (.mem (.rsbCodeptr i)))) env st = .ok ((), st') ∧
      Appended st st' ∧ codeSince st st' = rsbScanCode is := by
  induction is generalizing st with
  | nil => exact ⟨st, rfl, ⟨List.prefix_refl _, le_rfl, by simp [codeSince]⟩, by simp [codeSince, rsbScanCode]⟩
  | cons i is ih =>
    obtain ⟨st', emits, appended, code⟩ := ih ((st.after env (.cmp .qword (.reg .rbx)
      (.mem (.rsbLocationDescriptor i)))).after env (.cmovcc .e .qword .rax (.mem (.rsbCodeptr i))))
    have pair : Appended st ((st.after env (.cmp .qword (.reg .rbx) (.mem (.rsbLocationDescriptor i)))).after env (.cmovcc .e .qword .rax (.mem (.rsbCodeptr i)))) :=
      ⟨by simp [EmitState.after], le_rfl, by simp [codeSince, EmitState.after]⟩
    refine ⟨st', by simpa only [List.forM_cons, bind_apply, emit_apply] using emits, pair.trans appended, ?_⟩
    rw [codeSince_trans pair.grows appended.grows, code]
    simp [codeSince, EmitState.after, rsbScanCode]

/-- Running the scan leaves in `rax` the code pointer of the last entry whose hash is `rbx`, or
what `rax` held when there is none. -/
theorem run_rsbScanCode (host : HostFn → Machine → Machine) (is : List Nat) (m : Machine) :
    ∃ m', run host (rsbScanCode is) none m = .next m' ∧ m'.jit = m.jit ∧ m'.calls = m.calls ∧
      m'.gpr .rax = is.foldl (fun acc i => if m.jit.rsb_location_descriptors i = m.gpr .rbx
        then m.jit.rsb_codeptrs i else acc) (m.gpr .rax) := by
  induction is generalizing m with
  | nil => exact ⟨m, by simp [rsbScanCode, run_nil], rfl, rfl, rfl⟩
  | cons i is ih =>
    obtain ⟨m', runs, jit, calls, rax⟩ := ih ((m.setFlags (subFlags (m.gpr .rbx) (m.jit.rsb_location_descriptors i) false (m.gpr .rbx - m.jit.rsb_location_descriptors i))).setGpr .rax (if m.jit.rsb_location_descriptors i = m.gpr .rbx then m.jit.rsb_codeptrs i else m.gpr .rax))
    refine ⟨m', ?_, by simpa using jit, by simpa using calls, by simpa using rax⟩
    simpa [rsbScanCode_cons, run_exec, Instr.straight, exec, alu, readOp, writeOp, readField,
      Mem.width, Width.bits, mergeGpr, cond_e_cmp, BitVec.toNat_eq, eq_comm] using runs

section Leaves

variable (env : EmitEnv) (L : Arm.LocationDescriptor) (st : EmitState)

theorem emits_LinkBlock (fits : PatchSitesFit env) (next : Arm.LocationDescriptor) :
    EmitsTerminal env L (.LinkBlock next) st := by
  obtain ⟨st₁, flags_emit, flags_appended, flags_run⟩ := EmitLinkFlags_spec next L env st
  cases linked : env.block_descriptors next.UniqueHash with
  | none =>
    simp only [EmitsTerminal, EmitTerminal, bind_apply, flags_emit, emit_apply, recordPatch_apply, GetBasicBlock, env_apply, pure_apply, EmitPatchJg, getCurr_apply, EnsurePatchLocationSize, linked, Option.map_none', Nat.sub_self, Nat.zero_le, if_true, Except.ok.injEq, Prod.mk.injEq, true_and, exists_eq_left']
    refine ⟨flags_appended.trans ⟨by simp, le_rfl, by simp [codeSince]⟩, fun host m => ?_⟩
    obtain ⟨m₁, run₁, jit₁, calls₁⟩ := flags_run host m
    rw [codeSince_trans flags_appended.grows ?grows, run_append_next _ _ run₁]
    case grows => simp
    simp [TerminalSpec, linked, codeSince, run_exec, run_jcc_ptr, run_ReturnFromRunCode, exec, alu, readOp, writeOp, readField, writeField, Mem.width, immValue, Width.bits, Instr.straight, jit₁, JitState.setPC]
  | some d =>
    simp only [EmitsTerminal, EmitTerminal, bind_apply, flags_emit, emit_apply, recordPatch_apply, GetBasicBlock, env_apply, pure_apply, EmitPatchJg, getCurr_apply, EnsurePatchLocationSize, linked, Option.map_some', Nat.add_sub_cancel_left, fits.jg, if_true, Except.ok.injEq, Prod.mk.injEq, true_and, exists_eq_left']
    refine ⟨flags_appended.trans ⟨by simp, le_rfl, by simp [codeSince]⟩, fun host m => ?_⟩
    obtain ⟨m₁, run₁, jit₁, calls₁⟩ := flags_run host m
    rw [codeSince_trans flags_appended.grows ?grows, run_append_next _ _ run₁]
    case grows => simp
    by_cases pos : 0 < m.jit.cycles_remaining.toInt <;>
    simp [TerminalSpec, linked, pos, codeSince, run_exec, run_jcc_ptr, run_ReturnFromRunCode, exec, alu, readOp, writeOp, readField, writeField, Mem.width, immValue, Width.bits, Instr.straight, jit₁, cond_g_cmp_zero, JitState.setPC]

/-- The hash `PopRSBHint` builds from the CPSR, the FPSCR mode bits and the PC is the
`UniqueHash` of the guest's location: `AND 0x220` and `SHR 2` move T and E from CPSR bits 5 and 9
down to bits 3 and 7. -/
theorem popRSBHint_key (j : JitState) :
    (BitVec.setWidth 64 ((j.Cpsr &&& 544#32) >>> 2) ||| BitVec.setWidth 64 j.FPSCR_mode) <<< 32 |||
      BitVec.setWidth 64 (j.Reg Arm.Reg.PC) = j.location.UniqueHash := by
  have moved : (j.Cpsr &&& 544#32) >>> 2 = (BitVec.ofBool (j.Cpsr.getLsbD 5)).setWidth 32 <<< 3 |||
      (BitVec.ofBool (j.Cpsr.getLsbD 9)).setWidth 32 <<< 7 := by
    rw [show 544#32 = BitVec.twoPow 32 5 ||| BitVec.twoPow 32 9 by decide, and_two_flags]
    cases j.Cpsr.getLsbD 5 <;> cases j.Cpsr.getLsbD 9 <;> decide
  simp only [JitState.location, Arm.LocationDescriptor.UniqueHash, moved, BitVec.setWidth_or]

theorem emits_PopRSBHint : EmitsTerminal env L .PopRSBHint st := by
  set keyed := ((((((((st.after env (.mov .dword (.reg .rbx) (.mem .cpsr))).after env
    (.mov .dword (.reg .rcx) (.mem (.reg Arm.Reg.PC)))).after env
    (.and_ .dword (.reg .rbx) (.imm ((1 <<< 5) ||| (1 <<< 9))))).after env
    (.shr .dword (.reg .rbx) (.imm 2))).after env
    (.or_ .dword (.reg .rbx) (.mem .fpscrMode))).after env
    (.shl .qword (.reg .rbx) (.imm 32))).after env
    (.or_ .qword (.reg .rbx) (.reg .rcx))).after env
    (.mov .qword (.reg .rax) (.imm env.ReturnFromRunCodeAddress.toNat))) with keyed_def
  obtain ⟨st₁, scan_emits, scan_appended, scan_code⟩ :=
    rsbScan_emits env (List.range env.RSBSize) keyed
  have key_appended : Appended st keyed :=
    ⟨by simp [keyed_def, EmitState.after], le_rfl, by simp [keyed_def, codeSince, EmitState.after]⟩
  have jumped : Appended st₁ (st₁.after env (.jmp (.reg .rax))) :=
    ⟨by simp [EmitState.after], le_rfl, by simp [codeSince, EmitState.after]⟩
  refine ⟨st₁.after env (.jmp (.reg .rax)), ?_, key_appended.trans (scan_appended.trans jumped),
    fun host m => ?_⟩
  · simp only [keyed_def, EmitState.after] at scan_emits
    simp only [EmitTerminal, bind_apply, env_apply, emit_apply, scan_emits]
    rfl
  · obtain ⟨M, key_runs, M_jit, M_calls, M_rbx, M_rax⟩ : ∃ M, run host (codeSince st keyed) none m = .next M ∧
        M.jit = m.jit ∧ M.calls = m.calls ∧ M.gpr .rbx = m.jit.location.UniqueHash ∧ M.gpr .rax = env.ReturnFromRunCodeAddress := by
      simp [keyed_def, codeSince, EmitState.after, run_exec, run_nil, Instr.straight, exec, alu, shift, maskCount, readOp, writeOp, readField, Mem.width, immValue, Width.bits, mergeGpr, popRSBHint_key]
    obtain ⟨M', scan_runs, scan_jit, scan_calls, scan_rax⟩ := run_rsbScanCode host (List.range env.RSBSize) M
    rw [codeSince_trans key_appended.grows (scan_appended.trans jumped).grows,
      codeSince_trans scan_appended.grows jumped.grows, scan_code, run_append_next _ _ key_runs,
      run_append_next _ _ scan_runs]
    simp [TerminalSpec, codeSince, EmitState.after, run_jmp_reg, scan_jit, scan_rax, M_jit, M_rbx, M_rax, RSBLookup]

end Leaves

end Dynarmic.BackendX64
