import Dynarmic.Proofs.Terminal

/-!
# The condition prelude and cycle accounting

`EmitCondPrelude` guards a conditional block: its code falls through into the block body
exactly when ARM `ConditionPassed` holds, and otherwise charges the condition-failed cycles and
leaves through a `LinkBlock` terminal. `EmitAddCycles` charges cycles with `SUB qword, imm32`,
whose immediate the processor sign-extends: a count of `2^31` or more, which its assertion
admits, is added to `cycles_remaining` rather than subtracted.
-/

namespace Dynarmic.BackendX64

open X64 IR EmitM

/-! ### Charging cycles -/

/-- What `SUB qword, imm32` with an immediate of `2^31` or more does: the sign-extended
immediate is `2^32` below the count, so the subtraction adds `2^32` minus the count. -/
theorem sub_signExtend_of_high (x : BitVec 64) {c : Nat} (high : 2 ^ 31 ≤ c) (small : c < 2 ^ 32) :
    x - (BitVec.ofNat 32 c).signExtend 64 = x + BitVec.ofNat 64 (2 ^ 32 - c) := by
  have msb : (BitVec.ofNat 32 c).msb = true := by
    simp [BitVec.msb_eq_decide, Nat.mod_eq_of_lt small]
    omega
  rw [BitVec.signExtend_eq_not_setWidth_not_of_msb_true msb]
  apply BitVec.eq_of_toNat_eq
  have := x.isLt
  simp [BitVec.toNat_sub, BitVec.toNat_add, BitVec.toNat_not, Nat.mod_eq_of_lt small]
  omega

/-! ### The prelude -/

/-- `EmitAddCycles` subtracts its immediate from `cycles_remaining` as `SUB qword, imm32` does:
sign-extended to 64 bits. -/
theorem EmitAddCycles_spec (cycles : Nat) (fits : cycles < 2 ^ 32 - 1) (env : EmitEnv)
    (st : EmitState) :
    ∃ st', EmitAddCycles cycles env st = .ok ((), st') ∧ Appended st st' ∧
      ∀ host m, ∃ m', run host (codeSince st st') none m = .next m' ∧
        m'.jit = { m.jit with cycles_remaining :=
          m.jit.cycles_remaining - (BitVec.ofNat 32 cycles).signExtend 64 } ∧ m'.calls = m.calls := by
  have small : cycles < 4294967296 := by omega
  simp only [EmitAddCycles, bind_apply, assert_apply, decide_eq_true fits, if_true, emit_apply,
    Except.ok.injEq, Prod.mk.injEq, true_and, exists_eq_left']
  refine ⟨⟨by simp, le_rfl, by simp [codeSince]⟩, fun host m => ?_⟩
  simp [codeSince, run_exec, run_nil, Instr.straight, exec, alu, readOp, writeOp, readField,
    writeField, Mem.width, immValue, Width.bits, Nat.mod_eq_of_lt small]

/-- `EmitCondPrelude` emits nothing for a block whose condition is `AL`. For any other of the
14 conditions its code falls through into the block body, guest state unchanged, when the
condition passes, and otherwise charges the condition-failed cycles and leaves by the `LinkBlock`
to the condition-failed location. -/
theorem EmitCondPrelude_spec (env : EmitEnv) (fits : PatchSitesFit env) (block : Block)
    (st : EmitState) (handled : block.GetCondition ≠ .NV)
    (located : block.HasConditionFailedLocation = (block.GetCondition != .AL))
    (charged : block.GetCondition ≠ .AL → block.ConditionFailedCycleCount < 2 ^ 32 - 1) :
    ∃ st', EmitCondPrelude block env st = .ok ((), st') ∧ ∀ host m,
      if Arm.conditionPassed block.GetCondition m.jit.Cpsr then
        ∃ m', run host (codeSince st st') none m = .next m' ∧ m'.jit = m.jit
      else TerminalSpec env block.Location host { m.jit with cycles_remaining :=
          m.jit.cycles_remaining - (BitVec.ofNat 32 block.ConditionFailedCycleCount).signExtend 64 }
        m.calls (.LinkBlock block.ConditionFailedLocation) (run host (codeSince st st') none m) := by
  by_cases always : block.GetCondition = .AL
  · simp only [bne_self_eq_false, always] at located
    refine ⟨st, by simp [EmitCondPrelude, always, located], fun host m => ?_⟩
    simp [always, Arm.conditionPassed, codeSince, run_nil]
  rw [bne_iff_ne.mpr always] at located
  obtain ⟨st₁, cond_emits, cond_appended, made, cond_runs⟩ :=
    EmitCond_spec block.GetCondition ⟨always, handled⟩ env st
  obtain ⟨st₂, add_emits, add_appended, add_runs⟩ :=
    EmitAddCycles_spec block.ConditionFailedCycleCount (charged always) env st₁
  obtain ⟨st₃, link_emits, link_appended, link_reaches⟩ :=
    emits_LinkBlock env block.Location st₂ fits block.ConditionFailedLocation
  have body := (cond_appended.trans add_appended).trans link_appended
  refine ⟨{ st₃ with log := st₃.log ++ [(st₃.cur, .L (.fresh st.labels))] }, ?_, fun host m => ?_⟩
  · simp [EmitCondPrelude, always, located, cond_emits, add_emits, link_emits]
  have code : codeSince st { st₃ with log := st₃.log ++ [(st₃.cur, .L (.fresh st.labels))] } =
      codeSince st st₁ ++ (codeSince st₁ st₂ ++ (codeSince st₂ st₃ ++ [.L (.fresh st.labels)])) := by
    rw [codeSince_trans body.grows (List.prefix_append _ _),
      codeSince_trans (cond_appended.trans add_appended).grows link_appended.grows,
      codeSince_trans cond_appended.grows add_appended.grows]
    simp [codeSince]
  obtain ⟨m₁, jit₁, calls₁, runs₁⟩ := cond_runs host _ m
  rw [code, runs₁]
  split
  · have older₂ : st.labels < st₂.labels := made.trans_le add_appended.labels
    rw [run_append_skip _ _ _ (add_appended.not_places made),
      run_append_skip _ _ _ (link_appended.not_places older₂)]
    exact ⟨m₁, by simp [run_skip, Instr.places, run_nil], jit₁⟩
  · obtain ⟨m₂, runs₂, jit₂, calls₂⟩ := add_runs host m₁
    obtain ⟨e, m₃, leaves⟩ := (link_reaches host m₂).exits
    rw [run_append_next _ _ runs₂, run_append_exit _ _ leaves, ← leaves]
    simpa [jit₂, jit₁, calls₂, calls₁] using link_reaches host m₂

/-- A `LinkBlock` leaf leaves `cycles_remaining` as it found it. -/
theorem TerminalSpec.linkBlock_cycles {env : EmitEnv} {L next : Arm.LocationDescriptor} {host j calls}
    {o : Outcome} (h : TerminalSpec env L host j calls (.LinkBlock next) o) :
    ∃ e m, o = .exit e m ∧ m.jit.cycles_remaining = j.cycles_remaining := by
  simp only [TerminalSpec] at h
  split at h
  · split at h <;> obtain ⟨m, rfl, same⟩ := h <;> exact ⟨_, m, rfl, by simp [same, JitState.setPC]⟩
  · obtain ⟨m, rfl, same⟩ := h
    exact ⟨_, m, rfl, by simp [same, JitState.setPC]⟩

/-! ### Terminals and the prelude, for every tree and every guest state -/

/-- An emission environment with one-byte instructions, no block emitted yet and eight RSB
entries. -/
def unitEnv : EmitEnv where
  cpu_info _ := false
  page_table := false
  block_descriptors _ := none
  ReturnFromRunCodeAddress := 0
  size _ := 1
  jit_interface := 0
  user_arg := 0
  RSBSize := 8

theorem unitEnv_fits : PatchSitesFit unitEnv :=
  ⟨fun _ => by simp [unitEnv], fun _ => by simp [unitEnv], fun _ _ => by simp [unitEnv]⟩

/-- The emission state at the start of `block`: an empty code buffer, no patch sites, no
allocator requests and no labels. -/
def startState (block : Block) : EmitState := ⟨0, [], fun _ => ⟨[], [], []⟩, [], block, 0⟩

/-- A block at PC 0 that runs only on `EQ` and charges `2^31` cycles when the condition fails,
linking to PC 4 then. -/
def failingCyclesBlock : Block where
  location := ⟨0, false, false, 0⟩
  cond := .EQ
  cond_failed := some ⟨4, false, false, 0⟩
  cond_failed_cycle_count := 0x80000000
  insts := []
  instructions := []
  terminal := .ReturnToDispatch
  cycle_count := 1

/-- When the condition of a block fails, its prelude charges a condition-failed cycle count of
`2^31` or more, which `EmitAddCycles` accepts, as a credit: the block leaves with
`cycles_remaining` increased by `2^32` minus the count. -/
theorem EmitCondPrelude_credits_high_cycles (env : EmitEnv) (fits : PatchSitesFit env)
    (block : Block) (st : EmitState) (handled : block.GetCondition ≠ .NV)
    (located : block.HasConditionFailedLocation = (block.GetCondition != .AL))
    (charged : block.ConditionFailedCycleCount < 2 ^ 32 - 1)
    (high : 2 ^ 31 ≤ block.ConditionFailedCycleCount) :
    ∃ st', EmitCondPrelude block env st = .ok ((), st') ∧ ∀ host m,
      Arm.conditionPassed block.GetCondition m.jit.Cpsr = false →
      ∃ e m', run host (codeSince st st') none m = .exit e m' ∧
        m'.jit.cycles_remaining =
          m.jit.cycles_remaining + BitVec.ofNat 64 (2 ^ 32 - block.ConditionFailedCycleCount) := by
  obtain ⟨st', emits, runs⟩ :=
    EmitCondPrelude_spec env fits block st handled located fun _ => charged
  refine ⟨st', emits, fun host m failed => ?_⟩
  have leaves := runs host m
  simp only [failed, Bool.false_eq_true, if_false] at leaves
  obtain ⟨e, m', exits, cycles⟩ := leaves.linkBlock_cycles
  exact ⟨e, m', exits, by rw [cycles]; exact sub_signExtend_of_high _ high (by omega)⟩

theorem EmitCondPrelude_credits_high_cycles_at_2_31 :
    PatchSitesFit unitEnv ∧ failingCyclesBlock.GetCondition ≠ .NV ∧
    failingCyclesBlock.HasConditionFailedLocation = (failingCyclesBlock.GetCondition != .AL) ∧
    failingCyclesBlock.ConditionFailedCycleCount < 2 ^ 32 - 1 ∧
    2 ^ 31 ≤ failingCyclesBlock.ConditionFailedCycleCount ∧
    ∃ st', EmitCondPrelude failingCyclesBlock unitEnv (startState failingCyclesBlock) =
      .ok ((), st') ∧ ∀ host m,
      Arm.conditionPassed failingCyclesBlock.GetCondition m.jit.Cpsr = false →
      ∃ e m', run host (codeSince (startState failingCyclesBlock) st') none m = .exit e m' ∧
        m'.jit.cycles_remaining = m.jit.cycles_remaining + 0x80000000#64 :=
  ⟨unitEnv_fits, by decide, by decide, by decide, by decide,
    EmitCondPrelude_credits_high_cycles unitEnv unitEnv_fits failingCyclesBlock
      (startState failingCyclesBlock) (by decide) (by decide) (by decide) (by decide)⟩

end Dynarmic.BackendX64
