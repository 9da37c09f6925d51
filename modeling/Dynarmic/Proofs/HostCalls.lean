import Dynarmic.BackendX64.HostCalls
import Dynarmic.Proofs.Rsb

/-!
# Calls out of emitted code

Each host-call emitter makes exactly one call, to the function it names, with the guest-state
pointer `r15` in the argument register of the parameter the callee's signature takes it in,
and with the host's MXCSR switched in around the call. The registers `HostCall` marshalled are
left as they were, and the code falls through with the machine the callee returns.
-/

namespace Dynarmic.X64

/-- The position of the guest-state pointer among a host function's parameters, from its
signature: `GetFpscrImpl(JitState*)` and `SetFpscrImpl(u32 value, JitState*)`. -/
def HostFn.jitStateParam : HostFn → Option Nat
  | .GetFpscrImpl => some 0
  | .SetFpscrImpl => some 1
  | .InterpreterFallback | .CallSVC => none

end Dynarmic.X64

namespace Dynarmic.BackendX64

open X64 IR EmitM

/-- The integer argument registers of the host calling convention, by position. -/
def argReg : Nat → Option Gpr
  | 0 => some ABI_PARAM1
  | 1 => some ABI_PARAM2
  | 2 => some ABI_PARAM3
  | _ => none

/-- The machine a call to `f` should see: `r15` copied into the argument register of `f`'s
guest-state parameter, if it has one, and nothing else changed. -/
def passGuestState (f : HostFn) (m : Machine) : Machine :=
  match f.jitStateParam.bind argReg with
  | some r => m.setGpr r (m.gpr .r15)
  | none => m

/-- The host's MXCSR switched in, the call, the guest's switched back. -/
def callCode (f : HostFn) : List Instr := [.SwitchMxcsrOnExit, .CallFunction f, .SwitchMxcsrOnEntry]

/-- Code that calls out to `f`. -/
structure CallsOut (code : List Instr) (f : HostFn) : Prop where
  /-- Straight-line set-up, then the call between the MXCSR switches. -/
  shape : ∃ setup, code = setup ++ callCode f ∧ ∀ i ∈ setup, i.straight = true
  /-- From every machine, `f` is called once, on the machine `passGuestState f` makes, and the
  code falls through with what `f` returns. -/
  runs : ∀ host m, run host code none m = .next (host f { passGuestState f m with calls := f :: m.calls })

theorem passGuestState_calls (f : HostFn) (m : Machine) : (passGuestState f m).calls = m.calls := by
  unfold passGuestState
  split <;> simp

theorem afterAll_calls (env : EmitEnv) (st : EmitState) (c : List Instr) :
    (st.afterAll env c).calls = st.calls := by
  induction c generalizing st with
  | nil => rfl
  | cons i c ih => exact ih (st.after env i)

theorem run_callCode (host : HostFn → Machine → Machine) (f : HostFn) (m : Machine) :
    run host (callCode f) none m = .next (host f { m with calls := f :: m.calls }) := by
  simp [callCode, run_exec, run_CallFunction, run_nil, Instr.straight, exec]

theorem EmitCallHost_emits (f : HostFn) (env : EmitEnv) (st : EmitState) :
    EmitCallHost f env st = .ok ((), st.afterAll env (callCode f)) := by
  simp [EmitCallHost, callCode, EmitState.afterAll, EmitState.after]

/-- A host call whose set-up is `setup`: the requests `calls`, then `setup`, then the call. -/
theorem callsOut_of_emits {emitter : Nat → EmitM Unit} {env : EmitEnv} {st : EmitState}
    {inst : Nat} (requests : List AllocCall) (setup : List Instr) (f : HostFn)
    (emits : emitter inst env st =
      .ok ((), ({ st with calls := st.calls ++ requests } : EmitState).afterAll env
        (setup ++ callCode f)))
    (straight : ∀ i ∈ setup, i.straight = true)
    (runs : ∀ host m, run host setup none m = .next (passGuestState f m)) :
    ∃ st', emitter inst env st = .ok ((), st') ∧ Appended st st' ∧
      st'.calls = st.calls ++ requests ∧ CallsOut (codeSince st st') f := by
  set S : EmitState := { st with calls := st.calls ++ requests }
  have unlabelled : ∀ l, .L l ∉ setup ++ callCode f := by
    intro l member
    simp only [List.mem_append, callCode, List.mem_cons, List.mem_singleton,
      List.not_mem_nil, or_false] at member
    rcases member with member | member
    · simpa [Instr.straight] using straight _ member
    · rcases member with h | h | h <;> cases h
  obtain ⟨appended, code⟩ := afterAll_appended env _ unlabelled S
  have moved : codeSince st (S.afterAll env (setup ++ callCode f)) = setup ++ callCode f := code
  refine ⟨_, emits, ⟨appended.grows, appended.labels, appended.fresh⟩, afterAll_calls env S _,
    ⟨⟨setup, moved, straight⟩, fun host m => ?_⟩⟩
  rw [moved, run_append_next _ _ (runs host m), run_callCode, passGuestState_calls]

/-- Every host-call emitter calls the function it names once, with the guest-state pointer in
the argument register of the parameter that function's signature takes it in, between the
MXCSR switches, after asking the allocator for the `HostCall` that marshals its arguments. -/
theorem host_call_emitters_spec (env : EmitEnv) (st : EmitState) (inst : Nat) :
    (∃ st', EmitCallSupervisor inst env st = .ok ((), st') ∧ Appended st st' ∧
      st'.calls = st.calls ++ [.HostCall none [(st.block.inst inst).GetArg 0]] ∧
      CallsOut (codeSince st st') .CallSVC) ∧
    (∃ st', EmitGetFpscr inst env st = .ok ((), st') ∧ Appended st st' ∧
      st'.calls = st.calls ++ [.HostCall (some inst) []] ∧
      CallsOut (codeSince st st') .GetFpscrImpl) ∧
    (∃ st', EmitSetFpscr inst env st = .ok ((), st') ∧ Appended st st' ∧
      st'.calls = st.calls ++ [.HostCall none [(st.block.inst inst).GetArg 0]] ∧
      CallsOut (codeSince st st') .SetFpscrImpl) := by
  refine ⟨callsOut_of_emits _ [] .CallSVC ?_ (by simp) fun host m => ?_,
    callsOut_of_emits _ [.mov .qword (.reg ABI_PARAM1) (.reg .r15)] .GetFpscrImpl ?_ (by simp [Instr.straight])
      fun host m => ?_,
    callsOut_of_emits _ [.mov .qword (.reg ABI_PARAM2) (.reg .r15)] .SetFpscrImpl ?_ (by simp [Instr.straight])
      fun host m => ?_⟩
  all_goals simp [EmitCallSupervisor, EmitGetFpscr, EmitSetFpscr, HostCall, EmitCallHost_emits,
    callCode, EmitState.afterAll, EmitState.after, run_exec, run_nil, Instr.straight, exec, readOp,
    writeOp, mergeGpr, Width.bits, passGuestState, HostFn.jitStateParam, argReg]

end Dynarmic.BackendX64
