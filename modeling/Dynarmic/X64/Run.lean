import Dynarmic.X64.Compare

namespace Dynarmic.X64

/-- Whether `step` hands an instruction to `exec`: every instruction but labels, jumps, calls
and exits. -/
def Instr.straight : Instr → Bool
  | .L _ | .jmp _ | .jcc _ _ | .ReturnFromRunCode _ | .int3 | .CallFunction _ => false
  | _ => true

/-- The only instruction that places a label is the label itself. -/
theorem Instr.places_eq_true {l : Label} {i : Instr} : i.places l = true ↔ i = .L l := by
  cases i <;> simp [Instr.places]

section Listing

variable (host : HostFn → Machine → Machine) (rest : List Instr) (m : Machine)

theorem run_nil : run host [] none m = .next m := by simp only [run]

theorem run_exec {i : Instr} (hi : i.straight = true) :
    run host (i :: rest) none m =
      if (exec m i).isSome then run host rest none ((exec m i).getD m) else .stuck := by
  cases i <;> simp only [Instr.straight, Bool.false_eq_true] at hi <;>
    simp only [run, step] <;> cases exec m _ <;> simp

theorem run_L (l : Label) : run host (.L l :: rest) none m = run host rest none m := by
  simp only [run, step]

theorem run_jmp (l : Label) :
    run host (.jmp (.label l) :: rest) none m = run host rest (some l) m := by
  simp only [run, step, jumpTo]

theorem run_jcc (cc : CondCode) (l : Label) :
    run host (.jcc cc (.label l) :: rest) none m =
      if (cc.eval m.flags).isSome then
        (if (cc.eval m.flags).getD false then run host rest (some l) m else run host rest none m)
      else .stuck := by
  simp only [run, step, jumpTo]
  rcases cc.eval m.flags with _ | _ | _ <;> simp

theorem run_jcc_ptr (cc : CondCode) (p : BitVec 64) :
    run host (.jcc cc (.ptr p) :: rest) none m =
      if (cc.eval m.flags).isSome then
        (if (cc.eval m.flags).getD false then .exit (.jump p) m else run host rest none m)
      else .stuck := by
  simp only [run, step, jumpTo]
  rcases cc.eval m.flags with _ | _ | _ <;> simp

theorem run_jmp_reg (r : Gpr) :
    run host (.jmp (.reg r) :: rest) none m = .exit (.jump (m.gpr r)) m := by
  simp only [run, step, jumpTo]

theorem run_ReturnFromRunCode (c : Bool) :
    run host (.ReturnFromRunCode c :: rest) none m = .exit (.returnFromRunCode c) m := by
  simp only [run, step]

theorem run_CallFunction (f : HostFn) :
    run host (.CallFunction f :: rest) none m =
      run host rest none (host f { m with calls := f :: m.calls }) := by
  simp only [run, step]

theorem run_skip (l : Label) (i : Instr) :
    run host (i :: rest) (some l) m = run host rest (if i.places l then none else some l) m := by
  simp only [run]

end Listing

section Append

variable (host : HostFn → Machine → Machine)

/-- Code that leaves the listing leaves it whatever follows. -/
theorem run_append_exit {c : List Instr} {s : Option Label} {m m' : Machine} {e : Exit}
    (d : List Instr) (leaves : run host c s m = .exit e m') : run host (c ++ d) s m = .exit e m' := by
  induction c generalizing s m with
  | nil => cases s <;> simp [run] at leaves
  | cons i c ih =>
    cases s with
    | some l => exact ih (by simpa only [run] using leaves)
    | none =>
      simp only [List.cons_append, run] at leaves ⊢
      cases hs : step host m i <;> simp only [hs, reduceCtorEq] at leaves ⊢
      · exact ih leaves
      · exact ih leaves
      · exact leaves

/-- Code that falls through its end continues into what follows. -/
theorem run_append_next {c : List Instr} {s : Option Label} {m m' : Machine} (d : List Instr)
    (falls : run host c s m = .next m') : run host (c ++ d) s m = run host d none m' := by
  induction c generalizing s m with
  | nil => cases s <;> simp [run] at falls ⊢; exact falls ▸ rfl
  | cons i c ih =>
    cases s with
    | some l => exact ih (by simpa only [run] using falls)
    | none =>
      simp only [List.cons_append, run] at falls ⊢
      cases hs : step host m i <;> simp only [hs, reduceCtorEq] at falls ⊢
      · exact ih falls
      · exact ih falls

/-- A forward jump passes over code that does not place its label. -/
theorem run_append_skip {c : List Instr} {l : Label} (m : Machine) (d : List Instr)
    (elsewhere : ∀ i ∈ c, i.places l = false) :
    run host (c ++ d) (some l) m = run host d (some l) m := by
  induction c with
  | nil => rfl
  | cons i c ih =>
    simp only [List.cons_append, run, elsewhere i (List.mem_cons_self _ _), Bool.false_eq_true,
      if_false]
    exact ih fun j hj => elsewhere j (List.mem_cons_of_mem _ hj)

end Append

end Dynarmic.X64
