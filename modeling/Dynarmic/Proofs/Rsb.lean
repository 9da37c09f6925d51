import Dynarmic.BackendX64.Rsb
import Dynarmic.Proofs.Prelude

/-!
# The return stack buffer

The code `EmitPushRSB` writes pushes onto the ring as `JitState.pushRSB` says: one lemma runs
the unrolled scan, and the emitter's lemma composes it with the code around it. Over the ring,
`RsbStep` is what the guest does to it between two blocks: the code of a push, or code that
leaves the ring alone, `PopRSBHint` among them. Every run of such steps keeps the ring
well formed (`RsbInv`: the cursor in range, each hash but the reset sentinel in one entry at
most) and sound (`RsbSound`: each entry's code pointer is the dispatcher's return or the entry
of the block emitted for its hash), so the jump `PopRSBHint` takes is always one of those two.
-/

namespace Dynarmic.X64

/-- The RSB after pushing `hash` with `code_ptr` onto a ring of `size` entries: unchanged when
one of the entries holds the hash already, otherwise the pair is stored in the slot after
`rsb_ptr`, which becomes the new `rsb_ptr`. -/
def JitState.pushRSB (j : JitState) (size : Nat) (hash code_ptr : BitVec 64) : JitState :=
  if (List.range size).any fun i => j.rsb_location_descriptors i = hash then j
  else
    let index := (j.rsb_ptr + 1) &&& BitVec.ofNat 32 (size - 1)
    { j with
      rsb_ptr := index
      rsb_location_descriptors := Function.update j.rsb_location_descriptors index.toNat hash
      rsb_codeptrs := Function.update j.rsb_codeptrs index.toNat code_ptr }

end Dynarmic.X64

namespace Dynarmic.BackendX64

open X64 IR EmitM

/-! ### The code of a push -/

/-- Modelled from the spec: `EmitPatchMovRcx` pads its site to 10 bytes and asserts that the
`MOV RCX, imm64` it writes fits, which the assembler's encoding of it does. -/
def MovRcxFits (env : EmitEnv) : Prop := ∀ p : Nat, env.size (.mov .qword (.reg .rcx) (.imm p)) ≤ 10

/-- The code pointer `EmitPushRSB` stores with `hash`: the entry of the block emitted for it,
or the dispatcher's return while there is none. -/
def EmitEnv.pushTarget (env : EmitEnv) (hash : BitVec 64) : BitVec 64 :=
  match env.block_descriptors hash with
  | some d => d.code_ptr
  | none => env.ReturnFromRunCodeAddress

/-- The scan `EmitPushRSB` unrolls: compare the hash in `r` with each entry's and leave for `l`
on a match. -/
def pushScanCode (r : Gpr) (l : Label) (is : List Nat) : List Instr :=
  is.flatMap fun i => [.cmp .qword (.reg r) (.mem (.rsbLocationDescriptor i)), .jcc .e (.label l)]

theorem pushScanCode_cons (r : Gpr) (l : Label) (i : Nat) (is : List Nat) :
    pushScanCode r l (i :: is) = .cmp .qword (.reg r) (.mem (.rsbLocationDescriptor i)) ::
      .jcc .e (.label l) :: pushScanCode r l is := rfl

/-- The state after emitting each instruction of `c` in turn. -/
def EmitState.afterAll (env : EmitEnv) (st : EmitState) (c : List Instr) : EmitState :=
  c.foldl (EmitState.after env) st

/-- Emitting code that places no label appends exactly that code. -/
theorem afterAll_appended (env : EmitEnv) (c : List Instr) (unlabelled : ∀ l, .L l ∉ c)
    (st : EmitState) : Appended st (st.afterAll env c) ∧ codeSince st (st.afterAll env c) = c := by
  induction c generalizing st with
  | nil => exact ⟨⟨List.prefix_refl _, le_rfl, by simp [EmitState.afterAll, codeSince]⟩,
    by simp [EmitState.afterAll, codeSince]⟩
  | cons i c ih =>
    obtain ⟨appended, code⟩ := ih (fun l mem => unlabelled l (List.mem_cons_of_mem i mem)) (st.after env i)
    have one : Appended st (st.after env i) :=
      ⟨by simp [EmitState.after], le_rfl, fun l mem => by
        simp only [codeSince, EmitState.after, List.length_append, List.drop_left, List.map_cons, List.map_nil, List.mem_singleton] at mem
        exact absurd (mem ▸ List.mem_cons_self i c) (unlabelled l)⟩
    refine ⟨one.trans appended, ?_⟩
    rw [EmitState.afterAll, List.foldl_cons, ← EmitState.afterAll, codeSince_trans one.grows appended.grows, code]
    simp [codeSince, EmitState.after]

theorem pushScan_emits (env : EmitEnv) (r : Gpr) (l : Label) (is : List Nat) (st : EmitState) :
    (is.forM fun i => do
        emit (.cmp .qword (.reg r) (.mem (.rsbLocationDescriptor i)))
        emit (.jcc .e (.label l))) env st = .ok ((), st.afterAll env (pushScanCode r l is)) := by
  induction is generalizing st with
  | nil => rfl
  | cons i is ih => exact ih _

theorem pushScanCode_not_places (r : Gpr) (l l' : Label) (is : List Nat) :
    ∀ i ∈ pushScanCode r l is, i.places l' = false := by
  intro i mem
  simp only [pushScanCode, List.mem_flatMap, List.mem_cons, List.mem_singleton,
    List.not_mem_nil, or_false] at mem
  obtain ⟨_, _, rfl | rfl⟩ := mem <;> rfl

/-- Running the scan: on the first entry whose hash is the one in `r` it leaves for `l`, and it
falls through when there is none. Only the flags change. -/
theorem run_pushScanCode (host : HostFn → Machine → Machine) (r : Gpr) (l : Label)
    (is : List Nat) (rest : List Instr) (m : Machine) :
    ∃ f, run host (pushScanCode r l is ++ rest) none m =
      run host rest (if is.any fun i => m.jit.rsb_location_descriptors i = m.gpr r then some l
        else none) (m.setFlags f) := by
  induction is generalizing m with
  | nil => exact ⟨m.flags, by simp [pushScanCode]; rfl⟩
  | cons i is ih =>
    set F := subFlags (m.gpr r) (m.jit.rsb_location_descriptors i) false
      (m.gpr r - m.jit.rsb_location_descriptors i)
    by_cases found : m.jit.rsb_location_descriptors i = m.gpr r
    · have equal := cond_e_cmp (m.gpr r) (m.gpr r)
      rw [BitVec.sub_self] at equal
      refine ⟨F, ?_⟩
      simp [pushScanCode_cons, run_exec, run_jcc, Instr.straight, exec, alu, readOp, readField,
        Mem.width, Width.bits, found, F, equal,
        run_append_skip _ _ _ (pushScanCode_not_places r l l is)]
    · have differ : (m.gpr r).toNat ≠ (m.jit.rsb_location_descriptors i).toNat :=
        fun same => found (BitVec.eq_of_toNat_eq same).symm
      obtain ⟨f, runs⟩ := ih (m.setFlags F)
      refine ⟨f, ?_⟩
      simp [pushScanCode_cons, run_exec, run_jcc, Instr.straight, exec, alu, readOp, readField,
        Mem.width, Width.bits, cond_e_cmp, found, differ]
      simpa [F] using runs

/-- A dword index register holds its value zero-extended. -/
theorem toNat_setWidth_dword (x : BitVec 32) : (x.setWidth 64).toNat = x.toNat := by
  rw [BitVec.toNat_setWidth, Nat.mod_eq_of_lt (Nat.lt_trans x.isLt (by norm_num))]

/-- `EmitPushRSB` of a hash succeeds and only appends, and its code, from every machine, falls
through with the hash pushed with the code pointer of its block and no host function called. -/
theorem EmitPushRSB_spec (env : EmitEnv) (fits : MovRcxFits env) (st : EmitState) (inst : Nat)
    (hash : BitVec 64) (arg : (st.block.inst inst).GetArg 0 = .U64 hash) :
    ∃ st', EmitPushRSB inst env st = .ok ((), st') ∧ Appended st st' ∧
      ∀ host m, ∃ m', run host (codeSince st st') none m = .next m' ∧
        m'.jit = m.jit.pushRSB env.RSBSize hash (env.pushTarget hash) ∧ m'.calls = m.calls := by
  set target := env.pushTarget hash with target_def
  set index_reg : Gpr := .alloc (st.calls.length + 2)
  set loc_desc_reg : Gpr := .alloc (st.calls.length + 1)
  set loaded := (((({ st with calls := st.calls ++ [.ScratchGpr (some .rcx)] ++ [.ScratchGpr none] ++
      [.ScratchGpr none] } : EmitState).after env (.mov .dword (.reg index_reg) (.mem .rsbPtr))).after
      env (.add .dword (.reg index_reg) (.imm 1))).after env
      (.and_ .dword (.reg index_reg) (.imm (env.RSBSize - 1)))).after env
      (.mov .qword (.reg loc_desc_reg) (.imm hash.toNat)) with loaded_def
  set S : EmitState := { loaded.after env (.mov .qword (.reg .rcx) (.imm target.toNat)) with
      cur := loaded.cur + 10
      log := (loaded.after env (.mov .qword (.reg .rcx) (.imm target.toNat))).log ++
        [(loaded.cur + env.size (.mov .qword (.reg .rcx) (.imm target.toNat)), .nop)]
      patch_information := Function.update loaded.patch_information hash
        { loaded.patch_information hash with
          mov_rcx := (loaded.patch_information hash).mov_rcx ++ [loaded.cur] }
      labels := loaded.labels + 1 } with S_def
  set scanned := S.afterAll env (pushScanCode loc_desc_reg (.fresh st.labels) (List.range env.RSBSize))
  set stored := ((scanned.after env (.mov .dword (.mem .rsbPtr) (.reg index_reg))).after env
      (.mov .qword (.mem (.rsbLocationDescriptorAt index_reg)) (.reg loc_desc_reg))).after env
      (.mov .qword (.mem (.rsbCodeptrAt index_reg)) (.reg .rcx))
  obtain ⟨scan_appended, scan_code⟩ := afterAll_appended env
    (pushScanCode loc_desc_reg (.fresh st.labels) (List.range env.RSBSize)) (fun l mem => by
      simpa [Instr.places] using pushScanCode_not_places loc_desc_reg (.fresh st.labels) l _ _ mem) S
  have prefix_appended : Appended st S :=
    ⟨by simp [S_def, loaded_def, EmitState.after], by simp [S_def, loaded_def, EmitState.after],
      by simp [S_def, loaded_def, codeSince, EmitState.after]⟩
  have stores_appended : Appended scanned stored :=
    ⟨by simp [stored, EmitState.after], le_rfl, by simp [stored, codeSince, EmitState.after]⟩
  have placed := (prefix_appended.trans (scan_appended.trans stores_appended)).place le_rfl
    (Nat.lt_of_lt_of_le (by simp [S_def, loaded_def, EmitState.after])
      (scan_appended.trans stores_appended).labels)
  refine ⟨_, ?_, placed, fun host m => ?_⟩
  · simp only [MovRcxFits] at fits
    simp only [EmitPushRSB, bind_apply, GetArg_apply, arg, Value.IsImmediate_U64, assert_apply,
      if_true, Value.GetU64, env_apply, ScratchGpr_apply, Option.getD_some, Option.getD_none,
      emit_apply, recordPatch_apply, EmitPatchMovRcx, getCurr_apply, EnsurePatchLocationSize,
      Nat.add_sub_cancel_left, fits, newLabel_apply, pushScan_emits, EmitM.L_apply, List.length_append,
      List.length_singleton]
    rfl
  · have code : codeSince st { stored with log := stored.log ++ [(stored.cur, .L (.fresh st.labels))] } =
        codeSince st S ++ (pushScanCode loc_desc_reg (.fresh st.labels) (List.range env.RSBSize) ++
          [.mov .dword (.mem .rsbPtr) (.reg index_reg),
            .mov .qword (.mem (.rsbLocationDescriptorAt index_reg)) (.reg loc_desc_reg),
            .mov .qword (.mem (.rsbCodeptrAt index_reg)) (.reg .rcx), .L (.fresh st.labels)]) := by
      rw [codeSince_trans prefix_appended.grows
          ((scan_appended.trans stores_appended).grows.trans (List.prefix_append _ _)),
        codeSince_trans scan_appended.grows (stores_appended.grows.trans (List.prefix_append _ _)),
        scan_code]
      simp [stored, codeSince, EmitState.after]
    obtain ⟨M, prefix_runs, M_jit, M_calls, M_hash, M_index, M_target⟩ : ∃ M,
        run host (codeSince st S) none m = .next M ∧ M.jit = m.jit ∧ M.calls = m.calls ∧
        M.gpr loc_desc_reg = hash ∧
        M.gpr index_reg = ((m.jit.rsb_ptr + 1) &&& BitVec.ofNat 32 (env.RSBSize - 1)).setWidth 64 ∧
        M.gpr .rcx = target := by
      simp [S_def, loaded_def, codeSince, EmitState.after, run_exec, run_nil, Instr.straight, exec,
        alu, readOp, writeOp, readField, Mem.width, immValue, Width.bits, mergeGpr, index_reg,
        loc_desc_reg]
    obtain ⟨f, scan_runs⟩ := run_pushScanCode host loc_desc_reg (.fresh st.labels)
      (List.range env.RSBSize) _ M
    rw [code, run_append_next _ _ prefix_runs, scan_runs, M_hash, M_jit]
    by_cases found : (List.range env.RSBSize).any (fun i => m.jit.rsb_location_descriptors i = hash)
    · refine ⟨M.setFlags f, ?_, ?_, ?_⟩ <;>
        simp [found, run_skip, run_nil, Instr.places, JitState.pushRSB, M_jit, M_calls]
    · simp [found, run_exec, run_L, run_nil, Instr.straight, exec, readOp, writeOp, readField,
        writeField, Mem.width, Width.bits, JitState.pushRSB, M_jit, M_calls, M_index, M_target, M_hash,
        toNat_setWidth_dword, - BitVec.toNat_setWidth]


/-- A block whose instruction 0 pushes the hash 5. -/
def pushBlock : Block where
  location := ⟨0, false, false, 0⟩
  cond := .AL
  cond_failed := none
  cond_failed_cycle_count := 0
  insts := [⟨.PushRSB, [.U64 5], 0⟩]
  instructions := [0]
  terminal := .ReturnToDispatch
  cycle_count := 1

theorem EmitPushRSB_spec_pushBlock :
    MovRcxFits unitEnv ∧ ((startState pushBlock).block.inst 0).GetArg 0 = .U64 5 ∧
    ∃ st', EmitPushRSB 0 unitEnv (startState pushBlock) = .ok ((), st') ∧
      Appended (startState pushBlock) st' ∧ ∀ host m, ∃ m',
        run host (codeSince (startState pushBlock) st') none m = .next m' ∧
        m'.jit = m.jit.pushRSB unitEnv.RSBSize 5 (unitEnv.pushTarget 5) ∧ m'.calls = m.calls :=
  have fits : MovRcxFits unitEnv := fun _ => by simp [unitEnv]
  ⟨fits, rfl, EmitPushRSB_spec unitEnv fits (startState pushBlock) 0 5 rfl⟩

/-! ### The ring -/

/-- The ring is well formed: `rsb_ptr` indexes it, and a hash other than the reset `sentinel`
sits in one entry at most. -/
structure RsbInv (size : Nat) (sentinel : BitVec 64) (j : JitState) : Prop where
  ptr_lt : j.rsb_ptr.toNat < size
  unique : ∀ i < size, ∀ k < size, j.rsb_location_descriptors i = j.rsb_location_descriptors k →
    j.rsb_location_descriptors i ≠ sentinel → i = k

/-- Every entry of the ring pairs its hash with the dispatcher's return or with the entry of
the block emitted for that hash. -/
def RsbSound (env : EmitEnv) (j : JitState) : Prop :=
  ∀ i < env.RSBSize, j.rsb_codeptrs i = env.ReturnFromRunCodeAddress ∨
    ∃ d, env.block_descriptors (j.rsb_location_descriptors i) = some d ∧ j.rsb_codeptrs i = d.code_ptr

/-- The slot after the cursor, masked by `2^b - 1`, is in a ring of `2^b` entries. -/
theorem rsbIndex_lt (b : Nat) (p : BitVec 32) :
    ((p + 1) &&& BitVec.ofNat 32 (2 ^ b - 1)).toNat < 2 ^ b := by
  rw [BitVec.toNat_and, BitVec.toNat_ofNat]
  exact Nat.and_lt_two_pow _ (Nat.lt_of_le_of_lt (Nat.mod_le _ _) (Nat.sub_lt (Nat.two_pow_pos b) Nat.one_pos))

theorem pushRSB_of_present {j : JitState} {size : Nat} {hash : BitVec 64} (cp : BitVec 64)
    (present : ∃ i < size, j.rsb_location_descriptors i = hash) : j.pushRSB size hash cp = j := by
  simp [JitState.pushRSB, present]

/-- The ring after pushing a hash it does not hold: the pair is in the slot after the cursor. -/
theorem pushRSB_of_absent {j : JitState} {size : Nat} {hash : BitVec 64} (cp : BitVec 64)
    (absent : ∀ i < size, j.rsb_location_descriptors i ≠ hash) :
    j.pushRSB size hash cp =
      let index := (j.rsb_ptr + 1) &&& BitVec.ofNat 32 (size - 1)
      { j with
        rsb_ptr := index
        rsb_location_descriptors := Function.update j.rsb_location_descriptors index.toNat hash
        rsb_codeptrs := Function.update j.rsb_codeptrs index.toNat cp } := by
  simp only [JitState.pushRSB, List.any_eq_true, List.mem_range, decide_eq_true_eq]
  rw [if_neg (fun ⟨i, lt, same⟩ => absent i lt same)]

/-- A push keeps a ring of a power of two entries well formed. -/
theorem pushRSB_inv {size b : Nat} {sentinel hash : BitVec 64} {j : JitState}
    (pow2 : size = 2 ^ b) (cp : BitVec 64) (inv : RsbInv size sentinel j) :
    RsbInv size sentinel (j.pushRSB size hash cp) := by
  by_cases present : ∃ i < size, j.rsb_location_descriptors i = hash
  · rwa [pushRSB_of_present cp present]
  · have absent : ∀ i < size, j.rsb_location_descriptors i ≠ hash := fun i lt same => present ⟨i, lt, same⟩
    rw [pushRSB_of_absent cp absent]
    subst pow2
    refine ⟨rsbIndex_lt b _, fun i hi k hk same fresh => ?_⟩
    simp only [Function.update_apply] at same fresh
    split_ifs at same fresh with at_i at_k at_k
    · rw [at_i, at_k]
    · exact absurd same.symm (absent k hk)
    · exact absurd same (absent i hi)
    · exact inv.unique i hi k hk same fresh

/-- A push of the pointer `EmitPushRSB` stores keeps the ring sound. -/
theorem pushRSB_sound {env : EmitEnv} {j : JitState} (hash : BitVec 64) (sound : RsbSound env j) :
    RsbSound env (j.pushRSB env.RSBSize hash (env.pushTarget hash)) := by
  by_cases present : ∃ i < env.RSBSize, j.rsb_location_descriptors i = hash
  · rwa [pushRSB_of_present _ present]
  · rw [pushRSB_of_absent _ fun i lt same => present ⟨i, lt, same⟩]
    intro i hi
    simp only [Function.update_apply]
    split_ifs
    · unfold EmitEnv.pushTarget
      split <;> simp_all
    · exact sound i hi

/-- The scan of `PopRSBHint` over a sound ring leaves the dispatcher's return or the entry of
the block emitted for the key. -/
theorem RSBLookup_sound {env : EmitEnv} {j : JitState} (key : BitVec 64) (sound : RsbSound env j) :
    RSBLookup j key env.RSBSize env.ReturnFromRunCodeAddress = env.ReturnFromRunCodeAddress ∨
      ∃ d, env.block_descriptors key = some d ∧
        RSBLookup j key env.RSBSize env.ReturnFromRunCodeAddress = d.code_ptr := by
  unfold RSBLookup
  have scan : ∀ (is : List Nat), (∀ i ∈ is, i < env.RSBSize) → ∀ acc : BitVec 64,
      (acc = env.ReturnFromRunCodeAddress ∨ ∃ d, env.block_descriptors key = some d ∧ acc = d.code_ptr) →
      let r := is.foldl (fun acc i => if j.rsb_location_descriptors i = key then j.rsb_codeptrs i else acc) acc
      r = env.ReturnFromRunCodeAddress ∨ ∃ d, env.block_descriptors key = some d ∧ r = d.code_ptr := by
    intro is
    induction is with
    | nil => exact fun _ acc h => h
    | cons i is ih =>
      intro within acc h
      refine ih (fun k mem => within k (List.mem_cons_of_mem i mem)) _ ?_
      dsimp only
      split
      · rename_i found
        rw [← found]
        exact sound i (within i (List.mem_cons_self i is))
      · exact h
  exact scan _ (fun i mem => List.mem_range.mp mem) _ (.inl rfl)

/-! ### Runs -/

/-- What the guest does to the ring between two blocks: the code of a `PushRSB` of `hash`, or
code that leaves the ring alone. -/
inductive RsbStep (env : EmitEnv) : JitState → JitState → Prop where
  | push (j : JitState) (hash : BitVec 64) :
      RsbStep env j (j.pushRSB env.RSBSize hash (env.pushTarget hash))
  | frame (j j' : JitState) (ptr : j'.rsb_ptr = j.rsb_ptr)
      (descriptors : j'.rsb_location_descriptors = j.rsb_location_descriptors)
      (codeptrs : j'.rsb_codeptrs = j.rsb_codeptrs) : RsbStep env j j'

section Steps

variable {env : EmitEnv} {j j' : JitState}

/-- One step keeps the ring sound. -/
theorem RsbStep.sound (step : RsbStep env j j') (sound : RsbSound env j) : RsbSound env j' := by
  cases step with
  | push hash => exact pushRSB_sound hash sound
  | frame _ _ descriptors codeptrs =>
    unfold RsbSound
    rwa [descriptors, codeptrs]

/-- One step keeps the ring well formed, when it has a power of two entries. -/
theorem RsbStep.inv {b : Nat} {sentinel : BitVec 64} (pow2 : env.RSBSize = 2 ^ b)
    (step : RsbStep env j j') (inv : RsbInv env.RSBSize sentinel j) :
    RsbInv env.RSBSize sentinel j' := by
  cases step with
  | push hash => exact pushRSB_inv pow2 _ inv
  | frame _ ptr descriptors _ => exact ⟨by rw [ptr]; exact inv.ptr_lt, by rw [descriptors]; exact inv.unique⟩

theorem rsb_runs_sound {j₀ j : JitState} (start : RsbSound env j₀)
    (steps : Relation.ReflTransGen (RsbStep env) j₀ j) : RsbSound env j := by
  induction steps with
  | refl => exact start
  | tail _ step ih => exact step.sound ih

/-- Every run of pushes and of code that leaves the ring alone, from a ring of a power of two
entries that is well formed and sound, keeps it well formed and sound. -/
theorem rsb_runs_keep_ring {b : Nat} {sentinel : BitVec 64} {j₀ j : JitState}
    (pow2 : env.RSBSize = 2 ^ b) (start : RsbInv env.RSBSize sentinel j₀ ∧ RsbSound env j₀)
    (steps : Relation.ReflTransGen (RsbStep env) j₀ j) :
    RsbInv env.RSBSize sentinel j ∧ RsbSound env j := by
  induction steps with
  | refl => exact start
  | tail _ step ih => exact ⟨step.inv pow2 ih.1, step.sound ih.2⟩

/-- After any run of pushes and of code that leaves the ring alone, from a sound ring, the code
of `PopRSBHint` leaves with the guest state as it was, jumping to the dispatcher's return or to
the entry of the block emitted for the guest's current location: never into another
location's block. -/
theorem PopRSBHint_jumps_to_own_block (env : EmitEnv) (L : Arm.LocationDescriptor)
    (st : EmitState) {j₀ j : JitState} (start : RsbSound env j₀)
    (steps : Relation.ReflTransGen (RsbStep env) j₀ j) :
    ∃ st', EmitTerminal .PopRSBHint L env st = .ok ((), st') ∧ ∀ host m, m.jit = j →
      ∃ t m', run host (codeSince st st') none m = .exit (.jump t) m' ∧ m'.jit = j ∧
        (t = env.ReturnFromRunCodeAddress ∨
          ∃ d, env.block_descriptors j.location.UniqueHash = some d ∧ t = d.code_ptr) := by
  obtain ⟨st', emits, -, reaches⟩ := emits_PopRSBHint env L st
  refine ⟨st', emits, fun host m at_j => ?_⟩
  obtain ⟨m', exits, jit⟩ := reaches host m
  subst at_j
  exact ⟨_, m', exits, jit, RSBLookup_sound _ (rsb_runs_sound start steps)⟩

end Steps

/-- A guest state whose ring is empty: every entry holds the `sentinel` hash and the code
pointer `ret`, and the cursor is at 0; the rest of the state is zero. -/
def emptyRingState (sentinel ret : BitVec 64) : JitState where
  Reg _ := 0
  ExtReg _ := 0
  Cpsr := 0
  FPSCR_mode := 0
  FPSCR_nzcv := 0
  FPSCR_IDC := 0
  FPSCR_UFC := 0
  exclusive_state := 0
  exclusive_address := 0
  rsb_ptr := 0
  rsb_location_descriptors _ := sentinel
  rsb_codeptrs _ := ret
  cycles_remaining := 0
  halt_requested := 0

theorem emptyRingState_ring (sentinel : BitVec 64) :
    RsbInv unitEnv.RSBSize sentinel (emptyRingState sentinel 0) ∧
      RsbSound unitEnv (emptyRingState sentinel 0) :=
  ⟨⟨by simp [emptyRingState, unitEnv], fun _ _ _ _ _ fresh => absurd rfl fresh⟩, fun _ _ => .inl rfl⟩

theorem rsb_runs_keep_ring_after_push :
    unitEnv.RSBSize = 2 ^ 3 ∧
    (RsbInv unitEnv.RSBSize 0xFFFFFFFFFFFFFFFF#64 (emptyRingState 0xFFFFFFFFFFFFFFFF#64 0) ∧
      RsbSound unitEnv (emptyRingState 0xFFFFFFFFFFFFFFFF#64 0)) ∧
    Relation.ReflTransGen (RsbStep unitEnv) (emptyRingState 0xFFFFFFFFFFFFFFFF#64 0)
      ((emptyRingState 0xFFFFFFFFFFFFFFFF#64 0).pushRSB unitEnv.RSBSize 5 (unitEnv.pushTarget 5)) ∧
    RsbInv unitEnv.RSBSize 0xFFFFFFFFFFFFFFFF#64
      ((emptyRingState 0xFFFFFFFFFFFFFFFF#64 0).pushRSB unitEnv.RSBSize 5 (unitEnv.pushTarget 5)) ∧
    RsbSound unitEnv
      ((emptyRingState 0xFFFFFFFFFFFFFFFF#64 0).pushRSB unitEnv.RSBSize 5 (unitEnv.pushTarget 5)) :=
  ⟨rfl, emptyRingState_ring _, .single (.push _ 5),
    rsb_runs_keep_ring (b := 3) rfl (emptyRingState_ring _) (.single (.push _ 5))⟩

theorem PopRSBHint_jumps_to_own_block_after_push :
    RsbSound unitEnv (emptyRingState 0xFFFFFFFFFFFFFFFF#64 0) ∧
    Relation.ReflTransGen (RsbStep unitEnv) (emptyRingState 0xFFFFFFFFFFFFFFFF#64 0)
      ((emptyRingState 0xFFFFFFFFFFFFFFFF#64 0).pushRSB unitEnv.RSBSize 5 (unitEnv.pushTarget 5)) ∧
    ∃ st', EmitTerminal .PopRSBHint pushBlock.Location unitEnv (startState pushBlock) =
      .ok ((), st') ∧ ∀ host m, m.jit =
        (emptyRingState 0xFFFFFFFFFFFFFFFF#64 0).pushRSB unitEnv.RSBSize 5 (unitEnv.pushTarget 5) →
      ∃ t m', run host (codeSince (startState pushBlock) st') none m = .exit (.jump t) m' ∧
        m'.jit = (emptyRingState 0xFFFFFFFFFFFFFFFF#64 0).pushRSB unitEnv.RSBSize 5
          (unitEnv.pushTarget 5) ∧
        (t = unitEnv.ReturnFromRunCodeAddress ∨ ∃ d, unitEnv.block_descriptors
          ((emptyRingState 0xFFFFFFFFFFFFFFFF#64 0).pushRSB unitEnv.RSBSize 5
            (unitEnv.pushTarget 5)).location.UniqueHash = some d ∧ t = d.code_ptr) :=
  ⟨(emptyRingState_ring _).2, .single (.push _ 5),
    PopRSBHint_jumps_to_own_block unitEnv pushBlock.Location (startState pushBlock)
      (emptyRingState_ring _).2 (.single (.push _ 5))⟩

end Dynarmic.BackendX64
