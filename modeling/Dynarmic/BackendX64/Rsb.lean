import Dynarmic.BackendX64.Terminal

/-!
# Pushing onto the return stack buffer

`EmitPushRSB` pushes the location hash of a call's return address, with the code pointer of the
block emitted for it, onto the guest state's ring of `RSBSize` entries: it advances `rsb_ptr`
modulo `RSBSize` and stores the pair there, unless the hash is in the ring already. The
`MOV RCX` that loads the code pointer is a patch site of the hash, so that `Patch` can point it
at a block emitted later. `EmitTerminal(PopRSBHint)` is the matching lookup.
-/

namespace Dynarmic.BackendX64

open X64 IR EmitM

def EmitPushRSB (inst : Nat) : EmitM Unit := do
  let arg ← GetArg inst 0
  assert arg.IsImmediate "inst->GetArg(0).IsImmediate()"
  let unique_hash_of_target := arg.GetU64
  let e ← env
  let target_code_ptr := match e.block_descriptors unique_hash_of_target with
    | some d => d.code_ptr
    | none => e.ReturnFromRunCodeAddress
  let code_ptr_reg ← ScratchGpr (some .rcx)
  let loc_desc_reg ← ScratchGpr
  let index_reg ← ScratchGpr
  emit (.mov .dword (.reg index_reg) (.mem .rsbPtr))
  emit (.add .dword (.reg index_reg) (.imm 1))
  emit (.and_ .dword (.reg index_reg) (.imm (e.RSBSize - 1)))
  emit (.mov .qword (.reg loc_desc_reg) (.imm unique_hash_of_target.toNat))
  recordPatch unique_hash_of_target fun p info => { info with mov_rcx := info.mov_rcx ++ [p] }
  EmitPatchMovRcx (some target_code_ptr)
  let label ← newLabel
  (List.range e.RSBSize).forM fun i => do
    emit (.cmp .qword (.reg loc_desc_reg) (.mem (.rsbLocationDescriptor i)))
    emit (.jcc .e (.label label))
  emit (.mov .dword (.mem .rsbPtr) (.reg index_reg))
  emit (.mov .qword (.mem (.rsbLocationDescriptorAt index_reg)) (.reg loc_desc_reg))
  emit (.mov .qword (.mem (.rsbCodeptrAt index_reg)) (.reg code_ptr_reg))
  L label

end Dynarmic.BackendX64
