import Urv86t.Emulator.Decoder

set_option autoImplicit false

namespace Urv86t

open InsnBase

def routedOpcodes : List (BitVec 7) :=
  [0b0110011#7, 0b1010011#7, 0b1100111#7, 0b0000011#7, 0b0010011#7, 0b0001111#7, 0b1110011#7, 0b0000111#7,
    0b0100011#7, 0b0100111#7, 0b0110111#7, 0b0010111#7, 0b1101111#7, 0b1100011#7, 0b1000011#7, 0b1000111#7,
    0b1001011#7, 0b1001111#7]

section Routes

variable {state : RvState} {w : BitVec 32}

attribute [local simp] rvdecInsn insnOpcondR insnOpcondI insnOpcondS insnOpcondU insnOpcondJ insnOpcondB
  insnOpcondR4 rvdecRty rvdecIty rvdecSty rvdecUty rvdecJty rvdecBty rvdecR4ty

theorem rvdecInsn_reg (code : opcode w = 0b0110011#7) :
    rvdecInsn state w = rvdecReturn state ((rtyPair w).opCase (rvdecRty1 w)) := by
  simp [code]

theorem rvdecInsn_float (code : opcode w = 0b1010011#7) :
    rvdecInsn state w = rvdecReturn state ((rtyPair w).opCase (rvdecRty2 w)) := by
  simp [code]

theorem rvdecInsn_jalr (code : opcode w = 0b1100111#7) :
    rvdecInsn state w = rvdecReturn state ((ityPair w).opCase (rvdecIty1 w)) := by
  simp [code]

theorem rvdecInsn_load (code : opcode w = 0b0000011#7) :
    rvdecInsn state w = rvdecReturn state ((ityPair w).opCase (rvdecIty2 w)) := by
  simp [code]

theorem rvdecInsn_arith (code : opcode w = 0b0010011#7) :
    rvdecInsn state w = rvdecIty3 w >>= fun group => rvdecReturn state ((ityPair w).opCase group) := by
  simp [code]

theorem rvdecInsn_arith_ok {group : InsnTyArgspecPair} (code : opcode w = 0b0010011#7)
    (accepted : rvdecIty3 w = .ok group) :
    rvdecInsn state w = rvdecReturn state ((ityPair w).opCase group) := by
  rw [rvdecInsn_arith code, accepted]
  rfl

theorem rvdecInsn_synch (code : opcode w = 0b0001111#7) :
    rvdecInsn state w = rvdecReturn state ((ityPair w).opCase (rvdecIty4 w)) := by
  simp [code]

theorem rvdecInsn_env (code : opcode w = 0b1110011#7) :
    rvdecInsn state w = rvdecReturn state ((ityPair w).opCase (rvdecIty5 w)) := by
  simp [code]

theorem rvdecInsn_floatLoad (code : opcode w = 0b0000111#7) :
    rvdecInsn state w = rvdecReturn state ((ityPair w).opCase (rvdecIty6 w)) := by
  simp [code]

theorem rvdecInsn_store (code : opcode w = 0b0100011#7) :
    rvdecInsn state w = rvdecReturn state ((styPair w).opCase (rvdecSty1 w)) := by
  simp [code]

theorem rvdecInsn_floatStore (code : opcode w = 0b0100111#7) :
    rvdecInsn state w = rvdecReturn state ((styPair w).opCase (rvdecSty2 w)) := by
  simp [code]

theorem rvdecInsn_lui (code : opcode w = 0b0110111#7) :
    rvdecInsn state w = rvdecReturn state ((utyPair w).insnCase .lui .r32U20) := by
  simp [code]

theorem rvdecInsn_auipc (code : opcode w = 0b0010111#7) :
    rvdecInsn state w = rvdecReturn state ((utyPair w).insnCase .auipc .r32U20) := by
  simp [code]

theorem rvdecInsn_jal (code : opcode w = 0b1101111#7) :
    rvdecInsn state w = rvdecReturn state (jtyPair w) := by
  simp [code]

theorem rvdecInsn_branch (code : opcode w = 0b1100011#7) :
    rvdecInsn state w = rvdecReturn state (rvdecBtyPair w) := by
  simp [code]

theorem rvdecInsn_fmadd (code : opcode w = 0b1000011#7) :
    rvdecInsn state w = .ok (((r4tyPair w).insnCase .fmaddx .fxFxFxFx).insn, state) := by
  simp [code]

theorem rvdecInsn_fmsub (code : opcode w = 0b1000111#7) :
    rvdecInsn state w = .ok (((r4tyPair w).insnCase .fmsubx .fxFxFxFx).insn, state) := by
  simp [code]

theorem rvdecInsn_fnmsub (code : opcode w = 0b1001011#7) :
    rvdecInsn state w = .ok (((r4tyPair w).insnCase .fnmsubx .fxFxFxFx).insn, state) := by
  simp [code]

theorem rvdecInsn_fnmadd (code : opcode w = 0b1001111#7) :
    rvdecInsn state w = .ok (((r4tyPair w).insnCase .fnmaddx .fxFxFxFx).insn, state) := by
  simp [code]

theorem rvdecInsn_unknown (code : opcode w ∉ routedOpcodes) :
    rvdecInsn state w = .ok ({ insnTy := .invalid }, { state with suspended := true }) := by
  simp only [routedOpcodes, List.mem_cons, List.not_mem_nil, or_false, not_or] at code
  simp [code, rvtrbkDiagn]

end Routes

inductive Routed (state : RvState) (w : BitVec 32) : Except Abort (Insn × RvState) → Prop where
  | reg (code : opcode w = 0b0110011#7) :
      Routed state w (rvdecReturn state ((rtyPair w).opCase (rvdecRty1 w)))
  | float (code : opcode w = 0b1010011#7) :
      Routed state w (rvdecReturn state ((rtyPair w).opCase (rvdecRty2 w)))
  | jalr (code : opcode w = 0b1100111#7) :
      Routed state w (rvdecReturn state ((ityPair w).opCase (rvdecIty1 w)))
  | load (code : opcode w = 0b0000011#7) :
      Routed state w (rvdecReturn state ((ityPair w).opCase (rvdecIty2 w)))
  | arith (code : opcode w = 0b0010011#7) :
      Routed state w (rvdecIty3 w >>= fun group => rvdecReturn state ((ityPair w).opCase group))
  | synch (code : opcode w = 0b0001111#7) :
      Routed state w (rvdecReturn state ((ityPair w).opCase (rvdecIty4 w)))
  | env (code : opcode w = 0b1110011#7) :
      Routed state w (rvdecReturn state ((ityPair w).opCase (rvdecIty5 w)))
  | floatLoad (code : opcode w = 0b0000111#7) :
      Routed state w (rvdecReturn state ((ityPair w).opCase (rvdecIty6 w)))
  | store (code : opcode w = 0b0100011#7) :
      Routed state w (rvdecReturn state ((styPair w).opCase (rvdecSty1 w)))
  | floatStore (code : opcode w = 0b0100111#7) :
      Routed state w (rvdecReturn state ((styPair w).opCase (rvdecSty2 w)))
  | lui (code : opcode w = 0b0110111#7) :
      Routed state w (rvdecReturn state ((utyPair w).insnCase .lui .r32U20))
  | auipc (code : opcode w = 0b0010111#7) :
      Routed state w (rvdecReturn state ((utyPair w).insnCase .auipc .r32U20))
  | jal (code : opcode w = 0b1101111#7) : Routed state w (rvdecReturn state (jtyPair w))
  | branch (code : opcode w = 0b1100011#7) : Routed state w (rvdecReturn state (rvdecBtyPair w))
  | fmadd (code : opcode w = 0b1000011#7) :
      Routed state w (.ok (((r4tyPair w).insnCase .fmaddx .fxFxFxFx).insn, state))
  | fmsub (code : opcode w = 0b1000111#7) :
      Routed state w (.ok (((r4tyPair w).insnCase .fmsubx .fxFxFxFx).insn, state))
  | fnmsub (code : opcode w = 0b1001011#7) :
      Routed state w (.ok (((r4tyPair w).insnCase .fnmsubx .fxFxFxFx).insn, state))
  | fnmadd (code : opcode w = 0b1001111#7) :
      Routed state w (.ok (((r4tyPair w).insnCase .fnmaddx .fxFxFxFx).insn, state))
  | unknown (code : opcode w ∉ routedOpcodes) :
      Routed state w (.ok ({ insnTy := .invalid }, { state with suspended := true }))

theorem rvdecInsn_routed (state : RvState) (w : BitVec 32) : Routed state w (rvdecInsn state w) := by
  by_cases known : opcode w ∈ routedOpcodes
  · simp only [routedOpcodes, List.mem_cons, List.not_mem_nil, or_false] at known
    rcases known with code | code | code | code | code | code | code | code | code | code | code |
      code | code | code | code | code | code | code
    · rw [rvdecInsn_reg code]
      exact .reg code
    · rw [rvdecInsn_float code]
      exact .float code
    · rw [rvdecInsn_jalr code]
      exact .jalr code
    · rw [rvdecInsn_load code]
      exact .load code
    · rw [rvdecInsn_arith code]
      exact .arith code
    · rw [rvdecInsn_synch code]
      exact .synch code
    · rw [rvdecInsn_env code]
      exact .env code
    · rw [rvdecInsn_floatLoad code]
      exact .floatLoad code
    · rw [rvdecInsn_store code]
      exact .store code
    · rw [rvdecInsn_floatStore code]
      exact .floatStore code
    · rw [rvdecInsn_lui code]
      exact .lui code
    · rw [rvdecInsn_auipc code]
      exact .auipc code
    · rw [rvdecInsn_jal code]
      exact .jal code
    · rw [rvdecInsn_branch code]
      exact .branch code
    · rw [rvdecInsn_fmadd code]
      exact .fmadd code
    · rw [rvdecInsn_fmsub code]
      exact .fmsub code
    · rw [rvdecInsn_fnmsub code]
      exact .fnmsub code
    · rw [rvdecInsn_fnmadd code]
      exact .fnmadd code
  · rw [rvdecInsn_unknown known]
    exact .unknown known

end Urv86t
