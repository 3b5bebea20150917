import Mathlib.Logic.Function.Basic

set_option autoImplicit false

namespace Rv32

abbrev Word := BitVec 32
abbrev Reg := BitVec 5

def rWord (funct7 : BitVec 7) (rs2 rs1 : Reg) (funct3 : BitVec 3) (rd : Reg) (opcode : BitVec 7) :
    Word :=
  funct7 ++ rs2 ++ rs1 ++ funct3 ++ rd ++ opcode

def r4Word (rs3 : Reg) (fmt : BitVec 2) (rs2 rs1 : Reg) (funct3 : BitVec 3) (rd : Reg)
    (opcode : BitVec 7) : Word :=
  rs3 ++ fmt ++ rs2 ++ rs1 ++ funct3 ++ rd ++ opcode

def iWord (imm : BitVec 12) (rs1 : Reg) (funct3 : BitVec 3) (rd : Reg) (opcode : BitVec 7) : Word :=
  imm ++ rs1 ++ funct3 ++ rd ++ opcode

def sWord (imm : BitVec 12) (rs2 rs1 : Reg) (funct3 : BitVec 3) (opcode : BitVec 7) : Word :=
  imm.extractLsb' 5 7 ++ rs2 ++ rs1 ++ funct3 ++ imm.extractLsb' 0 5 ++ opcode

-- Branch and jump offsets count bytes; their bit 0 has no place in the word.
def bWord (offset : BitVec 13) (rs2 rs1 : Reg) (funct3 : BitVec 3) (opcode : BitVec 7) : Word :=
  offset.extractLsb' 12 1 ++ offset.extractLsb' 5 6 ++ rs2 ++ rs1 ++ funct3 ++
    offset.extractLsb' 1 4 ++ offset.extractLsb' 11 1 ++ opcode

def uWord (imm : BitVec 20) (rd : Reg) (opcode : BitVec 7) : Word :=
  imm ++ rd ++ opcode

def jWord (offset : BitVec 21) (rd : Reg) (opcode : BitVec 7) : Word :=
  offset.extractLsb' 20 1 ++ offset.extractLsb' 1 10 ++ offset.extractLsb' 11 1 ++
    offset.extractLsb' 12 8 ++ rd ++ opcode

section Fields

variable (rd rs1 rs2 rs3 : Reg) (funct3 : BitVec 3) (funct7 opcode : BitVec 7)

@[simp] theorem rWord_fields :
    (rWord funct7 rs2 rs1 funct3 rd opcode).extractLsb' 0 7 = opcode ∧
      (rWord funct7 rs2 rs1 funct3 rd opcode).extractLsb' 7 5 = rd ∧
      (rWord funct7 rs2 rs1 funct3 rd opcode).extractLsb' 12 3 = funct3 ∧
      (rWord funct7 rs2 rs1 funct3 rd opcode).extractLsb' 15 5 = rs1 ∧
      (rWord funct7 rs2 rs1 funct3 rd opcode).extractLsb' 20 5 = rs2 ∧
      (rWord funct7 rs2 rs1 funct3 rd opcode).extractLsb' 25 7 = funct7 ∧
      (rWord funct7 rs2 rs1 funct3 rd opcode).extractLsb' 20 12 = funct7 ++ rs2 := by
  simp (disch := omega) only [rWord, BitVec.extractLsb'_append_eq_of_add_le,
    BitVec.extractLsb'_append_eq_of_le, BitVec.extractLsb'_eq_self, Nat.reduceSub, Nat.sub_self, and_self]

@[simp] theorem r4Word_fields (fmt : BitVec 2) :
    (r4Word rs3 fmt rs2 rs1 funct3 rd opcode).extractLsb' 0 7 = opcode ∧
      (r4Word rs3 fmt rs2 rs1 funct3 rd opcode).extractLsb' 7 5 = rd ∧
      (r4Word rs3 fmt rs2 rs1 funct3 rd opcode).extractLsb' 12 3 = funct3 ∧
      (r4Word rs3 fmt rs2 rs1 funct3 rd opcode).extractLsb' 15 5 = rs1 ∧
      (r4Word rs3 fmt rs2 rs1 funct3 rd opcode).extractLsb' 20 5 = rs2 ∧
      (r4Word rs3 fmt rs2 rs1 funct3 rd opcode).extractLsb' 25 2 = fmt ∧
      (r4Word rs3 fmt rs2 rs1 funct3 rd opcode).extractLsb' 27 5 = rs3 := by
  simp (disch := omega) only [r4Word, BitVec.extractLsb'_append_eq_of_add_le,
    BitVec.extractLsb'_append_eq_of_le, BitVec.extractLsb'_eq_self, Nat.reduceSub, Nat.sub_self, and_self]

@[simp] theorem iWord_fields (imm : BitVec 12) :
    (iWord imm rs1 funct3 rd opcode).extractLsb' 0 7 = opcode ∧
      (iWord imm rs1 funct3 rd opcode).extractLsb' 7 5 = rd ∧
      (iWord imm rs1 funct3 rd opcode).extractLsb' 12 3 = funct3 ∧
      (iWord imm rs1 funct3 rd opcode).extractLsb' 15 5 = rs1 ∧
      (iWord imm rs1 funct3 rd opcode).extractLsb' 20 12 = imm := by
  simp (disch := omega) only [iWord, BitVec.extractLsb'_append_eq_of_add_le,
    BitVec.extractLsb'_append_eq_of_le, BitVec.extractLsb'_eq_self, Nat.reduceSub, Nat.sub_self, and_self]

@[simp] theorem sWord_fields (imm : BitVec 12) :
    (sWord imm rs2 rs1 funct3 opcode).extractLsb' 0 7 = opcode ∧
      (sWord imm rs2 rs1 funct3 opcode).extractLsb' 7 5 = imm.extractLsb' 0 5 ∧
      (sWord imm rs2 rs1 funct3 opcode).extractLsb' 12 3 = funct3 ∧
      (sWord imm rs2 rs1 funct3 opcode).extractLsb' 15 5 = rs1 ∧
      (sWord imm rs2 rs1 funct3 opcode).extractLsb' 20 5 = rs2 ∧
      (sWord imm rs2 rs1 funct3 opcode).extractLsb' 25 7 = imm.extractLsb' 5 7 := by
  simp (disch := omega) only [sWord, BitVec.extractLsb'_append_eq_of_add_le,
    BitVec.extractLsb'_append_eq_of_le, BitVec.extractLsb'_eq_self, Nat.reduceSub, Nat.sub_self, and_self]

@[simp] theorem bWord_fields (offset : BitVec 13) :
    (bWord offset rs2 rs1 funct3 opcode).extractLsb' 0 7 = opcode ∧
      (bWord offset rs2 rs1 funct3 opcode).extractLsb' 7 1 = offset.extractLsb' 11 1 ∧
      (bWord offset rs2 rs1 funct3 opcode).extractLsb' 8 4 = offset.extractLsb' 1 4 ∧
      (bWord offset rs2 rs1 funct3 opcode).extractLsb' 12 3 = funct3 ∧
      (bWord offset rs2 rs1 funct3 opcode).extractLsb' 15 5 = rs1 ∧
      (bWord offset rs2 rs1 funct3 opcode).extractLsb' 20 5 = rs2 ∧
      (bWord offset rs2 rs1 funct3 opcode).extractLsb' 25 6 = offset.extractLsb' 5 6 ∧
      (bWord offset rs2 rs1 funct3 opcode).extractLsb' 31 1 = offset.extractLsb' 12 1 := by
  simp (disch := omega) only [bWord, BitVec.extractLsb'_append_eq_of_add_le,
    BitVec.extractLsb'_append_eq_of_le, BitVec.extractLsb'_eq_self, Nat.reduceSub, Nat.sub_self, and_self]

@[simp] theorem uWord_fields (imm : BitVec 20) :
    (uWord imm rd opcode).extractLsb' 0 7 = opcode ∧ (uWord imm rd opcode).extractLsb' 7 5 = rd ∧
      (uWord imm rd opcode).extractLsb' 12 20 = imm := by
  simp (disch := omega) only [uWord, BitVec.extractLsb'_append_eq_of_add_le,
    BitVec.extractLsb'_append_eq_of_le, BitVec.extractLsb'_eq_self, Nat.reduceSub, Nat.sub_self, and_self]

@[simp] theorem jWord_fields (offset : BitVec 21) :
    (jWord offset rd opcode).extractLsb' 0 7 = opcode ∧
      (jWord offset rd opcode).extractLsb' 7 5 = rd ∧
      (jWord offset rd opcode).extractLsb' 12 8 = offset.extractLsb' 12 8 ∧
      (jWord offset rd opcode).extractLsb' 20 1 = offset.extractLsb' 11 1 ∧
      (jWord offset rd opcode).extractLsb' 21 10 = offset.extractLsb' 1 10 ∧
      (jWord offset rd opcode).extractLsb' 31 1 = offset.extractLsb' 20 1 := by
  simp (disch := omega) only [jWord, BitVec.extractLsb'_append_eq_of_add_le,
    BitVec.extractLsb'_append_eq_of_le, BitVec.extractLsb'_eq_self, Nat.reduceSub, Nat.sub_self, and_self]

theorem rWord_eta (w : Word) :
    rWord (w.extractLsb' 25 7) (w.extractLsb' 20 5) (w.extractLsb' 15 5) (w.extractLsb' 12 3)
      (w.extractLsb' 7 5) (w.extractLsb' 0 7) = w := by
  simp only [rWord, BitVec.extractLsb'_append_extractLsb'_eq_extractLsb']
  exact BitVec.extractLsb'_eq_self

theorem r4Word_eta (w : Word) :
    r4Word (w.extractLsb' 27 5) (w.extractLsb' 25 2) (w.extractLsb' 20 5) (w.extractLsb' 15 5)
      (w.extractLsb' 12 3) (w.extractLsb' 7 5) (w.extractLsb' 0 7) = w := by
  simp only [r4Word, BitVec.extractLsb'_append_extractLsb'_eq_extractLsb']
  exact BitVec.extractLsb'_eq_self

theorem iWord_eta (w : Word) :
    iWord (w.extractLsb' 20 12) (w.extractLsb' 15 5) (w.extractLsb' 12 3) (w.extractLsb' 7 5)
      (w.extractLsb' 0 7) = w := by
  simp only [iWord, BitVec.extractLsb'_append_extractLsb'_eq_extractLsb']
  exact BitVec.extractLsb'_eq_self

theorem sWord_eta (w : Word) :
    sWord (w.extractLsb' 25 7 ++ w.extractLsb' 7 5) (w.extractLsb' 20 5) (w.extractLsb' 15 5)
      (w.extractLsb' 12 3) (w.extractLsb' 0 7) = w := by
  simp (disch := omega) only [sWord, BitVec.extractLsb'_append_eq_of_add_le,
    BitVec.extractLsb'_append_eq_of_le, BitVec.extractLsb'_eq_self, Nat.sub_self]
  simp only [BitVec.extractLsb'_append_extractLsb'_eq_extractLsb']
  exact BitVec.extractLsb'_eq_self

-- The offset a branch word spells, put together from its four pieces.
def bOffset (bit12 bit11 : BitVec 1) (bits10_5 : BitVec 6) (bits4_1 : BitVec 4) : BitVec 13 :=
  bit12 ++ bit11 ++ bits10_5 ++ bits4_1 ++ 0#1

def jOffset (bit20 : BitVec 1) (bits19_12 : BitVec 8) (bit11 : BitVec 1) (bits10_1 : BitVec 10) :
    BitVec 21 :=
  bit20 ++ bits19_12 ++ bit11 ++ bits10_1 ++ 0#1

theorem bOffset_pieces (bit12 bit11 : BitVec 1) (bits10_5 : BitVec 6) (bits4_1 : BitVec 4) :
    (bOffset bit12 bit11 bits10_5 bits4_1).extractLsb' 12 1 = bit12 ∧
      (bOffset bit12 bit11 bits10_5 bits4_1).extractLsb' 11 1 = bit11 ∧
      (bOffset bit12 bit11 bits10_5 bits4_1).extractLsb' 5 6 = bits10_5 ∧
      (bOffset bit12 bit11 bits10_5 bits4_1).extractLsb' 1 4 = bits4_1 := by
  simp (disch := omega) only [bOffset, BitVec.extractLsb'_append_eq_of_add_le,
    BitVec.extractLsb'_append_eq_of_le, BitVec.extractLsb'_eq_self, Nat.reduceSub, Nat.sub_self, and_self]

theorem jOffset_pieces (bit20 : BitVec 1) (bits19_12 : BitVec 8) (bit11 : BitVec 1)
    (bits10_1 : BitVec 10) :
    (jOffset bit20 bits19_12 bit11 bits10_1).extractLsb' 20 1 = bit20 ∧
      (jOffset bit20 bits19_12 bit11 bits10_1).extractLsb' 12 8 = bits19_12 ∧
      (jOffset bit20 bits19_12 bit11 bits10_1).extractLsb' 11 1 = bit11 ∧
      (jOffset bit20 bits19_12 bit11 bits10_1).extractLsb' 1 10 = bits10_1 := by
  simp (disch := omega) only [jOffset, BitVec.extractLsb'_append_eq_of_add_le,
    BitVec.extractLsb'_append_eq_of_le, BitVec.extractLsb'_eq_self, Nat.reduceSub, Nat.sub_self, and_self]

theorem bWord_eta (w : Word) :
    bWord (bOffset (w.extractLsb' 31 1) (w.extractLsb' 7 1) (w.extractLsb' 25 6) (w.extractLsb' 8 4))
      (w.extractLsb' 20 5) (w.extractLsb' 15 5) (w.extractLsb' 12 3) (w.extractLsb' 0 7) = w := by
  simp only [bWord, bOffset_pieces, BitVec.extractLsb'_append_extractLsb'_eq_extractLsb']
  exact BitVec.extractLsb'_eq_self

theorem uWord_eta (w : Word) :
    uWord (w.extractLsb' 12 20) (w.extractLsb' 7 5) (w.extractLsb' 0 7) = w := by
  simp only [uWord, BitVec.extractLsb'_append_extractLsb'_eq_extractLsb']
  exact BitVec.extractLsb'_eq_self

theorem jWord_eta (w : Word) :
    jWord (jOffset (w.extractLsb' 31 1) (w.extractLsb' 12 8) (w.extractLsb' 20 1) (w.extractLsb' 21 10))
      (w.extractLsb' 7 5) (w.extractLsb' 0 7) = w := by
  simp only [jWord, jOffset_pieces, BitVec.extractLsb'_append_extractLsb'_eq_extractLsb']
  exact BitVec.extractLsb'_eq_self

end Fields

end Rv32
