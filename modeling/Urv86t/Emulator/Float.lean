import Urv86t.Emulator.State

set_option autoImplicit false

namespace Urv86t

/-- The host's floating-point operators and `libm` functions, on bit patterns. -/
structure HostFloat where
  add32 : BitVec 32 → BitVec 32 → BitVec 32
  sub32 : BitVec 32 → BitVec 32 → BitVec 32
  mul32 : BitVec 32 → BitVec 32 → BitVec 32
  div32 : BitVec 32 → BitVec 32 → BitVec 32
  sqrtf : BitVec 32 → BitVec 32
  fminf : BitVec 32 → BitVec 32 → BitVec 32
  fmaxf : BitVec 32 → BitVec 32 → BitVec 32
  eq32 : BitVec 32 → BitVec 32 → Bool
  lt32 : BitVec 32 → BitVec 32 → Bool
  le32 : BitVec 32 → BitVec 32 → Bool
  add64 : BitVec 64 → BitVec 64 → BitVec 64
  sub64 : BitVec 64 → BitVec 64 → BitVec 64
  mul64 : BitVec 64 → BitVec 64 → BitVec 64
  div64 : BitVec 64 → BitVec 64 → BitVec 64
  sqrt : BitVec 64 → BitVec 64
  fmin : BitVec 64 → BitVec 64 → BitVec 64
  fmax : BitVec 64 → BitVec 64 → BitVec 64
  eq64 : BitVec 64 → BitVec 64 → Bool
  lt64 : BitVec 64 → BitVec 64 → Bool
  le64 : BitVec 64 → BitVec 64 → Bool
  f32OfI32 : BitVec 32 → BitVec 32
  f32OfU32 : BitVec 32 → BitVec 32
  f64OfI32 : BitVec 32 → BitVec 64
  f64OfU32 : BitVec 32 → BitVec 64
  i32OfF32 : BitVec 32 → BitVec 32
  u32OfF32 : BitVec 32 → BitVec 32
  i32OfF64 : BitVec 64 → BitVec 32
  u32OfF64 : BitVec 64 → BitVec 32
  f32OfF64 : BitVec 64 → BitVec 32
  f64OfF32 : BitVec 32 → BitVec 64
  deriving Inhabited

-- Negation and `copysign` only move sign bits.
def neg32 (a : BitVec 32) : BitVec 32 := a ^^^ 0x80000000
def neg64 (a : BitVec 64) : BitVec 64 := a ^^^ 0x8000000000000000
def copysignf (a b : BitVec 32) : BitVec 32 := (a &&& 0x7FFFFFFF) ||| (b &&& 0x80000000)
def copysign (a b : BitVec 64) : BitVec 64 := (a &&& 0x7FFFFFFFFFFFFFFF) ||| (b &&& 0x8000000000000000)

def rvfloatNanboxSaturate (val : BitVec 32) : BitVec 64 := val.setWidth 64 ||| 0xffffffff00000000

def rvfloatNanboxUnpack (val : BitVec 64) : BitVec 64 := ((val &&& 0xffffffff).setWidth 32).setWidth 64

-- `rvfloat_as_f32` and its siblings reinterpret bits, which is the identity on bit patterns.
def rvfloatReadF32 (state : RvState) (freg : BitVec 8) : BitVec 32 :=
  (rvfloatNanboxUnpack (rvmemFreg state freg)).setWidth 32

def rvfloatReadF64 (state : RvState) (freg : BitVec 8) : BitVec 64 := rvmemFreg state freg

def rvfloatWriteF32 (state : RvState) (freg : BitVec 8) (val : BitVec 32) : RvState :=
  state.setFregp freg (rvfloatNanboxSaturate val)

def rvfloatWriteF64 (state : RvState) (freg : BitVec 8) (val : BitVec 64) : RvState :=
  state.setFregp freg val

end Urv86t
