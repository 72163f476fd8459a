namespace Atari800XL.Pokey

/-- One step of a shift register of `size` bits: the bits move up, and the exclusive or of the
highest bit and bit `tap` comes in. -/
@[inline] def shiftIn (size tap : UInt32) (r : UInt32) : UInt32 :=
  ((r <<< 1) ||| (((r >>> (size - 1)) ^^^ (r >>> tap)) &&& 1)) &&& (((1 : UInt32) <<< size) - 1)

def step4 (r : UInt32) : UInt32 := shiftIn 4 2 r
def step5 (r : UInt32) : UInt32 := shiftIn 5 2 r
def step9 (r : UInt32) : UInt32 := shiftIn 9 4 r
def step17 (r : UInt32) : UInt32 := shiftIn 17 13 r

def period4 : UInt64 := 15
def period5 : UInt64 := 31
def period9 : UInt64 := 511
def period17 : UInt64 := 131071

structure Polynomials where
  poly4 : UInt32 := 0x0F
  poly5 : UInt32 := 0x1F
  poly9 : UInt32 := 0x1FF
  poly17 : UInt32 := 0x1FFFF
  deriving DecidableEq, Repr, Inhabited

def iterate (f : UInt32 → UInt32) (n : Nat) (r : UInt32) : UInt32 :=
  match n with
  | 0 => r
  | n + 1 => iterate f n (f r)

namespace Polynomials

def step (p : Polynomials) : Polynomials :=
  { poly4 := step4 p.poly4
    poly5 := step5 p.poly5
    poly9 := step9 p.poly9
    poly17 := step17 p.poly17 }

def skip (p : Polynomials) (cycles : UInt64) : Polynomials :=
  { poly4 := iterate step4 (cycles % period4).toNat p.poly4
    poly5 := iterate step5 (cycles % period5).toNat p.poly5
    poly9 := iterate step9 (cycles % period9).toNat p.poly9
    poly17 := iterate step17 (cycles % period17).toNat p.poly17 }

def lowBit (r : UInt32) : Bool := r &&& 1 != 0

def random (p : Polynomials) (nineBit : Bool) : UInt8 :=
  if nineBit then p.poly9.toUInt8 else (p.poly17 >>> 9).toUInt8

end Polynomials

end Atari800XL.Pokey
