set_option autoImplicit false

namespace GpuProfiler

structure Binary64 where
  bits : UInt64
deriving DecidableEq, Repr

structure Ratio where
  num : Nat
  den : Nat
deriving DecidableEq, Repr

namespace Ratio

def scaled (n base : Nat) (e : Int) : Ratio :=
  if e < 0 then ⟨n, Nat.pow base e.natAbs⟩ else ⟨n * Nat.pow base e.natAbs, 1⟩

def mul (a b : Ratio) : Ratio := ⟨a.num * b.num, a.den * b.den⟩

def div (a b : Ratio) : Ratio := ⟨a.num * b.den, a.den * b.num⟩

def lt (a b : Ratio) : Bool := a.num * b.den < b.num * a.den

def le (a b : Ratio) : Bool := a.num * b.den ≤ b.num * a.den

def distance (a b : Ratio) : Ratio :=
  ⟨(a.num * b.den - b.num * a.den) + (b.num * a.den - a.num * b.den), a.den * b.den⟩

-- The nearest natural, and of two equally near ones the even one.
def roundEven (a : Ratio) : Nat :=
  let low := a.num / a.den
  let twice := 2 * (a.num % a.den)
  if twice < a.den then low
  else if a.den < twice then low + 1
  else low + low % 2

end Ratio

namespace Binary64

def negative (x : Binary64) : Bool := Nat.pow 2 63 ≤ x.bits.toNat

def exponentField (x : Binary64) : Nat := x.bits.toNat / Nat.pow 2 52 % Nat.pow 2 11

def fractionField (x : Binary64) : Nat := x.bits.toNat % Nat.pow 2 52

def isFinite (x : Binary64) : Bool := x.exponentField != 2047

def isNaN (x : Binary64) : Bool := x.exponentField == 2047 && x.fractionField != 0

def isZero (x : Binary64) : Bool := x.exponentField == 0 && x.fractionField == 0

def significand (x : Binary64) : Nat :=
  if x.exponentField = 0 then x.fractionField else Nat.pow 2 52 + x.fractionField

def exponent (x : Binary64) : Int :=
  if x.exponentField = 0 then -1074 else Int.ofNat x.exponentField - 1075

def magnitude (x : Binary64) : Ratio := .scaled x.significand 2 x.exponent

def ofFields (negative : Bool) (exponentField fractionField : Nat) : Binary64 :=
  ⟨UInt64.ofNat ((if negative then Nat.pow 2 63 else 0) + exponentField * Nat.pow 2 52 + fractionField)⟩

def zero (negative : Bool) : Binary64 := ofFields negative 0 0

def floorLog2 (a : Ratio) : Int :=
  let guess := Int.ofNat (Nat.log2 a.num) - Int.ofNat (Nat.log2 a.den)
  if a.lt (.scaled 1 2 guess) then guess - 1 else guess

def nearest (negative : Bool) (a : Ratio) : Option Binary64 :=
  if a.num = 0 then some (zero negative)
  else
    let e := max (floorLog2 a - 52) (-1074)
    let rounded := (a.div (.scaled 1 2 e)).roundEven
    let (m, e) := if rounded = Nat.pow 2 53 then (Nat.pow 2 52, e + 1) else (rounded, e)
    if e > 971 then none
    else if m < Nat.pow 2 52 then some (ofFields negative 0 m)
    else some (ofFields negative (e + 1075).toNat (m - Nat.pow 2 52))

end Binary64

end GpuProfiler
