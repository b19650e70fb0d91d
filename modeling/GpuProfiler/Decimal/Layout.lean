import GpuProfiler.Decimal.Shortest
import GpuProfiler.Json.Numeral

set_option autoImplicit false

namespace GpuProfiler

structure DecimalLayout where
  lowest : Int
  highest : Int
  up : Nat → Bool

namespace DecimalLayout

-- JSON numbers are positional from 0.00001 up to 10 ^ 16.
def json : DecimalLayout := ⟨-5, 16, Decimal.tieEven⟩

-- Log texts are positional from 0.0001 up to 10 ^ 16.
def log : DecimalLayout := ⟨-4, 16, Decimal.tieUp⟩

def positional (negative : Bool) (d : Decimal) : Numeral :=
  match d.exponent with
  | .ofNat e => ⟨negative, d.digits * Nat.pow 10 e, ['0'], none⟩
  | .negSucc e =>
    let places := e + 1
    let digits := Nat.toDigits 10 d.digits
    ⟨negative, d.digits / Nat.pow 10 places,
      List.replicate (places - digits.length) '0' ++ digits.drop (digits.length - places), none⟩

def scientific (negative : Bool) (d : Decimal) : Numeral :=
  match Nat.toDigits 10 d.digits with
  | [] => ⟨negative, 0, [], none⟩
  | first :: rest =>
    ⟨negative, Nat.ofDigitChars 10 [first] 0, rest, some (d.exponent + Int.ofNat rest.length)⟩

def numeral (layout : DecimalLayout) (x : Binary64) : Numeral :=
  if x.isZero then ⟨x.negative, 0, ['0'], none⟩
  else
    let d := Decimal.shortest layout.up x
    let magnitude := d.exponent + Int.ofNat (Decimal.length d.digits)
    if layout.lowest < magnitude ∧ magnitude ≤ layout.highest then positional x.negative d
    else scientific x.negative d

end DecimalLayout

-- A number as log texts show it: an exponent has no plus sign.
def Binary64.logText (x : Binary64) : String :=
  if x.isNaN then "NaN"
  else if !x.isFinite then (if x.negative then "-inf" else "inf")
  else
    let numeral := DecimalLayout.log.numeral x
    String.ofList ((numeral.chars.filter (· != '+')))

end GpuProfiler
