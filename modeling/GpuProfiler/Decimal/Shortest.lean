import GpuProfiler.Binary64

/-!
The fewest decimal digits that read back as a given binary number. Every quotient between the two
midpoints around the number reads back as it, the midpoints themselves only where the significand
is even. For one digit, two digits and so on the two neighbours of the number on the decimal grid
are tried; the first grid with a neighbour in that interval wins, and of two the nearer.
-/
set_option autoImplicit false

namespace GpuProfiler

structure Decimal where
  digits : Nat
  exponent : Int
deriving DecidableEq, Repr

namespace Decimal

def value (d : Decimal) : Ratio := .scaled d.digits 10 d.exponent

def length (n : Nat) : Nat := (Nat.toDigits 10 n).length

-- The `k` with `10 ^ (k - 1) ≤ a < 10 ^ k`, for a quotient that is not zero.
def magnitude (a : Ratio) : Int :=
  if a.den ≤ a.num then Int.ofNat (length (a.num / a.den))
  else
    let ceiling := (a.den + a.num - 1) / a.num
    1 - Int.ofNat (length (ceiling - 1))

structure Interval where
  low : Ratio
  high : Ratio
  closed : Bool
deriving Repr

namespace Interval

-- Below a power of two the numbers stand twice as close, but for the smallest of them.
def around (x : Binary64) : Interval :=
  let m := x.significand
  let e := x.exponent
  let narrow := x.fractionField == 0 && decide (1 < x.exponentField)
  ⟨if narrow then .scaled (4 * m - 1) 2 (e - 2) else .scaled (2 * m - 1) 2 (e - 1),
    .scaled (2 * m + 1) 2 (e - 1), m % 2 == 0⟩

def contains (i : Interval) (a : Ratio) : Bool :=
  if i.closed then i.low.le a && a.le i.high else i.low.lt a && a.lt i.high

end Interval

-- The neighbour on the grid of step `10 ^ e` that reads back, the nearer one where both do; `up`
-- says which way a tie goes.
def onGrid? (i : Interval) (a : Ratio) (up : Nat → Bool) (e : Int) : Option Decimal :=
  let scaled := a.div (.scaled 1 10 e)
  let below : Decimal := ⟨scaled.num / scaled.den, e⟩
  let above : Decimal := ⟨below.digits + 1, e⟩
  match below.digits != 0 && i.contains below.value, i.contains above.value with
  | true, true =>
    let down := a.distance below.value
    let rise := a.distance above.value
    some (if down.lt rise then below else if rise.lt down then above
      else if up below.digits then above else below)
  | true, false => some below
  | false, true => some above
  | false, false => none

def search (i : Interval) (a : Ratio) (up : Nat → Bool) (e : Int) : Nat → Decimal
  | 0 => ⟨(a.div (.scaled 1 10 e)).roundEven, e⟩
  | more + 1 =>
    match onGrid? i a up e with
    | some d => d
    | none => search i a up (e - 1) more

def stripZeros : Nat → Decimal → Decimal
  | 0, d => d
  | more + 1, d =>
    if d.digits != 0 && d.digits % 10 == 0 then stripZeros more ⟨d.digits / 10, d.exponent + 1⟩ else d

-- The shortest decimal for a finite number that is not zero, without its sign. Seventeen digits
-- always suffice.
def shortest (up : Nat → Bool) (x : Binary64) : Decimal :=
  let a := x.magnitude
  stripZeros 18 (search (.around x) a up (magnitude a - 1) 17)

def tieEven (below : Nat) : Bool := below % 2 == 1

def tieUp (_ : Nat) : Bool := true

end Decimal

end GpuProfiler
