set_option autoImplicit false

namespace GpuProfiler

-- `fraction` holds the digits after the point, none if there is no point.
structure Numeral where
  negative : Bool
  whole : Nat
  fraction : List Char
  exponent : Option Int
deriving DecidableEq, Repr

namespace Numeral

def ofNat (n : Nat) : Numeral := ⟨false, n, [], none⟩

def ofInt (n : Int) : Numeral := ⟨decide (n < 0), n.natAbs, [], none⟩

def toNat? (numeral : Numeral) : Option Nat :=
  if numeral.negative || !numeral.fraction.isEmpty || numeral.exponent.isSome then none
  else some numeral.whole

def toWord? (numeral : Numeral) : Option UInt64 :=
  match numeral.toNat? with
  | some n => if n < UInt64.size then some (UInt64.ofNat n) else none
  | none => none

def signChars (negative : Bool) : List Char := if negative then ['-'] else []

def fractionChars (digits : List Char) : List Char := if digits.isEmpty then [] else '.' :: digits

-- An exponent always shows its sign.
def exponentChars : Option Int → List Char
  | none => []
  | some e => 'e' :: (if e < 0 then '-' else '+') :: Nat.toDigits 10 e.natAbs

def chars (numeral : Numeral) : List Char :=
  signChars numeral.negative ++ Nat.toDigits 10 numeral.whole
    ++ fractionChars numeral.fraction ++ exponentChars numeral.exponent

def leadingDigits (cs : List Char) : List Char := cs.takeWhile Char.isDigit

def afterDigits (cs : List Char) : List Char := cs.dropWhile Char.isDigit

def readSign : List Char → Bool × List Char
  | '-' :: rest => (true, rest)
  | cs => (false, cs)

-- The digits before the point: at least one, and a zero only alone.
def readWhole (cs : List Char) : Option (Nat × List Char) :=
  match leadingDigits cs with
  | [] => none
  | '0' :: _ :: _ => none
  | digits => some (Nat.ofDigitChars 10 digits 0, afterDigits cs)

def readFraction : List Char → Option (List Char × List Char)
  | '.' :: rest =>
    match leadingDigits rest with
    | [] => none
    | digits => some (digits, afterDigits rest)
  | cs => some ([], cs)

def readMagnitude (cs : List Char) : Option Int :=
  if cs.isEmpty || !cs.all Char.isDigit then none else some (Int.ofNat (Nat.ofDigitChars 10 cs 0))

def readExponent : List Char → Option (Option Int)
  | [] => some none
  | mark :: rest =>
    if mark = 'e' ∨ mark = 'E' then
      match rest with
      | '-' :: digits => (readMagnitude digits).map fun e => some (-e)
      | '+' :: digits => (readMagnitude digits).map some
      | digits => (readMagnitude digits).map some
    else none

def read (cs : List Char) : Option Numeral :=
  let (negative, cs) := readSign cs
  match readWhole cs with
  | none => none
  | some (whole, cs) =>
    match readFraction cs with
    | none => none
    | some (fraction, cs) => (readExponent cs).map fun exponent => ⟨negative, whole, fraction, exponent⟩

end Numeral

end GpuProfiler
