import GpuProfiler.Decimal.Layout
import GpuProfiler.Json.Reader

/-!
JSON as data. Every string must be a text, a later member of an object replaces an earlier one of
the same name, arrays and objects may stand inside one another up to a limit, and a number is an
integer where it is written as one and fits 64 bits, else a binary floating point number.

Such a number is taken from the leading digits that fit one word, by one multiplication or
division with a power of ten. It is therefore not always the nearest one.
-/
set_option autoImplicit false

namespace GpuProfiler

namespace Numeral

def absorb (word : Nat) : List Char → Nat × Nat
  | [] => (word, 0)
  | digit :: rest =>
    let next := 10 * word + (digit.toNat - 48)
    if next < UInt64.size then
      let (word, taken) := absorb next rest
      (word, taken + 1)
    else (word, 0)

def parts (numeral : Numeral) : Nat × Int :=
  let whole := Nat.toDigits 10 numeral.whole
  let (word, taken) := absorb 0 whole
  let (word, takenAfter) := absorb word numeral.fraction
  (word, Int.ofNat (whole.length - taken) - Int.ofNat takenAfter + numeral.exponent.getD 0)

def largestPower : Nat := 308

def powerOfTen (e : Nat) : Ratio :=
  match Binary64.nearest false ⟨Nat.pow 10 e, 1⟩ with
  | some power => power.magnitude
  | none => ⟨1, 1⟩

-- Scales by a power of ten, a smaller one than can be used at once in several steps.
def scale (negative : Bool) (steps : Nat) (x : Binary64) (e : Int) : Option Binary64 :=
  if e.natAbs ≤ largestPower then
    Binary64.nearest negative
      (if e < 0 then x.magnitude.div (powerOfTen e.natAbs) else x.magnitude.mul (powerOfTen e.natAbs))
  else if x.isZero then some (Binary64.zero negative)
  else if e < 0 then
    match steps with
    | 0 => some (Binary64.zero negative)
    | more + 1 =>
      match Binary64.nearest false (x.magnitude.div (powerOfTen largestPower)) with
      | some smaller => scale negative more smaller (e + Int.ofNat largestPower)
      | none => none
  else none

-- The binary number a numeral stands for, if it is finite. A word needs three steps at most before
-- it is zero.
def toBinary64? (numeral : Numeral) : Option Binary64 :=
  let (word, e) := numeral.parts
  match Binary64.nearest false ⟨word, 1⟩ with
  | some x => scale numeral.negative 4 x e
  | none => none

-- Whether a numeral is written as an integer that fits 64 bits. A zero with a sign is none.
def isInteger (numeral : Numeral) : Bool :=
  numeral.fraction.isEmpty && numeral.exponent.isNone &&
    (if numeral.negative then decide (0 < numeral.whole) && decide (numeral.whole ≤ UInt64.size / 2)
    else decide (numeral.whole < UInt64.size))

def data? (numeral : Numeral) : Option Numeral :=
  if numeral.isInteger then some numeral else numeral.toBinary64?.map DecimalLayout.json.numeral

end Numeral

namespace Json

def putMember (name : Option String) (value : Json) :
    List (Option String × Json) → List (Option String × Json)
  | [] => [(name, value)]
  | member :: rest =>
    if member.1 = name then (name, value) :: rest else member :: putMember name value rest

mutual

def normalize? : Json → Option Json
  | .null => some .null
  | .bool value => some (.bool value)
  | .number value => value.data?.map Json.number
  | .string none => none
  | .string (some text) => some (.string (some text))
  | .array items => (normalizeItems? items).map Json.array
  | .object members => (normalizeMembers? members []).map Json.object
termination_by structural value => value

def normalizeItems? : List Json → Option (List Json)
  | [] => some []
  | item :: rest =>
    match normalize? item with
    | some value => (normalizeItems? rest).map (value :: ·)
    | none => none
termination_by structural items => items

def normalizeMembers? :
    List (Option String × Json) → List (Option String × Json) → Option (List (Option String × Json))
  | [], done => some done
  | member :: rest, done =>
    match normalizeMember? member with
    | some (name, value) => normalizeMembers? rest (putMember name value done)
    | none => none
termination_by structural members => members

def normalizeMember? : Option String × Json → Option (Option String × Json)
  | (none, _) => none
  | (some name, value) => (normalize? value).map fun value => (some name, value)
termination_by structural member => member

end

def depthLimit : Nat := 127

def dataOfBytes? (bytes : List UInt8) : Option Json :=
  match String.fromUTF8? ⟨bytes.toArray⟩ with
  | none => none
  | some text =>
    match parse text with
    | none => none
    | some value => if value.depth ≤ depthLimit then value.normalize? else none

end Json

end GpuProfiler
