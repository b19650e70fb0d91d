set_option autoImplicit false

namespace GpuProfiler

namespace Hex

def digit? (c : Char) : Option Nat :=
  if c.isDigit then some (c.toNat - 48)
  else if 'a' ≤ c ∧ c ≤ 'f' then some (c.toNat - 87)
  else if 'A' ≤ c ∧ c ≤ 'F' then some (c.toNat - 55)
  else none

def toNat (digits : String) : Nat :=
  digits.toList.foldl (fun n c => 16 * n + (digit? c).getD 0) 0

def ofWord (word : UInt64) : String :=
  let digits := Nat.toDigits 16 word.toNat
  String.ofList (List.replicate (16 - digits.length) '0' ++ digits)

def ofBytes (bytes : List UInt8) : String :=
  String.ofList (bytes.flatMap fun byte => [Nat.digitChar (byte.toNat / 16), Nat.digitChar (byte.toNat % 16)])

def bytesOfChars : List Char → List UInt8
  | a :: b :: rest => UInt8.ofNat (16 * (digit? a).getD 0 + (digit? b).getD 0) :: bytesOfChars rest
  | _ => []

def toBytes (digits : String) : List UInt8 := bytesOfChars digits.toList

end Hex

end GpuProfiler
