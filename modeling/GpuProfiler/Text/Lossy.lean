set_option autoImplicit false

namespace GpuProfiler

namespace Lossy

-- A character read in part: the bytes still missing, the value so far, and the least and the
-- largest byte that can come next.
structure Partial where
  missing : Nat
  value : Nat
  least : Nat
  most : Nat
deriving DecidableEq, Repr

def replacement : Char := Char.ofNat 0xFFFD

def start (byte : Nat) : List Char × Option Partial :=
  if byte < 0x80 then ([Char.ofNat byte], none)
  else if 0xC2 ≤ byte ∧ byte < 0xE0 then ([], some ⟨1, byte - 0xC0, 0x80, 0xBF⟩)
  else if byte = 0xE0 then ([], some ⟨2, 0, 0xA0, 0xBF⟩)
  else if byte = 0xED then ([], some ⟨2, 0xD, 0x80, 0x9F⟩)
  else if 0xE0 < byte ∧ byte < 0xF0 then ([], some ⟨2, byte - 0xE0, 0x80, 0xBF⟩)
  else if byte = 0xF0 then ([], some ⟨3, 0, 0x90, 0xBF⟩)
  else if byte = 0xF4 then ([], some ⟨3, 4, 0x80, 0x8F⟩)
  else if 0xF0 < byte ∧ byte < 0xF4 then ([], some ⟨3, byte - 0xF0, 0x80, 0xBF⟩)
  else ([replacement], none)

def step (begun : Option Partial) (byte : Nat) : List Char × Option Partial :=
  match begun with
  | none => start byte
  | some part =>
    if part.least ≤ byte ∧ byte ≤ part.most then
      let value := part.value * 64 + byte % 64
      if part.missing ≤ 1 then ([Char.ofNat value], none)
      else ([], some ⟨part.missing - 1, value, 0x80, 0xBF⟩)
    else
      let (shown, next) := start byte
      (replacement :: shown, next)

def decode (begun : Option Partial) : List UInt8 → List Char
  | [] => if begun.isSome then [replacement] else []
  | byte :: rest =>
    let (shown, next) := step begun byte.toNat
    shown ++ decode next rest

end Lossy

def lossyText (bytes : List UInt8) : String := String.ofList (Lossy.decode none bytes)

end GpuProfiler
