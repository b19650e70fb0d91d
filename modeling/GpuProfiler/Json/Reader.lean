import GpuProfiler.Json.Value
import GpuProfiler.Text.Hex

set_option autoImplicit false

namespace GpuProfiler

inductive Token where
  | openArray
  | closeArray
  | openObject
  | closeObject
  | comma
  | colon
  | scalar (value : Json)

-- The part of a string read so far, the last character first; `high` is a first half of a surrogate
-- pair that still waits for the second one.
structure Quoted where
  shown : List Char
  paired : Bool
  high : Option Nat

namespace Quoted

def empty : Quoted := ⟨[], true, none⟩

def push (quoted : Quoted) (c : Char) : Quoted :=
  ⟨c :: quoted.shown, quoted.paired && quoted.high.isNone, none⟩

def pushUnit (quoted : Quoted) (unit : Nat) : Quoted :=
  if 0xDC00 ≤ unit ∧ unit < 0xE000 then
    match quoted.high with
    | some high =>
      ⟨Char.ofNat (0x10000 + (high - 0xD800) * 0x400 + (unit - 0xDC00)) :: quoted.shown, quoted.paired, none⟩
    | none => { quoted with paired := false }
  else if 0xD800 ≤ unit ∧ unit < 0xDC00 then
    ⟨quoted.shown, quoted.paired && quoted.high.isNone, some unit⟩
  else quoted.push (Char.ofNat unit)

def finish (quoted : Quoted) : Json :=
  .string (if quoted.paired && quoted.high.isNone then some (String.ofList quoted.shown.reverse) else none)

end Quoted

-- What the last character belongs to; `hex` counts the digits still to come.
inductive Scanning where
  | between
  | word (letters : List Char)
  | numeral (chars : List Char)
  | inString (quoted : Quoted)
  | escaped (quoted : Quoted)
  | hex (quoted : Quoted) (left : Nat) (value : Nat)

namespace Scanning

def isBlank (c : Char) : Bool := c = ' ' || c = '\t' || c = '\n' || c = '\r'

def isNumeralChar (c : Char) : Bool :=
  c.isDigit || c = '-' || c = '+' || c = '.' || c = 'e' || c = 'E'

def start (c : Char) : Option (List Token × Scanning) :=
  if isBlank c then some ([], .between)
  else if c = '[' then some ([.openArray], .between)
  else if c = ']' then some ([.closeArray], .between)
  else if c = '\x7b' then some ([.openObject], .between)
  else if c = '\x7d' then some ([.closeObject], .between)
  else if c = ',' then some ([.comma], .between)
  else if c = ':' then some ([.colon], .between)
  else if c = '"' then some ([], .inString .empty)
  else if c.isDigit || c = '-' then some ([], .numeral [c])
  else if c.isAlpha then some ([], .word [c])
  else none

def wordValue (letters : List Char) : Option Json :=
  if letters = ['n', 'u', 'l', 'l'] then some .null
  else if letters = ['t', 'r', 'u', 'e'] then some (.bool true)
  else if letters = ['f', 'a', 'l', 's', 'e'] then some (.bool false)
  else none

def finish : Scanning → Option (List Token)
  | .between => some []
  | .word letters => (wordValue letters.reverse).map fun value => [.scalar value]
  | .numeral chars => (Numeral.read chars.reverse).map fun value => [.scalar (.number value)]
  | .inString _ | .escaped _ | .hex _ _ _ => none

def restart (scanning : Scanning) (c : Char) : Option (List Token × Scanning) :=
  match scanning.finish with
  | none => none
  | some ended => (start c).map fun (tokens, next) => (ended ++ tokens, next)

def shortEscape (c : Char) : Option Char :=
  if c = '"' ∨ c = '\\' ∨ c = '/' then some c
  else if c = 'b' then some '\x08'
  else if c = 'f' then some '\x0c'
  else if c = 'n' then some '\n'
  else if c = 'r' then some '\r'
  else if c = 't' then some '\t'
  else none

def step (scanning : Scanning) (c : Char) : Option (List Token × Scanning) :=
  match scanning with
  | .between => start c
  | .word letters =>
    if c.isAlpha then some ([], .word (c :: letters)) else restart scanning c
  | .numeral chars =>
    if isNumeralChar c then some ([], .numeral (c :: chars)) else restart scanning c
  | .inString quoted =>
    if c = '"' then some ([.scalar quoted.finish], .between)
    else if c = '\\' then some ([], .escaped quoted)
    else if c.toNat < 32 then none
    else some ([], .inString (quoted.push c))
  | .escaped quoted =>
    if c = 'u' then some ([], .hex quoted 4 0)
    else (shortEscape c).map fun shown => ([], .inString (quoted.push shown))
  | .hex quoted left value =>
    (Hex.digit? c).map fun digit =>
      let value := 16 * value + digit
      ([], if left ≤ 1 then .inString (quoted.pushUnit value) else .hex quoted (left - 1) value)

def tokens (scanning : Scanning) : List Char → Option (List Token)
  | [] => scanning.finish
  | c :: rest =>
    match scanning.step c with
    | none => none
    | some (ended, next) => (next.tokens rest).map (ended ++ ·)

end Scanning

-- An open array or object with what it holds so far, the last part first; an object waits for the
-- value of the name kept with it.
inductive OpenPart where
  | array (items : List Json)
  | object (members : List (Option String × Json)) (name : Option String)

inductive Awaiting where
  | needValue (parts : List OpenPart)
  | needItem (parts : List OpenPart)
  | needFirstName (parts : List OpenPart)
  | needName (members : List (Option String × Json)) (parts : List OpenPart)
  | needColon (members : List (Option String × Json)) (name : Option String) (parts : List OpenPart)
  | complete (value : Json) (parts : List OpenPart)

namespace Awaiting

def beginValue (parts : List OpenPart) : Token → Option Awaiting
  | .scalar value => some (.complete value parts)
  | .openArray => some (.needItem parts)
  | .openObject => some (.needFirstName parts)
  | _ => none

def continueAfter (value : Json) : List OpenPart → Token → Option Awaiting
  | .array items :: parts, .comma => some (.needValue (.array (value :: items) :: parts))
  | .array items :: parts, .closeArray => some (.complete (.array (value :: items).reverse) parts)
  | .object members name :: parts, .comma => some (.needName ((name, value) :: members) parts)
  | .object members name :: parts, .closeObject =>
    some (.complete (.object ((name, value) :: members).reverse) parts)
  | _, _ => none

def step (awaiting : Awaiting) (token : Token) : Option Awaiting :=
  match awaiting, token with
  | .needValue parts, token => beginValue parts token
  | .needItem parts, .closeArray => some (.complete (.array []) parts)
  | .needItem parts, token => beginValue (.array [] :: parts) token
  | .needFirstName parts, .closeObject => some (.complete (.object []) parts)
  | .needFirstName parts, .scalar (.string name) => some (.needColon [] name parts)
  | .needName members parts, .scalar (.string name) => some (.needColon members name parts)
  | .needColon members name parts, .colon => some (.needValue (.object members name :: parts))
  | .complete value parts, token => continueAfter value parts token
  | _, _ => none

def run (awaiting : Awaiting) : List Token → Option Json
  | [] =>
    match awaiting with
    | .complete value [] => some value
    | _ => none
  | token :: rest =>
    match awaiting.step token with
    | none => none
    | some next => next.run rest

end Awaiting

namespace Json

def parseChars (cs : List Char) : Option Json :=
  match Scanning.between.tokens cs with
  | none => none
  | some tokens => (Awaiting.needValue []).run tokens

def parse (text : String) : Option Json := parseChars text.toList

end Json

end GpuProfiler
