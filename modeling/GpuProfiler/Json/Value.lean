import GpuProfiler.Json.Numeral

set_option autoImplicit false

namespace GpuProfiler

-- A string is `none` when an escape in it is half of a surrogate pair: such a string is grammatical
-- and stands for no text.
inductive Json where
  | null
  | bool (value : Bool)
  | number (value : Numeral)
  | string (text : Option String)
  | array (items : List Json)
  | object (members : List (Option String × Json))
deriving Repr, Inhabited

namespace Json

def text (s : String) : Json := .string (some s)

def nat (n : Nat) : Json := .number (.ofNat n)

def int (n : Int) : Json := .number (.ofInt n)

def ofMembers (members : List (String × Json)) : Json :=
  .object (members.map fun (name, value) => (some name, value))

mutual

def depth : Json → Nat
  | .array items => depthItems items + 1
  | .object members => depthMembers members + 1
  | _ => 0
termination_by structural value => value

def depthItems : List Json → Nat
  | [] => 0
  | item :: rest => max (depth item) (depthItems rest)
termination_by structural items => items

def depthMembers : List (Option String × Json) → Nat
  | [] => 0
  | member :: rest => max (depthMember member) (depthMembers rest)
termination_by structural members => members

def depthMember : Option String × Json → Nat
  | (_, value) => depth value
termination_by structural member => member

end

def quotedChar (c : Char) : List Char :=
  if c = '"' then ['\\', '"']
  else if c = '\\' then ['\\', '\\']
  else if c = '\x08' then ['\\', 'b']
  else if c = '\t' then ['\\', 't']
  else if c = '\n' then ['\\', 'n']
  else if c = '\x0c' then ['\\', 'f']
  else if c = '\r' then ['\\', 'r']
  else if c.toNat < 32 then
    ['\\', 'u', '0', '0', Nat.digitChar (c.toNat / 16), Nat.digitChar (c.toNat % 16)]
  else [c]

def quotedChars : Option String → List Char
  | some text => '"' :: text.toList.flatMap quotedChar ++ ['"']
  | none => ['"', '\\', 'u', 'd', '8', '0', '0', '"']

mutual

def chars : Json → List Char
  | .null => ['n', 'u', 'l', 'l']
  | .bool true => ['t', 'r', 'u', 'e']
  | .bool false => ['f', 'a', 'l', 's', 'e']
  | .number value => value.chars
  | .string text => quotedChars text
  | .array items => '[' :: itemChars items ++ [']']
  | .object members => '\x7b' :: memberListChars members ++ ['\x7d']
termination_by structural value => value

def itemChars : List Json → List Char
  | [] => []
  | item :: rest => chars item ++ laterItemChars rest
termination_by structural items => items

def laterItemChars : List Json → List Char
  | [] => []
  | item :: rest => ',' :: chars item ++ laterItemChars rest
termination_by structural items => items

def memberListChars : List (Option String × Json) → List Char
  | [] => []
  | member :: rest => memberChars member ++ laterMemberChars rest
termination_by structural members => members

def laterMemberChars : List (Option String × Json) → List Char
  | [] => []
  | member :: rest => ',' :: memberChars member ++ laterMemberChars rest
termination_by structural members => members

def memberChars : Option String × Json → List Char
  | (name, value) => quotedChars name ++ ':' :: chars value
termination_by structural member => member

end

def render (value : Json) : String := String.ofList value.chars

end Json

end GpuProfiler
