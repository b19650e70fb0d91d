import GpuProfiler.Text.Hidden

set_option autoImplicit false

namespace GpuProfiler

namespace Quoting

def shown (c : Char) : String :=
  if c = '"' then "\\\""
  else if c = '\\' then "\\\\"
  else if c = '\t' then "\\t"
  else if c = '\n' then "\\n"
  else if c = '\r' then "\\r"
  else if c = '\x00' then "\\0"
  else if isHidden c then "\\u\x7b" ++ String.ofList (Nat.toDigits 16 c.toNat) ++ "\x7d"
  else c.toString

end Quoting

def quotedText (text : String) : String :=
  "\"" ++ String.join (text.toList.map Quoting.shown) ++ "\""

end GpuProfiler
