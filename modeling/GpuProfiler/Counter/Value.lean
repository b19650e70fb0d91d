import GpuProfiler.Decimal.Layout

set_option autoImplicit false

namespace GpuProfiler

inductive CounterKind where
  | integer
  | float
deriving DecidableEq, Repr

inductive CounterValue where
  | integer (value : UInt64)
  | float (value : Binary64)
deriving DecidableEq, Repr

namespace CounterValue

def kind : CounterValue → CounterKind
  | .integer _ => .integer
  | .float _ => .float

def logText : CounterValue → String
  | .integer value => "Integer(" ++ toString value.toNat ++ ")"
  | .float value => "Float(" ++ value.logText ++ ")"

end CounterValue

def CounterKind.logText : CounterKind → String
  | .integer => "Integer"
  | .float => "Float"

structure Counter where
  id : Nat
  name : String
  kind : CounterKind
deriving DecidableEq, Repr

structure Reading where
  name : String
  value : CounterValue
deriving DecidableEq, Repr

end GpuProfiler
