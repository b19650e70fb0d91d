set_option autoImplicit false

namespace GpuProfiler

abbrev Labels := List String

-- The open labels, the innermost first.
structure LabelStack where
  opened : List String
deriving DecidableEq, Repr

namespace LabelStack

def empty : LabelStack := ⟨[]⟩

instance : Inhabited LabelStack := ⟨empty⟩

def push (stack : LabelStack) (label : String) : LabelStack := ⟨label :: stack.opened⟩

def pop (stack : LabelStack) : LabelStack := ⟨stack.opened.tail⟩

def innermost? (stack : LabelStack) : Option String := stack.opened.head?

def depth (stack : LabelStack) : Nat := stack.opened.length

def snapshot (stack : LabelStack) : Labels := stack.opened.reverse

@[simp] theorem snapshot_empty : empty.snapshot = [] := rfl

@[simp] theorem snapshot_push (stack : LabelStack) (label : String) :
    (stack.push label).snapshot = stack.snapshot ++ [label] := by
  simp [push, snapshot]

@[simp] theorem snapshot_pop (stack : LabelStack) : stack.pop.snapshot = stack.snapshot.dropLast := by
  simp [pop, snapshot]

end LabelStack

end GpuProfiler
