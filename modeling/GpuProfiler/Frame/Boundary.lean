set_option autoImplicit false

namespace GpuProfiler

structure BoundaryActions where
  endFrame : Bool
  startFrame : Bool
  sampleFrame : Bool
  sampleReset : Bool
deriving DecidableEq, Repr

namespace BoundaryActions

def needsSample (actions : BoundaryActions) : Bool := actions.sampleFrame || actions.sampleReset

def bit (set : Bool) (value : Nat) : Nat := if set then value else 0

def toBits (actions : BoundaryActions) : Nat :=
  bit actions.endFrame 1 + bit actions.startFrame 2 + bit actions.sampleFrame 4
    + bit actions.sampleReset 8

def ofBits (bits : Nat) : BoundaryActions :=
  ⟨bits.testBit 0, bits.testBit 1, bits.testBit 2, bits.testBit 3⟩

def names (actions : BoundaryActions) : List String :=
  (if actions.endFrame then ["END_FRAME"] else []) ++ (if actions.startFrame then ["START_FRAME"] else [])
    ++ (if actions.sampleFrame then ["SAMPLE_FRAME"] else [])
    ++ (if actions.sampleReset then ["SAMPLE_RESET"] else [])

def logText (actions : BoundaryActions) : String :=
  let shown := if actions.names.isEmpty then "0x0" else String.intercalate " | " actions.names
  "BoundaryActions(" ++ shown ++ ")"

end BoundaryActions

structure FrameTransition where
  closing : Nat
  opening : Nat
  actions : BoundaryActions
deriving DecidableEq, Repr

end GpuProfiler
