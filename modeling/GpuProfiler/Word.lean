set_option autoImplicit false

namespace GpuProfiler

-- Why a run ends before its last step: no later step can happen.
inductive Halt where
  | addOverflow
  | multiplyOverflow
  | blocked
deriving DecidableEq, Repr

namespace Word

def bound : Nat := UInt64.size

def add (a b : UInt64) : Except Halt UInt64 :=
  if a.toNat + b.toNat < bound then .ok (a + b) else .error .addOverflow

def mul (a b : UInt64) : Except Halt UInt64 :=
  if a.toNat * b.toNat < bound then .ok (a * b) else .error .multiplyOverflow

def saturatingAdd (a b : UInt64) : UInt64 :=
  if a.toNat + b.toNat < bound then a + b else UInt64.ofNat (bound - 1)

def signed (a : UInt64) : Int :=
  if a.toNat < bound / 2 then a.toNat else a.toNat - bound

theorem add_eq_ok {a b c : UInt64} (sum : add a b = .ok c) : c.toNat = a.toNat + b.toNat := by
  unfold add at sum
  split at sum
  · next fits =>
    cases sum
    rw [UInt64.toNat_add]
    exact Nat.mod_eq_of_lt fits
  · cases sum

theorem toNat_saturatingAdd (a b : UInt64) :
    (saturatingAdd a b).toNat = min (a.toNat + b.toNat) (bound - 1) := by
  unfold saturatingAdd bound
  split
  · next fits =>
    rw [UInt64.toNat_add, Nat.mod_eq_of_lt fits]
    omega
  · next full =>
    have top : (UInt64.ofNat (UInt64.size - 1)).toNat = UInt64.size - 1 := by decide
    rw [top]
    omega

end Word

end GpuProfiler
