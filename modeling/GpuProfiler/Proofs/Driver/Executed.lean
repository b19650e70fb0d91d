import Mathlib.Data.List.Basic
import GpuProfiler.Proofs.Driver.Contents

set_option autoImplicit false

namespace GpuProfiler

namespace BufferOp

def isExecute : BufferOp → Bool
  | .device _ => false
  | .execute _ => true

def executed : BufferOp → List RawBuffer
  | .device _ => []
  | .execute buffers => buffers

end BufferOp

namespace Driver

-- A buffer is executed as long as some buffer keeps a recording that says so.
def Executes (driver : Driver) (raw : RawBuffer) : Prop :=
  ∃ primary, ∃ op ∈ driver.contents primary, raw ∈ op.executed

def Plain (driver : Driver) (raw : RawBuffer) : Prop :=
  ∀ op ∈ driver.contents raw, op.isExecute = false

instance (driver : Driver) (raw : RawBuffer) : Decidable (driver.Plain raw) :=
  inferInstanceAs (Decidable (∀ op ∈ driver.contents raw, op.isExecute = false))

variable {driver next : Driver} {raw : RawBuffer}

theorem executes_known : driver.Executes raw ↔
    ∃ entry ∈ driver.buffers, ∃ op ∈ driver.contents entry.1, raw ∈ op.executed := by
  constructor
  · rintro ⟨primary, op, held, listed⟩
    cases found : driver.buffers.lookup primary with
    | none =>
      rw [contents, found] at held
      cases held
    | some ops =>
      obtain ⟨ahead, behind, split, _⟩ := List.lookup_eq_some_iff.mp found
      exact ⟨(primary, ops), by simp [split], op, held, listed⟩
  · rintro ⟨entry, _, op, held, listed⟩
    exact ⟨entry.1, op, held, listed⟩

instance (driver : Driver) (raw : RawBuffer) : Decidable (driver.Executes raw) :=
  decidable_of_iff _ executes_known.symm

theorem executes_congr (same : ∀ other, next.contents other = driver.contents other) {other : RawBuffer}
    (executes : next.Executes other) : driver.Executes other := by
  obtain ⟨primary, op, held, listed⟩ := executes
  exact ⟨primary, op, same primary ▸ held, listed⟩

theorem executes_cleared (empty : next.contents raw = [])
    (elsewhere : ∀ other, other ≠ raw → next.contents other = driver.contents other) {other : RawBuffer}
    (executes : next.Executes other) : driver.Executes other := by
  obtain ⟨primary, op, held, listed⟩ := executes
  by_cases same : primary = raw
  · rw [same, empty] at held
    cases held
  · exact ⟨primary, op, elsewhere primary same ▸ held, listed⟩

theorem executes_recorded {ops : List BufferOp} (recorded : Recorded driver raw ops next) {other : RawBuffer}
    (executes : next.Executes other) : driver.Executes other ∨ ∃ op ∈ ops, other ∈ op.executed := by
  obtain ⟨primary, op, held, listed⟩ := executes
  by_cases same : primary = raw
  · rw [same, recorded.here, List.mem_append] at held
    exact held.imp (fun before => ⟨raw, op, before, listed⟩) (fun added => ⟨op, added, listed⟩)
  · rw [recorded.elsewhere primary same] at held
    exact .inl ⟨primary, op, held, listed⟩

-- The induction follows what is executed; each buffer met on the way is itself executed.
theorem expand_elsewhere (elsewhere : ∀ other, other ≠ raw → next.contents other = driver.contents other)
    (apart : ¬ driver.Executes raw) (depth : Nat) {op : BufferOp} {primary : RawBuffer}
    (held : op ∈ driver.contents primary) : next.expand depth op = driver.expand depth op := by
  induction depth generalizing op primary with
  | zero => cases op <;> rfl
  | succ depth ih =>
    cases op with
    | device op => rfl
    | execute raws =>
      rw [expand, expand]
      apply List.flatMap_congr
      intro other listed
      have different : other ≠ raw := fun same => apart ⟨primary, .execute raws, held, same ▸ listed⟩
      rw [elsewhere other different]
      exact List.flatMap_congr fun inner member => ih member

theorem flatten_elsewhere (elsewhere : ∀ other, other ≠ raw → next.contents other = driver.contents other)
    (apart : ¬ driver.Executes raw) {other : RawBuffer} (different : other ≠ raw) :
    next.flatten other = driver.flatten other := by
  rw [flatten, flatten, elsewhere other different]
  exact List.flatMap_congr fun op member => expand_elsewhere elsewhere apart _ member

theorem flatten_recorded {ops : List BufferOp} (recorded : Recorded driver raw ops next)
    (apart : ¬ driver.Executes raw) :
    next.flatten raw = driver.flatten raw ++ ops.flatMap (next.expand executionDepth) := by
  rw [flatten, flatten, recorded.here, List.flatMap_append]
  congr 1
  exact List.flatMap_congr fun op member => expand_elsewhere recorded.elsewhere apart _ member

theorem plain_devices (plain : driver.Plain raw) : ∃ ops : List DeviceOp, driver.contents raw = ops.map .device := by
  unfold Plain at plain
  generalize driver.contents raw = held at plain
  induction held with
  | nil => exact ⟨[], rfl⟩
  | cons op rest ih =>
    obtain ⟨ops, same⟩ := ih fun other member => plain other (List.mem_cons_of_mem op member)
    cases op with
    | device first => exact ⟨first :: ops, by rw [same, List.map_cons]⟩
    | execute raws => cases plain (.execute raws) List.mem_cons_self

theorem expand_plain {raws : List RawBuffer} (plain : ∀ other ∈ raws, driver.Plain other) (depth : Nat) :
    driver.expand (depth + 1) (.execute raws) = raws.flatMap driver.flatten := by
  rw [expand]
  apply List.flatMap_congr
  intro other listed
  obtain ⟨ops, same⟩ := plain_devices (plain other listed)
  rw [flatten, same, expand_devices, expand_devices]

end Driver

end GpuProfiler
