import GpuProfiler.Command
import GpuProfiler.Telemetry.Message

set_option autoImplicit false

namespace GpuProfiler

namespace Word

variable {a b : UInt64}

theorem signed_small (small : a.toNat < bound / 2) : signed a = a.toNat := if_pos small

theorem signed_large (large : ¬ a.toNat < bound / 2) : signed a = a.toNat - bound := if_neg large

theorem signed_exact_iff (a : UInt64) : signed a = a.toNat ↔ a.toNat < bound / 2 := by
  constructor
  · intro exact
    by_cases small : a.toNat < bound / 2
    · exact small
    · rw [signed_large small] at exact
      have : 0 < bound := by decide
      omega
  · exact signed_small

theorem signed_negative_iff (a : UInt64) (distance : Nat) (near : 0 < distance ∧ distance ≤ bound / 2) :
    signed a = -distance ↔ a.toNat = bound - distance := by
  have fits : a.toNat < bound := a.toNat_lt
  have even : bound = 2 * (bound / 2) := by decide
  unfold signed
  split <;> omega

theorem signed_inj : signed a = signed b ↔ a = b := by
  have first : a.toNat < bound := a.toNat_lt
  have second : b.toNat < bound := b.toNat_lt
  rw [← UInt64.toNat_inj]
  unfold signed
  split <;> split <;> omega

def largest : UInt64 := UInt64.ofNat (bound - 1)

def nextLargest : UInt64 := UInt64.ofNat (bound - 2)

theorem signed_largest_iff (a : UInt64) : signed a = -1 ↔ a = largest := by
  have far := signed_negative_iff a 1 (by decide)
  rw [← UInt64.toNat_inj, show largest.toNat = bound - 1 by decide]
  exact far

theorem signed_next_largest_iff (a : UInt64) : signed a = -2 ↔ a = nextLargest := by
  have far := signed_negative_iff a 2 (by decide)
  rw [← UInt64.toNat_inj, show nextLargest.toNat = bound - 2 by decide]
  exact far

end Word

def Count.widen : Count → ByteCount
  | .known count => .known count
  | .unknown => .unknown

@[simp] theorem Count.wire_widen (count : Count) : count.widen.wire = count.wire := by
  cases count <;> rfl

namespace ByteCount

inductive Clashes : ByteCount → ByteCount → Prop
  | unknown : Clashes .unknown (.known Word.largest)
  | wholeResource : Clashes .wholeResource (.known Word.nextLargest)

theorem wire_unknown_iff (size : ByteCount) : size.wire = -1 ↔ size = .unknown ∨ size = .known Word.largest := by
  cases size with
  | known bytes => simpa [wire] using Word.signed_largest_iff bytes
  | unknown => simp [wire]
  | wholeResource => simp [wire]

theorem wire_whole_iff (size : ByteCount) :
    size.wire = -2 ↔ size = .wholeResource ∨ size = .known Word.nextLargest := by
  cases size with
  | known bytes => simpa [wire] using Word.signed_next_largest_iff bytes
  | unknown => simp [wire]
  | wholeResource => simp [wire]

theorem clashes_unknown_iff (size : ByteCount) : Clashes .unknown size ↔ size = .known Word.largest :=
  ⟨fun clash => by cases clash; rfl, fun same => same ▸ .unknown⟩

theorem clashes_whole_iff (size : ByteCount) : Clashes .wholeResource size ↔ size = .known Word.nextLargest :=
  ⟨fun clash => by cases clash; rfl, fun same => same ▸ .wholeResource⟩

theorem clashes_known (bytes : UInt64) (size : ByteCount) : ¬ Clashes (.known bytes) size := nofun

theorem wire_eq_iff (size other : ByteCount) :
    size.wire = other.wire ↔ size = other ∨ Clashes size other ∨ Clashes other size := by
  cases size with
  | unknown =>
    rw [clashes_unknown_iff, eq_comm, show wire .unknown = -1 from rfl, wire_unknown_iff]
    cases other <;> simp [clashes_known, clashes_whole_iff]
  | wholeResource =>
    rw [clashes_whole_iff, eq_comm, show wire .wholeResource = -2 from rfl, wire_whole_iff]
    cases other <;> simp [clashes_known, clashes_unknown_iff]
  | known bytes =>
    cases other with
    | unknown =>
      rw [show wire .unknown = -1 from rfl, wire_unknown_iff, clashes_unknown_iff]
      simp [clashes_known]
    | wholeResource =>
      rw [show wire .wholeResource = -2 from rfl, wire_whole_iff, clashes_whole_iff]
      simp [clashes_known]
    | known others =>
      rw [show wire (.known bytes) = Word.signed bytes from rfl, show wire (.known others) = Word.signed others from rfl,
        Word.signed_inj]
      simp [clashes_known]

end ByteCount

def Workload.sizes : Workload → List ByteCount
  | .renderPass _ | .continuation _ => []
  | .dispatch groups | .traceRays groups => [groups.x.widen, groups.y.widen, groups.z.widen]
  | .imageTransfer _ pixels => [pixels.widen]
  | .bufferTransfer _ bytes | .structureTransfer _ bytes => [bytes]
  | .structureBuild _ primitives => [primitives.widen]

namespace Metadata

def sizes : Metadata → List Int
  | .renderPass _ _ _ _ _ => []
  | .dispatch x y z | .traceRays x y z => [x, y, z]
  | .imageTransfer _ pixels => [pixels]
  | .bufferTransfer _ bytes | .structureTransfer _ bytes => [bytes]
  | .structureBuild _ primitives => [primitives]

theorem sizes_of_workload {work : Workload} {metadata : Metadata} (told : ofWorkload? work = some metadata) :
    metadata.sizes = work.sizes.map ByteCount.wire := by
  cases work <;> cases told <;> simp [sizes, Workload.sizes]

end Metadata

namespace Command

theorem work_told {command : Command} {work : Workload} (stands : command.workload = .ok (some work)) :
    ∃ metadata, Metadata.ofWorkload? work = some metadata := by
  cases work with
  | continuation part =>
    have map_ok {result : Except Halt Count} {kind : ImageTransferKind} :
        imageWork kind result ≠ .ok (some (.continuation part)) := by
      cases result <;> simp [imageWork, Except.map]
    cases command <;> first | exact absurd stands map_ok | cases stands
  | _ => exact ⟨_, rfl⟩

/-- A message tells each size of the work a command stands for as one number. A known size is told
as itself exactly below half the word. The numbers of the unknown size and of the whole resource
are those of the largest word and of the next largest too; other sizes have numbers of their own. -/
theorem told_sizes_clash_at_top (command : Command) (work : Workload) (labels : Labels) (counters : List Reading)
    (stands : command.workload = .ok (some work)) :
    ∃ metadata, Message.ofWorkload? work labels counters = some (.workload labels counters metadata) ∧
      metadata.sizes = work.sizes.map ByteCount.wire ∧
      ∀ size ∈ work.sizes,
        (size.wire = -1 ↔ size = .unknown ∨ size = .known Word.largest) ∧
        (size.wire = -2 ↔ size = .wholeResource ∨ size = .known Word.nextLargest) ∧
        (∀ count, size = .known count → (size.wire = count.toNat ↔ count.toNat < Word.bound / 2)) ∧
        ∀ other otherWork, Command.workload other = .ok (some otherWork) → ∀ otherSize ∈ otherWork.sizes,
          (size.wire = otherSize.wire ↔
            size = otherSize ∨ ByteCount.Clashes size otherSize ∨ ByteCount.Clashes otherSize size) := by
  obtain ⟨metadata, told⟩ := work_told stands
  refine ⟨metadata, by rw [Message.ofWorkload?, told]; rfl, Metadata.sizes_of_workload told, ?_⟩
  intro size _
  refine ⟨size.wire_unknown_iff, size.wire_whole_iff, ?_, fun _ _ _ otherSize _ => size.wire_eq_iff otherSize⟩
  intro count known
  rw [known]
  exact Word.signed_exact_iff count

theorem largest_update_clashes :
    ∃ metadata, Message.ofWorkload? (.bufferTransfer .updateBuffer (.known Word.largest)) [] [] =
        some (.workload [] [] metadata) ∧ metadata.sizes = [-1] := by
  obtain ⟨metadata, told, sizes, every⟩ := told_sizes_clash_at_top (.updateBuffer Word.largest)
    (.bufferTransfer .updateBuffer (.known Word.largest)) [] [] rfl
  have unknown := (every (.known Word.largest) List.mem_cons_self).1.mpr (.inr rfl)
  exact ⟨metadata, told, by rw [sizes]; simp [Workload.sizes, unknown]⟩

-- An update of the most bytes is told like one of unknown size, and a fill of one byte less than that
-- like a fill of the whole resource.
theorem largest_sizes_read_as_marks :
    (updateBuffer Word.largest).workload = .ok (some (.bufferTransfer .updateBuffer (.known Word.largest))) ∧
      Message.ofWorkload? (.bufferTransfer .updateBuffer (.known Word.largest)) [] [] =
        some (.workload [] [] (.bufferTransfer .updateBuffer (-1))) ∧
      (fillBuffer Word.nextLargest).workload = .ok (some (.bufferTransfer .fillBuffer (.known Word.nextLargest))) ∧
      Message.ofWorkload? (.bufferTransfer .fillBuffer (.known Word.nextLargest)) [] [] =
        some (.workload [] [] (.bufferTransfer .fillBuffer (-2))) :=
  ⟨rfl, by decide, rfl, by decide⟩

end Command

end GpuProfiler
