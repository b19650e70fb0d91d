import GpuProfiler.Proofs.Recorder
import GpuProfiler.Proofs.Timeline

set_option autoImplicit false

namespace GpuProfiler

structure Piece where
  recorded : Command
  sampled : Option Record
deriving DecidableEq, Repr

namespace Piece

def items (piece : Piece) : Timeline := .ofCommand piece.recorded piece.sampled.isSome

def timeline (pieces : List Piece) : Timeline := pieces.flatMap items

def sampledIn (pieces : List Piece) : Stream := pieces.filterMap (·.sampled)

@[simp] theorem timeline_append (pieces more : List Piece) : timeline (pieces ++ more) = timeline pieces ++ timeline more :=
  List.flatMap_append

@[simp] theorem sampled_in_append (pieces more : List Piece) :
    sampledIn (pieces ++ more) = sampledIn pieces ++ sampledIn more := List.filterMap_append

theorem sampled_in_one (recorded : Command) (sampled : Option Record) : sampledIn [⟨recorded, sampled⟩] = sampled.toList := by
  cases sampled <;> rfl

theorem traps_timeline (pieces : List Piece) : (timeline pieces).traps = (sampledIn pieces).length := by
  induction pieces with
  | nil => rfl
  | cons piece rest ih =>
    obtain ⟨recorded, sampled⟩ := piece
    unfold timeline sampledIn at ih ⊢
    rw [List.flatMap_cons, Timeline.traps_append, ih]
    cases sampled with
    | none => simp [items, Timeline.ofCommand]
    | some record => simp [items, Timeline.ofCommand, Nat.add_comm]

end Piece

namespace Recorder

-- The pieces of a recording are as many as its records say, and in order if it is an orderly one.
structure Fits (recorder : Recorder) (orderly : Prop) (pieces : List Piece) : Prop where
  stops : (Piece.sampledIn pieces).length = recorder.stream.trapped
  order : orderly → Piece.sampledIn pieces = recorder.stream.filter Record.traps ∧ recorder.InOrder
  accounts : ∀ piece ∈ pieces, ∀ record, piece.sampled = some record → piece.recorded.Accounts record

variable {recorder : Recorder} {orderly : Prop} {pieces : List Piece}

theorem fits_nil (empty : recorder.stream = []) (closed : recorder.active = none) : recorder.Fits orderly [] :=
  ⟨by rw [empty]; rfl, fun _ => ⟨by rw [empty]; rfl, in_order_closed closed⟩, fun _ member => (nomatch member)⟩

theorem fits_recorded {next : Recorder} {stops : Bool} (fits : recorder.Fits orderly pieces)
    (step : Stream.Step recorder.openAt recorder.stream stops next.stream) (ordered : orderly → next.InOrder)
    {recorded : Command}
    (accounts : ∀ record, recorder.stream.news next.stream = some record → recorded.Accounts record) :
    next.Fits orderly (pieces ++ [⟨recorded, recorder.stream.news next.stream⟩]) := by
  have added : Piece.sampledIn [⟨recorded, recorder.stream.news next.stream⟩] =
      (recorder.stream.news next.stream).toList := by
    cases recorder.stream.news next.stream <;> simp [Piece.sampledIn]
  refine ⟨?_, ?_, ?_⟩
  · rw [Piece.sampled_in_append, List.length_append, fits.stops, added, Stream.step_trapped step, ← Stream.step_news step]
    cases recorder.stream.news next.stream <;> rfl
  · intro holds
    obtain ⟨same, last⟩ := fits.order holds
    exact ⟨by rw [Piece.sampled_in_append, same, added, Stream.step_in_order step last], ordered holds⟩
  · intro piece member
    rcases List.mem_append.mp member with before | new
    · exact fits.accounts piece before
    · rw [List.mem_singleton.mp new]
      exact accounts

theorem fits_append (fits : recorder.Fits orderly pieces) (closed : orderly → recorder.active = none)
    {more : Stream} {others : List Piece} (stops : (Piece.sampledIn others).length = more.trapped)
    (same : orderly → Piece.sampledIn others = more.filter Record.traps)
    (accounts : ∀ piece ∈ others, ∀ record, piece.sampled = some record → piece.recorded.Accounts record) :
    (recorder.append more).Fits orderly (pieces ++ others) := by
  refine ⟨?_, ?_, ?_⟩
  · rw [Piece.sampled_in_append, List.length_append, fits.stops, stops]
    exact (Stream.trapped_append _ _).symm
  · intro holds
    refine ⟨?_, in_order_closed (closed holds)⟩
    rw [Piece.sampled_in_append, (fits.order holds).1, same holds]
    exact (List.filter_append _ _).symm
  · intro piece member
    exact (List.mem_append.mp member).elim (fits.accounts piece) (accounts piece)

end Recorder

end GpuProfiler
