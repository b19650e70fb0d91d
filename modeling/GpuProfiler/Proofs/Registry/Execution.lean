import GpuProfiler.Proofs.Registry
import Mathlib.Data.List.Forall2

set_option autoImplicit false

namespace GpuProfiler

namespace Registry

variable {registry : Registry} {primary : BufferHandle} {secondaries : List BufferHandle}

theorem buffer_error {handle : BufferHandle} {error : Error} :
    registry.buffer handle = .error error ↔ error = .invalidHandle ∧ registry.buffers.get? handle = none := by
  unfold buffer
  cases registry.buffers.get? handle <;> simp [eq_comm]

theorem streams_found {copied : List Recorder}
    (found : List.Forall₂ (fun handle recorder => registry.buffer handle = .ok recorder) secondaries copied) :
    registry.streams secondaries = .ok (copied.map (·.stream)) := by
  induction found with
  | nil => rfl
  | cons here _ ih =>
    unfold streams
    rw [here, ih]
    rfl

-- Only the primary is written, and of it only the records: its own, then those of the secondaries
-- as they were, one after the other.
structure Executes (registry : Registry) (primary : BufferHandle) (recorder : Recorder) (copied : List Recorder)
    (next : Registry) : Prop where
  written : next.buffer primary = .ok { recorder with stream := recorder.stream ++ copied.flatMap (·.stream) }
  others : ∀ other, other ≠ primary → next.buffer other = registry.buffer other
  bufferLookup : next.bufferLookup = registry.bufferLookup
  vacant : next.buffers.free = registry.buffers.free
  size : next.buffers.size = registry.buffers.size
  queues : next.queues = registry.queues
  queueLookup : next.queueLookup = registry.queueLookup

theorem executes_set_buffer {recorder : Recorder} (live : registry.buffers.get? primary = some recorder)
    (copied : List Recorder) :
    registry.Executes primary recorder copied
      (registry.setBuffer primary (recorder.append (copied.flatMap (·.stream)))) := by
  have written := get_set_buffer live (recorder.append (copied.flatMap (·.stream)))
  refine ⟨?_, ?_, rfl, ?_, ?_, rfl, rfl⟩
  · rw [buffer_ok, written primary, if_pos rfl]
    rfl
  · intro other different
    unfold buffer
    rw [written other, if_neg different]
  · simp only [setBuffer, Arena.set, live]
  · simp only [setBuffer, Arena.set, live]

/-- Executing secondaries either finds every buffer and appends exactly their records, as they were,
to the primary, or finds one handle stale and changes nothing. -/
theorem execution_appends_all_or_nothing (registry : Registry) (primary : BufferHandle) (secondaries : List BufferHandle) :
    Act.Ends (execute primary secondaries) registry
      (fun shown answer next => shown = [] ∧
        ((∃ handle ∈ primary :: secondaries, registry.buffer handle = .error .invalidHandle) →
          answer = .error .invalidHandle ∧ next = registry) ∧
        ∀ recorder copied, registry.buffer primary = .ok recorder →
          List.Forall₂ (fun handle found => registry.buffer handle = .ok found) secondaries copied →
          answer = .ok () ∧ registry.Executes primary recorder copied next ∧
          ∀ position record, recorder.openAt = some position → recorder.stream[position]? = some record →
            ∃ after, next.buffer primary = .ok after ∧ after.openAt = some position ∧ after.stream[position]? = some record)
      (fun _ _ => False) := by
  simp only [execute, Act.ends_bind, Act.ends_get]
  cases found : registry.streams secondaries with
  | error error =>
    obtain ⟨rfl, handle, member, gone⟩ := streams_error found
    refine ⟨rfl, fun _ => ⟨rfl, rfl⟩, ?_⟩
    intro recorder copied _ live
    rw [streams_found live] at found
    cases found
  | ok streams =>
    cases here : registry.buffer primary with
    | error error =>
      obtain ⟨rfl, _⟩ := buffer_error.mp here
      refine ⟨rfl, fun _ => ⟨rfl, rfl⟩, ?_⟩
      intro recorder copied never
      cases never
    | ok recorder =>
      simp only [Act.ends_bind, Act.ends_set, Act.ends_pure]
      refine ⟨rfl, ?_, ?_⟩
      · rintro ⟨handle, member, stale⟩
        rcases List.mem_cons.mp member with rfl | later
        · rw [here] at stale
          cases stale
        · rw [streams_stale ⟨handle, later, (buffer_error.mp stale).2⟩] at found
          cases found
      · rintro _ copied ⟨⟩ live
        rw [streams_found live] at found
        cases found
        rw [← List.flatMap_def]
        have executes := executes_set_buffer ((buffer_ok registry primary recorder).mp here) copied
        refine ⟨trivial, executes, ?_⟩
        intro position record openAt there
        refine ⟨_, executes.written, openAt, ?_⟩
        exact (List.getElem?_append_left (List.getElem?_eq_some_iff.mp there).1).trans there

-- The primary stands among its own secondaries, and one of them twice.
theorem execution_copies_what_was_there :
    let work : Record := ⟨.dispatch .indirect, []⟩
    let other : Record := ⟨.traceRays .indirect, []⟩
    let registry : Registry := ⟨.empty, [], ⟨[⟨0, some { Recorder.new 1 .primary with stream := [work] }⟩,
      ⟨0, some { Recorder.new 2 .secondary with stream := [other] }⟩], [], 2⟩, []⟩
    Act.Ends (execute ⟨0, 0⟩ [⟨1, 0⟩, ⟨0, 0⟩, ⟨1, 0⟩]) registry
      (fun _ answer next => answer = .ok () ∧
        next.buffer ⟨0, 0⟩ = .ok { Recorder.new 1 .primary with stream := [work, other, work, other] })
      (fun _ _ => False) := by
  intro work other registry
  refine Act.ends_mono (execution_appends_all_or_nothing registry ⟨0, 0⟩ [⟨1, 0⟩, ⟨0, 0⟩, ⟨1, 0⟩]) ?_ fun _ _ never => never
  rintro shown answer next ⟨_, _, executed⟩
  obtain ⟨rfl, executes, _⟩ := executed { Recorder.new 1 .primary with stream := [work] }
    [{ Recorder.new 2 .secondary with stream := [other] }, { Recorder.new 1 .primary with stream := [work] },
      { Recorder.new 2 .secondary with stream := [other] }] rfl (.cons rfl (.cons rfl (.cons rfl .nil)))
  exact ⟨rfl, executes.written⟩

end Registry

end GpuProfiler
