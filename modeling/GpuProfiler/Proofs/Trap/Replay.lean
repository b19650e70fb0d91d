import GpuProfiler.Proofs.Recorder
import GpuProfiler.Proofs.Trap.Cycle

set_option autoImplicit false

namespace GpuProfiler

namespace Visit

-- The work that is reported of a visit; a part of a pass is reported as the pass it resumes.
def reported (visited : Visit) : Option Workload :=
  match visited.record.workload with
  | .continuation _ => visited.resumed.map Sampler.completed
  | other => some other

def message? (visited : Visit) (counters : List Reading) : Option Message :=
  visited.reported.bind fun workload => Message.ofWorkload? workload visited.record.labels counters

end Visit

def Tells (message : Option Message) (shown : List Event) : Prop :=
  match message with
  | some message => ∃ failed notes, shown = .message message failed :: notes ∧ ∀ event ∈ notes, event.isNote = true
  | none => ∀ event ∈ shown, event.isNote = true

namespace Cursor

theorem step_record {cursor next : Cursor} {record : Record} {visited : Visit}
    (met : cursor.step record = .ok (visited, next)) : visited.record = record := by
  unfold step at met
  split at met
  · cases met
    rfl
  · cases resumed : cursor.resume _ with
    | error reason =>
      rw [resumed] at met
      cases met
    | ok pass =>
      rw [resumed] at met
      cases met
      rfl
  · cases met
    rfl

theorem step_not_blocked {cursor : Cursor} {record : Record} {reason : Halt}
    (stopped : cursor.step record = .error reason) : reason ≠ .blocked := by
  unfold step at stopped
  split at stopped
  · cases stopped
  · have inner := map_error stopped
    unfold resume at inner
    split at inner
    · cases inner
    · split at inner
      · exact add_not_blocked (map_error inner)
      · cases inner
  · cases stopped

theorem run_append {σ : Type} (visitor : Visit → Act σ Unit) (cursor : Cursor) (stream more : Stream) :
    cursor.run visitor (stream ++ more) = (do let next ← cursor.run visitor stream; next.run visitor more) := by
  induction stream generalizing cursor with
  | nil => simp [run]
  | cons record rest ih => simp [run, ih]

end Cursor

theorem Queue.run_streams_flatten {σ : Type} (visitor : Visit → Act σ Unit) (queue : Queue) (streams : List Stream) :
    queue.runStreams visitor streams =
      (do let cursor ← queue.cursor.run visitor streams.flatten
          pure { queue with cursor := cursor, replayed := queue.replayed + streams.flatten.length }) := by
  induction streams generalizing queue with
  | nil => simp [runStreams, Cursor.run]
  | cons stream rest ih => simp [runStreams, runStream, ih, Cursor.run_append, Nat.add_assoc]

namespace Sampler

variable {s : Sampler} {items : Timeline}

theorem quiet_cycled {next : Sampler} {parts : CycleParts} (cycled : Cycled s items parts next) :
    Quiet parts.latch ∧ Quiet parts.reads := by
  obtain ⟨middle, sampled, read⟩ := cycled.counted
  refine ⟨Act.ends_of_ok (CounterSession.ends_sample_now _) sampled, ?_⟩
  split at read
  · exact Act.ends_of_ok (CounterSession.ends_read_all _) read
  · rw [read.1]
    exact quiet_nil

theorem steps_cycled {next : Sampler} {parts : CycleParts} (cycled : Cycled s items parts next) :
    Event.steps parts.shown = .resume s.trap.events.hostToDevice :: .reset s.trap.events.hostToDevice ::
      items.behind.lead s.trap.events := by
  obtain ⟨looks, failed, notes, asked, quiet, still⟩ := cycled.acquired.asked
  obtain ⟨noticed, resumed⟩ := cycled.released
  obtain ⟨latch, reads⟩ := quiet_cycled cycled
  simp [CycleParts.shown, asked, resumed, quiet_steps quiet, quiet_steps still, quiet_steps latch, quiet_steps reads,
    Event.step?]

theorem ends_report (workload : Workload) (labels : Labels) (counters : List Reading) (s : Sampler) :
    Act.Ends (report workload labels counters) s
      (fun shown _ next => next = { s with sender := next.sender } ∧
        Tells (Message.ofWorkload? workload labels counters) shown)
      (fun _ _ => False) := by
  unfold report
  cases Message.ofWorkload? workload labels counters with
  | some message =>
    simp only [Act.ends_on]
    exact Act.ends_mono (Sender.ends_emit _ _) (fun _ _ _ told => ⟨rfl, told⟩) (fun _ _ never => never)
  | none => exact ⟨rfl, fun _ member => by cases member⟩

theorem ends_visit_silent {visited : Visit} (silent : visited.record.traps = false) (s : Sampler) :
    Act.Ends (visit visited) s (fun shown _ next => shown = [] ∧ next = s) (fun _ _ => False) := by
  unfold Record.traps Workload.traps at silent
  unfold visit
  split
  · next pass found =>
    rw [found] at silent
    rw [if_neg (by simpa using silent)]
    exact ⟨rfl, rfl⟩
  · next part found =>
    rw [found] at silent
    rw [if_neg (by simpa using silent)]
    exact ⟨rfl, rfl⟩
  · split at silent <;> simp_all

structure Visited (s : Sampler) (items : Timeline) (visited : Visit) (parts : CycleParts) (told : List Event)
    (next : Sampler) : Prop where
  cycled : Cycled s items parts next
  told : Tells (visited.message? parts.counters) told

theorem ends_visit (standing : s.Standing items) (some : 0 < items.traps) {visited : Visit}
    (traps : visited.record.traps = true) :
    Act.Ends (visit visited) s
      (fun shown _ next => ∃ parts told, shown = CycleParts.shown parts ++ told ∧
        Visited s items visited parts told next)
      (fun _ _ => False) := by
  have reports (workload : Workload) (labels : Labels)
      (same : ∀ counters, visited.message? counters = Message.ofWorkload? workload labels counters) :
      Act.Ends (do let counters ← cycle; report workload labels counters) s
        (fun shown _ next => ∃ parts told, shown = CycleParts.shown parts ++ told ∧
          Visited s items visited parts told next) (fun _ _ => False) := by
    rw [Act.ends_bind]
    refine Act.ends_mono (ends_cycle standing some) ?_ (fun _ _ never => never)
    rintro shown counters middle ⟨parts, rfl, rfl, cycled⟩
    refine Act.ends_mono (ends_report workload labels parts.counters middle) ?_ (fun _ _ never => never)
    rintro told _ next ⟨frame, outcome⟩
    refine ⟨parts, told, rfl, ?_, ?_⟩
    · rw [frame]
      exact ⟨cycled.acquired, cycled.parked, cycled.counted, cycled.released,
        ⟨cycled.standing.device, cycled.standing.distinct, cycled.standing.reliable⟩, cycled.trap, cycled.works⟩
    · rw [same]
      exact outcome
  unfold Record.traps Workload.traps at traps
  unfold visit
  split
  · next pass found =>
    rw [found] at traps
    rw [if_pos (by simpa using traps)]
    exact reports _ _ fun _ => by simp [Visit.message?, Visit.reported, found]
  · next part found =>
    rw [found] at traps
    rw [if_pos (by simpa using traps)]
    cases resumed : visited.resumed with
    | some pass => exact reports (completed pass) _ fun _ => by simp [Visit.message?, Visit.reported, found, resumed]
    | none =>
      simp only [sampleContinuation, Act.ends_bind, Act.ends_note]
      refine Act.ends_mono (ends_cycle standing some) ?_ (fun _ _ never => never)
      rintro shown counters middle ⟨parts, rfl, rfl, cycled⟩
      refine ⟨parts, [.note .originUnknown], rfl, cycled, ?_⟩
      simp [Tells, Visit.message?, Visit.reported, found, resumed, Event.isNote]
  · next passes parts =>
    refine reports _ _ fun _ => ?_
    unfold Visit.message? Visit.reported
    split
    · next part found => exact absurd found (parts part)
    · rfl

theorem steps_told {message : Option Message} {told : List Event} (tells : Tells message told) :
    Event.steps told = [] := by
  cases message with
  | none => exact quiet_steps (quiet_notes tells)
  | some message =>
    obtain ⟨failed, notes, rfl, plain⟩ := tells
    simp [quiet_steps (quiet_notes plain), Event.step?]

-- The induction is on the records. A record that traps uses up one trap of the device, and between
-- two of those neither side moves.
theorem ends_run (standing : s.Standing items) {stream : Stream} (enough : stream.trapped ≤ items.traps)
    (cursor : Cursor) :
    Act.Ends (cursor.run visit stream) s
      (fun shown _ next => next.Standing (items.skip stream.trapped) ∧
        items.lead s.trap.events ++ Event.steps shown = items.through s.trap.events stream.trapped ∧
        next.trap = { s.trap with cycles := s.trap.cycles + stream.trapped } ∧ Driver.Works s.driver next.driver)
      (fun _ reason => reason ≠ .blocked) := by
  induction stream generalizing s items cursor with
  | nil => exact ⟨standing, List.append_nil _, rfl, rfl, rfl, rfl, rfl⟩
  | cons record rest ih =>
    simp only [Cursor.run, Act.ends_bind, Act.ends_note, Act.ends_check]
    refine ⟨?_, fun reason stopped => Cursor.step_not_blocked stopped⟩
    rintro ⟨visited, later⟩ met
    have same : visited.record = record := Cursor.step_record met
    cases traps : record.traps with
    | false =>
      have level : Stream.trapped (record :: rest) = Stream.trapped rest := by simp [Stream.trapped, traps]
      rw [level] at enough ⊢
      refine Act.ends_mono (ends_visit_silent (by rw [same, traps]) s) ?_ (fun _ _ never => never.elim)
      rintro _ _ _ ⟨rfl, rfl⟩
      refine Act.ends_mono (ih standing enough later) ?_ (fun _ _ unblocked => unblocked)
      rintro shown _ next ⟨stands, steps, cycles, works⟩
      exact ⟨stands, by simpa [Event.step?] using steps, cycles, works⟩
    | true =>
      have level : Stream.trapped (record :: rest) = Stream.trapped rest + 1 := by simp [Stream.trapped, traps]
      rw [level] at enough ⊢
      have some : 0 < items.traps := by omega
      have fewer := items.traps_behind
      refine Act.ends_mono (ends_visit standing some (by rw [same, traps])) ?_ (fun _ _ never => never.elim)
      rintro _ _ middle ⟨parts, told, rfl, cycled, tells⟩
      have events : middle.trap.events = s.trap.events := by rw [cycled.trap]
      refine Act.ends_mono (ih cycled.standing (by omega) later) ?_ (fun _ _ unblocked => unblocked)
      rintro shown _ next ⟨stands, steps, cycles, works⟩
      rw [events] at steps
      refine ⟨stands, ?_, ?_, Driver.works_trans cycled.works works⟩
      · rw [Timeline.through, ← steps]
        simp [steps_cycled cycled, steps_told tells, Event.step?]
      · rw [cycles, cycled.trap, Nat.add_assoc, Nat.add_comm 1]

end Sampler

end GpuProfiler
