import GpuProfiler.Proofs.Device.Frames
import GpuProfiler.Proofs.Device.Silence
import GpuProfiler.Proofs.Trap.Replay

set_option autoImplicit false

namespace GpuProfiler

abbrev Event.Spares (shown : List Event) : Prop := Event.Lacks Event.failsReplay shown

abbrev Act.Spared {σ α : Type} (act : Act σ α) : Prop := Act.Without Event.failsReplay act

theorem Event.fails_rare (event : Event) (fails : event.failsReplay = true) : event.isRare = true := by
  rw [isRare, fails, Bool.or_true]

theorem Event.fails_outward (event : Event) (fails : event.failsReplay = true) : event.isOutward = true :=
  rare_outward event (fails_rare event fails)

namespace Sampler

open Act

theorem spared_await (event : RawEvent) (patience : Nat) : Spared (Trap.await event patience : Act Sampler Unit) := by
  have asked : Spared (Driver.eventStatus event) := by
    refine Driver.without_try_call (fun _ _ => rfl) (without_bind without_get fun driver => ?_)
    split
    · exact without_bind (without_set _) fun _ => without_pure _
    · split
      · exact without_bind (without_set _) fun _ => without_pure _
      · exact without_halt _
  induction patience with
  | zero => exact without_halt _
  | succ patience ih =>
    refine without_bind (without_on asked) fun answer => ?_
    cases answer with
    | error error => exact without_bind (without_emit rfl) fun _ => ih
    | ok status =>
      cases status with
      | set => exact without_pure ()
      | unset => exact ih

theorem spared_trap_cycle (trap : Trap) {α : Type} {inside : Act Sampler α} (spared : Spared inside) :
    Spared (trap.cycle inside) := by
  have reset (event : RawEvent) : Spared (Driver.resetEvent event) :=
    Driver.without_try_call (fun _ _ => rfl) (without_modify _)
  have set (event : RawEvent) : Spared (Driver.setEvent event) :=
    Driver.without_try_call (fun _ _ => rfl) (without_bind (without_modify _) fun _ =>
      Driver.without_advance fun _ _ => rfl)
  have acquired : Spared (trap.acquire : Act Sampler Unit) :=
    without_bind without_get fun _ => without_bind (spared_await _ _) fun _ =>
      without_bind (without_on (reset _)) (without_note_failure fun _ => rfl)
  have released : Spared (trap.release : Act Sampler Unit) :=
    without_bind (without_on (set _)) (without_note_failure fun _ => rfl)
  exact without_bind acquired fun _ => without_bind spared fun _ => without_bind released fun _ =>
    without_bind (without_emit rfl) fun _ => without_pure _

theorem spared_cycle : Spared cycle := by
  refine without_bind without_get fun s => ?_
  refine without_bind (spared_trap_cycle s.trap (without_on (without_mono Event.fails_outward
    CounterSession.without_sample_now))) fun done => ?_
  refine without_bind (without_modify _) fun _ => ?_
  split
  · exact without_on (without_mono Event.fails_outward CounterSession.without_read_all)
  · exact without_pure _

theorem spared_report (workload : Workload) (labels : Labels) (counters : List Reading) :
    Spared (report workload labels counters) := by
  unfold report
  split
  · exact without_on (Sender.without_emit (fun _ => rfl) fun _ => rfl)
  · exact without_pure ()

theorem spared_visit (visited : Visit) : Spared (visit visited) := by
  have sampled (workload : Workload) (labels : Labels) : Spared (sample workload labels) :=
    without_bind spared_cycle (spared_report workload labels)
  unfold visit
  split
  · split
    · exact sampled _ _
    · exact without_pure ()
  · split
    · refine without_bind spared_cycle fun counters => ?_
      split
      · exact spared_report _ _ counters
      · exact without_emit rfl
    · exact without_pure ()
  · exact sampled _ _

theorem spared_run (stream : Stream) (cursor : Cursor) : Spared (cursor.run visit stream) := by
  induction stream generalizing cursor with
  | nil => exact without_pure _
  | cons record rest ih =>
    refine without_bind (without_emit rfl) fun _ => without_bind (without_check _) fun met => ?_
    exact without_bind (spared_visit met.1) fun _ => ih met.2

end Sampler

namespace DeviceScope

open Act

theorem spared_finish_if_any (transition : Option FrameTransition) : Spared (finishIfAny transition) :=
  without_finish_if_any Event.fails_rare fun _ _ => ⟨fun _ _ => rfl, fun _ _ => rfl⟩

theorem spared_queue_submit (raw : RawQueue) (batches : List (List RawBuffer)) :
    Spared (Driver.queueSubmit raw batches) :=
  Driver.without_try_call (fun _ _ => rfl) (without_bind (without_modify _) fun _ => Driver.without_advance fun _ _ => rfl)

variable {s : DeviceScope} {queue : QueueHandle} {buffers : List BufferHandle}

def Holds (s : DeviceScope) (queue : QueueHandle) (buffers : List BufferHandle) : Prop :=
  (∃ tracked, s.device.registry.queue queue = .ok tracked) ∧
    ∀ handle ∈ buffers, ∃ recorder, s.device.registry.buffers.get? handle = some recorder

theorem ends_replay_held (held : s.Holds queue buffers) :
    Ends (replay queue buffers) s (fun shown answer _ => answer = .ok () ∧ Event.Spares shown)
      (fun shown _ => Event.Spares shown) := by
  obtain ⟨⟨tracked, queued⟩, live⟩ := held
  simp only [replay, ends_bind, ends_get]
  cases s.device.trap with
  | none => exact ⟨rfl, Event.lacks_nil⟩
  | some trap =>
    have registry : ((samplingPart trap).get s).1 = s.device.registry := rfl
    simp only [ends_on, Registry.replay, ends_bind, ends_get, registry, queued, Registry.streams_some live,
      Queue.run_streams_flatten, ends_modify, ends_pure, ends_note]
    refine ends_mono (ends_lacking (Sampler.spared_run _ _ _)) ?_ (fun shown _ spares => by simpa using spares)
    exact fun shown _ _ spares => ⟨trivial, by simpa [Event.failsReplay] using spares⟩

theorem spared_replay_if (held : s.Holds queue buffers) (wanted : Bool) :
    Event.Spares (replayIf wanted queue buffers s).events := by
  apply lacks_of_ends
  cases wanted with
  | false => exact Event.lacks_nil
  | true =>
    simp only [replayIf, if_true, ends_bind, ends_note_failure]
    refine ends_mono (ends_replay_held held) ?_ (fun _ _ spares => spares)
    rintro shown _ _ ⟨rfl, spares⟩
    simpa [failureNotes] using spares

theorem spared_submit (held : s.Holds queue buffers) (policy : ReplayPolicy) (raw : RawQueue)
    (batches : List (List RawBuffer)) (endsFrame : Bool) :
    Event.Spares (submit policy queue raw batches buffers endsFrame s).events := by
  -- The registry is left alone until the replay, so what was there still is.
  have keeps {t next : DeviceScope} (there : t.Holds queue buffers) (same : next.device.registry = t.device.registry) :
      next.Holds queue buffers := by
    rw [Holds, same]
    exact there
  have given (act : Act Driver (Except Error Unit)) (t : DeviceScope) :
      Ends (Act.on driverPart act) t (fun _ _ next => next.device.registry = t.device.registry) (fun _ _ => True) := by
    rw [ends_on]
    exact ends_mono (ends_self act _) (fun _ _ _ _ => rfl) (fun _ _ _ => trivial)
  refine lacks_then (without_note_submit (fun _ => rfl) s) (ends_note_submit s) fun _ _ first aside => ?_
  have still := keeps held aside.2.registry
  refine lacks_then (without_get first) (ends_self Act.get first) fun _ _ _ got => ?_
  cases got
  refine lacks_then (without_advance_if (fun _ => rfl) (fun _ => rfl) endsFrame first) (ends_advance_if first endsFrame)
    fun _ transition second beside => ?_
  have there := keeps still beside.2.registry
  refine lacks_then (without_get second) (ends_self Act.get second) fun _ _ _ got => ?_
  cases got
  dsimp only
  split
  · exact without_bind (spared_finish_if_any transition) (fun _ => without_on (spared_queue_submit raw batches))
      second
  · refine lacks_then (without_on (spared_queue_submit raw batches) second) (given _ second)
      fun _ answer third same => ?_
    refine lacks_then (spared_replay_if (keeps there same) _) (ends_self _ third) fun _ _ fourth _ => ?_
    exact without_bind (spared_finish_if_any transition) (fun _ => without_pure answer) fourth

end DeviceScope

end GpuProfiler
