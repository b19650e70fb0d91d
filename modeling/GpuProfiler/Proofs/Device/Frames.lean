import GpuProfiler.Layer
import GpuProfiler.Proofs.Driver.Contents

set_option autoImplicit false

namespace GpuProfiler

namespace CounterSession

variable (session : CounterSession Backend)

theorem ends_ask {α : Type} (act : Act ScriptedBackend α) (otherwise : α) (backend : Backend)
    (quiet : ∀ inner, Act.Ends act inner (fun shown _ _ => Quiet shown) (fun _ _ => False)) :
    Act.Ends (Backend.ask act otherwise) backend (fun shown _ _ => Quiet shown) (fun _ _ => False) := by
  cases backend with
  | empty => exact quiet_nil
  | scripted inner =>
    have ends := quiet inner
    unfold Act.Ends Backend.ask at *
    rcases ran : act inner with ⟨shown, reason | ⟨x, next⟩⟩
    · simp only [ran] at ends
    · simp only [ran] at ends ⊢
      exact ends

theorem ends_backend_sample (backend : Backend) :
    Act.Ends (CounterBackend.sampleNow : Act Backend (Except Error Unit)) backend
      (fun shown _ _ => Quiet shown) (fun _ _ => False) := by
  apply ends_ask _ _ backend
  intro inner
  simp only [ScriptedBackend.sampleNow, Act.ends_bind, Act.ends_get]
  split <;> simp [Event.stirs]

theorem ends_backend_read (counter : Nat) (backend : Backend) :
    Act.Ends (CounterBackend.read counter : Act Backend (Except Error CounterValue)) backend
      (fun shown _ _ => Quiet shown) (fun _ _ => False) := by
  apply ends_ask _ _ backend
  intro inner
  simp [ScriptedBackend.read, Event.stirs]

theorem ends_sample_now :
    Act.Ends sampleNow session (fun shown _ _ => Quiet shown) (fun _ _ => False) := by
  simp only [sampleNow, Act.ends_bind, Act.ends_on]
  refine Act.ends_mono (ends_backend_sample _) ?_ (fun _ _ never => never)
  intro shown answer _ quiet
  cases answer <;> simp [countStats, quiet, Event.stirs]

theorem ends_read_one (counter : Counter) :
    Act.Ends (readOne counter) session (fun shown _ _ => Quiet shown) (fun _ _ => False) := by
  simp only [readOne, Act.ends_bind, Act.ends_on]
  refine Act.ends_mono (ends_backend_read _ _) ?_ (fun _ _ never => never)
  intro shown answer _ quiet
  cases answer with
  | error error => simp [countStats, quiet, Event.stirs]
  | ok value =>
    by_cases typed : value.kind = counter.kind <;> simp [typed, countStats, quiet, Event.stirs]

theorem ends_read_each (counters : List Counter) :
    Act.Ends (readEach counters) session (fun shown _ _ => Quiet shown) (fun _ _ => False) := by
  induction counters generalizing session with
  | nil => exact quiet_nil
  | cons counter rest ih =>
    simp only [readEach, Act.ends_bind, Act.ends_pure]
    refine Act.ends_mono (ends_read_one session counter) ?_ (fun _ _ never => never)
    intro shown _ next quiet
    refine Act.ends_mono (ih next) ?_ (fun _ _ never => never)
    intro later _ _ still
    simp [quiet, still]

theorem ends_read_all : Act.Ends readAll session (fun shown _ _ => Quiet shown) (fun _ _ => False) := by
  simp only [readAll, Act.ends_bind, Act.ends_get]
  exact ends_read_each session session.active

end CounterSession

theorem Sender.ends_emit (message : Message) (sender : Sender ShowingEndpoint) :
    Act.Ends (Sender.emit message) sender
      (fun shown _ _ => ∃ failed rest, shown = .message message failed :: rest ∧ ∀ event ∈ rest, event.isNote = true)
      (fun _ _ => False) := by
  have sent (endpoint : ShowingEndpoint) : Act.Ends (Endpoint.send message) endpoint
      (fun shown _ _ => ∃ failed, shown = [.message message failed]) (fun _ _ => False) := by
    simp only [Endpoint.send, Act.ends_bind, Act.ends_get, Act.ends_set, Act.ends_emit, Act.ends_pure]
    exact ⟨_, rfl⟩
  simp only [Sender.emit, Act.ends_bind, Act.ends_on]
  refine Act.ends_mono (sent _) ?_ (fun _ _ never => never)
  rintro shown answer _ ⟨failed, rfl⟩
  cases answer with
  | error error =>
    simp only [Act.ends_bind, Act.ends_note, Act.ends_modify]
    exact ⟨failed, _, rfl, by simp [Event.isNote]⟩
  | ok _ => exact ⟨failed, [], rfl, by simp⟩

theorem Driver.ends_wait_idle (driver : Driver) :
    Act.Ends deviceWaitIdle driver
      (fun shown _ next => Quiet shown ∧ next = driver.counted .deviceWaitIdle)
      (fun _ _ => driver.timeline ≠ []) := by
  simp only [deviceWaitIdle, Driver.ends_try_call]
  split
  · exact ⟨by simp [Driver.callEvent, Event.stirs], rfl⟩
  · simp only [Act.ends_bind, Act.ends_get]
    by_cases idle : driver.timeline = []
    · simp [Driver.counted, idle, Driver.callEvent, Event.stirs, DriverCall.method]
    · simp [Driver.counted, idle]

namespace DeviceScope

-- What frame boundaries touch: the frame, the session, the sender, and the count of driver calls.
structure Aside (s next : DeviceScope) : Prop where
  driver : next.device.driver = { s.device.driver with calls := next.device.driver.calls }
  registry : next.device.registry = s.device.registry
  trap : next.device.trap = s.device.trap
  tags : next.shared.tags = s.shared.tags

theorem aside_refl (s : DeviceScope) : Aside s s := ⟨rfl, rfl, rfl, rfl⟩

theorem aside_trans {s middle next : DeviceScope} (first : Aside s middle) (second : Aside middle next) :
    Aside s next :=
  ⟨by rw [second.driver, first.driver], second.registry.trans first.registry, second.trap.trans first.trap,
    second.tags.trans first.tags⟩

variable (s : DeviceScope)

theorem ends_emit_if (condition : Bool) (message : Message) (plain : (Event.message message false).stirs = false) :
    Act.Ends (emitIf condition message) s (fun shown _ next => Quiet shown ∧ Aside s next) (fun _ _ => False) := by
  cases condition with
  | false => exact ⟨quiet_nil, aside_refl s⟩
  | true =>
    simp only [emitIf, if_true, Act.ends_on]
    refine Act.ends_mono (Sender.ends_emit message _) ?_ (fun _ _ never => never)
    rintro shown _ next ⟨failed, rest, rfl, notes⟩
    refine ⟨(quiet_cons _ _).mpr ⟨?_, quiet_notes notes⟩, rfl, rfl, rfl, rfl⟩
    cases message <;> first | rfl | cases plain

theorem ends_sample_boundary (transition : FrameTransition) :
    Act.Ends (sampleBoundary transition) s (fun shown _ next => Quiet shown ∧ Aside s next)
      (fun _ _ => s.device.driver.timeline ≠ []) := by
  simp only [sampleBoundary, Act.ends_bind, Act.ends_on, Act.ends_note_failure]
  refine Act.ends_mono (Driver.ends_wait_idle _) ?_ (fun _ _ busy => busy)
  rintro shown answer _ ⟨quiet, rfl⟩
  refine Act.ends_mono (CounterSession.ends_sample_now _) ?_ (fun _ _ never => never.elim)
  intro latch latched session still
  have noted := quiet_notes (failure_notes_notes .waitIdleFailed answer)
  split
  · simp only [Act.ends_bind, Act.ends_on]
    refine Act.ends_mono (CounterSession.ends_read_all _) ?_ (fun _ _ never => never.elim)
    intro reads counters _ silent
    refine Act.ends_mono (Sender.ends_emit _ _) ?_ (fun _ _ never => never.elim)
    rintro told _ _ ⟨failed, rest, rfl, notes⟩
    refine ⟨?_, rfl, rfl, rfl, rfl⟩
    simp [quiet, noted, still, silent, quiet_notes notes, Event.stirs]
  · exact ⟨by simp [quiet, noted, still], rfl, rfl, rfl, rfl⟩

theorem ends_apply (transition : FrameTransition) :
    Act.Ends (apply transition) s (fun shown _ next => Quiet shown ∧ Aside s next)
      (fun _ _ => s.device.driver.timeline ≠ []) := by
  simp only [apply, Act.ends_bind]
  refine Act.ends_mono (ends_emit_if s _ (.endFrame transition.closing) rfl) ?_ (fun _ _ never => never.elim)
  rintro shown _ first ⟨quiet, aside⟩
  refine Act.ends_mono (ends_emit_if first _ (.startFrame transition.opening) rfl) ?_ (fun _ _ never => never.elim)
  rintro later _ second ⟨still, also⟩
  have both := aside_trans aside also
  split
  · apply Act.ends_mono (ends_sample_boundary second transition)
    · rintro last _ third ⟨silent, beside⟩
      exact ⟨by simp [quiet, still, silent], aside_trans both beside⟩
    · intro _ _ busy
      rwa [both.driver] at busy
  · exact ⟨by simp [quiet, still], both⟩

theorem ends_finish_frame (transition : FrameTransition) :
    Act.Ends (finishFrame transition) s (fun shown _ next => Quiet shown ∧ Aside s next)
      (fun _ _ => s.device.driver.timeline ≠ []) := by
  simp only [finishFrame, Act.ends_bind, Act.ends_get]
  split
  · exact ends_apply s transition
  · exact ⟨quiet_nil, aside_refl s⟩

theorem ends_finish_if_any (transition : Option FrameTransition) :
    Act.Ends (finishIfAny transition) s (fun shown _ next => Quiet shown ∧ Aside s next)
      (fun _ _ => s.device.driver.timeline ≠ []) := by
  cases transition with
  | none => exact ⟨quiet_nil, aside_refl s⟩
  | some transition => exact ends_finish_frame s transition

theorem ends_advance_frame :
    Act.Ends advanceFrame s (fun shown _ next => Quiet shown ∧ Aside s next) (fun _ _ => False) := by
  simp only [advanceFrame, FrameTracker.boundary, Act.ends_bind, Act.ends_get, Act.ends_on, Act.ends_note_if,
    Act.ends_set, Act.ends_note, Act.ends_pure]
  refine ⟨?_, rfl, rfl, rfl, rfl⟩
  split <;> simp [Event.stirs]

theorem ends_advance_if (endsFrame : Bool) :
    Act.Ends (advanceIf endsFrame) s (fun shown _ next => Quiet shown ∧ Aside s next) (fun _ _ => False) := by
  cases endsFrame with
  | false => exact ⟨quiet_nil, aside_refl s⟩
  | true =>
    simp only [advanceIf, if_true, Act.ends_bind, Act.ends_pure]
    exact Act.ends_mono (ends_advance_frame s) (fun shown _ _ both => by simpa using both) (fun _ _ never => never)

theorem ends_note_submit :
    Act.Ends noteSubmit s (fun shown _ next => Quiet shown ∧ Aside s next) (fun _ _ => False) := by
  simp only [noteSubmit, FrameTracker.noteSubmit, Act.ends_on, Act.ends_bind, Act.ends_get]
  split
  · simp only [Act.ends_bind, Act.ends_note, Act.ends_set]
    exact ⟨by simp [Event.stirs], rfl, rfl, rfl, rfl⟩
  · exact ⟨quiet_nil, rfl, rfl, rfl, rfl⟩

theorem ends_queue_present (raw : RawQueue) :
    Act.Ends (Act.on driverPart (Driver.queuePresent raw)) s (fun shown _ next => Quiet shown ∧ Aside s next)
      (fun _ _ => False) := by
  simp only [Act.ends_on, Driver.queuePresent, Driver.ends_try_call]
  split <;> exact ⟨by simp [Driver.callEvent, Event.stirs], rfl, rfl, rfl, rfl⟩

theorem ends_present (raw : RawQueue) :
    Act.Ends (present raw) s (fun shown _ next => Quiet shown ∧ Aside s next)
      (fun _ _ => s.device.driver.timeline ≠ []) := by
  simp only [present, Act.ends_bind, Act.ends_get]
  refine Act.ends_mono (ends_advance_frame s) ?_ (fun _ _ never => never.elim)
  rintro shown transition first ⟨quiet, aside⟩
  -- Either way two steps follow, each of which leaves the device as it is.
  split
  · simp only [Act.ends_bind, Act.ends_pure]
    refine Act.ends_mono (ends_queue_present first raw) ?_ (fun _ _ never => never.elim)
    rintro later _ second ⟨still, also⟩
    apply Act.ends_mono (ends_finish_frame second transition)
    · rintro last _ third ⟨silent, beside⟩
      exact ⟨by simp [quiet, still, silent], aside_trans (aside_trans aside also) beside⟩
    · intro _ _ busy
      rwa [(aside_trans aside also).driver] at busy
  · rw [Act.ends_bind]
    apply Act.ends_mono (ends_finish_frame first transition)
    · rintro later _ second ⟨still, also⟩
      refine Act.ends_mono (ends_queue_present second raw) ?_ (fun _ _ never => never.elim)
      rintro last _ third ⟨silent, beside⟩
      exact ⟨by simp [quiet, still, silent], aside_trans (aside_trans aside also) beside⟩
    · intro _ _ busy
      rwa [aside.driver] at busy

end DeviceScope

end GpuProfiler
