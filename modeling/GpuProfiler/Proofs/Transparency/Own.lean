import GpuProfiler.Layer
import GpuProfiler.Proofs.Transparency.View
import GpuProfiler.Proofs.Trap.Replay

set_option autoImplicit false

namespace GpuProfiler

open Act Event

abbrev unseen {σ : Type} : σ → Unit := fun _ => ()

namespace CounterSession

theorem hidden_ask {α : Type} {act : Act ScriptedBackend α} (otherwise : α) (hidden : Hidden unseen act) :
    Hidden unseen (Backend.ask act otherwise) := by
  intro backend
  cases backend with
  | empty => exact ⟨rfl, rfl⟩
  | scripted inner =>
    have ends := hidden inner
    unfold Ends Backend.ask at *
    rcases ran : act inner with ⟨shown, reason | ⟨x, next⟩⟩
    · simp only [ran]
    · simp only [ran] at ends ⊢
      exact ⟨ends.1, trivial⟩

theorem hidden_backend_sample : Hidden unseen (CounterBackend.sampleNow : Act Backend (Except Error Unit)) := by
  refine hidden_ask _ (hidden_bind hidden_get fun backend => ?_)
  split <;> exact fun _ => ⟨rfl, rfl⟩

theorem hidden_backend_read (counter : Nat) :
    Hidden unseen (CounterBackend.read counter : Act Backend (Except Error CounterValue)) :=
  hidden_ask _ fun _ => ⟨rfl, rfl⟩

theorem hidden_count (count : SessionStats → SessionStats) :
    Hidden unseen (countStats count : Act (CounterSession Backend) Unit) := hidden_modify fun _ => rfl

theorem hidden_sample_now : Hidden unseen (sampleNow : Act (CounterSession Backend) Bool) := by
  refine hidden_bind (hidden_on hidden_backend_sample fun _ _ _ => rfl) fun answer => ?_
  cases answer with
  | ok _ => exact hidden_bind (hidden_count _) fun _ => hidden_pure true
  | error error =>
    exact hidden_bind (hidden_note _) fun _ => hidden_bind (hidden_count _) fun _ => hidden_pure false

theorem hidden_read_one (counter : Counter) :
    Hidden unseen (readOne counter : Act (CounterSession Backend) (Option Reading)) := by
  have failed (noticed : Note) : Hidden unseen
      (do Act.note noticed; countStats countFailedRead; Pure.pure none : Act (CounterSession Backend) (Option Reading)) :=
    hidden_bind (hidden_note _) fun _ => hidden_bind (hidden_count _) fun _ => hidden_pure none
  refine hidden_bind (hidden_on (hidden_backend_read counter.id) fun _ _ _ => rfl) fun answer => ?_
  cases answer with
  | ok value =>
    dsimp only
    split
    · exact hidden_pure _
    · exact failed _
  | error error => exact failed _

theorem hidden_read_all : Hidden unseen (readAll : Act (CounterSession Backend) (List Reading)) := by
  have each (counters : List Counter) : Hidden unseen (readEach counters : Act (CounterSession Backend) (List Reading)) := by
    induction counters with
    | nil => exact hidden_pure []
    | cons counter rest ih =>
      exact hidden_bind (hidden_read_one counter) fun _ => hidden_bind ih fun _ => hidden_pure _
  exact hidden_bind hidden_get fun session => each session.active

end CounterSession

theorem Sender.hidden_emit (message : Message) : Hidden unseen (Sender.emit message : Act (Sender ShowingEndpoint) Unit) := by
  have sent : Hidden unseen (Endpoint.send message : Act ShowingEndpoint (Except Error Unit)) := fun _ => ⟨rfl, rfl⟩
  refine hidden_bind (hidden_on sent fun _ _ _ => rfl) fun answer => ?_
  cases answer with
  | ok _ => exact hidden_modify fun _ => rfl
  | error error => exact hidden_bind (hidden_note _) fun _ => hidden_modify fun _ => rfl

-- A host whose calls on events are not seen.
structure EventHost.Unseen {σ ν : Type} [EventHost σ] (view : σ → ν) : Prop where
  creates : Hidden view (EventHost.createEvent : Act σ (Except Error RawEvent))
  destroys : ∀ event, Hidden view (EventHost.destroyEvent event : Act σ Unit)
  looks : ∀ event, Hidden view (EventHost.eventStatus event : Act σ (Except Error EventStatus))
  sets : ∀ event, Hidden view (EventHost.setEvent event : Act σ (Except Error Unit))
  resets : ∀ event, Hidden view (EventHost.resetEvent event : Act σ (Except Error Unit))

theorem Driver.unseen_host : EventHost.Unseen Driver.view :=
  ⟨hidden_create_event, hidden_destroy_event, hidden_event_status, hidden_set_event, hidden_reset_event⟩

namespace Trap

variable {σ ν α : Type} [EventHost σ] {view : σ → ν} (host : EventHost.Unseen view)

include host

theorem hidden_create (timing : TrapTiming) : Hidden view (create timing : Act σ (Except Error Trap)) := by
  refine hidden_bind host.creates fun first => ?_
  cases first with
  | error error => exact hidden_pure _
  | ok deviceToHost =>
    refine hidden_bind host.creates fun second => ?_
    cases second with
    | error error => exact hidden_bind (host.destroys _) fun _ => hidden_pure _
    | ok hostToDevice => exact hidden_pure _

theorem hidden_destroy (trap : Trap) : Hidden view (trap.destroy : Act σ Unit) :=
  hidden_bind (host.destroys _) fun _ => host.destroys _

theorem hidden_await (event : RawEvent) (patience : Nat) : Hidden view (await event patience : Act σ Unit) := by
  induction patience with
  | zero => exact hidden_halt _
  | succ patience ih =>
    refine hidden_bind (host.looks event) fun status => ?_
    match status with
    | .ok .set => exact hidden_pure ()
    | .ok .unset => exact ih
    | .error error => exact hidden_bind (hidden_note _) fun _ => ih

theorem hidden_cycle (trap : Trap) {inside : Act σ α} (hidden : Hidden view inside) : Hidden view (trap.cycle inside) := by
  have acquired : Hidden view (trap.acquire : Act σ Unit) :=
    hidden_bind hidden_get fun _ => hidden_bind (hidden_await host _ _) fun _ =>
      hidden_bind (host.resets _) fun _ => hidden_note_failure _ _
  have released : Hidden view (trap.release : Act σ Unit) :=
    hidden_bind (host.sets _) fun _ => hidden_note_failure _ _
  exact hidden_bind acquired fun _ => hidden_bind hidden fun _ => hidden_bind released fun _ =>
    hidden_bind (hidden_note _) fun _ => hidden_pure _

end Trap

namespace Sampler

def view (s : Sampler) : DriverView := s.driver.view

theorem unseen_host : EventHost.Unseen view :=
  ⟨hidden_on Driver.hidden_create_event fun _ _ same => same,
    fun event => hidden_on (Driver.hidden_destroy_event event) fun _ _ same => same,
    fun event => hidden_on (Driver.hidden_event_status event) fun _ _ same => same,
    fun event => hidden_on (Driver.hidden_set_event event) fun _ _ same => same,
    fun event => hidden_on (Driver.hidden_reset_event event) fun _ _ same => same⟩

theorem hidden_cycle : Hidden view cycle := by
  refine hidden_bind hidden_get fun s => hidden_bind (Trap.hidden_cycle unseen_host s.trap
    (hidden_on_unseen CounterSession.hidden_sample_now fun _ _ => rfl)) fun both => ?_
  refine hidden_bind (hidden_modify fun _ => rfl) fun _ => ?_
  split
  · exact hidden_on_unseen CounterSession.hidden_read_all fun _ _ => rfl
  · exact hidden_pure _

theorem hidden_report (workload : Workload) (labels : Labels) (counters : List Reading) :
    Hidden view (report workload labels counters) := by
  unfold report
  split
  · exact hidden_on_unseen (Sender.hidden_emit _) fun _ _ => rfl
  · exact hidden_pure ()

theorem hidden_visit (visited : Visit) : Hidden view (visit visited) := by
  have sampled (workload : Workload) (labels : Labels) : Hidden view (sample workload labels) :=
    hidden_bind hidden_cycle fun _ => hidden_report _ _ _
  unfold visit
  split
  · split
    · exact sampled _ _
    · exact hidden_pure ()
  · split
    · refine hidden_bind hidden_cycle fun counters => ?_
      cases visited.resumed with
      | some pass => exact hidden_report _ _ _
      | none => exact hidden_note _
    · exact hidden_pure ()
  · exact sampled _ _

end Sampler

theorem Cursor.hidden_run {σ ν : Type} {view : σ → ν} {visitor : Visit → Act σ Unit}
    (hidden : ∀ visited, Hidden view (visitor visited)) (cursor : Cursor) (stream : Stream) :
    Hidden view (cursor.run visitor stream) := by
  induction stream generalizing cursor with
  | nil => exact hidden_pure _
  | cons record rest ih =>
    exact hidden_bind (hidden_note _) fun _ => hidden_bind (hidden_check _) fun both =>
      hidden_bind (hidden both.1) fun _ => ih both.2

structure FrameView where
  index : Nat
  phase : FramePhase

def FrameTracker.view (tracker : FrameTracker) : FrameView := ⟨tracker.index, tracker.phase⟩

structure DeviceView where
  driver : DriverView
  registry : RegistryView
  frame : FrameView

namespace ProfiledDevice

def view (device : ProfiledDevice) : DeviceView :=
  ⟨device.driver.view, device.registry.view, device.frame.view⟩

theorem hidden_create_trap (config : Config) : Hidden Driver.view (createTrap config) := by
  unfold createTrap
  split
  · refine hidden_bind (Trap.hidden_create Driver.unseen_host _) fun answer => ?_
    cases answer with
    | ok trap => exact hidden_pure _
    | error error => exact hidden_bind (hidden_note _) fun _ => hidden_pure _
  · exact hidden_pure _

theorem hidden_destroy_trap (device : ProfiledDevice) : Hidden Driver.view device.destroyTrap := by
  unfold destroyTrap
  split
  · exact Trap.hidden_destroy Driver.unseen_host _
  · exact hidden_pure ()

end ProfiledDevice

namespace DeviceScope

def view (s : DeviceScope) : DeviceView := s.device.view

theorem hidden_replay (queue : QueueHandle) (buffers : List BufferHandle) : Hidden view (replay queue buffers) := by
  intro s
  simp only [replay, ends_bind, ends_get]
  cases s.device.trap with
  | none => exact ⟨rfl, rfl⟩
  | some trap =>
    simp only [ends_on, ends_bind, Registry.replay, ends_get]
    cases held : ((samplingPart trap).get s).1.queue queue with
    | error error => exact ⟨rfl, rfl⟩
    | ok tracked =>
      cases ((samplingPart trap).get s).1.streams buffers with
      | error error => exact ⟨rfl, rfl⟩
      | ok streams =>
        simp only [ends_bind, ends_on, Queue.run_streams_flatten, ends_modify, ends_pure, ends_get, ends_note]
        refine ends_mono (Cursor.hidden_run Sampler.hidden_visit _ _ _) ?_ (fun _ _ _ => trivial)
        rintro shown cursor next ⟨none, same⟩
        refine ⟨by simp only [passed_on_append, none]; rfl, ?_⟩
        have driver : next.driver.view = s.device.driver.view := same
        have found : s.device.registry.queue queue = .ok tracked := held
        simp [view, ProfiledDevice.view, samplingPart, Part.second, driver, Registry.set_queue_same found, Queue.noteSubmit]

theorem hidden_emit_if (condition : Bool) (message : Message) : Hidden view (emitIf condition message) := by
  unfold emitIf
  split
  · exact hidden_on_unseen (Sender.hidden_emit _) fun _ _ => rfl
  · exact hidden_pure ()

theorem hidden_sample_boundary (transition : FrameTransition) : Hidden view (sampleBoundary transition) := by
  have waits : Hidden view (Act.on driverPart Driver.deviceWaitIdle) :=
    hidden_on Driver.hidden_wait_idle fun s next same => by
      simp [view, ProfiledDevice.view, driverPart, show next.view = s.device.driver.view from same]
  refine hidden_bind waits fun answer => hidden_bind (hidden_note_failure _ answer) fun _ =>
    hidden_bind (hidden_on_unseen CounterSession.hidden_sample_now fun _ _ => rfl) fun latched => ?_
  split
  · exact hidden_bind (hidden_on_unseen CounterSession.hidden_read_all fun _ _ => rfl) fun _ =>
      hidden_on_unseen (Sender.hidden_emit _) fun _ _ => rfl
  · exact hidden_pure ()

theorem hidden_apply (transition : FrameTransition) : Hidden view (apply transition) := by
  refine hidden_bind (hidden_emit_if _ _) fun _ => hidden_bind (hidden_emit_if _ _) fun _ => ?_
  split
  · exact hidden_sample_boundary transition
  · exact hidden_pure ()

theorem hidden_finish_frame (transition : FrameTransition) : Hidden view (finishFrame transition) := by
  refine hidden_bind hidden_get fun s => ?_
  split
  · exact hidden_apply transition
  · exact hidden_pure ()

theorem hidden_finish_if_any (transition : Option FrameTransition) : Hidden view (finishIfAny transition) := by
  cases transition with
  | none => exact hidden_pure ()
  | some transition => exact hidden_finish_frame transition

theorem hidden_replay_if (wanted : Bool) (queue : QueueHandle) (buffers : List BufferHandle) :
    Hidden view (replayIf wanted queue buffers) := by
  unfold replayIf
  split
  · exact hidden_bind (hidden_replay queue buffers) fun answer => hidden_note_failure _ answer
  · exact hidden_pure ()

theorem hidden_emit_trap (wanted : Bool) (events : Option TrapEvents) (raw : RawBuffer) :
    Hidden view (emitTrap wanted events raw) := by
  unfold emitTrap
  split
  · refine hidden_on (Driver.hidden_emit_trap _ raw) fun s next same => ?_
    simp [view, ProfiledDevice.view, driverPart, show next.view = s.device.driver.view from same]
  · exact hidden_pure ()

end DeviceScope

namespace Recording

def view (s : Recording) : RawBuffer := s.recorder.raw

theorem Effect.raw {s : Recording} {mode : CaptureMode} {recorded : Command} {stops : Bool} {next : Recorder}
    (effect : Effect s mode recorded stops next) : next.raw = s.recorder.raw := by
  cases effect with
  | begun | resumed => exact Recorder.raw_open_pass _ _ _ _ _ _
  | ended => exact Recorder.raw_end_pass s.recorder
  | drawn _ _ _ _ ran => obtain ⟨_, ⟨_, rfl⟩ | ⟨_, _, _, _, rfl⟩⟩ := Recorder.draw_cases ran <;> rfl
  | worked => exact Recorder.raw_record _ _ _
  | _ => rfl

theorem hidden_command (recorded : Command) (mode : CaptureMode) : Hidden view (command recorded mode) := by
  intro s
  refine ends_mono (ends_effect s recorded mode) ?_ fun _ _ _ => trivial
  intro shown stops next both
  exact ⟨Event.passed_on_notes both.1, both.2.raw⟩

end Recording

end GpuProfiler
