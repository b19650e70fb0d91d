import GpuProfiler.Proofs.Frames.Boundary
import GpuProfiler.Proofs.Layer.Run

set_option autoImplicit false

namespace GpuProfiler

def ProfiledDevice.Turned (device : ProfiledDevice) (config : Config) (frame : Nat) (call : LayerCall) (shown : List Event)
    (next : ProfiledDevice) : Prop :=
  ∃ count, device.session.Turn config frame (device.accepts call) call.bounds count shown next.session ∧
    next.InFrame config (frame + (device.accepts call && call.bounds).toNat) ∧
    next.trapCycles = device.trapCycles + count ∧ (device.stopsIn call = false → count = 0)

namespace DeviceScope

open ProfiledDevice

section Turns

def Turned (config : Config) (frame : Nat) (call : LayerCall) (s : DeviceScope) {α : Type} (shown : List Event) (_ : α)
    (next : DeviceScope) : Prop := s.device.Turned config frame call shown next.device

variable {config : Config} {frame : Nat} {s : DeviceScope} (here : s.device.InFrame config frame)

include here

theorem turned_aside {α : Type} {act : Act DeviceScope α} {call : LayerCall} (keeping : Act.Keeping kept act [])
    (aside : s.device.accepts call = false) : Act.Ends act s (Turned config frame call s) (fun _ _ => True) := by
  refine Act.ends_mono (keeping s) ?_ (fun _ _ _ => trivial)
  intro shown _ next done
  obtain ⟨silent, same⟩ := done
  obtain ⟨onward, session⟩ := onward_kept same
  refine ⟨0, ?_, ?_, onward.cycles, fun _ => rfl⟩
  · rw [aside, session]
    exact .passed _ shown silent
  · rw [aside]
    exact in_frame_onward here onward

theorem turned_present (queue : QueueId) :
    Act.Ends
      (do match (← Act.get).device.registry.queue queue.queue with
          | .error error => pure (.error error)
          | .ok tracked => DeviceScope.present tracked.raw) s
      (Turned config frame (.present queue) s) (fun _ _ => True) := by
  simp only [Act.ends_bind, Act.ends_get]
  cases known : s.device.registry.queue queue.queue with
  | error error =>
    have aside : s.device.accepts (.present queue) = false := by rw [accepts, known]; rfl
    exact turned_aside here (Act.keeping_pure (Except.error error : Except Error Unit)) aside
  | ok tracked =>
    have accepted : s.device.accepts (.present queue) = true := by rw [accepts, known]; rfl
    refine Act.ends_mono (ends_present_turn s here tracked.raw) ?_ (fun _ _ _ => trivial)
    intro shown answer next done
    obtain ⟨turn, opened, cycles⟩ := done
    rw [List.nil_append, Turned, ProfiledDevice.Turned, accepted]
    exact ⟨0, turn, opened, cycles, fun _ => rfl⟩

theorem turned_submit (queue : QueueId) (submissions : List Submission) :
    Act.Ends
      (do let registry := (← Act.get).device.registry
          match registry.queue queue.queue with
          | .error error => pure (.error error)
          | .ok tracked =>
            match Submission.resolve queue.device registry submissions with
            | .error error => pure (.error error)
            | .ok (batches, buffers) =>
              DeviceScope.submit ProfiledDevice.needsReplay queue.queue tracked.raw batches buffers
                (submissions.any (·.endsFrame))) s
      (Turned config frame (.submit queue submissions) s) (fun _ _ => True) := by
  simp only [Act.ends_bind, Act.ends_get]
  cases known : s.device.registry.queue queue.queue with
  | error error =>
    have aside : s.device.accepts (.submit queue submissions) = false := by rw [accepts, known]; rfl
    exact turned_aside here (Act.keeping_pure (Except.error error : Except Error Unit)) aside
  | ok tracked =>
    cases found : Submission.resolve queue.device s.device.registry submissions with
    | error error =>
      have aside : s.device.accepts (.submit queue submissions) = false := by rw [accepts, known, found]; rfl
      exact turned_aside here (Act.keeping_pure (Except.error error : Except Error Unit)) aside
    | ok resolved =>
      obtain ⟨batches, buffers⟩ := resolved
      have accepted : s.device.accepts (.submit queue submissions) = true := by rw [accepts, known, found]; rfl
      obtain ⟨rfl, _⟩ := Submission.resolve_ok found
      refine Act.ends_mono (ends_submit_turn s here queue.queue tracked.raw batches _ _) ?_ (fun _ _ _ => trivial)
      intro shown answer next done
      obtain ⟨count, turn, opened, cycles, unneeded⟩ := done
      rw [List.nil_append, Turned, ProfiledDevice.Turned, accepted]
      refine ⟨count, turn, opened, cycles, fun unstopped => unneeded ?_⟩
      rw [needsReplay, show s.device.registry.hasTraps _ = false from unstopped, Bool.and_false]

end Turns

end DeviceScope

def CounterSession.Opened (session : CounterSession Backend) (config : Config) (backend : Backend) (shown : List Event) :
    Prop :=
  ∃ (first : CounterSession Backend) (ahead probe : List Event), first.backend = backend ∧ first.stats = ⟨0, 0, 0⟩ ∧
    shown = ahead ++ probe ∧ Event.beats ahead = (config.startMarks 0).map .marked ∧
    first.Probed false 0 (config.isOfInterest 0) probe session

namespace ProfiledDevice

section Creation

variable (config : Config)

theorem hushed_create_trap : Act.Hushed (createTrap config) := by
  have created : Act.Hushed (Trap.create config.trap : Act Driver (Except Error Trap)) := by
    apply Act.hushed_bind Driver.hushed_create_event
    intro answer
    cases answer with
    | error error => exact Act.hushed_pure _
    | ok deviceToHost =>
      apply Act.hushed_bind Driver.hushed_create_event
      intro answer
      cases answer with
      | error error => exact Act.hushed_bind (Driver.hushed_destroy_event _) fun _ => Act.hushed_pure _
      | ok hostToDevice => exact Act.hushed_pure _
  by_cases active : config.isActive = true
  · simp only [createTrap, active, if_true]
    apply Act.hushed_bind created
    intro answer
    cases answer with
    | error error => exact Act.hushed_bind (Act.hushed_note _) fun _ => Act.hushed_pure _
    | ok trap => exact Act.hushed_pure _
  · simp only [createTrap, active]
    exact Act.hushed_pure _

theorem hushed_destroy_trap (device : ProfiledDevice) : Act.Hushed device.destroyTrap := by
  cases held : device.trap with
  | none =>
    rw [destroyTrap, held]
    exact Act.hushed_pure _
  | some trap =>
    rw [destroyTrap, held]
    exact Act.hushed_bind (Driver.hushed_destroy_event _) fun _ => Driver.hushed_destroy_event _

theorem ends_create_trap_active (driver : Driver) :
    Act.Ends (createTrap config) driver (fun _ trap _ => trap.isSome = true → config.samplesAny = true) (fun _ _ => True) := by
  by_cases active : config.isActive = true
  · rw [Config.isActive, Bool.and_eq_true] at active
    exact Act.ends_mono (Act.ends_self _ _) (fun _ _ _ _ _ => active.2) (fun _ _ _ => trivial)
  · simp only [createTrap, active]
    exact fun never => (nomatch never)

theorem hushed_note_missing {σ : Type} (available : List Counter) (filter : List String) :
    Act.Hushed (CounterSession.noteMissing available filter : Act σ Unit) := by
  induction filter with
  | nil => exact Act.hushed_pure ()
  | cons name rest ih => exact Act.hushed_bind (Act.hushed_note_if _ _) fun _ => ih

theorem ends_activate_frame (driver : Driver) (backend : Backend) (shared : Shared) :
    Act.Ends (activate driver backend config) shared
      (fun shown device _ => device.isProfiling = true → device.InFrame config 0 ∧
        device.session.Opened config backend shown)
      (fun _ _ => True) := by
  simp only [activate, CounterSession.start, Act.ends_bind, Act.ends_apart, Act.ends_note, Act.ends_pure]
  have equipped := Act.ends_and (hushed_create_trap config driver) (ends_create_trap_active config driver)
  refine Act.ends_mono equipped ?_ (fun _ _ _ => trivial)
  intro shown trap equipped done
  obtain ⟨silent, active⟩ := done
  refine Act.ends_mono (hushed_note_missing _ _ _) ?_ (fun _ _ _ => trivial)
  intro notes _ _ quiet
  generalize made : (⟨equipped, config, .empty, .start config, trap, ⟨backend, CounterSession.select
    (CounterBackend.counters backend) config.counters, ⟨0, 0, 0⟩⟩⟩ : ProfiledDevice) = device
  by_cases profiling : device.isProfiling = true
  · simp only [profiling, if_true, Act.ends_bind, Act.ends_get, Act.ends_apart, Act.ends_set, Act.ends_pure]
    refine Act.ends_mono (DeviceScope.ends_apply_probed _ _) ?_ (fun _ _ _ => trivial)
    intro told _ next done _
    obtain ⟨onward, ahead, probe, rfl, beats, probed⟩ := done
    have samples : config.samplesAny = true := active (by rw [← profiling, ← made]; rfl)
    have opened : device.InFrame config 0 := by
      rw [← made] at profiling ⊢
      exact ⟨rfl, samples, profiling, rfl, rfl⟩
    have wanted : (FrameTracker.startActions config).needsSample = config.isOfInterest 0 := by
      rw [BoundaryActions.needsSample, FrameTracker.startActions, samples, Bool.and_true, Bool.false_or]
    rw [wanted] at probed
    have silence : Event.beats (shown ++ notes ++ [.note (.countersActive (CounterSession.select
        (CounterBackend.counters backend) config.counters).length), .note (.profilingDecided true)]) = [] := by
      simp [silent, quiet, Event.beat?]
    refine ⟨in_frame_onward opened onward, device.session, _ ++ ahead, probe, by rw [← made], by rw [← made], ?_,
      (Event.beats_append _ _).trans (by rw [silence, beats]; rfl), probed⟩
    simp only [List.append_nil, List.nil_append, List.append_assoc, List.cons_append]
  · simp only [profiling]
    exact fun never => absurd never profiling

end Creation

end ProfiledDevice

namespace Layer

section Performs

variable {layer next : Layer} {call : LayerCall} {shown : List Event} {reply : LayerReply} {id : DeviceId}
  {device moved : ProfiledDevice} {config : Config} {frame : Nat}

theorem turned_within {α : Type} {act : Act DeviceScope (Except Error α)} {answer : α → LayerReply}
    (performs : perform call = do return .ofAnswer answer (← onDevice id act))
    (here : layer.devices.get? id = some device)
    (ends : Act.Ends act ⟨device, layer.shared⟩ (DeviceScope.Turned config frame call ⟨device, layer.shared⟩)
      (fun _ _ => True))
    (made : perform call layer = ⟨shown, .ok (reply, next)⟩) (there : next.devices.get? id = some moved) :
    device.Turned config frame call shown moved := perform_within performs here ends made there

theorem ends_destroy_beats (layer : Layer) (id : DeviceId) :
    Act.Ends (perform (.destroyDevice id)) layer
      (fun shown _ next => Event.beats shown = [] ∧ next.devices.get? id = none) (fun _ _ => True) := by
  simp only [perform, destroyDevice, Act.ends_bind, Act.ends_get, Act.ends_pure]
  rcases taken : layer.devices.remove id with ⟨_ | device, devices⟩
  · exact ⟨rfl, Arena.remove_none taken⟩
  · simp only [Act.ends_bind, Act.ends_set, Act.ends_note, Act.ends_apart, Act.ends_pure]
    refine Act.ends_mono (device.hushed_destroy_trap device.driver) ?_ (fun _ _ _ => trivial)
    intro shown _ _ silent
    refine ⟨by simp [silent, Event.beat?], ?_⟩
    rw [show devices = (layer.devices.remove id).2 by rw [taken]]
    exact Arena.get_remove_here layer.devices id

theorem perform_turns (called : call.device? = some id) (here : layer.devices.get? id = some device)
    (opened : device.InFrame config frame) (made : perform call layer = ⟨shown, .ok (reply, next)⟩)
    (there : next.devices.get? id = some moved) : device.Turned config frame call shown moved := by
  have cleared (call : RawBuffer → DriverCall) (raw : RawBuffer) (still : ∀ failed, (call raw).beat? failed = none) :
      Act.Hushed (Driver.tryCall (call raw) (Act.modify (·.setContents raw []))) :=
    Driver.hushed_try_call still (Act.hushed_modify _)
  cases call with
  | destroyDevice other =>
    cases called
    rw [(Act.ends_of_ok (ends_destroy_beats layer id) made).2] at there
    cases there
  | getQueue other family index =>
    cases called
    exact turned_within rfl here (DeviceScope.turned_aside opened (Act.keeping_then (DeviceScope.keeping_get_queue family index)
      fun _ => Act.keeping_pure _) rfl) made there
  | allocate other level =>
    cases called
    exact turned_within rfl here (DeviceScope.turned_aside opened (Act.keeping_then (DeviceScope.keeping_allocate level)
      fun _ => Act.keeping_pure _) rfl) made there
  | free buffer =>
    cases called
    exact turned_within rfl here (DeviceScope.turned_aside opened (DeviceScope.keeping_free buffer.buffer) rfl) made there
  | beginBuffer buffer =>
    cases called
    exact turned_within rfl here (DeviceScope.turned_aside opened (DeviceScope.keeping_update_then_call buffer.buffer
      Recorder.start _ fun raw => cleared .beginCommandBuffer raw fun _ => rfl) rfl) made there
  | endBuffer buffer =>
    cases called
    exact turned_within rfl here (DeviceScope.turned_aside opened (DeviceScope.keeping_update_then_call buffer.buffer
      Recorder.finish _ fun raw => Driver.hushed_try_call (fun _ => rfl) (Act.hushed_pure _)) rfl) made there
  | resetBuffer buffer =>
    cases called
    exact turned_within rfl here (DeviceScope.turned_aside opened (DeviceScope.keeping_update_then_call buffer.buffer
      Recorder.reset _ fun raw => cleared .resetCommandBuffer raw fun _ => rfl) rfl) made there
  | command buffer recorded =>
    cases called
    exact turned_within rfl here (DeviceScope.turned_aside opened (DeviceScope.keeping_command buffer.buffer recorded) rfl)
      made there
  | execute buffer secondaries =>
    cases called
    have keeping : Act.Keeping DeviceScope.kept
        (if secondaries.any fun secondary => secondary.device != buffer.device then pure (.error .foreignHandle)
          else DeviceScope.execute buffer.buffer (secondaries.map (·.buffer))) [] := by
      by_cases foreign : (secondaries.any fun secondary => secondary.device != buffer.device) = true
      · rw [if_pos foreign]
        exact Act.keeping_pure _
      · rw [if_neg foreign]
        exact DeviceScope.keeping_execute buffer.buffer _
    exact turned_within rfl here (DeviceScope.turned_aside opened keeping rfl) made there
  | submit queue submissions =>
    cases called
    exact turned_within rfl here (DeviceScope.turned_submit opened queue submissions) made there
  | present queue =>
    cases called
    exact turned_within rfl here (DeviceScope.turned_present opened queue) made there
  | _ => cases called

theorem ends_create_opens (layer : Layer) (driver : Driver) (backend : Backend) :
    Act.Ends (perform (.createDevice driver backend)) layer
      (fun shown _ next => ∃ device, next.devices = (layer.devices.insert device).2 ∧
        (device.isProfiling = true → device.InFrame layer.config 0 ∧
          device.session.Opened layer.config backend shown))
      (fun _ _ => True) := by
  simp only [perform, createDevice, Act.ends_bind, Act.ends_get, Act.ends_on]
  refine Act.ends_mono (ProfiledDevice.ends_activate_frame layer.config driver backend _) ?_ (fun _ _ _ => trivial)
  intro shown device shared opens
  simp only [Act.ends_set, Act.ends_pure]
  refine ⟨device, rfl, ?_⟩
  simpa using opens

end Performs

theorem ends_configured (layer : Layer) (call : LayerCall) :
    Act.Ends (perform call) layer (fun _ _ next => next.config = layer.config) (fun _ _ => True) := by
  have within {α : Type} (id : DeviceId) (act : Act DeviceScope (Except Error α)) (answer : α → LayerReply) :
      Act.Ends (do return LayerReply.ofAnswer answer (← onDevice id act)) layer (fun _ _ next => next.config = layer.config)
        (fun _ _ => True) := by
    simp only [Act.ends_bind, Act.ends_pure, ends_on_device]
    cases layer.devices.get? id with
    | none => exact trivial
    | some device => exact Act.ends_mono (Act.ends_self _ _) (fun _ _ _ _ => trivial) (fun _ _ _ => trivial)
  cases call with
  | createDevice driver backend =>
    simp only [perform, createDevice, Act.ends_bind, Act.ends_get, Act.ends_on]
    exact Act.ends_mono (Act.ends_self _ _) (fun _ _ _ _ => rfl) (fun _ _ _ => trivial)
  | destroyDevice id =>
    simp only [perform, destroyDevice, Act.ends_bind, Act.ends_get, Act.ends_pure]
    rcases layer.devices.remove id with ⟨_ | device, devices⟩
    · exact rfl
    · simp only [Act.ends_bind, Act.ends_set, Act.ends_note, Act.ends_apart]
      exact Act.ends_mono (Act.ends_self _ _) (fun _ _ _ _ => rfl) (fun _ _ _ => trivial)
  | getQueue | allocate | free | beginBuffer | endBuffer | resetBuffer | command | execute | submit | present =>
    exact within _ _ _
  | _ => exact rfl

theorem run_configured {allowed : Layer → LayerCall → Prop} {first layer : Layer} {steps : List LayerStep}
    (run : Run allowed first steps layer) : layer.config = first.config := by
  induction run with
  | start => rfl
  | step steps layer next call shown reply _ _ made ih => exact (Act.ends_of_ok (ends_configured layer call) made).trans ih

end Layer

end GpuProfiler
