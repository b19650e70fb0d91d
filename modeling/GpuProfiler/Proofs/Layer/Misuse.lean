import GpuProfiler.Proofs.Device.Drained
import GpuProfiler.Proofs.Device.Replayed
import GpuProfiler.Proofs.Layer.Run
import GpuProfiler.Proofs.Transparency.View

set_option autoImplicit false

namespace GpuProfiler

namespace Layer

def HasBuffer (layer : Layer) (id : BufferId) : Prop := ∃ recorder, layer.recorder id = .ok recorder

def HasQueue (layer : Layer) (id : QueueId) : Prop :=
  ∃ device tracked, layer.devices.get? id.device = some device ∧ device.registry.queues.get? id.queue = some tracked

-- A handle of the call leads nowhere, or a buffer of it is not of the device that the call is made on.
def Misuses (layer : Layer) : LayerCall → Prop
  | .createDevice _ _ | .deviceCount => False
  | .destroyDevice id | .getQueue id _ _ | .allocate id _ | .frameIndex id | .framePhase id | .isCapturing id
  | .trapCycles id => layer.devices.get? id = none
  | .free buffer | .beginBuffer buffer | .endBuffer buffer | .resetBuffer buffer | .command buffer _ | .rawBuffer buffer
  | .recordedWorkloads buffer => ¬layer.HasBuffer buffer
  | .execute buffer secondaries =>
    ∃ other ∈ buffer :: secondaries, ¬layer.HasBuffer other ∨ other.device ≠ buffer.device
  | .submit queue submissions =>
    ¬layer.HasQueue queue ∨
      ∃ buffer ∈ submissions.flatMap (·.buffers), ¬layer.HasBuffer buffer ∨ buffer.device ≠ queue.device
  | .present queue => ¬layer.HasQueue queue

def Refuses (layer : Layer) (call : LayerCall) : Prop :=
  ∃ error, (error = .invalidHandle ∨ error = .foreignHandle) ∧ perform call layer = ⟨[], .ok (.failed error, layer)⟩

end Layer

def Driver.FailedWith (driver : Driver) (shown : List Event) (error : Error) : Prop :=
  ∃ made, ∃ fault ∈ driver.faults, fault.method = made.method ∧ fault.error = error ∧
    .call driver.name made true ∈ shown

def Layer.FailedWith (layer : Layer) (call : LayerCall) (shown : List Event) (error : Error) : Prop :=
  ∃ id device, call.device? = some id ∧ layer.devices.get? id = some device ∧ device.driver.FailedWith shown error

theorem Act.ends_always {σ α : Type} {act : Act σ α} {s : σ} {good : List Event → α → σ → Prop}
    (always : ∀ shown x t, good shown x t) : Act.Ends act s good (fun _ _ => True) :=
  Act.ends_mono (Act.ends_self act s) (fun shown x t _ => always shown x t) (fun _ _ _ => trivial)

namespace Submission

variable {id : DeviceId} {registry : Registry} {error : Error}

def Unfit (id : DeviceId) (registry : Registry) (buffer : BufferId) : Prop :=
  buffer.device ≠ id ∨ registry.buffers.get? buffer.buffer = none

theorem resolve_buffers_error {ids : List BufferId} (failed : resolveBuffers id registry ids = .error error) :
    (error = .invalidHandle ∨ error = .foreignHandle) ∧ ∃ buffer ∈ ids, Unfit id registry buffer := by
  induction ids with
  | nil => cases failed
  | cons buffer rest ih =>
    unfold resolveBuffers at failed
    by_cases own : buffer.device = id
    · rw [if_neg (fun foreign => foreign own)] at failed
      unfold Registry.buffer at failed
      cases live : registry.buffers.get? buffer.buffer with
      | none =>
        rw [live] at failed
        cases failed
        exact ⟨.inl rfl, buffer, List.mem_cons_self, .inr live⟩
      | some recorder =>
        rw [live] at failed
        cases behind : resolveBuffers id registry rest with
        | ok both =>
          rw [behind] at failed
          cases failed
        | error reason =>
          rw [behind] at failed
          cases failed
          obtain ⟨kind, other, member, unfit⟩ := ih behind
          exact ⟨kind, other, List.mem_cons_of_mem _ member, unfit⟩
    · rw [if_pos own] at failed
      cases failed
      exact ⟨.inr rfl, buffer, List.mem_cons_self, .inl own⟩

theorem resolve_error {submissions : List Submission} (failed : resolve id registry submissions = .error error) :
    (error = .invalidHandle ∨ error = .foreignHandle) ∧
      ∃ buffer ∈ submissions.flatMap (·.buffers), Unfit id registry buffer := by
  induction submissions with
  | nil => cases failed
  | cons submission rest ih =>
    unfold resolve at failed
    cases here : resolveBuffers id registry submission.buffers with
    | error reason =>
      rw [here] at failed
      cases failed
      obtain ⟨kind, buffer, member, unfit⟩ := resolve_buffers_error here
      exact ⟨kind, buffer, List.mem_append_left _ member, unfit⟩
    | ok both =>
      rw [here] at failed
      cases behind : resolve id registry rest with
      | ok others =>
        rw [behind] at failed
        cases failed
      | error reason =>
        rw [behind] at failed
        cases failed
        obtain ⟨kind, buffer, member, unfit⟩ := ih behind
        exact ⟨kind, buffer, List.mem_append_right _ member, unfit⟩

theorem resolve_unfit {submissions : List Submission} {buffer : BufferId}
    (member : buffer ∈ submissions.flatMap (·.buffers)) (unfit : Unfit id registry buffer) :
    ∃ error, (error = .invalidHandle ∨ error = .foreignHandle) ∧ resolve id registry submissions = .error error := by
  cases resolved : resolve id registry submissions with
  | error error => exact ⟨error, (resolve_error resolved).1, rfl⟩
  | ok both =>
    obtain ⟨own, recorder, live⟩ := (resolve_ok resolved).2.2 buffer member
    rcases unfit with foreign | gone
    · exact absurd own foreign
    · rw [live] at gone
      cases gone

end Submission

namespace DeviceScope

def Declines {α : Type} (act : Act DeviceScope (Except Error α)) (s : DeviceScope) : Prop :=
  Act.Ends act s
    (fun shown answer next =>
      shown = [] ∧ (∃ error, (error = .invalidHandle ∨ error = .foreignHandle) ∧ answer = .error error) ∧ next = s)
    (fun _ _ => False)

section Declines

variable {s : DeviceScope} {buffer : BufferHandle}

theorem declines_update (change : Recorder → Recorder) (call : RawBuffer → Act Driver (Except Error Unit))
    (gone : s.device.registry.buffers.get? buffer = none) : Declines (updateThenCall buffer change call) s := by
  have there : (trackingPart.get s).registry.buffers.get? buffer = none := gone
  simp only [Declines, updateThenCall, Act.ends_bind, Act.ends_on, Tracking.ends_with_buffer, there, Act.ends_pure]
  exact ⟨rfl, ⟨_, .inl rfl, rfl⟩, rfl⟩

theorem declines_command (recorded : Command) (gone : s.device.registry.buffers.get? buffer = none) :
    Declines (command buffer recorded) s := by
  have there : (trackingPart.get s).registry.buffers.get? buffer = none := gone
  simp only [Declines, command, Act.ends_bind, Act.ends_get, Act.ends_on,
    Tracking.ends_with_buffer, there, Act.ends_pure]
  exact ⟨rfl, ⟨_, .inl rfl, rfl⟩, rfl⟩

theorem declines_free (gone : s.device.registry.buffers.get? buffer = none) : Declines (free buffer) s := by
  have there : (registryPart.get s).buffers.get? buffer = none := gone
  simp only [Declines, free, Registry.free, Act.ends_bind, Act.ends_get, Act.ends_on,
    Arena.remove_stale there, Act.ends_pure]
  exact ⟨rfl, ⟨_, .inl rfl, rfl⟩, rfl⟩

theorem declines_execute {primary : BufferHandle} {secondaries : List BufferHandle} {other : BufferHandle}
    (member : other ∈ primary :: secondaries) (gone : s.device.registry.buffers.get? other = none) :
    Declines (execute primary secondaries) s := by
  have same : registryPart.get s = s.device.registry := rfl
  simp only [Declines, execute, Registry.execute, Act.ends_bind, Act.ends_get, Act.ends_on, same]
  cases streams : s.device.registry.streams secondaries with
  | error error =>
    simp only [Act.ends_pure]
    exact ⟨rfl, ⟨error, .inl (Registry.streams_error streams).1, rfl⟩, rfl⟩
  | ok found =>
    -- All secondaries are there, so it is the primary that is not.
    have primarily : s.device.registry.buffers.get? primary = none := by
      rcases List.mem_cons.mp member with rfl | among
      · exact gone
      · obtain ⟨recorder, live⟩ := (Registry.streams_ok streams).2 other among
        rw [live] at gone
        cases gone
    simp only [Registry.buffer, primarily, Act.ends_pure]
    exact ⟨rfl, ⟨_, .inl rfl, rfl⟩, rfl⟩

end Declines

-- Where the act fails, the driver does.
def Yields {α : Type} (act : Act DeviceScope (Except Error α)) (s : DeviceScope) : Prop :=
  Act.Ends act s
    (fun shown answer _ => ∀ error, answer = .error error → s.device.driver.FailedWith shown error)
    (fun _ _ => True)

section Yields

variable {s : DeviceScope} {buffer : BufferHandle} {recorder : Recorder}

theorem failed_with_fault {driver : Driver} {call : DriverCall} {error : Error}
    (refused : driver.fault? call.method = some error) :
    driver.FailedWith [Driver.callEvent call driver] error := by
  have failed := refused
  rw [Driver.fault?, Option.map_eq_some_iff] at failed
  obtain ⟨fault, found, same⟩ := failed
  have due := List.find?_some found
  rw [Bool.and_eq_true, decide_eq_true_eq] at due
  refine ⟨call, fault, List.mem_of_find?_eq_some found, due.1, same, ?_⟩
  simp [Driver.callEvent, refused]

theorem ends_try_failed_with {α : Type} (call : DriverCall) (work : Act Driver α) (driver : Driver) :
    Act.Ends (Driver.tryCall call work) driver
      (fun shown answer _ => ∀ error, answer = .error error → driver.FailedWith shown error) (fun _ _ => True) := by
  rw [Driver.ends_try_call]
  cases refused : driver.fault? call.method with
  | some known =>
    intro error same
    cases same
    exact failed_with_fault refused
  | none => exact Act.ends_always (by simp)

theorem failed_with_later {driver next : Driver} {shown all : List Event} {error : Error}
    (failing : next.FailedWith shown error)
    (same : next = { driver with calls := next.calls }) (among : ∀ event ∈ shown, event ∈ all) :
    driver.FailedWith all error := by
  obtain ⟨made, fault, scripted, method, known, failed⟩ := failing
  rw [same] at scripted failed
  exact ⟨made, fault, scripted, method, known, among _ failed⟩

theorem yields_get_queue (id : DeviceId) (family index : UInt32) :
    Yields (do return .ok (QueueId.mk id (← getQueue family index))) s := by
  simp only [Yields, Act.ends_bind, Act.ends_pure]
  exact Act.ends_always (by simp)

theorem yields_allocate (id : DeviceId) (level : BufferLevel) :
    Yields (do return (← allocate level).map fun buffer => BufferId.mk id buffer) s := by
  simp only [Yields, allocate, Act.ends_bind, Act.ends_on]
  refine Act.ends_mono (ends_try_failed_with _ _ _) ?_ (fun _ _ _ => trivial)
  intro shown answer next answers
  cases answer with
  | error reason =>
    simp only [Act.ends_pure]
    intro error same
    cases same
    exact failed_with_later (answers reason rfl) rfl fun event member => by simp [member]
  | ok raw =>
    simp only [Act.ends_bind, Act.ends_pure]
    exact Act.ends_always (by simp [Except.map])

theorem yields_free (live : s.device.registry.buffers.get? buffer = some recorder) : Yields (free buffer) s := by
  have there : (registryPart.get s).buffers.get? buffer = some recorder := live
  simp only [Yields, free, Registry.free, Act.ends_bind, Act.ends_get, Act.ends_on]
  rcases taken : (registryPart.get s).buffers.remove buffer with ⟨_ | held, rest⟩
  · rw [Arena.remove_none taken] at there
    cases there
  · simp only [Act.ends_bind, Act.ends_set, Act.ends_pure]
    exact Act.ends_always (by simp)

theorem yields_update (live : s.device.registry.buffers.get? buffer = some recorder) (change : Recorder → Recorder)
    (call : RawBuffer → DriverCall) (work : RawBuffer → Act Driver Unit) :
    Yields (updateThenCall buffer change fun raw => Driver.tryCall (call raw) (work raw)) s := by
  have there : (trackingPart.get s).registry.buffers.get? buffer = some recorder := live
  simp only [Yields, updateThenCall, Act.ends_bind, Act.ends_on, Tracking.ends_with_buffer, there, Recording.update,
    Act.ends_modify, List.nil_append]
  exact ends_try_failed_with (call recorder.raw) (work recorder.raw) s.device.driver

theorem yields_command (live : s.device.registry.buffers.get? buffer = some recorder) (recorded : Command) :
    Yields (command buffer recorded) s := by
  have there : (trackingPart.get s).registry.buffers.get? buffer = some recorder := live
  simp only [Yields, command, Act.ends_bind, Act.ends_get, Act.ends_on, Tracking.ends_with_buffer, there, Act.ends_pure]
  refine Act.ends_always fun _ _ _ => ?_
  refine Act.ends_always fun _ _ _ => ?_
  exact Act.ends_always (by simp)

theorem yields_execute {primary : BufferHandle} {secondaries : List BufferHandle}
    (live : ∀ handle ∈ primary :: secondaries, ∃ recorder, s.device.registry.buffers.get? handle = some recorder) :
    Yields (execute primary secondaries) s := by
  obtain ⟨recorder, here⟩ := live primary List.mem_cons_self
  have others := fun handle member => live handle (List.mem_cons_of_mem primary member)
  -- What is there stays there when the primary takes over the records.
  have stays (following : Recorder) (handle : BufferHandle) (member : handle ∈ primary :: secondaries) :
      ∃ held, (s.device.registry.setBuffer primary following).buffers.get? handle = some held := by
    rw [Registry.get_set_buffer here]
    split
    · exact ⟨_, rfl⟩
    · exact live handle member
  have before : registryPart.get s = s.device.registry := rfl
  have after (registry : Registry) : (registryPart.set registry s).device.registry = registry := rfl
  simp only [Yields, execute, Registry.execute, Act.ends_bind, Act.ends_get, Act.ends_on, before,
    Registry.streams_some others,
    Registry.buffer_some here, Act.ends_set, Act.ends_pure, after]
  obtain ⟨held, again⟩ := stays (recorder.append (secondaries.map s.device.registry.streamOf).flatten)
    primary List.mem_cons_self
  rw [Registry.buffer_some again,
    Registry.raws_some fun handle member => stays _ handle (List.mem_cons_of_mem primary member)]
  simp only [Act.ends_bind, Act.ends_pure]
  exact Act.ends_always (by simp)

theorem yields_submit (policy : ReplayPolicy) (queue : QueueHandle) (raw : RawQueue) (batches : List (List RawBuffer))
    (buffers : List BufferHandle) (endsFrame : Bool) :
    Yields (submit policy queue raw batches buffers endsFrame) s := by
  simp only [Yields, submit, Act.ends_bind, Act.ends_get]
  refine Act.ends_mono (ends_note_submit s) ?_ (fun _ _ _ => trivial)
  rintro _ _ first ⟨_, aside⟩
  refine Act.ends_mono (ends_advance_if first endsFrame) ?_ (fun _ _ _ => trivial)
  rintro _ transition second ⟨_, beside⟩
  have moved := aside_trans aside beside
  split
  · simp only [Act.ends_bind, Act.ends_on]
    refine Act.ends_mono (ends_finish_if_any second transition) ?_ (fun _ _ _ => trivial)
    rintro _ _ third ⟨_, also⟩
    refine Act.ends_mono (ends_try_failed_with _ _ _) ?_ (fun _ _ _ => trivial)
    intro shown answer _ answers error same
    exact failed_with_later (answers error same) (aside_trans moved also).driver fun event member => by simp [member]
  · simp only [Act.ends_bind, Act.ends_on, Act.ends_pure]
    refine Act.ends_mono (ends_try_failed_with _ _ _) ?_ (fun _ _ _ => trivial)
    intro shown answer third answers
    refine Act.ends_always fun _ _ _ => ?_
    refine Act.ends_always fun _ _ _ error same => ?_
    exact failed_with_later (answers error same) moved.driver fun event member => by simp [member]

theorem yields_present (raw : RawQueue) : Yields (present raw) s := by
  simp only [Yields, present, Act.ends_bind, Act.ends_get]
  refine Act.ends_mono (ends_advance_frame s) ?_ (fun _ _ _ => trivial)
  rintro _ transition first ⟨_, aside⟩
  split
  · simp only [Act.ends_bind, Act.ends_on, Act.ends_pure]
    refine Act.ends_mono (ends_try_failed_with _ _ _) ?_ (fun _ _ _ => trivial)
    intro shown answer second answers
    refine Act.ends_always fun _ _ _ error same => ?_
    exact failed_with_later (answers error same) aside.driver fun event member => by simp [member]
  · simp only [Act.ends_bind, Act.ends_on]
    refine Act.ends_mono (ends_finish_frame first transition) ?_ (fun _ _ _ => trivial)
    rintro _ _ second ⟨_, also⟩
    refine Act.ends_mono (ends_try_failed_with _ _ _) ?_ (fun _ _ _ => trivial)
    intro shown answer _ answers error same
    exact failed_with_later (answers error same) (aside_trans aside also).driver fun event member => by simp [member]

end Yields

end DeviceScope

namespace Layer

variable {layer : Layer}

theorem has_buffer_iff {id : DeviceId} {device : ProfiledDevice} (here : layer.devices.get? id = some device)
    (handle : BufferHandle) :
    layer.HasBuffer ⟨id, handle⟩ ↔ ∃ recorder, device.registry.buffers.get? handle = some recorder := by
  simp only [HasBuffer, recorder_within here]

theorem has_queue_iff {id : DeviceId} {device : ProfiledDevice} (here : layer.devices.get? id = some device)
    (handle : QueueHandle) :
    layer.HasQueue ⟨id, handle⟩ ↔ ∃ tracked, device.registry.queues.get? handle = some tracked := by
  simp [HasQueue, here]

section Refusing

variable {α : Type} {act : Act DeviceScope (Except Error α)} {reply : α → LayerReply} {call : LayerCall} {id : DeviceId}

theorem refuses_on_device (performs : perform call = do return .ofAnswer reply (← onDevice id act))
    (declines : ∀ device, layer.devices.get? id = some device → DeviceScope.Declines act ⟨device, layer.shared⟩) :
    layer.Refuses call := by
  have ends : Act.Ends (perform call) layer
      (fun shown answer next => ∃ error, (error = .invalidHandle ∨ error = .foreignHandle) ∧ shown = [] ∧
        answer = .failed error ∧ next = layer) (fun _ _ => False) := by
    rw [performs]
    simp only [Act.ends_bind, Act.ends_pure, ends_on_device]
    cases live : layer.devices.get? id with
    | none => exact ⟨_, .inl rfl, rfl, rfl, trivial⟩
    | some device =>
      refine Act.ends_mono (declines device live) ?_ (fun _ _ never => never)
      rintro _ _ _ ⟨rfl, ⟨error, kind, rfl⟩, rfl⟩
      refine ⟨error, kind, rfl, rfl, ?_⟩
      rw [Arena.set_same live]
  rcases ran : perform call layer with ⟨shown, reason | ⟨answer, next⟩⟩
  · exact (Act.ends_of_error ends ran).elim
  · obtain ⟨error, kind, rfl, rfl, rfl⟩ := Act.ends_of_ok ends ran
    exact ⟨error, kind, ran⟩

def Heeds (layer : Layer) (call : LayerCall) : Prop :=
  Act.Ends (perform call) layer
    (fun shown answer _ => ∀ error, answer = .failed error → layer.FailedWith call shown error)
    (fun _ _ => True)

theorem heeds_on_device {device : ProfiledDevice}
    (performs : perform call = do return .ofAnswer reply (← onDevice id act))
    (aimed : call.device? = some id) (plain : ∀ x error, reply x ≠ .failed error)
    (live : layer.devices.get? id = some device)
    (yields : DeviceScope.Yields act ⟨device, layer.shared⟩) : layer.Heeds call := by
  unfold Heeds
  rw [performs]
  simp only [Act.ends_bind, Act.ends_pure, ends_on_device, live]
  refine Act.ends_mono yields ?_ (fun _ _ _ => trivial)
  intro shown answer _ answers error failed
  cases answer with
  | ok x => exact absurd failed (plain x error)
  | error known =>
    cases failed
    rw [List.append_nil]
    exact ⟨id, device, aimed, live, answers error rfl⟩

end Refusing

theorem device_gone {id : DeviceId} (gone : layer.devices.get? id = none) :
    layer.device id = .error .invalidHandle := by
  rw [Layer.device, gone]

theorem buffer_gone {registry : Registry} {handle : BufferHandle} (gone : registry.buffers.get? handle = none) :
    registry.buffer handle = .error .invalidHandle := by
  rw [Registry.buffer, gone]

theorem queue_gone {registry : Registry} {handle : QueueHandle} (gone : registry.queues.get? handle = none) :
    registry.queue handle = .error .invalidHandle := by
  rw [Registry.queue, gone]

theorem lacks_buffer {buffer : BufferId} {device : ProfiledDevice} (absent : ¬layer.HasBuffer buffer)
    (here : layer.devices.get? buffer.device = some device) : device.registry.buffers.get? buffer.buffer = none :=
  Option.eq_none_iff_forall_ne_some.mpr fun recorder live =>
    absent ((has_buffer_iff here buffer.buffer).mpr ⟨recorder, live⟩)

theorem lacks_queue {queue : QueueId} {device : ProfiledDevice} (absent : ¬layer.HasQueue queue)
    (here : layer.devices.get? queue.device = some device) : device.registry.queues.get? queue.queue = none :=
  Option.eq_none_iff_forall_ne_some.mpr fun tracked live =>
    absent ((has_queue_iff here queue.queue).mpr ⟨tracked, live⟩)

theorem recorder_gone {buffer : BufferId} (absent : ¬layer.HasBuffer buffer) :
    layer.recorder buffer = .error .invalidHandle := by
  unfold Layer.recorder
  cases here : layer.devices.get? buffer.device with
  | none => rw [device_gone here]
  | some device =>
    rw [(device_ok layer _ device).mpr here]
    exact buffer_gone (lacks_buffer absent here)

section Looking

variable {call : LayerCall} {α : Type} {reply : α → LayerReply}

theorem refuses_look {find : Layer → LayerReply} (performs : perform call = look find)
    (fails : find layer = .failed .invalidHandle) : layer.Refuses call :=
  ⟨.invalidHandle, .inl rfl, by rw [performs, look, fails]⟩

theorem heeds_look {find : Layer → LayerReply} (performs : perform call = look find)
    (plain : ∀ error, find layer ≠ .failed error) : layer.Heeds call := by
  unfold Heeds
  rw [performs]
  exact fun error failed => absurd failed (plain error)

section Devices

variable {id : DeviceId} {read : ProfiledDevice → α}
  (performs : perform call = look fun layer => .ofAnswer reply ((layer.device id).map read))

include performs

theorem refuses_device_look (gone : layer.devices.get? id = none) : layer.Refuses call :=
  refuses_look performs (by rw [device_gone gone]; rfl)

theorem heeds_device_look (plain : ∀ x error, reply x ≠ .failed error) {device : ProfiledDevice}
    (here : layer.devices.get? id = some device) : layer.Heeds call := by
  refine heeds_look performs fun error => ?_
  rw [(device_ok layer id device).mpr here]
  exact plain (read device) error

end Devices

section Buffers

variable {buffer : BufferId} {read : Recorder → α}
  (performs : perform call = look fun layer => .ofAnswer reply ((layer.recorder buffer).map read))

include performs

theorem refuses_buffer_look (absent : ¬layer.HasBuffer buffer) : layer.Refuses call :=
  refuses_look performs (by rw [recorder_gone absent]; rfl)

theorem heeds_buffer_look (plain : ∀ x error, reply x ≠ .failed error) (there : layer.HasBuffer buffer) :
    layer.Heeds call := by
  obtain ⟨recorder, found⟩ := there
  refine heeds_look performs fun error => ?_
  rw [found]
  exact plain (read recorder) error

end Buffers

end Looking

theorem refuses_misuse {call : LayerCall} (misuse : layer.Misuses call) : layer.Refuses call := by
  have nowhere {id : DeviceId} (gone : layer.devices.get? id = none) {device : ProfiledDevice} {fails : Prop}
      (live : layer.devices.get? id = some device) : fails := by
    rw [gone] at live
    cases live
  cases call with
  | createDevice driver backend => exact misuse.elim
  | deviceCount => exact misuse.elim
  | destroyDevice id =>
    have lost : layer.devices.remove id = (none, layer.devices) := Arena.remove_stale misuse
    refine ⟨.invalidHandle, .inl rfl, ?_⟩
    simp only [perform, destroyDevice, bind, Act.bind, Act.get, lost]
    rfl
  | getQueue id family index => exact refuses_on_device rfl fun device live => nowhere misuse live
  | allocate id level => exact refuses_on_device rfl fun device live => nowhere misuse live
  | free buffer => exact refuses_on_device rfl fun device live => DeviceScope.declines_free (lacks_buffer misuse live)
  | beginBuffer buffer | endBuffer buffer | resetBuffer buffer =>
    exact refuses_on_device rfl fun device live => DeviceScope.declines_update _ _ (lacks_buffer misuse live)
  | command buffer recorded =>
    exact refuses_on_device rfl fun device live => DeviceScope.declines_command _ (lacks_buffer misuse live)
  | execute buffer secondaries =>
    refine refuses_on_device rfl fun device live => ?_
    obtain ⟨other, member, unfit⟩ := misuse
    by_cases foreign : (secondaries.any fun secondary => secondary.device != buffer.device) = true
    · rw [if_pos foreign]
      exact ⟨rfl, ⟨_, .inr rfl, rfl⟩, rfl⟩
    · rw [if_neg foreign]
      have own : other.device = buffer.device := by
        rcases List.mem_cons.mp member with rfl | among
        · rfl
        · exact Classical.byContradiction fun apart =>
            foreign (List.any_eq_true.mpr ⟨other, among, by simpa using apart⟩)
      have absent : ¬layer.HasBuffer other := unfit.resolve_right fun apart => apart own
      exact DeviceScope.declines_execute (List.mem_map_of_mem (f := BufferId.buffer) member)
        (lacks_buffer absent (own ▸ live))
  | submit queue submissions =>
    refine refuses_on_device rfl fun device live => ?_
    simp only [DeviceScope.Declines, Act.ends_bind, Act.ends_get]
    cases queued : device.registry.queues.get? queue.queue with
    | none =>
      rw [queue_gone queued]
      exact ⟨rfl, ⟨_, .inl rfl, rfl⟩, rfl⟩
    | some tracked =>
      have there : device.registry.queue queue.queue = .ok tracked := by rw [Registry.queue, queued]
      obtain ⟨buffer, member, bad⟩ := misuse.resolve_left fun absent =>
        absent ((has_queue_iff live queue.queue).mpr ⟨tracked, queued⟩)
      have unfit : Submission.Unfit queue.device device.registry buffer := by
        by_cases own : buffer.device = queue.device
        · exact .inr (lacks_buffer (bad.resolve_right fun apart => apart own) (own ▸ live))
        · exact .inl own
      obtain ⟨error, kind, resolved⟩ := Submission.resolve_unfit member unfit
      simp only [there, resolved]
      exact ⟨rfl, ⟨error, kind, rfl⟩, rfl⟩
  | present queue =>
    refine refuses_on_device rfl fun device live => ?_
    simp only [DeviceScope.Declines, Act.ends_bind, Act.ends_get, queue_gone (lacks_queue misuse live)]
    exact ⟨rfl, ⟨_, .inl rfl, rfl⟩, rfl⟩
  | frameIndex id | framePhase id | isCapturing id | trapCycles id => exact refuses_device_look rfl misuse
  | rawBuffer buffer | recordedWorkloads buffer => exact refuses_buffer_look rfl misuse

theorem fit_buffers {owner : DeviceId} {buffers : List BufferId}
    (proper : ¬∃ buffer ∈ buffers, ¬layer.HasBuffer buffer ∨ buffer.device ≠ owner) :
    ∀ buffer ∈ buffers, layer.HasBuffer buffer ∧ buffer.device = owner := by
  intro buffer member
  by_contra unfit
  refine proper ⟨buffer, member, ?_⟩
  by_cases there : layer.HasBuffer buffer
  · exact .inr fun own => unfit ⟨there, own⟩
  · exact .inl there

theorem has_buffer_held {buffer : BufferId} (there : layer.HasBuffer buffer) :
    ∃ device, layer.devices.get? buffer.device = some device ∧
      ∃ recorder, device.registry.buffers.get? buffer.buffer = some recorder := by
  obtain ⟨recorder, found⟩ := there
  obtain ⟨device, here, there⟩ := (recorder_ok layer buffer recorder).mp found
  exact ⟨device, here, recorder, there⟩

theorem heeds_destroy {id : DeviceId} {device : ProfiledDevice} (here : layer.devices.get? id = some device) :
    layer.Heeds (.destroyDevice id) := by
  simp only [Heeds, perform, destroyDevice, Act.ends_bind, Act.ends_get]
  rcases taken : layer.devices.remove id with ⟨_ | held, rest⟩
  · rw [Arena.remove_none taken] at here
    cases here
  · simp only [Act.ends_bind, Act.ends_set, Act.ends_note, Act.ends_apart, Act.ends_pure]
    exact Act.ends_always (by simp [LayerReply.ofAnswer])

theorem heeds_execute {buffer : BufferId} {secondaries : List BufferId}
    (fit : ∀ other ∈ buffer :: secondaries, layer.HasBuffer other ∧ other.device = buffer.device) :
    layer.Heeds (.execute buffer secondaries) := by
  obtain ⟨device, here, _⟩ := has_buffer_held (fit buffer List.mem_cons_self).1
  have own : ¬(secondaries.any fun secondary => secondary.device != buffer.device) = true := by
    intro foreign
    obtain ⟨other, among, apart⟩ := List.any_eq_true.mp foreign
    exact bne_iff_ne.mp apart (fit other (List.mem_cons_of_mem buffer among)).2
  refine heeds_on_device rfl rfl (by simp) here ?_
  rw [if_neg own]
  apply DeviceScope.yields_execute
  rw [← List.map_cons]
  intro handle member
  obtain ⟨other, among, rfl⟩ := List.mem_map.mp member
  obtain ⟨there, same⟩ := fit other among
  exact (has_buffer_iff here other.buffer).mp (same ▸ there)

theorem heeds_submit {queue : QueueId} {submissions : List Submission} (known : layer.HasQueue queue)
    (fit : ∀ buffer ∈ submissions.flatMap (·.buffers), layer.HasBuffer buffer ∧ buffer.device = queue.device) :
    layer.Heeds (.submit queue submissions) := by
  obtain ⟨device, tracked, here, found⟩ := known
  have there : device.registry.queue queue.queue = .ok tracked := by rw [Registry.queue, found]
  refine heeds_on_device rfl rfl (by simp) here ?_
  simp only [DeviceScope.Yields, Act.ends_bind, Act.ends_get, there]
  cases resolved : Submission.resolve queue.device device.registry submissions with
  | error error =>
    obtain ⟨_, buffer, member, unfit⟩ := Submission.resolve_error resolved
    obtain ⟨there, own⟩ := fit buffer member
    rcases unfit with apart | gone
    · exact absurd own apart
    · obtain ⟨recorder, live⟩ := (has_buffer_iff here buffer.buffer).mp (own ▸ there)
      rw [gone] at live
      cases live
  | ok both => exact DeviceScope.yields_submit _ queue.queue tracked.raw both.1 both.2 _

theorem heeds_present {queue : QueueId} (known : layer.HasQueue queue) : layer.Heeds (.present queue) := by
  obtain ⟨device, tracked, here, found⟩ := known
  have there : device.registry.queue queue.queue = .ok tracked := by rw [Registry.queue, found]
  refine heeds_on_device rfl rfl (by simp) here ?_
  simp only [DeviceScope.Yields, Act.ends_bind, Act.ends_get, there]
  exact DeviceScope.yields_present tracked.raw

theorem heeds_proper {call : LayerCall} (proper : ¬layer.Misuses call) : layer.Heeds call := by
  have live {id : DeviceId} (there : ¬layer.devices.get? id = none) : ∃ device, layer.devices.get? id = some device :=
    Option.ne_none_iff_exists'.mp there
  have held {buffer : BufferId} (there : ¬¬layer.HasBuffer buffer) := has_buffer_held (Classical.not_not.mp there)
  cases call with
  | createDevice driver backend =>
    simp only [Heeds, perform, Act.ends_bind, Act.ends_pure]
    exact Act.ends_always (by simp)
  | deviceCount => exact heeds_look rfl (by simp)
  | destroyDevice id =>
    obtain ⟨device, here⟩ := live proper
    exact heeds_destroy here
  | getQueue id family index =>
    obtain ⟨device, here⟩ := live proper
    exact heeds_on_device rfl rfl (by simp) here (DeviceScope.yields_get_queue id family index)
  | allocate id level =>
    obtain ⟨device, here⟩ := live proper
    exact heeds_on_device rfl rfl (by simp) here (DeviceScope.yields_allocate id level)
  | free buffer =>
    obtain ⟨device, here, recorder, there⟩ := held proper
    exact heeds_on_device rfl rfl (by simp) here (DeviceScope.yields_free there)
  | beginBuffer buffer | endBuffer buffer | resetBuffer buffer =>
    obtain ⟨device, here, recorder, there⟩ := held proper
    exact heeds_on_device rfl rfl (by simp) here (DeviceScope.yields_update there _ _ _)
  | command buffer recorded =>
    obtain ⟨device, here, recorder, there⟩ := held proper
    exact heeds_on_device rfl rfl (by simp) here (DeviceScope.yields_command there recorded)
  | execute buffer secondaries => exact heeds_execute (fit_buffers proper)
  | submit queue submissions =>
    exact heeds_submit (Classical.not_not.mp fun absent => proper (.inl absent)) (fit_buffers fun unfit => proper (.inr unfit))
  | present queue => exact heeds_present (Classical.not_not.mp proper)
  | frameIndex id | framePhase id | isCapturing id | trapCycles id =>
    obtain ⟨device, here⟩ := live proper
    exact heeds_device_look rfl (by simp) here
  | rawBuffer buffer | recordedWorkloads buffer => exact heeds_buffer_look rfl (by simp) (Classical.not_not.mp proper)

theorem submit_spared (queue : QueueId) (submissions : List Submission) :
    Event.Spares (perform (.submit queue submissions) layer).events := by
  apply Act.lacks_of_ends
  simp only [perform, submit, submitUnder, Act.ends_bind, Act.ends_pure, List.append_nil, ends_on_device, Act.ends_get]
  cases here : layer.devices.get? queue.device with
  | none => exact Event.lacks_nil
  | some device =>
    dsimp only
    cases queued : device.registry.queue queue.queue with
    | error error => exact Event.lacks_nil
    | ok tracked =>
      dsimp only
      cases resolved : Submission.resolve queue.device device.registry submissions with
      | error error => exact Event.lacks_nil
      | ok both =>
        obtain ⟨batches, buffers⟩ := both
        obtain ⟨same, _, live⟩ := Submission.resolve_ok resolved
        have held : DeviceScope.Holds ⟨device, layer.shared⟩ queue.queue buffers := by
          refine ⟨⟨tracked, queued⟩, ?_⟩
          rw [same]
          intro handle member
          obtain ⟨buffer, among, rfl⟩ := List.mem_map.mp member
          exact (live buffer among).2
        exact Act.ends_lacking (DeviceScope.spared_submit held _ tracked.raw batches _)

/-- A call that names a device, a queue or a buffer that is not there, or a buffer of another device,
is refused: it shows nothing, and the layer is as it was. Any other call fails only with an error that
the driver of its device gave to a call, and no submission is told to have failed to replay. -/
theorem misuse_has_no_effect (layer : Layer) (call : LayerCall) :
    (layer.Misuses call → ∃ error, (error = .invalidHandle ∨ error = .foreignHandle) ∧
      perform call layer = ⟨[], .ok (.failed error, layer)⟩) ∧
    (¬layer.Misuses call → Act.Ends (perform call) layer
      (fun shown reply _ => ∀ error, reply = .failed error → layer.FailedWith call shown error) (fun _ _ => True)) ∧
    ∀ queue submissions, call = .submit queue submissions →
      ∀ event ∈ (perform call layer).events, ∀ error, event ≠ .note (.replayFailed error) := by
  refine ⟨refuses_misuse, heeds_proper, ?_⟩
  rintro queue submissions rfl event member error rfl
  have spares := submit_spared queue submissions _ member
  cases spares

def twoDevices : Layer :=
  let first := fresh Config.default ⟨[], 0⟩
  first.outcome (first.trace [
    .createDevice (.new "left" [⟨.queueSubmit, 0, .deviceLost⟩] [] false) .empty,
    .createDevice (.new "right" [] [] false) .empty,
    .getQueue ⟨0, 0⟩ 0 0,
    .allocate ⟨0, 0⟩ .primary,
    .allocate ⟨1, 0⟩ .primary])

-- A buffer of the other device in the second batch, and the same submission without it.
theorem foreign_buffer_has_no_effect :
    let own : Submission := ⟨[⟨⟨0, 0⟩, ⟨0, 0⟩⟩], true⟩
    let foreign : Submission := ⟨[⟨⟨0, 0⟩, ⟨0, 0⟩⟩, ⟨⟨1, 0⟩, ⟨0, 0⟩⟩], true⟩
    twoDevices.Misuses (.submit ⟨⟨0, 0⟩, ⟨0, 0⟩⟩ [own, foreign]) ∧
      ¬twoDevices.Misuses (.submit ⟨⟨0, 0⟩, ⟨0, 0⟩⟩ [own]) ∧
      (∃ error, perform (.submit ⟨⟨0, 0⟩, ⟨0, 0⟩⟩ [own, foreign]) twoDevices = ⟨[], .ok (.failed error, twoDevices)⟩) ∧
      ∃ shown next, perform (.submit ⟨⟨0, 0⟩, ⟨0, 0⟩⟩ [own]) twoDevices = ⟨shown, .ok (.failed .deviceLost, next)⟩ ∧
        twoDevices.FailedWith (.submit ⟨⟨0, 0⟩, ⟨0, 0⟩⟩ [own]) shown .deviceLost := by
  intro own foreign
  have misuse : twoDevices.Misuses (.submit ⟨⟨0, 0⟩, ⟨0, 0⟩⟩ [own, foreign]) :=
    .inr ⟨⟨⟨1, 0⟩, ⟨0, 0⟩⟩, by simp [own, foreign], .inr (by decide)⟩
  have proper : ¬twoDevices.Misuses (.submit ⟨⟨0, 0⟩, ⟨0, 0⟩⟩ [own]) := by
    rintro (absent | ⟨buffer, member, unfit⟩)
    · exact absent ⟨_, _, rfl, rfl⟩
    · obtain rfl : buffer = ⟨⟨0, 0⟩, ⟨0, 0⟩⟩ := by simpa [own] using member
      rcases unfit with absent | apart
      · exact absent ⟨_, rfl⟩
      · exact apart rfl
  obtain ⟨error, _, refused⟩ := (misuse_has_no_effect twoDevices _).1 misuse
  have heeded := (misuse_has_no_effect twoDevices _).2.1 proper
  obtain ⟨shown, next, ran⟩ : ∃ shown next, perform (.submit ⟨⟨0, 0⟩, ⟨0, 0⟩⟩ [own]) twoDevices =
      ⟨shown, .ok (.failed .deviceLost, next)⟩ := ⟨_, _, rfl⟩
  exact ⟨misuse, proper, ⟨error, refused⟩, shown, next, ran, Act.ends_of_ok heeded ran _ rfl⟩

end Layer

end GpuProfiler
