import GpuProfiler.Layer.Call
import GpuProfiler.Proofs.Frames.Turns
import GpuProfiler.Proofs.Indifference.Device
import GpuProfiler.Proofs.Transparency.View

set_option autoImplicit false

namespace GpuProfiler

open Act Watched

namespace CounterSession

variable {steady : Bool}

theorem faint_note_missing {σ : Type} [Watched σ] (available : List Counter) (filter : List String) :
    Faint steady (noteMissing available filter : Act σ Unit) := by
  induction filter with
  | nil => exact faint_pure ()
  | cons name rest ih => exact faint_bind (faint_note_if _ _) fun _ => ih

theorem faint_start {σ : Type} [Watched σ] (backend : Backend) (filter : List String) :
    Faint steady (start backend filter : Act σ (CounterSession Backend)) :=
  faint_bind (faint_note_missing _ _) fun _ => faint_bind (faint_note _) fun _ => faint_pure _

theorem ends_start {σ : Type} [Watched σ] (backend : Backend) (filter : List String) (s : σ) :
    Ends (start backend filter) s
      (fun _ session _ => session = ⟨backend, select (CounterBackend.counters backend) filter, ⟨0, 0, 0⟩⟩)
      (fun _ _ => False) := by
  simp only [start, ends_bind, ends_note, ends_pure]
  have missing : Faint true (noteMissing (CounterBackend.counters backend) filter : Act σ Unit) :=
    faint_note_missing _ _
  exact ends_mono (missing s) (fun _ _ _ _ => trivial) (fun _ _ never => never)

theorem in_step_start {σ : Type} [Watched σ] {backend also : Backend} (agree : steady = true → backend = also)
    (filter : List String) :
    InStep steady (Akin steady) (start backend filter : Act σ (CounterSession Backend))
      (start also filter) := by
  cases steady with
  | false => exact in_step_faint (faint_start backend filter) (faint_start also filter) fun _ _ => rfl
  | true =>
    cases agree rfl
    have faint : Faint true (start backend filter : Act σ (CounterSession Backend)) := faint_start backend filter
    have ends (s : σ) := ends_mono (ends_and (faint s) (ends_start backend filter s)) (fun _ _ _ done => done)
      (fun _ _ never => never.1)
    intro s t outlined
    apply abreast_of_ends (ends s) (ends t)
    intro shown session next told other after done too
    obtain ⟨⟨none, kept, tallied⟩, rfl⟩ := done
    obtain ⟨⟨still, stays, counted⟩, rfl⟩ := too
    exact ⟨none.trans still.symm, rfl, by rw [Akin, kept, stays, outlined], tallied, counted⟩

end CounterSession

namespace ProfiledDevice

variable {steady : Bool}

def opened (device : ProfiledDevice) (transition : FrameTransition) : Act Shared ProfiledDevice := do
  let ((), scope) ← Act.apart ⟨device, ← Act.get⟩ (DeviceScope.apply transition)
  Act.set scope.shared
  Pure.pure scope.device

theorem opened_ran (device : ProfiledDevice) (transition : FrameTransition) (shared : Shared) :
    opened device transition shared =
      match DeviceScope.apply transition ⟨device, shared⟩ with
      | ⟨shown, .ok (_, scope)⟩ => ⟨shown, .ok (scope.device, scope.shared)⟩
      | ⟨shown, .error reason⟩ => ⟨shown, .error reason⟩ := by
  change Act.bind (Act.apart ⟨device, shared⟩ (DeviceScope.apply transition))
    (fun both => Act.bind (Act.set both.2.shared) fun _ => Act.pure both.2.device) shared = _
  rcases ran : DeviceScope.apply transition ⟨device, shared⟩ with ⟨shown, reason | ⟨_, scope⟩⟩
  · simp only [Act.bind, Act.apart, ran]
  · simp only [Act.bind, Act.apart, ran, Act.set, Act.pure, List.append_nil]

theorem in_step_opened {device other : ProfiledDevice} (same : Akin steady device other)
    (transition : FrameTransition) :
    InStep steady (Akin steady) (opened device transition) (opened other transition) := by
  intro shared beside outlined
  have scopes : Akin steady (⟨device, shared⟩ : DeviceScope) ⟨other, beside⟩ := congrArg₂ DeviceScope.mk same outlined
  have within := DeviceScope.in_step_apply transition _ _ scopes
  rw [opened_ran, opened_ran]
  generalize DeviceScope.apply transition ⟨device, shared⟩ = ran at within ⊢
  generalize DeviceScope.apply transition ⟨other, beside⟩ = went at within ⊢
  cases within with
  | halted shown told reason firm => exact .halted shown told reason firm
  | ended shown told x y next after firm related outlined tallied also =>
    exact .ended shown told _ _ _ _ firm (congrArg DeviceScope.device outlined) (congrArg DeviceScope.shared outlined)
      tallied also

theorem in_step_opened_if {device other : ProfiledDevice} (same : Akin steady device other)
    (transition : FrameTransition) :
    InStep steady (Akin steady)
      (if device.isProfiling then opened device transition else Pure.pure device)
      (if other.isProfiling then opened other transition else Pure.pure other) := by
  rw [look_same isProfiling (fun _ => rfl) same]
  split
  · exact in_step_opened same transition
  · exact in_step_pure same

theorem in_step_activate (driver : Driver) {backend also : Backend} (agree : steady = true → backend = also)
    (config : Config) :
    InStep steady (Akin steady) (activate driver backend config)
      (activate driver also config) := by
  apply in_step_bind (in_step_apart (mute_of_hushed (hushed_create_trap config)))
  intro equipped _ same
  cases same
  apply in_step_bind (CounterSession.in_step_start agree config.counters)
  intro session other outlined
  apply in_step_bind (in_step_noted (faint_note _))
  intro _ _ _
  refine in_step_opened_if ?_ _
  exact congrArg (ProfiledDevice.mk equipped.2 config .empty (.start config) equipped.1) outlined

end ProfiledDevice

instance : Watched Layer :=
  ⟨fun steady layer =>
      { layer with shared := outline steady layer.shared, devices := layer.devices.map (outline steady) },
    fun layer => tally layer.shared⟩

namespace Layer

variable {α : Type} {steady : Bool} {s t : Layer}

theorem shared_fits : sharedPart.Fits := ⟨fun _ _ => rfl, fun _ _ _ => rfl, fun _ _ _ => Nat.add_comm _ _⟩

theorem devices_same (outlined : Akin steady s t) :
    s.devices.map (outline steady) = t.devices.map (outline steady) := congrArg Layer.devices outlined

theorem outline_same (outlined : Akin steady s t) {devices others : Arena ProfiledDevice}
    {shared beside : Shared} (same : devices.map (outline steady) = others.map (outline steady))
    (alike : Akin steady shared beside) :
    Akin steady { s with devices := devices, shared := shared } { t with devices := others, shared := beside } := by
  have config : s.config = t.config := look_same Layer.config (fun _ => rfl) outlined
  have entryPoints : s.entryPoints = t.entryPoints := look_same Layer.entryPoints (fun _ => rfl) outlined
  change Layer.mk s.config s.entryPoints (outline steady shared) (devices.map (outline steady)) =
    Layer.mk t.config t.entryPoints (outline steady beside) (others.map (outline steady))
  rw [config, entryPoints, same, alike]

theorem device_outlined (outlined : Akin steady s t) (id : DeviceId) :
    Answers (Akin steady) (s.device id) (t.device id) := by
  have found := Arena.get_viewed (devices_same outlined) id
  unfold device
  cases first : s.devices.get? id <;> cases second : t.devices.get? id <;> simp_all [Answers, Akin]

theorem in_step_on_device (id : DeviceId) {act : Act DeviceScope (Except Error α)}
    (within : InStep steady (· = ·) act act) : InStep steady (· = ·) (onDevice id act) (onDevice id act) := by
  apply in_step_bind in_step_get
  intro s t outlined
  obtain ⟨error, here, there⟩ | ⟨device, also, here, there, same⟩ := answers_cases (device_outlined outlined id)
  · rw [here, there]
    exact in_step_pure rfl
  · rw [here, there]
    -- The devices are those of the states looked at, the rest is that of the states worked on.
    intro layer beside alike
    have shared : Akin steady layer.shared beside.shared := congrArg Layer.shared alike
    refine abreast_on (within _ _ (congrArg₂ DeviceScope.mk same shared)) (fun next after ended => ?_)
      (fun _ _ tallied => tallied) fun _ _ tallied => tallied
    exact outline_same alike (Arena.set_viewed (devices_same alike) id (congrArg DeviceScope.device ended))
      (congrArg DeviceScope.shared ended)

theorem in_step_create_device (driver : Driver) {backend also : Backend} (agree : steady = true → backend = also) :
    InStep steady (· = ·) (createDevice driver backend) (createDevice driver also) := by
  apply in_step_bind in_step_get
  intro s t outlined
  dsimp only
  rw [look_same Layer.config (fun _ => rfl) outlined]
  apply in_step_bind (in_step_on shared_fits (ProfiledDevice.in_step_activate driver agree t.config))
  intro device other same
  apply in_step_from
  intro layer beside alike
  have inserted := Arena.insert_viewed (devices_same alike) same
  rcases first : layer.devices.insert device with ⟨given, kept⟩
  rcases second : beside.devices.insert other with ⟨found, left⟩
  rw [first, second] at inserted
  obtain ⟨rfl, viewed⟩ := inserted
  refine abreast_bind (abreast_set ?_ (fun _ => rfl) fun _ => rfl) fun _ _ _ => in_step_pure rfl
  exact outline_same alike viewed (congrArg Layer.shared alike)

theorem in_step_destroy_device (id : DeviceId) : InStep steady (· = ·) (destroyDevice id) (destroyDevice id) := by
  apply in_step_from
  intro s t outlined
  obtain ⟨taken, kept⟩ := Arena.remove_viewed (devices_same outlined) id
  rcases first : s.devices.remove id with ⟨device, rest⟩
  rcases second : t.devices.remove id with ⟨other, left⟩
  rw [first, second] at taken kept
  cases device with
  | none =>
    cases other with
    | some other => cases taken
    | none => exact in_step_pure rfl s t outlined
  | some device =>
    cases other with
    | none => cases taken
    | some other =>
      have same : Akin steady device other := Option.some.inj taken
      refine abreast_bind (abreast_set ?_ (fun _ => rfl) fun _ => rfl) fun _ _ _ => ?_
      · exact outline_same outlined kept (congrArg Layer.shared outlined)
      · refine in_step_bind (in_step_faint (faint_note _) (faint_note _) fun _ _ => trivial) fun _ _ _ => ?_
        rw [look_same ProfiledDevice.driver (fun _ => rfl) same,
          look_same ProfiledDevice.destroyTrap (fun _ => rfl) same]
        exact in_step_bind (in_step_apart (mute_of_hushed other.hushed_destroy_trap)) fun _ _ _ => in_step_pure rfl

theorem in_step_submit (queue : QueueId) (submissions : List Submission) :
    InStep steady (· = ·) (submit queue submissions) (submit queue submissions) := by
  apply in_step_on_device
  apply in_step_bind in_step_get
  intro s t outlined
  dsimp only
  rw [look_same ProfiledDevice.registry (fun _ => rfl) (DeviceScope.device_same outlined)]
  cases t.device.registry.queue queue.queue with
  | error error => exact in_step_pure rfl
  | ok tracked =>
    cases Submission.resolve queue.device t.device.registry submissions with
    | error error => exact in_step_pure rfl
    | ok resolved => exact DeviceScope.in_step_submit _ _ _ _ _

theorem in_step_present (queue : QueueId) : InStep steady (· = ·) (present queue) (present queue) := by
  apply in_step_on_device
  apply in_step_bind in_step_get
  intro s t outlined
  rw [look_same ProfiledDevice.registry (fun _ => rfl) (DeviceScope.device_same outlined)]
  cases t.device.registry.queue queue.queue with
  | error error => exact in_step_pure rfl
  | ok tracked => exact DeviceScope.in_step_present _

theorem device_reads {β : Type} (read : ProfiledDevice → β)
    (plain : ∀ device, read (outline steady device) = read device) (outlined : Akin steady s t) (id : DeviceId) :
    (s.device id).map read = (t.device id).map read := by
  obtain ⟨error, here, there⟩ | ⟨device, also, here, there, same⟩ := answers_cases (device_outlined outlined id)
  · rw [here, there]
  · rw [here, there, Except.map, Except.map, look_same read plain same]

theorem recorder_same (outlined : Akin steady s t) (buffer : BufferId) :
    s.recorder buffer = t.recorder buffer := by
  unfold recorder
  obtain ⟨error, here, there⟩ | ⟨device, also, here, there, same⟩ :=
    answers_cases (device_outlined outlined buffer.device)
  · rw [here, there]
  · rw [here, there]
    dsimp only
    rw [look_same ProfiledDevice.registry (fun _ => rfl) same]

theorem in_step_look {find : Layer → LayerReply} (found : ∀ s t : Layer, Akin steady s t → find s = find t) :
    InStep steady (· = ·) (look find) (look find) :=
  fun s t outlined => .ended [] [] _ _ s t rfl (found s t outlined) outlined (tallied_same s rfl) (tallied_same t rfl)

theorem in_step_device_look {β : Type} (reply : β → LayerReply) (read : ProfiledDevice → β)
    (plain : ∀ device, read (outline steady device) = read device) (id : DeviceId) :
    InStep steady (· = ·) (look fun layer => .ofAnswer reply ((layer.device id).map read))
      (look fun layer => .ofAnswer reply ((layer.device id).map read)) :=
  in_step_look fun _ _ outlined => congrArg (LayerReply.ofAnswer reply) (device_reads read plain outlined id)

theorem in_step_buffer_look {β : Type} (reply : β → LayerReply) (read : Recorder → β) (buffer : BufferId) :
    InStep steady (· = ·) (look fun layer => .ofAnswer reply ((layer.recorder buffer).map read))
      (look fun layer => .ofAnswer reply ((layer.recorder buffer).map read)) :=
  in_step_look fun _ _ outlined => by rw [recorder_same outlined]

end Layer

-- The same call, up to what the counters of a new device answer.
inductive LayerCall.Resembles : LayerCall → LayerCall → Prop
  | same (call : LayerCall) : Resembles call call
  | created (driver : Driver) (backend also : Backend) :
      Resembles (.createDevice driver backend) (.createDevice driver also)

namespace Layer

variable {steady : Bool}

theorem in_step_perform {call other : LayerCall} (resembles : call.Resembles other)
    (agree : steady = true → call = other) : InStep steady (· = ·) (perform call) (perform other) := by
  have answered {α : Type} {act : Act Layer (Except Error α)} (reply : α → LayerReply)
      (within : InStep steady (· = ·) act act) :
      InStep steady (· = ·) (do return LayerReply.ofAnswer reply (← act))
        (do return LayerReply.ofAnswer reply (← act)) := by
    apply in_step_bind within
    intro answer _ same
    cases same
    exact in_step_pure rfl
  have created (driver : Driver) {backend also : Backend} (agree : steady = true → backend = also) :
      InStep steady (· = ·) (perform (.createDevice driver backend)) (perform (.createDevice driver also)) := by
    apply in_step_bind (in_step_create_device driver agree)
    intro id _ same
    cases same
    exact in_step_pure rfl
  cases resembles with
  | created driver backend also =>
    refine created driver fun steadily => ?_
    cases agree steadily
    rfl
  | same call =>
    cases call with
    | createDevice driver backend => exact created driver fun _ => rfl
    | destroyDevice id => exact answered _ (in_step_destroy_device id)
    | getQueue id family index =>
      refine answered _ (in_step_on_device id (in_step_bind (DeviceScope.in_step_get_queue family index) ?_))
      intro queue _ same
      cases same
      exact in_step_pure rfl
    | allocate id level =>
      refine answered _ (in_step_on_device id (in_step_bind (DeviceScope.in_step_allocate level) ?_))
      intro buffer _ same
      cases same
      exact in_step_pure rfl
    | free buffer => exact answered _ (in_step_on_device _ (DeviceScope.in_step_free buffer.buffer))
    | beginBuffer buffer | resetBuffer buffer =>
      refine answered _ (in_step_on_device _ (DeviceScope.in_step_update_then_call buffer.buffer _ fun raw => ?_))
      exact mute_of_hushed (Driver.hushed_try_call (fun _ => rfl) (hushed_modify _))
    | endBuffer buffer =>
      refine answered _ (in_step_on_device _ (DeviceScope.in_step_update_then_call buffer.buffer _ fun raw => ?_))
      exact mute_of_hushed (Driver.hushed_try_call (fun _ => rfl) (hushed_pure _))
    | command buffer recorded =>
      exact answered _ (in_step_on_device _ (DeviceScope.in_step_command buffer.buffer recorded))
    | execute buffer secondaries =>
      refine answered _ (in_step_on_device _ ?_)
      split
      · exact in_step_pure rfl
      · exact DeviceScope.in_step_execute _ _
    | submit queue submissions => exact answered _ (in_step_submit queue submissions)
    | present queue => exact answered _ (in_step_present queue)
    | frameIndex id => exact in_step_device_look .number (·.frame.index) (fun _ => rfl) id
    | framePhase id => exact in_step_device_look .phase (·.frame.phase) (fun _ => rfl) id
    | isCapturing id => exact in_step_device_look .flag (·.captures) (fun _ => rfl) id
    | trapCycles id => exact in_step_device_look .number (·.trapCycles) (fun _ => rfl) id
    | rawBuffer buffer => exact in_step_buffer_look .number (·.raw) buffer
    | recordedWorkloads buffer => exact in_step_buffer_look .number (·.stream.length) buffer
    | deviceCount =>
      refine in_step_look fun s t outlined => ?_
      have size : (s.devices.map (outline steady)).size = (t.devices.map (outline steady)).size := by
        rw [devices_same outlined]
      exact congrArg LayerReply.number size

end Layer

end GpuProfiler
