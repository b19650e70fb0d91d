import Mathlib.Data.List.Basic
import GpuProfiler.Proofs.Device.Birth
import GpuProfiler.Proofs.Device.Submission

set_option autoImplicit false

namespace GpuProfiler

namespace LayerCall

def device? : LayerCall → Option DeviceId
  | .destroyDevice id | .getQueue id _ _ | .allocate id _ => some id
  | .free buffer | .beginBuffer buffer | .endBuffer buffer | .resetBuffer buffer => some buffer.device
  | .command buffer _ | .execute buffer _ => some buffer.device
  | .submit queue _ | .present queue => some queue.device
  | _ => none

theorem target_device {call : LayerCall} {buffer : BufferId} (target : call.target? = some buffer) :
    call.device? = some buffer.device := by
  cases call <;> cases target <;> rfl

end LayerCall

structure LayerStep where
  before : Layer
  call : LayerCall
  shown : List Event
  reply : LayerReply
  after : Layer

namespace Layer

def fresh (config : Config) (endpoint : ShowingEndpoint) : Layer :=
  ⟨config, .forConfig config, ⟨.new endpoint, .first⟩, .empty⟩

theorem start_fresh (config : Config) (endpoint : ShowingEndpoint) :
    Act.Ends (start config endpoint) () (fun _ layer _ => layer = fresh config endpoint) (fun _ _ => False) := by
  simp only [start, Act.ends_bind, Act.ends_note, Act.ends_pure]
  rfl

inductive Run (allowed : Layer → LayerCall → Prop) (first : Layer) : List LayerStep → Layer → Prop
  | start : Run allowed first [] first
  | step (steps : List LayerStep) (layer next : Layer) (call : LayerCall) (shown : List Event) (reply : LayerReply)
      (run : Run allowed first steps layer) (admitted : allowed layer call)
      (made : perform call layer = ⟨shown, .ok (reply, next)⟩) :
      Run allowed first (steps ++ [⟨layer, call, shown, reply, next⟩]) next

theorem run_append {allowed : Layer → LayerCall → Prop} {first layer last : Layer} {steps more : List LayerStep}
    (run : Run allowed first steps layer) (later : Run allowed layer more last) :
    Run allowed first (steps ++ more) last := by
  induction later with
  | start => rwa [List.append_nil]
  | step more layer next call shown reply _ admitted made ih =>
    rw [← List.append_assoc]
    exact .step (steps ++ more) layer next call shown reply ih admitted made

def trace (layer : Layer) : List LayerCall → List LayerStep
  | [] => []
  | call :: rest =>
    match perform call layer with
    | ⟨shown, .ok (reply, next)⟩ => ⟨layer, call, shown, reply, next⟩ :: trace next rest
    | ⟨_, .error _⟩ => []

def outcome (layer : Layer) (steps : List LayerStep) : Layer :=
  match steps.getLast? with
  | some step => step.after
  | none => layer

theorem run_trace {allowed : Layer → LayerCall → Prop} (calls : List LayerCall) (layer : Layer)
    (admitted : ∀ step ∈ layer.trace calls, allowed step.before step.call) :
    Run allowed layer (layer.trace calls) (layer.outcome (layer.trace calls)) := by
  induction calls generalizing layer with
  | nil => exact .start
  | cons call rest ih =>
    rcases made : perform call layer with ⟨shown, reason | ⟨reply, next⟩⟩
    · simp only [trace, made]
      exact .start
    · simp only [trace, made] at admitted ⊢
      have here := admitted _ List.mem_cons_self
      have first : Run allowed layer ([] ++ [⟨layer, call, shown, reply, next⟩]) next :=
        .step [] layer next call shown reply .start here made
      have later := ih next fun step member => admitted step (List.mem_cons_of_mem _ member)
      have both := run_append first later
      have last : layer.outcome (⟨layer, call, shown, reply, next⟩ :: next.trace rest) =
          next.outcome (next.trace rest) := by
        cases next.trace rest <;> rfl
      rwa [last]

theorem performs_replied {layer : Layer} {call : LayerCall} {reply : LayerReply}
    (replied : (layer.trace [call]).map (·.reply) = [reply]) :
    ∃ shown next, perform call layer = ⟨shown, .ok (reply, next)⟩ := by
  unfold trace at replied
  rcases made : perform call layer with ⟨shown, reason | ⟨answer, next⟩⟩
  · simp [made] at replied
  · simp only [made, List.map_cons, trace, List.map_nil, List.cons.injEq, and_true] at replied
    exact ⟨shown, next, by rw [replied]⟩

def streamOf (layer : Layer) (buffer : BufferId) : Stream :=
  match layer.recorder buffer with
  | .ok recorder => recorder.stream
  | .error _ => []

theorem device_ok (layer : Layer) (id : DeviceId) (device : ProfiledDevice) :
    layer.device id = .ok device ↔ layer.devices.get? id = some device := by
  unfold Layer.device
  cases layer.devices.get? id <;> simp

theorem recorder_ok (layer : Layer) (buffer : BufferId) (recorder : Recorder) :
    layer.recorder buffer = .ok recorder ↔
      ∃ device, layer.devices.get? buffer.device = some device ∧
        device.registry.buffers.get? buffer.buffer = some recorder := by
  unfold Layer.recorder Layer.device
  cases live : layer.devices.get? buffer.device with
  | none => simp
  | some device => simp [Registry.buffer_ok]

theorem recorder_within {layer : Layer} {id : DeviceId} {device : ProfiledDevice}
    (here : layer.devices.get? id = some device) (handle : BufferHandle) (recorder : Recorder) :
    layer.recorder ⟨id, handle⟩ = .ok recorder ↔ device.registry.buffers.get? handle = some recorder := by
  rw [recorder_ok, here]
  simp

theorem stream_in_device {layer : Layer} {device : ProfiledDevice} {buffer : BufferId}
    (live : layer.devices.get? buffer.device = some device) :
    layer.streamOf buffer = device.registry.streamOf buffer.buffer := by
  simp only [streamOf, Layer.recorder, Layer.device, live, Registry.buffer, Registry.streamOf]
  cases device.registry.buffers.get? buffer.buffer <;> rfl

theorem streams_in_device {layer : Layer} {id : DeviceId} {device : ProfiledDevice} {buffers : List BufferId}
    (here : layer.devices.get? id = some device) (own : ∀ buffer ∈ buffers, buffer.device = id) :
    buffers.flatMap layer.streamOf = buffers.flatMap fun buffer => device.registry.streamOf buffer.buffer := by
  apply List.flatMap_congr
  intro buffer member
  rw [stream_in_device]
  rw [own buffer member, here]

def trappedIn (layer : Layer) (buffer : BufferId) : Nat := (layer.streamOf buffer).trapped

structure Sound (layer : Layer) : Prop where
  devices : layer.devices.Sound
  registries : ∀ id device, layer.devices.get? id = some device → device.registry.Sound device.isProfiling

inductive Move (layer : Layer) : LayerCall → List Event → LayerReply → Layer → Prop
  | looked (call : LayerCall) (reply : LayerReply) (nowhere : call.device? = none) : Move layer call [] reply layer
  | lost (call : LayerCall) (id : DeviceId) (reply : LayerReply) (made : call.device? = some id)
      (gone : layer.devices.get? id = none) : Move layer call [] reply layer
  | created (driver : Driver) (backend : Backend) (device : ProfiledDevice) (shown : List Event) (next : Layer)
      (quiet : Quiet shown) (born : ProfiledDevice.Born driver device)
      (devices : next.devices = (layer.devices.insert device).2) :
      Move layer (.createDevice driver backend) shown (.device (layer.devices.insert device).1) next
  | destroyed (id : DeviceId) (device : ProfiledDevice) (shown : List Event) (next : Layer) (quiet : Quiet shown)
      (live : layer.devices.get? id = some device) (devices : next.devices = (layer.devices.remove id).2) :
      Move layer (.destroyDevice id) shown .done next
  | within (id : DeviceId) (call : LayerCall) (device moved : ProfiledDevice) (shown : List Event)
      (reply : LayerReply) (next : Layer) (made : call.device? = some id)
      (live : layer.devices.get? id = some device) (move : device.Move id call shown reply moved)
      (devices : next.devices = layer.devices.set id moved) : Move layer call shown reply next

def Blocks (layer : Layer) (call : LayerCall) (reason : Halt) : Prop :=
  reason = .blocked →
    (∃ queue submissions, call = .submit queue submissions) ∨
      (∃ driver backend, call = .createDevice driver backend ∧ driver.timeline ≠ []) ∨
        ∃ id device, call.device? = some id ∧ layer.devices.get? id = some device ∧ device.driver.timeline ≠ []

variable {layer : Layer}

theorem sound_fresh (config : Config) (endpoint : ShowingEndpoint) : (fresh config endpoint).Sound :=
  ⟨Arena.sound_empty, fun id _ live => by
    rw [show (fresh config endpoint).devices.get? id = none from Arena.get_empty id] at live
    cases live⟩

theorem sound_set (sound : layer.Sound) (id : DeviceId) {device : ProfiledDevice} (shared : Shared)
    (kept : device.registry.Sound device.isProfiling) :
    Sound { layer with devices := layer.devices.set id device, shared := shared } := by
  refine ⟨Arena.sound_set sound.devices id device, ?_⟩
  intro other found live
  rcases Arena.get_set_cases id other device found live with ⟨_, rfl, _⟩ | ⟨_, before⟩
  · exact kept
  · exact sound.registries other found before

theorem ends_on_device {α : Type} (id : DeviceId) (act : Act DeviceScope (Except Error α)) (layer : Layer)
    (good : List Event → Except Error α → Layer → Prop) (bad : List Event → Halt → Prop) :
    Act.Ends (onDevice id act) layer good bad ↔
      match layer.devices.get? id with
      | none => good [] (.error .invalidHandle) layer
      | some device =>
        Act.Ends act ⟨device, layer.shared⟩
          (fun shown x scope =>
            good shown x { layer with devices := layer.devices.set id scope.device, shared := scope.shared }) bad := by
  simp only [onDevice, Act.ends_bind, Act.ends_get, Layer.device]
  cases layer.devices.get? id with
  | none => exact Iff.rfl
  | some device => simp [scopePart]

theorem perform_within {α : Type} {act : Act DeviceScope (Except Error α)} {answer : α → LayerReply} {call : LayerCall}
    {id : DeviceId} {device moved : ProfiledDevice} {shown : List Event} {reply : LayerReply} {next : Layer}
    {does : List Event → ProfiledDevice → Prop} (performs : perform call = do return .ofAnswer answer (← onDevice id act))
    (here : layer.devices.get? id = some device)
    (ends : Act.Ends act ⟨device, layer.shared⟩ (fun shown _ scope => does shown scope.device) (fun _ _ => True))
    (made : perform call layer = ⟨shown, .ok (reply, next)⟩) (there : next.devices.get? id = some moved) :
    does shown moved := by
  have within : Act.Ends (perform call) layer
      (fun shown _ after => ∀ found, after.devices.get? id = some found → does shown found) (fun _ _ => True) := by
    rw [performs]
    simp only [Act.ends_bind, Act.ends_pure, ends_on_device, here]
    refine Act.ends_mono ends ?_ (fun _ _ _ => trivial)
    intro shown _ scope done found now
    rw [Arena.get_set_here _ _ _ _ here] at now
    cases now
    rw [List.append_nil]
    exact done
  exact Act.ends_of_ok within made moved there

theorem ends_within {α : Type} (sound : layer.Sound) {call : LayerCall} {id : DeviceId}
    (act : Act DeviceScope (Except Error α)) (reply : α → LayerReply) (made : call.device? = some id)
    (performs : perform call = do return .ofAnswer reply (← onDevice id act))
    {bad : List Event → Halt → Prop} (blocks : ∀ shown device, layer.devices.get? id = some device →
      ∀ reason, (DeviceScope.Blocks ⟨device, layer.shared⟩ shown reason ∨ ∃ queue submissions,
        call = .submit queue submissions) → bad shown reason)
    (moves : ∀ s : DeviceScope, s.device.registry.Sound s.device.isProfiling →
      Act.Ends act s (DeviceScope.Moved id call reply s)
        (fun shown reason => DeviceScope.Blocks s shown reason ∨ ∃ queue submissions, call = .submit queue submissions)) :
    Act.Ends (perform call) layer (fun shown reply next => layer.Move call shown reply next ∧ next.Sound) bad := by
  rw [performs]
  simp only [Act.ends_bind, Act.ends_pure, ends_on_device]
  cases live : layer.devices.get? id with
  | none => exact ⟨.lost call id _ made live, sound⟩
  | some device =>
    refine Act.ends_mono (moves ⟨device, layer.shared⟩ (sound.registries id device live)) ?_ ?_
    · rintro shown answer next ⟨move, kept⟩
      rw [List.append_nil]
      exact ⟨.within id call device next.device shown _ _ made live move rfl, sound_set sound id next.shared kept⟩
    · exact fun shown reason stopped => blocks shown device live reason stopped

theorem ends_create_device (sound : layer.Sound) (driver : Driver) (backend : Backend) :
    Act.Ends (perform (.createDevice driver backend)) layer
      (fun shown reply next => layer.Move (.createDevice driver backend) shown reply next ∧ next.Sound)
      (fun _ _ => driver.timeline ≠ []) := by
  simp only [perform, createDevice, Act.ends_bind, Act.ends_get, Act.ends_on]
  refine Act.ends_mono (ProfiledDevice.ends_activate driver backend _ _) ?_ (fun _ _ busy => busy)
  rintro shown device shared ⟨quiet, born⟩
  simp only [Act.ends_set, Act.ends_pure]
  refine ⟨.created driver backend device _ _ (by simpa using quiet) born rfl, Arena.sound_insert sound.devices _, ?_⟩
  intro id found live
  rcases Arena.get_insert_cases sound.devices device live with before | ⟨_, _, rfl⟩
  · exact sound.registries id found before
  · rw [born.registry]
    exact Registry.sound_empty

theorem ends_destroy_device (sound : layer.Sound) (id : DeviceId) :
    Act.Ends (perform (.destroyDevice id)) layer
      (fun shown reply next => layer.Move (.destroyDevice id) shown reply next ∧ next.Sound) (fun _ _ => False) := by
  simp only [perform, destroyDevice, Act.ends_bind, Act.ends_get, Act.ends_pure]
  rcases taken : layer.devices.remove id with ⟨_ | device, devices⟩
  · exact ⟨.lost _ id _ rfl (Arena.remove_none taken), sound⟩
  · have removed : (layer.devices.remove id).2 = devices := by rw [taken]
    have destroyed : Act.Ends device.destroyTrap device.driver (fun shown _ _ => Quiet shown) (fun _ _ => False) := by
      unfold ProfiledDevice.destroyTrap
      split
      · simp only [Trap.destroy, EventHost.destroyEvent, Act.ends_bind]
        refine Act.ends_mono (Driver.ends_destroy_event _ _) ?_ (fun _ _ never => never)
        rintro shown _ next ⟨quiet, _⟩
        refine Act.ends_mono (Driver.ends_destroy_event _ _) ?_ (fun _ _ never => never)
        rintro later _ last ⟨still, _⟩
        simp [quiet, still]
      · exact quiet_nil
    simp only [Act.ends_bind, Act.ends_set, Act.ends_note, Act.ends_apart, Act.ends_pure]
    refine Act.ends_mono destroyed ?_ (fun _ _ never => never)
    intro shown _ _ quiet
    refine ⟨.destroyed id device _ _ (by simp [quiet, Event.stirs]) (Arena.remove_some taken) removed.symm, ?_, ?_⟩
    · rw [← removed]
      exact Arena.sound_remove sound.devices id
    · intro other found live
      rw [← removed] at live
      exact sound.registries other found (Arena.get_remove_live live).2

theorem ends_perform (sound : layer.Sound) (call : LayerCall) :
    Act.Ends (perform call) layer (fun shown reply next => layer.Move call shown reply next ∧ next.Sound)
      (fun _ reason => layer.Blocks call reason) := by
  have blocks {id : DeviceId} (made : call.device? = some id) : ∀ (shown : List Event) device,
      layer.devices.get? id = some device → ∀ reason,
        (DeviceScope.Blocks ⟨device, layer.shared⟩ shown reason ∨ ∃ queue submissions,
          call = .submit queue submissions) → layer.Blocks call reason := by
    rintro shown device live reason (busy | submits) blocked
    · exact .inr (.inr ⟨id, device, made, live, busy blocked⟩)
    · exact .inl submits
  have unsubmitted {α : Type} {s : DeviceScope} {act : Act DeviceScope α} {good : List Event → α → DeviceScope → Prop}
      (ends : Act.Ends act s good (DeviceScope.Blocks s)) :
      Act.Ends act s good (fun shown reason => DeviceScope.Blocks s shown reason ∨ ∃ queue submissions,
        call = .submit queue submissions) :=
    Act.ends_mono ends (fun _ _ _ done => done) (fun _ _ stopped => .inl stopped)
  cases call with
  | createDevice driver backend =>
    exact Act.ends_mono (ends_create_device sound driver backend) (fun _ _ _ done => done)
      (fun _ _ busy _ => .inr (.inl ⟨driver, backend, rfl, busy⟩))
  | destroyDevice id =>
    exact Act.ends_mono (ends_destroy_device sound id) (fun _ _ _ done => done) (fun _ _ never => never.elim)
  | getQueue id family index =>
    exact ends_within sound _ _ rfl rfl (blocks rfl) fun s kept =>
      unsubmitted (DeviceScope.moves_get_queue kept id family index)
  | allocate id level =>
    exact ends_within sound _ _ rfl rfl (blocks rfl) fun s kept =>
      unsubmitted (DeviceScope.moves_allocate kept id level)
  | free buffer =>
    exact ends_within sound _ _ rfl rfl (blocks rfl) fun s kept =>
      unsubmitted (DeviceScope.moves_free kept buffer.device buffer.buffer)
  | beginBuffer buffer =>
    exact ends_within sound _ _ rfl rfl (blocks rfl) fun s kept =>
      unsubmitted (DeviceScope.moves_restart kept buffer.device (.beginBuffer buffer) buffer.buffer Recorder.start
        DriverCall.beginCommandBuffer rfl (fun _ => rfl) (fun _ => .inl rfl) fun recorder => ⟨rfl, rfl, rfl, Recorder.sound_start recorder⟩)
  | endBuffer buffer =>
    exact ends_within sound _ _ rfl rfl (blocks rfl) fun s kept =>
      unsubmitted (DeviceScope.moves_end kept buffer.device buffer.buffer)
  | resetBuffer buffer =>
    exact ends_within sound _ _ rfl rfl (blocks rfl) fun s kept =>
      unsubmitted (DeviceScope.moves_restart kept buffer.device (.resetBuffer buffer) buffer.buffer Recorder.reset
        DriverCall.resetCommandBuffer rfl (fun _ => rfl) (fun _ => .inr rfl) fun recorder => ⟨rfl, rfl, rfl, Recorder.sound_reset recorder⟩)
  | command buffer recorded =>
    exact ends_within sound _ _ rfl rfl (blocks rfl) fun s kept =>
      unsubmitted (DeviceScope.moves_command kept buffer.device buffer.buffer recorded)
  | execute buffer secondaries =>
    exact ends_within sound _ _ rfl rfl (blocks rfl) fun s kept =>
      unsubmitted (DeviceScope.moves_execute kept buffer.device buffer.buffer secondaries)
  | submit queue submissions =>
    exact ends_within sound _ _ rfl rfl (blocks rfl) fun s kept =>
      Act.ends_mono (DeviceScope.moves_submit s kept queue.device queue.queue submissions) (fun _ _ _ done => done)
        (fun _ _ _ => .inr ⟨queue, submissions, rfl⟩)
  | present queue =>
    exact ends_within sound _ _ rfl rfl (blocks rfl) fun s kept =>
      unsubmitted (DeviceScope.moves_present kept queue.device queue.queue)
  | _ => exact ⟨.looked _ _ rfl, sound⟩

theorem run_sound {allowed : Layer → LayerCall → Prop} {config : Config} {endpoint : ShowingEndpoint}
    {steps : List LayerStep} (run : Run allowed (fresh config endpoint) steps layer) : layer.Sound := by
  induction run with
  | start => exact sound_fresh config endpoint
  | step steps layer next call shown reply _ _ made ih => exact (Act.ends_of_ok (ends_perform ih call) made).2

end Layer

end GpuProfiler
