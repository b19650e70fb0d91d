import GpuProfiler.Layer.Call
import GpuProfiler.Proofs.Device.Birth
import GpuProfiler.Proofs.Device.Drained
import GpuProfiler.Proofs.Eager.Submission
import GpuProfiler.Proofs.Layer.Run
import GpuProfiler.Proofs.Replay.Origins

set_option autoImplicit false

namespace GpuProfiler

namespace Layer

def performUnder (policy : ReplayPolicy) : LayerCall → Act Layer LayerReply
  | .submit queue submissions => return .ofAnswer (fun _ => .done) (← submitUnder policy queue submissions)
  | call => perform call

def performAllUnder (policy : ReplayPolicy) : List LayerCall → Act Layer (List LayerReply)
  | [] => pure []
  | call :: rest => do
    let reply ← performUnder policy call
    let replies ← performAllUnder policy rest
    pure (reply :: replies)

def eager : ReplayPolicy := fun device _ => device.isProfiling

def submittedStream (layer : Layer) : LayerCall → Stream
  | .submit queue submissions =>
    match layer.device queue.device with
    | .error _ => []
    | .ok device =>
      match Submission.resolve queue.device device.registry submissions with
      | .error _ => []
      | .ok (_, buffers) => buffers.flatMap device.registry.streamOf
  | _ => []

def attempts (layer : Layer) : List LayerCall → List (Layer × LayerCall)
  | [] => []
  | call :: rest => (layer, call) ::
    match (perform call layer).outcome with
    | .ok (_, next) => next.attempts rest
    | .error _ => []

-- In no submission of the run does a pass have more draws in its parts than a word holds.
def Addable (layer : Layer) (calls : List LayerCall) : Prop :=
  ∀ made ∈ layer.attempts calls, (made.1.submittedStream made.2).Fits

end Layer

open Act Event

namespace Submission

theorem resolve_buffers_bare (id : DeviceId) (registry : Registry) (ids : List BufferId) :
    resolveBuffers id registry.bare ids = resolveBuffers id registry ids := by
  induction ids with
  | nil => rfl
  | cons buffer rest ih =>
    rw [resolveBuffers, resolveBuffers, ih]
    rfl

theorem resolve_bare (id : DeviceId) (registry : Registry) (submissions : List Submission) :
    resolve id registry.bare submissions = resolve id registry submissions := by
  induction submissions with
  | nil => rfl
  | cons submission rest ih => rw [resolve, resolve, resolve_buffers_bare, ih]

end Submission

namespace Layer

variable {kinds : List (Event → Bool)} {layer other : Layer}

def bare (layer : Layer) : Layer := { layer with devices := layer.devices.map ProfiledDevice.bare }

theorem device_bare (layer : Layer) (id : DeviceId) : layer.bare.device id = (layer.device id).map ProfiledDevice.bare := by
  have found : layer.bare.devices.get? id = (layer.devices.get? id).map ProfiledDevice.bare :=
    Arena.get_map ProfiledDevice.bare layer.devices id
  rw [device, device, found]
  cases layer.devices.get? id <;> rfl

section Same

variable (same : layer.bare = other.bare)

include same

theorem seen_in_device {α : Type} (id : DeviceId) {seen : ProfiledDevice → α}
    (through : ∀ device, seen device.bare = seen device) :
    (layer.device id).map seen = (other.device id).map seen := by
  have kept (layer : Layer) : (layer.bare.device id).map seen = (layer.device id).map seen := by
    rw [device_bare]
    cases layer.device id with
    | error error => rfl
    | ok device => simp only [Except.map, through]
  rw [← kept layer, ← kept other, same]

theorem recorder_bare (id : BufferId) : layer.recorder id = other.recorder id := by
  have kept (layer : Layer) : layer.bare.recorder id = layer.recorder id := by
    rw [recorder, recorder, device_bare]
    cases layer.device id.device <;> rfl
  rw [← kept layer, ← kept other, same]

theorem agrees_look (find : Layer → LayerReply) (seen : find layer = find other) :
    Ran.Agrees kinds bare (look find layer) (look find other) := by
  apply Ran.agrees_onto
  simp only [look, Ran.onto, Except.map, seen, same]

theorem agrees_look_device {α : Type} (id : DeviceId) (reply : α → LayerReply) {seen : ProfiledDevice → α}
    (through : ∀ device, seen device.bare = seen device) :
    Ran.Agrees kinds bare (look (fun layer => .ofAnswer reply ((layer.device id).map seen)) layer)
      (look (fun layer => .ofAnswer reply ((layer.device id).map seen)) other) :=
  agrees_look same _ (by rw [seen_in_device same id through])

theorem agrees_on_device {α : Type} (id : DeviceId) {act also : Act DeviceScope (Except Error α)}
    (within : ∀ device found, layer.device id = .ok device → other.device id = .ok found →
      (DeviceScope.mk device layer.shared).bare = (DeviceScope.mk found other.shared).bare →
      Ran.Agrees kinds DeviceScope.bare (act ⟨device, layer.shared⟩) (also ⟨found, other.shared⟩)) :
    Ran.Agrees kinds bare (onDevice id act layer) (onDevice id also other) := by
  have looked : (layer.device id).map ProfiledDevice.bare = (other.device id).map ProfiledDevice.bare := by
    rw [← device_bare, ← device_bare, same]
  have kept : layer.bare = other.bare := same
  obtain ⟨config, entryPoints, shared, devices⟩ := Layer.mk.inj kept
  rw [onDevice, onDevice, get_bind, get_bind]
  cases here : layer.device id with
  | error error =>
    cases there : other.device id with
    | ok _ =>
      rw [here, there] at looked
      cases looked
    | error reason =>
      rw [here, there] at looked
      cases looked
      exact agrees_through (through_pure _) same
  | ok device =>
    cases there : other.device id with
    | error _ =>
      rw [here, there] at looked
      cases looked
    | ok found =>
      rw [here, there] at looked
      have alike : device.bare = found.bare := Except.ok.inj looked
      have seen : (DeviceScope.mk device layer.shared).bare = (DeviceScope.mk found other.shared).bare := by
        simp only [DeviceScope.bare, alike, shared]
      refine agrees_on (within device found here there seen) fun s t ended => ?_
      have moved : s.device.bare = t.device.bare := congrArg DeviceScope.device ended
      simp only [bare, scopePart, config, entryPoints, Arena.set_viewed devices id moved, Layer.mk.injEq, true_and]
      have sent : s.bare.shared = t.bare.shared := congrArg DeviceScope.shared ended
      exact ⟨sent, trivial⟩

theorem agrees_create_device (driver : Driver) (backend : Backend) :
    Ran.Agrees kinds bare (createDevice driver backend layer) (createDevice driver backend other) := by
  have config : layer.bare.config = other.bare.config := congrArg Layer.config same
  have activated : Through bare (Act.on sharedPart (ProfiledDevice.activate driver backend other.config)) :=
    through_aside (fun _ => rfl) fun _ _ => rfl
  rw [createDevice, get_bind, get_bind, show layer.config = other.config from config]
  refine agrees_bind (agrees_through activated same) fun device u v seen => ?_
  obtain ⟨config, entryPoints, shared, devices⟩ := Layer.mk.inj seen
  obtain ⟨given, kept⟩ := Arena.insert_viewed devices (rfl : device.bare = device.bare)
  rw [get_bind, get_bind]
  rcases here : u.devices.insert device with ⟨id, held⟩
  rcases there : v.devices.insert device with ⟨also, left⟩
  rw [here, there] at given kept
  dsimp only at given kept
  subst given
  have replaced : bare { u with devices := held } = bare { v with devices := left } := by
    simp only [bare, config, entryPoints, shared, kept]
  exact agrees_bind (agrees_set replaced u v) fun _ _ _ seen => agrees_through (through_pure _) seen

theorem agrees_destroy_device (id : DeviceId) :
    Ran.Agrees kinds bare (destroyDevice id layer) (destroyDevice id other) := by
  obtain ⟨config, entryPoints, shared, devices⟩ := Layer.mk.inj same
  obtain ⟨taken, kept⟩ := Arena.remove_viewed devices id
  rw [destroyDevice, get_bind, get_bind]
  rcases here : layer.devices.remove id with ⟨_ | device, held⟩ <;>
    rcases there : other.devices.remove id with ⟨_ | found, left⟩ <;> rw [here, there] at taken kept
  · exact agrees_through (through_pure _) same
  · cases taken
  · cases taken
  · have alike : device.bare = found.bare := Option.some.inj taken
    have cycles : device.trapCycles = found.trapCycles := congrArg (fun device => device.trapCycles) alike
    have driver : device.driver = found.driver := congrArg (fun device => device.driver) alike
    have destroyed : device.destroyTrap = found.destroyTrap := congrArg (fun device => device.destroyTrap) alike
    have replaced : bare { layer with devices := held } = bare { other with devices := left } := by
      simp only [bare, config, entryPoints, shared, kept]
    refine agrees_bind (agrees_set replaced _ _) fun _ u v seen => ?_
    rw [cycles, driver, destroyed]
    exact agrees_through (through_bind (through_emit _) fun _ => through_bind (through_apart _ _) fun _ => through_pure _) seen

theorem agrees_within {α : Type} (id : DeviceId) (answer : α → LayerReply) {act : Act DeviceScope (Except Error α)}
    (through : Through DeviceScope.bare act) :
    Ran.Agrees kinds bare ((do return LayerReply.ofAnswer answer (← onDevice id act) : Act Layer LayerReply) layer)
      ((do return LayerReply.ofAnswer answer (← onDevice id act) : Act Layer LayerReply) other) :=
  agrees_bind (agrees_on_device same id fun _ _ _ _ seen => agrees_through through seen) fun _ _ _ seen =>
    agrees_through (through_pure _) seen

theorem agrees_perform (call : LayerCall) (unsubmitted : ∀ queue submissions, call ≠ .submit queue submissions) :
    Ran.Agrees kinds bare (perform call layer) (perform call other) := by
  cases call with
  | createDevice driver backend =>
    exact agrees_bind (agrees_create_device same driver backend) fun _ _ _ seen => agrees_through (through_pure _) seen
  | destroyDevice id =>
    exact agrees_bind (agrees_destroy_device same id) fun _ _ _ seen => agrees_through (through_pure _) seen
  | getQueue id family index =>
    exact agrees_within same id _ (through_bind (DeviceScope.through_get_queue family index) fun _ => through_pure _)
  | allocate id level =>
    exact agrees_within same id _ (through_bind (DeviceScope.through_allocate level) fun _ => through_pure _)
  | free buffer => exact agrees_within same _ _ (DeviceScope.through_free buffer.buffer)
  | beginBuffer buffer => exact agrees_within same _ _ (DeviceScope.through_update_then_call _ _ _)
  | endBuffer buffer => exact agrees_within same _ _ (DeviceScope.through_update_then_call _ _ _)
  | resetBuffer buffer => exact agrees_within same _ _ (DeviceScope.through_update_then_call _ _ _)
  | command buffer recorded => exact agrees_within same _ _ (DeviceScope.through_command _ _)
  | execute buffer secondaries =>
    refine agrees_within same _ _ ?_
    split
    · exact through_pure _
    · exact DeviceScope.through_execute _ _
  | submit queue submissions => exact absurd rfl (unsubmitted queue submissions)
  | present queue =>
    refine agrees_within same _ _ (through_from fun s => ?_)
    have found : s.bare.device.registry.queue queue.queue = (s.device.registry.queue queue.queue).map Queue.bare :=
      Registry.queue_bare _ _
    rw [found]
    cases s.device.registry.queue queue.queue with
    | error error => rfl
    | ok tracked => exact DeviceScope.through_present tracked.raw s
  | frameIndex id => exact agrees_look_device same id .number fun _ => rfl
  | framePhase id => exact agrees_look_device same id .phase fun _ => rfl
  | isCapturing id => exact agrees_look_device same id .flag fun _ => rfl
  | trapCycles id => exact agrees_look_device same id .number fun _ => rfl
  | rawBuffer buffer =>
    refine agrees_look same (fun layer => .ofAnswer .number (layer.rawBuffer buffer)) ?_
    rw [rawBuffer, rawBuffer, recorder_bare same buffer]
  | recordedWorkloads buffer =>
    refine agrees_look same (fun layer => .ofAnswer .number (layer.recordedWorkloads buffer)) ?_
    rw [recordedWorkloads, recordedWorkloads, recorder_bare same buffer]
  | deviceCount =>
    have size : layer.bare.devices.size = other.bare.devices.size := by rw [same]
    exact agrees_look same (fun layer => .number layer.devices.size) (congrArg LayerReply.number size)

theorem agrees_submit_under (queue : QueueId) (submissions : List Submission)
    (fits : (other.submittedStream (.submit queue submissions)).Fits) :
    Ran.Agrees strands bare (submitUnder eager queue submissions layer)
      (submitUnder ProfiledDevice.needsReplay queue submissions other) := by
  refine agrees_on_device same queue.device fun device found here there seen => ?_
  have registries : device.registry.bare = found.registry.bare := congrArg (fun s => s.device.registry) seen
  have looked : (device.registry.queue queue.queue).map Queue.bare = (found.registry.queue queue.queue).map Queue.bare := by
    rw [← Registry.queue_bare, ← Registry.queue_bare, registries]
  have resolved : Submission.resolve queue.device device.registry submissions =
      Submission.resolve queue.device found.registry submissions := by
    rw [← Submission.resolve_bare, registries, Submission.resolve_bare]
  rw [get_bind, get_bind]
  dsimp only
  rw [← resolved]
  cases first : device.registry.queue queue.queue with
  | error error =>
    cases second : found.registry.queue queue.queue with
    | ok _ =>
      rw [first, second] at looked
      cases looked
    | error reason =>
      rw [first, second] at looked
      cases looked
      exact agrees_through (through_pure _) seen
  | ok tracked =>
    cases second : found.registry.queue queue.queue with
    | error _ =>
      rw [first, second] at looked
      cases looked
    | ok also =>
      rw [first, second] at looked
      have kept : (Except.ok tracked.bare : Except Error Queue) = .ok also.bare := looked
      have raw : tracked.bare.raw = also.bare.raw := congrArg Queue.raw (Except.ok.inj kept)
      dsimp only
      cases accepted : Submission.resolve queue.device device.registry submissions with
      | error error => exact agrees_through (through_pure _) seen
      | ok both =>
        obtain ⟨batches, buffers⟩ := both
        dsimp only
        rw [show tracked.raw = also.raw from raw]
        have live : ∀ handle ∈ buffers, ∃ recorder, device.registry.buffers.get? handle = some recorder := by
          obtain ⟨handles, _, all⟩ := Submission.resolve_ok accepted
          intro handle member
          rw [handles] at member
          obtain ⟨buffer, listed, rfl⟩ := List.mem_map.mp member
          exact (all buffer listed).2
        have accepts : device.registry.Accepts queue.queue buffers := by
          refine ⟨⟨tracked, first⟩, live, ?_⟩
          have streams : device.registry.bare.streamOf = found.registry.bare.streamOf := congrArg Registry.streamOf registries
          rw [show device.registry.streamOf = found.registry.streamOf from streams]
          simpa only [submittedStream, there, ← resolved, accepted] using fits
        exact DeviceScope.agrees_submit seen accepts

end Same

theorem agrees_perform_under (call : LayerCall) (same : layer.bare = other.bare) (fits : (layer.submittedStream call).Fits) :
    Ran.Agrees strands bare (perform call layer) (performUnder eager call other) := by
  cases call with
  | submit queue submissions =>
    exact agrees_bind (Ran.agrees_symm (agrees_submit_under same.symm queue submissions fits)) fun _ _ _ seen =>
      agrees_through (through_pure _) seen
  | _ => exact agrees_perform same _ fun _ _ => by simp

-- The induction is on the calls. The layers stay the same but for what their queues remember.
theorem agrees_perform_all (calls : List LayerCall) (same : layer.bare = other.bare) (fits : layer.Addable calls) :
    Ran.Agrees strands bare (performAll calls layer) (performAllUnder eager calls other) := by
  induction calls generalizing layer other with
  | nil => exact agrees_through (through_pure []) same
  | cons call rest ih =>
    have here := agrees_perform_under call same (fits (layer, call) List.mem_cons_self)
    have reached : Ends (perform call) layer
        (fun _ reply next => (perform call layer).outcome = .ok (reply, next)) (fun _ _ => True) :=
      ends_mono (ends_self _ _) (fun _ _ _ ran => by rw [ran]) fun _ _ _ => trivial
    refine agrees_then here reached fun reply next after ran seen => ?_
    have onward : next.Addable rest := by
      intro made member
      apply fits
      rw [attempts, ran]
      exact List.mem_cons_of_mem _ member
    exact agrees_bind (ih seen onward) fun _ _ _ ended => agrees_through (through_pure _) ended

-- Two runs of the same calls. Drivers, counters and whoever gets the messages see the same, and so
-- does the application.
structure Indistinct (ran other : Ran Layer (List LayerReply)) : Prop where
  drivers : ran.events.filter ofDriver = other.events.filter ofDriver
  counters : ran.events.filter ofBackend = other.events.filter ofBackend
  messages : ran.events.filter isMessage = other.events.filter isMessage
  halted : ∀ reason, ran.outcome = .error reason ↔ other.outcome = .error reason
  ended : ∀ replies next, ran.outcome = .ok (replies, next) →
    ∃ after, other.outcome = .ok (replies, after) ∧ ∀ id, after.trapCycles id = next.trapCycles id

theorem indistinct_agrees {ran other : Ran Layer (List LayerReply)} (agrees : Ran.Agrees strands bare ran other) :
    Indistinct ran other := by
  refine ⟨agrees.shown _ (by simp [strands]), agrees.shown _ (by simp [strands]), agrees.shown _ (by simp [strands]), ?_, ?_⟩
  · intro reason
    obtain ⟨halt, here, there⟩ | ⟨_, _, _, here, there, _⟩ := Ran.agrees_cases agrees
    · rw [here, there]
    · rw [here, there]
      exact iff_of_false (by simp) (by simp)
  · intro replies next ended
    obtain ⟨_, here, _⟩ | ⟨_, _, after, here, there, same⟩ := Ran.agrees_cases agrees
    · rw [here] at ended
      cases ended
    · rw [here] at ended
      cases ended
      exact ⟨after, there, fun id => (seen_in_device same id fun _ => rfl).symm⟩

/-- A replay runs one whole cycle of the trap for each record that the device stops after, in order,
and tells one message of each, except of a part whose pass is not known; where there is no such
record it does nothing. So in a run in which all that a profiling device takes is replayed, drivers,
counters and messages are the same as where only those submissions are in which the device stops. -/
theorem skipped_replays_go_unnoticed :
    (∀ (registry : Registry) (queue : QueueHandle) (buffers : List BufferHandle),
      registry.Accepts queue buffers → ∃ visits, registry.Replays queue buffers visits) ∧
    ∀ (layer : Layer) (calls : List LayerCall), layer.Addable calls →
      Indistinct (performAll calls layer) (performAllUnder eager calls layer) :=
  ⟨fun _ _ _ accepts => Registry.replays_accepted accepts,
    fun _ calls addable => indistinct_agrees (agrees_perform_all calls rfl addable)⟩

-- A pass that is suspended in one submission and carried on in the next.
def carriedCalls : List LayerCall := [
  .createDevice (.new "gpu" [] [] false) .empty,
  .getQueue ⟨0, 0⟩ 0 0,
  .allocate ⟨0, 0⟩ .primary,
  .allocate ⟨0, 0⟩ .primary,
  .command ⟨⟨0, 0⟩, ⟨0, 0⟩⟩ (.beginRenderPass ⟨4, 4, 1, ⟨true, false⟩⟩),
  .command ⟨⟨0, 0⟩, ⟨0, 0⟩⟩ .endRenderPass,
  .command ⟨⟨0, 0⟩, ⟨1, 0⟩⟩ (.beginRenderPass ⟨4, 4, 1, ⟨false, true⟩⟩),
  .command ⟨⟨0, 0⟩, ⟨1, 0⟩⟩ .endRenderPass,
  .command ⟨⟨0, 0⟩, ⟨1, 0⟩⟩ (.dispatch 1 1 1),
  .submit ⟨⟨0, 0⟩, ⟨0, 0⟩⟩ [⟨[⟨⟨0, 0⟩, ⟨0, 0⟩⟩], true⟩],
  .submit ⟨⟨0, 0⟩, ⟨0, 0⟩⟩ [⟨[⟨⟨0, 0⟩, ⟨1, 0⟩⟩], false⟩],
  .trapCycles ⟨0, 0⟩]

def profiledLayer : Layer := fresh (Config.default.withFrameList [0]) ⟨[], 0⟩

theorem carried_pass_replayed_either_way :
    (Registry.holding [.carriedOn, .concluded]).Accepts ⟨0, 0⟩ [⟨0, 0⟩] ∧
      (Registry.holding [.carriedOn, .concluded]).hasTraps [⟨0, 0⟩] = false ∧
      (∃ visits, (Registry.holding [.carriedOn, .concluded]).Replays ⟨0, 0⟩ [⟨0, 0⟩] visits) ∧
      profiledLayer.Addable carriedCalls ∧
      ((performAll carriedCalls profiledLayer).outcome.map fun done => done.1.getLast?) = .ok (some (.number 2)) ∧
      (performAll carriedCalls profiledLayer).events ≠ (performAllUnder eager carriedCalls profiledLayer).events ∧
      Indistinct (performAll carriedCalls profiledLayer) (performAllUnder eager carriedCalls profiledLayer) := by
  have accepts : (Registry.holding [.carriedOn, .concluded]).Accepts ⟨0, 0⟩ [⟨0, 0⟩] := by
    refine ⟨⟨_, rfl⟩, ?_, Stream.fits_draws (by decide +kernel)⟩
    intro handle member
    rw [List.mem_singleton.mp member]
    exact ⟨.carriedOn, rfl⟩
  have few : ∀ made ∈ profiledLayer.attempts carriedCalls, (made.1.submittedStream made.2).draws < Word.bound := by
    decide +kernel
  have addable : profiledLayer.Addable carriedCalls := fun made member => Stream.fits_draws (few made member)
  exact ⟨accepts, by decide +kernel, skipped_replays_go_unnoticed.1 _ _ _ accepts, addable, by decide +kernel,
    by decide +kernel, skipped_replays_go_unnoticed.2 profiledLayer carriedCalls addable⟩

end Layer

end GpuProfiler
