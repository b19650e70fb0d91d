import GpuProfiler.Layer.Call
import GpuProfiler.Proofs.Device.Frames
import GpuProfiler.Proofs.Registry
import GpuProfiler.Proofs.Timeline

set_option autoImplicit false

namespace GpuProfiler

namespace LayerCall

def target? : LayerCall → Option BufferId
  | .free buffer | .beginBuffer buffer | .endBuffer buffer | .resetBuffer buffer => some buffer
  | .command buffer _ | .execute buffer _ => some buffer
  | _ => none

def driver? : LayerCall → Option Driver
  | .createDevice driver _ => some driver
  | _ => none

def restarts? : LayerCall → Option BufferId
  | .beginBuffer buffer | .resetBuffer buffer => some buffer
  | _ => none

theorem restarts_target {call : LayerCall} {buffer : BufferId} (restarts : call.restarts? = some buffer) :
    call.target? = some buffer := by
  cases call <;> first | exact restarts | cases restarts

end LayerCall

namespace ProfiledDevice

-- The events of the device's traps; without a trap they are not used.
def events (device : ProfiledDevice) : TrapEvents := device.trapEvents.getD ⟨0, 1⟩

-- What all calls but submissions leave alone.
structure Rests (device next : ProfiledDevice) : Prop where
  trap : next.trap = device.trap
  driver : Driver.Rests device.driver next.driver

structure SameBuffers (device next : ProfiledDevice) : Prop where
  buffers : next.registry.buffers = device.registry.buffers
  lookup : next.registry.bufferLookup = device.registry.bufferLookup
  contents : ∀ raw, next.driver.contents raw = device.driver.contents raw

def handedOut? (device : ProfiledDevice) (level : BufferLevel) : Option RawBuffer :=
  match (Driver.allocateCommandBuffer level device.driver).outcome with
  | .ok (.ok raw, _) => some raw
  | _ => none

inductive Move (id : DeviceId) (device : ProfiledDevice) :
    LayerCall → List Event → LayerReply → ProfiledDevice → Prop
  | passed (call : LayerCall) (shown : List Event) (reply : LayerReply) (next : ProfiledDevice)
      (untargeted : call.target? = none) (quiet : Quiet shown) (rests : Rests device next)
      (same : SameBuffers device next) : Move id device call shown reply next
  | missed (call : LayerCall) (handle : BufferHandle) (reply : LayerReply)
      (target : call.target? = some ⟨id, handle⟩) (stale : device.registry.buffers.get? handle = none) :
      Move id device call [] reply device
  | refused (primary : BufferHandle) (secondaries : List BufferId) (error : Error) :
      Move id device (.execute ⟨id, primary⟩ secondaries) [] (.failed error) device
  | allocated (level : BufferLevel) (shown : List Event) (raw : RawBuffer) (handle : BufferHandle)
      (next : ProfiledDevice) (quiet : Quiet shown) (rests : Rests device next)
      (handed : device.handedOut? level = some raw) (empty : next.driver.contents raw = [])
      (contents : ∀ other, other ≠ raw → next.driver.contents other = device.driver.contents other)
      (lookup : next.registry.bufferLookup = device.registry.bufferLookup.insert raw handle)
      (live : ∀ other recorder, next.registry.buffers.get? other = some recorder →
        (device.registry.buffers.get? other = some recorder ∧ device.registry.findBuffer raw ≠ some other) ∨
          (device.registry.buffers.get? other = none ∧ other = handle ∧ recorder = .new raw level)) :
      Move id device (.allocate id level) shown (.buffer ⟨id, handle⟩) next
  | freed (handle : BufferHandle) (recorder : Recorder) (shown : List Event) (next : ProfiledDevice)
      (quiet : Quiet shown) (rests : Rests device next)
      (live : device.registry.buffers.get? handle = some recorder)
      (empty : next.driver.contents recorder.raw = [])
      (contents : ∀ other, other ≠ recorder.raw → next.driver.contents other = device.driver.contents other)
      (removed : next.registry.buffers = (device.registry.buffers.remove handle).2)
      (lookup : next.registry.bufferLookup = device.registry.bufferLookup.erase recorder.raw) :
      Move id device (.free ⟨id, handle⟩) shown .done next
  | restarted (call : LayerCall) (handle : BufferHandle) (recorder afresh : Recorder) (shown : List Event)
      (reply : LayerReply) (next : ProfiledDevice) (restarts : call.restarts? = some ⟨id, handle⟩)
      (quiet : Quiet shown) (rests : Rests device next)
      (live : device.registry.buffers.get? handle = some recorder)
      (raw : afresh.raw = recorder.raw) (stream : afresh.stream = []) (closed : afresh.active = none)
      (registry : next.registry = device.registry.setBuffer handle afresh)
      (contents : ∀ other, other ≠ recorder.raw → next.driver.contents other = device.driver.contents other)
      (answered : next.driver.contents recorder.raw = [] ∨
        ∃ fault ∈ device.driver.faults, fault.method = .beginCommandBuffer ∨ fault.method = .resetCommandBuffer) :
      Move id device call shown reply next
  | finished (handle : BufferHandle) (recorder : Recorder) (shown : List Event) (reply : LayerReply)
      (next : ProfiledDevice) (quiet : Quiet shown) (rests : Rests device next)
      (live : device.registry.buffers.get? handle = some recorder)
      (registry : next.registry = device.registry.setBuffer handle recorder.finish)
      (contents : ∀ raw, next.driver.contents raw = device.driver.contents raw) :
      Move id device (.endBuffer ⟨id, handle⟩) shown reply next
  | recorded (handle : BufferHandle) (recorder following : Recorder) (command : Command) (stops : Bool)
      (tags used : TagSource) (notes shown : List Event) (next : ProfiledDevice) (rests : Rests device next)
      (live : device.registry.buffers.get? handle = some recorder)
      (ran : Recording.command command device.captureMode ⟨recorder, tags⟩ = ⟨notes, .ok (stops, ⟨following, used⟩)⟩)
      (registry : next.registry = device.registry.setBuffer handle following)
      (driver : Driver.Recorded device.driver recorder.raw
        ((Timeline.ops device.events (Timeline.ofCommand command stops)).map .device) next.driver)
      (calls : Event.trapCalls shown = if stops then device.events.calls recorder.raw else [])
      (steps : Event.steps shown = []) :
      Move id device (.command ⟨id, handle⟩ command) shown .done next
  | executed (primary : BufferHandle) (secondaries : List BufferId) (recorder : Recorder) (shown : List Event)
      (next : ProfiledDevice) (quiet : Quiet shown) (rests : Rests device next)
      (live : device.registry.buffers.get? primary = some recorder)
      (own : ∀ secondary ∈ secondaries, secondary.device = id ∧
        ∃ found, device.registry.buffers.get? secondary.buffer = some found)
      (registry : next.registry = device.registry.setBuffer primary
        (recorder.append (secondaries.flatMap fun secondary => device.registry.streamOf secondary.buffer)))
      (driver : Driver.Recorded device.driver recorder.raw
        [.execute (secondaries.map fun secondary => device.registry.rawOf secondary.buffer)] next.driver) :
      Move id device (.execute ⟨id, primary⟩ secondaries) shown .done next
  | submitted (queue : QueueHandle) (submissions : List Submission) (shown : List Event) (reply : LayerReply)
      (next : ProfiledDevice) (calls : Event.trapCalls shown = [])
      (events : next.trapEvents = device.trapEvents) (same : SameBuffers device next) :
      Move id device (.submit ⟨id, queue⟩ submissions) shown reply next

theorem move_still {id : DeviceId} {device next : ProfiledDevice} {call : LayerCall} {shown : List Event}
    {reply : LayerReply} (move : device.Move id call shown reply next)
    (other : ∀ queue submissions, call ≠ .submit queue submissions) :
    Event.steps shown = [] ∧ next.trap = device.trap := by
  cases move with
  | passed _ _ _ _ _ quiet rests _ => exact ⟨quiet_steps quiet, rests.trap⟩
  | missed _ _ _ _ _ => exact ⟨rfl, rfl⟩
  | refused _ _ _ => exact ⟨rfl, rfl⟩
  | allocated _ _ _ _ _ quiet rests _ _ _ _ _ => exact ⟨quiet_steps quiet, rests.trap⟩
  | freed _ _ _ _ quiet rests _ _ _ _ _ => exact ⟨quiet_steps quiet, rests.trap⟩
  | restarted _ _ _ _ _ _ _ _ quiet rests _ _ _ _ _ _ _ => exact ⟨quiet_steps quiet, rests.trap⟩
  | finished _ _ _ _ _ quiet rests _ _ _ => exact ⟨quiet_steps quiet, rests.trap⟩
  | recorded _ _ _ _ _ _ _ _ _ _ rests _ _ _ _ _ steps => exact ⟨steps, rests.trap⟩
  | executed _ _ _ _ _ quiet rests _ _ _ _ => exact ⟨quiet_steps quiet, rests.trap⟩
  | submitted queue submissions _ _ _ _ _ _ => exact absurd rfl (other ⟨id, queue⟩ submissions)

theorem rests_aside {s next : DeviceScope} (aside : DeviceScope.Aside s next) : Rests s.device next.device := by
  refine ⟨aside.trap, ?_⟩
  rw [aside.driver]
  exact Driver.rests_frame rfl

theorem same_aside {s next : DeviceScope} (aside : DeviceScope.Aside s next) : SameBuffers s.device next.device :=
  ⟨by rw [aside.registry], by rw [aside.registry], fun raw => by rw [Driver.contents, aside.driver]; rfl⟩

theorem same_trans {device middle next : ProfiledDevice} (first : SameBuffers device middle)
    (second : SameBuffers middle next) : SameBuffers device next :=
  ⟨second.buffers.trans first.buffers, second.lookup.trans first.lookup,
    fun raw => (second.contents raw).trans (first.contents raw)⟩

theorem profiling_rests {device next : ProfiledDevice} (rests : Rests device next) :
    next.isProfiling = device.isProfiling := by
  rw [isProfiling, isProfiling, rests.trap]

theorem sound_same {device next : ProfiledDevice} (same : SameBuffers device next)
    (profiling : next.isProfiling = device.isProfiling) (sound : device.registry.Sound device.isProfiling) :
    next.registry.Sound next.isProfiling := by
  rw [profiling]
  exact ⟨by rw [same.buffers]; exact sound.buffers, by rw [same.buffers]; exact sound.recorders⟩

theorem captures_profiling (device : ProfiledDevice) (captures : device.captureMode.captures = true) :
    device.isProfiling = true := by
  unfold captureMode ProfiledDevice.captures at captures
  cases profiling : device.isProfiling with
  | true => rfl
  | false => simp [profiling, CaptureMode.captures] at captures

theorem follows_of_ran {recorder following : Recorder} {tags used : TagSource} {device : ProfiledDevice}
    {command : Command} {notes : List Event} {stops : Bool}
    (sound : recorder.Sound device.isProfiling)
    (ran : Recording.command command device.captureMode ⟨recorder, tags⟩ = ⟨notes, .ok (stops, ⟨following, used⟩)⟩) :
    Recording.Follows ⟨recorder, tags⟩ command device.isProfiling stops ⟨following, used⟩ :=
  (Act.ends_of_ok (Recording.ends_command sound command device.captures_profiling) ran).2

theorem recorded_rests {device next : ProfiledDevice} {raw : RawBuffer} {ops : List BufferOp}
    (recorded : Driver.Recorded device.driver raw ops next.driver) (trap : next.trap = device.trap) :
    Rests device next := ⟨trap, Driver.rests_frame recorded.frame⟩

end ProfiledDevice

namespace DeviceScope

open ProfiledDevice

def Moved {α : Type} (id : DeviceId) (call : LayerCall) (reply : α → LayerReply) (s : DeviceScope)
    (shown : List Event) (answer : Except Error α) (next : DeviceScope) : Prop :=
  s.device.Move id call shown (.ofAnswer reply answer) next.device ∧
    next.device.registry.Sound next.device.isProfiling

-- Only a device with something left to do blocks a call that is no submission.
def Blocks (s : DeviceScope) (_ : List Event) (reason : Halt) : Prop :=
  reason = .blocked → s.device.driver.timeline ≠ []

theorem ends_emit_trap (next : DeviceScope) (stops : Bool) (device : ProfiledDevice) (raw : RawBuffer)
    (decided : stops = true → device.isProfiling = true) :
    Act.Ends (emitTrap stops device.trapEvents raw) next
      (fun shown _ last => ∃ driver, last = { next with device := { next.device with driver := driver } } ∧
        Driver.Recorded next.device.driver raw
          ((Timeline.ops device.events (if stops then [.trap] else [])).map .device) driver ∧
        Event.trapCalls shown = (if stops then device.events.calls raw else []) ∧ Event.steps shown = [])
      (fun _ _ => False) := by
  cases stops with
  | false => exact ⟨next.device.driver, rfl, Driver.recorded_nil _ raw, rfl, rfl⟩
  | true =>
    obtain ⟨trap, held⟩ := Option.isSome_iff_exists.mp (decided rfl)
    have events : device.trapEvents = some device.events := by
      simp only [ProfiledDevice.events, trapEvents, held, Option.map_some, Option.getD_some]
    rw [events]
    simp only [emitTrap, Act.ends_on]
    refine Act.ends_mono (TrapEvents.ends_emit device.events raw _) ?_ (fun _ _ never => never)
    rintro shown _ driver ⟨⟨calls, steps⟩, recorded⟩
    have here : Driver.Recorded next.device.driver raw _ driver := recorded
    exact ⟨driver, rfl, by simpa [TimelineItem.ops] using here, calls, steps⟩

variable {s : DeviceScope} (sound : s.device.registry.Sound s.device.isProfiling) (id : DeviceId)

include sound

theorem moves_get_queue (family index : UInt32) :
    Act.Ends (do return .ok ⟨id, ← DeviceScope.getQueue family index⟩) s
      (Moved id (.getQueue id family index) .queue s) (Blocks s) := by
  simp only [DeviceScope.getQueue, Driver.getDeviceQueue, Act.ends_bind, Act.ends_on, Driver.ends_do_call,
    Act.ends_pure]
  refine Act.ends_mono (Registry.ends_register_queue _ family index _) ?_ (fun _ _ never => never.elim)
  rintro shown handle next ⟨notes, buffers, lookup⟩
  have same : SameBuffers s.device { s.device with driver := s.device.driver.counted .getDeviceQueue, registry := next } :=
    ⟨buffers, lookup, fun _ => rfl⟩
  refine ⟨.passed _ _ _ _ rfl ?_ ⟨rfl, Driver.rests_frame rfl⟩ same, sound_same same rfl sound⟩
  simp [quiet_notes notes, Driver.callEvent, Event.stirs]

theorem moves_present (queue : QueueHandle) :
    Act.Ends
      (do match (← Act.get).device.registry.queue queue with
          | .error error => pure (.error error)
          | .ok tracked => DeviceScope.present tracked.raw) s
      (Moved id (.present ⟨id, queue⟩) (fun _ => .done) s) (Blocks s) := by
  simp only [Act.ends_bind, Act.ends_get]
  cases s.device.registry.queue queue with
  | error error =>
    exact ⟨.passed _ _ _ _ rfl quiet_nil ⟨rfl, Driver.rests_frame rfl⟩ ⟨rfl, rfl, fun _ => rfl⟩, sound⟩
  | ok tracked =>
    refine Act.ends_mono (ends_present s tracked.raw) ?_ (fun _ _ busy _ => busy)
    rintro shown answer next ⟨quiet, aside⟩
    have rests := rests_aside aside
    exact ⟨.passed _ _ _ _ rfl quiet rests (same_aside aside),
      sound_same (same_aside aside) (profiling_rests rests) sound⟩

theorem moves_allocate (level : BufferLevel) :
    Act.Ends (do return (← DeviceScope.allocate level).map fun buffer => ⟨id, buffer⟩) s
      (Moved id (.allocate id level) .buffer s) (Blocks s) := by
  simp only [DeviceScope.allocate, Act.ends_bind, Act.ends_on]
  have handed := Act.ends_self (Driver.allocateCommandBuffer level) s.device.driver
  refine Act.ends_mono (Act.ends_and handed (Driver.ends_allocate level s.device.driver)) ?_
    (fun _ _ never => never.2.elim)
  rintro shown answer driver ⟨ran, quiet, rests, outcome⟩
  cases answer with
  | error error =>
    have same : SameBuffers s.device { s.device with driver := driver } := ⟨rfl, rfl, outcome⟩
    exact ⟨.passed _ _ _ _ rfl (by simpa using quiet) ⟨rfl, rests⟩ same, sound_same same rfl sound⟩
  | ok raw =>
    simp only [Act.ends_bind, Act.ends_on, Act.ends_pure]
    refine Act.ends_mono (Registry.ends_allocate sound raw level) ?_ (fun _ _ never => never.elim)
    rintro later handle next ⟨notes, kept, lookup, live⟩
    refine ⟨.allocated level _ raw handle _ ?_ ⟨rfl, rests⟩ (by rw [handedOut?, ran]) outcome.1 outcome.2 lookup live, kept⟩
    simp [quiet, quiet_notes notes]

theorem moves_free (handle : BufferHandle) :
    Act.Ends (DeviceScope.free handle) s (Moved id (.free ⟨id, handle⟩) (fun _ => .done) s) (Blocks s) := by
  simp only [DeviceScope.free, Act.ends_bind, Act.ends_on]
  refine Act.ends_mono (Registry.ends_free sound handle) ?_ (fun _ _ never => never.elim)
  rintro shown answer next ⟨rfl, kept, outcome⟩
  cases answer with
  | error error =>
    obtain ⟨rfl, stale⟩ := outcome
    exact ⟨.missed _ handle _ rfl stale, sound⟩
  | ok recorder =>
    obtain ⟨live, removed, lookup⟩ := outcome
    simp only [Act.ends_bind, Act.ends_on, Act.ends_pure]
    refine Act.ends_mono (Driver.ends_free recorder.raw _) ?_ (fun _ _ never => never.elim)
    rintro later _ driver ⟨quiet, rests, empty, contents⟩
    exact ⟨.freed handle recorder _ _ (by simpa using quiet) ⟨rfl, rests⟩ live empty contents removed lookup, kept⟩

theorem moves_restart (call : LayerCall) (handle : BufferHandle) (change : Recorder → Recorder)
    (driverCall : RawBuffer → DriverCall) (restarts : call.restarts? = some ⟨id, handle⟩)
    (still : ∀ raw, (Driver.callEvent (driverCall raw) s.device.driver).stirs = false)
    (method : ∀ raw, (driverCall raw).method = .beginCommandBuffer ∨ (driverCall raw).method = .resetCommandBuffer)
    (afresh : ∀ recorder, (change recorder).raw = recorder.raw ∧ (change recorder).stream = [] ∧
      (change recorder).active = none ∧ (change recorder).Sound s.device.isProfiling) :
    Act.Ends
      (DeviceScope.updateThenCall handle change fun raw =>
        Driver.tryCall (driverCall raw) (Act.modify (·.setContents raw []))) s
      (Moved id call (fun _ => .done) s) (Blocks s) := by
  simp only [DeviceScope.updateThenCall, Act.ends_bind, Act.ends_on, Tracking.ends_with_buffer, Recording.update,
    Act.ends_modify]
  cases live : s.device.registry.buffers.get? handle with
  | none =>
    have stale : (trackingPart.get s).registry.buffers.get? handle = none := live
    simp only [stale]
    exact ⟨.missed _ handle _ (LayerCall.restarts_target restarts) live, sound⟩
  | some recorder =>
    have here : (trackingPart.get s).registry.buffers.get? handle = some recorder := live
    obtain ⟨raw, stream, closed, kept⟩ := afresh recorder
    simp only [here]
    refine Act.ends_mono (Driver.ends_clear _ recorder.raw _ (still recorder.raw)) ?_ (fun _ _ never => never.elim)
    rintro shown answer driver ⟨quiet, rests, contents, answered⟩
    refine ⟨.restarted call handle recorder (change recorder) _ _ _ restarts (by simpa using quiet) ⟨rfl, rests⟩ live
      raw stream closed rfl contents ?_, Registry.sound_set_buffer sound handle kept⟩
    apply answered.imp_right
    rintro ⟨fault, member, same⟩
    exact ⟨fault, member, by rw [same]; exact method recorder.raw⟩

theorem moves_end (handle : BufferHandle) :
    Act.Ends (DeviceScope.updateThenCall handle Recorder.finish Driver.endCommandBuffer) s
      (Moved id (.endBuffer ⟨id, handle⟩) (fun _ => .done) s) (Blocks s) := by
  simp only [DeviceScope.updateThenCall, Act.ends_bind, Act.ends_on, Tracking.ends_with_buffer, Recording.update,
    Act.ends_modify]
  cases live : s.device.registry.buffers.get? handle with
  | none =>
    have stale : (trackingPart.get s).registry.buffers.get? handle = none := live
    simp only [stale]
    exact ⟨.missed _ handle _ rfl live, sound⟩
  | some recorder =>
    have here : (trackingPart.get s).registry.buffers.get? handle = some recorder := live
    simp only [here]
    refine Act.ends_mono (Driver.ends_end recorder.raw _) ?_ (fun _ _ never => never.elim)
    rintro shown answer driver ⟨quiet, rests, contents⟩
    exact ⟨.finished handle recorder _ _ _ (by simpa using quiet) ⟨rfl, rests⟩ live rfl contents,
      Registry.sound_set_buffer sound handle (Recorder.sound_finish (sound.recorders handle recorder live))⟩

theorem moves_command (handle : BufferHandle) (command : Command) :
    Act.Ends (DeviceScope.command handle command) s (Moved id (.command ⟨id, handle⟩ command) (fun _ => .done) s)
      (Blocks s) := by
  simp only [DeviceScope.command, Act.ends_bind, Act.ends_on, Act.ends_get, Tracking.ends_with_buffer]
  cases live : s.device.registry.buffers.get? handle with
  | none =>
    have stale : (trackingPart.get s).registry.buffers.get? handle = none := live
    simp only [stale]
    exact ⟨.missed _ handle _ rfl live, sound⟩
  | some recorder =>
    have here : (trackingPart.get s).registry.buffers.get? handle = some recorder := live
    simp only [here]
    have known := Recording.ends_command (s := ⟨recorder, s.shared.tags⟩) (sound.recorders handle recorder live) command
      (captures_profiling s.device)
    apply Act.ends_mono (Act.ends_and (Act.ends_self _ _) known)
    · rintro shown stops ⟨following, used⟩ ⟨ran, notes, follows⟩
      simp only [Act.ends_pure]
      refine Act.ends_mono (Driver.ends_command recorder.raw command _) ?_ (fun _ _ never => never.elim)
      rintro later _ driver ⟨quiet, first⟩
      refine Act.ends_mono (ends_emit_trap _ stops s.device recorder.raw follows.decided) ?_
        (fun _ _ never => never.elim)
      rintro last _ next ⟨final, rfl, second, calls, steps⟩
      have both : Driver.Recorded s.device.driver recorder.raw _ final := Driver.recorded_trans first second
      have silent := quiet_notes notes
      refine ⟨.recorded handle recorder following command stops s.shared.tags used shown _ _ ?_ live ran rfl ?_ ?_ ?_,
        Registry.sound_set_buffer sound handle follows.sound⟩
      · exact recorded_rests both rfl
      · simpa [Timeline.ofCommand] using both
      · simp [quiet_trap_calls silent, quiet_trap_calls quiet, calls]
      · simp [quiet_steps silent, quiet_steps quiet, steps]
    · rintro shown reason ⟨_, _, unblocked⟩ blocked
      exact absurd blocked unblocked

theorem moves_execute (primary : BufferHandle) (secondaries : List BufferId) :
    Act.Ends
      (if secondaries.any fun secondary => secondary.device != id then pure (.error .foreignHandle)
        else DeviceScope.execute primary (secondaries.map (·.buffer))) s
      (Moved id (.execute ⟨id, primary⟩ secondaries) (fun _ => .done) s) (Blocks s) := by
  by_cases foreign : (secondaries.any fun secondary => secondary.device != id) = true
  · rw [if_pos foreign]
    exact ⟨.refused primary secondaries _, sound⟩
  · rw [if_neg foreign]
    have own : ∀ secondary ∈ secondaries, secondary.device = id := by simpa using foreign
    simp only [DeviceScope.execute, Act.ends_bind, Act.ends_on]
    refine Act.ends_mono (Registry.ends_execute sound primary _) ?_ (fun _ _ never => never.elim)
    rintro shown answer next ⟨rfl, kept, outcome⟩
    cases answer with
    | error error =>
      obtain rfl : next = s.device.registry := outcome
      exact ⟨.refused primary secondaries error, sound⟩
    | ok _ =>
      obtain ⟨recorder, live, found, rfl⟩ := outcome
      generalize appended : recorder.append ((secondaries.map (·.buffer)).flatMap s.device.registry.streamOf) = next
        at kept ⊢
      have raw : next.raw = recorder.raw := by rw [← appended]; rfl
      have here : (s.device.registry.setBuffer primary next).buffers.get? primary = some next := by
        rw [Registry.get_set_buffer live next primary, if_pos rfl]
      have others : ∀ handle ∈ secondaries.map (·.buffer), ∃ held,
          (s.device.registry.setBuffer primary next).buffers.get? handle = some held := by
        intro handle member
        rw [Registry.get_set_buffer live next handle]
        split
        · exact ⟨next, rfl⟩
        · exact found handle member
      have raws : (secondaries.map (·.buffer)).map (s.device.registry.setBuffer primary next).rawOf =
          secondaries.map fun secondary => s.device.registry.rawOf secondary.buffer := by
        rw [List.map_map]
        apply List.map_congr_left
        intro secondary _
        exact Registry.raw_of_set_buffer live raw secondary.buffer
      simp only [Act.ends_bind, Act.ends_get, registryPart, Registry.buffer_some here, Registry.raws_some others,
        raws, raw, Act.ends_on, Act.ends_pure]
      refine Act.ends_mono (Driver.ends_execute_commands _ _ _) ?_ (fun _ _ never => never.elim)
      rintro later _ driver ⟨quiet, recorded⟩
      refine ⟨.executed primary secondaries recorder _ _ (by simpa using quiet) (recorded_rests recorded rfl) live ?_
        ?_ recorded, kept⟩
      · intro secondary member
        exact ⟨own secondary member, found secondary.buffer (List.mem_map_of_mem member)⟩
      · simp only [List.flatMap_map] at appended
        rw [appended]
        rfl

end DeviceScope

end GpuProfiler
