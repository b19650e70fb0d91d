import GpuProfiler.Proofs.Device.Silence
import GpuProfiler.Proofs.Frames.Diary

set_option autoImplicit false

namespace GpuProfiler

open Act Event

-- What is not shown for a device that is not profiled, or only its workloads not sampled.
def Event.isBarred (profiling : Bool) (event : Event) : Bool := event.isTrap || (!profiling && event.isProbe)

theorem Event.barred_extra (profiling : Bool) (event : Event) (barred : event.isBarred profiling = true) :
    event.isExtra = true := by
  cases profiling <;> simp_all [isBarred, isExtra]

theorem Event.barred_rare (event : Event) (barred : event.isBarred true = true) : event.isRare = true := by
  simp_all [isBarred, isRare]

theorem Event.trap_barred (profiling : Bool) (event : Event) (traps : event.isTrap = true) :
    event.isBarred profiling = true := by
  rw [isBarred, traps, Bool.true_or]

theorem Event.probe_barred (event : Event) (probes : event.isProbe = true) : event.isBarred false = true := by
  rw [isBarred, probes, Bool.not_false, Bool.true_and, Bool.or_true]

@[simp] theorem Event.barred_note (profiling : Bool) (noticed : Note) : isBarred profiling (.note noticed) = false := by
  cases profiling <;> rfl

namespace Recorder

variable {s : Recording} {mode : CaptureMode} {recorded : Command} {stops : Bool} {next : Recorder}

theorem stops_uncaptured (effect : Recording.Effect s mode recorded stops next) (off : mode.captures = false)
    (uncaptured : s.recorder.Uncaptured) : stops = false := by
  cases effect with
  | pushed | popped | begun | resumed | drawn | other => rfl
  | ended =>
    unfold endPass
    cases opened : s.recorder.active with
    | none => rfl
    | some pass =>
      show (!pass.suspending && pass.captured) = false
      rw [uncaptured.active pass opened, Bool.and_false]
  | worked _ workload =>
    unfold record
    rw [off]
    by_cases part : isPass workload = true
    · rw [if_pos part]
    · rw [if_neg part]
      rfl

theorem untracked_effect (effect : Recording.Effect s .off recorded stops next) (uncaptured : s.recorder.Uncaptured)
    (blank : s.recorder.stream = []) : next.stream = [] := by
  cases effect with
  | pushed | popped | other => exact blank
  | begun begun => simpa [beginPass, openPass, CaptureMode.captures] using blank
  | resumed begun =>
    unfold resumePass
    cases left : s.recorder.suspended with
    | none => simpa [openPass, CaptureMode.captures] using blank
    | some pass => simpa [openPass, uncaptured.suspended pass left] using blank
  | ended =>
    unfold endPass
    cases opened : s.recorder.active with
    | none => exact blank
    | some pass =>
      cases kept : pass.position with
      | none => simpa [kept] using blank
      | some position => simp [kept, blank]
  | drawn _ count _ _ ran =>
    obtain ⟨stats, ⟨_, rfl⟩ | ⟨pass, total, opened, _, rfl⟩⟩ := draw_cases ran
    · exact blank
    · exact blank
  | worked _ workload =>
    unfold record
    by_cases part : isPass workload = true
    · rw [if_pos part]
      exact blank
    · rw [if_neg part]
      exact blank

end Recorder

namespace ProfiledDevice

-- The device stops nowhere, and will not: there is no trap, or no workload is wanted.
structure Unsampled (device : ProfiledDevice) : Prop where
  off : device.trap = none ∨ device.config.sampleWorkloads = false
  cycles : device.trapCycles = 0
  uncaptured : ∀ handle recorder, device.registry.buffers.get? handle = some recorder → recorder.Uncaptured
  blank : device.trap = none → ∀ handle recorder, device.registry.buffers.get? handle = some recorder →
    recorder.stream = []

variable {device moved : ProfiledDevice} {id : DeviceId} {tags : TagSource} {call : LayerCall} {shown : List Event}
  {reply : LayerReply}

theorem mode_unsampled (unsampled : device.Unsampled) : device.captureMode.captures = false := by
  have off : device.captures = false := by
    rw [captures, isProfiling, FrameTracker.captures]
    rcases unsampled.off with missing | unwanted
    · rw [missing, Option.isSome_none, Bool.false_and]
    · rw [unwanted, Bool.and_false, Bool.and_false]
  unfold captureMode
  rw [off]
  cases device.isProfiling <;> rfl

theorem mode_unprofiled (missing : device.trap = none) : device.captureMode = .off := by
  simp [captureMode, captures, isProfiling, missing]

theorem unreplayed_unsampled (unsampled : device.Unsampled) (buffers : List BufferHandle) :
    device.needsReplay buffers = false := by
  have silent : device.registry.hasTraps buffers = false := by
    rw [Registry.hasTraps, List.any_eq_false]
    intro handle _ stops
    cases live : device.registry.buffers.get? handle with
    | none =>
      rw [live] at stops
      cases stops
    | some recorder =>
      rw [live] at stops
      obtain ⟨record, member, traps⟩ := List.any_eq_true.mp stops
      rw [(unsampled.uncaptured handle recorder live).stream record member] at traps
      cases traps
  rw [needsReplay, silent, Bool.and_false]

theorem became_unsampled (unsampled : device.Unsampled) {handle : BufferHandle} {recorder : Recorder}
    (became : device.Became id tags call reply handle recorder) :
    recorder.Uncaptured ∧ (device.trap = none → recorder.stream = []) := by
  have known {other : BufferHandle} {held : Recorder} (live : device.registry.buffers.get? other = some held) :=
    And.intro (unsampled.uncaptured other held live) fun missing => unsampled.blank missing other held live
  cases became with
  | stayed _ live _ => exact known live
  | allocated raw level _ => exact ⟨Recorder.uncaptured_new raw level, fun _ => rfl⟩
  | begun held live _ =>
    have fresh := Recorder.uncaptured_new held.raw held.level
    exact ⟨⟨fresh.stream, fresh.active, fresh.suspended⟩, fun _ => rfl⟩
  | reset held live _ => exact ⟨Recorder.uncaptured_new held.raw held.level, fun _ => rfl⟩
  | finished held live _ =>
    obtain ⟨before, blank⟩ := known live
    exact ⟨⟨before.stream, before.active, before.suspended⟩, blank⟩
  | recorded held _ command stops live _ effect =>
    obtain ⟨before, blank⟩ := known live
    refine ⟨Recorder.uncaptured_effect effect (mode_unsampled unsampled) before, fun missing => ?_⟩
    rw [mode_unprofiled missing] at effect
    exact Recorder.untracked_effect effect before (blank missing)
  | executed held secondaries live _ _ own =>
    obtain ⟨before, blank⟩ := known live
    have found : ∀ secondary ∈ secondaries, ∃ also, device.registry.buffers.get? secondary.buffer = some also ∧
        device.registry.streamOf secondary.buffer = also.stream := fun secondary listed => by
      obtain ⟨_, also, alive⟩ := own secondary listed
      exact ⟨also, alive, Registry.stream_of_some alive⟩
    constructor
    · apply Recorder.uncaptured_append before
      intro record member
      obtain ⟨secondary, listed, inside⟩ := List.mem_flatMap.mp member
      obtain ⟨also, alive, same⟩ := found secondary listed
      rw [same] at inside
      exact (unsampled.uncaptured secondary.buffer also alive).stream record inside
    · intro missing
      have none : (secondaries.flatMap fun secondary => device.registry.streamOf secondary.buffer) = [] := by
        rw [List.flatMap_eq_nil_iff]
        intro secondary listed
        obtain ⟨also, alive, same⟩ := found secondary listed
        rw [same, unsampled.blank missing secondary.buffer also alive]
      rw [none, Recorder.append, blank missing]
      rfl

end ProfiledDevice

namespace DeviceScope

-- The act shows nothing that is barred on the device, and leaves it settled as it is.
def Passes {α : Type} (s : DeviceScope) (act : Act DeviceScope α) : Prop :=
  Ends act s (fun shown _ next => Lacks (isBarred s.device.isProfiling) shown ∧ settled next = settled s)
    (fun shown _ => Lacks (isBarred s.device.isProfiling) shown)

variable {s : DeviceScope}

theorem passes_of {α : Type} {act : Act DeviceScope α} (lacks : Lacks (isBarred s.device.isProfiling) (act s).events)
    (leaves : Leaves settled act) : s.Passes act :=
  ends_mono (ends_and (ends_lacking lacks) (leaves s)) (fun _ _ _ both => both) (fun _ _ both => both.1)

theorem passes_extra {α : Type} {act : Act DeviceScope α} (without : Without isExtra act) (leaves : Leaves settled act) :
    s.Passes act := passes_of (lacks_mono (barred_extra _) (without s)) leaves

theorem leaves_kept {α : Type} {act : Act DeviceScope α} {beats : List Beat} (keeping : Keeping kept act beats) :
    Leaves settled act := by
  intro t
  refine ends_mono (keeping t) ?_ (fun _ _ _ => trivial)
  intro _ _ next both
  obtain ⟨_, same⟩ := both
  simp only [kept, Prod.mk.injEq] at same
  rw [settled, settled, same.1, same.2.2.1]

theorem profiling_settled {next : DeviceScope} (same : settled next = settled s) :
    next.device.isProfiling = s.device.isProfiling := by
  rw [settled, settled, Prod.mk.injEq] at same
  rw [ProfiledDevice.isProfiling, ProfiledDevice.isProfiling, same.2]

theorem passes_then {α β : Type} {act : Act DeviceScope β} {next : β → Act DeviceScope α}
    {reached : List Event → β → DeviceScope → Prop} {bad : List Event → Halt → Prop} (first : s.Passes act)
    (ends : Ends act s reached bad)
    (rest : ∀ shown x t, reached shown x t → settled t = settled s → t.Passes (next x)) : s.Passes (act >>= next) := by
  unfold Passes
  rw [ends_bind]
  refine ends_mono (ends_and first ends) ?_ (fun _ _ both => both.1)
  intro shown x t both
  obtain ⟨⟨lacks, same⟩, reaches⟩ := both
  have later := rest shown x t reaches same
  rw [Passes, profiling_settled same] at later
  refine ends_mono later ?_ ?_
  · exact fun more _ _ done => ⟨(lacks_append shown more).mpr ⟨lacks, done.1⟩, done.2.trans same⟩
  · exact fun more _ still => (lacks_append shown more).mpr ⟨lacks, still⟩

theorem passes_bind {α β : Type} {act : Act DeviceScope β} {next : β → Act DeviceScope α} (first : s.Passes act)
    (rest : ∀ x t, settled t = settled s → t.Passes (next x)) : s.Passes (act >>= next) :=
  passes_then first (ends_self act s) fun _ x t _ => rest x t

theorem passes_pure {α : Type} (x : α) : s.Passes (Pure.pure x) := ⟨lacks_nil, rfl⟩

theorem passes_get {α : Type} {next : DeviceScope → Act DeviceScope α} (rest : s.Passes (next s)) :
    s.Passes (Act.get >>= next) := by
  simpa [Passes] using rest

theorem passes_driver {α : Type} {act : Act Driver α} (without : Without isExtra act) : s.Passes (Act.on driverPart act) :=
  passes_of (lacks_mono (barred_extra _) (without_on without s)) (leaves_driver act)

theorem passes_update (handle : BufferHandle) (change : Recorder → Recorder)
    {call : RawBuffer → Act Driver (Except Error Unit)} (without : ∀ raw, Without isExtra (call raw)) :
    s.Passes (updateThenCall handle change call) := by
  apply passes_extra (without_update handle change without)
  refine leaves_bind (leaves_on (fun _ _ => rfl) _) fun answer => ?_
  cases answer with
  | error error => exact leaves_pure _
  | ok found => exact leaves_driver _

theorem passes_command (unsampled : s.device.Unsampled) (handle : BufferHandle) (recorded : Command) :
    s.Passes (command handle recorded) := by
  apply passes_of (lacks_mono (barred_extra _) ?_) (leaves_kept (keeping_command handle recorded))
  apply lacks_of_ends
  simp only [command, ends_bind, ends_get, ends_on, Tracking.ends_with_buffer]
  cases live : s.device.registry.buffers.get? handle with
  | none =>
    have stale : (trackingPart.get s).registry.buffers.get? handle = none := live
    simp only [stale]
    exact lacks_nil
  | some recorder =>
    have here : (trackingPart.get s).registry.buffers.get? handle = some recorder := live
    simp only [here]
    refine ends_mono (Recording.ends_effect _ recorded s.device.captureMode) ?_
      (fun _ _ both => lacks_notes (fun _ => rfl) both.1)
    intro notes stops next both
    obtain ⟨noted, effect⟩ := both
    have never : stops = false := Recorder.stops_uncaptured effect (ProfiledDevice.mode_unsampled unsampled)
      (unsampled.uncaptured handle recorder live)
    have quiet : Lacks isExtra notes := lacks_notes (fun _ => rfl) noted
    have called : Without isExtra (Driver.command recorder.raw recorded) :=
      (Driver.without_passed rfl (without_modify _)).2
    rw [never]
    simp only [emitTrap, ends_pure]
    refine ends_mono (ends_lacking (called _)) ?_ ?_
    · intro more _ _ lacks
      simp [quiet, lacks]
    · intro more _ lacks
      simp [quiet, lacks]

theorem ends_advance_unmarked :
    Ends advanceFrame s
      (fun _ transition _ => s.device.config.sampleWorkloads = false → Unmarked (isBarred true) transition)
      (fun _ _ => True) := by
  simp only [advanceFrame, FrameTracker.boundary, ends_bind, ends_get, ends_on, ends_note_if, ends_set, ends_note,
    ends_pure]
  intro unwanted
  constructor
  · intro marks
    simp [FrameTracker.transition, unwanted] at marks
  · intro marks
    simp [FrameTracker.transition, unwanted] at marks

theorem lacks_finish {transition : FrameTransition}
    (unmarked : s.device.isProfiling = true → Unmarked (isBarred true) transition) :
    Lacks (isBarred s.device.isProfiling) (finishFrame transition s).events := by
  cases profiling : s.device.isProfiling with
  | true => exact without_finish_frame barred_rare (unmarked profiling) s
  | false =>
    apply lacks_of_ends
    simp only [finishFrame, ends_bind, ends_get, profiling]
    exact lacks_nil

theorem passes_advance : s.Passes advanceFrame :=
  passes_of (without_advance_frame (fun _ => barred_note _ _) (fun _ => barred_note _ _) s) leaves_advance_frame

variable (off : s.device.trap = none ∨ s.device.config.sampleWorkloads = false)

include off

theorem passes_finish {t : DeviceScope} {transition : FrameTransition} (same : settled t = settled s)
    (unmarked : s.device.config.sampleWorkloads = false → Unmarked (isBarred true) transition) :
    t.Passes (finishFrame transition) := by
  apply passes_of (lacks_finish ?_) (leaves_finish_frame transition)
  intro profiling
  rw [profiling_settled same, ProfiledDevice.isProfiling] at profiling
  rcases off with missing | unwanted
  · rw [missing] at profiling
    cases profiling
  · exact unmarked unwanted

theorem passes_present (raw : RawQueue) : s.Passes (present raw) := by
  have presented (t : DeviceScope) : t.Passes (Act.on driverPart (Driver.queuePresent raw)) :=
    passes_driver (Driver.without_passed rfl (without_pure ())).1
  refine passes_then (passes_advance) ends_advance_unmarked fun _ transition middle unmarked same => ?_
  apply passes_get
  by_cases samples : middle.device.transitionSamples transition = true
  · rw [if_pos samples]
    refine passes_bind (presented middle) fun answer later still => ?_
    exact passes_bind (passes_finish off (still.trans same) unmarked) fun _ _ _ => passes_pure answer
  · rw [if_neg samples]
    exact passes_bind (passes_finish off same unmarked) fun _ t _ => presented t

theorem passes_submit {policy : ReplayPolicy} {buffers : List BufferHandle}
    (unreplayed : ∀ frame, policy { s.device with frame := frame } buffers = false) (queue : QueueHandle) (raw : RawQueue)
    (batches : List (List RawBuffer)) (endsFrame : Bool) : s.Passes (submit policy queue raw batches buffers endsFrame) := by
  have submitted (t : DeviceScope) : t.Passes (Act.on driverPart (Driver.queueSubmit raw batches)) :=
    passes_driver (Driver.without_queue_submit raw batches)
  have noted : Ends noteSubmit s (fun _ _ next => ∃ frame, next = framePart.set frame s) (fun _ _ => True) := by
    rw [noteSubmit, ends_on]
    exact ends_mono (ends_self _ _) (fun _ _ frame _ => ⟨frame, rfl⟩) (fun _ _ _ => trivial)
  refine passes_then (passes_of (without_note_submit (fun _ => barred_note _ _) s) leaves_note_submit) noted ?_
  intro _ _ first reached begun
  obtain ⟨frame, rfl⟩ := reached
  apply passes_get
  have never : policy (framePart.set frame s).device buffers = false := unreplayed frame
  rw [never]
  -- What is pending is the end of the frame, which says nothing of workloads.
  have advanced : (framePart.set frame s).Passes (advanceIf endsFrame) ∧
      Ends (advanceIf endsFrame) (framePart.set frame s)
        (fun _ pending _ => ∀ transition, pending = some transition → s.device.config.sampleWorkloads = false →
          Unmarked (isBarred true) transition) (fun _ _ => True) := by
    cases endsFrame with
    | false => exact ⟨passes_pure _, fun transition never => absurd never (Option.some_ne_none transition).symm⟩
    | true =>
      refine ⟨passes_bind (passes_advance) fun _ _ _ => passes_pure _, ?_⟩
      simp only [advanceIf, if_true, ends_bind, ends_pure]
      refine ends_mono ends_advance_unmarked ?_ (fun _ _ _ => trivial)
      intro _ transition _ unmarked found same
      cases same
      exact unmarked
  refine passes_then advanced.1 advanced.2 fun _ pending second unmarked same => ?_
  have finished {t : DeviceScope} (still : settled t = settled s) : t.Passes (finishIfAny pending) := by
    cases pending with
    | none => exact passes_pure ()
    | some transition => exact passes_finish off still (unmarked transition rfl)
  apply passes_get
  by_cases samples : (!false && !transitionSamples second.device pending) = true
  · rw [if_pos samples]
    exact passes_bind (finished same) fun _ t _ => submitted t
  · rw [if_neg samples]
    refine passes_bind (submitted second) fun answer third beside => ?_
    refine passes_bind (passes_pure ()) fun _ fourth also => ?_
    exact passes_bind (finished ((also.trans beside).trans same)) fun _ _ _ => passes_pure answer

end DeviceScope

def Driver.givesEvents (driver : Driver) : Bool :=
  (driver.fault? .createEvent).isNone && ((driver.counted .createEvent).fault? .createEvent).isNone

theorem Driver.ends_create_event_given (driver : Driver) :
    Ends createEvent driver
      (fun shown answer next => Lacks isExtra shown ∧ answer.isOk = (driver.fault? .createEvent).isNone ∧
        next.fault? .createEvent = (driver.counted .createEvent).fault? .createEvent) (fun _ _ => True) := by
  have shows (name : String) (failed : Bool) : isExtra (.call name .createEvent failed) = false := rfl
  simp only [createEvent, ends_try_call]
  cases failed : driver.fault? .createEvent with
  | some error =>
    simp only [DriverCall.method, failed]
    exact ⟨by simp [callEvent, shows], rfl, trivial⟩
  | none =>
    simp only [DriverCall.method, failed, nextHandle, ends_bind, ends_get, ends_set, ends_modify, ends_pure]
    exact ⟨by simp [callEvent, shows], rfl, rfl⟩

namespace ProfiledDevice

variable (config : Config)

theorem ends_create_trap_given (driver : Driver) :
    Ends (createTrap config) driver
      (fun shown trap _ => Lacks isExtra shown ∧
        (trap.isSome = true ↔ config.isActive = true ∧ driver.givesEvents = true)) (fun _ _ => True) := by
  have noted (error : Error) : isExtra (.note (.trapUnavailable error)) = false := rfl
  by_cases active : config.isActive = true
  · simp only [createTrap, active, if_true, Trap.create, ends_bind]
    refine ends_mono (Driver.ends_create_event_given driver) ?_ (fun _ _ _ => trivial)
    intro shown answer first done
    obtain ⟨quiet, given, fault⟩ := done
    cases answer with
    | error error =>
      have refused : (driver.fault? .createEvent).isNone = false := given.symm
      simp [quiet, Driver.givesEvents, refused, noted]
    | ok deviceToHost =>
      have created : (driver.fault? .createEvent).isNone = true := given.symm
      simp only [ends_bind]
      refine ends_mono (Driver.ends_create_event_given first) ?_ (fun _ _ _ => trivial)
      intro more other second done
      obtain ⟨still, also, _⟩ := done
      rw [fault] at also
      cases other with
      | error error =>
        have refused : ((driver.counted .createEvent).fault? .createEvent).isNone = false := also.symm
        simp only [ends_bind]
        refine ends_mono (ends_lacking (Driver.without_destroy_event deviceToHost second)) ?_ (fun _ _ _ => trivial)
        intro last _ _ lacks
        simp [quiet, still, lacks, Driver.givesEvents, refused, noted]
      | ok hostToDevice =>
        have both : ((driver.counted .createEvent).fault? .createEvent).isNone = true := also.symm
        simp [quiet, still, Driver.givesEvents, created, both]
  · simp [createTrap, active]

theorem without_note_missing (available : List Counter) (filter : List String) :
    Without isExtra (CounterSession.noteMissing available filter : Act Shared Unit) := by
  induction filter with
  | nil => exact without_pure ()
  | cons name rest ih => exact without_bind (without_note_if rfl) fun _ => ih

theorem ends_open_unsampled (s : DeviceScope) :
    Ends (DeviceScope.apply ⟨0, 0, FrameTracker.startActions config⟩) s
      (fun shown _ _ => config.sampleWorkloads = false → Lacks (isBarred true) shown) (fun _ _ => True) := by
  cases unwanted : config.sampleWorkloads with
  | true => exact ends_mono (ends_self _ _) (fun _ _ _ _ never => absurd never (by decide)) (fun _ _ _ => trivial)
  | false =>
    have unmarked : DeviceScope.Unmarked (isBarred true) ⟨0, 0, FrameTracker.startActions config⟩ :=
      ⟨fun never => absurd never Bool.false_ne_true, fun marks => by simp [FrameTracker.startActions, unwanted] at marks⟩
    exact ends_mono (ends_lacking (DeviceScope.without_apply barred_rare unmarked s)) (fun _ _ _ lacks _ => lacks)
      (fun _ _ _ => trivial)

theorem ends_activate_unsampled (driver : Driver) (backend : Backend) (shared : Shared) :
    Ends (activate driver backend config) shared
      (fun shown device _ => device.config = config ∧
        (device.isProfiling = true ↔ config.isActive = true ∧ driver.givesEvents = true) ∧
        (device.isProfiling = false ∨ config.sampleWorkloads = false → Lacks (isBarred device.isProfiling) shown))
      (fun _ _ => True) := by
  simp only [activate, CounterSession.start, ends_bind, ends_apart, ends_note, ends_pure]
  refine ends_mono (ends_create_trap_given config driver) ?_ (fun _ _ _ => trivial)
  intro shown trap equipped done
  obtain ⟨quiet, profiled⟩ := done
  refine ends_mono (ends_lacking (without_note_missing _ _ shared)) ?_ (fun _ _ _ => trivial)
  intro notes _ reached still
  have ahead (profiling : Bool) : Lacks (isBarred profiling) (shown ++ notes) :=
    lacks_mono (barred_extra profiling) ((lacks_append shown notes).mpr ⟨quiet, still⟩)
  generalize made : (⟨equipped, config, .empty, .start config, trap, ⟨backend, CounterSession.select
    (CounterBackend.counters backend) config.counters, ⟨0, 0, 0⟩⟩⟩ : ProfiledDevice) = device
  have configured : device.config = config := by rw [← made]
  have known : device.isProfiling = trap.isSome := by rw [← made]; rfl
  by_cases profiling : device.isProfiling = true
  · simp only [profiling, if_true, ends_bind, ends_get, ends_apart, ends_set, ends_pure]
    refine ends_mono (ends_and (ends_open_unsampled config ⟨device, reached⟩) (DeviceScope.leaves_apply _ ⟨device, reached⟩)) ?_
      (fun _ _ _ => trivial)
    intro events _ next both
    obtain ⟨lacks, same⟩ := both
    have kept : next.device.isProfiling = true := (DeviceScope.profiling_settled same).trans profiling
    have config : next.device.config = config := (congrArg Prod.fst same).trans configured
    refine ⟨config, ?_, ?_⟩
    · rw [kept, ← profiled, ← known, profiling]
    · rw [kept]
      intro unwanted
      simp [(lacks_append _ _).mp (ahead true), lacks (unwanted.resolve_left (by simp))]
  · rw [if_neg profiling]
    refine ⟨configured, ?_, fun _ => ?_⟩
    · rw [known, profiled]
    · simp [(lacks_append _ _).mp (ahead device.isProfiling)]

end ProfiledDevice

end GpuProfiler
