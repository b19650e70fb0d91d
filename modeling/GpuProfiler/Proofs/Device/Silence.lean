import GpuProfiler.Layer
import GpuProfiler.Proofs.Without

set_option autoImplicit false

namespace GpuProfiler

open Act Event

variable {kind : Event → Bool}

namespace Driver

variable {call : DriverCall}

theorem without_passed {α : Type} {inner : Act Driver α} (passed : call.method.isTrap = false)
    (without : Without isExtra inner) : Without isExtra (tryCall call inner) ∧ Without isExtra (doCall call inner) := by
  have other : ∀ name failed, isExtra (.call name call failed) = false := by
    intro name failed
    simp [isExtra, isTrap, isProbe, passed]
  exact ⟨without_try_call other without, without_do_call other without⟩

theorem without_next_handle : Without kind nextHandle :=
  without_bind without_get fun _ => without_bind (without_set _) fun _ => without_pure _

theorem without_get_device_queue (family index : UInt32) : Without isExtra (getDeviceQueue family index) :=
  (without_passed rfl (without_pure _)).2

theorem without_allocate (level : BufferLevel) : Without isExtra (allocateCommandBuffer level) := by
  have numbered : Without isExtra nextBuffer := by
    refine without_bind without_get fun driver => ?_
    cases driver.reserved with
    | nil => exact without_next_handle
    | cons raw rest => exact without_bind (without_set _) fun _ => without_pure _
  exact (without_passed rfl (without_bind numbered fun _ => without_bind (without_modify _) fun _ => without_pure _)).1

theorem without_queue_submit (queue : RawQueue) (batches : List (List RawBuffer)) :
    Without isExtra (queueSubmit queue batches) :=
  (without_passed rfl (without_bind (without_modify _) fun _ => without_advance fun _ _ => rfl)).1

theorem without_destroy_event (event : RawEvent) : Without isExtra (destroyEvent event) :=
  (without_passed rfl (without_modify _)).2

end Driver

namespace Registry

variable (noted : ∀ noticed, kind (.note noticed) = false)

include noted

theorem without_register_queue (raw : RawQueue) (family index : UInt32) : Without kind (registerQueue raw family index) := by
  refine without_bind without_get fun registry => ?_
  cases registry.findQueue raw with
  | some handle => exact without_pure _
  | none => exact without_bind (without_set _) fun _ => without_bind (without_emit (noted _)) fun _ => without_pure _

theorem without_allocate (raw : RawBuffer) (level : BufferLevel) : Without kind (allocate raw level) := by
  have dropped : Without kind (dropNamesake raw) := by
    refine without_bind without_get fun registry => ?_
    cases registry.findBuffer raw with
    | none => exact without_pure ()
    | some stale => exact without_bind (without_emit (noted _)) fun _ => without_set _
  exact without_bind dropped fun _ => without_bind without_get fun _ => without_bind (without_set _) fun _ => without_pure _

omit noted in
theorem without_free (handle : BufferHandle) : Without kind (free handle) := by
  refine without_bind without_get fun registry => ?_
  split
  · exact without_bind (without_set _) fun _ => without_pure _
  · exact without_pure _

omit noted in
theorem without_execute (primary : BufferHandle) (secondaries : List BufferHandle) :
    Without kind (execute primary secondaries) := by
  refine without_bind without_get fun registry => ?_
  cases registry.streams secondaries with
  | error error => exact without_pure _
  | ok streams =>
    cases registry.buffer primary with
    | error error => exact without_pure _
    | ok recorder => exact without_bind (without_set _) fun _ => without_pure _

end Registry

theorem Tracking.without_buffer {α : Type} {act : Act Recording α} (handle : BufferHandle) (without : Without kind act) :
    Without kind (withBuffer handle act) := by
  refine without_bind without_get fun s => ?_
  cases s.registry.buffer handle with
  | error error => exact without_pure _
  | ok recorder => exact without_bind (without_on without) fun _ => without_pure _

theorem Sender.without_emit {message : Message} (told : ∀ failed, kind (.message message failed) = false)
    (noted : ∀ error, kind (.note (.notSent message error)) = false) :
    Without kind (emit message : Act (Sender ShowingEndpoint) Unit) := by
  have sent : Without kind (Endpoint.send message : Act ShowingEndpoint (Except Error Unit)) :=
    without_bind without_get fun _ => without_bind (without_set _) fun _ => without_bind (Act.without_emit (told _)) fun _ =>
      without_pure _
  refine without_bind (without_on sent) fun answer => ?_
  cases answer with
  | ok _ => exact without_modify _
  | error error => exact without_bind (Act.without_emit (noted error)) fun _ => without_modify _

namespace CounterSession

theorem without_ask {α : Type} {act : Act ScriptedBackend α} (otherwise : α) (without : Without kind act) :
    Without kind (Backend.ask act otherwise) := by
  intro backend
  cases backend with
  | empty => exact lacks_nil
  | scripted inner =>
    have shown := without inner
    simp only [Backend.ask]
    rcases ran : act inner with ⟨events, reason | ⟨x, next⟩⟩ <;> simpa only [ran] using shown

theorem without_sample_now : Without isOutward (sampleNow : Act (CounterSession Backend) Bool) := by
  refine without_bind (without_on (without_ask _ (without_bind without_get fun backend => ?_))) fun answer => ?_
  · cases backend.script.failing.lookup backend.attempts with
    | some error => exact without_bind (without_set _) fun _ => without_bind (without_emit rfl) fun _ => without_pure _
    | none => exact without_bind (without_set _) fun _ => without_bind (without_emit rfl) fun _ => without_pure _
  · cases answer with
    | ok _ => exact without_bind (without_modify _) fun _ => without_pure _
    | error error => exact without_bind (without_emit rfl) fun _ => without_bind (without_modify _) fun _ => without_pure _

theorem without_read_one (counter : Counter) :
    Without isOutward (readOne counter : Act (CounterSession Backend) (Option Reading)) := by
  have asked : Without isOutward (ScriptedBackend.read counter.id) := without_bind without_get fun _ =>
    without_bind (without_set _) fun _ => without_bind (without_emit rfl) fun _ => without_pure _
  have failed (noticed : Note) (other : isOutward (.note noticed) = false) :
      Without isOutward (do
        Act.note noticed
        countStats countFailedRead
        return none : Act (CounterSession Backend) (Option Reading)) :=
    without_bind (without_emit other) fun _ => without_bind (without_modify _) fun _ => without_pure _
  refine without_bind (without_on (without_ask _ asked)) fun answer => ?_
  cases answer with
  | error error => exact failed _ rfl
  | ok value =>
    by_cases typed : value.kind = counter.kind
    · simp only [if_pos typed]
      exact without_pure _
    · simp only [if_neg typed]
      exact failed _ rfl

theorem without_read_all : Without isOutward (readAll : Act (CounterSession Backend) (List Reading)) := by
  refine without_bind without_get fun session => ?_
  generalize session.active = counters
  induction counters with
  | nil => exact without_pure _
  | cons counter rest ih =>
    exact without_bind (without_read_one counter) fun _ => without_bind ih fun _ => without_pure _

end CounterSession

namespace DeviceScope

theorem without_get_queue (family index : UInt32) : Without isExtra (getQueue family index) :=
  without_bind (without_on (Driver.without_get_device_queue family index)) fun raw =>
    without_on (Registry.without_register_queue (fun _ => rfl) raw family index)

theorem without_allocate (level : BufferLevel) : Without isExtra (allocate level) := by
  refine without_bind (without_on (Driver.without_allocate level)) fun answer => ?_
  cases answer with
  | error error => exact without_pure _
  | ok raw => exact without_bind (without_on (Registry.without_allocate (fun _ => rfl) raw level)) fun _ => without_pure _

theorem without_free (handle : BufferHandle) : Without isExtra (free handle) := by
  refine without_bind (without_on (Registry.without_free handle)) fun answer => ?_
  cases answer with
  | error error => exact without_pure _
  | ok recorder =>
    exact without_bind (without_on (Driver.without_passed rfl (without_modify _)).2) fun _ => without_pure _

theorem without_update (handle : BufferHandle) (change : Recorder → Recorder)
    {call : RawBuffer → Act Driver (Except Error Unit)} (without : ∀ raw, Without isExtra (call raw)) :
    Without isExtra (updateThenCall handle change call) := by
  refine without_bind (without_on (Tracking.without_buffer handle (without_modify _))) fun answer => ?_
  cases answer with
  | error error => exact without_pure _
  | ok found => exact without_on (without found.1)

theorem without_execute (primary : BufferHandle) (secondaries : List BufferHandle) :
    Without isExtra (execute primary secondaries) := by
  refine without_bind (without_on (Registry.without_execute primary secondaries)) fun answer => ?_
  cases answer with
  | error error => exact without_pure _
  | ok _ =>
    refine without_bind without_get fun s => ?_
    dsimp only
    split
    · exact without_bind (without_on (Driver.without_passed rfl (without_modify _)).2) fun _ => without_pure _
    · exact without_pure _
    · exact without_pure _

section Frames

theorem without_note_submit (noted : ∀ index, kind (.note (.frameOpened index)) = false) : Without kind noteSubmit := by
  refine without_on (without_bind without_get fun frame => ?_)
  split
  · exact without_bind (without_emit (noted _)) fun _ => without_set _
  · exact without_pure ()

variable (noted : ∀ index, kind (.note (.frameWithoutSubmissions index)) = false)
  (advanced : ∀ transition, kind (.note (.frameAdvanced transition)) = false)

include noted advanced

theorem without_advance_frame : Without kind advanceFrame := by
  refine without_bind without_get fun s => without_on (without_bind without_get fun _ => ?_)
  exact without_bind (without_note_if (noted _)) fun _ => without_bind (without_set _) fun _ =>
    without_bind (without_emit (advanced _)) fun _ => without_pure _

theorem without_advance_if (endsFrame : Bool) : Without kind (advanceIf endsFrame) := by
  cases endsFrame with
  | false => exact without_pure _
  | true => exact without_bind (without_advance_frame noted advanced) fun _ => without_pure _

omit noted advanced

theorem without_sample_boundary (transition : FrameTransition) : Without isRare (sampleBoundary transition) := by
  have idled : Without isRare Driver.deviceWaitIdle := by
    refine Driver.without_try_call (fun _ _ => rfl) (without_bind without_get fun driver => ?_)
    split
    · exact without_halt _
    · exact without_pure ()
  refine without_bind (without_on idled) fun answer => ?_
  refine without_bind (without_note_failure (fun _ => rfl) answer) fun _ => ?_
  refine without_bind (without_on (without_mono rare_outward CounterSession.without_sample_now)) fun latched => ?_
  by_cases reported : (latched && transition.actions.sampleFrame) = true
  · rw [if_pos reported]
    exact without_bind (without_on (without_mono rare_outward CounterSession.without_read_all)) fun _ =>
      without_on (Sender.without_emit (fun _ => rfl) fun _ => rfl)
  · rw [if_neg reported]
    exact without_pure ()

-- The messages that say where a frame begins or ends are not of the kind, or not asked for.
def Unmarked (kind : Event → Bool) (transition : FrameTransition) : Prop :=
  (transition.actions.endFrame = true → ∀ failed, kind (.message (.endFrame transition.closing) failed) = false) ∧
    (transition.actions.startFrame = true → ∀ failed, kind (.message (.startFrame transition.opening) failed) = false)

variable (rare : ∀ event, kind event = true → event.isRare = true)

include rare

theorem without_apply {transition : FrameTransition} (unmarked : Unmarked kind transition) :
    Without kind (apply transition) := by
  have plain (message : Message) (error : Error) : kind (.note (.notSent message error)) = false :=
    Bool.eq_false_iff.mpr fun found => Bool.noConfusion (rare _ found)
  have emitted {condition : Bool} {message : Message}
      (told : condition = true → ∀ failed, kind (.message message failed) = false) :
      Without kind (emitIf condition message) := by
    cases condition with
    | false => exact without_pure ()
    | true => exact without_on (Sender.without_emit (told rfl) (plain message))
  refine without_bind (emitted unmarked.1) fun _ => without_bind (emitted unmarked.2) fun _ => ?_
  by_cases samples : transition.actions.needsSample = true
  · rw [if_pos samples]
    exact without_mono rare (without_sample_boundary transition)
  · rw [if_neg samples]
    exact without_pure ()

theorem without_finish_frame {transition : FrameTransition} (unmarked : Unmarked kind transition) :
    Without kind (finishFrame transition) := by
  refine without_bind without_get fun s => ?_
  by_cases profiling : s.device.isProfiling = true
  · rw [if_pos profiling]
    exact without_apply rare unmarked
  · rw [if_neg profiling]
    exact without_pure ()

theorem without_finish_if_any {pending : Option FrameTransition}
    (unmarked : ∀ transition, pending = some transition → Unmarked kind transition) :
    Without kind (finishIfAny pending) := by
  cases pending with
  | none => exact without_pure ()
  | some transition => exact without_finish_frame rare (unmarked transition rfl)

end Frames

section Kept

-- How a device is to be profiled, and its trap.
def settled (s : DeviceScope) : Config × Option Trap := (s.device.config, s.device.trap)

theorem leaves_driver {α : Type} (act : Act Driver α) : Leaves settled (Act.on driverPart act) :=
  leaves_on (fun _ _ => rfl) act

theorem leaves_note_submit : Leaves settled noteSubmit := leaves_on (fun _ _ => rfl) _

theorem leaves_advance_frame : Leaves settled advanceFrame :=
  leaves_bind leaves_get fun _ => leaves_on (fun _ _ => rfl) _

theorem leaves_apply (transition : FrameTransition) : Leaves settled (apply transition) := by
  have emitted (condition : Bool) (message : Message) : Leaves settled (emitIf condition message) := by
    cases condition with
    | false => exact leaves_pure ()
    | true => exact leaves_on (fun _ _ => rfl) _
  have sampled : Leaves settled (sampleBoundary transition) := by
    refine leaves_bind (leaves_driver _) fun answer => leaves_bind (leaves_note_failure _ answer) fun _ => ?_
    refine leaves_bind (leaves_on (fun _ _ => rfl) _) fun latched => ?_
    by_cases reported : (latched && transition.actions.sampleFrame) = true
    · rw [if_pos reported]
      exact leaves_bind (leaves_on (fun _ _ => rfl) _) fun _ => leaves_on (fun _ _ => rfl) _
    · rw [if_neg reported]
      exact leaves_pure ()
  refine leaves_bind (emitted _ _) fun _ => leaves_bind (emitted _ _) fun _ => ?_
  by_cases samples : transition.actions.needsSample = true
  · rw [if_pos samples]
    exact sampled
  · rw [if_neg samples]
    exact leaves_pure ()

theorem leaves_finish_frame (transition : FrameTransition) : Leaves settled (finishFrame transition) := by
  refine leaves_bind leaves_get fun s => ?_
  by_cases profiling : s.device.isProfiling = true
  · rw [if_pos profiling]
    exact leaves_apply transition
  · rw [if_neg profiling]
    exact leaves_pure ()

end Kept

end DeviceScope

end GpuProfiler
