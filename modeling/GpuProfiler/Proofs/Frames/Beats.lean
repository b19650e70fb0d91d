import GpuProfiler.Proofs.Driver.Contents
import GpuProfiler.Proofs.Registry
import GpuProfiler.Trap

set_option autoImplicit false

namespace GpuProfiler

inductive Beat where
  | forwarded
  | idled (failed : Bool)
  | acquired
  | sampled (failed : Bool)
  | released
  | marked (mark : Message)
  | worked (work : Message)
  | reported (frame : Nat) (counters : List Reading)
deriving DecidableEq, Repr

def Message.beat : Message → Beat
  | .startFrame frame => .marked (.startFrame frame)
  | .endFrame frame => .marked (.endFrame frame)
  | .frameCounters frame counters => .reported frame counters
  | .workload labels counters metadata => .worked (.workload labels counters metadata)

-- The host acquires the device with the reset of an event, and releases it by setting one.
def DriverCall.beat? (failed : Bool) : DriverCall → Option Beat
  | .queueSubmit _ _ | .queuePresent _ => some .forwarded
  | .deviceWaitIdle => some (.idled failed)
  | .resetEvent _ => some .acquired
  | .setEvent _ => some .released
  | _ => none

namespace Event

def beat? : Event → Option Beat
  | .call _ made failed => made.beat? failed
  | .sample failed => some (.sampled failed)
  | .message sent _ => some sent.beat
  | _ => none

def beats (shown : List Event) : List Beat := shown.filterMap beat?

@[simp] theorem beats_nil : beats [] = [] := rfl

@[simp] theorem beats_cons (event : Event) (rest : List Event) :
    beats (event :: rest) = event.beat?.toList ++ beats rest := by
  unfold beats
  rw [List.filterMap_cons]
  cases event.beat? <;> rfl

@[simp] theorem beats_append (shown more : List Event) : beats (shown ++ more) = beats shown ++ beats more :=
  List.filterMap_append

theorem beats_notes {shown : List Event} (notes : ∀ event ∈ shown, event.isNote = true) : beats shown = [] := by
  apply List.filterMap_eq_nil_iff.mpr
  intro event member
  have note := notes event member
  cases event <;> first | rfl | cases note

end Event

namespace Act

variable {σ τ α β : Type}

def Beats (act : Act σ α) (beats : List Beat) : Prop :=
  ∀ s, Ends act s (fun shown _ _ => Event.beats shown = beats) (fun _ _ => True)

def Hushed (act : Act σ α) : Prop := Beats act []

theorem beats_bind {act : Act σ β} {next : β → Act σ α} {first second : List Beat} (here : Beats act first)
    (later : ∀ x, Beats (next x) second) : Beats (act >>= next) (first ++ second) := by
  intro s
  rw [ends_bind]
  refine ends_mono (here s) ?_ (fun _ _ _ => trivial)
  intro shown x t beats
  refine ends_mono (later x t) ?_ (fun _ _ _ => trivial)
  intro more _ _ others
  rw [Event.beats_append, beats, others]

theorem hushed_bind {act : Act σ β} {next : β → Act σ α} (here : Hushed act) (later : ∀ x, Hushed (next x)) :
    Hushed (act >>= next) := beats_bind here later

theorem hushed_pure (x : α) : Hushed (Pure.pure x : Act σ α) := fun _ => rfl

theorem hushed_get : Hushed (get : Act σ σ) := fun _ => rfl

theorem hushed_set (s : σ) : Hushed (set s) := fun _ => rfl

theorem hushed_modify (change : σ → σ) : Hushed (modify change) := fun _ => rfl

theorem hushed_halt (reason : Halt) : Hushed (halt reason : Act σ α) := fun _ => trivial

theorem hushed_note (noticed : Note) : Hushed (note noticed : Act σ Unit) := fun _ => rfl

theorem hushed_note_if (condition : Bool) (noticed : Note) : Hushed (noteIf condition noticed : Act σ Unit) := by
  cases condition
  · exact hushed_pure ()
  · exact hushed_note noticed

theorem hushed_notes {act : Act σ α} {good : σ → List Event → α → σ → Prop} {bad : σ → List Event → Halt → Prop}
    (ends : ∀ s, Ends act s
      (fun shown x t => (∀ event ∈ shown, event.isNote = true) ∧ good s shown x t) (bad s)) :
    Hushed act := fun s =>
  ends_mono (ends s) (fun _ _ _ known => Event.beats_notes known.1) (fun _ _ _ => trivial)

def Keeping {ρ : Type} (view : σ → ρ) (act : Act σ α) (beats : List Beat) : Prop :=
  ∀ s, Ends act s (fun shown _ t => Event.beats shown = beats ∧ view t = view s) (fun _ _ => True)

section Keeping

variable {ρ : Type} {view : σ → ρ}

theorem keeping_bind {act : Act σ β} {next : β → Act σ α} {first second : List Beat} (here : Keeping view act first)
    (later : ∀ x, Keeping view (next x) second) : Keeping view (act >>= next) (first ++ second) := by
  intro s
  rw [ends_bind]
  refine ends_mono (here s) ?_ (fun _ _ _ => trivial)
  intro shown x t done
  obtain ⟨beats, same⟩ := done
  refine ends_mono (later x t) ?_ (fun _ _ _ => trivial)
  intro more _ _ done
  obtain ⟨others, still⟩ := done
  exact ⟨by rw [Event.beats_append, beats, others], still.trans same⟩

theorem keeping_then {act : Act σ β} {next : β → Act σ α} {beats : List Beat} (here : Keeping view act beats)
    (later : ∀ x, Keeping view (next x) []) : Keeping view (act >>= next) beats := by
  rw [← List.append_nil beats]
  exact keeping_bind here later

theorem keeping_pure (x : α) : Keeping view (Pure.pure x : Act σ α) [] := fun _ => ⟨rfl, rfl⟩

theorem keeping_get : Keeping view (get : Act σ σ) [] := fun _ => ⟨rfl, rfl⟩

theorem keeping_note (noticed : Note) : Keeping view (note noticed : Act σ Unit) [] := fun _ => ⟨rfl, rfl⟩

theorem keeping_note_failure (noticed : Error → Note) (result : Except Error Unit) :
    Keeping view (noteFailure noticed result : Act σ Unit) [] := by
  cases result
  · exact keeping_note _
  · exact keeping_pure ()

theorem keeping_on {part : Part σ τ} {act : Act τ α} {beats : List Beat} (apart : ∀ t s, view (part.set t s) = view s)
    (here : Beats act beats) : Keeping view (Act.on part act) beats := by
  intro s
  rw [ends_on]
  exact ends_mono (here (part.get s)) (fun _ _ _ shows => ⟨shows, apart _ _⟩) (fun _ _ _ => trivial)

end Keeping

end Act

namespace Driver

open Act

variable {α : Type} {call : DriverCall} {work : Act Driver α}

theorem hushed_try_call (still : ∀ failed, call.beat? failed = none) (here : Hushed work) : Hushed (tryCall call work) := by
  intro driver
  rw [ends_try_call]
  split
  · simp [callEvent, Event.beat?, still]
  · refine ends_mono (here _) ?_ (fun _ _ _ => trivial)
    intro shown _ _ none
    simp [callEvent, Event.beat?, still, none]

theorem hushed_do_call (still : ∀ failed, call.beat? failed = none) (here : Hushed work) : Hushed (doCall call work) := by
  intro driver
  rw [ends_do_call]
  refine ends_mono (here _) ?_ (fun _ _ _ => trivial)
  intro shown _ _ none
  simp [callEvent, Event.beat?, still, none]

theorem beats_try_call {beat : Beat} (one : ∀ failed, call.beat? failed = some beat) (here : Hushed work) :
    Beats (tryCall call work) [beat] := by
  intro driver
  rw [ends_try_call]
  split
  · simp [callEvent, Event.beat?, one]
  · refine ends_mono (here _) ?_ (fun _ _ _ => trivial)
    intro shown _ _ none
    simp [callEvent, Event.beat?, one, none]

theorem hushed_work (ops : List DeviceOp) : Hushed (Driver.work ops) := by
  induction ops with
  | nil => exact hushed_modify _
  | cons op rest ih =>
    refine hushed_bind hushed_get fun driver => ?_
    cases op.step? driver.signalled with
    | none => exact hushed_set _
    | some moved => exact hushed_bind (hushed_set _) fun _ => hushed_bind (fun _ => rfl) fun _ => ih

theorem hushed_advance : Hushed advance := hushed_bind hushed_get fun driver => hushed_work driver.timeline

theorem beats_queue_submit (queue : RawQueue) (batches : List (List RawBuffer)) :
    Beats (queueSubmit queue batches) [.forwarded] :=
  beats_try_call (fun _ => rfl) (hushed_bind (hushed_modify _) fun _ => hushed_advance)

theorem beats_queue_present (queue : RawQueue) : Beats (queuePresent queue) [.forwarded] :=
  beats_try_call (fun _ => rfl) (hushed_pure ())

theorem beats_reset_event (event : RawEvent) : Beats (resetEvent event) [.acquired] :=
  beats_try_call (fun _ => rfl) (hushed_modify _)

theorem beats_set_event (event : RawEvent) : Beats (setEvent event) [.released] :=
  beats_try_call (fun _ => rfl) (hushed_bind (hushed_modify _) fun _ => hushed_advance)

theorem ends_wait_idle_shows (driver : Driver) :
    Ends deviceWaitIdle driver
      (fun shown answer _ => shown = [.call driver.name .deviceWaitIdle (!answer.isOk)]) (fun _ _ => True) := by
  unfold deviceWaitIdle
  rw [ends_try_call]
  cases refused : driver.fault? DriverCall.deviceWaitIdle.method with
  | some error => simp [callEvent, refused, Except.isOk, Except.toBool]
  | none =>
    simp only [ends_bind, ends_get]
    split
    · trivial
    · simp [callEvent, refused, Except.isOk, Except.toBool]

theorem hushed_next_handle : Hushed nextHandle :=
  hushed_bind hushed_get fun _ => hushed_bind (hushed_set _) fun _ => hushed_pure _

theorem hushed_get_device_queue (family index : UInt32) : Hushed (getDeviceQueue family index) :=
  hushed_do_call (fun _ => rfl) (hushed_pure _)

theorem hushed_allocate (level : BufferLevel) : Hushed (allocateCommandBuffer level) := by
  refine hushed_try_call (fun _ => rfl) (hushed_bind ?_ fun _ => hushed_bind (hushed_modify _) fun _ => hushed_pure _)
  refine hushed_bind hushed_get fun driver => ?_
  split
  · exact hushed_bind (hushed_set _) fun _ => hushed_pure _
  · exact hushed_next_handle

theorem hushed_create_event : Hushed createEvent :=
  hushed_try_call (fun _ => rfl)
    (hushed_bind hushed_next_handle fun _ => hushed_bind (hushed_modify _) fun _ => hushed_pure _)

theorem hushed_destroy_event (event : RawEvent) : Hushed (destroyEvent event) :=
  hushed_do_call (fun _ => rfl) (hushed_modify _)

theorem hushed_event_status (event : RawEvent) : Hushed (eventStatus event) := by
  refine hushed_try_call (fun _ => rfl) (hushed_bind hushed_get fun driver => ?_)
  split
  · exact hushed_bind (hushed_set _) fun _ => hushed_pure _
  · split
    · exact hushed_bind (hushed_set _) fun _ => hushed_pure _
    · exact hushed_halt _

theorem hushed_command (buffer : RawBuffer) (recorded : Command) : Hushed (command buffer recorded) :=
  hushed_do_call (fun _ => rfl) (hushed_modify _)

end Driver

namespace TrapEvents

open Act

theorem hushed_emit (events : TrapEvents) (buffer : RawBuffer) : Hushed (events.emit buffer) :=
  hushed_bind (Driver.hushed_do_call (fun _ => rfl) (hushed_modify _)) fun _ =>
    hushed_bind (Driver.hushed_do_call (fun _ => rfl) (hushed_modify _)) fun _ =>
      Driver.hushed_do_call (fun _ => rfl) (hushed_modify _)

end TrapEvents

namespace Registry

open Act

theorem hushed_register_queue (raw : RawQueue) (family index : UInt32) : Hushed (registerQueue raw family index) :=
  hushed_notes fun registry => ends_register_queue raw family index registry

theorem hushed_drop_namesake (raw : RawBuffer) : Hushed (dropNamesake raw) := by
  refine hushed_bind hushed_get fun registry => ?_
  cases registry.findBuffer raw with
  | none => exact hushed_pure ()
  | some stale => exact hushed_bind (hushed_note _) fun _ => hushed_set _

theorem hushed_allocate (raw : RawBuffer) (level : BufferLevel) : Hushed (allocate raw level) :=
  hushed_bind (hushed_drop_namesake raw) fun _ => hushed_bind hushed_get fun _ =>
    hushed_bind (hushed_set _) fun _ => hushed_pure _

theorem hushed_free (handle : BufferHandle) : Hushed (free handle) := by
  refine hushed_bind hushed_get fun registry => ?_
  split
  · exact hushed_bind (hushed_set _) fun _ => hushed_pure _
  · exact hushed_pure _

theorem hushed_execute (primary : BufferHandle) (secondaries : List BufferHandle) :
    Hushed (execute primary secondaries) := by
  refine hushed_bind hushed_get fun registry => ?_
  split
  · exact hushed_pure _
  · split
    · exact hushed_pure _
    · exact hushed_bind (hushed_set _) fun _ => hushed_pure _

end Registry

theorem Tracking.hushed_with_buffer {α : Type} {act : Act Recording α} (handle : BufferHandle) (here : Act.Hushed act) :
    Act.Hushed (withBuffer handle act) := by
  intro s
  rw [ends_with_buffer]
  split
  · exact rfl
  · exact here _

theorem Recording.hushed_command (recorded : Command) (mode : CaptureMode) : Act.Hushed (command recorded mode) :=
  Act.hushed_notes fun s => ends_effect s recorded mode

end GpuProfiler
