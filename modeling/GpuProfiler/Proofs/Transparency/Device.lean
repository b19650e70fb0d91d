import GpuProfiler.Proofs.Transparency.Own

set_option autoImplicit false

namespace GpuProfiler

open Act Event

namespace Tracking

def view (s : Tracking) : RegistryView := s.registry.view

theorem unseen_with_buffer {α : Type} {act : Act Recording α} (hidden : Hidden Recording.view act)
    (handle : BufferHandle) (s : Tracking) :
    Ends (withBuffer handle act) s
      (fun shown answer next => passedOn shown = [] ∧ next.view = s.view ∧
        answer.map Prod.fst = (s.registry.buffer handle).map Recorder.raw)
      (fun _ _ => True) := by
  rw [ends_with_buffer, Registry.buffer]
  cases held : s.registry.buffers.get? handle with
  | none => exact ⟨rfl, rfl, rfl⟩
  | some recorder =>
    refine ends_mono (hidden ⟨recorder, s.tags⟩) ?_ (fun _ _ _ => trivial)
    rintro shown x next ⟨none, same⟩
    exact ⟨none, Registry.set_buffer_same held same, rfl⟩

theorem alike_with_buffer {α : Type} {act other : Act Recording α}
    (hidden : Hidden Recording.view act) (also : Hidden Recording.view other)
    (handle : BufferHandle) :
    Alike view (Answers fun x y => x.1 = y.1) (withBuffer handle act)
      (withBuffer handle other) := by
  intro s t viewed
  apply matches_of_ends (unseen_with_buffer hidden handle s) (unseen_with_buffer also handle t)
  rintro shown answer next told reply after ⟨none, kept, first⟩ ⟨still, stays, second⟩
  have found := (answers_map Recorder.raw).mp (Registry.buffer_view viewed handle)
  refine ⟨by rw [none, still], (answers_map Prod.fst).mpr ?_, by rw [kept, stays, viewed]⟩
  rw [first, second, found]

end Tracking

namespace DeviceScope

section Parts

variable {α : Type} {same : α → α → Prop}

theorem alike_driver {act other : Act Driver α} (alike : Alike Driver.view same act other) :
    Alike view same (Act.on driverPart act) (Act.on driverPart other) := by
  intro s t viewed
  refine matches_on (alike _ _ (congrArg DeviceView.driver viewed)) fun next after seen => ?_
  simp only [view, ProfiledDevice.view, DeviceView.mk.injEq] at viewed
  simp only [view, ProfiledDevice.view, driverPart, seen, viewed]

theorem alike_registry {act other : Act Registry α} (alike : Alike Registry.view same act other) :
    Alike view same (Act.on registryPart act) (Act.on registryPart other) := by
  intro s t viewed
  refine matches_on (alike _ _ (congrArg DeviceView.registry viewed)) fun next after seen => ?_
  simp only [view, ProfiledDevice.view, DeviceView.mk.injEq] at viewed
  simp only [view, ProfiledDevice.view, registryPart, seen, viewed]

theorem alike_tracking {act other : Act Tracking α} (alike : Alike Tracking.view same act other) :
    Alike view same (Act.on trackingPart act) (Act.on trackingPart other) := by
  intro s t viewed
  refine matches_on (alike _ _ (congrArg DeviceView.registry viewed)) fun next after seen => ?_
  simp only [view, ProfiledDevice.view, DeviceView.mk.injEq] at viewed
  simp only [view, ProfiledDevice.view, trackingPart, show next.registry.view = after.registry.view from seen, viewed]

end Parts

theorem alike_get_queue (family index : UInt32) : Alike view (· = ·) (getQueue family index) (getQueue family index) := by
  refine alike_bind (alike_driver (Driver.alike_do_call rfl (alike_pure rfl))) ?_
  rintro raw _ rfl
  exact alike_registry (Registry.alike_register_queue raw family index)

theorem matches_allocate (level : BufferLevel) {s t : DeviceScope} (viewed : s.view = t.view)
    (scripted : s.device.driver.Scripted) : Matches view (Answers (· = ·)) (allocate level) s (allocate level) t := by
  have asked : Matches view (· = ·) (Act.on driverPart (Driver.allocateCommandBuffer level)) s
      (Act.on driverPart (Driver.allocateCommandBuffer level)) t := by
    refine matches_on (Driver.matches_allocate level (congrArg DeviceView.driver viewed) scripted) fun next after seen => ?_
    simp only [view, ProfiledDevice.view, DeviceView.mk.injEq] at viewed
    simp only [view, ProfiledDevice.view, driverPart, seen, viewed]
  refine matches_bind asked ?_
  rintro answer _ rfl
  cases answer with
  | error error => exact alike_pure rfl
  | ok raw => exact alike_bind (alike_registry (Registry.alike_allocate raw level)) fun _ _ same => alike_pure same

theorem alike_free (buffer : BufferHandle) : Alike view (Answers (· = ·)) (free buffer) (free buffer) := by
  refine alike_bind (alike_registry (Registry.alike_free buffer)) fun answer reply same => ?_
  obtain ⟨error, rfl, rfl⟩ | ⟨recorder, also, rfl, rfl, raw⟩ := answers_cases same
  · exact alike_pure rfl
  · dsimp only
    rw [raw]
    exact alike_bind (alike_driver (Driver.alike_do_unseen rfl (hidden_modify fun _ => rfl))) fun _ _ _ => alike_pure rfl

theorem alike_update_then_call (buffer : BufferHandle) {change : Recorder → Recorder}
    {call : RawBuffer → Act Driver (Except Error Unit)} (keeps : ∀ recorder, (change recorder).raw = recorder.raw)
    (called : ∀ raw, Alike Driver.view (· = ·) (call raw) (call raw)) :
    Alike view (Answers (· = ·)) (updateThenCall buffer change call) (updateThenCall buffer change call) := by
  have updated : Hidden Recording.view (Recording.update change) := hidden_modify fun s => keeps s.recorder
  refine alike_bind (alike_tracking (Tracking.alike_with_buffer updated updated buffer)) fun answer reply same => ?_
  obtain ⟨error, rfl, rfl⟩ | ⟨⟨raw, _⟩, ⟨_, _⟩, rfl, rfl, rfl⟩ := answers_cases same
  · exact alike_pure rfl
  · exact alike_mono (alike_driver (called raw)) fun _ _ => answers_eq.mpr

theorem alike_command (buffer : BufferHandle) (recorded : Command) :
    Alike view (Answers (· = ·)) (command buffer recorded) (command buffer recorded) := by
  refine alike_bind alike_get fun s t _ => ?_
  refine alike_bind (alike_tracking (Tracking.alike_with_buffer (Recording.hidden_command recorded _)
    (Recording.hidden_command recorded _) buffer)) fun answer reply same => ?_
  obtain ⟨error, rfl, rfl⟩ | ⟨⟨raw, trapped⟩, ⟨_, stops⟩, rfl, rfl, rfl⟩ := answers_cases same
  · exact alike_pure rfl
  · refine alike_bind (alike_driver (Driver.alike_do_unseen rfl (hidden_modify fun _ => rfl))) fun _ _ _ => ?_
    exact alike_bind (alike_hidden (hidden_emit_trap _ _ raw) (hidden_emit_trap _ _ raw)) fun _ _ _ => alike_pure rfl

theorem alike_execute (primary : BufferHandle) (secondaries : List BufferHandle) :
    Alike view (Answers (· = ·)) (execute primary secondaries) (execute primary secondaries) := by
  refine alike_bind (alike_registry (Registry.alike_execute primary secondaries)) ?_
  rintro answer _ rfl
  cases answer with
  | error error => exact alike_pure rfl
  | ok _ =>
    refine alike_bind alike_get fun s t viewed => ?_
    have registry : s.device.registry.view = t.device.registry.view := congrArg DeviceView.registry viewed
    have found := Registry.buffer_view registry primary
    dsimp only
    rw [Registry.raws_view registry]
    obtain ⟨error, here, there⟩ | ⟨recorder, also, here, there, raw⟩ := answers_cases found
    · rw [here, there]
      exact alike_pure rfl
    · rw [here, there]
      cases t.device.registry.raws secondaries with
      | error error => exact alike_pure rfl
      | ok raws =>
        dsimp only
        rw [raw]
        exact alike_bind (alike_driver (Driver.alike_do_unseen rfl (hidden_modify fun _ => rfl))) fun _ _ _ =>
          alike_pure rfl

end DeviceScope

namespace Driver

def answer (driver : Driver) (method : DriverMethod) : Except Error Unit :=
  match driver.fault? method with
  | some error => .error error
  | none => .ok ()

theorem answer_view {driver other : Driver} (viewed : driver.view = other.view) {method : DriverMethod}
    (passed : method.isOwn = false) : driver.answer method = other.answer method := by
  rw [answer, answer, fault_view viewed passed]

end Driver

namespace FrameView

def submitted (frame : FrameView) : FrameView := { frame with phase := .opened }

def advanced (frame : FrameView) : FrameView := ⟨frame.index + 1, .idle⟩

end FrameView

namespace DeviceScope

section Forwards

variable {α : Type}

-- Passes nothing on, and is seen in the frame only.
def Settles (change : FrameView → FrameView) (act : Act DeviceScope α) : Prop :=
  ∀ s, Ends act s (fun shown _ next => passedOn shown = [] ∧ next.view = { s.view with frame := change s.view.frame })
    (fun _ _ => True)

-- Passes one call on and gives the driver's answer back.
def Forwards (made : DriverCall) (change : FrameView → FrameView) (act : Act DeviceScope (Except Error Unit)) : Prop :=
  ∀ s, Ends act s
    (fun shown answer next => passedOn shown = [Driver.callEvent made s.device.driver] ∧
      answer = s.device.driver.answer made.method ∧
      next.view = { s.view with
        driver := (s.device.driver.counted made.method).view, frame := change s.view.frame })
    (fun _ _ => True)

def Gives (x : α) (act : Act DeviceScope α) : Prop :=
  ∀ s, Ends act s (fun shown y next => passedOn shown = [] ∧ y = x ∧ next.view = s.view) (fun _ _ => True)

variable {made : DriverCall} {change f g : FrameView → FrameView}

theorem gives_pure (x : α) : Gives x (Pure.pure x) := fun _ => ⟨rfl, rfl, rfl⟩

theorem gives_after {β : Type} {act : Act DeviceScope β} {rest : β → Act DeviceScope α} {x : α} (hidden : Hidden view act)
    (gives : ∀ y, Gives x (rest y)) : Gives x (act >>= rest) := by
  intro s
  rw [ends_bind]
  refine ends_mono (hidden s) ?_ (fun _ _ _ => trivial)
  rintro shown y middle ⟨none, same⟩
  refine ends_mono (gives y middle) ?_ (fun _ _ _ => trivial)
  rintro later z last ⟨still, given, kept⟩
  exact ⟨by rw [passed_on_append, none, still, List.append_nil], given, kept.trans same⟩

theorem settles_hidden {act : Act DeviceScope α} (hidden : Hidden view act) : Settles id act := hidden

theorem forwards_get {rest : DeviceScope → Act DeviceScope (Except Error Unit)}
    (forwards : ∀ s, Forwards made change (rest s)) : Forwards made change (get >>= rest) := fun s => by
  rw [ends_bind, ends_get]
  exact forwards s s

theorem forwards_after {act : Act DeviceScope α} {rest : α → Act DeviceScope (Except Error Unit)}
    (passed : made.method.isOwn = false) (settles : Settles f act) (forwards : ∀ x, Forwards made g (rest x)) :
    Forwards made (g ∘ f) (act >>= rest) := by
  intro s
  rw [ends_bind]
  refine ends_mono (settles s) ?_ (fun _ _ _ => trivial)
  rintro shown x middle ⟨none, same⟩
  have driver : middle.device.driver.view = s.device.driver.view := congrArg DeviceView.driver same
  refine ends_mono (forwards x middle) ?_ (fun _ _ _ => trivial)
  rintro later answer last ⟨passedOn, given, kept⟩
  refine ⟨?_, given.trans (Driver.answer_view driver passed), ?_⟩
  · rw [passed_on_append, none, passedOn, Driver.event_view driver passed, List.nil_append]
  · rw [kept, same, Driver.counted_view driver]
    rfl

theorem forwards_then {act : Act DeviceScope (Except Error Unit)} {rest : Except Error Unit → Act DeviceScope (Except Error Unit)}
    (forwards : Forwards made change act) (gives : ∀ answer, Gives answer (rest answer)) :
    Forwards made change (act >>= rest) := by
  intro s
  rw [ends_bind]
  refine ends_mono (forwards s) ?_ (fun _ _ _ => trivial)
  rintro shown answer middle ⟨passedOn, given, same⟩
  refine ends_mono (gives answer middle) ?_ (fun _ _ _ => trivial)
  rintro later _ last ⟨none, rfl, kept⟩
  exact ⟨by rw [passed_on_append, passedOn, none, List.append_nil], given, kept.trans same⟩

theorem forwards_call {work : Act Driver Unit} (passed : made.method.isOwn = false) (hidden : Hidden Driver.view work) :
    Forwards made id (Act.on driverPart (Driver.tryCall made work)) := by
  intro s
  have event : (Driver.callEvent made s.device.driver).isPassedOn = true := by simp [Driver.callEvent, isPassedOn, passed]
  rw [ends_on, Driver.ends_try_call, Driver.answer]
  change match s.device.driver.fault? made.method with | some _ => _ | none => _
  cases s.device.driver.fault? made.method with
  | some error => exact ⟨passed_on_call event [], rfl, rfl⟩
  | none =>
    refine ends_mono (hidden _) ?_ (fun _ _ _ => trivial)
    rintro shown _ next ⟨none, same⟩
    refine ⟨(passed_on_call event shown).trans (by rw [none]), rfl, ?_⟩
    simp only [view, ProfiledDevice.view, driverPart, same]
    rfl

end Forwards

theorem settles_note_submit : Settles FrameView.submitted noteSubmit := by
  intro s
  simp only [noteSubmit, FrameTracker.noteSubmit, ends_on, ends_bind, ends_get]
  split
  · exact ⟨rfl, rfl⟩
  · next opened =>
    refine ⟨rfl, ?_⟩
    have phase : s.device.frame.phase = .opened := by
      cases found : s.device.frame.phase with
      | idle => exact absurd found opened
      | opened => rfl
    simp only [view, ProfiledDevice.view, FrameTracker.view, FrameView.submitted, framePart, ← phase]

theorem settles_advance_frame : Settles FrameView.advanced advanceFrame := by
  intro s
  simp only [advanceFrame, FrameTracker.boundary, ends_bind, ends_get, ends_on, ends_note_if, ends_set, ends_note, ends_pure]
  refine ⟨?_, rfl⟩
  split <;> rfl

theorem settles_advance_if (endsFrame : Bool) :
    Settles (if endsFrame then FrameView.advanced else id) (advanceIf endsFrame) := by
  cases endsFrame with
  | false => exact settles_hidden (hidden_pure none)
  | true =>
    intro s
    simp only [advanceIf, if_true, ends_bind, ends_pure]
    refine ends_mono (settles_advance_frame s) ?_ (fun _ _ _ => trivial)
    rintro shown transition next ⟨none, same⟩
    exact ⟨by rw [List.append_nil, none], same⟩

theorem forwards_submit (policy : ReplayPolicy) (queue : QueueHandle) (raw : RawQueue) (batches : List (List RawBuffer))
    (buffers : List BufferHandle) (endsFrame : Bool) :
    Forwards (.queueSubmit raw batches) ((if endsFrame then FrameView.advanced else id) ∘ FrameView.submitted)
      (submit policy queue raw batches buffers endsFrame) := by
  have called : Forwards (.queueSubmit raw batches) id (Act.on driverPart (Driver.queueSubmit raw batches)) :=
    forwards_call rfl (hidden_bind (hidden_modify fun _ => rfl) fun _ => Driver.hidden_advance)
  refine forwards_after rfl settles_note_submit fun _ => forwards_get fun s => ?_
  refine forwards_after (g := id) rfl (settles_advance_if endsFrame) fun transition => forwards_get fun next => ?_
  -- The boundary is worked off before the call or after it.
  dsimp only
  split
  · exact forwards_after (g := id) rfl (settles_hidden (hidden_finish_if_any transition)) fun _ => called
  · exact forwards_then called fun answer => gives_after (hidden_replay_if _ queue buffers) fun _ =>
      gives_after (hidden_finish_if_any transition) fun _ => gives_pure answer

theorem forwards_present (raw : RawQueue) : Forwards (.queuePresent raw) FrameView.advanced (present raw) := by
  have called : Forwards (.queuePresent raw) id (Act.on driverPart (Driver.queuePresent raw)) :=
    forwards_call rfl (hidden_pure ())
  refine forwards_after (g := id) rfl settles_advance_frame fun transition => forwards_get fun next => ?_
  split
  · exact forwards_then called fun answer => gives_after (hidden_finish_frame transition) fun _ => gives_pure answer
  · exact forwards_after (g := id) rfl (settles_hidden (hidden_finish_frame transition)) fun _ => called

theorem alike_forwards {made : DriverCall} {change : FrameView → FrameView} {act other : Act DeviceScope (Except Error Unit)}
    (passed : made.method.isOwn = false) (forwards : Forwards made change act) (also : Forwards made change other) :
    Alike view (Answers (· = ·)) act other := by
  intro s t viewed
  have driver : s.device.driver.view = t.device.driver.view := congrArg DeviceView.driver viewed
  apply matches_of_ends (forwards s) (also t)
  rintro shown answer next told reply after ⟨passedOn, rfl, kept⟩ ⟨alsoPassed, rfl, stays⟩
  refine ⟨?_, answers_eq.mpr (Driver.answer_view driver passed), ?_⟩
  · rw [passedOn, alsoPassed, Driver.event_view driver passed]
  · rw [kept, stays, viewed, Driver.counted_view driver]

end DeviceScope

end GpuProfiler
