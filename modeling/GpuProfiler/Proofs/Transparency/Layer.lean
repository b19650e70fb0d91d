import Mathlib.Data.List.Forall2
import GpuProfiler.Proofs.Layer.Run
import GpuProfiler.Proofs.Transparency.Device

set_option autoImplicit false

namespace GpuProfiler

open Act Event

namespace Submission

variable {registry other : Registry} (viewed : registry.view = other.view) (device : DeviceId)

include viewed

theorem resolve_buffers_view (buffers : List BufferId) :
    resolveBuffers device registry buffers = resolveBuffers device other buffers := by
  induction buffers with
  | nil => rfl
  | cons id rest ih =>
    have found := Registry.buffer_view viewed id.buffer
    simp only [resolveBuffers, ih]
    obtain ⟨error, here, there⟩ | ⟨recorder, also, here, there, raw⟩ := answers_cases found
    · simp only [here, there]
    · simp only [here, there, raw]

theorem resolve_view (submissions : List Submission) : resolve device registry submissions = resolve device other submissions := by
  induction submissions with
  | nil => rfl
  | cons submission rest ih => simp only [resolve, resolve_buffers_view viewed device, ih]

end Submission

namespace ProfiledDevice

theorem ends_activate_unseen (driver : Driver) (backend : Backend) (config : Config) (shared : Shared) :
    Ends (activate driver backend config) shared
      (fun shown device _ => passedOn shown = [] ∧ device.view = ⟨driver.view, Registry.empty.view, ⟨0, .idle⟩⟩)
      (fun _ _ => True) := by
  have missing (available : List Counter) (filter : List String) :
      Hidden unseen (CounterSession.noteMissing available filter : Act Shared Unit) := by
    induction filter with
    | nil => exact hidden_pure ()
    | cons name rest ih => exact hidden_bind (hidden_note_if _ _) fun _ => ih
  have started : Hidden unseen (CounterSession.start backend config.counters : Act Shared (CounterSession Backend)) :=
    hidden_bind (missing _ _) fun _ => hidden_bind (hidden_note _) fun _ => hidden_pure _
  simp only [activate, ends_bind, ends_apart]
  refine ends_mono (hidden_create_trap config driver) ?_ (fun _ _ _ => trivial)
  rintro shown trap equipped ⟨none, same⟩
  refine ends_mono (started shared) ?_ (fun _ _ _ => trivial)
  rintro later session next ⟨still, _⟩
  simp only [ends_note]
  split
  · simp only [ends_bind, ends_get, ends_apart, ends_set, ends_pure]
    refine ends_mono (DeviceScope.hidden_apply _ _) ?_ (fun _ _ _ => trivial)
    rintro last _ scope ⟨silent, kept⟩
    refine ⟨by simp only [passed_on_append, none, still, silent]; rfl, ?_⟩
    exact kept.trans (by rw [DeviceScope.view, view, same]; rfl)
  · refine ⟨by simp only [passed_on_append, none, still]; rfl, ?_⟩
    rw [view, same]
    rfl

end ProfiledDevice

namespace LayerCall

def inspects : LayerCall → Bool
  | .isCapturing _ | .trapCycles _ | .recordedWorkloads _ => true
  | _ => false

def allocatesOn? : LayerCall → Option DeviceId
  | .allocate id _ => some id
  | _ => none

inductive AsSeen : LayerCall → LayerCall → Prop
  | same (call : LayerCall) : AsSeen call call
  | created (driver other : Driver) (backend also : Backend) (viewed : driver.view = other.view) :
      AsSeen (.createDevice driver backend) (.createDevice other also)

end LayerCall

namespace Layer

def view (layer : Layer) : Arena DeviceView := layer.devices.map ProfiledDevice.view

def Scripted (layer : Layer) (call : LayerCall) : Prop :=
  ∀ id ∈ call.allocatesOn?, ∀ device ∈ layer.devices.get? id, device.driver.Scripted

instance (layer : Layer) (call : LayerCall) : Decidable (layer.Scripted call) :=
  inferInstanceAs (Decidable (∀ id ∈ call.allocatesOn?, ∀ device ∈ layer.devices.get? id, device.driver.Scripted))

section Calls

variable {α : Type} {same : α → α → Prop} {s t : Layer} (viewed : s.view = t.view)

include viewed

theorem device_view (id : DeviceId) :
    Answers (fun device also => device.view = also.view) (s.device id) (t.device id) := by
  have found := Arena.get_viewed viewed id
  unfold device
  cases first : s.devices.get? id <;> cases second : t.devices.get? id <;> simp_all [Answers]

theorem device_shows {β : Type} (look : DeviceView → β) (id : DeviceId) :
    (s.device id).map (fun device => look device.view) = (t.device id).map fun device => look device.view := by
  obtain ⟨error, here, there⟩ | ⟨device, also, here, there, same⟩ := answers_cases (device_view viewed id)
  · rw [here, there, Except.map]
  · rw [here, there, Except.map, Except.map, same]

theorem recorder_view (buffer : BufferId) :
    Answers (fun recorder also => recorder.raw = also.raw) (s.recorder buffer) (t.recorder buffer) := by
  unfold recorder
  obtain ⟨error, here, there⟩ | ⟨device, also, here, there, found⟩ := answers_cases (device_view viewed buffer.device)
  · rw [here, there]
    exact rfl
  · rw [here, there]
    exact Registry.buffer_view (congrArg DeviceView.registry found) buffer.buffer

theorem matches_on_device (id : DeviceId) {act other : Act DeviceScope (Except Error α)}
    (within : ∀ device also, s.devices.get? id = some device → device.view = also.view →
      Matches DeviceScope.view (Answers same) act ⟨device, s.shared⟩ other ⟨also, t.shared⟩) :
    Matches view (Answers same) (onDevice id act) s (onDevice id other) t := by
  intro shown x next told y after ran went
  obtain ⟨_, _, _, _, start, onward, rfl⟩ := bind_ok ran
  obtain ⟨_, _, _, _, begun, along, rfl⟩ := bind_ok went
  cases start
  cases begun
  obtain ⟨error, here, there⟩ | ⟨device, also, here, there, found⟩ := answers_cases (device_view viewed id)
  · rw [here] at onward
    rw [there] at along
    cases onward
    cases along
    exact ⟨rfl, rfl, viewed⟩
  · rw [here] at onward
    rw [there] at along
    have live := (device_ok s id device).mp here
    exact matches_on (within device also live found)
      (fun scope other seen => Arena.set_viewed viewed id seen) _ _ _ _ _ _ onward along

theorem matches_within (id : DeviceId) {act : Act DeviceScope (Except Error α)}
    (alike : Alike DeviceScope.view (Answers same) act act) :
    Matches view (Answers same) (onDevice id act) s (onDevice id act) t :=
  matches_on_device viewed id fun device also _ seen => alike ⟨device, s.shared⟩ ⟨also, t.shared⟩ seen

theorem matches_create_device {driver other : Driver} (backend also : Backend) (same : driver.view = other.view) :
    Matches view (· = ·) (createDevice driver backend) s (createDevice other also) t := by
  have ends (driver : Driver) (backend : Backend) (layer : Layer) : Ends (createDevice driver backend) layer
      (fun shown id next => passedOn shown = [] ∧ ∃ device, device.view = ⟨driver.view, Registry.empty.view, ⟨0, .idle⟩⟩ ∧
        id = (layer.devices.insert device).1 ∧ next.devices = (layer.devices.insert device).2) (fun _ _ => True) := by
    simp only [createDevice, ends_bind, ends_get, ends_on]
    refine ends_mono (ProfiledDevice.ends_activate_unseen driver backend _ _) ?_ (fun _ _ _ => trivial)
    rintro shown device shared ⟨none, born⟩
    simp only [ends_set, ends_pure]
    exact ⟨by simpa using none, device, born, rfl, rfl⟩
  apply matches_of_ends (ends driver backend s) (ends other also t)
  rintro shown id next told name after ⟨none, device, born, rfl, here⟩ ⟨still, found, arose, rfl, there⟩
  have inserted := Arena.insert_viewed viewed (show device.view = found.view by rw [born, arose, same])
  exact ⟨by rw [none, still], inserted.1, by rw [view, view, here, there, inserted.2]⟩

end Calls

theorem alike_destroy_device (id : DeviceId) : Alike view (Answers (· = ·)) (destroyDevice id) (destroyDevice id) := by
  apply alike_bind alike_get
  intro s t viewed
  obtain ⟨taken, kept⟩ := Arena.remove_viewed viewed id
  rcases first : s.devices.remove id with ⟨_ | device, rest⟩ <;>
    rcases second : t.devices.remove id with ⟨_ | also, left⟩ <;> rw [first, second] at taken kept
  · exact alike_pure rfl
  · cases taken
  · cases taken
  · refine alike_bind (alike_set kept) fun _ _ _ => ?_
    refine alike_bind (alike_hidden (hidden_note _) (hidden_note _)) fun _ _ _ => ?_
    refine alike_bind (alike_hidden (hidden_apart (ProfiledDevice.hidden_destroy_trap device))
      (hidden_apart (ProfiledDevice.hidden_destroy_trap also))) fun _ _ _ => alike_pure rfl

theorem alike_submit_under (policy : ReplayPolicy) (queue : QueueId) (submissions : List Submission) :
    Alike view (Answers (· = ·)) (submitUnder policy queue submissions) (submitUnder policy queue submissions) := by
  refine fun s t viewed => matches_within viewed _ (alike_bind alike_get fun scope other same => ?_)
  have registry : scope.device.registry.view = other.device.registry.view := congrArg DeviceView.registry same
  have found := Registry.queue_view registry queue.queue
  dsimp only
  rw [Submission.resolve_view registry]
  obtain ⟨error, here, there⟩ | ⟨tracked, also, here, there, raw⟩ := answers_cases found
  · rw [here, there]
    exact alike_pure rfl
  · rw [here, there]
    dsimp only
    rw [raw]
    split
    · exact alike_pure rfl
    · next batches buffers _ =>
      have forwards := DeviceScope.forwards_submit policy queue.queue also.raw batches buffers (submissions.any (·.endsFrame))
      exact DeviceScope.alike_forwards rfl forwards forwards

theorem alike_present (queue : QueueId) : Alike view (Answers (· = ·)) (present queue) (present queue) := by
  refine fun s t viewed => matches_within viewed _ (alike_bind alike_get fun scope other same => ?_)
  have found := Registry.queue_view (congrArg DeviceView.registry same) queue.queue
  obtain ⟨error, here, there⟩ | ⟨tracked, also, here, there, raw⟩ := answers_cases found
  · rw [here, there]
    exact alike_pure rfl
  · rw [here, there]
    dsimp only
    rw [raw]
    exact DeviceScope.alike_forwards rfl (DeviceScope.forwards_present _) (DeviceScope.forwards_present _)

theorem alike_look {find : Layer → LayerReply} {same : LayerReply → LayerReply → Prop}
    (found : ∀ s t : Layer, s.view = t.view → same (find s) (find t)) : Alike view same (look find) (look find) := by
  intro s t viewed shown x next told y after ran went
  cases ran
  cases went
  exact ⟨rfl, found s t viewed, viewed⟩

theorem matches_perform {s t : Layer} (viewed : s.view = t.view) {call other : LayerCall} (seen : call.AsSeen other)
    (scripted : s.Scripted call) :
    Matches view (fun reply also => call.inspects = false → reply = also) (perform call) s (perform other) t := by
  have answered {α : Type} {act : Act Layer (Except Error α)} (reply : α → LayerReply)
      (within : Matches view (Answers (· = ·)) act s act t) :
      Matches view (fun reply also => call.inspects = false → reply = also)
        (do return LayerReply.ofAnswer reply (← act)) s (do return LayerReply.ofAnswer reply (← act)) t := by
    refine matches_bind within fun x y same => alike_pure fun _ => ?_
    rw [answers_eq.mp same]
  cases seen with
  | created driver other backend also viewing =>
    refine matches_bind (matches_create_device viewed backend also viewing) ?_
    rintro id _ rfl
    exact alike_pure fun _ => rfl
  | same call =>
    cases call with
    | createDevice driver backend =>
      refine matches_bind (matches_create_device viewed backend backend rfl) ?_
      rintro id _ rfl
      exact alike_pure fun _ => rfl
    | destroyDevice id => exact answered _ (alike_destroy_device id s t viewed)
    | getQueue id family index =>
      refine answered _ (matches_within viewed id ?_)
      refine alike_bind (DeviceScope.alike_get_queue family index) ?_
      rintro queue _ rfl
      exact alike_pure rfl
    | allocate id level =>
      refine answered _ (matches_on_device viewed id fun device also live same => ?_)
      refine matches_bind (DeviceScope.matches_allocate level same (scripted id rfl device live)) ?_
      intro buffer other same
      rw [answers_eq.mp same]
      exact alike_pure (answers_eq.mpr rfl)
    | free buffer => exact answered _ (matches_within viewed _ (DeviceScope.alike_free buffer.buffer))
    | beginBuffer buffer | resetBuffer buffer =>
      exact answered _ (matches_within viewed _ (DeviceScope.alike_update_then_call buffer.buffer (fun _ => rfl) fun raw =>
        Driver.alike_try_unseen rfl (hidden_modify fun _ => rfl)))
    | endBuffer buffer =>
      exact answered _ (matches_within viewed _ (DeviceScope.alike_update_then_call buffer.buffer (fun _ => rfl) fun raw =>
        Driver.alike_try_unseen rfl (hidden_pure ())))
    | command buffer recorded =>
      exact answered _ (matches_within viewed _ (DeviceScope.alike_command buffer.buffer recorded))
    | execute buffer secondaries =>
      refine answered _ (matches_within viewed _ ?_)
      split
      · exact alike_pure rfl
      · exact DeviceScope.alike_execute _ _
    | submit queue submissions => exact answered _ (alike_submit_under _ queue submissions s t viewed)
    | present queue => exact answered _ (alike_present queue s t viewed)
    | frameIndex id =>
      refine alike_look (fun s t viewed _ => ?_) s t viewed
      exact congrArg (LayerReply.ofAnswer LayerReply.number) (device_shows viewed (·.frame.index) id)
    | framePhase id =>
      refine alike_look (fun s t viewed _ => ?_) s t viewed
      exact congrArg (LayerReply.ofAnswer LayerReply.phase) (device_shows viewed (·.frame.phase) id)
    | rawBuffer buffer =>
      refine alike_look (fun s t viewed _ => ?_) s t viewed
      rw [rawBuffer, rawBuffer, (answers_map Recorder.raw).mp (recorder_view viewed buffer)]
    | deviceCount =>
      refine alike_look (fun s t viewed _ => ?_) s t viewed
      exact congrArg (fun devices : Arena DeviceView => LayerReply.number devices.size) viewed
    | isCapturing _ | trapCycles _ | recordedWorkloads _ =>
      refine alike_look (fun s t viewed asked => ?_) s t viewed
      cases asked

def submitted (layer : Layer) (queue : QueueId) (submissions : List Submission) : Except Error (Driver × DriverCall) :=
  match layer.device queue.device with
  | .error error => .error error
  | .ok device =>
    match device.registry.queue queue.queue with
    | .error error => .error error
    | .ok tracked =>
      (Submission.resolve queue.device device.registry submissions).map fun (batches, _) =>
        (device.driver, .queueSubmit tracked.raw batches)

def presented (layer : Layer) (queue : QueueId) : Except Error (Driver × DriverCall) :=
  match layer.device queue.device with
  | .error error => .error error
  | .ok device => (device.registry.queue queue.queue).map fun tracked => (device.driver, .queuePresent tracked.raw)

-- Passed on once with the driver's answer given back, or not passed on at all.
def PassedOnce (asked : Except Error (Driver × DriverCall)) (shown : List Event) (reply : LayerReply) : Prop :=
  match asked with
  | .error error => passedOn shown = [] ∧ reply = .failed error
  | .ok (driver, made) =>
    passedOn shown = [Driver.callEvent made driver] ∧ reply = .ofAnswer (fun _ => .done) (driver.answer made.method)

theorem ends_submit_once (layer : Layer) (queue : QueueId) (submissions : List Submission) :
    Ends (perform (.submit queue submissions)) layer
      (fun shown reply _ => PassedOnce (layer.submitted queue submissions) shown reply) (fun _ _ => True) := by
  simp only [perform, submit, submitUnder, ends_bind, ends_pure, ends_on_device, ends_get, submitted, Layer.device]
  cases layer.devices.get? queue.device with
  | none => exact ⟨rfl, rfl⟩
  | some device =>
    dsimp only
    cases device.registry.queue queue.queue with
    | error error => exact ⟨rfl, rfl⟩
    | ok tracked =>
      dsimp only
      cases Submission.resolve queue.device device.registry submissions with
      | error error => exact ⟨rfl, rfl⟩
      | ok resolved =>
        refine ends_mono (DeviceScope.forwards_submit _ _ _ _ _ _ _) ?_ (fun _ _ _ => trivial)
        rintro shown _ next ⟨passed, rfl, _⟩
        exact ⟨by simpa using passed, rfl⟩

theorem ends_present_once (layer : Layer) (queue : QueueId) :
    Ends (perform (.present queue)) layer
      (fun shown reply _ => PassedOnce (layer.presented queue) shown reply) (fun _ _ => True) := by
  simp only [perform, present, ends_bind, ends_pure, ends_on_device, ends_get, presented, Layer.device]
  cases layer.devices.get? queue.device with
  | none => exact ⟨rfl, rfl⟩
  | some device =>
    dsimp only
    cases device.registry.queue queue.queue with
    | error error => exact ⟨rfl, rfl⟩
    | ok tracked =>
      refine ends_mono (DeviceScope.forwards_present _ _) ?_ (fun _ _ _ => trivial)
      rintro shown _ next ⟨passed, rfl, _⟩
      exact ⟨by simpa using passed, rfl⟩

end Layer

namespace LayerStep

structure Indistinct (step other : LayerStep) : Prop where
  replies : step.call.inspects = false → step.reply = other.reply
  calls : passedOn step.shown = passedOn other.shown

end LayerStep

namespace Layer

theorem run_made {allowed : Layer → LayerCall → Prop} {first last : Layer} {steps : List LayerStep}
    (run : Run allowed first steps last) {step : LayerStep} (member : step ∈ steps) :
    perform step.call step.before = ⟨step.shown, .ok (step.reply, step.after)⟩ := by
  induction run with
  | start => cases member
  | step steps layer next call shown reply _ _ made ih =>
    rcases List.mem_append.mp member with before | now
    · exact ih before
    · obtain rfl := List.mem_singleton.mp now
      exact made

theorem runs_indistinct {first second last final : Layer} {steps others : List LayerStep} (viewed : first.view = second.view)
    (run : Run Scripted first steps last) (other : Run (fun _ _ => True) second others final)
    (calls : List.Forall₂ (fun step other => step.call.AsSeen other.call) steps others) :
    List.Forall₂ LayerStep.Indistinct steps others ∧ last.view = final.view := by
  induction run generalizing others final with
  | start =>
    cases calls
    generalize nothing : ([] : List LayerStep) = made at other
    cases other with
    | start => exact ⟨.nil, viewed⟩
    | step => simp at nothing
  | step steps layer next call shown reply _ scripted made ih =>
    cases other with
    | start => simpa using calls.length_eq
    | step others layer' next' call' shown' reply' run' _ made' =>
      rw [← List.forall₂_reverse_iff, List.reverse_concat, List.reverse_concat] at calls
      obtain ⟨here, before⟩ := List.forall₂_cons.mp calls
      obtain ⟨alike, same⟩ := ih run' (List.forall₂_reverse_iff.mp before)
      obtain ⟨passed, replied, ended⟩ := matches_perform same here scripted _ _ _ _ _ _ made made'
      exact ⟨List.rel_append alike (.cons ⟨replied, passed⟩ .nil), ended⟩

theorem passed_on_steps {steps others : List LayerStep} (alike : List.Forall₂ LayerStep.Indistinct steps others) :
    passedOn (steps.flatMap (·.shown)) = passedOn (others.flatMap (·.shown)) := by
  induction alike with
  | nil => rfl
  | cons here _ ih => simp only [List.flatMap_cons, passed_on_append, here.calls, ih]

/-- Whatever the configuration, the replies are those of a layer that does not profile, except to
questions about the profiling itself, and the calls passed on to the drivers are the same ones in the
same order. An accepted submission or presentation is passed on once, with the driver's answer given
back. -/
theorem profiling_is_transparent (config : Config) (endpoint other : ShowingEndpoint) (steps plain : List LayerStep)
    (last final : Layer) (run : Run Scripted (fresh config endpoint) steps last)
    (disabled : Run (fun _ _ => True) (fresh .default other) plain final)
    (calls : List.Forall₂ (fun step other => step.call.AsSeen other.call) steps plain) :
    List.Forall₂ (fun step other => step.call.inspects = false → step.reply = other.reply) steps plain ∧
      passedOn (steps.flatMap (·.shown)) = passedOn (plain.flatMap (·.shown)) ∧
      ∀ step ∈ steps ++ plain,
        (∀ queue submissions, step.call = .submit queue submissions →
          PassedOnce (step.before.submitted queue submissions) step.shown step.reply) ∧
        ∀ queue, step.call = .present queue → PassedOnce (step.before.presented queue) step.shown step.reply := by
  have empty : (fresh config endpoint).view = (fresh .default other).view := rfl
  obtain ⟨alike, _⟩ := runs_indistinct empty run disabled calls
  refine ⟨alike.imp fun _ _ here => here.replies, passed_on_steps alike, fun step member => ?_⟩
  have made : perform step.call step.before = ⟨step.shown, .ok (step.reply, step.after)⟩ := by
    rcases List.mem_append.mp member with profiled | unprofiled
    · exact run_made run profiled
    · exact run_made disabled unprofiled
  refine ⟨fun queue submissions asked => ?_, fun queue asked => ?_⟩
  · rw [asked] at made
    exact ends_of_ok (ends_submit_once step.before queue submissions) made
  · rw [asked] at made
    exact ends_of_ok (ends_present_once step.before queue) made

theorem seen_same {steps others : List LayerStep} (same : steps.map (·.call) = others.map (·.call)) :
    List.Forall₂ (fun step other => step.call.AsSeen other.call) steps others := by
  rw [← List.forall₂_eq_eq_eq, List.forall₂_map_left_iff, List.forall₂_map_right_iff] at same
  exact same.imp fun step other here => here ▸ .same step.call

def dispatchCalls : List LayerCall := [
  .createDevice (.new "gpu" [] [40] false) .empty,
  .getQueue ⟨0, 0⟩ 0 0,
  .allocate ⟨0, 0⟩ .primary,
  .beginBuffer ⟨⟨0, 0⟩, ⟨0, 0⟩⟩,
  .command ⟨⟨0, 0⟩, ⟨0, 0⟩⟩ (.dispatch 1 1 1),
  .endBuffer ⟨⟨0, 0⟩, ⟨0, 0⟩⟩,
  .submit ⟨⟨0, 0⟩, ⟨0, 0⟩⟩ [⟨[⟨⟨0, 0⟩, ⟨0, 0⟩⟩], false⟩],
  .present ⟨⟨0, 0⟩, ⟨0, 0⟩⟩,
  .trapCycles ⟨0, 0⟩]

def profiledDispatch : List LayerStep := (fresh (Config.default.withFrameList [0]) ⟨[], 0⟩).trace dispatchCalls

def plainDispatch : List LayerStep := (fresh .default ⟨[], 0⟩).trace dispatchCalls

theorem profiled_dispatch_looks_plain :
    Run Scripted (fresh (Config.default.withFrameList [0]) ⟨[], 0⟩) profiledDispatch
        ((fresh (Config.default.withFrameList [0]) ⟨[], 0⟩).outcome profiledDispatch) ∧
      Run (fun _ _ => True) (fresh .default ⟨[], 0⟩) plainDispatch ((fresh .default ⟨[], 0⟩).outcome plainDispatch) ∧
      profiledDispatch.map (·.reply) = [.device ⟨0, 0⟩, .queue ⟨⟨0, 0⟩, ⟨0, 0⟩⟩, .buffer ⟨⟨0, 0⟩, ⟨0, 0⟩⟩, .done, .done,
        .done, .done, .done, .number 1] ∧
      plainDispatch.map (·.reply) = [.device ⟨0, 0⟩, .queue ⟨⟨0, 0⟩, ⟨0, 0⟩⟩, .buffer ⟨⟨0, 0⟩, ⟨0, 0⟩⟩, .done, .done,
        .done, .done, .done, .number 0] ∧
      List.Forall₂ (fun step other => step.call.inspects = false → step.reply = other.reply) profiledDispatch plainDispatch ∧
      passedOn (profiledDispatch.flatMap (·.shown)) = passedOn (plainDispatch.flatMap (·.shown)) := by
  have scripted : ∀ step ∈ profiledDispatch, step.before.Scripted step.call := by decide +kernel
  have run : Run Scripted _ profiledDispatch _ := run_trace dispatchCalls _ scripted
  have plain : Run (fun _ _ => True) _ plainDispatch _ := run_trace dispatchCalls _ fun _ _ => trivial
  have calls : profiledDispatch.map (·.call) = plainDispatch.map (·.call) := by decide +kernel
  have alike := profiling_is_transparent _ _ _ _ _ _ _ run plain (seen_same calls)
  exact ⟨run, plain, by decide +kernel, by decide +kernel, alike.1, alike.2.1⟩

def profiledStart : Layer :=
  (fresh (Config.default.withFrameList [0]) ⟨[], 0⟩).outcome
    ((fresh (Config.default.withFrameList [0]) ⟨[], 0⟩).trace [.createDevice (.new "gpu" [] [] false) .empty])

def plainStart : Layer :=
  (fresh .default ⟨[], 0⟩).outcome ((fresh .default ⟨[], 0⟩).trace [.createDevice (.new "gpu" [] [] false) .empty])

-- The totals tell whether there is profiling: a message was sent about the frame that begins, or none.
theorem profiling_shows_in_totals :
    profiledStart.devices.size = 1 ∧ plainStart.devices.size = 1 ∧
      profiledStart.shared.sender.sent = 1 ∧ plainStart.shared.sender.sent = 0 := by
  decide +kernel

end Layer

end GpuProfiler
