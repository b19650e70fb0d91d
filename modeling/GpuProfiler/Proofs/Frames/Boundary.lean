import GpuProfiler.Proofs.Device.Drained
import GpuProfiler.Proofs.Frames.Cycles

set_option autoImplicit false

namespace GpuProfiler

namespace Config

-- The frames whose work is captured, the frames whose counters are reported, and the frames at whose
-- end there is a sample: for a report, or so that the next frame starts afresh.
def captures (config : Config) (frame : Nat) : Bool := config.isOfInterest frame && config.sampleWorkloads

def reports (config : Config) (frame : Nat) : Bool := config.isOfInterest frame && config.sampleFrames

def probes (config : Config) (frame : Nat) : Bool := config.reports frame || config.isOfInterest (frame + 1)

def endMarks (config : Config) (frame : Nat) : List Message := if config.captures frame then [.endFrame frame] else []

def startMarks (config : Config) (frame : Nat) : List Message := if config.captures frame then [.startFrame frame] else []

def marksBehind (config : Config) (frame : Nat) : List Message := config.endMarks frame ++ config.startMarks (frame + 1)

end Config

def FrameTransition.marks (transition : FrameTransition) : List Message :=
  (if transition.actions.endFrame then [.endFrame transition.closing] else []) ++
    if transition.actions.startFrame then [.startFrame transition.opening] else []

namespace LayerCall

def bounds : LayerCall → Bool
  | .submit _ submissions => submissions.any (·.endsFrame)
  | .present _ => true
  | _ => false

end LayerCall

namespace CounterSession

-- A wait and an attempt to sample at the end of a frame, if it is wanted, with nothing but notes in
-- between. If it succeeds, all counters are read where the frame is to be reported.
inductive Probed (reports : Bool) (frame : Nat) (session : CounterSession Backend) :
    Bool → List Event → CounterSession Backend → Prop
  | spared : Probed reports frame session false [] session
  | probed (driver : String) (failed : Bool) (notes latch behind : List Event) (latched : Bool)
      (middle next : CounterSession Backend) (counters : List Reading) (quiet : ∀ event ∈ notes, event.isNote = true)
      (tried : sampleNow session = ⟨latch, .ok (latched, middle)⟩) (read : Reads middle (latched && reports) counters next)
      (told : Event.beats behind = if latched && reports then [.reported frame counters] else []) :
      Probed reports frame session true (.call driver .deviceWaitIdle failed :: (notes ++ (latch ++ behind))) next

-- What a call comes to that is made in a frame: whether it is passed on, whether it can close the
-- frame, the trap cycles, and what it shows.
inductive Turn (config : Config) (frame : Nat) (session : CounterSession Backend) :
    Bool → Bool → Nat → List Event → CounterSession Backend → Prop
  | passed (bounds : Bool) (shown : List Event) (silent : Event.beats shown = []) :
      Turn config frame session false bounds 0 shown session
  | ran (count : Nat) (cycles : List Beat) (shown : List Event) (next : CounterSession Backend)
      (cycled : Cycles session count cycles next) (beats : Event.beats shown = .forwarded :: cycles) :
      Turn config frame session true false count shown next
  | early (shown : List Event) (unprobed : config.probes frame = false)
      (beats : Event.beats shown = (config.marksBehind frame).map .marked ++ [.forwarded]) :
      Turn config frame session true true 0 shown session
  | late (count : Nat) (cycles : List Beat) (ahead probe : List Event) (middle next : CounterSession Backend)
      (cycled : Cycles session count cycles middle)
      (beats : Event.beats ahead = .forwarded :: (cycles ++ (config.marksBehind frame).map .marked))
      (probed : Probed (config.reports frame) frame middle (config.probes frame) probe next) :
      Turn config frame session true true count (ahead ++ probe) next

section Probing

variable {config : Config} {frame count : Nat} {session middle next : CounterSession Backend} {shown : List Event}

theorem probe_beats {driver : String} {failed latched reports : Bool} {notes latch behind : List Event}
    {counters : List Reading} (quiet : ∀ event ∈ notes, event.isNote = true)
    (tried : sampleNow session = ⟨latch, .ok (latched, middle)⟩)
    (told : Event.beats behind = if latched && reports then [.reported frame counters] else []) :
    Event.beats (.call driver .deviceWaitIdle failed :: (notes ++ (latch ++ behind))) =
      .idled failed :: (session.backend.attempt (!latched) ++
        if latched && reports then [.reported frame counters] else []) := by
  have attempt := (Act.ends_of_ok (ends_sample_now_beats session) tried).1
  simp [Event.beat?, DriverCall.beat?, Event.beats_notes quiet, attempt, told]

theorem probed_attempts {reports wanted : Bool} (probed : Probed reports frame session wanted shown next) :
    next.attempts = session.attempts + wanted.toNat := by
  cases probed with
  | spared => rfl
  | probed driver failed notes latch behind latched middle _ counters quiet tried read told =>
    rw [reads_attempts read, (Act.ends_of_ok (ends_sample_now_beats session) tried).2]
    rfl

theorem probed_spared {reports : Bool} (probed : Probed reports frame session false shown next) :
    shown = [] ∧ next = session := by
  cases probed with
  | spared => exact ⟨rfl, rfl⟩

theorem turn_attempts {accepted bounds : Bool} (turn : Turn config frame session accepted bounds count shown next) :
    next.attempts = session.attempts + count + (accepted && bounds && config.probes frame).toNat := by
  cases turn with
  | passed bounds => rfl
  | ran _ cycles _ _ cycled => exact cycles_attempts cycled
  | early _ unprobed => simp [unprobed]
  | late _ cycles ahead probe middle _ cycled _ probed => simp [probed_attempts probed, cycles_attempts cycled]

end Probing

end CounterSession

structure FrameTransition.Due (transition : FrameTransition) (config : Config) (frame : Nat) : Prop where
  closing : transition.closing = frame
  marks : transition.marks = config.marksBehind frame
  reports : transition.actions.sampleFrame = config.reports frame
  probes : transition.actions.needsSample = config.probes frame

theorem FrameTracker.transition_due {tracker : FrameTracker} {config : Config}
    (known : tracker.ofInterest = config.isOfInterest tracker.index) (samples : config.samplesAny = true) :
    (tracker.transition config).Due config tracker.index := by
  constructor
  · rfl
  · simp only [transition, FrameTransition.marks, known]
    rfl
  · simp only [transition, known]
    rfl
  · simp only [transition, known, samples, Bool.and_true]
    rfl

namespace ProfiledDevice

def accepts (device : ProfiledDevice) : LayerCall → Bool
  | .submit queue submissions =>
    (device.registry.queue queue.queue).isOk && (Submission.resolve queue.device device.registry submissions).isOk
  | .present queue => (device.registry.queue queue.queue).isOk
  | _ => false

def stopsIn (device : ProfiledDevice) : LayerCall → Bool
  | .submit _ submissions => device.registry.hasTraps ((submissions.flatMap (·.buffers)).map (·.buffer))
  | _ => false

structure InFrame (device : ProfiledDevice) (config : Config) (frame : Nat) : Prop where
  configured : device.config = config
  samples : config.samplesAny = true
  profiling : device.isProfiling = true
  index : device.frame.index = frame
  known : device.frame.ofInterest = config.isOfInterest frame

structure Onward (device next : ProfiledDevice) (count : Nat) : Prop where
  config : next.config = device.config
  frame : next.frame = device.frame
  profiling : next.isProfiling = device.isProfiling
  cycles : next.trapCycles = device.trapCycles + count

theorem onward_trans {device middle next : ProfiledDevice} {count more : Nat} (first : Onward device middle count)
    (second : Onward middle next more) : Onward device next (count + more) :=
  ⟨second.config.trans first.config, second.frame.trans first.frame, second.profiling.trans first.profiling,
    by rw [second.cycles, first.cycles, Nat.add_assoc]⟩

theorem in_frame_onward {device next : ProfiledDevice} {config : Config} {frame count : Nat}
    (here : device.InFrame config frame) (onward : Onward device next count) : next.InFrame config frame :=
  ⟨onward.config.trans here.configured, here.samples, onward.profiling.trans here.profiling,
    by rw [onward.frame, here.index], by rw [onward.frame, here.known]⟩

end ProfiledDevice

namespace DeviceScope

open ProfiledDevice

def kept (s : DeviceScope) : Config × FrameTracker × Option Trap × CounterSession Backend :=
  (s.device.config, s.device.frame, s.device.trap, s.device.session)

theorem onward_kept {s next : DeviceScope} (same : kept next = kept s) :
    Onward s.device next.device 0 ∧ next.device.session = s.device.session := by
  simp only [kept, Prod.mk.injEq] at same
  obtain ⟨config, frame, trap, session⟩ := same
  exact ⟨⟨config, frame, by rw [isProfiling, isProfiling, trap], by rw [trapCycles, trapCycles, trap]; rfl⟩, session⟩

section Aside

theorem keeping_get_queue (family index : UInt32) : Act.Keeping kept (getQueue family index) [] :=
  Act.keeping_then (Act.keeping_on (fun _ _ => rfl) (Driver.hushed_get_device_queue family index)) fun raw =>
    Act.keeping_on (fun _ _ => rfl) (Registry.hushed_register_queue raw family index)

theorem keeping_allocate (level : BufferLevel) : Act.Keeping kept (allocate level) [] := by
  apply Act.keeping_then (Act.keeping_on (fun _ _ => rfl) (Driver.hushed_allocate level))
  intro answer
  cases answer with
  | error error => exact Act.keeping_pure _
  | ok raw =>
    exact Act.keeping_then (Act.keeping_on (fun _ _ => rfl) (Registry.hushed_allocate raw level)) fun _ =>
      Act.keeping_pure _

theorem keeping_free (buffer : BufferHandle) : Act.Keeping kept (free buffer) [] := by
  apply Act.keeping_then (Act.keeping_on (fun _ _ => rfl) (Registry.hushed_free buffer))
  intro answer
  cases answer with
  | error error => exact Act.keeping_pure _
  | ok recorder =>
    have freed : Act.Hushed (Driver.freeCommandBuffer recorder.raw) :=
      Driver.hushed_do_call (fun _ => rfl) (Act.hushed_modify _)
    exact Act.keeping_then (Act.keeping_on (fun _ _ => rfl) freed) fun _ => Act.keeping_pure _

theorem keeping_update_then_call (buffer : BufferHandle) (change : Recorder → Recorder)
    (call : RawBuffer → Act Driver (Except Error Unit)) (hushed : ∀ raw, Act.Hushed (call raw)) :
    Act.Keeping kept (updateThenCall buffer change call) [] := by
  have told : Act.Hushed (Recording.update change) := Act.hushed_modify _
  apply Act.keeping_then (Act.keeping_on (fun _ _ => rfl) (Tracking.hushed_with_buffer buffer told))
  intro answer
  cases answer with
  | error error => exact Act.keeping_pure _
  | ok found => exact Act.keeping_on (fun _ _ => rfl) (hushed found.1)

theorem keeping_emit_trap (wanted : Bool) (events : Option TrapEvents) (raw : RawBuffer) :
    Act.Keeping kept (emitTrap wanted events raw) [] := by
  cases wanted with
  | false => exact Act.keeping_pure _
  | true =>
    cases events with
    | none => exact Act.keeping_pure _
    | some events => exact Act.keeping_on (fun _ _ => rfl) (events.hushed_emit raw)

theorem keeping_command (buffer : BufferHandle) (recorded : Command) : Act.Keeping kept (command buffer recorded) [] := by
  apply Act.keeping_bind Act.keeping_get
  intro s
  apply Act.keeping_then (Act.keeping_on (fun _ _ => rfl)
    (Tracking.hushed_with_buffer buffer (Recording.hushed_command recorded s.device.captureMode)))
  intro answer
  cases answer with
  | error error => exact Act.keeping_pure _
  | ok found =>
    apply Act.keeping_then (Act.keeping_on (fun _ _ => rfl) (Driver.hushed_command found.1 recorded))
    exact fun _ => Act.keeping_then (keeping_emit_trap _ _ _) fun _ => Act.keeping_pure _

theorem keeping_execute (primary : BufferHandle) (secondaries : List BufferHandle) :
    Act.Keeping kept (execute primary secondaries) [] := by
  apply Act.keeping_then (Act.keeping_on (fun _ _ => rfl) (Registry.hushed_execute primary secondaries))
  intro answer
  cases answer with
  | error error => exact Act.keeping_pure _
  | ok done =>
    apply Act.keeping_bind Act.keeping_get
    intro s
    have executed (raw : RawBuffer) (raws : List RawBuffer) : Act.Hushed (Driver.executeCommands raw raws) :=
      Driver.hushed_do_call (fun _ => rfl) (Act.hushed_modify _)
    dsimp only
    cases s.device.registry.buffer primary with
    | error error => exact Act.keeping_pure _
    | ok recorder =>
      cases s.device.registry.raws secondaries with
      | error error => exact Act.keeping_pure _
      | ok raws =>
        exact Act.keeping_then (Act.keeping_on (fun _ _ => rfl) (executed recorder.raw raws)) fun _ =>
          Act.keeping_pure _

end Aside

section Boundaries

variable (s : DeviceScope)

theorem keeping_emit_if (condition : Bool) (message : Message) :
    Act.Keeping kept (emitIf condition message) (if condition then [message.beat] else []) := by
  cases condition with
  | false => exact Act.keeping_pure _
  | true => exact Act.keeping_on (fun _ _ => rfl) (Sender.beats_emit message)

theorem ends_sample_boundary_probed (transition : FrameTransition) :
    Act.Ends (sampleBoundary transition) s
      (fun shown _ next => Onward s.device next.device 0 ∧
        s.device.session.Probed transition.actions.sampleFrame transition.closing true shown next.device.session)
      (fun _ _ => True) := by
  simp only [sampleBoundary, Act.ends_bind, Act.ends_on, Act.ends_note_failure]
  refine Act.ends_mono (Driver.ends_wait_idle_shows _) ?_ (fun _ _ _ => trivial)
  intro waited answer driver idled
  have quiet := failure_notes_notes .waitIdleFailed answer
  refine Act.ends_mono (Act.ends_self CounterSession.sampleNow s.device.session) ?_ (fun _ _ _ => trivial)
  intro latch latched middle tried
  by_cases wanted : (latched && transition.actions.sampleFrame) = true
  · simp only [wanted, if_true, Act.ends_bind, Act.ends_on]
    have read := CounterSession.keeping_read_all middle
    refine Act.ends_mono (Act.ends_and (Act.ends_self _ _) read) ?_ (fun _ _ _ => trivial)
    intro reads counters last done
    obtain ⟨ran, silent, _⟩ := done
    refine Act.ends_mono (Sender.beats_emit _ _) ?_ (fun _ _ _ => trivial)
    intro told _ _ sent
    refine ⟨⟨rfl, rfl, rfl, rfl⟩, ?_⟩
    have latches : middle.Reads true counters last := .latched reads counters last ran
    rw [idled]
    refine .probed _ _ _ latch (reads ++ told) latched middle last counters quiet tried (wanted ▸ latches) ?_
    simp [silent, sent, wanted, Message.beat]
  · simp only [wanted, Bool.false_eq_true, if_false, Act.ends_pure]
    rw [Bool.not_eq_true] at wanted
    refine ⟨⟨rfl, rfl, rfl, rfl⟩, ?_⟩
    rw [idled]
    refine .probed _ _ _ latch [] latched middle middle [] quiet tried (wanted ▸ .missed) ?_
    simp [wanted]

theorem ends_apply_probed (transition : FrameTransition) :
    Act.Ends (apply transition) s
      (fun shown _ next => Onward s.device next.device 0 ∧ ∃ ahead probe, shown = ahead ++ probe ∧
        Event.beats ahead = transition.marks.map .marked ∧
        s.device.session.Probed transition.actions.sampleFrame transition.closing transition.actions.needsSample probe
          next.device.session)
      (fun _ _ => True) := by
  simp only [apply, Act.ends_bind]
  refine Act.ends_mono (keeping_emit_if _ (.endFrame transition.closing) s) ?_ (fun _ _ _ => trivial)
  intro ended _ first done
  refine Act.ends_mono (keeping_emit_if _ (.startFrame transition.opening) first) ?_ (fun _ _ _ => trivial)
  intro started _ second also
  obtain ⟨onward, session⟩ := onward_kept (also.2.trans done.2)
  have marks : Event.beats (ended ++ started) = transition.marks.map .marked := by
    rw [Event.beats_append, done.1, also.1, FrameTransition.marks]
    cases transition.actions.endFrame <;> cases transition.actions.startFrame <;> rfl
  by_cases wanted : transition.actions.needsSample = true
  · simp only [wanted, if_true]
    refine Act.ends_mono (ends_sample_boundary_probed second transition) ?_ (fun _ _ _ => trivial)
    intro sampled _ third last
    obtain ⟨beside, probed⟩ := last
    exact ⟨onward_trans onward beside, ended ++ started, sampled, (List.append_assoc _ _ _).symm, marks, session ▸ probed⟩
  · rw [Bool.not_eq_true] at wanted
    simp only [wanted, Bool.false_eq_true, if_false, Act.ends_pure]
    exact ⟨onward, ended ++ started, [], (List.append_assoc _ _ _).symm, marks, session ▸ .spared⟩

theorem ends_finish_frame_probed {config : Config} {frame : Nat} (opened : s.device.InFrame config (frame + 1))
    {transition : FrameTransition} (due : transition.Due config frame) :
    Act.Ends (finishFrame transition) s
      (fun shown _ next => Onward s.device next.device 0 ∧ ∃ ahead probe, shown = ahead ++ probe ∧
        Event.beats ahead = (config.marksBehind frame).map .marked ∧
        s.device.session.Probed (config.reports frame) frame (config.probes frame) probe next.device.session)
      (fun _ _ => True) := by
  simp only [finishFrame, Act.ends_bind, Act.ends_get, opened.profiling, if_true]
  rw [← due.marks, ← due.reports, ← due.probes, ← due.closing]
  exact ends_apply_probed s transition

theorem ends_note_submit_frame :
    Act.Ends noteSubmit s
      (fun shown _ next => Event.beats shown = [] ∧
        ∃ phase, next = framePart.set { s.device.frame with phase := phase } s)
      (fun _ _ => True) := by
  simp only [noteSubmit, FrameTracker.noteSubmit, Act.ends_on, Act.ends_bind, Act.ends_get]
  by_cases idle : (framePart.get s).phase = .idle
  · simp only [idle, if_true, Act.ends_bind, Act.ends_note, Act.ends_set]
    exact ⟨rfl, .opened, rfl⟩
  · simp only [idle, if_false, Act.ends_pure]
    exact ⟨rfl, s.device.frame.phase, rfl⟩

theorem ends_advance_frame_due {config : Config} {frame : Nat} (here : s.device.InFrame config frame) :
    Act.Ends advanceFrame s
      (fun shown transition next => Event.beats shown = [] ∧ transition.Due config frame ∧
        next.device.InFrame config (frame + 1) ∧ ∃ tracker, next = framePart.set tracker s)
      (fun _ _ => True) := by
  simp only [advanceFrame, FrameTracker.boundary, Act.ends_bind, Act.ends_get, Act.ends_on, Act.ends_note_if,
    Act.ends_set, Act.ends_note, Act.ends_pure]
  have known : s.device.frame.ofInterest = config.isOfInterest s.device.frame.index := by rw [here.known, here.index]
  have due := FrameTracker.transition_due known here.samples
  rw [here.index] at due
  refine ⟨?_, here.configured.symm ▸ due, ?_, _, rfl⟩
  · by_cases idle : (framePart.get s).phase = .idle <;> simp [idle, Event.beat?]
  · have index : s.device.frame.index + 1 = frame + 1 := by rw [here.index]
    have interest : s.device.config.isOfInterest (s.device.frame.index + 1) = config.isOfInterest (frame + 1) := by
      rw [here.configured, index]
    exact ⟨here.configured, here.samples, here.profiling, index, interest⟩

theorem transition_samples_due {config : Config} {frame opened : Nat} {device : ProfiledDevice}
    (here : device.InFrame config opened) {transition : FrameTransition} (due : transition.Due config frame) :
    device.transitionSamples transition = config.probes frame := by
  rw [ProfiledDevice.transitionSamples, here.profiling, due.probes, Bool.true_and]

inductive Asked (config : Config) (frame : Nat) : Bool → Option FrameTransition → Prop
  | nothing : Asked config frame false none
  | boundary (transition : FrameTransition) (due : transition.Due config frame) : Asked config frame true (some transition)

theorem ends_advance_if_asked {config : Config} {frame : Nat} (here : s.device.InFrame config frame) (endsFrame : Bool) :
    Act.Ends (advanceIf endsFrame) s
      (fun shown transition next => Event.beats shown = [] ∧ Asked config frame endsFrame transition ∧
        next.device.InFrame config (frame + endsFrame.toNat) ∧ ∃ tracker, next = framePart.set tracker s)
      (fun _ _ => True) := by
  cases endsFrame with
  | false => exact ⟨rfl, .nothing, here, s.device.frame, rfl⟩
  | true =>
    simp only [advanceIf, if_true, Act.ends_bind, Act.ends_pure]
    refine Act.ends_mono (ends_advance_frame_due s here) ?_ (fun _ _ _ => trivial)
    intro shown transition next done
    obtain ⟨silent, due, opened, tracker⟩ := done
    exact ⟨by rw [List.append_nil, silent], .boundary transition due, opened, tracker⟩

theorem ends_finish_if_asked {config : Config} {frame : Nat} {endsFrame : Bool} {transition : Option FrameTransition}
    (opened : s.device.InFrame config (frame + endsFrame.toNat)) (asked : Asked config frame endsFrame transition) :
    Act.Ends (finishIfAny transition) s
      (fun shown _ next => Onward s.device next.device 0 ∧ ∃ ahead probe, shown = ahead ++ probe ∧
        Event.beats ahead = (if endsFrame then (config.marksBehind frame).map .marked else []) ∧
        s.device.session.Probed (config.reports frame) frame (endsFrame && config.probes frame) probe next.device.session)
      (fun _ _ => True) := by
  cases asked with
  | nothing => exact ⟨⟨rfl, rfl, rfl, rfl⟩, [], [], rfl, rfl, .spared⟩
  | boundary transition due => exact ends_finish_frame_probed s opened due

theorem samples_asked {config : Config} {frame : Nat} {endsFrame : Bool} {transition : Option FrameTransition}
    (opened : s.device.InFrame config (frame + endsFrame.toNat)) (asked : Asked config frame endsFrame transition) :
    transitionSamples s.device transition = (endsFrame && config.probes frame) := by
  cases asked with
  | nothing => rfl
  | boundary transition due => exact transition_samples_due opened due

end Boundaries

section Calls

theorem keeping_queue_present (raw : RawQueue) :
    Act.Keeping kept (Act.on driverPart (Driver.queuePresent raw)) [.forwarded] :=
  Act.keeping_on (fun _ _ => rfl) (Driver.beats_queue_present raw)

theorem keeping_queue_submit (raw : RawQueue) (batches : List (List RawBuffer)) :
    Act.Keeping kept (Act.on driverPart (Driver.queueSubmit raw batches)) [.forwarded] :=
  Act.keeping_on (fun _ _ => rfl) (Driver.beats_queue_submit raw batches)

variable (s : DeviceScope)

theorem ends_replay_cycles (queue : QueueHandle) (buffers : List BufferHandle) :
    Act.Ends (replay queue buffers) s
      (fun shown _ next => ∃ count, s.device.session.Cycles count (Event.beats shown) next.device.session ∧
        Onward s.device next.device count)
      (fun _ _ => True) := by
  simp only [replay, Act.ends_bind, Act.ends_get]
  cases held : s.device.trap with
  | none => exact ⟨0, .none _, ⟨rfl, rfl, rfl, rfl⟩⟩
  | some trap =>
    have onward (registry : Registry) (sampler : Sampler) (count : Nat)
        (cycles : sampler.trap.cycles = trap.cycles + count) :
        Onward s.device ((samplingPart trap).set (registry, sampler) s).device count :=
      ⟨rfl, rfl, by simp [isProfiling, samplingPart, held], by simp [trapCycles, samplingPart, held, cycles]⟩
    simp only [Registry.replay, Act.ends_on, Act.ends_bind, Act.ends_get]
    cases ((samplingPart trap).get s).1.queue queue with
    | error error => exact ⟨0, .none _, onward _ _ 0 rfl⟩
    | ok tracked =>
      cases ((samplingPart trap).get s).1.streams buffers with
      | error error => exact ⟨0, .none _, onward _ _ 0 rfl⟩
      | ok streams =>
        simp only [Act.ends_bind, Act.ends_on, Act.ends_modify, Act.ends_get, Act.ends_note, Act.ends_pure]
        refine Act.ends_mono (Sampler.advances_run_streams tracked.noteSubmit streams _) ?_ (fun _ _ _ => trivial)
        intro shown done next advances
        obtain ⟨count, cycled, cycles⟩ := advances
        refine ⟨count, ?_, onward _ _ count cycles⟩
        have from_here : s.device.session.Cycles count (Event.beats shown) next.session := cycled
        simpa [Event.beat?, samplingPart, Part.second] using from_here

theorem ends_replay_if_cycles (wanted : Bool) (queue : QueueHandle) (buffers : List BufferHandle) :
    Act.Ends (replayIf wanted queue buffers) s
      (fun shown _ next => ∃ count, s.device.session.Cycles count (Event.beats shown) next.device.session ∧
        Onward s.device next.device count ∧ (wanted = false → count = 0))
      (fun _ _ => True) := by
  cases wanted with
  | false => exact ⟨0, .none _, ⟨rfl, rfl, rfl, rfl⟩, fun _ => rfl⟩
  | true =>
    simp only [replayIf, if_true, Act.ends_bind, Act.ends_note_failure]
    refine Act.ends_mono (ends_replay_cycles s queue buffers) ?_ (fun _ _ _ => trivial)
    intro shown answer next done
    obtain ⟨count, cycled, onward⟩ := done
    refine ⟨count, ?_, onward, fun never => (nomatch never)⟩
    rw [Event.beats_append, Event.beats_notes (failure_notes_notes _ _), List.append_nil]
    exact cycled

variable {config : Config} {frame : Nat} {endsFrame : Bool} {transition : Option FrameTransition}

theorem ends_finish_ahead {forward : Act DeviceScope (Except Error Unit)} (passes : Act.Keeping kept forward [.forwarded])
    (opened : s.device.InFrame config (frame + endsFrame.toNat)) (asked : Asked config frame endsFrame transition)
    (unprobed : (endsFrame && config.probes frame) = false) {before : List Event} (silent : Event.beats before = []) :
    Act.Ends (do finishIfAny transition; forward) s
      (fun shown _ next => s.device.session.Turn config frame true endsFrame 0 (before ++ shown) next.device.session ∧
        Onward s.device next.device 0)
      (fun _ _ => True) := by
  rw [Act.ends_bind]
  refine Act.ends_mono (ends_finish_if_asked s opened asked) ?_ (fun _ _ _ => trivial)
  intro finished _ middle done
  obtain ⟨onward, ahead, probe, rfl, marks, probed⟩ := done
  refine Act.ends_mono (passes middle) ?_ (fun _ _ _ => trivial)
  intro sent answer last done
  obtain ⟨forwarded, same⟩ := done
  obtain ⟨beside, session⟩ := onward_kept same
  rw [unprobed] at probed
  obtain ⟨rfl, unchanged⟩ := CounterSession.probed_spared probed
  refine ⟨?_, onward_trans onward beside⟩
  have shows : Event.beats (before ++ (ahead ++ [] ++ sent)) =
      (if endsFrame then (config.marksBehind frame).map .marked else []) ++ [.forwarded] := by
    simp only [Event.beats_append, silent, marks, forwarded, List.nil_append, List.append_nil]
  rw [session, unchanged]
  cases endsFrame with
  | false => exact .ran 0 [] _ _ (.none _) shows
  | true => exact .early _ unprobed shows

theorem ends_finish_behind {first : DeviceScope} {count : Nat} {cycles : List Beat} {before : List Event}
    (beats : Event.beats before = .forwarded :: cycles)
    (cycled : first.device.session.Cycles count cycles s.device.session) (onward : Onward first.device s.device count)
    (opened : s.device.InFrame config (frame + endsFrame.toNat)) (asked : Asked config frame endsFrame transition) :
    Act.Ends (finishIfAny transition) s
      (fun shown _ next =>
        first.device.session.Turn config frame true endsFrame count (before ++ shown) next.device.session ∧
          Onward first.device next.device count)
      (fun _ _ => True) := by
  refine Act.ends_mono (ends_finish_if_asked s opened asked) ?_ (fun _ _ _ => trivial)
  intro finished _ last done
  obtain ⟨beside, ahead, probe, rfl, marks, probed⟩ := done
  refine ⟨?_, onward_trans onward beside⟩
  have shows : Event.beats (before ++ ahead) =
      .forwarded :: (cycles ++ if endsFrame then (config.marksBehind frame).map .marked else []) := by
    rw [Event.beats_append, beats, marks, List.cons_append]
  rw [← List.append_assoc]
  cases endsFrame with
  | false =>
    obtain ⟨rfl, unchanged⟩ := CounterSession.probed_spared probed
    rw [unchanged]
    exact .ran count cycles _ _ cycled (by simpa using shows)
  | true => exact .late count cycles _ probe _ _ cycled shows probed

theorem ends_submit_turn (here : s.device.InFrame config frame) (queue : QueueHandle) (raw : RawQueue)
    (batches : List (List RawBuffer)) (buffers : List BufferHandle) (endsFrame : Bool) :
    Act.Ends (submit ProfiledDevice.needsReplay queue raw batches buffers endsFrame) s
      (fun shown _ next => ∃ count,
        s.device.session.Turn config frame true endsFrame count shown next.device.session ∧
        next.device.InFrame config (frame + endsFrame.toNat) ∧ next.device.trapCycles = s.device.trapCycles + count ∧
        (s.device.needsReplay buffers = false → count = 0))
      (fun _ _ => True) := by
  simp only [submit, Act.ends_bind, Act.ends_get]
  refine Act.ends_mono (ends_note_submit_frame s) ?_ (fun _ _ _ => trivial)
  intro noted _ first done
  obtain ⟨quiet, phase, rfl⟩ := done
  have still : (framePart.set { s.device.frame with phase := phase } s).device.InFrame config frame :=
    ⟨here.configured, here.samples, here.profiling, here.index, here.known⟩
  have policy : (framePart.set { s.device.frame with phase := phase } s).device.needsReplay buffers =
      s.device.needsReplay buffers := rfl
  rw [policy]
  refine Act.ends_mono (ends_advance_if_asked _ still endsFrame) ?_ (fun _ _ _ => trivial)
  intro advanced transition second done
  obtain ⟨hushed, asked, opened, tracker, rfl⟩ := done
  rw [samples_asked _ opened asked]
  by_cases idle : (!s.device.needsReplay buffers && !(endsFrame && config.probes frame)) = true
  · simp only [idle, if_true]
    rw [Bool.and_eq_true, Bool.not_eq_true', Bool.not_eq_true'] at idle
    have silent : Event.beats (noted ++ advanced) = [] := by rw [Event.beats_append, quiet, hushed, List.append_nil]
    refine Act.ends_mono (ends_finish_ahead _ (keeping_queue_submit raw batches) opened asked idle.2 silent) ?_
      (fun _ _ _ => trivial)
    intro shown answer last done
    obtain ⟨turn, onward⟩ := done
    refine ⟨0, ?_, in_frame_onward opened onward, onward.cycles, fun _ => rfl⟩
    simp only [List.nil_append, ← List.append_assoc]
    exact turn
  · simp only [idle, Bool.false_eq_true, if_false, Act.ends_bind, Act.ends_pure]
    refine Act.ends_mono (keeping_queue_submit raw batches _) ?_ (fun _ _ _ => trivial)
    intro sent answer third done
    obtain ⟨forwarded, same⟩ := done
    obtain ⟨onward, session⟩ := onward_kept same
    refine Act.ends_mono (ends_replay_if_cycles third _ queue buffers) ?_ (fun _ _ _ => trivial)
    intro replayed _ fourth done
    obtain ⟨count, cycled, along, skipped⟩ := done
    have before := onward_trans onward along
    rw [session] at cycled
    rw [Nat.zero_add] at before
    have beats : Event.beats (noted ++ advanced ++ sent ++ replayed) = .forwarded :: Event.beats replayed := by
      simp only [Event.beats_append, quiet, hushed, forwarded, List.nil_append, List.singleton_append]
    refine Act.ends_mono (ends_finish_behind fourth beats cycled before (in_frame_onward opened before) asked) ?_
      (fun _ _ _ => trivial)
    intro finished _ last done
    obtain ⟨turn, all⟩ := done
    refine ⟨count, ?_, in_frame_onward opened all, all.cycles, ?_⟩
    · simp only [List.nil_append, List.append_nil, ← List.append_assoc]
      exact turn
    · intro unneeded
      exact skipped (by rw [unneeded, Bool.false_and])

theorem ends_present_turn (here : s.device.InFrame config frame) (raw : RawQueue) :
    Act.Ends (present raw) s
      (fun shown _ next => s.device.session.Turn config frame true true 0 shown next.device.session ∧
        next.device.InFrame config (frame + 1) ∧ next.device.trapCycles = s.device.trapCycles)
      (fun _ _ => True) := by
  simp only [present, Act.ends_bind, Act.ends_get]
  refine Act.ends_mono (ends_advance_frame_due s here) ?_ (fun _ _ _ => trivial)
  intro advanced transition first done
  obtain ⟨hushed, due, opened, tracker, rfl⟩ := done
  have asked := Asked.boundary transition due
  rw [transition_samples_due opened due]
  by_cases sampling : config.probes frame = true
  · simp only [sampling, if_true, Act.ends_bind, Act.ends_pure]
    refine Act.ends_mono (keeping_queue_present raw _) ?_ (fun _ _ _ => trivial)
    intro sent answer second done
    obtain ⟨forwarded, same⟩ := done
    obtain ⟨onward, session⟩ := onward_kept same
    have uncycled : (framePart.set tracker s).device.session.Cycles 0 [] second.device.session := session ▸ .none _
    have beats : Event.beats (advanced ++ sent) = [.forwarded] := by rw [Event.beats_append, hushed, forwarded]; rfl
    refine Act.ends_mono (ends_finish_behind second beats uncycled onward (in_frame_onward opened onward) asked) ?_
      (fun _ _ _ => trivial)
    intro finished _ last done
    obtain ⟨turn, all⟩ := done
    refine ⟨?_, in_frame_onward opened all, all.cycles⟩
    simp only [List.nil_append, List.append_nil, ← List.append_assoc]
    exact turn
  · rw [Bool.not_eq_true] at sampling
    simp only [sampling, Bool.false_eq_true, if_false]
    refine Act.ends_mono (ends_finish_ahead _ (keeping_queue_present raw) opened asked (by rw [sampling]; rfl) hushed) ?_
      (fun _ _ _ => trivial)
    intro shown answer last done
    obtain ⟨turn, onward⟩ := done
    refine ⟨?_, in_frame_onward opened onward, onward.cycles⟩
    rw [List.nil_append]
    exact turn

end Calls

end DeviceScope

end GpuProfiler
