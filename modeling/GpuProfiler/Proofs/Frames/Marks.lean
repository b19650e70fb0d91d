import Mathlib.Data.List.Induction
import GpuProfiler.Proofs.Frames.Diary

set_option autoImplicit false

namespace GpuProfiler

def Event.mark? : Event → Option Message
  | .message (.startFrame frame) _ => some (.startFrame frame)
  | .message (.endFrame frame) _ => some (.endFrame frame)
  | _ => none

def Event.marks (shown : List Event) : List Message := shown.filterMap mark?

def LayerStep.marks (steps : List LayerStep) : List Message := steps.flatMap fun step => Event.marks step.shown

-- The marks up to the start of a frame: a pair for each captured frame before it, and its own start.
def Config.marksUpTo (config : Config) (frame : Nat) : List Message :=
  (List.range frame).flatMap (fun earlier => config.startMarks earlier ++ config.endMarks earlier) ++
    config.startMarks frame

namespace Beat

def mark? : Beat → Option Message
  | .marked mark => some mark
  | _ => none

def marks (beats : List Beat) : List Message := beats.filterMap mark?

@[simp] theorem marks_nil : marks [] = [] := rfl

@[simp] theorem marks_cons (beat : Beat) (rest : List Beat) : marks (beat :: rest) = beat.mark?.toList ++ marks rest := by
  cases beat <;> rfl

@[simp] theorem marks_append (beats more : List Beat) : marks (beats ++ more) = marks beats ++ marks more :=
  List.filterMap_append

@[simp] theorem marks_marked (sent : List Message) : marks (sent.map .marked) = sent := by
  rw [marks, List.filterMap_map]
  exact List.filterMap_some

@[simp] theorem marks_attempt (backend : Backend) (failed : Bool) : marks (backend.attempt failed) = [] := by
  cases backend <;> rfl

theorem unmarked_ahead {first more ahead behind : List Beat} {beat : Beat} (unmarked : marks first = [])
    (outside : beat ∉ more) (split : first ++ more = ahead ++ beat :: behind) : marks ahead = [] := by
  rcases List.append_eq_append_iff.mp split with ⟨between, _, rest⟩ | ⟨between, rfl, _⟩
  · exact absurd (by simp [rest]) outside
  · rw [marks_append] at unmarked
    exact (List.append_eq_nil_iff.mp unmarked).1

end Beat

theorem Event.marks_beats (shown : List Event) : marks shown = Beat.marks (beats shown) := by
  rw [marks, beats, Beat.marks, List.filterMap_filterMap]
  apply List.filterMap_congr
  intro event _
  cases event with
  | call _ made _ => cases made <;> rfl
  | message sent _ => cases sent <;> rfl
  | _ => rfl

theorem Event.marks_append (shown more : List Event) : marks (shown ++ more) = marks shown ++ marks more :=
  List.filterMap_append

theorem Config.marks_up_to_succ (config : Config) (frame : Nat) :
    config.marksUpTo (frame + 1) = config.marksUpTo frame ++ config.marksBehind frame := by
  simp only [marksUpTo, marksBehind, List.range_succ, List.flatMap_append, List.flatMap_singleton, List.append_assoc]

theorem Config.marks_past (config : Config) {frame : Nat} (captured : config.captures frame = true) (count : Nat) :
    ∃ more, config.marksUpTo (frame + (count + 1)) = config.marksUpTo frame ++ .endFrame frame :: more := by
  induction count with
  | zero =>
    refine ⟨config.startMarks (frame + 1), ?_⟩
    rw [marks_up_to_succ, marksBehind, endMarks, if_pos captured]
    rfl
  | succ count ih =>
    obtain ⟨more, split⟩ := ih
    refine ⟨more ++ config.marksBehind (frame + (count + 1)), ?_⟩
    rw [← Nat.add_assoc, marks_up_to_succ, split, List.append_assoc]
    rfl

theorem Config.mark_past {config : Config} {frame count : Nat} {mark : Message} {more : List Message}
    (captured : config.captures frame = true)
    (split : config.marksUpTo frame ++ mark :: more = config.marksUpTo (frame + count)) : mark = .endFrame frame := by
  cases count with
  | zero => exact absurd (List.append_right_eq_self.mp split) (List.cons_ne_nil mark more)
  | succ count =>
    obtain ⟨others, past⟩ := config.marks_past captured count
    rw [past] at split
    exact (List.cons.inj (List.append_cancel_left split)).1

namespace CounterSession

variable {config : Config} {frame count : Nat} {session next : CounterSession Backend} {shown : List Event}

theorem cycles_unmarked {beats : List Beat} (cycled : Cycles session count beats next) : Beat.marks beats = [] := by
  induction cycled with
  | none => rfl
  | cycle session middle next last latch latched counters told count beats tried read message onward ih =>
    cases told <;> simp [Beat.mark?, ih]

theorem probed_unmarked {reports wanted : Bool} (probed : Probed reports frame session wanted shown next) :
    Event.marks shown = [] := by
  cases probed with
  | spared => rfl
  | probed driver failed notes latch behind latched middle _ counters quiet tried read told =>
    rw [Event.marks_beats, probe_beats quiet tried told]
    cases (latched && reports) <;> simp [Beat.mark?]

theorem probed_idle {reports wanted : Bool} (probed : Probed reports frame session wanted shown next) (work : Message) :
    .worked work ∉ Event.beats shown := by
  cases probed with
  | spared => exact List.not_mem_nil
  | probed driver failed notes latch behind latched middle _ counters quiet tried read told =>
    rw [probe_beats quiet tried told]
    cases session.backend <;> cases (latched && reports) <;> simp [Backend.attempt]

theorem turn_marks {accepted bounds : Bool} (turn : Turn config frame session accepted bounds count shown next) :
    Event.marks shown = if accepted && bounds then config.marksBehind frame else [] := by
  cases turn with
  | passed _ _ silent => rw [Event.marks_beats, silent, Beat.marks_nil, Bool.false_and, if_neg Bool.false_ne_true]
  | ran _ cycles _ _ cycled beats =>
    rw [Event.marks_beats, beats]
    simp [Beat.mark?, cycles_unmarked cycled]
  | early _ unprobed beats =>
    rw [Event.marks_beats, beats]
    simp [Beat.mark?]
  | late _ cycles ahead probe middle _ cycled beats probed =>
    rw [Event.marks_append, probed_unmarked probed, Event.marks_beats, beats]
    simp [Beat.mark?, cycles_unmarked cycled]

theorem turn_worked {accepted bounds : Bool} (turn : Turn config frame session accepted bounds count shown next)
    {ahead behind : List Beat} {work : Message} (split : Event.beats shown = ahead ++ .worked work :: behind) :
    count ≠ 0 ∧ Beat.marks ahead = [] := by
  have here : .worked work ∈ Event.beats shown := by simp [split]
  have cycling {cycles : List Beat} {middle : CounterSession Backend} (cycled : Cycles session count cycles middle)
      (inside : .worked work ∈ cycles) : count ≠ 0 := by
    intro none
    subst none
    cases cycled
    cases inside
  cases turn with
  | passed _ _ silent =>
    rw [silent] at here
    cases here
  | ran _ cycles _ _ cycled beats =>
    rw [beats] at here split
    have unmarked : Beat.marks (.forwarded :: cycles) = [] := by simp [Beat.mark?, cycles_unmarked cycled]
    have whole : .forwarded :: cycles ++ [] = ahead ++ .worked work :: behind := by rw [List.append_nil, split]
    exact ⟨cycling cycled (by simpa using here), Beat.unmarked_ahead unmarked List.not_mem_nil whole⟩
  | early _ unprobed beats =>
    rw [beats] at here
    simp at here
  | late _ cycles first probe middle _ cycled beats probed =>
    rw [Event.beats_append, beats, List.cons_append, List.append_assoc] at here split
    have unmarked : Beat.marks (.forwarded :: cycles) = [] := by simp [Beat.mark?, cycles_unmarked cycled]
    have idle : .worked work ∉ (config.marksBehind frame).map .marked ++ Event.beats probe := by
      simp [probed_idle probed work]
    refine ⟨cycling cycled ?_, Beat.unmarked_ahead unmarked idle split⟩
    rw [← List.cons_append, List.mem_append] at here
    simpa using here.resolve_right idle

theorem turn_accepted {accepted bounds : Bool} (turn : Turn config frame session accepted bounds count shown next)
    (some : count ≠ 0) : accepted = true := by
  cases turn with
  | passed bounds => exact absurd rfl some
  | ran | early | late => rfl

end CounterSession

theorem ProfiledDevice.accepts_own {device : ProfiledDevice} {queue : QueueId} {submissions : List Submission}
    (accepted : device.accepts (.submit queue submissions) = true) :
    ∀ buffer ∈ submissions.flatMap (·.buffers), buffer.device = queue.device := by
  intro buffer member
  rw [accepts, Bool.and_eq_true] at accepted
  cases found : Submission.resolve queue.device device.registry submissions with
  | error error =>
    rw [found] at accepted
    cases accepted.2
  | ok resolved => exact ((Submission.resolve_ok found).2.2 buffer member).1

namespace Layer

open LayerStep

variable {layer : Layer} {config : Config} {id : DeviceId} {allowed : Layer → LayerCall → Prop} {endpoint : ShowingEndpoint}
  {steps : List LayerStep} {creation : LayerStep} {rest : List LayerStep}

theorem marks_opened (opened : creation.Opens config id) : Event.marks creation.shown = config.marksUpTo 0 := by
  obtain ⟨_, _, _, _, _, first, ahead, probe, _, _, shown, beats, probed⟩ := opened
  rw [shown, Event.marks_append, CounterSession.probed_unmarked probed, Event.marks_beats, beats]
  simp [Config.marksUpTo]

theorem works_opened (opened : creation.Opens config id) : Event.workloads creation.shown = [] := by
  obtain ⟨_, _, _, _, _, first, ahead, probe, _, _, shown, beats, probed⟩ := opened
  apply List.filterMap_eq_nil_iff.mpr
  intro event member
  cases event with
  | message sent failed =>
    cases sent with
    | workload labels counters metadata =>
      have worked : .worked (.workload labels counters metadata) ∈ Event.beats creation.shown :=
        List.mem_filterMap.mpr ⟨_, member, rfl⟩
      rw [shown, Event.beats_append, beats] at worked
      simp [CounterSession.probed_idle probed] at worked
    | _ => rfl
  | _ => rfl

theorem run_marks (run : Run allowed (fresh config endpoint) steps layer) (life : lifeOf id steps = creation :: rest)
    (begins : creation.begins id = true) (earlier : List LayerStep) (inside : earlier <+: rest) :
    marks (creation :: earlier) = config.marksUpTo (closings earlier) := by
  induction earlier using List.reverseRecOn with
  | nil =>
    rw [marks, List.flatMap_singleton]
    exact marks_opened (run_lives run creation rest life begins).opened
  | append_singleton earlier step ih =>
    obtain ⟨session, next, count, turn, _⟩ := run_paced run life begins inside
    have before := ih ((List.prefix_append earlier [step]).trans inside)
    have here := CounterSession.turn_marks turn
    rw [← List.cons_append, marks, List.flatMap_append, ← marks, before, List.flatMap_singleton, here, closings_concat,
      closes]
    cases (step.accepted && step.call.bounds) with
    | false => exact List.append_nil _
    | true => exact (config.marks_up_to_succ _).symm

theorem worked_stops {next : Layer} {call : LayerCall} {shown : List Event} {reply : LayerReply} {frame : Nat}
    (sound : layer.Sound) (inFrame : ∀ device, layer.devices.get? id = some device → device.InFrame config frame)
    (called : call.device? = some id) (made : perform call layer = ⟨shown, .ok (reply, next)⟩) {ahead behind : List Event}
    {labels : Labels} {counters : List Reading} {metadata : Metadata} {failed : Bool}
    (split : shown = ahead ++ .message (.workload labels counters metadata) failed :: behind) :
    Event.marks ahead = [] ∧ ∃ device, layer.devices.get? id = some device ∧ device.accepts call = true ∧
      device.stopsIn call = true := by
  have beats : Event.beats shown = Event.beats ahead ++ .worked (.workload labels counters metadata) :: Event.beats behind := by
    rw [split, Event.beats_append, Event.beats_cons]
    rfl
  rcases called_turns sound inFrame called made with ⟨_, silent, _⟩ | ⟨device, moved, here, _, turned⟩
  · rw [silent] at beats
    simp at beats
  · obtain ⟨count, turn, _, _, unstopped⟩ := turned
    obtain ⟨cycles, unmarked⟩ := CounterSession.turn_worked turn beats
    refine ⟨by rw [Event.marks_beats, unmarked], device, here, CounterSession.turn_accepted turn cycles, ?_⟩
    cases stops : device.stopsIn call with
    | true => rfl
    | false => exact absurd (unstopped stops) cycles

theorem work_behind_start (run : Run allowed (fresh config endpoint) steps layer) (life : lifeOf id steps = creation :: rest)
    (begins : creation.begins id = true) (fits : Journal.blank.fitsAll rest = true) {earlier later : List LayerStep}
    {step : LayerStep} {ahead behind : List Event} {labels : Labels} {counters : List Reading} {metadata : Metadata}
    {failed : Bool} (split : rest = earlier ++ step :: later)
    (shown : step.shown = ahead ++ .message (.workload labels counters metadata) failed :: behind) :
    (∃ queue submissions, step.call = .submit queue submissions) ∧ config.captures (closings earlier) = true ∧
      marks (creation :: earlier) ++ Event.marks ahead = config.marksUpTo (closings earlier) := by
  have inside := inside_of_split split
  obtain ⟨before, reached, known, called, made⟩ := life_prefix run life begins inside
  have lives := run_lives reached creation earlier known begins
  obtain ⟨unmarked, device, here, accepted, stops⟩ := worked_stops (run_sound reached) lives.inFrame called made shown
  have keeps := run_keeps reached creation earlier known begins device here
  refine ⟨?_, ?_, ?_⟩
  · cases call : step.call with
    | submit queue submissions => exact ⟨queue, submissions, rfl⟩
    | _ =>
      rw [call] at stops
      cases stops
  · rw [← Journal.through_blank]
    refine stops_captured keeps (Journal.fits_at (split ▸ fits)) ?_ stops
    intro queue submissions call buffer member
    rw [call] at called accepted
    rw [device.accepts_own accepted buffer member]
    exact Option.some.inj called
  · rw [unmarked, List.append_nil]
    exact run_marks run life begins earlier ((List.prefix_append earlier [step]).trans inside)

/-- On every profiled device, in every run of calls that end: what is marked is the start and the end of
each frame whose work is captured, in order, each when it happens. Where buffers are submitted in the
frame that they were recorded in, all that is reported of their work lies between the two. -/
theorem marks_bracket_work (allowed : Layer → LayerCall → Prop) (config : Config) (endpoint : ShowingEndpoint)
    (steps : List LayerStep) (layer : Layer) (run : Run allowed (fresh config endpoint) steps layer) (id : DeviceId)
    (creation : LayerStep) (rest : List LayerStep) (life : lifeOf id steps = creation :: rest)
    (begins : creation.begins id = true) :
    (∀ device, layer.device id = .ok device → device.frame.index = closings rest) ∧
      (∀ earlier, earlier <+: rest → marks (creation :: earlier) = config.marksUpTo (closings earlier)) ∧
      Event.workloads creation.shown = [] ∧
      (Journal.blank.fitsAll rest = true → ∀ earlier step later ahead behind labels counters metadata failed,
        rest = earlier ++ step :: later →
        step.shown = ahead ++ .message (.workload labels counters metadata) failed :: behind →
        (∃ queue submissions, step.call = .submit queue submissions) ∧ config.captures (closings earlier) = true ∧
          marks (creation :: earlier) ++ Event.marks ahead = config.marksUpTo (closings earlier) ∧
          ∀ mark more, Event.marks behind ++ marks later = mark :: more → mark = .endFrame (closings earlier)) := by
  have marked := run_marks run life begins
  have lives := run_lives run creation rest life begins
  refine ⟨fun device here => (lives.inFrame device ((device_ok layer id device).mp here)).index, marked,
    works_opened lives.opened, ?_⟩
  intro fits earlier step later ahead behind labels counters metadata failed split shown
  obtain ⟨submitted, captured, ahead_marks⟩ := work_behind_start run life begins fits split shown
  refine ⟨submitted, captured, ahead_marks, ?_⟩
  intro mark more first
  have parts : Event.marks step.shown = Event.marks ahead ++ Event.marks behind := by
    rw [shown, Event.marks_append]
    rfl
  have later_frames : closings rest = closings earlier + closings (step :: later) := by
    rw [split, closings, List.countP_append]
    rfl
  apply Config.mark_past captured
  calc config.marksUpTo (closings earlier) ++ mark :: more
      = marks (creation :: earlier) ++ (Event.marks ahead ++ (Event.marks behind ++ marks later)) := by
        rw [← ahead_marks, ← first, List.append_assoc]
    _ = marks (creation :: rest) := by simp [marks, parts, split]
    _ = config.marksUpTo (closings earlier + closings (step :: later)) := by
        rw [marked rest List.prefix_rfl, later_frames]

-- A dispatch that is submitted in the frame it was recorded in, by the call that ends that frame.
def markedRun : List LayerStep := (fresh (Config.default.withFrameList [0]) ⟨[], 0⟩).trace [
  .createDevice (.new "gpu" [] [] false) .empty,
  .getQueue ⟨0, 0⟩ 0 0,
  .allocate ⟨0, 0⟩ .primary,
  .beginBuffer ⟨⟨0, 0⟩, ⟨0, 0⟩⟩,
  .command ⟨⟨0, 0⟩, ⟨0, 0⟩⟩ (.dispatch 1 1 1),
  .endBuffer ⟨⟨0, 0⟩, ⟨0, 0⟩⟩,
  .submit ⟨⟨0, 0⟩, ⟨0, 0⟩⟩ [⟨[⟨⟨0, 0⟩, ⟨0, 0⟩⟩], true⟩],
  .present ⟨⟨0, 0⟩, ⟨0, 0⟩⟩]

def afterMarkedRun : Layer := (fresh (Config.default.withFrameList [0]) ⟨[], 0⟩).outcome markedRun

theorem marked_run_brackets_dispatch :
    Run (fun _ _ => True) (fresh (Config.default.withFrameList [0]) ⟨[], 0⟩) markedRun afterMarkedRun ∧
      ∃ creation rest, lifeOf ⟨0, 0⟩ markedRun = creation :: rest ∧ creation.begins ⟨0, 0⟩ = true ∧
        Journal.blank.fitsAll rest = true ∧
        marks (creation :: rest) = (Config.default.withFrameList [0]).marksUpTo (closings rest) ∧
        ∃ earlier step later ahead behind, rest = earlier ++ step :: later ∧
          step.shown = ahead ++ .message (.workload [] [] (.dispatch 1 1 1)) false :: behind ∧
          (Config.default.withFrameList [0]).captures (closings earlier) = true ∧
          marks (creation :: earlier) ++ Event.marks ahead = (Config.default.withFrameList [0]).marksUpTo (closings earlier) := by
  have run : Run (fun _ _ => True) (fresh (Config.default.withFrameList [0]) ⟨[], 0⟩) markedRun afterMarkedRun :=
    run_trace _ _ fun _ _ => trivial
  have begun : (lifeOf ⟨0, 0⟩ markedRun).head?.any (begins ⟨0, 0⟩) = true := by decide +kernel
  have fitting : Journal.blank.fitsAll (lifeOf ⟨0, 0⟩ markedRun).tail = true := by decide +kernel
  have worked : (lifeOf ⟨0, 0⟩ markedRun).tail.any (fun step =>
      decide (.message (.workload [] [] (.dispatch 1 1 1)) false ∈ step.shown)) = true := by decide +kernel
  refine ⟨run, ?_⟩
  cases life : lifeOf ⟨0, 0⟩ markedRun with
  | nil =>
    rw [life] at begun
    cases begun
  | cons creation rest =>
    rw [life] at begun fitting worked
    obtain ⟨_, marked, _, brackets⟩ := marks_bracket_work _ _ _ _ _ run ⟨0, 0⟩ creation rest life begun
    obtain ⟨step, member, shown⟩ := List.any_eq_true.mp worked
    obtain ⟨earlier, later, split⟩ := List.append_of_mem member
    obtain ⟨ahead, behind, parts⟩ := List.append_of_mem (of_decide_eq_true shown)
    obtain ⟨_, captured, ahead_marks, _⟩ := brackets fitting earlier step later ahead behind _ _ _ _ split parts
    exact ⟨creation, rest, rfl, begun, fitting, marked rest List.prefix_rfl, earlier, step, later, ahead, behind, split,
      parts, captured, ahead_marks⟩

end Layer

end GpuProfiler
