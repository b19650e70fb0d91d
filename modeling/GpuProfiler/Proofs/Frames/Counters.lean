import Mathlib.Data.List.Induction
import GpuProfiler.Proofs.Frames.Life

set_option autoImplicit false

namespace GpuProfiler

def Event.report? : Event → Option (Nat × List Reading)
  | .message (.frameCounters frame counters) _ => some (frame, counters)
  | _ => none

def Event.reports (shown : List Event) : List (Nat × List Reading) := shown.filterMap report?

def LayerStep.reports (steps : List LayerStep) : List (Nat × List Reading) :=
  steps.flatMap fun step => Event.reports step.shown

namespace Beat

def report? : Beat → Option (Nat × List Reading)
  | .reported frame counters => some (frame, counters)
  | _ => none

def reports (beats : List Beat) : List (Nat × List Reading) := beats.filterMap report?

@[simp] theorem reports_nil : reports [] = [] := rfl

@[simp] theorem reports_cons (beat : Beat) (rest : List Beat) :
    reports (beat :: rest) = beat.report?.toList ++ reports rest := by
  cases beat <;> rfl

@[simp] theorem reports_append (beats more : List Beat) : reports (beats ++ more) = reports beats ++ reports more :=
  List.filterMap_append

@[simp] theorem reports_marked (sent : List Message) : reports (sent.map .marked) = [] := by
  induction sent with
  | nil => rfl
  | cons message rest ih => simp [report?, ih]

@[simp] theorem reports_attempt (backend : Backend) (failed : Bool) : reports (backend.attempt failed) = [] := by
  cases backend <;> rfl

end Beat

theorem Event.reports_beats (shown : List Event) : reports shown = Beat.reports (beats shown) := by
  rw [reports, beats, Beat.reports, List.filterMap_filterMap]
  apply List.filterMap_congr
  intro event _
  cases event with
  | call _ made _ => cases made <;> rfl
  | message sent _ => cases sent <;> rfl
  | _ => rfl

theorem Event.reports_append (shown more : List Event) : reports (shown ++ more) = reports shown ++ reports more :=
  List.filterMap_append

namespace CounterSession

variable {config : Config} {frame count : Nat} {session next : CounterSession Backend} {beats : List Beat}
  {shown : List Event}

def readings (session : CounterSession Backend) : List Reading :=
  match (readAll session).outcome with
  | .ok (counters, _) => counters
  | .error _ => []

def Sampled (session sampled : CounterSession Backend) : Prop := ∃ latch, sampleNow session = ⟨latch, .ok (true, sampled)⟩

def Latched (session : CounterSession Backend) (count : Nat) (sampled : CounterSession Backend) : Prop :=
  ∃ cycles middle, session.Cycles count cycles middle ∧ middle.Sampled sampled

theorem read_all_readings (session : CounterSession Backend) :
    ∃ shown next, readAll session = ⟨shown, .ok (session.readings, next)⟩ := by
  unfold readings
  rcases ran : readAll session with ⟨shown, reason | ⟨counters, next⟩⟩
  · exact (Act.ends_of_error (ends_read_all session) ran).elim
  · exact ⟨shown, next, rfl⟩

theorem reads_readings {counters : List Reading} (reads : Reads session true counters next) :
    counters = session.readings := by
  cases reads with
  | latched shown _ _ ran =>
    obtain ⟨_, _, all⟩ := session.read_all_readings
    rw [ran] at all
    cases all
    rfl

theorem reads_same {latched : Bool} {counters others : List Reading} {other : CounterSession Backend}
    (reads : Reads session latched counters next) (again : Reads session latched others other) : next = other := by
  cases reads with
  | missed =>
    cases again
    rfl
  | latched shown _ _ ran =>
    cases again with
    | latched shown _ _ same =>
      rw [ran] at same
      cases same
      rfl

theorem cycles_same {others : List Beat} {other : CounterSession Backend} (cycled : Cycles session count beats next)
    (again : Cycles session count others other) : next = other := by
  induction cycled generalizing others with
  | none =>
    cases again
    rfl
  | cycle session middle next last latch latched counters told count beats tried read _ _ ih =>
    cases again with
    | cycle _ _ _ _ _ _ _ _ _ _ same reads _ onward =>
      rw [tried] at same
      cases same
      obtain rfl := reads_same read reads
      exact ih onward

theorem cycles_unreported (cycled : Cycles session count beats next) : Beat.reports beats = [] := by
  induction cycled with
  | none => rfl
  | cycle session middle next last latch latched counters told count beats tried read message onward ih =>
    cases told <;> simp [Beat.report?, ih]

theorem latched_behind {middle : CounterSession Backend} (cycled : Cycles session count beats middle)
    (sampled : CounterSession Backend) : session.Latched count sampled ↔ middle.Sampled sampled := by
  constructor
  · intro latched
    obtain ⟨_, other, again, succeeds⟩ := latched
    rw [cycles_same cycled again]
    exact succeeds
  · exact fun succeeds => ⟨beats, middle, cycled, succeeds⟩

theorem reports_probe (backend : Backend) (failed missed told : Bool) (counters : List Reading) :
    Beat.reports (.idled failed :: (backend.attempt missed ++ if told then [.reported frame counters] else [])) =
      if told then [(frame, counters)] else [] := by
  cases told <;> simp [Beat.report?]

theorem reports_late {middle : CounterSession Backend} {cycles : List Beat} {ahead probe : List Event}
    (cycled : Cycles session count cycles middle)
    (beats : Event.beats ahead = .forwarded :: (cycles ++ (config.marksBehind frame).map .marked)) :
    Event.reports (ahead ++ probe) = Event.reports probe := by
  rw [Event.reports_append, Event.reports_beats ahead, beats]
  simp [Beat.report?, cycles_unreported cycled]

theorem unreported_unprobed (unprobed : config.probes frame = false) : config.reports frame = false := by
  rw [Config.probes, Bool.or_eq_false_iff] at unprobed
  exact unprobed.1

theorem probed_reports {reports wanted : Bool} (asked : reports = true → wanted = true)
    (probed : Probed reports frame session wanted shown next) (of : Nat) (counters : List Reading) :
    (of, counters) ∈ Event.reports shown ↔
      of = frame ∧ reports = true ∧ ∃ sampled, session.Sampled sampled ∧ counters = sampled.readings := by
  cases probed with
  | spared =>
    constructor
    · intro never
      cases never
    · intro reported
      cases asked reported.2.1
  | probed driver failed notes latch behind latched middle _ found quiet tried read told =>
    rw [Event.reports_beats, probe_beats quiet tried told, reports_probe]
    by_cases both : (latched && reports) = true
    · obtain ⟨rfl, rfl⟩ := Bool.and_eq_true_iff.mp both
      rw [if_pos both, List.mem_singleton, Prod.mk.injEq]
      constructor
      · intro same
        obtain ⟨rfl, rfl⟩ := same
        exact ⟨rfl, rfl, middle, ⟨latch, tried⟩, reads_readings read⟩
      · intro reported
        obtain ⟨same, _, sampled, ⟨_, again⟩, rfl⟩ := reported
        rw [tried] at again
        cases again
        exact ⟨same, (reads_readings read).symm⟩
    · rw [if_neg both]
      constructor
      · intro never
        cases never
      · intro reported
        obtain ⟨_, rfl, sampled, ⟨_, again⟩, _⟩ := reported
        rw [tried] at again
        cases again
        exact absurd rfl both

theorem probed_unasked {wanted : Bool} (probed : Probed false frame session wanted shown next) :
    Event.reports shown = [] := by
  cases probed with
  | spared => rfl
  | probed driver failed notes latch behind latched middle _ counters quiet tried read told =>
    rw [Event.reports_beats, probe_beats quiet tried told, reports_probe, Bool.and_false, if_neg Bool.false_ne_true]

theorem probed_once {reports wanted : Bool} (probed : Probed reports frame session wanted shown next) :
    (Event.reports shown).length ≤ 1 := by
  cases probed with
  | spared => exact Nat.zero_le 1
  | probed driver failed notes latch behind latched middle _ counters quiet tried read told =>
    rw [Event.reports_beats, probe_beats quiet tried told, reports_probe]
    cases (latched && reports) <;> simp

theorem turn_reports {accepted bounds : Bool} (turn : Turn config frame session accepted bounds count shown next) (of : Nat)
    (counters : List Reading) :
    (of, counters) ∈ Event.reports shown ↔ (accepted && bounds) = true ∧ of = frame ∧ config.reports frame = true ∧
      ∃ sampled, session.Latched count sampled ∧ counters = sampled.readings := by
  cases turn with
  | passed _ _ silent =>
    rw [Event.reports_beats, silent]
    simp
  | ran _ cycles _ _ cycled beats =>
    rw [Event.reports_beats, beats]
    simp [Beat.report?, cycles_unreported cycled]
  | early _ unprobed beats =>
    rw [Event.reports_beats, beats]
    simp [Beat.report?, unreported_unprobed unprobed]
  | late _ cycles ahead probe middle _ cycled beats probed =>
    have asked : config.reports frame = true → config.probes frame = true := by
      intro reported
      rw [Config.probes, reported, Bool.true_or]
    rw [reports_late cycled beats, probed_reports asked probed of counters]
    simp only [Bool.and_self, true_and, latched_behind cycled]

theorem turn_once {accepted bounds : Bool} (turn : Turn config frame session accepted bounds count shown next) :
    (Event.reports shown).length ≤ 1 := by
  cases turn with
  | passed _ _ silent =>
    rw [Event.reports_beats, silent]
    exact Nat.zero_le 1
  | ran _ cycles _ _ cycled beats =>
    rw [Event.reports_beats, beats]
    simp [Beat.report?, cycles_unreported cycled]
  | early _ unprobed beats =>
    rw [Event.reports_beats, beats]
    simp [Beat.report?]
  | late _ cycles ahead probe middle _ cycled beats probed =>
    rw [reports_late cycled beats]
    exact probed_once probed

end CounterSession

namespace LayerStep

-- The sample of a device at the end of the step, behind the trap cycles of the step, succeeds, and
-- leaves this session.
def Latches (step : LayerStep) (id : DeviceId) (sampled : CounterSession Backend) : Prop :=
  ∃ device next count, step.before.device id = .ok device ∧ step.after.device id = .ok next ∧
    next.trapCycles = device.trapCycles + count ∧ device.session.Latched count sampled

theorem reports_opened {config : Config} {id : DeviceId} {creation : LayerStep} (opened : creation.Opens config id) :
    Event.reports creation.shown = [] := by
  obtain ⟨_, _, _, _, _, first, ahead, probe, _, _, shown, beats, probed⟩ := opened
  rw [shown, Event.reports_append, CounterSession.probed_unasked probed, Event.reports_beats, beats]
  simp

end LayerStep

namespace Layer

open LayerStep

variable {layer : Layer} {config : Config} {id : DeviceId} {allowed : Layer → LayerCall → Prop} {endpoint : ShowingEndpoint}
  {steps : List LayerStep} {creation : LayerStep} {rest : List LayerStep}

theorem step_reports (run : Run allowed (fresh config endpoint) steps layer) (life : lifeOf id steps = creation :: rest)
    (begins : creation.begins id = true) {earlier : List LayerStep} {step : LayerStep} (inside : earlier ++ [step] <+: rest)
    (frame : Nat) (counters : List Reading) :
    (frame, counters) ∈ Event.reports step.shown ↔ step.closes = true ∧ frame = closings earlier ∧
      config.reports (closings earlier) = true ∧ ∃ sampled, step.Latches id sampled ∧ counters = sampled.readings := by
  obtain ⟨session, next, count, turn, start, finish⟩ := run_paced run life begins inside
  obtain ⟨before, reached, known, called, made⟩ := life_prefix run life begins inside
  rw [CounterSession.turn_reports turn frame counters]
  constructor
  · intro reported
    obtain ⟨closed, same, asked, sampled, latched, read⟩ := reported
    obtain ⟨device, moved, here, there⟩ : ∃ device moved, step.before.device id = .ok device ∧ step.after.device id = .ok moved := by
      have lives := run_lives reached creation earlier known begins
      rcases called_turns (run_sound reached) lives.inFrame called made with ⟨unaccepted, _⟩ | ⟨device, moved, here, there, _⟩
      · have unaccepted : step.accepted = false := unaccepted
        rw [unaccepted] at closed
        cases closed
      · exact ⟨device, moved, (device_ok _ id device).mpr here, (device_ok _ id moved).mpr there⟩
    obtain ⟨_, cycles⟩ := finish moved there
    refine ⟨closed, same, asked, sampled, ⟨device, moved, count, here, there, cycles device here, ?_⟩, read⟩
    rw [start device here]
    exact latched
  · intro reported
    obtain ⟨closed, same, asked, sampled, ⟨device, moved, others, here, there, cycles, latched⟩, read⟩ := reported
    obtain ⟨_, counted⟩ := finish moved there
    have all : others = count := Nat.add_left_cancel (cycles.symm.trans (counted device here))
    rw [start device here, all] at latched
    exact ⟨closed, same, asked, sampled, latched, read⟩

theorem reports_ascend (run : Run allowed (fresh config endpoint) steps layer) (life : lifeOf id steps = creation :: rest)
    (begins : creation.begins id = true) (earlier : List LayerStep) (inside : earlier <+: rest) :
    (reports (creation :: earlier)).Pairwise (fun first second => first.1 < second.1) ∧
      ∀ report ∈ reports (creation :: earlier), report.1 < closings earlier := by
  induction earlier using List.reverseRecOn with
  | nil =>
    have silent := reports_opened (run_lives run creation rest life begins).opened
    rw [reports, List.flatMap_singleton, silent]
    exact ⟨.nil, fun _ never => (nomatch never)⟩
  | append_singleton earlier step ih =>
    obtain ⟨ordered, closed⟩ := ih ((List.prefix_append earlier [step]).trans inside)
    obtain ⟨session, next, count, turn, _⟩ := run_paced run life begins inside
    have once := CounterSession.turn_once turn
    have new : ∀ report ∈ Event.reports step.shown, step.closes = true ∧ report.1 = closings earlier := by
      intro report member
      obtain ⟨closes, same, _⟩ := (step_reports run life begins inside report.1 report.2).mp member
      exact ⟨closes, same⟩
    have parts : reports (creation :: (earlier ++ [step])) = reports (creation :: earlier) ++ Event.reports step.shown := by
      simp [reports]
    rw [parts, closings_concat]
    constructor
    · rw [List.pairwise_append]
      refine ⟨ordered, List.pairwise_iff_getElem.mpr ?_, ?_⟩
      · intro first second _ inside order
        omega
      · intro report member behind last
        rw [(new behind last).2]
        exact closed report member
    · intro report member
      rcases List.mem_append.mp member with before | last
      · exact Nat.lt_of_lt_of_le (closed report before) (Nat.le_add_right _ _)
      · obtain ⟨closes, same⟩ := new report last
        rw [same, closes]
        exact Nat.lt_succ_self _

/-- On every profiled device, in every run of calls that end: outside of trap cycles there is one attempt
to sample for a device made in a frame of interest, and one, behind a wait, for each closed frame that is
to be reported or that a frame of interest follows. Each frame is reported at most once: where its report
is asked for and its sample succeeds, with the counters read from that sample. -/
theorem counters_cover_frames (allowed : Layer → LayerCall → Prop) (config : Config) (endpoint : ShowingEndpoint)
    (steps : List LayerStep) (layer : Layer) (run : Run allowed (fresh config endpoint) steps layer) (id : DeviceId)
    (creation : LayerStep) (rest : List LayerStep) (life : lifeOf id steps = creation :: rest)
    (begins : creation.begins id = true) :
    creation.Opens config id ∧
      (∀ earlier step, earlier ++ [step] <+: rest → step.Paced config id (closings earlier)) ∧
      (∀ device, layer.device id = .ok device →
        device.session.attempts = device.trapCycles + config.probings (closings rest)) ∧
      (reports (creation :: rest)).Pairwise (fun first second => first.1 < second.1) ∧
      ∀ frame counters, (frame, counters) ∈ reports (creation :: rest) ↔
        ∃ earlier step later sampled, rest = earlier ++ step :: later ∧ step.closes = true ∧ closings earlier = frame ∧
          config.reports frame = true ∧ step.Latches id sampled ∧ counters = sampled.readings := by
  have lives := run_lives run creation rest life begins
  refine ⟨lives.opened, fun earlier step inside => run_paced run life begins inside, ?_,
    (reports_ascend run life begins rest List.prefix_rfl).1, fun frame counters => ?_⟩
  · intro device here
    exact lives.attempts device ((device_ok layer id device).mp here)
  rw [reports, List.flatMap_cons, reports_opened lives.opened, List.nil_append, List.mem_flatMap]
  constructor
  · intro reported
    obtain ⟨step, member, told⟩ := reported
    obtain ⟨earlier, later, split⟩ := List.append_of_mem member
    obtain ⟨closes, rfl, asked, sampled, latches, read⟩ :=
      (step_reports run life begins (inside_of_split split) frame counters).mp told
    exact ⟨earlier, step, later, sampled, split, closes, rfl, asked, latches, read⟩
  · intro closed
    obtain ⟨earlier, step, later, sampled, split, closes, rfl, asked, latches, read⟩ := closed
    exact ⟨step, by simp [split], (step_reports run life begins (inside_of_split split) _ counters).mpr
      ⟨closes, rfl, asked, sampled, latches, read⟩⟩

-- Frames 0 and 2 are to be reported. The samples for frame 0, at its start and at its end, succeed, and
-- so does the one for the start of frame 2. The one at its end fails.
def countedConfig : Config := (Config.default.withFrameList [0, 2]).withSampleFrames true

def countedRun : List LayerStep := (fresh countedConfig ⟨[], 0⟩).trace [
  .createDevice (.new "gpu" [] [] false)
    (.scripted (.new ⟨[⟨7, "cycles", .integer⟩], [(3, .counterUnavailable 7)], [(7, [.scaled 10])]⟩)),
  .getQueue ⟨0, 0⟩ 0 0,
  .present ⟨⟨0, 0⟩, ⟨0, 0⟩⟩,
  .present ⟨⟨0, 0⟩, ⟨0, 0⟩⟩,
  .present ⟨⟨0, 0⟩, ⟨0, 0⟩⟩,
  .submit ⟨⟨0, 0⟩, ⟨0, 0⟩⟩ [⟨[], true⟩]]

def afterCountedRun : Layer := (fresh countedConfig ⟨[], 0⟩).outcome countedRun

theorem counted_run_reports_first_frame :
    Run (fun _ _ => True) (fresh countedConfig ⟨[], 0⟩) countedRun afterCountedRun ∧
      ∃ creation rest, lifeOf ⟨0, 0⟩ countedRun = creation :: rest ∧ creation.begins ⟨0, 0⟩ = true ∧
        closings rest = 4 ∧ countedConfig.probings 4 = 4 ∧
        (∀ device, afterCountedRun.device ⟨0, 0⟩ = .ok device → device.session.attempts = device.trapCycles + 4) ∧
        reports (creation :: rest) = [(0, [⟨"cycles", .integer 20⟩])] ∧
        ∃ earlier step later sampled, rest = earlier ++ step :: later ∧ step.closes = true ∧ closings earlier = 0 ∧
          step.Latches ⟨0, 0⟩ sampled ∧ sampled.readings = [⟨"cycles", .integer 20⟩] := by
  have run : Run (fun _ _ => True) (fresh countedConfig ⟨[], 0⟩) countedRun afterCountedRun :=
    run_trace _ _ fun _ _ => trivial
  have begun : (lifeOf ⟨0, 0⟩ countedRun).head?.any (begins ⟨0, 0⟩) = true := by decide +kernel
  have closed : closings (lifeOf ⟨0, 0⟩ countedRun).tail = 4 := by decide +kernel
  have told : reports (lifeOf ⟨0, 0⟩ countedRun) = [(0, [⟨"cycles", .integer 20⟩])] := by decide +kernel
  have due : countedConfig.probings 4 = 4 := by decide +kernel
  refine ⟨run, ?_⟩
  cases life : lifeOf ⟨0, 0⟩ countedRun with
  | nil =>
    rw [life] at begun
    cases begun
  | cons creation rest =>
    rw [life] at begun closed told
    obtain ⟨_, _, attempts, _, reported⟩ := counters_cover_frames _ _ _ _ _ run ⟨0, 0⟩ creation rest life begun
    obtain ⟨earlier, step, later, sampled, split, closes, first, _, latches, read⟩ :=
      (reported 0 [⟨"cycles", .integer 20⟩]).mp (told ▸ List.mem_singleton_self _)
    refine ⟨creation, rest, rfl, begun, closed, due, fun device here => ?_, told, earlier, step, later, sampled, split,
      closes, first, latches, read.symm⟩
    rw [attempts device here, show closings rest = 4 from closed, due]

end Layer

end GpuProfiler
