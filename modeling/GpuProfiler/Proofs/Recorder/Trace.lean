import GpuProfiler.Proofs.Replay.Visits
import Mathlib.Data.List.Induction

set_option autoImplicit false

namespace GpuProfiler

namespace RecorderCall

def restarts : RecorderCall → Bool
  | .start | .reset => true
  | _ => false

def drawn : RecorderCall → Nat
  | .draw count => count.toNat
  | _ => 0

def draws (calls : List RecorderCall) : Nat :=
  calls.foldl (fun total call => if call.restarts then 0 else total + call.drawn) 0

def Fits (calls : List RecorderCall) : Prop := ∀ ahead, ahead <+: calls → draws ahead < Word.bound

end RecorderCall

structure RecordingStep where
  before : Recording
  call : RecorderCall
  shown : List Event
  reply : RecorderReply
  after : Recording

structure Record.Fresh (record : Record) : Prop where
  part : Recorder.isPass record.workload = true
  silent : record.traps = false
  undrawn : record.draws = 0

namespace Recording

inductive Makes (s : Recording) : RecorderCall → RecorderReply → Recording → Prop
  | started : Makes s .start .done { s with recorder := s.recorder.start }
  | finished : Makes s .finish .done { s with recorder := s.recorder.finish }
  | reset : Makes s .reset .done { s with recorder := s.recorder.reset }
  | pushed (label : String) : Makes s (.pushLabel label) (.depth (s.recorder.pushLabel label).labels.depth)
      { s with recorder := s.recorder.pushLabel label }
  | popped : Makes s .popLabel (.depth s.recorder.popLabel.labels.depth) { s with recorder := s.recorder.popLabel }
  | begun (begun : RenderPassBegin) (mode : CaptureMode) (anew : begun.flags.resuming = false) :
      Makes s (.beginPass begun mode) (.tag (some s.tags.next))
        ⟨s.recorder.beginPass s.tags.next begun mode, s.tags.advance⟩
  | resumed (begun : RenderPassBegin) (mode : CaptureMode) (resumes : begun.flags.resuming = true) :
      Makes s (.beginPass begun mode) (.tag (s.recorder.suspended.bind (·.tag)))
        { s with recorder := s.recorder.resumePass begun mode }
  | ended : Makes s .endPass (.ended s.recorder.endPass.1) { s with recorder := s.recorder.endPass.2 }
  | drawn (count : UInt64) (drawn : Recorder) (counted : s.recorder.draw count = .ok drawn) :
      Makes s (.draw count) (.drawCalls drawn.stats.drawCalls) { s with recorder := drawn }
  | recorded (workload : Workload) (capture : Bool) :
      Makes s (.record workload capture) (.appended (s.recorder.record workload capture).1)
        { s with recorder := (s.recorder.record workload capture).2 }
  | appended (records : Stream) : Makes s (.append records) .done { s with recorder := s.recorder.append records }

theorem ends_makes (call : RecorderCall) (s : Recording) :
    Act.Ends (perform call) s (fun _ reply next => Makes s call reply next)
      (fun _ reason => ∃ count, call = .draw count ∧ s.recorder.draw count = .error reason) := by
  cases call with
  | start => exact .started
  | finish => exact .finished
  | reset => exact .reset
  | pushLabel label => exact .pushed label
  | popLabel =>
    simp only [perform, popLabel, update, Act.ends_bind, Act.ends_get, Act.ends_note_if, Act.ends_modify, Act.ends_pure]
    exact .popped
  | beginPass begun mode =>
    simp only [perform, beginPass, Act.ends_bind, Act.ends_get]
    cases resumes : begun.flags.resuming with
    | true => exact .resumed begun mode resumes
    | false => exact .begun begun mode resumes
  | endPass => exact .ended
  | draw count =>
    simp only [perform, draw, Act.ends_bind, Act.ends_get, Act.ends_check, Act.ends_set, Act.ends_pure]
    exact ⟨fun drawn counted => .drawn count drawn counted, fun reason overflows => ⟨count, rfl, overflows⟩⟩
  | record workload capture =>
    simp only [perform, record, Act.ends_bind, Act.ends_get, Act.ends_note_if, Act.ends_set, Act.ends_pure]
    exact .recorded workload capture
  | append records => exact .appended records

theorem makes_of_ok {call : RecorderCall} {s next : Recording} {shown : List Event} {reply : RecorderReply}
    (made : perform call s = ⟨shown, .ok (reply, next)⟩) : Makes s call reply next := Act.ends_of_ok (ends_makes call s) made

theorem open_pass_cases (recorder : Recorder) (flags : RenderPassFlags) (mode : CaptureMode) (captured : Bool)
    (tag : Option RenderPassTag) (workload : Workload) :
    captured = false ∧ recorder.openPass flags mode captured tag workload =
        { recorder with active := some ⟨none, tag, false, flags.suspending, 0⟩ } ∨
      recorder.openPass flags mode captured tag workload =
        { recorder.push workload with active := some ⟨some recorder.stream.length, tag, captured, flags.suspending, 0⟩ } := by
  by_cases kept : (captured || ((flags.suspending || flags.resuming) && mode != .off)) = true
  · right
    simp only [Recorder.openPass, kept, if_true]
  · left
    have off : captured = false := by
      cases captured with
      | false => rfl
      | true => exact absurd rfl kept
    subst off
    exact ⟨rfl, by simp only [Recorder.openPass, kept, Bool.false_eq_true, if_false]⟩

-- A begin opens a part, and keeps a new record of it or none; only what is kept can be captured.
structure Opens (before after : Recorder) (flags : RenderPassFlags) : Prop where
  drawn : after.stats.drawCalls = before.stats.drawCalls
  part : ∃ pass, after.active = some pass ∧ pass.suspending = flags.suspending ∧ pass.drawCalls = 0 ∧
    (pass.position = none ∧ pass.captured = false ∧ after.stream = before.stream ∨
      ∃ record : Record, record.Fresh ∧ pass.position = some before.stream.length ∧ after.stream = before.stream ++ [record])

theorem opens_pass (recorder : Recorder) (flags : RenderPassFlags) (mode : CaptureMode) (captured : Bool)
    (tag : Option RenderPassTag) (workload : Workload) (fresh : ∀ labels, Record.Fresh ⟨workload, labels⟩) :
    Opens recorder (recorder.openPass flags mode captured tag workload) flags := by
  rcases open_pass_cases recorder flags mode captured tag workload with ⟨_, opened⟩ | opened <;> rw [opened]
  · exact ⟨rfl, _, rfl, rfl, rfl, .inl ⟨rfl, rfl, rfl⟩⟩
  · exact ⟨rfl, _, rfl, rfl, rfl, .inr ⟨_, fresh _, rfl, rfl⟩⟩

theorem makes_begin {s next : Recording} {begun : RenderPassBegin} {mode : CaptureMode} {reply : RecorderReply}
    (makes : Makes s (.beginPass begun mode) reply next) : Opens s.recorder next.recorder begun.flags := by
  cases makes with
  | begun =>
    obtain ⟨drawn, part⟩ := opens_pass _ begun.flags mode mode.captures (some s.tags.next)
      (.renderPass ⟨s.tags.next, begun.width, begun.height, begun.attachments, begun.flags.suspending, 0, false⟩)
      fun _ => ⟨rfl, rfl, rfl⟩
    exact ⟨drawn, part⟩
  | resumed =>
    obtain ⟨drawn, part⟩ := opens_pass { s.recorder with suspended := none } begun.flags mode _
      (s.recorder.suspended.bind (·.tag)) (.continuation ⟨s.recorder.suspended.bind (·.tag), begun.flags.suspending, 0, false⟩)
      fun _ => ⟨rfl, rfl, rfl⟩
    exact ⟨drawn, part⟩

def trace (s : Recording) : List RecorderCall → List RecordingStep
  | [] => []
  | call :: rest =>
    match perform call s with
    | ⟨shown, .ok (reply, next)⟩ => ⟨s, call, shown, reply, next⟩ :: trace next rest
    | ⟨_, .error _⟩ => []

def outcome (s : Recording) (steps : List RecordingStep) : Recording :=
  match steps.getLast? with
  | some step => step.after
  | none => s

inductive Run (first : Recording) : List RecordingStep → Recording → Prop
  | start : Run first [] first
  | step (steps : List RecordingStep) (s next : Recording) (call : RecorderCall) (shown : List Event)
      (reply : RecorderReply) (run : Run first steps s) (made : perform call s = ⟨shown, .ok (reply, next)⟩) :
      Run first (steps ++ [⟨s, call, shown, reply, next⟩]) next

variable {first middle last : Recording} {ahead behind : List RecordingStep} {step : RecordingStep}

@[simp] theorem outcome_nil (s : Recording) : s.outcome [] = s := rfl

@[simp] theorem outcome_concat (s : Recording) : s.outcome (ahead ++ [step]) = step.after := by
  rw [outcome, List.getLast?_concat]

theorem run_outcome (run : Run first ahead last) : first.outcome ahead = last := by
  cases run with
  | start => rfl
  | step => exact outcome_concat first

theorem run_append (run : Run first ahead middle) (later : Run middle behind last) : Run first (ahead ++ behind) last := by
  induction later with
  | start => rwa [List.append_nil]
  | step behind s next call shown reply _ made ih =>
    rw [← List.append_assoc]
    exact .step (ahead ++ behind) s next call shown reply ih made

theorem run_concat (run : Run first (ahead ++ [step]) last) :
    Run first ahead step.before ∧ perform step.call step.before = ⟨step.shown, .ok (step.reply, step.after)⟩ ∧
      last = step.after := by
  generalize steps : ahead ++ [step] = all at run
  cases run with
  | start => simp at steps
  | step before s next call shown reply run made =>
    obtain ⟨rfl, same⟩ := List.append_inj' steps rfl
    cases same
    exact ⟨run, made, rfl⟩

theorem run_split (run : Run first (ahead ++ behind) last) : ∃ middle, Run first ahead middle ∧ Run middle behind last := by
  induction behind using List.reverseRecOn generalizing last with
  | nil => exact ⟨last, by rwa [List.append_nil] at run, .start⟩
  | append_singleton behind step ih =>
    rw [← List.append_assoc] at run
    obtain ⟨before, made, rfl⟩ := run_concat run
    obtain ⟨middle, run, later⟩ := ih before
    exact ⟨middle, run, .step behind step.before step.after step.call step.shown step.reply later made⟩

theorem run_cons (run : Run first (step :: behind) last) :
    step.before = first ∧ perform step.call first = ⟨step.shown, .ok (step.reply, step.after)⟩ ∧ Run step.after behind last := by
  have whole : Run first ([step] ++ behind) last := run
  obtain ⟨middle, here, later⟩ := run_split whole
  have alone : Run first ([] ++ [step]) middle := here
  obtain ⟨before, made, rfl⟩ := run_concat alone
  cases run_outcome before
  exact ⟨rfl, made, later⟩

theorem run_trace (s : Recording) (calls : List RecorderCall) : Run s (s.trace calls) (s.outcome (s.trace calls)) := by
  have runs : ∃ last, Run s (s.trace calls) last := by
    induction calls generalizing s with
    | nil => exact ⟨s, .start⟩
    | cons call rest ih =>
      unfold trace
      rcases made : perform call s with ⟨shown, reason | ⟨reply, next⟩⟩
      · exact ⟨s, .start⟩
      · obtain ⟨last, later⟩ := ih next
        exact ⟨last, run_append (.step [] s next call shown reply .start made) later⟩
  obtain ⟨last, run⟩ := runs
  rwa [run_outcome run]

-- The draws are counted in the recording, and those of the open part in the part as well.
structure Counted (done : List RecorderCall) (s : Recording) : Prop where
  total : s.recorder.stats.drawCalls.toNat = RecorderCall.draws done
  part : ∀ pass, s.recorder.active = some pass → pass.drawCalls.toNat ≤ RecorderCall.draws done

theorem draw_total {recorder drawn : Recorder} {count : UInt64} (counted : recorder.draw count = .ok drawn) :
    drawn.stats.drawCalls.toNat = recorder.stats.drawCalls.toNat + count.toNat := by
  unfold Recorder.draw at counted
  split at counted
  · cases counted
  · next total sum =>
    split at counted
    · cases counted
      exact Word.add_eq_ok sum
    · next pass opened =>
      cases within : Word.add pass.drawCalls count with
      | error reason =>
        rw [within] at counted
        cases counted
      | ok part =>
        rw [within] at counted
        cases counted
        exact Word.add_eq_ok sum

-- The part's draws are among those of the recording, so counting them does not halt first.
theorem draw_fits {recorder : Recorder} {count : UInt64} (fits : recorder.stats.drawCalls.toNat + count.toNat < Word.bound)
    (within : ∀ pass, recorder.active = some pass → pass.drawCalls.toNat ≤ recorder.stats.drawCalls.toNat) :
    ∃ drawn, recorder.draw count = .ok drawn := by
  have total : Word.add recorder.stats.drawCalls count = .ok (recorder.stats.drawCalls + count) := if_pos fits
  unfold Recorder.draw
  rw [total]
  cases opened : recorder.active with
  | none => exact ⟨_, rfl⟩
  | some pass =>
    have less := within pass opened
    have part : Word.add pass.drawCalls count = .ok (pass.drawCalls + count) := if_pos (by omega)
    simp only [part]
    exact ⟨_, rfl⟩

theorem draws_concat (done : List RecorderCall) (call : RecorderCall) :
    RecorderCall.draws (done ++ [call]) = if call.restarts then 0 else RecorderCall.draws done + call.drawn := by
  simp [RecorderCall.draws]

theorem counted_makes {done : List RecorderCall} {call : RecorderCall} {s next : Recording} {reply : RecorderReply}
    (counted : Counted done s) (makes : Makes s call reply next) : Counted (done ++ [call]) next := by
  obtain ⟨total, part⟩ := counted
  have begins := makes
  refine ⟨?_, ?_⟩ <;> rw [draws_concat]
  · cases makes with
    | started | reset => rfl
    | finished | pushed | popped | appended => exact total
    | begun | resumed => exact (congrArg UInt64.toNat (makes_begin begins).drawn).trans total
    | ended =>
      unfold Recorder.endPass
      split <;> exact total
    | drawn count drawn counted => exact (draw_total counted).trans (congrArg (· + count.toNat) total)
    | recorded workload capture =>
      unfold Recorder.record
      split
      · exact total
      · cases workload <;> cases capture <;> exact total
  · intro pass active
    cases makes with
    | started | reset => cases active
    | finished | pushed | popped | appended => exact part pass active
    | begun | resumed =>
      obtain ⟨opened, standing, _, none, _⟩ := (makes_begin begins).part
      rw [standing] at active
      cases active
      rw [none]
      exact Nat.zero_le _
    | ended =>
      unfold Recorder.endPass at active
      split at active
      · exact part pass active
      · cases active
    | drawn count drawn counted =>
      obtain ⟨stats, ⟨closed, rfl⟩ | ⟨before, sum, standing, added, rfl⟩⟩ := Recorder.draw_cases counted
      · rw [closed] at active
        cases active
      · cases active
        have less := part before standing
        simp only [RecorderCall.restarts, RecorderCall.drawn, Bool.false_eq_true, if_false]
        omega
    | recorded workload capture =>
      rw [Recorder.active_record] at active
      exact part pass active

theorem trace_calls {done calls : List RecorderCall} {s : Recording} (counted : Counted done s)
    (fits : RecorderCall.Fits (done ++ calls)) : (s.trace calls).map (·.call) = calls := by
  induction calls generalizing done s with
  | nil => rfl
  | cons call rest ih =>
    have here := fits (done ++ [call]) ⟨rest, by simp⟩
    unfold trace
    rcases made : perform call s with ⟨shown, reason | ⟨reply, next⟩⟩
    · obtain ⟨count, rfl, overflows⟩ := Act.ends_of_error (ends_makes call s) made
      rw [draws_concat] at here
      obtain ⟨drawn, counts⟩ := draw_fits (counted.total.symm ▸ here) (counted.total.symm ▸ counted.part)
      rw [counts] at overflows
      cases overflows
    · have later := counted_makes counted (makes_of_ok made)
      simp only [List.map_cons]
      rw [ih later (by simpa using fits)]

theorem trace_new (raw : RawBuffer) (level : BufferLevel) (tags : TagSource) {calls : List RecorderCall}
    (fits : RecorderCall.Fits calls) : (trace ⟨.new raw level, tags⟩ calls).map (·.call) = calls := by
  have counted : Counted [] ⟨.new raw level, tags⟩ := ⟨rfl, fun _ opened => (nomatch opened)⟩
  exact trace_calls counted fits

end Recording

end GpuProfiler
