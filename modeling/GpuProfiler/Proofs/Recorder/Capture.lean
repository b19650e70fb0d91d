import GpuProfiler.Proofs.Recorder.Parts
import Mathlib.Data.List.Forall2

set_option autoImplicit false

namespace GpuProfiler

-- Nothing is captured, and nothing comes from other buffers.
def RecorderCall.bare : RecorderCall → RecorderCall
  | .beginPass begun _ => .beginPass begun .off
  | .record workload _ => .record workload false
  | .append _ => .append []
  | call => call

def RecorderReply.bare : RecorderReply → RecorderReply
  | .ended how => .ended { how with needsTrap := false }
  | .appended _ => .appended false
  | reply => reply

def ActivePass.bare (pass : ActivePass) : ActivePass := { pass with position := none, captured := false }

def SuspendedPass.bare (pass : SuspendedPass) : SuspendedPass := { pass with captured := false }

def Recorder.bare (recorder : Recorder) : Recorder :=
  { recorder with
    stream := []
    active := recorder.active.map (·.bare)
    suspended := recorder.suspended.map (·.bare) }

namespace Recording

def bare (s : Recording) : Recording := { s with recorder := s.recorder.bare }

theorem bare_open_pass (recorder : Recorder) (flags : RenderPassFlags) (mode : CaptureMode) (captured : Bool)
    (tag : Option RenderPassTag) (workload other : Workload) :
    (recorder.openPass flags mode captured tag workload).bare = recorder.bare.openPass flags .off false tag other := by
  rcases open_pass_cases recorder flags mode captured tag workload with ⟨_, opened⟩ | opened <;> rw [opened] <;>
    simp [Recorder.openPass, Recorder.bare, ActivePass.bare, Recorder.push]

theorem bare_begin_pass (recorder : Recorder) (tag : RenderPassTag) (begun : RenderPassBegin) (mode : CaptureMode) :
    (recorder.beginPass tag begun mode).bare = recorder.bare.beginPass tag begun .off :=
  bare_open_pass { recorder with stats := { recorder.stats with renderPasses := recorder.stats.renderPasses + 1 } }
    begun.flags mode mode.captures (some tag) _ _

theorem bare_resume_pass (recorder : Recorder) (begun : RenderPassBegin) (mode : CaptureMode) :
    (recorder.resumePass begun mode).bare = recorder.bare.resumePass begun .off := by
  unfold Recorder.resumePass
  cases left : recorder.suspended with
  | none =>
    simp only [Recorder.bare, left, Option.map_none, Option.bind_none]
    exact bare_open_pass { recorder with suspended := none } begun.flags mode mode.captures none _ _
  | some pass =>
    simp only [Recorder.bare, left, Option.map_some, Option.bind_some, SuspendedPass.bare]
    exact bare_open_pass { recorder with suspended := none } begun.flags mode pass.captured pass.tag _ _

theorem bare_suspended (recorder : Recorder) : recorder.bare.suspended.bind (·.tag) = recorder.suspended.bind (·.tag) := by
  unfold Recorder.bare
  cases recorder.suspended <;> rfl

theorem bare_end_pass (recorder : Recorder) :
    recorder.bare.endPass = ({ recorder.endPass.1 with needsTrap := false }, recorder.endPass.2.bare) := by
  unfold Recorder.endPass
  cases opened : recorder.active with
  | none => simp [Recorder.bare, opened]
  | some pass => cases suspends : pass.suspending <;> simp [Recorder.bare, opened, suspends, ActivePass.bare, SuspendedPass.bare]

theorem bare_draw (recorder : Recorder) (count : UInt64) :
    recorder.bare.draw count = (recorder.draw count).map Recorder.bare := by
  unfold Recorder.draw
  simp only [Recorder.bare]
  cases Word.add recorder.stats.drawCalls count with
  | error reason => rfl
  | ok total =>
    cases recorder.active with
    | none => rfl
    | some pass =>
      simp only [Option.map_some, ActivePass.bare]
      cases Word.add pass.drawCalls count <;> rfl

theorem bare_record (recorder : Recorder) (workload : Workload) (capture : Bool) :
    recorder.bare.record workload false = (false, (recorder.record workload capture).2.bare) := by
  unfold Recorder.record
  cases Recorder.isPass workload <;> cases capture <;> rfl

theorem perform_draw (count : UInt64) (s : Recording) :
    perform (.draw count) s =
      match s.recorder.draw count with
      | .ok drawn => ⟨[], .ok (.drawCalls drawn.stats.drawCalls, { s with recorder := drawn })⟩
      | .error reason => ⟨[], .error reason⟩ := by
  simp only [perform, draw, Bind.bind, Act.bind, Act.get, Act.check, Act.set, Pure.pure, Act.pure]
  cases counts : s.recorder.draw count <;> simp [Except.map]

theorem ends_bare (call : RecorderCall) (s : Recording) :
    Act.Ends (perform call) s
      (fun shown reply next => perform call.bare s.bare = ⟨shown, .ok (reply.bare, next.bare)⟩)
      (fun shown reason => perform call.bare s.bare = ⟨shown, .error reason⟩) := by
  cases call with
  | start | finish | reset | pushLabel | append => rfl
  | popLabel =>
    obtain ⟨⟨raw, level, state, stream, ⟨labels⟩, active, suspended, stats⟩, tags⟩ := s
    cases labels <;> rfl
  | beginPass begun mode =>
    simp only [perform, beginPass, Act.ends_bind, Act.ends_get]
    cases resumes : begun.flags.resuming with
    | false =>
      refine Act.ran_of_ends ?_
      show Act.Ends (perform (.beginPass begun .off)) s.bare _ _
      simp only [perform, beginPass, resumes, Act.ends_bind, Act.ends_get]
      exact ⟨rfl, rfl, congrArg (Recording.mk · s.tags.advance) (bare_begin_pass s.recorder s.tags.next begun mode).symm⟩
    | true =>
      refine Act.ran_of_ends ?_
      show Act.Ends (perform (.beginPass begun .off)) s.bare _ _
      simp only [perform, beginPass, resumes, Act.ends_bind, Act.ends_get]
      exact ⟨rfl, congrArg RecorderReply.tag (bare_suspended s.recorder),
        congrArg (Recording.mk · s.tags) (bare_resume_pass s.recorder begun mode).symm⟩
  | endPass =>
    refine Act.ran_of_ends ?_
    have ended := bare_end_pass s.recorder
    exact ⟨rfl, congrArg (fun result => RecorderReply.ended result.1) ended,
      congrArg (fun result => Recording.mk result.2 s.tags) ended⟩
  | draw count =>
    have seen := perform_draw count s.bare
    rw [show s.bare.recorder.draw count = _ from bare_draw s.recorder count] at seen
    unfold Act.Ends
    rw [perform_draw]
    cases counts : s.recorder.draw count with
    | ok drawn =>
      rw [counts] at seen
      exact seen
    | error reason =>
      rw [counts] at seen
      exact seen
  | record workload capture =>
    simp only [perform, record, Act.ends_bind, Act.ends_get, Act.ends_note_if, Act.ends_set, Act.ends_pure]
    refine Act.ran_of_ends ?_
    have recorded := bare_record s.recorder workload capture
    show Act.Ends (perform (.record workload false)) s.bare _ _
    simp only [perform, record, Act.ends_bind, Act.ends_get, Act.ends_note_if, Act.ends_set, Act.ends_pure]
    exact ⟨trivial, congrArg (fun result => RecorderReply.appended result.1) recorded,
      congrArg (fun result => Recording.mk result.2 s.tags) recorded⟩

end Recording

structure RecordingStep.Resembles (step other : RecordingStep) : Prop where
  call : step.call.bare = other.call.bare
  shown : step.shown = other.shown
  reply : step.reply.bare = other.reply.bare
  before : step.before.bare = other.before.bare
  after : step.after.bare = other.after.bare

namespace Recording

variable {s t : Recording}

theorem traces_resemble {calls others : List RecorderCall} (level : s.bare = t.bare)
    (same : calls.map (·.bare) = others.map (·.bare)) :
    List.Forall₂ RecordingStep.Resembles (s.trace calls) (t.trace others) := by
  induction calls generalizing others s t with
  | nil =>
    obtain rfl : others = [] := by simpa using same.symm
    exact .nil
  | cons call rest ih =>
    obtain ⟨other, others, rfl, alike, following⟩ := List.map_eq_cons_iff.mp same.symm
    have one := ends_bare call s
    have two := ends_bare other t
    rw [alike, ← level] at two
    unfold trace
    -- Both calls come to what the one with nothing captured comes to.
    rcases made : perform call s with ⟨shown, reason | ⟨reply, next⟩⟩ <;>
      rcases also : perform other t with ⟨seen, halted | ⟨answer, left⟩⟩
    · exact .nil
    · have clash := (Act.ends_of_error one made).symm.trans (Act.ends_of_ok two also)
      cases clash
    · have clash := (Act.ends_of_ok one made).symm.trans (Act.ends_of_error two also)
      cases clash
    · have both := (Act.ends_of_ok one made).symm.trans (Act.ends_of_ok two also)
      simp only [Ran.mk.injEq, Except.ok.injEq, Prod.mk.injEq] at both
      obtain ⟨rfl, answers, after⟩ := both
      exact .cons ⟨alike.symm, rfl, answers, level, after⟩ (ih after following.symm)

end Recording

namespace RecordingStep

-- The work that the buffer is asked to record itself, as it would be appended, and whether it is.
def tried (step : RecordingStep) : List (Record × Bool) :=
  match step.call with
  | .record workload capture =>
    if Recorder.isPass workload then [] else [(⟨workload, step.before.recorder.labels.snapshot⟩, capture)]
  | _ => []

def attempt (before : List (Record × Bool)) (step : RecordingStep) : List (Record × Bool) :=
  if step.call.restarts then [] else before ++ step.tried

def attempts (steps : List RecordingStep) : List (Record × Bool) := steps.foldl attempt []

def works : RecorderCall → Bool
  | .record _ _ => true
  | _ => false

def grown (step : RecordingStep) : Nat := step.after.recorder.stream.length - step.before.recorder.stream.length

-- Which records of the stream are the buffer's own work: one mark for each record appended since the
-- recording last started over.
def marks (steps : List RecordingStep) : List Bool :=
  steps.foldl
    (fun before step => if step.call.restarts then [] else before ++ List.replicate step.grown (works step.call)) []

end RecordingStep

def pick (marks : List Bool) (stream : Stream) : Stream :=
  (stream.zip marks).filterMap fun marked => if marked.2 then some marked.1 else none

def Recording.own (first : Recording) (steps : List RecordingStep) : Stream :=
  pick (RecordingStep.marks steps) (first.outcome steps).recorder.stream

section Picking

variable {marks : List Bool} {stream : Stream}

theorem pick_append (level : marks.length = stream.length) (own : Bool) (more : Stream) :
    pick (marks ++ List.replicate more.length own) (stream ++ more) = pick marks stream ++ if own then more else [] := by
  have rest : ∀ records : Stream, pick (List.replicate records.length own) records = if own then records else [] := by
    intro records
    induction records with
    | nil => cases own <;> rfl
    | cons record records ih =>
      cases own <;> simpa [pick, List.replicate_succ] using ih
  unfold pick
  rw [List.zip_append level.symm, List.filterMap_append]
  exact congrArg (_ ++ ·) (rest more)

theorem pick_set {position : Nat} (other : marks[position]? = some false) (record : Record) :
    pick marks (stream.set position record) = pick marks stream := by
  induction stream generalizing marks position with
  | nil => rfl
  | cons first stream ih =>
    cases marks with
    | nil => simp at other
    | cons mark marks =>
      cases position with
      | zero =>
        obtain rfl : mark = false := by simpa using other
        rfl
      | succ position =>
        have later := ih (by simpa using other)
        cases mark <;> simpa [pick] using later

end Picking

open RecordingStep

namespace Recording

variable {s next : Recording} {call : RecorderCall} {reply : RecorderReply} {shown : List Event} {ahead : List RecordingStep}

-- The record of an open part is not own work, so its completion changes none.
structure Marked (ahead : List RecordingStep) (s : Recording) : Prop where
  level : (marks ahead).length = s.recorder.stream.length
  part : ∀ position, s.recorder.openAt = some position → (marks ahead)[position]? = some false
  own : pick (marks ahead) s.recorder.stream = (attempts ahead).filterMap fun tried => if tried.2 then some tried.1 else none

theorem marks_concat (ahead : List RecordingStep) (step : RecordingStep) :
    marks (ahead ++ [step]) =
      if step.call.restarts then [] else marks ahead ++ List.replicate step.grown (works step.call) := by
  simp [marks]

theorem attempts_concat (ahead : List RecordingStep) (step : RecordingStep) :
    attempts (ahead ++ [step]) = if step.call.restarts then [] else attempts ahead ++ step.tried := by
  simp [attempts, attempt]

theorem marked_grown {more : Stream} (marked : Marked ahead s) (going : call.restarts = false)
    (stream : next.recorder.stream = s.recorder.stream ++ more)
    (part : ∀ position, next.recorder.openAt = some position →
      s.recorder.openAt = some position ∨ position = s.recorder.stream.length ∧ more ≠ [] ∧ works call = false)
    (tried : (tried ⟨s, call, shown, reply, next⟩).filterMap (fun tried => if tried.2 then some tried.1 else none) =
      if works call then more else []) :
    Marked (ahead ++ [⟨s, call, shown, reply, next⟩]) next := by
  have grown : grown ⟨s, call, shown, reply, next⟩ = more.length := by simp [RecordingStep.grown, stream]
  constructor
  · rw [marks_concat, if_neg (by simp [going]), grown, stream, List.length_append, List.length_append, marked.level,
      List.length_replicate]
  · intro position openAt
    rw [marks_concat, if_neg (by simp [going]), grown]
    rcases part position openAt with before | ⟨rfl, new, other⟩
    · have there := marked.part position before
      rw [List.getElem?_append_left (List.getElem?_eq_some_iff.mp there).1, there]
    · rw [List.getElem?_append_right (Nat.le_of_eq marked.level), marked.level, Nat.sub_self, List.getElem?_replicate,
        if_pos (List.length_pos_iff.mpr new), other]
  · rw [marks_concat, attempts_concat, if_neg (by simp [going]), if_neg (by simp [going]), grown, stream,
      pick_append marked.level, marked.own, List.filterMap_append, tried]

theorem marked_step (marked : Marked ahead s) (made : perform call s = ⟨shown, .ok (reply, next)⟩) :
    Marked (ahead ++ [⟨s, call, shown, reply, next⟩]) next := by
  have makes := makes_of_ok made
  cases call with
  | start | reset =>
    cases makes
    refine ⟨?_, fun position openAt => (nomatch openAt), ?_⟩
    · rw [marks_concat]
      rfl
    · rw [marks_concat, attempts_concat]
      rfl
  | beginPass begun mode =>
    obtain ⟨_, pass, opened, _, _, ⟨unplaced, _, stream⟩ | ⟨record, _, placed, stream⟩⟩ := makes_begin makes
    · have grown : next.recorder.stream = s.recorder.stream ++ [] := by rw [stream, List.append_nil]
      refine marked_grown marked rfl grown ?_ rfl
      intro position openAt
      rw [Recorder.openAt, opened, Option.bind_some, unplaced] at openAt
      cases openAt
    · refine marked_grown marked rfl stream ?_ rfl
      intro position openAt
      rw [Recorder.openAt, opened, Option.bind_some, placed] at openAt
      exact .inr ⟨(Option.some.inj openAt).symm, List.cons_ne_nil _ _, rfl⟩
  | endPass =>
    obtain ⟨closed, idle, ends⟩ := makes_end makes
    have kept : next.recorder.stream.length = s.recorder.stream.length ∧
        pick (marks ahead) next.recorder.stream = pick (marks ahead) s.recorder.stream := by
      cases opened : s.recorder.active with
      | none => rw [(idle opened).2]; exact ⟨rfl, rfl⟩
      | some pass =>
        obtain ⟨_, unkept, completes⟩ := ends pass opened
        cases placed : pass.position with
        | none => rw [unkept placed]; exact ⟨rfl, rfl⟩
        | some place =>
          have other := marked.part place (by rw [Recorder.openAt, opened, Option.bind_some, placed])
          have bound := (List.getElem?_eq_some_iff.mp other).1
          rw [marked.level] at bound
          rw [completes place placed, Recorder.modify_ended (List.getElem?_eq_getElem bound)]
          exact ⟨List.length_set, pick_set other _⟩
    have still : marks (ahead ++ [⟨s, .endPass, shown, reply, next⟩]) = marks ahead := by
      rw [marks_concat, if_neg (by simp [RecorderCall.restarts])]
      simp [grown, kept.1]
    refine ⟨by rw [still, kept.1, marked.level], fun position openAt => by simp [Recorder.openAt, closed] at openAt, ?_⟩
    rw [still, kept.2, marked.own, attempts_concat, if_neg (by simp [RecorderCall.restarts])]
    simp [tried]
  | record workload capture =>
    have recorded : next.recorder = (s.recorder.record workload capture).2 := by
      cases makes
      rfl
    refine marked_grown marked rfl ((congrArg Recorder.stream recorded).trans (Recorder.stream_record ..))
      (fun position openAt => .inl (within_open_at makes rfl openAt)) ?_
    unfold tried
    cases part : Recorder.isPass workload <;> cases capture <;> simp [part, works]
  | _ =>
    obtain ⟨⟨more, stream⟩, _, _⟩ := makes_within makes rfl
    exact marked_grown marked rfl stream.symm (fun position openAt => .inl (within_open_at makes rfl openAt)) rfl

theorem run_marked {raw : RawBuffer} {level : BufferLevel} {tags : TagSource} {last : Recording}
    (run : Run ⟨.new raw level, tags⟩ ahead last) : Marked ahead last := by
  induction run with
  | start => exact ⟨rfl, fun _ openAt => (nomatch openAt), rfl⟩
  | step steps s next call shown reply _ made ih => exact marked_step ih made

theorem own_trace (raw : RawBuffer) (level : BufferLevel) (tags : TagSource) (calls : List RecorderCall) :
    own ⟨.new raw level, tags⟩ (trace ⟨.new raw level, tags⟩ calls) =
      (attempts (trace ⟨.new raw level, tags⟩ calls)).filterMap fun tried => if tried.2 then some tried.1 else none :=
  (run_marked (run_trace ⟨.new raw level, tags⟩ calls)).own

theorem trace_made {calls : List RecorderCall} {step : RecordingStep} (member : step ∈ s.trace calls) : step.call ∈ calls := by
  induction calls generalizing s with
  | nil => cases member
  | cons call rest ih =>
    unfold trace at member
    rcases made : perform call s with ⟨shown, reason | ⟨reply, next⟩⟩
    · simp [made] at member
    · rw [made] at member
      rcases List.mem_cons.mp member with rfl | later
      · exact List.mem_cons_self
      · exact List.mem_cons_of_mem call (ih later)

end Recording

namespace RecordingStep

variable {step other : RecordingStep} {steps others : List RecordingStep}

theorem tried_resembles (alike : step.Resembles other) : step.tried.map Prod.fst = other.tried.map Prod.fst := by
  have labels : step.before.recorder.labels = other.before.recorder.labels := by
    show step.before.bare.recorder.labels = other.before.bare.recorder.labels
    rw [alike.before]
  have calls := alike.call
  unfold tried
  rw [labels]
  generalize step.call = call, other.call = also at calls ⊢
  cases call <;> cases also <;> cases calls <;>
    first
    | rfl
    | (dsimp only; split <;> rfl)

theorem restarts_resembles (alike : step.Resembles other) : step.call.restarts = other.call.restarts := by
  have calls := alike.call
  generalize step.call = call, other.call = also at calls ⊢
  cases call <;> cases also <;> cases calls <;> rfl

theorem attempts_resemble (alike : List.Forall₂ Resembles steps others) :
    (attempts steps).map Prod.fst = (attempts others).map Prod.fst := by
  have through : ∀ one two : List (Record × Bool), one.map Prod.fst = two.map Prod.fst →
      (steps.foldl attempt one).map Prod.fst = (others.foldl attempt two).map Prod.fst := by
    induction alike with
    | nil => exact fun _ _ level => level
    | cons alike _ ih =>
      intro one two level
      refine ih _ _ ?_
      unfold attempt
      rw [restarts_resembles alike]
      split
      · rfl
      · rw [List.map_append, List.map_append, level, tried_resembles alike]
  exact through [] [] rfl

theorem attempts_flags (flags : ∀ step ∈ steps, ∀ workload capture, step.call = .record workload capture → capture = true) :
    ∀ tried ∈ attempts steps, tried.2 = true := by
  induction steps using List.reverseRecOn with
  | nil => exact fun _ member => absurd member List.not_mem_nil
  | append_singleton steps step ih =>
    rw [Recording.attempts_concat]
    intro tried member
    split at member
    · cases member
    · rcases List.mem_append.mp member with before | here
      · exact ih (fun step earlier => flags step (by simp [earlier])) tried before
      · unfold RecordingStep.tried at here
        cases call : step.call with
        | record workload capture =>
          rw [call] at here
          obtain rfl := flags step (by simp) workload capture call
          dsimp only at here
          split at here
          · cases here
          · rw [List.mem_singleton.mp here]
        | _ =>
          rw [call] at here
          cases here

structure Agrees (step other : RecordingStep) : Prop where
  call : step.call.bare = other.call.bare
  labels : step.after.recorder.labels = other.after.recorder.labels
  state : step.after.recorder.state = other.after.recorder.state
  stats : step.after.recorder.stats = other.after.recorder.stats
  tags : step.after.tags = other.after.tags
  tag : ∀ tag, step.reply = .tag tag ↔ other.reply = .tag tag
  suspending : ∀ how, step.reply = .ended how → ∃ also, other.reply = .ended also ∧ also.suspending = how.suspending
  shown : step.shown = other.shown

theorem bare_eq_tag {reply : RecorderReply} {tag : Option RenderPassTag} : reply.bare = .tag tag ↔ reply = .tag tag := by
  cases reply <;> simp [RecorderReply.bare]

theorem agrees_of_resembles (alike : step.Resembles other) : step.Agrees other := by
  obtain ⟨call, shown, reply, _, after⟩ := alike
  have kept : ∀ {α : Type} (view : Recording → α), view step.after.bare = view other.after.bare := fun view => by rw [after]
  refine ⟨call, kept (·.recorder.labels), kept (·.recorder.state), kept (·.recorder.stats), kept (·.tags), ?_, ?_, shown⟩
  · intro tag
    rw [← bare_eq_tag, reply, bare_eq_tag]
  · intro how answer
    rw [answer] at reply
    cases also : other.reply with
    | ended seen =>
      simp only [also, RecorderReply.bare, RecorderReply.ended.injEq, RenderPassEnd.mk.injEq] at reply
      exact ⟨seen, rfl, reply.1.symm⟩
    | _ =>
      rw [also] at reply
      cases reply

end RecordingStep

namespace Recording

/-- Two recordings of the same calls, from the same tag on, agree at every step in all that is no
record, whatever each captures. Of the buffer's own work each keeps exactly what its flags say, in
order, out of what is kept where every flag is set. -/
theorem capture_decides_only_records (raw : RawBuffer) (level : BufferLevel) (tags : TagSource)
    (calls others : List RecorderCall) (same : calls.map (·.bare) = others.map (·.bare)) :
    List.Forall₂ Agrees (trace ⟨.new raw level, tags⟩ calls) (trace ⟨.new raw level, tags⟩ others) ∧
      own ⟨.new raw level, tags⟩ (trace ⟨.new raw level, tags⟩ calls) =
        (attempts (trace ⟨.new raw level, tags⟩ calls)).filterMap (fun tried => if tried.2 then some tried.1 else none) ∧
      ((∀ workload capture, .record workload capture ∈ others → capture = true) →
        own ⟨.new raw level, tags⟩ (trace ⟨.new raw level, tags⟩ others) =
          (attempts (trace ⟨.new raw level, tags⟩ calls)).map Prod.fst) := by
  have alike : List.Forall₂ RecordingStep.Resembles (trace ⟨.new raw level, tags⟩ calls) (trace ⟨.new raw level, tags⟩ others) :=
    traces_resemble rfl same
  refine ⟨alike.imp (fun _ _ => agrees_of_resembles), own_trace raw level tags calls, ?_⟩
  intro flags
  have all : ∀ tried ∈ attempts (trace ⟨.new raw level, tags⟩ others), tried.2 = true :=
    attempts_flags fun step member workload capture call => flags workload capture (call ▸ trace_made member)
  rw [own_trace, attempts_resemble alike, List.filterMap_eq_map_iff_forall_eq_some]
  intro tried member
  rw [if_pos (all tried member)]

theorem capture_decides_between_two_works :
    own ⟨.new 7 .primary, .first⟩ (trace ⟨.new 7 .primary, .first⟩
        [.start, .record (.dispatch .indirect) false, .pushLabel "x", .record (.traceRays .indirect) true]) =
      [⟨.traceRays .indirect, ["x"]⟩] ∧
    own ⟨.new 7 .primary, .first⟩ (trace ⟨.new 7 .primary, .first⟩
        [.start, .record (.dispatch .indirect) true, .pushLabel "x", .record (.traceRays .indirect) true]) =
      [⟨.dispatch .indirect, []⟩, ⟨.traceRays .indirect, ["x"]⟩] := by
  obtain ⟨_, kept, all⟩ := capture_decides_only_records 7 .primary .first
    [.start, .record (.dispatch .indirect) false, .pushLabel "x", .record (.traceRays .indirect) true]
    [.start, .record (.dispatch .indirect) true, .pushLabel "x", .record (.traceRays .indirect) true] rfl
  exact ⟨kept, all (by simp)⟩

end Recording

end GpuProfiler
