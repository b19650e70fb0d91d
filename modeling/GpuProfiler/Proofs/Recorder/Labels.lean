import GpuProfiler.Proofs.Recorder.Capture
import Mathlib.Data.List.DropRight

set_option autoImplicit false

namespace GpuProfiler

namespace RecorderCall

def relabel (opened : Labels) : RecorderCall → Labels
  | .pushLabel label => opened ++ [label]
  | .popLabel => opened.dropLast
  | _ => opened

def sinceRestart (calls : List RecorderCall) : List RecorderCall := calls.rtakeWhile fun call => !call.restarts

def openLabels (calls : List RecorderCall) : Labels := (sinceRestart calls).foldl relabel []

theorem open_labels_concat (calls : List RecorderCall) (call : RecorderCall) :
    openLabels (calls ++ [call]) = if call.restarts then [] else call.relabel (openLabels calls) := by
  unfold openLabels sinceRestart
  rw [List.rtakeWhile_concat]
  cases call.restarts <;> simp

-- The labels of what a call appends, where the given ones are open. A buffer writes one record at a
-- time or none.
inductive Adds (opened : Labels) : RecorderCall → List Labels → Prop
  | begun (begun : RenderPassBegin) (mode : CaptureMode) : Adds opened (.beginPass begun mode) [opened]
  | recorded (workload : Workload) (capture : Bool) : Adds opened (.record workload capture) [opened]
  | copied (records : Stream) : Adds opened (.append records) (records.map (·.labels))
  | nothing (call : RecorderCall) (own : ∀ records, call ≠ .append records) : Adds opened call []

end RecorderCall

namespace LabelStack

def follow (stack : LabelStack) : RecorderCall → LabelStack
  | .start | .reset => empty
  | .pushLabel label => stack.push label
  | .popLabel => stack.pop
  | _ => stack

theorem snapshot_follow (stack : LabelStack) (call : RecorderCall) :
    (stack.follow call).snapshot = if call.restarts then [] else call.relabel stack.snapshot := by
  cases call with
  | pushLabel label => exact snapshot_push stack label
  | popLabel => exact snapshot_pop stack
  | _ => rfl

end LabelStack

-- A stack that keeps the snapshot it served last. Labels opened or closed drop it.
structure KeptLabels where
  stack : LabelStack
  kept : Option Labels

namespace KeptLabels

def empty : KeptLabels := ⟨.empty, none⟩

def push (labels : KeptLabels) (label : String) : KeptLabels := ⟨labels.stack.push label, none⟩

-- With no label open there is nothing to close, and the snapshot is kept.
def pop (labels : KeptLabels) : KeptLabels :=
  match labels.stack.innermost? with
  | some _ => ⟨labels.stack.pop, none⟩
  | none => labels

def snapshot (labels : KeptLabels) : Labels × KeptLabels :=
  match labels.kept with
  | some kept => (kept, labels)
  | none => (labels.stack.snapshot, { labels with kept := some labels.stack.snapshot })

-- A snapshot is served for a record that the buffer writes, and for no other.
def follow (labels : KeptLabels) (step : RecordingStep) : KeptLabels :=
  match step.call with
  | .start | .reset => empty
  | .pushLabel label => labels.push label
  | .popLabel => labels.pop
  | .append _ => labels
  | _ => if step.grown = 0 then labels else labels.snapshot.2

def Fresh (labels : KeptLabels) : Prop := ∀ kept, labels.kept = some kept → kept = labels.stack.snapshot

theorem fresh_of_none {stack : LabelStack} : Fresh ⟨stack, none⟩ := nofun

theorem snapshot_fresh {labels : KeptLabels} (fresh : labels.Fresh) :
    labels.snapshot.1 = labels.stack.snapshot ∧ labels.snapshot.2.Fresh ∧ labels.snapshot.2.stack = labels.stack := by
  unfold snapshot
  cases found : labels.kept with
  | some kept => exact ⟨fresh kept found, fresh, rfl⟩
  | none =>
    refine ⟨rfl, ?_, rfl⟩
    rintro _ ⟨⟩
    rfl

theorem pop_fresh {labels : KeptLabels} (fresh : labels.Fresh) : labels.pop.Fresh ∧ labels.pop.stack = labels.stack.pop := by
  unfold pop
  cases innermost : labels.stack.innermost? with
  | some _ => exact ⟨fresh_of_none, rfl⟩
  | none =>
    refine ⟨fresh, ?_⟩
    have closed : labels.stack.opened = [] := List.head?_eq_none_iff.mp innermost
    rw [LabelStack.pop, closed]
    exact congrArg LabelStack.mk closed

theorem follow_fresh {labels : KeptLabels} (fresh : labels.Fresh) (step : RecordingStep) :
    (labels.follow step).Fresh ∧ (labels.follow step).stack = labels.stack.follow step.call := by
  obtain ⟨_, served, same⟩ := snapshot_fresh fresh
  unfold follow
  cases step.call with
  | start | reset | pushLabel => exact ⟨fresh_of_none, rfl⟩
  | popLabel => exact pop_fresh fresh
  | append => exact ⟨fresh, rfl⟩
  | _ =>
    dsimp only
    split
    · exact ⟨fresh, rfl⟩
    · exact ⟨served, same⟩

end KeptLabels

theorem Stream.labels_at {stream : Stream} {position : Nat} {record : Record} (there : stream[position]? = some record) :
    (stream.map (·.labels))[position]? = some record.labels := by
  rw [List.getElem?_map, there, Option.map_some]

structure RecordingStep.Appends (step : RecordingStep) (position : Nat) (record : Record) : Prop where
  going : step.call.restarts = false
  new : step.before.recorder.stream.length ≤ position
  there : step.after.recorder.stream[position]? = some record

namespace Recording

variable {s next first last : Recording} {call : RecorderCall} {reply : RecorderReply} {shown : List Event}

theorem labels_open_pass (recorder : Recorder) (flags : RenderPassFlags) (mode : CaptureMode) (captured : Bool)
    (tag : Option RenderPassTag) (workload : Workload) :
    (recorder.openPass flags mode captured tag workload).labels = recorder.labels ∧
      ((recorder.openPass flags mode captured tag workload).stream = recorder.stream ∨
        (recorder.openPass flags mode captured tag workload).stream =
          recorder.stream ++ [⟨workload, recorder.labels.snapshot⟩]) := by
  rcases open_pass_cases recorder flags mode captured tag workload with ⟨_, opened⟩ | opened <;> rw [opened]
  · exact ⟨rfl, .inl rfl⟩
  · exact ⟨rfl, .inr rfl⟩

theorem labels_begun {begun : RenderPassBegin} {mode : CaptureMode} (makes : Makes s (.beginPass begun mode) reply next) :
    next.recorder.labels = s.recorder.labels ∧ (next.recorder.stream = s.recorder.stream ∨
      ∃ workload, next.recorder.stream = s.recorder.stream ++ [⟨workload, s.recorder.labels.snapshot⟩]) := by
  cases makes with
  | begun =>
    obtain ⟨labels, stream⟩ := labels_open_pass _ begun.flags mode mode.captures (some s.tags.next)
      (.renderPass ⟨s.tags.next, begun.width, begun.height, begun.attachments, begun.flags.suspending, 0, false⟩)
    exact ⟨labels, stream.imp_right fun added => ⟨_, added⟩⟩
  | resumed =>
    obtain ⟨labels, stream⟩ := labels_open_pass { s.recorder with suspended := none } begun.flags mode _
      (s.recorder.suspended.bind (·.tag)) (.continuation ⟨s.recorder.suspended.bind (·.tag), begun.flags.suspending, 0, false⟩)
    exact ⟨labels, stream.imp_right fun added => ⟨_, added⟩⟩

theorem labels_ended (makes : Makes s .endPass reply next) :
    next.recorder.labels = s.recorder.labels ∧
      next.recorder.stream.map (·.labels) = s.recorder.stream.map (·.labels) := by
  obtain ⟨_, idle, ends⟩ := makes_end makes
  cases opened : s.recorder.active with
  | none =>
    obtain ⟨_, rfl⟩ := idle opened
    exact ⟨rfl, rfl⟩
  | some pass =>
    obtain ⟨_, unkept, completes⟩ := ends pass opened
    refine ⟨?_, ?_⟩
    · cases makes
      simp only [Recorder.endPass, opened]
    · cases placed : pass.position with
      | none => rw [unkept placed]
      | some position =>
        rw [completes position placed]
        exact Stream.map_modify _ _ _ fun _ => rfl

theorem makes_follow (makes : Makes s call reply next) : next.recorder.labels = s.recorder.labels.follow call := by
  cases makes with
  | started | reset | finished | pushed | popped | appended => rfl
  | begun begun mode anew => exact (labels_begun (.begun begun mode anew)).1
  | resumed begun mode resumes => exact (labels_begun (.resumed begun mode resumes)).1
  | ended => exact (labels_ended .ended).1
  | drawn count drawn counted =>
    obtain ⟨stats, ⟨_, rfl⟩ | ⟨pass, total, _, _, rfl⟩⟩ := Recorder.draw_cases counted <;> rfl
  | recorded workload capture =>
    unfold Recorder.record
    split
    · rfl
    · cases capture <;> rfl

theorem makes_adds (makes : Makes s call reply next) (going : call.restarts = false) :
    ∃ added, call.Adds s.recorder.labels.snapshot added ∧
      next.recorder.stream.map (·.labels) = s.recorder.stream.map (·.labels) ++ added := by
  have unchanged (own : ∀ records, call ≠ .append records)
      (same : next.recorder.stream.map (·.labels) = s.recorder.stream.map (·.labels)) :
      ∃ added, call.Adds s.recorder.labels.snapshot added ∧
        next.recorder.stream.map (·.labels) = s.recorder.stream.map (·.labels) ++ added :=
    ⟨[], .nothing call own, by rw [same, List.append_nil]⟩
  cases call with
  | start | reset => cases going
  | finish | pushLabel | popLabel =>
    refine unchanged nofun ?_
    cases makes
    rfl
  | beginPass begun mode =>
    obtain ⟨_, stream | ⟨workload, stream⟩⟩ := labels_begun makes
    · exact unchanged nofun (by rw [stream])
    · exact ⟨_, .begun begun mode, by rw [stream, List.map_append]; rfl⟩
  | endPass => exact unchanged nofun (labels_ended makes).2
  | draw count =>
    refine unchanged nofun ?_
    cases makes with
    | drawn _ drawn counted =>
      obtain ⟨stats, ⟨_, rfl⟩ | ⟨pass, total, _, _, rfl⟩⟩ := Recorder.draw_cases counted <;> rfl
  | record workload capture =>
    cases makes
    have stream := Recorder.stream_record s.recorder workload capture
    split at stream
    · exact unchanged nofun (by simp only [stream, List.append_nil])
    · split at stream
      · exact ⟨_, .recorded workload capture, by simp only [stream, List.map_append, List.map_cons, List.map_nil]⟩
      · exact unchanged nofun (by simp only [stream, List.append_nil])
  | append records =>
    cases makes
    exact ⟨_, .copied records, List.map_append⟩

theorem makes_appends (makes : Makes s call reply next) {position : Nat} {record : Record}
    (appends : RecordingStep.Appends ⟨s, call, shown, reply, next⟩ position record) :
    (∀ records, call = .append records → records[position - s.recorder.stream.length]? = some record) ∧
      ((∀ records, call ≠ .append records) → record.labels = s.recorder.labels.snapshot) := by
  obtain ⟨going, new, there⟩ := appends
  refine ⟨?_, ?_⟩
  · rintro records rfl
    cases makes
    exact (List.getElem?_append_right new).symm.trans there
  · intro own
    obtain ⟨added, adds, stream⟩ := makes_adds makes going
    have labels : added[position - s.recorder.stream.length]? = some record.labels := by
      have seen : (next.recorder.stream.map (·.labels))[position]? = some record.labels := Stream.labels_at there
      rw [stream, List.getElem?_append_right (by rw [List.length_map]; exact new), List.length_map] at seen
      exact seen
    cases adds with
    | begun | recorded => exact (List.mem_singleton.mp (List.mem_of_getElem? labels))
    | copied records => exact absurd rfl (own records)
    | nothing => cases labels

section Runs

variable {ahead : List RecordingStep} {position : Nat} {record : Record}

theorem run_labels (run : Run first ahead last) (blank : first.recorder.labels = .empty) :
    last.recorder.labels.snapshot = RecorderCall.openLabels (ahead.map (·.call)) := by
  induction run with
  | start => rw [blank]; rfl
  | step steps s next call shown reply _ made ih =>
    rw [makes_follow (makes_of_ok made), LabelStack.snapshot_follow, ih, List.map_append]
    exact (RecorderCall.open_labels_concat _ call).symm

theorem run_kept (run : Run first ahead last) (blank : first.recorder.labels = .empty) :
    (ahead.foldl KeptLabels.follow .empty).Fresh ∧ (ahead.foldl KeptLabels.follow .empty).stack = last.recorder.labels := by
  induction run with
  | start => exact ⟨KeptLabels.fresh_of_none, blank.symm⟩
  | step steps s next call shown reply _ made ih =>
    obtain ⟨fresh, stack⟩ := ih
    rw [List.foldl_concat, makes_follow (makes_of_ok made), ← stack]
    exact KeptLabels.follow_fresh fresh ⟨s, call, shown, reply, next⟩

theorem run_lasts (run : Run first ahead last) (going : ∀ step ∈ ahead, step.call.restarts = false) :
    first.recorder.stream.map (·.labels) <+: last.recorder.stream.map (·.labels) := by
  induction run with
  | start => exact List.prefix_refl _
  | step steps s next call shown reply _ made ih =>
    have goes : call.restarts = false := going ⟨s, call, shown, reply, next⟩ List.mem_concat_self
    obtain ⟨added, _, stream⟩ := makes_adds (makes_of_ok made) goes
    rw [stream]
    exact (ih fun step earlier => going step (List.mem_append_left _ earlier)).trans (List.prefix_append _ _)

theorem run_keeps_labels (run : Run first ahead last) (going : ∀ step ∈ ahead, step.call.restarts = false)
    (there : first.recorder.stream[position]? = some record) :
    ∃ kept, last.recorder.stream[position]? = some kept ∧ kept.labels = record.labels := by
  obtain ⟨more, stream⟩ := run_lasts run going
  have here := Stream.labels_at there
  have seen : (last.recorder.stream.map (·.labels))[position]? = some record.labels := by
    rw [← stream, List.getElem?_append_left (List.getElem?_eq_some_iff.mp here).1, here]
  rw [List.getElem?_map] at seen
  exact Option.map_eq_some_iff.mp seen

theorem run_appended (run : Run first ahead last) (blank : first.recorder.stream = [])
    (there : last.recorder.stream[position]? = some record) :
    ∃ before step behind written, ahead = before ++ step :: behind ∧ (∀ later ∈ behind, later.call.restarts = false) ∧
      step.Appends position written ∧ written.labels = record.labels := by
  induction run generalizing record with
  | start => simp [blank] at there
  | step steps s next call shown reply _ made ih =>
    cases going : call.restarts with
    | true =>
      have gone : next.recorder.stream = [] := by
        cases makes_of_ok made <;> first | rfl | cases going
      simp [gone] at there
    | false =>
      rcases Nat.lt_or_ge position s.recorder.stream.length with old | new
      · obtain ⟨earlier, stood⟩ : ∃ earlier, s.recorder.stream[position]? = some earlier :=
          ⟨_, List.getElem?_eq_getElem old⟩
        have same : earlier.labels = record.labels := by
          obtain ⟨added, _, stream⟩ := makes_adds (makes_of_ok made) going
          have seen := Stream.labels_at there
          rw [stream, List.getElem?_append_left (by rwa [List.length_map]), Stream.labels_at stood] at seen
          exact Option.some.inj seen
        obtain ⟨before, step, behind, written, rfl, later, appends, kept⟩ := ih stood
        refine ⟨before, step, behind ++ [⟨s, call, shown, reply, next⟩], written, ?_, ?_, appends, kept.trans same⟩
        · rw [List.append_assoc, List.cons_append]
        · intro other member
          rcases List.mem_append.mp member with within | here
          · exact later other within
          · rw [List.mem_singleton.mp here]
            exact going
      · exact ⟨steps, ⟨s, call, shown, reply, next⟩, [], record, rfl, List.forall_mem_nil _, ⟨going, new, there⟩, rfl⟩

end Runs

-- The labels of a record that a step appends behind some others: those open then, which a kept
-- snapshot serves as well, or those that the record was copied with.
structure Labelled (ahead : List RecordingStep) (step : RecordingStep) (position : Nat) (record : Record) : Prop where
  opened : (∀ records, step.call ≠ .append records) →
    record.labels = RecorderCall.openLabels (ahead.map (·.call)) ∧
      record.labels = (ahead.foldl KeptLabels.follow .empty).snapshot.1
  copied : ∀ records, step.call = .append records →
    records[position - step.before.recorder.stream.length]? = some record

/-- In every sequence of calls whose draws fit, each call is made. A record that a call writes carries
the labels opened and not closed by the calls before, since the recording last started over, and a
copied one is the record it was. Each keeps its place and its labels until the recording starts over,
and every record of the buffer was appended so. -/
theorem records_keep_labels_of_their_time (raw : RawBuffer) (level : BufferLevel) (tags : TagSource)
    (calls : List RecorderCall) :
    (RecorderCall.Fits calls → (trace ⟨.new raw level, tags⟩ calls).map (·.call) = calls) ∧
      (∀ ahead step behind, trace ⟨.new raw level, tags⟩ calls = ahead ++ step :: behind →
        ∀ position record, step.Appends position record → Labelled ahead step position record ∧
          ∀ between rest, behind = between ++ rest → (∀ later ∈ between, later.call.restarts = false) →
            ∃ kept, (outcome ⟨.new raw level, tags⟩ (ahead ++ step :: between)).recorder.stream[position]? = some kept ∧
              kept.labels = record.labels) ∧
      ∀ position record,
        (outcome ⟨.new raw level, tags⟩ (trace ⟨.new raw level, tags⟩ calls)).recorder.stream[position]? = some record →
        ∃ ahead step behind written, trace ⟨.new raw level, tags⟩ calls = ahead ++ step :: behind ∧
          (∀ later ∈ behind, later.call.restarts = false) ∧ step.Appends position written ∧
          written.labels = record.labels := by
  have run := run_trace ⟨.new raw level, tags⟩ calls
  refine ⟨trace_new raw level tags, ?_, fun position record there => run_appended run rfl there⟩
  intro ahead step behind split position record appends
  rw [split] at run
  obtain ⟨middle, before, later⟩ := run_split run
  obtain ⟨rfl, made, after⟩ := run_cons later
  obtain ⟨copied, opened⟩ := makes_appends (makes_of_ok made) appends
  refine ⟨⟨?_, copied⟩, ?_⟩
  · intro own
    obtain ⟨fresh, stack⟩ := run_kept before rfl
    rw [(KeptLabels.snapshot_fresh fresh).1, stack, ← run_labels before rfl]
    exact ⟨opened own, opened own⟩
  · rintro between rest rfl going
    obtain ⟨last, during, _⟩ := run_split after
    have whole := run_append (run_append before (.step [] _ _ _ _ _ .start made)) during
    rw [List.append_assoc] at whole
    obtain ⟨kept, there, same⟩ := run_keeps_labels during going appends.there
    exact ⟨kept, (congrArg (·.recorder.stream[position]?) (run_outcome whole)).trans there, same⟩

-- One more label is closed than was opened, and another record is copied, before the next work.
def closedTwice : List RecorderCall :=
  [.start, .pushLabel "a", .record (.dispatch .indirect) true, .popLabel, .popLabel,
    .append [⟨.traceRays .indirect, ["x"]⟩], .record (.dispatch .indirect) true]

theorem closed_label_stays_with_record :
    (∃ ahead step behind, trace ⟨.new 7 .primary, .first⟩ closedTwice = ahead ++ step :: behind ∧
      Labelled ahead step 0 ⟨.dispatch .indirect, ["a"]⟩ ∧
      ∃ kept, (outcome ⟨.new 7 .primary, .first⟩ (ahead ++ step :: behind)).recorder.stream[0]? = some kept ∧
        kept.labels = ["a"]) ∧
    ∃ ahead step, trace ⟨.new 7 .primary, .first⟩ closedTwice = ahead ++ [step] ∧
      Labelled ahead step 2 ⟨.dispatch .indirect, []⟩ := by
  have split : ∃ ahead step behind last, trace ⟨.new 7 .primary, .first⟩ closedTwice = ahead ++ step :: (behind ++ [last]) ∧
      step.Appends 0 ⟨.dispatch .indirect, ["a"]⟩ ∧ (∀ later ∈ behind ++ [last], later.call.restarts = false) ∧
      last.Appends 2 ⟨.dispatch .indirect, []⟩ :=
    ⟨[_, _], _, [_, _, _], _, rfl, ⟨rfl, by decide, rfl⟩, by decide, ⟨rfl, by decide, rfl⟩⟩
  obtain ⟨ahead, step, behind, last, traced, first, going, second⟩ := split
  obtain ⟨_, labelled, _⟩ := records_keep_labels_of_their_time 7 .primary .first closedTwice
  obtain ⟨here, lasts⟩ := labelled ahead step (behind ++ [last]) traced 0 _ first
  have again : trace ⟨.new 7 .primary, .first⟩ closedTwice = (ahead ++ step :: behind) ++ [last] := by
    rw [traced, List.append_assoc, List.cons_append]
  exact ⟨⟨ahead, step, behind ++ [last], traced, here, lasts _ [] (List.append_nil _).symm going⟩,
    ahead ++ step :: behind, last, again, (labelled _ last [] again 2 _ second).1⟩

end Recording

end GpuProfiler
