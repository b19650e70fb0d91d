import GpuProfiler.Proofs.RenderPass.Reported

set_option autoImplicit false

namespace GpuProfiler

namespace DeviceStep

def work? : DeviceStep → Option Command
  | .work recorded => some recorded
  | _ => none

def works (done : List DeviceStep) : List Command := done.filterMap work?

def draws (done : List DeviceStep) : Nat := ((works done).map Command.draws).sum

end DeviceStep

theorem Mark.executed_commands (marks : List Mark) :
    ((marks.flatMap Mark.commands).map Command.draws).sum = (marks.map Mark.executed).sum := by
  induction marks with
  | nil => rfl
  | cons mark rest ih => rw [List.flatMap_cons, List.map_append, List.sum_append, List.map_cons, List.sum_cons, ih, executed]

theorem Timeline.steps_append (events : TrapEvents) (items more : Timeline) :
    steps events (items ++ more) = steps events items ++ steps events more := by
  induction items with
  | nil => rfl
  | cons item rest ih => cases item <;> simp [steps, ih]

theorem Piece.works_timeline (events : TrapEvents) (pieces : List Piece) :
    DeviceStep.works ((timeline pieces).steps events) = pieces.map (·.recorded) := by
  induction pieces with
  | nil => rfl
  | cons piece rest ih =>
    rw [timeline, List.flatMap_cons, Timeline.steps_append, DeviceStep.works, List.filterMap_append, List.map_cons]
    refine (congrArg (_ ++ ·) ih).trans ?_
    obtain ⟨recorded, _ | record⟩ := piece <;> rfl

namespace DictatedPass

variable {pass : DictatedPass} {place : PassPlace} {ahead behind : List Mark} {pieces : List Piece} {records : Stream}

theorem captured_kept (proper : pass.Proper) (captured : pass.decider.mode.captures = true) :
    pass.first.suspends = true ∨ pass.first.mode.captures = true := by
  obtain ⟨first, resumed⟩ := pass
  cases resumed with
  | nil => exact .inr captured
  | cons next rest => exact .inl proper.goesOn.1.1

theorem captured_profiled {profiled : Bool} {start last : Dictation} (captured : pass.decider.mode.captures = true)
    (takes : Dictation.Takes profiled start (ahead ++ (pass.marks ++ behind)) pieces last) : profiled = true := by
  have begins : .command (.beginRenderPass pass.decider.begun) pass.decider.mode pass.decider.tag ∈ pass.marks := by
    rcases List.mem_cons.mp pass.decider_member with same | resumed
    · rw [same]
      exact List.mem_append_left _ List.mem_cons_self
    · obtain ⟨part, member, same⟩ := List.mem_map.mp resumed
      rw [← same]
      refine List.mem_append_right _ (List.mem_flatMap.mpr ⟨part, member, ?_⟩)
      exact List.mem_append_right _ List.mem_cons_self
  exact Dictation.takes_captures takes (List.mem_append_right _ (List.mem_append_left _ begins)) captured

theorem executed_together (events : TrapEvents) (stands : pass.Stands ahead pieces records place) :
    ∃ before during after, (Piece.timeline pieces).steps events = before ++ (during ++ after) ∧
      DeviceStep.works before = ahead.flatMap Mark.commands ∧ DeviceStep.works during = pass.marks.flatMap Mark.commands ∧
      DeviceStep.draws during = pass.draws + pass.copied + pass.between := by
  have works : DeviceStep.works ((Piece.timeline (place.own ++ [Piece.ending place.record])).steps events) =
      pass.marks.flatMap Mark.commands := (Piece.works_timeline events _).trans stands.own
  have whole : pieces = place.lead ++ ((place.own ++ [Piece.ending place.record]) ++ place.rest) := by
    rw [stands.pieces, List.append_assoc, List.singleton_append]
  refine ⟨_, _, (Piece.timeline place.rest).steps events, ?_, (Piece.works_timeline events _).trans stands.lead, works, ?_⟩
  · rw [whole, Piece.timeline_append, Piece.timeline_append, Timeline.steps_append, Timeline.steps_append]
  · rw [DeviceStep.draws, works, Mark.executed_commands, pass.executed_marks]

end DictatedPass

namespace Layer

/-- A render pass that is captured, in one part or in several, is reported with the draws that were
recorded into its parts themselves. From where its first part begins to where its last one ends the
device executes as many, and besides those of the buffers that are executed within the parts and any
between them. -/
theorem captured_pass_reports_own_draws (config : Config) (endpoint : ShowingEndpoint) (steps : List LayerStep) (layer : Layer)
    (queue : QueueId) (run : Run (DisciplinedOn queue.device) (fresh config endpoint) steps layer)
    (submissions : List Submission) (device : ProfiledDevice) (live : layer.device queue.device = .ok device)
    (pass : DictatedPass) (proper : pass.Proper) (captured : pass.decider.mode.captures = true) (ahead behind : List Mark)
    (dictated : LayerStep.dictated steps submissions = ahead ++ (pass.marks ++ behind))
    (totals : (Cursor.fresh.visits (layer.recordsOf submissions)).isOk = true) (shown : List Event)
    (outcome : Except Halt (LayerReply × Layer)) (made : perform (.submit queue submissions) layer = ⟨shown, outcome⟩)
    (accepted : ∀ error next, outcome ≠ .ok (.failed error, next)) :
    ∃ next place told samplings earlier between sampling later untold drawCalls before during after,
      outcome = .ok (.done, next) ∧
      pass.Stands ahead (LayerStep.submitted steps submissions) (layer.recordsOf submissions) place ∧
      pass.Reported device place shown told samplings earlier between [sampling] later untold ∧
      sampling.visited.record = place.record ∧
      sampling.message? = some (.workload place.record.labels sampling.parts.counters (.renderPass pass.first.tag
        pass.first.begun.width pass.first.begun.height pass.first.begun.attachments drawCalls)) ∧
      drawCalls.toNat = pass.draws ∧
      Event.steps shown = before ++ (during ++ after) ∧
      DeviceStep.works before = ahead.flatMap Mark.commands ∧
      DeviceStep.works during = pass.marks.flatMap Mark.commands ∧
      DeviceStep.draws during = drawCalls.toNat + pass.copied + pass.between := by
  have profiling : device.isProfiling = true := by
    have here := (device_ok layer queue.device device).mp live
    obtain ⟨_, _, _, _, _, resolves, _⟩ := accepted_submission run here totals made accepted
    obtain ⟨last, takes, _⟩ := resolved_dictation run here resolves
    rw [dictated] at takes
    exact DictatedPass.captured_profiled captured takes
  obtain ⟨next, _, place, told, samplings, earlier, between, own, later, untold, done, _, _, _, steps, stands, reported, _⟩ :=
    accepted_pass run live profiling proper (DictatedPass.captured_kept proper captured) dictated totals made accepted
  obtain ⟨sampling, drawCalls, rfl, same, sum, message⟩ := reported.once captured
  obtain ⟨before, during, after, split, lead, works, draws⟩ := DictatedPass.executed_together device.events stands
  rw [← sum] at draws
  exact ⟨next, place, told, samplings, earlier, between, sampling, later, untold, drawCalls, before, during, after, done,
    stands, reported, same, message, sum, steps.trans split, lead, works, draws⟩

-- A pass in two parts, with another buffer executed within each of them.
def aroundExecuted : List LayerStep := (fresh (Config.default.withFrameList [0]) ⟨[], 0⟩).trace [
  .createDevice (.new "gpu" [] [] false) (.scripted (.new ⟨[⟨7, "cycles", .integer⟩], [], [(7, [.scaled 10])]⟩)),
  .getQueue ⟨0, 0⟩ 0 0,
  .allocate ⟨0, 0⟩ .primary,
  .allocate ⟨0, 0⟩ .secondary,
  .beginBuffer ⟨⟨0, 0⟩, ⟨1, 0⟩⟩,
  .command ⟨⟨0, 0⟩, ⟨1, 0⟩⟩ (.drawIndirect 2),
  .endBuffer ⟨⟨0, 0⟩, ⟨1, 0⟩⟩,
  .beginBuffer ⟨⟨0, 0⟩, ⟨0, 0⟩⟩,
  .command ⟨⟨0, 0⟩, ⟨0, 0⟩⟩ (.beginRenderPass ⟨8, 8, 1, ⟨true, false⟩⟩),
  .command ⟨⟨0, 0⟩, ⟨0, 0⟩⟩ (.draw 3 1),
  .execute ⟨⟨0, 0⟩, ⟨0, 0⟩⟩ [⟨⟨0, 0⟩, ⟨1, 0⟩⟩],
  .command ⟨⟨0, 0⟩, ⟨0, 0⟩⟩ .endRenderPass,
  .command ⟨⟨0, 0⟩, ⟨0, 0⟩⟩ (.beginRenderPass ⟨8, 8, 1, ⟨false, true⟩⟩),
  .execute ⟨⟨0, 0⟩, ⟨0, 0⟩⟩ [⟨⟨0, 0⟩, ⟨1, 0⟩⟩],
  .command ⟨⟨0, 0⟩, ⟨0, 0⟩⟩ .endRenderPass,
  .endBuffer ⟨⟨0, 0⟩, ⟨0, 0⟩⟩]

def afterAroundExecuted : Layer := (fresh (Config.default.withFrameList [0]) ⟨[], 0⟩).outcome aroundExecuted

def executingBuffer : List Submission := [⟨[⟨⟨0, 0⟩, ⟨0, 0⟩⟩], false⟩]

def passAroundExecuted : DictatedPass where
  first := ⟨⟨8, 8, 1, ⟨true, false⟩⟩, .capture, 1, [.command (.draw 3 1) .capture 2, .copied [.drawIndirect 2]], .capture, 2⟩
  resumed := [⟨[], ⟨⟨8, 8, 1, ⟨false, true⟩⟩, .capture, 2, [.copied [.drawIndirect 2]], .capture, 2⟩⟩]

theorem pass_around_executed_proper : passAroundExecuted.Proper :=
  ⟨rfl, by decide, by decide, by decide, ⟨rfl, by decide⟩, rfl⟩

theorem pass_around_executed_reported :
    Run (DisciplinedOn ⟨0, 0⟩) (fresh (Config.default.withFrameList [0]) ⟨[], 0⟩) aroundExecuted afterAroundExecuted ∧
      passAroundExecuted.decider.mode.captures = true ∧
      ∃ device shown next place told samplings earlier between sampling later untold drawCalls before during after,
        afterAroundExecuted.device ⟨0, 0⟩ = .ok device ∧
        perform (.submit ⟨⟨0, 0⟩, ⟨0, 0⟩⟩ executingBuffer) afterAroundExecuted = ⟨shown, .ok (.done, next)⟩ ∧
        passAroundExecuted.Reported device place shown told samplings earlier between [sampling] later untold ∧
        sampling.message? =
          some (.workload place.record.labels sampling.parts.counters (.renderPass 1 8 8 1 drawCalls)) ∧
        drawCalls = 1 ∧ Event.steps shown = before ++ (during ++ after) ∧
        DeviceStep.works during = passAroundExecuted.marks.flatMap Mark.commands ∧ DeviceStep.draws during = 1 + 4 := by
  have run : Run (DisciplinedOn ⟨0, 0⟩) _ aroundExecuted afterAroundExecuted := run_trace _ _ (by decide +kernel)
  have answered : (perform (.submit ⟨⟨0, 0⟩, ⟨0, 0⟩⟩ executingBuffer) afterAroundExecuted).outcome.map (·.1) = .ok .done := by
    decide +kernel
  refine ⟨run, rfl, ?_⟩
  cases live : afterAroundExecuted.device ⟨0, 0⟩ with
  | error error =>
    have known : (afterAroundExecuted.device ⟨0, 0⟩).isOk = true := by decide +kernel
    rw [live] at known
    cases known
  | ok device =>
    rcases made : perform (.submit ⟨⟨0, 0⟩, ⟨0, 0⟩⟩ executingBuffer) afterAroundExecuted with ⟨shown, outcome⟩
    rw [made] at answered
    have accepted : ∀ error next, outcome ≠ .ok (.failed error, next) := by
      rintro error next rfl
      cases answered
    obtain ⟨next, place, told, samplings, earlier, between, sampling, later, untold, drawCalls, before, during, after, rfl, _,
        reported, _, message, sum, steps, _, works, draws⟩ :=
      captured_pass_reports_own_draws _ _ aroundExecuted afterAroundExecuted ⟨⟨0, 0⟩, ⟨0, 0⟩⟩ run executingBuffer device live
        passAroundExecuted pass_around_executed_proper rfl [.opened] [.finished] (by decide +kernel)
        (Cursor.visits_draws (by decide +kernel)) shown outcome made accepted
    have one : drawCalls = 1 := UInt64.toNat_inj.mp sum
    refine ⟨device, shown, next, place, told, samplings, earlier, between, sampling, later, untold, drawCalls, before, during,
      after, rfl, rfl, reported, message, one, steps, works, ?_⟩
    rw [draws, one]
    rfl

-- The pass is all that the device executes there, with five draws; it is reported with one.
theorem executed_draws_go_unreported :
    Run (DisciplinedOn ⟨0, 0⟩) (fresh (Config.default.withFrameList [0]) ⟨[], 0⟩) aroundExecuted afterAroundExecuted ∧
      passAroundExecuted.Proper ∧ passAroundExecuted.decider.mode.captures = true ∧
      LayerStep.dictated aroundExecuted executingBuffer = [.opened] ++ (passAroundExecuted.marks ++ [.finished]) ∧
      ∃ shown, (perform (.submit ⟨⟨0, 0⟩, ⟨0, 0⟩⟩ executingBuffer) afterAroundExecuted).events = shown ∧
        DeviceStep.works (Event.steps shown) = passAroundExecuted.marks.flatMap Mark.commands ∧
        DeviceStep.draws (Event.steps shown) = 5 ∧
        Event.workloads shown = [.workload [] [⟨"cycles", .integer 20⟩] (.renderPass 1 8 8 1 1)] :=
  ⟨run_trace _ _ (by decide +kernel), pass_around_executed_proper, rfl, by decide +kernel, _, rfl, by decide +kernel,
    by decide +kernel, by decide +kernel⟩

end Layer

end GpuProfiler
