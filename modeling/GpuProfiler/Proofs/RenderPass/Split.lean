import GpuProfiler.Proofs.RenderPass.Reported

set_option autoImplicit false

namespace GpuProfiler

structure DictatedPass.Split (pass : DictatedPass) : Prop where
  proper : pass.Proper
  lone : pass.Lone
  several : pass.resumed ≠ []

theorem DictatedPass.split_suspends {pass : DictatedPass} (split : pass.Split) : pass.first.suspends = true := by
  have goesOn := split.proper.goesOn
  cases resumed : pass.resumed with
  | nil => exact absurd resumed split.several
  | cons next rest =>
    rw [resumed, List.map_cons] at goesOn
    exact goesOn.1.1

namespace Layer

/-- A render pass in several parts, recorded over one or more buffers that are submitted together, is
sampled once, where its last part ends, and reported as one pass with the draws of all its parts, if
the first of its parts in the last buffer was begun while workloads were captured; else it is not
sampled at all. The device's driver is its own and fails no call that the device is sent on by, and
what is executed on the device is left alone. -/
theorem split_pass_reported_once (config : Config) (endpoint : ShowingEndpoint) (steps : List LayerStep) (layer : Layer)
    (queue : QueueId) (run : Run (DisciplinedOn queue.device) (fresh config endpoint) steps layer)
    (submissions : List Submission) (device : ProfiledDevice) (live : layer.device queue.device = .ok device)
    (profiling : device.isProfiling = true) (pass : DictatedPass) (split : pass.Split) (ahead behind : List Mark)
    (dictated : LayerStep.dictated steps submissions = ahead ++ (pass.marks ++ behind))
    (totals : (Cursor.fresh.visits (layer.recordsOf submissions)).isOk = true) (shown : List Event)
    (outcome : Except Halt (LayerReply × Layer)) (made : perform (.submit queue submissions) layer = ⟨shown, outcome⟩)
    (accepted : ∀ error next, outcome ≠ .ok (.failed error, next)) :
    ∃ next moved place before samplings earlier between own later after,
      outcome = .ok (.done, next) ∧ next.device queue.device = .ok moved ∧
      moved.trapCycles = device.trapCycles + samplings.length ∧
      device.operationsOf submissions = (Piece.timeline (LayerStep.submitted steps submissions)).ops device.events ∧
      pass.Stands ahead (LayerStep.submitted steps submissions) (layer.recordsOf submissions) place ∧ place.Orderly ∧
      pass.Reported device place shown before samplings earlier between own later after ∧
      DictatedPass.Attributed device (device.operationsOf submissions) place
        (before ++ (earlier ++ between).flatMap Sampling.shown) own := by
  obtain ⟨next, moved, place, before, samplings, earlier, between, own, later, after, done, there, cycles, operations, _,
      stands, reported, lone⟩ :=
    accepted_pass run live profiling split.proper (.inl (DictatedPass.split_suspends split)) dictated totals made accepted
  obtain ⟨orderly, attributed⟩ := lone split.lone
  exact ⟨next, moved, place, before, samplings, earlier, between, own, later, after, done, there, cycles, operations, stands,
    orderly, reported, attributed⟩

-- A pass whose first part is recorded while nothing is captured, and whose others are recorded in
-- another buffer, in a frame that is captured.
def overTwoBuffers : List LayerStep := (fresh (Config.default.withFrameList [1]) ⟨[], 0⟩).trace [
  .createDevice (.new "gpu" [] [] false) (.scripted (.new ⟨[⟨7, "cycles", .integer⟩], [], [(7, [.scaled 10])]⟩)),
  .getQueue ⟨0, 0⟩ 0 0,
  .allocate ⟨0, 0⟩ .primary,
  .allocate ⟨0, 0⟩ .primary,
  .beginBuffer ⟨⟨0, 0⟩, ⟨0, 0⟩⟩,
  .command ⟨⟨0, 0⟩, ⟨0, 0⟩⟩ (.beginRenderPass ⟨8, 8, 1, ⟨true, false⟩⟩),
  .command ⟨⟨0, 0⟩, ⟨0, 0⟩⟩ (.draw 3 1),
  .command ⟨⟨0, 0⟩, ⟨0, 0⟩⟩ .endRenderPass,
  .endBuffer ⟨⟨0, 0⟩, ⟨0, 0⟩⟩,
  .present ⟨⟨0, 0⟩, ⟨0, 0⟩⟩,
  .beginBuffer ⟨⟨0, 0⟩, ⟨1, 0⟩⟩,
  .command ⟨⟨0, 0⟩, ⟨1, 0⟩⟩ (.beginRenderPass ⟨8, 8, 1, ⟨true, true⟩⟩),
  .command ⟨⟨0, 0⟩, ⟨1, 0⟩⟩ (.drawIndirect 2),
  .command ⟨⟨0, 0⟩, ⟨1, 0⟩⟩ .endRenderPass,
  .command ⟨⟨0, 0⟩, ⟨1, 0⟩⟩ (.dispatch 1 1 1),
  .command ⟨⟨0, 0⟩, ⟨1, 0⟩⟩ (.beginRenderPass ⟨8, 8, 1, ⟨false, true⟩⟩),
  .command ⟨⟨0, 0⟩, ⟨1, 0⟩⟩ (.draw 3 1),
  .command ⟨⟨0, 0⟩, ⟨1, 0⟩⟩ .endRenderPass,
  .endBuffer ⟨⟨0, 0⟩, ⟨1, 0⟩⟩]

def afterTwoBuffers : Layer := (fresh (Config.default.withFrameList [1]) ⟨[], 0⟩).outcome overTwoBuffers

def bothBuffers : List Submission := [⟨[⟨⟨0, 0⟩, ⟨0, 0⟩⟩, ⟨⟨0, 0⟩, ⟨1, 0⟩⟩], false⟩]

def passOverTwoBuffers : DictatedPass where
  first := ⟨⟨8, 8, 1, ⟨true, false⟩⟩, .track, 1, [.command (.draw 3 1) .track 2], .track, 2⟩
  resumed := [
    ⟨[.finished, .opened], ⟨⟨8, 8, 1, ⟨true, true⟩⟩, .capture, 2, [.command (.drawIndirect 2) .capture 2], .capture, 2⟩⟩,
    ⟨[.command (.dispatch 1 1 1) .capture 2],
      ⟨⟨8, 8, 1, ⟨false, true⟩⟩, .capture, 2, [.command (.draw 3 1) .capture 2], .capture, 2⟩⟩]

theorem pass_over_two_buffers_split : passOverTwoBuffers.Split :=
  ⟨⟨rfl, by decide, by decide, by decide, ⟨⟨rfl, by decide⟩, ⟨rfl, by decide⟩, rfl⟩⟩, ⟨by decide, by decide⟩, by decide⟩

theorem pass_over_two_buffers_reported :
    Run (DisciplinedOn ⟨0, 0⟩) (fresh (Config.default.withFrameList [1]) ⟨[], 0⟩) overTwoBuffers afterTwoBuffers ∧
      passOverTwoBuffers.decider.mode.captures = true ∧
      ∃ device shown next place before samplings earlier between own later after,
        afterTwoBuffers.device ⟨0, 0⟩ = .ok device ∧
        perform (.submit ⟨⟨0, 0⟩, ⟨0, 0⟩⟩ bothBuffers) afterTwoBuffers = ⟨shown, .ok (.done, next)⟩ ∧
        passOverTwoBuffers.Reported device place shown before samplings earlier between own later after ∧
        samplings.filterMap Sampling.message? =
          [.workload [] [⟨"cycles", .integer 20⟩] (.dispatch 1 1 1),
            .workload [] [⟨"cycles", .integer 30⟩] (.renderPass 1 8 8 1 4)] := by
  have run : Run (DisciplinedOn ⟨0, 0⟩) _ overTwoBuffers afterTwoBuffers := run_trace _ _ (by decide +kernel)
  have known : (afterTwoBuffers.device ⟨0, 0⟩).map (·.isProfiling) = .ok true := by decide +kernel
  have answered : (perform (.submit ⟨⟨0, 0⟩, ⟨0, 0⟩⟩ bothBuffers) afterTwoBuffers).outcome.map (·.1) = .ok .done := by
    decide +kernel
  have told : Event.workloads (perform (.submit ⟨⟨0, 0⟩, ⟨0, 0⟩⟩ bothBuffers) afterTwoBuffers).events =
      [.workload [] [⟨"cycles", .integer 20⟩] (.dispatch 1 1 1),
        .workload [] [⟨"cycles", .integer 30⟩] (.renderPass 1 8 8 1 4)] := by decide +kernel
  refine ⟨run, rfl, ?_⟩
  cases live : afterTwoBuffers.device ⟨0, 0⟩ with
  | error error =>
    rw [live] at known
    cases known
  | ok device =>
    have profiling : device.isProfiling = true := by simpa [live, Except.map] using known
    rcases made : perform (.submit ⟨⟨0, 0⟩, ⟨0, 0⟩⟩ bothBuffers) afterTwoBuffers with ⟨shown, outcome⟩
    rw [made] at answered told
    have accepted : ∀ error next, outcome ≠ .ok (.failed error, next) := by
      rintro error next rfl
      cases answered
    obtain ⟨next, _, place, before, samplings, earlier, between, own, later, after, rfl, _, _, _, _, _, reported, _⟩ :=
      split_pass_reported_once _ _ overTwoBuffers afterTwoBuffers ⟨⟨0, 0⟩, ⟨0, 0⟩⟩ run bothBuffers device live profiling
        passOverTwoBuffers pass_over_two_buffers_split [.opened] [.finished] (by decide +kernel)
        (Cursor.visits_draws (by decide +kernel)) shown outcome made accepted
    exact ⟨device, shown, next, place, before, samplings, earlier, between, own, later, after, rfl, rfl, reported,
      reported.told ▸ told⟩

-- The driver fails when the device is to be sent on from the dispatch between the parts.
def failedRelease : List LayerStep := (fresh (Config.default.withFrameList [0]) ⟨[], 0⟩).trace [
  .createDevice (.new "gpu" [⟨.setEvent, 0, .deviceLost⟩] [] false)
    (.scripted (.new ⟨[⟨7, "cycles", .integer⟩], [], [(7, [.scaled 10])]⟩)),
  .getQueue ⟨0, 0⟩ 0 0,
  .allocate ⟨0, 0⟩ .primary,
  .beginBuffer ⟨⟨0, 0⟩, ⟨0, 0⟩⟩,
  .command ⟨⟨0, 0⟩, ⟨0, 0⟩⟩ (.beginRenderPass ⟨8, 8, 1, ⟨true, false⟩⟩),
  .command ⟨⟨0, 0⟩, ⟨0, 0⟩⟩ (.draw 3 1),
  .command ⟨⟨0, 0⟩, ⟨0, 0⟩⟩ .endRenderPass,
  .command ⟨⟨0, 0⟩, ⟨0, 0⟩⟩ (.dispatch 1 1 1),
  .command ⟨⟨0, 0⟩, ⟨0, 0⟩⟩ (.beginRenderPass ⟨8, 8, 1, ⟨false, true⟩⟩),
  .command ⟨⟨0, 0⟩, ⟨0, 0⟩⟩ (.draw 3 1),
  .command ⟨⟨0, 0⟩, ⟨0, 0⟩⟩ .endRenderPass,
  .endBuffer ⟨⟨0, 0⟩, ⟨0, 0⟩⟩]

def afterFailedRelease : Layer := (fresh (Config.default.withFrameList [0]) ⟨[], 0⟩).outcome failedRelease

-- A buffer is recorded anew that was executed in the buffer of the pass before.
def rerecordedSecondary : List LayerStep := (fresh (Config.default.withFrameList [0]) ⟨[], 0⟩).trace [
  .createDevice (.new "gpu" [] [] false) (.scripted (.new ⟨[⟨7, "cycles", .integer⟩], [], [(7, [.scaled 10])]⟩)),
  .getQueue ⟨0, 0⟩ 0 0,
  .allocate ⟨0, 0⟩ .primary,
  .allocate ⟨0, 0⟩ .secondary,
  .beginBuffer ⟨⟨0, 0⟩, ⟨1, 0⟩⟩,
  .command ⟨⟨0, 0⟩, ⟨1, 0⟩⟩ (.dispatch 1 1 1),
  .endBuffer ⟨⟨0, 0⟩, ⟨1, 0⟩⟩,
  .beginBuffer ⟨⟨0, 0⟩, ⟨0, 0⟩⟩,
  .execute ⟨⟨0, 0⟩, ⟨0, 0⟩⟩ [⟨⟨0, 0⟩, ⟨1, 0⟩⟩],
  .command ⟨⟨0, 0⟩, ⟨0, 0⟩⟩ (.beginRenderPass ⟨8, 8, 1, ⟨true, false⟩⟩),
  .command ⟨⟨0, 0⟩, ⟨0, 0⟩⟩ (.draw 3 1),
  .command ⟨⟨0, 0⟩, ⟨0, 0⟩⟩ .endRenderPass,
  .command ⟨⟨0, 0⟩, ⟨0, 0⟩⟩ (.beginRenderPass ⟨8, 8, 1, ⟨false, true⟩⟩),
  .command ⟨⟨0, 0⟩, ⟨0, 0⟩⟩ (.draw 3 1),
  .command ⟨⟨0, 0⟩, ⟨0, 0⟩⟩ .endRenderPass,
  .endBuffer ⟨⟨0, 0⟩, ⟨0, 0⟩⟩,
  .beginBuffer ⟨⟨0, 0⟩, ⟨1, 0⟩⟩,
  .endBuffer ⟨⟨0, 0⟩, ⟨1, 0⟩⟩]

def afterRerecordedSecondary : Layer := (fresh (Config.default.withFrameList [0]) ⟨[], 0⟩).outcome rerecordedSecondary

def passWith (gap : List Mark) : DictatedPass where
  first := ⟨⟨8, 8, 1, ⟨true, false⟩⟩, .capture, 1, [.command (.draw 3 1) .capture 2], .capture, 2⟩
  resumed := [⟨gap, ⟨⟨8, 8, 1, ⟨false, true⟩⟩, .capture, 2, [.command (.draw 3 1) .capture 2], .capture, 2⟩⟩]

def oneBuffer : List Submission := [⟨[⟨⟨0, 0⟩, ⟨0, 0⟩⟩], false⟩]

-- The driver takes the submission with the pass, which is captured; the host waits for ever within it,
-- and only the dispatch is reported.
structure Strands (steps : List LayerStep) (layer : Layer) (pass : DictatedPass) (ahead behind : List Mark) : Prop where
  run : Run (fun _ _ => True) (fresh (Config.default.withFrameList [0]) ⟨[], 0⟩) steps layer
  profiling : (layer.device ⟨0, 0⟩).map (·.isProfiling) = .ok true
  split : pass.Split
  captured : pass.decider.mode.captures = true
  dictated : LayerStep.dictated steps oneBuffer = ahead ++ (pass.marks ++ behind)
  totals : (Cursor.fresh.visits (layer.recordsOf oneBuffer)).isOk = true
  taken : .call "gpu" (.queueSubmit 4096 [[3]]) false ∈ (perform (.submit ⟨⟨0, 0⟩, ⟨0, 0⟩⟩ oneBuffer) layer).events
  blocked : (perform (.submit ⟨⟨0, 0⟩, ⟨0, 0⟩⟩ oneBuffer) layer).outcome.map (·.1) = .error .blocked
  told : Event.workloads (perform (.submit ⟨⟨0, 0⟩, ⟨0, 0⟩⟩ oneBuffer) layer).events =
    [.workload [] [⟨"cycles", .integer 20⟩] (.dispatch 1 1 1)]

theorem failed_release_strands :
    Strands failedRelease afterFailedRelease (passWith [.command (.dispatch 1 1 1) .capture 2]) [.opened] [.finished] where
  run := run_trace _ _ fun _ _ => trivial
  profiling := by decide +kernel
  split := ⟨⟨rfl, by decide, by decide, by decide, ⟨rfl, by decide⟩, rfl⟩, ⟨by decide, by decide⟩, by decide⟩
  captured := rfl
  dictated := by decide +kernel
  totals := by decide +kernel
  taken := by decide +kernel
  blocked := by decide +kernel
  told := by decide +kernel

theorem rerecorded_secondary_strands :
    Strands rerecordedSecondary afterRerecordedSecondary (passWith []) [.opened, .copied [.dispatch 1 1 1]] [.finished] where
  run := run_trace _ _ fun _ _ => trivial
  profiling := by decide +kernel
  split := ⟨⟨rfl, by decide, by decide, by decide, ⟨rfl, by decide⟩, rfl⟩, ⟨by decide, by decide⟩, by decide⟩
  captured := rfl
  dictated := by decide +kernel
  totals := by decide +kernel
  taken := by decide +kernel
  blocked := by decide +kernel
  told := by decide +kernel

-- Of the conditions neither that on the driver nor that on what is executed can be left out.
theorem stranded_pass_goes_unreported :
    Strands failedRelease afterFailedRelease (passWith [.command (.dispatch 1 1 1) .capture 2]) [.opened] [.finished] ∧
      Strands rerecordedSecondary afterRerecordedSecondary (passWith []) [.opened, .copied [.dispatch 1 1 1]] [.finished] :=
  ⟨failed_release_strands, rerecorded_secondary_strands⟩

end Layer

end GpuProfiler
