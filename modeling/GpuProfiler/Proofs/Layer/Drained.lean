import GpuProfiler.Proofs.Layer.Level

set_option autoImplicit false

namespace GpuProfiler

-- What a device has been through: the stops that the records of its submissions asked for, and the
-- steps it took.
structure Tally where
  stops : Nat
  steps : List DeviceStep
deriving DecidableEq, Repr

namespace Tally

-- So many stops, and each of them announced, left and taken back.
structure Level (tally : Tally) (events : TrapEvents) : Prop where
  set : tally.steps.count (.set events.deviceToHost) = tally.stops
  resumed : tally.steps.count (.resume events.hostToDevice) = tally.stops
  reset : tally.steps.count (.reset events.hostToDevice) = tally.stops

def add (tally : Tally) (stops : Nat) (steps : List DeviceStep) : Tally := ⟨tally.stops + stops, tally.steps ++ steps⟩

theorem level_add {tally : Tally} {events : TrapEvents} (level : tally.Level events) (items : Timeline) :
    (tally.add items.traps (items.steps events)).Level events := by
  obtain ⟨sets, resumes, resets⟩ := Timeline.count_steps events items
  refine ⟨?_, ?_, ?_⟩
  · simp [add, level.set, sets]
  · simp [add, level.resumed, resumes]
  · simp [add, level.reset, resets]

end Tally

namespace LayerStep

def stops (step : LayerStep) : Nat :=
  match step.call, step.reply with
  | .submit _ submissions, .done => ((submissions.flatMap (·.buffers)).map step.before.trappedIn).sum
  | _, _ => 0

def count (id : DeviceId) (tally : Tally) (step : LayerStep) : Tally :=
  match step.before.devices.get? id with
  | none => ⟨0, []⟩
  | some _ => if step.call.device? = some id then tally.add step.stops (Event.steps step.shown) else tally

def tally (id : DeviceId) (steps : List LayerStep) : Tally := steps.foldl (count id) ⟨0, []⟩

theorem stops_elsewhere {step : LayerStep} (other : ∀ queue submissions, step.call ≠ .submit queue submissions) :
    step.stops = 0 := by
  unfold stops
  split
  · next queue submissions same _ => exact absurd same (other queue submissions)
  · rfl

end LayerStep

namespace Layer

variable {layer next : Layer} {books : Books} {call : LayerCall} {shown : List Event} {reply : LayerReply}

def Tallied (layer : Layer) (id : DeviceId) (tally : Tally) : Prop :=
  ∀ device, layer.devices.get? id = some device → device.trapCycles = tally.stops ∧ tally.Level device.events

theorem tallied_submit {queue : QueueId} {submissions : List Submission} {device : ProfiledDevice} {tally : Tally}
    (sound : layer.Sound) (level : layer.Level False books) (here : layer.devices.get? queue.device = some device)
    (made : perform (.submit queue submissions) layer = ⟨shown, .ok (reply, next)⟩)
    (tallied : layer.Tallied queue.device tally) :
    next.Tallied queue.device
      (tally.add (LayerStep.stops ⟨layer, .submit queue submissions, shown, reply, next⟩) (Event.steps shown)) := by
  obtain ⟨answer, scope, rfl, devices, resolves, submitted⟩ :=
    Act.ends_of_ok (ends_submit submissions here (sound.registries _ device here) (level _ device here)) made
  obtain ⟨cycles, balanced⟩ := tallied device here
  intro moved there
  rw [devices, Arena.get_set_here _ _ _ _ here] at there
  cases there
  rw [submitted.cycles, submitted.steps, submitted.events, cycles]
  cases answer with
  | error error => exact ⟨rfl, Tally.level_add balanced []⟩
  | ok _ =>
    have stops : LayerStep.stops ⟨layer, .submit queue submissions, shown, .done, next⟩ =
        (Piece.timeline ((submissions.flatMap (·.buffers)).flatMap books)).traps := by
      rw [Piece.traps_timeline, (level_resolved here (level _ device here) (resolves rfl)).1, Stream.trapped_flat_map]
      rfl
    rw [LayerReply.ofAnswer, stops]
    exact ⟨rfl, Tally.level_add balanced _⟩

theorem tallied_within {id : DeviceId} {tally : Tally} {before moved : ProfiledDevice} (sound : layer.Sound)
    (level : layer.Level False books) (made : perform call layer = ⟨shown, .ok (reply, next)⟩)
    (called : call.device? = some id) (live : layer.devices.get? id = some before)
    (move : before.Move id call shown reply moved) (devices : next.devices = layer.devices.set id moved)
    (tallied : layer.Tallied id tally) :
    next.Tallied id (tally.add (LayerStep.stops ⟨layer, call, shown, reply, next⟩) (Event.steps shown)) := by
  by_cases submits : ∃ queue submissions, call = .submit queue submissions
  · obtain ⟨queue, submissions, rfl⟩ := submits
    obtain rfl : queue.device = id := Option.some.inj called
    exact tallied_submit sound level live made tallied
  · have other : ∀ queue submissions, call ≠ .submit queue submissions :=
      fun queue submissions equal => submits ⟨queue, submissions, equal⟩
    obtain ⟨still, trap⟩ := ProfiledDevice.move_still move other
    rw [LayerStep.stops_elsewhere other, still]
    intro device there
    rw [devices, Arena.get_set_here _ _ _ _ live] at there
    cases there
    obtain ⟨cycles, balanced⟩ := tallied before live
    rw [ProfiledDevice.trapCycles, ProfiledDevice.events, ProfiledDevice.trapEvents, trap]
    exact ⟨cycles, Tally.level_add balanced []⟩

theorem tallied_step {id : DeviceId} {tally : Tally} (sound : layer.Sound) (level : layer.Level False books)
    (made : perform call layer = ⟨shown, .ok (reply, next)⟩) (tallied : layer.Tallied id tally) :
    next.Tallied id (LayerStep.count id tally ⟨layer, call, shown, reply, next⟩) := by
  -- Elsewhere neither the device nor its tally changes.
  have beside (device : ProfiledDevice) (here : layer.devices.get? id = some device) (away : call.device? ≠ some id) :
      device.trapCycles = (LayerStep.count id tally ⟨layer, call, shown, reply, next⟩).stops ∧
        (LayerStep.count id tally ⟨layer, call, shown, reply, next⟩).Level device.events := by
    have same : LayerStep.count id tally ⟨layer, call, shown, reply, next⟩ = tally := by
      simp [LayerStep.count, here, away]
    rw [same]
    exact tallied device here
  cases (Act.ends_of_ok (ends_perform sound call) made).1 with
  | looked call reply nowhere => exact fun device here => beside device here (by simp [nowhere])
  | lost call lost reply called gone =>
    intro device here
    apply beside device here
    rw [called]
    rintro same
    rw [Option.some.inj same, here] at gone
    cases gone
  | created driver backend new shown next quiet born devices =>
    intro device there
    rw [devices] at there
    rcases Arena.get_insert_cases sound.devices new there with before | ⟨vacant, _, rfl⟩
    · exact beside device before (by simp [LayerCall.device?])
    · have empty : LayerStep.count id tally
          ⟨layer, .createDevice driver backend, shown, .device (layer.devices.insert device).1, next⟩ = ⟨0, []⟩ := by
        simp [LayerStep.count, vacant]
      rw [empty]
      exact ⟨ProfiledDevice.cycles_born born, rfl, rfl, rfl⟩
  | destroyed gone old shown next quiet live devices =>
    intro device there
    rw [devices] at there
    obtain ⟨different, before⟩ := Arena.get_remove_live there
    exact beside device before (by simpa [LayerCall.device?] using different.symm)
  | within target call before moved shown reply next called live move devices =>
    by_cases same : id = target
    · subst same
      have counted : LayerStep.count id tally ⟨layer, call, shown, reply, next⟩ =
          tally.add (LayerStep.stops ⟨layer, call, shown, reply, next⟩) (Event.steps shown) := by
        simp [LayerStep.count, live, called]
      rw [counted]
      exact tallied_within sound level made called live move devices tallied
    · intro device there
      rw [devices, Arena.get_set_elsewhere _ _ _ _ same] at there
      apply beside device there
      rw [called]
      exact fun equal => same (Option.some.inj equal).symm

theorem run_tallied {config : Config} {endpoint : ShowingEndpoint} {steps : List LayerStep}
    (run : Run Disciplined (fresh config endpoint) steps layer) (id : DeviceId) :
    layer.Tallied id (LayerStep.tally id steps) := by
  induction run with
  | start =>
    intro device there
    rw [show (fresh config endpoint).devices.get? id = none from Arena.get_empty id] at there
    cases there
  | step steps layer next call shown reply run admitted made ih =>
    have level : layer.Level False (LayerStep.books steps) :=
      run_level run fun _ _ disciplined => ⟨disciplined, fun never => never.elim⟩
    rw [LayerStep.tally, List.foldl_append, List.foldl_cons, List.foldl_nil]
    exact tallied_step (run_sound run) level made ih

theorem never_blocks (sound : layer.Sound) (level : layer.Level False books) (disciplined : layer.Disciplined call)
    (blocked : perform call layer = ⟨shown, .error .blocked⟩) : False := by
  rcases Act.ends_of_error (ends_perform sound call) blocked rfl with
    ⟨queue, submissions, rfl⟩ | ⟨driver, backend, rfl, busy⟩ | ⟨id, device, made, here, busy⟩
  · cases here : layer.devices.get? queue.device with
    | none =>
      have lost : Act.Ends (perform (.submit queue submissions)) layer (fun _ _ _ => True) (fun _ _ => False) := by
        simp only [perform, submit, submitUnder, Act.ends_bind, ends_on_device, here, Act.ends_pure]
      exact Act.ends_of_error lost blocked
    | some device =>
      have stopped := Act.ends_of_error (ends_submit submissions here (sound.registries _ device here) (level _ device here)) blocked
      exact stopped.2.1 rfl
  · rw [(disciplined.drivers driver rfl).1] at busy
    exact busy rfl
  · exact busy (level id device here).idle.timeline

/-- Whatever disciplined calls are made, and whatever calls of a driver fail besides those that must
not: no call blocks. Behind each call every device has nothing left to do and no release left over,
and it has been through one cycle for each record that it was to stop after. -/
theorem devices_stay_drained (config : Config) (endpoint : ShowingEndpoint) (steps : List LayerStep) (layer : Layer)
    (run : Run Disciplined (fresh config endpoint) steps layer) :
    (∀ call, layer.Disciplined call → (perform call layer).outcome ≠ .error .blocked) ∧
      ∀ id device, layer.device id = .ok device →
        device.driver.timeline = [] ∧
          (∀ events, device.trapEvents = some events →
            events.hostToDevice ∉ device.driver.signalled ∧
              (LayerStep.tally id steps).steps.count (.set events.deviceToHost) = device.trapCycles ∧
              (LayerStep.tally id steps).steps.count (.resume events.hostToDevice) = device.trapCycles ∧
              (LayerStep.tally id steps).steps.count (.reset events.hostToDevice) = device.trapCycles) ∧
          layer.trapCycles id = .ok (LayerStep.tally id steps).stops := by
  have level : layer.Level False (LayerStep.books steps) :=
    run_level run fun _ _ disciplined => ⟨disciplined, fun never => never.elim⟩
  refine ⟨?_, ?_⟩
  · intro call disciplined blocked
    rcases made : perform call layer with ⟨shown, outcome⟩
    rw [made] at blocked
    cases blocked
    exact never_blocks (run_sound run) level disciplined made
  · intro id device live
    have here := (device_ok layer id device).mp live
    have idle := (level id device here).idle
    obtain ⟨cycles, sets, resumes, resets⟩ := run_tallied run id device here
    refine ⟨idle.timeline, ?_, ?_⟩
    · intro events known
      have same : device.events = events := by rw [ProfiledDevice.events, known, Option.getD_some]
      rw [cycles, ← same]
      exact ⟨idle.unsignalled, sets, resumes, resets⟩
    · rw [trapCycles, live, ← cycles]
      rfl

-- A pass and an executed dispatch, submitted twice to a driver that fails now and then.
def faultyRun : List LayerStep := (fresh (Config.default.withFrameList [0]) ⟨[], 0⟩).trace [
  .createDevice (.new "gpu" [⟨.eventStatus, 0, .deviceLost⟩, ⟨.resetEvent, 0, .deviceLost⟩, ⟨.queueSubmit, 1, .deviceLost⟩]
    [] false) .empty,
  .getQueue ⟨0, 0⟩ 0 0,
  .allocate ⟨0, 0⟩ .primary,
  .allocate ⟨0, 0⟩ .secondary,
  .command ⟨⟨0, 0⟩, ⟨1, 0⟩⟩ (.dispatch 1 1 1),
  .command ⟨⟨0, 0⟩, ⟨0, 0⟩⟩ (.beginRenderPass ⟨8, 8, 1, ⟨false, false⟩⟩),
  .command ⟨⟨0, 0⟩, ⟨0, 0⟩⟩ .endRenderPass,
  .execute ⟨⟨0, 0⟩, ⟨0, 0⟩⟩ [⟨⟨0, 0⟩, ⟨1, 0⟩⟩],
  .submit ⟨⟨0, 0⟩, ⟨0, 0⟩⟩ [⟨[⟨⟨0, 0⟩, ⟨0, 0⟩⟩], false⟩],
  .submit ⟨⟨0, 0⟩, ⟨0, 0⟩⟩ [⟨[⟨⟨0, 0⟩, ⟨0, 0⟩⟩], false⟩]]

def afterFaultyRun : Layer := (fresh (Config.default.withFrameList [0]) ⟨[], 0⟩).outcome faultyRun

theorem faulty_run_stays_drained :
    Run Disciplined (fresh (Config.default.withFrameList [0]) ⟨[], 0⟩) faultyRun afterFaultyRun ∧
      afterFaultyRun.Disciplined (.present ⟨⟨0, 0⟩, ⟨0, 0⟩⟩) ∧
      (perform (.present ⟨⟨0, 0⟩, ⟨0, 0⟩⟩) afterFaultyRun).outcome ≠ .error .blocked ∧
      ∃ device, afterFaultyRun.device ⟨0, 0⟩ = .ok device ∧ device.driver.timeline = [] ∧
        afterFaultyRun.trapCycles ⟨0, 0⟩ = .ok 2 := by
  have run : Run Disciplined _ faultyRun afterFaultyRun := run_trace _ _ (by decide +kernel)
  have next : afterFaultyRun.Disciplined (.present ⟨⟨0, 0⟩, ⟨0, 0⟩⟩) := by decide +kernel
  obtain ⟨unblocked, drained⟩ := devices_stay_drained _ _ faultyRun afterFaultyRun run
  refine ⟨run, next, unblocked _ next, ?_⟩
  have stops : (LayerStep.tally ⟨0, 0⟩ faultyRun).stops = 2 := by decide +kernel
  have live : (afterFaultyRun.device ⟨0, 0⟩).isOk = true := by decide +kernel
  cases found : afterFaultyRun.device ⟨0, 0⟩ with
  | error error =>
    rw [found] at live
    cases live
  | ok device =>
    obtain ⟨timeline, _, cycles⟩ := drained ⟨0, 0⟩ device found
    rw [stops] at cycles
    exact ⟨device, rfl, timeline, cycles⟩

end Layer

end GpuProfiler
