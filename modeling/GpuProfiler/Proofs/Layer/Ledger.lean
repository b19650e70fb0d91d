import GpuProfiler.Proofs.Layer.Run

set_option autoImplicit false

namespace GpuProfiler

-- Traps put into a buffer since its recording started, by the layer and along with records copied
-- from secondary buffers.
structure Ledger where
  emitted : Nat
  copied : Nat
deriving DecidableEq, Repr

namespace Ledger

def total (ledger : Ledger) : Nat := ledger.emitted + ledger.copied

def kept (ledger : Ledger) (layer : Layer) (buffer : BufferId) : Ledger :=
  match layer.recorder buffer with
  | .ok _ => ledger
  | .error _ => ⟨0, 0⟩

theorem kept_live (ledger : Ledger) {layer : Layer} {buffer : BufferId} {recorder : Recorder}
    (live : layer.recorder buffer = .ok recorder) : ledger.kept layer buffer = ledger := by
  rw [kept, live]

theorem kept_stale (ledger : Ledger) {layer : Layer} {buffer : BufferId}
    (stale : ∀ recorder, layer.recorder buffer ≠ .ok recorder) : ledger.kept layer buffer = ⟨0, 0⟩ := by
  unfold kept
  split
  · next recorder live => exact absurd live (stale recorder)
  · rfl

end Ledger

namespace LayerStep

def sequences (step : LayerStep) : Nat :=
  (Event.trapCalls step.shown).countP fun made => decide (made.method = .commandSetEvent)

def enter (buffer : BufferId) (ledger : Ledger) (step : LayerStep) : Ledger :=
  let kept := ledger.kept step.before buffer
  match step.call with
  | .beginBuffer id | .resetBuffer id => if id = buffer then ⟨0, 0⟩ else kept
  | .command id _ => if id = buffer then { kept with emitted := kept.emitted + step.sequences } else kept
  | .execute id secondaries =>
    if id = buffer ∧ step.reply = .done then
      { kept with copied := kept.copied + (secondaries.map step.before.trappedIn).sum }
    else kept
  | _ => kept

def ledger (buffer : BufferId) (steps : List LayerStep) : Ledger := steps.foldl (enter buffer) ⟨0, 0⟩

-- A step records no trap, or all three calls of one, behind a command and into its buffer.
def Complete (step : LayerStep) : Prop :=
  Event.trapCalls step.shown = [] ∨
    ∃ buffer recorded device events recorder, step.call = .command buffer recorded ∧
      step.before.device buffer.device = .ok device ∧ device.trapEvents = some events ∧
      device.registry.buffer buffer.buffer = .ok recorder ∧
      Event.trapCalls step.shown = events.calls recorder.raw

end LayerStep

namespace LayerStep

variable {layer next : Layer} {call : LayerCall} {shown : List Event} {reply : LayerReply} {buffer : BufferId}

theorem enter_elsewhere (ledger : Ledger) (elsewhere : call.target? ≠ some buffer) :
    enter buffer ledger ⟨layer, call, shown, reply, next⟩ = ledger.kept layer buffer := by
  cases call <;> simp_all [enter, LayerCall.target?]

theorem enter_live (ledger : Ledger) {recorder : Recorder} (elsewhere : call.target? ≠ some buffer)
    (live : layer.recorder buffer = .ok recorder) :
    enter buffer ledger ⟨layer, call, shown, reply, next⟩ = ledger := by
  rw [enter_elsewhere ledger elsewhere, Ledger.kept_live ledger live]

def Balanced (layer : Layer) (buffer : BufferId) (ledger : Ledger) : Prop :=
  ∀ recorder, layer.recorder buffer = .ok recorder → ledger.total = recorder.stream.trapped

theorem balanced_elsewhere {ledger : Ledger} (balanced : Balanced layer buffer ledger)
    (elsewhere : call.target? ≠ some buffer)
    (same : ∀ recorder, next.recorder buffer = .ok recorder → layer.recorder buffer = .ok recorder) :
    Balanced next buffer (enter buffer ledger ⟨layer, call, shown, reply, next⟩) := by
  intro recorder live
  rw [enter_live ledger elsewhere (same recorder live)]
  exact balanced recorder (same recorder live)

theorem enter_restart (ledger : Ledger) (restarts : call.restarts? = some buffer) :
    enter buffer ledger ⟨layer, call, shown, reply, next⟩ = ⟨0, 0⟩ := by
  cases call <;> cases restarts <;> simp [enter]

section Within

variable {id : DeviceId} {device moved : ProfiledDevice} {ledger : Ledger} {handle target : BufferHandle}
  {recorder following : Recorder}

theorem balanced_allocated {level : BufferLevel} {raw : RawBuffer} {given : BufferHandle}
    (balanced : Balanced layer ⟨id, handle⟩ ledger) (here : layer.devices.get? id = some device)
    (there : next.devices.get? id = some moved)
    (live : ∀ other recorder, moved.registry.buffers.get? other = some recorder →
      (device.registry.buffers.get? other = some recorder ∧ device.registry.findBuffer raw ≠ some other) ∨
        (device.registry.buffers.get? other = none ∧ other = given ∧ recorder = .new raw level)) :
    Balanced next ⟨id, handle⟩ (enter ⟨id, handle⟩ ledger ⟨layer, .allocate id level, shown, reply, next⟩) := by
  intro found lives
  rw [Layer.recorder_within there] at lives
  rw [enter_elsewhere ledger (by simp [LayerCall.target?])]
  rcases live handle found lives with ⟨held, _⟩ | ⟨vacant, _, rfl⟩
  · have before := (Layer.recorder_within here handle found).mpr held
    rw [Ledger.kept_live ledger before]
    exact balanced found before
  · have stale (old : Recorder) : layer.recorder ⟨id, handle⟩ ≠ .ok old := by
      rw [Ne, Layer.recorder_within here, vacant]
      exact fun never => by cases never
    rw [Ledger.kept_stale ledger stale]
    rfl

theorem balanced_freed (balanced : Balanced layer ⟨id, handle⟩ ledger)
    (here : layer.devices.get? id = some device) (there : next.devices.get? id = some moved)
    (removed : moved.registry.buffers = (device.registry.buffers.remove target).2) :
    Balanced next ⟨id, handle⟩ (enter ⟨id, handle⟩ ledger ⟨layer, .free ⟨id, target⟩, shown, reply, next⟩) := by
  intro found lives
  rw [Layer.recorder_within there, removed] at lives
  obtain ⟨different, held⟩ := Arena.get_remove_live lives
  have before := (Layer.recorder_within here handle found).mpr held
  rw [enter_live ledger (by simpa [LayerCall.target?] using different.symm) before]
  exact balanced found before

theorem balanced_set (balanced : Balanced layer ⟨id, handle⟩ ledger) (here : layer.devices.get? id = some device)
    (there : next.devices.get? id = some moved) (targets : call.target? = some ⟨id, target⟩)
    (live : device.registry.buffers.get? target = some recorder)
    (registry : moved.registry = device.registry.setBuffer target following)
    (settled : ledger.total = recorder.stream.trapped →
      (enter ⟨id, target⟩ ledger ⟨layer, call, shown, reply, next⟩).total = following.stream.trapped) :
    Balanced next ⟨id, handle⟩ (enter ⟨id, handle⟩ ledger ⟨layer, call, shown, reply, next⟩) := by
  intro found lives
  rw [Layer.recorder_within there, registry, Registry.get_set_buffer live] at lives
  by_cases same : handle = target
  · subst same
    rw [if_pos rfl] at lives
    cases lives
    exact settled (balanced recorder ((Layer.recorder_within here handle recorder).mpr live))
  · rw [if_neg same, ← Layer.recorder_within here] at lives
    have elsewhere : call.target? ≠ some ⟨id, handle⟩ := by
      rw [targets]
      simpa using Ne.symm same
    rw [enter_live ledger elsewhere lives]
    exact balanced found lives

theorem balanced_within (handle : BufferHandle) (sound : device.registry.Sound device.isProfiling)
    (balanced : Balanced layer ⟨id, handle⟩ ledger) (here : layer.devices.get? id = some device)
    (there : next.devices.get? id = some moved) (move : device.Move id call shown reply moved) :
    Balanced next ⟨id, handle⟩ (enter ⟨id, handle⟩ ledger ⟨layer, call, shown, reply, next⟩) := by
  have untouched (same : moved.registry.buffers = device.registry.buffers) (elsewhere : call.target? ≠ some ⟨id, handle⟩) :
      Balanced next ⟨id, handle⟩ (enter ⟨id, handle⟩ ledger ⟨layer, call, shown, reply, next⟩) := by
    apply balanced_elsewhere balanced elsewhere
    intro recorder live
    rwa [Layer.recorder_within there, same, ← Layer.recorder_within here] at live
  have kept {target : BufferHandle} {recorder : Recorder} (live : device.registry.buffers.get? target = some recorder) :
      ledger.kept layer ⟨id, target⟩ = ledger :=
    Ledger.kept_live ledger ((Layer.recorder_within here target recorder).mpr live)
  cases move with
  | passed call shown reply moved untargeted quiet rests same => exact untouched same.buffers (by simp [untargeted])
  | missed call target reply made stale =>
    by_cases named : target = handle
    · intro recorder live
      rw [Layer.recorder_within there, ← named, stale] at live
      cases live
    · exact untouched rfl (by simpa [made] using named)
  | refused primary secondaries error =>
    intro recorder live
    rw [Layer.recorder_within there] at live
    simpa [enter, kept live] using balanced recorder ((Layer.recorder_within here handle recorder).mpr live)
  | allocated level shown raw given moved quiet rests handed empty contents lookup live =>
    exact balanced_allocated balanced here there live
  | freed target recorder shown moved quiet rests live empty contents removed lookup =>
    exact balanced_freed balanced here there removed
  | restarted call target recorder afresh shown reply moved restarts quiet rests live raw stream closed registry
      contents answered =>
    apply balanced_set balanced here there (LayerCall.restarts_target restarts) live registry
    intro _
    rw [enter_restart ledger restarts, stream]
    rfl
  | finished target recorder shown reply moved quiet rests live registry contents =>
    apply balanced_set balanced here there rfl live registry
    intro level
    simp only [enter, kept live]
    exact level
  | recorded target recorder following command stops tags used notes shown moved rests live ran registry driver
      calls steps =>
    have follows := ProfiledDevice.follows_of_ran (sound.recorders target recorder live) ran
    have added : sequences ⟨layer, .command ⟨id, target⟩ command, shown, .done, next⟩ = stops.toNat := by
      rw [sequences, calls]
      cases stops <;> rfl
    have grown : following.stream.trapped = recorder.stream.trapped + stops.toNat := Stream.step_trapped follows.step
    apply balanced_set balanced here there rfl live registry
    intro level
    simp only [enter, if_true, kept live, added, Ledger.total] at level ⊢
    omega
  | executed primary secondaries recorder shown moved quiet rests live own registry driver =>
    have copied : Stream.trapped (secondaries.flatMap fun secondary => device.registry.streamOf secondary.buffer) =
        (secondaries.map layer.trappedIn).sum := by
      rw [← Layer.streams_in_device here fun secondary member => (own secondary member).1]
      exact Stream.trapped_flat_map layer.streamOf secondaries
    apply balanced_set balanced here there rfl live registry
    intro level
    simp only [enter, if_true, and_self, kept live, Ledger.total, Recorder.append, Stream.trapped_append, copied] at level ⊢
    omega
  | submitted queue submissions shown reply moved calls events same =>
    exact untouched same.buffers (by simp [LayerCall.target?])

end Within

theorem balanced_move {ledger : Ledger} (sound : layer.Sound) (balanced : Balanced layer buffer ledger)
    (move : layer.Move call shown reply next) :
    Balanced next buffer (enter buffer ledger ⟨layer, call, shown, reply, next⟩) := by
  have untouched {id : DeviceId} (made : call.device? = some id) (away : buffer.device ≠ id) :
      call.target? ≠ some buffer := by
    intro target
    rw [LayerCall.target_device target] at made
    exact away (Option.some.inj made)
  cases move with
  | looked call reply nowhere =>
    refine balanced_elsewhere balanced ?_ (fun recorder live => live)
    intro target
    rw [LayerCall.target_device target] at nowhere
    cases nowhere
  | lost call id reply made gone =>
    by_cases same : buffer.device = id
    · intro recorder live
      obtain ⟨device, here, _⟩ := (Layer.recorder_ok layer buffer recorder).mp live
      rw [same, gone] at here
      cases here
    · exact balanced_elsewhere balanced (untouched made same) (fun recorder live => live)
  | created driver backend device shown next quiet born devices =>
    apply balanced_elsewhere balanced (by simp [LayerCall.target?])
    intro recorder live
    rw [Layer.recorder_ok, devices] at live
    obtain ⟨found, there, held⟩ := live
    rcases Arena.get_insert_cases sound.devices device there with before | ⟨_, _, rfl⟩
    · exact (Layer.recorder_ok layer buffer recorder).mpr ⟨found, before, held⟩
    · rw [born.registry, show Registry.empty.buffers.get? buffer.buffer = none from Arena.get_empty _] at held
      cases held
  | destroyed id device shown next quiet live devices =>
    apply balanced_elsewhere balanced (by simp [LayerCall.target?])
    intro recorder live
    rw [Layer.recorder_ok, devices] at live
    obtain ⟨found, there, held⟩ := live
    exact (Layer.recorder_ok layer buffer recorder).mpr ⟨found, (Arena.get_remove_live there).2, held⟩
  | within id call device moved shown reply next made live move devices =>
    by_cases same : buffer.device = id
    · subst same
      have there : next.devices.get? buffer.device = some moved := by
        rw [devices]
        exact Arena.get_set_here _ _ device moved live
      exact balanced_within buffer.buffer (sound.registries _ device live) balanced live there move
    · apply balanced_elsewhere balanced (untouched made same)
      intro recorder found
      rw [Layer.recorder_ok, devices, Arena.get_set_elsewhere _ id buffer.device moved same] at found
      exact (Layer.recorder_ok layer buffer recorder).mpr found

theorem complete_move (sound : layer.Sound) (move : layer.Move call shown reply next) :
    Complete ⟨layer, call, shown, reply, next⟩ := by
  cases move with
  | looked call reply nowhere => exact .inl rfl
  | lost call id reply made gone => exact .inl rfl
  | created driver backend device shown next quiet born devices => exact .inl (quiet_trap_calls quiet)
  | destroyed id device shown next quiet live devices => exact .inl (quiet_trap_calls quiet)
  | within id call device moved shown reply next made live move devices =>
    cases move with
    | passed call shown reply moved untargeted quiet rests same => exact .inl (quiet_trap_calls quiet)
    | missed call target reply made stale => exact .inl rfl
    | refused primary secondaries error => exact .inl rfl
    | allocated level shown raw given moved quiet rests handed empty contents lookup live =>
      exact .inl (quiet_trap_calls quiet)
    | freed freed recorder shown moved quiet rests live empty contents removed lookup =>
      exact .inl (quiet_trap_calls quiet)
    | restarted call target recorder afresh shown reply moved restarts quiet rests live raw stream closed registry
        contents answered => exact .inl (quiet_trap_calls quiet)
    | finished target recorder shown reply moved quiet rests live registry contents =>
      exact .inl (quiet_trap_calls quiet)
    | recorded target recorder following command stops tags used notes shown moved rests held ran registry driver
        calls steps =>
      cases stops with
      | false => exact .inl calls
      | true =>
        have follows := ProfiledDevice.follows_of_ran ((sound.registries id device live).recorders target recorder held) ran
        obtain ⟨trap, equipped⟩ := Option.isSome_iff_exists.mp (follows.decided rfl)
        have events : device.trapEvents = some device.events := by
          simp only [ProfiledDevice.events, ProfiledDevice.trapEvents, equipped, Option.map_some, Option.getD_some]
        have there : layer.device id = .ok device := by rw [Layer.device, live]
        exact .inr ⟨⟨id, target⟩, command, device, device.events, recorder, rfl, there, events,
          Registry.buffer_some held, calls⟩
    | executed primary secondaries recorder shown moved quiet rests live own registry driver =>
      exact .inl (quiet_trap_calls quiet)
    | submitted queue submissions shown reply moved calls events same => exact .inl calls

theorem run_balanced {allowed : Layer → LayerCall → Prop} {config : Config} {endpoint : ShowingEndpoint}
    {steps : List LayerStep} (run : Layer.Run allowed (.fresh config endpoint) steps layer) (buffer : BufferId) :
    Balanced layer buffer (ledger buffer steps) := by
  induction run with
  | start =>
    intro recorder live
    obtain ⟨device, here, _⟩ := (Layer.recorder_ok _ buffer recorder).mp live
    rw [show (Layer.fresh config endpoint).devices.get? buffer.device = none from Arena.get_empty _] at here
    cases here
  | step steps layer next call shown reply run _ made ih =>
    have sound := Layer.run_sound run
    have move := (Act.ends_of_ok (Layer.ends_perform sound call) made).1
    rw [ledger, List.foldl_append, List.foldl_cons, List.foldl_nil]
    exact balanced_move sound ih move

theorem run_complete {allowed : Layer → LayerCall → Prop} {config : Config} {endpoint : ShowingEndpoint}
    {steps : List LayerStep} (run : Layer.Run allowed (.fresh config endpoint) steps layer) :
    ∀ step ∈ steps, step.Complete := by
  induction run with
  | start => exact fun _ member => (nomatch member)
  | step steps layer next call shown reply run _ made ih =>
    intro step member
    rcases List.mem_append.mp member with before | last
    · exact ih step before
    · have sound := Layer.run_sound run
      rw [List.mem_singleton.mp last]
      exact complete_move sound (Act.ends_of_ok (Layer.ends_perform sound call) made).1

end LayerStep

namespace Layer

/-- Whatever calls were made, in whatever order: each trap in a buffer has one record that the
device stops after, and each such record one trap. No such record is of a part that suspends, and
a trap is asked for only on a device that has the events for one. -/
theorem records_match_traps (allowed : Layer → LayerCall → Prop) (config : Config) (endpoint : ShowingEndpoint)
    (steps : List LayerStep) (layer : Layer) (run : Run allowed (fresh config endpoint) steps layer) :
    (∀ step ∈ steps, step.Complete) ∧
      ∀ buffer recorder, layer.recorder buffer = .ok recorder →
        (LayerStep.ledger buffer steps).emitted + (LayerStep.ledger buffer steps).copied =
            recorder.stream.countP Record.traps ∧
          (∀ record ∈ recorder.stream, ¬(record.traps = true ∧ record.suspends = true)) ∧
          ∀ device command notes following, layer.device buffer.device = .ok device →
            Recording.command command device.captureMode ⟨recorder, layer.shared.tags⟩ =
                ⟨notes, .ok (true, following)⟩ →
              device.trapEvents.isSome = true := by
  refine ⟨LayerStep.run_complete run, ?_⟩
  intro buffer recorder live
  obtain ⟨device, here, held⟩ := (recorder_ok layer buffer recorder).mp live
  have sound := ((run_sound run).registries buffer.device device here).recorders buffer.buffer recorder held
  refine ⟨LayerStep.run_balanced run buffer recorder live, ?_, ?_⟩
  · rintro record member ⟨traps, suspends⟩
    rw [(sound.records record member traps).1] at suspends
    cases suspends
  · intro found command notes following there ran
    rw [Layer.device, here] at there
    cases there
    have decided := (ProfiledDevice.follows_of_ran sound ran).decided rfl
    simpa [ProfiledDevice.trapEvents, ProfiledDevice.isProfiling] using decided

def splitPass : List LayerStep := (fresh (Config.default.withFrameList [0]) ⟨[], 0⟩).trace [
  .createDevice (.new "gpu" [] [] false) .empty,
  .allocate ⟨0, 0⟩ .primary,
  .allocate ⟨0, 0⟩ .secondary,
  .command ⟨⟨0, 0⟩, ⟨1, 0⟩⟩ (.dispatch 1 1 1),
  .command ⟨⟨0, 0⟩, ⟨0, 0⟩⟩ (.beginRenderPass ⟨8, 8, 1, ⟨true, false⟩⟩),
  .command ⟨⟨0, 0⟩, ⟨0, 0⟩⟩ .endRenderPass,
  .command ⟨⟨0, 0⟩, ⟨0, 0⟩⟩ (.beginRenderPass ⟨8, 8, 1, ⟨false, true⟩⟩),
  .command ⟨⟨0, 0⟩, ⟨0, 0⟩⟩ .endRenderPass,
  .execute ⟨⟨0, 0⟩, ⟨0, 0⟩⟩ [⟨⟨0, 0⟩, ⟨1, 0⟩⟩]]

def afterSplitPass : Layer := (fresh (Config.default.withFrameList [0]) ⟨[], 0⟩).outcome splitPass

theorem split_pass_matches_traps :
    Run (fun _ _ => True) (fresh (Config.default.withFrameList [0]) ⟨[], 0⟩) splitPass afterSplitPass ∧
      (∀ step ∈ splitPass, step.Complete) ∧ LayerStep.ledger ⟨⟨0, 0⟩, ⟨0, 0⟩⟩ splitPass = ⟨1, 1⟩ ∧
      ∃ recorder, afterSplitPass.recorder ⟨⟨0, 0⟩, ⟨0, 0⟩⟩ = .ok recorder ∧
        1 + 1 = recorder.stream.countP Record.traps := by
  have run : Run (fun _ _ => True) _ splitPass afterSplitPass := run_trace _ _ fun _ _ => trivial
  obtain ⟨complete, balanced⟩ := records_match_traps _ _ _ splitPass afterSplitPass run
  have entered : LayerStep.ledger ⟨⟨0, 0⟩, ⟨0, 0⟩⟩ splitPass = ⟨1, 1⟩ := by decide +kernel
  refine ⟨run, complete, entered, ?_⟩
  have live : (afterSplitPass.recorder ⟨⟨0, 0⟩, ⟨0, 0⟩⟩).isOk = true := by decide +kernel
  cases found : afterSplitPass.recorder ⟨⟨0, 0⟩, ⟨0, 0⟩⟩ with
  | error error =>
    rw [found] at live
    cases live
  | ok recorder =>
    have level := (balanced ⟨⟨0, 0⟩, ⟨0, 0⟩⟩ recorder found).1
    rw [entered] at level
    exact ⟨recorder, rfl, level⟩

end Layer

end GpuProfiler
