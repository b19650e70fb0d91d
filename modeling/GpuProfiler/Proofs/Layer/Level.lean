import GpuProfiler.Proofs.Device.Level
import GpuProfiler.Proofs.Layer.Run

set_option autoImplicit false

namespace GpuProfiler

abbrev Books := BufferId → List Piece

-- The books behind a step. Those of a buffer start again where its recording does; those of a
-- buffer that is not live are empty.
def LayerStep.extend (books : Books) (step : LayerStep) : Books := fun buffer =>
  match step.before.recorder buffer with
  | .error _ => []
  | .ok recorder =>
    match step.call with
    | .beginBuffer id | .resetBuffer id => if id = buffer then [] else books buffer
    | .command id recorded =>
      if id = buffer then books buffer ++ [⟨recorded, recorder.stream.news (step.after.streamOf buffer)⟩]
      else books buffer
    | .execute id secondaries =>
      if id = buffer ∧ step.reply = .done then books buffer ++ secondaries.flatMap books else books buffer
    | _ => books buffer

def LayerStep.books (steps : List LayerStep) : Books := steps.foldl extend fun _ => []

namespace Layer

-- A call as applications and drivers are taken to make and to answer it; each new device comes with
-- a driver of its own.
structure Disciplined (layer : Layer) (call : LayerCall) : Prop where
  drivers : ∀ driver ∈ call.driver?, driver.Unused
  devices : ∀ id ∈ call.device?, ∀ device ∈ layer.devices.get? id, device.Admits call

theorem disciplined_iff (layer : Layer) (call : LayerCall) : layer.Disciplined call ↔
    (∀ driver ∈ call.driver?, driver.Unused) ∧ ∀ id ∈ call.device?, ∀ device ∈ layer.devices.get? id, device.Admits call :=
  ⟨fun disciplined => ⟨disciplined.drivers, disciplined.devices⟩, fun both => ⟨both.1, both.2⟩⟩

instance (layer : Layer) (call : LayerCall) : Decidable (layer.Disciplined call) :=
  decidable_of_iff _ (layer.disciplined_iff call).symm

-- What of that is asked on account of one device.
structure DisciplinedOn (id : DeviceId) (layer : Layer) (call : LayerCall) : Prop where
  drivers : ∀ driver ∈ call.driver?, (perform call layer).outcome.map (·.1) = .ok (.device id) → driver.Unused
  devices : call.device? = some id → ∀ device ∈ layer.devices.get? id, device.Admits call

theorem disciplined_on_iff (id : DeviceId) (layer : Layer) (call : LayerCall) : layer.DisciplinedOn id call ↔
    (∀ driver ∈ call.driver?, (perform call layer).outcome.map (·.1) = .ok (.device id) → driver.Unused) ∧
      (call.device? = some id → ∀ device ∈ layer.devices.get? id, device.Admits call) :=
  ⟨fun disciplined => ⟨disciplined.drivers, disciplined.devices⟩, fun both => ⟨both.1, both.2⟩⟩

instance (id : DeviceId) (layer : Layer) (call : LayerCall) : Decidable (layer.DisciplinedOn id call) :=
  decidable_of_iff _ (disciplined_on_iff id layer call).symm

theorem disciplined_on {layer : Layer} {call : LayerCall} (disciplined : layer.Disciplined call) (id : DeviceId) :
    layer.DisciplinedOn id call :=
  ⟨fun driver new _ => disciplined.drivers driver new, disciplined.devices id⟩

def Orderly (layer : Layer) (call : LayerCall) : Prop :=
  ∀ id ∈ call.device?, ∀ device ∈ layer.devices.get? id, device.Orders call

instance (layer : Layer) (call : LayerCall) : Decidable (layer.Orderly call) :=
  inferInstanceAs (Decidable (∀ id ∈ call.device?, ∀ device ∈ layer.devices.get? id, device.Orders call))

def Level (layer : Layer) (orderly : Prop) (books : Books) : Prop :=
  ∀ id device, layer.devices.get? id = some device → device.Level orderly fun handle => books ⟨id, handle⟩

variable {layer next : Layer} {books : Books} {orderly : Prop}

section Steps

variable {call : LayerCall} {shown : List Event} {reply : LayerReply} {id : DeviceId} {device moved : ProfiledDevice}
  {handle : BufferHandle} {recorder : Recorder}

theorem extend_stale (here : layer.devices.get? id = some device)
    (stale : device.registry.buffers.get? handle = none) :
    LayerStep.extend books ⟨layer, call, shown, reply, next⟩ ⟨id, handle⟩ = [] := by
  unfold LayerStep.extend
  split
  · rfl
  · next recorder live =>
    rw [recorder_within here, stale] at live
    cases live

theorem extend_live (here : layer.devices.get? id = some device)
    (live : device.registry.buffers.get? handle = some recorder) :
    LayerStep.extend books ⟨layer, call, shown, reply, next⟩ ⟨id, handle⟩ =
      match call with
      | .beginBuffer other | .resetBuffer other => if other = ⟨id, handle⟩ then [] else books ⟨id, handle⟩
      | .command other recorded =>
        if other = ⟨id, handle⟩ then
          books ⟨id, handle⟩ ++ [⟨recorded, recorder.stream.news (next.streamOf ⟨id, handle⟩)⟩]
        else books ⟨id, handle⟩
      | .execute other secondaries =>
        if other = ⟨id, handle⟩ ∧ reply = .done then books ⟨id, handle⟩ ++ secondaries.flatMap books
        else books ⟨id, handle⟩
      | _ => books ⟨id, handle⟩ := by
  have known : layer.recorder ⟨id, handle⟩ = .ok recorder := (recorder_within here handle recorder).mpr live
  unfold LayerStep.extend
  rw [known]

theorem extend_elsewhere (here : layer.devices.get? id = some device)
    (live : device.registry.buffers.get? handle = some recorder) (elsewhere : call.target? ≠ some ⟨id, handle⟩) :
    LayerStep.extend books ⟨layer, call, shown, reply, next⟩ ⟨id, handle⟩ = books ⟨id, handle⟩ := by
  rw [extend_live here live]
  cases call <;> simp_all [LayerCall.target?]

theorem extend_beside (here : layer.devices.get? id = some device) {target other : BufferHandle} {found : Recorder}
    (made : call.target? = some ⟨id, target⟩) (live : device.registry.buffers.get? other = some found)
    (different : other ≠ target) :
    LayerStep.extend books ⟨layer, call, shown, reply, next⟩ ⟨id, other⟩ = books ⟨id, other⟩ := by
  apply extend_elsewhere here live
  rw [made]
  simpa using different.symm

theorem books_in_device {buffers : List BufferId} (own : ∀ buffer ∈ buffers, buffer.device = id) :
    buffers.flatMap books = buffers.flatMap fun buffer => books ⟨id, buffer.buffer⟩ := by
  apply List.flatMap_congr
  intro buffer member
  rw [← own buffer member]

theorem executed_within {primary : BufferHandle} {secondaries : List BufferId}
    (level : device.Level orderly fun handle => books ⟨id, handle⟩) (here : layer.devices.get? id = some device)
    (live : device.registry.buffers.get? primary = some recorder) (rests : ProfiledDevice.Rests device moved)
    (admits : device.Admits (.execute ⟨id, primary⟩ secondaries))
    (orders : orderly → device.Orders (.execute ⟨id, primary⟩ secondaries))
    (own : ∀ secondary ∈ secondaries, secondary.device = id ∧
      ∃ found, device.registry.buffers.get? secondary.buffer = some found)
    (registry : moved.registry = device.registry.setBuffer primary
      (recorder.append (secondaries.flatMap fun secondary => device.registry.streamOf secondary.buffer)))
    (driver : Driver.Recorded device.driver recorder.raw
      [.execute (secondaries.map fun secondary => device.registry.rawOf secondary.buffer)] moved.driver) :
    moved.Level orderly fun handle =>
      LayerStep.extend books ⟨layer, .execute ⟨id, primary⟩ secondaries, shown, .done, next⟩ ⟨id, handle⟩ := by
  have accepts : device.Accepts ⟨id, primary⟩ secondaries := by
    refine ⟨by rw [live]; rfl, ?_⟩
    intro secondary member
    obtain ⟨same, found, held⟩ := own secondary member
    exact ⟨same, by rw [held]; rfl⟩
  obtain ⟨apart, plain⟩ := admits accepts
  have streams : (secondaries.flatMap fun secondary => device.registry.streamOf secondary.buffer) =
      (secondaries.map (·.buffer)).flatMap device.registry.streamOf := by rw [List.flatMap_map]
  have raws : (secondaries.map fun secondary => device.registry.rawOf secondary.buffer) =
      (secondaries.map (·.buffer)).map device.registry.rawOf := by rw [List.map_map]; rfl
  have pieces : secondaries.flatMap books = (secondaries.map (·.buffer)).flatMap fun handle => books ⟨id, handle⟩ := by
    rw [List.flatMap_map]
    exact books_in_device fun secondary member => (own secondary member).1
  rw [streams] at registry
  rw [raws] at driver
  refine ProfiledDevice.level_executed level rests live apart (fun holds => orders holds accepts recorder live) ?_
    registry driver ?_ ?_
  · intro handle listed
    obtain ⟨secondary, member, rfl⟩ := List.mem_map.mp listed
    obtain ⟨same, found, held⟩ := own secondary member
    obtain ⟨different, devices⟩ := plain secondary member
    refine ⟨?_, found, held, devices found held⟩
    rintro equal
    exact different (by rw [← equal, ← same])
  · exact fun other found before different => extend_beside here rfl before different
  · rw [extend_live here live]
    simp [pieces]

theorem level_within (sound : device.registry.Sound device.isProfiling)
    (level : device.Level orderly fun handle => books ⟨id, handle⟩)
    (here : layer.devices.get? id = some device) (there : next.devices.get? id = some moved)
    (admits : device.Admits call) (orders : orderly → device.Orders call)
    (submitted : ∀ queue submissions, call = .submit queue submissions →
      moved.Idle ∧ moved.driver.faults = device.driver.faults)
    (move : device.Move id call shown reply moved) :
    moved.Level orderly fun handle => LayerStep.extend books ⟨layer, call, shown, reply, next⟩ ⟨id, handle⟩ := by
  cases move with
  | passed call shown reply moved untargeted quiet rests same =>
    refine ProfiledDevice.level_same level same (ProfiledDevice.events_rests rests) rests.driver.faults
      (ProfiledDevice.idle_rests rests level.idle) ?_
    exact fun other found live => extend_elsewhere here live (by simp [untargeted])
  | missed call target reply made stale =>
    refine ProfiledDevice.level_same level ⟨rfl, rfl, fun _ => rfl⟩ rfl rfl level.idle ?_
    intro other found live
    apply extend_beside here made live
    rintro rfl
    rw [stale] at live
    cases live
  | refused primary secondaries error =>
    refine ProfiledDevice.level_same level ⟨rfl, rfl, fun _ => rfl⟩ rfl rfl level.idle ?_
    intro other found live
    simp [extend_live here live]
  | allocated size shown raw given moved quiet rests handed empty contents lookup live =>
    apply ProfiledDevice.level_allocated level rests (admits raw handed) empty contents lookup live
    · exact fun other found before => extend_elsewhere here before (by simp [LayerCall.target?])
    · exact fun vacant => extend_stale here vacant
  | freed target recorder shown moved quiet rests live empty contents removed lookup =>
    apply ProfiledDevice.level_freed level rests live admits empty contents removed lookup
    exact fun other found before different => extend_beside here rfl before different
  | restarted call target recorder afresh shown reply moved restarts quiet rests live raw stream closed registry
      contents answered =>
    have apart : device.Apart target := by
      cases call <;> cases restarts <;> exact admits
    apply ProfiledDevice.level_restarted level rests live apart raw stream closed registry contents answered
    · exact fun other found before different => extend_beside here (LayerCall.restarts_target restarts) before different
    · rw [extend_live here live]
      cases call <;> cases restarts <;> simp
  | finished target recorder shown reply moved quiet rests live registry contents =>
    refine ProfiledDevice.level_finished level rests live registry contents ?_
    intro other found before
    rw [extend_live here before]
  | recorded target recorder following command stops tags used notes shown moved rests live ran registry driver
      calls steps =>
    have follows := ProfiledDevice.follows_of_ran (sound.recorders target recorder live) ran
    refine ProfiledDevice.level_recorded level rests live admits (fun holds => orders holds recorder live) follows registry
      driver ?_ ?_
    · exact fun other found before different => extend_beside here rfl before different
    · have stream : next.streamOf ⟨id, target⟩ = following.stream := by
        refine (stream_in_device there).trans (Registry.stream_of_some ?_)
        rw [registry, Registry.get_set_buffer live, if_pos rfl]
      rw [extend_live here live]
      simp [stream]
  | executed primary secondaries recorder shown moved quiet rests live own registry driver =>
    exact executed_within level here live rests admits orders own registry driver
  | submitted queue submissions shown reply moved calls events same =>
    obtain ⟨idle, faults⟩ := submitted _ _ rfl
    apply ProfiledDevice.level_same level same (by rw [ProfiledDevice.events, ProfiledDevice.events, events]) faults idle
    exact fun other found live => extend_elsewhere here live (by simp [LayerCall.target?])

end Steps

section Submissions

variable {queue : QueueId} {device : ProfiledDevice} {submissions : List Submission}

def Resolves (device : ProfiledDevice) (queue : QueueId) (submissions : List Submission) : Prop :=
  ∀ buffer ∈ submissions.flatMap (·.buffers), buffer.device = queue.device ∧
    ∃ recorder, device.registry.buffers.get? buffer.buffer = some recorder

theorem resolved_streams (here : layer.devices.get? queue.device = some device)
    (resolves : Resolves device queue submissions) :
    ((submissions.flatMap (·.buffers)).map (·.buffer)).flatMap device.registry.streamOf =
      (submissions.flatMap (·.buffers)).flatMap layer.streamOf := by
  rw [List.flatMap_map]
  exact (streams_in_device here fun buffer member => (resolves buffer member).1).symm

theorem level_resolved (here : layer.devices.get? queue.device = some device)
    (level : device.Level orderly fun handle => books ⟨queue.device, handle⟩) (resolves : Resolves device queue submissions) :
    (Piece.sampledIn ((submissions.flatMap (·.buffers)).flatMap books)).length =
        Stream.trapped ((submissions.flatMap (·.buffers)).flatMap layer.streamOf) ∧
      (orderly → Piece.sampledIn ((submissions.flatMap (·.buffers)).flatMap books) =
        ((submissions.flatMap (·.buffers)).flatMap layer.streamOf).filter Record.traps) ∧
      (∀ piece ∈ (submissions.flatMap (·.buffers)).flatMap books, ∀ record, piece.sampled = some record →
        piece.recorded.Accounts record) ∧
      (((submissions.flatMap (·.buffers)).map (·.buffer)).map device.registry.rawOf).flatMap device.driver.flatten =
        (Piece.timeline ((submissions.flatMap (·.buffers)).flatMap books)).ops device.events := by
  have live : ∀ handle ∈ (submissions.flatMap (·.buffers)).map (·.buffer),
      ∃ recorder, device.registry.buffers.get? handle = some recorder := by
    intro handle listed
    obtain ⟨buffer, member, rfl⟩ := List.mem_map.mp listed
    exact (resolves buffer member).2
  have pieces : (((submissions.flatMap (·.buffers)).map (·.buffer)).flatMap fun handle => books ⟨queue.device, handle⟩) =
      (submissions.flatMap (·.buffers)).flatMap books := by
    rw [List.flatMap_map]
    exact (books_in_device fun buffer member => (resolves buffer member).1).symm
  rw [← pieces, ← resolved_streams here resolves]
  exact ProfiledDevice.level_buffers level live

theorem ends_submit (submissions : List Submission) (here : layer.devices.get? queue.device = some device)
    (sound : device.registry.Sound device.isProfiling)
    (level : device.Level orderly fun handle => books ⟨queue.device, handle⟩) :
    Act.Ends (perform (.submit queue submissions)) layer
      (fun shown reply next => ∃ answer scope, reply = .ofAnswer (fun _ => .done) answer ∧
        next.devices = layer.devices.set queue.device scope.device ∧
        (answer.isOk = true → Resolves device queue submissions) ∧
        DeviceScope.Submitted ⟨device, layer.shared⟩
          (Piece.timeline ((submissions.flatMap (·.buffers)).flatMap books))
          ((submissions.flatMap (·.buffers)).flatMap layer.streamOf) shown answer scope)
      (fun shown reason => Resolves device queue submissions ∧
        DeviceScope.Overflows ⟨device, layer.shared⟩
          (Piece.timeline ((submissions.flatMap (·.buffers)).flatMap books))
          ((submissions.flatMap (·.buffers)).flatMap layer.streamOf) shown reason) := by
  simp only [perform, submit, submitUnder, Act.ends_bind, Act.ends_pure, ends_on_device, here, Act.ends_get]
  have refused (error : Error) : DeviceScope.Submitted ⟨device, layer.shared⟩
      (Piece.timeline ((submissions.flatMap (·.buffers)).flatMap books))
      ((submissions.flatMap (·.buffers)).flatMap layer.streamOf) ([] ++ []) (.error error) ⟨device, layer.shared⟩ :=
    DeviceScope.submitted_refused level.idle error
  cases known : device.registry.queue queue.queue with
  | error error => exact ⟨_, _, rfl, rfl, fun ok => (by cases ok), refused error⟩
  | ok tracked =>
    cases found : Submission.resolve queue.device device.registry submissions with
    | error error => exact ⟨_, _, rfl, rfl, fun ok => (by cases ok), refused error⟩
    | ok resolved =>
      obtain ⟨batches, handles⟩ := resolved
      obtain ⟨named, raws, resolves⟩ := Submission.resolve_ok found
      have live : ∀ handle ∈ handles, ∃ recorder, device.registry.buffers.get? handle = some recorder := by
        rw [named]
        intro handle listed
        obtain ⟨buffer, member, rfl⟩ := List.mem_map.mp listed
        exact (resolves buffer member).2
      have streams := resolved_streams here resolves
      obtain ⟨stops, _, _, ops⟩ := level_resolved here level resolves
      rw [← named] at streams ops
      have submits : device.Submits queue.queue batches handles
          (Piece.timeline ((submissions.flatMap (·.buffers)).flatMap books)) := by
        refine ⟨level.idle, sound, ⟨tracked, known⟩, live, ?_, ?_⟩
        · rw [raws, ops]
        · rw [Piece.traps_timeline, stops, streams]
      simp only [← streams]
      apply Act.ends_mono (DeviceScope.ends_submit submits tracked.raw (submissions.any (·.endsFrame)))
      · intro shown answer scope submitted
        exact ⟨answer, scope, rfl, rfl, fun _ => resolves, by simpa using submitted⟩
      · intro shown reason overflows
        exact ⟨resolves, by simpa using overflows⟩

end Submissions

section Runs

variable {call : LayerCall} {shown : List Event} {reply : LayerReply}

theorem level_beside {id : DeviceId} {device : ProfiledDevice} (here : layer.devices.get? id = some device)
    (level : device.Level orderly fun handle => books ⟨id, handle⟩) (beside : call.device? ≠ some id) :
    device.Level orderly fun handle => LayerStep.extend books ⟨layer, call, shown, reply, next⟩ ⟨id, handle⟩ := by
  refine ProfiledDevice.level_same level ⟨rfl, rfl, fun _ => rfl⟩ rfl rfl level.idle ?_
  intro handle recorder live
  exact extend_elsewhere here live fun target => beside (LayerCall.target_device target)

theorem submits_idle {queue : QueueId} {submissions : List Submission} {device moved : ProfiledDevice}
    (here : layer.devices.get? queue.device = some device) (there : next.devices.get? queue.device = some moved)
    (sound : device.registry.Sound device.isProfiling)
    (level : device.Level orderly fun handle => books ⟨queue.device, handle⟩)
    (made : perform (.submit queue submissions) layer = ⟨shown, .ok (reply, next)⟩) :
    moved.Idle ∧ moved.driver.faults = device.driver.faults := by
  obtain ⟨answer, scope, _, devices, _, submitted⟩ := Act.ends_of_ok (ends_submit submissions here sound level) made
  rw [devices, Arena.get_set_here _ _ _ _ here] at there
  cases there
  exact ⟨DeviceScope.submitted_idle level.idle submitted, submitted.works.faults⟩

theorem level_step {id : DeviceId} (sound : layer.Sound)
    (level : ∀ device, layer.devices.get? id = some device → device.Level orderly fun handle => books ⟨id, handle⟩)
    (disciplined : layer.DisciplinedOn id call) (orders : orderly → layer.Orderly call)
    (made : perform call layer = ⟨shown, .ok (reply, next)⟩) : ∀ device, next.devices.get? id = some device →
      device.Level orderly fun handle => LayerStep.extend books ⟨layer, call, shown, reply, next⟩ ⟨id, handle⟩ := by
  intro device there
  cases (Act.ends_of_ok (ends_perform sound call) made).1 with
  | looked call reply nowhere =>
    exact level_beside there (level device there) (by simp [nowhere])
  | lost call lost reply called gone =>
    apply level_beside there (level device there)
    rw [called]
    rintro same
    rw [Option.some.inj same, there] at gone
    cases gone
  | created driver backend new shown next quiet born devices =>
    rw [devices] at there
    rcases Arena.get_insert_cases sound.devices new there with before | ⟨_, rfl, rfl⟩
    · exact level_beside before (level device before) (by simp [LayerCall.device?])
    · exact ProfiledDevice.level_born born (disciplined.drivers driver rfl (by rw [made]; rfl))
  | destroyed gone old shown next quiet live devices =>
    rw [devices] at there
    obtain ⟨different, before⟩ := Arena.get_remove_live there
    exact level_beside before (level device before) (by simpa [LayerCall.device?] using different.symm)
  | within target call before moved shown reply next called live move devices =>
    by_cases same : id = target
    · subst same
      have now : next.devices.get? id = some moved := by
        rw [devices]
        exact Arena.get_set_here _ _ _ _ live
      rw [now] at there
      cases there
      refine level_within (sound.registries id before live) (level before live) live now
        (disciplined.devices called before live) (fun holds => orders holds id called before live) ?_ move
      rintro ⟨owner, handle⟩ submissions rfl
      obtain rfl : owner = id := Option.some.inj called
      exact submits_idle live now (sound.registries _ before live) (level before live) made
    · rw [devices, Arena.get_set_elsewhere _ _ _ _ same] at there
      apply level_beside there (level device there)
      rw [called]
      exact fun equal => same (Option.some.inj equal).symm

theorem run_level_on {allowed : Layer → LayerCall → Prop} {config : Config} {endpoint : ShowingEndpoint}
    {steps : List LayerStep} (run : Run allowed (fresh config endpoint) steps layer) {id : DeviceId}
    (keeps : ∀ layer call, allowed layer call → layer.DisciplinedOn id call ∧ (orderly → layer.Orderly call)) :
    ∀ device, layer.devices.get? id = some device →
      device.Level orderly fun handle => LayerStep.books steps ⟨id, handle⟩ := by
  induction run with
  | start =>
    intro device there
    rw [show (fresh config endpoint).devices.get? id = none from Arena.get_empty id] at there
    cases there
  | step steps layer next call shown reply run admitted made ih =>
    rw [LayerStep.books, List.foldl_append, List.foldl_cons, List.foldl_nil]
    exact level_step (run_sound run) ih (keeps layer call admitted).1 (keeps layer call admitted).2 made

theorem run_level {allowed : Layer → LayerCall → Prop} {config : Config} {endpoint : ShowingEndpoint}
    {steps : List LayerStep} (run : Run allowed (fresh config endpoint) steps layer)
    (keeps : ∀ layer call, allowed layer call → layer.Disciplined call ∧ (orderly → layer.Orderly call)) :
    layer.Level orderly (LayerStep.books steps) := fun id =>
  run_level_on run fun layer call admitted => (keeps layer call admitted).imp_left fun disciplined => disciplined_on disciplined id

end Runs

end Layer

end GpuProfiler
