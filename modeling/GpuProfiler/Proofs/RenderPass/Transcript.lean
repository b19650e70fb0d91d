import GpuProfiler.Proofs.Layer.Level
import GpuProfiler.Proofs.RenderPass.Dictation

set_option autoImplicit false

namespace GpuProfiler

abbrev LayerTranscript := BufferId → List Mark

namespace Layer

def captureMode (layer : Layer) (id : DeviceId) : CaptureMode :=
  match layer.device id with
  | .ok device => device.captureMode
  | .error _ => .off

end Layer

namespace LayerStep

-- The transcript behind a step. That of a buffer starts again where its recording does.
def transcribe (transcript : LayerTranscript) (step : LayerStep) : LayerTranscript := fun buffer =>
  match step.before.recorder buffer with
  | .error _ => [.opened]
  | .ok _ =>
    match step.call with
    | .beginBuffer id | .resetBuffer id => if id = buffer then [.opened] else transcript buffer
    | .endBuffer id => if id = buffer then transcript buffer ++ [.finished] else transcript buffer
    | .command id recorded =>
      if id = buffer then
        transcript buffer ++ [.command recorded (step.before.captureMode id.device) step.before.shared.tags.next]
      else transcript buffer
    | .execute id secondaries =>
      if id = buffer ∧ step.reply = .done then
        transcript buffer ++ [.copied (secondaries.flatMap fun secondary => (transcript secondary).flatMap Mark.commands)]
      else transcript buffer
    | _ => transcript buffer

def transcript (steps : List LayerStep) : LayerTranscript := steps.foldl transcribe fun _ => []

end LayerStep

-- Whatever was recorded before, what was dictated since is what the recorder has and the pieces say.
def ProfiledDevice.Transcribes (device : ProfiledDevice) (id : DeviceId) (transcript : LayerTranscript) (books : Books) : Prop :=
  ∀ handle recorder, device.registry.buffers.get? handle = some recorder → ∀ before : Dictation,
    Dictation.Takes device.isProfiling before (transcript ⟨id, handle⟩) (books ⟨id, handle⟩) ⟨before.records, recorder⟩

theorem ProfiledDevice.tracks_profiling (device : ProfiledDevice) (profiling : device.isProfiling = true) :
    device.captureMode ≠ .off := by
  rw [captureMode, if_pos profiling]
  split <;> exact CaptureMode.noConfusion

namespace DeviceScope

variable (s : DeviceScope)

theorem tells_recorder (handle : BufferHandle) (change : Recorder → Recorder)
    (call : RawBuffer → Act Driver (Except Error Unit)) :
    Act.Ends (updateThenCall handle change call) s
      (fun _ _ next => ∀ recorder, s.device.registry.buffers.get? handle = some recorder →
        next.device.registry = s.device.registry.setBuffer handle (change recorder)) (fun _ _ => True) := by
  simp only [updateThenCall, Act.ends_bind, Act.ends_on, Tracking.ends_with_buffer, Recording.update, Act.ends_modify]
  cases live : s.device.registry.buffers.get? handle with
  | none =>
    have stale : (trackingPart.get s).registry.buffers.get? handle = none := live
    simp only [stale]
    exact fun recorder never => absurd never.symm (Option.some_ne_none recorder)
  | some recorder =>
    have here : (trackingPart.get s).registry.buffers.get? handle = some recorder := live
    simp only [here]
    refine Act.ends_mono (Act.ends_self _ _) ?_ (fun _ _ _ => trivial)
    intro _ _ _ _ found same
    cases same
    rfl

theorem records_command (handle : BufferHandle) (recorded : Command) :
    Act.Ends (command handle recorded) s
      (fun _ _ next => ∀ recorder, s.device.registry.buffers.get? handle = some recorder →
        ∃ notes stops following used,
          Recording.command recorded s.device.captureMode ⟨recorder, s.shared.tags⟩ = ⟨notes, .ok (stops, ⟨following, used⟩)⟩ ∧
            next.device.registry = s.device.registry.setBuffer handle following) (fun _ _ => True) := by
  simp only [command, Act.ends_bind, Act.ends_on, Act.ends_get, Tracking.ends_with_buffer]
  cases live : s.device.registry.buffers.get? handle with
  | none =>
    have stale : (trackingPart.get s).registry.buffers.get? handle = none := live
    simp only [stale]
    exact fun recorder never => absurd never.symm (Option.some_ne_none recorder)
  | some recorder =>
    have here : (trackingPart.get s).registry.buffers.get? handle = some recorder := live
    simp only [here]
    refine Act.ends_mono (Act.ends_self _ _) ?_ (fun _ _ _ => trivial)
    rintro notes stops ⟨following, used⟩ ran
    refine Act.ends_mono (Act.ends_self _ _) ?_ (fun _ _ _ => trivial)
    intro _ _ driver _
    have emitted (t : DeviceScope) : Act.Ends (emitTrap stops s.device.trapEvents recorder.raw) t
        (fun _ _ next => next.device.registry = t.device.registry) (fun _ _ => True) := by
      unfold emitTrap
      split
      · rw [Act.ends_on]
        exact Act.ends_mono (Act.ends_self _ _) (fun _ _ _ _ => rfl) (fun _ _ _ => trivial)
      · exact rfl
    refine Act.ends_mono (emitted _) ?_ (fun _ _ _ => trivial)
    rintro _ _ next registry _ found
    cases found
    exact ⟨notes, stops, following, used, ran, registry⟩

end DeviceScope

-- What calls that dictate to a buffer do to its recorder, whatever the driver makes of them.
def ProfiledDevice.Dictated (device : ProfiledDevice) (tags : TagSource) (call : LayerCall) (next : ProfiledDevice) : Prop :=
  match call with
  | .beginBuffer buffer => ∀ recorder, device.registry.buffers.get? buffer.buffer = some recorder →
      next.registry = device.registry.setBuffer buffer.buffer recorder.start
  | .resetBuffer buffer => ∀ recorder, device.registry.buffers.get? buffer.buffer = some recorder →
      next.registry = device.registry.setBuffer buffer.buffer recorder.reset
  | .command buffer recorded => ∀ recorder, device.registry.buffers.get? buffer.buffer = some recorder →
      ∃ notes stops following used,
        Recording.command recorded device.captureMode ⟨recorder, tags⟩ = ⟨notes, .ok (stops, ⟨following, used⟩)⟩ ∧
          next.registry = device.registry.setBuffer buffer.buffer following
  | _ => True

namespace Layer

variable {layer next : Layer} {call : LayerCall} {shown : List Event} {reply : LayerReply} {id : DeviceId}
  {device moved : ProfiledDevice} {transcript : LayerTranscript} {books : Books} {handle : BufferHandle} {recorder : Recorder}

theorem dictated_within {α : Type} {act : Act DeviceScope (Except Error α)} {answer : α → LayerReply}
    (performs : perform call = do return .ofAnswer answer (← onDevice id act))
    (here : layer.devices.get? id = some device)
    (ends : Act.Ends act ⟨device, layer.shared⟩ (fun _ _ scope => device.Dictated layer.shared.tags call scope.device)
      (fun _ _ => True))
    (made : perform call layer = ⟨shown, .ok (reply, next)⟩) (there : next.devices.get? id = some moved) :
    device.Dictated layer.shared.tags call moved := perform_within performs here ends made there

theorem perform_dictates (called : call.device? = some id) (here : layer.devices.get? id = some device)
    (made : perform call layer = ⟨shown, .ok (reply, next)⟩) (there : next.devices.get? id = some moved) :
    device.Dictated layer.shared.tags call moved := by
  cases call with
  | beginBuffer buffer =>
    cases called
    exact dictated_within rfl here (DeviceScope.tells_recorder ⟨device, layer.shared⟩ buffer.buffer Recorder.start _) made there
  | resetBuffer buffer =>
    cases called
    exact dictated_within rfl here (DeviceScope.tells_recorder ⟨device, layer.shared⟩ buffer.buffer Recorder.reset _) made there
  | command buffer recorded =>
    cases called
    exact dictated_within rfl here (DeviceScope.records_command ⟨device, layer.shared⟩ buffer.buffer recorded) made there
  | _ => exact trivial

section Steps

theorem transcribe_live (here : layer.devices.get? id = some device)
    (live : device.registry.buffers.get? handle = some recorder) :
    LayerStep.transcribe transcript ⟨layer, call, shown, reply, next⟩ ⟨id, handle⟩ =
      match call with
      | .beginBuffer other | .resetBuffer other => if other = ⟨id, handle⟩ then [.opened] else transcript ⟨id, handle⟩
      | .endBuffer other =>
        if other = ⟨id, handle⟩ then transcript ⟨id, handle⟩ ++ [.finished] else transcript ⟨id, handle⟩
      | .command other recorded =>
        if other = ⟨id, handle⟩ then
          transcript ⟨id, handle⟩ ++ [.command recorded device.captureMode layer.shared.tags.next]
        else transcript ⟨id, handle⟩
      | .execute other secondaries =>
        if other = ⟨id, handle⟩ ∧ reply = .done then
          transcript ⟨id, handle⟩ ++
            [.copied (secondaries.flatMap fun secondary => (transcript secondary).flatMap Mark.commands)]
        else transcript ⟨id, handle⟩
      | _ => transcript ⟨id, handle⟩ := by
  have known : layer.recorder ⟨id, handle⟩ = .ok recorder := (recorder_within here handle recorder).mpr live
  unfold LayerStep.transcribe
  rw [known]
  cases call with
  | command other recorded =>
    by_cases same : other = ⟨id, handle⟩
    · simp [same, captureMode, (device_ok layer id device).mpr here]
    · simp [same]
  | _ => rfl

theorem transcribe_stale (here : layer.devices.get? id = some device)
    (stale : device.registry.buffers.get? handle = none) :
    LayerStep.transcribe transcript ⟨layer, call, shown, reply, next⟩ ⟨id, handle⟩ = [.opened] := by
  unfold LayerStep.transcribe
  split
  · rfl
  · next recorder live =>
    rw [recorder_within here, stale] at live
    cases live

theorem transcribe_elsewhere (here : layer.devices.get? id = some device)
    (live : device.registry.buffers.get? handle = some recorder) (elsewhere : call.target? ≠ some ⟨id, handle⟩) :
    LayerStep.transcribe transcript ⟨layer, call, shown, reply, next⟩ ⟨id, handle⟩ = transcript ⟨id, handle⟩ := by
  rw [transcribe_live here live]
  cases call <;> simp_all [LayerCall.target?]

theorem transcribes_beside (here : layer.devices.get? id = some device) (transcribes : device.Transcribes id transcript books)
    (profiling : moved.isProfiling = device.isProfiling)
    (live : device.registry.buffers.get? handle = some recorder) (elsewhere : call.target? ≠ some ⟨id, handle⟩)
    (before : Dictation) :
    Dictation.Takes moved.isProfiling before
      (LayerStep.transcribe transcript ⟨layer, call, shown, reply, next⟩ ⟨id, handle⟩)
      (LayerStep.extend books ⟨layer, call, shown, reply, next⟩ ⟨id, handle⟩) ⟨before.records, recorder⟩ := by
  rw [transcribe_elsewhere here live elsewhere, extend_elsewhere here live elsewhere, profiling]
  exact transcribes handle recorder live before

theorem transcribes_same (here : layer.devices.get? id = some device) (transcribes : device.Transcribes id transcript books)
    (profiling : moved.isProfiling = device.isProfiling) (same : moved.registry.buffers = device.registry.buffers)
    (elsewhere : ∀ handle recorder, device.registry.buffers.get? handle = some recorder → call.target? ≠ some ⟨id, handle⟩) :
    moved.Transcribes id (LayerStep.transcribe transcript ⟨layer, call, shown, reply, next⟩)
      (LayerStep.extend books ⟨layer, call, shown, reply, next⟩) := by
  intro handle recorder live before
  rw [same] at live
  exact transcribes_beside here transcribes profiling live (elsewhere handle recorder live) before

theorem transcribes_set (here : layer.devices.get? id = some device) (transcribes : device.Transcribes id transcript books)
    (profiling : moved.isProfiling = device.isProfiling) {target : BufferHandle} {held following : Recorder}
    (called : call.target? = some ⟨id, target⟩) (live : device.registry.buffers.get? target = some held)
    (registry : moved.registry = device.registry.setBuffer target following)
    (dictated : ∀ before : Dictation, Dictation.Takes device.isProfiling before
      (LayerStep.transcribe transcript ⟨layer, call, shown, reply, next⟩ ⟨id, target⟩)
      (LayerStep.extend books ⟨layer, call, shown, reply, next⟩ ⟨id, target⟩) ⟨before.records, following⟩) :
    moved.Transcribes id (LayerStep.transcribe transcript ⟨layer, call, shown, reply, next⟩)
      (LayerStep.extend books ⟨layer, call, shown, reply, next⟩) := by
  intro handle recorder found before
  rw [registry, Registry.get_set_buffer live following handle] at found
  by_cases same : handle = target
  · rw [if_pos same] at found
    cases found
    rw [same, profiling]
    exact dictated before
  · rw [if_neg same] at found
    apply transcribes_beside here transcribes profiling found
    rw [called]
    simpa using Ne.symm same

theorem transcribes_restarted (here : layer.devices.get? id = some device) (transcribes : device.Transcribes id transcript books)
    (profiling : moved.isProfiling = device.isProfiling) {target : BufferHandle} {held : Recorder}
    (live : device.registry.buffers.get? target = some held) (dictated : device.Dictated layer.shared.tags call moved)
    (restarts : call.restarts? = some ⟨id, target⟩) :
    moved.Transcribes id (LayerStep.transcribe transcript ⟨layer, call, shown, reply, next⟩)
      (LayerStep.extend books ⟨layer, call, shown, reply, next⟩) := by
  have opens (afresh : Recorder) (blank : afresh.Blank) (before : Dictation) :
      Dictation.Takes device.isProfiling before [.opened] [] ⟨before.records, afresh⟩ :=
    .cons _ _ _ _ _ _ _ (.opened _ blank) (.nil _)
  cases call with
  | beginBuffer buffer =>
    cases restarts
    refine transcribes_set here transcribes profiling rfl live (dictated held live) fun before => ?_
    rw [transcribe_live here live, extend_live here live]
    simpa using opens _ ⟨rfl, rfl, rfl⟩ before
  | resetBuffer buffer =>
    cases restarts
    refine transcribes_set here transcribes profiling rfl live (dictated held live) fun before => ?_
    rw [transcribe_live here live, extend_live here live]
    simpa using opens _ ⟨rfl, rfl, rfl⟩ before
  | _ => cases restarts

theorem transcribes_recorded (here : layer.devices.get? id = some device) (there : next.devices.get? id = some moved)
    (transcribes : device.Transcribes id transcript books) (profiling : moved.isProfiling = device.isProfiling)
    {target : BufferHandle} {held : Recorder} (live : device.registry.buffers.get? target = some held) {recorded : Command}
    (dictated : device.Dictated layer.shared.tags (.command ⟨id, target⟩ recorded) moved) :
    moved.Transcribes id (LayerStep.transcribe transcript ⟨layer, .command ⟨id, target⟩ recorded, shown, reply, next⟩)
      (LayerStep.extend books ⟨layer, .command ⟨id, target⟩ recorded, shown, reply, next⟩) := by
  obtain ⟨_, stops, following, used, ran, registry⟩ := dictated held live
  refine transcribes_set here transcribes profiling rfl live registry fun before => ?_
  have stream : next.streamOf ⟨id, target⟩ = following.stream := by
    refine (stream_in_device there).trans (Registry.stream_of_some ?_)
    rw [registry, Registry.get_set_buffer live, if_pos rfl]
  rw [transcribe_live here live, extend_live here live]
  simp only [if_true, stream]
  exact Dictation.takes_concat (transcribes target held live before)
    (.command _ _ _ _ stops following used device.captures_profiling device.tracks_profiling ran)

theorem copied_commands (transcribes : device.Transcribes id transcript books) {secondaries : List BufferId}
    (own : ∀ secondary ∈ secondaries, secondary.device = id ∧
      ∃ found, device.registry.buffers.get? secondary.buffer = some found) :
    (secondaries.flatMap fun secondary => (transcript secondary).flatMap Mark.commands) =
      (secondaries.flatMap books).map (·.recorded) := by
  rw [List.map_flatMap]
  apply List.flatMap_congr
  intro secondary member
  obtain ⟨same, found, alive⟩ := own secondary member
  have known := Dictation.takes_commands (transcribes secondary.buffer found alive ⟨[], found⟩)
  rw [← same] at known
  exact known.symm

theorem copied_plain (transcribes : device.Transcribes id transcript books) {secondaries : List BufferId}
    (own : ∀ secondary ∈ secondaries, secondary.device = id ∧
      ∃ found, device.registry.buffers.get? secondary.buffer = some found)
    (plain : ∀ piece ∈ secondaries.flatMap books, piece.recorded.begins = false) :
    ∀ record ∈ secondaries.flatMap fun secondary => device.registry.streamOf secondary.buffer,
      Recorder.isPass record.workload = false := by
  intro record member
  obtain ⟨secondary, listed, inside⟩ := List.mem_flatMap.mp member
  obtain ⟨rfl, found, alive⟩ := own secondary listed
  rw [Registry.stream_of_some alive] at inside
  refine Dictation.takes_plain (fun piece held => plain piece (List.mem_flatMap.mpr ⟨secondary, listed, held⟩)) ?_
    (transcribes secondary.buffer found alive ⟨[], .new 0 .primary⟩) record inside
  exact fun _ never => (nomatch never)

theorem copied_level (level : device.Level False fun handle => books ⟨id, handle⟩) {secondaries : List BufferId}
    (own : ∀ secondary ∈ secondaries, secondary.device = id ∧
      ∃ found, device.registry.buffers.get? secondary.buffer = some found) :
    (Piece.sampledIn (secondaries.flatMap books)).length =
      Stream.trapped (secondaries.flatMap fun secondary => device.registry.streamOf secondary.buffer) := by
  have pieces : secondaries.flatMap books = (secondaries.map (·.buffer)).flatMap fun handle => books ⟨id, handle⟩ := by
    rw [List.flatMap_map]
    exact books_in_device fun secondary member => (own secondary member).1
  have alive : ∀ handle ∈ secondaries.map (·.buffer), ∃ found, device.registry.buffers.get? handle = some found := by
    intro handle listed
    obtain ⟨secondary, member, rfl⟩ := List.mem_map.mp listed
    exact (own secondary member).2
  rw [pieces, (ProfiledDevice.level_buffers level alive).1, List.flatMap_map]

theorem transcribes_within (sound : device.registry.Sound device.isProfiling)
    (level : device.Level False fun handle => books ⟨id, handle⟩) (transcribes : device.Transcribes id transcript books)
    (here : layer.devices.get? id = some device) (there : next.devices.get? id = some moved)
    (dictated : device.Dictated layer.shared.tags call moved) (move : device.Move id call shown reply moved) :
    moved.Transcribes id (LayerStep.transcribe transcript ⟨layer, call, shown, reply, next⟩)
      (LayerStep.extend books ⟨layer, call, shown, reply, next⟩) := by
  cases move with
  | passed call shown reply moved untargeted quiet rests same =>
    exact transcribes_same here transcribes (ProfiledDevice.profiling_rests rests) same.buffers
      fun _ _ _ => by simp [untargeted]
  | missed call target reply made stale =>
    refine transcribes_same here transcribes rfl rfl fun handle recorder live => ?_
    rw [made]
    rintro same
    cases same
    rw [stale] at live
    cases live
  | refused primary secondaries error =>
    intro handle recorder live before
    rw [transcribe_live here live, extend_live here live]
    simpa using transcribes handle recorder live before
  | allocated size shown raw given moved quiet rests handed empty contents lookup live =>
    intro handle recorder found before
    rcases live handle recorder found with ⟨old, _⟩ | ⟨vacant, _, rfl⟩
    · exact transcribes_beside here transcribes (ProfiledDevice.profiling_rests rests) old (by simp [LayerCall.target?]) before
    · rw [transcribe_stale here vacant, extend_stale here vacant]
      exact .cons _ _ _ _ _ _ _ (.opened _ ⟨rfl, rfl, rfl⟩) (.nil _)
  | freed target recorder shown moved quiet rests live empty contents removed lookup =>
    intro handle found alive before
    rw [removed] at alive
    obtain ⟨different, old⟩ := Arena.get_remove_live alive
    refine transcribes_beside here transcribes (ProfiledDevice.profiling_rests rests) old ?_ before
    simpa [LayerCall.target?] using different.symm
  | restarted call target recorder afresh shown reply moved restarts quiet rests live raw stream closed registry
      contents answered =>
    exact transcribes_restarted here transcribes (ProfiledDevice.profiling_rests rests) live dictated restarts
  | finished target recorder shown reply moved quiet rests live registry contents =>
    refine transcribes_set here transcribes (ProfiledDevice.profiling_rests rests) rfl live registry fun before => ?_
    rw [transcribe_live here live, extend_live here live]
    simpa using Dictation.takes_concat (transcribes target recorder live before) .finished
  | recorded target recorder following command stops tags used notes shown moved rests live ran registry driver
      calls steps =>
    exact transcribes_recorded here there transcribes (ProfiledDevice.profiling_rests rests) live dictated
  | executed primary secondaries recorder shown moved quiet rests live own registry driver =>
    refine transcribes_set here transcribes (ProfiledDevice.profiling_rests rests) rfl live registry fun before => ?_
    rw [transcribe_live here live, extend_live here live]
    simp only [and_self, if_true]
    rw [copied_commands transcribes own]
    refine Dictation.takes_concat (transcribes primary recorder live before)
      (.copied _ _ (copied_level level own) ?_ (copied_plain transcribes own))
    intro record member
    obtain ⟨secondary, _, inside⟩ := List.mem_flatMap.mp member
    exact Registry.records_sound sound secondary.buffer record inside
  | submitted queue submissions shown reply moved calls events same =>
    refine transcribes_same here transcribes ?_ same.buffers fun _ _ _ => by simp [LayerCall.target?]
    simpa [ProfiledDevice.trapEvents, ProfiledDevice.isProfiling] using congrArg Option.isSome events

theorem transcribes_step (sound : layer.Sound)
    (level : ∀ device, layer.devices.get? id = some device → device.Level False fun handle => books ⟨id, handle⟩)
    (transcribes : ∀ device, layer.devices.get? id = some device → device.Transcribes id transcript books)
    (made : perform call layer = ⟨shown, .ok (reply, next)⟩) :
    ∀ device, next.devices.get? id = some device →
      device.Transcribes id (LayerStep.transcribe transcript ⟨layer, call, shown, reply, next⟩)
        (LayerStep.extend books ⟨layer, call, shown, reply, next⟩) := by
  intro device there
  have beside (before : layer.devices.get? id = some device) (elsewhere : call.device? ≠ some id) :
      device.Transcribes id (LayerStep.transcribe transcript ⟨layer, call, shown, reply, next⟩)
        (LayerStep.extend books ⟨layer, call, shown, reply, next⟩) :=
    transcribes_same before (transcribes device before) rfl rfl fun _ _ _ target =>
      elsewhere (LayerCall.target_device target)
  cases (Act.ends_of_ok (ends_perform sound call) made).1 with
  | looked call reply nowhere => exact beside there (by simp [nowhere])
  | lost call lost reply called gone =>
    apply beside there
    rw [called]
    rintro same
    rw [Option.some.inj same, there] at gone
    cases gone
  | created driver backend new shown next quiet born devices =>
    rw [devices] at there
    rcases Arena.get_insert_cases sound.devices new there with before | ⟨_, _, rfl⟩
    · exact beside before (by simp [LayerCall.device?])
    · intro handle recorder live
      rw [born.registry, show Registry.empty.buffers.get? handle = none from Arena.get_empty handle] at live
      cases live
  | destroyed gone old shown next quiet live devices =>
    rw [devices] at there
    obtain ⟨different, before⟩ := Arena.get_remove_live there
    exact beside before (by simpa [LayerCall.device?] using different.symm)
  | within target call before moved shown reply next called live move devices =>
    by_cases same : id = target
    · subst same
      have now : next.devices.get? id = some moved := by
        rw [devices]
        exact Arena.get_set_here _ _ _ _ live
      rw [now] at there
      cases there
      exact transcribes_within (sound.registries id before live) (level before live) (transcribes before live) live now
        (perform_dictates called live made now) move
    · rw [devices, Arena.get_set_elsewhere _ _ _ _ same] at there
      apply beside there
      rw [called]
      exact fun equal => same (Option.some.inj equal).symm

end Steps

theorem takes_buffers
    (transcribes : device.Transcribes id transcript books)
    {buffers : List BufferId} (own : ∀ buffer ∈ buffers, buffer.device = id ∧
      ∃ recorder, device.registry.buffers.get? buffer.buffer = some recorder) (first : Dictation) :
    ∃ last, Dictation.Takes device.isProfiling first (buffers.flatMap transcript) (buffers.flatMap books) last ∧
      last.records = first.records ++ buffers.flatMap fun buffer => device.registry.streamOf buffer.buffer := by
  induction buffers generalizing first with
  | nil => exact ⟨first, .nil first, (List.append_nil _).symm⟩
  | cons buffer rest ih =>
    obtain ⟨rfl, recorder, live⟩ := own buffer List.mem_cons_self
    obtain ⟨last, takes, records⟩ := ih (fun other member => own other (List.mem_cons_of_mem _ member)) ⟨first.records, recorder⟩
    refine ⟨last, Dictation.takes_append (transcribes buffer.buffer recorder live first) takes, ?_⟩
    rw [records, List.flatMap_cons, Registry.stream_of_some live, ← List.append_assoc]
    rfl

theorem run_transcribes {config : Config} {endpoint : ShowingEndpoint} {steps : List LayerStep}
    (run : Run (DisciplinedOn id) (fresh config endpoint) steps layer) : ∀ device, layer.devices.get? id = some device →
      device.Transcribes id (LayerStep.transcript steps) (LayerStep.books steps) := by
  induction run with
  | start =>
    intro device there
    rw [show (fresh config endpoint).devices.get? id = none from Arena.get_empty id] at there
    cases there
  | step steps layer next call shown reply run admitted made ih =>
    rw [LayerStep.transcript, LayerStep.books, List.foldl_append, List.foldl_append, List.foldl_cons, List.foldl_cons]
    exact transcribes_step (run_sound run)
      (run_level_on run fun _ _ disciplined => ⟨disciplined, fun never => never.elim⟩) ih made

end Layer

end GpuProfiler
