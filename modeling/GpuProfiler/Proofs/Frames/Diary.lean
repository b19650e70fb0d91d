import GpuProfiler.Proofs.Frames.Life
import GpuProfiler.Proofs.RenderPass.Transcript

set_option autoImplicit false

namespace GpuProfiler

-- Nothing of the recording has the device stop, and no part of a pass that may go on is to.
structure Recorder.Uncaptured (recorder : Recorder) : Prop where
  stream : ∀ record ∈ recorder.stream, record.traps = false
  active : ∀ pass, recorder.active = some pass → pass.captured = false
  suspended : ∀ pass, recorder.suspended = some pass → pass.captured = false

namespace Recorder

variable {recorder : Recorder}

theorem uncaptured_new (raw : RawBuffer) (level : BufferLevel) : (new raw level).Uncaptured :=
  ⟨fun _ member => (nomatch member), fun _ opened => (nomatch opened), fun _ left => (nomatch left)⟩

theorem uncaptured_push (uncaptured : recorder.Uncaptured) (workload : Workload) (silent : workload.traps = false) :
    (recorder.push workload).Uncaptured := by
  constructor
  · intro record member
    rcases List.mem_append.mp member with old | added
    · exact uncaptured.stream record old
    · rw [List.mem_singleton.mp added]
      exact silent
  · exact uncaptured.active
  · exact uncaptured.suspended

theorem uncaptured_open_pass (uncaptured : recorder.Uncaptured) (flags : RenderPassFlags) (mode : CaptureMode)
    (tag : Option RenderPassTag) (workload : Workload) (silent : workload.traps = false) :
    (recorder.openPass flags mode false tag workload).Uncaptured := by
  have pushed := uncaptured_push uncaptured workload silent
  have opened : ∀ found : ActivePass, ∀ pass, some found = some pass → found.captured = false → pass.captured = false := by
    intro found pass same off
    rw [← Option.some.inj same, off]
  unfold openPass
  by_cases kept : (false || ((flags.suspending || flags.resuming) && mode != .off)) = true
  · simp only [kept, if_true]
    exact ⟨pushed.stream, fun pass same => opened _ pass same rfl, pushed.suspended⟩
  · simp only [kept]
    exact ⟨uncaptured.stream, fun pass same => opened _ pass same rfl, uncaptured.suspended⟩

theorem traps_complete {workload : Workload} (silent : workload.traps = false) (drawCalls : UInt64) :
    (workload.complete drawCalls false).traps = false := by
  cases workload <;> first | rfl | exact silent

theorem complete_uncaptured {stream : Stream} (silent : ∀ record ∈ stream, record.traps = false) (position : Nat)
    (drawCalls : UInt64) : ∀ record ∈ stream.modify position fun record =>
      { record with workload := record.workload.complete drawCalls false }, record.traps = false := by
  intro record member
  obtain ⟨index, there⟩ := List.mem_iff_getElem?.mp member
  rw [List.getElem?_modify] at there
  obtain ⟨old, before, changed⟩ := Option.map_eq_some_iff.mp there
  have quiet := silent old (List.mem_of_getElem? before)
  rw [← changed]
  by_cases here : position = index
  · rw [if_pos here]
    exact traps_complete quiet drawCalls
  · rw [if_neg here]
    exact quiet

theorem uncaptured_end_pass (uncaptured : recorder.Uncaptured) : recorder.endPass.2.Uncaptured := by
  unfold endPass
  cases opened : recorder.active with
  | none => exact uncaptured
  | some pass =>
    have off := uncaptured.active pass opened
    simp only [off, Bool.and_false]
    constructor
    · intro record member
      cases placed : pass.position with
      | none =>
        rw [placed] at member
        exact uncaptured.stream record member
      | some position =>
        rw [placed] at member
        exact complete_uncaptured uncaptured.stream position pass.drawCalls record member
    · exact fun _ never => (nomatch never)
    · intro left same
      by_cases suspends : pass.suspending = true
      · simp only [suspends, if_true, Option.some.injEq] at same
        rw [← same]
      · simp [suspends] at same

theorem uncaptured_append (uncaptured : recorder.Uncaptured) {records : Stream}
    (silent : ∀ record ∈ records, record.traps = false) : (recorder.append records).Uncaptured := by
  refine ⟨?_, uncaptured.active, uncaptured.suspended⟩
  intro record member
  rcases List.mem_append.mp member with old | added
  · exact uncaptured.stream record old
  · exact silent record added

theorem uncaptured_effect {s : Recording} {mode : CaptureMode} {recorded : Command} {stops : Bool} {next : Recorder}
    (effect : Recording.Effect s mode recorded stops next) (off : mode.captures = false)
    (uncaptured : s.recorder.Uncaptured) : next.Uncaptured := by
  cases effect with
  | pushed | popped | other => exact ⟨uncaptured.stream, uncaptured.active, uncaptured.suspended⟩
  | begun begun afresh =>
    unfold beginPass
    rw [off]
    apply uncaptured_open_pass
    · exact ⟨uncaptured.stream, uncaptured.active, uncaptured.suspended⟩
    · rfl
  | resumed begun resumes =>
    have resumed : Uncaptured { s.recorder with suspended := none } :=
      ⟨uncaptured.stream, uncaptured.active, fun _ never => (nomatch never)⟩
    unfold resumePass
    cases left : s.recorder.suspended with
    | none =>
      simp only [off]
      exact uncaptured_open_pass resumed _ _ _ _ rfl
    | some pass =>
      simp only [uncaptured.suspended pass left]
      exact uncaptured_open_pass resumed _ _ _ _ rfl
  | ended => exact uncaptured_end_pass uncaptured
  | drawn _ count _ _ ran =>
    obtain ⟨stats, ⟨_, rfl⟩ | ⟨pass, total, opened, _, rfl⟩⟩ := draw_cases ran
    · exact ⟨uncaptured.stream, uncaptured.active, uncaptured.suspended⟩
    · refine ⟨uncaptured.stream, ?_, uncaptured.suspended⟩
      intro drawn same
      rw [← Option.some.inj same]
      exact uncaptured.active pass opened
  | worked _ workload works =>
    unfold record
    rw [off]
    by_cases part : isPass workload = true
    · rw [if_pos part]
      exact uncaptured
    · rw [if_neg part]
      exact ⟨uncaptured.stream, uncaptured.active, uncaptured.suspended⟩

end Recorder

namespace ProfiledDevice

inductive Became (device : ProfiledDevice) (id : DeviceId) (tags : TagSource) (call : LayerCall) (reply : LayerReply)
    (handle : BufferHandle) : Recorder → Prop
  | stayed (recorder : Recorder) (live : device.registry.buffers.get? handle = some recorder)
      (untold : call.target? ≠ some ⟨id, handle⟩ ∨
        ∃ primary secondaries error, call = .execute primary secondaries ∧ reply = .failed error) :
      Became device id tags call reply handle recorder
  | allocated (raw : RawBuffer) (level : BufferLevel) (vacant : device.registry.buffers.get? handle = none) :
      Became device id tags call reply handle (.new raw level)
  | begun (recorder : Recorder) (live : device.registry.buffers.get? handle = some recorder)
      (made : call = .beginBuffer ⟨id, handle⟩) : Became device id tags call reply handle recorder.start
  | reset (recorder : Recorder) (live : device.registry.buffers.get? handle = some recorder)
      (made : call = .resetBuffer ⟨id, handle⟩) : Became device id tags call reply handle recorder.reset
  | finished (recorder : Recorder) (live : device.registry.buffers.get? handle = some recorder)
      (made : call = .endBuffer ⟨id, handle⟩) : Became device id tags call reply handle recorder.finish
  | recorded (recorder following : Recorder) (command : Command) (stops : Bool)
      (live : device.registry.buffers.get? handle = some recorder) (made : call = .command ⟨id, handle⟩ command)
      (effect : Recording.Effect ⟨recorder, tags⟩ device.captureMode command stops following) :
      Became device id tags call reply handle following
  | executed (recorder : Recorder) (secondaries : List BufferId)
      (live : device.registry.buffers.get? handle = some recorder) (made : call = .execute ⟨id, handle⟩ secondaries)
      (done : reply = .done)
      (own : ∀ secondary ∈ secondaries, secondary.device = id ∧
        ∃ found, device.registry.buffers.get? secondary.buffer = some found) :
      Became device id tags call reply handle
        (recorder.append (secondaries.flatMap fun secondary => device.registry.streamOf secondary.buffer))

variable {id : DeviceId} {device moved : ProfiledDevice} {tags : TagSource} {call : LayerCall} {shown : List Event}
  {reply : LayerReply}

theorem became_set {target : BufferHandle} {following : Recorder} {held : Recorder}
    (live : device.registry.buffers.get? target = some held) (called : call.target? = some ⟨id, target⟩)
    (registry : moved.registry = device.registry.setBuffer target following)
    (here : device.Became id tags call reply target following) (handle : BufferHandle) (recorder : Recorder)
    (there : moved.registry.buffers.get? handle = some recorder) : device.Became id tags call reply handle recorder := by
  rw [registry, Registry.get_set_buffer live following handle] at there
  by_cases same : handle = target
  · rw [if_pos same] at there
    rw [same, ← Option.some.inj there]
    exact here
  · rw [if_neg same] at there
    refine .stayed recorder there (.inl ?_)
    rw [called]
    simpa using Ne.symm same

theorem move_became (move : device.Move id call shown reply moved) (dictated : device.Dictated tags call moved)
    (handle : BufferHandle) (recorder : Recorder) (there : moved.registry.buffers.get? handle = some recorder) :
    device.Became id tags call reply handle recorder := by
  cases move with
  | passed _ _ _ _ untargeted _ _ same =>
    rw [same.buffers] at there
    exact .stayed recorder there (.inl (by simp [untargeted]))
  | missed _ target _ made stale =>
    refine .stayed recorder there (.inl ?_)
    rw [made]
    intro same
    cases same
    rw [stale] at there
    cases there
  | refused primary secondaries error => exact .stayed recorder there (.inr ⟨_, secondaries, error, rfl, rfl⟩)
  | allocated level _ raw given _ _ _ _ _ _ _ live =>
    rcases live handle recorder there with ⟨old, _⟩ | ⟨vacant, _, rfl⟩
    · exact .stayed recorder old (.inl (by simp [LayerCall.target?]))
    · exact .allocated raw level vacant
  | freed target _ _ _ _ _ _ _ _ removed _ =>
    rw [removed] at there
    obtain ⟨different, old⟩ := Arena.get_remove_live there
    exact .stayed recorder old (.inl (by simpa [LayerCall.target?] using different.symm))
  | restarted _ target held afresh _ _ _ restarts _ _ live _ _ _ registry _ _ =>
    cases call with
    | beginBuffer buffer =>
      cases restarts
      exact became_set live rfl (dictated held live) (.begun held live rfl) handle recorder there
    | resetBuffer buffer =>
      cases restarts
      exact became_set live rfl (dictated held live) (.reset held live rfl) handle recorder there
    | _ => cases restarts
  | finished target held _ _ _ _ _ live registry _ =>
    exact became_set live rfl registry (.finished held live rfl) handle recorder there
  | recorded target held following command stops _ _ _ _ _ _ live _ _ _ _ _ =>
    obtain ⟨notes, stopped, after, used, ran, registry⟩ := dictated held live
    have effect := (Act.ends_of_ok (Recording.ends_effect _ _ _) ran).2
    exact became_set live rfl registry (.recorded held after command stopped live rfl effect) handle recorder there
  | executed primary secondaries held _ _ _ _ live own registry _ =>
    exact became_set live rfl registry (.executed held secondaries live rfl rfl own) handle recorder there
  | submitted _ _ _ _ _ _ _ same =>
    rw [same.buffers] at there
    exact .stayed recorder there (.inl (by simp [LayerCall.target?]))

end ProfiledDevice

-- The frame that the next call is made in, and for each buffer the frames that its records were made in.
structure Journal where
  frame : Nat
  written : BufferId → List Nat

-- What is written of the buffers behind a call in a frame. Where a recording starts afresh, so does
-- the list; with the records of an executed buffer come their frames.
def LayerStep.write (frame : Nat) (written : BufferId → List Nat) (step : LayerStep) : BufferId → List Nat := fun buffer =>
  match step.before.recorder buffer with
  | .error _ => []
  | .ok _ =>
    match step.call with
    | .beginBuffer id | .resetBuffer id => if id = buffer then [] else written buffer
    | .command id _ => if id = buffer then written buffer ++ [frame] else written buffer
    | .execute id secondaries =>
      if id = buffer ∧ step.reply = .done then written buffer ++ frame :: secondaries.flatMap written else written buffer
    | _ => written buffer

namespace Journal

def blank : Journal := ⟨0, fun _ => []⟩

def next (journal : Journal) (step : LayerStep) : Journal :=
  ⟨journal.frame + step.closes.toNat, step.write journal.frame journal.written⟩

def through (journal : Journal) (steps : List LayerStep) : Journal := steps.foldl next journal

def fits (journal : Journal) (step : LayerStep) : Bool :=
  match step.call with
  | .submit _ submissions =>
    (submissions.flatMap (·.buffers)).all fun buffer => (journal.written buffer).all (· == journal.frame)
  | _ => true

def fitsAll (journal : Journal) : List LayerStep → Bool
  | [] => true
  | step :: rest => journal.fits step && (journal.next step).fitsAll rest

theorem through_concat (journal : Journal) (steps : List LayerStep) (step : LayerStep) :
    journal.through (steps ++ [step]) = (journal.through steps).next step := by
  rw [through, List.foldl_append]
  rfl

theorem through_frame (journal : Journal) (steps : List LayerStep) :
    (journal.through steps).frame = journal.frame + LayerStep.closings steps := by
  induction steps generalizing journal with
  | nil => rfl
  | cons step rest ih =>
    have later : (journal.through (step :: rest)).frame = journal.frame + step.closes.toNat + LayerStep.closings rest :=
      ih (journal.next step)
    rw [later, LayerStep.closings, LayerStep.closings, List.countP_cons, Nat.add_assoc, Nat.add_comm step.closes.toNat]
    cases step.closes <;> rfl

theorem through_blank (steps : List LayerStep) : (blank.through steps).frame = LayerStep.closings steps :=
  (through_frame blank steps).trans (Nat.zero_add _)

theorem fits_at {journal : Journal} {earlier later : List LayerStep} {step : LayerStep}
    (fits : journal.fitsAll (earlier ++ step :: later) = true) : (journal.through earlier).fits step = true := by
  induction earlier generalizing journal with
  | nil => exact (Bool.and_eq_true_iff.mp fits).1
  | cons first rest ih => exact ih (Bool.and_eq_true_iff.mp fits).2

end Journal

namespace ProfiledDevice

def Keeps (device : ProfiledDevice) (config : Config) (id : DeviceId) (written : BufferId → List Nat) : Prop :=
  ∀ handle recorder, device.registry.buffers.get? handle = some recorder →
    (∀ frame ∈ written ⟨id, handle⟩, config.captures frame = false) → recorder.Uncaptured

theorem mode_captures {device : ProfiledDevice} {config : Config} {frame : Nat} (here : device.InFrame config frame) :
    device.captureMode.captures = config.captures frame := by
  have same : device.captures = config.captures frame := by
    rw [captures, FrameTracker.captures, here.profiling, here.configured, here.known]
    rfl
  unfold captureMode
  rw [same, here.profiling]
  cases config.captures frame <;> rfl

end ProfiledDevice

namespace Layer

open LayerStep

variable {layer next : Layer} {call : LayerCall} {shown : List Event} {reply : LayerReply} {id : DeviceId} {config : Config}
  {device moved : ProfiledDevice} {written : BufferId → List Nat} {handle : BufferHandle} {recorder : Recorder} {frame : Nat}

theorem write_live (here : layer.devices.get? id = some device)
    (live : device.registry.buffers.get? handle = some recorder) :
    write frame written ⟨layer, call, shown, reply, next⟩ ⟨id, handle⟩ =
      match call with
      | .beginBuffer other | .resetBuffer other => if other = ⟨id, handle⟩ then [] else written ⟨id, handle⟩
      | .command other _ => if other = ⟨id, handle⟩ then written ⟨id, handle⟩ ++ [frame] else written ⟨id, handle⟩
      | .execute other secondaries =>
        if other = ⟨id, handle⟩ ∧ reply = .done then written ⟨id, handle⟩ ++ frame :: secondaries.flatMap written
        else written ⟨id, handle⟩
      | _ => written ⟨id, handle⟩ := by
  have known : layer.recorder ⟨id, handle⟩ = .ok recorder := (recorder_within here handle recorder).mpr live
  unfold write
  rw [known]

theorem write_untold (here : layer.devices.get? id = some device)
    (live : device.registry.buffers.get? handle = some recorder)
    (untold : call.target? ≠ some ⟨id, handle⟩ ∨
      ∃ primary secondaries error, call = .execute primary secondaries ∧ reply = .failed error) :
    write frame written ⟨layer, call, shown, reply, next⟩ ⟨id, handle⟩ = written ⟨id, handle⟩ := by
  rw [write_live here live]
  rcases untold with elsewhere | ⟨primary, secondaries, error, rfl, rfl⟩
  · cases call <;> simp_all [LayerCall.target?]
  · simp

theorem keeps_called (here : layer.devices.get? id = some device) (inFrame : device.InFrame config frame)
    (keeps : device.Keeps config id written) (move : device.Move id call shown reply moved)
    (dictated : device.Dictated layer.shared.tags call moved) :
    moved.Keeps config id (write frame written ⟨layer, call, shown, reply, next⟩) := by
  intro handle recorder there unseen
  cases ProfiledDevice.move_became move dictated handle recorder there with
  | stayed _ live untold =>
    rw [write_untold here live untold] at unseen
    exact keeps handle recorder live unseen
  | allocated raw level vacant => exact Recorder.uncaptured_new raw level
  | begun held live made =>
    have blank := Recorder.uncaptured_new held.raw held.level
    exact ⟨blank.stream, blank.active, blank.suspended⟩
  | reset held live made => exact Recorder.uncaptured_new held.raw held.level
  | finished held live made =>
    rw [write_live here live, made] at unseen
    have before := keeps handle held live unseen
    exact ⟨before.stream, before.active, before.suspended⟩
  | recorded held _ command stops live made effect =>
    rw [write_live here live, made] at unseen
    simp only [if_true] at unseen
    have before := keeps handle held live fun frame member => unseen frame (List.mem_append_left _ member)
    have off : device.captureMode.captures = false := by
      rw [ProfiledDevice.mode_captures inFrame]
      exact unseen frame (by simp)
    exact Recorder.uncaptured_effect effect off before
  | executed held secondaries live made done own =>
    rw [write_live here live, made, done] at unseen
    simp only [and_self, if_true] at unseen
    have before := keeps handle held live fun frame member => unseen frame (List.mem_append_left _ member)
    apply Recorder.uncaptured_append before
    intro record member
    obtain ⟨⟨other, buffer⟩, listed, inside⟩ := List.mem_flatMap.mp member
    obtain ⟨rfl, found, alive⟩ := own ⟨other, buffer⟩ listed
    have also : ∀ frame ∈ written ⟨other, buffer⟩, config.captures frame = false := by
      intro frame noted
      apply unseen frame
      simp only [List.mem_append, List.mem_cons, List.mem_flatMap]
      exact .inr (.inr ⟨_, listed, noted⟩)
    rw [Registry.stream_of_some alive] at inside
    exact (keeps buffer found alive also).stream record inside

theorem run_keeps {allowed : Layer → LayerCall → Prop} {endpoint : ShowingEndpoint} {steps : List LayerStep}
    (run : Run allowed (fresh config endpoint) steps layer) : ∀ creation rest, lifeOf id steps = creation :: rest →
      creation.begins id = true → ∀ device, layer.devices.get? id = some device →
        device.Keeps config id (Journal.blank.through rest).written := by
  induction run with
  | start => exact fun creation rest never => (nomatch never)
  | step steps layer next call shown reply run admitted made ih =>
    intro creation rest life begins moved there
    have sound := run_sound run
    have move := (Act.ends_of_ok (ends_perform sound call) made).1
    rcases life_step sound made life begins with ⟨rfl, rfl⟩ | ⟨called, before, earlier, rfl⟩ | ⟨_, earlier, stays⟩
    · obtain ⟨gone, _⟩ := (begins_iff id _).mp begins
      obtain ⟨_, _, _, born, _⟩ := move_begins sound move gone there
      intro handle recorder live
      rw [born.registry, show Registry.empty.buffers.get? handle = none from Arena.get_empty handle] at live
      cases live
    · obtain ⟨device, here, inner⟩ := move_within move called there
      have inFrame := (run_lives run creation before earlier begins).inFrame device here
      have keeps : moved.Keeps config id
          (write (closings before) (Journal.blank.through before).written ⟨layer, call, shown, reply, next⟩) :=
        keeps_called here inFrame (ih creation before earlier begins device here) inner
          (perform_dictates called here made there)
      rw [Journal.through_concat, Journal.next, Journal.through_blank]
      exact keeps
    · exact ih creation rest earlier begins moved (stays moved there)

theorem stops_captured {device : ProfiledDevice} {journal : Journal} {step : LayerStep}
    (keeps : device.Keeps config id journal.written) (fits : journal.fits step = true)
    (own : ∀ queue submissions, step.call = .submit queue submissions →
      ∀ buffer ∈ submissions.flatMap (·.buffers), buffer.device = id)
    (stops : device.stopsIn step.call = true) : config.captures journal.frame = true := by
  by_contra off
  rw [Bool.not_eq_true] at off
  cases called : step.call with
  | submit queue submissions =>
    rw [called, ProfiledDevice.stopsIn, Registry.hasTraps, List.any_eq_true] at stops
    obtain ⟨handle, listed, traps⟩ := stops
    obtain ⟨buffer, member, rfl⟩ := List.mem_map.mp listed
    rw [Journal.fits, called, List.all_eq_true] at fits
    cases live : device.registry.buffers.get? buffer.buffer with
    | none =>
      rw [live] at traps
      cases traps
    | some recorder =>
      rw [live] at traps
      obtain ⟨record, inside, stopped⟩ := List.any_eq_true.mp traps
      have unseen : ∀ frame ∈ journal.written ⟨id, buffer.buffer⟩, config.captures frame = false := by
        intro frame noted
        rw [← own queue submissions called buffer member] at noted
        have same := List.all_eq_true.mp (fits buffer member) frame noted
        rw [eq_of_beq same]
        exact off
      rw [(keeps buffer.buffer recorder live unseen).stream record inside] at stopped
      cases stopped
  | _ =>
    rw [called] at stops
    cases stops

end Layer

end GpuProfiler
