import GpuProfiler.Proofs.Registry
import GpuProfiler.Proofs.Replay.Visits

set_option autoImplicit false

namespace GpuProfiler

namespace Recorder

-- The records so far leave no other pass suspended than the one a part would be taken to resume.
def Unovertaken (recorder : Recorder) : Prop :=
  ∀ tag ∈ recorder.suspended.bind (·.tag), ∀ held ∈ recorder.stream.leaves none, held = tag

instance (recorder : Recorder) : Decidable recorder.Unovertaken :=
  inferInstanceAs (Decidable (∀ tag ∈ recorder.suspended.bind (·.tag), ∀ held ∈ recorder.stream.leaves none, held = tag))

-- Parts are begun and ended in turn, and something is tracked where they begin.
def Allows (resumable : Recorder → Prop) (recorder : Recorder) : RecorderCall → Prop
  | .beginPass begun mode =>
    recorder.active = none ∧ mode ≠ .off ∧ (begun.flags.resuming = true → resumable recorder)
  | .endPass => recorder.active ≠ none
  | .append _ => False
  | _ => True

-- Recorders that only ever took such calls, and the records of other such recorders between parts.
-- A part resumes another only where that is allowed.
inductive Proper (resumable : Recorder → Prop) : Recorder → Prop
  | new (raw : RawBuffer) (level : BufferLevel) : Proper resumable (new raw level)
  | called (recorder next : Recorder) (tags used : TagSource) (call : RecorderCall) (shown : List Event)
      (reply : RecorderReply) (proper : Proper resumable recorder) (allowed : recorder.Allows resumable call)
      (made : Recording.perform call ⟨recorder, tags⟩ = ⟨shown, .ok (reply, ⟨next, used⟩)⟩) : Proper resumable next
  | executed (recorder : Recorder) (secondaries : List Recorder) (proper : Proper resumable recorder)
      (closed : recorder.active = none) (finished : ∀ secondary ∈ secondaries, secondary.active = none)
      (recorded : ∀ secondary ∈ secondaries, Proper resumable secondary) :
      Proper resumable (recorder.append (secondaries.flatMap (·.stream)))

-- The records agree with whatever is left suspended before them, and a pass that is known to be
-- suspended was begun among them.
structure Settled (recorder : Recorder) : Prop where
  agrees : ∀ before, recorder.stream.Agrees before
  suspended : ∀ tag, recorder.suspended.bind (·.tag) = some tag → recorder.stream.Anchored
  active : ∀ pass tag, recorder.active = some pass → pass.suspending = true → pass.tag = some tag →
    recorder.stream.Anchored

variable {recorder : Recorder}

theorem settled_new (raw : RawBuffer) (level : BufferLevel) : (new raw level).Settled :=
  ⟨fun _ => trivial, fun _ known => (nomatch known), fun _ _ opened => (nomatch opened)⟩

theorem settled_start (recorder : Recorder) : recorder.start.Settled :=
  ⟨fun _ => trivial, fun _ known => (nomatch known), fun _ _ opened => (nomatch opened)⟩

theorem settled_push (settled : recorder.Settled) (workload : Workload)
    (agrees : ∀ before, workload.role.Agrees (recorder.stream.leaves before)) : (recorder.push workload).Settled := by
  refine ⟨?_, fun tag known => Stream.anchored_append (settled.suspended tag known) _,
    fun pass tag opened leaves known => Stream.anchored_append (settled.active pass tag opened leaves known) _⟩
  intro before
  rw [push, Stream.agrees_append]
  exact ⟨settled.agrees before, agrees before, trivial⟩

theorem settled_open_pass (settled : recorder.Settled) (flags : RenderPassFlags) {mode : CaptureMode} (captured : Bool)
    (tracked : mode ≠ .off) (tag : Option RenderPassTag) (workload : Workload)
    (agrees : ∀ before, workload.role.Agrees (recorder.stream.leaves before))
    (begins : ∀ known, tag = some known → recorder.stream.Anchored ∨ ∃ suspending, workload.role = .begins known suspending) :
    (recorder.openPass flags mode captured tag workload).Settled := by
  have pushed := settled_push settled workload agrees
  unfold openPass
  by_cases kept : (captured || ((flags.suspending || flags.resuming) && mode != .off)) = true
  · simp only [kept, if_true]
    refine ⟨pushed.agrees, pushed.suspended, ?_⟩
    intro pass known opened leaves named
    cases opened
    rcases begins known named with anchored | ⟨suspending, role⟩
    · exact Stream.anchored_append anchored _
    · exact ⟨⟨workload, recorder.labels.snapshot⟩, by simp [push], known, suspending, role⟩
  · simp only [kept]
    refine ⟨settled.agrees, settled.suspended, ?_⟩
    intro pass known opened leaves named
    cases opened
    have suspending : flags.suspending = true := leaves
    simp [suspending, tracked] at kept

theorem settled_begin_pass (settled : recorder.Settled) (tag : RenderPassTag) (begun : RenderPassBegin) {mode : CaptureMode}
    (tracked : mode ≠ .off) : (recorder.beginPass tag begun mode).Settled := by
  have counted : Settled { recorder with stats := { recorder.stats with renderPasses := recorder.stats.renderPasses + 1 } } :=
    ⟨settled.agrees, settled.suspended, settled.active⟩
  refine settled_open_pass counted begun.flags mode.captures tracked (some tag) _ ?_ ?_
  · intro before known suspending held resumes
    cases resumes
  · intro known same
    cases same
    exact Or.inr ⟨begun.flags.suspending, rfl⟩

-- What is left suspended behind the records is the same whatever was before them, since the pass
-- was begun among them; so the recorder sees all there is to see.
theorem settled_resume_pass (settled : recorder.Settled) (unovertaken : recorder.Unovertaken) (begun : RenderPassBegin)
    {mode : CaptureMode} (tracked : mode ≠ .off) : (recorder.resumePass begun mode).Settled := by
  have cleared : Settled { recorder with suspended := none } :=
    ⟨settled.agrees, fun _ known => (nomatch known), settled.active⟩
  refine settled_open_pass cleared begun.flags _ tracked _ _ ?_ ?_
  · intro before tag suspending held resumes there
    have known : recorder.suspended.bind (·.tag) = some tag := by
      rw [Workload.role, Role.resumes.injEq] at resumes
      exact resumes.1
    apply unovertaken tag known held
    rw [Option.mem_def, Stream.leaves_anchored (settled.suspended tag known) none before]
    exact there
  · intro known same
    exact Or.inl (settled.suspended known same)

theorem role_complete (record : Record) (drawCalls : UInt64) (trapped : Bool) :
    Record.role { record with workload := record.workload.complete drawCalls trapped } = record.role := by
  obtain ⟨workload, labels⟩ := record
  cases workload <;> rfl

theorem settled_end_pass (settled : recorder.Settled) : recorder.endPass.2.Settled := by
  cases opened : recorder.active with
  | none =>
    simp only [endPass, opened]
    exact settled
  | some pass =>
    have roles : recorder.endPass.2.stream.map Record.role = recorder.stream.map Record.role := by
      simp only [endPass, opened]
      cases pass.position with
      | none => rfl
      | some position => exact Stream.map_modify Record.role _ _ fun record => role_complete record _ _
    refine ⟨fun before => Stream.agrees_roles roles.symm before (settled.agrees before), ?_, ?_⟩
    · intro tag known
      apply Stream.anchored_roles roles.symm
      simp only [endPass, opened] at known
      split at known
      · next leaves => exact settled.active pass tag opened leaves known
      · cases known
    · intro other tag still
      simp only [endPass, opened] at still
      cases still

theorem settled_record (settled : recorder.Settled) (workload : Workload) (capture : Bool) :
    (recorder.record workload capture).2.Settled := by
  unfold record
  by_cases part : isPass workload = true
  · rw [if_pos part]
    exact settled
  · rw [if_neg part]
    have counted : Settled { recorder with stats := recorder.stats.count workload } :=
      ⟨settled.agrees, settled.suspended, settled.active⟩
    cases capture with
    | false => exact counted
    | true =>
      apply settled_push counted workload
      intro before tag suspending held resumes
      cases workload <;> first | cases resumes | exact absurd rfl part

theorem settled_draw (settled : recorder.Settled) {count : UInt64} {drawn : Recorder} (counted : recorder.draw count = .ok drawn) :
    drawn.Settled := by
  obtain ⟨stats, ⟨_, rfl⟩ | ⟨pass, total, opened, _, rfl⟩⟩ := draw_cases counted
  · exact ⟨settled.agrees, settled.suspended, settled.active⟩
  · refine ⟨settled.agrees, settled.suspended, ?_⟩
    intro next tag same
    cases same
    exact settled.active pass tag opened

theorem settled_append (settled : recorder.Settled) (secondaries : List Recorder)
    (recorded : ∀ secondary ∈ secondaries, secondary.Settled) :
    (recorder.append (secondaries.flatMap (·.stream))).Settled := by
  refine ⟨?_, fun tag known => Stream.anchored_append (settled.suspended tag known) _,
    fun pass tag opened leaves known => Stream.anchored_append (settled.active pass tag opened leaves known) _⟩
  intro before
  rw [append, Stream.agrees_append]
  exact ⟨settled.agrees before, Stream.agrees_flat_map (fun secondary member => (recorded secondary member).agrees) _⟩

end Recorder

namespace Recording

theorem ends_settled {recorder : Recorder} (settled : recorder.Settled) {call : RecorderCall}
    (allowed : recorder.Allows Recorder.Unovertaken call) (tags : TagSource) :
    Act.Ends (perform call) ⟨recorder, tags⟩ (fun _ _ next => next.recorder.Settled) (fun _ _ => True) := by
  cases call with
  | start => exact Recorder.settled_start recorder
  | finish => exact ⟨settled.agrees, settled.suspended, settled.active⟩
  | reset => exact Recorder.settled_new recorder.raw recorder.level
  | pushLabel label => exact ⟨settled.agrees, settled.suspended, settled.active⟩
  | popLabel =>
    simp only [perform, popLabel, update, Act.ends_bind, Act.ends_get, Act.ends_note_if, Act.ends_modify, Act.ends_pure]
    exact ⟨settled.agrees, settled.suspended, settled.active⟩
  | beginPass begun mode =>
    obtain ⟨_, tracked, unovertaken⟩ := allowed
    by_cases resuming : begun.flags.resuming = true
    · simp only [perform, beginPass, resuming, if_true, Act.ends_bind, Act.ends_get, Act.ends_set, Act.ends_pure]
      exact Recorder.settled_resume_pass settled (unovertaken resuming) begun tracked
    · simp only [perform, beginPass, resuming, if_false, Act.ends_bind, Act.ends_get, Act.ends_set, Act.ends_pure,
        Bool.false_eq_true]
      exact Recorder.settled_begin_pass settled _ begun tracked
  | endPass => exact Recorder.settled_end_pass settled
  | draw count =>
    simp only [perform, draw, Act.ends_bind, Act.ends_get, Act.ends_check, Act.ends_set, Act.ends_pure]
    exact ⟨fun drawn counted => Recorder.settled_draw settled counted, fun _ _ => trivial⟩
  | record workload capture =>
    simp only [perform, record, Act.ends_bind, Act.ends_get, Act.ends_note_if, Act.ends_set, Act.ends_pure]
    exact Recorder.settled_record settled workload capture
  | append records => exact allowed.elim

end Recording

namespace Recorder

theorem settled_proper {recorder : Recorder} (proper : recorder.Proper Unovertaken) : recorder.Settled := by
  induction proper with
  | new raw level => exact settled_new raw level
  | called recorder next tags used call shown reply _ allowed made ih =>
    exact Act.ends_of_ok (Recording.ends_settled ih allowed tags) made
  | executed recorder secondaries _ _ _ _ ih behind => exact settled_append ih secondaries behind

end Recorder

namespace Registry

/-- A submission of properly recorded buffers, in which no part resumes one of its own buffer that
was overtaken: each part met next after a suspended one resumes the pass of that part, and the whole
replay is what it would be if no record named an origin, down to where it stops if draws overflow. -/
theorem origins_make_no_difference (registry : Registry) (queue : QueueHandle) (tracked : Queue) (buffers : List BufferHandle)
    (held : registry.queue queue = .ok tracked)
    (recorded : ∀ handle ∈ buffers, ∃ recorder, registry.buffer handle = .ok recorder ∧ recorder.Proper Recorder.Unovertaken) :
    Act.Ends (replay collectVisits queue buffers) (registry, [])
      (fun _ answer done =>
        answer = .ok (buffers.flatMap registry.streamOf).length ∧
          done.2.map (·.record) = buffers.flatMap registry.streamOf ∧ HandsOn done.2 ∧
          ∃ last, (Cursor.fresh.run collectVisits ((buffers.flatMap registry.streamOf).map Record.anonymous) []).outcome =
            .ok (last, done.2.map Visit.anonymous))
      (fun _ reason =>
        (Cursor.fresh.run collectVisits ((buffers.flatMap registry.streamOf).map Record.anonymous) []).outcome =
          .error reason) := by
  have live : ∀ handle ∈ buffers, ∃ recorder, registry.buffers.get? handle = some recorder := by
    intro handle member
    obtain ⟨recorder, found, _⟩ := recorded handle member
    exact ⟨recorder, (buffer_ok registry handle recorder).mp found⟩
  have agrees : ∀ before, Stream.Agrees before (buffers.flatMap registry.streamOf) := by
    apply Stream.agrees_flat_map
    intro handle member
    obtain ⟨recorder, found, proper⟩ := recorded handle member
    rw [stream_of_some ((buffer_ok registry handle recorder).mp found)]
    exact (Recorder.settled_proper proper).agrees
  have anonymous : (Cursor.fresh.run collectVisits ((buffers.flatMap registry.streamOf).map Record.anonymous) []).outcome =
      (Cursor.fresh.visits (buffers.flatMap registry.streamOf)).map fun ran => (ran.2, ran.1.map Visit.anonymous) := by
    rw [Cursor.run_collects, Cursor.fresh.visits_anonymous (agrees _)]
    cases Cursor.fresh.visits (buffers.flatMap registry.streamOf) <;> rfl
  rw [anonymous]
  simp only [replay, Act.ends_bind, Act.ends_get, held, streams_some live, Act.ends_on, Queue.run_streams_flatten,
    Act.ends_modify, Act.ends_pure, ← List.flatMap_def]
  apply Cursor.ends_run_collects
  · intro met last ran
    have fresh : Cursor.fresh.visits (buffers.flatMap registry.streamOf) = .ok (met, last) := ran
    exact ⟨trivial, Cursor.visits_records ran, Cursor.visits_hand_on (agrees _) ran, last, by rw [fresh]; rfl⟩
  · intro reason stopped
    have fresh : Cursor.fresh.visits (buffers.flatMap registry.streamOf) = .error reason := stopped
    rw [fresh]
    rfl

end Registry

namespace Recorder

variable {resumable : Recorder → Prop} {recorder : Recorder}

def behind (recorder : Recorder) (tags : TagSource) (call : RecorderCall) : Recorder :=
  match (Recording.perform call ⟨recorder, tags⟩).outcome with
  | .ok (_, next) => next.recorder
  | .error _ => recorder

theorem proper_behind (proper : recorder.Proper resumable) (tags : TagSource) {call : RecorderCall}
    (allowed : recorder.Allows resumable call) : (recorder.behind tags call).Proper resumable := by
  unfold behind
  rcases made : Recording.perform call ⟨recorder, tags⟩ with ⟨shown, reason | ⟨reply, next⟩⟩
  · exact proper
  · exact .called recorder next.recorder tags next.tags call shown reply proper allowed made

def withPart (recorder : Recorder) (tag : RenderPassTag) (flags : RenderPassFlags) : Recorder :=
  (recorder.behind ⟨tag⟩ (.beginPass ⟨8, 8, 1, flags⟩ .capture)).behind ⟨tag⟩ .endPass

theorem proper_with_part (proper : recorder.Proper resumable) (closed : recorder.active = none) (tag : RenderPassTag)
    {flags : RenderPassFlags} (resumes : flags.resuming = true → resumable recorder) :
    (recorder.withPart tag flags).Proper resumable := by
  have begun : (recorder.behind ⟨tag⟩ (.beginPass ⟨8, 8, 1, flags⟩ .capture)).Proper resumable :=
    proper_behind proper ⟨tag⟩ ⟨closed, by decide, resumes⟩
  refine proper_behind begun ⟨tag⟩ ?_
  cases resuming : flags.resuming <;>
    simp [Allows, behind, Recording.perform, Recording.beginPass, bind, Act.bind, Act.get, Act.set, Pure.pure, Act.pure,
      resuming, beginPass, resumePass, openPass]

-- A suspended pass, and a pass that is resumed behind it although it was suspended before it.
def leftOpen : Recorder := (new 6 .secondary).withPart 2 ⟨true, false⟩

def overtaken : Recorder :=
  (((new 5 .primary).withPart 1 ⟨true, false⟩).append ([leftOpen].flatMap (·.stream))).withPart 3 ⟨false, true⟩

def carriedOn : Recorder := ((new 5 .primary).withPart 1 ⟨true, false⟩).withPart 2 ⟨true, true⟩

def concluded : Recorder := (new 6 .primary).withPart 2 ⟨false, true⟩

theorem proper_left_open : leftOpen.Proper resumable :=
  proper_with_part (.new 6 .secondary) rfl 2 fun never => (nomatch never)

end Recorder

namespace Registry

def holding (recorders : List Recorder) : Registry :=
  ⟨⟨[⟨0, some (.new 1 0 0)⟩], [], 1⟩, [], ⟨recorders.map fun recorder => ⟨0, some recorder⟩, [], recorders.length⟩, []⟩

theorem carried_pass_is_resumed :
    Recorder.carriedOn.Proper Recorder.Unovertaken ∧ Recorder.concluded.Proper Recorder.Unovertaken ∧
      ∃ shown next met, replay collectVisits ⟨0, 0⟩ [⟨0, 0⟩, ⟨1, 0⟩] (holding [.carriedOn, .concluded], []) =
          ⟨shown, .ok (.ok 3, next, met)⟩ ∧
        HandsOn met ∧ met.map (fun visited => visited.resumed.map (·.tag)) = [none, some 1, some 1] := by
  have first : Recorder.carriedOn.Proper Recorder.Unovertaken := by
    refine Recorder.proper_with_part ?_ rfl 2 fun _ => by decide +kernel
    exact Recorder.proper_with_part (.new 5 .primary) rfl 1 fun never => (nomatch never)
  have second : Recorder.concluded.Proper Recorder.Unovertaken :=
    Recorder.proper_with_part (.new 6 .primary) rfl 2 fun _ => by decide +kernel
  have resolved := origins_make_no_difference (holding [.carriedOn, .concluded]) ⟨0, 0⟩ (.new 1 0 0) [⟨0, 0⟩, ⟨1, 0⟩] rfl
    (by
      intro handle member
      rcases List.mem_cons.mp member with rfl | later
      · exact ⟨.carriedOn, rfl, first⟩
      · rw [List.mem_singleton.mp later]
        exact ⟨.concluded, rfl, second⟩)
  refine ⟨first, second, ?_⟩
  rcases ran : replay collectVisits ⟨0, 0⟩ [⟨0, 0⟩, ⟨1, 0⟩] (holding [.carriedOn, .concluded], []) with
    ⟨shown, reason | ⟨answer, next, met⟩⟩
  · cases ran
  · obtain ⟨_, _, handed, _⟩ := Act.ends_of_ok resolved ran
    cases ran
    exact ⟨_, _, _, rfl, handed, rfl⟩

theorem overtaken_pass_is_lost :
    ¬∀ (registry : Registry) (queue : QueueHandle) (tracked : Queue) (buffers : List BufferHandle),
      registry.queue queue = .ok tracked →
        (∀ handle ∈ buffers, ∃ recorder, registry.buffer handle = .ok recorder ∧ recorder.Proper fun _ => True) →
          Act.Ends (replay collectVisits queue buffers) (registry, []) (fun _ _ done => HandsOn done.2) (fun _ _ => True) := by
  intro always
  have proper : Recorder.overtaken.Proper fun _ => True := by
    apply Recorder.proper_with_part _ rfl 3 fun _ => trivial
    apply Recorder.Proper.executed _ _ _ rfl
    · intro secondary member
      rw [List.mem_singleton.mp member]
      rfl
    · intro secondary member
      rw [List.mem_singleton.mp member]
      exact Recorder.proper_left_open
    · exact Recorder.proper_with_part (.new 5 .primary) rfl 1 fun never => (nomatch never)
  have handed := always (holding [.overtaken]) ⟨0, 0⟩ _ [⟨0, 0⟩] rfl
    (fun handle member => ⟨.overtaken, by rw [List.mem_singleton.mp member]; rfl, proper⟩)
  have lost := handed [_] _ [] _ [] ⟨some 1, false, 0, true⟩ rfl rfl (fun _ member => (nomatch member)) rfl
  cases lost

end Registry

end GpuProfiler
