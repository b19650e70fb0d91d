import GpuProfiler.Proofs.Frames.Beats
import GpuProfiler.Proofs.Indifference.Abreast
import GpuProfiler.Proofs.Trap.Replay

set_option autoImplicit false

namespace GpuProfiler

open Act Watched

namespace Beat

def isMessage : Beat → Bool
  | .marked _ | .worked _ | .reported _ _ => true
  | _ => false

end Beat

theorem Act.mute_of_beats {σ α : Type} {act : Act σ α} {beats : List Beat} (shows : Act.Beats act beats)
    (silent : ∀ beat ∈ beats, beat.isMessage = false) : Mute act := by
  intro s
  refine ends_mono (shows s) ?_ (fun _ _ _ => trivial)
  intro shown _ _ same
  apply List.filterMap_eq_nil_iff.mpr
  intro event member
  cases event with
  | message sent failed =>
    have beat : sent.beat ∈ Event.beats shown := List.mem_filterMap.mpr ⟨.message sent failed, member, rfl⟩
    rw [same] at beat
    have never := silent sent.beat beat
    cases sent <;> cases never
  | _ => rfl

theorem Act.mute_of_hushed {σ α : Type} {act : Act σ α} (hushed : Act.Hushed act) : Mute act :=
  mute_of_beats hushed fun _ never => nomatch never

instance : Watched Driver := .whole Driver

instance : Watched Registry := .whole Registry

instance : Watched Tracking := .whole Tracking

instance : Watched FrameTracker := .whole FrameTracker

instance : Watched Backend := ⟨fun steady backend => if steady then backend else .empty, fun _ _ => 0⟩

instance : Watched (CounterSession Backend) :=
  ⟨fun steady session => if steady then session else ⟨.empty, [], ⟨0, 0, 0⟩⟩, fun _ _ => 0⟩

instance : Watched (Sender ShowingEndpoint) :=
  ⟨fun _ _ => .new ⟨[], 0⟩, fun sender failed => if failed then sender.dropped else sender.sent⟩

namespace CounterSession

variable {steady : Bool}

theorem backend_fits : (backendPart : Part (CounterSession Backend) Backend).Fits := by
  refine ⟨fun steady session => ?_, fun steady backend session => ?_, fun _ _ _ => rfl⟩
  · cases steady <;> rfl
  · cases steady <;> rfl

theorem faint_ask {α : Type} {act : Act ScriptedBackend α} (otherwise : α)
    (asks : ∀ inner, Ends act inner (fun shown _ _ => Event.firm false shown = [] ∧ Event.sendings shown = [])
      (fun _ _ => False)) : Faint false (Backend.ask act otherwise) := by
  intro backend
  cases backend with
  | empty => exact ⟨rfl, rfl, tallied_same _ rfl⟩
  | scripted inner =>
    have ends := asks inner
    unfold Ends Backend.ask at *
    rcases ran : act inner with ⟨shown, reason | ⟨x, next⟩⟩
    · simp only [ran] at ends
    · simp only [ran] at ends ⊢
      exact ⟨ends.1, rfl, fun failed => by rw [ends.2]; rfl⟩

theorem faint_on_backend {α : Type} {act : Act Backend α} (faint : Faint false act) :
    Faint false (Act.on (backendPart : Part (CounterSession Backend) Backend) act) :=
  faint_on backend_fits (fun _ => rfl) faint

theorem faint_count (count : SessionStats → SessionStats) :
    Faint false (countStats count : Act (CounterSession Backend) Unit) := faint_modify (fun _ => rfl) fun _ _ => rfl

theorem faint_sample_now : Faint false (sampleNow : Act (CounterSession Backend) Bool) := by
  have asked : Faint false (CounterBackend.sampleNow : Act Backend (Except Error Unit)) := by
    apply faint_ask
    intro inner
    simp only [ScriptedBackend.sampleNow, ends_bind, ends_get]
    cases inner.script.failing.lookup inner.attempts <;> exact ⟨rfl, rfl⟩
  apply faint_bind (faint_on_backend asked)
  intro answer
  cases answer with
  | ok _ => exact faint_bind (faint_count _) fun _ => faint_pure true
  | error error => exact faint_bind (faint_note _) fun _ => faint_bind (faint_count _) fun _ => faint_pure false

theorem faint_read_one (counter : Counter) :
    Faint false (readOne counter : Act (CounterSession Backend) (Option Reading)) := by
  have failed (noticed : Note) : Faint false
      (do Act.note noticed; countStats countFailedRead; return none : Act (CounterSession Backend) (Option Reading)) :=
    faint_bind (faint_note _) fun _ => faint_bind (faint_count _) fun _ => faint_pure none
  have asked : Faint false (CounterBackend.read counter.id : Act Backend (Except Error CounterValue)) :=
    faint_ask _ fun _ => ⟨rfl, rfl⟩
  apply faint_bind (faint_on_backend asked)
  intro answer
  cases answer with
  | error error => exact failed _
  | ok value =>
    by_cases typed : value.kind = counter.kind
    · simp only [if_pos typed]
      exact faint_pure _
    · simp only [if_neg typed]
      exact failed _

theorem faint_read_all : Faint false (readAll : Act (CounterSession Backend) (List Reading)) := by
  apply faint_bind faint_get
  intro session
  generalize session.active = counters
  induction counters with
  | nil => exact faint_pure _
  | cons counter rest ih => exact faint_bind (faint_read_one counter) fun _ => faint_bind ih fun _ => faint_pure _

theorem in_step_asked {α : Type} {act : Act (CounterSession Backend) α} (faint : Faint false act) :
    InStep steady (fun x y => steady = true → x = y) act act := by
  cases steady with
  | false => exact in_step_faint faint faint fun _ _ never => nomatch never
  | true =>
    have alike : InStep true (· = ·) act act := in_step_same (fun _ _ same => same) fun s =>
      ends_mono (faint s) (fun _ _ _ done => done.2.2) (fun _ _ never => never.elim)
    exact in_step_mono alike fun _ _ same _ => same

end CounterSession

namespace Sender

theorem ends_emit_tallied (steady : Bool) (message : Message) (sender : Sender ShowingEndpoint) :
    Ends (emit message) sender
      (fun shown _ next =>
        Event.firm steady shown = Event.firm steady [.message message false] ∧ Tallied sender shown next)
      (fun _ _ => False) := by
  simp only [emit, Endpoint.send, ends_bind, ends_on, ends_get, ends_set, Act.ends_emit, ends_pure]
  cases (endpointPart.get sender).failing.contains (endpointPart.get sender).sends with
  | true =>
    refine ⟨rfl, fun failed => ?_⟩
    cases failed <;> rfl
  | false =>
    refine ⟨rfl, fun failed => ?_⟩
    cases failed <;> rfl

theorem faint_emit (message : Message) : Faint false (emit message : Act (Sender ShowingEndpoint) Unit) := fun sender =>
  ends_mono (ends_emit_tallied false message sender) (fun _ _ _ done => ⟨done.1, rfl, done.2⟩) (fun _ _ never => never)

theorem in_step_emit {steady : Bool} {message other : Message} (agree : steady = true → message = other) :
    InStep steady (· = ·) (emit message : Act (Sender ShowingEndpoint) Unit) (emit other) := by
  intro s t _
  apply abreast_of_ends (ends_emit_tallied steady message s) (ends_emit_tallied steady other t)
  intro shown _ next told _ after done too
  have firm : Event.firm steady [.message message false] = Event.firm steady [.message other false] := by
    cases steady with
    | false => rfl
    | true => rw [agree rfl]
  exact ⟨(done.1.trans firm).trans too.1.symm, rfl, rfl, done.2, too.2⟩

end Sender

instance : Watched Sampler :=
  ⟨fun steady s => { s with session := outline steady s.session, sender := outline steady s.sender },
    fun s => tally s.sender⟩

namespace Sampler

variable {steady : Bool}

theorem driver_fits : driverPart.Fits := ⟨fun _ _ => rfl, fun _ _ _ => rfl, fun _ _ _ => rfl⟩

theorem session_fits : sessionPart.Fits := ⟨fun _ _ => rfl, fun _ _ _ => rfl, fun _ _ _ => rfl⟩

theorem sender_fits : senderPart.Fits := ⟨fun _ _ => rfl, fun _ _ _ => rfl, fun _ _ _ => Nat.add_comm _ _⟩

theorem in_step_driver {α : Type} {act : Act Driver α} (mute : Mute act) :
    InStep steady (· = ·) (Act.on driverPart act) (Act.on driverPart act) := in_step_part driver_fits mute

theorem in_step_await (event : RawEvent) (patience : Nat) :
    InStep steady (· = ·) (Trap.await event patience : Act Sampler Unit) (Trap.await event patience) := by
  induction patience with
  | zero => exact in_step_halt _
  | succ patience ih =>
    apply in_step_bind (in_step_driver (mute_of_hushed (Driver.hushed_event_status event)))
    intro answer _ same
    cases same
    cases answer with
    | error error => exact in_step_bind (in_step_noted (faint_note _)) fun _ _ _ => ih
    | ok status =>
      cases status with
      | set => exact in_step_pure rfl
      | unset => exact ih

theorem in_step_acquire (trap : Trap) : InStep steady (· = ·) (trap.acquire : Act Sampler Unit) trap.acquire := by
  apply in_step_bind in_step_get
  intro s t outlined
  rw [look_same EventHost.patience (fun _ => rfl) outlined]
  apply in_step_bind (in_step_await _ _)
  intro _ _ _
  apply in_step_bind (in_step_driver (mute_of_beats (Driver.beats_reset_event _) (by simp [Beat.isMessage])))
  intro answer _ same
  cases same
  exact in_step_noted (faint_note_failure _ answer)

theorem in_step_release (trap : Trap) : InStep steady (· = ·) (trap.release : Act Sampler Unit) trap.release := by
  apply in_step_bind (in_step_driver (mute_of_beats (Driver.beats_set_event _) (by simp [Beat.isMessage])))
  intro answer _ same
  cases same
  exact in_step_noted (faint_note_failure _ answer)

theorem in_step_trap_cycle {α : Type} {same : α → α → Prop} (trap : Trap) {inside other : Act Sampler α}
    (within : InStep steady same inside other) :
    InStep steady (fun x y => same x.1 y.1 ∧ x.2 = y.2) (trap.cycle inside) (trap.cycle other) := by
  apply in_step_bind (in_step_acquire trap)
  intro _ _ _
  apply in_step_bind within
  intro x y related
  apply in_step_bind (in_step_release trap)
  intro _ _ _
  apply in_step_bind (in_step_noted (faint_note _))
  intro _ _ _
  exact in_step_pure ⟨related, rfl⟩

theorem faint_read_if (latched : Bool) :
    Faint false
      (if latched then Act.on sessionPart CounterSession.readAll else Pure.pure [] : Act Sampler (List Reading)) := by
  cases latched with
  | false => exact faint_pure []
  | true => exact faint_on session_fits (fun _ => rfl) CounterSession.faint_read_all

theorem in_step_read_if {latched also : Bool} (agree : steady = true → latched = also) :
    InStep steady (fun x y => steady = true → x = y)
      (if latched then Act.on sessionPart CounterSession.readAll else Pure.pure [])
      (if also then Act.on sessionPart CounterSession.readAll else Pure.pure []) := by
  -- Whether the counters are read depends on the answer to the sample, so the two runs may part here.
  cases steady with
  | false => exact in_step_faint (faint_read_if latched) (faint_read_if also) fun _ _ never => nomatch never
  | true =>
    cases agree rfl
    cases latched with
    | false =>
      apply in_step_pure
      exact fun _ => rfl
    | true => exact in_step_on session_fits (CounterSession.in_step_asked CounterSession.faint_read_all)

theorem in_step_cycle : InStep steady (fun x y => steady = true → x = y) cycle cycle := by
  apply in_step_bind in_step_get
  intro s t outlined
  rw [look_same Sampler.trap (fun _ => rfl) outlined]
  apply in_step_bind (in_step_trap_cycle t.trap (in_step_on session_fits (CounterSession.in_step_asked
    CounterSession.faint_sample_now)))
  intro x y related
  obtain ⟨latched, trap⟩ := x
  obtain ⟨also, _⟩ := y
  obtain ⟨agree, same⟩ := related
  cases same
  refine in_step_bind (in_step_modify (fun _ => ?_) fun _ _ => ?_) fun _ _ _ => in_step_read_if agree
  · rfl
  · rfl

theorem in_step_report (workload : Workload) (labels : Labels) {counters others : List Reading}
    (agree : steady = true → counters = others) :
    InStep steady (· = ·) (report workload labels counters) (report workload labels others) := by
  unfold report Message.ofWorkload?
  cases Metadata.ofWorkload? workload with
  | none => exact in_step_pure rfl
  | some metadata =>
    refine in_step_on sender_fits (Sender.in_step_emit fun steadily => ?_)
    rw [agree steadily]

theorem in_step_sample (workload : Workload) (labels : Labels) :
    InStep steady (· = ·) (sample workload labels) (sample workload labels) :=
  in_step_bind in_step_cycle fun _ _ agree => in_step_report workload labels agree

theorem in_step_sample_continuation (resumed : Option RenderPass) (labels : Labels) :
    InStep steady (· = ·) (sampleContinuation resumed labels) (sampleContinuation resumed labels) := by
  apply in_step_bind in_step_cycle
  intro counters others agree
  cases resumed with
  | none => exact in_step_noted (faint_note _)
  | some pass => exact in_step_report _ labels agree

theorem in_step_visit (visited : Visit) : InStep steady (· = ·) (visit visited) (visit visited) := by
  unfold visit
  split
  · split
    · exact in_step_sample _ _
    · exact in_step_pure rfl
  · split
    · exact in_step_sample_continuation _ _
    · exact in_step_pure rfl
  · exact in_step_sample _ _

end Sampler

instance {σ : Type} [Watched σ] : Watched (Registry × σ) :=
  ⟨fun steady both => (both.1, outline steady both.2), fun both => tally both.2⟩

section Replay

variable {σ : Type} [Watched σ] {steady : Bool} {visitor : Visit → Act σ Unit}
  (visits : ∀ visited, InStep steady (· = ·) (visitor visited) (visitor visited))

include visits

theorem Cursor.in_step_run (cursor : Cursor) (stream : Stream) :
    InStep steady (· = ·) (cursor.run visitor stream) (cursor.run visitor stream) := by
  induction stream generalizing cursor with
  | nil => exact in_step_pure rfl
  | cons record rest ih =>
    apply in_step_bind (in_step_noted (faint_note _))
    intro _ _ _
    apply in_step_bind (in_step_check _)
    intro met _ same
    cases same
    apply in_step_bind (visits met.1)
    intro _ _ _
    exact ih met.2

theorem Queue.in_step_run_streams (queue : Queue) (streams : List Stream) :
    InStep steady (· = ·) (queue.runStreams visitor streams) (queue.runStreams visitor streams) := by
  rw [Queue.run_streams_flatten]
  apply in_step_bind (Cursor.in_step_run visits queue.cursor streams.flatten)
  intro cursor _ same
  cases same
  exact in_step_pure rfl

theorem Registry.in_step_replay (queue : QueueHandle) (buffers : List BufferHandle) :
    InStep steady (· = ·) (Registry.replay visitor queue buffers) (Registry.replay visitor queue buffers) := by
  have second : (Part.second : Part (Registry × σ) σ).Fits :=
    ⟨fun _ _ => rfl, fun _ _ _ => rfl, fun _ _ _ => Nat.add_comm _ _⟩
  apply in_step_bind in_step_get
  intro s t outlined
  have registry : s.1 = t.1 := look_same Prod.fst (fun _ => rfl) outlined
  dsimp only
  rw [registry]
  cases t.1.queue queue with
  | error error => exact in_step_pure rfl
  | ok tracked =>
    dsimp only
    cases t.1.streams buffers with
    | error error => exact in_step_pure rfl
    | ok streams =>
      apply in_step_bind (in_step_on second (Queue.in_step_run_streams visits tracked.noteSubmit streams))
      intro done _ same
      cases same
      refine in_step_bind (in_step_modify (fun _ => ?_) fun _ _ => ?_) fun _ _ _ => in_step_pure rfl
      · rfl
      · rfl

end Replay

end GpuProfiler
