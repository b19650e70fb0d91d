import GpuProfiler.Proofs.Device.Moves

set_option autoImplicit false

namespace GpuProfiler

namespace Driver

def Keeps {α : Type} (driver : Driver) (shown : List Event) (_ : α) (next : Driver) : Prop :=
  Event.trapCalls shown = [] ∧ next.buffers = driver.buffers

variable (driver : Driver)

theorem keeps_work (ops : List DeviceOp) : Act.Ends (work ops) driver (Keeps driver) (fun _ _ => True) := by
  induction ops generalizing driver with
  | nil => exact ⟨rfl, rfl⟩
  | cons op rest ih =>
    simp only [work, Act.ends_bind, Act.ends_get]
    cases op.step? driver.signalled with
    | none => exact ⟨rfl, rfl⟩
    | some moved =>
      obtain ⟨step, signalled⟩ := moved
      simp only [Act.ends_bind, Act.ends_set, Act.ends_emit]
      refine Act.ends_mono (ih { driver with signalled := signalled }) ?_ (fun _ _ _ => trivial)
      rintro shown _ next ⟨calls, same⟩
      exact ⟨by simpa [Event.trapCall?] using calls, same⟩

theorem keeps_queue_submit (queue : RawQueue) (batches : List (List RawBuffer)) :
    Act.Ends (queueSubmit queue batches) driver (Keeps driver) (fun _ _ => True) := by
  simp only [queueSubmit, ends_try_call]
  split
  · exact ⟨rfl, rfl⟩
  · simp only [advance, Act.ends_bind, Act.ends_modify, Act.ends_get]
    refine Act.ends_mono (keeps_work _ _) ?_ (fun _ _ _ => trivial)
    rintro shown _ next ⟨calls, same⟩
    exact ⟨by simpa [Event.trapCall?, callEvent] using calls, same⟩

theorem keeps_set_event (event : RawEvent) :
    Act.Ends (setEvent event) driver (Keeps driver) (fun _ _ => True) := by
  simp only [setEvent, ends_try_call]
  split
  · exact ⟨rfl, rfl⟩
  · simp only [advance, Act.ends_bind, Act.ends_modify, Act.ends_get]
    refine Act.ends_mono (keeps_work _ _) ?_ (fun _ _ _ => trivial)
    rintro shown _ next ⟨calls, same⟩
    exact ⟨by simpa [Event.trapCall?, callEvent] using calls, same⟩

theorem keeps_reset_event (event : RawEvent) :
    Act.Ends (resetEvent event) driver (Keeps driver) (fun _ _ => True) := by
  simp only [resetEvent, ends_try_call]
  split <;> exact ⟨rfl, rfl⟩

theorem keeps_event_status (event : RawEvent) :
    Act.Ends (eventStatus event) driver (Keeps driver) (fun _ _ => True) := by
  simp only [eventStatus, ends_try_call]
  split
  · exact ⟨rfl, rfl⟩
  · simp only [Act.ends_bind, Act.ends_get]
    split
    · exact ⟨rfl, rfl⟩
    · split
      · exact ⟨rfl, rfl⟩
      · exact trivial

end Driver

namespace Sampler

def Keeps {α : Type} (s : Sampler) (shown : List Event) (_ : α) (next : Sampler) : Prop :=
  Event.trapCalls shown = [] ∧ next.driver.buffers = s.driver.buffers ∧ next.trap.events = s.trap.events

variable (s : Sampler)

theorem keeps_driver {α : Type} {act : Act Driver α}
    (ends : Act.Ends act s.driver (Driver.Keeps s.driver) (fun _ _ => True)) :
    Act.Ends (Act.on driverPart act) s (Keeps s) (fun _ _ => True) := by
  rw [Act.ends_on]
  exact Act.ends_mono ends (fun _ _ _ kept => ⟨kept.1, kept.2, rfl⟩) (fun _ _ _ => trivial)

theorem keeps_then {α β : Type} {act : Act Sampler α} {next : α → Act Sampler β}
    (first : Act.Ends act s (Keeps s) (fun _ _ => True))
    (second : ∀ x t, t.trap.events = s.trap.events → Act.Ends (next x) t (Keeps t) (fun _ _ => True)) :
    Act.Ends (act >>= next) s (Keeps s) (fun _ _ => True) := by
  rw [Act.ends_bind]
  refine Act.ends_mono first ?_ (fun _ _ _ => trivial)
  rintro shown x middle ⟨calls, buffers, events⟩
  refine Act.ends_mono (second x middle events) ?_ (fun _ _ _ => trivial)
  rintro later y last ⟨more, same, also⟩
  exact ⟨by simp [calls, more], same.trans buffers, also.trans events⟩

theorem keeps_quiet {α : Type} {act : Act Sampler α}
    (ends : Act.Ends act s (fun shown _ next => Quiet shown ∧ next.driver = s.driver ∧ next.trap.events = s.trap.events)
      (fun _ _ => False)) : Act.Ends act s (Keeps s) (fun _ _ => True) := by
  refine Act.ends_mono ends ?_ (fun _ _ _ => trivial)
  rintro shown _ next ⟨quiet, driver, events⟩
  exact ⟨quiet_trap_calls quiet, by rw [driver], events⟩

theorem keeps_await (event : RawEvent) (patience : Nat) :
    Act.Ends (Trap.await event patience) s (Keeps s) (fun _ _ => True) := by
  induction patience generalizing s with
  | zero => exact trivial
  | succ patience ih =>
    refine keeps_then s (keeps_driver s (Driver.keeps_event_status _ event)) ?_
    intro answer t _
    cases answer with
    | ok status =>
      cases status with
      | set => exact ⟨rfl, rfl, rfl⟩
      | unset => exact ih t
    | error error => exact keeps_then t ⟨rfl, rfl, rfl⟩ fun _ u _ => ih u

theorem keeps_note_failure (noticed : Error → Note) (result : Except Error Unit) :
    Act.Ends (Act.noteFailure noticed result) s (Keeps s) (fun _ _ => True) := by
  cases result <;> exact ⟨rfl, rfl, rfl⟩

theorem keeps_acquire (trap : Trap) : Act.Ends trap.acquire s (Keeps s) (fun _ _ => True) := by
  refine keeps_then s ⟨rfl, rfl, rfl⟩ fun patient t _ => ?_
  refine keeps_then t (keeps_await t _ _) fun _ u _ => ?_
  exact keeps_then u (keeps_driver u (Driver.keeps_reset_event _ _)) fun answer v _ => keeps_note_failure v _ answer

theorem keeps_release (trap : Trap) : Act.Ends trap.release s (Keeps s) (fun _ _ => True) :=
  keeps_then s (keeps_driver s (Driver.keeps_set_event _ _)) fun answer t _ => keeps_note_failure t _ answer

theorem keeps_session {α : Type} {act : Act (CounterSession Backend) α}
    (quiet : ∀ session, Act.Ends act session (fun shown _ _ => Quiet shown) (fun _ _ => False)) :
    Act.Ends (Act.on sessionPart act) s (Keeps s) (fun _ _ => True) := by
  refine keeps_quiet s ?_
  rw [Act.ends_on]
  exact Act.ends_mono (quiet _) (fun _ _ _ still => ⟨still, rfl, rfl⟩) (fun _ _ never => never)

theorem keeps_trap_cycle {α : Type} (trap : Trap) {inside : Act Sampler α}
    (kept : ∀ t, Act.Ends inside t (Keeps t) (fun _ _ => True)) :
    Act.Ends (trap.cycle inside) s
      (fun shown answer next => Keeps s shown answer next ∧ answer.2.events = trap.events) (fun _ _ => True) := by
  simp only [Trap.cycle, Act.ends_bind, Act.ends_note, Act.ends_pure]
  refine Act.ends_mono (keeps_acquire s trap) ?_ (fun _ _ _ => trivial)
  rintro shown _ first ⟨calls, buffers, events⟩
  refine Act.ends_mono (kept first) ?_ (fun _ _ _ => trivial)
  rintro later answer second ⟨more, same, also⟩
  refine Act.ends_mono (keeps_release second trap) ?_ (fun _ _ _ => trivial)
  rintro last _ third ⟨silent, still, too⟩
  refine ⟨⟨?_, still.trans (same.trans buffers), too.trans (also.trans events)⟩, by simp⟩
  simp [calls, more, silent, Event.trapCall?]

theorem keeps_cycle : Act.Ends cycle s (Keeps s) (fun _ _ => True) := by
  simp only [cycle, Act.ends_bind, Act.ends_get]
  refine Act.ends_mono
    (keeps_trap_cycle s s.trap fun t => keeps_session t CounterSession.ends_sample_now) ?_ (fun _ _ _ => trivial)
  rintro shown ⟨latched, trap⟩ first ⟨⟨calls, buffers, _⟩, events⟩
  simp only [Act.ends_modify]
  have kept : Keeps s shown () { first with trap := trap, sampled := first.sampled + 1 } := ⟨calls, buffers, events⟩
  split
  · refine Act.ends_mono (keeps_session _ CounterSession.ends_read_all) ?_ (fun _ _ _ => trivial)
    rintro later counters next ⟨more, same, also⟩
    exact ⟨by simp [calls, more], same.trans kept.2.1, also.trans kept.2.2⟩
  · exact ⟨by simpa using calls, kept.2⟩

theorem keeps_report (workload : Workload) (labels : Labels) (counters : List Reading) :
    Act.Ends (report workload labels counters) s (Keeps s) (fun _ _ => True) := by
  unfold report
  split
  · rw [Act.ends_on]
    refine Act.ends_mono (Sender.ends_emit _ _) ?_ (fun _ _ _ => trivial)
    rintro shown _ next ⟨failed, rest, rfl, notes⟩
    exact ⟨by simp [quiet_trap_calls (quiet_notes notes), Event.trapCall?], rfl, rfl⟩
  · exact ⟨rfl, rfl, rfl⟩

theorem keeps_visit (visited : Visit) : Act.Ends (visit visited) s (Keeps s) (fun _ _ => True) := by
  have whole (workload : Workload) (labels : Labels) :
      Act.Ends (sample workload labels) s (Keeps s) (fun _ _ => True) :=
    keeps_then s (keeps_cycle s) fun counters t _ => keeps_report t workload labels counters
  have resumed (pass : Option RenderPass) (labels : Labels) :
      Act.Ends (sampleContinuation pass labels) s (Keeps s) (fun _ _ => True) := by
    refine keeps_then s (keeps_cycle s) fun counters t _ => ?_
    cases pass with
    | none => exact ⟨rfl, rfl, rfl⟩
    | some pass => exact keeps_report t _ labels counters
  unfold visit
  split
  · split
    · exact whole _ _
    · exact ⟨rfl, rfl, rfl⟩
  · split
    · exact resumed _ _
    · exact ⟨rfl, rfl, rfl⟩
  · exact whole _ _

theorem keeps_run (cursor : Cursor) (stream : Stream) :
    Act.Ends (cursor.run visit stream) s (Keeps s) (fun _ _ => True) := by
  induction stream generalizing cursor s with
  | nil => exact ⟨rfl, rfl, rfl⟩
  | cons record rest ih =>
    refine keeps_then s ⟨rfl, rfl, rfl⟩ fun _ t _ => ?_
    have checked : Act.Ends (Act.check (cursor.step record)) t (Keeps t) (fun _ _ => True) := by
      rw [Act.ends_check]
      exact ⟨fun _ _ => ⟨rfl, rfl, rfl⟩, fun _ _ => trivial⟩
    refine keeps_then t checked fun met u _ => ?_
    exact keeps_then u (keeps_visit u met.1) fun _ v _ => ih v met.2

theorem keeps_run_streams (queue : Queue) (streams : List Stream) :
    Act.Ends (queue.runStreams visit streams) s (Keeps s) (fun _ _ => True) := by
  induction streams generalizing queue s with
  | nil => exact ⟨rfl, rfl, rfl⟩
  | cons stream rest ih =>
    have ran : Act.Ends (queue.runStream visit stream) s (Keeps s) (fun _ _ => True) :=
      keeps_then s (keeps_run s queue.cursor stream) fun _ _ _ => ⟨rfl, rfl, rfl⟩
    exact keeps_then s ran fun next t _ => ih t next

end Sampler

namespace DeviceScope

open ProfiledDevice

def Keeps {α : Type} (s : DeviceScope) (shown : List Event) (_ : α) (next : DeviceScope) : Prop :=
  Event.trapCalls shown = [] ∧ next.device.trapEvents = s.device.trapEvents ∧ SameBuffers s.device next.device

variable (s : DeviceScope)

theorem keeps_pure {α : Type} (x : α) : Act.Ends (pure x) s (Keeps s) (fun _ _ => True) :=
  ⟨rfl, rfl, rfl, rfl, fun _ => rfl⟩

theorem keeps_then {α β : Type} {act : Act DeviceScope α} {next : α → Act DeviceScope β}
    (first : Act.Ends act s (Keeps s) (fun _ _ => True))
    (second : ∀ x t, Act.Ends (next x) t (Keeps t) (fun _ _ => True)) :
    Act.Ends (act >>= next) s (Keeps s) (fun _ _ => True) := by
  rw [Act.ends_bind]
  refine Act.ends_mono first ?_ (fun _ _ _ => trivial)
  rintro shown x middle ⟨calls, events, same⟩
  refine Act.ends_mono (second x middle) ?_ (fun _ _ _ => trivial)
  rintro later y last ⟨more, also, still⟩
  exact ⟨by simp [calls, more], also.trans events, same_trans same still⟩

theorem keeps_aside {α : Type} {act : Act DeviceScope α} {bad : List Event → Halt → Prop}
    (ends : Act.Ends act s (fun shown _ next => Quiet shown ∧ Aside s next) bad) :
    Act.Ends act s (Keeps s) (fun _ _ => True) := by
  refine Act.ends_mono ends ?_ (fun _ _ _ => trivial)
  rintro shown _ next ⟨quiet, aside⟩
  exact ⟨quiet_trap_calls quiet, by rw [trapEvents, trapEvents, aside.trap], same_aside aside⟩

theorem keeps_queue_submit (raw : RawQueue) (batches : List (List RawBuffer)) :
    Act.Ends (Act.on driverPart (Driver.queueSubmit raw batches)) s (Keeps s) (fun _ _ => True) := by
  rw [Act.ends_on]
  refine Act.ends_mono (Driver.keeps_queue_submit _ raw batches) ?_ (fun _ _ _ => trivial)
  rintro shown _ next ⟨calls, same⟩
  exact ⟨calls, rfl, rfl, rfl, fun buffer => congrArg (fun held => (List.lookup buffer held).getD []) same⟩

theorem keeps_replay (queue : QueueHandle) (buffers : List BufferHandle) :
    Act.Ends (replay queue buffers) s (Keeps s) (fun _ _ => True) := by
  simp only [replay, Act.ends_bind, Act.ends_get]
  cases held : s.device.trap with
  | none => exact keeps_pure s _
  | some trap =>
    simp only [Registry.replay, Act.ends_on, Act.ends_bind, Act.ends_get]
    cases ((samplingPart trap).get s).1.queue queue with
    | error error => exact ⟨rfl, by simp [trapEvents, samplingPart, held], rfl, rfl, fun _ => rfl⟩
    | ok tracked =>
      cases ((samplingPart trap).get s).1.streams buffers with
      | error error => exact ⟨rfl, by simp [trapEvents, samplingPart, held], rfl, rfl, fun _ => rfl⟩
      | ok streams =>
        simp only [Act.ends_bind, Act.ends_on, Act.ends_modify, Act.ends_get, Act.ends_note, Act.ends_pure]
        refine Act.ends_mono (Sampler.keeps_run_streams _ tracked.noteSubmit streams) ?_ (fun _ _ _ => trivial)
        rintro shown done next ⟨calls, kept, events⟩
        refine ⟨by simp [calls, Event.trapCall?], ?_, rfl, rfl,
          fun buffer => congrArg (fun held => (List.lookup buffer held).getD []) kept⟩
        have same : next.trap.events = trap.events := events
        simp [trapEvents, samplingPart, Part.second, held, same]

theorem keeps_replay_if (wanted : Bool) (queue : QueueHandle) (buffers : List BufferHandle) :
    Act.Ends (replayIf wanted queue buffers) s (Keeps s) (fun _ _ => True) := by
  cases wanted with
  | false => exact keeps_pure s _
  | true =>
    refine keeps_then s (keeps_replay s queue buffers) fun answer t => ?_
    cases answer with
    | ok _ => exact keeps_pure t _
    | error error => exact ⟨rfl, rfl, rfl, rfl, fun _ => rfl⟩

theorem keeps_submit (policy : ReplayPolicy) (queue : QueueHandle) (raw : RawQueue)
    (batches : List (List RawBuffer)) (buffers : List BufferHandle) (endsFrame : Bool) :
    Act.Ends (submit policy queue raw batches buffers endsFrame) s (Keeps s) (fun _ _ => True) := by
  refine keeps_then s (keeps_aside s (ends_note_submit s)) fun _ t => ?_
  refine keeps_then t (keeps_pure t t) fun u v => ?_
  refine keeps_then v (keeps_aside v (ends_advance_if v endsFrame)) fun transition w => ?_
  refine keeps_then w (keeps_pure w w) fun x y => ?_
  dsimp only
  split
  · refine keeps_then y (keeps_aside y (ends_finish_if_any y transition)) fun _ z => ?_
    exact keeps_queue_submit z raw batches
  · refine keeps_then y (keeps_queue_submit y raw batches) fun result z => ?_
    refine keeps_then z (keeps_replay_if z _ queue buffers) fun _ a => ?_
    exact keeps_then a (keeps_aside a (ends_finish_if_any a transition)) fun _ b => keeps_pure b result

theorem moves_submit (sound : s.device.registry.Sound s.device.isProfiling) (id : DeviceId) (queue : QueueHandle)
    (submissions : List Submission) :
    Act.Ends
      (do let registry := (← Act.get).device.registry
          match registry.queue queue with
          | .error error => pure (.error error)
          | .ok tracked =>
            match Submission.resolve id registry submissions with
            | .error error => pure (.error error)
            | .ok (batches, buffers) =>
              DeviceScope.submit ProfiledDevice.needsReplay queue tracked.raw batches buffers
                (submissions.any (·.endsFrame))) s
      (Moved id (.submit ⟨id, queue⟩ submissions) (fun _ => .done) s) (fun _ _ => True) := by
  have moved {α : Type} {act : Act DeviceScope (Except Error α)} (reply : α → LayerReply)
      (ends : Act.Ends act s (Keeps s) (fun _ _ => True)) :
      Act.Ends act s (Moved id (.submit ⟨id, queue⟩ submissions) reply s) (fun _ _ => True) := by
    refine Act.ends_mono ends ?_ (fun _ _ _ => trivial)
    rintro shown answer next ⟨calls, events, same⟩
    refine ⟨.submitted queue submissions shown _ _ calls events same, sound_same same ?_ sound⟩
    have profiling := congrArg Option.isSome events
    simpa [trapEvents, isProfiling] using profiling
  refine moved _ ?_
  simp only [Act.ends_bind, Act.ends_get]
  split
  · exact keeps_pure s _
  · split
    · exact keeps_pure s _
    · exact keeps_submit s _ _ _ _ _ _

end DeviceScope

end GpuProfiler
