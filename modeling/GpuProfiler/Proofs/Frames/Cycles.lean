import GpuProfiler.Proofs.Device.Frames
import GpuProfiler.Proofs.Frames.Beats
import GpuProfiler.Proofs.Trap.Replay

set_option autoImplicit false

namespace GpuProfiler

-- What an attempt to sample shows. The empty backend is asked like any other and shows nothing.
def Backend.attempt : Backend → Bool → List Beat
  | .empty, _ => []
  | .scripted _, failed => [.sampled failed]

theorem Sender.beats_emit (message : Message) :
    Act.Beats (Sender.emit message : Act (Sender ShowingEndpoint) Unit) [message.beat] := by
  intro sender
  refine Act.ends_mono (Sender.ends_emit message sender) ?_ (fun _ _ _ => trivial)
  intro shown _ _ done
  obtain ⟨failed, rest, rfl, notes⟩ := done
  rw [Event.beats_cons, Event.beats_notes notes]
  rfl

namespace CounterSession

def attempts (session : CounterSession Backend) : Nat := session.stats.samples + session.stats.failedSamples

theorem ends_sample_now_beats (session : CounterSession Backend) :
    Act.Ends sampleNow session
      (fun shown latched next => Event.beats shown = session.backend.attempt (!latched) ∧
        next.attempts = session.attempts + 1)
      (fun _ _ => True) := by
  obtain ⟨backend, active, stats⟩ := session
  simp only [sampleNow, Act.ends_bind, Act.ends_on]
  have asked : Act.Ends (CounterBackend.sampleNow : Act Backend (Except Error Unit)) backend
      (fun shown answer _ => Event.beats shown = backend.attempt (!answer.isOk)) (fun _ _ => True) := by
    cases backend with
    | empty => exact rfl
    | scripted inner =>
      cases failing : inner.script.failing.lookup inner.attempts <;>
        simp [Act.Ends, CounterBackend.sampleNow, Backend.ask, ScriptedBackend.sampleNow, bind, Act.bind, Act.get, Act.set,
          Act.emit, Pure.pure, Act.pure, failing, Event.beat?, Backend.attempt, Except.isOk, Except.toBool]
  refine Act.ends_mono asked ?_ (fun _ _ _ => trivial)
  intro shown answer _ beats
  cases answer with
  | ok done =>
    simp only [countStats, Act.ends_bind, Act.ends_modify, Act.ends_pure]
    exact ⟨by simpa [backendPart, Except.isOk, Except.toBool] using beats, Nat.add_right_comm _ _ _⟩
  | error error =>
    simp only [countStats, Act.ends_bind, Act.ends_note, Act.ends_modify, Act.ends_pure]
    exact ⟨by simpa [Event.beat?, backendPart, Except.isOk, Except.toBool] using beats, rfl⟩

theorem keeping_read_one (counter : Counter) : Act.Keeping attempts (readOne counter) [] := by
  have hushed : Act.Hushed (CounterBackend.read counter.id : Act Backend (Except Error CounterValue)) := by
    intro backend
    cases backend <;> exact rfl
  refine Act.keeping_then (Act.keeping_on (fun _ _ => rfl) hushed) fun answer => ?_
  cases answer with
  | error error => exact fun _ => ⟨rfl, rfl⟩
  | ok value =>
    by_cases typed : value.kind = counter.kind
    · simp only [typed, if_true]
      exact Act.keeping_pure _
    · simp only [typed, if_false]
      exact fun _ => ⟨rfl, rfl⟩

theorem keeping_read_each (counters : List Counter) : Act.Keeping attempts (readEach counters) [] := by
  induction counters with
  | nil => exact Act.keeping_pure _
  | cons counter rest ih =>
    exact Act.keeping_then (keeping_read_one counter) fun _ => Act.keeping_then ih fun _ => Act.keeping_pure _

theorem keeping_read_all : Act.Keeping attempts readAll [] :=
  Act.keeping_bind Act.keeping_get fun session => keeping_read_each session.active

inductive Reads (session : CounterSession Backend) : Bool → List Reading → CounterSession Backend → Prop
  | latched (shown : List Event) (counters : List Reading) (next : CounterSession Backend)
      (ran : readAll session = ⟨shown, .ok (counters, next)⟩) : Reads session true counters next
  | missed : Reads session false [] session

theorem reads_attempts {session next : CounterSession Backend} {latched : Bool} {counters : List Reading}
    (reads : Reads session latched counters next) : next.attempts = session.attempts := by
  cases reads with
  | latched shown _ _ ran => exact (Act.ends_of_ok (keeping_read_all session) ran).2
  | missed => rfl

inductive Cycles : CounterSession Backend → Nat → List Beat → CounterSession Backend → Prop
  | none (session : CounterSession Backend) : Cycles session 0 [] session
  | cycle (session middle next last : CounterSession Backend) (latch : List Event) (latched : Bool)
      (counters : List Reading) (told : Option Message) (count : Nat) (beats : List Beat)
      (tried : sampleNow session = ⟨latch, .ok (latched, middle)⟩) (read : Reads middle latched counters next)
      (message : ∀ work, told = some work → ∃ labels metadata, work = .workload labels counters metadata)
      (onward : Cycles next count beats last) :
      Cycles session (count + 1)
        (.acquired :: (session.backend.attempt (!latched) ++ .released :: (told.toList.map .worked ++ beats))) last

variable {session middle last : CounterSession Backend} {count more : Nat} {beats others : List Beat}

theorem cycles_append (first : Cycles session count beats middle) (second : Cycles middle more others last) :
    Cycles session (count + more) (beats ++ others) last := by
  induction first with
  | none => rwa [Nat.zero_add]
  | cycle session middle next _ latch latched counters told count beats tried read message _ ih =>
    have onward := Cycles.cycle session middle next last latch latched counters told (count + more) (beats ++ others)
      tried read message (ih second)
    rw [Nat.add_right_comm]
    simpa using onward

theorem cycles_attempts (cycles : Cycles session count beats last) : last.attempts = session.attempts + count := by
  induction cycles with
  | none => rfl
  | cycle session middle next last latch latched counters told count beats tried read _ _ ih =>
    have once := (Act.ends_of_ok (ends_sample_now_beats session) tried).2
    rw [ih, reads_attempts read, once]
    omega

end CounterSession

namespace Sampler

open Act

def Advances (s : Sampler) (shown : List Event) (next : Sampler) : Prop :=
  ∃ count, s.session.Cycles count (Event.beats shown) next.session ∧ next.trap.cycles = s.trap.cycles + count

variable {α β : Type}

theorem advances_then {act : Act Sampler α} {next : α → Act Sampler β} {s : Sampler}
    (first : Ends act s (fun shown _ t => Advances s shown t) (fun _ _ => True))
    (second : ∀ x t, Ends (next x) t (fun shown _ u => Advances t shown u) (fun _ _ => True)) :
    Ends (act >>= next) s (fun shown _ u => Advances s shown u) (fun _ _ => True) := by
  rw [ends_bind]
  refine ends_mono first ?_ (fun _ _ _ => trivial)
  intro shown x t done
  obtain ⟨count, cycles, here⟩ := done
  refine ends_mono (second x t) ?_ (fun _ _ _ => trivial)
  intro later _ u done
  obtain ⟨more, others, there⟩ := done
  refine ⟨count + more, ?_, by rw [there, here, Nat.add_assoc]⟩
  rw [Event.beats_append]
  exact CounterSession.cycles_append cycles others

def kept (s : Sampler) : CounterSession Backend × Trap := (s.session, s.trap)

theorem advances_kept {act : Act Sampler α} (keeping : Keeping kept act []) (s : Sampler) :
    Ends act s (fun shown _ t => Advances s shown t) (fun _ _ => True) := by
  refine ends_mono (keeping s) ?_ (fun _ _ _ => trivial)
  intro shown _ t done
  obtain ⟨silent, same⟩ := done
  obtain ⟨session, trap⟩ := Prod.mk.inj same
  refine ⟨0, ?_, by rw [show t.trap = s.trap from trap]; rfl⟩
  rw [silent, show t.session = s.session from session]
  exact .none _

theorem keeping_await (event : RawEvent) (patience : Nat) :
    Keeping kept (Trap.await event patience : Act Sampler Unit) [] := by
  induction patience with
  | zero => exact fun _ => trivial
  | succ patience ih =>
    refine keeping_then (keeping_on (fun _ _ => rfl) (Driver.hushed_event_status event)) fun answer => ?_
    cases answer with
    | error error => exact keeping_bind (keeping_note _) fun _ => ih
    | ok status =>
      cases status with
      | set => exact keeping_pure ()
      | unset => exact ih

theorem keeping_acquire (trap : Trap) : Keeping kept (trap.acquire : Act Sampler Unit) [.acquired] :=
  keeping_bind keeping_get fun _ => keeping_bind (keeping_await _ _) fun _ =>
    keeping_then (keeping_on (fun _ _ => rfl) (Driver.beats_reset_event _)) fun answer =>
      keeping_note_failure _ answer

theorem keeping_release (trap : Trap) : Keeping kept (trap.release : Act Sampler Unit) [.released] :=
  keeping_then (keeping_on (fun _ _ => rfl) (Driver.beats_set_event _)) fun answer =>
    keeping_note_failure _ answer

theorem ends_cycle_beats (s : Sampler) :
    Ends cycle s
      (fun shown counters next => ∃ latch latched middle,
        CounterSession.sampleNow s.session = ⟨latch, .ok (latched, middle)⟩ ∧
        middle.Reads latched counters next.session ∧
        Event.beats shown = .acquired :: (s.session.backend.attempt (!latched) ++ [.released]) ∧
        next.trap.cycles = s.trap.cycles + 1)
      (fun _ _ => True) := by
  simp only [cycle, Trap.cycle, ends_bind, ends_get, ends_pure, ends_note, ends_modify]
  refine ends_mono (keeping_acquire s.trap s) ?_ (fun _ _ _ => trivial)
  intro shown _ first done
  obtain ⟨acquired, same⟩ := done
  obtain ⟨session, trap⟩ := Prod.mk.inj same
  rw [ends_on]
  have sampled := CounterSession.ends_sample_now_beats first.session
  refine ends_mono (ends_and (ends_self _ _) sampled) ?_ (fun _ _ _ => trivial)
  intro latch latched middle done
  obtain ⟨tried, attempt, _⟩ := done
  refine ends_mono (keeping_release s.trap _) ?_ (fun _ _ _ => trivial)
  intro later _ second done
  obtain ⟨released, still⟩ := done
  obtain ⟨held, _⟩ := Prod.mk.inj still
  have tried : CounterSession.sampleNow s.session = ⟨latch, .ok (latched, middle)⟩ := by
    rw [← show first.session = s.session from session]
    exact tried
  have beats : Event.beats latch = s.session.backend.attempt (!latched) := by
    rw [attempt, show first.session = s.session from session]
  have middle_held : second.session = middle := held
  cases latched with
  | false =>
    refine ⟨latch, false, middle, tried, ?_, ?_, rfl⟩
    · rw [show second.session = middle from middle_held]
      exact .missed
    · simp [acquired, released, beats, Event.beat?]
  | true =>
    simp only [if_true, ends_on]
    refine ends_mono (ends_and (ends_self _ _) (CounterSession.keeping_read_all _)) ?_ (fun _ _ _ => trivial)
    intro reads counters next done
    obtain ⟨ran, hushed, _⟩ := done
    refine ⟨latch, true, middle, tried, ?_, ?_, rfl⟩
    · rw [← middle_held]
      exact .latched reads counters next ran
    · simp [acquired, released, beats, hushed, Event.beat?]

theorem advances_cycle {told : List Reading → Act Sampler Unit}
    (tells : ∀ counters, ∃ message : Option Message,
      (∀ work, message = some work → ∃ labels metadata, work = .workload labels counters metadata) ∧
        Keeping kept (told counters) (message.toList.map .worked)) (s : Sampler) :
    Ends (cycle >>= told) s (fun shown _ t => Advances s shown t) (fun _ _ => True) := by
  rw [ends_bind]
  refine ends_mono (ends_cycle_beats s) ?_ (fun _ _ _ => trivial)
  intro shown counters first done
  obtain ⟨latch, latched, middle, tried, reads, beats, cycles⟩ := done
  obtain ⟨message, known, keeping⟩ := tells counters
  refine ends_mono (keeping first) ?_ (fun _ _ _ => trivial)
  intro later _ next done
  obtain ⟨worked, same⟩ := done
  obtain ⟨session, trap⟩ := Prod.mk.inj same
  refine ⟨1, ?_, by rw [show next.trap = first.trap from trap, cycles]⟩
  have once := CounterSession.Cycles.cycle s.session middle first.session next.session latch latched counters message 0 []
    tried reads known (by rw [show next.session = first.session from session]; exact .none _)
  rw [Event.beats_append, beats, worked]
  simpa using once

theorem report_tells (workload : Workload) (labels : Labels) (counters : List Reading) :
    ∃ message : Option Message,
      (∀ work, message = some work → ∃ labels metadata, work = .workload labels counters metadata) ∧
        Keeping kept (report workload labels counters) (message.toList.map .worked) := by
  refine ⟨Message.ofWorkload? workload labels counters, ?_, ?_⟩
  · intro work told
    obtain ⟨metadata, _, rfl⟩ := Option.map_eq_some_iff.mp told
    exact ⟨labels, metadata, rfl⟩
  · unfold report
    split
    · next message told =>
      obtain ⟨metadata, _, rfl⟩ := Option.map_eq_some_iff.mp told
      rw [told]
      exact keeping_on (fun _ _ => rfl) (Sender.beats_emit _)
    · next untold =>
      rw [untold]
      exact keeping_pure ()

theorem advances_visit (visited : Visit) (s : Sampler) :
    Ends (visit visited) s (fun shown _ t => Advances s shown t) (fun _ _ => True) := by
  have whole (workload : Workload) (labels : Labels) :
      Ends (sample workload labels) s (fun shown _ t => Advances s shown t) (fun _ _ => True) :=
    advances_cycle (report_tells workload labels) s
  have resumed (pass : Option RenderPass) (labels : Labels) :
      Ends (sampleContinuation pass labels) s (fun shown _ t => Advances s shown t) (fun _ _ => True) := by
    refine advances_cycle (fun counters => ?_) s
    cases pass with
    | none => exact ⟨none, fun _ never => (nomatch never), keeping_note _⟩
    | some pass => exact report_tells (completed pass) labels counters
  have passed : Ends (Pure.pure () : Act Sampler Unit) s (fun shown _ t => Advances s shown t) (fun _ _ => True) :=
    advances_kept (keeping_pure ()) s
  unfold visit
  split
  · split
    · exact whole _ _
    · exact passed
  · split
    · exact resumed _ _
    · exact passed
  · exact whole _ _

theorem advances_run (cursor : Cursor) (stream : Stream) (s : Sampler) :
    Ends (cursor.run visit stream) s (fun shown _ t => Advances s shown t) (fun _ _ => True) := by
  induction stream generalizing cursor s with
  | nil => exact advances_kept (keeping_pure cursor) s
  | cons record rest ih =>
    refine advances_then (advances_kept (keeping_note _) s) fun _ t => ?_
    have checked : Keeping kept (check (cursor.step record) : Act Sampler (Visit × Cursor)) [] := by
      intro u
      rw [ends_check]
      exact ⟨fun _ _ => ⟨rfl, rfl⟩, fun _ _ => trivial⟩
    refine advances_then (advances_kept checked t) fun met u => ?_
    exact advances_then (advances_visit met.1 u) fun _ v => ih met.2 v

theorem advances_run_streams (queue : Queue) (streams : List Stream) (s : Sampler) :
    Ends (queue.runStreams visit streams) s (fun shown _ t => Advances s shown t) (fun _ _ => True) := by
  induction streams generalizing queue s with
  | nil => exact advances_kept (keeping_pure queue) s
  | cons stream rest ih =>
    refine advances_then ?_ fun next t => ih next t
    exact advances_then (advances_run queue.cursor stream s) fun _ t => advances_kept (keeping_pure _) t

end Sampler

end GpuProfiler
