import GpuProfiler.Proofs.Eager.Agreement
import GpuProfiler.Proofs.Frames.Cycles
import GpuProfiler.Proofs.Replay.Chains
import GpuProfiler.Proofs.Transparency.View
import GpuProfiler.Proofs.Without

set_option autoImplicit false

namespace GpuProfiler

namespace Sampler

def tell : Option Message → Act Sampler Unit
  | some message => Act.on senderPart (Sender.emit message)
  | none => pure ()

def sampleVisit (visited : Visit) : Act Sampler Unit := do
  let counters ← cycle
  tell (visited.message? counters)

def sampleEach : List Visit → Act Sampler Unit
  | [] => pure ()
  | visited :: rest => do
    sampleVisit visited
    sampleEach rest

end Sampler

namespace CounterSession

-- Whole cycles of a trap, one for each of some visits, in order: the device is acquired, the counters
-- are latched once, the device is released, and then what is due of the visit is told, with the
-- counters that were read.
inductive SampledAll : CounterSession Backend → List Visit → List Beat → CounterSession Backend → Prop
  | none (session : CounterSession Backend) : SampledAll session [] [] session
  | visit (session middle next last : CounterSession Backend) (latch : List Event) (latched : Bool)
      (counters : List Reading) (visited : Visit) (rest : List Visit) (beats : List Beat)
      (tried : sampleNow session = ⟨latch, .ok (latched, middle)⟩) (read : Reads middle latched counters next)
      (onward : SampledAll next rest beats last) :
      SampledAll session (visited :: rest)
        (.acquired :: (session.backend.attempt (!latched) ++
          .released :: ((visited.message? counters).toList.map Message.beat ++ beats))) last

end CounterSession

open Act Event

def Queue.bare (queue : Queue) : Queue := .new queue.raw queue.family queue.index

namespace Registry

def bare (registry : Registry) : Registry := { registry with queues := registry.queues.map Queue.bare }

theorem queue_bare (registry : Registry) (handle : QueueHandle) :
    registry.bare.queue handle = (registry.queue handle).map Queue.bare := by
  have found := Arena.get_map Queue.bare registry.queues handle
  simp only [queue, bare]
  rw [show (registry.queues.map Queue.bare).get? handle = (registry.queues.get? handle).map Queue.bare from found]
  cases registry.queues.get? handle <;> rfl

theorem streams_bare (registry : Registry) (handles : List BufferHandle) :
    registry.bare.streams handles = registry.streams handles := by
  induction handles with
  | nil => rfl
  | cons handle rest ih =>
    rw [streams, streams, ih]
    rfl

theorem raws_bare (registry : Registry) (handles : List BufferHandle) : registry.bare.raws handles = registry.raws handles := by
  induction handles with
  | nil => rfl
  | cons handle rest ih =>
    rw [raws, raws, ih]
    rfl

theorem set_queue_bare (registry : Registry) (handle : QueueHandle) (queue : Queue) :
    (registry.setQueue handle queue).bare = registry.bare.setQueue handle queue.bare := by
  simp only [bare, setQueue, Arena.set_map]
  rfl

theorem set_queue_kept {registry : Registry} {handle : QueueHandle} {queue tracked : Queue}
    (held : registry.queue handle = .ok tracked) (same : queue.bare = tracked.bare) :
    (registry.setQueue handle queue).bare = registry.bare := by
  have found : registry.bare.queues.get? handle = some queue.bare := by
    have read := registry.queue_bare handle
    rw [held, Registry.queue] at read
    split at read
    · next other here =>
      rw [here, same, Except.ok.inj read]
    · cases read
  rw [set_queue_bare, setQueue, Arena.set_same found]

end Registry

theorem Event.beats_deeds {shown told : List Event} (same : shown.filter isDeed = told.filter isDeed) :
    beats shown = beats told := by
  have deeds (shown : List Event) : beats (shown.filter isDeed) = beats shown := by
    induction shown with
    | nil => rfl
    | cons event rest ih =>
      cases event with
      | note noticed => exact ih
      | _ =>
        rw [List.filter_cons_of_pos rfl, beats_cons, beats_cons, ih]
  rw [← deeds shown, ← deeds told, same]

namespace Visit

-- A part of a pass, and it is not known of which.
def Unresolved (visited : Visit) : Prop :=
  (∃ part, visited.record.workload = .continuation part) ∧ visited.resumed = none

theorem message_none (visited : Visit) (counters : List Reading) : visited.message? counters = none ↔ visited.Unresolved := by
  obtain ⟨⟨workload, labels⟩, resumed⟩ := visited
  cases workload with
  | continuation part =>
    cases resumed <;>
      simp [message?, reported, Unresolved, Message.ofWorkload?, Metadata.ofWorkload?, Sampler.completed]
  | _ => simp [message?, reported, Unresolved, Message.ofWorkload?, Metadata.ofWorkload?]

end Visit

namespace Sampler

theorem agrees_visit {visited : Visit} (traps : visited.record.traps = true) (s : Sampler) :
    Ran.Agrees [isDeed] id (visit visited s) (sampleVisit visited s) := by
  have reports (workload : Workload) (labels : Labels) : sample workload labels =
      (do let counters ← cycle; tell (Message.ofWorkload? workload labels counters)) := rfl
  obtain ⟨⟨workload, labels⟩, resumed⟩ := visited
  cases workload with
  | renderPass pass =>
    have parked : pass.trapped = true := traps
    simp only [visit, parked, if_true, reports]
    exact Ran.agrees_refl _
  | continuation part =>
    have parked : part.trapped = true := traps
    simp only [visit, parked, if_true]
    cases resumed with
    | some pass =>
      rw [show sampleContinuation (some pass) labels = sample (completed pass) labels from rfl, reports]
      exact Ran.agrees_refl _
    | none =>
      refine agrees_bind (Ran.agrees_refl _) fun counters u v same => ?_
      obtain rfl : u = v := same
      exact ⟨fun kind member => by rw [List.mem_singleton.mp member]; rfl, rfl⟩
  | _ =>
    simp only [visit, reports]
    exact Ran.agrees_refl _

theorem agrees_run {cursor last : Cursor} {stream : Stream} {visits : List Visit}
    (ran : cursor.visits stream = .ok (visits, last)) (s : Sampler) :
    Ran.Agrees [isDeed] id (cursor.run visit stream s)
      ((do sampleEach (visits.filter (·.record.traps)); return last) s) := by
  induction stream generalizing cursor visits s with
  | nil =>
    cases ran
    exact Ran.agrees_refl _
  | cons record rest ih =>
    obtain ⟨visited, next, others, stepped, onward, rfl⟩ := Cursor.visits_cons_ok ran
    have noted : Ends (Act.note (.replaying record.workload)) s
        (fun shown _ u => (∀ kind ∈ [isDeed], shown.filter kind = []) ∧ u = s) (fun _ _ => False) :=
      ⟨fun kind member => by rw [List.mem_singleton.mp member]; rfl, rfl⟩
    have checked : (Act.check (cursor.step record) : Act Sampler (Visit × Cursor)) = Pure.pure (visited, next) := by
      rw [stepped]
      rfl
    rw [Cursor.run, checked]
    refine agrees_aside noted fun _ u same => ?_
    subst same
    rw [pure_bind]
    cases traps : visited.record.traps with
    | true =>
      have kept : (visited :: others).filter (·.record.traps) = visited :: others.filter (·.record.traps) :=
        List.filter_cons_of_pos traps
      rw [kept, sampleEach, bind_assoc]
      refine agrees_bind (agrees_visit traps u) fun _ u v same => ?_
      obtain rfl : u = v := same
      exact ih onward u
    | false =>
      have passed : (visited :: others).filter (·.record.traps) = others.filter (·.record.traps) :=
        List.filter_cons_of_neg (by simp [traps])
      rw [passed]
      have silent : Ends (visit visited) u (fun shown _ next => (∀ kind ∈ [isDeed], shown.filter kind = []) ∧ next = u)
          (fun _ _ => False) := by
        refine ends_mono (ends_visit_silent traps u) ?_ fun _ _ never => never
        intro shown _ next done
        obtain ⟨rfl, same⟩ := done
        exact ⟨fun _ _ => rfl, same⟩
      refine agrees_aside silent fun _ next same => ?_
      subst same
      exact ih onward next

theorem keeping_tell (due : Option Message) : Keeping kept (tell due) (due.toList.map Message.beat) := by
  cases due with
  | none => exact keeping_pure ()
  | some message => exact keeping_on (fun _ _ => rfl) (Sender.beats_emit message)

theorem ends_sample_each (visits : List Visit) (s : Sampler) :
    Ends (sampleEach visits) s
      (fun shown _ next => s.session.SampledAll visits (beats shown) next.session ∧
        next.trap.cycles = s.trap.cycles + visits.length)
      (fun _ _ => True) := by
  induction visits generalizing s with
  | nil => exact ⟨.none s.session, rfl⟩
  | cons visited rest ih =>
    simp only [sampleEach, sampleVisit, ends_bind]
    refine ends_mono (ends_cycle_beats s) ?_ (fun _ _ _ => trivial)
    intro shown counters middle cycled
    obtain ⟨latch, latched, sampled, tried, read, shows, counted⟩ := cycled
    refine ends_mono (keeping_tell (visited.message? counters) middle) ?_ (fun _ _ _ => trivial)
    intro told _ next same
    obtain ⟨due, same⟩ := same
    obtain ⟨session, trap⟩ := Prod.mk.inj same
    refine ends_mono (ih next) ?_ (fun _ _ _ => trivial)
    intro later _ last onward
    obtain ⟨others, total⟩ := onward
    rw [show next.session = middle.session from session] at others
    rw [show next.trap = middle.trap from trap, counted] at total
    refine ⟨?_, by rw [total, List.length_cons, Nat.add_assoc, Nat.add_comm 1]⟩
    have once := CounterSession.SampledAll.visit s.session sampled middle.session last.session latch latched counters
      visited rest _ tried read others
    rw [beats_append, beats_append, shows, due]
    simpa using once

end Sampler

namespace Registry

-- A submission of live buffers to a live queue, in which no pass has more draws than a word holds.
structure Accepts (registry : Registry) (queue : QueueHandle) (buffers : List BufferHandle) : Prop where
  queued : ∃ tracked, registry.queue queue = .ok tracked
  live : ∀ handle ∈ buffers, ∃ recorder, registry.buffers.get? handle = some recorder
  fits : Stream.Fits (buffers.flatMap registry.streamOf)

variable {registry : Registry} {queue : QueueHandle} {buffers : List BufferHandle}

abbrev seen {σ : Type} (both : Registry × σ) : Registry × σ := (both.1.bare, both.2)

theorem onto_replay {σ : Type} (visitor : Visit → Act σ Unit) {tracked : Queue} {streams : List Stream}
    (held : registry.queue queue = .ok tracked) (found : registry.streams buffers = .ok streams) (s : σ) :
    (replay visitor queue buffers (registry, s)).onto seen =
      ⟨(Cursor.fresh.run visitor streams.flatten s).events, (Cursor.fresh.run visitor streams.flatten s).outcome.map
        fun done => (.ok streams.flatten.length, (registry.bare, done.2))⟩ := by
  have start : replay visitor queue buffers (registry, s) =
      (do let done ← Act.on .second (tracked.noteSubmit.runStreams visitor streams)
          Act.modify fun s => (s.1.setQueue queue done, s.2)
          return .ok streams.flatten.length : Act (Registry × σ) (Except Error Nat)) (registry, s) := by
    unfold replay
    rw [bind_of_ok (show get (registry, s) = ⟨[], .ok ((registry, s), (registry, s))⟩ from rfl)]
    simp only [held, found]
    rfl
  have fresh : tracked.noteSubmit.cursor = Cursor.fresh := rfl
  rw [start, Queue.run_streams_flatten, fresh]
  rcases ran : Cursor.fresh.run visitor streams.flatten s with ⟨shown, reason | ⟨cursor, t⟩⟩
  · simp only [Bind.bind, Act.bind, Act.on, Part.second, ran]
    rfl
  · simp only [Bind.bind, Act.bind, Act.on, Part.second, ran, Pure.pure, Act.pure, Act.modify, List.append_nil, Ran.onto,
      Except.map, seen]
    rw [set_queue_kept held]
    rfl

theorem agrees_replay {tracked : Queue} (held : registry.queue queue = .ok tracked)
    (live : ∀ handle ∈ buffers, ∃ recorder, registry.buffers.get? handle = some recorder) {visits : List Visit}
    {last : Cursor} (met : Cursor.fresh.visits (buffers.flatMap registry.streamOf) = .ok (visits, last)) (s : Sampler) :
    Ran.Agrees [isDeed] seen (replay Sampler.visit queue buffers (registry, s))
      ((do Act.on .second (Sampler.sampleEach (visits.filter (·.record.traps)))
           return .ok (buffers.flatMap registry.streamOf).length : Act (Registry × Sampler) (Except Error Nat)) (registry, s)) := by
  have replayed := onto_replay Sampler.visit held (streams_some live) s
  rw [← List.flatMap_def] at replayed
  have run := Sampler.agrees_run met s
  obtain ⟨shown, ended⟩ := Ran.mk.inj replayed
  rcases sampled : Sampler.sampleEach (visits.filter (·.record.traps)) s with ⟨told, reason | ⟨_, t⟩⟩
  · rw [bind_of_error sampled] at run
    simp only [Bind.bind, Act.bind, Act.on, Part.second, sampled]
    refine ⟨fun kind member => (congrArg (List.filter kind) shown).trans (run.shown kind member), ended.trans ?_⟩
    obtain ⟨_, halted, also⟩ | ⟨_, _, _, _, never, _⟩ := Ran.agrees_cases run
    · rw [halted, ← Except.error.inj also]
      rfl
    · cases never
  · rw [bind_of_ok sampled] at run
    simp only [Bind.bind, Act.bind, Act.on, Part.second, sampled]
    refine ⟨fun kind member => (congrArg (List.filter kind) shown).trans (run.shown kind member), ended.trans ?_⟩
    obtain ⟨_, _, never⟩ | ⟨_, u, _, ran, also, same⟩ := Ran.agrees_cases run
    · cases never
    · cases also
      have here : u = t := same
      rw [ran, here]
      rfl

theorem untrapped_records (untrapped : registry.hasTraps buffers = false) :
    ∀ record ∈ buffers.flatMap registry.streamOf, record.traps = false := by
  intro record member
  obtain ⟨handle, listed, recorded⟩ := List.mem_flatMap.mp member
  have none := List.any_eq_false.mp untrapped handle listed
  unfold streamOf at recorded
  cases held : registry.buffers.get? handle with
  | none =>
    rw [held] at recorded
    cases recorded
  | some recorder =>
    rw [held] at none recorded
    exact Bool.eq_false_iff.mpr (List.any_eq_false.mp (Bool.eq_false_iff.mpr none) record recorded)

theorem ends_sampled {act : Act Sampler Unit} {s : Sampler} {good : List Event → Unit → Sampler → Prop}
    {bad : List Event → Halt → Prop} (ends : Ends act s good bad) (count : Nat) :
    Ends (do Act.on .second act; return .ok count : Act (Registry × Sampler) (Except Error Nat)) (registry, s)
      (fun shown answer next => answer = .ok count ∧ next.1 = registry ∧ good shown () next.2) bad := by
  simp only [ends_bind, ends_on, ends_pure]
  refine ends_mono ends ?_ (fun _ _ stopped => stopped)
  intro shown _ next done
  rw [List.append_nil]
  exact ⟨trivial, rfl, done⟩

/-- What comes of a replay: the visits in which it meets its records, and what it does of them. -/
structure Replays (registry : Registry) (queue : QueueHandle) (buffers : List BufferHandle) (visits : List Visit) : Prop where
  met : ∃ last, Cursor.fresh.visits (buffers.flatMap registry.streamOf) = .ok (visits, last)
  records : visits.map (·.record) = buffers.flatMap registry.streamOf
  due : ∀ visited ∈ visits, ∀ counters, visited.message? counters = none ↔ visited.Unresolved
  does : ∀ s, Ran.Agrees [isDeed] seen (replay Sampler.visit queue buffers (registry, s))
    ((do Act.on .second (Sampler.sampleEach (visits.filter (·.record.traps)))
         return .ok (buffers.flatMap registry.streamOf).length : Act (Registry × Sampler) (Except Error Nat)) (registry, s))
  shows : ∀ s, Ends (replay Sampler.visit queue buffers) (registry, s)
    (fun shown answer next => answer = .ok (buffers.flatMap registry.streamOf).length ∧
      s.session.SampledAll (visits.filter (·.record.traps)) (beats shown) next.2.session ∧
      next.2.trap.cycles = s.trap.cycles + (visits.filter (·.record.traps)).length) (fun _ _ => True)
  passes : registry.hasTraps buffers = false → ∀ s, Ends (replay Sampler.visit queue buffers) (registry, s)
    (fun shown answer next => (∀ event ∈ shown, event.isNote = true) ∧ answer.isOk = true ∧
      next.1.bare = registry.bare ∧ next.2 = s) (fun _ _ => False)

theorem replays_accepted (accepts : registry.Accepts queue buffers) : ∃ visits, registry.Replays queue buffers visits := by
  obtain ⟨tracked, held⟩ := accepts.queued
  obtain ⟨visits, last, met, _⟩ := Cursor.visits_resolved accepts.fits
  have does := agrees_replay held accepts.live met
  refine ⟨visits, ⟨last, met⟩, Cursor.visits_records met, fun visited _ => visited.message_none, does, fun s => ?_,
    fun untrapped s => ?_⟩
  · refine ends_agrees (does s) (ends_sampled (Sampler.ends_sample_each _ s) _) ?_ (fun _ _ _ _ => trivial)
    intro shown told answer next last deeds kept done
    obtain ⟨answered, _, sampled, cycles⟩ := done
    have sampler : next.2 = last.2 := (Prod.mk.inj kept).2
    rw [sampler, beats_deeds (deeds isDeed List.mem_cons_self)]
    exact ⟨answered, sampled, cycles⟩
  · have passed : visits.filter (·.record.traps) = [] := by
      apply List.filter_eq_nil_iff.mpr
      intro visited member
      have recorded : visited.record ∈ buffers.flatMap registry.streamOf := by
        rw [← Cursor.visits_records met]
        exact List.mem_map_of_mem member
      rw [untrapped_records untrapped visited.record recorded]
      exact Bool.false_ne_true
    have agrees := does s
    rw [passed] at agrees
    refine ends_agrees agrees (ends_sampled (show Ends (Sampler.sampleEach []) s (fun shown _ next => shown = [] ∧ next = s)
      (fun _ _ => False) from ⟨rfl, rfl⟩) _) ?_ (fun _ _ _ never => never)
    intro shown told answer next last deeds kept done
    obtain ⟨rfl, here, rfl, same⟩ := done
    obtain ⟨bare, sampler⟩ := Prod.mk.inj kept
    refine ⟨?_, rfl, by rw [bare, here], sampler.trans same⟩
    intro event member
    have silent := List.filter_eq_nil_iff.mp (deeds isDeed List.mem_cons_self) event member
    simpa [isDeed] using silent

end Registry

end GpuProfiler
