import GpuProfiler.Proofs.Replay.Chains
import GpuProfiler.Proofs.Replay.Origins

set_option autoImplicit false

namespace GpuProfiler

def showAll {σ : Type} (visitor : Visit → Act σ Unit) (met : List Visit) : Act σ Unit :=
  met.forM fun visited => do
    Act.note (.replaying visited.record.workload)
    visitor visited

namespace Stream

variable {records : Stream} {record : Record}

theorem overflows_last (fits : records.Fits) (exceeds : ¬Stream.Fits (records ++ [record])) :
    ∃ start pass part, records.Suspended start records.length pass ∧ record.workload = .continuation part ∧
      part.Follows pass ∧ Word.bound ≤ records.drawsSince start records.length pass + part.drawCalls.toNat := by
  simp only [Fits, not_forall, Nat.not_lt] at exceeds
  obtain ⟨start, place, pass, part, held, continues, follows, many⟩ := exceeds
  have inside : place < (records ++ [record]).length := by
    obtain ⟨found, read, _⟩ := Option.map_eq_some_iff.mp continues
    exact (List.getElem?_eq_some_iff.mp read).1
  rw [List.length_append, List.length_singleton] at inside
  have last : place = records.length := by
    by_contra other
    have earlier : place < records.length := by omega
    rw [List.getElem?_append_left earlier] at continues
    have few := fits start place pass part ((suspended_append [record] (Nat.le_of_lt earlier)).mp held) continues follows
    rw [draws_since_append [record] earlier] at many
    exact absurd few (Nat.not_lt.mpr many)
  subst last
  have before := (suspended_append [record] (Nat.le_refl _)).mp held
  rw [List.getElem?_concat_length, Option.map_some, Option.some.injEq] at continues
  refine ⟨start, pass, part, before, continues, follows, ?_⟩
  rw [draws_since_concat before.before, Record.partDraws, continues] at many
  exact many

theorem fits_nil : Stream.Fits [] := fun _ _ _ _ _ continues => nomatch continues

theorem overflows_first (exceeds : ¬records.Fits) :
    ∃ ahead record behind, records = ahead ++ record :: behind ∧ Stream.Fits ahead ∧ ¬Stream.Fits (ahead ++ [record]) := by
  induction records using List.reverseRecOn with
  | nil => exact absurd fits_nil exceeds
  | append_singleton records record ih =>
    by_cases fits : Stream.Fits records
    · exact ⟨records, record, [], rfl, fits, exceeds⟩
    · obtain ⟨ahead, first, behind, rfl, before, beyond⟩ := ih fits
      exact ⟨ahead, first, behind ++ [record], by simp, before, beyond⟩

end Stream

namespace Cursor

variable {records ahead : Stream} {record : Record} {cursor : Cursor}

theorem step_overflows (holds : cursor.Holds records) (fits : records.Fits) (exceeds : ¬Stream.Fits (records ++ [record])) :
    cursor.step record = .error .addOverflow := by
  obtain ⟨start, pass, part, suspended, continues, follows, many⟩ := Stream.overflows_last fits exceeds
  unfold Holds at holds
  cases kept : cursor.suspended with
  | none =>
    simp only [kept] at holds
    exact absurd suspended (holds start pass)
  | some held =>
    simp only [kept] at holds
    obtain ⟨other, another, too, same, total⟩ := holds
    obtain ⟨rfl, rfl⟩ := Stream.suspended_unique suspended too
    have condition : part.origin = none ∨ part.origin = some held.tag := by
      rw [same]
      exact follows
    have added : Word.add held.drawCalls part.drawCalls = .error .addOverflow := if_neg (by omega)
    simp [step, continues, resume, kept, condition, added, Except.map]

theorem run_stops {σ : Type} (visitor : Visit → Act σ Unit) (behind : Stream) (fits : ahead.Fits)
    (exceeds : ¬Stream.Fits (ahead ++ [record])) :
    ∃ met, met.map (·.record) = ahead ∧ fresh.run visitor (ahead ++ record :: behind) = (do
      showAll visitor met
      Act.note (.replaying record.workload)
      Act.halt .addOverflow) := by
  obtain ⟨met, middle, ran, holds, _⟩ := visits_resolved fits
  refine ⟨met, visits_records ran, ?_⟩
  have stopped : (Act.check (middle.step record) : Act σ _) = Act.halt .addOverflow := by
    rw [step_overflows holds fits exceeds]
    rfl
  have onward : middle.run visitor (record :: behind) = (do
      Act.note (.replaying record.workload)
      Act.halt .addOverflow) := by
    rw [run, stopped]
    rfl
  rw [run_append, run_shows visitor ran]
  simp [onward, showAll]

end Cursor

namespace Queue

def behind (queue : Queue) (last : Cursor) (records : Stream) : Queue :=
  { queue with submits := queue.submits + 1, cursor := last, replayed := queue.replayed + records.length }

end Queue

namespace Registry

variable {registry : Registry} {queue : QueueHandle} {buffers : List BufferHandle} {tracked : Queue}

theorem replay_stale {σ : Type} (visitor : Visit → Act σ Unit) (s : σ)
    (stale : registry.queues.get? queue = none ∨ ∃ handle ∈ buffers, registry.buffers.get? handle = none) :
    replay visitor queue buffers (registry, s) = ⟨[], .ok (.error .invalidHandle, (registry, s))⟩ := by
  cases held : registry.queues.get? queue with
  | none => simp [replay, bind, Act.bind, Act.get, Registry.queue, held, Pure.pure, Act.pure]
  | some tracked =>
    have gone := streams_stale (stale.resolve_left (by simp [held]))
    simp [replay, bind, Act.bind, Act.get, Registry.queue, held, gone, Pure.pure, Act.pure]

def submitting {σ : Type} (queue : QueueHandle) (tracked : Queue) (records : Stream) (meeting : Act σ Cursor) :
    Act (Registry × σ) (Except Error Nat) := do
  let last ← Act.on .second meeting
  Act.modify fun s => (s.1.setQueue queue (tracked.behind last records), s.2)
  pure (.ok records.length)

theorem ends_submitting {σ : Type} (registry : Registry) (queue : QueueHandle) (tracked : Queue) (records : Stream)
    (meeting : Act σ Cursor) (s : σ) :
    Act.Ends meeting s
      (fun shown last t => submitting queue tracked records meeting (registry, s) =
        ⟨shown, .ok (.ok records.length, (registry.setQueue queue (tracked.behind last records), t))⟩)
      (fun shown reason => submitting queue tracked records meeting (registry, s) = ⟨shown, .error reason⟩) := by
  unfold Act.Ends
  split
  · next shown last t ran =>
    simp [submitting, bind, Act.bind, Act.on, Part.second, ran, Act.modify, Pure.pure, Act.pure]
  · next shown reason ran => simp [submitting, bind, Act.bind, Act.on, Part.second, ran]

theorem replay_live {σ : Type} (visitor : Visit → Act σ Unit) (held : registry.queues.get? queue = some tracked)
    (live : ∀ handle ∈ buffers, ∃ recorder, registry.buffers.get? handle = some recorder) (s : σ) :
    replay visitor queue buffers (registry, s) =
      submitting queue tracked (buffers.flatMap registry.streamOf)
        (Cursor.fresh.run visitor (buffers.flatMap registry.streamOf)) (registry, s) := by
  have known : registry.queue queue = .ok tracked := by rw [Registry.queue, held]
  have streams := streams_some live
  rw [List.flatMap_def]
  have runs := Queue.run_streams_flatten visitor tracked.noteSubmit (buffers.map registry.streamOf)
  have fresh : tracked.noteSubmit.cursor = .fresh := rfl
  rw [fresh] at runs
  simp only [replay, submitting, bind, Act.bind, Act.get, known, streams, Act.on, runs, Part.second]
  rcases Cursor.fresh.run visitor (buffers.map registry.streamOf).flatten s with ⟨shown, reason | ⟨last, t⟩⟩
  · rfl
  · simp [Act.modify, Pure.pure, Act.pure, Queue.behind, Queue.noteSubmit]

-- What a submission is to others: what it shows, its answer, and what the visitor is left with.
def observed {σ : Type} (ran : Ran (Registry × σ) (Except Error Nat)) : List Event × Except Halt (Except Error Nat × σ) :=
  (ran.events, ran.outcome.map fun done => (done.1, done.2.2))

theorem observed_submitting {σ : Type} (registry : Registry) (queue : QueueHandle) (tracked : Queue) (records : Stream)
    (meeting : Act σ Cursor) (s : σ) : observed (submitting queue tracked records meeting (registry, s)) =
      ((meeting s).events, (meeting s).outcome.map fun done => (.ok records.length, done.2)) := by
  have ends := ends_submitting registry queue tracked records meeting s
  unfold Act.Ends at ends
  rcases ran : meeting s with ⟨shown, reason | ⟨last, t⟩⟩
  · simp only [ran] at ends
    rw [ends]
    rfl
  · simp only [ran] at ends
    rw [ends]
    rfl

/-- A submission with a handle that leads nowhere is refused, with nothing met and nothing changed. Any other is
replayed to its end if no pass has more draws in its parts than a word holds: each record of its streams is shown once
and in order, and only its queue has changed behind it. Otherwise it stops at the first record that has too many. What
was submitted before makes no difference to what is seen. -/
theorem submissions_replay_whole_unless_draws_overflow {σ : Type} (visitor : Visit → Act σ Unit) (registry : Registry)
    (queue : QueueHandle) (buffers : List BufferHandle) (s : σ) :
    (registry.queues.get? queue = none ∨ (∃ handle ∈ buffers, registry.buffers.get? handle = none) →
        replay visitor queue buffers (registry, s) = ⟨[], .ok (.error .invalidHandle, (registry, s))⟩) ∧
      ∀ (tracked : Queue) (records : Stream), registry.queues.get? queue = some tracked →
        (∀ handle ∈ buffers, ∃ recorder, registry.buffers.get? handle = some recorder) →
        buffers.flatMap registry.streamOf = records →
        (records.Fits → ∃ (met : List Visit) (last : Cursor) (next : Registry),
          met.map (·.record) = records ∧ Cursor.fresh.visits records = .ok (met, last) ∧
          next = { registry with queues := next.queues } ∧
          (∀ other, next.queues.get? other =
            if other = queue then some (tracked.behind last records) else registry.queues.get? other) ∧
          Act.Ends (showAll visitor met) s
            (fun shown _ t => replay visitor queue buffers (registry, s) = ⟨shown, .ok (.ok records.length, (next, t))⟩)
            (fun shown reason => replay visitor queue buffers (registry, s) = ⟨shown, .error reason⟩)) ∧
        (¬records.Fits → ∃ (met : List Visit) (record : Record) (behind : Stream),
          records = met.map (·.record) ++ record :: behind ∧ Stream.Fits (met.map (·.record)) ∧
          ¬Stream.Fits (met.map (·.record) ++ [record]) ∧
          Act.Ends (showAll visitor met) s
            (fun shown _ _ => replay visitor queue buffers (registry, s) =
              ⟨shown ++ [.note (.replaying record.workload)], .error .addOverflow⟩)
            (fun shown reason => replay visitor queue buffers (registry, s) = ⟨shown, .error reason⟩)) ∧
        ∀ (other : Registry) (another : QueueHandle), (∃ queue, other.queues.get? another = some queue) →
          (∀ handle ∈ buffers, ∃ recorder, other.buffers.get? handle = some recorder) →
          buffers.flatMap other.streamOf = records →
          observed (replay visitor another buffers (other, s)) = observed (replay visitor queue buffers (registry, s)) := by
  refine ⟨replay_stale visitor s, ?_⟩
  rintro tracked records held live rfl
  have runs := replay_live visitor held live s
  have ends := ends_submitting registry queue tracked (buffers.flatMap registry.streamOf)
    (Cursor.fresh.run visitor (buffers.flatMap registry.streamOf)) s
  rw [← runs] at ends
  refine ⟨fun fits => ?_, fun exceeds => ?_, ?_⟩
  · obtain ⟨met, last, ran, _⟩ := Cursor.visits_resolved fits
    rw [Cursor.run_shows visitor ran] at ends
    refine ⟨met, last, registry.setQueue queue (tracked.behind last (buffers.flatMap registry.streamOf)),
      Cursor.visits_records ran, ran, rfl, ?_, ?_⟩
    · intro other
      by_cases same : other = queue
      · rw [if_pos same, same]
        exact Arena.get_set_here registry.queues queue tracked _ held
      · rw [if_neg same]
        exact Arena.get_set_elsewhere registry.queues queue other _ same
    · simpa [showAll] using ends
  · obtain ⟨ahead, record, behind, split, fits, beyond⟩ := Stream.overflows_first exceeds
    obtain ⟨met, same, stops⟩ := Cursor.run_stops visitor behind fits beyond
    subst same
    rw [split, stops, ← split] at ends
    refine ⟨met, record, behind, split, fits, beyond, ?_⟩
    simpa using ends
  · rintro other another ⟨queue, there⟩ also same
    rw [runs, replay_live visitor there also s, same, observed_submitting, observed_submitting]

theorem show_all_collects (met seen : List Visit) : showAll collectVisits met seen =
    ⟨met.map fun visited => .note (.replaying visited.record.workload), .ok ((), seen ++ met)⟩ := by
  induction met generalizing seen with
  | nil => simp [showAll, Pure.pure, Act.pure]
  | cons visited rest ih =>
    have onward : showAll collectVisits (visited :: rest) = (do
        Act.note (.replaying visited.record.workload)
        collectVisits visited
        showAll collectVisits rest) := by simp [showAll]
    simp [onward, bind, Act.bind, Act.note, Act.emit, collectVisits, Act.modify, ih]

end Registry

namespace Recorder

def withDraws (recorder : Recorder) (flags : RenderPassFlags) (count : UInt64) : Recorder :=
  ((recorder.behind ⟨1⟩ (.beginPass ⟨8, 8, 1, flags⟩ .capture)).behind ⟨1⟩ (.draw count)).behind ⟨1⟩ .endPass

-- A suspended pass that has as many draws as a word holds, and a part that has one more.
def brimful : Recorder := (new 5 .primary).withDraws ⟨true, false⟩ 18446744073709551615

def oneMore : Recorder := (new 6 .primary).withDraws ⟨false, true⟩ 1

end Recorder

namespace Registry

theorem overfull_pass_is_cut_short :
    let registry := holding [.brimful, .oneMore]
    replay collectVisits ⟨0, 0⟩ [⟨0, 0⟩, ⟨2, 0⟩] (registry, []) = ⟨[], .ok (.error .invalidHandle, (registry, []))⟩ ∧
      (∃ shown next met, replay collectVisits ⟨0, 0⟩ [⟨1, 0⟩, ⟨1, 0⟩] (registry, []) = ⟨shown, .ok (.ok 2, (next, met))⟩ ∧
        met.map (·.record) = Recorder.oneMore.stream ++ Recorder.oneMore.stream) ∧
      ∃ shown record, replay collectVisits ⟨0, 0⟩ [⟨0, 0⟩, ⟨1, 0⟩] (registry, []) =
        ⟨shown ++ [.note (.replaying record)], .error .addOverflow⟩ := by
  intro registry
  have queued : registry.queues.get? ⟨0, 0⟩ = some (.new 1 0 0) := rfl
  have first : registry.buffers.get? ⟨0, 0⟩ = some .brimful := rfl
  have second : registry.buffers.get? ⟨1, 0⟩ = some .oneMore := rfl
  refine ⟨?_, ?_, ?_⟩
  · have refused := (submissions_replay_whole_unless_draws_overflow collectVisits registry ⟨0, 0⟩ [⟨0, 0⟩, ⟨2, 0⟩] []).1
    exact refused (.inr ⟨⟨2, 0⟩, by simp, rfl⟩)
  · have submitted := (submissions_replay_whole_unless_draws_overflow collectVisits registry ⟨0, 0⟩ [⟨1, 0⟩, ⟨1, 0⟩] []).2
    obtain ⟨whole, _, _⟩ := submitted _ (Recorder.oneMore.stream ++ Recorder.oneMore.stream) queued (by simp [second]) rfl
    obtain ⟨met, last, next, records, _, _, _, ends⟩ := whole (Stream.fits_draws (by decide +kernel))
    have ran := Act.ends_of_ok ends (show_all_collects met [])
    exact ⟨_, next, met, ran, records⟩
  · have submitted := (submissions_replay_whole_unless_draws_overflow collectVisits registry ⟨0, 0⟩ [⟨0, 0⟩, ⟨1, 0⟩] []).2
    obtain ⟨_, stops, _⟩ := submitted _ (Recorder.brimful.stream ++ Recorder.oneMore.stream) queued
      (by simp [first, second]) rfl
    have exceeds : ¬Stream.Fits (Recorder.brimful.stream ++ Recorder.oneMore.stream) := by
      intro fits
      obtain ⟨met, last, ran, _⟩ := Cursor.visits_resolved fits
      have stopped : (Cursor.fresh.visits (Recorder.brimful.stream ++ Recorder.oneMore.stream)).isOk = false := by
        decide +kernel
      rw [ran] at stopped
      cases stopped
    obtain ⟨met, record, _, _, _, _, ends⟩ := stops exceeds
    have ran := Act.ends_of_ok ends (show_all_collects met [])
    exact ⟨_, record.workload, ran⟩

theorem live_submission_is_not_always_whole :
    ¬∀ (registry : Registry) (queue : QueueHandle) (buffers : List BufferHandle),
      (∃ tracked, registry.queues.get? queue = some tracked) →
        (∀ handle ∈ buffers, ∃ recorder, registry.buffers.get? handle = some recorder) →
          ∃ shown next met, replay collectVisits queue buffers (registry, []) =
              ⟨shown, .ok (.ok (buffers.flatMap registry.streamOf).length, (next, met))⟩ ∧
            met.map (·.record) = buffers.flatMap registry.streamOf := by
  intro always
  have live : ∀ handle ∈ [(⟨0, 0⟩ : BufferHandle), ⟨1, 0⟩],
      ∃ recorder, (holding [.brimful, .oneMore]).buffers.get? handle = some recorder := by
    intro handle member
    rcases List.mem_cons.mp member with rfl | later
    · exact ⟨.brimful, rfl⟩
    · rw [List.mem_singleton.mp later]
      exact ⟨.oneMore, rfl⟩
  obtain ⟨shown, next, met, ran, _⟩ := always (holding [.brimful, .oneMore]) ⟨0, 0⟩ [⟨0, 0⟩, ⟨1, 0⟩] ⟨_, rfl⟩ live
  have stopped : (replay collectVisits ⟨0, 0⟩ [⟨0, 0⟩, ⟨1, 0⟩] (holding [.brimful, .oneMore], [])).outcome =
      .error .addOverflow := by rfl
  rw [ran] at stopped
  cases stopped

end Registry

end GpuProfiler
