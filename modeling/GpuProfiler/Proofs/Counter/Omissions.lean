import GpuProfiler.Counter.Session
import GpuProfiler.Proofs.Act

set_option autoImplicit false

namespace GpuProfiler

inductive BackendCall where
  | sample (answer : Except Error Unit)
  | read (id : Nat) (answer : Except Error CounterValue)

namespace BackendCall

def isSample : BackendCall → Bool
  | .sample _ => true
  | .read _ _ => false

def isRead : BackendCall → Bool
  | .sample _ => false
  | .read _ _ => true

def latches : BackendCall → Bool
  | .sample (.ok ()) => true
  | _ => false

end BackendCall

section Backend

variable {β : Type} [CounterBackend β]

inductive Asked : β → List BackendCall → β → Prop
  | done (backend : β) : Asked backend [] backend
  | sample (backend next last : β) (shown : List Event) (answer : Except Error Unit) (calls : List BackendCall)
      (ran : CounterBackend.sampleNow backend = ⟨shown, .ok (answer, next)⟩) (later : Asked next calls last) :
      Asked backend (.sample answer :: calls) last
  | read (backend next last : β) (id : Nat) (shown : List Event) (answer : Except Error CounterValue)
      (calls : List BackendCall) (ran : CounterBackend.read id backend = ⟨shown, .ok (answer, next)⟩)
      (later : Asked next calls last) : Asked backend (.read id answer :: calls) last

theorem asked_append {backend middle last : β} {calls more : List BackendCall} (first : Asked backend calls middle)
    (later : Asked middle more last) : Asked backend (calls ++ more) last := by
  induction first with
  | done => exact later
  | sample backend next _ shown answer calls ran _ ih => exact .sample backend next last shown answer _ ran (ih later)
  | read backend next _ id shown answer calls ran _ ih => exact .read backend next last id shown answer _ ran (ih later)

variable (β) in
def CounterBackend.Halts (reason : Halt) : Prop :=
  (∃ (backend : β) (shown : List Event), CounterBackend.sampleNow backend = ⟨shown, .error reason⟩) ∨
    ∃ (backend : β) (id : Nat) (shown : List Event), CounterBackend.read id backend = ⟨shown, .error reason⟩

end Backend

namespace Counter

def reading? (counter : Counter) : Except Error CounterValue → Option Reading
  | .ok value => if value.kind = counter.kind then some ⟨counter.name, value⟩ else none
  | .error _ => none

def reads (counters : List Counter) (answers : List (Except Error CounterValue)) : List BackendCall :=
  counters.zipWith (fun counter answer => .read counter.id answer) answers

def readings (counters : List Counter) (answers : List (Except Error CounterValue)) : List Reading :=
  (counters.zip answers).filterMap fun asked => asked.1.reading? asked.2

end Counter

inductive SessionCall where
  | sampleNow
  | readAll
  | sample
deriving DecidableEq, Repr

inductive SessionReply where
  | latched (done : Bool)
  | read (readings : List Reading)
  | sampled (readings : Option (List Reading))
deriving DecidableEq, Repr

def SessionReply.returned : SessionReply → List Reading
  | .latched _ => []
  | .read readings => readings
  | .sampled readings => readings.getD []

structure SessionTurn where
  call : SessionCall
  asked : List BackendCall
  reply : SessionReply

-- What a call asks for, and how its reply comes of the answers. After a sample that fails nothing is
-- read.
inductive SessionTurn.Proper (active : List Counter) : SessionTurn → Prop
  | latched : Proper active ⟨.sampleNow, [.sample (.ok ())], .latched true⟩
  | unlatched (error : Error) : Proper active ⟨.sampleNow, [.sample (.error error)], .latched false⟩
  | read (answers : List (Except Error CounterValue)) (each : answers.length = active.length) :
      Proper active ⟨.readAll, Counter.reads active answers, .read (Counter.readings active answers)⟩
  | sampled (answers : List (Except Error CounterValue)) (each : answers.length = active.length) :
      Proper active ⟨.sample, .sample (.ok ()) :: Counter.reads active answers,
        .sampled (some (Counter.readings active answers))⟩
  | unsampled (error : Error) : Proper active ⟨.sample, [.sample (.error error)], .sampled none⟩

namespace CounterSession

variable {β : Type} [CounterBackend β]

def perform : SessionCall → Act (CounterSession β) SessionReply
  | .sampleNow => return .latched (← sampleNow)
  | .readAll => return .read (← readAll)
  | .sample => return .sampled (← sample)

def performAll : List SessionCall → Act (CounterSession β) (List SessionReply)
  | [] => pure []
  | call :: rest => do
    let reply ← perform call
    let replies ← performAll rest
    pure (reply :: replies)

-- What the calls on the backend and the readings returned add to the counts of a session. The
-- counters it reports stay the same.
structure Counts (s : CounterSession β) (asked : List BackendCall) (returned : List Reading) (next : CounterSession β) :
    Prop where
  backend : Asked s.backend asked next.backend
  active : next.active = s.active
  latched : next.stats.samples = s.stats.samples + asked.countP BackendCall.latches
  samples : next.stats.samples + next.stats.failedSamples =
    s.stats.samples + s.stats.failedSamples + asked.countP BackendCall.isSample
  reads : next.stats.failedReads + returned.length = s.stats.failedReads + asked.countP BackendCall.isRead

theorem counts_none (s : CounterSession β) : Counts s [] [] s := ⟨.done s.backend, rfl, rfl, rfl, rfl⟩

theorem counts_append {s middle last : CounterSession β} {asked more : List BackendCall} {returned others : List Reading}
    (first : Counts s asked returned middle) (later : Counts middle more others last) :
    Counts s (asked ++ more) (returned ++ others) last := by
  have latched := first.latched
  have samples := first.samples
  have reads := first.reads
  refine ⟨asked_append first.backend later.backend, later.active.trans first.active, ?_, ?_, ?_⟩
  · rw [later.latched, List.countP_append]
    omega
  · rw [later.samples, List.countP_append]
    omega
  · have more := later.reads
    rw [List.length_append, List.countP_append]
    omega

theorem ends_sample_counts (s : CounterSession β) :
    Act.Ends sampleNow s
      (fun _ latched next => ∃ answer, Counts s [.sample answer] [] next ∧
        (latched = true ∧ answer = .ok () ∨ latched = false ∧ ∃ error, answer = .error error))
      (fun _ reason => CounterBackend.Halts β reason) := by
  simp only [sampleNow, Act.ends_bind, Act.ends_on]
  refine Act.ends_mono (Act.ends_self _ _) ?_ fun shown reason halted => .inl ⟨_, shown, halted⟩
  intro shown answer backend ran
  have asked : Asked s.backend [.sample answer] backend := .sample _ _ _ shown answer [] ran (.done backend)
  rcases answer with error | ⟨⟩
  · simp only [countStats, Act.ends_bind, Act.ends_note, Act.ends_modify, Act.ends_pure]
    refine ⟨.error error, ⟨asked, rfl, rfl, ?_, rfl⟩, .inr ⟨trivial, error, rfl⟩⟩
    simp only [backendPart, countFailedSample, List.countP_singleton, BackendCall.isSample, if_true, Nat.add_assoc]
  · simp only [countStats, Act.ends_bind, Act.ends_modify, Act.ends_pure]
    refine ⟨.ok (), ⟨asked, rfl, rfl, ?_, rfl⟩, .inl ⟨trivial, rfl⟩⟩
    simp only [backendPart, countSample, List.countP_singleton, BackendCall.isSample, if_true]
    omega

theorem ends_read_counts (counter : Counter) (s : CounterSession β) :
    Act.Ends (readOne counter) s
      (fun _ reading next => ∃ answer, reading = counter.reading? answer ∧
        Counts s [.read counter.id answer] reading.toList next)
      (fun _ reason => CounterBackend.Halts β reason) := by
  simp only [readOne, Act.ends_bind, Act.ends_on]
  refine Act.ends_mono (Act.ends_self _ _) ?_ fun shown reason halted => .inr ⟨_, counter.id, shown, halted⟩
  intro shown answer backend ran
  have asked : Asked s.backend [.read counter.id answer] backend :=
    .read _ _ _ counter.id shown answer [] ran (.done backend)
  cases answer with
  | error error =>
    simp only [countStats, Act.ends_bind, Act.ends_note, Act.ends_modify, Act.ends_pure]
    exact ⟨.error error, rfl, asked, rfl, rfl, rfl, rfl⟩
  | ok value =>
    by_cases typed : value.kind = counter.kind
    · simp only [typed, if_true, Act.ends_pure]
      exact ⟨.ok value, (if_pos typed).symm, asked, rfl, rfl, rfl, rfl⟩
    · simp only [typed, if_false, countStats, Act.ends_bind, Act.ends_note, Act.ends_modify, Act.ends_pure]
      exact ⟨.ok value, (if_neg typed).symm, asked, rfl, rfl, rfl, rfl⟩

theorem ends_each_counts (counters : List Counter) (s : CounterSession β) :
    Act.Ends (readEach counters) s
      (fun _ readings next => ∃ answers, answers.length = counters.length ∧
        readings = Counter.readings counters answers ∧ Counts s (Counter.reads counters answers) readings next)
      (fun _ reason => CounterBackend.Halts β reason) := by
  induction counters generalizing s with
  | nil => exact ⟨[], rfl, rfl, counts_none s⟩
  | cons counter rest ih =>
    simp only [readEach, Act.ends_bind, Act.ends_pure]
    refine Act.ends_mono (ends_read_counts counter s) ?_ fun _ _ halted => halted
    rintro _ reading middle ⟨answer, rfl, here⟩
    refine Act.ends_mono (ih middle) ?_ fun _ _ halted => halted
    rintro _ readings last ⟨answers, each, rfl, later⟩
    refine ⟨answer :: answers, congrArg Nat.succ each, ?_, counts_append here later⟩
    unfold Counter.readings
    rw [List.zip_cons_cons, List.filterMap_cons]
    cases counter.reading? answer <;> rfl

theorem ends_turn (call : SessionCall) (s : CounterSession β) :
    Act.Ends (perform call) s
      (fun _ reply next => ∃ asked, SessionTurn.Proper s.active ⟨call, asked, reply⟩ ∧ Counts s asked reply.returned next)
      (fun _ reason => CounterBackend.Halts β reason) := by
  cases call with
  | sampleNow =>
    simp only [perform, Act.ends_bind, Act.ends_pure]
    refine Act.ends_mono (ends_sample_counts s) ?_ fun _ _ halted => halted
    rintro _ _ next ⟨answer, counts, ⟨rfl, rfl⟩ | ⟨rfl, error, rfl⟩⟩
    · exact ⟨_, .latched, counts⟩
    · exact ⟨_, .unlatched error, counts⟩
  | readAll =>
    simp only [perform, readAll, Act.ends_bind, Act.ends_get, Act.ends_pure]
    refine Act.ends_mono (ends_each_counts s.active s) ?_ fun _ _ halted => halted
    rintro _ _ next ⟨answers, each, rfl, counts⟩
    exact ⟨_, .read answers each, counts⟩
  | sample =>
    simp only [perform, sample, Act.ends_bind, Act.ends_pure]
    refine Act.ends_mono (ends_sample_counts s) ?_ fun _ _ halted => halted
    rintro _ _ middle ⟨answer, first, ⟨rfl, rfl⟩ | ⟨rfl, error, rfl⟩⟩
    · simp only [if_true, readAll, Act.ends_bind, Act.ends_get, Act.ends_pure]
      refine Act.ends_mono (ends_each_counts middle.active middle) ?_ fun _ _ halted => halted
      rintro _ _ next ⟨answers, each, rfl, later⟩
      rw [first.active] at each later ⊢
      exact ⟨_, .sampled answers each, counts_append first later⟩
    · exact ⟨_, .unsampled error, first⟩

theorem ends_turns (calls : List SessionCall) (s : CounterSession β) :
    Act.Ends (performAll calls) s
      (fun _ replies next => ∃ turns : List SessionTurn, turns.map (·.call) = calls ∧ turns.map (·.reply) = replies ∧
        (∀ turn ∈ turns, turn.Proper s.active) ∧
        Counts s (turns.flatMap (·.asked)) (turns.flatMap (·.reply.returned)) next)
      (fun _ reason => CounterBackend.Halts β reason) := by
  induction calls generalizing s with
  | nil => exact ⟨[], rfl, rfl, fun _ member => (nomatch member), counts_none s⟩
  | cons call rest ih =>
    simp only [performAll, Act.ends_bind, Act.ends_pure]
    refine Act.ends_mono (ends_turn call s) ?_ fun _ _ halted => halted
    rintro _ reply middle ⟨asked, proper, here⟩
    refine Act.ends_mono (ih middle) ?_ fun _ _ halted => halted
    rintro _ replies last ⟨turns, rfl, rfl, following, later⟩
    refine ⟨⟨call, asked, reply⟩ :: turns, rfl, rfl, ?_, counts_append here later⟩
    intro turn member
    rcases List.mem_cons.mp member with rfl | behind
    · exact proper
    · exact here.active ▸ following turn behind

theorem ends_missing_noted {σ : Type} (available : List Counter) (filter : List String) (s : σ) :
    Act.Ends (noteMissing available filter) s (fun _ _ next => next = s) (fun _ _ => False) := by
  induction filter generalizing s with
  | nil => rfl
  | cons name rest ih =>
    simp only [noteMissing, Act.ends_bind, Act.ends_note_if]
    exact ih s

/-- A session over any backend, from its opening on, whatever the backend answers. It reports the
counters of the backend that the filter names, or all of them. Each call asks the backend for just
what it needs, a read for each of these counters in their order, and returns just the values that
were read and are of the declared kind, each under the name of its counter; after a sample that fails
nothing is read. The counts come to the samples taken and to the reads without a reading. A call does
not halt unless the backend does. -/
theorem session_leaves_out_what_failed {σ : Type} (backend : β) (filter : List String) (calls : List SessionCall) (s : σ) :
    Act.Ends (do let session ← start backend filter; Act.apart session (performAll calls)) s
      (fun _ ran next => next = s ∧
        ran.2.active = (CounterBackend.counters backend).filter (fun counter => decide (filter = [] ∨ counter.name ∈ filter)) ∧
        ∃ turns : List SessionTurn, turns.map (·.call) = calls ∧ turns.map (·.reply) = ran.1 ∧
          (∀ turn ∈ turns, turn.Proper ran.2.active) ∧
          Asked backend (turns.flatMap (·.asked)) ran.2.backend ∧
          ran.2.stats.samples = (turns.flatMap (·.asked)).countP BackendCall.latches ∧
          ran.2.stats.samples + ran.2.stats.failedSamples = (turns.flatMap (·.asked)).countP BackendCall.isSample ∧
          ran.2.stats.failedReads + (ran.1.flatMap (·.returned)).length = (turns.flatMap (·.asked)).countP BackendCall.isRead)
      (fun _ reason => CounterBackend.Halts β reason) := by
  have chosen : select (CounterBackend.counters backend) filter =
      (CounterBackend.counters backend).filter (fun counter => decide (filter = [] ∨ counter.name ∈ filter)) := by
    unfold select
    congr 1
    funext counter
    cases filter <;> simp
  simp only [start, Act.ends_bind, Act.ends_note, Act.ends_pure, Act.ends_apart]
  refine Act.ends_mono (ends_missing_noted _ filter s) ?_ fun _ _ never => never.elim
  rintro _ _ _ rfl
  refine Act.ends_mono (ends_turns calls _) ?_ fun _ _ halted => halted
  rintro _ _ last ⟨turns, rfl, rfl, proper, counts⟩
  have active := counts.active.trans chosen
  refine ⟨rfl, active, turns, rfl, rfl, fun turn member => counts.active ▸ proper turn member, counts.backend, ?_, ?_, ?_⟩
  · exact counts.latched.trans (Nat.zero_add _)
  · exact counts.samples.trans (Nat.zero_add _)
  · rw [List.flatMap_map]
    exact counts.reads.trans (Nat.zero_add _)

-- Of three counters, two of one name, one is read as a value of the other kind and one fails.
example :
    let script : Script := ⟨[⟨7, "busy", .integer⟩, ⟨9, "busy", .float⟩, ⟨7, "cycles", .integer⟩], [(1, .sampleFailed)],
      [(7, [.value (.integer 3), .error .deviceLost]), (9, [.value (.integer 4)])]⟩
    ((do
      let session ← start (Backend.scripted (.new script)) []
      Act.apart session (performAll [.sample, .sample])) () : Ran Unit _).outcome.map (fun ran => (ran.1.1, ran.1.2.stats)) =
      .ok ([.sampled (some [⟨"busy", .integer 3⟩]), .sampled none], ⟨1, 1, 2⟩) := rfl

end CounterSession

end GpuProfiler
