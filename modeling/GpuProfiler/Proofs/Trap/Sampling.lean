import Mathlib.Data.List.Induction
import GpuProfiler.Proofs.Trap.Replay

set_option autoImplicit false

namespace GpuProfiler

def Record.resumedDraws (record : Record) : Nat :=
  match record.workload with
  | .continuation part => part.drawCalls.toNat
  | _ => 0

namespace Cursor

-- The pass was begun by a record and left open; the parts behind it have added their draws, and no
-- other pass was begun.
def Begun (stream : Stream) (pass : RenderPass) : Prop :=
  ∃ before opener behind first, stream = before ++ opener :: behind ∧ opener.workload = .renderPass first ∧
    first.suspending = true ∧ (∀ record ∈ behind, ∀ other, record.workload ≠ .renderPass other) ∧
    pass = { first with drawCalls := pass.drawCalls } ∧
    pass.drawCalls.toNat = first.drawCalls.toNat + (behind.map Record.resumedDraws).sum

def Knows (cursor : Cursor) (stream : Stream) : Prop := ∀ pass, cursor.suspended = some pass → Begun stream pass

variable {cursor next : Cursor} {stream : Stream} {record : Record} {visited : Visit} {pass : RenderPass}

theorem begun_concat {held : RenderPass} (begun : Begun stream held) (within : ∀ other, record.workload ≠ .renderPass other)
    (same : pass = { held with drawCalls := pass.drawCalls })
    (draws : pass.drawCalls.toNat = held.drawCalls.toNat + record.resumedDraws) : Begun (stream ++ [record]) pass := by
  obtain ⟨before, opener, behind, first, rfl, begins, leaves, alone, kept, sum⟩ := begun
  refine ⟨before, opener, behind ++ [record], first, by simp, begins, leaves, ?_, ?_, ?_⟩
  · intro other member
    rcases List.mem_append.mp member with old | new
    · exact alone other old
    · rw [List.mem_singleton.mp new]
      exact within
  · rw [same, kept]
  · rw [draws, sum, List.map_append, List.sum_append, List.map_singleton, List.sum_singleton, Nat.add_assoc]

theorem resume_begun {part : Continuation} {resumed : Option RenderPass} (knows : cursor.Knows stream)
    (continues : record.workload = .continuation part) (found : cursor.resume part = .ok resumed)
    (known : resumed = some pass) :
    (part.origin = none ∨ part.origin = some pass.tag) ∧ Begun (stream ++ [record]) pass := by
  unfold resume at found
  split at found
  · cases found
    cases known
  · next held suspended =>
    split at found
    · next fits =>
      cases total : Word.add held.drawCalls part.drawCalls with
      | error reason =>
        rw [total] at found
        cases found
      | ok sum =>
        rw [total] at found
        cases found
        cases known
        refine ⟨fits, begun_concat (knows held suspended) (by simp [continues]) rfl ?_⟩
        rw [Record.resumedDraws, continues]
        exact Word.add_eq_ok total
    · cases found
      cases known

theorem step_knows (knows : cursor.Knows stream) (met : cursor.step record = .ok (visited, next)) :
    next.Knows (stream ++ [record]) ∧ ∀ pass, visited.resumed = some pass →
      (∃ part, record.workload = .continuation part ∧ (part.origin = none ∨ part.origin = some pass.tag)) ∧
        Begun (stream ++ [record]) pass := by
  unfold step at met
  split at met
  · next first begins =>
    cases met
    refine ⟨?_, fun _ never => (nomatch never)⟩
    intro held suspended
    split at suspended
    · next leaves =>
      cases suspended
      exact ⟨stream, record, [], first, rfl, begins, leaves, fun _ member => (nomatch member), rfl, rfl⟩
    · cases suspended
  · next part continues =>
    cases found : cursor.resume part with
    | error reason =>
      rw [found] at met
      cases met
    | ok resumed =>
      rw [found] at met
      cases met
      refine ⟨?_, ?_⟩
      · intro held suspended
        split at suspended
        · exact (resume_begun knows continues found suspended).2
        · cases suspended
      · intro pass known
        obtain ⟨fits, begun⟩ := resume_begun knows continues found known
        exact ⟨⟨part, continues, fits⟩, begun⟩
  · next passes parts =>
    cases met
    refine ⟨?_, fun _ never => (nomatch never)⟩
    intro held suspended
    have none : record.resumedDraws = 0 := by
      unfold Record.resumedDraws
      split
      · next part continues => exact absurd continues (parts part)
      · rfl
    exact begun_concat (knows held suspended) passes rfl (by rw [none, Nat.add_zero])

section Runs

variable {σ : Type} {visitor : Visit → Act σ Unit} {last : Cursor} {s t u : σ} {shown : List Event} {rest : Stream}

theorem cons_run_ok (ran : cursor.run visitor (record :: rest) s = ⟨shown, .ok (last, u)⟩) :
    ∃ visited next seen t after, cursor.step record = .ok (visited, next) ∧ visitor visited s = ⟨seen, .ok ((), t)⟩ ∧
      next.run visitor rest t = ⟨after, .ok (last, u)⟩ ∧ shown = .note (.replaying record.workload) :: (seen ++ after) := by
  obtain ⟨note, _, t, _, noted, checked, rfl⟩ := Act.bind_ok ran
  obtain ⟨rfl, rfl⟩ : note = [.note (.replaying record.workload)] ∧ t = s := by
    cases noted
    exact ⟨rfl, rfl⟩
  obtain ⟨_, ⟨visited, next⟩, _, _, met, visiting, rfl⟩ := Act.bind_ok checked
  obtain ⟨stepped, rfl, rfl⟩ := Act.check_ok met
  obtain ⟨seen, _, t, after, visits, onward, rfl⟩ := Act.bind_ok visiting
  exact ⟨visited, next, seen, t, after, stepped, visits, onward, by simp⟩

theorem run_cons_ok {seen : List Event} {outcome : Except Halt (Cursor × σ)}
    (stepped : cursor.step record = .ok (visited, next)) (visits : visitor visited s = ⟨seen, .ok ((), t)⟩)
    (ran : next.run visitor rest t = ⟨shown, outcome⟩) :
    cursor.run visitor (record :: rest) s = ⟨.note (.replaying record.workload) :: (seen ++ shown), outcome⟩ := by
  simp [run, bind, Act.bind, Act.note, Act.emit, Act.check, stepped, Except.map, visits, ran]

theorem run_concat_ok (ran : cursor.run visitor (stream ++ [record]) s = ⟨shown, .ok (last, u)⟩) :
    ∃ during middle t visited seen, cursor.run visitor stream s = ⟨during, .ok (middle, t)⟩ ∧
      middle.step record = .ok (visited, last) ∧ visitor visited t = ⟨seen, .ok ((), u)⟩ ∧
      shown = during ++ .note (.replaying record.workload) :: seen := by
  rw [run_append] at ran
  obtain ⟨during, middle, t, _, first, onward, rfl⟩ := Act.bind_ok ran
  obtain ⟨visited, next, seen, _, _, stepped, visits, ended, rfl⟩ := cons_run_ok onward
  cases ended
  exact ⟨during, middle, t, visited, seen, first, stepped, visits, by simp⟩

theorem run_knows (ran : fresh.run visitor stream s = ⟨shown, .ok (next, t)⟩) : next.Knows stream := by
  induction stream using List.reverseRecOn generalizing shown next t with
  | nil =>
    cases ran
    exact fun _ never => (nomatch never)
  | append_singleton stream record ih =>
    obtain ⟨_, _, _, _, _, first, stepped, _, _⟩ := run_concat_ok ran
    exact (step_knows (ih first) stepped).1

end Runs

end Cursor

-- What a replay shows from one sampling to the next: the records met, the cycle, and what is told
-- of it. `stopped` is what the host had before it sampled.
structure Sampling where
  met : List Event
  stopped : Sampler
  parts : Sampler.CycleParts
  visited : Visit
  told : List Event

namespace Sampling

def shown (sampling : Sampling) : List Event := sampling.met ++ (sampling.parts.shown ++ sampling.told)

def message? (sampling : Sampling) : Option Message := sampling.visited.message? sampling.parts.counters

-- How a sampling comes about behind what was shown and met before: the device stands at the trap
-- that is as far ahead of it as the records say, with all of `items` behind that trap still to do.
structure Made (sampling : Sampling) (s : Sampler) (items : Timeline) (earlier : Stream) (before : List Event) : Prop where
  notes : ∀ event ∈ sampling.met, event.isNote = true
  ran : ∃ during cursor next reached,
    Cursor.fresh.run Sampler.visit earlier s = ⟨during, .ok (cursor, reached)⟩ ∧
      cursor.step sampling.visited.record = .ok (sampling.visited, next) ∧
      before ++ sampling.met = during ++ [.note (.replaying sampling.visited.record.workload)] ∧
      reached.trap.acquire reached = ⟨sampling.parts.asked, .ok ((), sampling.stopped)⟩
  resumed : ∀ pass, sampling.visited.resumed = some pass →
    (∃ part, sampling.visited.record.workload = .continuation part ∧
      (part.origin = none ∨ part.origin = some pass.tag)) ∧
    Cursor.Begun (earlier ++ [sampling.visited.record]) pass
  steps : items.lead s.trap.events ++ Event.steps (before ++ (sampling.met ++ sampling.parts.asked)) =
    items.through s.trap.events earlier.trapped
  parked : sampling.stopped.driver.timeline = (items.skip earlier.trapped).pending s.trap.events ∧
    s.trap.events.hostToDevice ∉ sampling.stopped.driver.signalled
  cycles : sampling.stopped.trap = { s.trap with cycles := s.trap.cycles + earlier.trapped }
  counted : ∃ middle last,
    CounterSession.sampleNow sampling.stopped.session = ⟨sampling.parts.latch, .ok (sampling.parts.latched, middle)⟩ ∧
      if sampling.parts.latched then
        CounterSession.readAll middle = ⟨sampling.parts.reads, .ok (sampling.parts.counters, last)⟩
      else sampling.parts.reads = [] ∧ sampling.parts.counters = []
  untold : Event.workloads sampling.parts.shown = []
  told : Tells sampling.message? sampling.told

theorem workloads_told {sampling : Sampling} (tells : Tells sampling.message? sampling.told) :
    Event.workloads sampling.told = sampling.message?.toList := by
  cases reported : sampling.message? with
  | none =>
    rw [reported] at tells
    exact quiet_workloads (quiet_notes tells)
  | some message =>
    rw [reported] at tells
    obtain ⟨failed, notes, shown, plain⟩ := tells
    obtain ⟨workload, _, known⟩ := Option.bind_eq_some_iff.mp reported
    obtain ⟨metadata, _, rfl⟩ := Option.map_eq_some_iff.mp known
    rw [shown, Event.workloads_cons, quiet_workloads (quiet_notes plain)]
    rfl

theorem workloads_shown {sampling : Sampling} {s : Sampler} {items : Timeline} {earlier : Stream} {before : List Event}
    (made : sampling.Made s items earlier before) : Event.workloads sampling.shown = sampling.message?.toList := by
  rw [Sampling.shown, Event.workloads_append, Event.workloads_append, quiet_workloads (quiet_notes made.notes), made.untold,
    workloads_told made.told]
  rfl

end Sampling

namespace Sampler

variable {s next : Sampler} {items : Timeline} {parts : CycleParts} {stream : Stream}

theorem quiet_counted (cycled : Cycled s items parts next) :
    Event.workloads parts.shown = [] ∧ Event.steps parts.asked = [] := by
  obtain ⟨looks, failed, notes, asked, quiet, still⟩ := cycled.acquired.asked
  obtain ⟨noticed, resumed⟩ := cycled.released
  obtain ⟨latch, reads⟩ := quiet_cycled cycled
  refine ⟨?_, ?_⟩
  · simp [CycleParts.shown, asked, resumed, quiet_workloads quiet, quiet_workloads still, quiet_workloads latch,
      quiet_workloads reads, Event.workload?]
  · simp [asked, quiet_steps quiet, quiet_steps still, Event.step?]

theorem visit_made {shown seen : List Event} {cursor last : Cursor} {reached : Sampler} {record : Record} {visited : Visit}
    {samplings : List Sampling} {notes : List Event} (standing : s.Standing items)
    (enough : stream.trapped < items.traps) (traps : record.traps = true)
    (ran : Cursor.fresh.run visit stream s = ⟨shown, .ok (cursor, reached)⟩)
    (split : shown = samplings.flatMap Sampling.shown ++ notes) (plain : ∀ event ∈ notes, event.isNote = true)
    (met : cursor.step record = .ok (visited, last)) (visits : visit visited reached = ⟨seen, .ok ((), next)⟩) :
    ∃ sampling : Sampling, sampling.visited = visited ∧
      sampling.shown = notes ++ .note (.replaying record.workload) :: seen ∧
      sampling.Made s items stream (samplings.flatMap Sampling.shown) := by
  obtain ⟨stands, steps, cycles, _⟩ := Act.ends_of_ok (ends_run standing (Nat.le_of_lt enough) Cursor.fresh) ran
  have more : 0 < (items.skip stream.trapped).traps := by
    rw [Timeline.traps_skip]
    omega
  have same : visited.record = record := Cursor.step_record met
  obtain ⟨parts, told, rfl, cycled, tells⟩ := Act.ends_of_ok (ends_visit stands more (by rw [same, traps])) visits
  obtain ⟨stopped, acquired, pending, unsignalled, frame⟩ := cycled.parked
  obtain ⟨middle, latched, read⟩ := cycled.counted
  obtain ⟨untold, still⟩ := quiet_counted cycled
  have trap : stopped.trap = reached.trap := by rw [frame]
  have session : stopped.session = reached.session := by rw [frame]
  have events : reached.trap.events = s.trap.events := by rw [cycles]
  refine ⟨⟨notes ++ [.note (.replaying record.workload)], stopped, parts, visited, told⟩, rfl, by simp [Sampling.shown], ?_⟩
  subst same
  refine ⟨?_, ⟨shown, cursor, last, reached, ran, met, by simp [split], acquired⟩, ?_, ?_, ?_, ?_, ?_, untold, tells⟩
  · intro event member
    rcases List.mem_append.mp member with before | last
    · exact plain event before
    · rw [List.mem_singleton.mp last]
      rfl
  · exact (Cursor.step_knows (Cursor.run_knows ran) met).2
  · rw [← steps, split]
    simp [still, Event.step?]
  · rw [← events]
    exact ⟨pending, unsignalled⟩
  · rw [trap, cycles]
  · rw [session]
    refine ⟨middle, next.session, latched, ?_⟩
    by_cases went : parts.latched = true
    · rw [if_pos went] at read ⊢
      exact read
    · rw [if_neg went] at read ⊢
      exact ⟨read.1, read.2.1⟩

def Samples (samplings : List Sampling) (s : Sampler) (items : Timeline) (stream : Stream) : Prop :=
  ∀ count sampling, samplings[count]? = some sampling → ∃ earlier later : Stream,
    stream = earlier ++ sampling.visited.record :: later ∧ sampling.visited.record.traps = true ∧
      earlier.trapped = count ∧ sampling.Made s items earlier ((samplings.take count).flatMap Sampling.shown)

theorem samples_append {samplings : List Sampling} (samples : Samples samplings s items stream) (more : Stream) :
    Samples samplings s items (stream ++ more) := by
  intro count sampling there
  obtain ⟨earlier, later, rfl, traps, place, made⟩ := samples count sampling there
  exact ⟨earlier, later ++ more, by simp, traps, place, made⟩

theorem samples_concat {samplings : List Sampling} {sampling : Sampling} (samples : Samples samplings s items stream)
    (whole : samplings.length = stream.trapped) (traps : sampling.visited.record.traps = true)
    (made : sampling.Made s items stream (samplings.flatMap Sampling.shown)) :
    Samples (samplings ++ [sampling]) s items (stream ++ [sampling.visited.record]) := by
  intro count other there
  rcases Nat.lt_or_ge count samplings.length with before | behind
  · rw [List.getElem?_append_left before] at there
    rw [List.take_append_of_le_length (Nat.le_of_lt before)]
    exact samples_append samples _ count other there
  · obtain ⟨rfl, rfl⟩ : count = samplings.length ∧ other = sampling := by
      rw [List.getElem?_append_right behind, List.getElem?_singleton] at there
      split at there
      · cases there
        exact ⟨by omega, rfl⟩
      · cases there
    rw [List.take_left]
    exact ⟨stream, [], rfl, traps, whole.symm, made⟩

-- The induction is from the right: a record is sampled behind all that was met and shown before it.
theorem run_samples {shown : List Event} {last : Cursor} (standing : s.Standing items) (enough : stream.trapped ≤ items.traps)
    (ran : Cursor.fresh.run visit stream s = ⟨shown, .ok (last, next)⟩) :
    ∃ samplings notes, shown = samplings.flatMap Sampling.shown ++ notes ∧ (∀ event ∈ notes, event.isNote = true) ∧
      samplings.length = stream.trapped ∧ Samples samplings s items stream := by
  induction stream using List.reverseRecOn generalizing shown last next with
  | nil =>
    cases ran
    exact ⟨[], [], rfl, fun _ member => (nomatch member), rfl, fun _ _ there => (nomatch there)⟩
  | append_singleton stream record ih =>
    obtain ⟨during, cursor, reached, visited, seen, first, met, visits, rfl⟩ := Cursor.run_concat_ok ran
    have same : visited.record = record := Cursor.step_record met
    have level : Stream.trapped (stream ++ [record]) = Stream.trapped stream + if record.traps then 1 else 0 := by
      rw [Stream.trapped_append]
      simp [Stream.trapped, List.countP_singleton]
    rw [level] at enough ⊢
    obtain ⟨samplings, notes, split, plain, whole, samples⟩ := ih (by omega) first
    cases traps : record.traps with
    | false =>
      obtain ⟨rfl, _⟩ := Act.ends_of_ok (ends_visit_silent (by rw [same, traps]) reached) visits
      refine ⟨samplings, notes ++ [.note (.replaying record.workload)], by simp [split], ?_, by simp [whole],
        samples_append samples _⟩
      intro event member
      rcases List.mem_append.mp member with before | last
      · exact plain event before
      · rw [List.mem_singleton.mp last]
        rfl
    | true =>
      rw [traps, if_pos rfl] at enough
      obtain ⟨sampling, rfl, shows, made⟩ := visit_made standing (by omega) traps first split plain met visits
      refine ⟨samplings ++ [sampling], [], ?_, fun _ member => (nomatch member), by simp [whole], ?_⟩
      · rw [List.flatMap_append, List.flatMap_singleton, shows, split]
        simp
      · rw [← same]
        exact samples_concat samples whole (by rw [same, traps]) made

theorem workloads_samples {samplings : List Sampling} (samples : Samples samplings s items stream) :
    Event.workloads (samplings.flatMap Sampling.shown) = samplings.filterMap Sampling.message? := by
  have each : ∀ sampling ∈ samplings, Event.workloads sampling.shown = sampling.message?.toList := by
    intro sampling member
    obtain ⟨count, there⟩ := List.mem_iff_getElem?.mp member
    obtain ⟨_, _, _, _, _, made⟩ := samples count sampling there
    exact Sampling.workloads_shown made
  clear samples
  induction samplings with
  | nil => rfl
  | cons sampling rest ih =>
    rw [List.flatMap_cons, Event.workloads_append, each sampling List.mem_cons_self,
      ih fun other member => each other (List.mem_cons_of_mem _ member), List.filterMap_cons]
    cases sampling.message? <;> rfl

theorem run_stops {shown : List Event} {cursor : Cursor} {reason : Halt} (standing : s.Standing items)
    (enough : stream.trapped ≤ items.traps) (ran : cursor.run visit stream s = ⟨shown, .error reason⟩) :
    ∃ met missed during last reached note, stream = met ++ missed ∧
      cursor.run visit met s = ⟨during, .ok (last, reached)⟩ ∧ shown = during ++ [.note note] := by
  induction stream generalizing s items cursor shown with
  | nil => cases ran
  | cons record rest ih =>
    cases met : cursor.step record with
    | error stopped =>
      have noted : cursor.run visit (record :: rest) s = ⟨[.note (.replaying record.workload)], .error stopped⟩ := by
        simp [Cursor.run, bind, Act.bind, Act.note, Act.emit, Act.check, met, Except.map]
      rw [noted] at ran
      cases ran
      exact ⟨[], record :: rest, [], cursor, s, .replaying record.workload, rfl, rfl, rfl⟩
    | ok pair =>
      obtain ⟨visited, later⟩ := pair
      have same : visited.record = record := Cursor.step_record met
      -- The visit itself does not end early, so it is the rest that does.
      have visits : ∃ seen middle left, visit visited s = ⟨seen, .ok ((), middle)⟩ ∧ middle.Standing left ∧
          Stream.trapped rest ≤ left.traps := by
        cases traps : record.traps with
        | false =>
          have level : Stream.trapped (record :: rest) = Stream.trapped rest := by simp [Stream.trapped, traps]
          have ends := ends_visit_silent (by rw [same, traps]) s
          rcases visits : visit visited s with ⟨seen, stopped | ⟨_, middle⟩⟩
          · exact (Act.ends_of_error ends visits).elim
          · obtain ⟨rfl, rfl⟩ := Act.ends_of_ok ends visits
            exact ⟨[], middle, items, rfl, standing, level ▸ enough⟩
        | true =>
          have level : Stream.trapped (record :: rest) = Stream.trapped rest + 1 := by simp [Stream.trapped, traps]
          have fewer := items.traps_behind
          have ends := ends_visit standing (by omega) (by rw [same, traps])
          rcases visits : visit visited s with ⟨seen, stopped | ⟨_, middle⟩⟩
          · exact (Act.ends_of_error ends visits).elim
          · obtain ⟨parts, told, _, sees⟩ := Act.ends_of_ok ends visits
            exact ⟨seen, middle, items.behind, rfl, sees.cycled.standing, by omega⟩
      obtain ⟨seen, middle, left, visits, stands, less⟩ := visits
      rcases onward : later.run visit rest middle with ⟨after, outcome⟩
      rw [Cursor.run_cons_ok met visits onward] at ran
      cases ran
      obtain ⟨found, missed, during, last, reached, note, rfl, first, rfl⟩ := ih stands less onward
      exact ⟨record :: found, missed, _, last, reached, note, rfl, Cursor.run_cons_ok met visits first, by simp⟩

theorem run_sampled {shown : List Event} {outcome : Except Halt (Cursor × Sampler)} (standing : s.Standing items)
    (enough : stream.trapped ≤ items.traps) (ran : Cursor.fresh.run visit stream s = ⟨shown, outcome⟩) :
    ∃ samplings notes, shown = samplings.flatMap Sampling.shown ++ notes ∧ (∀ event ∈ notes, event.isNote = true) ∧
      samplings.length ≤ stream.trapped ∧ (outcome.isOk = true → samplings.length = stream.trapped) ∧
      items.lead s.trap.events ++ Event.steps shown = items.through s.trap.events samplings.length ∧
      Samples samplings s items stream := by
  rcases outcome with reason | ⟨last, next⟩
  · obtain ⟨met, missed, during, last, reached, note, rfl, first, rfl⟩ := run_stops standing enough ran
    rw [Stream.trapped_append] at enough
    have fewer : met.trapped ≤ items.traps := by omega
    obtain ⟨samplings, notes, rfl, plain, whole, samples⟩ := run_samples standing fewer first
    obtain ⟨_, steps, _, _⟩ := Act.ends_of_ok (ends_run standing fewer Cursor.fresh) first
    refine ⟨samplings, notes ++ [.note note], by simp, ?_, ?_, fun never => (nomatch never), ?_,
      samples_append samples missed⟩
    · intro event member
      rcases List.mem_append.mp member with before | last
      · exact plain event before
      · rw [List.mem_singleton.mp last]
        rfl
    · rw [whole, Stream.trapped_append]
      exact Nat.le_add_right _ _
    · rw [whole, ← steps]
      simp [Event.step?]
  · obtain ⟨samplings, notes, rfl, plain, whole, samples⟩ := run_samples standing enough ran
    obtain ⟨_, steps, _, _⟩ := Act.ends_of_ok (ends_run standing enough Cursor.fresh) ran
    exact ⟨samplings, notes, rfl, plain, Nat.le_of_eq whole, fun _ => whole, whole ▸ steps, samples⟩

end Sampler

end GpuProfiler
