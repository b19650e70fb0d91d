import GpuProfiler.Proofs.Recorder.Trace

set_option autoImplicit false

namespace GpuProfiler

namespace RecorderCall

def turns : RecorderCall → Bool
  | .start | .reset | .beginPass _ _ | .endPass => true
  | _ => false

end RecorderCall

inductive Record.Completed (draws : Nat) (trapped : Bool) : Record → Record → Prop
  | renderPass (pass : RenderPass) (labels : Labels) (drawCalls : UInt64) (sum : drawCalls.toNat = draws) :
      Completed draws trapped ⟨.renderPass pass, labels⟩
        ⟨.renderPass { pass with drawCalls := drawCalls, trapped := trapped }, labels⟩
  | continuation (part : Continuation) (labels : Labels) (drawCalls : UInt64) (sum : drawCalls.toNat = draws) :
      Completed draws trapped ⟨.continuation part, labels⟩
        ⟨.continuation { part with drawCalls := drawCalls, trapped := trapped }, labels⟩

theorem Record.completed_of_part {record : Record} (kind : Recorder.isPass record.workload = true) {draws : Nat}
    {drawCalls : UInt64} (sum : drawCalls.toNat = draws) (trapped : Bool) :
    Completed draws trapped record ⟨record.workload.complete drawCalls trapped, record.labels⟩ := by
  obtain ⟨workload, labels⟩ := record
  cases workload with
  | renderPass pass => exact .renderPass pass labels drawCalls sum
  | continuation part => exact .continuation part labels drawCalls sum
  | _ => cases kind

namespace RecordingStep

def place (opening : RecordingStep) : Nat := opening.before.recorder.stream.length

def kept (opening : RecordingStep) : Option Record := opening.after.recorder.stream[opening.place]?

def Begins (opening : RecordingStep) (flags : RenderPassFlags) : Prop :=
  ∃ begun mode, opening.call = .beginPass begun mode ∧ begun.flags = flags

def Opened (ahead : List RecordingStep) (opening : RecordingStep) (inside : List RecordingStep) : Prop :=
  (∃ flags, opening.Begins flags) ∧ (∃ before, ahead = before ++ opening :: inside) ∧
    ∀ step ∈ inside, step.call.turns = false

def Unended (rest : List RecordingStep) : Prop :=
  ∀ inside closing behind, rest = inside ++ closing :: behind → (∀ step ∈ inside, step.call.turns = false) →
    closing.call ≠ .endPass

def drawn (inside : List RecordingStep) : Nat := (inside.map (·.call.drawn)).sum

structure Closes (opening : RecordingStep) (inside : List RecordingStep) (closing : RecordingStep) : Prop where
  kept : ∀ record, opening.kept = some record → closing.before.recorder.stream[opening.place]? = some record
  ends : ∃ flags needsTrap, opening.Begins flags ∧ closing.reply = .ended ⟨flags.suspending, needsTrap⟩ ∧
    (needsTrap = true → opening.kept.isSome = true) ∧
    (opening.kept = none → closing.after.recorder.stream = closing.before.recorder.stream) ∧
    ∀ record, opening.kept = some record → ∃ completed, record.Completed (drawn inside) needsTrap completed ∧
      closing.after.recorder.stream = closing.before.recorder.stream.set opening.place completed

structure Keeps (ahead : List RecordingStep) (step : RecordingStep) : Prop where
  restarts : step.call.restarts = true → step.after.recorder.stream = []
  grows : step.call.turns = false → step.before.recorder.stream <+: step.after.recorder.stream
  begins : ∀ flags, step.Begins flags → step.after.recorder.stream = step.before.recorder.stream ++ step.kept.toList ∧
    ∀ record ∈ step.kept, record.Fresh
  ends : step.call = .endPass → ∀ opening inside, Opened ahead opening inside → opening.Closes inside step
  idles : step.call = .endPass → (∀ opening inside, ¬ Opened ahead opening inside) →
    step.reply = .ended ⟨false, false⟩ ∧ step.after = step.before

variable {ahead inside : List RecordingStep} {opening step : RecordingStep}

theorem opened_concat : Opened (ahead ++ [step]) opening inside ↔
    (opening = step ∧ inside = [] ∧ ∃ flags, step.Begins flags) ∨
      step.call.turns = false ∧ ∃ rest, inside = rest ++ [step] ∧ Opened ahead opening rest := by
  constructor
  · rintro ⟨begins, ⟨before, split⟩, calm⟩
    rcases List.eq_nil_or_concat inside with rfl | ⟨rest, last, rfl⟩
    · obtain rfl := List.singleton_inj.mp (List.append_inj' split rfl).2
      exact .inl ⟨rfl, rfl, begins⟩
    · rw [List.concat_eq_append, ← List.cons_append, ← List.append_assoc] at split
      obtain ⟨same, last⟩ := List.append_inj' split rfl
      obtain rfl := List.singleton_inj.mp last
      exact .inr ⟨calm step (by simp), rest, List.concat_eq_append, begins, ⟨before, same⟩,
        fun member earlier => calm member (by simp [earlier])⟩
  · rintro (⟨rfl, rfl, begins⟩ | ⟨calm, rest, rfl, begins, ⟨before, rfl⟩, within⟩)
    · exact ⟨begins, ⟨ahead, rfl⟩, fun _ member => absurd member List.not_mem_nil⟩
    · refine ⟨begins, ⟨before, by simp⟩, ?_⟩
      intro member inside
      rcases List.mem_append.mp inside with earlier | here
      · exact within member earlier
      · rwa [List.mem_singleton.mp here]

theorem unended_cons {rest : List RecordingStep} (calm : step.call.turns = false) (unended : Unended (step :: rest)) :
    Unended rest := by
  intro inside closing behind split within
  refine unended (step :: inside) closing behind (by rw [split, List.cons_append]) ?_
  intro member here
  rcases List.mem_cons.mp here with rfl | later
  · exact calm
  · exact within member later

end RecordingStep

open RecordingStep

-- What the recorder knows of the part that is open, and that its record is still where it was put.
structure ActivePass.Stands (pass : ActivePass) (opening : RecordingStep) (inside : List RecordingStep) (stream : Stream) :
    Prop where
  flags : ∃ flags, opening.Begins flags ∧ pass.suspending = flags.suspending
  drawn : pass.drawCalls.toNat = drawn inside
  unkept : opening.kept = none → pass.position = none ∧ pass.captured = false
  kept : ∀ record, opening.kept = some record →
    record.Fresh ∧ pass.position = some opening.place ∧ stream[opening.place]? = some record

namespace Recording

structure Standing (ahead : List RecordingStep) (s : Recording) : Prop where
  opened : s.recorder.active.isSome = true → ∃ opening inside, Opened ahead opening inside
  part : ∀ opening inside, Opened ahead opening inside →
    ∃ pass, s.recorder.active = some pass ∧ pass.Stands opening inside s.recorder.stream

variable {s next : Recording} {call : RecorderCall} {reply : RecorderReply} {shown : List Event} {ahead : List RecordingStep}

theorem makes_within (makes : Makes s call reply next) (calm : call.turns = false) :
    s.recorder.stream <+: next.recorder.stream ∧ (next.recorder.active.isSome = true → s.recorder.active.isSome = true) ∧
      ∀ pass, s.recorder.active = some pass → ∃ count, next.recorder.active = some { pass with drawCalls := count } ∧
        count.toNat = pass.drawCalls.toNat + call.drawn := by
  cases makes with
  | started | reset | begun | resumed | ended => cases calm
  | finished | pushed | popped => exact ⟨List.prefix_refl _, id, fun pass opened => ⟨_, opened, rfl⟩⟩
  | appended records => exact ⟨List.prefix_append _ _, id, fun pass opened => ⟨_, opened, rfl⟩⟩
  | drawn count drawn counted =>
    obtain ⟨stats, ⟨closed, rfl⟩ | ⟨pass, total, opened, sum, rfl⟩⟩ := Recorder.draw_cases counted
    · exact ⟨List.prefix_refl _, id, fun pass opened => by rw [closed] at opened; cases opened⟩
    · refine ⟨List.prefix_refl _, fun _ => by rw [opened]; rfl, ?_⟩
      intro same standing
      cases opened.symm.trans standing
      exact ⟨total, rfl, sum⟩
  | recorded workload capture =>
    refine ⟨?_, ?_, fun pass opened => ⟨_, ?_, rfl⟩⟩
    · unfold Recorder.record
      split
      · exact List.prefix_refl _
      · cases capture
        · exact List.prefix_refl _
        · exact List.prefix_append _ _
    · rw [Recorder.active_record]
      exact id
    · rw [Recorder.active_record]
      exact opened

theorem within_open_at (makes : Makes s call reply next) (calm : call.turns = false) {position : Nat}
    (openAt : next.recorder.openAt = some position) : s.recorder.openAt = some position := by
  obtain ⟨_, before, going⟩ := makes_within makes calm
  cases opened : s.recorder.active with
  | none =>
    cases active : next.recorder.active with
    | none => simp [Recorder.openAt, active] at openAt
    | some pass => simp [opened, active] at before
  | some pass =>
    obtain ⟨count, active, _⟩ := going pass opened
    rw [Recorder.openAt, active, Option.bind_some] at openAt
    rw [Recorder.openAt, opened, Option.bind_some, openAt]

theorem makes_end (makes : Makes s .endPass reply next) :
    next.recorder.active = none ∧
      (s.recorder.active = none → reply = .ended ⟨false, false⟩ ∧ next = s) ∧
      ∀ pass, s.recorder.active = some pass →
        reply = .ended ⟨pass.suspending, !pass.suspending && pass.captured⟩ ∧
        (pass.position = none → next.recorder.stream = s.recorder.stream) ∧
        ∀ position, pass.position = some position → next.recorder.stream = s.recorder.stream.modify position fun record =>
          { record with workload := record.workload.complete pass.drawCalls (!pass.suspending && pass.captured) } := by
  cases makes
  unfold Recorder.endPass
  cases opened : s.recorder.active with
  | none => exact ⟨opened, fun _ => ⟨rfl, rfl⟩, fun _ never => (nomatch never)⟩
  | some pass =>
    refine ⟨rfl, fun never => (nomatch never), ?_⟩
    rintro _ ⟨⟩
    refine ⟨rfl, fun unkept => ?_, fun position kept => ?_⟩
    · simp only [unkept]
    · simp only [kept]

theorem standing_new (raw : RawBuffer) (level : BufferLevel) (tags : TagSource) : Standing [] ⟨.new raw level, tags⟩ := by
  refine ⟨fun opened => by simp [Recorder.new] at opened, ?_⟩
  rintro opening inside ⟨_, ⟨before, split⟩, _⟩
  simp at split

theorem standing_closed {step : RecordingStep} (turns : step.call.turns = true) (other : ∀ flags, ¬ step.Begins flags)
    (closed : next.recorder.active = none) : Standing (ahead ++ [step]) next := by
  refine ⟨fun opened => by simp [closed] at opened, ?_⟩
  intro opening inside opened
  rcases opened_concat.mp opened with ⟨_, _, flags, begins⟩ | ⟨calm, _⟩
  · exact absurd begins (other flags)
  · rw [turns] at calm
    cases calm

theorem standing_step (standing : Standing ahead s) (made : perform call s = ⟨shown, .ok (reply, next)⟩) :
    Standing (ahead ++ [⟨s, call, shown, reply, next⟩]) next := by
  have makes := makes_of_ok made
  cases call with
  | start | reset =>
    cases makes
    exact standing_closed rfl (fun flags ⟨_, _, other, _⟩ => (nomatch other)) rfl
  | endPass => exact standing_closed rfl (fun flags ⟨_, _, other, _⟩ => (nomatch other)) (makes_end makes).1
  | beginPass begun mode =>
    obtain ⟨_, pass, opened, suspending, none, kept⟩ := makes_begin makes
    have begins : Begins ⟨s, .beginPass begun mode, shown, reply, next⟩ begun.flags := ⟨begun, mode, rfl, rfl⟩
    refine ⟨fun _ => ⟨_, [], opened_concat.mpr (.inl ⟨rfl, rfl, begun.flags, begins⟩)⟩, ?_⟩
    intro opening inside part
    obtain ⟨rfl, rfl, _⟩ | ⟨calm, _⟩ := opened_concat.mp part
    · refine ⟨pass, opened, ⟨begun.flags, begins, suspending⟩, by rw [none]; rfl, ?_, ?_⟩
      · rcases kept with ⟨unplaced, uncaptured, _⟩ | ⟨record, _, _, stream⟩
        · exact fun _ => ⟨unplaced, uncaptured⟩
        · simp [RecordingStep.kept, place, stream]
      · rcases kept with ⟨_, _, stream⟩ | ⟨record, fresh, placed, stream⟩
        · simp [RecordingStep.kept, place, stream]
        · intro same kept
          obtain rfl : record = same := by simpa [RecordingStep.kept, place, stream] using kept
          exact ⟨fresh, placed, kept⟩
    · cases calm
  | _ =>
    obtain ⟨⟨more, stream⟩, before, going⟩ := makes_within makes rfl
    refine ⟨?_, ?_⟩
    · intro opened
      obtain ⟨opening, inside, part⟩ := standing.opened (before opened)
      exact ⟨opening, _, opened_concat.mpr (.inr ⟨rfl, inside, rfl, part⟩)⟩
    · intro opening inside part
      obtain ⟨_, _, _, _, _, other, _⟩ | ⟨_, inside, rfl, earlier⟩ := opened_concat.mp part
      · cases other
      obtain ⟨pass, opened, stands⟩ := standing.part opening inside earlier
      obtain ⟨count, active, sum⟩ := going pass opened
      refine ⟨_, active, stands.flags, ?_, stands.unkept, ?_⟩
      · have earlier := stands.drawn
        simp only [drawn, List.map_append, List.map_cons, List.map_nil, List.sum_append, List.sum_singleton] at earlier ⊢
        rw [sum, earlier]
      · intro record kept
        obtain ⟨fresh, placed, there⟩ := stands.kept record kept
        refine ⟨fresh, placed, ?_⟩
        rw [← stream, List.getElem?_append_left (List.getElem?_eq_some_iff.mp there).1, there]

theorem run_standing {raw : RawBuffer} {level : BufferLevel} {tags : TagSource} {last : Recording}
    (run : Run ⟨.new raw level, tags⟩ ahead last) : Standing ahead last := by
  induction run with
  | start => exact standing_new raw level tags
  | step steps s next call shown reply _ made ih => exact standing_step ih made

theorem closes_of_stands {opening : RecordingStep} {inside : List RecordingStep} {pass : ActivePass}
    (opened : s.recorder.active = some pass) (stands : pass.Stands opening inside s.recorder.stream)
    (makes : Makes s .endPass reply next) : opening.Closes inside ⟨s, .endPass, shown, reply, next⟩ := by
  obtain ⟨_, _, ends⟩ := makes_end makes
  obtain ⟨answer, unkept, completes⟩ := ends pass opened
  obtain ⟨flags, begins, suspending⟩ := stands.flags
  refine ⟨fun record kept => (stands.kept record kept).2.2, flags, !pass.suspending && pass.captured, begins, ?_, ?_, ?_, ?_⟩
  · rw [answer, suspending]
  · intro needs
    cases kept : opening.kept with
    | some record => rfl
    | none =>
      rw [(stands.unkept kept).2, Bool.and_false] at needs
      cases needs
  · exact fun none => unkept (stands.unkept none).1
  · intro record kept
    obtain ⟨fresh, placed, there⟩ := stands.kept record kept
    refine ⟨_, Record.completed_of_part fresh.part stands.drawn _, ?_⟩
    rw [completes _ placed, Recorder.modify_ended there]

theorem keeps_of_standing (standing : Standing ahead s) (made : perform call s = ⟨shown, .ok (reply, next)⟩) :
    Keeps ahead ⟨s, call, shown, reply, next⟩ := by
  have makes := makes_of_ok made
  constructor
  · intro restarts
    cases makes <;> first | rfl | cases restarts
  · exact fun calm => (makes_within makes calm).1
  · rintro flags ⟨begun, mode, rfl, rfl⟩
    obtain ⟨_, pass, opened, _, _, ⟨_, _, stream⟩ | ⟨record, fresh, _, stream⟩⟩ := makes_begin makes
    · simp [kept, place, stream]
    · simp [kept, place, stream, fresh]
  · rintro rfl opening inside part
    obtain ⟨pass, opened, stands⟩ := standing.part opening inside part
    exact closes_of_stands opened stands makes
  · rintro rfl none
    refine (makes_end makes).2.1 ?_
    cases opened : s.recorder.active with
    | none => rfl
    | some pass =>
      obtain ⟨opening, inside, part⟩ := standing.opened (by rw [opened]; rfl)
      exact absurd part (none opening inside)

theorem lasts {rest : List RecordingStep} {last : Recording} (run : Run s rest last)
    (going : ∀ step ∈ rest, step.call.restarts = false) {position : Nat} {record : Record}
    (there : s.recorder.stream[position]? = some record) (unended : s.recorder.openAt = some position → Unended rest) :
    last.recorder.stream[position]? = some record := by
  induction rest generalizing s with
  | nil =>
    cases run_outcome run
    exact there
  | cons step rest ih =>
    obtain ⟨rfl, made, later⟩ := run_cons run
    have bound := (List.getElem?_eq_some_iff.mp there).1
    obtain ⟨first, following⟩ := List.forall_mem_cons.mp going
    have makes := makes_of_ok made
    cases call : step.call with
    | start | reset =>
      rw [call] at first
      cases first
    | beginPass begun mode =>
      rw [call] at makes
      obtain ⟨_, pass, opened, _, _, kept⟩ := makes_begin makes
      refine ih later following ?_ ?_
      · rcases kept with ⟨_, _, stream⟩ | ⟨record, _, _, stream⟩
        · rw [stream, there]
        · rw [stream, List.getElem?_append_left bound, there]
      · -- A part that begins here has its place behind every record so far.
        intro openAt
        rw [Recorder.openAt, opened, Option.bind_some] at openAt
        rcases kept with ⟨unplaced, _⟩ | ⟨_, _, placed, _⟩
        · rw [unplaced] at openAt
          cases openAt
        · rw [placed] at openAt
          cases openAt
          exact absurd bound (Nat.lt_irrefl _)
    | endPass =>
      rw [call] at makes
      obtain ⟨closed, idle, ends⟩ := makes_end makes
      refine ih later following ?_ fun openAt => by simp [Recorder.openAt, closed] at openAt
      cases opened : step.before.recorder.active with
      | none => rw [(idle opened).2, there]
      | some pass =>
        obtain ⟨_, unkept, completes⟩ := ends pass opened
        cases placed : pass.position with
        | none => rw [unkept placed, there]
        | some place =>
          have apart : place ≠ position := by
            rintro rfl
            have here : step.before.recorder.openAt = some place := by
              rw [Recorder.openAt, opened, Option.bind_some, placed]
            exact unended here [] step rest rfl (fun _ member => absurd member List.not_mem_nil) call
          rw [completes place placed]
          exact (List.getElem?_modify_ne _ _ apart).trans there
    | _ =>
      rw [call] at makes
      obtain ⟨⟨more, stream⟩, _, _⟩ := makes_within makes rfl
      refine ih later following (by rw [← stream, List.getElem?_append_left bound, there]) ?_
      exact fun openAt => unended_cons (by rw [call]; rfl) (unended (within_open_at makes rfl openAt))

/-- In every sequence of calls whose draws fit, each call is made. Every end of a part completes the
record that the begin of the part kept, where it was kept, and a record stays as it is until the
recording starts over, unless it is that of the open part and the part is ended. -/
theorem parts_completed_where_kept (raw : RawBuffer) (level : BufferLevel) (tags : TagSource) (calls : List RecorderCall) :
    (RecorderCall.Fits calls → (trace ⟨.new raw level, tags⟩ calls).map (·.call) = calls) ∧
      (∀ ahead step behind, trace ⟨.new raw level, tags⟩ calls = ahead ++ step :: behind → Keeps ahead step) ∧
      (∀ ahead rest later, trace ⟨.new raw level, tags⟩ calls = ahead ++ rest ++ later →
        (∀ step ∈ rest, step.call.restarts = false) →
        ∀ position record, (outcome ⟨.new raw level, tags⟩ ahead).recorder.stream[position]? = some record →
          (∀ opening inside, Opened ahead opening inside → opening.kept.isSome = true → opening.place = position →
            Unended rest) →
          (outcome ⟨.new raw level, tags⟩ (ahead ++ rest)).recorder.stream[position]? = some record) ∧
      ∀ ahead opening rest later, trace ⟨.new raw level, tags⟩ calls = ahead ++ opening :: rest ++ later →
        (∀ step ∈ rest, step.call.restarts = false) → (∃ flags, opening.Begins flags) → Unended rest →
        ∀ record, opening.kept = some record →
          (outcome ⟨.new raw level, tags⟩ (ahead ++ opening :: rest)).recorder.stream[opening.place]? = some record ∧
            record.traps = false ∧ record.draws = 0 := by
  have run := run_trace ⟨.new raw level, tags⟩ calls
  refine ⟨trace_new raw level tags, ?_, ?_, ?_⟩
  · intro ahead step behind split
    rw [split] at run
    obtain ⟨middle, before, later⟩ := run_split run
    obtain ⟨rfl, made, _⟩ := run_cons later
    exact keeps_of_standing (run_standing before) made
  · intro ahead rest later split going position record there unended
    rw [split] at run
    obtain ⟨last, run, _⟩ := run_split run
    obtain ⟨middle, before, after⟩ := run_split run
    rw [run_outcome run]
    rw [run_outcome before] at there
    refine lasts after going there ?_
    intro openAt
    cases opened : middle.recorder.active with
    | none => simp [Recorder.openAt, opened] at openAt
    | some pass =>
      obtain ⟨opening, inside, part⟩ := (run_standing before).opened (by rw [opened]; rfl)
      obtain ⟨same, active, stands⟩ := (run_standing before).part opening inside part
      cases opened.symm.trans active
      rw [Recorder.openAt, opened, Option.bind_some] at openAt
      cases kept : opening.kept with
      | none => simp [(stands.unkept kept).1] at openAt
      | some record =>
        rw [(stands.kept record kept).2.1] at openAt
        exact unended opening inside part (by rw [kept]; rfl) (Option.some.inj openAt)
  · intro ahead opening rest later split going begins unended record kept
    rw [split, List.append_assoc] at run
    obtain ⟨middle, before, here⟩ := run_split run
    obtain ⟨last, run, _⟩ := run_split here
    obtain ⟨rfl, made, after⟩ := run_cons run
    have standing := standing_step (run_standing before) made
    obtain ⟨pass, opened, stands⟩ := standing.part opening [] (opened_concat.mpr (.inl ⟨rfl, rfl, begins⟩))
    obtain ⟨fresh, _, there⟩ := stands.kept record kept
    rw [run_outcome (run_append before run)]
    exact ⟨lasts after going there fun _ => unended, fresh.silent, fresh.undrawn⟩

def copiedWithin : List RecorderCall :=
  [.start, .beginPass ⟨4, 4, 1, ⟨false, false⟩⟩ .capture, .draw 2, .append [⟨.dispatch .indirect, ["x"]⟩], .draw 3, .endPass]

theorem part_completed_before_copied_records :
    ∃ ahead step, trace ⟨.new 7 .primary, .first⟩ copiedWithin = ahead ++ [step] ∧ Keeps ahead step ∧
      step.reply = .ended ⟨false, true⟩ ∧
      step.after.recorder.stream = [⟨.renderPass ⟨1, 4, 4, 1, false, 5, true⟩, []⟩, ⟨.dispatch .indirect, ["x"]⟩] := by
  have split : ∃ ahead step, trace ⟨.new 7 .primary, .first⟩ copiedWithin = ahead ++ [step] ∧
      step.reply = .ended ⟨false, true⟩ ∧
      step.after.recorder.stream = [⟨.renderPass ⟨1, 4, 4, 1, false, 5, true⟩, []⟩, ⟨.dispatch .indirect, ["x"]⟩] :=
    ⟨[_, _, _, _, _], _, rfl, rfl, rfl⟩
  obtain ⟨ahead, step, traced, reply, stream⟩ := split
  exact ⟨ahead, step, traced, (parts_completed_where_kept 7 .primary .first copiedWithin).2.1 ahead step [] traced,
    reply, stream⟩

end Recording

end GpuProfiler
