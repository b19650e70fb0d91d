import GpuProfiler.Proofs.RenderPass.Dictation

set_option autoImplicit false

namespace GpuProfiler

namespace Command

def draws (recorded : Command) : Nat := (recorded.drawCount.getD 0).toNat

theorem draws_of_work {recorded : Command} {workload : Workload} (works : recorded.workload = .ok (some workload)) :
    recorded.draws = 0 := by
  cases recorded <;> first | rfl | cases works

-- Within a part: draws, labels, and what is no work.
def isWithin (recorded : Command) : Bool := recorded.fitsPass && recorded != .endRenderPass

def isAside : Command → Bool
  | .beginRenderPass _ | .endRenderPass => false
  | _ => true

end Command

namespace Mark

-- The draws that the device executes for it, recorded into the buffer itself or into those executed there.
def executed (mark : Mark) : Nat := (mark.commands.map Command.draws).sum

def drawn : Mark → Nat
  | .command recorded _ _ => recorded.draws
  | _ => 0

def copied? : Mark → List Command
  | .copied commands => commands
  | _ => []

def elsewhere (mark : Mark) : Nat := (mark.copied?.map Command.draws).sum

theorem executed_split (mark : Mark) : mark.executed = mark.drawn + mark.elsewhere := by
  cases mark with
  | copied commands => exact (Nat.zero_add _).symm
  | _ => rfl

def isPlain (mark : Mark) : Bool := mark.copied?.all (!·.begins)

def isInside : Mark → Bool
  | .command recorded _ _ => recorded.isAside
  | .copied _ | .finished => true
  | .opened => false

-- Leaves what is suspended, unless the buffer is another one behind it.
def isBeside (mark : Mark) : Bool := mark.isPlain && (mark.isInside || mark == .opened)

-- The same, with nothing recorded but draws and nothing executed.
def isWithin : Mark → Bool
  | .command recorded _ _ => recorded.isWithin
  | _ => false

def isAside : Mark → Bool
  | .command recorded _ _ => recorded.isAside
  | .opened | .finished => true
  | .copied _ => false

end Mark

namespace Recorder

-- What is recorded where no part is open leaves its record, if any, and the parts alone.
structure Leaves (recorder next : Recorder) : Prop where
  active : next.active = none
  suspended : next.suspended = recorder.suspended
  stream : next.stream = recorder.stream ++ (recorder.stream.news next.stream).toList
  others : ∀ record, recorder.stream.news next.stream = some record → isPass record.workload = false ∧ record.traps = true

variable {recorder next : Recorder}

theorem leaves_same (active : next.active = none) (suspended : next.suspended = recorder.suspended)
    (stream : next.stream = recorder.stream) : recorder.Leaves next :=
  ⟨active, suspended, by simp [stream, Stream.news_same], by simp [stream, Stream.news_same]⟩

theorem leaves_record (idle : recorder.active = none) (workload : Workload) (capture : Bool) :
    recorder.Leaves (recorder.record workload capture).2 := by
  unfold record
  split
  · exact leaves_same idle rfl rfl
  · next other =>
    cases capture with
    | false => exact leaves_same idle rfl rfl
    | true =>
      have traps : workload.traps = true := by cases workload <;> first | rfl | exact absurd rfl other
      simp only [if_true]
      refine ⟨idle, rfl, ?_, ?_⟩
      · simp [push, Stream.news_concat, Record.traps, traps]
      · intro record new
        simp only [push, Stream.news_concat, Record.traps, traps, if_true, Option.some.injEq] at new
        rw [← new]
        exact ⟨by simpa using other, traps⟩

end Recorder

namespace Recording

variable {s : Recording} {recorded : Command} {mode : CaptureMode} {stops : Bool} {next : Recorder}

theorem Effect.inside (effect : Effect s mode recorded stops next) (aside : recorded.isAside = true) {pass : ActivePass}
    (opened : s.recorder.active = some pass) :
    ∃ drawCalls more, next.active = some { pass with drawCalls := drawCalls } ∧
      drawCalls.toNat = pass.drawCalls.toNat + recorded.draws ∧ next.stream = s.recorder.stream ++ more ∧
      (∀ record ∈ more, Recorder.isPass record.workload = false) ∧ (recorded.isWithin = true → more = []) := by
  have unchanged : s.recorder.stream = s.recorder.stream ++ [] := (List.append_nil _).symm
  cases effect with
  | begun | resumed | ended => cases aside
  | drawn _ count _ counts ran =>
    obtain ⟨stats, ⟨idle, _⟩ | ⟨part, total, active, sum, rfl⟩⟩ := Recorder.draw_cases ran
    · rw [opened] at idle
      cases idle
    · obtain rfl := Option.some.inj (opened.symm.trans active)
      refine ⟨total, [], rfl, ?_, unchanged, List.forall_mem_nil _, fun _ => rfl⟩
      rw [sum, Command.draws, counts]
      rfl
  | worked _ workload works =>
    rw [Command.draws_of_work works]
    refine ⟨pass.drawCalls, _, (Recorder.active_record ..).trans opened, rfl, Recorder.stream_record .., ?_, ?_⟩
    · cases part : Recorder.isPass workload <;> cases mode.captures <;> simp [part]
    · intro within
      simp [Command.isWithin, Command.work_outside works] at within
  | pushed | popped | other =>
    exact ⟨pass.drawCalls, [], opened, rfl, unchanged, List.forall_mem_nil _, fun _ => rfl⟩

theorem Effect.leaves (effect : Effect s mode recorded stops next) (aside : recorded.isAside = true)
    (idle : s.recorder.active = none) : s.recorder.Leaves next := by
  cases effect with
  | begun | resumed | ended => cases aside
  | drawn _ count _ _ ran =>
    obtain ⟨stats, ⟨_, rfl⟩ | ⟨part, total, active, _, rfl⟩⟩ := Recorder.draw_cases ran
    · exact Recorder.leaves_same idle rfl rfl
    · rw [idle] at active
      cases active
  | worked _ workload _ => exact Recorder.leaves_record idle workload mode.captures
  | _ => exact Recorder.leaves_same idle rfl rfl

end Recording

namespace Dictation

variable {profiled : Bool} {first last : Dictation} {mark : Mark} {marks : List Mark} {pieces : List Piece}

theorem step_inside {pass : ActivePass} (inside : mark.isInside = true) (step : Step profiled first mark pieces last)
    (opened : first.recorder.active = some pass) :
    ∃ drawCalls more, last.recorder.active = some { pass with drawCalls := drawCalls } ∧
      drawCalls.toNat = pass.drawCalls.toNat + mark.drawn ∧ last.closed = first.closed ∧
      last.recorder.stream = first.recorder.stream ++ more ∧
      (mark.isPlain = true → ∀ record ∈ more, Recorder.isPass record.workload = false) ∧
      (mark.isWithin = true → more = [] ∧ Piece.sampledIn pieces = []) := by
  cases step with
  | opened => cases inside
  | command recorded mode tag notes stops next used _ _ ran =>
    have effect := (Act.ends_of_ok (Recording.ends_effect _ recorded mode) ran).2
    obtain ⟨drawCalls, more, active, sum, stream, others, none⟩ := effect.inside inside opened
    refine ⟨drawCalls, more, active, sum, rfl, stream, fun _ => others, ?_⟩
    intro within
    have same : next.stream = first.recorder.stream := by rw [stream, none within, List.append_nil]
    rw [Piece.sampled_in_one, same, Stream.news_same]
    exact ⟨none within, rfl⟩
  | copied records _ _ _ silent =>
    refine ⟨pass.drawCalls, records, opened, rfl, rfl, rfl, fun plain => silent ?_, fun never => by cases never⟩
    simpa [Mark.isPlain, Mark.copied?] using plain
  | finished =>
    exact ⟨pass.drawCalls, [], opened, rfl, rfl, (List.append_nil _).symm, fun _ => List.forall_mem_nil _,
      fun never => by cases never⟩

theorem takes_inside {pass : ActivePass} (inside : ∀ mark ∈ marks, mark.isInside = true)
    (takes : Takes profiled first marks pieces last) (opened : first.recorder.active = some pass) :
    ∃ drawCalls more, last.recorder.active = some { pass with drawCalls := drawCalls } ∧
      drawCalls.toNat = pass.drawCalls.toNat + (marks.map Mark.drawn).sum ∧ last.closed = first.closed ∧
      last.recorder.stream = first.recorder.stream ++ more ∧
      ((∀ mark ∈ marks, mark.isPlain = true) → ∀ record ∈ more, Recorder.isPass record.workload = false) ∧
      ((∀ mark ∈ marks, mark.isWithin = true) → more = [] ∧ Piece.sampledIn pieces = []) := by
  induction takes generalizing pass with
  | nil =>
    exact ⟨pass.drawCalls, [], opened, rfl, rfl, (List.append_nil _).symm, fun _ => List.forall_mem_nil _,
      fun _ => ⟨rfl, rfl⟩⟩
  | cons first middle last mark rest here later step _ ih =>
    rw [List.forall_mem_cons] at inside
    obtain ⟨drawCalls, new, active, sum, closed, stream, plain, still⟩ := step_inside inside.1 step opened
    obtain ⟨total, more, ended, all, kept, whole, others, quiet⟩ := ih inside.2 active
    refine ⟨total, new ++ more, ended, ?_, kept.trans closed, ?_, ?_, ?_⟩
    · rw [all, sum, List.map_cons, List.sum_cons, Nat.add_assoc]
    · rw [whole, stream, List.append_assoc]
    · intro silent
      rw [List.forall_mem_cons] at silent
      rw [List.forall_mem_append]
      exact ⟨plain silent.1, others silent.2⟩
    · intro within
      rw [List.forall_mem_cons] at within
      obtain ⟨rfl, silent⟩ := still within.1
      obtain ⟨rfl, none⟩ := quiet within.2
      rw [Piece.sampled_in_append, silent, none]
      exact ⟨rfl, rfl⟩

theorem step_beside (beside : mark.isBeside = true) (step : Step profiled first mark pieces last)
    (idle : first.recorder.active = none) :
    last.recorder.active = none ∧
      last.recorder.suspended = (if .opened == mark then none else first.recorder.suspended) ∧
      ∃ more, last.records = first.records ++ more ∧ (∀ record ∈ more, Recorder.isPass record.workload = false) ∧
        (mark.isAside = true → more = Piece.sampledIn pieces ∧ ∀ record ∈ more, record.traps = true) := by
  have none : mark.isAside = true → [] = Piece.sampledIn [] ∧ ∀ record ∈ ([] : Stream), record.traps = true :=
    fun _ => ⟨rfl, List.forall_mem_nil _⟩
  cases step with
  | opened afresh blank =>
    refine ⟨blank.active, blank.suspended, [], ?_, List.forall_mem_nil _, none⟩
    rw [Dictation.records, blank.stream]
  | command recorded mode tag notes stops next used _ _ ran =>
    have aside : recorded.isAside = true := by simpa [Mark.isBeside, Mark.isInside] using (Bool.and_eq_true_iff.mp beside).2
    have effect := (Act.ends_of_ok (Recording.ends_effect _ recorded mode) ran).2
    obtain ⟨active, suspended, stream, pushed⟩ := effect.leaves aside idle
    refine ⟨active, suspended, _, ?_, fun record member => (pushed record (Option.mem_toList.mp member)).1, ?_⟩
    · rw [Dictation.records, Dictation.records, List.append_assoc]
      exact congrArg (first.closed ++ ·) stream
    · intro _
      rw [Piece.sampled_in_one]
      exact ⟨rfl, fun record member => (pushed record (Option.mem_toList.mp member)).2⟩
  | copied records _ _ _ silent =>
    refine ⟨idle, rfl, records, (List.append_assoc _ _ _).symm, silent ?_, fun never => by cases never⟩
    simpa [Mark.isPlain, Mark.copied?] using (Bool.and_eq_true_iff.mp beside).1
  | finished => exact ⟨idle, rfl, [], (List.append_nil _).symm, List.forall_mem_nil _, none⟩

theorem takes_beside (beside : ∀ mark ∈ marks, mark.isBeside = true) (takes : Takes profiled first marks pieces last)
    (idle : first.recorder.active = none) :
    last.recorder.active = none ∧
      last.recorder.suspended = (if marks.contains .opened then none else first.recorder.suspended) ∧
      ∃ more, last.records = first.records ++ more ∧ (∀ record ∈ more, Recorder.isPass record.workload = false) ∧
        ((∀ mark ∈ marks, mark.isAside = true) → more = Piece.sampledIn pieces ∧ ∀ record ∈ more, record.traps = true) := by
  induction takes with
  | nil =>
    exact ⟨idle, rfl, [], (List.append_nil _).symm, List.forall_mem_nil _, fun _ => ⟨rfl, List.forall_mem_nil _⟩⟩
  | cons first middle last mark rest here later step _ ih =>
    rw [List.forall_mem_cons] at beside
    obtain ⟨active, suspended, new, records, others, sampled⟩ := step_beside beside.1 step idle
    obtain ⟨ended, left, more, whole, further, follow⟩ := ih beside.2 active
    refine ⟨ended, ?_, new ++ more, by rw [whole, records, List.append_assoc], ?_, ?_⟩
    · rw [left, suspended, List.contains_cons]
      cases Mark.opened == mark <;> cases rest.contains .opened <;> rfl
    · rw [List.forall_mem_append]
      exact ⟨others, further⟩
    · intro aside
      rw [List.forall_mem_cons] at aside
      obtain ⟨same, traps⟩ := sampled aside.1
      obtain ⟨also, trapped⟩ := follow aside.2
      rw [Piece.sampled_in_append, List.forall_mem_append, same, also]
      exact ⟨rfl, same ▸ traps, also ▸ trapped⟩

end Dictation

structure PassPart where
  begun : RenderPassBegin
  mode : CaptureMode
  tag : RenderPassTag
  inside : List Mark
  endMode : CaptureMode
  endTag : RenderPassTag

namespace PassPart

def suspends (part : PassPart) : Bool := part.begun.flags.suspending

def resumes (part : PassPart) : Bool := part.begun.flags.resuming

def marks (part : PassPart) : List Mark :=
  .command (.beginRenderPass part.begun) part.mode part.tag :: (part.inside ++ [.command .endRenderPass part.endMode part.endTag])

def draws (part : PassPart) : Nat := (part.inside.map Mark.drawn).sum

variable (part : PassPart) (before : Option SuspendedPass)

def origin : Option RenderPassTag := if part.resumes then before.bind (·.tag) else some part.tag

def captured : Bool :=
  match before with
  | some held => if part.resumes then held.captured else part.mode.captures
  | none => part.mode.captures

-- Whether a record of it is kept where anything is tracked.
def kept : Bool := part.captured before || ((part.suspends || part.resumes) && part.mode != .off)

theorem kept_several (several : (part.suspends || part.resumes) = true) (on : part.mode ≠ .off) : part.kept before = true := by
  rw [kept, several, Bool.true_and, bne_iff_ne.mpr on, Bool.or_true]

def workload : Workload :=
  if part.resumes then .continuation ⟨before.bind (·.tag), part.suspends, 0, false⟩
  else .renderPass ⟨part.tag, part.begun.width, part.begun.height, part.begun.attachments, part.suspends, 0, false⟩

def traps : Bool := !part.suspends && part.captured before

theorem workload_awaits (labels : Labels) : Record.Awaits ⟨part.workload before, labels⟩ part.suspends := by
  unfold workload
  split <;> exact ⟨rfl, rfl, rfl⟩

end PassPart

namespace Recorder

variable {recorder : Recorder}

theorem open_pass_kept {flags : RenderPassFlags} {mode : CaptureMode} {captured : Bool}
    (kept : (captured || ((flags.suspending || flags.resuming) && mode != .off)) = true)
    (tag : Option RenderPassTag) (workload : Workload) :
    recorder.openPass flags mode captured tag workload =
      { recorder.push workload with active := some ⟨some recorder.stream.length, tag, captured, flags.suspending, 0⟩ } := by
  simp only [openPass, kept, if_true]

end Recorder

theorem Recording.Effect.begins {s : Recording} {part : PassPart} {stops : Bool} {next : Recorder}
    (effect : Effect s part.mode (.beginRenderPass part.begun) stops next) (kept : part.kept s.recorder.suspended = true)
    (tag : part.tag = s.tags.next) :
    next.active = some ⟨some s.recorder.stream.length, part.origin s.recorder.suspended,
        part.captured s.recorder.suspended, part.suspends, 0⟩ ∧
      next.stream = s.recorder.stream ++ [⟨part.workload s.recorder.suspended, s.recorder.labels.snapshot⟩] := by
  cases effect with
  | begun _ afresh =>
    have opens : s.recorder.beginPass s.tags.next part.begun part.mode =
        Recorder.openPass { s.recorder with stats := { s.recorder.stats with renderPasses := s.recorder.stats.renderPasses + 1 } }
          part.begun.flags part.mode (part.captured s.recorder.suspended) (part.origin s.recorder.suspended)
          (part.workload s.recorder.suspended) := by
      unfold PassPart.captured
      cases s.recorder.suspended <;> simp [Recorder.beginPass, PassPart.origin, PassPart.workload, PassPart.resumes,
        PassPart.suspends, afresh, tag]
    rw [opens, Recorder.open_pass_kept kept]
    exact ⟨rfl, rfl⟩
  | resumed _ resumes =>
    have opens : s.recorder.resumePass part.begun part.mode =
        Recorder.openPass { s.recorder with suspended := none } part.begun.flags part.mode (part.captured s.recorder.suspended)
          (part.origin s.recorder.suspended) (part.workload s.recorder.suspended) := by
      unfold PassPart.captured Recorder.resumePass
      cases s.recorder.suspended <;> simp [PassPart.origin, PassPart.workload, PassPart.resumes, PassPart.suspends, resumes]
    rw [opens, Recorder.open_pass_kept kept]
    exact ⟨rfl, rfl⟩
  | drawn _ _ _ counts _ => cases counts
  | worked _ _ works => cases works

theorem Recording.Effect.ends {s : Recording} {mode : CaptureMode} {stops : Bool} {next : Recorder}
    (effect : Effect s mode .endRenderPass stops next) {pass : ActivePass} {front tail : Stream} {record : Record}
    (opened : s.recorder.active = some pass) (place : pass.position = some front.length)
    (stream : s.recorder.stream = front ++ record :: tail) :
    next.active = none ∧ next.suspended = (if pass.suspending then some ⟨pass.tag, pass.captured⟩ else none) ∧
      next.stream =
        front ++ ⟨record.workload.complete pass.drawCalls (!pass.suspending && pass.captured), record.labels⟩ :: tail := by
  cases effect with
  | ended =>
    have there : s.recorder.stream[front.length]? = some record := by simp [stream]
    simp only [Recorder.endPass, opened, place, Recorder.modify_ended there]
    simp [stream]
  | drawn _ _ _ counts _ => cases counts
  | worked _ _ works => cases works

theorem Stream.news_place (front tail : Stream) {old : Record} (record : Record) (silent : old.traps = false) :
    news (front ++ old :: tail) (front ++ record :: tail) = if record.traps then some record else none := by
  have there : (front ++ old :: tail)[front.length]? = some old := by simp
  rw [← news_set record there silent, List.set_append_right _ _ (Nat.le_refl _), Nat.sub_self, List.set_cons_zero]

namespace Dictation

variable {first last : Dictation} {pieces : List Piece}

theorem step_end {pass : ActivePass} {front tail : Stream} {record : Record} {mode : CaptureMode} {tag : RenderPassTag}
    (opened : first.recorder.active = some pass) (place : pass.position = some front.length)
    (stream : first.recorder.stream = front ++ record :: tail) (awaits : record.Awaits pass.suspending)
    (step : Step true first (.command .endRenderPass mode tag) pieces last) :
    ∃ completed : Record, completed.workload = record.workload.complete pass.drawCalls (!pass.suspending && pass.captured) ∧
      last.closed = first.closed ∧ last.recorder.active = none ∧
      last.recorder.suspended = (if pass.suspending then some ⟨pass.tag, pass.captured⟩ else none) ∧
      last.recorder.stream = front ++ completed :: tail ∧
      pieces = [⟨.endRenderPass, if !pass.suspending && pass.captured then some completed else none⟩] := by
  cases step with
  | command _ _ _ _ _ next _ _ _ ran =>
    have effect := (Act.ends_of_ok (Recording.ends_effect _ _ mode) ran).2
    obtain ⟨idle, suspended, whole⟩ := effect.ends opened place stream
    have after : next.stream = front ++ ⟨record.workload.complete pass.drawCalls (!pass.suspending && pass.captured),
      record.labels⟩ :: tail := whole
    obtain ⟨stops, _, _⟩ := Record.awaits_complete awaits pass.drawCalls (!pass.suspending && pass.captured)
    refine ⟨_, rfl, rfl, idle, suspended, after, ?_⟩
    rw [after, stream, Stream.news_place front tail _ awaits.silent, stops]

theorem takes_begun {part : PassPart} (kept : part.mode ≠ .off → part.kept first.recorder.suspended = true)
    (takes : Takes true first part.marks pieces last) :
    ∃ middle held labels inner ending, pieces = ⟨.beginRenderPass part.begun, none⟩ :: (inner ++ ending) ∧
      middle.closed = first.closed ∧
      middle.recorder.active = some ⟨some first.recorder.stream.length, part.origin first.recorder.suspended,
        part.captured first.recorder.suspended, part.suspends, 0⟩ ∧
      middle.recorder.stream = first.recorder.stream ++ [⟨part.workload first.recorder.suspended, labels⟩] ∧
      Takes true middle part.inside inner held ∧
      Step true held (.command .endRenderPass part.endMode part.endTag) ending last := by
  obtain ⟨middle, here, later, rfl, begins, onward⟩ := takes_cons takes
  obtain ⟨held, inner, ending, rfl, inside, ended⟩ := takes_split onward
  obtain ⟨final, after, behind, rfl, ends, done⟩ := takes_cons ended
  cases done
  rw [List.append_nil]
  cases begins with
  | command _ _ _ _ _ next _ _ tracked ran =>
    have effect := (Act.ends_of_ok (Recording.ends_effect _ _ part.mode) ran).2
    obtain ⟨active, stream⟩ := effect.begins (kept (tracked rfl)) rfl
    have silent : first.recorder.stream.news next.stream = none := by
      have whole : next.stream = first.recorder.stream ++ _ := stream
      rw [whole, Stream.news_concat, (part.workload_awaits _ _).silent]
      rfl
    rw [silent]
    exact ⟨⟨first.closed, next⟩, held, _, inner, after, rfl, rfl, active, stream, inside, ends⟩

-- A part leaves its record, with its draws, and behind that what was recorded within it; and what is
-- known of its pass if it suspends.
structure Drawn (part : PassPart) (first : Dictation) (quiet : List Piece) (record : Record) (tail : Stream)
    (last : Dictation) : Prop where
  active : last.recorder.active = none
  suspended : last.recorder.suspended =
    if part.suspends then some ⟨part.origin first.recorder.suspended, part.captured first.recorder.suspended⟩ else none
  records : last.records = first.records ++ record :: tail
  work : ∃ drawCalls, record.workload =
      (part.workload first.recorder.suspended).complete drawCalls (part.traps first.recorder.suspended) ∧
    drawCalls.toNat = part.draws
  plain : (∀ mark ∈ part.inside, mark.isPlain = true) → ∀ other ∈ tail, Recorder.isPass other.workload = false
  still : (∀ mark ∈ part.inside, mark.isWithin = true) → tail = [] ∧ Piece.sampledIn quiet = []

theorem takes_drawn {part : PassPart} (inside : ∀ mark ∈ part.inside, mark.isInside = true)
    (kept : part.mode ≠ .off → part.kept first.recorder.suspended = true) (takes : Takes true first part.marks pieces last) :
    ∃ quiet record tail, Drawn part first quiet record tail last ∧
      pieces = quiet ++ [⟨.endRenderPass, if part.traps first.recorder.suspended then some record else none⟩] := by
  obtain ⟨middle, held, labels, inner, ending, rfl, opened, active, stream, within, ends⟩ := takes_begun kept takes
  obtain ⟨drawCalls, tail, going, sum, closed, grown, plain, still⟩ := takes_inside inside within active
  rw [stream, List.append_assoc, List.singleton_append] at grown
  obtain ⟨record, work, same, idle, suspended, records, rfl⟩ := step_end going rfl grown (part.workload_awaits _ labels) ends
  refine ⟨⟨.beginRenderPass part.begun, none⟩ :: inner, record, tail,
    ⟨idle, suspended, ?_, ⟨drawCalls, work, ?_⟩, plain, still⟩, rfl⟩
  · rw [Dictation.records, same, closed, opened, records, ← List.append_assoc]
    rfl
  · exact sum.trans (Nat.zero_add _)

end Dictation

end GpuProfiler
