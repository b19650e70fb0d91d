import Mathlib.Data.List.Induction
import GpuProfiler.Proofs.RenderPass.Parts
import GpuProfiler.Proofs.Replay.Visits

set_option autoImplicit false

namespace GpuProfiler

namespace PassPart

variable (part : PassPart)

def copied : Nat := (part.inside.map Mark.elsewhere).sum

def opener : RenderPass :=
  ⟨part.tag, part.begun.width, part.begun.height, part.begun.attachments, part.suspends, 0, false⟩

theorem executed_marks : (part.marks.map Mark.executed).sum = part.draws + part.copied := by
  have inside : (part.inside.map Mark.executed).sum = part.draws + part.copied := by
    unfold draws copied
    induction part.inside with
    | nil => rfl
    | cons mark rest ih =>
      simp only [List.map_cons, List.sum_cons, mark.executed_split, ih]
      omega
  simpa [marks, Mark.executed, Mark.commands, Command.draws, Command.drawCount] using inside

-- Each part but the last suspends, and no pass has parts in buffers executed within it.
def GoesOn : PassPart → List PassPart → Prop
  | part, [] => part.suspends = false
  | part, next :: rest => (part.suspends = true ∧ ∀ mark ∈ part.inside, mark.isPlain = true) ∧ GoesOn next rest

end PassPart

structure ResumedPart where
  gap : List Mark
  part : PassPart

namespace ResumedPart

def marks (resumed : ResumedPart) : List Mark := resumed.gap ++ resumed.part.marks

-- The part that decides for this one, where the given one decides for the part before.
def decider (resumed : ResumedPart) (before : PassPart) : PassPart :=
  if resumed.gap.contains .opened then resumed.part else before

end ResumedPart

structure DictatedPass where
  first : PassPart
  resumed : List ResumedPart

namespace DictatedPass

variable (pass : DictatedPass)

def marks : List Mark := pass.first.marks ++ pass.resumed.flatMap ResumedPart.marks

def parts : List PassPart := pass.first :: pass.resumed.map (·.part)

-- The draws recorded into the parts, those of buffers executed within them, and those between them.
def draws : Nat := (pass.parts.map PassPart.draws).sum

def copied : Nat := (pass.parts.map PassPart.copied).sum

def between : Nat := (pass.resumed.map fun resumed => (resumed.gap.map Mark.executed).sum).sum

-- The first of the parts in the buffer of the last one.
def decider : PassPart := pass.resumed.foldl (fun before resumed => resumed.decider before) pass.first

theorem decider_first :
    ((∀ resumed ∈ pass.resumed, resumed.gap.contains .opened = false) ∧ pass.decider = pass.first) ∨
      ∃ ahead resumed behind, pass.resumed = ahead ++ resumed :: behind ∧ resumed.gap.contains .opened = true ∧
        (∀ other ∈ behind, other.gap.contains .opened = false) ∧ pass.decider = resumed.part := by
  unfold decider
  induction pass.resumed using List.reverseRecOn with
  | nil => exact .inl ⟨fun _ member => absurd member List.not_mem_nil, rfl⟩
  | append_singleton parts last ih =>
    rw [List.foldl_append, List.foldl_cons, List.foldl_nil, ResumedPart.decider]
    cases opened : last.gap.contains .opened with
    | true => exact .inr ⟨parts, last, [], rfl, opened, fun _ member => absurd member List.not_mem_nil, rfl⟩
    | false =>
      rw [if_neg Bool.false_ne_true]
      rcases ih with ⟨none, same⟩ | ⟨ahead, resumed, behind, rfl, opens, none, same⟩
      · refine .inl ⟨?_, same⟩
        rw [List.forall_mem_append, List.forall_mem_singleton]
        exact ⟨none, opened⟩
      · refine .inr ⟨ahead, resumed, behind ++ [last], by simp, opens, ?_, same⟩
        rw [List.forall_mem_append, List.forall_mem_singleton]
        exact ⟨none, opened⟩

theorem decider_member : pass.decider ∈ pass.parts := by
  rcases pass.decider_first with ⟨_, same⟩ | ⟨_, resumed, _, split, _, _, same⟩
  · rw [same]
    exact List.mem_cons_self
  · rw [same, parts, split]
    exact List.mem_cons_of_mem _ (List.mem_map_of_mem (by simp))

-- Nothing is begun within the parts or between them but the parts themselves; what is executed there
-- begins none that a later part could be taken for.
structure Proper : Prop where
  anew : pass.first.resumes = false
  resumes : ∀ resumed ∈ pass.resumed, resumed.part.resumes = true
  inside : ∀ part ∈ pass.parts, ∀ mark ∈ part.inside, mark.isInside = true
  beside : ∀ resumed ∈ pass.resumed, ∀ mark ∈ resumed.gap, mark.isBeside = true
  goesOn : pass.first.GoesOn (pass.resumed.map (·.part))

-- Only draws are recorded within the parts, and nothing is executed.
structure Lone : Prop where
  within : ∀ part ∈ pass.parts, ∀ mark ∈ part.inside, mark.isWithin = true
  aside : ∀ resumed ∈ pass.resumed, ∀ mark ∈ resumed.gap, mark.isAside = true

theorem executed_marks : (pass.marks.map Mark.executed).sum = pass.draws + pass.copied + pass.between := by
  obtain ⟨first, resumed⟩ := pass
  simp only [marks, draws, copied, between, parts, List.map_append, List.sum_append, List.map_cons, List.sum_cons,
    first.executed_marks]
  induction resumed with
  | nil => simp
  | cons part rest ih =>
    simp only [List.flatMap_cons, ResumedPart.marks, List.map_append, List.sum_append, List.map_cons, List.sum_cons,
      part.part.executed_marks] at ih ⊢
    omega

end DictatedPass

namespace Dictation

-- What is known in the recording of the pass left suspended: perhaps its tag, and what was decided for it.
def Holds (dictation : Dictation) (tag : RenderPassTag) (decider : PassPart) : Prop :=
  ∃ known, dictation.recorder.suspended = some ⟨known, decider.mode.captures⟩ ∧ (known = none ∨ known = some tag)

-- A part that is the first of the pass in its buffer decides for itself, any other as the one before.
theorem decides {resumed : ResumedPart} (resumes : resumed.part.resumes = true) {known : Option RenderPassTag} {decider : PassPart}
    {before : Option SuspendedPass}
    (left : before = if resumed.gap.contains .opened then none else some ⟨known, decider.mode.captures⟩) :
    resumed.part.captured before = (resumed.decider decider).mode.captures ∧
      ∃ origin, resumed.part.origin before = origin ∧ (origin = none ∨ origin = known) ∧
        resumed.part.workload before = .continuation ⟨origin, resumed.part.suspends, 0, false⟩ := by
  cases opened : resumed.gap.contains .opened with
  | true =>
    rw [opened] at left
    subst left
    have decided : resumed.decider decider = resumed.part := by
      rw [ResumedPart.decider, opened]
      rfl
    rw [decided]
    exact ⟨rfl, none, by simp [PassPart.origin, resumes], .inl rfl,
      by simp [PassPart.workload, resumes]⟩
  | false =>
    rw [opened] at left
    subst left
    have decided : resumed.decider decider = decider := by
      rw [ResumedPart.decider, opened]
      rfl
    rw [decided]
    exact ⟨by simp [PassPart.captured, resumes], known, by simp [PassPart.origin, resumes], .inr rfl,
      by simp [PassPart.workload, resumes]⟩

end Dictation

namespace Cursor

variable {cursor next : Cursor} {record : Record} {visited : Visit}

theorem step_resumes {pass : RenderPass} {part : Continuation} (held : cursor.suspended = some pass)
    (known : part.origin = none ∨ part.origin = some pass.tag) (work : record.workload = .continuation part)
    (met : cursor.step record = .ok (visited, next)) :
    ∃ total, visited.resumed = some { pass with drawCalls := total } ∧
      total.toNat = pass.drawCalls.toNat + part.drawCalls.toNat ∧
      next.suspended = if part.suspending then visited.resumed else none := by
  unfold step resume at met
  simp only [work, held, if_pos known] at met
  cases sum : Word.add pass.drawCalls part.drawCalls with
  | error reason =>
    rw [sum] at met
    cases met
  | ok total =>
    rw [sum] at met
    cases met
    exact ⟨total, rfl, Word.add_eq_ok sum, rfl⟩

end Cursor

-- Whoever goes through the records holds on to the pass behind them, with so many draws.
def Stream.Carries (stream : Stream) (pass : RenderPass) (draws : Nat) : Prop :=
  ∀ (cursor : Cursor) (met : List Visit) (held : Cursor), cursor.visits stream = .ok (met, held) →
    ∃ drawCalls, held.suspended = some { pass with drawCalls := drawCalls } ∧ drawCalls.toNat = draws

theorem Record.role_aside {record : Record} (other : Recorder.isPass record.workload = false) : record.role = .aside := by
  obtain ⟨workload, labels⟩ := record
  cases workload <;> first | rfl | cases other

theorem Stream.carries_resumed {stream more : Stream} {pass : RenderPass} {draws : Nat} {record : Record} {part : Continuation}
    (carries : stream.Carries pass draws) (others : ∀ other ∈ more, Recorder.isPass other.workload = false)
    (known : part.origin = none ∨ part.origin = some pass.tag) (work : record.workload = .continuation part)
    {cursor held next : Cursor} {met : List Visit} {visited : Visit} (ran : cursor.visits (stream ++ more) = .ok (met, held))
    (stepped : held.step record = .ok (visited, next)) :
    ∃ total, visited.resumed = some { pass with drawCalls := total } ∧ total.toNat = draws + part.drawCalls.toNat ∧
      next.suspended = if part.suspending then visited.resumed else none := by
  obtain ⟨_, middle, _, before, between, _⟩ := Cursor.visits_append_ok ran
  obtain ⟨drawCalls, carried, sum⟩ := carries _ _ _ before
  have stays : held = middle := Cursor.visits_aside (fun other member => Record.role_aside (others other member)) between
  rw [← stays] at carried
  obtain ⟨total, resumes, whole, leaves⟩ := Cursor.step_resumes carried known work stepped
  exact ⟨total, resumes, by rw [whole, sum], leaves⟩

-- Whoever goes through the records and meets this one behind them reports the pass, with so many
-- draws, and holds on to it if the part suspends.
def Stream.Reports (stream : Stream) (record : Record) (pass : RenderPass) (draws : Nat) (suspends : Bool) : Prop :=
  ∀ (cursor : Cursor) (met : List Visit) (held next : Cursor) (visited : Visit),
    cursor.visits stream = .ok (met, held) → held.step record = .ok (visited, next) →
      ∃ drawCalls : UInt64, drawCalls.toNat = draws ∧
        (∀ counters, visited.message? counters = some (.workload record.labels counters
          (.renderPass pass.tag pass.width pass.height pass.attachments drawCalls))) ∧
        next.suspended = if suspends then some { pass with drawCalls := drawCalls } else none

def Piece.ending (record : Record) : Piece := ⟨.endRenderPass, if record.traps then some record else none⟩

theorem Piece.sampled_ending {record : Record} (silent : record.traps = false) : sampledIn [ending record] = [] := by
  rw [ending, silent, sampled_in_one]
  rfl

namespace Dictation

variable {start first last : Dictation} {own pieces : List Piece} {stream tail : Stream} {record : Record} {opener : RenderPass}
  {decider part : PassPart} {draws : Nat} {lone : Prop}

-- The pass behind one of its parts, which has left its record and behind that what was recorded within.
-- A lone pass has left nothing else but the records of the work between its parts.
structure Behind (lone : Prop) (opener : RenderPass) (decider part : PassPart) (draws : Nat) (start : Dictation)
    (own : List Piece) (stream : Stream) (record : Record) (tail : Stream) (last : Dictation) : Prop where
  active : last.recorder.active = none
  holds : part.suspends = true → last.Holds opener.tag decider
  records : last.records = start.records ++ (stream ++ record :: tail)
  pass : Recorder.isPass record.workload = true
  traps : record.traps = (!part.suspends && decider.mode.captures)
  plain : (∀ mark ∈ part.inside, mark.isPlain = true) → ∀ other ∈ tail, Recorder.isPass other.workload = false
  reports : stream.Reports record opener draws part.suspends
  alone : lone → tail = []
  order : lone → stream.filter Record.traps = Piece.sampledIn own
  others : lone → ∀ other ∈ Piece.sampledIn own, Recorder.isPass other.workload = false

theorem drawn_pass {quiet : List Piece} (drawn : Drawn part first quiet record tail last) :
    Recorder.isPass record.workload = true := by
  obtain ⟨drawCalls, work, _⟩ := drawn.work
  rw [work, Workload.is_pass_complete]
  exact (part.workload_awaits _ []).part

theorem behind_first (anew : part.resumes = false) (inside : ∀ mark ∈ part.inside, mark.isInside = true)
    (within : lone → ∀ mark ∈ part.inside, mark.isWithin = true)
    (kept : part.suspends = true ∨ part.mode.captures = true) (takes : Takes true start part.marks pieces last) :
    ∃ own record tail, Behind lone part.opener part part part.draws start own [] record tail last ∧
      pieces = own ++ [Piece.ending record] := by
  have decides : part.captured start.recorder.suspended = part.mode.captures := by
    unfold PassPart.captured
    cases start.recorder.suspended <;> simp [anew]
  have recorded : part.mode ≠ .off → part.kept start.recorder.suspended = true := by
    intro on
    rcases kept with suspends | captures
    · exact part.kept_several _ (by rw [suspends, Bool.true_or]) on
    · rw [PassPart.kept, decides, captures, Bool.true_or]
  obtain ⟨quiet, record, tail, drawn, rfl⟩ := takes_drawn inside recorded takes
  obtain ⟨drawCalls, work, sum⟩ := drawn.work
  rw [PassPart.workload, anew, PassPart.traps, decides] at work
  rw [PassPart.traps, decides]
  have traps : record.traps = (!part.suspends && part.mode.captures) := by rw [Record.traps, work]; rfl
  refine ⟨quiet, record, tail, ⟨drawn.active, ?_, drawn.records, drawn_pass drawn, traps, drawn.plain, ?_,
    fun holds => (drawn.still (within holds)).1, ?_, ?_⟩, by rw [Piece.ending, traps]⟩
  · intro suspends
    refine ⟨some part.tag, ?_, .inr rfl⟩
    rw [drawn.suspended, if_pos suspends, decides, PassPart.origin, anew]
    rfl
  · intro cursor met held next visited _ stepped
    refine ⟨drawCalls, sum, ?_, ?_⟩
    · intro counters
      rw [Visit.message?, Visit.reported, Cursor.step_record stepped, work]
      rfl
    · rw [Cursor.step, work] at stepped
      cases stepped
      cases suspends : part.suspends <;> simp [PassPart.opener, suspends]
  · intro holds
    rw [(drawn.still (within holds)).2]
    rfl
  · intro holds
    rw [(drawn.still (within holds)).2]
    exact List.forall_mem_nil _

theorem reports_carries (reports : stream.Reports record opener draws true) :
    Stream.Carries (stream ++ [record]) opener draws := by
  intro cursor met held ran
  obtain ⟨_, reached, _, before, ended, _⟩ := Cursor.visits_append_ok ran
  obtain ⟨_, next, _, stepped, done, _⟩ := Cursor.visits_cons_ok ended
  cases done
  obtain ⟨drawCalls, sum, _, carries⟩ := reports _ _ _ _ _ before stepped
  exact ⟨drawCalls, carries, sum⟩

theorem reports_resumed {more : Stream} {next : Record} {known : Option RenderPassTag} {suspends traps : Bool}
    {drawCalls : UInt64} (carries : stream.Carries opener draws)
    (others : ∀ other ∈ more, Recorder.isPass other.workload = false) (fits : known = none ∨ known = some opener.tag)
    (work : next.workload = .continuation ⟨known, suspends, drawCalls, traps⟩) :
    Stream.Reports (stream ++ more) next opener (draws + drawCalls.toNat) suspends := by
  intro cursor met held after visited ran stepped
  obtain ⟨total, resumed, sum, leaves⟩ := Stream.carries_resumed carries others fits work ran stepped
  refine ⟨total, sum, ?_, by rw [leaves, resumed]⟩
  intro counters
  rw [Visit.message?, Visit.reported, Cursor.step_record stepped, work, resumed]
  rfl

theorem behind_resumed {resumed : ResumedPart}
    (before : Behind lone opener decider part draws start own stream record tail first)
    (suspends : part.suspends = true) (plain : ∀ mark ∈ part.inside, mark.isPlain = true)
    (resumes : resumed.part.resumes = true) (inside : ∀ mark ∈ resumed.part.inside, mark.isInside = true)
    (beside : ∀ mark ∈ resumed.gap, mark.isBeside = true)
    (within : lone → ∀ mark ∈ resumed.part.inside, mark.isWithin = true)
    (aside : lone → ∀ mark ∈ resumed.gap, mark.isAside = true) (takes : Takes true first resumed.marks pieces last) :
    ∃ quiet more next behind, Behind lone opener (resumed.decider decider) resumed.part (draws + resumed.part.draws) start
      (own ++ [Piece.ending record] ++ quiet) (stream ++ record :: more) next behind last ∧
      pieces = quiet ++ [Piece.ending next] := by
  obtain ⟨known, held, fits⟩ := before.holds suspends
  obtain ⟨middle, between, rest, rfl, gap, takes⟩ := takes_split takes
  obtain ⟨_, left, new, records, others, sampled⟩ := takes_beside beside gap before.active
  have several := resumed.part.kept_several middle.recorder.suspended (by rw [resumes, Bool.or_true])
  obtain ⟨quiet, next, behind, drawn, rfl⟩ := takes_drawn inside several takes
  rw [held] at left
  obtain ⟨captured, origin, same, inherits, work⟩ := decides resumes left
  have knows : origin = none ∨ origin = some opener.tag := by
    rcases inherits with none | before
    · exact .inl none
    · exact fits.imp before.trans before.trans
  obtain ⟨drawCalls, completed, sum⟩ := drawn.work
  rw [work, PassPart.traps, captured] at completed
  rw [PassPart.traps, captured]
  have traps : next.traps = (!resumed.part.suspends && (resumed.decider decider).mode.captures) := by
    rw [Record.traps, completed]
    rfl
  have silent : record.traps = false := by rw [before.traps, suspends]; rfl
  -- The record of the part before is not stopped after, and what is done in the part shows nothing.
  have between_only (holds : lone) : Piece.sampledIn (own ++ [Piece.ending record] ++ (between ++ quiet)) =
      Piece.sampledIn own ++ new := by
    rw [Piece.sampled_in_append, Piece.sampled_in_append, Piece.sampled_in_append, Piece.sampled_ending silent,
      (drawn.still (within holds)).2, List.append_nil, List.append_nil, (sampled (aside holds)).1]
  refine ⟨between ++ quiet, tail ++ new, next, behind, ⟨drawn.active, ?_, ?_, drawn_pass drawn, traps, drawn.plain, ?_,
    fun holds => (drawn.still (within holds)).1, ?_, ?_⟩, by rw [Piece.ending, traps, List.append_assoc]⟩
  · intro goesOn
    exact ⟨origin, by rw [drawn.suspended, if_pos goesOn, same, captured], knows⟩
  · rw [drawn.records, records, before.records]
    simp
  · have carries : Stream.Carries (stream ++ [record]) opener draws := reports_carries (suspends ▸ before.reports)
    have quiet : ∀ other ∈ tail ++ new, Recorder.isPass other.workload = false :=
      List.forall_mem_append.mpr ⟨before.plain plain, others⟩
    have reports := reports_resumed carries quiet knows completed
    rwa [sum, List.append_assoc] at reports
  · intro holds
    rw [between_only holds, before.alone holds, List.nil_append, List.filter_append, List.filter_cons_of_neg (by simp [silent]),
      before.order holds, List.filter_eq_self.mpr (sampled (aside holds)).2]
  · intro holds
    rw [between_only holds, List.forall_mem_append]
    exact ⟨before.others holds, others⟩

-- The induction is on the parts that follow; each of them finds the pass behind the one before it.
theorem behind_parts {parts : List ResumedPart}
    (before : Behind lone opener decider part draws start own stream record tail first)
    (goesOn : part.GoesOn (parts.map (·.part))) (resumes : ∀ resumed ∈ parts, resumed.part.resumes = true)
    (inside : ∀ resumed ∈ parts, ∀ mark ∈ resumed.part.inside, mark.isInside = true)
    (beside : ∀ resumed ∈ parts, ∀ mark ∈ resumed.gap, mark.isBeside = true)
    (within : lone → ∀ resumed ∈ parts, ∀ mark ∈ resumed.part.inside, mark.isWithin = true)
    (aside : lone → ∀ resumed ∈ parts, ∀ mark ∈ resumed.gap, mark.isAside = true)
    (takes : Takes true first (parts.flatMap ResumedPart.marks) pieces last) :
    ∃ final whole stream ending tail, final.suspends = false ∧
      Behind lone opener (parts.foldl (fun before resumed => resumed.decider before) decider) final
        (draws + (parts.map fun resumed => resumed.part.draws).sum) start whole stream ending tail last ∧
      own ++ [Piece.ending record] ++ pieces = whole ++ [Piece.ending ending] := by
  induction parts generalizing first decider part draws own stream record tail pieces with
  | nil =>
    cases takes
    exact ⟨part, own, stream, record, tail, goesOn, by simpa using before, List.append_nil _⟩
  | cons resumed rest ih =>
    rw [List.flatMap_cons] at takes
    rw [List.forall_mem_cons] at resumes inside beside
    simp only [List.forall_mem_cons] at within aside
    obtain ⟨⟨suspends, plain⟩, onward⟩ := goesOn
    obtain ⟨middle, here, later, rfl, begins, follow⟩ := takes_split takes
    obtain ⟨quiet, more, next, behind, reached, rfl⟩ := behind_resumed before suspends plain resumes.1 inside.1 beside.1
      (fun holds => (within holds).1) (fun holds => (aside holds).1) begins
    obtain ⟨final, whole, stream, ending, tail, ends, stands, same⟩ := ih reached onward resumes.2 inside.2 beside.2
      (fun holds => (within holds).2) (fun holds => (aside holds).2) follow
    refine ⟨final, whole, stream, ending, tail, ends, ?_, ?_⟩
    · rw [List.map_cons, List.sum_cons, ← Nat.add_assoc]
      exact stands
    · rw [← same]
      simp only [List.append_assoc]

structure Over (pass : DictatedPass) (start : Dictation) (own : List Piece) (stream : Stream) (record : Record) (tail : Stream)
    (last : Dictation) : Prop where
  active : last.recorder.active = none
  records : last.records = start.records ++ (stream ++ record :: tail)
  part : Recorder.isPass record.workload = true
  traps : record.traps = pass.decider.mode.captures
  reports : stream.Reports record pass.first.opener pass.draws false
  order : pass.Lone → stream.filter Record.traps = Piece.sampledIn own
  others : pass.Lone → ∀ other ∈ Piece.sampledIn own, Recorder.isPass other.workload = false

theorem takes_pass {pass : DictatedPass} (proper : pass.Proper)
    (kept : pass.first.suspends = true ∨ pass.first.mode.captures = true) (takes : Takes true start pass.marks pieces last) :
    ∃ own stream record tail, Over pass start own stream record tail last ∧ pieces = own ++ [Piece.ending record] := by
  obtain ⟨middle, here, later, rfl, begins, follow⟩ := takes_split takes
  have inside := proper.inside
  rw [DictatedPass.parts, List.forall_mem_cons, List.forall_mem_map] at inside
  have within (lone : pass.Lone) := lone.within
  simp only [DictatedPass.parts, List.forall_mem_cons, List.forall_mem_map] at within
  obtain ⟨own, record, tail, begun, rfl⟩ :=
    behind_first proper.anew inside.1 (fun lone => (within lone).1) kept begins
  obtain ⟨final, whole, stream, ending, tail, ends, reached, same⟩ :=
    behind_parts begun proper.goesOn proper.resumes inside.2 proper.beside (fun lone => (within lone).2)
      DictatedPass.Lone.aside follow
  have traps : ending.traps = pass.decider.mode.captures := by
    rw [reached.traps, ends]
    rfl
  have reports := reached.reports
  rw [ends] at reports
  refine ⟨whole, stream, ending, tail,
    ⟨reached.active, reached.records, reached.pass, traps, ?_, reached.order, reached.others⟩, same⟩
  rw [DictatedPass.draws, DictatedPass.parts, List.map_cons, List.sum_cons, List.map_map]
  exact reports

end Dictation

end GpuProfiler
