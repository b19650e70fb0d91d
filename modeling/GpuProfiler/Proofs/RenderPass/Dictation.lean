import GpuProfiler.Proofs.Piece

set_option autoImplicit false

namespace GpuProfiler

def Command.begins : Command → Bool
  | .beginRenderPass _ => true
  | _ => false

inductive Mark where
  | opened
  | command (recorded : Command) (mode : CaptureMode) (tag : RenderPassTag)
  | copied (commands : List Command)
  | finished
deriving DecidableEq, Repr

def Mark.commands : Mark → List Command
  | .command recorded _ _ => [recorded]
  | .copied commands => commands
  | .opened | .finished => []

structure Recorder.Blank (recorder : Recorder) : Prop where
  stream : recorder.stream = []
  active : recorder.active = none
  suspended : recorder.suspended = none

-- The records of the recordings that are over, and the recording that goes on.
structure Dictation where
  closed : Stream
  recorder : Recorder

namespace Dictation

def records (dictation : Dictation) : Stream := dictation.closed ++ dictation.recorder.stream

-- On a device with a trap some mode is on, and only there anything is captured.
inductive Step (profiled : Bool) (before : Dictation) : Mark → List Piece → Dictation → Prop
  | opened (afresh : Recorder) (blank : afresh.Blank) : Step profiled before .opened [] ⟨before.records, afresh⟩
  | command (recorded : Command) (mode : CaptureMode) (tag : RenderPassTag) (notes : List Event) (stops : Bool)
      (next : Recorder) (used : TagSource) (decided : mode.captures = true → profiled = true)
      (tracked : profiled = true → mode ≠ .off)
      (ran : Recording.command recorded mode ⟨before.recorder, ⟨tag⟩⟩ = ⟨notes, .ok (stops, ⟨next, used⟩)⟩) :
      Step profiled before (.command recorded mode tag) [⟨recorded, before.recorder.stream.news next.stream⟩]
        ⟨before.closed, next⟩
  | copied (records : Stream) (pieces : List Piece) (stops : (Piece.sampledIn pieces).length = records.trapped)
      (others : ∀ record ∈ records, record.traps = true → record.suspends = false ∧ profiled = true)
      (plain : (∀ piece ∈ pieces, piece.recorded.begins = false) → ∀ record ∈ records, Recorder.isPass record.workload = false) :
      Step profiled before (.copied (pieces.map (·.recorded))) pieces
        ⟨before.closed, before.recorder.append records⟩
  | finished : Step profiled before .finished [] ⟨before.closed, before.recorder.finish⟩

inductive Takes (profiled : Bool) : Dictation → List Mark → List Piece → Dictation → Prop
  | nil (dictation : Dictation) : Takes profiled dictation [] [] dictation
  | cons (first middle last : Dictation) (mark : Mark) (rest : List Mark) (here later : List Piece)
      (step : Step profiled first mark here middle) (takes : Takes profiled middle rest later last) :
      Takes profiled first (mark :: rest) (here ++ later) last

variable {profiled : Bool} {first middle last : Dictation} {marks more : List Mark} {pieces others : List Piece}

theorem takes_append (takes : Takes profiled first marks pieces middle) (onward : Takes profiled middle more others last) :
    Takes profiled first (marks ++ more) (pieces ++ others) last := by
  induction takes with
  | nil => exact onward
  | cons first middle last mark rest here later step _ ih =>
    rw [List.cons_append, List.append_assoc]
    exact .cons first middle _ mark _ here _ step (ih onward)

theorem takes_concat (takes : Takes profiled first marks pieces middle) {mark : Mark}
    (step : Step profiled middle mark others last) : Takes profiled first (marks ++ [mark]) (pieces ++ others) last := by
  have one := Takes.cons middle last last mark [] others [] step (.nil last)
  rw [List.append_nil] at one
  exact takes_append takes one

theorem takes_split (takes : Takes profiled first (marks ++ more) pieces last) :
    ∃ middle ahead behind, pieces = ahead ++ behind ∧ Takes profiled first marks ahead middle ∧
      Takes profiled middle more behind last := by
  induction marks generalizing first pieces with
  | nil => exact ⟨first, [], pieces, rfl, .nil first, takes⟩
  | cons mark rest ih =>
    cases takes with
    | cons _ next _ _ _ here later step takes =>
      obtain ⟨middle, ahead, behind, rfl, before, after⟩ := ih takes
      exact ⟨middle, here ++ ahead, behind, by simp, .cons first next middle mark rest here ahead step before, after⟩

theorem takes_cons {mark : Mark} (takes : Takes profiled first (mark :: more) pieces last) :
    ∃ middle here later, pieces = here ++ later ∧ Step profiled first mark here middle ∧
      Takes profiled middle more later last := by
  cases takes with
  | cons _ middle _ _ _ here later step takes => exact ⟨middle, here, later, rfl, step, takes⟩

theorem takes_commands (takes : Takes profiled first marks pieces last) :
    pieces.map (·.recorded) = marks.flatMap Mark.commands := by
  induction takes with
  | nil => rfl
  | cons first middle last mark rest here later step _ ih =>
    rw [List.map_append, List.flatMap_cons, ih]
    cases step <;> rfl

theorem takes_captures (takes : Takes profiled first marks pieces last) {recorded : Command} {mode : CaptureMode}
    {tag : RenderPassTag} (member : .command recorded mode tag ∈ marks) (captures : mode.captures = true) :
    profiled = true := by
  induction takes with
  | nil => cases member
  | cons _ _ _ _ _ _ _ step _ ih =>
    rcases List.mem_cons.mp member with rfl | later
    · cases step with
      | command _ _ _ _ _ _ _ decided => exact decided captures
    · exact ih later

theorem step_sound (sound : first.recorder.Sound profiled) {mark : Mark} (step : Step profiled first mark pieces last) :
    last.recorder.Sound profiled ∧ last.records.trapped = first.records.trapped + (Piece.sampledIn pieces).length := by
  cases step with
  | opened afresh blank =>
    refine ⟨⟨?_, ?_, ?_⟩, by simp [records, blank.stream, Piece.sampledIn]⟩
    · intro pass opened
      rw [blank.active] at opened
      cases opened
    · intro pass left
      rw [blank.suspended] at left
      cases left
    · intro record member
      rw [blank.stream] at member
      cases member
  | command recorded mode tag notes stops next used decided _ ran =>
    obtain ⟨_, follows⟩ := Act.ends_of_ok (Recording.ends_command sound recorded decided) ran
    refine ⟨follows.sound, ?_⟩
    have level : next.stream.trapped = first.recorder.stream.trapped + stops.toNat := Stream.step_trapped follows.step
    have new := Stream.step_news follows.step
    simp only [records, Stream.trapped_append, level]
    cases found : first.recorder.stream.news next.stream <;> simp_all [Piece.sampledIn, Nat.add_assoc]
  | copied more pieces stops others _ =>
    refine ⟨Recorder.sound_append sound more others, ?_⟩
    simp [records, Recorder.append, stops, Nat.add_assoc]
  | finished => exact ⟨Recorder.sound_finish sound, rfl⟩

theorem takes_sound (sound : first.recorder.Sound profiled) (takes : Takes profiled first marks pieces last) :
    last.recorder.Sound profiled ∧ last.records.trapped = first.records.trapped + (Piece.sampledIn pieces).length := by
  induction takes with
  | nil => exact ⟨sound, rfl⟩
  | cons first middle last mark rest here later step _ ih =>
    obtain ⟨kept, level⟩ := step_sound sound step
    obtain ⟨still, whole⟩ := ih kept
    exact ⟨still, by rw [whole, level, Piece.sampled_in_append, List.length_append, Nat.add_assoc]⟩

end Dictation

namespace Recorder

def Opens (recorder next : Recorder) : Prop :=
  ∀ position, next.openAt = some position → recorder.openAt = some position ∨ position = recorder.stream.length

theorem opens_open_pass (recorder : Recorder) (flags : RenderPassFlags) (mode : CaptureMode) (captured : Bool)
    (tag : Option RenderPassTag) (workload : Workload) : Opens recorder (recorder.openPass flags mode captured tag workload) := by
  intro position opened
  simp only [openPass, openAt, Option.bind_some] at opened
  split at opened
  · exact .inr (Option.some.inj opened).symm
  · cases opened

theorem opens_end_pass (recorder : Recorder) : Opens recorder recorder.endPass.2 := by
  intro position opened
  unfold endPass at opened
  split at opened
  · exact .inl opened
  · cases opened

end Recorder

theorem Recording.Effect.opens {s : Recording} {profiled : Bool} (sound : s.recorder.Sound profiled) {mode : CaptureMode}
    {recorded : Command} {stops : Bool} {next : Recorder} (effect : Effect s mode recorded stops next) :
    Recorder.Opens s.recorder next := by
  cases effect with
  | begun | resumed => exact Recorder.opens_open_pass _ _ _ _ _ _
  | ended => exact Recorder.opens_end_pass s.recorder
  | drawn _ count _ _ ran =>
    obtain ⟨_, _, _, still⟩ := Recorder.sound_draw sound count ran
    exact fun _ opened => .inl (still ▸ opened)
  | worked =>
    intro position opened
    rw [Recorder.openAt, Recorder.active_record] at opened
    exact .inl opened
  | _ => exact fun _ opened => .inl opened

theorem Workload.is_pass_complete (workload : Workload) (drawCalls : UInt64) (trapped : Bool) :
    Recorder.isPass (workload.complete drawCalls trapped) = Recorder.isPass workload := by
  cases workload <;> rfl

theorem Recording.Effect.plain {s : Recording} {mode : CaptureMode} {recorded : Command} {stops : Bool} {next : Recorder}
    (effect : Effect s mode recorded stops next) (anew : recorded.begins = false)
    (none : ∀ record ∈ s.recorder.stream, Recorder.isPass record.workload = false) :
    ∀ record ∈ next.stream, Recorder.isPass record.workload = false := by
  cases effect with
  | begun | resumed => cases anew
  | ended =>
    unfold Recorder.endPass
    split
    · exact none
    · next pass _ =>
      dsimp only
      split
      · next position _ =>
        intro record member
        obtain ⟨index, there⟩ := List.mem_iff_getElem?.mp member
        rw [List.getElem?_modify, Option.map_eq_map, Option.map_eq_some_iff] at there
        obtain ⟨old, held, rfl⟩ := there
        have before := none old (List.mem_of_getElem? held)
        split
        · exact (Workload.is_pass_complete _ _ _).trans before
        · exact before
      · exact none
  | drawn _ count _ _ ran =>
    obtain ⟨_, ⟨_, rfl⟩ | ⟨_, _, _, _, rfl⟩⟩ := Recorder.draw_cases ran <;> exact none
  | worked _ workload _ =>
    rw [Recorder.stream_record, List.forall_mem_append]
    refine ⟨none, ?_⟩
    cases part : Recorder.isPass workload <;> cases mode.captures <;> simp [part]
  | _ => exact none

namespace Dictation

variable {profiled : Bool} {first last : Dictation} {marks : List Mark} {pieces : List Piece} {front : Stream}

theorem step_plain (plain : ∀ piece ∈ pieces, piece.recorded.begins = false)
    (none : ∀ record ∈ first.records, Recorder.isPass record.workload = false) {mark : Mark}
    (step : Step profiled first mark pieces last) : ∀ record ∈ last.records, Recorder.isPass record.workload = false := by
  cases step with
  | opened afresh blank => simpa [records, blank.stream] using none
  | command recorded mode tag notes stops next used _ _ ran =>
    have effect := (Act.ends_of_ok (Recording.ends_effect _ recorded mode) ran).2
    rw [records, List.forall_mem_append] at none ⊢
    exact ⟨none.1, effect.plain (plain _ List.mem_cons_self) none.2⟩
  | copied more _ _ _ silent =>
    rw [records, Recorder.append, ← List.append_assoc, List.forall_mem_append]
    exact ⟨none, silent plain⟩
  | finished => exact none

theorem takes_plain (plain : ∀ piece ∈ pieces, piece.recorded.begins = false)
    (none : ∀ record ∈ first.records, Recorder.isPass record.workload = false)
    (takes : Takes profiled first marks pieces last) : ∀ record ∈ last.records, Recorder.isPass record.workload = false := by
  induction takes with
  | nil => exact none
  | cons first middle last mark rest here later step _ ih =>
    rw [List.forall_mem_append] at plain
    exact ih plain.2 (step_plain plain.1 none step)

-- The records in front are done with: no open part is among them.
structure Done (front : Stream) (dictation : Dictation) : Prop where
  ahead : front <+: dictation.records
  behind : ∀ position, dictation.recorder.openAt = some position → front.length ≤ dictation.closed.length + position

theorem done_idle (idle : first.recorder.active = none) : Done first.records first :=
  ⟨List.prefix_rfl, fun position opened => by
    rw [Recorder.openAt, idle] at opened
    cases opened⟩

theorem step_done (sound : first.recorder.Sound profiled) (done : Done front first) {mark : Mark}
    (step : Step profiled first mark pieces last) : Done front last := by
  obtain ⟨ahead, behind⟩ := done
  cases step with
  | opened afresh blank =>
    refine ⟨by simpa [records, blank.stream] using ahead, fun position opened => ?_⟩
    rw [Recorder.openAt, blank.active] at opened
    cases opened
  | command recorded mode tag notes stops next used decided _ ran =>
    obtain ⟨_, follows⟩ := Act.ends_of_ok (Recording.ends_command sound recorded decided) ran
    have short : front.length ≤ first.closed.length + first.recorder.stream.length := by
      simpa [records] using ahead.length_le
    refine ⟨?_, fun position opened => ?_⟩
    · have step := follows.step
      change front <+: first.closed ++ next.stream
      generalize next.stream = later at step
      cases step with
      | same => exact ahead
      | opened record _ | sampled record _ =>
        rw [← List.append_assoc]
        exact ahead.trans (List.prefix_append _ _)
      | ended position old record place there silent =>
        obtain ⟨rest, split⟩ := ahead
        have moved : first.closed ++ first.recorder.stream.set position record =
            first.records.set (first.closed.length + position) record := by
          rw [records, List.set_append_right _ _ (Nat.le_add_right _ _), Nat.add_sub_cancel_left]
        rw [moved, ← split, List.set_append_right _ _ (behind position place)]
        exact List.prefix_append _ _
    · have effect := (Act.ends_of_ok (Recording.ends_effect _ recorded mode) ran).2
      rcases effect.opens sound position opened with before | rfl
      · exact behind position before
      · exact short
  | copied more _ _ _ _ =>
    refine ⟨?_, behind⟩
    rw [records, Recorder.append, ← List.append_assoc]
    exact ahead.trans (List.prefix_append _ _)
  | finished => exact ⟨ahead, behind⟩

theorem takes_done (sound : first.recorder.Sound profiled) (done : Done front first)
    (takes : Takes profiled first marks pieces last) : Done front last := by
  induction takes with
  | nil => exact done
  | cons first middle last mark rest here later step _ ih => exact ih (step_sound sound step).1 (step_done sound done step)

end Dictation

end GpuProfiler
