import GpuProfiler.Proofs.Replay.Visits
import Mathlib.Data.List.Induction

set_option autoImplicit false

namespace GpuProfiler

def Continuation.Follows (part : Continuation) (pass : RenderPass) : Prop :=
  part.origin = none ∨ part.origin = some pass.tag

instance (part : Continuation) (pass : RenderPass) : Decidable (part.Follows pass) :=
  inferInstanceAs (Decidable (part.origin = none ∨ part.origin = some pass.tag))

namespace Record

def KeepsOpen (pass : RenderPass) (record : Record) : Prop :=
  match record.workload with
  | .renderPass _ => False
  | .continuation part => part.suspending = true ∧ part.Follows pass
  | _ => True

def partDraws (record : Record) : Nat :=
  match record.workload with
  | .continuation part => part.drawCalls.toNat
  | _ => 0

end Record

namespace Stream

-- The pass that is recorded at `start` was left suspended there, and is so still at `place`.
structure Suspended (records : Stream) (start place : Nat) (pass : RenderPass) : Prop where
  before : start < place
  begun : records[start]?.map (·.workload) = some (.renderPass pass)
  suspending : pass.suspending = true
  between : ∀ other record, start < other → other < place → records[other]? = some record → record.KeepsOpen pass

def drawsSince (records : Stream) (start place : Nat) (pass : RenderPass) : Nat :=
  pass.drawCalls.toNat + (((records.take place).drop (start + 1)).map Record.partDraws).sum

-- No pass gets more draws in its parts than a word holds.
def Fits (records : Stream) : Prop :=
  ∀ start place pass part, records.Suspended start place pass →
    records[place]?.map (·.workload) = some (.continuation part) → part.Follows pass →
    records.drawsSince start (place + 1) pass < Word.bound

variable {records : Stream} {record : Record} {start place : Nat} {pass : RenderPass}

theorem suspended_append (more : Stream) (inside : place ≤ records.length) :
    Suspended (records ++ more) start place pass ↔ records.Suspended start place pass := by
  have same (other : Nat) (less : other < place) : (records ++ more)[other]? = records[other]? :=
    List.getElem?_append_left (Nat.lt_of_lt_of_le less inside)
  constructor <;> intro held
  · refine ⟨held.before, same start held.before ▸ held.begun, held.suspending, ?_⟩
    intro other found after before read
    exact held.between other found after before ((same other before).trans read)
  · refine ⟨held.before, (same start held.before).symm ▸ held.begun, held.suspending, ?_⟩
    intro other found after before read
    exact held.between other found after before ((same other before).symm.trans read)

theorem draws_since_append (more : Stream) (inside : place ≤ records.length) :
    drawsSince (records ++ more) start place pass = records.drawsSince start place pass := by
  rw [drawsSince, List.take_append_of_le_length inside, drawsSince]

theorem fits_append (more : Stream) (fits : Fits (records ++ more)) : records.Fits := by
  intro start place pass part held continues follows
  have inside : place < records.length := by
    obtain ⟨found, read, _⟩ := Option.map_eq_some_iff.mp continues
    exact (List.getElem?_eq_some_iff.mp read).1
  rw [← draws_since_append more inside]
  refine fits start place pass part ((suspended_append more (Nat.le_of_lt inside)).mpr held) ?_ follows
  rw [List.getElem?_append_left inside, continues]

theorem suspended_concat :
    Suspended (records ++ [record]) start (records.length + 1) pass ↔
      (start = records.length ∧ record.workload = .renderPass pass ∧ pass.suspending = true) ∨
        (records.Suspended start records.length pass ∧ record.KeepsOpen pass) := by
  have here : (records ++ [record])[records.length]? = some record := List.getElem?_concat_length
  constructor
  · intro held
    by_cases last : start = records.length
    · left
      have begun := held.begun
      rw [last, here] at begun
      exact ⟨last, Option.some.inj begun, held.suspending⟩
    · right
      have less : start < records.length := by
        have bound := held.before
        omega
      refine ⟨?_, held.between records.length record less (Nat.lt_succ_self _) here⟩
      refine (suspended_append [record] (Nat.le_refl _)).mp ⟨less, held.begun, held.suspending, ?_⟩
      intro other found after before
      exact held.between other found after (Nat.lt_succ_of_lt before)
  · intro either
    rcases either with ⟨rfl, begun, leaves⟩ | ⟨held, keeps⟩
    · refine ⟨Nat.lt_succ_self _, by rw [here, Option.map_some, begun], leaves, ?_⟩
      intro other found after before
      omega
    · have still := (suspended_append [record] (Nat.le_refl _)).mpr held
      refine ⟨Nat.lt_succ_of_lt held.before, still.begun, held.suspending, ?_⟩
      intro other found after before read
      by_cases last : other = records.length
      · rw [last, here] at read
        exact Option.some.inj read ▸ keeps
      · exact still.between other found after (by omega) read

theorem draws_since_concat (before : start < records.length) :
    drawsSince (records ++ [record]) start (records.length + 1) pass =
      records.drawsSince start records.length pass + record.partDraws := by
  have whole : (records ++ [record]).take (records.length + 1) = records ++ [record] :=
    List.take_of_length_le (by simp)
  rw [drawsSince, whole, List.drop_append_of_le_length before, drawsSince, List.take_length, List.map_append,
    List.sum_append, Nat.add_assoc]
  rfl

theorem draws_since_begun : drawsSince (records ++ [record]) records.length (records.length + 1) pass =
    pass.drawCalls.toNat := by
  rw [drawsSince, List.drop_eq_nil_of_le]
  · rfl
  · simp

theorem draws_append (records more : Stream) : draws (records ++ more) = records.draws + more.draws := by
  simp [draws]

theorem part_draws_le (records : Stream) : (records.map Record.partDraws).sum ≤ records.draws := by
  induction records with
  | nil => exact Nat.le_refl _
  | cons first rest ih =>
    have own : first.partDraws ≤ first.draws := by
      unfold Record.partDraws Record.draws
      cases first.workload <;> simp
    rw [List.map_cons, List.sum_cons, draws, List.map_cons, List.sum_cons]
    exact Nat.add_le_add own ih

theorem fits_draws (few : records.draws < Word.bound) : records.Fits := by
  intro start place pass part held continues follows
  obtain ⟨record, read, begun⟩ := Option.map_eq_some_iff.mp held.begun
  obtain ⟨inside, same⟩ := List.getElem?_eq_some_iff.mp read
  have own : record.draws = pass.drawCalls.toNat := by rw [Record.draws, begun]
  have cut : (records.take (place + 1)).drop (start + 1) = (records.drop (start + 1)).take (place - start) := by
    rw [List.drop_take, Nat.add_sub_add_right]
  have later := part_draws_le ((records.drop (start + 1)).take (place - start))
  have split : records = records.take start ++
      ([record] ++ ((records.drop (start + 1)).take (place - start) ++
      (records.drop (start + 1)).drop (place - start))) := by
    rw [List.take_append_drop, List.singleton_append, ← same, ← List.drop_eq_getElem_cons inside, List.take_append_drop]
  rw [split, draws_append, draws_append, draws_append,
    show draws [record] = pass.drawCalls.toNat by simp [draws, own]] at few
  rw [drawsSince, cut]
  omega

theorem suspended_unique {other : Nat} {another : RenderPass} (held : records.Suspended start place pass)
    (too : records.Suspended other place another) : start = other ∧ pass = another := by
  have apart (first later : Nat) (one two : RenderPass) (former : records.Suspended first place one)
      (latter : records.Suspended later place two) : ¬first < later := by
    intro less
    obtain ⟨record, read, begun⟩ := Option.map_eq_some_iff.mp latter.begun
    have keeps := former.between later record less latter.before read
    rw [Record.KeepsOpen, begun] at keeps
    exact keeps
  have same : start = other := by
    have one := apart start other pass another held too
    have two := apart other start another pass too held
    omega
  subst same
  have begun := held.begun.symm.trans too.begun
  cases begun
  exact ⟨rfl, rfl⟩

-- The pass `held` is the one recorded at `start`, with the draws of all its parts up to `place`.
def Sums (records : Stream) (start place : Nat) (pass held : RenderPass) : Prop :=
  held = { pass with drawCalls := held.drawCalls } ∧ held.drawCalls.toNat = records.drawsSince start place pass

-- What a continuation recorded at `place` is a part of, with all draws up to its own.
def Resumes (records : Stream) (place : Nat) (part : Continuation) (origin : RenderPass) : Prop :=
  ∃ start pass, records.Suspended start place pass ∧ part.Follows pass ∧ records.Sums start (place + 1) pass origin

theorem sums_unique {one two : RenderPass} (first : records.Sums start place pass one)
    (second : records.Sums start place pass two) : one = two := by
  have draws : one.drawCalls = two.drawCalls := UInt64.toNat_inj.mp (first.2.trans second.2.symm)
  rw [first.1, second.1, draws]

def Found (records : Stream) (place : Nat) (part : Continuation) : Option RenderPass → Prop
  | none => ∀ start pass, records.Suspended start place pass → ¬part.Follows pass
  | some origin => records.Resumes place part origin

theorem found_resumes {part : Continuation} {found : Option RenderPass} (finds : records.Found place part found)
    (origin : RenderPass) : found = some origin ↔ records.Resumes place part origin := by
  cases found with
  | none =>
    refine ⟨fun never => (nomatch never), ?_⟩
    rintro ⟨start, pass, held, follows, _⟩
    exact absurd follows (finds start pass held)
  | some known =>
    constructor
    · intro same
      cases same
      exact finds
    · rintro ⟨start, pass, held, follows, sums⟩
      obtain ⟨other, another, too, _, totals⟩ := finds
      obtain ⟨rfl, rfl⟩ := suspended_unique held too
      rw [sums_unique sums totals]

theorem found_some {part : Continuation} {found : Option RenderPass} (finds : records.Found place part found) :
    found.isSome = true ↔ ∃ start pass, records.Suspended start place pass ∧ part.Follows pass := by
  cases found with
  | none =>
    refine ⟨fun never => (nomatch never), ?_⟩
    rintro ⟨start, pass, held, follows⟩
    exact absurd follows (finds start pass held)
  | some origin =>
    obtain ⟨start, pass, held, follows, _⟩ := finds
    exact ⟨fun _ => ⟨start, pass, held, follows⟩, fun _ => rfl⟩

theorem resumes_append (more : Stream) (inside : place < records.length) (part : Continuation) (origin : RenderPass) :
    Resumes (records ++ more) place part origin ↔ records.Resumes place part origin := by
  simp only [Resumes, Sums, suspended_append more (Nat.le_of_lt inside), draws_since_append more inside]

end Stream

namespace Visit

-- A continuation is given the pass that the records say it resumes, and nothing else is given one.
def Resolved (records : Stream) (place : Nat) (visited : Visit) : Prop :=
  match visited.record.workload with
  | .continuation part =>
    (visited.resumed.isSome = true ↔ ∃ start pass, records.Suspended start place pass ∧ part.Follows pass) ∧
      ∀ origin, visited.resumed = some origin ↔ records.Resumes place part origin
  | _ => visited.resumed = none

theorem resolved_append {records : Stream} {place : Nat} {visited : Visit} (more : Stream)
    (inside : place < records.length) (resolved : visited.Resolved records place) :
    visited.Resolved (records ++ more) place := by
  unfold Resolved at resolved ⊢
  split
  · next part continues =>
    simp only [continues] at resolved
    simp only [Stream.suspended_append more (Nat.le_of_lt inside), Stream.resumes_append more inside]
    exact resolved
  · next parts =>
    split at resolved
    · next part continues => exact absurd continues (parts part)
    · exact resolved

end Visit

namespace Cursor

variable {records : Stream} {record : Record} {cursor : Cursor}

def Holds (cursor : Cursor) (records : Stream) : Prop :=
  match cursor.suspended with
  | none => ∀ start pass, ¬records.Suspended start records.length pass
  | some held => ∃ start pass, records.Suspended start records.length pass ∧ records.Sums start records.length pass held

theorem holds_fresh : fresh.Holds [] := fun _ _ held => nomatch held.before

theorem resume_holds (holds : cursor.Holds records) (fits : Stream.Fits (records ++ [record])) {part : Continuation}
    (continues : record.workload = .continuation part) :
    ∃ resumed, cursor.resume part = .ok resumed ∧ Stream.Found (records ++ [record]) records.length part resumed := by
  have here : (records ++ [record])[records.length]?.map (·.workload) = some (.continuation part) := by
    rw [List.getElem?_concat_length, Option.map_some, continues]
  have before (start : Nat) (pass : RenderPass) : Stream.Suspended (records ++ [record]) start records.length pass ↔
      records.Suspended start records.length pass := Stream.suspended_append [record] (Nat.le_refl _)
  unfold Holds at holds
  unfold resume
  cases kept : cursor.suspended with
  | none =>
    simp only [kept] at holds
    exact ⟨none, rfl, fun start pass held => absurd ((before start pass).mp held) (holds start pass)⟩
  | some held =>
    simp only [kept] at holds
    obtain ⟨start, pass, suspended, same, total⟩ := holds
    have tag : held.tag = pass.tag := by rw [same]
    by_cases follows : part.Follows pass
    · have condition : part.origin = none ∨ part.origin = some held.tag := tag ▸ follows
      have still := (before start pass).mpr suspended
      have sum : Stream.drawsSince (records ++ [record]) start (records.length + 1) pass =
          held.drawCalls.toNat + part.drawCalls.toNat := by
        rw [Stream.draws_since_concat suspended.before, ← total, Record.partDraws, continues]
      have added : Word.add held.drawCalls part.drawCalls = .ok (held.drawCalls + part.drawCalls) :=
        if_pos (sum ▸ fits start records.length pass part still here follows)
      refine ⟨some { held with drawCalls := held.drawCalls + part.drawCalls },
        by simp only [if_pos condition, added]; rfl, ?_⟩
      exact ⟨start, pass, still, follows, by rw [same], (Word.add_eq_ok added).trans sum.symm⟩
    · have condition : ¬(part.origin = none ∨ part.origin = some held.tag) := tag ▸ follows
      refine ⟨none, by simp only [if_neg condition], ?_⟩
      intro other another too
      obtain ⟨_, rfl⟩ := Stream.suspended_unique suspended ((before other another).mp too)
      exact follows

theorem holds_aside (holds : cursor.Holds records) (keeps : ∀ pass, record.KeepsOpen pass)
    (begins : ∀ pass, record.workload ≠ .renderPass pass) (none : record.partDraws = 0) :
    cursor.Holds (records ++ [record]) := by
  unfold Holds at holds ⊢
  rw [List.length_append, List.length_singleton]
  split
  · next empty =>
    simp only [empty] at holds
    intro start pass held
    rcases Stream.suspended_concat.mp held with ⟨_, begun, _⟩ | ⟨still, _⟩
    · exact begins pass begun
    · exact holds start pass still
  · next held kept =>
    simp only [kept] at holds
    obtain ⟨start, pass, still, same, total⟩ := holds
    refine ⟨start, pass, Stream.suspended_concat.mpr (.inr ⟨still, keeps pass⟩), same, ?_⟩
    rw [Stream.draws_since_concat still.before, none, total, Nat.add_zero]

theorem holds_begins {pass : RenderPass} (begins : record.workload = .renderPass pass) :
    Holds ⟨if pass.suspending then some pass else none⟩ (records ++ [record]) := by
  unfold Holds
  rw [List.length_append, List.length_singleton]
  cases leaves : pass.suspending with
  | true =>
    refine ⟨records.length, pass, Stream.suspended_concat.mpr (.inl ⟨rfl, begins, leaves⟩), rfl, ?_⟩
    rw [Stream.draws_since_begun]
  | false =>
    intro start other held
    rcases Stream.suspended_concat.mp held with ⟨_, begun, suspending⟩ | ⟨_, keeps⟩
    · rw [begins] at begun
      cases begun
      rw [leaves] at suspending
      cases suspending
    · rw [Record.KeepsOpen, begins] at keeps
      exact keeps

theorem holds_continues {part : Continuation} {resumed : Option RenderPass}
    (continues : record.workload = .continuation part)
    (found : Stream.Found (records ++ [record]) records.length part resumed) :
    Holds ⟨if part.suspending then resumed else none⟩ (records ++ [record]) := by
  have before (start : Nat) (pass : RenderPass) : Stream.Suspended (records ++ [record]) start records.length pass ↔
      records.Suspended start records.length pass := Stream.suspended_append [record] (Nat.le_refl _)
  -- The pass goes on behind the part only if the part is suspended and follows it.
  have goes (start : Nat) (pass : RenderPass) :
      Stream.Suspended (records ++ [record]) start (records.length + 1) pass ↔
        Stream.Suspended (records ++ [record]) start records.length pass ∧ part.suspending = true ∧
          part.Follows pass := by
    rw [Stream.suspended_concat, before, continues, Record.KeepsOpen, continues]
    simp
  unfold Holds
  rw [List.length_append, List.length_singleton]
  cases suspends : part.suspending with
  | false =>
    intro start pass held
    have known := ((goes start pass).mp held).2.1
    rw [suspends] at known
    cases known
  | true =>
    cases resumed with
    | none =>
      intro start pass held
      have followed := (goes start pass).mp held
      exact found start pass followed.1 followed.2.2
    | some origin =>
      obtain ⟨start, pass, still, follows, sums⟩ := found
      exact ⟨start, pass, (goes start pass).mpr ⟨still, suspends, follows⟩, sums⟩

theorem holds_step (holds : cursor.Holds records) (fits : Stream.Fits (records ++ [record])) :
    ∃ (visited : Visit) (next : Cursor), cursor.step record = .ok (visited, next) ∧ next.Holds (records ++ [record]) ∧
      visited.Resolved (records ++ [record]) records.length := by
  unfold step
  cases work : record.workload with
  | renderPass pass => exact ⟨⟨record, none⟩, _, rfl, holds_begins work, by simp [Visit.Resolved, work]⟩
  | continuation part =>
    obtain ⟨resumed, resumes, found⟩ := resume_holds holds fits work
    refine ⟨⟨record, resumed⟩, _, by simp only [resumes]; rfl, holds_continues work found, ?_⟩
    simp only [Visit.Resolved, work]
    exact ⟨Stream.found_some found, Stream.found_resumes found⟩
  | _ => exact ⟨⟨record, none⟩, cursor, rfl, holds_aside holds (by simp [Record.KeepsOpen, work]) (by simp [work])
      (by simp [Record.partDraws, work]), by simp [Visit.Resolved, work]⟩

theorem visits_concat {stream : Stream} {met : List Visit} {middle next : Cursor} {visited : Visit}
    (ran : cursor.visits stream = .ok (met, middle)) (stepped : middle.step record = .ok (visited, next)) :
    cursor.visits (stream ++ [record]) = .ok (met ++ [visited], next) := by
  induction stream generalizing cursor met with
  | nil =>
    cases ran
    simp [visits, stepped, Except.map]
  | cons first rest ih =>
    obtain ⟨found, behind, others, here, onward, rfl⟩ := visits_cons_ok ran
    simp [visits, here, ih onward, Except.map]

theorem visits_resolved (fits : records.Fits) :
    ∃ (met : List Visit) (last : Cursor), fresh.visits records = .ok (met, last) ∧ last.Holds records ∧
      ∀ (place : Nat) (visited : Visit), met[place]? = some visited → visited.Resolved records place := by
  induction records using List.reverseRecOn with
  | nil => exact ⟨[], fresh, rfl, holds_fresh, fun _ _ read => nomatch read⟩
  | append_singleton records record ih =>
    obtain ⟨met, middle, ran, holds, resolved⟩ := ih (Stream.fits_append [record] fits)
    obtain ⟨visited, next, stepped, behind, here⟩ := holds_step holds fits
    have long : met.length = records.length := by rw [← visits_records ran, List.length_map]
    refine ⟨met ++ [visited], next, visits_concat ran stepped, behind, ?_⟩
    intro place other read
    by_cases earlier : place < records.length
    · rw [List.getElem?_append_left (long ▸ earlier)] at read
      exact Visit.resolved_append [record] earlier (resolved place other read)
    · have last : place = met.length := by
        have bound := (List.getElem?_eq_some_iff.mp read).1
        rw [List.length_append, List.length_singleton] at bound
        omega
      rw [last, List.getElem?_concat_length] at read
      cases read
      rw [last, long]
      exact here

theorem run_shows {σ : Type} (visitor : Visit → Act σ Unit) {met : List Visit} {last : Cursor} {stream : Stream}
    (ran : cursor.visits stream = .ok (met, last)) :
    cursor.run visitor stream = (do
      met.forM fun visited => do
        Act.note (.replaying visited.record.workload)
        visitor visited
      pure last) := by
  induction stream generalizing cursor met with
  | nil =>
    cases ran
    simp [run]
  | cons record rest ih =>
    obtain ⟨visited, next, others, stepped, onward, rfl⟩ := visits_cons_ok ran
    have checked : (Act.check (cursor.step record) : Act σ _) = pure (visited, next) := by
      rw [stepped]
      rfl
    simp [run, checked, ih onward, step_record stepped]

theorem holds_last (holds : cursor.Holds records) (tag : RenderPassTag) :
    cursor.lastSuspended = some tag ↔ ∃ start pass, records.Suspended start records.length pass ∧ pass.tag = tag := by
  unfold Holds at holds
  unfold lastSuspended
  cases kept : cursor.suspended with
  | none =>
    simp only [kept] at holds
    refine ⟨fun never => (nomatch never), ?_⟩
    rintro ⟨start, pass, held, _⟩
    exact absurd held (holds start pass)
  | some held =>
    simp only [kept] at holds
    obtain ⟨start, pass, suspended, same, _⟩ := holds
    rw [Option.map_some, Option.some.injEq, same]
    constructor
    · intro known
      exact ⟨start, pass, suspended, known⟩
    · rintro ⟨other, another, too, known⟩
      obtain ⟨_, rfl⟩ := Stream.suspended_unique suspended too
      exact known

theorem resume_last {part : Continuation} {resumed : Option RenderPass} (anonymous : part.origin = none)
    (found : cursor.resume part = .ok resumed) : resumed.map (·.tag) = cursor.lastSuspended := by
  have known := resume_ok (fun tag pass named => by rw [anonymous] at named; cases named) found
  rw [known, Option.map_map]
  rfl

end Cursor

/-- A replay shows each record once and in order, however the records are divided into streams. A
continuation is given the pass that the records say it resumes, with the draws of all parts up to its
own; what the cursor keeps at last is what a further one would resume. -/
theorem replay_resolves_chains (records : Stream) (fits : records.Fits) :
    ∃ (met : List Visit) (last : Cursor),
      (∀ {σ : Type} (visitor : Visit → Act σ Unit) (queue : Queue) (streams : List Stream),
        queue.cursor = .fresh → streams.flatten = records →
          queue.runStreams visitor streams = (do
            met.forM fun visited => do
              Act.note (.replaying visited.record.workload)
              visitor visited
            pure { queue with cursor := last, replayed := queue.replayed + records.length })) ∧
      met.map (·.record) = records ∧
      (∀ (place : Nat) (visited : Visit), met[place]? = some visited → visited.Resolved records place) ∧
      (∀ tag, last.lastSuspended = some tag ↔
        ∃ start pass, records.Suspended start records.length pass ∧ pass.tag = tag) ∧
      ∀ part resumed, part.origin = none → last.resume part = .ok resumed →
        resumed.map (·.tag) = last.lastSuspended := by
  obtain ⟨met, last, ran, holds, resolved⟩ := Cursor.visits_resolved fits
  refine ⟨met, last, ?_, Cursor.visits_records ran, resolved, Cursor.holds_last holds,
    fun part resumed anonymous found => Cursor.resume_last anonymous found⟩
  intro σ visitor queue streams fresh same
  subst same
  rw [Queue.run_streams_flatten, fresh, Cursor.run_shows visitor ran]
  simp

-- A pass in three parts over two streams, with other work between them.
theorem split_pass_adds_up :
    let pass : RenderPass := ⟨7, 64, 64, 1, true, 3, false⟩
    let first : Stream := [⟨.renderPass pass, []⟩, ⟨.continuation ⟨none, true, 4, false⟩, []⟩]
    let second : Stream := [⟨.dispatch .indirect, []⟩, ⟨.continuation ⟨some 7, false, 5, true⟩, ["last"]⟩]
    Stream.Fits (first ++ second) ∧
      ∃ (met : List Visit) (last : Cursor),
        (Queue.new 1 0 0).runStreams collectVisits [first, second] = (do
          met.forM fun visited => do
            Act.note (.replaying visited.record.workload)
            collectVisits visited
          pure { Queue.new 1 0 0 with cursor := last, replayed := 4 }) ∧
        met[3]? = some ⟨⟨.continuation ⟨some 7, false, 5, true⟩, ["last"]⟩, some { pass with drawCalls := 12 }⟩ := by
  intro pass first second
  have fits : Stream.Fits (first ++ second) := Stream.fits_draws (by decide)
  obtain ⟨met, last, runs, records, resolved, _⟩ := replay_resolves_chains (first ++ second) fits
  refine ⟨fits, met, last, runs collectVisits (Queue.new 1 0 0) [first, second] rfl rfl, ?_⟩
  have suspended : Stream.Suspended (first ++ second) 0 3 pass := by
    refine ⟨by decide, rfl, rfl, ?_⟩
    intro other record after before read
    obtain rfl | rfl : other = 1 ∨ other = 2 := by omega
    · cases read
      exact ⟨rfl, .inl rfl⟩
    · cases read
      trivial
  have read := congrArg (·[3]?) records
  rw [List.getElem?_map] at read
  obtain ⟨visited, there, same⟩ := Option.map_eq_some_iff.mp read
  have found := resolved 3 visited there
  obtain ⟨record, resumed⟩ := visited
  cases same
  have origin : resumed = some { pass with drawCalls := 12 } :=
    (found.2 _).mpr ⟨0, pass, suspended, .inr rfl, rfl, by decide⟩
  rw [there, origin]

end GpuProfiler
