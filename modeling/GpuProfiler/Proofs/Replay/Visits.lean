import GpuProfiler.Proofs.Trap.Replay

set_option autoImplicit false

namespace GpuProfiler

inductive Role where
  | begins (tag : RenderPassTag) (suspending : Bool)
  | resumes (origin : Option RenderPassTag) (suspending : Bool)
  | aside
deriving DecidableEq, Repr

namespace Role

def leaves (role : Role) (before : Option RenderPassTag) : Option RenderPassTag :=
  match role with
  | .begins tag suspending => if suspending then some tag else none
  | .resumes _ suspending => if suspending then before else none
  | .aside => before

-- A recorded origin is that of the pass left suspended, if there is one.
def Agrees (role : Role) (before : Option RenderPassTag) : Prop :=
  ∀ tag suspending held, role = .resumes (some tag) suspending → before = some held → held = tag

end Role

def Workload.role : Workload → Role
  | .renderPass pass => .begins pass.tag pass.suspending
  | .continuation part => .resumes part.origin part.suspending
  | _ => .aside

def Workload.anonymous : Workload → Workload
  | .continuation part => .continuation { part with origin := none }
  | other => other

namespace Record

def role (record : Record) : Role := record.workload.role

def anonymous (record : Record) : Record := { record with workload := record.workload.anonymous }

end Record

namespace Visit

def anonymous (visited : Visit) : Visit := { visited with record := visited.record.anonymous }

-- The pass that a visited part belongs to: the one it begins, or the one it is taken to resume.
def pass? (visited : Visit) : Option RenderPass :=
  match visited.record.workload with
  | .renderPass pass => some pass
  | _ => visited.resumed

end Visit

-- A continuation that is met next after a suspended part resumes the pass of that part, and adds
-- its draws.
def HandsOn (visits : List Visit) : Prop :=
  ∀ ahead before between next behind part, visits = ahead ++ before :: (between ++ next :: behind) →
    before.record.suspends = true → (∀ other ∈ between, other.record.role = .aside) →
    next.record.workload = .continuation part →
    next.resumed = before.pass?.map fun pass => { pass with drawCalls := pass.drawCalls + part.drawCalls }

namespace Stream

def leaves (stream : Stream) (before : Option RenderPassTag) : Option RenderPassTag :=
  stream.foldl (fun held record => record.role.leaves held) before

def Agrees (before : Option RenderPassTag) : Stream → Prop
  | [] => True
  | record :: rest => record.role.Agrees before ∧ Agrees (record.role.leaves before) rest

-- A pass begins in the stream, so what is left suspended behind it does not depend on what was before.
def Anchored (stream : Stream) : Prop := ∃ record ∈ stream, ∃ tag suspending, record.role = .begins tag suspending

@[simp] theorem leaves_nil (before : Option RenderPassTag) : leaves [] before = before := rfl

@[simp] theorem leaves_cons (record : Record) (rest : Stream) (before : Option RenderPassTag) :
    leaves (record :: rest) before = leaves rest (record.role.leaves before) := rfl

theorem leaves_append (stream more : Stream) (before : Option RenderPassTag) :
    leaves (stream ++ more) before = leaves more (leaves stream before) := List.foldl_append

theorem agrees_append (stream more : Stream) (before : Option RenderPassTag) :
    Agrees before (stream ++ more) ↔ Agrees before stream ∧ Agrees (leaves stream before) more := by
  induction stream generalizing before with
  | nil => simp [Agrees]
  | cons record rest ih => simp [Agrees, ih, and_assoc]

theorem agrees_flat_map {α : Type} {stream : α → Stream} {sources : List α}
    (agrees : ∀ source ∈ sources, ∀ before, (stream source).Agrees before) (before : Option RenderPassTag) :
    Agrees before (sources.flatMap stream) := by
  induction sources generalizing before with
  | nil => trivial
  | cons first rest ih =>
    rw [List.flatMap_cons, agrees_append]
    exact ⟨agrees first List.mem_cons_self before, ih (fun other member => agrees other (List.mem_cons_of_mem _ member)) _⟩

theorem leaves_anchored {stream : Stream} (anchored : stream.Anchored) (before other : Option RenderPassTag) :
    stream.leaves before = stream.leaves other := by
  obtain ⟨record, member, tag, suspending, begins⟩ := anchored
  obtain ⟨ahead, behind, rfl⟩ := List.append_of_mem member
  simp only [leaves_append, leaves_cons, begins, Role.leaves]

theorem agrees_roles {stream other : Stream} (same : stream.map Record.role = other.map Record.role)
    (before : Option RenderPassTag) (agrees : stream.Agrees before) : other.Agrees before := by
  induction stream generalizing other before with
  | nil =>
    rw [List.map_nil, eq_comm, List.map_eq_nil_iff] at same
    rw [same]
    trivial
  | cons record rest ih =>
    cases other with
    | nil => cases same
    | cons head tail =>
      rw [List.map_cons, List.map_cons, List.cons.injEq] at same
      obtain ⟨here, behind⟩ := same
      rw [Agrees, ← here]
      exact ⟨agrees.1, ih behind _ agrees.2⟩

theorem anchored_roles {stream other : Stream} (same : stream.map Record.role = other.map Record.role)
    (anchored : stream.Anchored) : other.Anchored := by
  obtain ⟨record, member, tag, suspending, begins⟩ := anchored
  have there : record.role ∈ other.map Record.role := same ▸ List.mem_map_of_mem member
  obtain ⟨found, inside, role⟩ := List.mem_map.mp there
  exact ⟨found, inside, tag, suspending, role.trans begins⟩

theorem anchored_append {stream : Stream} (anchored : stream.Anchored) (more : Stream) : Anchored (stream ++ more) := by
  obtain ⟨record, member, begins⟩ := anchored
  exact ⟨record, List.mem_append_left more member, begins⟩

end Stream

def Record.draws (record : Record) : Nat :=
  match record.workload with
  | .renderPass pass => pass.drawCalls.toNat
  | .continuation part => part.drawCalls.toNat
  | _ => 0

def Stream.draws (stream : Stream) : Nat := (stream.map Record.draws).sum

namespace Cursor

def draws (cursor : Cursor) : Nat := (cursor.suspended.map (·.drawCalls.toNat)).getD 0

variable {cursor next last : Cursor} {record : Record} {visited : Visit} {stream more : Stream} {met : List Visit}

def visits (cursor : Cursor) : Stream → Except Halt (List Visit × Cursor)
  | [] => .ok ([], cursor)
  | record :: rest =>
    match cursor.step record with
    | .error reason => .error reason
    | .ok (visited, next) => (next.visits rest).map fun (others, last) => (visited :: others, last)

theorem run_collects (cursor : Cursor) (stream : Stream) (seen : List Visit) :
    (cursor.run collectVisits stream seen).outcome = (cursor.visits stream).map fun (met, last) => (last, seen ++ met) := by
  induction stream generalizing cursor seen with
  | nil => simp [run, visits, Pure.pure, Act.pure, Except.map]
  | cons record rest ih =>
    cases stepped : cursor.step record with
    | error reason => simp [run, visits, bind, Act.bind, Act.note, Act.emit, Act.check, stepped, Except.map]
    | ok both =>
      obtain ⟨visited, next⟩ := both
      have onward := ih next (seen ++ [visited])
      simp only [run, visits, bind, Act.bind, Act.note, Act.emit, Act.check, stepped, Except.map, collectVisits,
        Act.modify]
      rw [onward]
      cases next.visits rest with
      | error reason => rfl
      | ok found => simp [Except.map]

theorem ends_run_collects {seen : List Visit} {good : Cursor → List Visit → Prop} {bad : Halt → Prop}
    (ended : ∀ met last, cursor.visits stream = .ok (met, last) → good last (seen ++ met))
    (stopped : ∀ reason, cursor.visits stream = .error reason → bad reason) :
    Act.Ends (cursor.run collectVisits stream) seen (fun _ last met => good last met) (fun _ reason => bad reason) := by
  have collects := run_collects cursor stream seen
  unfold Act.Ends
  rcases ran : cursor.run collectVisits stream seen with ⟨shown, outcome⟩
  rw [ran] at collects
  cases found : cursor.visits stream with
  | error reason =>
    rw [found] at collects
    cases collects
    exact stopped reason found
  | ok both =>
    rw [found] at collects
    cases collects
    exact ended both.1 both.2 found

theorem visits_cons_ok (ran : cursor.visits (record :: stream) = .ok (met, last)) :
    ∃ visited next others, cursor.step record = .ok (visited, next) ∧ next.visits stream = .ok (others, last) ∧
      met = visited :: others := by
  unfold visits at ran
  split at ran
  · cases ran
  · next visited next stepped =>
    cases behind : next.visits stream with
    | error reason =>
      rw [behind] at ran
      cases ran
    | ok found =>
      rw [behind] at ran
      cases ran
      exact ⟨visited, next, found.1, stepped, behind, rfl⟩

theorem visits_records (ran : cursor.visits stream = .ok (met, last)) : met.map (·.record) = stream := by
  induction stream generalizing cursor met with
  | nil =>
    cases ran
    rfl
  | cons record rest ih =>
    obtain ⟨visited, next, others, stepped, onward, rfl⟩ := visits_cons_ok ran
    rw [List.map_cons, ih onward, step_record stepped]

theorem visits_append_ok (ran : cursor.visits (stream ++ more) = .ok (met, last)) :
    ∃ before middle behind, cursor.visits stream = .ok (before, middle) ∧ middle.visits more = .ok (behind, last) ∧
      met = before ++ behind := by
  induction stream generalizing cursor met with
  | nil => exact ⟨[], cursor, met, rfl, ran, rfl⟩
  | cons record rest ih =>
    obtain ⟨visited, next, others, stepped, onward, rfl⟩ := visits_cons_ok ran
    obtain ⟨before, middle, behind, first, second, rfl⟩ := ih onward
    exact ⟨visited :: before, middle, behind, by simp [visits, stepped, first, Except.map], second, rfl⟩

theorem visits_split {ahead behind : List Visit} (ran : cursor.visits stream = .ok (ahead ++ visited :: behind, last)) :
    ∃ middle next, cursor.visits (ahead.map (·.record)) = .ok (ahead, middle) ∧
      middle.step visited.record = .ok (visited, next) ∧ next.visits (behind.map (·.record)) = .ok (behind, last) := by
  have records := visits_records ran
  rw [List.map_append, List.map_cons] at records
  rw [← records] at ran
  obtain ⟨before, middle, rest, first, onward, split⟩ := visits_append_ok ran
  have long : ahead.length = before.length := by
    have counted := congrArg List.length (visits_records first)
    rwa [List.length_map, List.length_map, eq_comm] at counted
  obtain ⟨rfl, rfl⟩ := List.append_inj split long
  obtain ⟨found, next, others, stepped, after, same⟩ := visits_cons_ok onward
  obtain ⟨rfl, rfl⟩ := List.cons.inj same
  exact ⟨middle, next, first, stepped, after⟩

section Steps

theorem resume_agrees {part : Continuation}
    (agrees : ∀ tag pass, part.origin = some tag → cursor.suspended = some pass → pass.tag = tag) :
    cursor.resume part = cursor.resume { part with origin := none } := by
  unfold resume
  cases held : cursor.suspended with
  | none => rfl
  | some pass =>
    cases known : part.origin with
    | none => simp
    | some tag => simp [agrees tag pass known held]

theorem resume_ok {part : Continuation} {resumed : Option RenderPass}
    (agrees : ∀ tag pass, part.origin = some tag → cursor.suspended = some pass → pass.tag = tag)
    (found : cursor.resume part = .ok resumed) :
    resumed = cursor.suspended.map fun pass => { pass with drawCalls := pass.drawCalls + part.drawCalls } := by
  rw [resume_agrees agrees] at found
  unfold resume at found
  split at found
  · next none =>
    cases found
    rw [none]
    rfl
  · next pass held =>
    simp only [true_or, if_true] at found
    cases total : Word.add pass.drawCalls part.drawCalls with
    | error reason =>
      rw [total] at found
      cases found
    | ok sum =>
      rw [total] at found
      cases found
      unfold Word.add at total
      split at total <;> cases total
      rw [held]
      rfl

theorem agrees_held {part : Continuation} (continues : record.workload = .continuation part)
    (agrees : record.role.Agrees cursor.lastSuspended) :
    ∀ tag pass, part.origin = some tag → cursor.suspended = some pass → pass.tag = tag := by
  intro tag pass known held
  apply agrees tag part.suspending
  · simp [Record.role, Workload.role, continues, known]
  · simp [lastSuspended, held]

theorem step_leaves (agrees : record.role.Agrees cursor.lastSuspended) (stepped : cursor.step record = .ok (visited, next)) :
    next.lastSuspended = record.role.leaves cursor.lastSuspended := by
  unfold step at stepped
  split at stepped
  · next pass begins =>
    cases stepped
    rw [Record.role, begins]
    cases leaves : pass.suspending <;> simp [lastSuspended, Workload.role, Role.leaves, leaves]
  · next part continues =>
    cases found : cursor.resume part with
    | error reason =>
      rw [found] at stepped
      cases stepped
    | ok resumed =>
      rw [found] at stepped
      cases stepped
      rw [resume_ok (agrees_held continues agrees) found, Record.role, continues]
      cases leaves : part.suspending <;> simp [lastSuspended, Workload.role, Role.leaves, leaves, Function.comp_def]
  · next passes parts =>
    cases stepped
    have aside : record.role = .aside := by
      unfold Record.role Workload.role
      split
      · next pass begins => exact absurd begins (passes pass)
      · next part continues => exact absurd continues (parts part)
      · rfl
    rw [aside]
    rfl

theorem step_anonymous (agrees : record.role.Agrees cursor.lastSuspended) :
    cursor.step record.anonymous = (cursor.step record).map fun (visited, next) => (visited.anonymous, next) := by
  obtain ⟨workload, labels⟩ := record
  cases workload with
  | continuation part =>
    have same := resume_agrees (agrees_held rfl agrees)
    simp only [step, Record.anonymous, Workload.anonymous, ← same]
    cases cursor.resume part <;> rfl
  | _ => rfl

theorem step_suspended (suspends : record.suspends = true) (stepped : cursor.step record = .ok (visited, next)) :
    next.suspended = visited.pass? := by
  obtain ⟨workload, labels⟩ := record
  cases workload with
  | renderPass pass =>
    have leaves : pass.suspending = true := suspends
    cases stepped
    simp [leaves, Visit.pass?]
  | continuation part =>
    have leaves : part.suspending = true := suspends
    unfold step at stepped
    cases found : cursor.resume part with
    | error reason =>
      simp only [found] at stepped
      cases stepped
    | ok resumed =>
      simp only [found] at stepped
      cases stepped
      simp [leaves, Visit.pass?]
  | _ => cases suspends

theorem step_aside (aside : record.role = .aside) (stepped : cursor.step record = .ok (visited, next)) : next = cursor := by
  obtain ⟨workload, labels⟩ := record
  cases workload <;> first | (cases stepped; rfl) | cases aside

end Steps

-- Where all recorded origins agree with what is left suspended, they make no difference.
theorem visits_anonymous (cursor : Cursor) {stream : Stream} (agrees : stream.Agrees cursor.lastSuspended) :
    cursor.visits (stream.map Record.anonymous) =
      (cursor.visits stream).map fun (met, last) => (met.map Visit.anonymous, last) := by
  induction stream generalizing cursor with
  | nil => rfl
  | cons record rest ih =>
    simp only [List.map_cons, visits, step_anonymous agrees.1]
    cases stepped : cursor.step record with
    | error reason => rfl
    | ok both =>
      obtain ⟨visited, next⟩ := both
      have onward : Stream.Agrees next.lastSuspended rest := by
        rw [step_leaves agrees.1 stepped]
        exact agrees.2
      simp only [Except.map, ih next onward]
      cases next.visits rest <;> rfl

theorem visits_leaves (agrees : stream.Agrees cursor.lastSuspended) (ran : cursor.visits stream = .ok (met, last)) :
    last.lastSuspended = stream.leaves cursor.lastSuspended := by
  induction stream generalizing cursor met with
  | nil =>
    cases ran
    rfl
  | cons record rest ih =>
    obtain ⟨visited, next, others, stepped, onward, rfl⟩ := visits_cons_ok ran
    have same := step_leaves agrees.1 stepped
    rw [ih (by rw [same]; exact agrees.2) onward, same]
    rfl

theorem visits_aside (aside : ∀ record ∈ stream, record.role = .aside) (ran : cursor.visits stream = .ok (met, last)) :
    last = cursor := by
  induction stream generalizing cursor met with
  | nil =>
    cases ran
    rfl
  | cons record rest ih =>
    obtain ⟨visited, next, others, stepped, onward, rfl⟩ := visits_cons_ok ran
    rw [ih (fun other member => aside other (List.mem_cons_of_mem _ member)) onward]
    exact step_aside (aside record List.mem_cons_self) stepped

theorem visits_hand_on (agrees : stream.Agrees cursor.lastSuspended) (ran : cursor.visits stream = .ok (met, last)) :
    HandsOn met := by
  rintro ahead before between next behind part rfl suspends aside continues
  have records := visits_records ran
  obtain ⟨middle, held, first, stepped, onward⟩ := visits_split ran
  obtain ⟨reached, _, through, met, _⟩ := visits_split onward
  rw [List.map_append, List.map_cons, List.map_append, List.map_cons] at records
  rw [← records, Stream.agrees_append] at agrees
  obtain ⟨earlier, here, later⟩ := agrees
  rw [← visits_leaves earlier first] at here later
  rw [← step_leaves here stepped, Stream.agrees_append] at later
  -- Between the two parts the cursor stays.
  have stays : reached = held := by
    apply visits_aside _ through
    intro record member
    obtain ⟨other, inside, rfl⟩ := List.mem_map.mp member
    exact aside other inside
  have agree : next.record.role.Agrees reached.lastSuspended := by
    rw [visits_leaves later.1 through]
    exact later.2.1
  have resumed : ∃ found, reached.resume part = .ok found ∧ next.resumed = found := by
    unfold step at met
    simp only [continues] at met
    cases found : reached.resume part with
    | error reason =>
      rw [found] at met
      cases met
    | ok pass =>
      rw [found, Except.map, Except.ok.injEq] at met
      exact ⟨pass, rfl, congrArg (fun both => both.1.resumed) met.symm⟩
  obtain ⟨found, resumes, same⟩ := resumed
  rw [same, resume_ok (agrees_held continues agree) resumes, stays, step_suspended suspends stepped]

section Draws

theorem resume_draws {part : Continuation} (fits : cursor.draws + part.drawCalls.toNat < Word.bound) :
    ∃ resumed, cursor.resume part = .ok resumed ∧
      (resumed.map (·.drawCalls.toNat)).getD 0 ≤ cursor.draws + part.drawCalls.toNat := by
  unfold resume
  cases held : cursor.suspended with
  | none => exact ⟨none, rfl, Nat.zero_le _⟩
  | some pass =>
    have known : cursor.draws = pass.drawCalls.toNat := by rw [draws, held]; rfl
    rw [known] at fits ⊢
    have sum : Word.add pass.drawCalls part.drawCalls = .ok (pass.drawCalls + part.drawCalls) := if_pos fits
    dsimp only
    split
    · refine ⟨some { pass with drawCalls := pass.drawCalls + part.drawCalls }, by rw [sum]; rfl, ?_⟩
      exact Nat.le_of_eq (Word.add_eq_ok sum)
    · exact ⟨none, rfl, Nat.zero_le _⟩

theorem step_draws (fits : cursor.draws + record.draws < Word.bound) :
    ∃ visited next, cursor.step record = .ok (visited, next) ∧ next.draws ≤ cursor.draws + record.draws := by
  unfold step
  cases work : record.workload with
  | renderPass pass =>
    refine ⟨_, _, rfl, ?_⟩
    cases suspends : pass.suspending <;> simp [draws, Record.draws, work]
  | continuation part =>
    have own : record.draws = part.drawCalls.toNat := by rw [Record.draws, work]
    rw [own] at fits ⊢
    obtain ⟨resumed, found, few⟩ := resume_draws fits
    refine ⟨⟨record, resumed⟩, ⟨if part.suspending then resumed else none⟩, by simp [found, Except.map], ?_⟩
    cases part.suspending with
    | true => exact few
    | false => exact Nat.zero_le _
  | _ => exact ⟨_, _, rfl, Nat.le_add_right _ _⟩

theorem visits_draws (fits : cursor.draws + stream.draws < Word.bound) : (cursor.visits stream).isOk = true := by
  induction stream generalizing cursor with
  | nil => rfl
  | cons record rest ih =>
    rw [Stream.draws, List.map_cons, List.sum_cons] at fits
    obtain ⟨visited, next, stepped, few⟩ := step_draws (show cursor.draws + record.draws < Word.bound by omega)
    have behind : next.draws + Stream.draws rest < Word.bound := by
      rw [Stream.draws]
      omega
    have onward := ih behind
    cases found : next.visits rest with
    | error reason =>
      rw [found] at onward
      cases onward
    | ok both => simp [visits, stepped, found, Except.map, Except.isOk, Except.toBool]

end Draws

end Cursor

end GpuProfiler
