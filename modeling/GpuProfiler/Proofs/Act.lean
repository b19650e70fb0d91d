import GpuProfiler.Act

set_option autoImplicit false

namespace GpuProfiler

namespace Event

def isNote : Event → Bool
  | .note _ => true
  | _ => false

def trapCall? : Event → Option DriverCall
  | .call _ made _ =>
    match made with
    | .commandSetEvent _ _ | .commandWaitEvent _ _ | .commandResetEvent _ _ => some made
    | _ => none
  | _ => none

def step? : Event → Option DeviceStep
  | .progress _ done => some done
  | _ => none

-- What belongs to a trap, where it is recorded or where it is met, and what is reported of it.
def stirs : Event → Bool
  | .progress _ _ => true
  | .call _ made _ =>
    match made with
    | .commandSetEvent _ _ | .commandWaitEvent _ _ | .commandResetEvent _ _ | .setEvent _ | .resetEvent _ => true
    | _ => false
  | .message (.workload _ _ _) _ => true
  | _ => false

def workload? : Event → Option Message
  | .message (.workload labels counters metadata) _ => some (.workload labels counters metadata)
  | _ => none

def trapCalls (shown : List Event) : List DriverCall := shown.filterMap trapCall?

def steps (shown : List Event) : List DeviceStep := shown.filterMap step?

def workloads (shown : List Event) : List Message := shown.filterMap workload?

@[simp] theorem trap_calls_nil : trapCalls [] = [] := rfl

@[simp] theorem trap_calls_cons (event : Event) (rest : List Event) :
    trapCalls (event :: rest) = event.trapCall?.toList ++ trapCalls rest := by
  unfold trapCalls
  rw [List.filterMap_cons]
  cases event.trapCall? <;> rfl

@[simp] theorem steps_nil : steps [] = [] := rfl

@[simp] theorem steps_cons (event : Event) (rest : List Event) :
    steps (event :: rest) = event.step?.toList ++ steps rest := by
  unfold steps
  rw [List.filterMap_cons]
  cases event.step? <;> rfl

@[simp] theorem trap_calls_append (shown more : List Event) :
    trapCalls (shown ++ more) = trapCalls shown ++ trapCalls more := List.filterMap_append

@[simp] theorem steps_append (shown more : List Event) : steps (shown ++ more) = steps shown ++ steps more :=
  List.filterMap_append

@[simp] theorem workloads_nil : workloads [] = [] := rfl

@[simp] theorem workloads_cons (event : Event) (rest : List Event) :
    workloads (event :: rest) = event.workload?.toList ++ workloads rest := by
  unfold workloads
  rw [List.filterMap_cons]
  cases event.workload? <;> rfl

@[simp] theorem workloads_append (shown more : List Event) :
    workloads (shown ++ more) = workloads shown ++ workloads more := List.filterMap_append

@[simp] theorem workloads_progress (device : String) (done : List DeviceStep) :
    workloads (done.map (.progress device)) = [] := by
  induction done with
  | nil => rfl
  | cons step rest ih => rw [List.map_cons, workloads_cons, ih]; rfl

@[simp] theorem steps_progress (device : String) (done : List DeviceStep) :
    steps (done.map (.progress device)) = done := by
  induction done with
  | nil => rfl
  | cons step rest ih => rw [List.map_cons, steps_cons, ih]; rfl

end Event

def Quiet (shown : List Event) : Prop := ∀ event ∈ shown, event.stirs = false

section Quiet

@[simp] theorem quiet_nil : Quiet [] := fun _ member => (nomatch member)

@[simp] theorem quiet_append (shown more : List Event) : Quiet (shown ++ more) ↔ Quiet shown ∧ Quiet more := by
  simp only [Quiet, List.forall_mem_append]

@[simp] theorem quiet_cons (event : Event) (rest : List Event) :
    Quiet (event :: rest) ↔ event.stirs = false ∧ Quiet rest := by
  simp only [Quiet, List.forall_mem_cons]

theorem quiet_notes {shown : List Event} (notes : ∀ event ∈ shown, event.isNote = true) : Quiet shown := by
  intro event member
  have note := notes event member
  cases event <;> first | rfl | cases note

theorem quiet_trap_calls {shown : List Event} (quiet : Quiet shown) : Event.trapCalls shown = [] := by
  apply List.filterMap_eq_nil_iff.mpr
  intro event member
  have still := quiet event member
  cases event with
  | call device made failed => cases made <;> first | rfl | cases still
  | _ => rfl

theorem quiet_steps {shown : List Event} (quiet : Quiet shown) : Event.steps shown = [] := by
  apply List.filterMap_eq_nil_iff.mpr
  intro event member
  have still := quiet event member
  cases event <;> first | rfl | cases still

theorem quiet_workloads {shown : List Event} (quiet : Quiet shown) : Event.workloads shown = [] := by
  apply List.filterMap_eq_nil_iff.mpr
  intro event member
  have still := quiet event member
  cases event with
  | message sent failed => cases sent <;> first | rfl | cases still
  | _ => rfl

end Quiet

def failureNotes (noticed : Error → Note) : Except Error Unit → List Event
  | .ok () => []
  | .error error => [.note (noticed error)]

@[simp] theorem failure_notes_ok (noticed : Error → Note) : failureNotes noticed (.ok ()) = [] := rfl

theorem failure_notes_notes (noticed : Error → Note) (result : Except Error Unit) :
    ∀ event ∈ failureNotes noticed result, event.isNote = true := by
  cases result <;> simp [failureNotes, Event.isNote]

namespace Act

variable {σ τ α β : Type}

def Ends (act : Act σ α) (s : σ) (good : List Event → α → σ → Prop)
    (bad : List Event → Halt → Prop) : Prop :=
  match act s with
  | ⟨events, .ok (x, t)⟩ => good events x t
  | ⟨events, .error reason⟩ => bad events reason

theorem ends_of_ok {act : Act σ α} {s t : σ} {x : α} {events : List Event}
    {good : List Event → α → σ → Prop} {bad : List Event → Halt → Prop}
    (ends : Ends act s good bad) (ran : act s = ⟨events, .ok (x, t)⟩) : good events x t := by
  simpa only [Ends, ran] using ends

theorem ends_of_error {act : Act σ α} {s : σ} {reason : Halt} {events : List Event}
    {good : List Event → α → σ → Prop} {bad : List Event → Halt → Prop}
    (ends : Ends act s good bad) (ran : act s = ⟨events, .error reason⟩) : bad events reason := by
  simpa only [Ends, ran] using ends

theorem ends_ran {act : Act σ α} {s t : σ} {x : α} {events : List Event} (ran : act s = ⟨events, .ok (x, t)⟩)
    (good : List Event → α → σ → Prop) (bad : List Event → Halt → Prop) : Ends act s good bad ↔ good events x t := by
  simp only [Ends, ran]

theorem ran_of_ends {act : Act σ α} {s t : σ} {x : α} {events : List Event}
    (ends : Ends act s (fun shown y u => shown = events ∧ y = x ∧ u = t) (fun _ _ => False)) :
    act s = ⟨events, .ok (x, t)⟩ := by
  unfold Ends at ends
  split at ends
  · next ran =>
    obtain ⟨rfl, rfl, rfl⟩ := ends
    exact ran
  · exact ends.elim

theorem ends_mono {act : Act σ α} {s : σ} {good better : List Event → α → σ → Prop}
    {bad worse : List Event → Halt → Prop} (ends : Ends act s good bad)
    (onGood : ∀ events x t, good events x t → better events x t)
    (onBad : ∀ events reason, bad events reason → worse events reason) : Ends act s better worse := by
  unfold Ends at ends ⊢
  split
  · next events x t ran =>
    simp only [ran] at ends
    exact onGood events x t ends
  · next events reason ran =>
    simp only [ran] at ends
    exact onBad events reason ends

theorem ends_self (act : Act σ α) (s : σ) :
    Ends act s (fun events x t => act s = ⟨events, .ok (x, t)⟩) (fun events reason => act s = ⟨events, .error reason⟩) := by
  unfold Ends
  split <;> assumption

theorem ends_and {act : Act σ α} {s : σ} {good also : List Event → α → σ → Prop}
    {bad worse : List Event → Halt → Prop} (ends : Ends act s good bad) (too : Ends act s also worse) :
    Ends act s (fun events x t => good events x t ∧ also events x t)
      (fun events reason => bad events reason ∧ worse events reason) := by
  unfold Ends at ends too ⊢
  split <;> simp_all only [and_self]

theorem ends_events {act : Act σ α} {s : σ} {p : List Event → Prop}
    (ends : Ends act s (fun events _ _ => p events) (fun events _ => p events)) :
    p (act s).events := by
  unfold Ends at ends
  split at ends
  · next ran => rw [ran]; exact ends
  · next ran => rw [ran]; exact ends

section Rules

variable (s : σ) (good : List Event → α → σ → Prop) (bad : List Event → Halt → Prop)

@[simp] theorem ends_pure (x : α) : Ends (Pure.pure x) s good bad ↔ good [] x s := Iff.rfl

@[simp] theorem ends_act_pure (x : α) : Ends (Act.pure x) s good bad ↔ good [] x s := Iff.rfl

@[simp] theorem ends_halt (reason : Halt) : Ends (halt reason : Act σ α) s good bad ↔ bad [] reason := Iff.rfl

@[simp] theorem ends_check (result : Except Halt α) :
    Ends (check result) s good bad ↔
      (∀ x, result = .ok x → good [] x s) ∧ (∀ reason, result = .error reason → bad [] reason) := by
  cases result with
  | ok x => simp [Ends, check, Except.map]
  | error reason => simp [Ends, check, Except.map]

@[simp] theorem ends_bind (act : Act σ β) (next : β → Act σ α) :
    Ends (act >>= next) s good bad ↔
      Ends act s
        (fun events x t => Ends (next x) t (fun later y u => good (events ++ later) y u)
          (fun later reason => bad (events ++ later) reason))
        bad := by
  change Ends (Act.bind act next) s good bad ↔ _
  unfold Ends Act.bind
  rcases act s with ⟨events, reason | ⟨x, t⟩⟩
  · exact Iff.rfl
  · rcases found : next x t with ⟨later, reason | ⟨y, u⟩⟩ <;> simp [found]

@[simp] theorem ends_map (change : β → α) (act : Act σ β) :
    Ends (change <$> act) s good bad ↔ Ends act s (fun events x t => good events (change x) t) bad := by
  rw [map_eq_pure_bind, ends_bind]
  simp

@[simp] theorem ends_on (part : Part τ σ) (whole : τ) (act : Act σ α)
    (good : List Event → α → τ → Prop) :
    Ends (Act.on part act) whole good bad ↔
      Ends act (part.get whole) (fun events x t => good events x (part.set t whole)) bad := by
  unfold Ends Act.on
  rcases act (part.get whole) with ⟨events, reason | ⟨x, t⟩⟩ <;> exact Iff.rfl

@[simp] theorem ends_apart (own : σ) (whole : τ) (act : Act σ α)
    (good : List Event → α × σ → τ → Prop) :
    Ends (Act.apart own act) whole good bad ↔
      Ends act own (fun events x t => good events (x, t) whole) bad := by
  unfold Ends Act.apart
  rcases act own with ⟨events, reason | ⟨x, t⟩⟩ <;> exact Iff.rfl

end Rules

section StateRules

variable (s : σ) (bad : List Event → Halt → Prop)

@[simp] theorem ends_get (good : List Event → σ → σ → Prop) : Ends get s good bad ↔ good [] s s := Iff.rfl

variable (good : List Event → Unit → σ → Prop)

@[simp] theorem ends_set (t : σ) : Ends (set t) s good bad ↔ good [] () t := Iff.rfl

@[simp] theorem ends_modify (change : σ → σ) : Ends (modify change) s good bad ↔ good [] () (change s) :=
  Iff.rfl

@[simp] theorem ends_emit (event : Event) : Ends (emit event) s good bad ↔ good [event] () s := Iff.rfl

@[simp] theorem ends_note (noticed : Note) : Ends (note noticed) s good bad ↔ good [.note noticed] () s :=
  Iff.rfl

theorem ends_note_if (condition : Bool) (noticed : Note) :
    Ends (noteIf condition noticed) s good bad ↔ good (if condition then [.note noticed] else []) () s := by
  cases condition <;> exact Iff.rfl

theorem ends_note_failure (noticed : Error → Note) (result : Except Error Unit) :
    Ends (noteFailure noticed result) s good bad ↔
      good (failureNotes noticed result) () s := by
  rcases result with error | ⟨⟩ <;> exact Iff.rfl

end StateRules

theorem bind_ok {act : Act σ β} {next : β → Act σ α} {s u : σ} {y : α} {events : List Event}
    (ran : (act >>= next) s = ⟨events, .ok (y, u)⟩) :
    ∃ first x t later, act s = ⟨first, .ok (x, t)⟩ ∧ next x t = ⟨later, .ok (y, u)⟩ ∧
      events = first ++ later := by
  rcases start : act s with ⟨first, reason | ⟨x, t⟩⟩
  · rw [bind_of_error start] at ran
    cases ran
  · rw [bind_of_ok start] at ran
    rcases rest : next x t with ⟨later, outcome⟩
    rw [rest] at ran
    cases ran
    exact ⟨first, x, t, later, rfl, rest, rfl⟩

theorem check_ok {result : Except Halt α} {s t : σ} {x : α} {events : List Event}
    (ran : check result s = ⟨events, .ok (x, t)⟩) : result = .ok x ∧ events = [] ∧ t = s := by
  cases result with
  | error reason => cases ran
  | ok value =>
    cases ran
    exact ⟨rfl, rfl, rfl⟩

end Act

end GpuProfiler
