import GpuProfiler.Proofs.Act

set_option autoImplicit false

namespace GpuProfiler

-- What a layer asks of a driver for itself; all else it passes on for the application.
def DriverMethod.isOwn : DriverMethod → Bool
  | .deviceWaitIdle | .createEvent | .destroyEvent | .eventStatus | .setEvent | .resetEvent
  | .commandSetEvent | .commandWaitEvent | .commandResetEvent => true
  | _ => false

namespace Event

def isPassedOn : Event → Bool
  | .call _ made _ => !made.method.isOwn
  | _ => false

def passedOn (shown : List Event) : List Event := shown.filter isPassedOn

@[simp] theorem passed_on_nil : passedOn [] = [] := rfl

@[simp] theorem passed_on_append (shown more : List Event) : passedOn (shown ++ more) = passedOn shown ++ passedOn more :=
  List.filter_append _ _

theorem passed_on_own {event : Event} (own : event.isPassedOn = false) (rest : List Event) :
    passedOn (event :: rest) = passedOn rest := List.filter_cons_of_neg (by simp [own])

theorem passed_on_call {event : Event} (passed : event.isPassedOn = true) (rest : List Event) :
    passedOn (event :: rest) = event :: passedOn rest := List.filter_cons_of_pos passed

theorem passed_on_notes {shown : List Event} (notes : ∀ event ∈ shown, event.isNote = true) : passedOn shown = [] := by
  apply List.filter_eq_nil_iff.mpr
  intro event member
  have note := notes event member
  cases event with
  | note noticed => simp [isPassedOn]
  | _ => cases note

end Event

namespace Act

open Event

variable {σ τ ν μ α β : Type}

def Hidden (view : σ → ν) (act : Act σ α) : Prop :=
  ∀ s, Ends act s (fun shown _ next => passedOn shown = [] ∧ view next = view s) (fun _ _ => True)

section Hidden

variable {view : σ → ν}

theorem hidden_pure (x : α) : Hidden view (Pure.pure x) := fun _ => ⟨rfl, rfl⟩

theorem hidden_get : Hidden view get := fun _ => ⟨rfl, rfl⟩

theorem hidden_halt (reason : Halt) : Hidden view (halt reason : Act σ α) := fun _ => trivial

theorem hidden_check (result : Except Halt α) : Hidden view (check result) := fun s => by
  cases result with
  | ok x => exact ⟨rfl, rfl⟩
  | error reason => exact trivial

theorem hidden_modify {change : σ → σ} (same : ∀ s, view (change s) = view s) : Hidden view (modify change) :=
  fun s => ⟨rfl, same s⟩

theorem hidden_emit {event : Event} (own : event.isPassedOn = false) : Hidden view (emit event) :=
  fun _ => ⟨passed_on_own own [], rfl⟩

theorem hidden_note (noticed : Note) : Hidden view (note noticed) := hidden_emit rfl

theorem hidden_note_failure (noticed : Error → Note) (result : Except Error Unit) :
    Hidden view (noteFailure noticed result) := by
  cases result with
  | ok _ => exact hidden_pure ()
  | error error => exact hidden_note _

theorem hidden_note_if (condition : Bool) (noticed : Note) : Hidden view (noteIf condition noticed) := by
  cases condition with
  | false => exact hidden_pure ()
  | true => exact hidden_note noticed

theorem hidden_bind {act : Act σ β} {next : β → Act σ α} (first : Hidden view act) (rest : ∀ x, Hidden view (next x)) :
    Hidden view (act >>= next) := by
  intro s
  rw [ends_bind]
  refine ends_mono (first s) ?_ (fun _ _ _ => trivial)
  rintro shown x middle ⟨none, same⟩
  refine ends_mono (rest x middle) ?_ (fun _ _ _ => trivial)
  rintro later y last ⟨still, kept⟩
  exact ⟨by rw [passed_on_append, none, still, List.append_nil], kept.trans same⟩

theorem hidden_on {part : Part τ σ} {act : Act σ α} {outer : τ → μ} (hidden : Hidden view act)
    (fits : ∀ whole next, view next = view (part.get whole) → outer (part.set next whole) = outer whole) :
    Hidden outer (Act.on part act) := by
  intro whole
  rw [ends_on]
  refine ends_mono (hidden (part.get whole)) ?_ (fun _ _ _ => trivial)
  rintro shown x next ⟨none, same⟩
  exact ⟨none, fits whole next same⟩

theorem hidden_on_unseen {part : Part τ σ} {act : Act σ α} {outer : τ → μ} (hidden : Hidden (fun _ : σ => ()) act)
    (fits : ∀ whole next, outer (part.set next whole) = outer whole) : Hidden outer (Act.on part act) :=
  hidden_on hidden fun whole next _ => fits whole next

theorem hidden_apart {own : σ} {act : Act σ α} {unseen : σ → ν} {outer : τ → μ} (hidden : Hidden unseen act) :
    Hidden outer (Act.apart own act : Act τ (α × σ)) := by
  intro whole
  rw [ends_apart]
  refine ends_mono (hidden own) ?_ (fun _ _ _ => trivial)
  rintro shown x next ⟨none, _⟩
  exact ⟨none, rfl⟩

end Hidden

def Matches (view : σ → ν) (same : α → α → Prop) (act : Act σ α) (s : σ) (other : Act σ α) (t : σ) : Prop :=
  ∀ shown x next told y after, act s = ⟨shown, .ok (x, next)⟩ → other t = ⟨told, .ok (y, after)⟩ →
    passedOn shown = passedOn told ∧ same x y ∧ view next = view after

def Alike (view : σ → ν) (same : α → α → Prop) (act other : Act σ α) : Prop :=
  ∀ s t, view s = view t → Matches view same act s other t

section Alike

variable {view : σ → ν} {same : α → α → Prop} {mid : β → β → Prop}

theorem matches_of_ends {act other : Act σ α} {s t : σ} {good more : List Event → α → σ → Prop}
    (first : Ends act s good (fun _ _ => True)) (second : Ends other t more (fun _ _ => True))
    (both : ∀ shown x next told y after, good shown x next → more told y after →
      passedOn shown = passedOn told ∧ same x y ∧ view next = view after) : Matches view same act s other t :=
  fun shown x next told y after ran went =>
    both shown x next told y after (ends_of_ok first ran) (ends_of_ok second went)

theorem matches_bind {act other : Act σ β} {s t : σ} {next after : β → Act σ α} (first : Matches view mid act s other t)
    (rest : ∀ x y, mid x y → Alike view same (next x) (after y)) :
    Matches view same (act >>= next) s (other >>= after) t := by
  intro shown x last told y final ran went
  obtain ⟨ahead, found, middle, later, start, onward, rfl⟩ := bind_ok ran
  obtain ⟨before, seen, between, behind, begun, along, rfl⟩ := bind_ok went
  obtain ⟨passed, related, viewed⟩ := first _ _ _ _ _ _ start begun
  obtain ⟨also, answered, ended⟩ := rest found seen related middle between viewed _ _ _ _ _ _ onward along
  exact ⟨by rw [passed_on_append, passed_on_append, passed, also], answered, ended⟩

theorem alike_pure {x y : α} (related : same x y) : Alike view same (Pure.pure x) (Pure.pure y) := by
  intro s t viewed shown a next told b after ran went
  cases ran
  cases went
  exact ⟨rfl, related, viewed⟩

theorem alike_get : Alike view (fun s t => view s = view t) get get := by
  intro s t viewed shown a next told b after ran went
  cases ran
  cases went
  exact ⟨rfl, viewed, viewed⟩

theorem alike_set {s t : σ} (viewed : view s = view t) : Alike view (fun _ _ => True) (set s) (set t) := by
  intro _ _ _ shown a next told b after ran went
  cases ran
  cases went
  exact ⟨rfl, trivial, viewed⟩

theorem alike_bind {act other : Act σ β} {next after : β → Act σ α} (first : Alike view mid act other)
    (rest : ∀ x y, mid x y → Alike view same (next x) (after y)) : Alike view same (act >>= next) (other >>= after) :=
  fun s t viewed => matches_bind (first s t viewed) rest

theorem alike_hidden {act other : Act σ α} (hidden : Hidden view act) (also : Hidden view other) :
    Alike view (fun _ _ => True) act other := by
  intro s t viewed
  apply matches_of_ends (hidden s) (also t)
  rintro shown x next told y after ⟨none, kept⟩ ⟨still, stays⟩
  exact ⟨by rw [none, still], trivial, by rw [kept, stays, viewed]⟩

theorem alike_mono {weaker : α → α → Prop} {act other : Act σ α} (alike : Alike view same act other)
    (implies : ∀ x y, same x y → weaker x y) : Alike view weaker act other := by
  intro s t viewed shown x next told y after ran went
  obtain ⟨passed, related, ended⟩ := alike s t viewed _ _ _ _ _ _ ran went
  exact ⟨passed, implies x y related, ended⟩

theorem matches_on {part also : Part τ σ} {act other : Act σ α} {outer : τ → μ} {s t : τ}
    (within : Matches view same act (part.get s) other (also.get t))
    (back : ∀ next after, view next = view after → outer (part.set next s) = outer (also.set after t)) :
    Matches outer same (Act.on part act) s (Act.on also other) t := by
  apply matches_of_ends ((ends_on _ _ _ _ _).mpr (ends_mono (ends_self act (part.get s)) ?_ fun _ _ _ => trivial))
    ((ends_on _ _ _ _ _).mpr (ends_mono (ends_self other (also.get t)) ?_ fun _ _ _ => trivial)) ?_
  · exact fun shown x whole => ∃ next, act (part.get s) = ⟨shown, .ok (x, next)⟩ ∧ whole = part.set next s
  · exact fun told y whole => ∃ after, other (also.get t) = ⟨told, .ok (y, after)⟩ ∧ whole = also.set after t
  · exact fun shown x next ran => ⟨next, ran, rfl⟩
  · exact fun told y after went => ⟨after, went, rfl⟩
  · rintro shown x _ told y _ ⟨next, ran, rfl⟩ ⟨after, went, rfl⟩
    obtain ⟨passed, related, ended⟩ := within _ _ _ _ _ _ ran went
    exact ⟨passed, related, back next after ended⟩

end Alike

end Act

end GpuProfiler
