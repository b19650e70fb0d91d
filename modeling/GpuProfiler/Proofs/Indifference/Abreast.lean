import GpuProfiler.Proofs.Act

set_option autoImplicit false

namespace GpuProfiler

namespace Event

-- An event without what endpoints answer. Where the counters are not steady, nothing is left of what
-- they are asked and of what is told of them.
def firm? (steady : Bool) : Event → Option Event
  | .note _ => none
  | .sample failed => if steady then some (.sample failed) else none
  | .read counter => if steady then some (.read counter) else none
  | .message sent _ => if steady then some (.message sent false) else none
  | event => some event

def firm (steady : Bool) (shown : List Event) : List Event := shown.filterMap (firm? steady)

def sending? : Event → Option Bool
  | .message _ failed => some failed
  | _ => none

def sendings (shown : List Event) : List Bool := shown.filterMap sending?

variable {steady : Bool} {shown more : List Event}

@[simp] theorem firm_nil : firm steady [] = [] := rfl

@[simp] theorem firm_append : firm steady (shown ++ more) = firm steady shown ++ firm steady more :=
  List.filterMap_append

@[simp] theorem sendings_nil : sendings [] = [] := rfl

@[simp] theorem sendings_append : sendings (shown ++ more) = sendings shown ++ sendings more := List.filterMap_append

end Event

/-- What is watched of a state in two runs: its outline, and how many messages it counts as sent
(`false`) and as dropped (`true`). -/
class Watched (σ : Type) where
  outline : Bool → σ → σ
  tally : σ → Bool → Nat

-- A state that is to be the same in both runs, and counts nothing.
@[reducible] def Watched.whole (σ : Type) : Watched σ := ⟨fun _ s => s, fun _ _ => 0⟩

abbrev Watched.Akin {σ : Type} [Watched σ] (steady : Bool) (s t : σ) : Prop := outline steady s = outline steady t

theorem Watched.look_same {σ α : Type} [Watched σ] {steady : Bool} {s t : σ} (look : σ → α)
    (through : ∀ s, look (outline steady s) = look s) (outlined : Akin steady s t) : look s = look t := by
  rw [← through s, outlined, through t]

def Tallied {σ : Type} [Watched σ] (s : σ) (shown : List Event) (next : σ) : Prop :=
  ∀ failed, Watched.tally next failed = Watched.tally s failed + (Event.sendings shown).count failed

structure Part.Fits {τ σ : Type} [Watched τ] [Watched σ] (part : Part τ σ) : Prop where
  get : ∀ steady whole, part.get (Watched.outline steady whole) = Watched.outline steady (part.get whole)
  set : ∀ steady s whole, Watched.outline steady (part.set s whole) =
    part.set (Watched.outline steady s) (Watched.outline steady whole)
  tally : ∀ s whole failed, Watched.tally (part.set s whole) failed + Watched.tally (part.get whole) failed =
    Watched.tally whole failed + Watched.tally s failed

-- Two runs from two states. What a run has sent by the time it halts is in no state that is left.
inductive Abreast {σ α : Type} [Watched σ] (steady : Bool) (same : α → α → Prop) (s t : σ) : Ran σ α → Ran σ α → Prop
  | ended (shown told : List Event) (x y : α) (next after : σ) (firm : Event.firm steady shown = Event.firm steady told)
      (related : same x y) (outlined : Watched.Akin steady next after)
      (tallied : Tallied s shown next) (also : Tallied t told after) :
      Abreast steady same s t ⟨shown, .ok (x, next)⟩ ⟨told, .ok (y, after)⟩
  | halted (shown told : List Event) (reason : Halt) (firm : Event.firm steady shown = Event.firm steady told) :
      Abreast steady same s t ⟨shown, .error reason⟩ ⟨told, .error reason⟩

namespace Act

open Watched

variable {σ τ α β : Type} [Watched σ] [Watched τ]

def InStep (steady : Bool) (same : α → α → Prop) (act other : Act σ α) : Prop :=
  ∀ s t, Akin steady s t → Abreast steady same s t (act s) (other t)

-- Nothing firm is shown or changed, and there is no halt.
def Faint (steady : Bool) (act : Act σ α) : Prop :=
  ∀ s, Ends act s
    (fun shown _ next => Event.firm steady shown = [] ∧ Akin steady next s ∧ Tallied s shown next)
    (fun _ _ => False)

def Mute (act : Act τ α) : Prop := ∀ s, Ends act s (fun shown _ _ => Event.sendings shown = []) (fun _ _ => True)

variable {steady : Bool} {same : α → α → Prop} {mid : β → β → Prop} {s t : σ}

theorem tallied_same (s : σ) {shown : List Event} (none : Event.sendings shown = []) : Tallied s shown s := by
  intro failed
  rw [none, List.count_nil, Nat.add_zero]

theorem tallied_append {first middle last : σ} {shown more : List Event} (here : Tallied first shown middle)
    (there : Tallied middle more last) : Tallied first (shown ++ more) last := by
  intro failed
  rw [there, here, Event.sendings_append, List.count_append, Nat.add_assoc]

section Faint

theorem faint_pure (x : α) : Faint steady (Pure.pure x : Act σ α) := fun s => ⟨rfl, rfl, tallied_same s rfl⟩

theorem faint_get : Faint steady (get : Act σ σ) := fun s => ⟨rfl, rfl, tallied_same s rfl⟩

theorem faint_modify {change : σ → σ} (kept : ∀ s, outline steady (change s) = outline steady s)
    (untold : ∀ s failed, tally (change s) failed = tally s failed) : Faint steady (modify change) :=
  fun s => ⟨rfl, kept s, fun failed => untold s failed⟩

theorem faint_note (noticed : Note) : Faint steady (note noticed : Act σ Unit) :=
  fun s => ⟨rfl, rfl, tallied_same s rfl⟩

theorem faint_note_if (condition : Bool) (noticed : Note) : Faint steady (noteIf condition noticed : Act σ Unit) := by
  cases condition with
  | false => exact faint_pure ()
  | true => exact faint_note noticed

theorem faint_note_failure (noticed : Error → Note) (result : Except Error Unit) :
    Faint steady (noteFailure noticed result : Act σ Unit) := by
  cases result with
  | ok _ => exact faint_pure ()
  | error error => exact faint_note _

theorem faint_bind {act : Act σ β} {next : β → Act σ α} (first : Faint steady act) (rest : ∀ x, Faint steady (next x)) :
    Faint steady (act >>= next) := by
  intro s
  rw [ends_bind]
  refine ends_mono (first s) ?_ (fun _ _ never => never)
  intro shown x middle done
  obtain ⟨none, kept, tallied⟩ := done
  refine ends_mono (rest x middle) ?_ (fun _ _ never => never)
  intro later y last done
  obtain ⟨still, stays, counted⟩ := done
  exact ⟨by rw [Event.firm_append, none, still, List.append_nil], stays.trans kept, tallied_append tallied counted⟩

theorem tallied_on {part : Part τ σ} (fits : part.Fits) {whole : τ} {shown : List Event} {next : σ}
    (tallied : Tallied (part.get whole) shown next) : Tallied whole shown (part.set next whole) := by
  intro failed
  have balance := fits.tally next whole failed
  have counted := tallied failed
  omega

theorem faint_on {part : Part τ σ} (fits : part.Fits) (back : ∀ whole, part.set (part.get whole) whole = whole)
    {act : Act σ α} (faint : Faint steady act) : Faint steady (Act.on part act) := by
  intro whole
  rw [ends_on]
  refine ends_mono (faint (part.get whole)) ?_ (fun _ _ never => never)
  intro shown x next done
  obtain ⟨none, kept, tallied⟩ := done
  refine ⟨none, ?_, tallied_on fits tallied⟩
  rw [Akin, fits.set, kept, ← fits.get, back]

end Faint

section Abreast

theorem abreast_of_ends {act other : Act σ α} {good more : List Event → α → σ → Prop}
    (first : Ends act s good (fun _ _ => False)) (second : Ends other t more (fun _ _ => False))
    (both : ∀ shown x next told y after, good shown x next → more told y after →
      Event.firm steady shown = Event.firm steady told ∧ same x y ∧ Akin steady next after ∧
        Tallied s shown next ∧ Tallied t told after) : Abreast steady same s t (act s) (other t) := by
  rcases here : act s with ⟨shown, reason | ⟨x, next⟩⟩
  · exact (ends_of_error first here).elim
  · rcases there : other t with ⟨told, reason | ⟨y, after⟩⟩
    · exact (ends_of_error second there).elim
    · obtain ⟨firm, related, outlined, tallied, also⟩ :=
        both shown x next told y after (ends_of_ok first here) (ends_of_ok second there)
      exact .ended shown told x y next after firm related outlined tallied also

theorem abreast_bind {act other : Act σ β} {next after : β → Act σ α} (first : Abreast steady mid s t (act s) (other t))
    (rest : ∀ x y, mid x y → InStep steady same (next x) (after y)) :
    Abreast steady same s t ((act >>= next) s) ((other >>= after) t) := by
  generalize here : act s = ran at first
  generalize there : other t = went at first
  cases first with
  | halted shown told reason firm =>
    rw [bind_of_error here, bind_of_error there]
    exact .halted shown told reason firm
  | ended shown told x y middle between firm related outlined tallied also =>
    rw [bind_of_ok here, bind_of_ok there]
    have second := rest x y related middle between outlined
    generalize next x middle = later at second
    generalize after y between = onward at second
    cases second with
    | halted more others reason still =>
      exact .halted _ _ reason (by rw [Event.firm_append, Event.firm_append, firm, still])
    | ended more others z w last final still answered ended counted too =>
      exact .ended _ _ z w last final (by rw [Event.firm_append, Event.firm_append, firm, still]) answered ended
        (tallied_append tallied counted) (tallied_append also too)

theorem abreast_on {part also : Part τ σ} {whole other : τ} {act beside : Act σ α}
    (within : Abreast steady same (part.get whole) (also.get other) (act (part.get whole)) (beside (also.get other)))
    (back : ∀ next after : σ, Akin steady next after →
      Akin steady (part.set next whole) (also.set after other))
    (balance : ∀ shown next, Tallied (part.get whole) shown next → Tallied whole shown (part.set next whole))
    (too : ∀ told after, Tallied (also.get other) told after → Tallied other told (also.set after other)) :
    Abreast steady same whole other (Act.on part act whole) (Act.on also beside other) := by
  unfold Act.on
  generalize act (part.get whole) = ran at within
  generalize beside (also.get other) = went at within
  cases within with
  | halted shown told reason firm => exact .halted shown told reason firm
  | ended shown told x y next after firm related outlined tallied counted =>
    exact .ended shown told x y _ _ firm related (back next after outlined) (balance shown next tallied)
      (too told after counted)

theorem abreast_set {next after : σ} (outlined : Akin steady next after)
    (kept : ∀ failed, tally next failed = tally s failed) (also : ∀ failed, tally after failed = tally t failed) :
    Abreast steady (fun _ _ => True) s t (set next s) (set after t) :=
  .ended [] [] () () next after rfl trivial outlined kept also

end Abreast

section InStep

theorem in_step_bind {act other : Act σ β} {next after : β → Act σ α} (first : InStep steady mid act other)
    (rest : ∀ x y, mid x y → InStep steady same (next x) (after y)) :
    InStep steady same (act >>= next) (other >>= after) :=
  fun s t outlined => abreast_bind (first s t outlined) rest

theorem in_step_mono {weaker : α → α → Prop} {act other : Act σ α} (step : InStep steady same act other)
    (implies : ∀ x y, same x y → weaker x y) : InStep steady weaker act other := by
  intro s t outlined
  have both := step s t outlined
  generalize act s = ran at both ⊢
  generalize other t = went at both ⊢
  cases both with
  | ended shown told x y next after firm related outlined tallied also =>
    exact .ended shown told x y next after firm (implies x y related) outlined tallied also
  | halted shown told reason firm => exact .halted shown told reason firm

theorem in_step_pure {x y : α} (related : same x y) : InStep steady same (Pure.pure x : Act σ α) (Pure.pure y) :=
  fun s t outlined => .ended [] [] x y s t rfl related outlined (tallied_same s rfl) (tallied_same t rfl)

theorem in_step_from {next after : σ → Act σ α}
    (rest : ∀ s t, Akin steady s t → Abreast steady same s t (next s s) (after t t)) :
    InStep steady same (get >>= next) (get >>= after) := fun s t outlined => rest s t outlined

theorem in_step_get : InStep steady (Akin steady) (get : Act σ σ) get :=
  fun s t outlined => .ended [] [] s t s t rfl outlined outlined (tallied_same s rfl) (tallied_same t rfl)

theorem in_step_modify {change : σ → σ} (through : ∀ s, outline steady (change s) = change (outline steady s))
    (untold : ∀ s failed, tally (change s) failed = tally s failed) :
    InStep steady (fun _ _ => True) (modify change) (modify change) := by
  intro s t outlined
  have kept : Akin steady (change s) (change t) := by rw [Akin, through, through, outlined]
  exact .ended [] [] () () _ _ rfl trivial kept (fun failed => untold s failed) (fun failed => untold t failed)

theorem in_step_faint {act other : Act σ α} (faint : Faint steady act) (also : Faint steady other)
    (any : ∀ x y, same x y) : InStep steady same act other := by
  intro s t outlined
  apply abreast_of_ends (faint s) (also t)
  intro shown x next told y after done too
  obtain ⟨none, kept, tallied⟩ := done
  obtain ⟨still, stays, counted⟩ := too
  exact ⟨none.trans still.symm, any x y, by rw [Akin, kept, stays, outlined], tallied, counted⟩

theorem in_step_noted {act : Act σ Unit} (faint : Faint steady act) : InStep steady (· = ·) act act :=
  in_step_faint faint faint fun _ _ => rfl

theorem in_step_halt (reason : Halt) : InStep steady same (halt reason : Act σ α) (halt reason) :=
  fun _ _ _ => .halted [] [] reason rfl

theorem in_step_check (result : Except Halt α) : InStep steady (· = ·) (check result : Act σ α) (check result) := by
  intro s t outlined
  cases result with
  | ok x => exact in_step_pure rfl s t outlined
  | error reason => exact .halted [] [] reason rfl

theorem in_step_on {part : Part τ σ} (fits : part.Fits) {act other : Act σ α} (within : InStep steady same act other) :
    InStep steady same (Act.on part act) (Act.on part other) := by
  intro whole beside outlined
  have parts : Akin steady (part.get whole) (part.get beside) := by rw [Akin, ← fits.get, ← fits.get, outlined]
  refine abreast_on (within _ _ parts) (fun next after ended => ?_) (fun _ _ => tallied_on fits)
    fun _ _ => tallied_on fits
  rw [Akin, fits.set, fits.set, ended, outlined]

theorem in_step_same {act : Act σ α} (whole : ∀ s t : σ, Akin steady s t → s = t)
    (tallies : ∀ s, Ends act s (fun shown _ next => Tallied s shown next) (fun _ _ => True)) :
    InStep steady (· = ·) act act := by
  intro s t outlined
  rw [whole s t outlined]
  rcases ran : act t with ⟨shown, reason | ⟨x, next⟩⟩
  · exact .halted shown shown reason rfl
  · have tallied : Tallied t shown next := ends_of_ok (tallies t) ran
    exact .ended shown shown x x next next rfl rfl rfl tallied tallied

theorem in_step_part {ρ : Type} {part : Part τ ρ} (fits : @Part.Fits τ ρ _ (.whole ρ) part) {act : Act ρ α}
    (mute : Mute act) : InStep steady (· = ·) (Act.on part act) (Act.on part act) := by
  let _ : Watched ρ := .whole ρ
  apply in_step_on fits
  apply in_step_same fun _ _ outlined => outlined
  intro s
  refine ends_mono (mute s) ?_ (fun _ _ _ => trivial)
  intro shown x next none failed
  rw [none, List.count_nil]
  rfl

theorem in_step_apart {ρ : Type} {own : ρ} {act : Act ρ α} (mute : Mute act) :
    InStep steady (· = ·) (Act.apart own act : Act σ (α × ρ)) (Act.apart own act) := by
  intro s t outlined
  unfold Act.apart
  rcases ran : act own with ⟨shown, reason | done⟩
  · exact .halted shown shown reason rfl
  · have none : Event.sendings shown = [] := ends_of_ok (mute own) ran
    exact .ended shown shown done done s t rfl rfl outlined (tallied_same s none) (tallied_same t none)

end InStep

end Act

end GpuProfiler
