import GpuProfiler.Proofs.Act

set_option autoImplicit false

namespace GpuProfiler

namespace Event

def ofDriver : Event → Bool
  | .call _ _ _ | .progress _ _ => true
  | _ => false

def ofBackend : Event → Bool
  | .sample _ | .read _ => true
  | _ => false

def isMessage : Event → Bool
  | .message _ _ => true
  | _ => false

-- What is done to the drivers, what is asked of the counters, and what is sent.
def strands : List (Event → Bool) := [ofDriver, ofBackend, isMessage]

def isDeed (event : Event) : Bool := !event.isNote

theorem strands_deeds {kind : Event → Bool} (strand : kind ∈ strands) {event : Event} (seen : kind event = true) :
    event.isDeed = true := by
  cases event with
  | note noticed =>
    simp only [strands, List.mem_cons, List.not_mem_nil, or_false] at strand
    obtain rfl | rfl | rfl := strand <;> cases seen
  | _ => rfl

theorem strands_notes {kind : Event → Bool} (strand : kind ∈ strands) {shown : List Event}
    (notes : ∀ event ∈ shown, event.isNote = true) : shown.filter kind = [] := by
  apply List.filter_eq_nil_iff.mpr
  intro event member seen
  have deed := strands_deeds strand seen
  rw [isDeed, notes event member] at deed
  cases deed

end Event

namespace Ran

variable {σ ν α : Type}

def onto (view : σ → ν) (ran : Ran σ α) : Ran ν α :=
  ⟨ran.events, ran.outcome.map fun done => (done.1, view done.2)⟩

structure Agrees (kinds : List (Event → Bool)) (view : σ → ν) (ran other : Ran σ α) : Prop where
  shown : ∀ kind ∈ kinds, ran.events.filter kind = other.events.filter kind
  ended : (ran.onto view).outcome = (other.onto view).outcome

variable {kinds : List (Event → Bool)} {view : σ → ν} {ran other : Ran σ α}

theorem agrees_refl (ran : Ran σ α) : Agrees kinds view ran ran := ⟨fun _ _ => rfl, rfl⟩

theorem agrees_symm (agrees : Agrees kinds view ran other) : Agrees kinds view other ran :=
  ⟨fun kind member => (agrees.shown kind member).symm, agrees.ended.symm⟩

theorem agrees_trans {last : Ran σ α} (first : Agrees kinds view ran other) (second : Agrees kinds view other last) :
    Agrees kinds view ran last :=
  ⟨fun kind member => (first.shown kind member).trans (second.shown kind member), first.ended.trans second.ended⟩

theorem agrees_onto (same : ran.onto view = other.onto view) : Agrees kinds view ran other := by
  obtain ⟨shown, ended⟩ := Ran.mk.inj same
  exact ⟨fun kind _ => congrArg (List.filter kind) shown, ended⟩

theorem agrees_cases (agrees : Agrees kinds view ran other) :
    (∃ reason, ran.outcome = .error reason ∧ other.outcome = .error reason) ∨
      ∃ x s t, ran.outcome = .ok (x, s) ∧ other.outcome = .ok (x, t) ∧ view s = view t := by
  have ended := agrees.ended
  simp only [onto] at ended
  cases here : ran.outcome with
  | error reason =>
    cases there : other.outcome with
    | error also =>
      rw [here, there] at ended
      cases ended
      exact .inl ⟨reason, rfl, rfl⟩
    | ok done =>
      rw [here, there] at ended
      cases ended
  | ok done =>
    cases there : other.outcome with
    | error reason =>
      rw [here, there] at ended
      cases ended
    | ok also =>
      rw [here, there] at ended
      obtain ⟨answer, seen⟩ := Prod.mk.inj (Except.ok.inj ended)
      exact .inr ⟨done.1, done.2, also.2, rfl, by rw [answer], seen⟩

end Ran

namespace Act

open Ran

variable {σ τ ν α β : Type} {kinds : List (Event → Bool)} {view : σ → ν}

theorem agrees_then {act other : Act σ β} {next after : β → Act σ α} {s t : σ} {reached : β → σ → Prop}
    (first : Agrees kinds view (act s) (other t)) (ends : Ends act s (fun _ x u => reached x u) (fun _ _ => True))
    (rest : ∀ x u v, reached x u → view u = view v → Agrees kinds view (next x u) (after x v)) :
    Agrees kinds view ((act >>= next) s) ((other >>= after) t) := by
  rcases here : act s with ⟨shown, outcome⟩
  rcases there : other t with ⟨told, ending⟩
  rw [here, there] at first
  obtain ⟨reason, halted, also⟩ | ⟨x, u, v, ended, also, seen⟩ := agrees_cases first
  · dsimp only at halted also
    subst halted also
    rw [bind_of_error here, bind_of_error there]
    exact ⟨first.shown, rfl⟩
  · dsimp only at ended also
    subst ended also
    rw [bind_of_ok here, bind_of_ok there]
    have later := rest x u v (ends_of_ok ends here) seen
    refine ⟨fun kind member => ?_, later.ended⟩
    rw [List.filter_append, List.filter_append, first.shown kind member, later.shown kind member]

theorem agrees_bind {act other : Act σ β} {next after : β → Act σ α} {s t : σ}
    (first : Agrees kinds view (act s) (other t))
    (rest : ∀ x u v, view u = view v → Agrees kinds view (next x u) (after x v)) :
    Agrees kinds view ((act >>= next) s) ((other >>= after) t) :=
  agrees_then first (ends_mono (ends_self act s) (fun _ _ _ _ => trivial) fun _ _ _ => trivial)
    fun x u v _ => rest x u v

theorem agrees_on {ρ : Type} {outer : τ → ρ} {part also : Part τ σ} {act other : Act σ α} {whole beside : τ}
    (within : Agrees kinds view (act (part.get whole)) (other (also.get beside)))
    (back : ∀ s t, view s = view t → outer (part.set s whole) = outer (also.set t beside)) :
    Agrees kinds outer (Act.on part act whole) (Act.on also other beside) := by
  unfold Act.on
  rcases here : act (part.get whole) with ⟨shown, outcome⟩
  rcases there : other (also.get beside) with ⟨told, ending⟩
  rw [here, there] at within
  obtain ⟨reason, halted, stopped⟩ | ⟨x, s, t, ended, finished, seen⟩ := agrees_cases within
  · dsimp only at halted stopped
    subst halted stopped
    exact ⟨within.shown, rfl⟩
  · dsimp only at ended finished
    subst ended finished
    refine ⟨within.shown, ?_⟩
    simp only [onto, Except.map, back s t seen]

theorem agrees_set {s t : σ} (seen : view s = view t) (u v : σ) : Agrees kinds view (set s u) (set t v) :=
  ⟨fun _ _ => rfl, congrArg (fun view => Except.ok ((), view)) seen⟩

theorem agrees_aside {act : Act σ β} {next : β → Act σ α} {s : σ} {reached : β → σ → Prop} {other : Ran σ α}
    (ends : Ends act s (fun shown x u => (∀ kind ∈ kinds, shown.filter kind = []) ∧ reached x u) (fun _ _ => False))
    (rest : ∀ x u, reached x u → Agrees kinds view (next x u) other) : Agrees kinds view ((act >>= next) s) other := by
  rcases here : act s with ⟨shown, reason | ⟨x, u⟩⟩
  · exact (ends_of_error ends here).elim
  · obtain ⟨unseen, there⟩ := ends_of_ok ends here
    have later := rest x u there
    rw [bind_of_ok here]
    refine ⟨fun kind member => ?_, later.ended⟩
    rw [List.filter_append, unseen kind member, List.nil_append, later.shown kind member]

theorem get_bind (next : σ → Act σ α) (s : σ) : (get >>= next) s = next s s := rfl

-- The act does on what is seen of a state all that it does on the state.
def Through (view : σ → σ) (act : Act σ α) : Prop := ∀ s, act (view s) = (act s).onto view

section Through

variable {view : σ → σ} {outer : τ → τ}

theorem through_pure (x : α) : Through view (Pure.pure x : Act σ α) := fun _ => rfl

theorem through_emit (event : Event) : Through view (emit event) := fun _ => rfl

theorem through_note_failure (noticed : Error → Note) (result : Except Error Unit) :
    Through view (noteFailure noticed result) := by
  cases result with
  | ok _ => exact through_pure ()
  | error error => exact through_emit _

theorem onto_bind {act : Act σ β} {next after : β → Act σ α} {s : σ} (first : act (view s) = (act s).onto view)
    (rest : ∀ x t, next x (view t) = (after x t).onto view) :
    (act >>= next) (view s) = ((act >>= after) s).onto view := by
  rcases here : act s with ⟨shown, reason | ⟨x, t⟩⟩
  · rw [here] at first
    rw [bind_of_error here, bind_of_error first]
    rfl
  · rw [here] at first
    rw [bind_of_ok here, bind_of_ok first, rest x t]
    rfl

theorem through_bind {act : Act σ β} {next : β → Act σ α} (first : Through view act)
    (rest : ∀ x, Through view (next x)) :
    Through view (act >>= next) := fun s => onto_bind (first s) rest

theorem through_from {next : σ → Act σ α} (rest : ∀ s, next (view s) (view s) = (next s s).onto view) :
    Through view (get >>= next) := fun s => rest s

theorem through_on {part : Part τ σ} {act : Act σ α} (got : ∀ whole, part.get (outer whole) = view (part.get whole))
    (put : ∀ s whole, part.set (view s) (outer whole) = outer (part.set s whole)) (through : Through view act) :
    Through outer (Act.on part act) := by
  intro whole
  have within := through (part.get whole)
  rw [← got] at within
  unfold Act.on
  rcases here : act (part.get whole) with ⟨shown, reason | ⟨x, s⟩⟩ <;> rw [here] at within <;> rw [within]
  · rfl
  · simp only [Ran.onto, Except.map, put]

theorem through_aside {part : Part τ σ} {act : Act σ α} (got : ∀ whole, part.get (outer whole) = part.get whole)
    (put : ∀ s whole, part.set s (outer whole) = outer (part.set s whole)) : Through outer (Act.on part act) := by
  have whole : Through id act := by
    intro s
    show act s = (act s).onto id
    rcases act s with ⟨shown, reason | ⟨x, t⟩⟩ <;> rfl
  exact through_on got put whole

theorem through_apart {ρ : Type} (own : ρ) (act : Act ρ α) : Through view (Act.apart own act) := by
  intro s
  unfold Act.apart
  rcases act own with ⟨shown, reason | done⟩ <;> rfl

theorem agrees_through {act : Act σ α} (through : Through view act) {s t : σ} (seen : view s = view t) :
    Agrees kinds view (act s) (act t) := by
  apply agrees_onto
  rw [← through s, ← through t, seen]

end Through

theorem ends_agrees {act other : Act σ α} {s t : σ} (agrees : Agrees kinds view (act s) (other t))
    {good more : List Event → α → σ → Prop} {bad worse : List Event → Halt → Prop} (ends : Ends other t good bad)
    (onGood : ∀ shown told x u v, (∀ kind ∈ kinds, shown.filter kind = told.filter kind) → view u = view v →
      good told x v → more shown x u)
    (onBad : ∀ shown told reason, bad told reason → worse shown reason) : Ends act s more worse := by
  rcases here : act s with ⟨shown, outcome⟩
  rcases there : other t with ⟨told, ending⟩
  rw [here, there] at agrees
  unfold Ends
  obtain ⟨reason, halted, also⟩ | ⟨x, u, v, ended, also, seen⟩ := agrees_cases agrees
  · dsimp only at halted also
    subst halted also
    rw [here]
    exact onBad shown told reason (ends_of_error ends there)
  · dsimp only at ended also
    subst ended also
    rw [here]
    exact onGood shown told x u v agrees.shown seen (ends_of_ok ends there)

-- An act on one part and an act that neither looks at that part nor changes it can be done in either
-- order, if neither halts and they show nothing of the same kind.
theorem agrees_swap {outer : τ → ν} {one : Part τ σ} {act : Act σ α} {other : Act τ Unit} {whole : τ}
    {mine its : List Event → Prop}
    (first : Ends act (one.get whole) (fun shown _ _ => mine shown) (fun _ _ => False))
    (second : Ends other whole (fun shown _ next => its shown ∧ one.get next = one.get whole) (fun _ _ => False))
    (apart : ∀ s, other (one.set s whole) = (other whole).onto (one.set s))
    (kept : ∀ shown told, mine shown → its told → ∀ kind ∈ kinds, shown.filter kind = [] ∨ told.filter kind = []) :
    Agrees kinds outer ((do let x ← Act.on one act; other; return x) whole) ((do other; Act.on one act) whole) := by
  rcases here : act (one.get whole) with ⟨shown, reason | ⟨x, s⟩⟩
  · exact (ends_of_error first here).elim
  · rcases there : other whole with ⟨told, reason | ⟨_, next⟩⟩
    · exact (ends_of_error second there).elim
    · obtain ⟨told_its, same⟩ := ends_of_ok second there
      have onward := apart s
      rw [there] at onward
      simp only [Bind.bind, Act.bind, Act.on, here, there, onward, same, onto, Except.map, Pure.pure, Act.pure,
        List.append_nil]
      refine ⟨fun kind member => ?_, rfl⟩
      rw [List.filter_append, List.filter_append]
      obtain none | none := kept shown told (ends_of_ok first here) told_its kind member
      · rw [none, List.nil_append, List.append_nil]
      · rw [none, List.nil_append, List.append_nil]

end Act

end GpuProfiler
