import GpuProfiler.Event

set_option autoImplicit false

namespace GpuProfiler

structure Ran (σ α : Type) where
  events : List Event
  outcome : Except Halt (α × σ)

/-- A step on a state `σ` with a result `α`. -/
def Act (σ α : Type) : Type := σ → Ran σ α

namespace Act

variable {σ τ α β : Type}

def pure (x : α) : Act σ α := fun s => ⟨[], .ok (x, s)⟩

def bind (act : Act σ α) (next : α → Act σ β) : Act σ β := fun s =>
  match act s with
  | ⟨events, .ok (x, s)⟩ =>
    let ran := next x s
    ⟨events ++ ran.events, ran.outcome⟩
  | ⟨events, .error halt⟩ => ⟨events, .error halt⟩

instance : Monad (Act σ) where
  pure := Act.pure
  bind := Act.bind

def get : Act σ σ := fun s => ⟨[], .ok (s, s)⟩

def set (s : σ) : Act σ Unit := fun _ => ⟨[], .ok ((), s)⟩

def modify (change : σ → σ) : Act σ Unit := fun s => ⟨[], .ok ((), change s)⟩

def halt (reason : Halt) : Act σ α := fun _ => ⟨[], .error reason⟩

def emit (event : Event) : Act σ Unit := fun s => ⟨[event], .ok ((), s)⟩

def note (noticed : Note) : Act σ Unit := emit (.note noticed)

def check (result : Except Halt α) : Act σ α := fun s => ⟨[], result.map fun x => (x, s)⟩

def noteFailure (noticed : Error → Note) : Except Error Unit → Act σ Unit
  | .ok () => pure ()
  | .error error => note (noticed error)

def noteIf (condition : Bool) (noticed : Note) : Act σ Unit :=
  if condition then note noticed else pure ()

theorem bind_of_ok {act : Act σ α} {s t : σ} {x : α} {events : List Event}
    (ran : act s = ⟨events, .ok (x, t)⟩) (next : α → Act σ β) :
    (act >>= next) s = ⟨events ++ (next x t).events, (next x t).outcome⟩ := by
  show Act.bind act next s = _
  simp only [Act.bind, ran]

theorem bind_of_error {act : Act σ α} {s : σ} {reason : Halt} {events : List Event}
    (ran : act s = ⟨events, .error reason⟩) (next : α → Act σ β) :
    (act >>= next) s = ⟨events, .error reason⟩ := by
  show Act.bind act next s = _
  simp only [Act.bind, ran]

theorem bind_pure_same (act : Act σ α) (s : σ) : Act.bind act Act.pure s = act s := by
  rcases found : act s with ⟨events, outcome⟩
  rcases outcome with reason | ⟨x, t⟩ <;> simp [Act.bind, Act.pure, found]

theorem bind_regroup {γ : Type} (act : Act σ α) (next : α → Act σ β) (last : β → Act σ γ) (s : σ) :
    Act.bind (Act.bind act next) last s = Act.bind act (fun x => Act.bind (next x) last) s := by
  rcases found : act s with ⟨events, outcome⟩
  rcases outcome with reason | ⟨x, t⟩
  · simp [Act.bind, found]
  · rcases later : next x t with ⟨events', outcome'⟩
    rcases outcome' with reason | ⟨y, u⟩ <;> simp [Act.bind, found, later]

instance : LawfulMonad (Act σ) :=
  LawfulMonad.mk' _ (fun act => funext (bind_pure_same act)) (fun _ _ => rfl)
    (fun act next last => funext (bind_regroup act next last))

end Act

structure Part (τ σ : Type) where
  get : τ → σ
  set : σ → τ → τ

namespace Part

variable {σ τ ρ : Type}

def first : Part (σ × ρ) σ := ⟨Prod.fst, fun s pair => (s, pair.2)⟩

def second : Part (ρ × σ) σ := ⟨Prod.snd, fun s pair => (pair.1, s)⟩

end Part

def Act.on {σ τ α : Type} (part : Part τ σ) (act : Act σ α) : Act τ α := fun whole =>
  match act (part.get whole) with
  | ⟨events, .ok (x, s)⟩ => ⟨events, .ok (x, part.set s whole)⟩
  | ⟨events, .error halt⟩ => ⟨events, .error halt⟩

theorem Act.on_of_ok {σ τ α : Type} {act : Act σ α} {part : Part τ σ} {whole : τ} {s : σ} {x : α}
    {events : List Event} (ran : act (part.get whole) = ⟨events, .ok (x, s)⟩) :
    Act.on part act whole = ⟨events, .ok (x, part.set s whole)⟩ := by
  simp only [Act.on, ran]

def Act.apart {σ τ α : Type} (own : σ) (act : Act σ α) : Act τ (α × σ) := fun whole =>
  match act own with
  | ⟨events, .ok done⟩ => ⟨events, .ok (done, whole)⟩
  | ⟨events, .error halt⟩ => ⟨events, .error halt⟩

end GpuProfiler
