import GpuProfiler.Proofs.Driver.Contents
import GpuProfiler.Proofs.Registry
import GpuProfiler.Sampler

set_option autoImplicit false

namespace GpuProfiler

def DriverMethod.isTrap : DriverMethod → Bool
  | .eventStatus | .setEvent | .resetEvent | .commandSetEvent | .commandWaitEvent | .commandResetEvent => true
  | _ => false

namespace Event

-- The recording and the running of a trap, and the messages of frames whose workloads are sampled.
def isTrap : Event → Bool
  | .call _ made _ => made.method.isTrap
  | .message (.frameCounters _ _) _ => false
  | .message _ _ => true
  | _ => false

def isProbe : Event → Bool
  | .sample _ | .read _ | .message _ _ => true
  | _ => false

def failsReplay : Event → Bool
  | .note (.replayFailed _) => true
  | _ => false

def Lacks (kind : Event → Bool) (shown : List Event) : Prop := ∀ event ∈ shown, kind event = false

variable {kind narrower : Event → Bool}

@[simp] theorem lacks_nil : Lacks kind [] := fun _ member => nomatch member

@[simp] theorem lacks_cons (event : Event) (rest : List Event) :
    Lacks kind (event :: rest) ↔ kind event = false ∧ Lacks kind rest := List.forall_mem_cons

@[simp] theorem lacks_append (shown more : List Event) : Lacks kind (shown ++ more) ↔ Lacks kind shown ∧ Lacks kind more :=
  List.forall_mem_append

theorem lacks_mono (within : ∀ event, narrower event = true → kind event = true) {shown : List Event}
    (lacks : Lacks kind shown) : Lacks narrower shown := fun event member =>
  Bool.eq_false_iff.mpr fun found => Bool.eq_false_iff.mp (lacks event member) (within event found)

theorem lacks_notes (noted : ∀ noticed, kind (.note noticed) = false) {shown : List Event}
    (notes : ∀ event ∈ shown, event.isNote = true) : Lacks kind shown := by
  intro event member
  have note := notes event member
  cases event with
  | note noticed => exact noted noticed
  | _ => cases note

def isExtra (event : Event) : Bool := event.isTrap || event.isProbe

-- What working off the end of a frame does not show, where there is nothing to be said of workloads.
def isRare (event : Event) : Bool := event.isTrap || event.failsReplay

def isOutward : Event → Bool
  | .call _ _ _ | .progress _ _ | .message _ _ => true
  | event => event.failsReplay

theorem rare_outward (event : Event) (rare : isRare event = true) : isOutward event = true := by
  cases event with
  | note noticed => simpa [isRare, isOutward, isTrap] using rare
  | sample _ | read _ | mark _ => cases rare
  | _ => rfl

end Event

namespace Act

open Event

variable {σ τ α β : Type} {kind narrower : Event → Bool}

def Without (kind : Event → Bool) (act : Act σ α) : Prop := ∀ s, Lacks kind (act s).events

theorem without_mono {act : Act σ α} (within : ∀ event, narrower event = true → kind event = true)
    (without : Without kind act) : Without narrower act := fun s => lacks_mono within (without s)

theorem lacks_of_ends {act : Act σ α} {s : σ}
    (ends : Ends act s (fun shown _ _ => Lacks kind shown) (fun shown _ => Lacks kind shown)) :
    Lacks kind (act s).events := ends_events ends

theorem ends_lacking {act : Act σ α} {s : σ} (lacks : Lacks kind (act s).events) :
    Ends act s (fun shown _ _ => Lacks kind shown) (fun shown _ => Lacks kind shown) := by
  unfold Ends
  split
  · next ran => rwa [ran] at lacks
  · next ran => rwa [ran] at lacks

theorem lacks_then {act : Act σ β} {next : β → Act σ α} {s : σ} {reached : List Event → β → σ → Prop}
    {bad : List Event → Halt → Prop} (first : Lacks kind (act s).events) (ends : Ends act s reached bad)
    (rest : ∀ shown x t, reached shown x t → Lacks kind (next x t).events) : Lacks kind ((act >>= next) s).events := by
  apply lacks_of_ends
  rw [ends_bind]
  refine ends_mono (ends_and (ends_lacking first) ends) ?_ (fun _ _ both => both.1)
  intro shown x t both
  obtain ⟨lacks, reaches⟩ := both
  refine ends_mono (ends_lacking (rest shown x t reaches)) ?_ ?_
  · exact fun later _ _ still => (lacks_append shown later).mpr ⟨lacks, still⟩
  · exact fun later _ still => (lacks_append shown later).mpr ⟨lacks, still⟩

theorem without_bind {act : Act σ β} {next : β → Act σ α} (first : Without kind act) (rest : ∀ x, Without kind (next x)) :
    Without kind (act >>= next) :=
  fun s => lacks_then (first s) (ends_self act s) fun _ x t _ => rest x t

theorem without_pure (x : α) : Without kind (Pure.pure x : Act σ α) := fun _ => lacks_nil

theorem without_get : Without kind (get : Act σ σ) := fun _ => lacks_nil

theorem without_set (s : σ) : Without kind (set s) := fun _ => lacks_nil

theorem without_modify (change : σ → σ) : Without kind (modify change) := fun _ => lacks_nil

theorem without_halt (reason : Halt) : Without kind (halt reason : Act σ α) := fun _ => lacks_nil

theorem without_check (result : Except Halt α) : Without kind (check result : Act σ α) := fun _ => lacks_nil

theorem without_emit {event : Event} (other : kind event = false) : Without kind (emit event : Act σ Unit) :=
  fun _ => (lacks_cons event []).mpr ⟨other, lacks_nil⟩

theorem without_note_failure {noticed : Error → Note} (other : ∀ error, kind (.note (noticed error)) = false)
    (result : Except Error Unit) : Without kind (noteFailure noticed result : Act σ Unit) := by
  cases result with
  | ok _ => exact without_pure ()
  | error error => exact without_emit (other error)

theorem without_note_if {condition : Bool} {noticed : Note} (other : kind (.note noticed) = false) :
    Without kind (noteIf condition noticed : Act σ Unit) := by
  cases condition with
  | false => exact without_pure ()
  | true => exact without_emit other

theorem without_on {part : Part τ σ} {act : Act σ α} (without : Without kind act) : Without kind (Act.on part act) := by
  intro whole
  apply lacks_of_ends
  rw [ends_on]
  exact ends_lacking (without (part.get whole))

def Leaves {ρ : Type} (view : σ → ρ) (act : Act σ α) : Prop :=
  ∀ s, Ends act s (fun _ _ t => view t = view s) (fun _ _ => True)

section Leaves

variable {ρ : Type} {view : σ → ρ}

theorem leaves_pure (x : α) : Leaves view (Pure.pure x : Act σ α) := fun _ => rfl

theorem leaves_get : Leaves view (get : Act σ σ) := fun _ => rfl

theorem leaves_note_failure (noticed : Error → Note) (result : Except Error Unit) :
    Leaves view (noteFailure noticed result : Act σ Unit) := by
  cases result with
  | ok _ => exact leaves_pure ()
  | error error => exact fun _ => rfl

theorem leaves_bind {act : Act σ β} {next : β → Act σ α} (first : Leaves view act) (rest : ∀ x, Leaves view (next x)) :
    Leaves view (act >>= next) := by
  intro s
  rw [ends_bind]
  refine ends_mono (first s) ?_ (fun _ _ _ => trivial)
  intro _ x t same
  exact ends_mono (rest x t) (fun _ _ _ still => still.trans same) (fun _ _ _ => trivial)

theorem leaves_on {part : Part σ τ} (apart : ∀ t s, view (part.set t s) = view s) (act : Act τ α) :
    Leaves view (Act.on part act) := by
  intro whole
  rw [ends_on]
  exact ends_mono (ends_self act _) (fun _ _ t _ => apart t whole) (fun _ _ _ => trivial)

end Leaves

-- From a state with some property the act shows nothing of a kind, and where it ends the property holds
-- again.
def Confines (kept : σ → Prop) (kind : Event → Bool) (act : Act σ α) : Prop :=
  ∀ s, kept s → Ends act s (fun shown _ t => kept t ∧ Lacks kind shown) (fun shown _ => Lacks kind shown)

section Confines

variable {kept : σ → Prop}

theorem confines_pure (x : α) : Confines kept kind (Pure.pure x : Act σ α) := fun _ holds => ⟨holds, lacks_nil⟩

theorem confines_halt (reason : Halt) : Confines kept kind (halt reason : Act σ α) := fun _ _ => lacks_nil

theorem confines_emit {event : Event} (other : kind event = false) : Confines kept kind (emit event : Act σ Unit) :=
  fun _ holds => ⟨holds, (lacks_cons event []).mpr ⟨other, lacks_nil⟩⟩

theorem confines_modify {change : σ → σ} (still : ∀ s, kept s → kept (change s)) : Confines kept kind (modify change) :=
  fun s holds => ⟨still s holds, lacks_nil⟩

theorem confines_bind {act : Act σ β} {next : β → Act σ α} (first : Confines kept kind act)
    (rest : ∀ x, Confines kept kind (next x)) : Confines kept kind (act >>= next) := by
  intro s holds
  rw [ends_bind]
  refine ends_mono (first s holds) ?_ (fun _ _ lacks => lacks)
  rintro shown x t ⟨still, lacks⟩
  refine ends_mono (rest x t still) ?_ ?_
  · exact fun later _ _ both => ⟨both.1, (lacks_append shown later).mpr ⟨lacks, both.2⟩⟩
  · exact fun later _ also => (lacks_append shown later).mpr ⟨lacks, also⟩

theorem confines_get {next : σ → Act σ α} (rest : ∀ s, kept s → Confines kept kind (next s)) :
    Confines kept kind (get >>= next) := by
  intro s holds
  rw [ends_bind, ends_get]
  simpa using rest s holds s holds

theorem confines_check {next : β → Act σ α} (result : Except Halt β) (rest : ∀ x, Confines kept kind (next x)) :
    Confines kept kind (check result >>= next) := by
  refine confines_bind (fun s holds => ?_) rest
  rw [ends_check]
  exact ⟨fun _ _ => ⟨holds, lacks_nil⟩, fun _ _ => lacks_nil⟩

theorem confines_note_failure {noticed : Error → Note} (other : ∀ error, kind (.note (noticed error)) = false)
    (result : Except Error Unit) : Confines kept kind (noteFailure noticed result : Act σ Unit) := by
  cases result with
  | ok _ => exact confines_pure ()
  | error error => exact confines_emit (other error)

theorem confines_on {inner : τ → Prop} {part : Part σ τ} {act : Act τ α} (confines : Confines inner kind act)
    (down : ∀ s, kept s → inner (part.get s)) (up : ∀ t s, kept s → inner t → kept (part.set t s)) :
    Confines kept kind (Act.on part act) := by
  intro whole holds
  rw [ends_on]
  exact ends_mono (confines (part.get whole) (down whole holds))
    (fun _ _ t both => ⟨up t whole holds both.1, both.2⟩) (fun _ _ lacks => lacks)

theorem confines_aside {part : Part σ τ} {act : Act τ α} (without : Without kind act)
    (apart : ∀ t s, kept s → kept (part.set t s)) : Confines kept kind (Act.on part act) := by
  have anywhere : Confines (fun _ : τ => True) kind act := fun s _ =>
    ends_mono (ends_lacking (without s)) (fun _ _ _ lacks => ⟨trivial, lacks⟩) (fun _ _ lacks => lacks)
  exact confines_on anywhere (fun _ _ => trivial) fun t s holds _ => apart t s holds

end Confines

end Act

namespace Driver

open Act

variable {α : Type} {kind : Event → Bool} {call : DriverCall} {inner : Act Driver α}

theorem without_attempt (other : ∀ name failed, kind (.call name call failed) = false) : Without kind (attempt call) :=
  without_bind without_get fun _ => without_bind (without_set _) fun _ => without_bind (without_emit (other _ _)) fun _ =>
    without_pure _

theorem without_try_call (other : ∀ name failed, kind (.call name call failed) = false) (without : Without kind inner) :
    Without kind (tryCall call inner) := by
  refine without_bind (without_attempt other) fun fault => ?_
  cases fault with
  | none => exact without_bind without fun _ => without_pure _
  | some error => exact without_pure _

theorem without_do_call (other : ∀ name failed, kind (.call name call failed) = false) (without : Without kind inner) :
    Without kind (doCall call inner) :=
  without_bind (without_attempt other) fun _ => without

theorem without_work (other : ∀ name done, kind (.progress name done) = false) (ops : List DeviceOp) :
    Without kind (work ops) := by
  induction ops with
  | nil => exact without_modify _
  | cons op rest ih =>
    refine without_bind without_get fun driver => ?_
    cases op.step? driver.signalled with
    | none => exact without_set _
    | some moved => exact without_bind (without_set _) fun _ => without_bind (without_emit (other _ _)) fun _ => ih

theorem without_advance (other : ∀ name done, kind (.progress name done) = false) : Without kind advance :=
  without_bind without_get fun driver => without_work other driver.timeline

end Driver

end GpuProfiler
