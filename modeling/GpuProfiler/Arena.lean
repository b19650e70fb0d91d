/-!
Slots addressed by generation-checked handles. A handle names a slot and the generation the slot
had when its object was put there; vacating a slot moves the generation on, so a handle that
outlived its object finds nothing, whatever the slot holds by then.
-/
set_option autoImplicit false

namespace GpuProfiler

structure Handle (α : Type) where
  index : UInt32
  generation : UInt32
deriving DecidableEq, Repr

namespace Handle

variable {α : Type}

def toBits (handle : Handle α) : UInt64 :=
  handle.generation.toUInt64 <<< 32 ||| handle.index.toUInt64

def ofBits (bits : UInt64) : Handle α :=
  ⟨bits.toUInt32, (bits >>> 32).toUInt32⟩

def render (kind : String) (handle : Handle α) : String :=
  "Handle<" ++ kind ++ ">(" ++ toString handle.index.toNat ++ "v" ++ toString handle.generation.toNat ++ ")"

theorem toNat_toBits (handle : Handle α) :
    handle.toBits.toNat = UInt32.size * handle.generation.toNat + handle.index.toNat := by
  have index := handle.index.toNat_lt
  have generation := handle.generation.toNat_lt
  have shifted : handle.generation.toNat <<< 32 = 2 ^ 32 * handle.generation.toNat := by
    rw [Nat.shiftLeft_eq, Nat.mul_comm]
  simp only [toBits, UInt64.toNat_or, UInt64.toNat_shiftLeft, UInt32.toNat_toUInt64]
  rw [show UInt64.toNat 32 % 64 = 32 from rfl, shifted, Nat.mod_eq_of_lt (by omega),
    ← Nat.two_pow_add_eq_or_of_lt index]

theorem ofBits_toBits (handle : Handle α) : ofBits handle.toBits = handle := by
  have index := handle.index.toNat_lt
  have generation := handle.generation.toNat_lt
  have bits : handle.toBits.toNat = 4294967296 * handle.generation.toNat + handle.index.toNat := handle.toNat_toBits
  have low : (handle.toBits.toUInt32).toNat = handle.index.toNat := by
    rw [UInt64.toNat_toUInt32]; omega
  have high : ((handle.toBits >>> 32).toUInt32).toNat = handle.generation.toNat := by
    rw [UInt64.toNat_toUInt32, UInt64.toNat_shiftRight, show UInt64.toNat 32 % 64 = 32 from rfl,
      Nat.shiftRight_eq_div_pow]
    omega
  unfold ofBits
  rw [UInt32.toNat_inj.mp low, UInt32.toNat_inj.mp high]

end Handle

-- A place for one object, with the number of times it has been vacated.
structure Slot (α : Type) where
  generation : UInt32
  value : Option α
deriving DecidableEq, Repr

namespace Slot

variable {α : Type}

def vacate (slot : Slot α) : Slot α := ⟨slot.generation + 1, none⟩

end Slot

/-- The slots, the vacant ones in the order they will be used again, and the number of objects. -/
structure Arena (α : Type) where
  slots : List (Slot α)
  free : List UInt32
  size : Nat
deriving DecidableEq, Repr

namespace Arena

variable {α : Type}

def empty : Arena α := ⟨[], [], 0⟩

instance : Inhabited (Arena α) := ⟨empty⟩

def isEmpty (arena : Arena α) : Bool := arena.size == 0

def slot? (arena : Arena α) (handle : Handle α) : Option (Slot α) :=
  match arena.slots[handle.index.toNat]? with
  | some slot => if slot.generation = handle.generation then some slot else none
  | none => none

def get? (arena : Arena α) (handle : Handle α) : Option α :=
  match arena.slot? handle with
  | some slot => slot.value
  | none => none

def contains (arena : Arena α) (handle : Handle α) : Bool := (arena.get? handle).isSome

def set (arena : Arena α) (handle : Handle α) (value : α) : Arena α :=
  match arena.get? handle with
  | some _ => { arena with slots := arena.slots.set handle.index.toNat ⟨handle.generation, some value⟩ }
  | none => arena

def grow (arena : Arena α) (value : α) : Handle α × Arena α :=
  (⟨UInt32.ofNat arena.slots.length, 0⟩,
    ⟨arena.slots ++ [⟨0, some value⟩], arena.free, arena.size + 1⟩)

-- The slot vacated last is used first; a new slot is made when none is vacant.
def insert (arena : Arena α) (value : α) : Handle α × Arena α :=
  match arena.free with
  | [] => arena.grow value
  | index :: free =>
    match arena.slots[index.toNat]? with
    | some slot =>
      (⟨index, slot.generation⟩,
        ⟨arena.slots.set index.toNat ⟨slot.generation, some value⟩, free, arena.size + 1⟩)
    | none => arena.grow value

def remove (arena : Arena α) (handle : Handle α) : Option α × Arena α :=
  match arena.slot? handle with
  | some slot =>
    match slot.value with
    | some value =>
      (some value,
        ⟨arena.slots.set handle.index.toNat slot.vacate, handle.index :: arena.free, arena.size - 1⟩)
    | none => (none, arena)
  | none => (none, arena)

def liveFrom : Nat → List (Slot α) → List (Handle α × α)
  | _, [] => []
  | index, slot :: rest =>
    match slot.value with
    | some value => (⟨UInt32.ofNat index, slot.generation⟩, value) :: liveFrom (index + 1) rest
    | none => liveFrom (index + 1) rest

def toList (arena : Arena α) : List (Handle α × α) := liveFrom 0 arena.slots

-- Vacates every occupied slot; of these the last is used again first.
def clear (arena : Arena α) : Arena α :=
  ⟨arena.slots.map fun slot => if slot.value.isSome then slot.vacate else slot,
    (arena.toList.map (·.1.index)).reverse ++ arena.free, 0⟩

theorem get_empty (handle : Handle α) : (empty : Arena α).get? handle = none := rfl

theorem get_some_slot (arena : Arena α) (handle : Handle α) (value : α) :
    arena.get? handle = some value ↔
      arena.slots[handle.index.toNat]? = some ⟨handle.generation, some value⟩ := by
  unfold get? slot?
  rcases arena.slots[handle.index.toNat]? with _ | ⟨generation, held⟩
  · simp
  · by_cases same : generation = handle.generation <;> simp [same]

theorem slot_some (arena : Arena α) (handle : Handle α) (slot : Slot α) :
    arena.slot? handle = some slot ↔
      arena.slots[handle.index.toNat]? = some slot ∧ slot.generation = handle.generation := by
  unfold slot?
  rcases arena.slots[handle.index.toNat]? with _ | held
  · simp
  · by_cases same : held.generation = handle.generation
    · simp only [if_pos same, Option.some.injEq]
      exact ⟨fun eq => ⟨eq, eq ▸ same⟩, And.left⟩
    · simp only [if_neg same, reduceCtorEq, Option.some.injEq, false_iff]
      exact fun both => same (both.1 ▸ both.2)

theorem get_none_beside (arena : Arena α) (handle other : Handle α) (held : Option α)
    (different : other ≠ handle) (same : other.index = handle.index)
    (read : arena.slots[handle.index.toNat]? = some ⟨handle.generation, held⟩) :
    arena.get? other = none := by
  have moved : handle.generation ≠ other.generation := by
    intro generation
    exact different (by cases other; cases handle; simp_all)
  simp [get?, slot?, same, read, moved]

theorem get_set_elsewhere (arena : Arena α) (handle other : Handle α) (value : α)
    (different : other ≠ handle) : (arena.set handle value).get? other = arena.get? other := by
  unfold set
  split
  · next old live =>
    have read := (get_some_slot arena handle old).mp live
    by_cases same : other.index = handle.index
    · have bound := (List.getElem?_eq_some_iff.mp read).1
      rw [get_none_beside arena handle other _ different same read]
      exact get_none_beside _ handle other (some value) different same (by simp [bound])
    · have away : handle.index.toNat ≠ other.index.toNat :=
        fun index => same (UInt32.toNat_inj.mp index.symm)
      simp [get?, slot?, away]
  · rfl

theorem get_remove_elsewhere (arena : Arena α) (handle other : Handle α) (different : other ≠ handle) :
    (arena.remove handle).2.get? other = arena.get? other := by
  unfold remove
  split
  · next slot found =>
    obtain ⟨read, current⟩ := (slot_some arena handle slot).mp found
    split
    · next value held =>
      by_cases same : other.index = handle.index
      · have read : arena.slots[handle.index.toNat]? = some ⟨handle.generation, some value⟩ := by
          rw [read, ← current, ← held]
        have bound := (List.getElem?_eq_some_iff.mp read).1
        rw [get_none_beside arena handle other _ different same read]
        by_cases next : slot.generation + 1 = other.generation <;>
          simp [get?, slot?, Slot.vacate, same, bound, next]
      · have away : handle.index.toNat ≠ other.index.toNat :=
          fun index => same (UInt32.toNat_inj.mp index.symm)
        simp [get?, slot?, away]
    · rfl
  · rfl
theorem get_remove_here (arena : Arena α) (handle : Handle α) :
    (arena.remove handle).2.get? handle = none := by
  unfold remove
  split
  · next slot found =>
    obtain ⟨read, current⟩ := (slot_some arena handle slot).mp found
    have bound := (List.getElem?_eq_some_iff.mp read).1
    have next : slot.generation + 1 ≠ slot.generation := by
      intro stays
      have := congrArg UInt32.toNat stays
      simp at this
      omega
    split
    · simp [get?, slot?, Slot.vacate, bound, ← current, next]
    · next vacant => simp [get?, found, vacant]
  · next missing => simp [get?, missing]

theorem get_set_here (arena : Arena α) (handle : Handle α) (old value : α)
    (live : arena.get? handle = some old) : (arena.set handle value).get? handle = some value := by
  have bound := (List.getElem?_eq_some_iff.mp ((get_some_slot arena handle old).mp live)).1
  rw [get_some_slot]
  simp [set, live, bound]

end Arena

end GpuProfiler
