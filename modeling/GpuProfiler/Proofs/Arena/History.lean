import Mathlib.Data.List.Induction
import Mathlib.Data.List.Nodup
import GpuProfiler.Proofs.Arena

set_option autoImplicit false

namespace GpuProfiler

inductive ArenaCall (α : Type) where
  | insert (value : α)
  | set (handle : Handle α) (value : α)
  | remove (handle : Handle α)
  | clear
deriving DecidableEq, Repr

local instance Handle.comparable {α : Type} (one other : Handle α) : Decidable (one = other) :=
  decidable_of_iff (one.index = other.index ∧ one.generation = other.generation) (by cases one; cases other; simp)

def ArenaCall.leaves {α : Type} (call : ArenaCall α) (handle : Handle α) (held : Option α) : Option α :=
  match call with
  | .insert _ => held
  | .set other value => if other = handle then held.map fun _ => value else held
  | .remove other => if other = handle then none else held
  | .clear => none

-- An object that was put into an arena, and the handle it was given. `held` is what was stored through
-- the handle last, as long as the object is there; `vacated` counts how often the slot has been vacated
-- since the object was put there.
structure Stay (α : Type) where
  handle : Handle α
  held : Option α
  vacated : Nat
deriving DecidableEq, Repr

namespace Arena

variable {α : Type}

def perform (arena : Arena α) : ArenaCall α → Arena α
  | .insert value => (arena.insert value).2
  | .set handle value => arena.set handle value
  | .remove handle => (arena.remove handle).2
  | .clear => arena.clear

def occupied (arena : Arena α) (index : UInt32) : Bool :=
  match arena.slots[index.toNat]? with
  | some slot => slot.value.isSome
  | none => false

def vacated (arena next : Arena α) (index : UInt32) : Bool := arena.occupied index && !next.occupied index

section Listing

variable {arena : Arena α}

theorem mem_live_from (slots : List (Slot α)) (first : Nat) (entry : Handle α × α) :
    entry ∈ liveFrom first slots ↔
      ∃ place, slots[place]? = some ⟨entry.1.generation, some entry.2⟩ ∧
        entry.1.index = UInt32.ofNat (first + place) := by
  induction slots generalizing first with
  | nil => simp [liveFrom]
  | cons slot rest ih =>
    obtain ⟨⟨index, generation⟩, value⟩ := entry
    rw [← Nat.or_exists_add_one]
    obtain ⟨stamp, held⟩ := slot
    cases held with
    | none => simp [liveFrom, ih, Nat.add_assoc, Nat.add_comm 1]
    | some old => simp [liveFrom, ih, Nat.add_assoc, Nat.add_comm 1, eq_comm, and_comm, and_assoc]

theorem live_from_ascends (slots : List (Slot α)) (first : Nat) (fits : first + slots.length ≤ UInt32.size) :
    (liveFrom first slots).Pairwise fun entry later => entry.1.index < later.1.index := by
  induction slots generalizing first with
  | nil => exact .nil
  | cons slot rest ih =>
    rw [List.length_cons] at fits
    have behind := ih (first + 1) (by omega)
    unfold liveFrom
    split
    · refine List.pairwise_cons.mpr ⟨?_, behind⟩
      intro later member
      obtain ⟨place, read, index⟩ := (mem_live_from rest (first + 1) later).mp member
      have inside := (List.getElem?_eq_some_iff.mp read).1
      rw [index, UInt32.lt_iff_toNat_lt, UInt32.toNat_ofNat_of_lt' (by omega), UInt32.toNat_ofNat_of_lt' (by omega)]
      omega
    · exact behind

theorem length_live_from (slots : List (Slot α)) (first : Nat) :
    (liveFrom first slots).length = slots.countP (·.value.isSome) := by
  induction slots generalizing first with
  | nil => rfl
  | cons slot rest ih =>
    unfold liveFrom
    split
    · next value held => simp [held, ih]
    · next vacant => simp [vacant, ih]

theorem mem_to_list (fits : arena.slots.length ≤ UInt32.size) (handle : Handle α) (value : α) :
    (handle, value) ∈ arena.toList ↔ arena.get? handle = some value := by
  rw [toList, mem_live_from, get_some_slot]
  constructor
  · rintro ⟨place, read, index⟩
    have inside := (List.getElem?_eq_some_iff.mp read).1
    rw [Nat.zero_add] at index
    rwa [index, UInt32.toNat_ofNat_of_lt' (by omega)]
  · intro read
    exact ⟨handle.index.toNat, read, by rw [Nat.zero_add, UInt32.ofNat_toNat]⟩

theorem to_list_ascends (fits : arena.slots.length ≤ UInt32.size) :
    arena.toList.Pairwise fun entry later => entry.1.index < later.1.index :=
  live_from_ascends arena.slots 0 (by rwa [Nat.zero_add])

end Listing

section Steps

variable {arena : Arena α} {handle : Handle α} {value : α}

theorem occupied_live (live : arena.get? handle = some value) : arena.occupied handle.index = true := by
  simp [occupied, (get_some_slot arena handle value).mp live]

theorem remove_live (live : arena.get? handle = some value) :
    arena.remove handle = (some value, ⟨arena.slots.set handle.index.toNat ⟨handle.generation + 1, none⟩,
      handle.index :: arena.free, arena.size - 1⟩) := by
  have found := (slot_some arena handle ⟨handle.generation, some value⟩).mpr
    ⟨(get_some_slot arena handle value).mp live, rfl⟩
  rw [remove, found]
  rfl

theorem slots_clear (arena : Arena α) (place : Nat) :
    arena.clear.slots[place]? = arena.slots[place]?.map fun slot =>
      if slot.value.isSome then slot.vacate else slot := by
  simp [clear]

theorem vacant_clear {place : Nat} {slot : Slot α} (read : arena.clear.slots[place]? = some slot) :
    slot.value = none := by
  rw [slots_clear, Option.map_eq_some_iff] at read
  obtain ⟨before, _, rfl⟩ := read
  cases held : before.value <;> simp [held, Slot.vacate]

theorem get_clear (arena : Arena α) (handle : Handle α) : arena.clear.get? handle = none := by
  cases live : arena.clear.get? handle with
  | none => rfl
  | some value => exact nomatch vacant_clear ((get_some_slot _ handle value).mp live)

theorem sound_clear (sound : arena.Sound) (fits : arena.slots.length ≤ UInt32.size) : arena.clear.Sound := by
  -- What was vacant stays so, and what was occupied is vacant now.
  have cleared (place : Nat) (slot : Slot α) (read : arena.slots[place]? = some slot) :
      ∃ generation, arena.clear.slots[place]? = some ⟨generation, none⟩ := by
    have after : arena.clear.slots[place]? = some (if slot.value.isSome then slot.vacate else slot) := by
      rw [slots_clear, read, Option.map_some]
    have vacant := vacant_clear after
    exact ⟨_, after.trans (by rw [← vacant])⟩
  have listed (index : UInt32) (member : index ∈ arena.toList.map (·.1.index)) :
      ∃ value, ∃ handle : Handle α, handle.index = index ∧ arena.get? handle = some value := by
    obtain ⟨⟨handle, value⟩, inside, same⟩ := List.mem_map.mp member
    exact ⟨value, handle, same, (mem_to_list fits handle value).mp inside⟩
  refine ⟨List.nodup_append.mpr ⟨?_, sound.once, ?_⟩, ?_⟩
  · rw [List.nodup_reverse]
    refine (List.pairwise_map.mpr ((to_list_ascends fits).imp ?_))
    exact fun less same => absurd (same ▸ less) (UInt32.lt_irrefl _)
  · intro index member other free same
    obtain ⟨value, handle, rfl, live⟩ := listed index (List.mem_reverse.mp member)
    exact live_not_free sound live (same ▸ free)
  · intro index member
    rcases List.mem_append.mp member with lived | free
    · obtain ⟨value, handle, rfl, live⟩ := listed index (List.mem_reverse.mp lived)
      exact cleared _ _ ((get_some_slot arena handle value).mp live)
    · obtain ⟨generation, vacant⟩ := sound.vacant index free
      exact cleared _ _ vacant

-- What a call does to the slots. All that is proved of histories is proved from this list.
inductive Step (arena : Arena α) : ArenaCall α → Arena α → Prop
  | grown (value : α) (handle : Handle α) (next : Arena α) (given : (arena.insert value).1 = handle)
      (last : handle.index.toNat = arena.slots.length) (young : handle.generation = 0)
      (slots : next.slots = arena.slots ++ [⟨0, some value⟩]) (size : next.size = arena.size + 1) :
      Step arena (.insert value) next
  | placed (value : α) (handle : Handle α) (next : Arena α) (given : (arena.insert value).1 = handle)
      (vacant : arena.slots[handle.index.toNat]? = some ⟨handle.generation, none⟩)
      (slots : next.slots = arena.slots.set handle.index.toNat ⟨handle.generation, some value⟩)
      (size : next.size = arena.size + 1) : Step arena (.insert value) next
  | stored (handle : Handle α) (old value : α) (next : Arena α) (live : arena.get? handle = some old)
      (slots : next.slots = arena.slots.set handle.index.toNat ⟨handle.generation, some value⟩)
      (size : next.size = arena.size) : Step arena (.set handle value) next
  | removed (handle : Handle α) (old : α) (next : Arena α) (live : arena.get? handle = some old)
      (slots : next.slots = arena.slots.set handle.index.toNat ⟨handle.generation + 1, none⟩)
      (size : next.size = arena.size - 1) : Step arena (.remove handle) next
  | cleared : Step arena .clear arena.clear
  | missed (handle : Handle α) (call : ArenaCall α) (stale : arena.get? handle = none)
      (aimed : call = .remove handle ∨ ∃ value, call = .set handle value) : Step arena call arena

theorem step_perform (sound : arena.Sound) (call : ArenaCall α)
    (fits : (arena.perform call).slots.length ≤ UInt32.size) :
    arena.Step call (arena.perform call) := by
  cases call with
  | insert value =>
    rcases insert_cases sound value with made | ⟨index, free, generation, _, vacant, made⟩
    · simp only [perform, made, grow, List.length_append, List.length_singleton] at fits ⊢
      refine .grown value ⟨UInt32.ofNat arena.slots.length, 0⟩ _ (by rw [made, grow]) ?_ rfl rfl rfl
      exact UInt32.toNat_ofNat_of_lt' (by omega)
    · rw [perform, made]
      exact .placed value ⟨index, generation⟩ _ (by rw [made]) vacant rfl rfl
  | set handle value =>
    cases live : arena.get? handle with
    | none =>
      rw [perform, set, live]
      exact .missed handle _ live (.inr ⟨value, rfl⟩)
    | some old =>
      rw [perform, set, live]
      exact .stored handle old value _ live rfl rfl
  | remove handle =>
    cases live : arena.get? handle with
    | none =>
      rw [perform, remove_stale live]
      exact .missed handle _ live (.inl rfl)
    | some old =>
      rw [perform, remove_live live]
      exact .removed handle old _ live rfl rfl
  | clear => exact .cleared

variable {call : ArenaCall α} {next : Arena α}

theorem sound_perform (sound : arena.Sound) (fits : arena.slots.length ≤ UInt32.size) (call : ArenaCall α) :
    (arena.perform call).Sound := by
  cases call with
  | insert value => exact sound_insert sound value
  | set handle value => exact sound_set sound handle value
  | remove handle => exact sound_remove sound handle
  | clear => exact sound_clear sound fits

theorem length_perform (arena : Arena α) (call : ArenaCall α) :
    arena.slots.length ≤ (arena.perform call).slots.length := by
  cases call with
  | insert value =>
    simp only [perform, insert]
    split
    · simp [grow]
    · split <;> simp [grow]
  | set handle value =>
    simp only [perform, set]
    split <;> simp
  | remove handle =>
    simp only [perform, remove]
    split
    · split <;> simp
    · exact Nat.le_refl _
  | clear => simp [perform, clear]

theorem occupied_slot {index : UInt32} {slot : Slot α} (read : arena.slots[index.toNat]? = some slot) :
    arena.occupied index = slot.value.isSome := by
  rw [occupied, read]

theorem step_generation (step : arena.Step call next) {index : UInt32} {slot : Slot α}
    (read : arena.slots[index.toNat]? = some slot) :
    ∃ after, next.slots[index.toNat]? = some after ∧
      after.generation = slot.generation + UInt32.ofNat (arena.vacated next index).toNat := by
  have counts (after : Slot α) (there : next.slots[index.toNat]? = some after) :
      arena.vacated next index = (slot.value.isSome && !after.value.isSome) := by
    rw [vacated, occupied_slot read, occupied_slot there]
  have stays (there : next.slots[index.toNat]? = some slot) : ∃ after, next.slots[index.toNat]? = some after ∧
      after.generation = slot.generation + UInt32.ofNat (arena.vacated next index).toNat := by
    refine ⟨slot, there, ?_⟩
    rw [counts slot there, Bool.and_not_self]
    exact (UInt32.add_zero _).symm
  -- One slot is written; the others stay.
  have written (place : UInt32) (new : Slot α) (slots : next.slots = arena.slots.set place.toNat new)
      (here : place = index → new.generation =
        slot.generation + UInt32.ofNat (slot.value.isSome && !new.value.isSome).toNat) :
      ∃ after, next.slots[index.toNat]? = some after ∧
        after.generation = slot.generation + UInt32.ofNat (arena.vacated next index).toNat := by
    by_cases same : place = index
    · have there : next.slots[index.toNat]? = some new := by
        rw [slots, same, List.getElem?_set_self (List.getElem?_eq_some_iff.mp read).1]
      exact ⟨new, there, by rw [counts new there, here same]⟩
    · apply stays
      rw [slots, List.getElem?_set_ne fun equal => same (UInt32.toNat_inj.mp equal), read]
  cases step with
  | grown value handle _ _ _ _ slots =>
    apply stays
    rw [slots, List.getElem?_append_left (List.getElem?_eq_some_iff.mp read).1, read]
  | placed value handle _ _ vacant slots =>
    refine written handle.index _ slots fun same => ?_
    obtain rfl : slot = ⟨handle.generation, none⟩ := Option.some.inj (read.symm.trans (same ▸ vacant))
    exact (UInt32.add_zero _).symm
  | stored handle old value _ live slots =>
    refine written handle.index _ slots fun same => ?_
    obtain rfl : slot = ⟨handle.generation, some old⟩ :=
      Option.some.inj (read.symm.trans (same ▸ (get_some_slot arena handle old).mp live))
    exact (UInt32.add_zero _).symm
  | removed handle old _ live slots =>
    refine written handle.index _ slots fun same => ?_
    obtain rfl : slot = ⟨handle.generation, some old⟩ :=
      Option.some.inj (read.symm.trans (same ▸ (get_some_slot arena handle old).mp live))
    rfl
  | cleared =>
    have there : arena.clear.slots[index.toNat]? = some (if slot.value.isSome then slot.vacate else slot) := by
      rw [slots_clear, read, Option.map_some]
    refine ⟨_, there, ?_⟩
    rw [counts _ there, vacant_clear there]
    cases slot.value with
    | none => exact (UInt32.add_zero _).symm
    | some old => rfl
  | missed => exact stays read

theorem step_vacated (step : arena.Step call next) (live : arena.get? handle = some value)
    (lost : next.get? handle = none) :
    arena.vacated next handle.index = true := by
  obtain ⟨⟨generation, held⟩, there, same⟩ := step_generation step ((get_some_slot arena handle value).mp live)
  cases vacates : arena.vacated next handle.index with
  | true => rfl
  | false =>
    rw [vacated, occupied_live live, occupied_slot there] at vacates
    cases held with
    | none => cases vacates
    | some other =>
      obtain rfl : generation = handle.generation := by simpa [vacated, occupied_slot there] using same
      rw [(get_some_slot next handle other).mpr there] at lost
      cases lost

theorem step_size (step : arena.Step call next) (size : arena.size = arena.slots.countP (·.value.isSome)) :
    next.size = next.slots.countP (·.value.isSome) := by
  have read (place : Nat) (slot new : Slot α) (here : arena.slots[place]? = some slot) :
      (arena.slots.set place new).countP (·.value.isSome) =
        arena.size - slot.value.isSome.toNat + new.value.isSome.toNat := by
    obtain ⟨inside, same⟩ := List.getElem?_eq_some_iff.mp here
    rw [List.countP_set inside, same, ← size]
    cases slot.value.isSome <;> cases new.value.isSome <;> rfl
  have some (place : Nat) (slot : Slot α) (here : arena.slots[place]? = some slot) (held : slot.value.isSome = true) :
      0 < arena.size := by
    rw [size]
    exact List.countP_pos_iff.mpr ⟨slot, List.mem_of_getElem? here, held⟩
  cases step with
  | grown _ _ _ _ _ _ slots more => rw [more, slots, List.countP_append, ← size]; rfl
  | placed _ _ _ _ vacant slots more => rw [more, slots, read _ _ _ vacant]; rfl
  | stored handle old _ _ live slots same =>
    have here := (get_some_slot arena handle old).mp live
    rw [same, slots, read _ _ _ here]
    exact (Nat.sub_add_cancel (some _ _ here rfl)).symm
  | removed handle old _ live slots fewer =>
    rw [fewer, slots, read _ _ _ ((get_some_slot arena handle old).mp live)]
    rfl
  | cleared =>
    refine (List.countP_eq_zero.mpr fun slot member => ?_).symm
    obtain ⟨place, inside, rfl⟩ := List.mem_iff_getElem.mp member
    rw [vacant_clear (List.getElem?_eq_getElem inside)]
    exact Bool.false_ne_true
  | missed => exact size

theorem step_given (step : arena.Step (.insert value) next) :
    arena.get? (arena.insert value).1 = none ∧ next.get? (arena.insert value).1 = some value := by
  cases step with
  | grown _ handle _ given last young slots =>
    rw [given, get_some_slot, slots, last, List.getElem?_append_right (Nat.le_refl _), Nat.sub_self, young]
    refine ⟨?_, rfl⟩
    rw [get?, slot?, List.getElem?_eq_none (Nat.le_of_eq last.symm)]
  | placed _ handle _ given vacant slots =>
    rw [given, get_some_slot, slots, List.getElem?_set_self (List.getElem?_eq_some_iff.mp vacant).1]
    refine ⟨?_, rfl⟩
    simp [get?, slot?, vacant]
  | missed _ _ _ aimed => rcases aimed with never | ⟨_, never⟩ <;> cases never

theorem given_vacant (sound : arena.Sound) (value : α) (room : arena.slots.length < UInt32.size) :
    arena.get? (arena.insert value).1 = none :=
  (step_given (step_perform sound (.insert value) (Nat.le_trans (length_insert arena value) room))).1

theorem get_insert_if (sound : arena.Sound) (value : α) (room : arena.slots.length < UInt32.size) (other : Handle α)
    [Decidable (other = (arena.insert value).1)] :
    (arena.insert value).2.get? other = if other = (arena.insert value).1 then some value else arena.get? other := by
  split
  · next same =>
    rw [same]
    exact (step_given (step_perform sound (.insert value) (Nat.le_trans (length_insert arena value) room))).2
  · next different => exact get_insert_elsewhere sound value different

theorem leaves_none (call : ArenaCall α) (handle : Handle α) : call.leaves handle none = none := by
  cases call <;> simp [ArenaCall.leaves]

theorem get_perform_live (sound : arena.Sound) (call : ArenaCall α) (live : arena.get? handle = some value) :
    (arena.perform call).get? handle = call.leaves handle (some value) := by
  cases call with
  | insert other => exact get_insert_live sound other live
  | set other new =>
    by_cases same : other = handle
    · subst same
      rw [perform, get_set_here arena other value new live, ArenaCall.leaves, if_pos rfl, Option.map_some]
    · rw [perform, get_set_elsewhere arena other handle new (Ne.symm same), live, ArenaCall.leaves, if_neg same]
  | remove other =>
    by_cases same : other = handle
    · rw [perform, same, get_remove_here, ArenaCall.leaves, if_pos rfl]
    · rw [perform, get_remove_elsewhere arena other handle (Ne.symm same), live, ArenaCall.leaves, if_neg same]
  | clear => exact get_clear arena handle

theorem get_perform_stale (sound : arena.Sound) (call : ArenaCall α) (stale : arena.get? handle = none)
    (found : (arena.perform call).get? handle = some value) :
    call = .insert value ∧ handle = (arena.insert value).1 := by
  cases call with
  | insert other =>
    rcases get_insert_cases sound other found with before | ⟨_, given, same⟩
    · rw [stale] at before
      cases before
    · exact ⟨by rw [same], by rw [given, same]⟩
  | set other new =>
    rcases get_set_cases other handle new value found with ⟨same, _, live⟩ | ⟨_, before⟩
    · rw [← same, stale] at live
      cases live
    · rw [stale] at before
      cases before
  | remove other =>
    have before := (get_remove_live found).2
    rw [stale] at before
    cases before
  | clear => exact nomatch (get_clear arena handle).symm.trans found

theorem length_perform_all (arena : Arena α) (calls : List (ArenaCall α)) :
    arena.slots.length ≤ (calls.foldl perform arena).slots.length := by
  induction calls generalizing arena with
  | nil => exact Nat.le_refl _
  | cons call rest ih => exact Nat.le_trans (length_perform arena call) (ih (arena.perform call))

end Steps

end Arena

def Stay.behind {α : Type} (arena : Arena α) (call : ArenaCall α) (stay : Stay α) : Stay α :=
  ⟨stay.handle, call.leaves stay.handle stay.held,
    stay.vacated + (arena.vacated (arena.perform call) stay.handle.index).toNat⟩

structure History (α : Type) where
  arena : Arena α
  stays : List (Stay α)
deriving DecidableEq, Repr

namespace History

variable {α : Type}

def start : History α := ⟨.empty, []⟩

def arrived (arena : Arena α) : ArenaCall α → List (Stay α)
  | .insert value => [⟨(arena.insert value).1, some value, 0⟩]
  | _ => []

def extend (history : History α) (call : ArenaCall α) : History α :=
  ⟨history.arena.perform call, history.stays.map (Stay.behind history.arena call) ++ arrived history.arena call⟩

def extendAll (history : History α) (calls : List (ArenaCall α)) : History α := calls.foldl extend history

def ofCalls (calls : List (ArenaCall α)) : History α := calls.foldl extend start

def live (history : History α) : List (Handle α × α) :=
  history.stays.filterMap fun stay => stay.held.map (stay.handle, ·)

structure Kept (history : History α) : Prop where
  sound : history.arena.Sound
  size : history.arena.size = history.arena.slots.countP (·.value.isSome)
  stamped : ∀ stay ∈ history.stays, ∃ slot, history.arena.slots[stay.handle.index.toNat]? = some slot ∧
    slot.generation = stay.handle.generation + UInt32.ofNat stay.vacated
  held : ∀ stay ∈ history.stays, ∀ value, stay.held = some value →
    history.arena.get? stay.handle = some value ∧ stay.vacated = 0
  gone : ∀ stay ∈ history.stays, stay.held = none → 0 < stay.vacated
  known : ∀ handle value, history.arena.get? handle = some value → (handle, value) ∈ history.live
  once : (history.live.map (·.1)).Nodup

theorem kept_start : (start : History α).Kept where
  sound := Arena.sound_empty
  size := rfl
  stamped _ member := nomatch member
  held _ member := nomatch member
  gone _ member := nomatch member
  known _ _ found := nomatch found
  once := .nil

theorem mem_live (history : History α) (handle : Handle α) (value : α) :
    (handle, value) ∈ history.live ↔ ∃ stay ∈ history.stays, stay.handle = handle ∧ stay.held = some value := by
  simp only [live, List.mem_filterMap, Option.map_eq_some_iff, Prod.mk.injEq]
  constructor
  · rintro ⟨stay, member, _, held, same, rfl⟩
    exact ⟨stay, member, same, held⟩
  · rintro ⟨stay, member, same, held⟩
    exact ⟨stay, member, value, held, same, rfl⟩

section Extending

variable {history : History α} {call : ArenaCall α}

theorem arrived_given {stay : Stay α} {arena : Arena α} (member : stay ∈ arrived arena call) :
    ∃ value, call = .insert value ∧ stay = ⟨(arena.insert value).1, some value, 0⟩ := by
  cases call with
  | insert value => exact ⟨value, rfl, List.mem_singleton.mp member⟩
  | set | remove | clear => cases member

theorem mem_stays_extend {stay : Stay α} (member : stay ∈ (history.extend call).stays) :
    (∃ before ∈ history.stays, stay = before.behind history.arena call) ∨
      ∃ value, call = .insert value ∧ stay = ⟨(history.arena.insert value).1, some value, 0⟩ := by
  rcases List.mem_append.mp member with older | new
  · obtain ⟨before, known, same⟩ := List.mem_map.mp older
    exact .inl ⟨before, known, same.symm⟩
  · exact .inr (arrived_given new)

theorem behind_held {stay : Stay α} {value : α} (held : (stay.behind history.arena call).held = some value) :
    ∃ old, stay.held = some old := by
  cases before : stay.held with
  | some old => exact ⟨old, rfl⟩
  | none =>
    rw [Stay.behind, before, Arena.leaves_none] at held
    cases held

theorem live_extend : (history.extend call).live =
    ((history.stays.map (Stay.behind history.arena call)).filterMap fun stay => stay.held.map (stay.handle, ·)) ++
      (arrived history.arena call).filterMap fun stay => stay.held.map (stay.handle, ·) := by
  rw [live, extend, List.filterMap_append]

theorem handles_behind (stays : List (Stay α)) :
    List.Sublist
      (((stays.map (Stay.behind history.arena call)).filterMap fun stay => stay.held.map (stay.handle, ·)).map (·.1))
      ((stays.filterMap fun stay => stay.held.map (stay.handle, ·)).map (·.1)) := by
  induction stays with
  | nil => exact .slnil
  | cons stay rest ih =>
    simp only [List.map_cons, List.filterMap_cons]
    cases after : (stay.behind history.arena call).held with
    | some value =>
      obtain ⟨old, before⟩ := behind_held after
      rw [before]
      exact ih.cons_cons stay.handle
    | none =>
      cases stay.held with
      | some old => exact ih.cons stay.handle
      | none => exact ih

theorem kept_extend (kept : history.Kept) (fits : (history.extend call).arena.slots.length ≤ UInt32.size) :
    (history.extend call).Kept := by
  have step := Arena.step_perform kept.sound call fits
  refine ⟨Arena.sound_perform kept.sound (Nat.le_trans (Arena.length_perform _ call) fits) call,
    Arena.step_size step kept.size, ?stamped, ?held, ?gone, ?known, ?once⟩
  case stamped =>
    intro stay member
    rcases mem_stays_extend member with ⟨before, known, rfl⟩ | ⟨value, rfl, rfl⟩
    · obtain ⟨slot, read, stamp⟩ := kept.stamped before known
      obtain ⟨after, there, moved⟩ := Arena.step_generation step read
      refine ⟨after, there, ?_⟩
      rw [moved, stamp, Stay.behind, UInt32.ofNat_add, UInt32.add_assoc]
    · have given := (Arena.get_some_slot _ _ value).mp (Arena.step_given step).2
      exact ⟨_, given, (UInt32.add_zero _).symm⟩
  case held =>
    intro stay member value held
    rcases mem_stays_extend member with ⟨before, known, rfl⟩ | ⟨inserted, rfl, rfl⟩
    · obtain ⟨old, stored⟩ := behind_held held
      obtain ⟨live, never⟩ := kept.held before known old stored
      have found : (history.extend call).arena.get? before.handle = some value := by
        rw [extend, Arena.get_perform_live kept.sound call live, ← held, Stay.behind, stored]
      have stays : (history.arena.perform call).occupied before.handle.index = true := Arena.occupied_live found
      refine ⟨found, ?_⟩
      rw [Stay.behind, never, Arena.vacated, stays, Bool.not_true, Bool.and_false]
      rfl
    · obtain rfl : inserted = value := Option.some.inj held
      exact ⟨(Arena.step_given step).2, rfl⟩
  case gone =>
    intro stay member left
    rcases mem_stays_extend member with ⟨before, known, rfl⟩ | ⟨inserted, rfl, rfl⟩
    · cases stored : before.held with
      | none => exact Nat.lt_of_lt_of_le (kept.gone before known stored) (Nat.le_add_right _ _)
      | some old =>
        have live := (kept.held before known old stored).1
        have lost : (history.arena.perform call).get? before.handle = none := by
          rw [Arena.get_perform_live kept.sound call live, ← left, Stay.behind, stored]
        rw [Stay.behind, Arena.step_vacated step live lost]
        exact Nat.succ_pos _
    · cases left
  case known =>
    intro handle value found
    rw [mem_live]
    cases before : history.arena.get? handle with
    | some old =>
      obtain ⟨stay, member, same, stored⟩ := (mem_live history handle old).mp (kept.known handle old before)
      refine ⟨stay.behind history.arena call, List.mem_append_left _ (List.mem_map_of_mem member), same, ?_⟩
      rw [Stay.behind, stored, same, ← Arena.get_perform_live kept.sound call before]
      exact found
    | none =>
      obtain ⟨rfl, given⟩ := Arena.get_perform_stale kept.sound call before found
      exact ⟨_, List.mem_append_right _ (List.mem_singleton_self _), given.symm, rfl⟩
  case once =>
    rw [live_extend, List.map_append, List.nodup_append]
    refine ⟨kept.once.sublist (handles_behind history.stays), ?_, ?_⟩
    · cases call <;> simp [arrived]
    · intro handle older other new same
      obtain ⟨⟨_, value⟩, arrival, rfl⟩ := List.mem_map.mp new
      obtain ⟨stay, inside, given⟩ := List.mem_filterMap.mp arrival
      obtain ⟨inserted, rfl, rfl⟩ := arrived_given inside
      cases given
      obtain ⟨⟨_, old⟩, lived, rfl⟩ := List.mem_map.mp ((handles_behind history.stays).subset older)
      obtain ⟨before, known, rfl, stored⟩ := (mem_live history _ old).mp lived
      have live := (kept.held before known old stored).1
      have fresh : before.handle = (history.arena.insert value).1 := same
      rw [fresh, (Arena.step_given step).1] at live
      cases live

end Extending

theorem arena_extend_all (history : History α) (calls : List (ArenaCall α)) :
    (history.extendAll calls).arena = calls.foldl Arena.perform history.arena := by
  induction calls generalizing history with
  | nil => rfl
  | cons call rest ih => exact ih (history.extend call)

theorem kept_extend_all {history : History α} (kept : history.Kept) (calls : List (ArenaCall α))
    (fits : (calls.foldl Arena.perform history.arena).slots.length ≤ UInt32.size) : (history.extendAll calls).Kept := by
  induction calls generalizing history with
  | nil => exact kept
  | cons call rest ih =>
    have within := Nat.le_trans (Arena.length_perform_all (history.arena.perform call) rest) fits
    exact ih (kept_extend kept within) fits

theorem length_of_calls (calls : List (ArenaCall α)) (call : ArenaCall α) :
    (ofCalls calls).arena.slots.length ≤ (ofCalls (calls ++ [call])).arena.slots.length := by
  rw [ofCalls, ofCalls, List.foldl_append]
  exact Arena.length_perform _ call

theorem kept_of_calls (calls : List (ArenaCall α)) (fits : (ofCalls calls).arena.slots.length ≤ UInt32.size) :
    (ofCalls calls).Kept := by
  induction calls using List.reverseRecOn with
  | nil => exact kept_start
  | append_singleton calls call ih =>
    have before := ih (Nat.le_trans (length_of_calls calls call) fits)
    rw [ofCalls, List.foldl_append] at fits ⊢
    exact kept_extend before fits

theorem arena_of_calls (calls : List (ArenaCall α)) : (ofCalls calls).arena = calls.foldl Arena.perform .empty := by
  induction calls using List.reverseRecOn with
  | nil => rfl
  | append_singleton calls call ih =>
    rw [List.foldl_append, ← ih, ofCalls, List.foldl_append]
    rfl

section Leading

variable {history : History α}

theorem kept_leads (kept : history.Kept) {stay : Stay α} (member : stay ∈ history.stays)
    (few : stay.vacated < UInt32.size) : history.arena.get? stay.handle = stay.held := by
  cases stored : stay.held with
  | some value => exact (kept.held stay member value stored).1
  | none =>
    have some := kept.gone stay member stored
    obtain ⟨slot, read, stamp⟩ := kept.stamped stay member
    have moved : slot.generation ≠ stay.handle.generation := by
      intro same
      have words := congrArg UInt32.toNat (stamp.symm.trans same)
      rw [UInt32.toNat_add, UInt32.toNat_ofNat_of_lt' few] at words
      have bound := stay.handle.generation.toNat_lt
      have size : UInt32.size = 2 ^ 32 := rfl
      omega
    rw [Arena.get?, Arena.slot?, read]
    simp only [if_neg moved]

theorem live_get (kept : history.Kept) (handle : Handle α) (value : α) :
    (handle, value) ∈ history.live ↔ history.arena.get? handle = some value := by
  constructor
  · intro member
    obtain ⟨stay, known, rfl, stored⟩ := (mem_live history handle value).mp member
    exact (kept.held stay known value stored).1
  · exact kept.known handle value

theorem listed_live (kept : history.Kept) (fits : history.arena.slots.length ≤ UInt32.size) :
    history.arena.toList.Perm history.live := by
  refine (List.perm_ext_iff_of_nodup ?_ (List.Nodup.of_map _ kept.once)).mpr ?_
  · exact (Arena.to_list_ascends fits).imp fun less same => absurd (same ▸ less) (UInt32.lt_irrefl _)
  · intro entry
    rw [Arena.mem_to_list fits, live_get kept]

theorem size_live (kept : history.Kept) (fits : history.arena.slots.length ≤ UInt32.size) :
    history.arena.size = history.live.length := by
  rw [kept.size, ← Arena.length_live_from _ 0, ← (listed_live kept fits).length_eq, Arena.toList]

end Leading

end History

/-- No two objects are ever known by one handle. Whatever is done to an arena, the handle an object was
given leads to what was stored through it last, for every way of following it, and to nothing once the
object is gone; the listing is the objects that are there, by their slots. -/
theorem handles_never_alias {α : Type} (calls : List (ArenaCall α)) (history : History α)
    (made : History.ofCalls calls = history) (fits : history.arena.slots.length < UInt32.size) :
    history.arena = calls.foldl Arena.perform .empty ∧
      (∀ stay ∈ history.stays, stay.vacated < UInt32.size →
        history.arena.get? stay.handle = stay.held ∧
        history.arena.contains stay.handle = stay.held.isSome ∧
        (history.arena.remove stay.handle).1 = stay.held ∧
        ∀ value, (history.arena.set stay.handle value).get? stay.handle = stay.held.map fun _ => value) ∧
      (∀ handle value, history.arena.get? handle = some value ↔ (handle, value) ∈ history.live) ∧
      (history.live.map (·.1)).Nodup ∧
      history.arena.toList.Perm history.live ∧
      (history.arena.toList.Pairwise fun entry later => entry.1.index < later.1.index) ∧
      history.arena.size = history.live.length := by
  subst made
  have kept := History.kept_of_calls calls (Nat.le_of_lt fits)
  refine ⟨History.arena_of_calls calls, ?_, fun handle value => (History.live_get kept handle value).symm, kept.once,
    History.listed_live kept (Nat.le_of_lt fits), Arena.to_list_ascends (Nat.le_of_lt fits),
    History.size_live kept (Nat.le_of_lt fits)⟩
  intro stay member few
  have leads := History.kept_leads kept member few
  refine ⟨leads, by rw [Arena.contains, leads], ?_, ?_⟩
  · cases stored : stay.held with
    | some value => rw [Arena.remove_live (leads.trans stored)]
    | none => rw [Arena.remove_stale (leads.trans stored)]
  · intro value
    cases stored : stay.held with
    | some old => exact Arena.get_set_here _ _ old value (leads.trans stored)
    | none =>
      rw [Arena.set, leads.trans stored, Option.map_none]
      exact leads.trans stored

-- The first object is taken out and its slot used again; its handle is not that of the third object,
-- and what is stored through it afterwards reaches nothing.
theorem handles_never_alias_reused :
    let calls : List (ArenaCall Nat) :=
      [.insert 10, .insert 20, .remove ⟨0, 0⟩, .insert 30, .set ⟨0, 0⟩ 11, .set ⟨1, 0⟩ 21]
    let arena := calls.foldl Arena.perform .empty
    arena.slots.length < UInt32.size ∧
      (History.ofCalls calls).stays = [⟨⟨0, 0⟩, none, 1⟩, ⟨⟨1, 0⟩, some 21, 0⟩, ⟨⟨0, 1⟩, some 30, 0⟩] ∧
      arena.get? ⟨0, 0⟩ = none ∧ arena.toList.Perm [(⟨1, 0⟩, 21), (⟨0, 1⟩, 30)] ∧ arena.size = 2 := by
  intro calls arena
  have fits : arena.slots.length < UInt32.size := by decide
  obtain ⟨same, leads, _, _, listed, _, size⟩ := handles_never_alias calls _ rfl fits
  have stays : (History.ofCalls calls).stays = [⟨⟨0, 0⟩, none, 1⟩, ⟨⟨1, 0⟩, some 21, 0⟩,
      ⟨⟨0, 1⟩, some 30, 0⟩] := by decide
  have first := (leads ⟨⟨0, 0⟩, none, 1⟩ (by rw [stays]; exact List.mem_cons_self) (by decide)).1
  rw [same] at first listed size
  exact ⟨fits, stays, first, listed, size⟩

end GpuProfiler
