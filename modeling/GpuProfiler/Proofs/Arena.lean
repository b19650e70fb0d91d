import GpuProfiler.Arena

set_option autoImplicit false

namespace GpuProfiler.Arena

variable {α : Type}

structure Sound (arena : Arena α) : Prop where
  once : arena.free.Nodup
  vacant : ∀ index ∈ arena.free, ∃ generation, arena.slots[index.toNat]? = some ⟨generation, none⟩

theorem sound_empty : (empty : Arena α).Sound := ⟨List.nodup_nil, fun _ member => nomatch member⟩

theorem sound_write {arena : Arena α} (sound : arena.Sound) (index : UInt32) (slot : Slot α)
    (used : index ∉ arena.free) : ∀ other ∈ arena.free, ∃ generation,
      (arena.slots.set index.toNat slot)[other.toNat]? = some ⟨generation, none⟩ := by
  intro other member
  have different : index.toNat ≠ other.toNat := fun same => used (UInt32.toNat_inj.mp same ▸ member)
  rw [List.getElem?_set_ne different]
  exact sound.vacant other member

theorem live_not_free {arena : Arena α} (sound : arena.Sound) {handle : Handle α} {value : α}
    (live : arena.get? handle = some value) : handle.index ∉ arena.free := by
  intro member
  obtain ⟨generation, vacant⟩ := sound.vacant handle.index member
  rw [(get_some_slot arena handle value).mp live] at vacant
  cases vacant

theorem sound_set {arena : Arena α} (sound : arena.Sound) (handle : Handle α) (value : α) :
    (arena.set handle value).Sound := by
  unfold set
  split
  · next old live =>
    exact ⟨sound.once, sound_write sound handle.index _ (live_not_free sound live)⟩
  · exact sound

theorem sound_remove {arena : Arena α} (sound : arena.Sound) (handle : Handle α) :
    (arena.remove handle).2.Sound := by
  unfold remove
  split
  · next slot found =>
    obtain ⟨read, current⟩ := (slot_some arena handle slot).mp found
    have bound := (List.getElem?_eq_some_iff.mp read).1
    split
    · next value held =>
      have live : arena.get? handle = some value := by simp [get?, found, held]
      have used := live_not_free sound live
      refine ⟨List.nodup_cons.mpr ⟨used, sound.once⟩, ?_⟩
      intro index member
      rcases List.mem_cons.mp member with same | before
      · subst same
        exact ⟨slot.generation + 1, by simp [Slot.vacate, bound]⟩
      · exact sound_write sound handle.index _ used index before
    · exact sound
  · exact sound

theorem sound_grow {arena : Arena α} (sound : arena.Sound) (value : α) : (arena.grow value).2.Sound := by
  refine ⟨sound.once, ?_⟩
  intro index member
  obtain ⟨generation, vacant⟩ := sound.vacant index member
  exact ⟨generation, by rw [grow, List.getElem?_append_left (List.getElem?_eq_some_iff.mp vacant).1, vacant]⟩

theorem insert_cases {arena : Arena α} (sound : arena.Sound) (value : α) :
    arena.insert value = arena.grow value ∨
      ∃ index free generation, arena.free = index :: free ∧
        arena.slots[index.toNat]? = some ⟨generation, none⟩ ∧
        arena.insert value =
          (⟨index, generation⟩,
            ⟨arena.slots.set index.toNat ⟨generation, some value⟩, free, arena.size + 1⟩) := by
  unfold insert
  cases listed : arena.free with
  | nil => exact Or.inl rfl
  | cons index free =>
    obtain ⟨generation, vacant⟩ := sound.vacant index (by simp [listed])
    right
    exact ⟨index, free, generation, rfl, vacant, by simp [vacant]⟩

theorem sound_insert {arena : Arena α} (sound : arena.Sound) (value : α) : (arena.insert value).2.Sound := by
  rcases insert_cases sound value with grown | ⟨index, free, generation, listed, vacant, inserted⟩
  · rw [grown]
    exact sound_grow sound value
  · rw [inserted]
    have once := sound.once
    rw [listed, List.nodup_cons] at once
    refine ⟨once.2, ?_⟩
    intro other member
    have different : index.toNat ≠ other.toNat := fun same => once.1 (UInt32.toNat_inj.mp same ▸ member)
    rw [List.getElem?_set_ne different]
    exact sound.vacant other (by simp [listed, member])

theorem get_insert_live {arena : Arena α} (sound : arena.Sound) (value : α) {handle : Handle α} {held : α}
    (live : arena.get? handle = some held) : (arena.insert value).2.get? handle = some held := by
  have read := (get_some_slot arena handle held).mp live
  rw [get_some_slot]
  rcases insert_cases sound value with grown | ⟨index, free, generation, listed, vacant, inserted⟩
  · rw [grown, grow, List.getElem?_append_left (List.getElem?_eq_some_iff.mp read).1, read]
  · rw [inserted]
    have different : index.toNat ≠ handle.index.toNat := by
      intro same
      rw [same, read] at vacant
      cases vacant
    rw [List.getElem?_set_ne different, read]

-- A handle that resolves behind an insertion resolved before, or is the one given out. (A slot
-- beyond the reach of any index is never read.)
theorem get_insert_cases {arena : Arena α} (sound : arena.Sound) (value : α) {handle : Handle α} {held : α}
    (found : (arena.insert value).2.get? handle = some held) :
    arena.get? handle = some held ∨
      (arena.get? handle = none ∧ handle = (arena.insert value).1 ∧ held = value) := by
  cases before : arena.get? handle with
  | some old =>
    rw [get_insert_live sound value before] at found
    exact Or.inl found
  | none =>
    right
    have read := (get_some_slot _ handle held).mp found
    rcases insert_cases sound value with grown | ⟨index, free, generation, listed, vacant, inserted⟩
    · rw [grown] at read ⊢
      by_cases inside : handle.index.toNat < arena.slots.length
      · rw [grow, List.getElem?_append_left inside] at read
        rw [(get_some_slot arena handle held).mpr read] at before
        cases before
      · have last : handle.index.toNat = arena.slots.length := by
          have bound := (List.getElem?_eq_some_iff.mp read).1
          simp only [grow, List.length_append, List.length_singleton] at bound
          omega
        rw [grow, last, List.getElem?_append_right (Nat.le_refl _)] at read
        obtain ⟨stamp, rfl⟩ : 0 = handle.generation ∧ value = held := by simpa using read
        refine ⟨rfl, ?_, rfl⟩
        rw [grow, ← last, UInt32.ofNat_toNat, stamp]
    · rw [inserted] at read ⊢
      by_cases same : index.toNat = handle.index.toNat
      · have bound := (List.getElem?_eq_some_iff.mp vacant).1
        rw [← same, List.getElem?_set_self bound] at read
        obtain ⟨stamp, rfl⟩ : generation = handle.generation ∧ value = held := by simpa using read
        refine ⟨rfl, ?_, rfl⟩
        rw [stamp, UInt32.toNat_inj.mp same]
      · rw [List.getElem?_set_ne same] at read
        rw [(get_some_slot arena handle held).mpr read] at before
        cases before

theorem get_set_cases {arena : Arena α} (handle other : Handle α) (value held : α)
    (found : (arena.set handle value).get? other = some held) :
    (other = handle ∧ held = value ∧ (arena.get? handle).isSome) ∨ (other ≠ handle ∧ arena.get? other = some held) := by
  by_cases same : other = handle
  · subst same
    left
    cases before : arena.get? other with
    | none =>
      rw [set, before] at found
      rw [before] at found
      cases found
    | some old =>
      rw [get_set_here arena other old value before] at found
      exact ⟨rfl, (Option.some.inj found).symm, rfl⟩
  · exact Or.inr ⟨same, by rwa [get_set_elsewhere arena handle other value same] at found⟩

theorem get_remove_live {arena : Arena α} {handle other : Handle α} {held : α}
    (found : (arena.remove handle).2.get? other = some held) : other ≠ handle ∧ arena.get? other = some held := by
  by_cases same : other = handle
  · subst same
    rw [get_remove_here] at found
    cases found
  · exact ⟨same, by rwa [get_remove_elsewhere arena handle other same] at found⟩

theorem remove_some {arena : Arena α} {handle : Handle α} {value : α} {rest : Arena α}
    (taken : arena.remove handle = (some value, rest)) : arena.get? handle = some value := by
  unfold remove at taken
  split at taken
  · next slot found =>
    split at taken
    · next held => simp_all [get?]
    · cases taken
  · cases taken

theorem remove_none {arena rest : Arena α} {handle : Handle α} (taken : arena.remove handle = (none, rest)) :
    arena.get? handle = none := by
  unfold remove at taken
  split at taken
  · next slot found =>
    split at taken
    · cases taken
    · next vacant => simp [get?, found, vacant]
  · next missing => simp [get?, missing]

theorem remove_stale {arena : Arena α} {handle : Handle α} (stale : arena.get? handle = none) :
    arena.remove handle = (none, arena) := by
  unfold get? at stale
  unfold remove
  cases found : arena.slot? handle with
  | none => rfl
  | some slot =>
    have vacant : slot.value = none := by simpa only [found] using stale
    simp only [vacant]

theorem insert_remove_fresh {arena : Arena α} {handle : Handle α} (held value : α)
    (live : arena.get? handle = some held) : ((arena.remove handle).2.insert value).1 ≠ handle := by
  have read := (get_some_slot arena handle held).mp live
  have found := (slot_some arena handle ⟨handle.generation, some held⟩).mpr ⟨read, rfl⟩
  have bound := (List.getElem?_eq_some_iff.mp read).1
  have moved : handle.generation + 1 ≠ handle.generation := by
    intro stays
    have same := congrArg UInt32.toNat stays
    simp at same
    omega
  intro same
  have generation : ((arena.remove handle).2.insert value).1.generation = handle.generation + 1 := by
    simp [remove, found, insert, Slot.vacate, bound]
  rw [same] at generation
  exact moved generation.symm

theorem length_insert (arena : Arena α) (value : α) :
    (arena.insert value).2.slots.length ≤ arena.slots.length + 1 := by
  unfold insert
  split
  · simp [grow]
  · split <;> simp [grow]

theorem length_remove (arena : Arena α) (handle : Handle α) :
    (arena.remove handle).2.slots.length = arena.slots.length := by
  unfold remove
  split
  · split <;> simp
  · rfl

theorem get_insert_elsewhere {arena : Arena α} (sound : arena.Sound) (value : α) {other : Handle α}
    (different : other ≠ (arena.insert value).1) : (arena.insert value).2.get? other = arena.get? other := by
  cases before : arena.get? other with
  | some held => exact get_insert_live sound value before
  | none =>
    cases after : (arena.insert value).2.get? other with
    | none => rfl
    | some held =>
      rcases get_insert_cases sound value after with known | ⟨_, given, _⟩
      · exact known.symm.trans before
      · exact absurd given different

theorem get_remove_if (arena : Arena α) (handle other : Handle α) [Decidable (other = handle)] :
    (arena.remove handle).2.get? other = if other = handle then none else arena.get? other := by
  split
  · next same => rw [same, get_remove_here]
  · next different => exact get_remove_elsewhere arena handle other different

theorem set_same {arena : Arena α} {handle : Handle α} {value : α} (live : arena.get? handle = some value) :
    arena.set handle value = arena := by
  obtain ⟨bound, read⟩ := List.getElem?_eq_some_iff.mp ((get_some_slot arena handle value).mp live)
  unfold set
  rw [live]
  dsimp only
  rw [← read, List.set_getElem_self]

section Values

def values (arena : Arena α) : List α := arena.slots.filterMap (·.value)

theorem filter_map_set {β γ : Type} (f : β → Option γ) {entries : List β} {index : Nat} {old : β} (new : β)
    (read : entries[index]? = some old) :
    ((f old).toList ++ (entries.set index new).filterMap f).Perm ((f new).toList ++ entries.filterMap f) := by
  obtain ⟨bound, here⟩ := List.getElem?_eq_some_iff.mp read
  have around : entries = entries.take index ++ old :: entries.drop (index + 1) := by
    rw [← here, List.getElem_cons_drop, List.take_append_drop]
  have single (entry : β) (rest : List β) : (entry :: rest).filterMap f = (f entry).toList ++ rest.filterMap f := by
    rw [List.filterMap_cons]
    cases f entry <;> rfl
  rw [List.set_eq_take_append_cons_drop, if_pos bound]
  conv => rhs; rw [around]
  simp only [List.filterMap_append, single]
  -- Old and new stand at one place, between what comes before and behind.
  generalize (f old).toList = olds
  generalize (f new).toList = news
  rw [← List.append_assoc, ← List.append_assoc, ← List.append_assoc, ← List.append_assoc]
  refine List.Perm.append_right _ ?_
  rw [List.append_assoc, List.append_assoc]
  exact (List.perm_append_comm.append_left olds).trans ((List.perm_append_comm_assoc olds news _).trans
    (List.perm_append_comm.append_left news))

theorem mem_values {arena : Arena α} {handle : Handle α} {value : α} (live : arena.get? handle = some value) :
    value ∈ arena.values :=
  List.mem_filterMap.mpr ⟨_, List.mem_of_getElem? ((get_some_slot arena handle value).mp live), rfl⟩

theorem values_set {arena : Arena α} {handle : Handle α} {old : α} (value : α) (live : arena.get? handle = some old) :
    (old :: (arena.set handle value).values).Perm (value :: arena.values) := by
  unfold set
  rw [live]
  exact filter_map_set (fun slot : Slot α => slot.value) ⟨handle.generation, some value⟩
    ((get_some_slot arena handle old).mp live)

theorem values_insert {arena : Arena α} (sound : arena.Sound) (value : α) :
    (arena.insert value).2.values.Perm (value :: arena.values) := by
  rcases insert_cases sound value with grown | ⟨index, free, generation, listed, vacant, inserted⟩
  · rw [grown]
    simp [grow, values]
  · rw [inserted]
    exact filter_map_set (fun slot : Slot α => slot.value) ⟨generation, some value⟩ vacant

theorem values_remove {arena : Arena α} {handle : Handle α} {old : α} (live : arena.get? handle = some old) :
    (old :: (arena.remove handle).2.values).Perm arena.values := by
  have read := (get_some_slot arena handle old).mp live
  have found := (slot_some arena handle ⟨handle.generation, some old⟩).mpr ⟨read, rfl⟩
  simp only [remove, found]
  exact filter_map_set (fun slot : Slot α => slot.value) _ read

end Values

end GpuProfiler.Arena
