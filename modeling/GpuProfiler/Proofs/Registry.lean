import GpuProfiler.Proofs.Arena
import GpuProfiler.Proofs.Recorder
import GpuProfiler.Registry

set_option autoImplicit false

namespace GpuProfiler

namespace Registry

def streamOf (registry : Registry) (handle : BufferHandle) : Stream :=
  match registry.buffers.get? handle with
  | some recorder => recorder.stream
  | none => []

def rawOf (registry : Registry) (handle : BufferHandle) : RawBuffer :=
  match registry.buffers.get? handle with
  | some recorder => recorder.raw
  | none => 0

theorem buffer_ok (registry : Registry) (handle : BufferHandle) (recorder : Recorder) :
    registry.buffer handle = .ok recorder ↔ registry.buffers.get? handle = some recorder := by
  unfold buffer
  cases registry.buffers.get? handle <;> simp

theorem buffer_some {registry : Registry} {handle : BufferHandle} {recorder : Recorder}
    (live : registry.buffers.get? handle = some recorder) : registry.buffer handle = .ok recorder :=
  (buffer_ok registry handle recorder).mpr live

theorem stream_of_some {registry : Registry} {handle : BufferHandle} {recorder : Recorder}
    (live : registry.buffers.get? handle = some recorder) : registry.streamOf handle = recorder.stream := by
  rw [streamOf, live]

theorem raw_of_some {registry : Registry} {handle : BufferHandle} {recorder : Recorder}
    (live : registry.buffers.get? handle = some recorder) : registry.rawOf handle = recorder.raw := by
  rw [rawOf, live]

theorem streams_ok {registry : Registry} {handles : List BufferHandle} {streams : List Stream}
    (found : registry.streams handles = .ok streams) :
    streams = handles.map registry.streamOf ∧ ∀ handle ∈ handles, ∃ recorder, registry.buffers.get? handle = some recorder := by
  induction handles generalizing streams with
  | nil =>
    cases found
    exact ⟨rfl, fun _ member => (nomatch member)⟩
  | cons handle rest ih =>
    unfold Registry.streams at found
    split at found
    · cases found
    · next recorder read =>
      have live := (buffer_ok registry handle recorder).mp read
      cases others : registry.streams rest with
      | error error =>
        rw [others] at found
        cases found
      | ok behind =>
        rw [others] at found
        cases found
        obtain ⟨same, all⟩ := ih others
        refine ⟨by rw [List.map_cons, stream_of_some live, ← same], ?_⟩
        intro other member
        rcases List.mem_cons.mp member with rfl | later
        · exact ⟨recorder, live⟩
        · exact all other later

theorem streams_some {registry : Registry} {handles : List BufferHandle}
    (live : ∀ handle ∈ handles, ∃ recorder, registry.buffers.get? handle = some recorder) :
    registry.streams handles = .ok (handles.map registry.streamOf) := by
  induction handles with
  | nil => rfl
  | cons handle rest ih =>
    obtain ⟨recorder, here⟩ := live handle List.mem_cons_self
    unfold streams
    rw [buffer_some here, ih fun other member => live other (List.mem_cons_of_mem handle member), List.map_cons,
      stream_of_some here]
    rfl

theorem streams_error {registry : Registry} {handles : List BufferHandle} {error : Error}
    (failed : registry.streams handles = .error error) :
    error = .invalidHandle ∧ ∃ handle ∈ handles, registry.buffers.get? handle = none := by
  induction handles with
  | nil => cases failed
  | cons handle rest ih =>
    unfold streams buffer at failed
    cases live : registry.buffers.get? handle with
    | none =>
      rw [live] at failed
      cases failed
      exact ⟨rfl, handle, List.mem_cons_self, live⟩
    | some recorder =>
      rw [live] at failed
      cases behind : registry.streams rest with
      | ok streams =>
        rw [behind] at failed
        cases failed
      | error reason =>
        rw [behind] at failed
        cases failed
        obtain ⟨same, other, member, gone⟩ := ih behind
        exact ⟨same, other, List.mem_cons_of_mem _ member, gone⟩

theorem streams_stale {registry : Registry} {handles : List BufferHandle}
    (stale : ∃ handle ∈ handles, registry.buffers.get? handle = none) :
    registry.streams handles = .error .invalidHandle := by
  obtain ⟨handle, member, gone⟩ := stale
  cases found : registry.streams handles with
  | error error => rw [(streams_error found).1]
  | ok streams =>
    obtain ⟨recorder, live⟩ := (streams_ok found).2 handle member
    rw [gone] at live
    cases live

theorem raws_some {registry : Registry} {handles : List BufferHandle}
    (live : ∀ handle ∈ handles, ∃ recorder, registry.buffers.get? handle = some recorder) :
    registry.raws handles = .ok (handles.map registry.rawOf) := by
  induction handles with
  | nil => rfl
  | cons handle rest ih =>
    obtain ⟨recorder, here⟩ := live handle List.mem_cons_self
    unfold raws
    rw [buffer_some here, ih fun other member => live other (List.mem_cons_of_mem handle member), List.map_cons,
      raw_of_some here]
    rfl

theorem get_set_buffer {registry : Registry} {handle : BufferHandle} {recorder : Recorder}
    (live : registry.buffers.get? handle = some recorder) (next : Recorder) (other : BufferHandle) :
    (registry.setBuffer handle next).buffers.get? other =
      if other = handle then some next else registry.buffers.get? other := by
  by_cases same : other = handle
  · subst same
    rw [if_pos rfl]
    exact Arena.get_set_here _ other recorder next live
  · rw [if_neg same]
    exact Arena.get_set_elsewhere _ handle other next same

theorem raw_of_set_buffer {registry : Registry} {handle : BufferHandle} {recorder next : Recorder}
    (live : registry.buffers.get? handle = some recorder) (same : next.raw = recorder.raw) (other : BufferHandle) :
    (registry.setBuffer handle next).rawOf other = registry.rawOf other := by
  unfold rawOf
  rw [get_set_buffer live next other]
  by_cases here : other = handle
  · rw [if_pos here, here, live]
    exact same
  · rw [if_neg here]

structure Sound (registry : Registry) (profiled : Bool) : Prop where
  buffers : registry.buffers.Sound
  recorders : ∀ handle recorder, registry.buffers.get? handle = some recorder → recorder.Sound profiled

variable {registry : Registry} {profiled : Bool}

theorem sound_empty : Registry.empty.Sound profiled :=
  ⟨Arena.sound_empty, fun handle _ live => by
    rw [show Registry.empty.buffers.get? handle = none from Arena.get_empty handle] at live
    cases live⟩

theorem sound_set_buffer (sound : registry.Sound profiled) (handle : BufferHandle) {recorder : Recorder}
    (kept : recorder.Sound profiled) : (registry.setBuffer handle recorder).Sound profiled := by
  refine ⟨Arena.sound_set sound.buffers handle recorder, ?_⟩
  intro other found live
  rcases Arena.get_set_cases handle other recorder found live with ⟨_, rfl, _⟩ | ⟨_, before⟩
  · exact kept
  · exact sound.recorders other found before

theorem records_sound (sound : registry.Sound profiled) (handle : BufferHandle) :
    ∀ record ∈ registry.streamOf handle, record.traps = true → record.suspends = false ∧ profiled = true := by
  unfold streamOf
  cases live : registry.buffers.get? handle with
  | none => exact fun _ member => (nomatch member)
  | some recorder => exact (sound.recorders handle recorder live).records

theorem ends_register_queue (raw : RawQueue) (family index : UInt32) (registry : Registry) :
    Act.Ends (registerQueue raw family index) registry
      (fun shown _ next => (∀ event ∈ shown, event.isNote = true) ∧ next.buffers = registry.buffers ∧
        next.bufferLookup = registry.bufferLookup)
      (fun _ _ => False) := by
  simp only [registerQueue, Act.ends_bind, Act.ends_get]
  cases registry.findQueue raw with
  | some handle => exact ⟨by simp, rfl, rfl⟩
  | none =>
    simp only [Act.ends_bind, Act.ends_set, Act.ends_note, Act.ends_pure]
    simp [Event.isNote]

theorem ends_drop_namesake (sound : registry.Sound profiled) (raw : RawBuffer) :
    Act.Ends (dropNamesake raw) registry
      (fun shown _ next => (∀ event ∈ shown, event.isNote = true) ∧ next.Sound profiled ∧
        next.bufferLookup.erase raw = registry.bufferLookup.erase raw ∧
        ((registry.findBuffer raw = none ∧ next.buffers = registry.buffers) ∨
          ∃ stale, registry.findBuffer raw = some stale ∧ next.buffers = (registry.buffers.remove stale).2))
      (fun _ _ => False) := by
  simp only [dropNamesake, Act.ends_bind, Act.ends_get]
  cases found : registry.findBuffer raw with
  | none => exact ⟨by simp, sound, rfl, .inl ⟨rfl, rfl⟩⟩
  | some stale =>
    simp only [Act.ends_bind, Act.ends_note, Act.ends_set]
    refine ⟨by simp [Event.isNote], ⟨Arena.sound_remove sound.buffers stale, ?_⟩, ?_, .inr ⟨stale, rfl, rfl⟩⟩
    · intro other recorder live
      exact sound.recorders other recorder (Arena.get_remove_live live).2
    · simp [Lookup.erase]

theorem get_allocated {registry middle : Registry} (sound : middle.buffers.Sound) {raw : RawBuffer}
    {recorder found : Recorder} {other : BufferHandle}
    (dropped : (registry.findBuffer raw = none ∧ middle.buffers = registry.buffers) ∨
      ∃ stale, registry.findBuffer raw = some stale ∧ middle.buffers = (registry.buffers.remove stale).2)
    (live : (middle.buffers.insert recorder).2.get? other = some found) :
    (registry.buffers.get? other = some found ∧ registry.findBuffer raw ≠ some other) ∨
      (registry.buffers.get? other = none ∧ other = (middle.buffers.insert recorder).1 ∧ found = recorder) := by
  have placed := Arena.get_insert_cases sound recorder live
  rcases dropped with ⟨unknown, same⟩ | ⟨stale, known, removed⟩
  · rw [same] at placed ⊢
    rcases placed with before | new
    · exact .inl ⟨before, by simp [unknown]⟩
    · exact .inr new
  · rw [removed] at placed ⊢
    rcases placed with before | ⟨vacant, given, value⟩
    · obtain ⟨different, before⟩ := Arena.get_remove_live before
      refine .inl ⟨before, ?_⟩
      rw [known]
      exact fun same => different (Option.some.inj same).symm
    · refine .inr ⟨?_, given, value⟩
      by_cases same : other = stale
      · cases held : registry.buffers.get? other with
        | none => rfl
        | some old =>
          rw [same] at held given
          exact absurd given.symm (Arena.insert_remove_fresh old recorder held)
      · rwa [Arena.get_remove_elsewhere registry.buffers stale other same] at vacant

theorem ends_allocate (sound : registry.Sound profiled) (raw : RawBuffer) (level : BufferLevel) :
    Act.Ends (allocate raw level) registry
      (fun shown handle next => (∀ event ∈ shown, event.isNote = true) ∧ next.Sound profiled ∧
        next.bufferLookup = registry.bufferLookup.insert raw handle ∧
        ∀ other recorder, next.buffers.get? other = some recorder →
          (registry.buffers.get? other = some recorder ∧ registry.findBuffer raw ≠ some other) ∨
            (registry.buffers.get? other = none ∧ other = handle ∧ recorder = .new raw level))
      (fun _ _ => False) := by
  simp only [allocate, Act.ends_bind, Act.ends_get]
  refine Act.ends_mono (ends_drop_namesake sound raw) ?_ (fun _ _ never => never)
  rintro shown _ middle ⟨notes, kept, lookup, dropped⟩
  simp only [Act.ends_set, Act.ends_pure]
  refine ⟨by simpa using notes, ⟨Arena.sound_insert kept.buffers _, ?_⟩, ?_, ?_⟩
  · intro other recorder live
    rcases Arena.get_insert_cases kept.buffers _ live with before | ⟨_, _, rfl⟩
    · exact kept.recorders other recorder before
    · exact Recorder.sound_new raw level
  · simp only [Lookup.insert, lookup]
  · exact fun other recorder live => get_allocated kept.buffers dropped live

theorem ends_free (sound : registry.Sound profiled) (handle : BufferHandle) :
    Act.Ends (free handle) registry
      (fun shown answer next => shown = [] ∧ next.Sound profiled ∧
        match answer with
        | .ok recorder =>
          registry.buffers.get? handle = some recorder ∧ next.buffers = (registry.buffers.remove handle).2 ∧
            next.bufferLookup = registry.bufferLookup.erase recorder.raw
        | .error _ => next = registry ∧ registry.buffers.get? handle = none)
      (fun _ _ => False) := by
  simp only [free, Act.ends_bind, Act.ends_get]
  rcases taken : registry.buffers.remove handle with ⟨_ | recorder, buffers⟩
  · exact ⟨rfl, sound, rfl, Arena.remove_none taken⟩
  · simp only [Act.ends_bind, Act.ends_set, Act.ends_pure]
    have removed : (registry.buffers.remove handle).2 = buffers := by rw [taken]
    refine ⟨rfl, ⟨?_, ?_⟩, Arena.remove_some taken, by simp⟩
    · rw [← removed]
      exact Arena.sound_remove sound.buffers handle
    · intro other found live
      rw [← removed] at live
      exact sound.recorders other found (Arena.get_remove_live live).2

theorem ends_execute (sound : registry.Sound profiled) (primary : BufferHandle) (secondaries : List BufferHandle) :
    Act.Ends (execute primary secondaries) registry
      (fun shown answer next => shown = [] ∧ next.Sound profiled ∧
        match answer with
        | .ok () => ∃ recorder, registry.buffers.get? primary = some recorder ∧
            (∀ handle ∈ secondaries, ∃ found, registry.buffers.get? handle = some found) ∧
            next = registry.setBuffer primary (recorder.append (secondaries.flatMap registry.streamOf))
        | .error _ => next = registry)
      (fun _ _ => False) := by
  simp only [execute, Act.ends_bind, Act.ends_get]
  cases found : registry.streams secondaries with
  | error error => exact ⟨rfl, sound, rfl⟩
  | ok streams =>
    obtain ⟨same, live⟩ := streams_ok found
    cases here : registry.buffer primary with
    | error error => exact ⟨rfl, sound, rfl⟩
    | ok recorder =>
      have held := (buffer_ok registry primary recorder).mp here
      simp only [Act.ends_bind, Act.ends_set, Act.ends_pure]
      rw [same, ← List.flatMap_def]
      refine ⟨rfl, sound_set_buffer sound primary ?_, recorder, held, live, rfl⟩
      refine Recorder.sound_append (sound.recorders primary recorder held) _ ?_
      intro record member
      obtain ⟨handle, _, inside⟩ := List.mem_flatMap.mp member
      exact records_sound sound handle record inside

def Named (registry : Registry) : Prop :=
  ∀ handle recorder, registry.buffers.get? handle = some recorder → registry.findBuffer recorder.raw = some handle

theorem named_once (named : registry.Named) {handle other : BufferHandle} {recorder found : Recorder}
    (live : registry.buffers.get? handle = some recorder) (also : registry.buffers.get? other = some found)
    (same : recorder.raw = found.raw) : handle = other := by
  have here := named handle recorder live
  rw [same, named other found also] at here
  exact (Option.some.inj here).symm

theorem named_empty : Registry.empty.Named := fun handle _ live => by
  rw [show Registry.empty.buffers.get? handle = none from Arena.get_empty handle] at live
  cases live

theorem named_set_buffer (named : registry.Named) {handle : BufferHandle} {recorder next : Recorder}
    (live : registry.buffers.get? handle = some recorder) (same : next.raw = recorder.raw) :
    (registry.setBuffer handle next).Named := by
  intro other found lives
  rcases Arena.get_set_cases handle other next found lives with ⟨rfl, rfl, _⟩ | ⟨_, before⟩
  · rw [same]
    exact named other recorder live
  · exact named other found before

theorem named_allocate {next : Registry} {raw : RawBuffer} {level : BufferLevel} {handle : BufferHandle}
    (named : registry.Named) (lookup : next.bufferLookup = registry.bufferLookup.insert raw handle)
    (live : ∀ other recorder, next.buffers.get? other = some recorder →
      (registry.buffers.get? other = some recorder ∧ registry.findBuffer raw ≠ some other) ∨
        (registry.buffers.get? other = none ∧ other = handle ∧ recorder = .new raw level)) : next.Named := by
  intro other recorder lives
  rw [findBuffer, lookup]
  rcases live other recorder lives with ⟨before, different⟩ | ⟨_, rfl, rfl⟩
  · have here := named other recorder before
    have away : recorder.raw ≠ raw := fun same => different (same ▸ here)
    rw [Lookup.find_insert_elsewhere _ _ _ _ away]
    exact here
  · exact Lookup.find_insert_here _ _ _

theorem named_free {next : Registry} {handle : BufferHandle} {recorder : Recorder} (named : registry.Named)
    (live : registry.buffers.get? handle = some recorder)
    (removed : next.buffers = (registry.buffers.remove handle).2)
    (lookup : next.bufferLookup = registry.bufferLookup.erase recorder.raw) : next.Named := by
  intro other found lives
  rw [removed] at lives
  obtain ⟨different, before⟩ := Arena.get_remove_live lives
  have away : found.raw ≠ recorder.raw := fun same => different (named_once named before live same)
  rw [findBuffer, lookup, Lookup.find_erase_elsewhere _ _ _ away]
  exact named other found before

end Registry

namespace Tracking

theorem ends_with_buffer {α : Type} (handle : BufferHandle) (act : Act Recording α) (s : Tracking)
    (good : List Event → Except Error (RawBuffer × α) → Tracking → Prop) (bad : List Event → Halt → Prop) :
    Act.Ends (withBuffer handle act) s good bad ↔
      match s.registry.buffers.get? handle with
      | none => good [] (.error .invalidHandle) s
      | some recorder =>
        Act.Ends act ⟨recorder, s.tags⟩
          (fun shown x next =>
            good shown (.ok (recorder.raw, x)) ⟨s.registry.setBuffer handle next.recorder, next.tags⟩) bad := by
  simp only [withBuffer, Act.ends_bind, Act.ends_get, Registry.buffer]
  cases s.registry.buffers.get? handle with
  | none => exact Iff.rfl
  | some recorder =>
    simp only [Act.ends_bind, Act.ends_on, Act.ends_pure]
    simp

end Tracking

end GpuProfiler
