import GpuProfiler.Proofs.Arena.History
import GpuProfiler.Proofs.Registry

set_option autoImplicit false

namespace GpuProfiler

namespace Lookup

variable {α : Type} {lookup : Lookup α} {arena : Arena α} {number : α → Nat} {handle : Handle α} {value : α}

theorem find_insert_if (lookup : Lookup α) (raw other : Nat) (handle : Handle α) :
    (lookup.insert raw handle).find? other = if other = raw then some handle else lookup.find? other := by
  split
  · next same => rw [same, find_insert_here]
  · next different => exact find_insert_elsewhere lookup raw other handle different

theorem find_erase_if (lookup : Lookup α) (raw other : Nat) :
    (lookup.erase raw).find? other = if other = raw then none else lookup.find? other := by
  split
  · next same => rw [same, find_erase_here]
  · next different => exact find_erase_elsewhere lookup raw other different

def Pairs (lookup : Lookup α) (arena : Arena α) (number : α → Nat) : Prop :=
  ∀ raw handle, lookup.find? raw = some handle ↔ ∃ value, arena.get? handle = some value ∧ number value = raw

theorem pairs_once (paired : lookup.Pairs arena number) {other : Handle α} {found : α}
    (live : arena.get? handle = some value) (also : arena.get? other = some found) (same : number value = number found) :
    handle = other := by
  have here := (paired (number value) handle).mpr ⟨value, live, rfl⟩
  have there := (paired (number value) other).mpr ⟨found, also, same.symm⟩
  exact Option.some.inj (here.symm.trans there)

theorem pairs_empty : Lookup.Pairs [] Arena.empty number := by
  intro raw handle
  rw [Arena.get_empty]
  simp [find?]

theorem pairs_insert (paired : lookup.Pairs arena number) (sound : arena.Sound)
    (unknown : lookup.find? (number value) = none) (fits : (arena.insert value).2.slots.length ≤ UInt32.size) :
    (lookup.insert (number value) (arena.insert value).1).Pairs (arena.insert value).2 number := by
  have given := (Arena.step_given (Arena.step_perform sound (.insert value) fits)).2
  intro raw handle
  by_cases same : raw = number value
  · subst same
    rw [find_insert_here, Option.some.injEq]
    constructor
    · rintro rfl
      exact ⟨value, given, rfl⟩
    · rintro ⟨found, live, same⟩
      rcases Arena.get_insert_cases sound value live with before | ⟨_, here, _⟩
      · have known := (paired (number value) handle).mpr ⟨found, before, same⟩
        rw [unknown] at known
        cases known
      · exact here.symm
  · rw [find_insert_elsewhere lookup _ raw _ same, paired raw handle]
    constructor
    · rintro ⟨found, live, numbered⟩
      exact ⟨found, Arena.get_insert_live sound value live, numbered⟩
    · rintro ⟨found, live, numbered⟩
      rcases Arena.get_insert_cases sound value live with before | ⟨_, _, rfl⟩
      · exact ⟨found, before, numbered⟩
      · exact absurd numbered.symm same

theorem pairs_remove (paired : lookup.Pairs arena number) (live : arena.get? handle = some value) :
    (lookup.erase (number value)).Pairs (arena.remove handle).2 number := by
  intro raw other
  by_cases same : raw = number value
  · subst same
    rw [find_erase_here]
    refine ⟨fun never => (nomatch never), ?_⟩
    rintro ⟨found, left, numbered⟩
    obtain ⟨different, before⟩ := Arena.get_remove_live left
    exact absurd (pairs_once paired before live numbered) different
  · rw [find_erase_elsewhere lookup _ raw same, paired raw other]
    constructor
    · rintro ⟨found, before, numbered⟩
      have different : other ≠ handle := by
        rintro rfl
        rw [live, Option.some.injEq] at before
        exact same (by rw [← numbered, before])
      exact ⟨found, by rwa [Arena.get_remove_elsewhere arena handle other different], numbered⟩
    · rintro ⟨found, left, numbered⟩
      exact ⟨found, (Arena.get_remove_live left).2, numbered⟩

theorem pairs_set (paired : lookup.Pairs arena number) {next : α} (live : arena.get? handle = some value)
    (same : number next = number value) : lookup.Pairs (arena.set handle next) number := by
  intro raw other
  rw [paired raw other]
  by_cases here : other = handle
  · rw [here, Arena.get_set_here arena handle value next live, live]
    simp [same]
  · rw [Arena.get_set_elsewhere arena handle other next here]

end Lookup

namespace Queue

variable {σ : Type} (visitor : Visit → Act σ Unit) (queue : Queue)

theorem ends_run_stream_raw (stream : Stream) (s : σ) :
    Act.Ends (queue.runStream visitor stream) s (fun _ done _ => done.raw = queue.raw) (fun _ _ => True) := by
  simp only [runStream, Act.ends_bind, Act.ends_pure]
  exact Act.ends_mono (Act.ends_self _ s) (fun _ _ _ _ => trivial) fun _ _ _ => trivial

theorem ends_run_streams_raw (streams : List Stream) (s : σ) :
    Act.Ends (queue.runStreams visitor streams) s (fun _ done _ => done.raw = queue.raw) (fun _ _ => True) := by
  induction streams generalizing queue s with
  | nil => rfl
  | cons stream rest ih =>
    rw [runStreams, Act.ends_bind]
    refine Act.ends_mono (ends_run_stream_raw visitor queue stream s) ?_ fun _ _ _ => trivial
    intro _ middle t same
    rw [← same]
    exact ih middle t

end Queue

namespace Registry

variable {registry next : Registry}

structure Paired (registry : Registry) : Prop where
  queues : registry.queueLookup.Pairs registry.queues (·.raw)
  buffers : registry.bufferLookup.Pairs registry.buffers (·.raw)
  soundQueues : registry.queues.Sound
  soundBuffers : registry.buffers.Sound

def Within (registry : Registry) : Prop :=
  registry.queues.slots.length ≤ UInt32.size ∧ registry.buffers.slots.length ≤ UInt32.size

section Changes

def withQueue (registry : Registry) (queue : Queue) : Registry :=
  { registry with
    queues := (registry.queues.insert queue).2
    queueLookup := registry.queueLookup.insert queue.raw (registry.queues.insert queue).1 }

def withBuffer (registry : Registry) (recorder : Recorder) : Registry :=
  { registry with
    buffers := (registry.buffers.insert recorder).2
    bufferLookup := registry.bufferLookup.insert recorder.raw (registry.buffers.insert recorder).1 }

def withoutBuffer (registry : Registry) (handle : BufferHandle) (raw : RawBuffer) : Registry :=
  { registry with
    buffers := (registry.buffers.remove handle).2
    bufferLookup := registry.bufferLookup.erase raw }

def withoutNamesake (registry : Registry) (raw : RawBuffer) : Registry :=
  match registry.findBuffer raw with
  | none => registry
  | some stale => registry.withoutBuffer stale raw

theorem paired_empty : Registry.empty.Paired :=
  ⟨Lookup.pairs_empty, Lookup.pairs_empty, Arena.sound_empty, Arena.sound_empty⟩

theorem paired_with_queue (paired : registry.Paired) {queue : Queue} (unknown : registry.findQueue queue.raw = none)
    (within : (registry.withQueue queue).Within) : (registry.withQueue queue).Paired :=
  ⟨Lookup.pairs_insert paired.queues paired.soundQueues unknown within.1, paired.buffers,
    Arena.sound_insert paired.soundQueues queue, paired.soundBuffers⟩

theorem paired_with_buffer (paired : registry.Paired) {recorder : Recorder}
    (unknown : registry.findBuffer recorder.raw = none) (within : (registry.withBuffer recorder).Within) :
    (registry.withBuffer recorder).Paired :=
  ⟨paired.queues, Lookup.pairs_insert paired.buffers paired.soundBuffers unknown within.2, paired.soundQueues,
    Arena.sound_insert paired.soundBuffers recorder⟩

theorem paired_without_buffer (paired : registry.Paired) {handle : BufferHandle} {recorder : Recorder}
    (live : registry.buffers.get? handle = some recorder) : (registry.withoutBuffer handle recorder.raw).Paired :=
  ⟨paired.queues, Lookup.pairs_remove paired.buffers live, paired.soundQueues,
    Arena.sound_remove paired.soundBuffers handle⟩

theorem paired_set_queue (paired : registry.Paired) {handle : QueueHandle} {queue done : Queue}
    (live : registry.queues.get? handle = some queue) (same : done.raw = queue.raw) :
    (registry.setQueue handle done).Paired :=
  ⟨Lookup.pairs_set paired.queues live same, paired.buffers, Arena.sound_set paired.soundQueues handle done,
    paired.soundBuffers⟩

theorem paired_set_buffer (paired : registry.Paired) {handle : BufferHandle} {recorder done : Recorder}
    (live : registry.buffers.get? handle = some recorder) (same : done.raw = recorder.raw) :
    (registry.setBuffer handle done).Paired :=
  ⟨paired.queues, Lookup.pairs_set paired.buffers live same, paired.soundQueues,
    Arena.sound_set paired.soundBuffers handle done⟩

theorem found_buffer (paired : registry.Paired) {raw : RawBuffer} {handle : BufferHandle}
    (found : registry.findBuffer raw = some handle) :
    ∃ recorder, registry.buffers.get? handle = some recorder ∧ recorder.raw = raw :=
  (paired.buffers raw handle).mp found

theorem paired_without_namesake (paired : registry.Paired) (raw : RawBuffer) : (registry.withoutNamesake raw).Paired := by
  unfold withoutNamesake
  split
  · exact paired
  · next stale found =>
    obtain ⟨recorder, live, rfl⟩ := found_buffer paired found
    exact paired_without_buffer paired live

theorem namesake_gone (registry : Registry) (raw : RawBuffer) : (registry.withoutNamesake raw).findBuffer raw = none := by
  unfold withoutNamesake
  split
  · next unknown => exact unknown
  · exact Lookup.find_erase_here registry.bufferLookup raw

end Changes

section Calls

theorem register_known {raw : RawQueue} {handle : QueueHandle} (known : registry.findQueue raw = some handle)
    (family index : UInt32) : registerQueue raw family index registry = ⟨[], .ok (handle, registry)⟩ := by
  simp [registerQueue, bind, Act.bind, Act.get, known, Pure.pure, Act.pure]

theorem register_new {raw : RawQueue} (unknown : registry.findQueue raw = none) (family index : UInt32) :
    registerQueue raw family index registry = ⟨[.note (.queueRegistered raw family index)],
      .ok ((registry.queues.insert (.new raw family index)).1, registry.withQueue (.new raw family index))⟩ := by
  simp [registerQueue, bind, Act.bind, Act.get, unknown, Act.set, Act.note, Act.emit, Pure.pure, Act.pure, withQueue,
    Queue.new]

theorem allocate_ran (raw : RawBuffer) (level : BufferLevel) (registry : Registry) :
    allocate raw level registry =
      ⟨(registry.findBuffer raw).toList.map fun _ => .note (.bufferAllocatedTwice raw),
        .ok (((registry.withoutNamesake raw).buffers.insert (.new raw level)).1,
          (registry.withoutNamesake raw).withBuffer (.new raw level))⟩ := by
  cases found : registry.findBuffer raw <;>
    simp [allocate, dropNamesake, bind, Act.bind, Act.get, Act.set, Act.note, Act.emit, Pure.pure, Act.pure, found,
      withoutNamesake, withoutBuffer, withBuffer, Recorder.new]

theorem free_stale {handle : BufferHandle} (stale : registry.buffers.get? handle = none) :
    free handle registry = ⟨[], .ok (.error .invalidHandle, registry)⟩ := by
  simp [free, bind, Act.bind, Act.get, Arena.remove_stale stale, Pure.pure, Act.pure]

theorem free_live {handle : BufferHandle} {recorder : Recorder} (live : registry.buffers.get? handle = some recorder) :
    free handle registry = ⟨[], .ok (.ok recorder, registry.withoutBuffer handle recorder.raw)⟩ := by
  simp [free, bind, Act.bind, Act.get, Arena.remove_live live, Act.set, Pure.pure, Act.pure, withoutBuffer]

def Rewrites (registry : Registry) (handle : BufferHandle) (next : Registry) : Prop :=
  next = registry ∨ ∃ recorder done, registry.buffers.get? handle = some recorder ∧ done.raw = recorder.raw ∧
    next = registry.setBuffer handle done

theorem with_buffer_rewrites {handle : BufferHandle} {call : RecorderCall} {tags used : TagSource} {shown : List Event}
    {reply : Except Error (RawBuffer × RecorderReply)}
    (ran : Tracking.withBuffer handle (Recording.perform call) ⟨registry, tags⟩ = ⟨shown, .ok (reply, ⟨next, used⟩)⟩) :
    registry.Rewrites handle next := by
  have ends : Act.Ends (Tracking.withBuffer handle (Recording.perform call)) ⟨registry, tags⟩
      (fun _ _ after => registry.Rewrites handle after.registry) (fun _ _ => True) := by
    rw [Tracking.ends_with_buffer]
    cases live : registry.buffers.get? handle with
    | none => exact .inl rfl
    | some recorder =>
      refine Act.ends_mono (Recording.ends_raw call ⟨recorder, tags⟩) ?_ fun _ _ _ => trivial
      exact fun _ _ done same => .inr ⟨recorder, done.recorder, live, same, rfl⟩
  exact Act.ends_of_ok ends ran

theorem execute_rewrites {primary : BufferHandle} {secondaries : List BufferHandle} {shown : List Event}
    {answer : Except Error Unit} (ran : execute primary secondaries registry = ⟨shown, .ok (answer, next)⟩) :
    registry.Rewrites primary next := by
  have ends : Act.Ends (execute primary secondaries) registry (fun _ _ after => registry.Rewrites primary after)
      (fun _ _ => True) := by
    simp only [execute, Act.ends_bind, Act.ends_get]
    cases registry.streams secondaries with
    | error error => exact .inl rfl
    | ok streams =>
      cases here : registry.buffer primary with
      | error error => exact .inl rfl
      | ok recorder =>
        exact .inr ⟨recorder, recorder.append streams.flatten, (buffer_ok registry primary recorder).mp here, rfl, rfl⟩
  exact Act.ends_of_ok ends ran

def Requeues (registry : Registry) (handle : QueueHandle) (next : Registry) : Prop :=
  next = registry ∨ ∃ tracked done, registry.queues.get? handle = some tracked ∧ done.raw = tracked.raw ∧
    next = registry.setQueue handle done

theorem replay_requeues {σ : Type} {visitor : Visit → Act σ Unit} {queue : QueueHandle} {buffers : List BufferHandle}
    {s t : σ} {shown : List Event} {answer : Except Error Nat}
    (ran : replay visitor queue buffers (registry, s) = ⟨shown, .ok (answer, (next, t))⟩) :
    registry.Requeues queue next := by
  have ends : Act.Ends (replay visitor queue buffers) (registry, s) (fun _ _ after => registry.Requeues queue after.1)
      (fun _ _ => True) := by
    simp only [replay, Act.ends_bind, Act.ends_get]
    unfold Registry.queue
    cases live : registry.queues.get? queue with
    | none => exact .inl rfl
    | some tracked =>
      cases registry.streams buffers with
      | error error => exact .inl rfl
      | ok streams =>
        simp only [Act.ends_bind, Act.ends_on, Act.ends_modify, Act.ends_pure]
        refine Act.ends_mono (Queue.ends_run_streams_raw visitor tracked.noteSubmit streams s) ?_ fun _ _ _ => trivial
        exact fun _ done _ same => .inr ⟨tracked, done, live, same, rfl⟩
  exact Act.ends_of_ok ends ran

end Calls

section Tracking

def replacing (registry : Registry) (raw : RawBuffer) (level : BufferLevel) : List (ArenaCall Recorder) :=
  (registry.findBuffer raw).toList.map ArenaCall.remove ++ [.insert (.new raw level)]

def rewriting (next : Registry) (handle : BufferHandle) : List (ArenaCall Recorder) :=
  (next.buffers.get? handle).toList.map (ArenaCall.set handle)

-- All buffers there ever were, and the handles that were given for queues.
structure Diary where
  buffers : History Recorder
  queues : List (RawQueue × QueueHandle)

def Diary.start : Diary := ⟨.start, []⟩

def Diary.after (diary : Diary) (calls : List (ArenaCall Recorder)) : Diary :=
  { diary with buffers := diary.buffers.extendAll calls }

-- The registries that calls lead to, in any order, with any numbers and handles.
inductive Tracked : Registry → Diary → Prop
  | empty : Tracked .empty .start
  | registered {registry next : Registry} {diary : Diary} (raw : RawQueue) (family index : UInt32) (shown : List Event)
      (handle : QueueHandle) (tracked : Tracked registry diary)
      (ran : registerQueue raw family index registry = ⟨shown, .ok (handle, next)⟩) :
      Tracked next { diary with queues := (raw, handle) :: diary.queues }
  | allocated {registry next : Registry} {diary : Diary} (raw : RawBuffer) (level : BufferLevel) (shown : List Event)
      (handle : BufferHandle) (tracked : Tracked registry diary)
      (ran : allocate raw level registry = ⟨shown, .ok (handle, next)⟩) :
      Tracked next (diary.after (registry.replacing raw level))
  | freed {registry next : Registry} {diary : Diary} (handle : BufferHandle) (shown : List Event)
      (answer : Except Error Recorder) (tracked : Tracked registry diary)
      (ran : free handle registry = ⟨shown, .ok (answer, next)⟩) : Tracked next (diary.after [.remove handle])
  | recorded {registry next : Registry} {diary : Diary} (handle : BufferHandle) (call : RecorderCall)
      (tags used : TagSource) (shown : List Event) (reply : Except Error (RawBuffer × RecorderReply))
      (tracked : Tracked registry diary)
      (ran : Tracking.withBuffer handle (Recording.perform call) ⟨registry, tags⟩ = ⟨shown, .ok (reply, ⟨next, used⟩)⟩) :
      Tracked next (diary.after (next.rewriting handle))
  | executed {registry next : Registry} {diary : Diary} (primary : BufferHandle) (secondaries : List BufferHandle)
      (shown : List Event) (answer : Except Error Unit) (tracked : Tracked registry diary)
      (ran : execute primary secondaries registry = ⟨shown, .ok (answer, next)⟩) :
      Tracked next (diary.after (next.rewriting primary))
  | noted {registry : Registry} {diary : Diary} (handle : QueueHandle) (queue : Queue)
      (tracked : Tracked registry diary) (live : registry.queues.get? handle = some queue) :
      Tracked (registry.setQueue handle queue.noteSubmit) diary
  | ran {registry : Registry} {diary : Diary} {σ : Type} (handle : QueueHandle) (queue done : Queue)
      (visitor : Visit → Act σ Unit) (stream : Stream) (s t : σ) (shown : List Event) (tracked : Tracked registry diary)
      (live : registry.queues.get? handle = some queue)
      (ran : queue.runStream visitor stream s = ⟨shown, .ok (done, t)⟩) : Tracked (registry.setQueue handle done) diary
  | replayed {registry next : Registry} {diary : Diary} {σ : Type} (visitor : Visit → Act σ Unit) (queue : QueueHandle)
      (buffers : List BufferHandle) (s t : σ) (shown : List Event) (answer : Except Error Nat)
      (tracked : Tracked registry diary)
      (ran : replay visitor queue buffers (registry, s) = ⟨shown, .ok (answer, (next, t))⟩) : Tracked next diary

structure Advances (registry : Registry) (calls : List (ArenaCall Recorder)) (next : Registry) : Prop where
  buffers : next.buffers = calls.foldl Arena.perform registry.buffers
  queues : registry.queues.slots.length ≤ next.queues.slots.length
  known : ∀ raw handle, registry.findQueue raw = some handle → next.findQueue raw = some handle
  paired : registry.Paired → next.Within → next.Paired

theorem advances_same (registry : Registry) : registry.Advances [] registry :=
  ⟨rfl, Nat.le_refl _, fun _ _ known => known, fun paired _ => paired⟩

theorem advances_register {raw : RawQueue} {family index : UInt32} {shown : List Event} {handle : QueueHandle}
    (ran : registerQueue raw family index registry = ⟨shown, .ok (handle, next)⟩) :
    registry.Advances [] next ∧ next.findQueue raw = some handle := by
  cases found : registry.findQueue raw with
  | some known =>
    rw [register_known found] at ran
    cases ran
    exact ⟨advances_same registry, found⟩
  | none =>
    rw [register_new found] at ran
    cases ran
    refine ⟨⟨rfl, Arena.length_perform registry.queues (.insert _), ?_, fun paired within => ?_⟩, ?_⟩
    · intro other known there
      have different : other ≠ raw := by
        rintro rfl
        rw [found] at there
        cases there
      exact (Lookup.find_insert_elsewhere registry.queueLookup raw other _ different).trans there
    · exact paired_with_queue paired found within
    · exact Lookup.find_insert_here registry.queueLookup raw _

theorem advances_allocate {raw : RawBuffer} {level : BufferLevel} {shown : List Event} {handle : BufferHandle}
    (ran : allocate raw level registry = ⟨shown, .ok (handle, next)⟩) :
    registry.Advances (registry.replacing raw level) next := by
  rw [allocate_ran] at ran
  cases ran
  refine ⟨?_, ?_, ?_, fun paired within =>
    paired_with_buffer (paired_without_namesake paired raw) (namesake_gone registry raw) within⟩
  · cases found : registry.findBuffer raw <;>
      simp [replacing, withoutNamesake, found, withBuffer, withoutBuffer, Arena.perform]
  · cases found : registry.findBuffer raw <;> simp [withoutNamesake, found, withBuffer, withoutBuffer]
  · intro other known there
    rw [← there]
    cases found : registry.findBuffer raw <;> simp [withoutNamesake, found, withBuffer, withoutBuffer, findQueue]

theorem advances_free {handle : BufferHandle} {shown : List Event} {answer : Except Error Recorder}
    (ran : free handle registry = ⟨shown, .ok (answer, next)⟩) : registry.Advances [.remove handle] next := by
  cases held : registry.buffers.get? handle with
  | none =>
    rw [free_stale held] at ran
    cases ran
    have same : registry.buffers.perform (.remove handle) = registry.buffers := by
      rw [Arena.perform, Arena.remove_stale held]
    exact ⟨same.symm, Nat.le_refl _, fun _ _ known => known, fun paired _ => paired⟩
  | some recorder =>
    rw [free_live held] at ran
    cases ran
    exact ⟨rfl, Nat.le_refl _, fun _ _ known => known, fun paired _ => paired_without_buffer paired held⟩

theorem advances_rewrites {handle : BufferHandle} (rewrites : registry.Rewrites handle next) :
    registry.Advances (next.rewriting handle) next := by
  rcases rewrites with rfl | ⟨recorder, done, live, same, rfl⟩
  · refine ⟨?_, Nat.le_refl _, fun _ _ known => known, fun paired _ => paired⟩
    cases held : next.buffers.get? handle with
    | none => simp [rewriting, held]
    | some recorder => simp [rewriting, held, Arena.perform, Arena.set_same held]
  · have stored : (registry.setBuffer handle done).buffers.get? handle = some done :=
      Arena.get_set_here registry.buffers handle recorder done live
    refine ⟨?_, Nat.le_refl _, fun _ _ known => known, fun paired _ => paired_set_buffer paired live same⟩
    rw [rewriting, stored]
    rfl

theorem advances_requeues {queue : QueueHandle} (requeues : registry.Requeues queue next) : registry.Advances [] next := by
  rcases requeues with rfl | ⟨tracked, done, live, same, rfl⟩
  · exact advances_same next
  · exact ⟨rfl, Arena.length_perform registry.queues (.set queue done), fun _ _ known => known,
      fun paired _ => paired_set_queue paired live same⟩

structure Followed (registry : Registry) (diary : Diary) : Prop where
  arena : diary.buffers.arena = registry.buffers
  kept : diary.buffers.Kept
  known : ∀ given ∈ diary.queues, registry.findQueue given.1 = some given.2
  paired : registry.Paired

variable {diary : Diary} {calls : List (ArenaCall Recorder)}

theorem within_before (step : registry.Advances calls next) (within : next.Within) : registry.Within := by
  refine ⟨Nat.le_trans step.queues within.1, Nat.le_trans ?_ within.2⟩
  rw [step.buffers]
  exact Arena.length_perform_all registry.buffers calls

theorem followed_advances (earlier : registry.Within → registry.Followed diary) (step : registry.Advances calls next)
    (within : next.Within) : next.Followed (diary.after calls) := by
  have followed := earlier (within_before step within)
  refine ⟨?_, ?_, fun given member => step.known _ _ (followed.known given member), step.paired followed.paired within⟩
  · rw [Diary.after, History.arena_extend_all, followed.arena, step.buffers]
  · apply History.kept_extend_all followed.kept
    rw [followed.arena, ← step.buffers]
    exact within.2

theorem tracked_followed (tracked : Tracked registry diary) (within : registry.Within) : registry.Followed diary := by
  induction tracked with
  | empty => exact ⟨rfl, History.kept_start, fun _ member => (nomatch member), paired_empty⟩
  | registered raw family index shown handle _ ran ih =>
    obtain ⟨step, found⟩ := advances_register ran
    have after := followed_advances ih step within
    exact ⟨after.arena, after.kept, List.forall_mem_cons.mpr ⟨found, after.known⟩, after.paired⟩
  | allocated raw level shown handle _ ran ih => exact followed_advances ih (advances_allocate ran) within
  | freed handle shown answer _ ran ih => exact followed_advances ih (advances_free ran) within
  | recorded handle call tags used shown reply _ ran ih =>
    exact followed_advances ih (advances_rewrites (with_buffer_rewrites ran)) within
  | executed primary secondaries shown answer _ ran ih =>
    exact followed_advances ih (advances_rewrites (execute_rewrites ran)) within
  | noted handle queue _ live ih =>
    exact followed_advances ih (advances_requeues (.inr ⟨queue, queue.noteSubmit, live, rfl, rfl⟩)) within
  | ran handle queue done visitor stream s t shown _ live ran ih =>
    have same := Act.ends_of_ok (Queue.ends_run_stream_raw visitor queue stream s) ran
    exact followed_advances ih (advances_requeues (.inr ⟨queue, done, live, same, rfl⟩)) within
  | replayed visitor queue buffers s t shown answer _ ran ih =>
    exact followed_advances ih (advances_requeues (replay_requeues ran)) within

end Tracking

section Results

-- A new buffer has the number from now on. Another one that had it is gone, and nothing else changed.
structure Allocated (registry : Registry) (raw : RawBuffer) (level : BufferLevel) (handle : BufferHandle)
    (next : Registry) : Prop where
  fresh : registry.buffers.get? handle = none
  held : ∀ other, next.buffers.get? other =
    if other = handle then some (.new raw level)
    else if registry.findBuffer raw = some other then none
    else registry.buffers.get? other
  found : ∀ number, next.findBuffer number = if number = raw then some handle else registry.findBuffer number
  queues : next.queues = registry.queues ∧ next.queueLookup = registry.queueLookup

structure Freed (registry : Registry) (handle : BufferHandle) (recorder : Recorder) (next : Registry) : Prop where
  held : ∀ other, next.buffers.get? other = if other = handle then none else registry.buffers.get? other
  found : ∀ number, next.findBuffer number = if number = recorder.raw then none else registry.findBuffer number
  queues : next.queues = registry.queues ∧ next.queueLookup = registry.queueLookup

structure Registered (registry : Registry) (queue : Queue) (handle : QueueHandle) (next : Registry) : Prop where
  fresh : registry.queues.get? handle = none
  held : ∀ other, next.queues.get? other = if other = handle then some queue else registry.queues.get? other
  found : ∀ number, next.findQueue number = if number = queue.raw then some handle else registry.findQueue number
  buffers : next.buffers = registry.buffers ∧ next.bufferLookup = registry.bufferLookup

theorem get_without_namesake (registry : Registry) (raw : RawBuffer) (other : BufferHandle) :
    (registry.withoutNamesake raw).buffers.get? other =
      if registry.findBuffer raw = some other then none else registry.buffers.get? other := by
  unfold withoutNamesake
  cases registry.findBuffer raw with
  | none => rfl
  | some stale =>
    refine (Arena.get_remove_if registry.buffers stale other).trans ?_
    simp only [Option.some.injEq, eq_comm]

theorem find_without_namesake (registry : Registry) {raw number : RawBuffer} (different : number ≠ raw) :
    (registry.withoutNamesake raw).findBuffer number = registry.findBuffer number := by
  unfold withoutNamesake
  split
  · rfl
  · exact Lookup.find_erase_elsewhere registry.bufferLookup raw number different

theorem namesake_not_given (paired : registry.Paired) (raw : RawBuffer) (recorder : Recorder) :
    registry.findBuffer raw ≠ some ((registry.withoutNamesake raw).buffers.insert recorder).1 := by
  intro same
  obtain ⟨old, live, _⟩ := found_buffer paired same
  refine Arena.insert_remove_fresh old recorder live ?_
  conv => rhs; unfold withoutNamesake
  rw [same]
  rfl

theorem allocates (paired : registry.Paired) (room : registry.buffers.slots.length < UInt32.size) (raw : RawBuffer)
    (level : BufferLevel) :
    ∃ shown handle next, allocate raw level registry = ⟨shown, .ok (handle, next)⟩ ∧
      registry.Allocated raw level handle next := by
  have sound := (paired_without_namesake paired raw).soundBuffers
  have slots : (registry.withoutNamesake raw).buffers.slots.length = registry.buffers.slots.length := by
    unfold withoutNamesake
    split
    · rfl
    · exact Arena.length_remove _ _
  have fits : (registry.withoutNamesake raw).buffers.slots.length < UInt32.size := by rwa [slots]
  refine ⟨_, _, _, allocate_ran raw level registry, ?fresh, ?held, ?found, ?queues⟩
  case fresh =>
    have vacant := Arena.given_vacant sound (.new raw level) fits
    rwa [get_without_namesake, if_neg (namesake_not_given paired raw _)] at vacant
  case held =>
    intro other
    rw [← get_without_namesake]
    exact Arena.get_insert_if sound (.new raw level) fits other
  case found =>
    intro number
    refine (Lookup.find_insert_if _ raw number _).trans ?_
    split
    · rfl
    · next different => exact find_without_namesake registry different
  case queues =>
    unfold withoutNamesake
    split <;> exact ⟨rfl, rfl⟩

theorem frees (registry : Registry) (handle : BufferHandle) (recorder : Recorder) :
    registry.Freed handle recorder (registry.withoutBuffer handle recorder.raw) :=
  ⟨fun other => Arena.get_remove_if registry.buffers handle other, Lookup.find_erase_if registry.bufferLookup recorder.raw, rfl, rfl⟩

theorem registers (paired : registry.Paired) (room : registry.queues.slots.length < UInt32.size) (queue : Queue) :
    registry.Registered queue (registry.queues.insert queue).1 (registry.withQueue queue) :=
  ⟨Arena.given_vacant paired.soundQueues queue room, fun other => Arena.get_insert_if paired.soundQueues queue room other,
    fun number => Lookup.find_insert_if registry.queueLookup queue.raw number _, rfl, rfl⟩

end Results

/-- The driver's numbers and the live objects of a registry stand for each other, whatever is done to it, as long as
every slot has an index of its own. A new buffer takes its number from the one live buffer that had it, if there is one,
and from no other. A handle whose buffer is gone leads nowhere from then on, until its slot has been vacated so often that
its generation comes round, so freeing it again changes nothing; and a queue keeps the handle it was given first. -/
theorem numbers_lead_to_live_objects {registry : Registry} {diary : Diary} (tracked : Tracked registry diary)
    (roomQueues : registry.queues.slots.length < UInt32.size) (room : registry.buffers.slots.length < UInt32.size) :
    (∀ raw handle, registry.findBuffer raw = some handle ↔
        ∃ recorder, registry.buffers.get? handle = some recorder ∧ recorder.raw = raw) ∧
      (∀ raw handle, registry.findQueue raw = some handle ↔
        ∃ queue, registry.queues.get? handle = some queue ∧ queue.raw = raw) ∧
      (∀ handle other recorder found, registry.buffers.get? handle = some recorder →
        registry.buffers.get? other = some found → recorder.raw = found.raw → handle = other) ∧
      (∀ handle other queue found, registry.queues.get? handle = some queue →
        registry.queues.get? other = some found → queue.raw = found.raw → handle = other) ∧
      (∀ raw level, ∃ shown handle next, allocate raw level registry = ⟨shown, .ok (handle, next)⟩ ∧
        registry.Allocated raw level handle next) ∧
      (∀ handle, registry.buffers.get? handle = none →
        free handle registry = ⟨[], .ok (.error .invalidHandle, registry)⟩) ∧
      (∀ handle recorder, registry.buffers.get? handle = some recorder →
        ∃ next, free handle registry = ⟨[], .ok (.ok recorder, next)⟩ ∧ registry.Freed handle recorder next) ∧
      (∀ stay ∈ diary.buffers.stays, stay.vacated < UInt32.size → registry.buffers.get? stay.handle = stay.held) ∧
      (∀ raw family index, registry.findQueue raw = none →
        ∃ shown handle next, registerQueue raw family index registry = ⟨shown, .ok (handle, next)⟩ ∧
          registry.Registered (.new raw family index) handle next) ∧
      (∀ raw family index handle, registry.findQueue raw = some handle →
        registerQueue raw family index registry = ⟨[], .ok (handle, registry)⟩) ∧
      ∀ given ∈ diary.queues, registry.findQueue given.1 = some given.2 := by
  have followed := tracked_followed tracked ⟨Nat.le_of_lt roomQueues, Nat.le_of_lt room⟩
  have paired := followed.paired
  refine ⟨paired.buffers, paired.queues, ?_, ?_, allocates paired room, fun _ stale => free_stale stale, ?_, ?_, ?_,
    fun raw family index handle known => register_known known family index, followed.known⟩
  · exact fun _ _ _ _ live also same => Lookup.pairs_once paired.buffers live also same
  · exact fun _ _ _ _ live also same => Lookup.pairs_once paired.queues live also same
  · exact fun handle recorder live => ⟨_, free_live live, frees registry handle recorder⟩
  · intro stay member few
    rw [← followed.arena]
    exact History.kept_leads followed.kept member few
  · exact fun raw family index unknown => ⟨_, _, _, register_new unknown family index, registers paired roomQueues _⟩

def oneQueue : Registry := ⟨⟨[⟨0, some (.new 7 0 0)⟩], [], 1⟩, [(7, ⟨0, 0⟩)], .empty, []⟩

def withOne (registry : Registry) (generation : UInt32) (recorder : Recorder) : Registry :=
  { registry with
    buffers := ⟨[⟨generation, some recorder⟩], [], 1⟩
    bufferLookup := [(recorder.raw, ⟨0, generation⟩)] }

-- A number is given to a buffer, recorded into, and given again; the first handle is freed behind that.
theorem numbers_lead_to_live_objects_reallocated :
    let registry := oneQueue.withOne 1 (.new 5 .secondary)
    ∃ diary, Tracked registry diary ∧ registry.queues.slots.length < UInt32.size ∧
      registry.buffers.slots.length < UInt32.size ∧
      diary.buffers.stays = [⟨⟨0, 0⟩, none, 1⟩, ⟨⟨0, 1⟩, some (.new 5 .secondary), 0⟩] ∧
      registry.buffers.get? ⟨0, 0⟩ = none ∧ free ⟨0, 0⟩ registry = ⟨[], .ok (.error .invalidHandle, registry)⟩ ∧
      registerQueue 7 1 1 registry = ⟨[], .ok (⟨0, 0⟩, registry)⟩ ∧
      ∃ shown handle next, allocate 5 .primary registry = ⟨shown, .ok (handle, next)⟩ ∧
        next.buffers.get? ⟨0, 1⟩ = none ∧ next.findBuffer 5 = some handle := by
  intro registry
  have queued : Tracked oneQueue _ := .registered 7 0 0 _ ⟨0, 0⟩ .empty rfl
  have again : Tracked oneQueue _ := .registered 7 1 1 _ ⟨0, 0⟩ queued rfl
  have first : Tracked (oneQueue.withOne 0 (.new 5 .primary)) _ := .allocated 5 .primary _ ⟨0, 0⟩ again rfl
  have recorded : Tracked (oneQueue.withOne 0 (Recorder.new 5 .primary).start) _ :=
    .recorded ⟨0, 0⟩ .start .first .first _ _ first rfl
  have second : Tracked registry _ := .allocated 5 .secondary _ ⟨0, 1⟩ recorded rfl
  have tracked : Tracked registry _ := .freed ⟨0, 0⟩ _ _ second rfl
  let stays : List (Stay Recorder) := [⟨⟨0, 0⟩, none, 1⟩, ⟨⟨0, 1⟩, some (.new 5 .secondary), 0⟩]
  have told : Tracked registry ⟨⟨registry.buffers, stays⟩, [(7, ⟨0, 0⟩), (7, ⟨0, 0⟩)]⟩ := tracked
  have roomQueues : registry.queues.slots.length < UInt32.size := by decide
  have room : registry.buffers.slots.length < UInt32.size := by decide
  obtain ⟨_, _, _, _, allocates, frees, _, leads, _, registers, known⟩ := numbers_lead_to_live_objects told roomQueues room
  have gone := leads ⟨⟨0, 0⟩, none, 1⟩ List.mem_cons_self (by decide)
  have queue := known (7, ⟨0, 0⟩) List.mem_cons_self
  obtain ⟨shown, handle, next, ran, allocated⟩ := allocates 5 .primary
  have different : (⟨0, 1⟩ : BufferHandle) ≠ handle := by
    rintro rfl
    exact nomatch allocated.fresh
  refine ⟨_, told, roomQueues, room, rfl, gone, frees ⟨0, 0⟩ gone, registers 7 1 1 ⟨0, 0⟩ queue, shown, handle, next, ran,
    ?_, ?_⟩
  · rw [allocated.held, if_neg different]
    rfl
  · rw [allocated.found, if_pos rfl]

end Registry

end GpuProfiler
