import GpuProfiler.Proofs.Device.Birth
import GpuProfiler.Proofs.Device.Drained
import GpuProfiler.Proofs.Driver.Executed
import GpuProfiler.Proofs.Piece

set_option autoImplicit false

namespace GpuProfiler

namespace Driver

-- A driver that has not been called yet, and will not fail where a recording starts or where a
-- device is sent on.
def Unused (driver : Driver) : Prop :=
  driver = .new driver.name driver.faults driver.reserved driver.autoSet ∧ ∀ fault ∈ driver.faults,
    fault.method ≠ .beginCommandBuffer ∧ fault.method ≠ .resetCommandBuffer ∧ fault.method ≠ .setEvent

instance (driver : Driver) : Decidable driver.Unused :=
  inferInstanceAs (Decidable (_ ∧ ∀ fault ∈ driver.faults, fault.method ≠ .beginCommandBuffer ∧
    fault.method ≠ .resetCommandBuffer ∧ fault.method ≠ .setEvent))

end Driver

namespace ProfiledDevice

-- No other buffer keeps a recording that executes the buffer.
def Apart (device : ProfiledDevice) (handle : BufferHandle) : Prop :=
  ∀ recorder ∈ device.registry.buffers.get? handle, ¬ device.driver.Executes recorder.raw

def Accepts (device : ProfiledDevice) (primary : BufferId) (secondaries : List BufferId) : Prop :=
  (device.registry.buffers.get? primary.buffer).isSome = true ∧ ∀ secondary ∈ secondaries,
    secondary.device = primary.device ∧ (device.registry.buffers.get? secondary.buffer).isSome = true

-- What is asked of a call: a buffer executed from another is left alone as long as that one keeps
-- its recording, nor is its number given out again, and it executes none itself.
def Admits (device : ProfiledDevice) : LayerCall → Prop
  | .allocate _ level => ∀ raw ∈ device.handedOut? level, ¬ device.driver.Executes raw
  | .free buffer | .beginBuffer buffer | .resetBuffer buffer | .command buffer _ => device.Apart buffer.buffer
  | .execute primary secondaries =>
    device.Accepts primary secondaries → device.Apart primary.buffer ∧ ∀ secondary ∈ secondaries,
      secondary ≠ primary ∧
        ∀ recorder ∈ device.registry.buffers.get? secondary.buffer, device.driver.Plain recorder.raw
  | _ => True

-- What is asked of an orderly call besides: within an open part no other work is recorded.
def Orders (device : ProfiledDevice) : LayerCall → Prop
  | .command buffer recorded =>
    ∀ recorder ∈ device.registry.buffers.get? buffer.buffer, recorder.active.isSome = true → recorded.fitsPass = true
  | .execute primary secondaries =>
    device.Accepts primary secondaries →
      ∀ recorder ∈ device.registry.buffers.get? primary.buffer, recorder.active = none
  | _ => True

section Decisions

variable (device : ProfiledDevice)

instance (handle : BufferHandle) : Decidable (device.Apart handle) :=
  inferInstanceAs (Decidable (∀ recorder ∈ device.registry.buffers.get? handle, ¬ device.driver.Executes recorder.raw))

instance (primary : BufferId) (secondaries : List BufferId) : Decidable (device.Accepts primary secondaries) :=
  inferInstanceAs (Decidable (_ ∧ _))

instance (call : LayerCall) : Decidable (device.Admits call) :=
  match call with
  | .allocate _ level =>
    inferInstanceAs (Decidable (∀ raw ∈ device.handedOut? level, ¬ device.driver.Executes raw))
  | .free buffer | .beginBuffer buffer | .resetBuffer buffer | .command buffer _ =>
    inferInstanceAs (Decidable (device.Apart buffer.buffer))
  | .execute primary secondaries =>
    inferInstanceAs (Decidable (device.Accepts primary secondaries → device.Apart primary.buffer ∧
      ∀ secondary ∈ secondaries, secondary ≠ primary ∧
        ∀ recorder ∈ device.registry.buffers.get? secondary.buffer, device.driver.Plain recorder.raw))
  | .createDevice _ _ | .destroyDevice _ | .getQueue _ _ _ | .endBuffer _ | .submit _ _ | .present _ | .frameIndex _
  | .framePhase _ | .isCapturing _ | .trapCycles _ | .rawBuffer _ | .recordedWorkloads _ | .deviceCount => isTrue trivial

instance (call : LayerCall) : Decidable (device.Orders call) :=
  match call with
  | .command buffer recorded =>
    inferInstanceAs (Decidable (∀ recorder ∈ device.registry.buffers.get? buffer.buffer,
      recorder.active.isSome = true → recorded.fitsPass = true))
  | .execute primary secondaries =>
    inferInstanceAs (Decidable (device.Accepts primary secondaries →
      ∀ recorder ∈ device.registry.buffers.get? primary.buffer, recorder.active = none))
  | .createDevice _ _ | .destroyDevice _ | .getQueue _ _ _ | .allocate _ _ | .free _ | .beginBuffer _ | .endBuffer _
  | .resetBuffer _ | .submit _ _ | .present _ | .frameIndex _ | .framePhase _ | .isCapturing _ | .trapCycles _
  | .rawBuffer _ | .recordedWorkloads _ | .deviceCount => isTrue trivial

end Decisions

abbrev Book := BufferHandle → List Piece

structure Level (device : ProfiledDevice) (orderly : Prop) (book : Book) : Prop where
  idle : device.Idle
  steady : ∀ fault ∈ device.driver.faults, fault.method ≠ .beginCommandBuffer ∧ fault.method ≠ .resetCommandBuffer
  named : device.registry.Named
  executed : ∀ raw, device.driver.Executes raw → device.driver.Plain raw ∧ device.registry.findBuffer raw ≠ none
  fits : ∀ handle recorder, device.registry.buffers.get? handle = some recorder → recorder.Fits orderly (book handle)
  ops : ∀ handle recorder, device.registry.buffers.get? handle = some recorder →
    device.driver.flatten recorder.raw = (Piece.timeline (book handle)).ops device.events

variable {device moved : ProfiledDevice} {orderly : Prop} {book next : Book}

theorem events_rests (rests : Rests device moved) : moved.events = device.events := by
  rw [events, events, trapEvents, trapEvents, rests.trap]

theorem idle_rests (rests : Rests device moved) (idle : device.Idle) : moved.Idle := by
  have events := events_rests rests
  refine ⟨rests.driver.timeline.trans idle.timeline, ?_, ?_, ?_⟩
  · rw [events]
    exact idle.distinct
  · rw [events, rests.driver.signalled]
    exact idle.unsignalled
  · rw [rests.driver.faults]
    exact idle.reliable

theorem named_same (same : SameBuffers device moved) (named : device.registry.Named) : moved.registry.Named := by
  intro handle recorder live
  rw [Registry.findBuffer, same.lookup]
  rw [same.buffers] at live
  exact named handle recorder live

theorem level_born {driver : Driver} (born : Born driver device) (unused : driver.Unused) :
    device.Level orderly book := by
  obtain ⟨registry, equips, fresh⟩ := born
  obtain ⟨new, few⟩ := unused
  have holds (raw : RawBuffer) : device.driver.contents raw = [] := by
    rw [Driver.contents, equips.buffers, new]
    rfl
  have timeline : device.driver.timeline = [] := by
    rw [equips.timeline, new]
    rfl
  have signalled (event : RawEvent) : event ∉ device.driver.signalled := by
    intro member
    have known := equips.signalled event member
    rw [new] at known
    cases known
  have distinct : device.events.deviceToHost ≠ device.events.hostToDevice := by
    cases held : device.trap with
    | none => simp [events, trapEvents, held]
    | some trap =>
      rw [events_of_trap held]
      exact (fresh trap held).distinct
  refine ⟨⟨timeline, distinct, signalled _, ?_⟩, ?_, ?_, ?_, ?_, ?_⟩
  · rw [equips.faults]
    exact fun fault member => (few fault member).2.2
  · rw [equips.faults]
    exact fun fault member => ⟨(few fault member).1, (few fault member).2.1⟩
  · rw [registry]
    exact Registry.named_empty
  · rintro raw ⟨primary, op, held, _⟩
    rw [holds] at held
    cases held
  all_goals
    intro handle recorder live
    rw [registry, show Registry.empty.buffers.get? handle = none from Arena.get_empty handle] at live
    cases live

theorem level_same (level : device.Level orderly book) (same : SameBuffers device moved)
    (events : moved.events = device.events) (faults : moved.driver.faults = device.driver.faults) (idle : moved.Idle)
    (kept : ∀ handle recorder, device.registry.buffers.get? handle = some recorder → next handle = book handle) :
    moved.Level orderly next := by
  have flatten := Driver.flatten_congr same.contents
  refine ⟨idle, ?_, named_same same level.named, ?_, ?_, ?_⟩
  · rw [faults]
    exact level.steady
  · intro raw executes
    obtain ⟨plain, held⟩ := level.executed raw (Driver.executes_congr same.contents executes)
    exact ⟨by rw [Driver.Plain, same.contents]; exact plain, by rw [Registry.findBuffer, same.lookup]; exact held⟩
  · intro handle recorder live
    rw [same.buffers] at live
    rw [kept handle recorder live]
    exact level.fits handle recorder live
  · intro handle recorder live
    rw [same.buffers] at live
    rw [kept handle recorder live, flatten, events]
    exact level.ops handle recorder live

-- What a call does to one buffer which no other one executes, as far as the others are concerned.
structure Changes (device : ProfiledDevice) (raw : RawBuffer) (moved : ProfiledDevice) : Prop where
  rests : Rests device moved
  apart : ¬ device.driver.Executes raw
  contents : ∀ other, other ≠ raw → moved.driver.contents other = device.driver.contents other
  named : moved.registry.Named
  known : ∀ other, other ≠ raw → moved.registry.findBuffer other = device.registry.findBuffer other

theorem level_changes (level : device.Level orderly book) {raw : RawBuffer} (changes : Changes device raw moved)
    (executed : ∀ other, moved.driver.Executes other → device.driver.Executes other ∨
      (other ≠ raw ∧ device.driver.Plain other ∧ device.registry.findBuffer other ≠ none))
    (matched : ∀ handle recorder, moved.registry.buffers.get? handle = some recorder →
      (recorder.raw ≠ raw ∧ device.registry.buffers.get? handle = some recorder ∧ next handle = book handle) ∨
        (recorder.Fits orderly (next handle) ∧
          moved.driver.flatten recorder.raw = (Piece.timeline (next handle)).ops device.events)) :
    moved.Level orderly next := by
  have events := events_rests changes.rests
  refine ⟨idle_rests changes.rests level.idle, ?_, changes.named, ?_, ?_, ?_⟩
  · rw [changes.rests.driver.faults]
    exact level.steady
  · intro other executes
    have known : other ≠ raw ∧ device.driver.Plain other ∧ device.registry.findBuffer other ≠ none := by
      rcases executed other executes with before | new
      · exact ⟨fun same => changes.apart (same ▸ before), level.executed other before⟩
      · exact new
    obtain ⟨different, plain, held⟩ := known
    rw [Driver.Plain, changes.contents other different, changes.known other different]
    exact ⟨plain, held⟩
  · intro handle recorder live
    rcases matched handle recorder live with ⟨_, before, same⟩ | ⟨fits, _⟩
    · rw [same]
      exact level.fits handle recorder before
    · exact fits
  · intro handle recorder live
    rw [events]
    rcases matched handle recorder live with ⟨different, before, same⟩ | ⟨_, ops⟩
    · rw [same, Driver.flatten_elsewhere changes.contents changes.apart different]
      exact level.ops handle recorder before
    · exact ops

theorem level_buffers (level : device.Level orderly book) {handles : List BufferHandle}
    (live : ∀ handle ∈ handles, ∃ recorder, device.registry.buffers.get? handle = some recorder) :
    (Piece.sampledIn (handles.flatMap book)).length = Stream.trapped (handles.flatMap device.registry.streamOf) ∧
      (orderly → Piece.sampledIn (handles.flatMap book) = (handles.flatMap device.registry.streamOf).filter Record.traps) ∧
      (∀ piece ∈ handles.flatMap book, ∀ record, piece.sampled = some record → piece.recorded.Accounts record) ∧
      (handles.map device.registry.rawOf).flatMap device.driver.flatten =
        (Piece.timeline (handles.flatMap book)).ops device.events := by
  induction handles with
  | nil => exact ⟨rfl, fun _ => rfl, fun _ member => (nomatch member), rfl⟩
  | cons handle rest ih =>
    obtain ⟨recorder, here⟩ := live handle List.mem_cons_self
    obtain ⟨stops, order, accounts, ops⟩ := ih fun other member => live other (List.mem_cons_of_mem handle member)
    have fits := level.fits handle recorder here
    simp only [List.flatMap_cons, List.map_cons, Registry.stream_of_some here, Registry.raw_of_some here]
    refine ⟨?_, ?_, ?_, ?_⟩
    · rw [Piece.sampled_in_append, List.length_append, fits.stops, stops, Stream.trapped_append]
    · intro holds
      rw [Piece.sampled_in_append, (fits.order holds).1, order holds, List.filter_append]
    · intro piece member
      exact (List.mem_append.mp member).elim (fits.accounts piece) (accounts piece)
    · rw [level.ops handle recorder here, ops, Piece.timeline_append, Timeline.ops_append]

section Cases

variable {handle : BufferHandle} {recorder : Recorder}

theorem level_allocated (level : device.Level orderly book) {raw : RawBuffer} {size : BufferLevel}
    (rests : Rests device moved) (apart : ¬ device.driver.Executes raw)
    (empty : moved.driver.contents raw = [])
    (contents : ∀ other, other ≠ raw → moved.driver.contents other = device.driver.contents other)
    (lookup : moved.registry.bufferLookup = device.registry.bufferLookup.insert raw handle)
    (live : ∀ other found, moved.registry.buffers.get? other = some found →
      (device.registry.buffers.get? other = some found ∧ device.registry.findBuffer raw ≠ some other) ∨
        (device.registry.buffers.get? other = none ∧ other = handle ∧ found = .new raw size))
    (kept : ∀ other found, device.registry.buffers.get? other = some found → next other = book other)
    (fresh : device.registry.buffers.get? handle = none → next handle = []) : moved.Level orderly next := by
  refine level_changes level ⟨rests, apart, contents, Registry.named_allocate level.named lookup live, ?_⟩ ?_ ?_
  · intro other different
    rw [Registry.findBuffer, lookup]
    exact Lookup.find_insert_elsewhere _ _ _ _ different
  · exact fun other executes => .inl (Driver.executes_cleared empty contents executes)
  · intro other found here
    rcases live other found here with ⟨before, away⟩ | ⟨vacant, rfl, rfl⟩
    · refine .inl ⟨?_, before, kept other found before⟩
      rintro rfl
      exact away (level.named other found before)
    · rw [fresh vacant]
      refine .inr ⟨Recorder.fits_nil rfl rfl, ?_⟩
      change moved.driver.flatten raw = _
      rw [Driver.flatten, empty]
      rfl

theorem level_freed (level : device.Level orderly book) (rests : Rests device moved)
    (live : device.registry.buffers.get? handle = some recorder) (apart : device.Apart handle)
    (empty : moved.driver.contents recorder.raw = [])
    (contents : ∀ other, other ≠ recorder.raw → moved.driver.contents other = device.driver.contents other)
    (removed : moved.registry.buffers = (device.registry.buffers.remove handle).2)
    (lookup : moved.registry.bufferLookup = device.registry.bufferLookup.erase recorder.raw)
    (kept : ∀ other found, device.registry.buffers.get? other = some found → other ≠ handle → next other = book other) :
    moved.Level orderly next := by
  refine level_changes level ⟨rests, apart recorder live, contents, Registry.named_free level.named live removed lookup, ?_⟩
    ?_ ?_
  · intro other different
    rw [Registry.findBuffer, lookup]
    exact Lookup.find_erase_elsewhere _ _ _ different
  · exact fun other executes => .inl (Driver.executes_cleared empty contents executes)
  · intro other found here
    rw [removed] at here
    obtain ⟨away, before⟩ := Arena.get_remove_live here
    exact .inl ⟨fun same => away (Registry.named_once level.named before live same), before, kept other found before away⟩

theorem level_rewritten (level : device.Level orderly book) {following : Recorder} (rests : Rests device moved)
    (live : device.registry.buffers.get? handle = some recorder) (apart : device.Apart handle)
    (raw : following.raw = recorder.raw)
    (registry : moved.registry = device.registry.setBuffer handle following)
    (contents : ∀ other, other ≠ recorder.raw → moved.driver.contents other = device.driver.contents other)
    (executed : ∀ other, moved.driver.Executes other → device.driver.Executes other ∨
      (other ≠ recorder.raw ∧ device.driver.Plain other ∧ device.registry.findBuffer other ≠ none))
    (kept : ∀ other found, device.registry.buffers.get? other = some found → other ≠ handle → next other = book other)
    (fits : following.Fits orderly (next handle))
    (ops : moved.driver.flatten recorder.raw = (Piece.timeline (next handle)).ops device.events) :
    moved.Level orderly next := by
  refine level_changes level ⟨rests, apart recorder live, contents, ?_, fun _ _ => by rw [registry]; rfl⟩ executed ?_
  · rw [registry]
    exact Registry.named_set_buffer level.named live raw
  · intro other found here
    rw [registry, Registry.get_set_buffer live] at here
    by_cases same : other = handle
    · rw [if_pos same] at here
      cases here
      rw [same, raw]
      exact .inr ⟨fits, ops⟩
    · rw [if_neg same] at here
      exact .inl ⟨fun equal => same (Registry.named_once level.named here live equal), here, kept other found here same⟩

theorem level_restarted (level : device.Level orderly book) {afresh : Recorder} (rests : Rests device moved)
    (live : device.registry.buffers.get? handle = some recorder) (apart : device.Apart handle)
    (raw : afresh.raw = recorder.raw) (stream : afresh.stream = []) (closed : afresh.active = none)
    (registry : moved.registry = device.registry.setBuffer handle afresh)
    (contents : ∀ other, other ≠ recorder.raw → moved.driver.contents other = device.driver.contents other)
    (answered : moved.driver.contents recorder.raw = [] ∨ ∃ fault ∈ device.driver.faults,
      fault.method = .beginCommandBuffer ∨ fault.method = .resetCommandBuffer)
    (kept : ∀ other found, device.registry.buffers.get? other = some found → other ≠ handle → next other = book other)
    (fresh : next handle = []) : moved.Level orderly next := by
  have empty : moved.driver.contents recorder.raw = [] := by
    rcases answered with cleared | ⟨fault, member, scripted⟩
    · exact cleared
    · exact absurd scripted (not_or.mpr (level.steady fault member))
  refine level_rewritten level rests live apart raw registry contents
    (fun other executes => .inl (Driver.executes_cleared empty contents executes)) kept ?_ ?_
  · rw [fresh]
    exact Recorder.fits_nil stream closed
  · rw [fresh, Driver.flatten, empty]
    rfl

theorem level_recorded (level : device.Level orderly book) {following : Recorder} {recorded : Command} {stops : Bool}
    {tags used : TagSource} (rests : Rests device moved)
    (live : device.registry.buffers.get? handle = some recorder) (apart : device.Apart handle)
    (orders : orderly → recorder.active.isSome = true → recorded.fitsPass = true)
    (follows : Recording.Follows ⟨recorder, tags⟩ recorded device.isProfiling stops ⟨following, used⟩)
    (registry : moved.registry = device.registry.setBuffer handle following)
    (driver : Driver.Recorded device.driver recorder.raw
      ((Timeline.ops device.events (.ofCommand recorded stops)).map .device) moved.driver)
    (kept : ∀ other found, device.registry.buffers.get? other = some found → other ≠ handle → next other = book other)
    (more : next handle = book handle ++ [⟨recorded, recorder.stream.news following.stream⟩]) :
    moved.Level orderly next := by
  refine level_rewritten level rests live apart follows.raw registry driver.elsewhere ?_ kept ?_ ?_
  · intro other executes
    rcases Driver.executes_recorded driver executes with before | ⟨op, member, listed⟩
    · exact .inl before
    · obtain ⟨done, _, rfl⟩ := List.mem_map.mp member
      cases listed
  · have before := level.fits handle recorder live
    rw [more]
    exact Recorder.fits_recorded before follows.step (fun holds => follows.order (before.order holds).2 (orders holds))
      follows.accounts
  · have one : Piece.timeline [⟨recorded, recorder.stream.news following.stream⟩] = .ofCommand recorded stops := by
      rw [← Stream.step_news follows.step]
      exact List.append_nil _
    rw [Driver.flatten_recorded driver (apart recorder live), Driver.expand_devices, level.ops handle recorder live, more,
      Piece.timeline_append, one, Timeline.ops_append]

theorem level_executed (level : device.Level orderly book) {secondaries : List BufferHandle} (rests : Rests device moved)
    (live : device.registry.buffers.get? handle = some recorder) (apart : device.Apart handle)
    (orders : orderly → recorder.active = none)
    (others : ∀ secondary ∈ secondaries, secondary ≠ handle ∧
      ∃ found, device.registry.buffers.get? secondary = some found ∧ device.driver.Plain found.raw)
    (registry : moved.registry = device.registry.setBuffer handle
      (recorder.append (secondaries.flatMap device.registry.streamOf)))
    (driver : Driver.Recorded device.driver recorder.raw [.execute (secondaries.map device.registry.rawOf)] moved.driver)
    (kept : ∀ other found, device.registry.buffers.get? other = some found → other ≠ handle → next other = book other)
    (more : next handle = book handle ++ secondaries.flatMap book) : moved.Level orderly next := by
  -- What is executed are plain buffers other than this one, and so they still hold what they held.
  have plain : ∀ raw ∈ secondaries.map device.registry.rawOf,
      raw ≠ recorder.raw ∧ device.driver.Plain raw ∧ device.registry.findBuffer raw ≠ none := by
    intro raw listed
    obtain ⟨secondary, member, rfl⟩ := List.mem_map.mp listed
    obtain ⟨different, found, here, devices⟩ := others secondary member
    rw [Registry.raw_of_some here]
    refine ⟨fun same => different (Registry.named_once level.named here live same), devices, ?_⟩
    rw [level.named secondary found here]
    exact Option.some_ne_none _
  have held : ∀ secondary ∈ secondaries, ∃ found, device.registry.buffers.get? secondary = some found := by
    intro secondary member
    obtain ⟨_, found, here, _⟩ := others secondary member
    exact ⟨found, here⟩
  obtain ⟨stops, order, accounts, ops⟩ := level_buffers level held
  have raw : (recorder.append (secondaries.flatMap device.registry.streamOf)).raw = recorder.raw := rfl
  refine level_rewritten level rests live apart raw registry driver.elsewhere ?_ kept ?_ ?_
  · intro other executes
    rcases Driver.executes_recorded driver executes with before | ⟨op, member, listed⟩
    · exact .inl before
    · cases List.mem_singleton.mp member
      exact .inr (plain other listed)
  · rw [more]
    exact Recorder.fits_append (level.fits handle recorder live) orders stops order accounts
  · have inlined : [BufferOp.execute (secondaries.map device.registry.rawOf)].flatMap
        (moved.driver.expand Driver.executionDepth) =
        (secondaries.map device.registry.rawOf).flatMap device.driver.flatten := by
      rw [List.flatMap_singleton, Driver.executionDepth, Driver.expand_plain]
      · apply List.flatMap_congr
        intro other listed
        exact Driver.flatten_elsewhere driver.elsewhere (apart recorder live) (plain other listed).1
      · intro other listed
        rw [Driver.Plain, driver.elsewhere other (plain other listed).1]
        exact (plain other listed).2.1
    rw [Driver.flatten_recorded driver (apart recorder live), inlined, ops, level.ops handle recorder live, more,
      Piece.timeline_append, Timeline.ops_append]

theorem level_finished (level : device.Level orderly book) (rests : Rests device moved)
    (live : device.registry.buffers.get? handle = some recorder)
    (registry : moved.registry = device.registry.setBuffer handle recorder.finish)
    (contents : ∀ raw, moved.driver.contents raw = device.driver.contents raw)
    (kept : ∀ other found, device.registry.buffers.get? other = some found → next other = book other) :
    moved.Level orderly next := by
  have found (other : BufferHandle) : moved.registry.buffers.get? other =
      if other = handle then some recorder.finish else device.registry.buffers.get? other := by
    rw [registry, Registry.get_set_buffer live]
  have before {other : BufferHandle} {after : Recorder} (here : moved.registry.buffers.get? other = some after) :
      ∃ known, device.registry.buffers.get? other = some known ∧ (after = known ∨ after = known.finish) := by
    rw [found] at here
    by_cases same : other = handle
    · rw [if_pos same] at here
      exact ⟨recorder, same ▸ live, .inr (Option.some.inj here).symm⟩
    · rw [if_neg same] at here
      exact ⟨after, here, .inl rfl⟩
  refine ⟨idle_rests rests level.idle, ?_, ?_, ?_, ?_, ?_⟩
  · rw [rests.driver.faults]
    exact level.steady
  · rw [registry]
    exact Registry.named_set_buffer level.named live rfl
  · intro raw executes
    obtain ⟨plain, held⟩ := level.executed raw (Driver.executes_congr contents executes)
    exact ⟨by rw [Driver.Plain, contents]; exact plain, by rw [registry]; exact held⟩
  · intro other after here
    obtain ⟨known, live, same⟩ := before here
    have fits := level.fits other known live
    rw [kept other known live]
    rcases same with rfl | rfl
    · exact fits
    · exact ⟨fits.stops, fits.order, fits.accounts⟩
  · intro other after here
    obtain ⟨known, live, same⟩ := before here
    have raw : after.raw = known.raw := by rcases same with rfl | rfl <;> rfl
    rw [kept other known live, raw, Driver.flatten_congr contents, events_rests rests]
    exact level.ops other known live

end Cases

end ProfiledDevice

end GpuProfiler
