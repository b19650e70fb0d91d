import GpuProfiler.Proofs.Trap.Host

set_option autoImplicit false

namespace GpuProfiler

structure Interleaving where
  executed : List DeviceOp
  remaining : List DeviceOp
  signalled : List RawEvent
  asked : List (HostCall × Bool)
deriving DecidableEq, Repr

namespace Interleaving

variable (trap : Trap) (items : Timeline)

def start : Interleaving := ⟨[], items.recorded trap.events, [], []⟩

def nextCall (world : Interleaving) : Option HostCall :=
  trap.nextCall items.traps (world.asked.map (·.2))

def latches (world : Interleaving) : Nat := world.asked.count (.latch, true)

inductive Step : Interleaving → Interleaving → Prop
  | device (executed : List DeviceOp) (op : DeviceOp) (rest : List DeviceOp) (signalled next : List RawEvent)
      (asked : List (HostCall × Bool)) (shown : DeviceStep) (done : op.step? signalled = some (shown, next)) :
      Step ⟨executed, op :: rest, signalled, asked⟩ ⟨executed ++ [op], rest, next, asked⟩
  | host (world : Interleaving) (call : HostCall) (made : world.nextCall trap items = some call) :
      Step world
        { world with
          signalled := call.effect world.signalled
          asked := world.asked ++ [(call, call.answer world.signalled)] }

inductive Reached : Interleaving → Prop
  | start : Reached (start trap items)
  | step (world next : Interleaving) (reached : Reached world) (taken : Step trap items world next) : Reached next

structure Safe (world : Interleaving) : Prop where
  latched : world.nextCall trap items = some .latch →
    ∃ ahead behind, items = ahead ++ .trap :: behind ∧ Timeline.traps ahead = world.latches ∧
      world.executed = Timeline.ops trap.events ahead ++ [.set trap.events.deviceToHost] ∧
      world.remaining =
        .wait trap.events.hostToDevice :: .reset trap.events.hostToDevice :: Timeline.ops trap.events behind ∧
      trap.events.hostToDevice ∉ world.signalled
  deviceSets : ∀ event rest, world.remaining = .set event :: rest → event ∉ world.signalled
  deviceResets : ∀ event rest, world.remaining = .reset event :: rest → event ∈ world.signalled
  hostSets : ∀ event, world.nextCall trap items = some (.signal event) → event ∉ world.signalled
  hostResets : ∀ event, world.nextCall trap items = some (.reset event) → event ∈ world.signalled
  seen : world.asked.count (.poll trap.events.deviceToHost, true) ≤
      world.executed.count (.set trap.events.deviceToHost) ∧
    world.executed.count (.set trap.events.deviceToHost) ≤
      world.asked.count (.poll trap.events.deviceToHost, true) + 1
  resumed : world.executed.count (.wait trap.events.hostToDevice) ≤
      world.asked.count (.signal trap.events.hostToDevice, true) ∧
    world.asked.count (.signal trap.events.hostToDevice, true) ≤
      world.executed.count (.wait trap.events.hostToDevice) + 1
  live : world.remaining ≠ [] ∨ world.nextCall trap items ≠ none →
    (∃ op rest, world.remaining = op :: rest ∧ (op.step? world.signalled).isSome) ∨
      ∃ call, world.nextCall trap items = some call ∧ call.answer world.signalled = true
  finished : world.remaining = [] → world.nextCall trap items = none →
    world.signalled = [] ∧ world.latches = items.traps ∧
      world.executed = Timeline.ops trap.events items

-- The events signalled are settled by the two places. The device announces itself, the host takes
-- note in four calls, and until the device has reset the release the host cannot get further.
inductive Linked : Interleaving → Prop
  | running (ahead behind : Timeline) (place : HostPlace) (split : items = ahead ++ behind)
      (within : place.Within items.traps) (level : place.polls.length = Timeline.traps ahead)
      (polling : place.passed = 0) :
      Linked ⟨Timeline.ops trap.events ahead, Timeline.ops trap.events behind, [], place.asked trap.events⟩
  | announced (ahead behind : Timeline) (place : HostPlace) (split : items = ahead ++ .trap :: behind)
      (within : place.Within items.traps) (level : place.polls.length = Timeline.traps ahead) :
      Linked
        ⟨Timeline.ops trap.events ahead ++ [.set trap.events.deviceToHost],
          .wait trap.events.hostToDevice :: .reset trap.events.hostToDevice :: Timeline.ops trap.events behind,
          if place.passed < 2 then [trap.events.deviceToHost] else [], place.asked trap.events⟩
  | released (ahead behind : Timeline) (place : HostPlace) (split : items = ahead ++ .trap :: behind)
      (within : place.Within items.traps) (level : place.polls.length = Timeline.traps ahead + 1)
      (polling : place.passed = 0) :
      Linked
        ⟨Timeline.ops trap.events ahead ++ [.set trap.events.deviceToHost],
          .wait trap.events.hostToDevice :: .reset trap.events.hostToDevice :: Timeline.ops trap.events behind,
          [trap.events.hostToDevice], place.asked trap.events⟩
  | resumed (ahead behind : Timeline) (place : HostPlace) (split : items = ahead ++ .trap :: behind)
      (within : place.Within items.traps) (level : place.polls.length = Timeline.traps ahead + 1)
      (polling : place.passed = 0) :
      Linked
        ⟨Timeline.ops trap.events ahead ++ [.set trap.events.deviceToHost, .wait trap.events.hostToDevice],
          .reset trap.events.hostToDevice :: Timeline.ops trap.events behind,
          [trap.events.hostToDevice], place.asked trap.events⟩

variable {trap items}

theorem linked_start : Linked trap items (start trap items) := by
  have place : HostPlace.Within ⟨[], 0, 0⟩ items.traps := ⟨by simp, by decide, fun _ => ⟨rfl, rfl⟩⟩
  rw [start, Timeline.recorded_ops]
  exact .running [] items ⟨[], 0, 0⟩ rfl place rfl rfl

theorem within_next {place : HostPlace} {ahead behind : Timeline} (split : items = ahead ++ .trap :: behind)
    (level : place.polls.length = Timeline.traps ahead) : place.polls.length < items.traps := by
  rw [split, Timeline.traps_append, Timeline.traps_trap]
  omega

theorem linked_device {world : Interleaving} {op : DeviceOp} {rest : List DeviceOp} {next : List RawEvent}
    {shown : DeviceStep} (linked : Linked trap items world) (before : world.remaining = op :: rest)
    (done : op.step? world.signalled = some (shown, next))
    (distinct : trap.events.deviceToHost ≠ trap.events.hostToDevice) :
    Linked trap items ⟨world.executed ++ [op], rest, next, world.asked⟩ := by
  cases linked with
  | running ahead behind place split within level polling =>
    cases behind with
    | nil => cases before
    | cons item behind =>
      cases item with
      | work recorded =>
        obtain ⟨rfl, rfl⟩ : .work recorded = op ∧ Timeline.ops trap.events behind = rest := by
          simpa using before
        cases done
        have moved : Linked trap items _ := .running (ahead ++ [.work recorded]) behind place
          (by simpa using split) within (by simpa using level) polling
        simpa using moved
      | trap =>
        obtain ⟨rfl, rfl⟩ : .set trap.events.deviceToHost = op ∧
            .wait trap.events.hostToDevice :: .reset trap.events.hostToDevice ::
              Timeline.ops trap.events behind = rest := by
          simpa using before
        cases done
        have moved : Linked trap items _ := .announced ahead behind place split within level
        simpa [polling] using moved
  | announced ahead behind place split within level =>
    cases before
    -- The device is parked: its release has not been signalled yet.
    by_cases early : place.passed < 2 <;> simp [DeviceOp.step?, early, Ne.symm distinct] at done
  | released ahead behind place split within level polling =>
    cases before
    obtain ⟨-, rfl⟩ : shown = .resume trap.events.hostToDevice ∧ next = [trap.events.hostToDevice] := by
      simpa [DeviceOp.step?, eq_comm] using done
    have moved : Linked trap items _ := .resumed ahead behind place split within level polling
    simpa using moved
  | resumed ahead behind place split within level polling =>
    cases before
    obtain ⟨-, rfl⟩ : shown = .reset trap.events.hostToDevice ∧ next = [] := by
      simpa [DeviceOp.step?, eq_comm] using done
    have moved : Linked trap items _ := .running (ahead ++ [.trap]) behind place (by simpa using split) within
      (by simpa using level) polling
    simpa using moved

theorem next_call_place {world : Interleaving} {place : HostPlace} (within : place.Within items.traps)
    (asked : world.asked = place.asked trap.events) :
    world.nextCall trap items =
      if place.polls.length < items.traps then (HostPlace.cycleCalls trap.events)[place.passed]? else none := by
  unfold nextCall
  rw [asked]
  by_cases few : place.polls.length < items.traps
  · rw [if_pos few, next_call_inside trap place _ within few]
  · have through : place.polls.length = items.traps := by
      have bound := within.few
      omega
    rw [if_neg few, next_call_through trap place _ within through]

theorem within_miss {place : HostPlace} (within : place.Within items.traps)
    (few : place.polls.length < items.traps) :
    HostPlace.Within { place with misses := place.misses + 1 } items.traps :=
  ⟨within.few, within.inside, fun through => absurd through (Nat.ne_of_lt few)⟩

theorem poll_misses {world : Interleaving} {place : HostPlace} {call : HostCall}
    (made : world.nextCall trap items = some call) (within : place.Within items.traps)
    (asked : world.asked = place.asked trap.events) (polling : place.passed = 0)
    (unset : trap.events.deviceToHost ∉ world.signalled) :
    call = .poll trap.events.deviceToHost ∧
      world.asked ++ [(call, call.answer world.signalled)] =
        { place with misses := place.misses + 1 }.asked trap.events ∧
      HostPlace.Within { place with misses := place.misses + 1 } items.traps := by
  rw [next_call_place within asked, polling] at made
  by_cases few : place.polls.length < items.traps
  · rw [if_pos few] at made
    cases made
    refine ⟨rfl, ?_, within_miss within few⟩
    rw [HostPlace.asked_miss trap.events place polling, asked]
    simp [HostCall.answer, unset]
  · rw [if_neg few] at made
    cases made

theorem parked_call {place : HostPlace} {call : HostCall} (early : place.passed < 3)
    (found : (HostPlace.cycleCalls trap.events)[place.passed]? = some call) :
    call.answer (if place.passed < 2 then [trap.events.deviceToHost] else []) = true ∧
      call.effect (if place.passed < 2 then [trap.events.deviceToHost] else []) =
        if place.passed + 1 < 2 then [trap.events.deviceToHost] else [] := by
  obtain passed | passed | passed : place.passed = 0 ∨ place.passed = 1 ∨ place.passed = 2 := by omega
  all_goals
    rw [passed] at found ⊢
    cases found
    simp [HostCall.answer, HostCall.effect]

theorem linked_host {world : Interleaving} {call : HostCall} (linked : Linked trap items world)
    (made : world.nextCall trap items = some call)
    (distinct : trap.events.deviceToHost ≠ trap.events.hostToDevice) :
    Linked trap items
      { world with
        signalled := call.effect world.signalled
        asked := world.asked ++ [(call, call.answer world.signalled)] } := by
  cases linked with
  | running ahead behind place split within level polling =>
    obtain ⟨rfl, asked, within⟩ := poll_misses made within rfl polling (by simp)
    rw [asked]
    exact .running ahead behind _ split within level polling
  | announced ahead behind place split within level =>
    have few := within_next split level
    have inside := within.inside
    rw [next_call_place within rfl, if_pos few] at made
    by_cases early : place.passed < 3
    · obtain ⟨answered, signalled⟩ := parked_call early made
      have moved : Linked trap items _ := .announced ahead behind { place with passed := place.passed + 1 } split
        ⟨within.few, Nat.succ_lt_succ early, fun through => absurd through (Nat.ne_of_lt few)⟩ level
      rw [HostPlace.asked_pass trap.events place call made] at moved
      simpa only [answered, signalled] using moved
    · have passed : place.passed = 3 := by omega
      rw [passed] at made
      cases made
      have moved : Linked trap items _ := .released ahead behind ⟨place.polls ++ [place.misses], 0, 0⟩ split
        ⟨by rw [List.length_append]; exact few, Nat.zero_lt_succ 3, fun _ => ⟨rfl, rfl⟩⟩ (by simpa using level) rfl
      rw [HostPlace.asked_complete trap.events place passed] at moved
      simpa [passed, HostCall.answer, HostCall.effect] using moved
  | released ahead behind place split within level polling =>
    obtain ⟨rfl, asked, within⟩ := poll_misses made within rfl polling (by simpa using distinct)
    rw [asked]
    exact .released ahead behind _ split within level polling
  | resumed ahead behind place split within level polling =>
    obtain ⟨rfl, asked, within⟩ := poll_misses made within rfl polling (by simpa using distinct)
    rw [asked]
    exact .resumed ahead behind _ split within level polling

theorem linked_reached {world : Interleaving} (reached : Reached trap items world)
    (distinct : trap.events.deviceToHost ≠ trap.events.hostToDevice) : Linked trap items world := by
  induction reached with
  | start => exact linked_start
  | step world next _ taken ih =>
    cases taken with
    | device executed op rest signalled next asked shown done => exact linked_device ih rfl done distinct
    | host _ call made => exact linked_host ih made distinct

theorem count_latches {world : Interleaving} {place : HostPlace} (within : place.Within items.traps)
    (asked : world.asked = place.asked trap.events) :
    world.latches = place.polls.length + if 2 < place.passed then 1 else 0 := by
  rw [latches, asked, HostPlace.count_asked trap.events place .latch 2 within.inside rfl]

theorem polling_call {world : Interleaving} {place : HostPlace} {call : HostCall}
    (made : world.nextCall trap items = some call) (within : place.Within items.traps)
    (asked : world.asked = place.asked trap.events) (polling : place.passed = 0) :
    call = .poll trap.events.deviceToHost := by
  rw [next_call_place within asked, polling] at made
  by_cases few : place.polls.length < items.traps
  · rw [if_pos few] at made
    exact (Option.some.inj made).symm
  · rw [if_neg few] at made
    cases made

theorem linked_latched {world : Interleaving} (linked : Linked trap items world)
    (made : world.nextCall trap items = some .latch) :
    ∃ ahead behind, items = ahead ++ .trap :: behind ∧ Timeline.traps ahead = world.latches ∧
      world.executed = Timeline.ops trap.events ahead ++ [.set trap.events.deviceToHost] ∧
      world.remaining =
        .wait trap.events.hostToDevice :: .reset trap.events.hostToDevice :: Timeline.ops trap.events behind ∧
      trap.events.hostToDevice ∉ world.signalled := by
  cases linked with
  | running ahead behind place split within level polling => cases polling_call made within rfl polling
  | announced ahead behind place split within level =>
    have few := within_next split level
    have inside := within.inside
    rw [next_call_place within rfl, if_pos few] at made
    have passed : place.passed = 2 := by
      obtain passed | passed | passed | passed :
        place.passed = 0 ∨ place.passed = 1 ∨ place.passed = 2 ∨ place.passed = 3 := by omega
      all_goals
        rw [passed] at made
        first | exact passed | cases made
    refine ⟨ahead, behind, split, ?_, rfl, rfl, ?_⟩
    · rw [count_latches within rfl, passed, level]
      simp
    · simp [passed]
  | released ahead behind place split within level polling => cases polling_call made within rfl polling
  | resumed ahead behind place split within level polling => cases polling_call made within rfl polling

theorem linked_device_sets {world : Interleaving} (linked : Linked trap items world) {event : RawEvent}
    {rest : List DeviceOp} (before : world.remaining = .set event :: rest) : event ∉ world.signalled := by
  cases linked with
  | running ahead behind place split within level polling => exact List.not_mem_nil
  | announced ahead behind place split within level => cases before
  | released ahead behind place split within level polling => cases before
  | resumed ahead behind place split within level polling => cases before

theorem linked_device_resets {world : Interleaving} (linked : Linked trap items world) {event : RawEvent}
    {rest : List DeviceOp} (before : world.remaining = .reset event :: rest) : event ∈ world.signalled := by
  cases linked with
  | running ahead behind place split within level polling =>
    -- Outside a trap the next operation is work or the start of a trap.
    cases behind with
    | nil => cases before
    | cons item behind => cases item <;> simp at before
  | announced ahead behind place split within level => cases before
  | released ahead behind place split within level polling => cases before
  | resumed ahead behind place split within level polling =>
    cases before
    exact List.mem_singleton_self _

theorem polling_host_events {world : Interleaving} {place : HostPlace} (within : place.Within items.traps)
    (asked : world.asked = place.asked trap.events) (polling : place.passed = 0) (event : RawEvent) :
    (world.nextCall trap items = some (.signal event) → event ∉ world.signalled) ∧
      (world.nextCall trap items = some (.reset event) → event ∈ world.signalled) := by
  constructor
  · intro made
    cases polling_call made within asked polling
  · intro made
    cases polling_call made within asked polling

theorem parked_event_calls {place : HostPlace} (inside : place.passed < 4) (event : RawEvent) :
    ((HostPlace.cycleCalls trap.events)[place.passed]? = some (.signal event) →
      event ∉ (if place.passed < 2 then [trap.events.deviceToHost] else [])) ∧
    ((HostPlace.cycleCalls trap.events)[place.passed]? = some (.reset event) →
      event ∈ (if place.passed < 2 then [trap.events.deviceToHost] else [])) := by
  obtain passed | passed | passed | passed :
    place.passed = 0 ∨ place.passed = 1 ∨ place.passed = 2 ∨ place.passed = 3 := by omega
  all_goals simp [passed, HostPlace.cycleCalls, eq_comm]

theorem linked_host_events {world : Interleaving} (linked : Linked trap items world) (event : RawEvent) :
    (world.nextCall trap items = some (.signal event) → event ∉ world.signalled) ∧
      (world.nextCall trap items = some (.reset event) → event ∈ world.signalled) := by
  cases linked with
  | running ahead behind place split within level polling =>
    exact polling_host_events within rfl polling event
  | announced ahead behind place split within level =>
    rw [next_call_place within rfl, if_pos (within_next split level)]
    exact parked_event_calls within.inside event
  | released ahead behind place split within level polling =>
    exact polling_host_events within rfl polling event
  | resumed ahead behind place split within level polling =>
    exact polling_host_events within rfl polling event

theorem linked_seen {world : Interleaving} (linked : Linked trap items world) :
    world.asked.count (.poll trap.events.deviceToHost, true) ≤
        world.executed.count (.set trap.events.deviceToHost) ∧
      world.executed.count (.set trap.events.deviceToHost) ≤
        world.asked.count (.poll trap.events.deviceToHost, true) + 1 := by
  cases linked with
  | running ahead behind place split within level polling =>
    rw [HostPlace.count_asked trap.events place _ 0 within.inside rfl, Timeline.count_set_ops, level, polling]
    simp
  | announced ahead behind place split within level =>
    rw [HostPlace.count_asked trap.events place _ 0 within.inside rfl, List.count_append, Timeline.count_set_ops,
      level]
    by_cases seen : 0 < place.passed <;> simp [seen]
  | released ahead behind place split within level polling =>
    rw [HostPlace.count_asked trap.events place _ 0 within.inside rfl, List.count_append, Timeline.count_set_ops,
      level, polling]
    simp
  | resumed ahead behind place split within level polling =>
    rw [HostPlace.count_asked trap.events place _ 0 within.inside rfl, List.count_append, Timeline.count_set_ops,
      level, polling]
    simp

theorem linked_resumed {world : Interleaving} (linked : Linked trap items world) :
    world.executed.count (.wait trap.events.hostToDevice) ≤
        world.asked.count (.signal trap.events.hostToDevice, true) ∧
      world.asked.count (.signal trap.events.hostToDevice, true) ≤
        world.executed.count (.wait trap.events.hostToDevice) + 1 := by
  cases linked with
  | running ahead behind place split within level polling =>
    rw [HostPlace.count_asked trap.events place _ 3 within.inside rfl, Timeline.count_wait_ops, level, polling]
    simp
  | announced ahead behind place split within level =>
    have unsignalled : ¬ 3 < place.passed := Nat.not_lt.mpr (Nat.le_of_lt_succ within.inside)
    rw [HostPlace.count_asked trap.events place _ 3 within.inside rfl, List.count_append, Timeline.count_wait_ops,
      level, if_neg unsignalled]
    simp
  | released ahead behind place split within level polling =>
    rw [HostPlace.count_asked trap.events place _ 3 within.inside rfl, List.count_append, Timeline.count_wait_ops,
      level, polling]
    simp
  | resumed ahead behind place split within level polling =>
    rw [HostPlace.count_asked trap.events place _ 3 within.inside rfl, List.count_append, Timeline.count_wait_ops,
      level, polling]
    simp

theorem linked_live {world : Interleaving} (linked : Linked trap items world)
    (unfinished : world.remaining ≠ [] ∨ world.nextCall trap items ≠ none) :
    (∃ op rest, world.remaining = op :: rest ∧ (op.step? world.signalled).isSome) ∨
      ∃ call, world.nextCall trap items = some call ∧ call.answer world.signalled = true := by
  cases linked with
  | running ahead behind place split within level polling =>
    cases behind with
    | nil =>
      -- The device is through, and with it the host: every trap has had its cycle.
      have through : ¬ place.polls.length < items.traps := by simp [split, level]
      rw [next_call_place within rfl, if_neg through] at unfinished
      simp at unfinished
    | cons item behind =>
      left
      cases item with
      | work recorded => exact ⟨_, _, Timeline.ops_work trap.events recorded behind, rfl⟩
      | trap => exact ⟨_, _, Timeline.ops_trap trap.events behind, rfl⟩
  | announced ahead behind place split within level =>
    right
    have inside := within.inside
    rw [next_call_place within rfl, if_pos (within_next split level)]
    by_cases early : place.passed < 3
    · obtain ⟨call, found⟩ : ∃ call, (HostPlace.cycleCalls trap.events)[place.passed]? = some call :=
        ⟨_, List.getElem?_eq_getElem within.inside⟩
      exact ⟨call, found, (parked_call early found).1⟩
    · have passed : place.passed = 3 := by omega
      rw [passed]
      exact ⟨_, rfl, rfl⟩
  | released ahead behind place split within level polling =>
    exact Or.inl ⟨_, _, rfl, by simp [DeviceOp.step?]⟩
  | resumed ahead behind place split within level polling => exact Or.inl ⟨_, _, rfl, rfl⟩

theorem linked_finished {world : Interleaving} (linked : Linked trap items world)
    (worked : world.remaining = []) (asked : world.nextCall trap items = none) :
    world.signalled = [] ∧ world.latches = items.traps ∧ world.executed = Timeline.ops trap.events items := by
  cases linked with
  | running ahead behind place split within level polling =>
    cases behind with
    | nil =>
      rw [List.append_nil] at split
      subst split
      refine ⟨rfl, ?_, rfl⟩
      rw [count_latches within rfl, level, polling]
      simp
    | cons item behind => cases item <;> simp at worked
  | announced ahead behind place split within level => cases worked
  | released ahead behind place split within level polling => cases worked
  | resumed ahead behind place split within level polling => cases worked

/-- Host and device meet in every trap, in whatever order they take their steps: each sample is
taken while the device is parked in its trap, no signal is lost or used twice, one of the two can
always go on, and in the end no signal is left. -/
theorem traps_meet_their_cycles (trap : Trap) (items : Timeline) (world : Interleaving)
    (distinct : trap.events.deviceToHost ≠ trap.events.hostToDevice) (reached : Reached trap items world) :
    Safe trap items world := by
  have linked := linked_reached reached distinct
  exact
    { latched := linked_latched linked
      deviceSets := fun _ _ => linked_device_sets linked
      deviceResets := fun _ _ => linked_device_resets linked
      hostSets := fun event => (linked_host_events linked event).1
      hostResets := fun event => (linked_host_events linked event).2
      seen := linked_seen linked
      resumed := linked_resumed linked
      live := linked_live linked
      finished := linked_finished linked }

theorem traps_meet_at_latch :
    (1 : RawEvent) ≠ 2 ∧
      Reached ⟨⟨1, 2⟩, 5, 0⟩ [.work .dispatchIndirect, .trap, .work (.draw 3 1)]
        ⟨[.work .dispatchIndirect, .set 1], [.wait 2, .reset 2, .work (.draw 3 1)], [],
          [(.poll 1, false), (.poll 1, true), (.reset 1, true)]⟩ ∧
      Safe ⟨⟨1, 2⟩, 5, 0⟩ [.work .dispatchIndirect, .trap, .work (.draw 3 1)]
        ⟨[.work .dispatchIndirect, .set 1], [.wait 2, .reset 2, .work (.draw 3 1)], [],
          [(.poll 1, false), (.poll 1, true), (.reset 1, true)]⟩ := by
  have reached : Reached ⟨⟨1, 2⟩, 5, 0⟩ [.work .dispatchIndirect, .trap, .work (.draw 3 1)]
      ⟨[.work .dispatchIndirect, .set 1], [.wait 2, .reset 2, .work (.draw 3 1)], [],
        [(.poll 1, false), (.poll 1, true), (.reset 1, true)]⟩ := by
    have polled : Reached ⟨⟨1, 2⟩, 5, 0⟩ [.work .dispatchIndirect, .trap, .work (.draw 3 1)]
        ⟨[], [.work .dispatchIndirect, .set 1, .wait 2, .reset 2, .work (.draw 3 1)], [], [(.poll 1, false)]⟩ :=
      .step _ _ .start (.host _ (.poll 1) rfl)
    have parked : Reached ⟨⟨1, 2⟩, 5, 0⟩ [.work .dispatchIndirect, .trap, .work (.draw 3 1)]
        ⟨[.work .dispatchIndirect, .set 1], [.wait 2, .reset 2, .work (.draw 3 1)], [1], [(.poll 1, false)]⟩ :=
      .step _ _ (.step _ _ polled (.device _ _ _ _ _ _ _ rfl)) (.device _ _ _ _ _ _ _ rfl)
    have seen : Reached ⟨⟨1, 2⟩, 5, 0⟩ [.work .dispatchIndirect, .trap, .work (.draw 3 1)]
        ⟨[.work .dispatchIndirect, .set 1], [.wait 2, .reset 2, .work (.draw 3 1)], [1],
          [(.poll 1, false), (.poll 1, true)]⟩ :=
      .step _ _ parked (.host _ (.poll 1) rfl)
    exact .step _ _ seen (.host _ (.reset 1) rfl)
  exact ⟨by decide, reached, traps_meet_their_cycles _ _ _ (by decide) reached⟩

end Interleaving

end GpuProfiler
