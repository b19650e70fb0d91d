import GpuProfiler.Proofs.Device.Frames
import GpuProfiler.Proofs.Trap.Standing

set_option autoImplicit false

namespace GpuProfiler

theorem Driver.status_fault_used {driver : Driver} {error : Error} (failed : driver.fault? .eventStatus = some error) :
    (driver.counted .eventStatus).statusFaultsLeft < driver.statusFaultsLeft := by
  unfold Driver.fault? at failed
  rw [Option.map_eq_some_iff] at failed
  obtain ⟨fault, found, _⟩ := failed
  have due := List.find?_some found
  rw [Bool.and_eq_true, decide_eq_true_eq, beq_iff_eq] at due
  obtain ⟨ahead, behind, split⟩ := List.append_of_mem (List.mem_of_find?_eq_some found)
  have fewer (faults : List Fault) :
      faults.countP (fun fault => decide (fault.method = .eventStatus) &&
        decide (driver.calls.count .eventStatus + 1 ≤ fault.number)) ≤
      faults.countP (fun fault => decide (fault.method = .eventStatus) &&
        decide (driver.calls.count .eventStatus ≤ fault.number)) := by
    apply List.countP_mono_left
    intro fault _ later
    simp only [Bool.and_eq_true, decide_eq_true_eq] at later ⊢
    exact ⟨later.1, Nat.le_of_succ_le later.2⟩
  have front := fewer ahead
  have back := fewer behind
  simp only [Driver.statusFaultsLeft, Driver.counted, List.count_cons_self, split, List.countP_append,
    List.countP_cons, due.1, due.2, decide_true, Bool.true_and, Nat.le_refl, if_true, Nat.not_succ_le_self,
    decide_false, Bool.false_eq_true, if_false]
  omega

theorem Driver.ends_reset_event (event : RawEvent) (driver : Driver) :
    Act.Ends (resetEvent event) driver
      (fun shown _ next => (∃ failed, shown = [.call driver.name (.resetEvent event) failed]) ∧ Works driver next ∧
        next.timeline = driver.timeline ∧ ∀ other, other ∉ driver.signalled → other ∉ next.signalled)
      (fun _ _ => False) := by
  simp only [resetEvent, Driver.ends_try_call]
  split
  · exact ⟨⟨_, rfl⟩, ⟨rfl, rfl, rfl, rfl⟩, rfl, fun _ absent => absent⟩
  · simp only [Act.ends_modify]
    refine ⟨⟨_, rfl⟩, ⟨rfl, rfl, rfl, rfl⟩, rfl, ?_⟩
    intro other absent member
    exact absent (List.mem_filter.mp member).1

namespace Sampler

-- The device stands where these items are still before it, and the host can go on from there.
structure Standing (s : Sampler) (items : Timeline) : Prop where
  device : s.driver.Standing s.trap.events items
  distinct : s.trap.events.deviceToHost ≠ s.trap.events.hostToDevice
  reliable : ∀ fault ∈ s.driver.faults, fault.method ≠ .setEvent

theorem ends_await {s : Sampler} {event : RawEvent} (set : event ∈ s.driver.signalled) {fuel : Nat}
    (enough : s.driver.statusFaultsLeft < fuel) :
    Act.Ends (Trap.await event fuel) s
      (fun shown _ next => Quiet shown ∧
        ∃ calls, next = { s with driver := { s.driver with calls := calls, polls := 0 } })
      (fun _ _ => False) := by
  induction fuel generalizing s with
  | zero => exact absurd enough (Nat.not_lt_zero _)
  | succ fuel ih =>
    have found : s.driver.isSignalled event = true := by simpa [Driver.isSignalled] using set
    simp only [Trap.await, EventHost.eventStatus, Act.ends_bind, Act.ends_on, Driver.eventStatus, Driver.ends_try_call]
    cases failed : (driverPart.get s).fault? .eventStatus with
    | some error =>
      -- Each look that fails uses up one of the faults that are left.
      have used : (s.driver.counted .eventStatus).statusFaultsLeft < fuel :=
        Nat.lt_of_lt_of_le (Driver.status_fault_used failed) (Nat.le_of_lt_succ enough)
      simp only [DriverCall.method, failed, Act.ends_note]
      refine Act.ends_mono (ih (s := { s with driver := s.driver.counted .eventStatus }) set used) ?_
        (fun _ _ never => never)
      rintro shown _ next ⟨quiet, calls, rfl⟩
      exact ⟨by simp [quiet, Driver.callEvent, Event.stirs], calls, rfl⟩
    | none =>
      have here : ((driverPart.get s).counted .eventStatus).isSignalled event = true := found
      simp only [DriverCall.method, failed, Act.ends_bind, Act.ends_get, here, Bool.or_true, if_true, Act.ends_set,
        Act.ends_pure]
      exact ⟨by simp [Driver.callEvent, Event.stirs], _, rfl⟩

structure Acquired (s : Sampler) (shown : List Event) : Prop where
  asked : ∃ looks failed notes, shown =
    looks ++ .call s.driver.name (.resetEvent s.trap.events.deviceToHost) failed :: notes ∧ Quiet looks ∧ Quiet notes

theorem ends_acquire {s : Sampler} {items : Timeline} (standing : s.Standing items) (some : 0 < items.traps) :
    Act.Ends s.trap.acquire s
      (fun shown _ next => Acquired s shown ∧ Driver.Works s.driver next.driver ∧
        next.driver.timeline = s.driver.timeline ∧ s.trap.events.hostToDevice ∉ next.driver.signalled ∧
        next = { s with driver := next.driver })
      (fun _ _ => False) := by
  simp only [Trap.acquire, Act.ends_bind, Act.ends_get]
  refine Act.ends_mono (ends_await (standing.device.announced some) ?_) ?_ (fun _ _ never => never)
  · exact Nat.lt_succ_of_le (Nat.le_add_right _ _)
  · rintro shown _ _ ⟨quiet, calls, rfl⟩
    simp only [EventHost.resetEvent, Act.ends_on, Act.ends_note_failure]
    refine Act.ends_mono (Driver.ends_reset_event _ _) ?_ (fun _ _ never => never)
    rintro later answer next ⟨⟨failed, rfl⟩, works, timeline, kept⟩
    refine ⟨⟨shown, failed, failureNotes .trapResetFailed answer, ?_, quiet, ?_⟩, ?_, timeline,
      kept _ standing.device.unsignalled, rfl⟩
    · simp [driverPart]
    · exact quiet_notes (failure_notes_notes _ answer)
    · exact ⟨works.name, works.faults, works.manual, works.buffers⟩

-- What a cycle shows, taken apart: how the host came to sample, the sample, how the device was sent
-- on, and the reads behind it.
structure CycleParts where
  asked : List Event
  latch : List Event
  resumed : List Event
  reads : List Event
  latched : Bool
  counters : List Reading
deriving DecidableEq, Repr

def CycleParts.shown (parts : CycleParts) : List Event :=
  parts.asked ++ (parts.latch ++ (parts.resumed ++ parts.reads))

structure Cycled (s : Sampler) (items : Timeline) (parts : CycleParts) (next : Sampler) : Prop where
  acquired : Acquired s parts.asked
  parked : ∃ stopped, s.trap.acquire s = ⟨parts.asked, .ok ((), stopped)⟩ ∧
    stopped.driver.timeline = items.pending s.trap.events ∧ s.trap.events.hostToDevice ∉ stopped.driver.signalled ∧
    stopped = { s with driver := stopped.driver }
  counted : ∃ middle, CounterSession.sampleNow s.session = ⟨parts.latch, .ok (parts.latched, middle)⟩ ∧
    if parts.latched then CounterSession.readAll middle = ⟨parts.reads, .ok (parts.counters, next.session)⟩
    else parts.reads = [] ∧ parts.counters = [] ∧ next.session = middle
  released : ∃ noticed, parts.resumed = .call s.driver.name (.setEvent s.trap.events.hostToDevice) false ::
    ((.resume s.trap.events.hostToDevice :: .reset s.trap.events.hostToDevice ::
      items.behind.lead s.trap.events).map (.progress s.driver.name) ++ [.note noticed])
  standing : next.Standing items.behind
  trap : next.trap = { s.trap with cycles := s.trap.cycles + 1 }
  works : Driver.Works s.driver next.driver

theorem ends_cycle {s : Sampler} {items : Timeline} (standing : s.Standing items) (some : 0 < items.traps) :
    Act.Ends cycle s
      (fun shown counters next => ∃ parts, shown = CycleParts.shown parts ∧ counters = parts.counters ∧
        Cycled s items parts next)
      (fun _ _ => False) := by
  have waits := (Timeline.pending_trapped s.trap.events some).1
  simp only [cycle, Trap.cycle, Act.ends_bind, Act.ends_get]
  refine Act.ends_mono (Act.ends_and (Act.ends_self _ _) (ends_acquire standing some)) ?_ (fun _ _ never => never.2)
  rintro asked _ ⟨parked, trap, session, sender, count⟩ ⟨ran, acquired, works, timeline, unsignalled, frame⟩
  obtain ⟨rfl, rfl, rfl, rfl⟩ : trap = s.trap ∧ session = s.session ∧ sender = s.sender ∧ count = s.sampled := by
    simpa using frame
  rw [Act.ends_on]
  refine Act.ends_mono (Act.ends_and (Act.ends_self _ _) (CounterSession.ends_sample_now _)) ?_
    (fun _ _ never => never.2)
  rintro latch latched middle ⟨sampled, _⟩
  have waiting : parked.timeline = .wait s.trap.events.hostToDevice :: .reset s.trap.events.hostToDevice ::
      items.behind.ops s.trap.events := by
    rw [← waits, ← standing.device.timeline]
    exact timeline
  have reliable : ∀ fault ∈ parked.faults, fault.method ≠ .setEvent := by
    rw [works.faults]
    exact standing.reliable
  simp only [Trap.release, EventHost.setEvent, Act.ends_bind, Act.ends_on]
  refine Act.ends_mono (Driver.ends_release standing.distinct reliable waiting) ?_ (fun _ _ never => never)
  rintro resumed _ driver ⟨rfl, stands, goes, rfl⟩
  -- The driver's name is the one thing of it that shows.
  rw [works.name]
  simp only [failure_notes_ok, Act.ends_note_failure, Act.ends_note, Act.ends_pure, Act.ends_modify]
  have cycled (reads : List Event) (counters : List Reading) (last : CounterSession Backend)
      (read : if latched then CounterSession.readAll middle = ⟨reads, .ok (counters, last)⟩
        else reads = [] ∧ counters = [] ∧ last = middle) :
      Cycled s items
        ⟨asked, latch, .call s.driver.name (.setEvent s.trap.events.hostToDevice) false ::
          ((.resume s.trap.events.hostToDevice :: .reset s.trap.events.hostToDevice ::
            items.behind.lead s.trap.events).map (.progress s.driver.name) ++
              [.note (.cycleComplete (s.trap.cycles + 1))]), reads, latched, counters⟩
        ⟨driver, { s.trap with cycles := s.trap.cycles + 1 }, last, s.sender, s.sampled + 1⟩ := by
    refine ⟨acquired, ⟨_, ran, timeline.trans standing.device.timeline, unsignalled, rfl⟩, ⟨middle, sampled, read⟩,
      ⟨_, rfl⟩, ⟨stands, standing.distinct, ?_⟩, rfl, Driver.works_trans works goes⟩
    rw [goes.faults]
    exact reliable
  cases latched with
  | true =>
    simp only [if_true, Act.ends_on]
    refine Act.ends_mono (Act.ends_and (Act.ends_self _ _) (CounterSession.ends_read_all _)) ?_ (fun _ _ never => never.2)
    rintro reads counters last ⟨read, _⟩
    exact ⟨_, by simp [CycleParts.shown], rfl, cycled reads counters last read⟩
  | false =>
    simp only [Bool.false_eq_true, if_false, Act.ends_pure]
    exact ⟨_, by simp [CycleParts.shown], rfl, cycled [] [] middle ⟨rfl, rfl, rfl⟩⟩

end Sampler

end GpuProfiler
