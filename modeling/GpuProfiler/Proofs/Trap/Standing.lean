import GpuProfiler.Proofs.Timeline

set_option autoImplicit false

namespace GpuProfiler

namespace Timeline

variable (events : TrapEvents)

def steps : Timeline → List DeviceStep
  | [] => []
  | .work recorded :: rest => .work recorded :: steps rest
  | .trap :: rest =>
    .set events.deviceToHost :: .resume events.hostToDevice :: .reset events.hostToDevice :: steps rest

def lead : Timeline → List DeviceStep
  | [] => []
  | .work recorded :: rest => .work recorded :: lead rest
  | .trap :: _ => [.set events.deviceToHost]

def behind : Timeline → Timeline
  | [] => []
  | .work _ :: rest => behind rest
  | .trap :: rest => rest

def pending : Timeline → List DeviceOp
  | [] => []
  | .work _ :: rest => pending rest
  | .trap :: rest => .wait events.hostToDevice :: .reset events.hostToDevice :: ops events rest

def skip : Nat → Timeline → Timeline
  | 0, items => items
  | count + 1, items => skip count items.behind

def through : Nat → Timeline → List DeviceStep
  | 0, items => lead events items
  | count + 1, items =>
    lead events items ++ .resume events.hostToDevice :: .reset events.hostToDevice :: through count items.behind

theorem count_steps (items : Timeline) :
    (steps events items).count (.set events.deviceToHost) = items.traps ∧
      (steps events items).count (.resume events.hostToDevice) = items.traps ∧
      (steps events items).count (.reset events.hostToDevice) = items.traps := by
  induction items with
  | nil => exact ⟨rfl, rfl, rfl⟩
  | cons item rest ih =>
    obtain ⟨sets, resumes, resets⟩ := ih
    cases item with
    | work recorded => simp [steps, sets, resumes, resets]
    | trap => simp [steps, sets, resumes, resets]

theorem pending_untrapped {items : Timeline} (none : items.traps = 0) :
    pending events items = [] ∧ lead events items = steps events items := by
  induction items with
  | nil => exact ⟨rfl, rfl⟩
  | cons item rest ih =>
    cases item with
    | work recorded =>
      rw [traps_work] at none
      exact ⟨(ih none).1, by rw [lead, steps, (ih none).2]⟩
    | trap => simp at none

theorem pending_trapped {items : Timeline} (some : 0 < items.traps) :
    pending events items = .wait events.hostToDevice :: .reset events.hostToDevice :: ops events items.behind ∧
      steps events items =
        lead events items ++ .resume events.hostToDevice :: .reset events.hostToDevice :: steps events items.behind := by
  induction items with
  | nil => simp at some
  | cons item rest ih =>
    cases item with
    | work recorded =>
      rw [traps_work] at some
      obtain ⟨waits, split⟩ := ih some
      exact ⟨waits, by rw [steps, lead, behind, split, List.cons_append]⟩
    | trap => exact ⟨rfl, rfl⟩

theorem traps_behind (items : Timeline) : items.behind.traps = items.traps - 1 := by
  induction items with
  | nil => rfl
  | cons item rest ih =>
    cases item with
    | work recorded => rw [behind, traps_work, ih]
    | trap => rw [behind, traps_trap, Nat.add_sub_cancel]

theorem through_all (items : Timeline) : through events items.traps items = steps events items := by
  induction count : items.traps generalizing items with
  | zero => exact (pending_untrapped events count).2
  | succ rest ih =>
    have some : 0 < items.traps := by omega
    have fewer := items.traps_behind
    rw [through, (pending_trapped events some).2, ih items.behind (by omega)]

theorem behind_ahead {ahead : Timeline} (some : 0 < ahead.traps) (more : Timeline) :
    lead events (ahead ++ more) = lead events ahead ∧ behind (ahead ++ more) = behind ahead ++ more := by
  induction ahead with
  | nil => simp at some
  | cons item rest ih =>
    cases item with
    | work recorded =>
      rw [traps_work] at some
      exact ⟨by rw [List.cons_append, lead, lead, (ih some).1], (ih some).2⟩
    | trap => exact ⟨rfl, rfl⟩

theorem stands_next {ahead : Timeline} (none : ahead.traps = 0) (rest : Timeline) :
    lead events (ahead ++ .trap :: rest) = steps events ahead ++ [.set events.deviceToHost] ∧
      pending events (ahead ++ .trap :: rest) =
        .wait events.hostToDevice :: .reset events.hostToDevice :: ops events rest := by
  induction ahead with
  | nil => exact ⟨rfl, rfl⟩
  | cons item ahead ih =>
    cases item with
    | work recorded =>
      rw [traps_work] at none
      exact ⟨by rw [List.cons_append, lead, (ih none).1, steps, List.cons_append], (ih none).2⟩
    | trap => simp at none

-- A device that was sent on once for each trap ahead has done all that is ahead, and stands at the next.
theorem stands_ahead (ahead rest : Timeline) :
    through events ahead.traps (ahead ++ .trap :: rest) = steps events ahead ++ [.set events.deviceToHost] ∧
      pending events (skip ahead.traps (ahead ++ .trap :: rest)) =
        .wait events.hostToDevice :: .reset events.hostToDevice :: ops events rest := by
  induction count : ahead.traps generalizing ahead with
  | zero => exact stands_next events count rest
  | succ fewer ih =>
    have some : 0 < ahead.traps := by omega
    have less := ahead.traps_behind
    obtain ⟨leads, back⟩ := behind_ahead events some (.trap :: rest)
    obtain ⟨went, waits⟩ := ih ahead.behind (by omega)
    rw [through, skip, leads, back, went, (pending_trapped events some).2]
    exact ⟨by simp, waits⟩

theorem count_lead (items : Timeline) : (lead events items).count (.resume events.hostToDevice) = 0 := by
  induction items with
  | nil => rfl
  | cons item rest ih =>
    cases item with
    | work recorded => simp [lead, ih]
    | trap => simp [lead]

theorem count_through {count : Nat} {items : Timeline} (enough : count ≤ items.traps) :
    (through events count items).count (.resume events.hostToDevice) = count := by
  induction count generalizing items with
  | zero => exact count_lead events items
  | succ count ih =>
    have fewer := items.traps_behind
    have later : (through events count items.behind).count (.resume events.hostToDevice) = count := ih (by omega)
    rw [through, List.count_append, count_lead]
    simp [later]

theorem traps_skip (count : Nat) (items : Timeline) : (items.skip count).traps = items.traps - count := by
  induction count generalizing items with
  | zero => rfl
  | succ count ih => rw [skip, ih, traps_behind, Nat.sub_sub, Nat.add_comm]

end Timeline

namespace Driver

-- The device stands where it has to wait for its host, or is through.
structure Standing (driver : Driver) (events : TrapEvents) (items : Timeline) : Prop where
  timeline : driver.timeline = items.pending events
  unsignalled : events.hostToDevice ∉ driver.signalled
  announced : 0 < items.traps → events.deviceToHost ∈ driver.signalled

structure Works (driver next : Driver) : Prop where
  name : next.name = driver.name
  faults : next.faults = driver.faults
  manual : next.autoSet = driver.autoSet
  buffers : next.buffers = driver.buffers

theorem works_trans {driver middle next : Driver} (first : Works driver middle) (second : Works middle next) :
    Works driver next :=
  ⟨second.name.trans first.name, second.faults.trans first.faults, second.manual.trans first.manual,
    second.buffers.trans first.buffers⟩

variable {driver : Driver} {events : TrapEvents}

theorem ends_work (distinct : events.deviceToHost ≠ events.hostToDevice)
    (unsignalled : events.hostToDevice ∉ driver.signalled) (items : Timeline) :
    Act.Ends (work (items.ops events)) driver
      (fun shown _ next => shown = (items.lead events).map (.progress driver.name) ∧
        next.Standing events items ∧ Works driver next)
      (fun _ _ => False) := by
  induction items generalizing driver with
  | nil => exact ⟨rfl, ⟨rfl, unsignalled, fun some => absurd some (Nat.lt_irrefl 0)⟩, rfl, rfl, rfl, rfl⟩
  | cons item rest ih =>
    cases item with
    | work recorded =>
      simp only [Timeline.ops_work, work, Act.ends_bind, Act.ends_get, DeviceOp.step?, Act.ends_set, Act.ends_emit]
      refine Act.ends_mono (ih unsignalled) ?_ (fun _ _ never => never)
      rintro shown _ next ⟨rfl, standing, works⟩
      refine ⟨rfl, ⟨standing.timeline, standing.unsignalled, ?_⟩, works⟩
      rw [Timeline.traps_work]
      exact standing.announced
    | trap =>
      have waits : events.hostToDevice ∉ events.deviceToHost :: driver.signalled.filter (· != events.deviceToHost) := by
        simp [distinct.symm, unsignalled]
      have parked : DeviceOp.step? (events.deviceToHost :: driver.signalled.filter (· != events.deviceToHost))
          (.wait events.hostToDevice) = none := by
        simpa [DeviceOp.step?] using waits
      simp only [Timeline.ops_trap, work, Act.ends_bind, Act.ends_get, DeviceOp.step?, Act.ends_set, Act.ends_emit]
      simp only [DeviceOp.step?] at parked
      simp only [parked, Act.ends_set]
      exact ⟨rfl, ⟨rfl, waits, fun _ => List.mem_cons_self⟩, rfl, rfl, rfl, rfl⟩

theorem ends_queue_submit (distinct : events.deviceToHost ≠ events.hostToDevice)
    (unsignalled : events.hostToDevice ∉ driver.signalled) (drained : driver.timeline = []) (queue : RawQueue)
    {batches : List (List RawBuffer)} {items : Timeline}
    (ops : batches.flatten.flatMap driver.flatten = items.ops events) :
    Act.Ends (queueSubmit queue batches) driver
      (fun shown answer next => Works driver next ∧
        match answer with
        | .ok () => next.Standing events items ∧
            shown = callEvent (.queueSubmit queue batches) driver :: (items.lead events).map (.progress driver.name)
        | .error _ => next.timeline = [] ∧ next.signalled = driver.signalled ∧
            shown = [callEvent (.queueSubmit queue batches) driver])
      (fun _ _ => False) := by
  simp only [queueSubmit, ends_try_call]
  split
  · exact ⟨⟨rfl, rfl, rfl, rfl⟩, drained, by simp [counted]⟩
  · simp only [advance, Act.ends_bind, Act.ends_modify, Act.ends_get]
    have submitted : (driver.counted .queueSubmit).timeline ++
        batches.flatten.flatMap (driver.counted .queueSubmit).flatten = items.ops events := by
      have same : (driver.counted .queueSubmit).flatten = driver.flatten := flatten_congr fun _ => rfl
      rw [same, ops, show (driver.counted .queueSubmit).timeline = [] from drained, List.nil_append]
    simp only [DriverCall.method, submitted]
    have kept : events.hostToDevice ∉ { driver.counted .queueSubmit with timeline := items.ops events }.signalled :=
      unsignalled
    refine Act.ends_mono (ends_work distinct kept items) ?_ (fun _ _ never => never)
    rintro shown _ next ⟨rfl, standing, works⟩
    exact ⟨⟨works.name, works.faults, works.manual, works.buffers⟩, standing, rfl⟩

theorem ends_release (distinct : events.deviceToHost ≠ events.hostToDevice)
    (reliable : ∀ fault ∈ driver.faults, fault.method ≠ .setEvent) {items : Timeline}
    (waiting : driver.timeline = .wait events.hostToDevice :: .reset events.hostToDevice :: items.ops events) :
    Act.Ends (setEvent events.hostToDevice) driver
      (fun shown answer next => answer = .ok () ∧ next.Standing events items ∧ Works driver next ∧
        shown = .call driver.name (.setEvent events.hostToDevice) false ::
          (.resume events.hostToDevice :: .reset events.hostToDevice :: items.lead events).map (.progress driver.name))
      (fun _ _ => False) := by
  have sound : driver.fault? .setEvent = none := by
    cases failed : driver.fault? .setEvent with
    | none => rfl
    | some error =>
      obtain ⟨fault, member, same⟩ := fault_scripted failed
      exact absurd same (reliable fault member)
  have resumes : DeviceOp.step? (events.hostToDevice :: driver.signalled.filter (· != events.hostToDevice))
      (.wait events.hostToDevice) =
      some (.resume events.hostToDevice, events.hostToDevice :: driver.signalled.filter (· != events.hostToDevice)) := by
    simp [DeviceOp.step?]
  simp only [setEvent, ends_try_call, DriverCall.method, sound, advance, Act.ends_bind, Act.ends_modify,
    Act.ends_get, signal, unsignal, counted, waiting, work, resumes, Act.ends_set, Act.ends_emit]
  simp only [DeviceOp.step?, Act.ends_bind, Act.ends_set, Act.ends_emit]
  refine Act.ends_mono (ends_work distinct (by simp) items) ?_ (fun _ _ never => never)
  rintro shown _ next ⟨rfl, standing, works⟩
  refine ⟨by simp, standing, ⟨works.name, works.faults, works.manual, works.buffers⟩, ?_⟩
  simp [callEvent, DriverCall.method, sound]

end Driver

end GpuProfiler
