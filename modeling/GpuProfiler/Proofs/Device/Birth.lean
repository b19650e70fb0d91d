import GpuProfiler.Proofs.Device.Moves

set_option autoImplicit false

namespace GpuProfiler

structure Trap.Unused (trap : Trap) : Prop where
  distinct : trap.events.deviceToHost ≠ trap.events.hostToDevice
  cycles : trap.cycles = 0

namespace Driver

structure Equips (driver next : Driver) : Prop where
  name : next.name = driver.name
  faults : next.faults = driver.faults
  manual : next.autoSet = driver.autoSet
  timeline : next.timeline = driver.timeline
  buffers : next.buffers = driver.buffers
  signalled : ∀ event ∈ next.signalled, event ∈ driver.signalled

theorem ends_create_event (driver : Driver) :
    Act.Ends createEvent driver
      (fun shown answer next => Quiet shown ∧ Equips driver next ∧
        match answer with
        | .ok event => event = driver.handles + 1 ∧ next.handles = driver.handles + 1
        | .error _ => True)
      (fun _ _ => False) := by
  simp only [createEvent, ends_try_call]
  split
  · exact ⟨by simp [callEvent, Event.stirs], ⟨rfl, rfl, rfl, rfl, rfl, fun _ member => member⟩, trivial⟩
  · simp only [nextHandle, Act.ends_bind, Act.ends_get, Act.ends_set, Act.ends_modify, Act.ends_pure]
    exact ⟨by simp [callEvent, Event.stirs], ⟨rfl, rfl, rfl, rfl, rfl, fun _ member => (List.mem_filter.mp member).1⟩,
      rfl, rfl⟩

theorem ends_destroy_event (event : RawEvent) (driver : Driver) :
    Act.Ends (destroyEvent event) driver (fun shown _ next => Quiet shown ∧ Equips driver next) (fun _ _ => False) := by
  simp only [destroyEvent, ends_do_call, Act.ends_modify]
  exact ⟨by simp [callEvent, Event.stirs], rfl, rfl, rfl, rfl, rfl, fun _ member => (List.mem_filter.mp member).1⟩

theorem equips_trans {driver middle next : Driver} (first : Equips driver middle) (second : Equips middle next) :
    Equips driver next :=
  ⟨second.name.trans first.name, second.faults.trans first.faults, second.manual.trans first.manual,
    second.timeline.trans first.timeline, second.buffers.trans first.buffers,
    fun event member => first.signalled event (second.signalled event member)⟩

theorem ends_create_trap (config : Config) (driver : Driver) :
    Act.Ends (ProfiledDevice.createTrap config) driver
      (fun shown answer next => Quiet shown ∧ Equips driver next ∧
        ∀ trap, answer = some trap → trap.Unused)
      (fun _ _ => False) := by
  have created : Act.Ends (Trap.create config.trap : Act Driver (Except Error Trap)) driver
      (fun shown answer next => Quiet shown ∧ Equips driver next ∧
        ∀ trap, answer = .ok trap → trap.Unused) (fun _ _ => False) := by
    simp only [Trap.create, Act.ends_bind]
    refine Act.ends_mono (ends_create_event driver) ?_ (fun _ _ never => never)
    rintro shown answer first ⟨quiet, equips, outcome⟩
    cases answer with
    | error error => exact ⟨by simpa using quiet, equips, fun _ same => by cases same⟩
    | ok deviceToHost =>
      obtain ⟨here, handles⟩ := outcome
      simp only [Act.ends_bind]
      refine Act.ends_mono (ends_create_event first) ?_ (fun _ _ never => never)
      rintro later answer second ⟨still, also, outcome⟩
      cases answer with
      | error error =>
        simp only [Act.ends_bind, Act.ends_pure]
        refine Act.ends_mono (ends_destroy_event deviceToHost second) ?_ (fun _ _ never => never)
        rintro last _ third ⟨silent, too⟩
        exact ⟨by simp [quiet, still, silent], equips_trans (equips_trans equips also) too, fun _ same => by cases same⟩
      | ok hostToDevice =>
        obtain ⟨there, _⟩ := outcome
        refine ⟨by simp [quiet, still], equips_trans equips also, ?_⟩
        rintro trap same
        cases same
        refine ⟨?_, rfl⟩
        change deviceToHost ≠ hostToDevice
        rw [here, there, handles]
        exact Nat.ne_of_lt (Nat.lt_succ_self _)
  unfold ProfiledDevice.createTrap
  split
  · simp only [Act.ends_bind]
    refine Act.ends_mono created ?_ (fun _ _ never => never)
    rintro shown answer next ⟨quiet, equips, ready⟩
    cases answer with
    | ok trap =>
      refine ⟨by simpa using quiet, equips, ?_⟩
      rintro found same
      cases same
      exact ready trap rfl
    | error error =>
      simp only [Act.ends_bind, Act.ends_note, Act.ends_pure]
      exact ⟨by simp [quiet, Event.stirs], equips, fun _ same => by cases same⟩
  · exact ⟨quiet_nil, ⟨rfl, rfl, rfl, rfl, rfl, fun _ member => member⟩, fun _ same => by cases same⟩

end Driver

namespace ProfiledDevice

structure Born (driver : Driver) (device : ProfiledDevice) : Prop where
  registry : device.registry = .empty
  equips : Driver.Equips driver device.driver
  unused : ∀ trap, device.trap = some trap → trap.Unused

theorem cycles_born {driver : Driver} {device : ProfiledDevice} (born : Born driver device) : device.trapCycles = 0 := by
  unfold trapCycles
  split
  · next trap held => exact (born.unused trap held).cycles
  · rfl

theorem ends_activate (driver : Driver) (backend : Backend) (config : Config) (shared : Shared) :
    Act.Ends (activate driver backend config) shared (fun shown device _ => Quiet shown ∧ Born driver device)
      (fun _ _ => driver.timeline ≠ []) := by
  have missing {σ : Type} (available : List Counter) (filter : List String) (s : σ) :
      Act.Ends (CounterSession.noteMissing available filter) s (fun shown _ _ => Quiet shown) (fun _ _ => False) := by
    induction filter with
    | nil => exact quiet_nil
    | cons name rest ih =>
      simp only [CounterSession.noteMissing, Act.ends_bind, Act.ends_note_if]
      refine Act.ends_mono ih ?_ (fun _ _ never => never)
      intro shown _ _ quiet
      rw [quiet_append]
      refine ⟨?_, quiet⟩
      split <;> simp [Event.stirs]
  simp only [activate, Act.ends_bind, Act.ends_apart]
  refine Act.ends_mono (Driver.ends_create_trap config driver) ?_ (fun _ _ never => never.elim)
  rintro shown trap equipped ⟨quiet, equips, unused⟩
  simp only [CounterSession.start, Act.ends_bind, Act.ends_note, Act.ends_pure]
  refine Act.ends_mono (missing _ _ shared) ?_ (fun _ _ never => never.elim)
  intro notes _ same still
  split
  · simp only [Act.ends_bind, Act.ends_get, Act.ends_apart, Act.ends_set, Act.ends_pure]
    apply Act.ends_mono (DeviceScope.ends_apply _ _)
    · rintro later _ next ⟨silent, aside⟩
      refine ⟨by simp [quiet, still, silent, Event.stirs], aside.registry, ?_, ?_⟩
      · rw [aside.driver]
        exact ⟨equips.name, equips.faults, equips.manual, equips.timeline, equips.buffers, equips.signalled⟩
      · rw [aside.trap]
        exact unused
    · intro _ _ busy
      rwa [← equips.timeline]
  · exact ⟨by simp [quiet, still, Event.stirs], rfl, equips, unused⟩

end ProfiledDevice

end GpuProfiler
