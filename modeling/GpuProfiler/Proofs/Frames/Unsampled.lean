import GpuProfiler.Proofs.Device.Unsampled

set_option autoImplicit false

namespace GpuProfiler

open Act Event

namespace Layer

variable {layer next : Layer} {call : LayerCall} {shown : List Event} {reply : LayerReply} {id : DeviceId} {config : Config}

theorem passes_within {α : Type} {act : Act DeviceScope (Except Error α)} {answer : α → LayerReply} {profiling : Bool}
    (performs : perform call = do return .ofAnswer answer (← onDevice id act))
    (known : ∀ device, layer.devices.get? id = some device → device.isProfiling = profiling)
    (passes : ∀ device, layer.devices.get? id = some device → DeviceScope.Passes ⟨device, layer.shared⟩ act) :
    Ends (perform call) layer
      (fun shown _ next => Lacks (isBarred profiling) shown ∧ ∀ device moved, layer.devices.get? id = some device →
        next.devices.get? id = some moved → moved.config = device.config ∧ moved.trap = device.trap)
      (fun shown _ => Lacks (isBarred profiling) shown) := by
  rw [performs]
  simp only [ends_bind, ends_pure, ends_on_device]
  cases here : layer.devices.get? id with
  | none => exact ⟨lacks_nil, fun device _ never => absurd never (Option.some_ne_none device).symm⟩
  | some device =>
    have done := passes device here
    rw [DeviceScope.Passes, known device here] at done
    refine ends_mono done ?_ (fun _ _ lacks => lacks)
    intro shown _ scope both
    obtain ⟨lacks, same⟩ := both
    rw [List.append_nil]
    refine ⟨lacks, fun found moved first there => ?_⟩
    cases first
    rw [Arena.get_set_here _ _ _ _ here] at there
    cases there
    exact Prod.mk.inj same

theorem ends_destroy_unsampled (id : DeviceId) (profiling : Bool) :
    Ends (perform (.destroyDevice id)) layer
      (fun shown _ next => Lacks (isBarred profiling) shown ∧ ∀ device moved, layer.devices.get? id = some device →
        next.devices.get? id = some moved → moved.config = device.config ∧ moved.trap = device.trap)
      (fun shown _ => Lacks (isBarred profiling) shown) := by
  simp only [perform, destroyDevice, ends_bind, ends_get, ends_pure]
  rcases taken : layer.devices.remove id with ⟨_ | device, devices⟩
  · refine ⟨lacks_nil, fun device _ here => ?_⟩
    rw [Arena.remove_none taken] at here
    cases here
  · have destroyed : Without (isBarred profiling) device.destroyTrap := by
      apply without_mono (barred_extra profiling)
      unfold ProfiledDevice.destroyTrap
      cases device.trap with
      | none => exact without_pure ()
      | some trap => exact without_bind (Driver.without_destroy_event _) fun _ => Driver.without_destroy_event _
    simp only [ends_bind, ends_set, ends_note, ends_apart, ends_pure]
    refine ends_mono (ends_lacking (destroyed device.driver)) ?_ ?_
    · intro shown _ _ lacks
      refine ⟨by simp [lacks], fun _ moved _ there => ?_⟩
      have gone := Arena.get_remove_here layer.devices id
      rw [taken] at gone
      rw [gone] at there
      cases there
    · intro shown _ lacks
      simp [lacks]

theorem ends_called (called : call.device? = some id) {profiling : Bool}
    (known : ∀ device, layer.devices.get? id = some device → device.isProfiling = profiling)
    (unsampled : ∀ device, layer.devices.get? id = some device → device.Unsampled) :
    Ends (perform call) layer
      (fun shown _ next => Lacks (isBarred profiling) shown ∧ ∀ device moved, layer.devices.get? id = some device →
        next.devices.get? id = some moved → moved.config = device.config ∧ moved.trap = device.trap)
      (fun shown _ => Lacks (isBarred profiling) shown) := by
  cases call with
  | destroyDevice other =>
    cases called
    exact ends_destroy_unsampled id profiling
  | getQueue other family index =>
    cases called
    refine passes_within rfl known fun device here => ?_
    exact DeviceScope.passes_extra (without_bind (DeviceScope.without_get_queue family index) fun _ => without_pure _)
      (DeviceScope.leaves_kept (keeping_then (DeviceScope.keeping_get_queue family index) fun _ => keeping_pure _))
  | allocate other level =>
    cases called
    refine passes_within rfl known fun device here => ?_
    exact DeviceScope.passes_extra (without_bind (DeviceScope.without_allocate level) fun _ => without_pure _)
      (DeviceScope.leaves_kept (keeping_then (DeviceScope.keeping_allocate level) fun _ => keeping_pure _))
  | free buffer =>
    cases called
    refine passes_within rfl known fun device here => ?_
    exact DeviceScope.passes_extra (DeviceScope.without_free buffer.buffer)
      (DeviceScope.leaves_kept (DeviceScope.keeping_free buffer.buffer))
  | beginBuffer buffer | resetBuffer buffer =>
    cases called
    refine passes_within rfl known fun device here => ?_
    exact DeviceScope.passes_update _ _ fun _ => (Driver.without_passed rfl (without_modify _)).1
  | endBuffer buffer =>
    cases called
    refine passes_within rfl known fun device here => ?_
    exact DeviceScope.passes_update _ _ fun _ => (Driver.without_passed rfl (without_pure ())).1
  | command buffer recorded =>
    cases called
    refine passes_within rfl known fun device here => ?_
    exact DeviceScope.passes_command (s := ⟨device, layer.shared⟩) (unsampled device here) buffer.buffer recorded
  | execute buffer secondaries =>
    cases called
    refine passes_within rfl known fun device here => ?_
    by_cases foreign : (secondaries.any fun secondary => secondary.device != buffer.device) = true
    · rw [if_pos foreign]
      exact DeviceScope.passes_pure _
    · rw [if_neg foreign]
      exact DeviceScope.passes_extra (DeviceScope.without_execute buffer.buffer _)
        (DeviceScope.leaves_kept (DeviceScope.keeping_execute buffer.buffer _))
  | submit queue submissions =>
    cases called
    refine passes_within rfl known fun device here => ?_
    apply DeviceScope.passes_get
    dsimp only
    cases device.registry.queue queue.queue with
    | error error => exact DeviceScope.passes_pure _
    | ok tracked =>
      cases Submission.resolve queue.device device.registry submissions with
      | error error => exact DeviceScope.passes_pure _
      | ok resolved =>
        apply DeviceScope.passes_submit (unsampled device here).off
        intro frame
        exact ProfiledDevice.unreplayed_unsampled (unsampled device here) resolved.2
  | present queue =>
    cases called
    refine passes_within rfl known fun device here => ?_
    apply DeviceScope.passes_get
    dsimp only
    cases device.registry.queue queue.queue with
    | error error => exact DeviceScope.passes_pure _
    | ok tracked => exact DeviceScope.passes_present (unsampled device here).off tracked.raw
  | _ => cases called

theorem ends_create_unsampled (layer : Layer) (driver : Driver) (backend : Backend) :
    Ends (perform (.createDevice driver backend)) layer
      (fun shown _ next => ∃ device, next.devices = (layer.devices.insert device).2 ∧ device.config = layer.config ∧
        (device.isProfiling = true ↔ layer.config.isActive = true ∧ driver.givesEvents = true) ∧
        (device.isProfiling = false ∨ layer.config.sampleWorkloads = false → Lacks (isBarred device.isProfiling) shown))
      (fun _ _ => True) := by
  simp only [perform, createDevice, ends_bind, ends_get, ends_on]
  refine ends_mono (ProfiledDevice.ends_activate_unsampled layer.config driver backend _) ?_ (fun _ _ _ => trivial)
  intro shown device shared known
  simp only [ends_set, ends_pure]
  exact ⟨device, rfl, by simpa using known⟩

end Layer

def LayerStep.Concerns (id : DeviceId) (step : LayerStep) : Prop :=
  step.call.device? = some id ∨ (step.before.devices.get? id = none ∧ (step.after.devices.get? id).isSome = true)

structure ProfiledDevice.Spared (device : ProfiledDevice) (config : Config) (unprofiled : Prop) : Prop where
  config : device.config = config
  unsampled : device.Unsampled
  unprofiled : unprofiled → device.trap = none

namespace Layer

open LayerStep

variable {layer next : Layer} {call : LayerCall} {shown : List Event} {reply : LayerReply} {id : DeviceId} {config : Config}
  {unprofiled : Prop}

theorem spared_created (sound : layer.Sound) (configured : layer.config = config)
    (wanted : config.sampleWorkloads = false ∨ unprofiled) (made : perform call layer = ⟨shown, .ok (reply, next)⟩)
    (aside : unprofiled → begins id ⟨layer, call, shown, reply, next⟩ = false) (gone : layer.devices.get? id = none)
    {device : ProfiledDevice} (there : next.devices.get? id = some device) :
    device.Spared config unprofiled ∧ Lacks (isBarred device.isProfiling) shown ∧
      ∃ driver backend, call = .createDevice driver backend ∧
        (device.isProfiling = true ↔ config.isActive = true ∧ driver.givesEvents = true) := by
  have move := (Act.ends_of_ok (ends_perform sound call) made).1
  obtain ⟨driver, backend, rfl, born, _, _⟩ := move_begins sound move gone there
  obtain ⟨same, devices, known, profiled, lacks⟩ := Act.ends_of_ok (ends_create_unsampled layer driver backend) made
  obtain rfl : device = same := by
    rw [devices] at there
    rcases Arena.get_insert_cases sound.devices same there with before | ⟨_, _, made⟩
    · rw [gone] at before
      cases before
    · exact made
  rw [configured] at known profiled lacks
  have missing (asked : unprofiled) : device.trap = none := by
    have never := aside asked
    rw [Bool.eq_false_iff, ne_eq, begins_iff] at never
    rw [← Option.not_isSome_iff_eq_none]
    exact fun profiling => never ⟨gone, device, there, profiling⟩
  have off : device.trap = none ∨ config.sampleWorkloads = false := wanted.symm.imp_left missing
  have empty (handle : BufferHandle) : device.registry.buffers.get? handle = none := by
    rw [born.registry]
    exact Arena.get_empty handle
  refine ⟨⟨known, ⟨known ▸ off, ProfiledDevice.cycles_born born, ?_, ?_⟩, missing⟩, ?_, driver, backend, rfl, profiled⟩
  · intro handle recorder live
    rw [empty handle] at live
    cases live
  · intro _ handle recorder live
    rw [empty handle] at live
    cases live
  · exact lacks (off.imp_left fun none => by rw [ProfiledDevice.isProfiling, none]; rfl)

theorem spared_called (sound : layer.Sound) (called : call.device? = some id)
    (before : ∀ device, layer.devices.get? id = some device → device.Spared config unprofiled)
    (made : perform call layer = ⟨shown, .ok (reply, next)⟩) {moved : ProfiledDevice}
    (there : next.devices.get? id = some moved) : moved.Spared config unprofiled := by
  have move := (Act.ends_of_ok (ends_perform sound call) made).1
  obtain ⟨device, here, inner⟩ := move_within move called there
  have spared := before device here
  have known (found : ProfiledDevice) (same : layer.devices.get? id = some found) :
      found.isProfiling = device.isProfiling := by
    rw [here] at same
    cases same
    rfl
  obtain ⟨_, kept⟩ := Act.ends_of_ok
    (ends_called called known fun found same => (before found same).unsampled) made
  obtain ⟨config, trap⟩ := kept device moved here there
  have became := fun handle recorder live => ProfiledDevice.became_unsampled spared.unsampled
    (ProfiledDevice.move_became inner (perform_dictates called here made there) handle recorder live)
  refine ⟨config.trans spared.config, ⟨?_, ?_, fun handle recorder live => (became handle recorder live).1, ?_⟩, ?_⟩
  · rw [config, trap]
    exact spared.unsampled.off
  · rw [ProfiledDevice.trapCycles, trap]
    exact spared.unsampled.cycles
  · intro missing handle recorder live
    exact (became handle recorder live).2 (trap ▸ missing)
  · intro asked
    rw [trap]
    exact spared.unprofiled asked

structure SparesAll (layer : Layer) (config : Config) (id : DeviceId) (unprofiled : Prop) (steps : List LayerStep) : Prop where
  device : ∀ device, layer.devices.get? id = some device → device.Spared config unprofiled
  shown : ∀ step ∈ steps, step.Concerns id → ∃ profiling, Lacks (isBarred profiling) step.shown ∧ (unprofiled → profiling = false)
  begun : ∀ step ∈ steps, step.before.devices.get? id = none → ∀ device, step.after.devices.get? id = some device →
    ∃ driver backend, step.call = .createDevice driver backend ∧
      (device.isProfiling = true ↔ config.isActive = true ∧ driver.givesEvents = true)

theorem shown_called (spared : ∀ device, layer.devices.get? id = some device → device.Spared config unprofiled)
    (called : call.device? = some id) :
    ∃ profiling, Lacks (isBarred profiling) (perform call layer).events ∧ (unprofiled → profiling = false) := by
  have lacks (profiling : Bool) (known : ∀ device, layer.devices.get? id = some device → device.isProfiling = profiling) :
      Lacks (isBarred profiling) (perform call layer).events :=
    lacks_of_ends (ends_mono (ends_called called known fun device here => (spared device here).unsampled)
      (fun _ _ _ both => both.1) (fun _ _ alone => alone))
  cases here : layer.devices.get? id with
  | none =>
    rw [here] at lacks
    exact ⟨false, lacks false fun device never => absurd never (Option.some_ne_none device).symm, fun _ => rfl⟩
  | some device =>
    refine ⟨device.isProfiling, lacks _ fun found same => ?_, fun asked => ?_⟩
    · rw [here] at same
      cases same
      rfl
    · rw [ProfiledDevice.isProfiling, (spared device here).unprofiled asked]
      rfl

-- The induction is on the calls: one on the device, one beside it, or the one that makes it.
theorem run_spared {allowed : Layer → LayerCall → Prop} {endpoint : ShowingEndpoint} {steps : List LayerStep}
    (run : Run allowed (fresh config endpoint) steps layer) (wanted : config.sampleWorkloads = false ∨ unprofiled)
    (aside : unprofiled → ∀ step ∈ steps, step.begins id = false) : layer.SparesAll config id unprofiled steps := by
  induction run with
  | start =>
    refine ⟨fun device never => ?_, List.forall_mem_nil _, List.forall_mem_nil _⟩
    rw [show (fresh config endpoint).devices.get? id = none from Arena.get_empty id] at never
    cases never
  | step steps layer next call shown reply run admitted made ih =>
    have before := ih fun asked step member => aside asked step (List.mem_append_left _ member)
    have sound := run_sound run
    have move := (Act.ends_of_ok (ends_perform sound call) made).1
    have here : ⟨layer, call, shown, reply, next⟩ ∈ steps ++ [⟨layer, call, shown, reply, next⟩] :=
      List.mem_append_right _ (List.mem_singleton.mpr rfl)
    have created (gone : layer.devices.get? id = none) {device : ProfiledDevice}
        (there : next.devices.get? id = some device) :=
      spared_created sound (run_configured run) wanted made (fun asked => aside asked _ here) gone there
    constructor
    · intro device there
      by_cases called : call.device? = some id
      · exact spared_called sound called before.device made there
      · by_cases gone : layer.devices.get? id = none
        · exact (created gone there).1
        · exact before.device device (move_beside sound move called there gone)
    · intro step member concerns
      rcases List.mem_append.mp member with earlier | last
      · exact before.shown step earlier concerns
      · cases List.mem_singleton.mp last
        rcases concerns with called | ⟨gone, some⟩
        · have lacks := shown_called before.device called
          rw [made] at lacks
          exact lacks
        · obtain ⟨device, there⟩ := Option.isSome_iff_exists.mp some
          obtain ⟨spared, lacks, _⟩ := created gone there
          refine ⟨device.isProfiling, lacks, fun asked => ?_⟩
          rw [ProfiledDevice.isProfiling, spared.unprofiled asked]
          rfl
    · intro step member gone device there
      rcases List.mem_append.mp member with earlier | last
      · exact before.begun step earlier gone device there
      · cases List.mem_singleton.mp last
        exact (created gone there).2.2

/-- A device that is not profiled, because nothing is to be sampled or an event could not be created,
and every device where the configuration leaves workloads out, stops nowhere: no record of its buffers
says so, its trap goes through no cycle, no call on an event is made or recorded, and no message says
anything of a workload or of where a frame begins or ends. A device that is not profiled has nothing
recorded either, no counter is sampled or read, and nothing is reported. -/
theorem unsampled_devices_never_stop (allowed : Layer → LayerCall → Prop) (config : Config) (endpoint : ShowingEndpoint)
    (steps : List LayerStep) (layer : Layer) (run : Run allowed (fresh config endpoint) steps layer) (id : DeviceId)
    (unsampled : config.sampleWorkloads = false ∨ ∀ step ∈ steps, step.begins id = false) :
    (∀ device, layer.devices.get? id = some device → device.trapCycles = 0 ∧
        ∀ handle recorder, device.registry.buffers.get? handle = some recorder →
          ∀ record ∈ recorder.stream, record.traps = false) ∧
      (∀ step ∈ steps, step.Concerns id → Lacks isTrap step.shown) ∧
      (∀ call : LayerCall, call.device? = some id → Lacks isTrap (perform call layer).events) ∧
      ((∀ step ∈ steps, step.begins id = false) →
        (∀ device, layer.devices.get? id = some device → ∀ handle recorder,
          device.registry.buffers.get? handle = some recorder → recorder.stream = []) ∧
        (∀ step ∈ steps, step.Concerns id → Lacks isProbe step.shown) ∧
        ∀ call : LayerCall, call.device? = some id → Lacks isProbe (perform call layer).events) ∧
      ∀ step ∈ steps, step.before.devices.get? id = none → ∀ device, step.after.devices.get? id = some device →
        ∃ driver backend, step.call = .createDevice driver backend ∧
          (step.begins id = true ↔ config.isActive = true ∧ driver.givesEvents = true) := by
  have spares := run_spared run unsampled fun unprofiled => unprofiled
  refine ⟨?_, ?_, ?_, ?_, ?_⟩
  · intro device here
    have known := (spares.device device here).unsampled
    exact ⟨known.cycles, fun handle recorder live => (known.uncaptured handle recorder live).stream⟩
  · intro step member concerns
    obtain ⟨profiling, lacks, _⟩ := spares.shown step member concerns
    exact lacks_mono (trap_barred profiling) lacks
  · intro call called
    obtain ⟨profiling, lacks, _⟩ := shown_called spares.device called
    exact lacks_mono (trap_barred profiling) lacks
  · intro unprofiled
    refine ⟨?_, ?_, ?_⟩
    · intro device here
      have known := spares.device device here
      exact known.unsampled.blank (known.unprofiled unprofiled)
    · intro step member concerns
      obtain ⟨profiling, lacks, off⟩ := spares.shown step member concerns
      rw [off unprofiled] at lacks
      exact lacks_mono probe_barred lacks
    · intro call called
      obtain ⟨profiling, lacks, off⟩ := shown_called spares.device called
      rw [off unprofiled] at lacks
      exact lacks_mono probe_barred lacks
  · intro step member gone device there
    obtain ⟨driver, backend, made, profiled⟩ := spares.begun step member gone device there
    refine ⟨driver, backend, made, Iff.trans ?_ profiled⟩
    rw [begins_iff]
    simp [gone, there]

-- A pass in two buffers and a dispatch, submitted and presented in a frame of interest.
def spreadCalls (driver : Driver) : List LayerCall := [
  .createDevice driver .empty,
  .getQueue ⟨0, 0⟩ 0 0,
  .allocate ⟨0, 0⟩ .primary,
  .allocate ⟨0, 0⟩ .primary,
  .command ⟨⟨0, 0⟩, ⟨0, 0⟩⟩ (.dispatch 1 1 1),
  .command ⟨⟨0, 0⟩, ⟨0, 0⟩⟩ (.beginRenderPass ⟨4, 4, 1, ⟨true, false⟩⟩),
  .command ⟨⟨0, 0⟩, ⟨0, 0⟩⟩ .endRenderPass,
  .command ⟨⟨0, 0⟩, ⟨1, 0⟩⟩ (.beginRenderPass ⟨4, 4, 1, ⟨false, true⟩⟩),
  .command ⟨⟨0, 0⟩, ⟨1, 0⟩⟩ .endRenderPass,
  .submit ⟨⟨0, 0⟩, ⟨0, 0⟩⟩ [⟨[⟨⟨0, 0⟩, ⟨0, 0⟩⟩, ⟨⟨0, 0⟩, ⟨1, 0⟩⟩], false⟩],
  .present ⟨⟨0, 0⟩, ⟨0, 0⟩⟩]

def trapless : Driver := .new "gpu" [⟨.createEvent, 1, .eventCreationFailed⟩] [] false

def framesOnly : Config := ((Config.default.withFrameList [0]).withSampleFrames true).withSampleWorkloads false

def traplessRun : List LayerStep := (fresh (Config.default.withFrameList [0]) ⟨[], 0⟩).trace (spreadCalls trapless)

def framesOnlyRun : List LayerStep := (fresh framesOnly ⟨[], 0⟩).trace (spreadCalls (.new "gpu" [] [] false))

theorem spread_runs_never_stop :
    Run (fun _ _ => True) (fresh (Config.default.withFrameList [0]) ⟨[], 0⟩) traplessRun
        ((fresh (Config.default.withFrameList [0]) ⟨[], 0⟩).outcome traplessRun) ∧
      (∀ step ∈ traplessRun, step.begins ⟨0, 0⟩ = false) ∧ traplessRun.length = 11 ∧
      (∀ step ∈ traplessRun, step.Concerns ⟨0, 0⟩ → Lacks isTrap step.shown ∧ Lacks isProbe step.shown) ∧
      Run (fun _ _ => True) (fresh framesOnly ⟨[], 0⟩) framesOnlyRun ((fresh framesOnly ⟨[], 0⟩).outcome framesOnlyRun) ∧
      framesOnly.sampleWorkloads = false ∧ framesOnlyRun.length = 11 ∧
      (framesOnlyRun.any fun step => step.begins ⟨0, 0⟩) = true ∧
      (framesOnlyRun.flatMap (·.shown)).contains (.message (.frameCounters 0 []) false) = true ∧
      ∀ step ∈ framesOnlyRun, step.Concerns ⟨0, 0⟩ → Lacks isTrap step.shown := by
  have first : Run (fun _ _ => True) (fresh (Config.default.withFrameList [0]) ⟨[], 0⟩) traplessRun _ :=
    run_trace _ _ fun _ _ => trivial
  have second : Run (fun _ _ => True) (fresh framesOnly ⟨[], 0⟩) framesOnlyRun _ := run_trace _ _ fun _ _ => trivial
  have unprofiled : ∀ step ∈ traplessRun, step.begins ⟨0, 0⟩ = false := by decide +kernel
  obtain ⟨_, calls, _, silent, _⟩ := unsampled_devices_never_stop _ _ _ _ _ first ⟨0, 0⟩ (.inr unprofiled)
  obtain ⟨_, others, _⟩ := unsampled_devices_never_stop _ _ _ _ _ second ⟨0, 0⟩ (.inl rfl)
  refine ⟨first, unprofiled, by decide +kernel, ?_, second, rfl, by decide +kernel, by decide +kernel, by decide +kernel, others⟩
  exact fun step member concerns => ⟨calls step member concerns, (silent unprofiled).2.1 step member concerns⟩

end Layer

end GpuProfiler
