import GpuProfiler.Proofs.Device.Confined
import GpuProfiler.Proofs.Layer.Run

set_option autoImplicit false

namespace GpuProfiler

open Act Event

def Event.elsewhere (name : String) (event : Event) : Bool := event.driver?.any (· != name)

theorem Event.elsewhere_strays {name : String} {held : List RawEvent} {shown : List Event}
    (lacks : Lacks (strays name held) shown) : Lacks (elsewhere name) shown := by
  intro event member
  cases named : event.driver? with
  | none => simp [elsewhere, named]
  | some driver => simp [elsewhere, named, driver_kept lacks event member driver named]

namespace Driver

variable {name : String} {α : Type} {call : DriverCall} {work : Act Driver α}

abbrev Near (name : String) (act : Act Driver α) : Prop :=
  Act.Confines (fun driver : Driver => driver.name = name) (elsewhere name) act

theorem near_do_call (near : Near name work) : Near name (doCall call work) := by
  intro driver same
  have here : (callEvent call driver).elsewhere name = false := by simp [elsewhere, callEvent, Event.driver?, same]
  rw [ends_do_call]
  refine ends_mono (near (driver.counted call.method) same) ?_ ?_
  · exact fun shown _ _ both => ⟨both.1, (lacks_cons _ shown).mpr ⟨here, both.2⟩⟩
  · exact fun shown _ lacks => (lacks_cons _ shown).mpr ⟨here, lacks⟩

theorem near_try_call (near : Near name work) : Near name (tryCall call work) := by
  intro driver same
  have here : (callEvent call driver).elsewhere name = false := by simp [elsewhere, callEvent, Event.driver?, same]
  rw [ends_try_call]
  split
  · exact ⟨same, (lacks_cons _ []).mpr ⟨here, lacks_nil⟩⟩
  · refine ends_mono (near (driver.counted call.method) same) ?_ ?_
    · exact fun shown _ _ both => ⟨both.1, (lacks_cons _ shown).mpr ⟨here, both.2⟩⟩
    · exact fun shown _ lacks => (lacks_cons _ shown).mpr ⟨here, lacks⟩

theorem near_create_event : Near name createEvent := by
  refine near_try_call (confines_bind (confines_get fun driver same => ?_) fun _ => ?_)
  · exact confines_bind (fun _ _ => ⟨same, lacks_nil⟩) fun _ => confines_pure _
  · exact confines_bind (confines_modify fun _ same => same) fun _ => confines_pure _

theorem near_destroy_event (event : RawEvent) : Near name (destroyEvent event) :=
  near_do_call (confines_modify fun _ same => same)

theorem near_create_trap (config : Config) : Near name (ProfiledDevice.createTrap config) := by
  have created : Near name (Trap.create config.trap) := by
    refine confines_bind near_create_event fun first => ?_
    cases first with
    | error error => exact confines_pure _
    | ok deviceToHost =>
      refine confines_bind near_create_event fun second => ?_
      cases second with
      | error error => exact confines_bind (near_destroy_event deviceToHost) fun _ => confines_pure _
      | ok hostToDevice => exact confines_pure _
  unfold ProfiledDevice.createTrap
  split
  · refine confines_bind created fun answer => ?_
    cases answer with
    | error error => exact confines_bind (confines_emit rfl) fun _ => confines_pure _
    | ok trap => exact confines_pure _
  · exact confines_pure _

theorem near_destroy_trap (device : ProfiledDevice) : Near name device.destroyTrap := by
  unfold ProfiledDevice.destroyTrap
  cases device.trap with
  | none => exact confines_pure ()
  | some trap => exact confines_bind (near_destroy_event _) fun _ => near_destroy_event _

end Driver

namespace ProfiledDevice

theorem destroy_trap_ends (device : ProfiledDevice) (driver : Driver) :
    ∃ shown left, device.destroyTrap driver = ⟨shown, .ok ((), left)⟩ := by
  unfold destroyTrap
  cases device.trap with
  | none => exact ⟨_, _, rfl⟩
  | some trap => exact ⟨_, _, rfl⟩

def equipped (driver : Driver) (trap : Option Trap) : Custody := ⟨driver.name, driver.live, trap.map (·.events)⟩

inductive Started (config : Config) (driver : Driver) : List Event → Custody → Prop
  | intro (set later : List Event) (trap : Option Trap) (next : Driver)
      (made : createTrap config driver = ⟨set, .ok (trap, next)⟩) (near : Lacks (equipped next trap).strays later) :
      Started config driver (set ++ later) (equipped next trap)

theorem activate_started (driver : Driver) (backend : Backend) (config : Config) (shared : Shared) :
    Ends (activate driver backend config) shared (fun shown device _ => Started config driver shown device.custody)
      (fun shown _ => ∃ custody, Started config driver shown custody) := by
  have missing {kind : Event → Bool} (noted : ∀ noticed, kind (.note noticed) = false) (available : List Counter)
      (filter : List String) : Without kind (CounterSession.noteMissing available filter : Act Shared Unit) := by
    induction filter with
    | nil => exact without_pure ()
    | cons name rest ih => exact without_bind (without_note_if (noted _)) fun _ => ih
  simp only [activate, ends_bind, ends_apart]
  refine ends_mono (ends_and (ends_self _ driver) (Driver.ends_create_trap config driver)) ?_
    (fun _ _ never => never.2.elim)
  rintro set trap next ⟨made, _⟩
  -- From here on the device is confined to its driver and its trap.
  have begun (custody : Custody) (later : List Event) (near : Lacks (equipped next trap).strays later)
      (same : custody = equipped next trap) : Started config driver (set ++ later) custody :=
    same ▸ .intro set later trap next made near
  simp only [CounterSession.start, ends_bind, ends_note, ends_pure]
  refine ends_mono (ends_lacking (missing (fun _ => rfl) _ _ shared)) ?_ (fun later _ near => ⟨_, begun _ later near rfl⟩)
  intro notes _ same quiet
  split
  · simp only [ends_bind, ends_get, ends_apart, ends_set, ends_pure]
    refine ends_mono (DeviceScope.confined_apply _ _ rfl) ?_ ?_
    · rintro later _ after ⟨under, (near : Lacks (equipped next trap).strays later)⟩
      exact begun _ _ (by simpa [quiet] using near) under
    · intro later _ (near : Lacks (equipped next trap).strays later)
      exact ⟨_, begun _ _ (by simpa [quiet] using near) rfl⟩
  · exact begun _ _ (by simpa using quiet) rfl

theorem started_near {config : Config} {driver : Driver} {shown : List Event} {custody : Custody}
    (started : Started config driver shown custody) : custody.name = driver.name ∧ Lacks (elsewhere driver.name) shown := by
  obtain ⟨set, later, trap, next, made, near⟩ := started
  obtain ⟨same, here⟩ := ends_of_ok (Driver.near_create_trap config driver rfl) made
  refine ⟨same, (lacks_append set later).mpr ⟨here, ?_⟩⟩
  rw [← same]
  exact elsewhere_strays near

end ProfiledDevice

namespace Layer

variable {layer : Layer} {call : LayerCall}

-- What a call does, by the device that it reaches, and the layer that it leaves if it ends.
inductive Reaches (layer : Layer) (call : LayerCall) : List Event → Option Layer → Prop
  | nothing (given : call.driver? = none) (gone : ∀ id, call.device? = some id → layer.devices.get? id = none) :
      Reaches layer call [] (some layer)
  | within (id : DeviceId) (device : ProfiledDevice) (shown : List Event) (next : Option Layer)
      (called : call.device? = some id) (live : layer.devices.get? id = some device)
      (near : Lacks device.custody.strays shown)
      (left : ∀ after ∈ next, ∃ moved, moved.custody = device.custody ∧ after.devices = layer.devices.set id moved) :
      Reaches layer call shown next
  | created (driver : Driver) (shown : List Event) (custody : Custody) (next : Option Layer)
      (given : call.driver? = some driver) (started : ProfiledDevice.Started layer.config driver shown custody)
      (left : ∀ after ∈ next, ∃ device, device.custody = custody ∧ after.devices = (layer.devices.insert device).2) :
      Reaches layer call shown next
  | destroyed (id : DeviceId) (device : ProfiledDevice) (noticed : Note) (shown : List Event) (left : Driver) (next : Layer)
      (called : call = .destroyDevice id) (live : layer.devices.get? id = some device)
      (ended : device.destroyTrap device.driver = ⟨shown, .ok ((), left)⟩)
      (devices : next.devices = (layer.devices.remove id).2) :
      Reaches layer call (.note noticed :: shown) (some next)

theorem reaches_within {α : Type} {act : Act DeviceScope (Except Error α)} {answer : α → LayerReply} {id : DeviceId}
    (called : call.device? = some id) (given : call.driver? = none)
    (performs : perform call = do return .ofAnswer answer (← onDevice id act))
    (confined : ∀ custody, DeviceScope.Confined custody act) :
    Ends (perform call) layer (fun shown _ next => layer.Reaches call shown (some next))
      (fun shown _ => layer.Reaches call shown none) := by
  rw [performs]
  simp only [ends_bind, ends_pure, ends_on_device]
  cases live : layer.devices.get? id with
  | none =>
    refine .nothing given fun other same => ?_
    rw [called] at same
    cases same
    exact live
  | some device =>
    refine ends_mono (confined device.custody ⟨device, layer.shared⟩ rfl) ?_ ?_
    · rintro shown _ scope ⟨under, near⟩
      rw [List.append_nil]
      refine .within id device shown _ called live near ?_
      rintro _ ⟨⟩
      exact ⟨scope.device, under, rfl⟩
    · intro shown _ near
      refine .within id device shown none called live near fun _ never => ?_
      cases never

theorem reaches_created (driver : Driver) (backend : Backend) :
    Ends (perform (.createDevice driver backend)) layer
      (fun shown _ next => layer.Reaches (.createDevice driver backend) shown (some next))
      (fun shown _ => layer.Reaches (.createDevice driver backend) shown none) := by
  simp only [perform, createDevice, ends_bind, ends_get, ends_on]
  refine ends_mono (ProfiledDevice.activate_started driver backend _ _) ?_ ?_
  · intro shown device _ started
    simp only [ends_set, ends_pure, List.append_nil, List.nil_append]
    refine .created driver shown _ _ rfl started ?_
    rintro _ ⟨⟩
    exact ⟨device, rfl, rfl⟩
  · rintro shown _ ⟨custody, started⟩
    refine .created driver shown custody none rfl started fun _ never => ?_
    cases never

theorem reaches_destroyed (id : DeviceId) :
    Ends (perform (.destroyDevice id)) layer (fun shown _ next => layer.Reaches (.destroyDevice id) shown (some next))
      (fun shown _ => layer.Reaches (.destroyDevice id) shown none) := by
  simp only [perform, destroyDevice, ends_bind, ends_get, ends_pure]
  rcases taken : layer.devices.remove id with ⟨_ | device, devices⟩
  · refine .nothing rfl fun other same => ?_
    cases same
    exact Arena.remove_none taken
  · have removed : (layer.devices.remove id).2 = devices := by rw [taken]
    obtain ⟨shown, left, ended⟩ := device.destroy_trap_ends device.driver
    simp only [ends_bind, ends_set, ends_note, ends_apart, ends_ran ended, ends_pure]
    simpa using .destroyed id device _ shown left _ rfl (Arena.remove_some taken) ended removed.symm

theorem ends_reaches (layer : Layer) (call : LayerCall) :
    Ends (perform call) layer (fun shown _ next => layer.Reaches call shown (some next))
      (fun shown _ => layer.Reaches call shown none) := by
  cases call with
  | createDevice driver backend => exact reaches_created driver backend
  | destroyDevice id => exact reaches_destroyed id
  | getQueue id family index =>
    exact reaches_within rfl rfl rfl fun _ => confines_bind (DeviceScope.confined_get_queue family index) fun _ =>
      confines_pure _
  | allocate id level =>
    exact reaches_within rfl rfl rfl fun _ => confines_bind (DeviceScope.confined_allocate level) fun _ => confines_pure _
  | free buffer => exact reaches_within rfl rfl rfl fun _ => DeviceScope.confined_free buffer.buffer
  | beginBuffer buffer =>
    exact reaches_within rfl rfl rfl fun _ => DeviceScope.confined_update buffer.buffer _ Custody.guards_begin
  | endBuffer buffer =>
    exact reaches_within rfl rfl rfl fun _ => DeviceScope.confined_update buffer.buffer _ Custody.guards_end
  | resetBuffer buffer =>
    exact reaches_within rfl rfl rfl fun _ => DeviceScope.confined_update buffer.buffer _ Custody.guards_reset
  | command buffer recorded =>
    exact reaches_within rfl rfl rfl fun _ => DeviceScope.confined_command buffer.buffer recorded
  | execute buffer secondaries =>
    refine reaches_within rfl rfl rfl fun _ => ?_
    split
    · exact confines_pure _
    · exact DeviceScope.confined_execute buffer.buffer _
  | submit queue submissions =>
    refine reaches_within rfl rfl rfl fun _ => confines_get fun s _ => ?_
    dsimp only
    split
    · exact confines_pure _
    · split
      · exact confines_pure _
      · exact DeviceScope.confined_submit _ _ _ _ _ _
  | present queue =>
    refine reaches_within rfl rfl rfl fun _ => confines_get fun s _ => ?_
    split
    · exact confines_pure _
    · exact DeviceScope.confined_present _
  | _ => exact .nothing rfl fun _ never => nomatch never

def Separate (layer : Layer) (call : LayerCall) : Prop :=
  ∀ driver ∈ call.driver?, ∀ id device, layer.devices.get? id = some device → device.driver.name ≠ driver.name

def driverNames (layer : Layer) : List String := layer.devices.values.map (·.driver.name)

def Alone (layer : Layer) : Prop :=
  ∀ id other device found, layer.devices.get? id = some device → layer.devices.get? other = some found →
    device.driver.name = found.driver.name → id = other

variable {shown : List Event} {next : Layer} {id : DeviceId} {device : ProfiledDevice}

theorem separate_of_names (absent : ∀ driver ∈ call.driver?, driver.name ∉ layer.driverNames) : layer.Separate call := by
  intro driver given id device live same
  exact absent driver given (List.mem_map.mpr ⟨device, Arena.mem_values live, same⟩)

theorem reaches_live (sound : layer.Sound) (reaches : layer.Reaches call shown (some next))
    (live : next.devices.get? id = some device) :
    (∃ before, layer.devices.get? id = some before ∧ before.custody = device.custody) ∨
      ∃ driver ∈ call.driver?, ProfiledDevice.Started layer.config driver shown device.custody ∧
        ∀ other found, next.devices.get? other = some found → other = id ∨ layer.devices.get? other = some found := by
  cases reaches with
  | nothing => exact .inl ⟨device, live, rfl⟩
  | within other held _ _ called here near left =>
    obtain ⟨moved, same, devices⟩ := left next rfl
    rw [devices] at live
    rcases Arena.get_set_cases other id moved device live with ⟨rfl, rfl, _⟩ | ⟨_, before⟩
    · exact .inl ⟨held, here, same.symm⟩
    · exact .inl ⟨device, before, rfl⟩
  | created driver _ custody _ given started left =>
    obtain ⟨new, same, devices⟩ := left next rfl
    rw [devices] at live
    rcases Arena.get_insert_cases sound.devices new live with before | ⟨_, rfl, rfl⟩
    · exact .inl ⟨device, before, rfl⟩
    · refine .inr ⟨driver, given, same ▸ started, fun other found there => ?_⟩
      rw [devices] at there
      rcases Arena.get_insert_cases sound.devices device there with before | ⟨_, same, _⟩
      · exact .inr before
      · exact .inl same
  | destroyed other held _ _ _ _ called here ended devices =>
    rw [devices] at live
    exact .inl ⟨device, (Arena.get_remove_live live).2, rfl⟩

theorem reaches_alone (sound : layer.Sound) (alone : layer.Alone) (separate : layer.Separate call)
    (reaches : layer.Reaches call shown (some next)) : next.Alone := by
  intro id other device found live there same
  rcases reaches_live sound reaches live with ⟨old, before, kept⟩ | ⟨driver, given, started, only⟩
  · have named : old.driver.name = device.driver.name := congrArg Custody.name kept
    rcases reaches_live sound reaches there with ⟨_, also, still⟩ | ⟨driver, given, started, _⟩
    · exact alone id other _ _ before also (named.trans (same.trans (congrArg Custody.name still.symm)))
    · have given_name := (ProfiledDevice.started_near started).1
      exact absurd (named.trans (same.trans given_name)) (separate driver given id old before)
  · rcases only other found there with here | before
    · exact here.symm
    · have given_name := (ProfiledDevice.started_near started).1
      exact absurd (same.symm.trans given_name) (separate driver given other found before)

theorem run_alone {config : Config} {endpoint : ShowingEndpoint} {steps : List LayerStep}
    (run : Run Separate (fresh config endpoint) steps layer) : layer.Alone := by
  induction run with
  | start =>
    intro id _ _ _ never
    rw [show (fresh config endpoint).devices.get? id = none from Arena.get_empty id] at never
    cases never
  | step steps layer next call shown reply run separate made ih =>
    exact reaches_alone (run_sound run) ih separate (ends_of_ok (ends_reaches layer call) made)

theorem reaches_elsewhere {after : Option Layer} (alone : layer.Alone) (separate : layer.Separate call)
    (reaches : layer.Reaches call shown after) (live : layer.devices.get? id = some device)
    (beside : call.device? ≠ some id) : ∀ event ∈ shown, event.driver? ≠ some device.driver.name := by
  have apart {name : String} (here : Lacks (elsewhere name) shown) (different : device.driver.name ≠ name) :
      ∀ event ∈ shown, event.driver? ≠ some device.driver.name := by
    intro event member named
    have near := here event member
    simp [elsewhere, named, different] at near
  cases reaches with
  | nothing => exact fun _ never => nomatch never
  | within other held _ _ called here near _ =>
    refine apart (elsewhere_strays near) fun same => beside ?_
    rw [alone id other device held live here same]
    exact called
  | created driver _ _ _ given started _ =>
    exact apart (ProfiledDevice.started_near started).2 (separate driver given id device live)
  | destroyed other held noticed rest left _ called here ended _ =>
    have near := (ends_of_ok (Driver.near_destroy_trap held held.driver rfl) ended).2
    refine apart ((lacks_cons _ rest).mpr ⟨rfl, near⟩) fun same => beside ?_
    rw [alone id other device held live here same, called]
    rfl

theorem reaches_beside (sound : layer.Sound) (reaches : layer.Reaches call shown (some next))
    (live : layer.devices.get? id = some device) (beside : call.device? ≠ some id) :
    next.devices.get? id = some device := by
  cases reaches with
  | nothing => exact live
  | within other _ _ _ called _ _ left =>
    obtain ⟨moved, _, devices⟩ := left next rfl
    rw [devices, Arena.get_set_elsewhere _ _ _ _ fun same : id = other => beside (same ▸ called)]
    exact live
  | created _ _ _ _ _ _ left =>
    obtain ⟨new, _, devices⟩ := left next rfl
    rw [devices]
    exact Arena.get_insert_live sound.devices new live
  | destroyed other _ _ _ _ _ called _ _ devices =>
    rw [devices, Arena.get_remove_elsewhere _ _ _ fun same => beside (by rw [same, called]; rfl)]
    exact live

/-- A call made on a device, also one that fails, destroys it or names buffers of others, and the creation
of a device leave every other live device as it was, with its driver, and what it has is found under the
same handles. Up to where the call ends or halts no call on that driver is shown, nor a step of what it
drives. -/
theorem calls_leave_other_devices_alone {config : Config} {endpoint : ShowingEndpoint} {steps : List LayerStep}
    (run : Run Separate (fresh config endpoint) steps layer) (separate : layer.Separate call)
    (live : layer.devices.get? id = some device) (beside : call.device? ≠ some id) :
    (∀ shown reply next, perform call layer = ⟨shown, .ok (reply, next)⟩ →
      next.devices.get? id = some device ∧ ∀ buffer, next.recorder ⟨id, buffer⟩ = layer.recorder ⟨id, buffer⟩) ∧
      ∀ event ∈ (perform call layer).events, event.driver? ≠ some device.driver.name := by
  constructor
  · intro shown reply next made
    have kept := reaches_beside (run_sound run) (ends_of_ok (ends_reaches layer call) made) live beside
    refine ⟨kept, fun buffer => ?_⟩
    simp only [Layer.recorder, Layer.device, kept, live]
  · have apart {after : Option Layer} {shown : List Event} (reaches : layer.Reaches call shown after) :=
      reaches_elsewhere (run_alone run) separate reaches live beside
    exact ends_events (ends_mono (ends_reaches layer call) (fun _ _ _ reaches => apart reaches)
      (fun _ _ reaches => apart reaches))

-- Two devices with a buffer each, under the same handle; then the first is destroyed.
def bereavement : List LayerStep :=
  (fresh (Config.default.withFrameList [0]) ⟨[], 0⟩).trace [
    .createDevice (.new "left" [] [] false) .empty,
    .createDevice (.new "right" [] [] false) .empty,
    .allocate ⟨0, 0⟩ .primary,
    .allocate ⟨1, 0⟩ .primary,
    .command ⟨⟨1, 0⟩, ⟨0, 0⟩⟩ (.dispatch 1 1 1),
    .destroyDevice ⟨0, 0⟩]

def bereaved : Layer := (fresh (Config.default.withFrameList [0]) ⟨[], 0⟩).outcome bereavement

theorem neighbour_of_reused_place :
    let call := LayerCall.createDevice (.new "third" [] [] false) .empty
    Run Separate (fresh (Config.default.withFrameList [0]) ⟨[], 0⟩) bereavement bereaved ∧ bereavement.length = 6 ∧
      bereaved.Separate call ∧ .call "third" .createEvent false ∈ (perform call bereaved).events ∧
      ∃ device shown next, bereaved.devices.get? ⟨1, 0⟩ = some device ∧ call.device? ≠ some ⟨1, 0⟩ ∧
        perform call bereaved = ⟨shown, .ok (.device ⟨0, 1⟩, next)⟩ ∧ next.devices.get? ⟨1, 0⟩ = some device ∧
        ∀ event ∈ (perform call bereaved).events, event.driver? ≠ some device.driver.name := by
  intro call
  have fits : ∀ step ∈ bereavement, ∀ driver ∈ step.call.driver?, driver.name ∉ step.before.driverNames := by
    decide +kernel
  have run : Run Separate (fresh (Config.default.withFrameList [0]) ⟨[], 0⟩) bereavement bereaved :=
    run_trace _ _ fun step member => separate_of_names (fits step member)
  have separate : bereaved.Separate call := separate_of_names (by decide +kernel)
  have there : (bereaved.devices.get? ⟨1, 0⟩).isSome = true := by decide +kernel
  have beside : call.device? ≠ some ⟨1, 0⟩ := by decide
  have replied : (bereaved.trace [call]).map (·.reply) = [.device ⟨0, 1⟩] := by decide +kernel
  obtain ⟨device, live⟩ := Option.isSome_iff_exists.mp there
  obtain ⟨shown, next, made⟩ := performs_replied replied
  obtain ⟨kept, apart⟩ := calls_leave_other_devices_alone run separate live beside
  exact ⟨run, by decide +kernel, separate, by decide +kernel, device, shown, next, live, beside, made,
    (kept shown _ next made).1, apart⟩

end Layer

end GpuProfiler
