import GpuProfiler.Proofs.Frames.Turns

set_option autoImplicit false

namespace GpuProfiler

namespace LayerStep

def begins (id : DeviceId) (step : LayerStep) : Bool :=
  match step.before.device id, step.after.device id with
  | .error _, .ok device => device.isProfiling
  | _, _ => false

-- The life of a device behind a step; where a device comes to be under its name, another one begins.
def live (id : DeviceId) (life : List LayerStep) (step : LayerStep) : List LayerStep :=
  if !(step.before.device id).isOk && (step.after.device id).isOk then [step]
  else if step.call.device? = some id then life ++ [step]
  else life

def lifeOf (id : DeviceId) (steps : List LayerStep) : List LayerStep := steps.foldl (live id) []

def accepted (step : LayerStep) : Bool :=
  match step.call.device? with
  | none => false
  | some id =>
    match step.before.device id with
    | .ok device => device.accepts step.call
    | .error _ => false

def closes (step : LayerStep) : Bool := step.accepted && step.call.bounds

def closings (steps : List LayerStep) : Nat := steps.countP closes

def Opens (step : LayerStep) (config : Config) (id : DeviceId) : Prop :=
  ∃ driver backend device, step.call = .createDevice driver backend ∧ step.after.device id = .ok device ∧
    device.session.Opened config backend step.shown

def Paced (step : LayerStep) (config : Config) (id : DeviceId) (frame : Nat) : Prop :=
  ∃ session next count, session.Turn config frame step.accepted step.call.bounds count step.shown next ∧
    (∀ device, step.before.device id = .ok device → device.session = session) ∧
    ∀ device, step.after.device id = .ok device → device.session = next ∧
      ∀ old, step.before.device id = .ok old → device.trapCycles = old.trapCycles + count

theorem life_concat (id : DeviceId) (steps : List LayerStep) (step : LayerStep) :
    lifeOf id (steps ++ [step]) = live id (lifeOf id steps) step := by
  rw [lifeOf, List.foldl_append]
  rfl

theorem inside_of_split {earlier later rest : List LayerStep} {step : LayerStep} (split : rest = earlier ++ step :: later) :
    earlier ++ [step] <+: rest := ⟨later, by rw [split, List.append_assoc]; rfl⟩

theorem closings_concat (steps : List LayerStep) (step : LayerStep) :
    closings (steps ++ [step]) = closings steps + step.closes.toNat := by
  rw [closings, List.countP_append, List.countP_singleton]
  cases step.closes <;> rfl

theorem accepted_gone {step : LayerStep} {id : DeviceId} (called : step.call.device? = some id)
    (gone : step.before.devices.get? id = none) : step.accepted = false := by
  simp [accepted, called, Layer.device, gone]

theorem accepted_live {step : LayerStep} {id : DeviceId} {device : ProfiledDevice}
    (called : step.call.device? = some id) (here : step.before.devices.get? id = some device) :
    step.accepted = device.accepts step.call := by
  simp [accepted, called, Layer.device, here]

theorem begins_iff (id : DeviceId) (step : LayerStep) :
    step.begins id = true ↔
      step.before.devices.get? id = none ∧ ∃ device, step.after.devices.get? id = some device ∧ device.isProfiling = true := by
  unfold begins Layer.device
  cases step.before.devices.get? id <;> cases step.after.devices.get? id <;> simp

theorem live_iff (id : DeviceId) (step : LayerStep) :
    (!(step.before.device id).isOk && (step.after.device id).isOk) = true ↔
      step.before.devices.get? id = none ∧ (step.after.devices.get? id).isSome = true := by
  unfold Layer.device
  cases step.before.devices.get? id <;> cases step.after.devices.get? id <;> simp [Except.isOk, Except.toBool]

end LayerStep

-- The attempts to sample that the ends of so many frames ask for, and the start of frame 0.
def Config.probings (config : Config) (frames : Nat) : Nat :=
  (config.isOfInterest 0).toNat + (List.range frames).countP config.probes

theorem Config.probings_succ (config : Config) (frames : Nat) :
    config.probings (frames + 1) = config.probings frames + (config.probes frames).toNat := by
  rw [probings, probings, List.range_succ, List.countP_append, List.countP_singleton, Nat.add_assoc]
  cases config.probes frames <;> rfl

namespace Layer

open LayerStep

structure Lives (layer : Layer) (config : Config) (id : DeviceId) (creation : LayerStep) (rest : List LayerStep) : Prop where
  opened : creation.Opens config id
  inFrame : ∀ device, layer.devices.get? id = some device → device.InFrame config (closings rest)
  attempts : ∀ device, layer.devices.get? id = some device →
    device.session.attempts = device.trapCycles + config.probings (closings rest)

variable {layer next : Layer} {call : LayerCall} {shown : List Event} {reply : LayerReply} {id : DeviceId} {config : Config}

theorem move_begins (sound : layer.Sound) (move : layer.Move call shown reply next) {device : ProfiledDevice}
    (gone : layer.devices.get? id = none) (there : next.devices.get? id = some device) :
    ∃ driver backend, call = .createDevice driver backend ∧ ProfiledDevice.Born driver device ∧
      next.devices = (layer.devices.insert device).2 ∧ id = (layer.devices.insert device).1 := by
  cases move with
  | looked | lost =>
    rw [gone] at there
    cases there
  | created driver backend new _ _ _ born devices =>
    rw [devices] at there
    rcases Arena.get_insert_cases sound.devices new there with before | ⟨_, given, rfl⟩
    · rw [gone] at before
      cases before
    · exact ⟨driver, backend, rfl, born, devices, given⟩
  | destroyed other _ _ _ _ _ devices =>
    rw [devices] at there
    rw [(Arena.get_remove_live there).2] at gone
    cases gone
  | within other _ _ moved _ _ _ _ live _ devices =>
    rw [devices] at there
    rcases Arena.get_set_cases other id moved device there with ⟨rfl, _, some⟩ | ⟨_, before⟩
    · rw [gone] at some
      cases some
    · rw [gone] at before
      cases before

theorem begins_opens (sound : layer.Sound) (configured : layer.config = config)
    (made : perform call layer = ⟨shown, .ok (reply, next)⟩)
    (begins : LayerStep.begins id ⟨layer, call, shown, reply, next⟩ = true) :
    next.Lives config id ⟨layer, call, shown, reply, next⟩ [] := by
  obtain ⟨gone, device, there, profiling⟩ := (begins_iff id _).mp begins
  have move := (Act.ends_of_ok (ends_perform sound call) made).1
  obtain ⟨driver, backend, rfl, born, inserted, given⟩ := move_begins sound move gone there
  obtain ⟨same, devices, opens⟩ := Act.ends_of_ok (ends_create_opens layer driver backend) made
  have known : same = device := by
    rw [devices] at there
    rcases Arena.get_insert_cases sound.devices same there with before | ⟨_, _, made⟩
    · rw [gone] at before
      cases before
    · exact made.symm
  rw [known, configured] at opens
  obtain ⟨inFrame, opened⟩ := opens profiling
  constructor
  · exact ⟨driver, backend, device, rfl, (device_ok next id device).mpr there, opened⟩
  · intro found also
    obtain rfl := Option.some.inj (there.symm.trans also)
    exact inFrame
  · intro found also
    obtain rfl := Option.some.inj (there.symm.trans also)
    obtain ⟨first, _, probe, _, unspent, _, _, probed⟩ := opened
    have unused : first.attempts = 0 := by
      rw [CounterSession.attempts, unspent]
      rfl
    rw [CounterSession.probed_attempts probed, unused, ProfiledDevice.cycles_born born]
    rfl

theorem move_within (move : layer.Move call shown reply next) (called : call.device? = some id) {moved : ProfiledDevice}
    (there : next.devices.get? id = some moved) :
    ∃ device, layer.devices.get? id = some device ∧ device.Move id call shown reply moved := by
  cases move with
  | looked _ _ nowhere =>
    rw [called] at nowhere
    cases nowhere
  | lost _ other _ made gone =>
    rw [called] at made
    cases made
    rw [gone] at there
    cases there
  | created => cases called
  | destroyed other _ _ _ _ _ devices =>
    cases called
    rw [devices, Arena.get_remove_here] at there
    cases there
  | within other _ device reached _ _ _ made live move devices =>
    rw [called] at made
    cases made
    rw [devices, Arena.get_set_here _ _ _ _ live] at there
    cases there
    exact ⟨device, live, move⟩

theorem move_absent (move : layer.Move call shown reply next) (called : call.device? = some id)
    (absent : next.devices.get? id = none) : (layer.devices.get? id = none ∧ shown = []) ∨ call = .destroyDevice id := by
  cases move with
  | looked _ _ nowhere =>
    rw [called] at nowhere
    cases nowhere
  | lost => exact .inl ⟨absent, rfl⟩
  | created => cases called
  | destroyed other _ _ _ _ _ _ =>
    cases called
    exact .inr rfl
  | within other _ _ _ _ _ _ made live _ devices =>
    rw [called] at made
    cases made
    rw [devices, Arena.get_set_here _ _ _ _ live] at absent
    cases absent

theorem called_turns (sound : layer.Sound) {frame : Nat}
    (inFrame : ∀ device, layer.devices.get? id = some device → device.InFrame config frame)
    (called : call.device? = some id) (made : perform call layer = ⟨shown, .ok (reply, next)⟩) :
    (LayerStep.accepted ⟨layer, call, shown, reply, next⟩ = false ∧ Event.beats shown = [] ∧ next.devices.get? id = none) ∨
      ∃ device moved, layer.devices.get? id = some device ∧ next.devices.get? id = some moved ∧
        device.Turned config frame call shown moved := by
  have move := (Act.ends_of_ok (ends_perform sound call) made).1
  cases there : next.devices.get? id with
  | some moved =>
    obtain ⟨device, here, _⟩ := move_within move called there
    exact .inr ⟨device, moved, here, rfl, perform_turns called here (inFrame device here) made there⟩
  | none =>
    rcases move_absent move called there with ⟨gone, rfl⟩ | rfl
    · exact .inl ⟨accepted_gone called gone, rfl, rfl⟩
    · refine .inl ⟨?_, (Act.ends_of_ok (ends_destroy_beats layer id) made).1, rfl⟩
      cases here : layer.devices.get? id with
      | none => exact accepted_gone rfl here
      | some device => exact accepted_live rfl here

theorem called_paced (sound : layer.Sound) {frame : Nat}
    (inFrame : ∀ device, layer.devices.get? id = some device → device.InFrame config frame)
    (called : call.device? = some id) (made : perform call layer = ⟨shown, .ok (reply, next)⟩) :
    LayerStep.Paced ⟨layer, call, shown, reply, next⟩ config id frame := by
  simp only [Paced, device_ok]
  rcases called_turns sound inFrame called made with ⟨unaccepted, silent, absent⟩ | ⟨device, moved, here, there, turned⟩
  · obtain ⟨session, same⟩ : ∃ session : CounterSession Backend,
        ∀ device, layer.devices.get? id = some device → device.session = session := by
      cases layer.devices.get? id with
      | none => exact ⟨⟨.empty, [], ⟨0, 0, 0⟩⟩, fun _ never => (nomatch never)⟩
      | some device => exact ⟨device.session, fun _ same => by rw [Option.some.inj same]⟩
    rw [unaccepted]
    refine ⟨session, session, 0, .passed _ shown silent, same, ?_⟩
    intro device never
    rw [absent] at never
    cases never
  · obtain ⟨count, turn, _, cycles, _⟩ := turned
    rw [accepted_live called here]
    refine ⟨device.session, moved.session, count, turn, ?_, ?_⟩
    · intro found same
      obtain rfl := Option.some.inj (here.symm.trans same)
      rfl
    · intro found same
      obtain rfl := Option.some.inj (there.symm.trans same)
      refine ⟨rfl, fun old before => ?_⟩
      obtain rfl := Option.some.inj (here.symm.trans before)
      exact cycles

theorem lives_called (sound : layer.Sound) {creation : LayerStep} {rest : List LayerStep}
    (lives : layer.Lives config id creation rest) (called : call.device? = some id)
    (made : perform call layer = ⟨shown, .ok (reply, next)⟩) :
    next.Lives config id creation (rest ++ [⟨layer, call, shown, reply, next⟩]) := by
  rcases called_turns sound lives.inFrame called made with ⟨_, _, absent⟩ | ⟨device, moved, here, there, turned⟩
  · constructor
    · exact lives.opened
    · intro found never
      rw [absent] at never
      cases never
    · intro found never
      rw [absent] at never
      cases never
  · obtain ⟨count, turn, opened, cycles, _⟩ := turned
    have counted : closings (rest ++ [⟨layer, call, shown, reply, next⟩]) =
        closings rest + (device.accepts call && call.bounds).toNat := by
      rw [closings_concat, closes, accepted_live called here]
    constructor
    · exact lives.opened
    · intro found same
      obtain rfl := Option.some.inj (there.symm.trans same)
      rw [counted]
      exact opened
    · intro found same
      obtain rfl := Option.some.inj (there.symm.trans same)
      rw [counted, cycles, CounterSession.turn_attempts turn, lives.attempts device here]
      cases (device.accepts call && call.bounds) with
      | false =>
        rw [Bool.false_and, Bool.toNat_false, Nat.add_zero, Nat.add_zero]
        exact Nat.add_right_comm _ _ _
      | true =>
        rw [Bool.true_and, Bool.toNat_true, Config.probings_succ]
        omega

theorem move_beside (sound : layer.Sound) (move : layer.Move call shown reply next) (elsewhere : call.device? ≠ some id)
    {device : ProfiledDevice} (there : next.devices.get? id = some device)
    (old : layer.devices.get? id ≠ none) : layer.devices.get? id = some device := by
  cases move with
  | looked | lost => exact there
  | created _ _ new _ _ _ _ devices =>
    rw [devices] at there
    rcases Arena.get_insert_cases sound.devices new there with before | ⟨vacant, _, _⟩
    · exact before
    · exact absurd vacant old
  | destroyed _ _ _ _ _ _ devices =>
    rw [devices] at there
    exact (Arena.get_remove_live there).2
  | within other _ _ moved _ _ _ made _ _ devices =>
    have apart : id ≠ other := fun same => elsewhere (same ▸ made)
    rw [devices, Arena.get_set_elsewhere _ _ _ _ apart] at there
    exact there

theorem life_step (sound : layer.Sound) (made : perform call layer = ⟨shown, .ok (reply, next)⟩) {steps rest : List LayerStep}
    {creation : LayerStep} (life : lifeOf id (steps ++ [⟨layer, call, shown, reply, next⟩]) = creation :: rest)
    (begins : creation.begins id = true) :
    (creation = ⟨layer, call, shown, reply, next⟩ ∧ rest = []) ∨
      (call.device? = some id ∧ ∃ before, lifeOf id steps = creation :: before ∧
        rest = before ++ [⟨layer, call, shown, reply, next⟩]) ∨
      (call.device? ≠ some id ∧ lifeOf id steps = creation :: rest ∧
        ∀ device, next.devices.get? id = some device → layer.devices.get? id = some device) := by
  have move := (Act.ends_of_ok (ends_perform sound call) made).1
  rw [life_concat] at life
  by_cases comes : (!(layer.device id).isOk && (next.device id).isOk) = true
  · simp only [live, comes, if_true, List.cons.injEq] at life
    exact .inl ⟨life.1.symm, life.2.symm⟩
  · by_cases called : call.device? = some id
    · simp only [live, comes, called, Bool.false_eq_true, if_false, if_true] at life
      refine .inr (.inl ⟨called, ?_⟩)
      cases before : lifeOf id steps with
      | nil =>
        rw [before] at life
        obtain ⟨rfl, _⟩ := List.cons.inj life
        obtain ⟨gone, device, there, _⟩ := (begins_iff id _).mp begins
        obtain ⟨driver, backend, rfl, _⟩ := move_begins sound move gone there
        cases called
      | cons first calls =>
        rw [before] at life
        obtain ⟨rfl, rfl⟩ := List.cons.inj life
        exact ⟨calls, rfl, rfl⟩
    · simp only [live, comes, called, Bool.false_eq_true, if_false] at life
      refine .inr (.inr ⟨called, life, ?_⟩)
      intro device there
      apply move_beside sound move called there
      intro gone
      apply comes
      rw [live_iff id ⟨layer, call, shown, reply, next⟩, there]
      exact ⟨gone, rfl⟩

theorem run_lives {allowed : Layer → LayerCall → Prop} {endpoint : ShowingEndpoint} {steps : List LayerStep}
    (run : Run allowed (fresh config endpoint) steps layer) : ∀ creation rest, lifeOf id steps = creation :: rest →
      creation.begins id = true → layer.Lives config id creation rest := by
  induction run with
  | start => exact fun creation rest never => (nomatch never)
  | step steps layer next call shown reply run admitted made ih =>
    intro creation rest life begins
    have sound := run_sound run
    rcases life_step sound made life begins with ⟨rfl, rfl⟩ | ⟨called, before, earlier, rfl⟩ | ⟨_, earlier, stays⟩
    · exact begins_opens sound (run_configured run) made begins
    · exact lives_called sound (ih creation before earlier begins) called made
    · have lives := ih creation rest earlier begins
      exact ⟨lives.opened, fun device there => lives.inFrame device (stays device there),
        fun device there => lives.attempts device (stays device there)⟩

theorem life_prefix {allowed : Layer → LayerCall → Prop} {endpoint : ShowingEndpoint} {steps : List LayerStep}
    (run : Run allowed (fresh config endpoint) steps layer) {creation : LayerStep} {rest : List LayerStep}
    (life : lifeOf id steps = creation :: rest) (begins : creation.begins id = true) {earlier : List LayerStep}
    {step : LayerStep} (inside : earlier ++ [step] <+: rest) :
    ∃ before, Run allowed (fresh config endpoint) before step.before ∧ lifeOf id before = creation :: earlier ∧
      step.call.device? = some id ∧ perform step.call step.before = ⟨step.shown, .ok (step.reply, step.after)⟩ := by
  induction run generalizing rest with
  | start => cases life
  | step steps layer next call shown reply run admitted made ih =>
    rcases life_step (run_sound run) made life begins with ⟨_, rfl⟩ | ⟨called, before, known, rfl⟩ | ⟨_, known, _⟩
    · simp at inside
    · rcases List.prefix_concat_iff.mp inside with whole | inner
      · obtain ⟨rfl, same⟩ := List.append_inj' whole rfl
        obtain rfl := List.singleton_inj.mp same
        exact ⟨steps, run, known, called, made⟩
      · exact ih known inner
    · exact ih known inside

theorem run_paced {allowed : Layer → LayerCall → Prop} {endpoint : ShowingEndpoint} {steps : List LayerStep}
    (run : Run allowed (fresh config endpoint) steps layer) {creation : LayerStep} {rest : List LayerStep}
    (life : lifeOf id steps = creation :: rest) (begins : creation.begins id = true) {earlier : List LayerStep}
    {step : LayerStep} (inside : earlier ++ [step] <+: rest) : step.Paced config id (closings earlier) := by
  obtain ⟨before, reached, known, called, made⟩ := life_prefix run life begins inside
  exact called_paced (run_sound reached) (run_lives reached creation earlier known begins).inFrame called made

end Layer

end GpuProfiler
