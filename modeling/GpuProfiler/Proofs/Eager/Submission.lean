import GpuProfiler.Proofs.Eager.Device

set_option autoImplicit false

namespace GpuProfiler

open Act Event

def Driven (shown : List Event) : Prop := ∀ event ∈ shown, event.ofDriver = true

def Announced (shown : List Event) : Prop := ∀ event ∈ shown, event.isMessage = true ∨ event.isNote = true

theorem driven_or_announced {shown told : List Event} (driven : Driven shown) (announced : Announced told) :
    ∀ kind ∈ strands, shown.filter kind = [] ∨ told.filter kind = [] := by
  have apart (kind : Event → Bool) (none : ∀ event, event.ofDriver = true → kind event = false) : shown.filter kind = [] := by
    apply List.filter_eq_nil_iff.mpr
    intro event member
    rw [none event (driven event member)]
    exact Bool.false_ne_true
  intro kind strand
  simp only [strands, List.mem_cons, List.not_mem_nil, or_false] at strand
  obtain rfl | rfl | rfl := strand
  · right
    apply List.filter_eq_nil_iff.mpr
    intro event member
    cases event with
    | call | progress =>
      obtain sent | noted := announced _ member
      · cases sent
      · cases noted
    | _ => exact Bool.false_ne_true
  · left
    apply apart
    intro event ofDriver
    cases event <;> first | rfl | cases ofDriver
  · left
    apply apart
    intro event ofDriver
    cases event <;> first | rfl | cases ofDriver

namespace Driver

variable {driver : Driver}

theorem driven_work (ops : List DeviceOp) : Ends (work ops) driver (fun shown _ _ => Driven shown) (fun _ _ => False) := by
  induction ops generalizing driver with
  | nil => exact List.forall_mem_nil _
  | cons op rest ih =>
    simp only [work, ends_bind, ends_get]
    cases op.step? driver.signalled with
    | none => exact List.forall_mem_nil _
    | some moved =>
      simp only [ends_bind, ends_set, ends_emit]
      refine ends_mono ih ?_ (fun _ _ never => never)
      intro shown _ _ driven
      exact List.forall_mem_cons.mpr ⟨rfl, driven⟩

theorem driven_queue_submit (queue : RawQueue) (batches : List (List RawBuffer)) :
    Ends (queueSubmit queue batches) driver (fun shown _ _ => Driven shown) (fun _ _ => False) := by
  simp only [queueSubmit, ends_try_call]
  split
  · exact List.forall_mem_cons.mpr ⟨rfl, List.forall_mem_nil _⟩
  · simp only [advance, ends_bind, ends_modify, ends_get]
    refine ends_mono (driven_work _) ?_ (fun _ _ never => never)
    intro shown _ _ driven
    exact List.forall_mem_cons.mpr ⟨rfl, driven⟩

end Driver

namespace DeviceScope

section Marks

variable {s : DeviceScope}

theorem announced_emit_if (condition : Bool) (message : Message) :
    Ends (emitIf condition message) s (fun shown _ next => Announced shown ∧ next.device = s.device) (fun _ _ => False) := by
  cases condition with
  | false => exact ⟨List.forall_mem_nil _, rfl⟩
  | true =>
    simp only [emitIf, if_true, ends_on]
    refine ends_mono (Sender.ends_emit message _) ?_ (fun _ _ never => never)
    intro shown _ _ told
    obtain ⟨failed, notes, rfl, noted⟩ := told
    exact ⟨List.forall_mem_cons.mpr ⟨.inl rfl, fun event member => .inr (noted event member)⟩, rfl⟩

theorem announced_apply {transition : FrameTransition} (unsampled : transition.actions.needsSample = false) :
    Ends (apply transition) s (fun shown _ next => Announced shown ∧ next.device = s.device) (fun _ _ => False) := by
  simp only [apply, ends_bind, unsampled, Bool.false_eq_true, if_false, ends_pure]
  refine ends_mono (announced_emit_if _ _) ?_ (fun _ _ never => never)
  intro shown _ middle first
  obtain ⟨announced, same⟩ := first
  refine ends_mono (announced_emit_if _ _) ?_ (fun _ _ never => never)
  intro later _ next second
  obtain ⟨also, still⟩ := second
  rw [List.append_nil]
  exact ⟨List.forall_mem_append.mpr ⟨announced, also⟩, still.trans same⟩

theorem beside_apply {transition : FrameTransition} (unsampled : transition.actions.needsSample = false) (driver : Driver) :
    Through (driverPart.set driver) (apply transition) := by
  have beside (condition : Bool) (message : Message) : Through (driverPart.set driver) (emitIf condition message) := by
    unfold emitIf
    split
    · exact through_aside (fun _ => rfl) fun _ _ => rfl
    · exact through_pure ()
  refine through_bind (beside _ _) fun _ => through_bind (beside _ _) fun _ => ?_
  rw [unsampled]
  exact through_pure ()

theorem announced_finish {transition : Option FrameTransition} (unsampled : transitionSamples s.device transition = false) :
    Ends (finishIfAny transition) s (fun shown _ next => Announced shown ∧ next.device = s.device) (fun _ _ => False) := by
  cases transition with
  | none => exact ⟨List.forall_mem_nil _, rfl⟩
  | some transition =>
    simp only [finishIfAny, finishFrame, ends_bind, ends_get]
    split
    · next profiling =>
      rw [transitionSamples, ProfiledDevice.transitionSamples, profiling, Bool.true_and] at unsampled
      exact announced_apply unsampled
    · exact ⟨List.forall_mem_nil _, rfl⟩

theorem beside_finish {transition : Option FrameTransition} (unsampled : transitionSamples s.device transition = false)
    (driver : Driver) :
    finishIfAny transition (driverPart.set driver s) = (finishIfAny transition s).onto (driverPart.set driver) := by
  cases transition with
  | none => rfl
  | some transition =>
    have same : (driverPart.set driver s).device.isProfiling = s.device.isProfiling := rfl
    rw [finishIfAny, finishFrame, get_bind, get_bind, same]
    split
    · next profiling =>
      rw [transitionSamples, ProfiledDevice.transitionSamples, profiling, Bool.true_and] at unsampled
      exact beside_apply unsampled driver s
    · rfl

end Marks

variable {kinds : List (Event → Bool)} {s t : DeviceScope} {queue : QueueHandle} {buffers : List BufferHandle}

theorem bare_cases (same : s.bare = t.bare) : ∃ registry : Registry, registry.bare = t.device.registry.bare ∧
    s = { t with device := { t.device with registry := registry } } := by
  obtain ⟨⟨driver, config, registry, frame, trap, session⟩, shared⟩ := s
  obtain ⟨⟨driver', config', registry', frame', trap', session'⟩, shared'⟩ := t
  simp only [bare, ProfiledDevice.bare, DeviceScope.mk.injEq, ProfiledDevice.mk.injEq] at same
  obtain ⟨⟨rfl, rfl, kept, rfl, rfl, rfl⟩, rfl⟩ := same
  exact ⟨registry, kept, rfl⟩

theorem agrees_replay (same : s.bare = t.bare) (queue : QueueHandle) (buffers : List BufferHandle) :
    Ran.Agrees kinds bare (replay queue buffers s) (replay queue buffers t) := by
  have trap : s.device.trap = t.device.trap := congrArg (fun s => s.device.trap) same
  rw [replay, get_bind, get_bind, trap]
  cases t.device.trap with
  | none => exact agrees_through (through_pure _) same
  | some trap =>
    obtain ⟨registry, kept, rfl⟩ := bare_cases same
    refine agrees_on (agrees_bind (Registry.agrees_replays kept Sampler.visit queue buffers _) ?_) ?_
    · intro answer u v seen
      cases answer with
      | error error => exact Ran.agrees_onto (congrArg (fun both => Ran.mk [] (.ok (Except.error error, both))) seen)
      | ok records =>
        have noted : Through Registry.seen (do
            Act.note (.replayed records (← Act.get).2.sampled)
            return .ok () : Act (Registry × Sampler) (Except Error Unit)) := through_from fun _ => rfl
        exact agrees_through noted seen
    · intro u v seen
      obtain ⟨registry, sampler⟩ := Prod.mk.inj seen
      simp only [bare, ProfiledDevice.bare, samplingPart, sampler]
      rw [registry]

theorem ends_replay_untrapped (accepts : s.device.registry.Accepts queue buffers)
    (untrapped : s.device.registry.hasTraps buffers = false) :
    Ends (replay queue buffers) s (fun shown answer next => (∀ event ∈ shown, event.isNote = true) ∧ answer = .ok () ∧
      next.bare = s.bare) (fun _ _ => False) := by
  obtain ⟨_, replays⟩ := Registry.replays_accepted accepts
  simp only [replay, ends_bind, ends_get]
  cases held : s.device.trap with
  | none => exact ⟨List.forall_mem_nil _, rfl, rfl⟩
  | some trap =>
    simp only [ends_on, ends_bind]
    refine ends_mono (replays.passes untrapped _) ?_ (fun _ _ never => never)
    intro shown answer next silent
    obtain ⟨notes, answered, kept, sampler⟩ := silent
    cases answer with
    | error error => cases answered
    | ok records =>
      simp only [ends_bind, ends_get, ends_note, ends_pure]
      refine ⟨?_, trivial, ?_⟩
      · rw [List.nil_append, List.append_nil]
        exact List.forall_mem_append.mpr ⟨notes, List.forall_mem_singleton.mpr rfl⟩
      · simp only [bare, ProfiledDevice.bare, samplingPart, sampler]
        rw [kept, held]

theorem agrees_replay_if_untrapped (same : s.bare = t.bare) (accepts : s.device.registry.Accepts queue buffers)
    (untrapped : s.device.registry.hasTraps buffers = false) (wanted : Bool) :
    Ran.Agrees strands bare (replayIf wanted queue buffers s) (replayIf false queue buffers t) := by
  cases wanted with
  | false => exact agrees_through (through_pure ()) same
  | true =>
    have silent : Ends (replay queue buffers) s (fun shown answer next =>
        (∀ kind ∈ strands, shown.filter kind = []) ∧ answer = .ok () ∧ next.bare = s.bare) (fun _ _ => False) := by
      refine ends_mono (ends_replay_untrapped accepts untrapped) ?_ (fun _ _ never => never)
      intro shown _ next done
      exact ⟨fun kind strand => strands_notes strand done.1, done.2⟩
    refine agrees_aside silent fun answer u reached => ?_
    obtain ⟨rfl, kept⟩ := reached
    exact agrees_through (through_pure ()) (kept.trans same)

variable {raw : RawQueue} {batches : List (List RawBuffer)} {endsFrame : Bool}

def passOn (replays : Bool) (queue : QueueHandle) (raw : RawQueue) (batches : List (List RawBuffer))
    (buffers : List BufferHandle) (transition : Option FrameTransition) : Act DeviceScope (Except Error Unit) := do
  let samples := transitionSamples (← Act.get).device transition
  if !replays && !samples then
    finishIfAny transition
    Act.on driverPart (Driver.queueSubmit raw batches)
  else
    let result ← Act.on driverPart (Driver.queueSubmit raw batches)
    replayIf (replays && result.isOk) queue buffers
    finishIfAny transition
    return result

theorem samples_same (same : s.bare = t.bare) (transition : Option FrameTransition) :
    transitionSamples s.device transition = transitionSamples t.device transition := by
  have kept (s : DeviceScope) : transitionSamples s.bare.device transition = transitionSamples s.device transition := by
    cases transition <;> rfl
  rw [← kept s, ← kept t, same]

theorem agrees_replay_if (same : s.bare = t.bare) (wanted : Bool) (queue : QueueHandle) (buffers : List BufferHandle) :
    Ran.Agrees kinds bare (replayIf wanted queue buffers s) (replayIf wanted queue buffers t) := by
  unfold replayIf
  split
  · exact agrees_bind (agrees_replay same queue buffers) fun answer u v seen => agrees_through (through_note_failure _ answer) seen
  · exact agrees_through (through_pure ()) same

theorem agrees_concluded {act other : Act DeviceScope Unit} {transition : Option FrameTransition} {result : Except Error Unit}
    (replayed : Ran.Agrees kinds bare (act s) (other t)) :
    Ran.Agrees kinds bare ((do act; finishIfAny transition; return result) s)
      ((do other; finishIfAny transition; return result) t) :=
  agrees_bind replayed fun _ _ _ seen =>
    agrees_through (through_bind (through_finish_if_any transition) fun _ => through_pure result) seen

theorem agrees_pass_on (same : s.bare = t.bare) (replays : Bool) (transition : Option FrameTransition) :
    Ran.Agrees kinds bare (passOn replays queue raw batches buffers transition s)
      (passOn replays queue raw batches buffers transition t) := by
  rw [passOn, get_bind, get_bind, samples_same same]
  split
  · exact agrees_through (through_bind (through_finish_if_any transition) fun _ => through_driver _) same
  · exact agrees_bind (agrees_through (through_driver _) same) fun result _ _ seen =>
      agrees_concluded (agrees_replay_if seen _ queue buffers)

theorem agrees_pass_on_untrapped (same : s.bare = t.bare) (accepts : s.device.registry.Accepts queue buffers)
    (untrapped : s.device.registry.hasTraps buffers = false) (transition : Option FrameTransition) :
    Ran.Agrees strands bare (passOn true queue raw batches buffers transition s)
      (passOn false queue raw batches buffers transition t) := by
  have registered : Ends (Act.on driverPart (Driver.queueSubmit raw batches)) s
      (fun _ _ u => u.device.registry = s.device.registry) (fun _ _ => True) :=
    leaves_on (fun _ _ => rfl) _ s
  have replayed : Ran.Agrees strands bare
      ((do
        let result ← Act.on driverPart (Driver.queueSubmit raw batches)
        replayIf (true && result.isOk) queue buffers
        finishIfAny transition
        return result) s)
      ((do
        let result ← Act.on driverPart (Driver.queueSubmit raw batches)
        replayIf (false && result.isOk) queue buffers
        finishIfAny transition
        return result) t) := by
    refine agrees_then (agrees_through (through_driver _) same) registered fun result u v kept seen => ?_
    rw [← kept] at accepts untrapped
    exact agrees_concluded (agrees_replay_if_untrapped seen accepts untrapped _)
  rw [passOn, passOn, get_bind, get_bind, samples_same same]
  cases samples : transitionSamples t.device transition with
  | true => exact replayed
  | false =>
    -- The marks of the boundary come before the submission in one case and behind it in the other.
    have marked : Ends (finishIfAny transition) t
        (fun shown _ next => Announced shown ∧ next.device.driver = t.device.driver) (fun _ _ => False) :=
      ends_mono (announced_finish samples) (fun _ _ _ done => ⟨done.1, congrArg _ done.2⟩) (fun _ _ never => never)
    exact Ran.agrees_trans replayed (agrees_swap (Driver.driven_queue_submit raw batches) marked (beside_finish samples)
      fun _ _ => driven_or_announced)

theorem agrees_submit (same : s.bare = t.bare) (accepts : s.device.registry.Accepts queue buffers) :
    Ran.Agrees strands bare (submit (fun device _ => device.isProfiling) queue raw batches buffers endsFrame s)
      (submit ProfiledDevice.needsReplay queue raw batches buffers endsFrame t) := by
  have noted : Ends noteSubmit s (fun _ _ u => u.device.registry = s.device.registry) (fun _ _ => True) :=
    leaves_on (fun _ _ => rfl) _ s
  rw [submit, submit]
  refine agrees_then (agrees_through through_note_submit same) noted fun _ u v kept seen => ?_
  have advanced : Ends (advanceIf endsFrame) u (fun _ _ w => w.device.registry = u.device.registry) (fun _ _ => True) := by
    cases endsFrame with
    | false => exact rfl
    | true =>
      have framed : Leaves (fun s : DeviceScope => s.device.registry) advanceFrame :=
        leaves_bind leaves_get fun _ => leaves_on (fun _ _ => rfl) _
      exact leaves_bind framed (fun _ => leaves_pure _) u
  rw [get_bind, get_bind]
  refine agrees_then (agrees_through (through_advance_if endsFrame) seen) advanced fun transition first second still alike => ?_
  rw [← kept, ← still] at accepts
  have profiling : u.device.isProfiling = v.device.isProfiling := congrArg (fun s => s.device.isProfiling) seen
  have traps : u.device.registry.hasTraps buffers = v.device.registry.hasTraps buffers :=
    congrArg (fun s => s.device.registry.hasTraps buffers) seen
  show Ran.Agrees strands bare (passOn u.device.isProfiling queue raw batches buffers transition first)
    (passOn (v.device.isProfiling && v.device.registry.hasTraps buffers) queue raw batches buffers transition second)
  rw [← profiling, ← traps]
  cases stops : u.device.registry.hasTraps buffers with
  | true =>
    rw [Bool.and_true]
    exact agrees_pass_on alike _ transition
  | false =>
    rw [Bool.and_false]
    rw [← still] at stops
    cases u.device.isProfiling with
    | false => exact agrees_pass_on alike false transition
    | true => exact agrees_pass_on_untrapped alike accepts stops transition

end DeviceScope

end GpuProfiler
