import Mathlib.Data.Bool.Count
import Mathlib.Data.List.Forall2
import GpuProfiler.Proofs.Indifference.Layer
import GpuProfiler.Proofs.Layer.Run

set_option autoImplicit false

namespace GpuProfiler

open Act Watched

structure Sender.Accounts (sender : Sender ShowingEndpoint) (shown : List Event) : Prop where
  total : sender.sent + sender.dropped = (Event.sendings shown).length
  dropped : sender.dropped = (Event.sendings shown).count true

structure Layer.Agrees (layer other : Layer) : Prop where
  index : ∀ id, layer.frameIndex id = other.frameIndex id
  phase : ∀ id, layer.framePhase id = other.framePhase id
  cycles : ∀ id, layer.trapCycles id = other.trapCycles id
  recordings : ∀ buffer, layer.recorder buffer = other.recorder buffer

structure LayerStep.Indifferent (steady : Bool) (step other : LayerStep) : Prop where
  reply : step.reply = other.reply
  shown : Event.firm steady step.shown = Event.firm steady other.shown
  after : step.after.Agrees other.after

namespace Layer

-- Two runs that end or halt alike, with what is firm the same on the whole and step by step.
structure Indifferent (steady : Bool) (layer other : Layer) (calls changed : List LayerCall) : Prop where
  outcome : (performAll calls layer).outcome.map Prod.fst = (performAll changed other).outcome.map Prod.fst
  shown : Event.firm steady (performAll calls layer).events = Event.firm steady (performAll changed other).events
  steps : List.Forall₂ (LayerStep.Indifferent steady) (layer.trace calls) (other.trace changed)

def Accounted (layer : Layer) (calls : List LayerCall) : Prop :=
  ∀ done, done <+: layer.trace calls → (layer.outcome done).shared.sender.Accounts (done.flatMap (·.shown))

variable {steady : Bool} {s t : Layer} {calls changed : List LayerCall}

theorem agrees_outlined (outlined : Akin steady s t) : s.Agrees t :=
  ⟨device_reads (·.frame.index) (fun _ => rfl) outlined, device_reads (·.frame.phase) (fun _ => rfl) outlined,
    device_reads (·.trapCycles) (fun _ => rfl) outlined, recorder_same outlined⟩

theorem in_step_perform_all (resembles : List.Forall₂ LayerCall.Resembles calls changed)
    (agree : steady = true → calls = changed) : InStep steady (· = ·) (performAll calls) (performAll changed) := by
  induction resembles with
  | nil => exact in_step_pure rfl
  | cons here _ ih =>
    apply in_step_bind (in_step_perform here fun steadily => (List.cons.inj (agree steadily)).1)
    intro reply _ same
    cases same
    apply in_step_bind (ih fun steadily => (List.cons.inj (agree steadily)).2)
    intro replies _ same
    cases same
    exact in_step_pure rfl

theorem trace_indifferent (resembles : List.Forall₂ LayerCall.Resembles calls changed)
    (agree : steady = true → calls = changed) (outlined : Akin steady s t) :
    List.Forall₂ (LayerStep.Indifferent steady) (s.trace calls) (t.trace changed) := by
  induction resembles generalizing s t with
  | nil => exact .nil
  | @cons call other rest others here _ ih =>
    have abreast := in_step_perform here (fun steadily => (List.cons.inj (agree steadily)).1) s t outlined
    unfold trace
    generalize perform call s = ran at abreast ⊢
    generalize perform other t = went at abreast ⊢
    cases abreast with
    | halted => exact .nil
    | ended shown told reply also next after firm same ended =>
      refine .cons ⟨same, firm, agrees_outlined ended⟩ ?_
      exact ih (fun steadily => (List.cons.inj (agree steadily)).2) ended

theorem runs_indifferent (resembles : List.Forall₂ LayerCall.Resembles calls changed)
    (agree : steady = true → calls = changed) (outlined : Akin steady s t) :
    Indifferent steady s t calls changed := by
  have steps := trace_indifferent resembles agree outlined
  have abreast := in_step_perform_all resembles agree s t outlined
  generalize made : performAll calls s = ran at abreast
  generalize done : performAll changed t = went at abreast
  cases abreast with
  | halted shown told reason firm => exact ⟨by rw [made, done], by rw [made, done]; exact firm, steps⟩
  | ended shown told replies others _ _ firm same =>
    cases same
    exact ⟨by rw [made, done]; rfl, by rw [made, done]; exact firm, steps⟩

theorem ends_perform_tallied (call : LayerCall) (layer : Layer) :
    Ends (perform call) layer (fun shown _ next => Tallied layer shown next) (fun _ _ => True) := by
  have abreast : Abreast true (· = ·) layer layer (perform call layer) (perform call layer) :=
    in_step_perform (.same call) (fun _ => rfl) layer layer rfl
  unfold Ends
  generalize perform call layer = ran at abreast ⊢
  cases abreast with
  | halted => trivial
  | ended _ _ _ _ _ _ _ _ _ tallied => exact tallied

theorem tallied_prefix (calls : List LayerCall) (layer : Layer) {done : List LayerStep}
    (ahead : done <+: layer.trace calls) : Tallied layer (done.flatMap (·.shown)) (layer.outcome done) := by
  induction calls generalizing layer done with
  | nil =>
    cases List.prefix_nil.mp ahead
    exact tallied_same layer rfl
  | cons call rest ih =>
    cases done with
    | nil => exact tallied_same layer rfl
    | cons step more =>
      rcases made : perform call layer with ⟨shown, reason | ⟨reply, next⟩⟩
      · simp [trace, made] at ahead
      · simp only [trace, made, List.cons_prefix_cons] at ahead
        obtain ⟨rfl, further⟩ := ahead
        have first : Tallied layer shown next := ends_of_ok (ends_perform_tallied call layer) made
        have last : layer.outcome (⟨layer, call, shown, reply, next⟩ :: more) = next.outcome more := by
          cases more <;> rfl
        rw [last, List.flatMap_cons]
        exact tallied_append first (ih next further)

theorem accounted (config : Config) (endpoint : ShowingEndpoint) (calls : List LayerCall) :
    (fresh config endpoint).Accounted calls := by
  intro done ahead
  have tallied := tallied_prefix calls _ ahead
  have sent : _ = 0 + _ := tallied false
  have dropped : _ = 0 + _ := tallied true
  rw [Nat.zero_add] at sent dropped
  refine ⟨?_, dropped⟩
  rw [← List.count_true_add_count_false, ← sent, ← dropped]
  exact Nat.add_comm _ _

/-- However samples, reads and sendings are answered, the replies are the same, the drivers get the
same calls and their devices do the same, up to where a run halts if it does; after each call frames,
recordings and trap cycles are the same. Where only endpoints differ, so are the calls on the counters
and the messages. Each message is counted once, as dropped if it could not be sent and else as sent. -/
theorem failures_never_surface (config : Config) (endpoint other : ShowingEndpoint) (calls changed : List LayerCall)
    (resembles : List.Forall₂ LayerCall.Resembles calls changed) :
    Indifferent false (fresh config endpoint) (fresh config other) calls changed ∧
      (calls = changed → Indifferent true (fresh config endpoint) (fresh config other) calls changed) ∧
      (fresh config endpoint).Accounted calls ∧ (fresh config other).Accounted changed :=
  ⟨runs_indifferent resembles (fun never => nomatch never) rfl,
    fun same => runs_indifferent resembles (fun _ => same) rfl, accounted config endpoint calls,
    accounted config other changed⟩

def sampledDispatch (script : Script) : List LayerCall := [
  .createDevice (.new "gpu" [] [40] false) (.scripted (.new script)),
  .getQueue ⟨0, 0⟩ 0 0,
  .allocate ⟨0, 0⟩ .primary,
  .beginBuffer ⟨⟨0, 0⟩, ⟨0, 0⟩⟩,
  .command ⟨⟨0, 0⟩, ⟨0, 0⟩⟩ (.dispatch 1 1 1),
  .endBuffer ⟨⟨0, 0⟩, ⟨0, 0⟩⟩,
  .submit ⟨⟨0, 0⟩, ⟨0, 0⟩⟩ [⟨[⟨⟨0, 0⟩, ⟨0, 0⟩⟩], false⟩],
  .present ⟨⟨0, 0⟩, ⟨0, 0⟩⟩,
  .trapCycles ⟨0, 0⟩]

def answering : Script := ⟨[⟨0, "busy", .integer⟩], [], [(0, [.value (.integer 7)])]⟩

def failing : Script := ⟨[⟨0, "busy", .integer⟩], [(1, .sampleFailed)], [(0, [.error (.counterReadFailed 0)])]⟩

def sampledLayer (failures : List Nat) : Layer :=
  fresh ((Config.default.withFrameList [0]).withSampleFrames true) ⟨failures, 0⟩

theorem sampled_dispatch_resembles (script other : Script) :
    List.Forall₂ LayerCall.Resembles (sampledDispatch script) (sampledDispatch other) :=
  .cons (.created _ _ _) (List.forall₂_same.mpr fun call _ => .same call)

-- All is answered in one run. In the other a sample, a read and two sendings fail.
theorem failing_dispatch_looks_answered :
    List.Forall₂ LayerCall.Resembles (sampledDispatch answering) (sampledDispatch failing) ∧
      Indifferent false (sampledLayer []) (sampledLayer [0, 2]) (sampledDispatch answering) (sampledDispatch failing) ∧
      Indifferent true (sampledLayer []) (sampledLayer [0, 2]) (sampledDispatch answering) (sampledDispatch answering) ∧
      (performAll (sampledDispatch answering) (sampledLayer [])).outcome.map (fun done => done.1.getLast?) =
        .ok (some (.number 1)) ∧
      Event.sendings (performAll (sampledDispatch answering) (sampledLayer [])).events = [false, false, false, false] ∧
      Event.sendings (performAll (sampledDispatch failing) (sampledLayer [0, 2])).events =
        [true, false, true, false] := by
  have resembles := sampled_dispatch_resembles answering failing
  have themselves := sampled_dispatch_resembles answering answering
  exact ⟨resembles, (failures_never_surface _ _ _ _ _ resembles).1,
    (failures_never_surface _ _ _ _ _ themselves).2.1 rfl, by decide +kernel, by decide +kernel, by decide +kernel⟩

end Layer

end GpuProfiler
