import GpuProfiler.Proofs.Timeline

set_option autoImplicit false

namespace GpuProfiler

inductive HostCall where
  | poll (event : RawEvent)
  | reset (event : RawEvent)
  | latch
  | signal (event : RawEvent)
deriving DecidableEq, Repr

namespace HostCall

def event : HostCall → Event
  | .poll event => .call "" (.eventStatus event) false
  | .reset event => .call "" (.resetEvent event) false
  | .latch => .sample false
  | .signal event => .call "" (.setEvent event) false

def ofEvent? : Event → Option HostCall
  | .call _ (.eventStatus event) _ => some (.poll event)
  | .call _ (.resetEvent event) _ => some (.reset event)
  | .call _ (.setEvent event) _ => some (.signal event)
  | .sample _ => some .latch
  | _ => none

def firstOf (shown : List Event) : Option HostCall := shown.findSome? ofEvent?

-- Whether the call finds what it asks for; only a poll can find nothing.
def answer (signalled : List RawEvent) : HostCall → Bool
  | .poll event => signalled.contains event
  | .reset _ | .latch | .signal _ => true

def effect (signalled : List RawEvent) : HostCall → List RawEvent
  | .poll _ | .latch => signalled
  | .reset event => signalled.filter (· != event)
  | .signal event => event :: signalled.filter (· != event)

end HostCall

-- A host that is answered from a list. It shows only the call it has no answer for, and stands
-- there: this is how one run of the host's program is cut into single calls.
structure Transcript where
  answers : List Bool
deriving DecidableEq, Repr

namespace Transcript

def ask (call : HostCall) : Act Transcript Bool := fun transcript =>
  match transcript.answers with
  | [] => ⟨[call.event], .error .blocked⟩
  | answer :: rest => ⟨[], .ok (answer, ⟨rest⟩)⟩

def sample : Act Transcript Unit := do
  let _ ← ask .latch
  pure ()

instance : EventHost Transcript where
  createEvent := pure (.error .notSupported)
  destroyEvent _ := pure ()
  eventStatus event := do
    let set ← ask (.poll event)
    pure (.ok (if set then .set else .unset))
  setEvent event := do
    let _ ← ask (.signal event)
    pure (.ok ())
  resetEvent event := do
    let _ ← ask (.reset event)
    pure (.ok ())
  patience transcript := transcript.answers.length

end Transcript

def Trap.cycleTimes {σ : Type} [EventHost σ] (latch : Act σ Unit) : Nat → Trap → Act σ Trap
  | 0, trap => pure trap
  | count + 1, trap => do
    let (_, next) ← trap.cycle latch
    cycleTimes latch count next

def Trap.nextCall (trap : Trap) (count : Nat) (answers : List Bool) : Option HostCall :=
  HostCall.firstOf (trap.cycleTimes Transcript.sample count ⟨answers⟩).events

-- Where a host stands: the polls it needed in the cycles behind it, and how far it is in this one.
structure HostPlace where
  polls : List Nat
  misses : Nat
  passed : Nat
deriving DecidableEq, Repr

namespace HostPlace

variable (events : TrapEvents)

def cycleCalls : List HostCall :=
  [.poll events.deviceToHost, .reset events.deviceToHost, .latch, .signal events.hostToDevice]

def missed (count : Nat) : List (HostCall × Bool) := List.replicate count (.poll events.deviceToHost, false)

def askedInCycle (polls : Nat) : List (HostCall × Bool) :=
  missed events polls ++ (cycleCalls events).map fun call => (call, true)

def asked (place : HostPlace) : List (HostCall × Bool) :=
  place.polls.flatMap (askedInCycle events) ++
    (missed events place.misses ++ ((cycleCalls events).take place.passed).map fun call => (call, true))

structure Within (place : HostPlace) (count : Nat) : Prop where
  few : place.polls.length ≤ count
  inside : place.passed < 4
  through : place.polls.length = count → place.misses = 0 ∧ place.passed = 0

end HostPlace

section NextCall

open Transcript HostCall

theorem ends_ask_open (call : HostCall) (good : List Event → Bool → Transcript → Prop)
    (bad : List Event → Halt → Prop) : Act.Ends (ask call) ⟨[]⟩ good bad ↔ bad [call.event] .blocked := Iff.rfl

theorem ends_ask_answered (call : HostCall) (answer : Bool) (rest : List Bool)
    (good : List Event → Bool → Transcript → Prop) (bad : List Event → Halt → Prop) :
    Act.Ends (ask call) ⟨answer :: rest⟩ good bad ↔ good [] answer ⟨rest⟩ := Iff.rfl

theorem await_answered (event : RawEvent) (misses fuel : Nat) (rest : List Bool) (enough : misses < fuel) :
    Act.Ends (Trap.await event fuel) (⟨List.replicate misses false ++ true :: rest⟩ : Transcript)
      (fun shown _ next => shown = [] ∧ next = ⟨rest⟩) (fun _ _ => False) := by
  induction misses generalizing fuel with
  | zero =>
    obtain ⟨spare, rfl⟩ : ∃ spare, fuel = spare + 1 := ⟨fuel - 1, by omega⟩
    simp [Trap.await, EventHost.eventStatus, ends_ask_answered]
  | succ misses ih =>
    obtain ⟨spare, rfl⟩ : ∃ spare, fuel = spare + 1 := ⟨fuel - 1, by omega⟩
    have rest := ih spare (by omega)
    simpa [Trap.await, EventHost.eventStatus, List.replicate_succ, ends_ask_answered] using rest

theorem await_open (event : RawEvent) (misses fuel : Nat) (enough : misses < fuel) :
    Act.Ends (Trap.await event fuel) (⟨List.replicate misses false⟩ : Transcript) (fun _ _ _ => False)
      (fun shown _ => firstOf shown = some (.poll event)) := by
  induction misses generalizing fuel with
  | zero =>
    obtain ⟨spare, rfl⟩ : ∃ spare, fuel = spare + 1 := ⟨fuel - 1, by omega⟩
    simp [Trap.await, EventHost.eventStatus, ends_ask_open, firstOf, HostCall.event, ofEvent?]
  | succ misses ih =>
    obtain ⟨spare, rfl⟩ : ∃ spare, fuel = spare + 1 := ⟨fuel - 1, by omega⟩
    have rest := ih spare (by omega)
    simpa [Trap.await, EventHost.eventStatus, List.replicate_succ, ends_ask_answered] using rest

theorem cycle_answered (trap : Trap) (misses : Nat) (rest : List Bool) :
    Act.Ends (trap.cycle sample) ⟨(HostPlace.askedInCycle trap.events misses).map (·.2) ++ rest⟩
      (fun shown done next => firstOf shown = none ∧ done.2.events = trap.events ∧ next = ⟨rest⟩)
      (fun _ _ => False) := by
  have answers : (HostPlace.askedInCycle trap.events misses).map (·.2) ++ rest =
      List.replicate misses false ++ true :: true :: true :: true :: rest := by
    simp [HostPlace.askedInCycle, HostPlace.missed, HostPlace.cycleCalls]
  rw [answers]
  simp only [Trap.cycle, Trap.acquire, Act.ends_bind, Act.ends_get]
  refine Act.ends_mono (await_answered _ misses _ _ ?_) ?_ (fun _ _ never => never)
  · simp only [EventHost.patience, List.length_append, List.length_replicate, List.length_cons]
    omega
  · rintro shown _ next ⟨rfl, rfl⟩
    simp [Trap.release, EventHost.resetEvent, EventHost.setEvent, sample, Act.ends_note_failure,
      ends_ask_answered, firstOf, ofEvent?]

theorem cycle_polling (trap : Trap) (misses : Nat) :
    Act.Ends (trap.cycle sample) ⟨List.replicate misses false⟩ (fun _ _ _ => False)
      (fun shown _ => firstOf shown = some (.poll trap.events.deviceToHost)) := by
  simp only [Trap.cycle, Trap.acquire, Act.ends_bind, Act.ends_get]
  refine Act.ends_mono (await_open _ misses _ ?_) (fun _ _ _ never => never.elim) (fun _ _ found => found)
  simp [EventHost.patience]

theorem cycle_past_poll (trap : Trap) (misses passed : Nat) (inside : passed < 3) :
    Act.Ends (trap.cycle sample) ⟨List.replicate misses false ++ true :: List.replicate passed true⟩
      (fun _ _ _ => False)
      (fun shown _ => firstOf shown = (HostPlace.cycleCalls trap.events)[passed + 1]?) := by
  simp only [Trap.cycle, Trap.acquire, Act.ends_bind, Act.ends_get]
  refine Act.ends_mono (await_answered _ misses _ _ ?_) ?_ (fun _ _ never => never.elim)
  · simp only [EventHost.patience, List.length_append, List.length_replicate, List.length_cons]
    omega
  · rintro shown _ next ⟨rfl, rfl⟩
    obtain rfl | rfl | rfl : passed = 0 ∨ passed = 1 ∨ passed = 2 := by omega
    all_goals
      simp [Trap.release, EventHost.resetEvent, EventHost.setEvent, sample, Act.ends_note_failure,
        List.replicate_succ, ends_ask_answered, ends_ask_open, firstOf, HostCall.event, ofEvent?,
        HostPlace.cycleCalls]

theorem cycle_open (trap : Trap) (misses passed : Nat) (inside : passed < 4) :
    Act.Ends (trap.cycle sample)
      ⟨((HostPlace.missed trap.events misses ++
        ((HostPlace.cycleCalls trap.events).take passed).map fun call => (call, true))).map (·.2)⟩
      (fun _ _ _ => False) (fun shown _ => firstOf shown = (HostPlace.cycleCalls trap.events)[passed]?) := by
  cases passed with
  | zero => simpa [HostPlace.missed, HostPlace.cycleCalls] using cycle_polling trap misses
  | succ passed =>
    have answers : ((HostPlace.cycleCalls trap.events).take (passed + 1)).map (fun _ => true) =
        true :: List.replicate passed true := by
      rw [List.map_const', List.length_take]
      simp [HostPlace.cycleCalls, ← List.replicate_succ]
      omega
    have past := cycle_past_poll trap misses passed (by omega)
    simpa only [HostPlace.missed, List.map_append, List.map_replicate, List.map_map, Function.comp_def,
      answers] using past

theorem first_of_append (shown later : List Event) (silent : firstOf shown = none) :
    firstOf (shown ++ later) = firstOf later := by
  unfold firstOf at silent ⊢
  rw [List.findSome?_append, silent, Option.none_or]

theorem answers_cons (events : TrapEvents) (polls : Nat) (rest : List Nat) (misses passed : Nat) :
    ((HostPlace.mk (polls :: rest) misses passed).asked events).map (·.2) =
      (HostPlace.askedInCycle events polls).map (·.2) ++
        ((HostPlace.mk rest misses passed).asked events).map (·.2) := by
  simp only [HostPlace.asked, List.flatMap_cons, List.map_append, List.append_assoc]

theorem cycle_times_inside (trap : Trap) (polls : List Nat) (misses passed count : Nat) (inside : passed < 4)
    (few : polls.length < count) :
    Act.Ends (trap.cycleTimes sample count) ⟨((HostPlace.mk polls misses passed).asked trap.events).map (·.2)⟩
      (fun _ _ _ => False) (fun shown _ => firstOf shown = (HostPlace.cycleCalls trap.events)[passed]?) := by
  induction polls generalizing trap count with
  | nil =>
    obtain ⟨count, rfl⟩ : ∃ spare, count = spare + 1 := ⟨count - 1, by simp at few; omega⟩
    simp only [Trap.cycleTimes, Act.ends_bind]
    exact Act.ends_mono (cycle_open trap misses passed inside) (fun _ _ _ never => False.elim never)
      (fun _ _ found => found)
  | cons first rest ih =>
    simp only [List.length_cons] at few
    obtain ⟨count, rfl⟩ : ∃ spare, count = spare + 1 := ⟨count - 1, by omega⟩
    rw [answers_cons]
    simp only [Trap.cycleTimes, Act.ends_bind]
    refine Act.ends_mono (cycle_answered trap first _) ?_ (fun _ _ never => False.elim never)
    rintro shown ⟨answer, next⟩ transcript ⟨silent, same, rfl⟩
    have later := ih next count (by omega)
    rw [show next.events = trap.events from same] at later
    exact Act.ends_mono later (fun _ _ _ never => never)
      (fun more _ found => (first_of_append shown more silent).trans found)

theorem cycle_times_through (trap : Trap) (polls : List Nat) :
    Act.Ends (trap.cycleTimes sample polls.length) ⟨((HostPlace.mk polls 0 0).asked trap.events).map (·.2)⟩
      (fun shown _ _ => firstOf shown = none) (fun _ _ => False) := by
  induction polls generalizing trap with
  | nil => rfl
  | cons first rest ih =>
    rw [answers_cons, List.length_cons]
    simp only [Trap.cycleTimes, Act.ends_bind]
    refine Act.ends_mono (cycle_answered trap first _) ?_ (fun _ _ never => never)
    rintro shown ⟨answer, next⟩ transcript ⟨silent, same, rfl⟩
    have later := ih next
    rw [show next.events = trap.events from same] at later
    exact Act.ends_mono later (fun more _ _ found => (first_of_append shown more silent).trans found)
      (fun _ _ never => never)

theorem next_call_inside (trap : Trap) (place : HostPlace) (count : Nat) (within : place.Within count)
    (few : place.polls.length < count) :
    trap.nextCall count ((place.asked trap.events).map (·.2)) =
      (HostPlace.cycleCalls trap.events)[place.passed]? := by
  have ends := cycle_times_inside trap place.polls place.misses place.passed count within.inside few
  exact Act.ends_events (p := fun shown => firstOf shown = _)
    (Act.ends_mono ends (fun _ _ _ never => False.elim never) (fun _ _ found => found))

theorem next_call_through (trap : Trap) (place : HostPlace) (count : Nat) (within : place.Within count)
    (through : place.polls.length = count) :
    trap.nextCall count ((place.asked trap.events).map (·.2)) = none := by
  obtain ⟨polls, misses, passed⟩ := place
  obtain ⟨rfl, rfl⟩ : misses = 0 ∧ passed = 0 := within.through through
  have ends := cycle_times_through trap polls
  rw [show polls.length = count from through] at ends
  exact Act.ends_events (p := fun shown => firstOf shown = none)
    (Act.ends_mono ends (fun _ _ _ found => found) (fun _ _ never => False.elim never))

end NextCall

namespace HostPlace

variable (events : TrapEvents) (place : HostPlace)

theorem asked_miss (atPoll : place.passed = 0) :
    { place with misses := place.misses + 1 }.asked events =
      place.asked events ++ [(.poll events.deviceToHost, false)] := by
  obtain ⟨polls, misses, passed⟩ := place
  subst atPoll
  simp [asked, missed, List.replicate_succ']

theorem asked_pass (call : HostCall)
    (next : (cycleCalls events)[place.passed]? = some call) :
    { place with passed := place.passed + 1 }.asked events = place.asked events ++ [(call, true)] := by
  simp only [asked, List.take_add_one, next, List.map_append, Option.toList_some, List.map_cons, List.map_nil,
    List.append_assoc]

theorem asked_complete (atEnd : place.passed = 3) :
    (HostPlace.mk (place.polls ++ [place.misses]) 0 0).asked events =
      place.asked events ++ [(.signal events.hostToDevice, true)] := by
  obtain ⟨polls, misses, passed⟩ := place
  subst atEnd
  simp [asked, askedInCycle, missed, cycleCalls]

theorem count_cycle_calls (call : HostCall) (index passed : Nat) (inside : passed < 4)
    (place : (cycleCalls events)[index]? = some call) :
    (((cycleCalls events).take passed).map fun call => (call, true)).count (call, true) =
      if index < passed then 1 else 0 := by
  have bound : index < 4 := (List.getElem?_eq_some_iff.mp place).1
  obtain rfl | rfl | rfl | rfl : index = 0 ∨ index = 1 ∨ index = 2 ∨ index = 3 := by omega
  all_goals
    cases place
    obtain rfl | rfl | rfl | rfl : passed = 0 ∨ passed = 1 ∨ passed = 2 ∨ passed = 3 := by omega
  all_goals simp [cycleCalls]

theorem count_asked_in_cycle (call : HostCall) (index misses : Nat)
    (place : (cycleCalls events)[index]? = some call) :
    (askedInCycle events misses).count (call, true) = 1 := by
  have bound : index < 4 := (List.getElem?_eq_some_iff.mp place).1
  obtain rfl | rfl | rfl | rfl : index = 0 ∨ index = 1 ∨ index = 2 ∨ index = 3 := by omega
  all_goals
    cases place
    simp [askedInCycle, missed, cycleCalls, List.count_replicate]

theorem count_asked_cycles (call : HostCall) (index : Nat) (polls : List Nat)
    (place : (cycleCalls events)[index]? = some call) :
    (polls.flatMap (askedInCycle events)).count (call, true) = polls.length := by
  induction polls with
  | nil => rfl
  | cons first rest ih =>
    rw [List.flatMap_cons, List.count_append, ih, count_asked_in_cycle events call index first place,
      List.length_cons, Nat.add_comm]

theorem count_asked (call : HostCall) (index : Nat) (inside : place.passed < 4)
    (found : (cycleCalls events)[index]? = some call) :
    (place.asked events).count (call, true) = place.polls.length + if index < place.passed then 1 else 0 := by
  have none : (missed events place.misses).count (call, true) = 0 := by simp [missed, List.count_replicate]
  rw [asked, List.count_append, List.count_append, none, Nat.zero_add,
    count_asked_cycles events call index place.polls found,
    count_cycle_calls events call index place.passed inside found]

end HostPlace

end GpuProfiler
