import GpuProfiler.Proofs.Act
import GpuProfiler.Trap

set_option autoImplicit false

namespace GpuProfiler

def Event.callsMade (shown : List Event) : List DriverCall :=
  shown.filterMap fun event =>
    match event with
    | .call _ made _ => some made
    | _ => none

theorem Event.calls_made_append (shown more : List Event) : callsMade (shown ++ more) = callsMade shown ++ callsMade more :=
  List.filterMap_append

theorem Event.calls_made_cons (device : String) (made : DriverCall) (failed : Bool) (more : List Event) :
    callsMade (.call device made failed :: more) = made :: callsMade more := rfl

theorem Event.calls_made_notes (noticed : Error → Note) (result : Except Error Unit) :
    callsMade (failureNotes noticed result) = [] := by
  cases result <;> rfl

def Ran.behind {σ α : Type} (ran : Ran σ α) (shown : List Event) : Ran σ α := ⟨shown ++ ran.events, ran.outcome⟩

theorem Ran.behind_append {σ α : Type} (ran : Ran σ α) (shown more : List Event) :
    (ran.behind more).behind shown = ran.behind (shown ++ more) := by
  simp only [behind, List.append_assoc]

structure HostAnswers where
  looks : Nat → Except Error EventStatus
  resets : Nat → Except Error Unit
  releases : Nat → Except Error Unit

-- A host that gets these answers, with the calls of each kind made so far, beside a state that its
-- calls leave alone.
structure AnsweredHost (ρ : Type) where
  name : String
  answers : HostAnswers
  looks : Nat
  resets : Nat
  releases : Nat
  beside : ρ

namespace AnsweredHost

variable {ρ : Type} (host : AnsweredHost ρ) (event : RawEvent)

def looked (count : Nat) : AnsweredHost ρ := { host with looks := host.looks + count }

def wasReset : AnsweredHost ρ := { host with resets := host.resets + 1 }

def released : AnsweredHost ρ := { host with releases := host.releases + 1 }

def look (ahead : Nat) : Except Error EventStatus := host.answers.looks (host.looks + ahead)

def reset : Except Error Unit := host.answers.resets host.resets

def release : Except Error Unit := host.answers.releases host.releases

def shows {α : Type} (call : DriverCall) (answer : Except Error α) : Event := .call host.name call (!answer.isOk)

-- The events are there already, so this host creates none. Its patience reaches a look that finds an
-- event set; without one no number of looks is enough.
open Classical in
noncomputable instance : EventHost (AnsweredHost ρ) where
  createEvent := pure (.error .eventCreationFailed)
  destroyEvent _ := pure ()
  eventStatus event host := ⟨[host.shows (.eventStatus event) (host.look 0)], .ok (host.look 0, host.looked 1)⟩
  setEvent event host := ⟨[host.shows (.setEvent event) host.release], .ok (host.release, host.released)⟩
  resetEvent event host := ⟨[host.shows (.resetEvent event) host.reset], .ok (host.reset, host.wasReset)⟩
  patience host := if found : ∃ ahead, host.look ahead = .ok .set then found.choose else 0

def sighting (ahead : Nat) : List Event :=
  host.shows (.eventStatus event) (host.look ahead) ::
    failureNotes .statusQueryFailed ((host.look ahead).map fun _ => ())

def sightings (count : Nat) : List Event := (List.range count).flatMap (host.sighting event)

theorem sightings_succ (count : Nat) :
    host.sightings event (count + 1) = host.sightings event count ++ host.sighting event count := by
  simp [sightings, List.range_succ]

theorem looked_look (count ahead : Nat) : (host.looked count).look ahead = host.look (count + ahead) := by
  simp only [look, looked, Nat.add_assoc]

theorem looked_sighting (count : Nat) : (host.looked count).sighting event 0 = host.sighting event count := by
  unfold sighting shows
  rw [looked_look]
  rfl

theorem calls_made_sightings (count : Nat) :
    Event.callsMade (host.sightings event count) = List.replicate count (.eventStatus event) := by
  induction count with
  | zero => rfl
  | succ count ih =>
    have one : Event.callsMade (host.sighting event count) = [.eventStatus event] := by
      rw [sighting, shows, Event.calls_made_cons, Event.calls_made_notes]
    rw [sightings_succ, Event.calls_made_append, ih, one, ← List.replicate_succ']

def acquisition (looks : Nat) : List Event :=
  host.sightings event looks ++ host.shows (.resetEvent event) host.reset :: failureNotes .trapResetFailed host.reset

def completion (cycles : Nat) : List Event :=
  host.shows (.setEvent event) host.release :: (failureNotes .trapSignalFailed host.release ++ [.note (.cycleComplete cycles)])

theorem calls_made_acquisition (looks : Nat) :
    Event.callsMade (host.acquisition event looks) = List.replicate looks (.eventStatus event) ++ [.resetEvent event] := by
  rw [acquisition, Event.calls_made_append, calls_made_sightings, shows, Event.calls_made_cons, Event.calls_made_notes]

theorem calls_made_completion (cycles : Nat) : Event.callsMade (host.completion event cycles) = [.setEvent event] := by
  rw [completion, shows, Event.calls_made_cons, Event.calls_made_append, Event.calls_made_notes]
  rfl

end AnsweredHost

namespace Trap

variable {ρ : Type} {host : AnsweredHost ρ} (event : RawEvent)

theorem await_found (fuel : Nat) (found : host.look 0 = .ok .set) :
    await event (fuel + 1) host = ⟨host.sighting event 0, .ok ((), host.looked 1)⟩ := by
  have ran : (EventHost.eventStatus event : Act (AnsweredHost ρ) _) host =
      ⟨[host.shows (.eventStatus event) (host.look 0)], .ok (host.look 0, host.looked 1)⟩ := rfl
  rw [await, Act.bind_of_ok ran, AnsweredHost.sighting, found]
  rfl

theorem await_missed (fuel : Nat) (missed : host.look 0 ≠ .ok .set) :
    await event (fuel + 1) host = (await event fuel (host.looked 1)).behind (host.sighting event 0) := by
  have ran : (EventHost.eventStatus event : Act (AnsweredHost ρ) _) host =
      ⟨[host.shows (.eventStatus event) (host.look 0)], .ok (host.look 0, host.looked 1)⟩ := rfl
  rw [await, Act.bind_of_ok ran, AnsweredHost.sighting]
  cases answer : host.look 0 with
  | ok status =>
    cases status with
    | set => exact absurd answer missed
    | unset => rfl
  | error error =>
    dsimp only
    rw [Act.bind_of_ok (show Act.note (.statusQueryFailed error) (host.looked 1) =
      ⟨[.note (.statusQueryFailed error)], .ok ((), host.looked 1)⟩ from rfl)]
    rfl

theorem await_misses {count : Nat} (fuel : Nat) (missed : ∀ earlier < count, host.look earlier ≠ .ok .set) :
    await event (count + fuel) host = (await event fuel (host.looked count)).behind (host.sightings event count) := by
  induction count generalizing fuel with
  | zero => rw [Nat.zero_add]; rfl
  | succ count ih =>
    have here : (host.looked count).look 0 ≠ .ok .set := by
      rw [AnsweredHost.looked_look]
      exact missed count (Nat.lt_succ_self count)
    rw [Nat.add_right_comm, Nat.add_assoc, ih (fuel + 1) fun earlier less => missed earlier (Nat.lt_succ_of_lt less),
      await_missed event fuel here, Ran.behind_append, AnsweredHost.looked_sighting, ← AnsweredHost.sightings_succ]
    rfl

structure FirstSet (host : AnsweredHost ρ) (first : Nat) : Prop where
  found : host.look first = .ok .set
  missed : ∀ earlier < first, host.look earlier ≠ .ok .set

theorem first_set_patience {first : Nat} (set : FirstSet host first) : first ≤ EventHost.patience host := by
  have found : ∃ ahead, host.look ahead = .ok .set := ⟨first, set.found⟩
  have patient : EventHost.patience host = found.choose := dif_pos found
  rw [patient]
  exact Nat.le_of_not_lt fun sooner => set.missed found.choose sooner found.choose_spec

theorem await_first {first fuel : Nat} (set : FirstSet host first) (enough : first < fuel) :
    await event fuel host = ⟨host.sightings event (first + 1), .ok ((), host.looked (first + 1))⟩ := by
  obtain ⟨left, rfl⟩ : ∃ left, fuel = first + (left + 1) := ⟨fuel - first - 1, by omega⟩
  have here : (host.looked first).look 0 = .ok .set := by
    rw [AnsweredHost.looked_look]
    exact set.found
  rw [await_misses event (left + 1) set.missed, await_found event left here, AnsweredHost.looked_sighting,
    AnsweredHost.sightings_succ]
  rfl

theorem acquire_first (trap : Trap) {first : Nat} (set : FirstSet host first) :
    trap.acquire host =
      ⟨host.acquisition trap.events.deviceToHost (first + 1), .ok ((), (host.looked (first + 1)).wasReset)⟩ := by
  have asked := await_first trap.events.deviceToHost set (Nat.lt_succ_of_le (first_set_patience set))
  have reset : (EventHost.resetEvent trap.events.deviceToHost : Act (AnsweredHost ρ) _) (host.looked (first + 1)) =
      ⟨[host.shows (.resetEvent trap.events.deviceToHost) host.reset],
        .ok (host.reset, (host.looked (first + 1)).wasReset)⟩ := rfl
  rw [acquire, Act.bind_of_ok (show Act.get host = ⟨[], .ok (host, host)⟩ from rfl), Act.bind_of_ok asked,
    Act.bind_of_ok reset]
  unfold AnsweredHost.acquisition
  cases host.reset <;> rfl

theorem release_answered (trap : Trap) :
    trap.release host = ⟨host.shows (.setEvent trap.events.hostToDevice) host.release ::
      failureNotes .trapSignalFailed host.release, .ok ((), host.released)⟩ := by
  have set : (EventHost.setEvent trap.events.hostToDevice : Act (AnsweredHost ρ) _) host =
      ⟨[host.shows (.setEvent trap.events.hostToDevice) host.release], .ok (host.release, host.released)⟩ := rfl
  rw [release, Act.bind_of_ok set]
  cases host.release <;> rfl

section Cycle

variable {α : Type} (trap : Trap) {inside : Act (AnsweredHost ρ) α} {first : Nat} {shown : List Event}

theorem cycle_completes {x : α} {left : AnsweredHost ρ} (set : FirstSet host first)
    (ran : inside (host.looked (first + 1)).wasReset = ⟨shown, .ok (x, left)⟩) :
    trap.cycle inside host =
      ⟨host.acquisition trap.events.deviceToHost (first + 1) ++ shown ++
          left.completion trap.events.hostToDevice (trap.cycles + 1),
        .ok ((x, { trap with cycles := trap.cycles + 1 }), left.released)⟩ := by
  rw [cycle, Act.bind_of_ok (acquire_first trap set), Act.bind_of_ok ran, Act.bind_of_ok (release_answered trap),
    List.append_assoc]
  rfl

theorem cycle_halts_inside {reason : Halt} (set : FirstSet host first)
    (ran : inside (host.looked (first + 1)).wasReset = ⟨shown, .error reason⟩) :
    trap.cycle inside host =
      ⟨host.acquisition trap.events.deviceToHost (first + 1) ++ shown, .error reason⟩ := by
  rw [cycle, Act.bind_of_ok (acquire_first trap set), Act.bind_of_error ran]

end Cycle

theorem await_never (never : ∀ ahead, host.look ahead ≠ .ok .set) (fuel : Nat) :
    await event fuel host = ⟨host.sightings event fuel, .error .blocked⟩ := by
  have asked := await_misses event 0 fun earlier (_ : earlier < fuel) => never earlier
  rw [Nat.add_zero] at asked
  rw [asked]
  exact congrArg (Ran.mk · (.error .blocked)) (List.append_nil _)

theorem cycle_never {α : Type} (trap : Trap) (inside : Act (AnsweredHost ρ) α) (never : ∀ ahead, host.look ahead ≠ .ok .set) :
    trap.cycle inside host =
      ⟨host.sightings trap.events.deviceToHost (EventHost.patience host + 1), .error .blocked⟩ := by
  have asked := await_never trap.events.deviceToHost never (EventHost.patience host + 1)
  have stuck : trap.acquire host =
      ⟨host.sightings trap.events.deviceToHost (EventHost.patience host + 1), .error .blocked⟩ := by
    rw [acquire, Act.bind_of_ok (show Act.get host = ⟨[], .ok (host, host)⟩ from rfl), Act.bind_of_error asked]
    rfl
  rw [cycle, Act.bind_of_error stuck]

/-- Whatever the answers to its calls, a host asks for the first event of its trap up to the first
look that finds it set, resets it once, does what is to be done inside once, and releases the device
once; a call that fails is noted and ends nothing of this. Where no look ever finds the event set, the
host makes no other call, however often it looks. -/
theorem cycle_samples_at_first_set {α : Type} (trap : Trap) (inside : Act (AnsweredHost ρ) α) (host : AnsweredHost ρ) :
    (∀ first, host.look first = .ok .set → (∀ earlier < first, host.look earlier ≠ .ok .set) →
      Event.callsMade (host.acquisition trap.events.deviceToHost (first + 1)) =
        List.replicate (first + 1) (.eventStatus trap.events.deviceToHost) ++ [.resetEvent trap.events.deviceToHost] ∧
      (∀ shown x left, inside (host.looked (first + 1)).wasReset = ⟨shown, .ok (x, left)⟩ →
        Event.callsMade (left.completion trap.events.hostToDevice (trap.cycles + 1)) = [.setEvent trap.events.hostToDevice] ∧
        trap.cycle inside host =
          ⟨host.acquisition trap.events.deviceToHost (first + 1) ++ shown ++
              left.completion trap.events.hostToDevice (trap.cycles + 1),
            .ok ((x, { trap with cycles := trap.cycles + 1 }), left.released)⟩) ∧
      ∀ shown reason, inside (host.looked (first + 1)).wasReset = ⟨shown, .error reason⟩ →
        trap.cycle inside host =
          ⟨host.acquisition trap.events.deviceToHost (first + 1) ++ shown, .error reason⟩) ∧
    ((∀ ahead, host.look ahead ≠ .ok .set) →
      (∃ looks, trap.cycle inside host = ⟨host.sightings trap.events.deviceToHost looks, .error .blocked⟩) ∧
      ∀ looks, await trap.events.deviceToHost looks host =
          ⟨host.sightings trap.events.deviceToHost looks, .error .blocked⟩ ∧
        Event.callsMade (host.sightings trap.events.deviceToHost looks) =
          List.replicate looks (.eventStatus trap.events.deviceToHost)) := by
  refine ⟨?_, ?_⟩
  · intro first found missed
    have set : FirstSet host first := ⟨found, missed⟩
    refine ⟨host.calls_made_acquisition _ _, ?_, fun shown reason ran => cycle_halts_inside trap set ran⟩
    exact fun shown x left ran => ⟨left.calls_made_completion _ _, cycle_completes trap set ran⟩
  · intro never
    refine ⟨⟨_, cycle_never trap inside never⟩, ?_⟩
    exact fun looks => ⟨await_never _ never looks, host.calls_made_sightings _ _⟩

-- The second look fails and the third finds the event set; the reset and the release fail.
def lateAnswers : HostAnswers where
  looks
    | 0 => .ok .unset
    | 1 => .error .deviceLost
    | _ => .ok .set
  resets _ := .error .eventCreationFailed
  releases _ := .error .deviceLost

theorem late_answers_sampled_between :
    (cycle ⟨⟨1, 2⟩, 0, 4⟩ (do Act.emit (.mark "inside"); pure 7) (⟨"gpu", lateAnswers, 0, 0, 0, ()⟩ : AnsweredHost Unit)) =
      ⟨[.call "gpu" (.eventStatus 1) false, .call "gpu" (.eventStatus 1) true, .note (.statusQueryFailed .deviceLost),
          .call "gpu" (.eventStatus 1) false, .call "gpu" (.resetEvent 1) true, .note (.trapResetFailed .eventCreationFailed),
          .mark "inside", .call "gpu" (.setEvent 2) true, .note (.trapSignalFailed .deviceLost), .note (.cycleComplete 5)],
        .ok ((7, ⟨⟨1, 2⟩, 0, 5⟩), ⟨"gpu", lateAnswers, 3, 1, 1, ()⟩)⟩ := by
  obtain ⟨sampled, _⟩ := cycle_samples_at_first_set ⟨⟨1, 2⟩, 0, 4⟩ (do Act.emit (.mark "inside"); pure 7)
    (⟨"gpu", lateAnswers, 0, 0, 0, ()⟩ : AnsweredHost Unit)
  have missed : ∀ earlier < 2, (⟨"gpu", lateAnswers, 0, 0, 0, ()⟩ : AnsweredHost Unit).look earlier ≠ .ok .set
    | 0, _ => nofun
    | 1, _ => nofun
  obtain ⟨_, completes, _⟩ := sampled 2 rfl missed
  exact (completes [.mark "inside"] 7 _ rfl).2

end Trap

end GpuProfiler
