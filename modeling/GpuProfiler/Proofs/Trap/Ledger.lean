import Mathlib.Data.List.Induction
import Mathlib.Data.List.Nodup
import GpuProfiler.Proofs.Layer.Apart

set_option autoImplicit false

namespace GpuProfiler

open Act Event

namespace Event

def creates (name : String) : Event → Bool
  | .call driver .createEvent failed => driver == name && !failed
  | _ => false

def destroys (name : String) (event : RawEvent) : Event → Bool
  | .call driver (.destroyEvent given) _ => driver == name && given == event
  | _ => false

theorem strays_not {name : String} {held : List RawEvent} {event : Event} (near : event.strays name held = false) :
    event.creates name = false ∧ ∀ given, event.destroys name given = false := by
  cases event with
  | call driver made failed => cases made <;> simp_all [strays, DriverCall.alters, creates, destroys]
  | _ => exact ⟨rfl, fun _ => rfl⟩

theorem apart_not {name : String} {event : Event} (apart : event.driver? ≠ some name) :
    event.creates name = false ∧ ∀ given, event.destroys name given = false := by
  cases event with
  | call driver made failed =>
    have other : driver ≠ name := fun same => apart (same ▸ rfl)
    cases made <;> simp [creates, destroys, other]
  | _ => exact ⟨rfl, fun _ => rfl⟩

end Event

/-- The events created on a driver so far, and those of them that are not destroyed yet. -/
structure EventLedger where
  made : List RawEvent
  held : List RawEvent

namespace EventLedger

def blank : EventLedger := ⟨[], []⟩

def enter (ledger : EventLedger) (event : RawEvent) : EventLedger := ⟨event :: ledger.made, event :: ledger.held⟩

def strike (ledger : EventLedger) (event : RawEvent) : EventLedger :=
  ⟨ledger.made, ledger.held.filter (· != event)⟩

end EventLedger

/-- The ledger of a driver for what was shown. -/
inductive Accounts (name : String) : List Event → EventLedger → Prop
  | start : Accounts name [] .blank
  | created (shown : List Event) (ledger : EventLedger) (event : RawEvent) (accounts : Accounts name shown ledger)
      (new : event ∉ ledger.made) : Accounts name (shown ++ [.call name .createEvent false]) (ledger.enter event)
  | refused (shown : List Event) (ledger : EventLedger) (accounts : Accounts name shown ledger) :
      Accounts name (shown ++ [.call name .createEvent true]) ledger
  | destroyed (shown : List Event) (ledger : EventLedger) (event : RawEvent) (failed : Bool)
      (accounts : Accounts name shown ledger) (owned : event ∈ ledger.held) :
      Accounts name (shown ++ [.call name (.destroyEvent event) failed]) (ledger.strike event)
  | used (shown : List Event) (ledger : EventLedger) (event : Event) (accounts : Accounts name shown ledger)
      (near : event.strays name ledger.held = false) : Accounts name (shown ++ [event]) ledger
  | beside (shown : List Event) (ledger : EventLedger) (event : Event) (accounts : Accounts name shown ledger)
      (apart : event.driver? ≠ some name) : Accounts name (shown ++ [event]) ledger

namespace Accounts

variable {name : String} {shown more : List Event} {ledger : EventLedger}

structure Balanced (name : String) (shown : List Event) (ledger : EventLedger) : Prop where
  made : ledger.made.Nodup
  held : ledger.held.Sublist ledger.made
  creations : shown.countP (creates name) = ledger.made.length
  destructions : ∀ event, shown.countP (destroys name event) + ledger.held.count event = ledger.made.count event

theorem balanced (accounts : Accounts name shown ledger) : Balanced name shown ledger := by
  have neutral {shown : List Event} {ledger : EventLedger} {event : Event} (ih : Balanced name shown ledger)
      (neither : event.creates name = false ∧ ∀ given, event.destroys name given = false) :
      Balanced name (shown ++ [event]) ledger :=
    ⟨ih.made, ih.held, by simp [neither.1, ih.creations], fun given => by simp [neither.2, ih.destructions]⟩
  induction accounts with
  | start => exact ⟨List.nodup_nil, .slnil, rfl, fun _ => rfl⟩
  | created shown ledger event _ new ih =>
    refine ⟨List.nodup_cons.mpr ⟨new, ih.made⟩, ih.held.cons_cons event, ?_, fun given => ?_⟩
    · simp [creates, EventLedger.enter, ih.creations]
    · simp only [EventLedger.enter, List.count_cons, List.countP_append, ← ih.destructions given]
      simp [destroys]
      omega
  | refused shown ledger _ ih => exact neutral ih ⟨by simp [creates], fun _ => rfl⟩
  | destroyed shown ledger event failed _ owned ih =>
    have once : ledger.held.count event = 1 := List.count_eq_one_of_mem (ih.held.nodup ih.made) owned
    refine ⟨ih.made, List.filter_sublist.trans ih.held, by simp [creates, EventLedger.strike, ih.creations], fun given => ?_⟩
    have before := ih.destructions given
    by_cases same : event = given
    · subst same
      have gone : (ledger.held.filter (· != event)).count event = 0 := List.count_eq_zero.mpr (by simp)
      simp only [EventLedger.strike, List.countP_append, gone]
      simp [destroys]
      omega
    · have kept : (ledger.held.filter (· != event)).count given = ledger.held.count given :=
        List.count_filter (by simpa using Ne.symm same)
      simp only [EventLedger.strike, List.countP_append, kept]
      simpa [destroys, same] using before
  | used shown ledger event _ near ih => exact neutral ih (strays_not near)
  | beside shown ledger event _ apart ih => exact neutral ih (apart_not apart)

theorem destroyed_once (accounts : Accounts name shown ledger) (event : RawEvent) :
    shown.countP (destroys name event) = if event ∈ ledger.made ∧ event ∉ ledger.held then 1 else 0 := by
  have balanced := accounts.balanced
  have both := balanced.destructions event
  by_cases held : event ∈ ledger.held
  · have made := balanced.held.subset held
    rw [List.count_eq_one_of_mem balanced.made made, List.count_eq_one_of_mem (balanced.held.nodup balanced.made) held] at both
    rw [if_neg fun gone => gone.2 held]
    omega
  · rw [List.count_eq_zero.mpr held] at both
    by_cases made : event ∈ ledger.made
    · rw [List.count_eq_one_of_mem balanced.made made] at both
      simpa [held, made] using both
    · rw [List.count_eq_zero.mpr made] at both
      simpa [made] using both

theorem used_all (accounts : Accounts name shown ledger) (near : Lacks (strays name ledger.held) more) :
    Accounts name (shown ++ more) ledger := by
  induction more using List.reverseRecOn with
  | nil => rwa [List.append_nil]
  | append_singleton rest event ih =>
    obtain ⟨before, last⟩ := (lacks_append rest [event]).mp near
    rw [← List.append_assoc]
    exact .used _ ledger event (ih before) ((lacks_cons event []).mp last).1

theorem beside_all (accounts : Accounts name shown ledger) (apart : ∀ event ∈ more, event.driver? ≠ some name) :
    Accounts name (shown ++ more) ledger := by
  induction more using List.reverseRecOn with
  | nil => rwa [List.append_nil]
  | append_singleton rest event ih =>
    rw [← List.append_assoc]
    exact .beside _ ledger event (ih fun found member => apart found (List.mem_append_left _ member))
      (apart event (by simp))

end Accounts

namespace Driver

structure Agrees (driver : Driver) (shown : List Event) (ledger : EventLedger) : Prop where
  accounts : Accounts driver.name shown ledger
  held : ledger.held = driver.live

variable {driver : Driver} {shown : List Event} {ledger : EventLedger}

theorem agrees_create_event (agrees : driver.Agrees shown ledger) (below : ∀ event ∈ ledger.made, event ≤ driver.handles) :
    Ends createEvent driver
      (fun more answer next => next.name = driver.name ∧
        match answer with
        | .ok event => event ∉ ledger.made ∧ more = [.call driver.name .createEvent false] ∧
            next.Agrees (shown ++ more) (ledger.enter event) ∧ ∀ found ∈ (ledger.enter event).made, found ≤ next.handles
        | .error _ => more = [.call driver.name .createEvent true] ∧ next.Agrees (shown ++ more) ledger)
      (fun _ _ => False) := by
  simp only [createEvent, ends_try_call]
  cases fails : driver.fault? DriverCall.createEvent.method with
  | some error =>
    have event : callEvent .createEvent driver = .call driver.name .createEvent true := by simp [callEvent, fails]
    exact ⟨rfl, by rw [event], ⟨event ▸ .refused shown ledger agrees.accounts, agrees.held⟩⟩
  | none =>
    have event : callEvent .createEvent driver = .call driver.name .createEvent false := by simp [callEvent, fails]
    have new : driver.handles + 1 ∉ ledger.made := fun member => Nat.not_succ_le_self _ (below _ member)
    simp only [nextHandle, ends_bind, ends_get, ends_set, ends_modify, ends_pure, List.append_nil, event]
    refine ⟨rfl, new, trivial, ⟨.created shown ledger _ agrees.accounts new, ?_⟩, ?_⟩
    · exact congrArg (List.cons (driver.handles + 1)) agrees.held
    · intro found member
      rcases List.mem_cons.mp member with rfl | before
      · exact Nat.le_refl _
      · exact Nat.le_succ_of_le (below found before)

theorem agrees_destroy_event (agrees : driver.Agrees shown ledger) {event : RawEvent} (owned : event ∈ ledger.held) :
    Ends (destroyEvent event) driver
      (fun more _ next => next.name = driver.name ∧ next.Agrees (shown ++ more) (ledger.strike event)) (fun _ _ => False) := by
  simp only [destroyEvent, ends_do_call, ends_modify]
  exact ⟨rfl, .destroyed shown ledger event _ agrees.accounts owned, congrArg (List.filter (· != event)) agrees.held⟩

end Driver

namespace ProfiledDevice

variable {driver : Driver} {shown : List Event} {ledger : EventLedger}

-- Where the second creation fails the first event is given back, so that nothing is held.
theorem agrees_trap_create (agrees : driver.Agrees shown .blank) (timing : TrapTiming) :
    Ends (Trap.create timing : Act Driver (Except Error Trap)) driver
      (fun more answer next => next.name = driver.name ∧ ∃ after, next.Agrees (shown ++ more) after ∧
        match answer with
        | .ok trap => after.held = trap.events.list ∧ trap.events.list.Nodup ∧ .call driver.name .createEvent true ∉ more
        | .error _ => after.held = [])
      (fun _ _ => False) := by
  simp only [Trap.create, ends_bind]
  refine ends_mono (Driver.agrees_create_event agrees fun _ never => nomatch never) ?_ (fun _ _ never => never)
  rintro first answer middle ⟨named, outcome⟩
  cases answer with
  | error error =>
    rw [ends_pure, List.append_nil]
    exact ⟨named, .blank, outcome.2, rfl⟩
  | ok deviceToHost =>
    obtain ⟨_, rfl, created, below⟩ := outcome
    simp only [ends_bind]
    refine ends_mono (Driver.agrees_create_event created below) ?_ (fun _ _ never => never)
    rintro second answer last ⟨still, outcome⟩
    cases answer with
    | error error =>
      obtain ⟨rfl, refused⟩ := outcome
      simp only [ends_bind, ends_pure]
      refine ends_mono (Driver.agrees_destroy_event refused List.mem_cons_self) ?_ (fun _ _ never => never)
      rintro third _ next ⟨also, destroyed⟩
      refine ⟨also.trans (still.trans named), _, by simpa using destroyed, ?_⟩
      simp [EventLedger.strike, EventLedger.enter, EventLedger.blank]
    | ok hostToDevice =>
      obtain ⟨new, rfl, both, _⟩ := outcome
      refine ⟨still.trans named, _, by simpa using both, rfl, ?_, by simp⟩
      simpa [TrapEvents.list, EventLedger.enter, EventLedger.blank] using new

theorem agrees_create_trap (agrees : driver.Agrees shown .blank) (config : Config) :
    Ends (createTrap config) driver
      (fun more trap next => next.name = driver.name ∧ ∃ after, next.Agrees (shown ++ more) after ∧
        after.held = (equipped next trap).held ∧ after.held.Nodup ∧
        (.call driver.name .createEvent true ∈ more → trap = none))
      (fun _ _ => False) := by
  unfold createTrap
  split
  · simp only [ends_bind]
    refine ends_mono (agrees_trap_create agrees config.trap) ?_ (fun _ _ never => never)
    rintro more answer next ⟨named, after, agreed, outcome⟩
    cases answer with
    | error error =>
      simp only [ends_bind, ends_note, ends_pure]
      have noted : Accounts next.name ((shown ++ more) ++ [.note (.trapUnavailable error)]) after :=
        .beside _ after _ agreed.accounts (by simp [Event.driver?])
      refine ⟨named, after, ⟨by simpa using noted, agreed.held⟩, outcome, by simp [outcome], fun _ => trivial⟩
    | ok trap =>
      obtain ⟨held, distinct, unrefused⟩ := outcome
      simp only [ends_pure, List.append_nil]
      exact ⟨named, after, agreed, held, held ▸ distinct, fun refused => absurd refused unrefused⟩
  · rw [ends_pure, List.append_nil]
    exact ⟨rfl, .blank, agrees, rfl, List.nodup_nil, fun _ => rfl⟩

theorem agrees_destroy_trap {device : ProfiledDevice} (agrees : device.driver.Agrees shown ledger)
    (held : ledger.held = device.custody.held) (distinct : ledger.held.Nodup) :
    Ends device.destroyTrap device.driver
      (fun more _ next => next.name = device.driver.name ∧ ∃ after, next.Agrees (shown ++ more) after ∧ after.held = [])
      (fun _ _ => False) := by
  unfold destroyTrap
  cases armed : device.trap with
  | none =>
    have empty : ledger.held = [] := by rw [held, custody, Custody.held, trapEvents, armed]; rfl
    rw [ends_pure, List.append_nil]
    exact ⟨rfl, ledger, agrees, empty⟩
  | some trap =>
    have both : ledger.held = [trap.events.hostToDevice, trap.events.deviceToHost] := by
      rw [held, custody, Custody.held, trapEvents, armed]
      rfl
    have apart : trap.events.hostToDevice ≠ trap.events.deviceToHost := by
      rw [both] at distinct
      simpa using distinct
    simp only [Trap.destroy, ends_bind]
    refine ends_mono (Driver.agrees_destroy_event agrees (by simp [both])) ?_ (fun _ _ never => never)
    rintro first _ middle ⟨named, agreed⟩
    have left : (ledger.strike trap.events.deviceToHost).held = [trap.events.hostToDevice] := by
      simp [EventLedger.strike, both, apart]
    refine ends_mono (Driver.agrees_destroy_event agreed (by simp [left])) ?_ (fun _ _ never => never)
    rintro second _ last ⟨still, done⟩
    refine ⟨still.trans named, _, by simpa using done, ?_⟩
    rw [EventLedger.strike, left]
    simp

end ProfiledDevice

end GpuProfiler
