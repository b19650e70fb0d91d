import Mathlib.Logic.Function.Basic
import GpuProfiler.Proofs.Trap.Ledger

set_option autoImplicit false

namespace GpuProfiler

open Act Event

structure OwnDrivers (drivers : List Driver) : Prop where
  names : (drivers.map (·.name)).Nodup
  unused : ∀ driver ∈ drivers, driver.live = []

theorem own_before {drivers later : List Driver} (own : OwnDrivers (drivers ++ later)) : OwnDrivers drivers := by
  refine ⟨?_, fun driver member => own.unused driver (List.mem_append_left later member)⟩
  have names := own.names
  rw [List.map_append] at names
  exact names.of_append_left

theorem own_next {drivers : List Driver} {given : Option Driver} (own : OwnDrivers (drivers ++ given.toList)) :
    ∀ driver ∈ given, driver.name ∉ drivers.map (·.name) ∧ driver.live = [] := by
  rintro driver ⟨⟩
  have names := own.names
  rw [List.map_append] at names
  refine ⟨fun member => ?_, own.unused driver (by simp)⟩
  exact (List.nodup_append.mp names).2.2 _ member _ (List.mem_singleton.mpr rfl) rfl

def LayerStep.drivers (steps : List LayerStep) : List Driver := steps.filterMap (·.call.driver?)

theorem LayerStep.drivers_concat (steps : List LayerStep) (step : LayerStep) :
    drivers (steps ++ [step]) = drivers steps ++ step.call.driver?.toList := by
  rw [drivers, List.filterMap_append]
  cases given : step.call.driver? <;> simp [given, drivers]

structure Custody.Tidy (custody : Custody) (ledger : EventLedger) : Prop where
  held : ledger.held = custody.live
  live : custody.live = custody.held
  distinct : custody.live.Nodup

/-- What the ledgers say of devices that were given the drivers of some names. -/
structure Owns (custodies : List Custody) (names : List String) (shown : List Event) (ledgers : String → EventLedger) :
    Prop where
  accounts : ∀ name, Accounts name shown (ledgers name)
  apart : (custodies.map (·.name)).Nodup
  named : ∀ custody ∈ custodies, custody.name ∈ names
  tidy : ∀ custody ∈ custodies, custody.Tidy (ledgers custody.name)
  idle : ∀ name, name ∉ custodies.map (·.name) → (ledgers name).held = []
  refused : ∀ custody ∈ custodies, .call custody.name .createEvent true ∈ shown → custody.events = none
  silent : ∀ name, name ∉ names → ledgers name = .blank ∧ ∀ event ∈ shown, event.driver? ≠ some name

namespace Owns

variable {custodies others : List Custody} {names : List String} {shown more : List Event}
  {ledgers : String → EventLedger} {custody : Custody} {ledger : EventLedger}

theorem nothing : Owns [] [] [] (fun _ => .blank) :=
  ⟨fun _ => .start, List.nodup_nil, List.forall_mem_nil _, List.forall_mem_nil _, fun _ _ => rfl, List.forall_mem_nil _,
    fun _ _ => ⟨rfl, List.forall_mem_nil _⟩⟩

theorem perm (owns : Owns custodies names shown ledgers) (perm : others.Perm custodies) : Owns others names shown ledgers where
  accounts := owns.accounts
  apart := ((perm.map _).nodup_iff).mpr owns.apart
  named found member := owns.named found (perm.mem_iff.mp member)
  tidy found member := owns.tidy found (perm.mem_iff.mp member)
  idle name absent := owns.idle name fun member => absent ((perm.map _).mem_iff.mpr member)
  refused found member := owns.refused found (perm.mem_iff.mp member)
  silent := owns.silent

theorem accounts_update (owns : Owns custodies names shown ledgers) {driver : String}
    (here : Accounts driver (shown ++ more) ledger) (near : Lacks (elsewhere driver) more) (name : String) :
    Accounts name (shown ++ more) (Function.update ledgers driver ledger name) := by
  by_cases same : name = driver
  · subst same
    rwa [Function.update_self]
  · rw [Function.update_of_ne same]
    refine (owns.accounts name).beside_all fun event member named => ?_
    have far := near event member
    simp [elsewhere, named, same] at far

theorem apart_named {driver name : String} (near : Lacks (elsewhere driver) more) (other : name ≠ driver) :
    ∀ event ∈ more, event.driver? ≠ some name := by
  intro event member named
  have far := near event member
  simp [elsewhere, named, other] at far

theorem unrefused {name : String} (near : Lacks custody.strays more)
    (refused : .call name .createEvent true ∈ shown ++ more) : .call name .createEvent true ∈ shown := by
  rcases List.mem_append.mp refused with before | new
  · exact before
  · have far := near _ new
    simp [Custody.strays, Event.strays, DriverCall.alters] at far

theorem silent_on (owns : Owns custodies names shown ledgers) {driver name : String} (near : Lacks (elsewhere driver) more)
    (absent : name ∉ names) (other : name ≠ driver) : ∀ event ∈ shown ++ more, event.driver? ≠ some name :=
  List.forall_mem_append.mpr ⟨(owns.silent name absent).2, apart_named near other⟩

theorem within (owns : Owns custodies names shown ledgers) (member : custody ∈ custodies)
    (near : Lacks custody.strays more) : Owns custodies names (shown ++ more) ledgers := by
  have tidy := owns.tidy custody member
  have used : Accounts custody.name (shown ++ more) (ledgers custody.name) := by
    refine (owns.accounts _).used_all ?_
    rw [tidy.held, tidy.live]
    exact near
  refine { owns with accounts := fun name => ?_, refused := ?_, silent := ?_ }
  · have all := owns.accounts_update used (elsewhere_strays near) name
    rwa [Function.update_eq_self] at all
  · exact fun found there refused => owns.refused found there (unrefused near refused)
  · intro name absent
    have other : name ≠ custody.name := fun same => absent (same ▸ owns.named custody member)
    exact ⟨(owns.silent name absent).1, owns.silent_on (elsewhere_strays near) absent other⟩

theorem refused_beside {found : Custody} (owns : Owns custodies names shown ledgers) (member : found ∈ custodies)
    {driver : String} (near : Lacks (elsewhere driver) more) (other : found.name ≠ driver)
    (refused : .call found.name .createEvent true ∈ shown ++ more) : found.events = none := by
  rcases List.mem_append.mp refused with before | new
  · exact owns.refused found member before
  · exact absurd rfl (apart_named near other _ new)

theorem joined (owns : Owns custodies names shown ledgers) (new : custody.name ∉ names)
    (here : Accounts custody.name (shown ++ more) ledger) (tidy : custody.Tidy ledger)
    (refused : .call custody.name .createEvent true ∈ more → custody.events = none)
    (near : Lacks (elsewhere custody.name) more) :
    Owns (custody :: custodies) (names ++ [custody.name]) (shown ++ more)
      (Function.update ledgers custody.name ledger) := by
  have other {found : Custody} (member : found ∈ custodies) : found.name ≠ custody.name :=
    fun same => new (same ▸ owns.named found member)
  refine ⟨owns.accounts_update here near, ?_, ?_, ?_, ?_, ?_, ?_⟩
  · refine List.nodup_cons.mpr ⟨fun member => ?_, owns.apart⟩
    obtain ⟨found, there, same⟩ := List.mem_map.mp member
    exact other there same
  · refine List.forall_mem_cons.mpr ⟨by simp, fun found member => List.mem_append_left _ (owns.named found member)⟩
  · refine List.forall_mem_cons.mpr ⟨by rwa [Function.update_self], fun found member => ?_⟩
    rw [Function.update_of_ne (other member)]
    exact owns.tidy found member
  · intro name absent
    rw [List.map_cons, List.mem_cons, not_or] at absent
    rw [Function.update_of_ne absent.1]
    exact owns.idle name absent.2
  · refine List.forall_mem_cons.mpr ⟨fun told => ?_, fun found member => owns.refused_beside member near (other member)⟩
    rcases List.mem_append.mp told with before | after
    · exact absurd rfl ((owns.silent custody.name new).2 _ before)
    · exact refused after
  · intro name absent
    rw [List.mem_append, List.mem_singleton, not_or] at absent
    rw [Function.update_of_ne absent.2]
    exact ⟨(owns.silent name absent.1).1, owns.silent_on near absent.1 absent.2⟩

theorem parted (owns : Owns (custody :: custodies) names shown ledgers)
    (here : Accounts custody.name (shown ++ more) ledger) (empty : ledger.held = [])
    (near : Lacks (elsewhere custody.name) more) :
    Owns custodies names (shown ++ more) (Function.update ledgers custody.name ledger) := by
  obtain ⟨apart, rest⟩ := List.nodup_cons.mp owns.apart
  have other {found : Custody} (member : found ∈ custodies) : found.name ≠ custody.name :=
    fun same => apart (List.mem_map.mpr ⟨found, member, same⟩)
  have still {found : Custody} (member : found ∈ custodies) := List.mem_cons_of_mem custody member
  refine ⟨owns.accounts_update here near, rest, fun found member => owns.named found (still member), ?_, ?_, ?_, ?_⟩
  · intro found member
    rw [Function.update_of_ne (other member)]
    exact owns.tidy found (still member)
  · intro name absent
    by_cases same : name = custody.name
    · rw [same, Function.update_self]
      exact empty
    · rw [Function.update_of_ne same]
      exact owns.idle name (by simpa [same] using absent)
  · exact fun found member => owns.refused_beside (still member) near (other member)
  · intro name absent
    have apart : name ≠ custody.name := fun same => absent (same ▸ owns.named custody List.mem_cons_self)
    rw [Function.update_of_ne apart]
    exact ⟨(owns.silent name absent).1, owns.silent_on near absent apart⟩

end Owns

namespace ProfiledDevice

variable {driver : Driver} {shown more : List Event} {ledger : EventLedger} {custody : Custody}

theorem started_accounts {config : Config} (agrees : driver.Agrees shown .blank)
    (started : Started config driver more custody) :
    ∃ after, Accounts custody.name (shown ++ more) after ∧ custody.Tidy after ∧
      (.call custody.name .createEvent true ∈ more → custody.events = none) := by
  obtain ⟨set, later, trap, next, made, near⟩ := started
  obtain ⟨named, after, agreed, held, distinct, refused⟩ := ends_of_ok (agrees_create_trap agrees config) made
  have tidy : (equipped next trap).Tidy after :=
    ⟨agreed.held, agreed.held.symm.trans held, (show after.held = (equipped next trap).live from agreed.held) ▸ distinct⟩
  refine ⟨after, ?_, tidy, fun told => ?_⟩
  · rw [← List.append_assoc]
    refine agreed.accounts.used_all ?_
    rw [held]
    exact near
  · have early : .call driver.name .createEvent true ∈ set := by
      rw [← named]
      exact Owns.unrefused near told
    rw [equipped, refused early]
    rfl

theorem ended_accounts {device : ProfiledDevice} {left : Driver} (agrees : device.driver.Agrees shown ledger)
    (tidy : device.custody.Tidy ledger) (noticed : Note)
    (ended : device.destroyTrap device.driver = ⟨more, .ok ((), left)⟩) :
    left.live = [] ∧ ∃ after, Accounts device.driver.name (shown ++ .note noticed :: more) after ∧ after.held = [] := by
  have noted : device.driver.Agrees (shown ++ [.note noticed]) ledger :=
    ⟨.beside _ _ _ agrees.accounts (by simp [Event.driver?]), agrees.held⟩
  have distinct : ledger.held.Nodup := tidy.held ▸ tidy.distinct
  obtain ⟨named, after, agreed, empty⟩ := ends_of_ok (agrees_destroy_trap noted (tidy.held.trans tidy.live) distinct) ended
  refine ⟨agreed.held.symm.trans empty, after, ?_, empty⟩
  have accounts := agreed.accounts
  rw [named, List.append_assoc] at accounts
  exact accounts

end ProfiledDevice

namespace Layer

variable {layer next : Layer} {call : LayerCall} {names : List String} {shown more : List Event}
  {ledgers : String → EventLedger}

def custodies (layer : Layer) : List Custody := layer.devices.values.map (·.custody)

-- What a call does to the ledgers, also one that halts, and to what the devices have.
theorem reaches_owns (sound : layer.Sound) (owns : Owns layer.custodies names shown ledgers)
    (own : ∀ driver ∈ call.driver?, driver.name ∉ names ∧ driver.live = []) {after : Option Layer}
    (reaches : layer.Reaches call more after) :
    ∃ ledgers : String → EventLedger, (∀ name, Accounts name (shown ++ more) (ledgers name)) ∧
      ∀ next ∈ after, Owns next.custodies (names ++ call.driver?.toList.map (·.name)) (shown ++ more) ledgers := by
  cases reaches with
  | nothing given gone =>
    refine ⟨ledgers, by simpa using owns.accounts, ?_⟩
    rintro _ ⟨⟩
    simpa [given] using owns
  | within id device _ _ called live near left =>
    have member : device.custody ∈ layer.custodies := List.mem_map.mpr ⟨device, Arena.mem_values live, rfl⟩
    have inside := owns.within member near
    refine ⟨ledgers, inside.accounts, fun next ended => ?_⟩
    obtain ⟨moved, same, devices⟩ := left next ended
    have given : call.driver? = none := by cases call <;> first | rfl | cases called
    have kept := (Arena.values_set moved live).map (·.custody)
    rw [List.map_cons, List.map_cons, same, ← devices] at kept
    have perm : next.custodies.Perm layer.custodies := kept.cons_inv
    simpa [given] using inside.perm perm
  | created driver _ custody _ given started left =>
    obtain ⟨new, unused⟩ := own driver given
    obtain ⟨named, near⟩ := ProfiledDevice.started_near started
    have agrees : driver.Agrees shown .blank := by
      refine ⟨?_, unused.symm⟩
      rw [← (owns.silent driver.name new).1]
      exact owns.accounts driver.name
    obtain ⟨ledger, accounts, tidy, refused⟩ := ProfiledDevice.started_accounts agrees started
    rw [← named] at new near
    have joined := owns.joined new accounts tidy refused near
    refine ⟨_, joined.accounts, fun next ended => ?_⟩
    obtain ⟨device, same, devices⟩ := left next ended
    have placed : next.custodies.Perm (custody :: layer.custodies) := by
      have perm := (Arena.values_insert sound.devices device).map (·.custody)
      rwa [List.map_cons, same, ← devices] at perm
    simpa [given, named] using joined.perm placed
  | destroyed id device noticed gone left next called live ended devices =>
    have member : device.custody ∈ layer.custodies := List.mem_map.mpr ⟨device, Arena.mem_values live, rfl⟩
    have tidy := owns.tidy _ member
    obtain ⟨_, ledger, accounts, empty⟩ :=
      ProfiledDevice.ended_accounts ⟨owns.accounts device.driver.name, tidy.held⟩ tidy noticed ended
    have taken : (device.custody :: next.custodies).Perm layer.custodies := by
      have perm := (Arena.values_remove live).map (·.custody)
      rwa [List.map_cons, ← devices] at perm
    have near : Lacks (elsewhere device.driver.name) (.note noticed :: gone) :=
      (lacks_cons _ gone).mpr ⟨rfl, (ends_of_ok (Driver.near_destroy_trap device device.driver rfl) ended).2⟩
    have parted := (owns.perm taken).parted accounts empty near
    refine ⟨_, parted.accounts, ?_⟩
    rintro _ ⟨⟩
    simpa [called, LayerCall.driver?] using parted

theorem run_owns {allowed : Layer → LayerCall → Prop} {config : Config} {endpoint : ShowingEndpoint} {steps : List LayerStep}
    (run : Run allowed (fresh config endpoint) steps layer) (own : OwnDrivers (LayerStep.drivers steps)) :
    ∃ ledgers, Owns layer.custodies ((LayerStep.drivers steps).map (·.name)) (steps.flatMap (·.shown)) ledgers := by
  induction run with
  | start => exact ⟨_, .nothing⟩
  | step steps layer next call shown reply run admitted made ih =>
    rw [LayerStep.drivers_concat] at own
    obtain ⟨ledgers, owns⟩ := ih (own_before own)
    have reaches := ends_of_ok (ends_reaches layer call) made
    obtain ⟨after, _, still⟩ := reaches_owns (run_sound run) owns (own_next own) reaches
    refine ⟨after, ?_⟩
    rw [LayerStep.drivers_concat, List.map_append, List.flatMap_append, List.flatMap_singleton]
    simpa using still next rfl

/-- Whatever creations of events fail, what lives on a driver are the two events of the live device that
is profiled on it, told apart, and nothing where a creation failed or no device is live any more. What
was created and is not held any more was destroyed once, nothing is destroyed again, and no call names,
and no trap that is recorded, an event that is not held at that point, up to where a last call ends or
halts. -/
theorem trap_events_are_accounted_for {allowed : Layer → LayerCall → Prop} {config : Config} {endpoint : ShowingEndpoint}
    {steps : List LayerStep} (run : Run allowed (fresh config endpoint) steps layer) (call : LayerCall)
    (own : OwnDrivers (LayerStep.drivers steps ++ call.driver?.toList)) :
    ∃ ledgers : String → EventLedger,
      (∀ name, Accounts name (steps.flatMap (·.shown)) (ledgers name) ∧
        (steps.flatMap (·.shown)).countP (creates name) = (ledgers name).made.length ∧
        (∀ event, (steps.flatMap (·.shown)).countP (destroys name event) =
          if event ∈ (ledgers name).made ∧ event ∉ (ledgers name).held then 1 else 0) ∧
        ∃ after, Accounts name (steps.flatMap (·.shown) ++ (perform call layer).events) after) ∧
      (∀ device ∈ layer.devices.values,
        (ledgers device.driver.name).held = device.driver.live ∧
          device.driver.live = (device.trapEvents.map (·.list)).getD [] ∧ device.driver.live.Nodup ∧
          (.call device.driver.name .createEvent true ∈ steps.flatMap (·.shown) → device.driver.live = []) ∧
          ∃ gone left, device.destroyTrap device.driver = ⟨gone, .ok ((), left)⟩ ∧ left.live = []) ∧
      ∀ name, name ∉ layer.driverNames → (ledgers name).held = [] := by
  obtain ⟨ledgers, owns⟩ := run_owns run (own_before own)
  have goes_on : ∃ later : String → EventLedger, ∀ name,
      Accounts name (steps.flatMap (·.shown) ++ (perform call layer).events) (later name) := by
    have reached {after : Option Layer} {more : List Event} (reaches : layer.Reaches call more after) :
        ∃ later : String → EventLedger, ∀ name, Accounts name (steps.flatMap (·.shown) ++ more) (later name) := by
      obtain ⟨later, accounts, _⟩ := reaches_owns (run_sound run) owns (own_next own) reaches
      exact ⟨later, accounts⟩
    have ends := ends_mono (ends_reaches layer call) (fun _ _ _ reaches => reached reaches) (fun _ _ reaches => reached reaches)
    exact ends_events ends
  obtain ⟨later, accounts⟩ := goes_on
  refine ⟨ledgers, fun name => ?_, ?_, ?_⟩
  · have kept := owns.accounts name
    exact ⟨kept, kept.balanced.creations, kept.destroyed_once, later name, accounts name⟩
  · intro device living
    have member : device.custody ∈ layer.custodies := List.mem_map.mpr ⟨device, living, rfl⟩
    have tidy := owns.tidy _ member
    obtain ⟨gone, left, ended⟩ := device.destroy_trap_ends device.driver
    refine ⟨tidy.held, tidy.live, tidy.distinct, fun refused => ?_, gone, left, ended, ?_⟩
    · refine tidy.live.trans ?_
      rw [Custody.held, owns.refused _ member refused]
      rfl
    · exact (ProfiledDevice.ended_accounts ⟨owns.accounts _, tidy.held⟩ tidy (.deviceDestroyed 0) ended).1
  · intro name absent
    refine owns.idle name ?_
    rwa [custodies, List.map_map]

-- Of three devices one cannot have its second event, and one is destroyed; the third stops in a frame
-- that is sampled.
def threeDrivers : List LayerStep :=
  (fresh (Config.default.withFrameList [0]) ⟨[], 0⟩).trace [
    .createDevice (.new "left" [] [] false) .empty,
    .createDevice (.new "right" [⟨.createEvent, 1, .eventCreationFailed⟩] [] false) .empty,
    .createDevice (.new "third" [] [] false) .empty,
    .getQueue ⟨2, 0⟩ 0 0,
    .allocate ⟨2, 0⟩ .primary,
    .command ⟨⟨2, 0⟩, ⟨0, 0⟩⟩ (.dispatch 1 1 1),
    .submit ⟨⟨2, 0⟩, ⟨0, 0⟩⟩ [⟨[⟨⟨2, 0⟩, ⟨0, 0⟩⟩], false⟩],
    .destroyDevice ⟨0, 0⟩]

theorem three_drivers_accounted_for :
    let layer := (fresh (Config.default.withFrameList [0]) ⟨[], 0⟩).outcome threeDrivers
    let call := LayerCall.destroyDevice ⟨2, 0⟩
    Run (fun _ _ => True) (fresh (Config.default.withFrameList [0]) ⟨[], 0⟩) threeDrivers layer ∧ threeDrivers.length = 8 ∧
      OwnDrivers (LayerStep.drivers threeDrivers ++ call.driver?.toList) ∧
      .call "right" (.destroyEvent 1) false ∈ threeDrivers.flatMap (·.shown) ∧
      .call "third" (.setEvent 2) false ∈ threeDrivers.flatMap (·.shown) ∧
      ∃ ledgers : String → EventLedger, (∀ name, Accounts name (threeDrivers.flatMap (·.shown)) (ledgers name)) ∧
        (ledgers "left").held = [] ∧ (ledgers "left").made.length = 2 ∧ (ledgers "right").made.length = 1 ∧
        (ledgers "third").held = [2, 1] := by
  intro layer call
  have run : Run (fun _ _ => True) (fresh (Config.default.withFrameList [0]) ⟨[], 0⟩) threeDrivers layer :=
    run_trace _ _ fun _ _ => trivial
  have own : OwnDrivers (LayerStep.drivers threeDrivers ++ call.driver?.toList) :=
    ⟨by decide +kernel, by decide +kernel⟩
  obtain ⟨ledgers, accounts, living, idle⟩ := trap_events_are_accounted_for run call own
  have third : ∃ device ∈ layer.devices.values, device.driver.name = "third" ∧ device.driver.live = [2, 1] := by
    decide +kernel
  obtain ⟨device, member, name, live⟩ := third
  have held := (living device member).1
  rw [name, live] at held
  have left := (accounts "left").2.1
  have right := (accounts "right").2.1
  rw [show (threeDrivers.flatMap (·.shown)).countP (creates "left") = 2 by decide +kernel] at left
  rw [show (threeDrivers.flatMap (·.shown)).countP (creates "right") = 1 by decide +kernel] at right
  exact ⟨run, by decide +kernel, own, by decide +kernel, by decide +kernel, ledgers, fun name => (accounts name).1,
    idle "left" (by decide +kernel), left.symm, right.symm, held⟩

end Layer

end GpuProfiler
