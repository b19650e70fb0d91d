import GpuProfiler.Proofs.Driver.Contents
import GpuProfiler.Proofs.Registry
import GpuProfiler.Proofs.Transparency.Alike
import GpuProfiler.ProfiledDevice

set_option autoImplicit false

namespace GpuProfiler

namespace Arena

variable {α β : Type}

def map (arena : Arena α) (view : α → β) : Arena β :=
  ⟨arena.slots.map fun slot => ⟨slot.generation, slot.value.map view⟩, arena.free, arena.size⟩

def handle (handle : Handle α) : Handle β := ⟨handle.index, handle.generation⟩

variable (view : α → β)

theorem get_map (arena : Arena α) (found : Handle α) : (arena.map view).get? (handle found) = (arena.get? found).map view := by
  unfold get? slot? map
  simp only [handle, List.getElem?_map]
  cases arena.slots[found.index.toNat]? with
  | none => rfl
  | some slot =>
    by_cases current : slot.generation = found.generation <;> simp [current]

theorem set_map (arena : Arena α) (found : Handle α) (value : α) :
    (arena.set found value).map view = (arena.map view).set (handle found) (view value) := by
  unfold set
  rw [get_map]
  cases arena.get? found with
  | none => rfl
  | some old => simp [map, handle, List.map_set]

theorem insert_map (arena : Arena α) (value : α) :
    (handle (arena.insert value).1, (arena.insert value).2.map view) = (arena.map view).insert (view value) := by
  unfold insert
  cases listed : arena.free with
  | nil => simp [map, grow, handle, listed]
  | cons index free =>
    simp only [map, listed, List.getElem?_map]
    cases arena.slots[index.toNat]? with
    | none => simp [grow, handle, listed]
    | some slot => simp [handle, List.map_set]

theorem remove_map (arena : Arena α) (found : Handle α) :
    ((arena.remove found).1.map view, (arena.remove found).2.map view) = (arena.map view).remove (handle found) := by
  unfold remove slot?
  simp only [map, handle, List.getElem?_map]
  cases arena.slots[found.index.toNat]? with
  | none => rfl
  | some slot =>
    obtain ⟨generation, value⟩ := slot
    by_cases current : generation = found.generation
    · subst current
      cases value <;> simp [List.map_set, Slot.vacate]
    · simp [current]

theorem handle_inj {found other : Handle α} (same : (handle found : Handle β) = handle other) : found = other := by
  cases found
  cases other
  cases same
  rfl

variable {view} {arena other : Arena α} (viewed : arena.map view = other.map view)

include viewed

theorem get_viewed (found : Handle α) : (arena.get? found).map view = (other.get? found).map view := by
  rw [← get_map, ← get_map, viewed]

theorem set_viewed (found : Handle α) {value also : α} (same : view value = view also) :
    (arena.set found value).map view = (other.set found also).map view := by
  rw [set_map, set_map, viewed, same]

theorem insert_viewed {value also : α} (same : view value = view also) :
    (arena.insert value).1 = (other.insert also).1 ∧ (arena.insert value).2.map view = (other.insert also).2.map view := by
  have first := insert_map view arena value
  have second := insert_map view other also
  rw [viewed, same, ← second, Prod.mk.injEq] at first
  exact ⟨handle_inj first.1, first.2⟩

theorem remove_viewed (found : Handle α) :
    (arena.remove found).1.map view = (other.remove found).1.map view ∧
      (arena.remove found).2.map view = (other.remove found).2.map view := by
  have first := remove_map view arena found
  have second := remove_map view other found
  rw [viewed, ← second, Prod.mk.injEq] at first
  exact first

end Arena

def Answers {α : Type} (same : α → α → Prop) : Except Error α → Except Error α → Prop
  | .ok x, .ok y => same x y
  | .error error, .error other => error = other
  | _, _ => False

theorem answers_cases {α : Type} {same : α → α → Prop} {answer other : Except Error α} (answers : Answers same answer other) :
    (∃ error, answer = .error error ∧ other = .error error) ∨ ∃ x y, answer = .ok x ∧ other = .ok y ∧ same x y := by
  cases answer <;> cases other <;> simp_all [Answers]

theorem answers_eq {α : Type} {answer other : Except Error α} : Answers (· = ·) answer other ↔ answer = other := by
  cases answer <;> cases other <;> simp [Answers]

theorem answers_map {α β : Type} (view : α → β) {answer other : Except Error α} :
    Answers (fun x y => view x = view y) answer other ↔ answer.map view = other.map view := by
  cases answer <;> cases other <;> simp [Answers, Except.map]

theorem answers_done {answer other : Except Error Unit} (same : Answers (fun _ _ => True) answer other) : answer = other := by
  cases answer <;> cases other <;> simp_all [Answers]

structure DriverView where
  name : String
  faults : List Fault
  reserved : List RawBuffer
  calls : List DriverMethod

namespace Driver

open Act Event

variable {α : Type} {driver other : Driver}

-- The driver without what it holds and does, and without its script and its past for the calls that
-- are not passed on.
def view (driver : Driver) : DriverView :=
  ⟨driver.name, driver.faults.filter fun fault => !fault.method.isOwn, driver.reserved,
    driver.calls.filter fun method => !method.isOwn⟩

theorem fault_view (viewed : driver.view = other.view) {method : DriverMethod} (passed : method.isOwn = false) :
    driver.fault? method = other.fault? method := by
  have seen (driver : Driver) : driver.fault? method =
      (driver.view.faults.find? fun fault =>
        decide (fault.method = method) && fault.number == driver.view.calls.count method).map (·.error) := by
    have count : driver.view.calls.count method = driver.calls.count method := List.count_filter (by simp [passed])
    rw [fault?, count, view, List.find?_filter]
    congr 2
    funext fault
    by_cases here : fault.method = method <;> simp [here, passed, beq_eq_decide]
  rw [seen driver, seen other, viewed]

theorem event_view (viewed : driver.view = other.view) {call : DriverCall} (passed : call.method.isOwn = false) :
    callEvent call driver = callEvent call other := by
  have name : driver.name = other.name := congrArg DriverView.name viewed
  rw [callEvent, callEvent, name, fault_view viewed passed]

theorem counted_own (driver : Driver) {method : DriverMethod} (own : method.isOwn = true) :
    (driver.counted method).view = driver.view := by
  simp [view, counted, own]

theorem counted_view (viewed : driver.view = other.view) {method : DriverMethod} :
    (driver.counted method).view = (other.counted method).view := by
  simp only [view, DriverView.mk.injEq] at viewed ⊢
  obtain ⟨name, faults, reserved, calls⟩ := viewed
  refine ⟨name, faults, reserved, ?_⟩
  cases own : method.isOwn <;> simp [counted, own, calls]

section Hidden

theorem hidden_attempt {call : DriverCall} (own : call.method.isOwn = true) : Hidden view (attempt call) :=
  fun driver => ⟨passed_on_own (by simp [isPassedOn, own]) [], counted_own driver own⟩

theorem hidden_try_call {call : DriverCall} (own : call.method.isOwn = true) {work : Act Driver α} (hidden : Hidden view work) :
    Hidden view (tryCall call work) := by
  apply hidden_bind (hidden_attempt own)
  intro fault
  cases fault with
  | some error => exact hidden_pure _
  | none => exact hidden_bind hidden fun _ => hidden_pure _

theorem hidden_do_call {call : DriverCall} (own : call.method.isOwn = true) {work : Act Driver α} (hidden : Hidden view work) :
    Hidden view (doCall call work) := hidden_bind (hidden_attempt own) fun _ => hidden

theorem hidden_work (ops : List DeviceOp) : Hidden view (work ops) := by
  induction ops with
  | nil => exact hidden_modify fun _ => rfl
  | cons op rest ih =>
    intro driver
    simp only [work, ends_bind, ends_get]
    split
    · exact ⟨rfl, rfl⟩
    · next step signalled _ =>
      simp only [ends_bind, ends_set, ends_emit]
      refine ends_mono (ih _) ?_ (fun _ _ _ => trivial)
      rintro shown _ next ⟨none, same⟩
      exact ⟨none, same⟩

theorem hidden_advance : Hidden view advance := hidden_bind hidden_get fun _ => hidden_work _

theorem hidden_wait_idle : Hidden view deviceWaitIdle := by
  refine hidden_try_call rfl (hidden_bind hidden_get fun driver => ?_)
  split
  · exact hidden_halt _
  · exact hidden_pure ()

theorem hidden_create_event : Hidden view createEvent :=
  hidden_try_call rfl fun _ => ⟨rfl, rfl⟩

theorem hidden_destroy_event (event : RawEvent) : Hidden view (destroyEvent event) :=
  hidden_do_call rfl (hidden_modify fun _ => rfl)

theorem hidden_event_status (event : RawEvent) : Hidden view (eventStatus event) := by
  refine hidden_try_call rfl fun driver => ?_
  simp only [ends_bind, ends_get]
  split
  · exact ⟨rfl, rfl⟩
  · split
    · exact ⟨rfl, rfl⟩
    · exact trivial

theorem hidden_set_event (event : RawEvent) : Hidden view (setEvent event) :=
  hidden_try_call rfl (hidden_bind (hidden_modify fun _ => rfl) fun _ => hidden_advance)

theorem hidden_reset_event (event : RawEvent) : Hidden view (resetEvent event) :=
  hidden_try_call rfl (hidden_modify fun _ => rfl)

theorem hidden_emit_trap (events : TrapEvents) (buffer : RawBuffer) : Hidden view (events.emit buffer) :=
  hidden_bind (hidden_do_call rfl (hidden_modify fun _ => rfl)) fun _ =>
    hidden_bind (hidden_do_call rfl (hidden_modify fun _ => rfl)) fun _ => hidden_do_call rfl (hidden_modify fun _ => rfl)

end Hidden

section Passed

variable {same : α → α → Prop} {work : Act Driver α}

theorem alike_attempt {call : DriverCall} (passed : call.method.isOwn = false) : Alike view (· = ·) (attempt call) (attempt call) := by
  intro driver other viewed shown x next told y after ran went
  cases ran
  cases went
  exact ⟨congrArg (fun event => passedOn [event]) (event_view viewed passed), fault_view viewed passed, counted_view viewed⟩

theorem alike_try_call {call : DriverCall} (passed : call.method.isOwn = false) {also : Act Driver α}
    (alike : Alike view same work also) : Alike view (Answers same) (tryCall call work) (tryCall call also) := by
  apply alike_bind (alike_attempt passed)
  rintro fault _ rfl
  cases fault with
  | some error => exact alike_pure rfl
  | none => exact alike_bind alike fun x y related => alike_pure related

theorem alike_do_call {call : DriverCall} (passed : call.method.isOwn = false) {also : Act Driver α}
    (alike : Alike view same work also) : Alike view same (doCall call work) (doCall call also) :=
  alike_bind (alike_attempt passed) fun _ _ _ => alike

theorem alike_try_unseen {call : DriverCall} (passed : call.method.isOwn = false) {work : Act Driver Unit}
    (hidden : Hidden view work) : Alike view (· = ·) (tryCall call work) (tryCall call work) :=
  alike_mono (alike_try_call passed (alike_hidden hidden hidden)) fun _ _ => answers_done

theorem alike_do_unseen {call : DriverCall} (passed : call.method.isOwn = false) {work : Act Driver Unit}
    (hidden : Hidden view work) : Alike view (fun _ _ => True) (doCall call work) (doCall call work) :=
  alike_do_call passed (alike_hidden hidden hidden)

-- Numbers for buffers are scripted as long as some are reserved; a driver that has none left counts
-- its events and its buffers together.
def Scripted (driver : Driver) : Prop := driver.reserved ≠ [] ∨ (driver.fault? .allocateCommandBuffer).isSome = true

instance (driver : Driver) : Decidable driver.Scripted :=
  inferInstanceAs (Decidable (driver.reserved ≠ [] ∨ (driver.fault? .allocateCommandBuffer).isSome = true))

def handsOut (driver : Driver) : Except Error RawBuffer × List RawBuffer :=
  match driver.fault? .allocateCommandBuffer with
  | some error => (.error error, driver.reserved)
  | none => (.ok (driver.reserved.headD 0), driver.reserved.tail)

theorem hands_out_view (viewed : driver.view = other.view) : driver.handsOut = other.handsOut := by
  have fault : driver.fault? .allocateCommandBuffer = other.fault? .allocateCommandBuffer := fault_view viewed rfl
  have reserved : driver.reserved = other.reserved := congrArg DriverView.reserved viewed
  rw [handsOut, handsOut, fault, reserved]

theorem ends_allocate_scripted (level : BufferLevel) (scripted : driver.Scripted) :
    Ends (allocateCommandBuffer level) driver
      (fun shown answer next => shown = [callEvent (.allocateCommandBuffer level) driver] ∧ answer = driver.handsOut.1 ∧
        next.view = { (driver.counted .allocateCommandBuffer).view with reserved := driver.handsOut.2 })
      (fun _ _ => True) := by
  have method : (DriverCall.allocateCommandBuffer level).method = .allocateCommandBuffer := rfl
  simp only [allocateCommandBuffer, ends_try_call, handsOut, method]
  cases failed : driver.fault? .allocateCommandBuffer with
  | some error => exact ⟨trivial, rfl, rfl⟩
  | none =>
    cases reserved : driver.reserved with
    | nil => simp [Scripted, failed, reserved] at scripted
    | cons raw rest =>
      have left : (driver.counted .allocateCommandBuffer).reserved = raw :: rest := reserved
      simp only [nextBuffer, ends_bind, ends_get, left, ends_set, ends_modify, ends_pure]
      exact ⟨rfl, rfl, rfl⟩

theorem matches_allocate (level : BufferLevel) (viewed : driver.view = other.view) (scripted : driver.Scripted) :
    Matches view (· = ·) (allocateCommandBuffer level) driver (allocateCommandBuffer level) other := by
  have also : other.Scripted := by
    have fault : driver.fault? .allocateCommandBuffer = other.fault? .allocateCommandBuffer := fault_view viewed rfl
    have reserved : driver.reserved = other.reserved := congrArg DriverView.reserved viewed
    rwa [Scripted, fault, reserved] at scripted
  apply matches_of_ends (ends_allocate_scripted level scripted) (ends_allocate_scripted level also)
  rintro shown x next told y after ⟨rfl, rfl, first⟩ ⟨rfl, rfl, second⟩
  refine ⟨congrArg (fun event => passedOn [event]) (event_view viewed rfl), by rw [hands_out_view viewed], ?_⟩
  rw [first, second, hands_out_view viewed, counted_view viewed]

end Passed

end Driver

structure RegistryView where
  queues : Arena RawQueue
  queueLookup : Lookup Queue
  buffers : Arena RawBuffer
  bufferLookup : Lookup Recorder

namespace Registry

open Act Event

def view (registry : Registry) : RegistryView :=
  ⟨registry.queues.map (·.raw), registry.queueLookup, registry.buffers.map (·.raw), registry.bufferLookup⟩

section Reads

variable {registry other : Registry} (viewed : registry.view = other.view)

include viewed

theorem queue_view (handle : QueueHandle) :
    Answers (fun queue also => queue.raw = also.raw) (registry.queue handle) (other.queue handle) := by
  have same := Arena.get_viewed (congrArg RegistryView.queues viewed) handle
  unfold queue
  cases first : registry.queues.get? handle <;> cases second : other.queues.get? handle <;>
    simp_all [Answers]

theorem buffer_view (handle : BufferHandle) :
    Answers (fun recorder also => recorder.raw = also.raw) (registry.buffer handle) (other.buffer handle) := by
  have same := Arena.get_viewed (congrArg RegistryView.buffers viewed) handle
  unfold buffer
  cases first : registry.buffers.get? handle <;> cases second : other.buffers.get? handle <;>
    simp_all [Answers]

theorem raws_view (handles : List BufferHandle) : registry.raws handles = other.raws handles := by
  induction handles with
  | nil => rfl
  | cons handle rest ih =>
    have here := buffer_view viewed handle
    unfold raws
    rw [ih]
    cases first : registry.buffer handle <;> cases second : other.buffer handle <;> simp_all [Answers]

theorem streams_view (handles : List BufferHandle) :
    Answers (fun _ _ => True) (registry.streams handles) (other.streams handles) := by
  induction handles with
  | nil => trivial
  | cons handle rest ih =>
    have here := buffer_view viewed handle
    unfold streams
    cases first : registry.buffer handle <;> cases second : other.buffer handle <;> try simp_all [Answers]
    cases behind : registry.streams rest <;> cases after : other.streams rest <;> simp_all [Except.map]

theorem set_buffer_view (handle : BufferHandle) {recorder also : Recorder} (same : recorder.raw = also.raw) :
    (registry.setBuffer handle recorder).view = (other.setBuffer handle also).view := by
  simp only [view, RegistryView.mk.injEq] at viewed
  obtain ⟨queues, queueLookup, buffers, bufferLookup⟩ := viewed
  simp only [view, setBuffer, RegistryView.mk.injEq]
  exact ⟨queues, queueLookup, Arena.set_viewed buffers handle same, bufferLookup⟩

end Reads

theorem set_queue_same {registry : Registry} {handle : QueueHandle} {queue tracked : Queue}
    (held : registry.queue handle = .ok tracked) (same : queue.raw = tracked.raw) :
    (registry.setQueue handle queue).view = registry.view := by
  have found : registry.queues.get? handle = some tracked := by
    unfold Registry.queue at held
    split at held
    · next here =>
      cases held
      exact here
    · cases held
  have raw : (registry.queues.map (·.raw)).get? (Arena.handle handle) = some queue.raw := by
    rw [Arena.get_map, found, same]
    rfl
  simp only [view, setQueue, Arena.set_map, Arena.set_same raw]

theorem set_buffer_same {registry : Registry} {handle : BufferHandle} {recorder tracked : Recorder}
    (held : registry.buffers.get? handle = some tracked) (same : recorder.raw = tracked.raw) :
    (registry.setBuffer handle recorder).view = registry.view := by
  have raw : (registry.buffers.map (·.raw)).get? (Arena.handle handle) = some recorder.raw := by
    rw [Arena.get_map, held, same]
    rfl
  simp only [view, setBuffer, Arena.set_map, Arena.set_same raw]

theorem alike_register_queue (raw : RawQueue) (family index : UInt32) :
    Alike view (· = ·) (registerQueue raw family index) (registerQueue raw family index) := by
  apply alike_bind alike_get
  intro registry other viewed
  have lookup : registry.findQueue raw = other.findQueue raw :=
    congrArg (fun lookup => Lookup.find? lookup raw) (congrArg RegistryView.queueLookup viewed)
  rw [lookup]
  cases other.findQueue raw with
  | some handle => exact alike_pure rfl
  | none =>
    simp only [view, RegistryView.mk.injEq] at viewed
    obtain ⟨queues, queueLookup, buffers, bufferLookup⟩ := viewed
    have inserted := Arena.insert_viewed queues (show (Queue.new raw family index).raw = (Queue.new raw family index).raw from rfl)
    rcases first : registry.queues.insert (.new raw family index) with ⟨given, kept⟩
    rcases second : other.queues.insert (.new raw family index) with ⟨also, left⟩
    rw [first, second] at inserted
    obtain ⟨rfl, same⟩ := inserted
    refine alike_bind (alike_set ?_) fun _ _ _ => ?_
    · simp only [view, RegistryView.mk.injEq]
      exact ⟨same, by rw [queueLookup], buffers, bufferLookup⟩
    · exact alike_bind (alike_hidden (hidden_note _) (hidden_note _)) fun _ _ _ => alike_pure rfl

theorem alike_drop_namesake (raw : RawBuffer) : Alike view (fun _ _ => True) (dropNamesake raw) (dropNamesake raw) := by
  apply alike_bind alike_get
  intro registry other viewed
  have lookup : registry.findBuffer raw = other.findBuffer raw :=
    congrArg (fun lookup => Lookup.find? lookup raw) (congrArg RegistryView.bufferLookup viewed)
  rw [lookup]
  cases other.findBuffer raw with
  | none => exact alike_pure trivial
  | some stale =>
    refine alike_bind (alike_hidden (hidden_note _) (hidden_note _)) fun _ _ _ => alike_set ?_
    simp only [view, RegistryView.mk.injEq] at viewed ⊢
    obtain ⟨queues, queueLookup, buffers, bufferLookup⟩ := viewed
    exact ⟨queues, queueLookup, (Arena.remove_viewed buffers stale).2, by rw [bufferLookup]⟩

theorem alike_allocate (raw : RawBuffer) (level : BufferLevel) :
    Alike view (· = ·) (allocate raw level) (allocate raw level) := by
  refine alike_bind (alike_drop_namesake raw) fun _ _ _ => alike_bind alike_get ?_
  intro registry other viewed
  simp only [view, RegistryView.mk.injEq] at viewed
  obtain ⟨queues, queueLookup, buffers, bufferLookup⟩ := viewed
  have inserted := Arena.insert_viewed buffers (show (Recorder.new raw level).raw = (Recorder.new raw level).raw from rfl)
  rcases first : registry.buffers.insert (.new raw level) with ⟨given, kept⟩
  rcases second : other.buffers.insert (.new raw level) with ⟨also, left⟩
  rw [first, second] at inserted
  obtain ⟨rfl, same⟩ := inserted
  refine alike_bind (alike_set ?_) fun _ _ _ => alike_pure rfl
  simp only [view, RegistryView.mk.injEq]
  exact ⟨queues, queueLookup, same, by rw [bufferLookup]⟩

theorem alike_free (handle : BufferHandle) :
    Alike view (Answers fun recorder also => recorder.raw = also.raw) (free handle) (free handle) := by
  apply alike_bind alike_get
  intro registry other viewed
  simp only [view, RegistryView.mk.injEq] at viewed
  obtain ⟨queues, queueLookup, buffers, bufferLookup⟩ := viewed
  obtain ⟨taken, kept⟩ := Arena.remove_viewed buffers handle
  rcases first : registry.buffers.remove handle with ⟨_ | recorder, rest⟩ <;>
    rcases second : other.buffers.remove handle with ⟨_ | also, left⟩ <;> rw [first, second] at taken kept
  · exact alike_pure rfl
  · cases taken
  · cases taken
  · have raw : recorder.raw = also.raw := Option.some.inj taken
    refine alike_bind (alike_set ?_) fun _ _ _ => alike_pure raw
    simp only [view, RegistryView.mk.injEq]
    exact ⟨queues, queueLookup, kept, by rw [bufferLookup, raw]⟩

theorem alike_execute (primary : BufferHandle) (secondaries : List BufferHandle) :
    Alike view (· = ·) (execute primary secondaries) (execute primary secondaries) := by
  apply alike_bind alike_get
  intro registry other viewed
  have streams := streams_view viewed secondaries
  have found := buffer_view viewed primary
  obtain ⟨error, first, second⟩ | ⟨records, others, first, second, _⟩ := answers_cases streams
  · simp only [first, second]
    exact alike_pure rfl
  · obtain ⟨error, here, there⟩ | ⟨recorder, also, here, there, raw⟩ := answers_cases found
    · simp only [first, second, here, there]
      exact alike_pure rfl
    · simp only [first, second, here, there]
      exact alike_bind (alike_set (set_buffer_view viewed primary raw)) fun _ _ _ => alike_pure rfl

end Registry

end GpuProfiler
