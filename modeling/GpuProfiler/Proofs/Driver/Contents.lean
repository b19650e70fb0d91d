import GpuProfiler.Driver.Device
import GpuProfiler.Proofs.Act

set_option autoImplicit false

namespace GpuProfiler.Driver

def counted (driver : Driver) (method : DriverMethod) : Driver :=
  { driver with calls := method :: driver.calls }

section Calls

variable {α : Type} (call : DriverCall) (work : Act Driver α) (driver : Driver)
  (bad : List Event → Halt → Prop)

def callEvent : Event := .call driver.name call (driver.fault? call.method).isSome

@[simp] theorem ends_do_call (good : List Event → α → Driver → Prop) :
    Act.Ends (doCall call work) driver good bad ↔
      Act.Ends work (driver.counted call.method)
        (fun events x next => good (callEvent call driver :: events) x next)
        (fun events reason => bad (callEvent call driver :: events) reason) := by
  simp [doCall, attempt, counted, callEvent]

@[simp] theorem ends_try_call (good : List Event → Except Error α → Driver → Prop) :
    Act.Ends (tryCall call work) driver good bad ↔
      match driver.fault? call.method with
      | some error => good [callEvent call driver] (.error error) (driver.counted call.method)
      | none =>
        Act.Ends work (driver.counted call.method)
          (fun events x next => good (callEvent call driver :: events) (.ok x) next)
          (fun events reason => bad (callEvent call driver :: events) reason) := by
  rcases found : driver.fault? call.method with _ | error <;>
    simp [tryCall, attempt, counted, callEvent, found]

end Calls

theorem fault_scripted {driver : Driver} {method : DriverMethod} {error : Error}
    (failed : driver.fault? method = some error) : ∃ fault ∈ driver.faults, fault.method = method := by
  unfold fault? at failed
  rw [Option.map_eq_some_iff] at failed
  obtain ⟨fault, found, _⟩ := failed
  have due := List.find?_some found
  rw [Bool.and_eq_true, decide_eq_true_eq] at due
  exact ⟨fault, List.mem_of_find?_eq_some found, due.1⟩

section Lookups

variable {β : Type}

theorem lookup_filter_here (entries : List (Nat × β)) (key : Nat) :
    (entries.filter (·.1 != key)).lookup key = none := by
  induction entries with
  | nil => rfl
  | cons entry rest ih =>
    obtain ⟨held, value⟩ := entry
    by_cases same : held = key
    · simpa [same] using ih
    · have away : (key == held) = false := by simpa using Ne.symm same
      simpa [same, List.lookup_cons, away] using ih

theorem lookup_filter_elsewhere (entries : List (Nat × β)) (key other : Nat) (different : other ≠ key) :
    (entries.filter (·.1 != key)).lookup other = entries.lookup other := by
  induction entries with
  | nil => rfl
  | cons entry rest ih =>
    obtain ⟨held, value⟩ := entry
    by_cases same : held = key
    · have away : (other == key) = false := by simpa using different
      simpa [same, List.lookup_cons, away] using ih
    · simp [same, List.lookup_cons, ih]

end Lookups

theorem contents_set_here (driver : Driver) (buffer : RawBuffer) (ops : List BufferOp) :
    (driver.setContents buffer ops).contents buffer = ops := by
  simp [contents, setContents]

theorem contents_set_elsewhere (driver : Driver) (buffer other : RawBuffer) (ops : List BufferOp)
    (different : other ≠ buffer) : (driver.setContents buffer ops).contents other = driver.contents other := by
  have away : (other == buffer) = false := by simpa using different
  simp only [contents, setContents, dropBuffer, List.lookup_cons, away]
  rw [lookup_filter_elsewhere _ _ _ different]

theorem contents_append_here (driver : Driver) (buffer : RawBuffer) (op : BufferOp) :
    (driver.append buffer op).contents buffer = driver.contents buffer ++ [op] :=
  contents_set_here driver buffer _

theorem contents_append_elsewhere (driver : Driver) (buffer other : RawBuffer) (op : BufferOp)
    (different : other ≠ buffer) : (driver.append buffer op).contents other = driver.contents other :=
  contents_set_elsewhere driver buffer other _ different

theorem contents_drop_here (driver : Driver) (buffer : RawBuffer) :
    (driver.dropBuffer buffer).contents buffer = [] := by
  simp [contents, dropBuffer, lookup_filter_here]

theorem contents_drop_elsewhere (driver : Driver) (buffer other : RawBuffer) (different : other ≠ buffer) :
    (driver.dropBuffer buffer).contents other = driver.contents other := by
  simp only [contents, dropBuffer]
  rw [lookup_filter_elsewhere _ _ _ different]

@[simp] theorem expand_device (driver : Driver) (depth : Nat) (op : DeviceOp) :
    driver.expand depth (.device op) = [op] := by
  cases depth <;> rfl

@[simp] theorem expand_devices (driver : Driver) (depth : Nat) (ops : List DeviceOp) :
    (ops.map .device).flatMap (driver.expand depth) = ops := by
  induction ops with
  | nil => rfl
  | cons op rest ih => rw [List.map_cons, List.flatMap_cons, expand_device, ih, List.singleton_append]

theorem expand_congr {driver next : Driver} (same : ∀ raw, next.contents raw = driver.contents raw) (depth : Nat) :
    next.expand depth = driver.expand depth := by
  induction depth with
  | zero =>
    funext op
    cases op <;> rfl
  | succ depth ih =>
    funext op
    cases op with
    | device op => rfl
    | execute buffers => simp only [expand, same, ih]

theorem flatten_congr {driver next : Driver} (same : ∀ raw, next.contents raw = driver.contents raw) :
    next.flatten = driver.flatten := by
  funext raw
  simp only [flatten, same, expand_congr same]

-- What no call but a submission or a trap cycle touches.
structure Rests (driver next : Driver) : Prop where
  name : next.name = driver.name
  faults : next.faults = driver.faults
  manual : next.autoSet = driver.autoSet
  timeline : next.timeline = driver.timeline
  signalled : next.signalled = driver.signalled

theorem rests_frame {driver next : Driver}
    (frame : next = { driver with calls := next.calls, buffers := next.buffers }) : Rests driver next := by
  rw [frame]
  exact ⟨rfl, rfl, rfl, rfl, rfl⟩

theorem ends_allocate (level : BufferLevel) (driver : Driver) :
    Act.Ends (allocateCommandBuffer level) driver
      (fun shown answer next => Quiet shown ∧ Rests driver next ∧
        match answer with
        | .ok raw => next.contents raw = [] ∧ ∀ other, other ≠ raw → next.contents other = driver.contents other
        | .error _ => ∀ raw, next.contents raw = driver.contents raw)
      (fun _ _ => False) := by
  simp only [allocateCommandBuffer, ends_try_call]
  split
  · exact ⟨by simp [callEvent, Event.stirs], rests_frame rfl, fun _ => rfl⟩
  · simp only [nextBuffer, nextHandle, Act.ends_bind, Act.ends_get]
    split
    · simp only [Act.ends_bind, Act.ends_set, Act.ends_modify, Act.ends_pure]
      exact ⟨by simp [callEvent, Event.stirs], ⟨rfl, rfl, rfl, rfl, rfl⟩, contents_set_here _ _ _,
        fun other different => contents_set_elsewhere _ _ other _ different⟩
    · simp only [Act.ends_bind, Act.ends_get, Act.ends_set, Act.ends_modify, Act.ends_pure]
      exact ⟨by simp [callEvent, Event.stirs], ⟨rfl, rfl, rfl, rfl, rfl⟩, contents_set_here _ _ _,
        fun other different => contents_set_elsewhere _ _ other _ different⟩

theorem ends_free (buffer : RawBuffer) (driver : Driver) :
    Act.Ends (freeCommandBuffer buffer) driver
      (fun shown _ next => Quiet shown ∧ Rests driver next ∧ next.contents buffer = [] ∧
        ∀ other, other ≠ buffer → next.contents other = driver.contents other)
      (fun _ _ => False) := by
  simp only [freeCommandBuffer, ends_do_call, Act.ends_modify]
  exact ⟨by simp [callEvent, Event.stirs], rests_frame rfl, contents_drop_here _ buffer,
    fun other different => contents_drop_elsewhere _ buffer other different⟩

theorem ends_clear (call : DriverCall) (buffer : RawBuffer) (driver : Driver)
    (still : (callEvent call driver).stirs = false) :
    Act.Ends (tryCall call (Act.modify (·.setContents buffer []))) driver
      (fun shown _ next => Quiet shown ∧ Rests driver next ∧
        (∀ other, other ≠ buffer → next.contents other = driver.contents other) ∧
        (next.contents buffer = [] ∨ ∃ fault ∈ driver.faults, fault.method = call.method))
      (fun _ _ => False) := by
  rw [ends_try_call]
  split
  · next error failed =>
    exact ⟨by simp [still], rests_frame rfl, fun _ _ => rfl, .inr (fault_scripted failed)⟩
  · rw [Act.ends_modify]
    exact ⟨by simp [still], rests_frame rfl, fun other different => contents_set_elsewhere _ buffer other _ different,
      .inl (contents_set_here _ buffer _)⟩

theorem ends_end (buffer : RawBuffer) (driver : Driver) :
    Act.Ends (endCommandBuffer buffer) driver
      (fun shown _ next => Quiet shown ∧ Rests driver next ∧ ∀ raw, next.contents raw = driver.contents raw)
      (fun _ _ => False) := by
  simp only [endCommandBuffer, ends_try_call]
  split <;> exact ⟨by simp [callEvent, Event.stirs], rests_frame rfl, fun _ => rfl⟩

structure Recorded (driver : Driver) (buffer : RawBuffer) (ops : List BufferOp) (next : Driver) : Prop where
  here : next.contents buffer = driver.contents buffer ++ ops
  elsewhere : ∀ other, other ≠ buffer → next.contents other = driver.contents other
  frame : next = { driver with calls := next.calls, buffers := next.buffers }

theorem recorded_append (driver : Driver) (method : DriverMethod) (buffer : RawBuffer) (op : BufferOp) :
    Recorded driver buffer [op] ((driver.counted method).append buffer op) :=
  ⟨contents_append_here _ buffer op, fun other different => contents_append_elsewhere _ buffer other op different,
    rfl⟩

theorem recorded_nil (driver : Driver) (buffer : RawBuffer) : Recorded driver buffer [] driver :=
  ⟨(List.append_nil _).symm, fun _ _ => rfl, rfl⟩

theorem recorded_trans {driver middle next : Driver} {buffer : RawBuffer} {ops more : List BufferOp}
    (first : Recorded driver buffer ops middle) (second : Recorded middle buffer more next) :
    Recorded driver buffer (ops ++ more) next := by
  refine ⟨?_, ?_, ?_⟩
  · rw [second.here, first.here, List.append_assoc]
  · intro other different
    rw [second.elsewhere other different, first.elsewhere other different]
  · rw [second.frame, first.frame]

theorem ends_command (buffer : RawBuffer) (recorded : Command) (driver : Driver) :
    Act.Ends (command buffer recorded) driver
      (fun shown _ next => Quiet shown ∧ Recorded driver buffer [.device (.work recorded)] next)
      (fun _ _ => False) := by
  simp only [command, ends_do_call, Act.ends_modify]
  exact ⟨by simp [callEvent, Event.stirs], recorded_append driver _ buffer _⟩

theorem ends_execute_commands (buffer : RawBuffer) (secondaries : List RawBuffer) (driver : Driver) :
    Act.Ends (executeCommands buffer secondaries) driver
      (fun shown _ next => Quiet shown ∧ Recorded driver buffer [.execute secondaries] next)
      (fun _ _ => False) := by
  simp only [executeCommands, ends_do_call, Act.ends_modify]
  exact ⟨by simp [callEvent, Event.stirs], recorded_append driver _ buffer _⟩

end GpuProfiler.Driver
