import GpuProfiler.Act

set_option autoImplicit false

namespace GpuProfiler

class CounterBackend (β : Type) where
  counters : β → List Counter
  sampleNow : Act β (Except Error Unit)
  read : Nat → Act β (Except Error CounterValue)

-- A scripted answer to a read; a scaled one counts the samples taken so far.
inductive ScriptedRead where
  | value (value : CounterValue)
  | error (error : Error)
  | scaled (factor : UInt64)
deriving DecidableEq, Repr

-- `failing` gives the attempts to sample, counted from 0, that fail. `answers` gives the answers to
-- the reads of a counter, over and over in that order.
structure Script where
  counters : List Counter
  failing : List (Nat × Error)
  answers : List (Nat × List ScriptedRead)
deriving DecidableEq, Repr

structure ScriptedBackend where
  script : Script
  attempts : Nat
  samples : Nat
  reads : List Nat
deriving DecidableEq, Repr

inductive Backend where
  | empty
  | scripted (backend : ScriptedBackend)
deriving DecidableEq, Repr

namespace ScriptedBackend

def new (script : Script) : ScriptedBackend := ⟨script, 0, 0, []⟩

def sampleNow : Act ScriptedBackend (Except Error Unit) := do
  let backend ← Act.get
  let attempted := { backend with attempts := backend.attempts + 1 }
  match backend.script.failing.lookup backend.attempts with
  | some error =>
    Act.set attempted
    Act.emit (.sample true)
    pure (.error error)
  | none =>
    Act.set { attempted with samples := backend.samples + 1 }
    Act.emit (.sample false)
    pure (.ok ())

def answer (backend : ScriptedBackend) (id : Nat) : Except Error CounterValue :=
  let answers := (backend.script.answers.lookup id).getD []
  match answers[backend.reads.count id % answers.length]? with
  | none => .error (.counterUnavailable id)
  | some (.value value) => .ok value
  | some (.error error) => .error error
  | some (.scaled factor) => .ok (.integer (factor * UInt64.ofNat backend.samples))

def read (id : Nat) : Act ScriptedBackend (Except Error CounterValue) := do
  let backend ← Act.get
  Act.set { backend with reads := id :: backend.reads }
  Act.emit (.read id)
  pure (backend.answer id)

end ScriptedBackend

namespace Backend

def ask {α : Type} (act : Act ScriptedBackend α) (otherwise : α) : Act Backend α := fun backend =>
  match backend with
  | .empty => ⟨[], .ok (otherwise, .empty)⟩
  | .scripted inner =>
    match act inner with
    | ⟨events, .ok (x, done)⟩ => ⟨events, .ok (x, .scripted done)⟩
    | ⟨events, .error halt⟩ => ⟨events, .error halt⟩

instance : CounterBackend Backend where
  counters
    | .empty => []
    | .scripted backend => backend.script.counters
  sampleNow := ask ScriptedBackend.sampleNow (.ok ())
  read id := ask (ScriptedBackend.read id) (.error (.counterUnavailable id))

end Backend

end GpuProfiler
