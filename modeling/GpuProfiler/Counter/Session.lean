import GpuProfiler.Counter.Backend

set_option autoImplicit false

namespace GpuProfiler

structure SessionStats where
  samples : Nat
  failedSamples : Nat
  failedReads : Nat
deriving DecidableEq, Repr

structure CounterSession (β : Type) where
  backend : β
  active : List Counter
  stats : SessionStats
deriving DecidableEq, Repr

namespace CounterSession

variable {β : Type}

def backendPart : Part (CounterSession β) β := ⟨(·.backend), fun backend s => { s with backend := backend }⟩

def noteMissing {σ : Type} (available : List Counter) : List String → Act σ Unit
  | [] => pure ()
  | name :: rest => do
    Act.noteIf (!available.any (·.name == name)) (.counterMissing name)
    noteMissing available rest

-- The counters that a filter asks for; an empty filter asks for all.
def select (available : List Counter) (filter : List String) : List Counter :=
  available.filter fun counter => filter.isEmpty || filter.contains counter.name

def start {σ : Type} [CounterBackend β] (backend : β) (filter : List String) : Act σ (CounterSession β) := do
  let available := CounterBackend.counters backend
  noteMissing available filter
  let active := select available filter
  Act.note (.countersActive active.length)
  pure ⟨backend, active, ⟨0, 0, 0⟩⟩

def countStats (count : SessionStats → SessionStats) : Act (CounterSession β) Unit :=
  Act.modify fun session => { session with stats := count session.stats }

def countSample (stats : SessionStats) : SessionStats := { stats with samples := stats.samples + 1 }

def countFailedSample (stats : SessionStats) : SessionStats :=
  { stats with failedSamples := stats.failedSamples + 1 }

def countFailedRead (stats : SessionStats) : SessionStats :=
  { stats with failedReads := stats.failedReads + 1 }

def logText (session : CounterSession β) : String :=
  "CounterSession \x7b active: " ++ toString session.active.length ++ ", stats: SessionStats \x7b samples: "
    ++ toString session.stats.samples ++ ", failed_samples: " ++ toString session.stats.failedSamples
    ++ ", failed_reads: " ++ toString session.stats.failedReads ++ " \x7d, .. \x7d"

variable [CounterBackend β]

def sampleNow : Act (CounterSession β) Bool := do
  match ← Act.on backendPart CounterBackend.sampleNow with
  | .ok () =>
    countStats countSample
    pure true
  | .error error =>
    Act.note (.sampleFailed error)
    countStats countFailedSample
    pure false

def readOne (counter : Counter) : Act (CounterSession β) (Option Reading) := do
  match ← Act.on backendPart (CounterBackend.read counter.id) with
  | .ok value =>
    if value.kind = counter.kind then pure (some ⟨counter.name, value⟩)
    else
      Act.note (.counterMistyped counter.name counter.kind value)
      countStats countFailedRead
      pure none
  | .error error =>
    Act.note (.counterNotRead counter.name error)
    countStats countFailedRead
    pure none

def readEach : List Counter → Act (CounterSession β) (List Reading)
  | [] => pure []
  | counter :: rest => do
    let reading ← readOne counter
    let readings ← readEach rest
    pure (reading.toList ++ readings)

def readAll : Act (CounterSession β) (List Reading) := do
  readEach (← Act.get).active

def sample : Act (CounterSession β) (Option (List Reading)) := do
  if ← sampleNow then
    return some (← readAll)
  else
    pure none

end CounterSession

end GpuProfiler
