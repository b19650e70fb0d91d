import GpuProfiler.Act

set_option autoImplicit false

namespace GpuProfiler

class Endpoint (ε : Type) where
  send : Message → Act ε (Except Error Unit)

-- What lines are written to. `room` is the number of bytes it still takes and `chunk` the most it
-- takes at once; `interruptions` attempts are cut off before one gets through. Where it can take
-- nothing it either says so or takes no bytes (`stalls`).
structure Writer where
  written : List UInt8
  room : Option Nat
  chunk : Option Nat
  interruptions : Nat
  stalls : Bool
  failsToFlush : Bool
deriving DecidableEq, Repr

namespace Writer

def atMost (limit : Option Nat) (n : Nat) : Nat :=
  match limit with
  | some most => min most n
  | none => n

def takes (writer : Writer) (n : Nat) : Nat := atMost writer.room (atMost writer.chunk n)

def accept (writer : Writer) (bytes : List UInt8) : Writer :=
  { writer with
    written := writer.written ++ bytes
    room := writer.room.map (· - bytes.length) }

-- Attempts to write until all is written; a cut off attempt is made again. Each attempt takes a
-- byte or uses up an interruption, so `attempts` need not exceed the sum of both.
def writeAll (attempts : Nat) (bytes : List UInt8) (writer : Writer) : Option WriteFailure × Writer :=
  match bytes, attempts with
  | [], _ => (none, writer)
  | _ :: _, 0 => (some .nothingTaken, writer)
  | bytes, attempts + 1 =>
    if 0 < writer.interruptions then
      writeAll attempts bytes { writer with interruptions := writer.interruptions - 1 }
    else
      let taken := writer.takes bytes.length
      if taken = 0 then (some (if writer.stalls then .nothingTaken else .brokenPipe), writer)
      else writeAll attempts (bytes.drop taken) (writer.accept (bytes.take taken))

def write (bytes : List UInt8) (writer : Writer) : Option WriteFailure × Writer :=
  writeAll (bytes.length + writer.interruptions) bytes writer

def writeLine (bytes : List UInt8) (writer : Writer) : Option WriteFailure × Writer :=
  match writer.write bytes with
  | (some failure, writer) => (some failure, writer)
  | (none, writer) =>
    match writer.write [10] with
    | (some failure, writer) => (some failure, writer)
    | (none, writer) => (if writer.failsToFlush then some .notFlushed else none, writer)

end Writer

inductive ByteEndpoint where
  | memory (messages : List (List UInt8))
  | stream (writer : Writer)
  | discard
deriving DecidableEq, Repr

namespace ByteEndpoint

def sendBytes (bytes : List UInt8) : Act ByteEndpoint (Except Error Unit) := do
  match ← Act.get with
  | .memory messages =>
    Act.set (.memory (messages ++ [bytes]))
    pure (.ok ())
  | .stream writer =>
    let (failure, writer) := writer.writeLine bytes
    Act.set (.stream writer)
    match failure with
    | some cause =>
      Act.note (.writeFailed cause)
      pure (.error .endpointFailed)
    | none => pure (.ok ())
  | .discard => pure (.ok ())

instance : Endpoint ByteEndpoint := ⟨fun message => sendBytes message.bytes⟩

def kept : ByteEndpoint → List (List UInt8)
  | .memory messages => messages
  | _ => []

def clear : ByteEndpoint → ByteEndpoint
  | .memory _ => .memory []
  | other => other

def written : ByteEndpoint → List UInt8
  | .stream writer => writer.written
  | _ => []

end ByteEndpoint

structure ShowingEndpoint where
  failing : List Nat
  sends : Nat
deriving DecidableEq, Repr

instance : Endpoint ShowingEndpoint where
  send message := do
    let endpoint ← Act.get
    let failed := endpoint.failing.contains endpoint.sends
    Act.set { endpoint with sends := endpoint.sends + 1 }
    Act.emit (.message message failed)
    pure (if failed then .error .endpointFailed else .ok ())

end GpuProfiler
