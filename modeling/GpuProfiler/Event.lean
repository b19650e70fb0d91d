import GpuProfiler.Driver.Call
import GpuProfiler.Log

set_option autoImplicit false

namespace GpuProfiler

inductive Event where
  | call (device : String) (made : DriverCall) (failed : Bool)
  | progress (device : String) (done : DeviceStep)
  | sample (failed : Bool)
  | read (counter : Nat)
  | message (sent : Message) (failed : Bool)
  | note (noticed : Note)
  | mark (name : String)
deriving DecidableEq, Repr

namespace Event

def failureMark (failed : Bool) : String := if failed then " !" else ""

def text : Event → String
  | .call device made failed => device ++ " " ++ made.text ++ failureMark failed
  | .progress device done => device ++ " dev " ++ done.text
  | .sample failed => "sample" ++ failureMark failed
  | .read counter => "read " ++ toString counter
  | .message sent failed => "msg" ++ failureMark failed ++ " " ++ sent.text
  | .note noticed => "log " ++ noticed.level.name ++ " " ++ noticed.text
  | .mark name => name

def isShown (most : Option LogLevel) : Event → Bool
  | .note noticed =>
    match most with
    | some level => decide (noticed.level.rank ≤ level.rank)
    | none => false
  | _ => true

def texts (most : Option LogLevel) (events : List Event) : List String :=
  (events.filter (isShown most)).map text

end Event

end GpuProfiler
