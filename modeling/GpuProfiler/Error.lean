set_option autoImplicit false

namespace GpuProfiler

inductive Error where
  | invalidParameter
  | notSupported
  | invalidHandle
  | foreignHandle
  | configUnreadable
  | configInvalid
  | driver (code : Int)
  | eventCreationFailed
  | deviceLost
  | sampleFailed
  | counterReadFailed (id : Nat)
  | counterUnavailable (id : Nat)
  | serializationFailed
  | endpointFailed
deriving DecidableEq, Repr, Inhabited

namespace Error

def message : Error → String
  | .invalidParameter => "invalid parameter"
  | .notSupported => "operation not supported"
  | .invalidHandle => "stale or unknown handle"
  | .foreignHandle => "handle belongs to another device"
  | .configUnreadable => "configuration file unreadable"
  | .configInvalid => "configuration file invalid"
  | .driver code => "driver error " ++ toString code
  | .eventCreationFailed => "device event creation failed"
  | .deviceLost => "device lost"
  | .sampleFailed => "counter sample failed"
  | .counterReadFailed id => "counter " ++ toString id ++ " read failed"
  | .counterUnavailable id => "counter " ++ toString id ++ " unavailable"
  | .serializationFailed => "message serialization failed"
  | .endpointFailed => "telemetry endpoint failed"

def kind : Error → String
  | .invalidParameter => "InvalidParameter"
  | .notSupported => "NotSupported"
  | .invalidHandle => "InvalidHandle"
  | .foreignHandle => "ForeignHandle"
  | .configUnreadable => "ConfigUnreadable"
  | .configInvalid => "ConfigInvalid"
  | .driver _ => "Driver"
  | .eventCreationFailed => "EventCreationFailed"
  | .deviceLost => "DeviceLost"
  | .sampleFailed => "SampleFailed"
  | .counterReadFailed _ => "CounterReadFailed"
  | .counterUnavailable _ => "CounterUnavailable"
  | .serializationFailed => "SerializationFailed"
  | .endpointFailed => "EndpointFailed"

def ofKind? (name : String) : Option Error :=
  [invalidParameter, notSupported, invalidHandle, foreignHandle, configUnreadable, configInvalid,
    eventCreationFailed, deviceLost, sampleFailed, serializationFailed, endpointFailed].find?
    fun error => error.kind == name

end Error

end GpuProfiler
