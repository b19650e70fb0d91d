import GpuProfiler.Act

set_option autoImplicit false

namespace GpuProfiler

inductive EventStatus where
  | set
  | unset
deriving DecidableEq, Repr

class EventHost (σ : Type) where
  createEvent : Act σ (Except Error RawEvent)
  destroyEvent : RawEvent → Act σ Unit
  eventStatus : RawEvent → Act σ (Except Error EventStatus)
  setEvent : RawEvent → Act σ (Except Error Unit)
  resetEvent : RawEvent → Act σ (Except Error Unit)
  patience : σ → Nat

@[reducible] def EventHost.ofPart {τ σ : Type} [EventHost σ] (part : Part τ σ) : EventHost τ where
  createEvent := Act.on part EventHost.createEvent
  destroyEvent event := Act.on part (EventHost.destroyEvent event)
  eventStatus event := Act.on part (EventHost.eventStatus event)
  setEvent event := Act.on part (EventHost.setEvent event)
  resetEvent event := Act.on part (EventHost.resetEvent event)
  patience whole := EventHost.patience (part.get whole)

end GpuProfiler
