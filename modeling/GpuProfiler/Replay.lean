import GpuProfiler.Act

/-!
Going through recorded streams in order, once they run. The cursor keeps the render pass that
ended suspended last: a continuation that names no origin, or that one, resumes it and adds its
draws. A part that does not suspend again, a part with another origin, and every new render pass
end the chain.
-/
set_option autoImplicit false

namespace GpuProfiler

-- The render pass that a continuation would resume, with the draws of its parts so far.
structure Cursor where
  suspended : Option RenderPass
deriving DecidableEq, Repr

-- A record as it is met in a replay; `resumed` is the pass that a continuation belongs to, with the
-- draws of all parts up to this one.
structure Visit where
  record : Record
  resumed : Option RenderPass
deriving DecidableEq, Repr

namespace Cursor

def fresh : Cursor := ⟨none⟩

instance : Inhabited Cursor := ⟨fresh⟩

def lastSuspended (cursor : Cursor) : Option RenderPassTag := cursor.suspended.map (·.tag)

def resume (cursor : Cursor) (part : Continuation) : Except Halt (Option RenderPass) :=
  match cursor.suspended with
  | none => .ok none
  | some pass =>
    if part.origin = none ∨ part.origin = some pass.tag then
      (Word.add pass.drawCalls part.drawCalls).map fun total => some { pass with drawCalls := total }
    else .ok none

def step (cursor : Cursor) (record : Record) : Except Halt (Visit × Cursor) :=
  match record.workload with
  | .renderPass pass =>
    .ok (⟨record, none⟩, ⟨if pass.suspending then some pass else none⟩)
  | .continuation part =>
    (cursor.resume part).map fun resumed =>
      (⟨record, resumed⟩, ⟨if part.suspending then resumed else none⟩)
  | _ => .ok (⟨record, none⟩, cursor)

def run {σ : Type} (visitor : Visit → Act σ Unit) (cursor : Cursor) : Stream → Act σ Cursor
  | [] => pure cursor
  | record :: rest => do
    Act.note (.replaying record.workload)
    let (visit, next) ← Act.check (cursor.step record)
    visitor visit
    run visitor next rest

end Cursor

def collectVisits (visit : Visit) : Act (List Visit) Unit := Act.modify (· ++ [visit])

end GpuProfiler
