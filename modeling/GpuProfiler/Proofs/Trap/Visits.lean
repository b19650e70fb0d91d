import GpuProfiler.Proofs.Replay.Visits
import GpuProfiler.Proofs.Trap.Sampling

set_option autoImplicit false

namespace GpuProfiler

theorem Cursor.visits_of_run {σ : Type} {visitor : Visit → Act σ Unit} {cursor last : Cursor} {stream : Stream} {s t : σ}
    {shown : List Event} (ran : cursor.run visitor stream s = ⟨shown, .ok (last, t)⟩) :
    ∃ met, cursor.visits stream = .ok (met, last) := by
  induction stream generalizing cursor s shown with
  | nil =>
    cases ran
    exact ⟨[], rfl⟩
  | cons record rest ih =>
    obtain ⟨visited, next, _, _, _, stepped, _, onward, _⟩ := cons_run_ok ran
    obtain ⟨met, behind⟩ := ih onward
    exact ⟨visited :: met, by simp [visits, stepped, behind, Except.map]⟩

namespace Stream

variable {stream front back earlier later : Stream} {record other : Record}

theorem length_filter_traps (stream : Stream) : (stream.filter Record.traps).length = stream.trapped :=
  List.countP_eq_length_filter.symm

theorem place_behind (split : front ++ back = earlier ++ record :: later) (traps : record.traps = true)
    (enough : front.trapped ≤ earlier.trapped) : ∃ ahead, earlier = front ++ ahead ∧ back = ahead ++ record :: later := by
  rcases List.append_eq_append_iff.mp split with ⟨ahead, rfl, rfl⟩ | ⟨ahead, rfl, same⟩
  · exact ⟨ahead, rfl, rfl⟩
  · cases ahead with
    | nil => exact ⟨[], by simp, by simpa using same.symm⟩
    | cons first rest =>
      obtain ⟨rfl, _⟩ := List.cons.inj same
      have one : trapped (record :: rest) = trapped rest + 1 := by simp [trapped, traps]
      rw [trapped_append, one] at enough
      omega

theorem place_unique (split : earlier ++ record :: later = front ++ other :: back) (traps : record.traps = true)
    (stops : other.traps = true) (level : earlier.trapped = front.trapped) : earlier = front ∧ record = other := by
  obtain ⟨ahead, rfl, same⟩ := place_behind split.symm traps (Nat.le_of_eq level.symm)
  cases ahead with
  | nil => exact ⟨List.append_nil front, (List.cons.inj same).1.symm⟩
  | cons first rest =>
    obtain ⟨rfl, _⟩ := List.cons.inj same
    have one : trapped (other :: rest) = trapped rest + 1 := by simp [trapped, stops]
    rw [trapped_append, one] at level
    omega

end Stream

namespace Sampler

variable {s : Sampler} {items : Timeline} {stream : Stream}

theorem ends_run_totals (standing : s.Standing items) (enough : stream.trapped ≤ items.traps) (cursor : Cursor) :
    Act.Ends (cursor.run visit stream) s (fun _ _ _ => True) (fun _ reason => cursor.visits stream = .error reason) := by
  induction stream generalizing s items cursor with
  | nil => exact trivial
  | cons record rest ih =>
    simp only [Cursor.run, Act.ends_bind, Act.ends_note, Act.ends_check]
    refine ⟨?_, fun reason stopped => by simp [Cursor.visits, stopped]⟩
    rintro ⟨visited, later⟩ met
    have same : visited.record = record := Cursor.step_record met
    have fails (reason : Halt) (behind : later.visits rest = .error reason) : cursor.visits (record :: rest) = .error reason := by
      simp [Cursor.visits, met, behind, Except.map]
    cases traps : record.traps with
    | false =>
      have level : Stream.trapped (record :: rest) = Stream.trapped rest := by simp [Stream.trapped, traps]
      refine Act.ends_mono (ends_visit_silent (by rw [same, traps]) s) ?_ (fun _ _ never => never.elim)
      rintro _ _ _ ⟨rfl, rfl⟩
      exact Act.ends_mono (ih standing (level ▸ enough) later) (fun _ _ _ _ => trivial) (fun _ reason => fails reason)
    | true =>
      have level : Stream.trapped (record :: rest) = Stream.trapped rest + 1 := by simp [Stream.trapped, traps]
      have fewer := items.traps_behind
      refine Act.ends_mono (ends_visit standing (by omega) (by rw [same, traps])) ?_ (fun _ _ never => never.elim)
      rintro _ _ middle ⟨parts, told, rfl, cycled, _⟩
      exact Act.ends_mono (ih cycled.standing (by omega) later) (fun _ _ _ _ => trivial) (fun _ reason => fails reason)

theorem samples_records {samplings : List Sampling} (samples : Samples samplings s items stream)
    (whole : samplings.length = stream.trapped) : samplings.map (·.visited.record) = stream.filter Record.traps := by
  have many : (stream.filter Record.traps).length = samplings.length := (Stream.length_filter_traps stream).trans whole.symm
  apply List.ext_getElem (by rw [List.length_map, many])
  intro count here there
  rw [List.length_map] at here
  obtain ⟨earlier, later, split, traps, rank, _⟩ := samples count samplings[count] (List.getElem?_eq_getElem here)
  have behind : (earlier.filter Record.traps).length = count := (Stream.length_filter_traps earlier).trans rank
  have found : (stream.filter Record.traps)[count]? = some samplings[count].visited.record := by
    rw [split, List.filter_append, List.filter_cons_of_pos traps, List.getElem?_append_right (Nat.le_of_eq behind), behind,
      Nat.sub_self]
    rfl
  rw [List.getElem_map, (List.getElem?_eq_some_iff.mp found).2]

end Sampler

end GpuProfiler
