import GpuProfiler.Proofs.Json.Line
import GpuProfiler.Proofs.Telemetry.Decoded
import GpuProfiler.Telemetry.Sender

set_option autoImplicit false

namespace GpuProfiler

namespace Writer

structure Bears (writer : Writer) (count : Nat) : Prop where
  roomy : ∀ room, writer.room = some room → count ≤ room
  progresses : writer.chunk ≠ some 0
  flushes : writer.failsToFlush = false

variable {writer : Writer}

theorem takes_some {n more : Nat} (some_left : 0 < n) (bears : writer.Bears (n + more)) :
    0 < writer.takes n ∧ writer.takes n ≤ n := by
  have chunked : 0 < atMost writer.chunk n ∧ atMost writer.chunk n ≤ n := by
    cases limit : writer.chunk with
    | none => exact ⟨some_left, Nat.le_refl n⟩
    | some most =>
      have positive : most ≠ 0 := fun none => bears.progresses (by rw [limit, none])
      simp only [atMost]
      omega
  rw [takes]
  cases limit : writer.room with
  | none => exact chunked
  | some room =>
    have fits := bears.roomy room limit
    simp only [atMost] at chunked ⊢
    omega

theorem accept_written (bytes : List UInt8) : (writer.accept bytes).written = writer.written ++ bytes := rfl

theorem accept_interruptions (bytes : List UInt8) : (writer.accept bytes).interruptions = writer.interruptions := rfl

theorem accept_bears {bytes : List UInt8} {more : Nat} (bears : writer.Bears (bytes.length + more)) :
    (writer.accept bytes).Bears more := by
  refine ⟨?_, bears.progresses, bears.flushes⟩
  intro left limit
  obtain ⟨room, before, rfl⟩ := Option.map_eq_some_iff.mp limit
  have fits := bears.roomy room before
  omega

theorem take_bears {bytes : List UInt8} {more : Nat} (taken : Nat) (bears : writer.Bears (bytes.length + more)) :
    (writer.accept (bytes.take taken)).Bears ((bytes.drop taken).length + more) := by
  apply accept_bears
  rw [← Nat.add_assoc, ← List.length_append, List.take_append_drop]
  exact bears

-- The induction is on the attempts: each takes some bytes, or uses up an interruption.
theorem write_all_bears {attempts more : Nat} {bytes : List UInt8} (enough : bytes.length + writer.interruptions ≤ attempts)
    (bears : writer.Bears (bytes.length + more)) :
    ∃ after, writer.writeAll attempts bytes = (none, after) ∧ after.written = writer.written ++ bytes ∧
      after.Bears more := by
  induction attempts generalizing writer bytes with
  | zero =>
    have nothing : bytes = [] := List.eq_nil_of_length_eq_zero (by omega)
    rw [nothing, List.length_nil, Nat.zero_add] at bears
    exact ⟨writer, by rw [nothing]; rfl, by rw [nothing, List.append_nil], bears⟩
  | succ attempts ih =>
    cases bytes with
    | nil =>
      rw [List.length_nil, Nat.zero_add] at bears
      exact ⟨writer, rfl, (List.append_nil _).symm, bears⟩
    | cons byte bytes =>
      simp only [writeAll]
      by_cases interrupted : 0 < writer.interruptions
      · rw [if_pos interrupted]
        exact ih (by dsimp only; omega) ⟨bears.roomy, bears.progresses, bears.flushes⟩
      · have some_left : 0 < (byte :: bytes).length := Nat.succ_pos _
        obtain ⟨some_taken, within⟩ := takes_some some_left bears
        rw [if_neg interrupted, if_neg (Nat.ne_of_gt some_taken)]
        generalize writer.takes (byte :: bytes).length = taken at some_taken within
        have fewer : ((byte :: bytes).drop taken).length + (writer.accept ((byte :: bytes).take taken)).interruptions ≤
            attempts := by
          rw [accept_interruptions, List.length_drop]
          omega
        obtain ⟨after, wrote, told, left⟩ := ih fewer (take_bears taken bears)
        refine ⟨after, wrote, ?_, left⟩
        rw [told, accept_written, List.append_assoc, List.take_append_drop]

theorem write_bears {more : Nat} {bytes : List UInt8} (bears : writer.Bears (bytes.length + more)) :
    ∃ after, writer.write bytes = (none, after) ∧ after.written = writer.written ++ bytes ∧ after.Bears more :=
  write_all_bears (Nat.le_refl _) bears

theorem write_line_bears {more : Nat} {bytes : List UInt8} (bears : writer.Bears ((bytes ++ [10]).length + more)) :
    ∃ after, writer.writeLine bytes = (none, after) ∧ after.written = writer.written ++ (bytes ++ [10]) ∧
      after.Bears more := by
  rw [List.length_append, Nat.add_assoc] at bears
  obtain ⟨middle, wrote, told, left⟩ := write_bears bears
  obtain ⟨after, ended, broken, left⟩ := write_bears left
  refine ⟨after, ?_, ?_, left⟩
  · rw [writeLine, wrote]
    dsimp only
    rw [ended]
    dsimp only
    rw [left.flushes]
    rfl
  · rw [broken, told, List.append_assoc]

end Writer

namespace Message

def line (message : Message) : List UInt8 := message.bytes ++ [10]

def read? (line : List UInt8) : Option Message :=
  (String.fromUTF8? ⟨line.toArray⟩).bind fun text => (Json.parse text).bind ofJson?

section Read

variable {message : Message}

theorem metadata_proper (metadata : Metadata) : ∀ member ∈ metadata.members, member.2.Proper := by
  cases metadata with
  | _ => simp [Metadata.members]

theorem json_proper (integers : message.CountsIntegers) : message.json.Proper := by
  have counted : (Json.array (message.counters.map Reading.json)).Proper := by
    refine Json.proper_array fun item member => ?_
    obtain ⟨reading, counts, rfl⟩ := List.mem_map.mp member
    obtain ⟨count, integer⟩ := integers reading counts
    exact Json.proper_object (by simp [integer, CounterValue.json])
  refine Json.proper_object (List.forall_mem_cons.mpr ⟨Json.proper_text _, ?_⟩)
  cases message with
  | startFrame frame => simp
  | endFrame frame => simp
  | frameCounters frame counters =>
    exact List.forall_mem_cons.mpr ⟨Json.proper_nat frame, List.forall_mem_singleton.mpr counted⟩
  | workload labels counters metadata =>
    have named : (Json.array (labels.map Json.text)).Proper :=
      Json.proper_array fun item member => by
        obtain ⟨label, -, rfl⟩ := List.mem_map.mp member
        exact Json.proper_text label
    exact List.forall_mem_cons.mpr ⟨named, List.forall_mem_cons.mpr ⟨counted, metadata_proper metadata⟩⟩

theorem read_bytes (integers : message.CountsIntegers) : read? message.bytes = some message := by
  rw [read?, bytes, Bytes.text_list, Option.bind_some, text, Json.parse_render (json_proper integers), Option.bind_some]
  exact of_json_json integers

theorem same_text {other : Message} (integers : message.CountsIntegers) (also : other.CountsIntegers)
    (same : message.text = other.text) : message = other := by
  have alike : message.bytes = other.bytes := by rw [bytes, bytes, same]
  exact Option.some.inj ((read_bytes integers).symm.trans ((congrArg read? alike).trans (read_bytes also)))

theorem bytes_unbroken (integers : message.CountsIntegers) : 10 ∉ message.bytes :=
  Json.render_unbroken (json_proper integers)

theorem split_lines {messages : List Message} (integers : ∀ message ∈ messages, message.CountsIntegers) :
    (messages.flatMap line).splitOn 10 = messages.map bytes ++ [[]] := by
  induction messages with
  | nil => rfl
  | cons message messages ih =>
    have unbroken := bytes_unbroken (integers message List.mem_cons_self)
    rw [List.flatMap_cons, line, List.append_assoc, List.singleton_append,
      List.splitOn_append_cons_self_of_not_mem unbroken, ih fun other member => integers other (List.mem_cons_of_mem _ member)]
    rfl

end Read

end Message

namespace Sender

def emitAll {ε : Type} [Endpoint ε] : List Message → Act (Sender ε) Unit
  | [] => pure ()
  | message :: rest => do
    emit message
    emitAll rest

theorem emit_line {message : Message} {writer : Writer} {more : Nat} (sent dropped : Nat)
    (bears : writer.Bears (message.line.length + more)) :
    ∃ after, emit message ⟨ByteEndpoint.stream writer, sent, dropped⟩ =
        ⟨[], .ok ((), ⟨.stream after, sent + 1, dropped⟩)⟩ ∧
      after.written = writer.written ++ message.line ∧ after.Bears more := by
  obtain ⟨after, wrote, told, left⟩ := Writer.write_line_bears bears
  refine ⟨after, ?_, told, left⟩
  have passed : Act.on endpointPart (Endpoint.send message) ⟨ByteEndpoint.stream writer, sent, dropped⟩ =
      ⟨[], .ok (.ok (), ⟨.stream after, sent, dropped⟩)⟩ := by
    refine Act.on_of_ok ?_
    change ByteEndpoint.sendBytes message.bytes (.stream writer) = ⟨[], .ok (.ok (), .stream after)⟩
    rw [ByteEndpoint.sendBytes, Act.bind_of_ok rfl]
    dsimp only
    rw [wrote]
    rfl
  rw [emit, Act.bind_of_ok passed]
  rfl

theorem emit_lines {messages : List Message} {writer : Writer} (sent dropped : Nat)
    (bears : writer.Bears (messages.flatMap Message.line).length) :
    ∃ after, emitAll messages ⟨ByteEndpoint.stream writer, sent, dropped⟩ =
        ⟨[], .ok ((), ⟨.stream after, sent + messages.length, dropped⟩)⟩ ∧
      after.written = writer.written ++ messages.flatMap Message.line := by
  induction messages generalizing writer sent with
  | nil => exact ⟨writer, rfl, (List.append_nil _).symm⟩
  | cons message messages ih =>
    rw [List.flatMap_cons, List.length_append] at bears
    obtain ⟨middle, ran, told, left⟩ := emit_line sent dropped bears
    obtain ⟨after, onward, rest⟩ := ih (sent + 1) left
    refine ⟨after, ?_, ?_⟩
    · rw [emitAll, Act.bind_of_ok ran, onward, List.length_cons, Nat.add_right_comm]
      rfl
    · rw [rest, told, List.flatMap_cons, List.append_assoc]

/-- Messages with integer counters that are sent to a stream, which does not fail, are all sent. What
is written for them falls apart at its line breaks into one line for each, in order and with nothing
left over, and each line decodes to its message. So no two such messages have the same text. -/
theorem lines_decode_to_messages :
    (∀ (messages : List Message) (writer : Writer) (sent dropped : Nat),
      writer.Bears (messages.flatMap Message.line).length → (∀ message ∈ messages, message.CountsIntegers) →
        ∃ after written lines, emitAll messages ⟨ByteEndpoint.stream writer, sent, dropped⟩ =
            ⟨[], .ok ((), ⟨.stream after, sent + messages.length, dropped⟩)⟩ ∧
          after.written = writer.written ++ written ∧ written.splitOn 10 = lines ++ [[]] ∧
          lines.map Message.read? = messages.map some) ∧
    ∀ a b : Message, a.CountsIntegers → b.CountsIntegers → a ≠ b → a.text ≠ b.text := by
  refine ⟨?_, ?_⟩
  · intro messages writer sent dropped bears integers
    obtain ⟨after, ran, told⟩ := emit_lines sent dropped bears
    refine ⟨after, _, _, ran, told, Message.split_lines integers, ?_⟩
    rw [List.map_map]
    exact List.map_congr_left fun message member => Message.read_bytes (integers message member)
  · intro a b counted counts different same
    exact different (Message.same_text counted counts same)

-- Labels and names with quotes, line breaks and characters of more than one byte.
def markedMessages : List Message := [
  .startFrame 3,
  .workload ["a\"b\\c", "λ\n\x01"] [⟨"ü\t", .integer 18446744073709551615⟩, ⟨"", .integer 0⟩]
    (.bufferTransfer .copyBuffer (-2)),
  .endFrame 3]

-- Holds one byte already, and takes five at once after it was cut off twice.
def slowWriter : Writer := ⟨[125], some 300, some 5, 2, true, false⟩

theorem marked_messages_decode :
    slowWriter.Bears (markedMessages.flatMap Message.line).length ∧
      (∀ message ∈ markedMessages, message.CountsIntegers) ∧
      (∃ after written lines, emitAll markedMessages ⟨ByteEndpoint.stream slowWriter, 0, 0⟩ =
          ⟨[], .ok ((), ⟨.stream after, 3, 0⟩)⟩ ∧
        after.written = [125] ++ written ∧ written.splitOn 10 = lines ++ [[]] ∧
        lines.map Message.read? = markedMessages.map some) ∧
      (Message.startFrame 3).text ≠ (Message.endFrame 3).text := by
  have bears : slowWriter.Bears (markedMessages.flatMap Message.line).length := by
    refine ⟨?_, by decide, rfl⟩
    intro room limit
    cases limit
    decide +kernel
  have integers : ∀ message ∈ markedMessages, message.CountsIntegers := by
    simp [markedMessages, Message.CountsIntegers, Message.counters]
  exact ⟨bears, integers, lines_decode_to_messages.1 markedMessages slowWriter 0 0 bears integers,
    lines_decode_to_messages.2 (.startFrame 3) (.endFrame 3) (by simp [Message.CountsIntegers, Message.counters])
      (by simp [Message.CountsIntegers, Message.counters]) (by decide)⟩

end Sender

end GpuProfiler
