import PssAsio.PacketParseCore
import PssAsio.StreamCuts

/-!
TCP framing: which cuts of the stream the stream parser survives.
-/

namespace PssAsio

open ByteMemory StreamCuts TransitionRuns

structure Frame where
  version : UInt16
  commandId : UInt16
  session : List UInt8
  body : List UInt8
  sessionSize : session.length = 32
  bodySmall : body.length < bodyLimit

namespace Frame

variable (frame : Frame)

def header : List UInt8 :=
  wordBytes 2 frame.version.toNat ++ wordBytes 2 frame.commandId.toNat ++
    wordBytes 4 frame.body.length ++ frame.session

def bytes : List UInt8 := frame.header ++ frame.body

def packet : MessagePacket := ⟨frame.commandId, frame.bytes⟩

@[simp] theorem header_length (frame : Frame) : frame.header.length = headerSize := by
  simp [header, headerSize, frame.sessionSize]

@[simp] theorem bytes_length (frame : Frame) :
    frame.bytes.length = headerSize + frame.body.length := by
  simp [bytes]

theorem header_commandId : (parseHeader frame.header).commandId = frame.commandId := by
  have version := wordBytes_length 2 frame.version.toNat
  have command := wordBytes_length 2 frame.commandId.toNat
  have value := littleEndian_wordBytes 2 frame.commandId.toNat frame.commandId.toNat_lt
  simp only [parseHeader, header, List.append_assoc]
  rw [List.drop_left' version, List.take_left' command, value, UInt16.ofNat_toNat]

theorem header_packetBodyLength :
    (parseHeader frame.header).packetBodyLength = frame.body.length := by
  have front :
      (wordBytes 2 frame.version.toNat ++ wordBytes 2 frame.commandId.toNat).length = 4 := by simp
  have length := wordBytes_length 4 frame.body.length
  have small : frame.body.length < 256 ^ 4 := Nat.lt_trans frame.bodySmall (by decide)
  simp only [parseHeader, header]
  rw [List.append_assoc, List.drop_left' front, List.take_left' length,
    littleEndian_wordBytes 4 _ small]

end Frame

variable (frames : List Frame)

def streamBytes : List UInt8 := frames.flatMap Frame.bytes

@[simp] theorem streamBytes_cons (frame : Frame) (rest : List Frame) :
    streamBytes (frame :: rest) = frame.bytes ++ streamBytes rest := rfl

theorem length_le_streamBytes : frames.length ≤ (streamBytes frames).length := by
  induction frames with
  | nil => simp
  | cons frame rest ih =>
    simp only [List.length_cons, streamBytes_cons, List.length_append, Frame.bytes_length,
      headerSize]
    omega

/-- The frame that the first `count` bytes of the stream end in, and how much of it they hold. -/
def pending : List Frame → Nat → Option (Frame × Nat)
  | [], _ => none
  | frame :: rest, count =>
      if frame.bytes.length ≤ count then pending rest (count - frame.bytes.length)
      else some (frame, count)

variable {frames : List Frame} {reads : List (List UInt8)} {recvSize : UInt32} {state : StreamState}

theorem pending_arrived {count : Nat} {frame : Frame} {arrived : Nat}
    (found : pending frames count = some (frame, arrived)) : arrived < frame.bytes.length := by
  induction frames generalizing count with
  | nil => simp [pending] at found
  | cons first rest ih =>
    simp only [pending] at found
    split at found
    · exact ih found
    · rename_i incomplete
      simp only [Option.some.injEq, Prod.mk.injEq] at found
      obtain ⟨rfl, rfl⟩ := found
      omega

theorem leftover_eq (frames : List Frame) (count : Nat) :
    leftover Frame.bytes frames count =
      match pending frames count with
      | some (frame, arrived) => frame.bytes.take arrived
      | none => [] := by
  induction frames generalizing count with
  | nil => rfl
  | cons frame rest ih =>
    by_cases whole : frame.bytes.length ≤ count
    · simp only [pending, leftover, whole, if_true, ih]
    · simp only [pending, leftover, whole, if_false]

/-! The parser on a buffer that holds whole frames and a remainder. -/

section Parser

variable {buffer : SessionBuffer}

theorem streamLoop_frame (small : buffer.maxBuffSize < 2 ^ 32) (frame : Frame) (rest : List UInt8)
    (fuel packetPos : Nat) (messageList : List MessagePacket) (readEnd : Nat)
    (holds : buffer.content.drop packetPos = frame.bytes ++ rest) :
    streamLoop buffer (fuel + 1) packetPos (buffer.writeSize - packetPos) messageList readEnd =
      streamLoop buffer fuel (packetPos + frame.bytes.length)
        (buffer.writeSize - (packetPos + frame.bytes.length)) (messageList ++ [frame.packet])
        (max readEnd (packetPos + frame.bytes.length)) := by
  have bounded := buffer.bounded
  have sizes := congrArg List.length holds
  simp only [List.length_drop, SessionBuffer.content_length, List.length_append,
    Frame.bytes_length] at sizes
  have positive : 0 < headerSize := by decide
  have bodySmall : ¬bodyLimit ≤ frame.body.length := Nat.not_le.mpr frame.bodySmall
  have headerRead : buffer.readBytes packetPos headerSize = some frame.header := by
    have room : packetPos + headerSize ≤ buffer.writeSize := by omega
    rw [buffer.readBytes_content packetPos headerSize room, holds, Frame.bytes, List.append_assoc,
      List.take_left' frame.header_length]
  have packetRead : buffer.readBytes packetPos (headerSize + frame.body.length) =
      some frame.bytes := by
    have room : packetPos + (headerSize + frame.body.length) ≤ buffer.writeSize := by omega
    rw [buffer.readBytes_content packetPos _ room, holds, List.take_left' frame.bytes_length]
  have enough : ¬buffer.writeSize - packetPos < headerSize := by omega
  simp only [streamLoop, enough, if_false, headerRead, frame.header_packetBodyLength, bodySmall]
  by_cases empty : frame.body.length = 0
  · have bodyNil : frame.body = [] := List.length_eq_zero_iff.mp empty
    have position : (packetPos + headerSize) % 2 ^ 32 = packetPos + headerSize :=
      Nat.mod_eq_of_lt (by omega)
    have packet : frame.packet = ⟨frame.commandId, frame.header⟩ := by
      simp [Frame.packet, Frame.bytes, bodyNil]
    simp only [empty, if_true, position, frame.header_commandId, packet, Frame.bytes_length,
      Nat.add_zero, Nat.sub_sub]
  · have arrived : ¬buffer.writeSize - packetPos < frame.body.length := by omega
    have position : (packetPos + (headerSize + frame.body.length)) % 2 ^ 32 =
        packetPos + (headerSize + frame.body.length) := Nat.mod_eq_of_lt (by omega)
    have remaining : (buffer.writeSize - packetPos + (2 ^ 64 - (headerSize + frame.body.length))) %
        2 ^ 64 = buffer.writeSize - (packetPos + (headerSize + frame.body.length)) := by
      simp only [headerSize] at sizes ⊢
      omega
    have furthest : max (max readEnd (packetPos + headerSize))
        (packetPos + (headerSize + frame.body.length)) =
        max readEnd (packetPos + (headerSize + frame.body.length)) := by omega
    simp only [empty, if_false, arrived, packetRead, position, remaining, furthest,
      frame.header_commandId, Frame.bytes_length]
    rfl

theorem streamLoop_frames (small : buffer.maxBuffSize < 2 ^ 32) (frames : List Frame)
    (rest : List UInt8) (fuel packetPos : Nat) (messageList : List MessagePacket) (readEnd : Nat)
    (holds : buffer.content.drop packetPos = streamBytes frames ++ rest)
    (earlier : readEnd ≤ buffer.writeSize) :
    ∃ furthest, furthest ≤ buffer.writeSize ∧
      streamLoop buffer (frames.length + fuel) packetPos (buffer.writeSize - packetPos)
        messageList readEnd =
        streamLoop buffer fuel (packetPos + (streamBytes frames).length)
          (buffer.writeSize - (packetPos + (streamBytes frames).length))
          (messageList ++ frames.map Frame.packet) furthest := by
  induction frames generalizing packetPos messageList readEnd with
  | nil => exact ⟨readEnd, earlier, by simp [streamBytes]⟩
  | cons frame frames ih =>
    rw [streamBytes_cons, List.append_assoc] at holds
    have sizes := congrArg List.length holds
    simp only [List.length_drop, SessionBuffer.content_length, List.length_append] at sizes
    have positive : 0 < frame.bytes.length := by
      rw [Frame.bytes_length, headerSize]
      omega
    have next : buffer.content.drop (packetPos + frame.bytes.length) =
        streamBytes frames ++ rest := by
      rw [← List.drop_drop, holds, List.drop_left]
    obtain ⟨furthest, reached, loop⟩ := ih (packetPos + frame.bytes.length)
      (messageList ++ [frame.packet]) (max readEnd (packetPos + frame.bytes.length)) next
      (by omega)
    refine ⟨furthest, reached, ?_⟩
    have fuelEq : (frame :: frames).length + fuel = frames.length + fuel + 1 := by
      simp only [List.length_cons]
      omega
    rw [fuelEq, streamLoop_frame small frame _ _ _ _ _ holds, loop]
    simp [Nat.add_assoc]

/-- The header is there and as many bytes as the body is long, but not both together. -/
def Overruns (frames : List Frame) (count : Nat) : Prop :=
  ∃ next ∈ pending frames count,
    0 < next.1.body.length ∧ headerSize ≤ next.2 ∧ next.1.body.length ≤ next.2
  deriving Decidable

theorem leftover_header {count : Nat} {frame : Frame} {arrived packetPos : Nat}
    (found : pending frames count = some (frame, arrived))
    (holds : buffer.content.drop packetPos = leftover Frame.bytes frames count)
    (inside : packetPos ≤ buffer.writeSize) (headed : headerSize ≤ arrived) :
    buffer.readBytes packetPos headerSize = some frame.header ∧
      buffer.writeSize - packetPos = arrived := by
  have incomplete := pending_arrived found
  have sizes := congrArg List.length holds
  simp only [leftover_eq, found, List.length_drop, SessionBuffer.content_length,
    List.length_take] at sizes
  have room : packetPos + headerSize ≤ buffer.writeSize := by omega
  refine ⟨?_, by omega⟩
  rw [buffer.readBytes_content packetPos headerSize room, holds, leftover_eq, found]
  simp only
  rw [List.take_take, Nat.min_eq_left headed, Frame.bytes, List.take_left' frame.header_length]

theorem streamLoop_leftover {count : Nat} (fuel packetPos : Nat) (messageList : List MessagePacket)
    (readEnd : Nat) (holds : buffer.content.drop packetPos = leftover Frame.bytes frames count)
    (inside : packetPos ≤ buffer.writeSize) (earlier : readEnd ≤ buffer.writeSize)
    (safe : ¬Overruns frames count) :
    ∃ furthest, furthest ≤ buffer.writeSize ∧
      streamLoop buffer (fuel + 1) packetPos (buffer.writeSize - packetPos) messageList readEnd =
        ⟨.returned true (buffer.move packetPos) messageList, furthest⟩ := by
  by_cases short : buffer.writeSize - packetPos < headerSize
  · exact ⟨readEnd, earlier, by simp only [streamLoop, short, if_true]⟩
  · have sizes := congrArg List.length holds
    simp only [List.length_drop, SessionBuffer.content_length, leftover_eq] at sizes
    cases found : pending frames count with
    | none =>
      have positive : 0 < headerSize := by decide
      simp only [found, List.length_nil] at sizes
      omega
    | some next =>
      obtain ⟨frame, arrived⟩ := next
      have incomplete := pending_arrived found
      simp only [found, List.length_take] at sizes
      obtain ⟨headerRead, available⟩ := leftover_header found holds inside (by omega)
      have bodySmall : ¬bodyLimit ≤ frame.body.length := Nat.not_le.mpr frame.bodySmall
      simp only [Overruns, found, Option.mem_some_iff, exists_eq_left', not_and,
        Nat.not_le] at safe
      rw [Frame.bytes_length] at incomplete
      have nonempty : ¬frame.body.length = 0 := by omega
      have waiting : buffer.writeSize - packetPos < frame.body.length := by
        rw [available]
        exact safe (by omega) (by omega)
      refine ⟨max readEnd (packetPos + headerSize), by omega, ?_⟩
      simp only [streamLoop, short, if_false, headerRead, frame.header_packetBodyLength,
        bodySmall, nonempty, waiting, if_true]

theorem streamLoop_overrun {count : Nat} (fuel packetPos : Nat) (messageList : List MessagePacket)
    (readEnd : Nat) (holds : buffer.content.drop packetPos = leftover Frame.bytes frames count)
    (inside : packetPos ≤ buffer.writeSize) (overrun : Overruns frames count) :
    buffer.writeSize < (streamLoop buffer (fuel + 1) packetPos (buffer.writeSize - packetPos)
      messageList readEnd).readEnd := by
  cases found : pending frames count with
  | none => simp [Overruns, found] at overrun
  | some next =>
    obtain ⟨frame, arrived⟩ := next
    simp only [Overruns, found, Option.mem_some_iff, exists_eq_left'] at overrun
    obtain ⟨nonempty, headed, covered⟩ := overrun
    have incomplete := pending_arrived found
    rw [Frame.bytes_length] at incomplete
    obtain ⟨headerRead, available⟩ := leftover_header found holds inside headed
    have bodySmall : ¬bodyLimit ≤ frame.body.length := Nat.not_le.mpr frame.bodySmall
    have notEmpty : ¬frame.body.length = 0 := by omega
    have enough : ¬buffer.writeSize - packetPos < headerSize := by omega
    have mistaken : ¬buffer.writeSize - packetPos < frame.body.length := by omega
    have beyond : buffer.writeSize < max (max readEnd (packetPos + headerSize))
        (packetPos + (headerSize + frame.body.length)) := by omega
    simp only [streamLoop, enough, if_false, headerRead, frame.header_packetBodyLength,
      bodySmall, notEmpty, mistaken]
    split
    · exact beyond
    · exact Nat.lt_of_lt_of_le beyond (streamLoop_readEnd _ _ _ _ _ _)

section Holding

variable {fresh frames : List Frame} {count : Nat}
variable (small : buffer.maxBuffSize < 2 ^ 32)
variable (holds : buffer.content = streamBytes fresh ++ leftover Frame.bytes frames count)

include small holds

theorem parse_reaches_leftover :
    ∃ fuel furthest, furthest ≤ buffer.writeSize ∧
      (streamBytes fresh).length ≤ buffer.writeSize ∧
      buffer.content.drop (streamBytes fresh).length = leftover Frame.bytes frames count ∧
      parsePacketFromRecvBufferStream buffer =
        streamLoop buffer (fuel + 1) (streamBytes fresh).length
          (buffer.writeSize - (streamBytes fresh).length) (fresh.map Frame.packet) furthest := by
  have bounded := buffer.bounded
  have sizes := congrArg List.length holds
  simp only [SessionBuffer.content_length, List.length_append] at sizes
  have counted := length_le_streamBytes fresh
  have fuelEq : buffer.maxBuffSize + 2 =
      fresh.length + (buffer.maxBuffSize + 1 - fresh.length + 1) := by omega
  obtain ⟨furthest, within, loop⟩ := streamLoop_frames small fresh
    (leftover Frame.bytes frames count) (buffer.maxBuffSize + 1 - fresh.length + 1) 0 [] 0
    (by simpa using holds) (Nat.zero_le _)
  rw [Nat.sub_zero, Nat.zero_add, List.nil_append] at loop
  refine ⟨buffer.maxBuffSize + 1 - fresh.length, furthest, within, by omega, ?_, ?_⟩
  · rw [holds, List.drop_left]
  · rw [parsePacketFromRecvBufferStream, SessionBuffer.getWriteSize, fuelEq, loop]

theorem parse_whole_frames (safe : ¬Overruns frames count) :
    ∃ furthest, furthest ≤ buffer.writeSize ∧
      parsePacketFromRecvBufferStream buffer =
        ⟨.returned true (buffer.move (streamBytes fresh).length) (fresh.map Frame.packet),
          furthest⟩ := by
  obtain ⟨fuel, middle, within, inside, remains, loop⟩ := parse_reaches_leftover small holds
  obtain ⟨furthest, reached, stopped⟩ :=
    streamLoop_leftover fuel _ (fresh.map Frame.packet) middle remains inside within safe
  exact ⟨furthest, reached, by rw [loop, stopped]⟩

theorem parse_overruns (overrun : Overruns frames count) :
    buffer.writeSize < (parsePacketFromRecvBufferStream buffer).readEnd := by
  obtain ⟨fuel, middle, _, inside, remains, loop⟩ := parse_reaches_leftover small holds
  rw [loop]
  exact streamLoop_overrun fuel _ _ middle remains inside overrun

end Holding

end Parser

/-! The reads of a session. Packets are passed on only when the parser returned true. -/

structure StreamState where
  buffer : SessionBuffer
  emitted : List MessagePacket
  alwaysTrue : Bool
  withinReceived : Bool

def StreamState.opened (recvSize : UInt32) (fresh : Nat → UInt8) : StreamState where
  buffer := SessionBuffer.init recvSize.toUInt64 fresh
  emitted := []
  alwaysTrue := true
  withinReceived := true

def doReadSome (state : StreamState) (data : List UInt8) : Option StreamState :=
  (state.buffer.receive data).map fun filled =>
    let trace := parsePacketFromRecvBufferStream filled
    let within := state.withinReceived && decide (trace.readEnd ≤ filled.getWriteSize)
    match trace.outcome with
    | .returned true next messageList =>
        ⟨next, state.emitted ++ messageList, state.alwaysTrue, within⟩
    | .returned false next _ => ⟨next, state.emitted, false, within⟩
    | _ => ⟨filled, state.emitted, false, within⟩

def ReadsFit (recvSize : UInt32) (frames : List Frame) (reads : List (List UInt8)) : Prop :=
  ∀ done data rest, reads = done ++ data :: rest →
    (leftover Frame.bytes frames done.flatten.length).length + data.length ≤ recvSize.toNat

def FramingExact (recvSize : UInt32) (fresh : Nat → UInt8) (frames : List Frame)
    (reads : List (List UInt8)) : Prop :=
  ∀ done rest, reads = done ++ rest →
    ∃ state, run doReadSome (StreamState.opened recvSize fresh) done = some state ∧
      state.alwaysTrue = true ∧ state.withinReceived = true ∧
      state.emitted = (completed Frame.bytes frames done.flatten.length).map Frame.packet ∧
      state.buffer.content = leftover Frame.bytes frames done.flatten.length

theorem readsFit_of_total (split : reads.flatten = streamBytes frames)
    (total : (streamBytes frames).length ≤ recvSize.toNat) : ReadsFit recvSize frames reads :=
  fits_of_total Frame.bytes split total

theorem doReadSome_maxBuffSize {next : StreamState} {data : List UInt8}
    (stepped : doReadSome state data = some next) :
    next.buffer.maxBuffSize = state.buffer.maxBuffSize := by
  simp only [doReadSome, Option.map_eq_some_iff] at stepped
  obtain ⟨filled, received, result⟩ := stepped
  have same : filled.maxBuffSize = state.buffer.maxBuffSize :=
    SessionBuffer.receive_maxBuffSize received
  rw [← same, ← result]
  split
  · rename_i returned
    obtain rfl | ⟨count, rfl⟩ := streamLoop_moved returned <;> simp
  · rename_i returned
    obtain rfl | ⟨count, rfl⟩ := streamLoop_moved returned <;> simp
  · rfl

structure ReceivedExactly (frames : List Frame) (count : Nat) (state : StreamState) : Prop where
  alwaysTrue : state.alwaysTrue = true
  withinReceived : state.withinReceived = true
  emitted : state.emitted = (completed Frame.bytes frames count).map Frame.packet
  held : state.buffer.content = leftover Frame.bytes frames count
  small : state.buffer.maxBuffSize < 2 ^ 32

theorem doReadSome_exact {count : Nat} (before : ReceivedExactly frames count state)
    (data : List UInt8)
    (arriving : (streamBytes frames).take (count + data.length) = (streamBytes frames).take count ++
      data)
    (fits : (leftover Frame.bytes frames count).length + data.length ≤ state.buffer.maxBuffSize)
    (safe : ¬Overruns frames (count + data.length)) :
    ∃ next, doReadSome state data = some next ∧
      ReceivedExactly frames (count + data.length) next := by
  rw [← before.held, SessionBuffer.content_length] at fits
  obtain ⟨filled, received, sameSize, content⟩ := state.buffer.receive_eq_some data fits
  obtain ⟨fresh, grown, arrived⟩ := leftover_append Frame.bytes frames count data arriving
  have holds : filled.content =
      streamBytes fresh ++ leftover Frame.bytes frames (count + data.length) := by
    rw [content, before.held, arrived, streamBytes]
  obtain ⟨furthest, reached, parsed⟩ :=
    parse_whole_frames (by rw [sameSize]; exact before.small) holds safe
  refine ⟨⟨filled.move (streamBytes fresh).length, state.emitted ++ fresh.map Frame.packet,
    state.alwaysTrue, state.withinReceived && decide (furthest ≤ filled.getWriteSize)⟩, ?_, ?_⟩
  · simp [doReadSome, received, parsed]
  · constructor
    · exact before.alwaysTrue
    · simp only [before.withinReceived, Bool.true_and, decide_eq_true_eq]
      exact reached
    · simp only [before.emitted, grown, List.map_append]
    · simp only
      rw [SessionBuffer.move_content, holds, List.drop_left]
    · simp only [SessionBuffer.move_maxBuffSize, sameSize]
      exact before.small

theorem doReadSome_overrun {count : Nat} {next : StreamState}
    (held : state.buffer.content = leftover Frame.bytes frames count)
    (small : state.buffer.maxBuffSize < 2 ^ 32) (data : List UInt8)
    (arriving : (streamBytes frames).take (count + data.length) = (streamBytes frames).take count ++
      data) (overrun : Overruns frames (count + data.length))
    (stepped : doReadSome state data = some next) : next.withinReceived = false := by
  simp only [doReadSome, Option.map_eq_some_iff] at stepped
  obtain ⟨filled, received, result⟩ := stepped
  obtain ⟨fresh, _, arrived⟩ := leftover_append Frame.bytes frames count data arriving
  have holds : filled.content =
      streamBytes fresh ++ leftover Frame.bytes frames (count + data.length) := by
    rw [SessionBuffer.receive_content received, held, arrived, streamBytes]
  have beyond := parse_overruns (by rw [SessionBuffer.receive_maxBuffSize received]; exact small)
    holds overrun
  have outside : decide ((parsePacketFromRecvBufferStream filled).readEnd ≤ filled.getWriteSize) =
      false := decide_eq_false (Nat.not_le.mpr beyond)
  rw [← result]
  split <;> simp [outside]

theorem run_maxBuffSize {fresh : Nat → UInt8}
    (ran : run doReadSome (StreamState.opened recvSize fresh) reads = some state) :
    state.buffer.maxBuffSize = recvSize.toNat :=
  run_preserves (fun state => state.buffer.maxBuffSize = recvSize.toNat)
    (fun _ _ _ same stepped => (doReadSome_maxBuffSize stepped).trans same) rfl ran

theorem reads_exact (fresh : Nat → UInt8) (split : reads.flatten = streamBytes frames)
    (fits : ReadsFit recvSize frames reads)
    (safe : ∀ done rest, reads = done ++ rest → ¬Overruns frames done.flatten.length)
    (done rest : List (List UInt8)) (prefixed : reads = done ++ rest) :
    ∃ state, run doReadSome (StreamState.opened recvSize fresh) done = some state ∧
      ReceivedExactly frames done.flatten.length state ∧
      state.buffer.maxBuffSize = recvSize.toNat := by
  let harmless (count : Nat) (data : List UInt8) : Prop :=
    (leftover Frame.bytes frames count).length + data.length ≤ recvSize.toNat ∧
      ¬Overruns frames (count + data.length)
  have initial : ReceivedExactly frames 0 (StreamState.opened recvSize fresh) := by
    refine ⟨rfl, rfl, ?_, ?_, recvSize.toNat_lt⟩
    · cases frames <;> simp [StreamState.opened, completed, headerSize]
    · cases frames <;> simp [StreamState.opened, leftover, headerSize]
  have advance : ∀ count state data, (ReceivedExactly frames count state ∧
        state.buffer.maxBuffSize = recvSize.toNat) →
      (streamBytes frames).take (count + data.length) =
        (streamBytes frames).take count ++ data → harmless count data →
      ∃ next, doReadSome state data = some next ∧
        ReceivedExactly frames (count + data.length) next ∧
        next.buffer.maxBuffSize = recvSize.toNat := by
    rintro count state data ⟨before, sized⟩ arriving ⟨room, unharmed⟩
    rw [← sized] at room
    obtain ⟨next, stepped, after⟩ := doReadSome_exact before data arriving room unharmed
    exact ⟨next, stepped, after, (doReadSome_maxBuffSize stepped).trans sized⟩
  refine run_reads advance ⟨initial, rfl⟩ split ?_ done rest prefixed
  intro done data rest prefixed
  have unharmed := safe (done ++ [data]) rest (by simpa using prefixed)
  simp only [List.flatten_append, List.flatten_singleton, List.length_append] at unharmed
  exact ⟨fits done data rest prefixed, unharmed⟩

theorem not_framingExact_of_overrun {fresh : Nat → UInt8}
    (split : reads.flatten = streamBytes frames) {done rest : List (List UInt8)}
    (prefixed : reads = done ++ rest) (overrun : Overruns frames done.flatten.length) :
    ¬FramingExact recvSize fresh frames reads := by
  intro exact
  cases done using List.reverseRecOn with
  | nil => cases frames <;> simp [Overruns, pending, headerSize] at overrun
  | append_singleton done data =>
    have earlier : reads = done ++ data :: rest := by simpa using prefixed
    obtain ⟨before, ranBefore, _, _, _, held⟩ := exact done (data :: rest) earlier
    obtain ⟨after, ranAfter, _, within, _, _⟩ := exact (done ++ [data]) rest prefixed
    have stepped : doReadSome before data = some after := by
      simpa [run_append, ranBefore, run] using ranAfter
    simp only [List.flatten_append, List.flatten_singleton, List.length_append] at overrun
    have small : before.buffer.maxBuffSize < 2 ^ 32 := by
      rw [run_maxBuffSize ranBefore]
      exact recvSize.toNat_lt
    have outside := doReadSome_overrun held small data (arriving_of_split split earlier)
      overrun stepped
    rw [outside] at within
    cases within

/-- The framing does not depend on the cuts exactly as long as no read ends inside a frame with at
least a header and as many bytes as the body is long. -/
theorem framingExact_iff_never_overruns (recvSize : UInt32) (fresh : Nat → UInt8)
    (frames : List Frame) (reads : List (List UInt8))
    (split : reads.flatten = streamBytes frames) (fits : ReadsFit recvSize frames reads) :
    FramingExact recvSize fresh frames reads ↔
      ∀ done rest, reads = done ++ rest → ¬Overruns frames done.flatten.length := by
  constructor
  · intro exact done rest prefixed overrun
    exact not_framingExact_of_overrun split prefixed overrun exact
  · intro safe done rest prefixed
    obtain ⟨state, ran, after, -⟩ := reads_exact fresh split fits safe done rest prefixed
    exact ⟨state, ran, after.alwaysTrue, after.withinReceived, after.emitted, after.held⟩

theorem prefix_of_two {α : Type} {first second : α} {done rest : List α}
    (prefixed : [first, second] = done ++ rest) :
    done = [] ∨ done = [first] ∨ done = [first, second] := by
  match done with
  | [] => exact Or.inl rfl
  | [_] =>
    simp only [List.cons_append, List.nil_append, List.cons.injEq] at prefixed
    exact Or.inr (Or.inl (by rw [prefixed.1]))
  | [_, _] =>
    simp only [List.cons_append, List.nil_append, List.cons.injEq] at prefixed
    exact Or.inr (Or.inr (by rw [prefixed.1, prefixed.2.1]))
  | _ :: _ :: _ :: _ => simp at prefixed

def tenByteFrame : Frame where
  version := 1
  commandId := 0x2101
  session := List.replicate 32 0x61
  body := [0, 1, 2, 3, 4, 5, 6, 7, 8, 9]
  sessionSize := by decide
  bodySmall := by decide

theorem framingExact_cut_at_twenty :
    FramingExact 64 (fun _ => 0) [tenByteFrame]
      [tenByteFrame.bytes.take 20, tenByteFrame.bytes.drop 20] := by
  refine (framingExact_iff_never_overruns 64 (fun _ => 0) [tenByteFrame]
    [tenByteFrame.bytes.take 20, tenByteFrame.bytes.drop 20] (by decide)
    (readsFit_of_total (by decide) (by decide))).mpr ?_
  intro done rest prefixed
  rcases prefix_of_two prefixed with rfl | rfl | rfl <;> decide

theorem not_framingExact_cut_at_fortyFive :
    [tenByteFrame.bytes.take 45, tenByteFrame.bytes.drop 45].flatten = streamBytes [tenByteFrame] ∧
      ReadsFit 64 [tenByteFrame] [tenByteFrame.bytes.take 45, tenByteFrame.bytes.drop 45] ∧
      ¬FramingExact 64 (fun _ => 0) [tenByteFrame]
        [tenByteFrame.bytes.take 45, tenByteFrame.bytes.drop 45] := by
  have prefixed : [tenByteFrame.bytes.take 45, tenByteFrame.bytes.drop 45] =
      [tenByteFrame.bytes.take 45] ++ [tenByteFrame.bytes.drop 45] := rfl
  exact ⟨by decide, readsFit_of_total (by decide) (by decide),
    not_framingExact_of_overrun (by decide) prefixed (by decide)⟩

end PssAsio
