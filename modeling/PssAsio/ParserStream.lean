import PssAsio.BridgeSessions
import PssAsio.PacketFraming

/-!
The stream that the packet parser of a TCP or SSL session sees.
-/

namespace PssAsio

open TransitionRuns

inductive StreamClass where
  | tcpSession
  | tcpClientSession
  | tcpSslSession
  | tcpSslClientSession
  deriving DecidableEq, Repr

def StreamClass.bridgeClass : StreamClass → BridgeClass
  | .tcpSession => .tcpSession
  | .tcpClientSession => .tcpClientSession
  | .tcpSslSession => .tcpSslSession
  | .tcpSslClientSession => .tcpSslClientSession

/-- A read after which `packet_from_recv_buffer` takes `consumed` bytes and returns true. -/
structure StreamRead where
  data : List UInt8
  messageList : List MessagePacket
  consumed : Nat
  deriving DecidableEq

def StreamRead.verdict (read : StreamRead) : ReceiveVerdict where
  parsed := some read.messageList
  consumed := read.consumed
  bridgeSent := false

structure ParserStream where
  session : BridgeSession
  left : List UInt8

/-- One read of a session that is not bridged leaves what `StreamState` keeps of it. -/
theorem BridgeSession.doReadSome_stream {session : BridgeSession} {state next : StreamState}
    {data : List UInt8} (logic : session.ioState = .sessionIoLogic)
    (same : session.sessionRecvBuffer = state.buffer)
    (stepped : PssAsio.doReadSome state data = some next) :
    ∃ verdict after delivery, session.doReadSome data verdict id = some (after, delivery) ∧
      after.sessionRecvBuffer.content = next.buffer.content ∧
      (next.alwaysTrue = true → ∃ messageList, verdict.parsed = some messageList ∧
        next.emitted = state.emitted ++ messageList) := by
  obtain ⟨filled, received, rfl⟩ := Option.map_eq_some_iff.mp stepped
  have reads : ∀ verdict, session.doReadSome data verdict id =
      some (session.parseData filled data verdict id) := by
    simp [doReadSome, same, received, routeData, logic]
  -- `packet_from_recv_buffer` moves the buffer once at most
  have left : ∀ after parsed, after = filled ∨ (∃ count, after = filled.move count) →
      ∃ verdict : ReceiveVerdict, verdict.parsed = parsed ∧
        (session.parseData filled data verdict id).1.sessionRecvBuffer.content = after.content := by
    rintro after parsed (rfl | ⟨count, rfl⟩)
    · exact ⟨⟨parsed, 0, false⟩, rfl, by simp [parseData, SessionBuffer.move_content]⟩
    · exact ⟨⟨parsed, count, false⟩, rfl, rfl⟩
  simp only
  split
  · rename_i after messageList returned
    obtain ⟨verdict, parsed, content⟩ := left after (some messageList) (streamLoop_moved returned)
    exact ⟨verdict, _, _, reads verdict, content, fun _ => ⟨messageList, parsed, rfl⟩⟩
  · rename_i after _ returned
    obtain ⟨verdict, -, content⟩ := left after none (streamLoop_moved returned)
    exact ⟨verdict, _, _, reads verdict, content, fun kept => by cases kept⟩
  · obtain ⟨verdict, -, content⟩ := left filled none (.inl rfl)
    exact ⟨verdict, _, _, reads verdict, content, fun kept => by cases kept⟩

namespace ParserStream

def opened (connectId recvSize sendSize : UInt32) (fresh : Nat → UInt8) : ParserStream :=
  ⟨BridgeSession.opened connectId recvSize sendSize fresh, []⟩

variable (stream : ParserStream)

def seen (data : List UInt8) : Option (List UInt8) :=
  (stream.session.sessionRecvBuffer.receive data).map (·.content)

def step (kind : StreamClass) (stream : ParserStream) (read : StreamRead) : Option ParserStream :=
  (stream.seen read.data).bind fun bytes =>
    (kind.bridgeClass.receive stream.session read.data read.verdict).map fun (session, _) =>
      ⟨session, bytes.drop read.consumed⟩

def GapFree : Prop :=
  ∀ data : List UInt8, data.length ≤ stream.session.sessionRecvBuffer.getBufferSize →
    stream.seen data = some (stream.left ++ data)

def TakesAll (read : StreamRead) : Prop :=
  read.data.length ≤ stream.session.sessionRecvBuffer.getBufferSize →
    read.data = [] ∨ (stream.left ++ read.data).length ≤ read.consumed
  deriving Decidable

variable {stream} {read : StreamRead} {kind : StreamClass}

theorem seen_of_receive {data : List UInt8} {written : SessionBuffer}
    (received : stream.session.sessionRecvBuffer.receive data = some written) :
    stream.seen data = some (stream.session.sessionRecvBuffer.content ++ data) := by
  rw [seen, received, Option.map_some, SessionBuffer.receive_content received]

theorem gapFree_iff (stream : ParserStream) :
    stream.GapFree ↔ stream.session.sessionRecvBuffer.content = stream.left := by
  constructor
  · intro gapFree
    -- An empty read always fits and shows what the buffer holds.
    have room : ([] : List UInt8).length ≤ stream.session.sessionRecvBuffer.getBufferSize :=
      Nat.zero_le _
    obtain ⟨written, received⟩ := SessionBuffer.receive_of_room room
    have shown := gapFree [] room
    rw [seen_of_receive received] at shown
    simpa using shown
  · intro holds data room
    obtain ⟨written, received⟩ := SessionBuffer.receive_of_room room
    rw [seen_of_receive received, holds]

structure Taken (kind : StreamClass) (stream : ParserStream) (read : StreamRead)
    (next : ParserStream) : Prop where
  ioState : next.session.ioState = stream.session.ioState
  left : next.left = (stream.session.sessionRecvBuffer.content ++ read.data).drop read.consumed
  content : next.session.sessionRecvBuffer.content =
    if kind = .tcpSslClientSession then next.left.drop read.data.length else next.left

theorem step_of_room (kind : StreamClass) (logic : stream.session.ioState = .sessionIoLogic)
    (room : read.data.length ≤ stream.session.sessionRecvBuffer.getBufferSize) :
    ∃ next, stream.step kind read = some next ∧ Taken kind stream read next := by
  have unbridged : stream.session.ioState ≠ .sessionIoBridge := by
    rw [logic]
    decide
  obtain ⟨written, received⟩ := SessionBuffer.receive_of_room room
  obtain ⟨routed, delivery, routes, spec, parsed⟩ := stream.session.routeData_routed read.verdict
    (kind.bridgeClass.afterParse read.data.length read.verdict)
    (SessionBuffer.receive_content received)
  have receives : kind.bridgeClass.receive stream.session read.data read.verdict =
      some (routed, delivery) := by
    rw [← routes]
    cases kind <;> simp only [StreamClass.bridgeClass, BridgeClass.receive,
      BridgeSession.doReadSome, received, Option.bind_some] <;> rfl
  refine ⟨⟨routed, _⟩, ?_, spec.ioState, rfl, ?_⟩
  · rw [step, seen_of_receive received, receives]
    rfl
  · rw [parsed unbridged, ← SessionBuffer.receive_content received]
    cases kind <;> simp [StreamClass.bridgeClass, BridgeClass.afterParse,
      SessionBuffer.move_content, StreamRead.verdict]

theorem step_no_room (kind : StreamClass)
    (full : ¬read.data.length ≤ stream.session.sessionRecvBuffer.getBufferSize) :
    stream.step kind read = none := by
  simp [step, seen, SessionBuffer.receive_no_room full]

theorem Taken.gapFree_iff {next : ParserStream} (taken : Taken kind stream read next)
    (gapFree : stream.GapFree) :
    next.GapFree ↔ (kind = .tcpSslClientSession →
      read.data = [] ∨ (stream.left ++ read.data).length ≤ read.consumed) := by
  rw [ParserStream.gapFree_iff, taken.content]
  by_cases removes : kind = .tcpSslClientSession
  · -- The second removal is harmless only where it finds nothing or asks for nothing.
    rw [if_pos removes, taken.left, (ParserStream.gapFree_iff stream).mp gapFree]
    generalize stream.left ++ read.data = bytes
    constructor
    · intro same _
      have lengths := congrArg List.length same
      simp only [List.length_drop] at lengths
      by_cases nothing : read.data = []
      · exact .inl nothing
      · have positive := List.length_pos_iff.mpr nothing
        exact .inr (by omega)
    · intro harmless
      obtain nothing | all := harmless removes
      · rw [nothing, List.length_nil, List.drop_zero]
      · rw [List.drop_of_length_le all, List.drop_nil]
  · simp [removes]

theorem step_ioState {next : ParserStream} (logic : stream.session.ioState = .sessionIoLogic)
    (stepped : stream.step kind read = some next) : next.session.ioState = .sessionIoLogic := by
  by_cases room : read.data.length ≤ stream.session.sessionRecvBuffer.getBufferSize
  · obtain ⟨taken, same, spec⟩ := step_of_room kind logic room
    rw [stepped, Option.some.injEq] at same
    rw [same, spec.ioState, logic]
  · rw [step_no_room kind room] at stepped
    cases stepped

theorem takesAll_iff (logic : stream.session.ioState = .sessionIoLogic) (gapFree : stream.GapFree) :
    (kind = .tcpSslClientSession → stream.TakesAll read) ↔
      ∀ next, stream.step kind read = some next → next.GapFree := by
  by_cases room : read.data.length ≤ stream.session.sessionRecvBuffer.getBufferSize
  · obtain ⟨next, stepped, taken⟩ := step_of_room kind logic room
    simp only [stepped, Option.some.injEq, forall_eq', taken.gapFree_iff gapFree, TakesAll, room,
      true_implies]
  · simp [step_no_room kind room, TakesAll, room]

/-- `CTcpSSLClientSession` takes the bytes of a read away a second time after the parser. -/
theorem gapFree_iff_takesAll (kind : StreamClass) (connectId recvSize sendSize : UInt32)
    (fresh : Nat → UInt8) (reads : List StreamRead) :
    Always (step kind) GapFree (opened connectId recvSize sendSize fresh) reads ↔
      (kind = .tcpSslClientSession →
        Throughout (step kind) TakesAll (opened connectId recvSize sendSize fresh) reads) := by
  have initial : (opened connectId recvSize sendSize fresh).GapFree :=
    (gapFree_iff _).mpr (SessionBuffer.init_content _ _)
  have supported : ∀ (stream : ParserStream) (read : StreamRead) (next : ParserStream),
      stream.session.ioState = .sessionIoLogic → stream.GapFree → next.GapFree →
        stream.step kind read = some next → next.session.ioState = .sessionIoLogic :=
    fun _ _ _ logic _ _ stepped => step_ioState logic stepped
  rw [always_iff_throughout_of_kept supported (fun _ _ logic gapFree => takesAll_iff logic gapFree)
    rfl initial]
  by_cases removes : kind = .tcpSslClientSession
  · simp only [removes, true_implies]
  · simp only [removes, false_implies, iff_true]
    exact throughout_of_forall _ (fun _ _ => trivial) _ _

/-- Three bytes of which the parser takes one: the other two are gone at the next read. -/
theorem unconsumed_bytes_removed :
    ∃ stream, run (step .tcpSslClientSession) (opened 1 8 8 fun _ => 0) [⟨[1, 2, 3], [], 1⟩] =
        some stream ∧
      stream.left = [2, 3] ∧
      [4].length ≤ stream.session.sessionRecvBuffer.getBufferSize ∧
      stream.seen [4] = some [4] :=
  ⟨_, (Option.some_get (by decide)).symm, by decide, by decide, by decide⟩

end ParserStream

end PssAsio
