import PssAsio.WebSocketMessages

/-!
Fragmented WebSocket messages: the call delivers the fragments after the first only.
-/

namespace PssAsio

open WebSocketFormat StreamCuts

structure Fragment where
  payload : List UInt8
  masking : Bool
  mask : MaskKey

def Fragment.frame (fragment : Fragment) (frameType : WebSocketFrameType) (isFin : Bool) :
    WebSocketFrame :=
  ⟨fragment.payload, frameType, isFin, fragment.masking, fragment.mask⟩

structure WebSocketMessage where
  frameType : WebSocketFrameType
  first : Fragment
  rest : List Fragment
  fourBit : frameType.code.toNat < 16
  starts : frameType ≠ .continuationFrame

def continuationFrames : List Fragment → List WebSocketFrame
  | [] => []
  | [last] => [last.frame .continuationFrame true]
  | fragment :: next :: rest =>
      fragment.frame .continuationFrame false :: continuationFrames (next :: rest)

namespace WebSocketMessage

variable (message : WebSocketMessage)

def fragments : List Fragment := message.first :: message.rest

def frames : List WebSocketFrame :=
  message.first.frame message.frameType message.rest.isEmpty :: continuationFrames message.rest

def payload (message : WebSocketMessage) : List UInt8 :=
  message.fragments.flatMap Fragment.payload

def packet : MessagePacket := websocketPacket message.payload

def delivered : List UInt8 :=
  if message.rest.isEmpty then message.first.payload
  else message.rest.flatMap Fragment.payload

theorem delivered_eq_payload_iff :
    message.delivered = message.payload ↔ message.rest = [] ∨ message.first.payload = [] := by
  simp only [delivered, payload, fragments, List.flatMap_cons]
  cases message.rest with
  | nil => simp
  | cons fragment more =>
    simp only [List.isEmpty_cons, Bool.false_eq_true, if_false, reduceCtorEq, false_or]
    exact List.self_eq_append_left

end WebSocketMessage

theorem extracted_frame (fragment : Fragment) (frameType : WebSocketFrameType) (isFin : Bool)
    (fourBit : frameType.code.toNat < 16) :
    (fragment.frame frameType isFin).extracted =
      ⟨fragment.payload, frameType, (fragment.frame frameType isFin).bytes.length, isFin⟩ := by
  have opcode := opcode_self frameType fourBit
  simp only [WebSocketFrame.extracted, Fragment.frame, opcode, FrameOut.mk.injEq, true_and]
  cases isFin with
  | false => exact decide_eq_false (not_not.mpr (frameHead_unfinished frameType fourBit))
  | true => exact decide_eq_true (frameHead_fin frameType)

section TakeFrame

variable (cacheFrame payload : List UInt8) (size : Nat)

theorem takeFrame_single {opcode : WebSocketFrameType} (starts : opcode ≠ .continuationFrame) :
    takeFrame cacheFrame ⟨payload, opcode, size, true⟩ = (cacheFrame, some payload) := by
  simp [takeFrame, starts]

theorem takeFrame_first {opcode : WebSocketFrameType} (starts : opcode ≠ .continuationFrame) :
    takeFrame cacheFrame ⟨payload, opcode, size, false⟩ = ([], none) := by
  simp [takeFrame, starts]

theorem takeFrame_middle :
    takeFrame cacheFrame ⟨payload, .continuationFrame, size, false⟩ =
      (cacheFrame ++ payload, none) := by
  simp [takeFrame]

theorem takeFrame_last :
    takeFrame cacheFrame ⟨payload, .continuationFrame, size, true⟩ =
      (cacheFrame ++ payload, some (cacheFrame ++ payload)) := by
  by_cases empty : cacheFrame ++ payload = []
  · simp [takeFrame, List.append_eq_nil_iff.mp empty]
  · simp only [takeFrame, Bool.not_true, Bool.false_eq_true, false_or, false_and, if_true, if_false]
    rw [if_pos empty]

end TakeFrame

theorem takeFrames_continuation (rest : List Fragment) (later : List FrameOut)
    (cacheFrame : List UInt8) (nonempty : rest ≠ []) :
    ∃ cached, takeFrames cacheFrame
        ((continuationFrames rest).map WebSocketFrame.extracted ++ later) =
      (cacheFrame ++ rest.flatMap Fragment.payload) :: takeFrames cached later := by
  induction rest generalizing cacheFrame with
  | nil => exact absurd rfl nonempty
  | cons fragment more ih =>
    cases more with
    | nil =>
      refine ⟨cacheFrame ++ fragment.payload, ?_⟩
      simp only [continuationFrames, List.map_cons, List.map_nil, List.cons_append,
        List.nil_append, takeFrames, extracted_frame fragment .continuationFrame true (by decide),
        takeFrame_last, List.flatMap_cons, List.flatMap_nil, List.append_nil]
    | cons next more =>
      obtain ⟨cached, continued⟩ := ih (cacheFrame ++ fragment.payload) (by simp)
      refine ⟨cached, ?_⟩
      rw [List.flatMap_cons, ← List.append_assoc, ← continued]
      simp only [continuationFrames, List.map_cons, List.cons_append, takeFrames,
        extracted_frame fragment .continuationFrame false (by decide), takeFrame_middle]

theorem takeFrames_message (message : WebSocketMessage) (later : List FrameOut)
    (cacheFrame : List UInt8) :
    ∃ cached, takeFrames cacheFrame (message.frames.map WebSocketFrame.extracted ++ later) =
      message.delivered :: takeFrames cached later := by
  simp only [WebSocketMessage.frames, WebSocketMessage.delivered, List.map_cons, List.cons_append,
    takeFrames, extracted_frame message.first message.frameType _ message.fourBit]
  cases message.rest with
  | nil =>
    refine ⟨cacheFrame, ?_⟩
    simp only [List.isEmpty_nil, takeFrame_single _ _ _ message.starts, continuationFrames,
      List.map_nil, List.nil_append, if_true]
  | cons fragment more =>
    obtain ⟨cached, continued⟩ := takeFrames_continuation (fragment :: more) later [] (by simp)
    refine ⟨cached, ?_⟩
    simp only [List.isEmpty_cons, takeFrame_first _ _ _ message.starts, continued,
      List.nil_append, Bool.false_eq_true, if_false]

variable (messages : List WebSocketMessage)

theorem takeFrames_messages (cacheFrame : List UInt8) :
    takeFrames cacheFrame
        ((messages.flatMap WebSocketMessage.frames).map WebSocketFrame.extracted) =
      messages.map WebSocketMessage.delivered := by
  induction messages generalizing cacheFrame with
  | nil => rfl
  | cons message rest ih =>
    rw [List.flatMap_cons, List.map_append]
    obtain ⟨cached, taken⟩ := takeFrames_message message
      ((rest.flatMap WebSocketMessage.frames).map WebSocketFrame.extracted) cacheFrame
    rw [taken, ih cached, List.map_cons]

def ReassembledWhole (buffer : SessionBuffer) (protocol : HttpProtocol)
    (messages : List WebSocketMessage) : Prop :=
  ∃ outcome, disposeWebsocketDataMessage buffer protocol [] = some outcome ∧
    outcome.messageList = messages.map WebSocketMessage.packet ∧ outcome.buffer.content = []

def messageBytes : List UInt8 :=
  (messages.flatMap WebSocketMessage.frames).flatMap WebSocketFrame.bytes

def WebSocketMessage.Short (message : WebSocketMessage) : Prop :=
  ∀ fragment ∈ message.fragments, fragment.payload.length < 2 ^ 31

theorem mem_continuationFrames {rest : List Fragment} {frame : WebSocketFrame}
    (member : frame ∈ continuationFrames rest) :
    ∃ fragment ∈ rest, frame.payload = fragment.payload := by
  induction rest with
  | nil => simp [continuationFrames] at member
  | cons fragment more ih =>
    cases more with
    | nil =>
      simp only [continuationFrames, List.mem_singleton] at member
      exact ⟨fragment, List.mem_cons_self, member ▸ rfl⟩
    | cons next more =>
      simp only [continuationFrames, List.mem_cons] at member
      rcases member with same | later
      · exact ⟨fragment, List.mem_cons_self, same ▸ rfl⟩
      · obtain ⟨other, inside, payload⟩ := ih later
        exact ⟨other, List.mem_cons_of_mem _ inside, payload⟩

theorem exists_continuationFrame {rest : List Fragment} {fragment : Fragment}
    (member : fragment ∈ rest) :
    ∃ frame ∈ continuationFrames rest, frame.payload = fragment.payload := by
  induction rest with
  | nil => simp at member
  | cons first more ih =>
    cases more with
    | nil =>
      simp only [List.mem_singleton] at member
      exact ⟨_, List.mem_singleton_self _, member ▸ rfl⟩
    | cons next more =>
      simp only [continuationFrames]
      rcases List.mem_cons.mp member with same | later
      · exact ⟨_, List.mem_cons_self, same ▸ rfl⟩
      · obtain ⟨frame, inside, payload⟩ := ih later
        exact ⟨frame, List.mem_cons_of_mem _ inside, payload⟩

theorem short_iff_frames :
    (∀ message ∈ messages, message.Short) ↔
      ∀ frame ∈ messages.flatMap WebSocketMessage.frames, frame.payload.length < 2 ^ 31 := by
  constructor
  · intro short frame member
    obtain ⟨message, listed, inside⟩ := List.mem_flatMap.mp member
    simp only [WebSocketMessage.frames, List.mem_cons] at inside
    rcases inside with same | later
    · exact same ▸ short message listed message.first List.mem_cons_self
    · obtain ⟨fragment, among, payload⟩ := mem_continuationFrames later
      exact payload ▸ short message listed fragment (List.mem_cons_of_mem _ among)
  · intro short message listed fragment member
    have frames : ∀ frame ∈ message.frames, frame.payload.length < 2 ^ 31 :=
      fun frame inside => short frame (List.mem_flatMap.mpr ⟨message, listed, inside⟩)
    rcases List.mem_cons.mp member with same | later
    · exact same ▸ frames _ List.mem_cons_self
    · obtain ⟨frame, among, payload⟩ := exists_continuationFrame later
      exact payload ▸ frames frame (List.mem_cons_of_mem _ among)

theorem not_reassembled_oversize {buffer : SessionBuffer} (protocol : HttpProtocol)
    {messages : List WebSocketMessage} (configured : buffer.maxBuffSize < 2 ^ 32)
    (holds : buffer.content = messageBytes messages)
    (long : ¬∀ message ∈ messages, message.Short) : ¬ReassembledWhole buffer protocol messages := by
  rintro ⟨outcome, disposed, -, emptied⟩
  rw [short_iff_frames] at long
  obtain ⟨before, frame, after, split, short, oversize⟩ := exists_first_not long
  rw [messageBytes, split, List.flatMap_append, List.flatMap_cons] at holds
  have sized := frame.payload_length_lt
  have total := congrArg List.length holds
  have bounded := buffer.bounded
  simp only [SessionBuffer.content_length, List.length_append] at total
  have refused := extract_oversize frame.payload frame.frameType frame.isFin frame.mask
    frame.masking (after.flatMap WebSocketFrame.bytes) ⟨[], .errorFrame, 0, false⟩ (by omega)
    (by omega)
  obtain ⟨other, found, remains, -, -⟩ := dispose_frames protocol [] before short holds
    (.inr refused)
  rw [disposed, Option.some.injEq] at found
  rw [← found, emptied] at remains
  have nothing := congrArg List.length remains
  simp only [List.length_nil, List.length_append] at nothing
  omega

theorem map_packet_eq_iff :
    (messages.map WebSocketMessage.delivered).map websocketPacket =
        messages.map WebSocketMessage.packet ↔
      ∀ message ∈ messages, message.delivered = message.payload := by
  rw [List.map_map, List.map_inj_left]
  constructor
  · intro same message listed
    exact congrArg MessagePacket.buffer (same message listed)
  · intro same message listed
    exact congrArg websocketPacket (same message listed)

/-- Messages are reassembled exactly when no first fragment of several has a byte. -/
theorem reassembledWhole_iff_first_empty (buffer : SessionBuffer) (protocol : HttpProtocol)
    (messages : List WebSocketMessage) (configured : buffer.maxBuffSize < 2 ^ 32)
    (holds : buffer.content = messageBytes messages) :
    ReassembledWhole buffer protocol messages ↔
      ∀ message ∈ messages, message.Short ∧
        (message.rest = [] ∨ message.first.payload = []) := by
  by_cases short : ∀ message ∈ messages, message.Short
  · have complete : buffer.content =
        (messages.flatMap WebSocketMessage.frames).flatMap WebSocketFrame.bytes ++ [] := by
      rw [List.append_nil, holds, messageBytes]
    obtain ⟨outcome, disposed, remains, -, emitted⟩ := dispose_frames protocol [] _
      ((short_iff_frames messages).mp short) complete (.inl rfl)
    rw [List.nil_append, takeFrames_messages] at emitted
    have whole : ReassembledWhole buffer protocol messages ↔
        outcome.messageList = messages.map WebSocketMessage.packet := by
      simp only [ReassembledWhole, disposed, Option.some.injEq, exists_eq_left', remains, and_true]
    rw [whole, emitted, map_packet_eq_iff]
    simp only [WebSocketMessage.delivered_eq_payload_iff]
    exact ⟨fun first message listed => ⟨short message listed, first message listed⟩,
      fun both message listed => (both message listed).2⟩
  · refine iff_of_false (not_reassembled_oversize protocol configured holds short) ?_
    intro both
    exact short fun message listed => (both message listed).1

def wholeText : WebSocketMessage where
  frameType := .textFrame
  first := ⟨[72, 105], true, fun index => UInt8.ofNat index⟩
  rest := []
  fourBit := by decide
  starts := by decide

def emptyFirst : WebSocketMessage where
  frameType := .textFrame
  first := ⟨[], true, fun index => UInt8.ofNat index⟩
  rest := [⟨[72, 105], true, fun index => UInt8.ofNat index⟩, ⟨[33], false, fun _ => 0⟩]
  fourBit := by decide
  starts := by decide

theorem reassembledWhole_wholeText :
    ReassembledWhole (bufferHolding (messageBytes [wholeText, emptyFirst]) (by decide))
      .protocalWebsocketData [wholeText, emptyFirst] := by
  refine (reassembledWhole_iff_first_empty _ .protocalWebsocketData _ (by decide)
    (by decide)).mpr ?_
  simp only [List.forall_mem_cons, List.not_mem_nil, false_imp_iff, implies_true, and_true]
  refine ⟨⟨?_, .inl rfl⟩, ?_, .inr rfl⟩
  · simp [WebSocketMessage.Short, WebSocketMessage.fragments, wholeText]
  · simp [WebSocketMessage.Short, WebSocketMessage.fragments, emptyFirst]

def cutText : WebSocketMessage where
  frameType := .textFrame
  first := ⟨[72], true, fun index => UInt8.ofNat index⟩
  rest := [⟨[105], true, fun index => UInt8.ofNat index⟩]
  fourBit := by decide
  starts := by decide

theorem first_fragment_lost :
    cutText.payload = [72, 105] ∧
    (disposeWebsocketDataMessage (bufferHolding (messageBytes [cutText]) (by decide))
      .protocalWebsocketData []).map (·.messageList) = some [websocketPacket [105]] ∧
    ¬ReassembledWhole (bufferHolding (messageBytes [cutText]) (by decide))
      .protocalWebsocketData [cutText] := by
  have emitted : (disposeWebsocketDataMessage (bufferHolding (messageBytes [cutText]) (by decide))
      .protocalWebsocketData []).map (·.messageList) = some [websocketPacket [105]] := by decide
  refine ⟨by decide, emitted, ?_⟩
  rintro ⟨outcome, disposed, whole, -⟩
  rw [disposed, Option.map_some, whole] at emitted
  revert emitted
  decide

end PssAsio
