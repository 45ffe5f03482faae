import PssAsio.StreamCuts
import PssAsio.WebSocketFormatRoundTrip
import PssAsio.WebSocketMessageCore

/-!
One call of `dispose_websocket_data_message` on whole frames and a remainder.
-/

namespace PssAsio

open WebSocketFormat TransitionRuns

structure WebSocketFrame where
  payload : List UInt8
  frameType : WebSocketFrameType
  isFin : Bool
  masking : Bool
  mask : MaskKey

namespace WebSocketFrame

variable (frame : WebSocketFrame)

def bytes : List UInt8 :=
  wsFrameBuild frame.payload frame.frameType frame.isFin frame.masking frame.mask

def extracted : FrameOut where
  payload := frame.payload
  outopcode := frame.frameType.opcode
  frameSize := frame.bytes.length
  outfin := frameHead frame.frameType frame.isFin &&& 0x80 ≠ 0

theorem two_le_bytes_length : 2 ≤ frame.bytes.length := by
  obtain ⟨first, more, bytes, -⟩ := lengthBytes_eq_cons frame.payload.length
  rw [WebSocketFrame.bytes, wsFrameBuild_length, bytes, List.length_cons]
  omega

theorem payload_length_lt : frame.payload.length < frame.bytes.length := by
  rw [WebSocketFrame.bytes, wsFrameBuild_length]
  omega

theorem extract_bytes (rest : List UInt8) (short : frame.payload.length < 2 ^ 31) :
    wsFrameExtractBuffer (frame.bytes ++ rest) ⟨[], .errorFrame, 0, false⟩ =
      (true, frame.extracted) := by
  rw [WebSocketFrame.bytes, extract_wsFrameBuild _ _ _ _ _ _ _ short]
  simp only [FrameOut.of, List.nil_append, frameHead_opcode]
  rfl

end WebSocketFrame

def takeFrames (cacheFrame : List UInt8) : List FrameOut → List (List UInt8)
  | [] => []
  | frame :: rest =>
      match takeFrame cacheFrame frame with
      | (cached, none) => takeFrames cached rest
      | (cached, some parseData) => parseData :: takeFrames cached rest

def websocketPacket (text : List UInt8) : MessagePacket := ⟨websocketData, text⟩

theorem length_le_frames (frames : List WebSocketFrame) :
    frames.length ≤ (frames.flatMap WebSocketFrame.bytes).length := by
  induction frames with
  | nil => simp
  | cons frame rest ih =>
    have sized := frame.two_le_bytes_length
    simp only [List.length_cons, List.flatMap_cons, List.length_append]
    omega

section Loop

variable {state : WebsocketOutcome} {rest : List UInt8}

theorem websocketLoop_stuck (rounds : Nat) (cacheFrame : List UInt8)
    (stuck : state.buffer.content = [] ∨
      (wsFrameExtractBuffer state.buffer.content ⟨[], .errorFrame, 0, false⟩).1 = false) :
    websocketLoop (rounds + 1) state.buffer.writeSize cacheFrame state = some state := by
  simp only [websocketLoop]
  split
  · rfl
  · rename_i held
    rcases stuck with empty | refused
    · rw [← state.buffer.content_length, empty] at held
      exact absurd rfl held
    · rw [SessionBuffer.content] at refused
      split
      · rfl
      · rename_i frame taken
        rw [taken] at refused
        cases refused

theorem websocketLoop_frame (rounds : Nat) (cacheFrame : List UInt8) (frame : WebSocketFrame)
    (short : frame.payload.length < 2 ^ 31) (holds : state.buffer.content = frame.bytes ++ rest) :
    ∃ next : WebsocketOutcome,
      websocketLoop (rounds + 1) state.buffer.writeSize cacheFrame state =
        websocketLoop rounds next.buffer.writeSize (takeFrame cacheFrame frame.extracted).1 next ∧
      next.buffer.content = rest ∧
      next.buffer.maxBuffSize = state.buffer.maxBuffSize ∧
      next.messageList = state.messageList ++
        ((takeFrame cacheFrame frame.extracted).2.toList.map websocketPacket) := by
  have sized := frame.two_le_bytes_length
  have total := congrArg List.length holds
  rw [SessionBuffer.content_length, List.length_append] at total
  have moved : (state.buffer.move frame.bytes.length).content = rest := by
    rw [SessionBuffer.move_content, holds, List.drop_left]
  have remaining : state.buffer.writeSize - frame.bytes.length =
      (state.buffer.move frame.bytes.length).writeSize := by
    have length := congrArg List.length moved
    rw [SessionBuffer.content_length] at length
    omega
  have taken : wsFrameExtractBuffer (state.buffer.buffer.take state.buffer.writeSize)
      ⟨[], .errorFrame, 0, false⟩ = (true, frame.extracted) := by
    have read := frame.extract_bytes rest short
    rwa [← holds] at read
  have size : frame.extracted.frameSize = frame.bytes.length := rfl
  simp only [websocketLoop]
  rw [if_neg (by omega), taken]
  simp only [size, remaining]
  rcases takeFrame cacheFrame frame.extracted with ⟨cached, completes⟩
  cases completes with
  | none =>
    refine ⟨{ state with buffer := state.buffer.move frame.bytes.length }, rfl, moved,
      SessionBuffer.move_maxBuffSize _ _, ?_⟩
    simp
  | some parseData =>
    refine ⟨⟨state.buffer.move frame.bytes.length, .protocalWebsocketData,
      state.messageList ++ [websocketPacket parseData]⟩, rfl, moved,
      SessionBuffer.move_maxBuffSize _ _, ?_⟩
    simp

theorem websocketLoop_frames (frames : List WebSocketFrame) (rounds : Nat)
    (cacheFrame : List UInt8) (short : ∀ frame ∈ frames, frame.payload.length < 2 ^ 31)
    (holds : state.buffer.content = frames.flatMap WebSocketFrame.bytes ++ rest) :
    ∃ (next : WebsocketOutcome) (cached : List UInt8),
      websocketLoop (frames.length + rounds) state.buffer.writeSize cacheFrame state =
        websocketLoop rounds next.buffer.writeSize cached next ∧
      next.buffer.content = rest ∧
      next.buffer.maxBuffSize = state.buffer.maxBuffSize ∧
      next.messageList = state.messageList ++
        (takeFrames cacheFrame (frames.map WebSocketFrame.extracted)).map websocketPacket := by
  induction frames generalizing state cacheFrame with
  | nil => exact ⟨state, cacheFrame, by simp, holds, rfl, (List.append_nil _).symm⟩
  | cons frame frames ih =>
    rw [List.flatMap_cons, List.append_assoc] at holds
    obtain ⟨middle, looped, held, sameSize, grown⟩ := websocketLoop_frame
      (frames.length + rounds) cacheFrame frame (short frame List.mem_cons_self) holds
    obtain ⟨next, cached, continued, remains, kept, emitted⟩ := ih
      (takeFrame cacheFrame frame.extracted).1
      (fun other member => short other (List.mem_cons_of_mem _ member)) held
    refine ⟨next, cached, ?_, remains, kept.trans sameSize, ?_⟩
    · rw [← continued, ← looped, List.length_cons, Nat.add_right_comm]
    · rw [emitted, grown, List.map_cons, takeFrames]
      rcases takeFrame cacheFrame frame.extracted with ⟨after, completes⟩
      cases completes with
      | none => simp
      | some parseData => simp

end Loop

theorem dispose_frames {buffer : SessionBuffer} {rest : List UInt8} (protocol : HttpProtocol)
    (messageList : List MessagePacket) (frames : List WebSocketFrame)
    (short : ∀ frame ∈ frames, frame.payload.length < 2 ^ 31)
    (holds : buffer.content = frames.flatMap WebSocketFrame.bytes ++ rest)
    (stuck : rest = [] ∨ (wsFrameExtractBuffer rest ⟨[], .errorFrame, 0, false⟩).1 = false) :
    ∃ outcome, disposeWebsocketDataMessage buffer protocol messageList = some outcome ∧
      outcome.buffer.content = rest ∧
      outcome.buffer.maxBuffSize = buffer.maxBuffSize ∧
      outcome.messageList = messageList ++
        (takeFrames [] (frames.map WebSocketFrame.extracted)).map websocketPacket := by
  have counted := length_le_frames frames
  have total := congrArg List.length holds
  rw [SessionBuffer.content_length, List.length_append] at total
  have roundsEq : buffer.writeSize + 1 =
      frames.length + (buffer.writeSize - frames.length + 1) := by omega
  obtain ⟨next, cached, looped, remains, sameSize, emitted⟩ := websocketLoop_frames frames
    (buffer.writeSize - frames.length + 1) [] short
    (show (⟨buffer, protocol, messageList⟩ : WebsocketOutcome).buffer.content = _ from holds)
  refine ⟨next, ?_, remains, sameSize, emitted⟩
  rw [disposeWebsocketDataMessage, SessionBuffer.getWriteSize, roundsEq, looped]
  exact websocketLoop_stuck _ cached (by rw [remains]; exact stuck)

end PssAsio
