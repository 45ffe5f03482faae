import PssAsio.WebSocketMessages

/-!
A WebSocket stream of unfragmented frames below `2 ^ 31` bytes, read in arbitrary pieces.
-/

namespace PssAsio

open WebSocketFormat TransitionRuns

def WebSocketFrame.Unfragmented (frame : WebSocketFrame) : Prop :=
  frame.isFin = true ∧ frame.frameType.opcode ≠ .continuationFrame

def WebSocketFrame.packet (frame : WebSocketFrame) : MessagePacket :=
  websocketPacket frame.payload

theorem takeFrame_unfragmented {frame : WebSocketFrame} (cacheFrame : List UInt8)
    (unfragmented : frame.Unfragmented) :
    takeFrame cacheFrame frame.extracted = (cacheFrame, some frame.payload) := by
  obtain ⟨fin, opcode⟩ := unfragmented
  have finished : frame.extracted.outfin = true := by
    rw [WebSocketFrame.extracted, fin]
    simpa using frameHead_fin frame.frameType
  have notContinued : frame.extracted.outopcode ≠ .continuationFrame := opcode
  simp only [takeFrame, finished, notContinued]
  rfl

theorem takeFrames_unfragmented {frames : List WebSocketFrame} (cacheFrame : List UInt8)
    (unfragmented : ∀ frame ∈ frames, frame.Unfragmented) :
    takeFrames cacheFrame (frames.map WebSocketFrame.extracted) =
      frames.map WebSocketFrame.payload := by
  induction frames with
  | nil => rfl
  | cons frame rest ih =>
    have first := takeFrame_unfragmented cacheFrame (unfragmented frame List.mem_cons_self)
    have later := ih (fun other member => unfragmented other (List.mem_cons_of_mem _ member))
    simp only [List.map_cons, takeFrames, first, later]

def readFrames (state : WebsocketOutcome) (data : List UInt8) : Option WebsocketOutcome :=
  (state.buffer.receive data).bind fun filled =>
    (disposeWebsocketDataMessage filled state.protocol []).map fun outcome =>
      { outcome with messageList := state.messageList ++ outcome.messageList }

variable (size : UInt64)

def websocketOpened (fresh : Nat → UInt8) : WebsocketOutcome :=
  ⟨SessionBuffer.init size fresh, .protocalWebsocketData, []⟩

def ReadsFitBuffer (frames : List WebSocketFrame) (reads : List (List UInt8)) : Prop :=
  ∀ done data rest, reads = done ++ data :: rest →
    (StreamCuts.leftover WebSocketFrame.bytes frames done.flatten.length).length + data.length ≤
      size.toNat

def ExtractedExactly (fresh : Nat → UInt8) (frames : List WebSocketFrame)
    (reads : List (List UInt8)) : Prop :=
  (∀ done rest, reads = done ++ rest →
    ∃ state, run readFrames (websocketOpened size fresh) done = some state ∧
      state.messageList = (StreamCuts.completed WebSocketFrame.bytes frames done.flatten.length).map
        WebSocketFrame.packet ∧
      state.buffer.content = StreamCuts.leftover WebSocketFrame.bytes frames done.flatten.length) ∧
  (run readFrames (websocketOpened size fresh) reads).map WebsocketOutcome.messageList =
    some (frames.map WebSocketFrame.packet)

structure FramesRead (frames : List WebSocketFrame) (count : Nat) (state : WebsocketOutcome) :
    Prop where
  emitted : state.messageList = (StreamCuts.completed WebSocketFrame.bytes frames count).map
    WebSocketFrame.packet
  held : state.buffer.content = StreamCuts.leftover WebSocketFrame.bytes frames count
  sized : state.buffer.maxBuffSize = size.toNat

theorem leftover_stuck {frames : List WebSocketFrame} (count : Nat)
    (short : ∀ frame ∈ frames, frame.payload.length < 2 ^ 31) :
    StreamCuts.leftover WebSocketFrame.bytes frames count = [] ∨
      (wsFrameExtractBuffer (StreamCuts.leftover WebSocketFrame.bytes frames count)
        ⟨[], .errorFrame, 0, false⟩).1 = false := by
  rcases StreamCuts.leftover_cases WebSocketFrame.bytes frames count with
    nothing | ⟨frame, member, arrived, missing, part⟩
  · exact .inl nothing
  · rw [part]
    exact .inr (extract_incomplete _ _ _ _ _ _ (short frame member) missing)

theorem readFrames_exact {size : UInt64} {frames : List WebSocketFrame}
    (unfragmented : ∀ frame ∈ frames, frame.Unfragmented)
    (short : ∀ frame ∈ frames, frame.payload.length < 2 ^ 31) (count : Nat)
    (state : WebsocketOutcome) (data : List UInt8) (before : FramesRead size frames count state)
    (arriving : (frames.flatMap WebSocketFrame.bytes).take (count + data.length) =
      (frames.flatMap WebSocketFrame.bytes).take count ++ data)
    (fits : (StreamCuts.leftover WebSocketFrame.bytes frames count).length + data.length ≤
      size.toNat) :
    ∃ next, readFrames state data = some next ∧
      FramesRead size frames (count + data.length) next := by
  rw [← before.held, SessionBuffer.content_length, ← before.sized] at fits
  obtain ⟨filled, received, sameSize, content⟩ := state.buffer.receive_eq_some data fits
  obtain ⟨fresh, grown, arrived⟩ := StreamCuts.leftover_append _ frames count data arriving
  have inside : ∀ frame ∈ fresh, frame ∈ frames := by
    intro frame member
    apply StreamCuts.completed_subset WebSocketFrame.bytes frames (count + data.length)
    rw [grown]
    exact List.mem_append_right _ member
  have holds : filled.content = fresh.flatMap WebSocketFrame.bytes ++
      StreamCuts.leftover WebSocketFrame.bytes frames (count + data.length) := by
    rw [content, before.held, arrived]
  obtain ⟨outcome, disposed, remains, kept, emitted⟩ := dispose_frames state.protocol [] fresh
    (fun frame member => short frame (inside frame member)) holds (leftover_stuck _ short)
  refine ⟨{ outcome with messageList := state.messageList ++ outcome.messageList }, ?_, ?_⟩
  · simp [readFrames, received, disposed]
  · rw [takeFrames_unfragmented [] (fun frame member => unfragmented frame (inside frame member))]
      at emitted
    refine ⟨?_, remains, kept.trans (sameSize.trans before.sized)⟩
    simp only [before.emitted, emitted, grown, List.nil_append, List.map_append, List.map_map]
    rfl

/-- However the stream is cut, each frame is emitted once, in order, as soon as it is complete. -/
theorem extractedExactly_of_short (size : UInt64) (fresh : Nat → UInt8)
    (frames : List WebSocketFrame) (reads : List (List UInt8))
    (unfragmented : ∀ frame ∈ frames, frame.Unfragmented)
    (short : ∀ frame ∈ frames, frame.payload.length < 2 ^ 31)
    (split : reads.flatten = frames.flatMap WebSocketFrame.bytes)
    (fits : ReadsFitBuffer size frames reads) : ExtractedExactly size fresh frames reads := by
  have filled : ∀ frame ∈ frames, WebSocketFrame.bytes frame ≠ [] := by
    intro frame _ empty
    have sized := frame.two_le_bytes_length
    simp [empty] at sized
  have nothing : StreamCuts.leftover WebSocketFrame.bytes frames 0 = [] := by
    apply List.length_eq_zero_iff.mp
    exact Nat.le_zero.mp (StreamCuts.leftover_length_le WebSocketFrame.bytes frames 0)
  have initial : FramesRead size frames 0 (websocketOpened size fresh) := by
    refine ⟨?_, ?_, rfl⟩
    · rw [StreamCuts.completed_zero _ frames filled]
      rfl
    · rw [nothing]
      exact SessionBuffer.init_content size fresh
  have every := StreamCuts.run_reads (readFrames_exact unfragmented short) initial split fits
  refine ⟨?_, ?_⟩
  · intro done rest prefixed
    obtain ⟨state, ran, after⟩ := every done rest prefixed
    exact ⟨state, ran, after.emitted, after.held⟩
  · obtain ⟨state, ran, after⟩ := every reads [] (List.append_nil reads).symm
    rw [ran, Option.map_some, after.emitted, split, StreamCuts.completed_all]

def greeting : WebSocketFrame := ⟨[72, 105], .textFrame, true, true, fun index => UInt8.ofNat index⟩

theorem extractedExactly_greeting_cut :
    greeting.bytes.length = 8 ∧
    ExtractedExactly 64 (fun _ => 0) [greeting, greeting]
      [greeting.bytes.take 1, greeting.bytes.drop 1 ++ greeting.bytes.take 5,
        greeting.bytes.drop 5] := by
  refine ⟨by decide, ?_⟩
  have unfragmented : ∀ frame ∈ [greeting, greeting], frame.Unfragmented := by
    simp only [List.mem_cons, List.not_mem_nil, or_false, or_self, forall_eq]
    exact ⟨rfl, by decide⟩
  have short : ∀ frame ∈ [greeting, greeting], frame.payload.length < 2 ^ 31 := by
    simp only [List.mem_cons, List.not_mem_nil, or_false, or_self, forall_eq]
    decide
  exact extractedExactly_of_short 64 (fun _ => 0) [greeting, greeting] _ unfragmented short
    (by decide) (StreamCuts.fits_of_total WebSocketFrame.bytes (by decide) (by decide))

theorem not_extractedExactly_of_oversize {size : UInt64} (fresh : Nat → UInt8)
    {frame : WebSocketFrame} (long : 2 ^ 31 ≤ frame.payload.length)
    (encodable : frame.payload.length < 2 ^ 32) (fits : frame.bytes.length ≤ size.toNat) :
    ¬ExtractedExactly size fresh [frame] [frame.bytes] := by
  rintro ⟨-, all⟩
  have room : (SessionBuffer.init size fresh).writeSize + frame.bytes.length ≤
      (SessionBuffer.init size fresh).maxBuffSize := by
    rw [← SessionBuffer.content_length, SessionBuffer.init_content, List.length_nil, Nat.zero_add]
    exact fits
  obtain ⟨filled, received, -, content⟩ :=
    (SessionBuffer.init size fresh).receive_eq_some frame.bytes room
  have refused := extract_oversize frame.payload frame.frameType frame.isFin frame.mask
    frame.masking [] ⟨[], .errorFrame, 0, false⟩ long encodable
  rw [List.append_nil] at refused
  have holds : filled.content = ([] : List WebSocketFrame).flatMap WebSocketFrame.bytes ++
      frame.bytes := by
    rw [content, SessionBuffer.init_content]
    rfl
  obtain ⟨outcome, disposed, -, -, emitted⟩ := dispose_frames .protocalWebsocketData [] []
    (by simp) holds (.inr refused)
  simp only [run, readFrames, websocketOpened, received, disposed, Option.bind_some,
    Option.map_some, emitted] at all
  simp [takeFrames] at all

def hugeFrame : WebSocketFrame :=
  ⟨List.replicate (2 ^ 31) 0, .textFrame, true, false, fun _ => 0⟩

theorem hugeFrame_payload_length : hugeFrame.payload.length = 2 ^ 31 := List.length_replicate

theorem hugeFrame_bytes_length : hugeFrame.bytes.length = 2 ^ 31 + 10 := by
  rw [WebSocketFrame.bytes, wsFrameBuild_length, hugeFrame_payload_length,
    lengthBytes_long (by omega)]
  rfl

theorem huge_frame_never_extracted :
    hugeFrame.Unfragmented ∧
      [hugeFrame.bytes].flatten = [hugeFrame].flatMap WebSocketFrame.bytes ∧
      ReadsFitBuffer 2147483658 [hugeFrame] [hugeFrame.bytes] ∧
      ¬ExtractedExactly 2147483658 (fun _ => 0) [hugeFrame] [hugeFrame.bytes] := by
  have sized := hugeFrame_payload_length
  have total : hugeFrame.bytes.length ≤ (2147483658 : UInt64).toNat :=
    Nat.le_of_eq hugeFrame_bytes_length
  have split : [hugeFrame.bytes].flatten = [hugeFrame].flatMap WebSocketFrame.bytes := by
    rw [List.flatten_singleton, List.flatMap_singleton]
  refine ⟨⟨rfl, by decide⟩, split, ?_, ?_⟩
  · apply StreamCuts.fits_of_total WebSocketFrame.bytes split
    rw [List.flatMap_singleton]
    exact total
  · exact not_extractedExactly_of_oversize (fun _ => 0) (by omega) (by omega) total

end PssAsio
