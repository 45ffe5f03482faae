import PssAsio.PacketParseCore
import PssAsio.WebSocketFormatCore

/-!
`dispose_websocket_data_message`; `none` is a loop that has not ended in the rounds.
-/

namespace PssAsio

open WebSocketFormat

inductive HttpProtocol where
  | protocalHttpPost
  | protocalWebsocketSharkHand
  | protocalWebsocketData
  deriving DecidableEq, Repr

def httpPostCommand : UInt16 := 0x1001

def httpWebsocketSharkHand : UInt16 := 0x1002

def websocketData : UInt16 := 0x1003

def takeFrame (cacheFrame : List UInt8) (frame : FrameOut) : List UInt8 × Option (List UInt8) :=
  let continues := frame.outopcode = .continuationFrame
  let appended := if !frame.outfin ∨ continues then cacheFrame ++ frame.payload else cacheFrame
  let parseData := if !frame.outfin ∨ continues then [] else frame.payload
  let cached := if !frame.outfin ∧ ¬continues then [] else appended
  if !frame.outfin then (cached, none)
  else if continues then (cached, some (if cached ≠ [] then cached else parseData))
  else (cached, some parseData)

structure WebsocketOutcome where
  buffer : SessionBuffer
  protocol : HttpProtocol
  messageList : List MessagePacket

def websocketLoop : (rounds : Nat) → (leftLen : Nat) → (cacheFrame : List UInt8) →
    WebsocketOutcome → Option WebsocketOutcome
  | 0, _, _, _ => none
  | rounds + 1, leftLen, cacheFrame, state =>
      if leftLen = 0 then some state
      else
        match wsFrameExtractBuffer (state.buffer.buffer.take leftLen)
            ⟨[], .errorFrame, 0, false⟩ with
        | (false, _) => some state
        | (true, frame) =>
            let moved := { state with buffer := state.buffer.move frame.frameSize }
            match takeFrame cacheFrame frame with
            | (cached, none) => websocketLoop rounds (leftLen - frame.frameSize) cached moved
            | (cached, some parseData) =>
                websocketLoop rounds (leftLen - frame.frameSize) cached
                  { moved with
                    protocol := .protocalWebsocketData
                    messageList := moved.messageList ++ [⟨websocketData, parseData⟩] }

def disposeWebsocketDataMessage (buffer : SessionBuffer) (protocol : HttpProtocol)
    (messageList : List MessagePacket) : Option WebsocketOutcome :=
  websocketLoop (buffer.getWriteSize + 1) buffer.getWriteSize [] ⟨buffer, protocol, messageList⟩

end PssAsio
