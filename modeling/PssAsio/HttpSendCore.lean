import PssAsio.HttpFormatCore

/-!
The send side of `PacketParse_Http`.
-/

namespace PssAsio

variable (data : List UInt8)

def getResponseText : List UInt8 :=
  asciiBytes "HTTP/1.1 200 OK\r\nContent-Type: application/json\r\nAccess-Control-Allow-Origin:*\r\nContent-Length:" ++
    (asciiBytes (toString data.length) ++ (asciiBytes "\r\n\r\n" ++ data))

def getResponseWebsocketText : List UInt8 :=
  asciiBytes "HTTP/1.1 101 Switching Protocols\r\nUpgrade: websocket\r\nConnection: Upgrade\r\nSec-WebSocket-Accept: " ++
    (data ++ asciiBytes "\r\n\r\n")

def doWebsocketSendFrame (sendData : List UInt8) : List UInt8 :=
  WebSocketFormat.wsFrameBuild sendData .textFrame true false fun _ => 0

def PacketParseHttp.parsePacketFormatSendBuffer (mapHttpParse : MapHttpParse) (connectId : Nat)
    (message : MessagePacket) : Option (MessagePacket × MapHttpParse) :=
  match mapHttpParse.lookup connectId with
  | none => none
  | some info =>
      match info.protocol with
      | .protocalHttpPost =>
          some (⟨message.commandId, getResponseText message.buffer⟩, mapHttpParse)
      | .protocalWebsocketSharkHand =>
          some (⟨message.commandId, getResponseWebsocketText message.buffer⟩,
            mapHttpParse.insert connectId { info with protocol := .protocalWebsocketData })
      | .protocalWebsocketData =>
          some (⟨message.commandId, doWebsocketSendFrame message.buffer⟩, mapHttpParse)

theorem getResponseWebsocketText_inj {first second : List UInt8}
    (same : getResponseWebsocketText first = getResponseWebsocketText second) : first = second :=
  List.append_cancel_right (List.append_cancel_left same)

/-- The status lines differ in their tenth byte. -/
theorem getResponseText_ne_websocket (text : List UInt8) :
    getResponseText data ≠ getResponseWebsocketText text := by
  intro same
  have statuses := congrArg (fun bytes => bytes[9]?) same
  have first : (getResponseText data)[9]? = some 50 := rfl
  have second : (getResponseWebsocketText text)[9]? = some 49 := rfl
  rw [first, second] at statuses
  cases statuses

/-- A text frame does not start with a letter. -/
theorem doWebsocketSendFrame_ne_websocket (text : List UInt8) :
    doWebsocketSendFrame data ≠ getResponseWebsocketText text := by
  intro same
  have heads := congrArg List.head? same
  have first : (doWebsocketSendFrame data).head? = some 0x81 := rfl
  have second : (getResponseWebsocketText text).head? = some 72 := rfl
  rw [first, second] at heads
  cases heads

end PssAsio
