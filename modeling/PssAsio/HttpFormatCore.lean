import Mathlib.Data.List.AList
import PssAsio.WebSocketMessageCore

/-!
`CHttpFormat` and the receive side of `PacketParse_Http`. The vendored parser is `execute`.
-/

namespace PssAsio

def asciiBytes (text : String) :
    List UInt8 := text.toList.map fun letter => UInt8.ofNat letter.toNat

variable (byte : UInt8)

def tolower : UInt8 := if 65 ≤ byte ∧ byte ≤ 90 then byte + 32 else byte

def isdigit : Bool := 48 ≤ byte ∧ byte ≤ 57

def isspace : Bool := byte = 32 ∨ (9 ≤ byte ∧ byte ≤ 13)

def digitsValue (text : List UInt8) : Nat :=
  (text.takeWhile isdigit).foldl (fun value byte => 10 * value + (byte.toNat - 48)) 0

/-- `atoi`, for numbers that fit an `int`; it is undefined for others. -/
def atoi (text : List UInt8) : Int :=
  match text.dropWhile isspace with
  | 45 :: digits => -digitsValue digits
  | 43 :: digits => digitsValue digits
  | digits => digitsValue digits

inductive HttpCallback where
  | sHeadField (data : List UInt8)
  | sHeadValue (data : List UInt8)
  | sBodyHandle (data : List UInt8)
  deriving DecidableEq, Repr

structure HttpParsed where
  callbacks : List HttpCallback
  nparsed : Nat
  upgrade : Bool
  deriving DecidableEq, Repr

structure HttpTextBuffer where
  httpRequestText : List UInt8 := []
  httpPostText : List UInt8 := []
  isCompleted : Bool := false
  isPostLength : Bool := false
  contentLength : Int := 0
  isUpgrade : Bool := false
  upgrade : List UInt8 := []
  isWebsocketKey : Bool := false
  websocketKey : List UInt8 := []
  deriving DecidableEq, Repr

namespace HttpTextBuffer

variable (buffer : HttpTextBuffer)

def clear : HttpTextBuffer :=
  { buffer with
    isCompleted := false
    httpRequestText := []
    httpPostText := []
    isPostLength := false
    contentLength := 0
    isUpgrade := false
    isWebsocketKey := false }

variable (data : List UInt8)

def sHeadField : HttpTextBuffer :=
  let httpData := data.map tolower
  { buffer with
    isPostLength := buffer.isPostLength || httpData = asciiBytes "content-length"
    isUpgrade := buffer.isUpgrade || httpData = asciiBytes "upgrade"
    isWebsocketKey := buffer.isWebsocketKey || httpData = asciiBytes "sec-websocket-key" }

def sHeadValue : HttpTextBuffer :=
  { buffer with
    contentLength := if buffer.isPostLength then atoi data else buffer.contentLength
    isPostLength := false
    upgrade := if buffer.isUpgrade then (buffer.upgrade ++ data).map tolower else buffer.upgrade
    isUpgrade := false
    websocketKey := if buffer.isWebsocketKey then buffer.websocketKey ++ data
      else buffer.websocketKey
    isWebsocketKey := false }

def sBodyHandle : HttpTextBuffer :=
  { buffer with httpPostText := buffer.httpPostText ++ data }

def callback : HttpCallback → HttpTextBuffer
  | .sHeadField data => buffer.sHeadField data
  | .sHeadValue data => buffer.sHeadValue data
  | .sBodyHandle data => buffer.sBodyHandle data

def isWebsocket : Bool := buffer.upgrade = asciiBytes "websocket"

def intOfSize (length : Nat) : Int := (BitVec.ofNat 32 length).toInt

def started : HttpTextBuffer :=
  if buffer.isCompleted then buffer.clear else buffer

def joined (httpText : List UInt8) : HttpTextBuffer :=
  { buffer.started with httpRequestText := buffer.started.httpRequestText ++ httpText }

def decided (parsed : HttpParsed) (filled : HttpTextBuffer) : HttpTextBuffer × Int :=
  if parsed.upgrade then (filled, 0)
  else if parsed.nparsed ≠ filled.httpRequestText.length then (filled, -1)
  else if filled.isWebsocket then (filled, 0)
  else if 0 < filled.contentLength ∧
      intOfSize filled.httpPostText.length < filled.contentLength then
    (filled, 1)
  else ({ filled with isCompleted := true }, 0)

def tryParse (execute : List UInt8 → HttpParsed) (buffer : HttpTextBuffer)
    (httpText : List UInt8) : HttpTextBuffer × Int :=
  let text := buffer.joined httpText
  let parsed := execute text.httpRequestText
  decided parsed (parsed.callbacks.foldl callback text)

end HttpTextBuffer

structure ProtocalInfo where
  protocol : HttpProtocol := .protocalHttpPost
  httpFormat : HttpTextBuffer := {}
  deriving DecidableEq, Repr

abbrev MapHttpParse := AList fun _ : Nat => ProtocalInfo

namespace PacketParseHttp

structure Outcome where
  result : Bool
  mapHttpParse : MapHttpParse
  buffer : SessionBuffer
  messageList : List MessagePacket

variable (mapHttpParse : MapHttpParse)

def connect (connectId : Nat) : MapHttpParse :=
  match mapHttpParse.lookup connectId with
  | some _ => mapHttpParse
  | none => mapHttpParse.insert connectId {}

def disconnect (connectId : Nat) : MapHttpParse :=
  mapHttpParse.erase connectId

variable (execute : List UInt8 → HttpParsed) (wsHandshake : List UInt8 → List UInt8)

def disposeHttpMessage (httpRequestText : List UInt8) (info : ProtocalInfo)
    (messageList : List MessagePacket) : Bool × ProtocalInfo × List MessagePacket :=
  let (format, ret) := info.httpFormat.tryParse execute httpRequestText
  if ret = 0 then
    if format.isWebsocket = false then
      (true, ⟨.protocalHttpPost, format⟩,
        messageList ++ [⟨httpPostCommand, format.httpPostText⟩])
    else
      (true, ⟨.protocalWebsocketSharkHand, format⟩,
        messageList ++ [⟨httpWebsocketSharkHand, wsHandshake format.websocketKey⟩])
  else if ret = -1 then (false, { info with httpFormat := format }, messageList)
  else (true, { info with httpFormat := format }, messageList)

/-- One call with the plug-in's table of connections; `none` is a frame loop that does not end. -/
def parsePacketFromRecvBuffer (mapHttpParse : MapHttpParse) (connectId : Nat)
    (buffer : SessionBuffer) (messageList : List MessagePacket) : Option Outcome :=
  match mapHttpParse.lookup connectId with
  | none => some ⟨true, mapHttpParse, buffer, messageList⟩
  | some info =>
      match info.protocol with
      | .protocalHttpPost =>
          let (result, disposed, messages) :=
            disposeHttpMessage execute wsHandshake buffer.content info messageList
          some ⟨result, mapHttpParse.insert connectId disposed, buffer.move buffer.getWriteSize,
            messages⟩
      | .protocalWebsocketData =>
          (disposeWebsocketDataMessage buffer info.protocol messageList).map fun outcome =>
            ⟨true, mapHttpParse.insert connectId { info with protocol := outcome.protocol },
              outcome.buffer, outcome.messageList⟩
      | .protocalWebsocketSharkHand => some ⟨true, mapHttpParse, buffer, messageList⟩

end PacketParseHttp

end PssAsio
