import PssAsio.HttpFormatCore

/-!
The states of `http_parser_execute` that `POST` requests with a length go through. Without a
`Connection: upgrade` header they leave its `upgrade` flag unset.
-/

namespace PssAsio

inductive HttpScanState where
  | sReqMethod (left : List UInt8)
  | sReqLine
  | sHeaderFieldStart
  | sHeaderField (mark : List UInt8)
  | sHeaderValueDiscardWs
  | sHeaderValueDiscardWsAlmostDone
  | sHeaderValueDiscardLws
  | sHeaderValue (mark : List UInt8)
  | sHeaderAlmostDone
  | sHeadersAlmostDone
  | sBodyIdentity (mark : List UInt8)
  deriving DecidableEq, Repr

structure HttpScan where
  state : HttpScanState := .sReqMethod (asciiBytes "POST ")
  isContentLength : Bool := false
  contentLength : Nat := 0
  callbacks : List HttpCallback := []
  deriving DecidableEq, Repr

namespace HttpScan

variable (scan : HttpScan)

def enter (state : HttpScanState) : HttpScan := { scan with state }

def report (callback : HttpCallback) : HttpScan :=
  { scan with callbacks := scan.callbacks ++ [callback] }

def newMessage : HttpScan := { callbacks := scan.callbacks }

def startField (byte : UInt8) : HttpScan :=
  scan.enter (if byte = 13 then .sHeadersAlmostDone else .sHeaderField [byte])

def readByte (byte : UInt8) : Option HttpScan :=
  match scan.state with
  | .sReqMethod [] => some (scan.enter .sReqLine)
  | .sReqMethod (expected :: left) =>
      if byte = expected then some (scan.enter (.sReqMethod left)) else none
  | .sReqLine => some (if byte = 10 then scan.enter .sHeaderFieldStart else scan)
  | .sHeaderFieldStart => some (scan.startField byte)
  | .sHeaderField mark =>
      if byte = 58 then
        some { (scan.report (.sHeadField mark)).enter .sHeaderValueDiscardWs with
          isContentLength := mark.map tolower = asciiBytes "content-length" }
      else some (scan.enter (.sHeaderField (mark ++ [byte])))
  | .sHeaderValueDiscardWs =>
      if byte = 32 ∨ byte = 9 then some scan
      else if byte = 13 then some (scan.enter .sHeaderValueDiscardWsAlmostDone)
      else some (scan.enter (.sHeaderValue [byte]))
  | .sHeaderValueDiscardWsAlmostDone =>
      if byte = 10 then some (scan.enter .sHeaderValueDiscardLws) else none
  | .sHeaderValueDiscardLws =>
      if byte = 32 ∨ byte = 9 then some (scan.enter .sHeaderValueDiscardWs)
      else if scan.isContentLength then none
      else some ((scan.report (.sHeadValue [])).startField byte)
  | .sHeaderValue mark =>
      if byte = 13 then
        some { (scan.report (.sHeadValue mark)).enter .sHeaderAlmostDone with
          contentLength := if scan.isContentLength then digitsValue mark else scan.contentLength }
      else some (scan.enter (.sHeaderValue (mark ++ [byte])))
  | .sHeaderAlmostDone => if byte = 10 then some (scan.enter .sHeaderFieldStart) else none
  | .sHeadersAlmostDone =>
      if byte = 10 then
        some (if scan.contentLength = 0 then scan.newMessage else scan.enter (.sBodyIdentity []))
      else none
  | .sBodyIdentity mark =>
      some (if scan.contentLength ≤ mark.length + 1 then
          (scan.report (.sBodyHandle (mark ++ [byte]))).newMessage
        else scan.enter (.sBodyIdentity (mark ++ [byte])))

def reportMark : HttpScan :=
  match scan.state with
  | .sHeaderField mark => scan.report (.sHeadField mark)
  | .sHeaderValue mark => scan.report (.sHeadValue mark)
  | .sBodyIdentity (byte :: mark) => scan.report (.sBodyHandle (byte :: mark))
  | _ => scan

def readText (scan : HttpScan) (nparsed : Nat) : List UInt8 → HttpParsed
  | [] => ⟨scan.reportMark.callbacks, nparsed, false⟩
  | byte :: rest =>
      match scan.readByte byte with
      | some next => next.readText (nparsed + 1) rest
      | none => ⟨scan.callbacks, nparsed, false⟩

end HttpScan

def scanExecute (text : List UInt8) : HttpParsed := HttpScan.readText {} 0 text

end PssAsio
