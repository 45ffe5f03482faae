import PssAsio.HttpRequests
import PssAsio.HttpScanCore
import PssAsio.StreamCuts

/-!
Delivery of a stream of requests.
-/

namespace PssAsio

open HttpTextBuffer TransitionRuns

namespace HttpTextBuffer

structure Receiving (text : List UInt8) (shown : Bool × List UInt8) (buffer : HttpTextBuffer) :
    Prop where
  requestText : buffer.started.httpRequestText = text
  postText : buffer.started.httpPostText = []
  upgrade : buffer.started.shownUpgrade = shown
  running : buffer.started.isCompleted = false

theorem started_of_running {buffer : HttpTextBuffer} (running : buffer.isCompleted = false) :
    buffer.started = buffer := by
  simp [started, running]

theorem intOfSize_of_lt {length : Nat} (small : length < 2 ^ 31) : intOfSize length = length := by
  rw [intOfSize, BitVec.toInt_eq_toNat_of_lt] <;> rw [BitVec.toNat_ofNat] <;> omega

theorem not_websocket {buffer : HttpTextBuffer} {shown : Bool × List UInt8}
    (upgrade : buffer.shownUpgrade = shown) (plain : shown.2 ≠ asciiBytes "websocket") :
    buffer.isWebsocket = false := by
  rw [← upgrade] at plain
  exact decide_eq_false plain

structure Filled (request : HttpRequest) (count : Nat) (shown : Bool × List UInt8)
    (filled : HttpTextBuffer) : Prop where
  requestText : filled.httpRequestText = request.bytes.take count
  postText : filled.httpPostText = request.body.take (count - request.head.length)
  upgrade : filled.shownUpgrade = request.upgradeAt count shown
  running : filled.isCompleted = false
  length : ∃ start, filled.contentLength =
    ((request.callbacksAt count).foldl callback start).contentLength

section Parsing

variable {execute : List UInt8 → HttpParsed} {request : HttpRequest} {arrived count : Nat}
  {data : List UInt8} {buffer : HttpTextBuffer} {shown : Bool × List UInt8}

theorem foldl_bodyAt (request : HttpRequest) (count : Nat) (buffer : HttpTextBuffer) :
    (request.bodyAt count).foldl callback buffer =
      { buffer with
        httpPostText := buffer.httpPostText ++
          request.body.take (count - request.head.length) } := by
  by_cases nothing : request.body.take (count - request.head.length) = []
  · simp [HttpRequest.bodyAt, nothing]
  · simp only [HttpRequest.bodyAt, nothing, if_false]
    rfl

theorem filled_of_parses (parses : request.Parses execute count) (start : HttpTextBuffer)
    (text : start.httpRequestText = request.bytes.take count) (empty : start.httpPostText = [])
    (upgrade : start.shownUpgrade = shown) (running : start.isCompleted = false) :
    Filled request count shown
      ((execute start.httpRequestText).callbacks.foldl callback start) := by
  have headers : ∀ data, .sBodyHandle data ∉ request.callbacksAt count :=
    HttpHeader.seen_no_body _ _
  obtain ⟨same, later⟩ := foldl_sameText headers start
  rw [text, parses.callbacks, List.foldl_append, foldl_bodyAt]
  refine ⟨same.requestText.trans text, ?_, ?_, same.completed.trans running, start, rfl⟩
  · simp only [same.postText, empty, List.nil_append]
  · rw [HttpRequest.upgradeAt, ← upgrade, ← later]
    rfl

theorem tryParse_of_parses (parses : request.Parses execute count)
    (plain : (request.upgradeAt count shown).2 ≠ asciiBytes "websocket")
    (inside : count ≤ request.bytes.length)
    (receiving : Receiving (request.bytes.take arrived) shown buffer)
    (arriving : request.bytes.take arrived ++ data = request.bytes.take count) :
    ∃ filled, Filled request count shown filled ∧ tryParse execute buffer data =
      if (execute (request.bytes.take count)).upgrade then (filled, 0)
      else if 0 < filled.contentLength ∧
          intOfSize filled.httpPostText.length < filled.contentLength then (filled, 1)
      else ({ filled with isCompleted := true }, 0) := by
  have text : (buffer.joined data).httpRequestText = request.bytes.take count := by
    change buffer.started.httpRequestText ++ data = _
    rw [receiving.requestText, arriving]
  have filled := filled_of_parses parses (buffer.joined data) text receiving.postText
    receiving.upgrade receiving.running
  have taken : (execute (buffer.joined data).httpRequestText).nparsed =
      ((execute (buffer.joined data).httpRequestText).callbacks.foldl callback
        (buffer.joined data)).httpRequestText.length := by
    rw [filled.requestText, text, parses.nparsed, List.length_take, Nat.min_eq_left inside]
  refine ⟨_, filled, ?_⟩
  rw [tryParse, decided, if_neg (not_not.mpr taken), not_websocket filled.upgrade plain,
    if_neg Bool.false_ne_true, text]

theorem tryParse_cut (parses : request.Parses execute count)
    (plain : (request.upgradeAt count shown).2 ≠ asciiBytes "websocket")
    (unflagged : (execute (request.bytes.take count)).upgrade = false)
    (inHead : count ≤ request.head.length) (announced : 0 < atoi (request.lengthPart count))
    (receiving : Receiving (request.bytes.take arrived) shown buffer)
    (arriving : request.bytes.take arrived ++ data = request.bytes.take count) :
    ∃ next, tryParse execute buffer data = (next, 1) ∧
      Receiving (request.bytes.take count) (request.upgradeAt count shown) next := by
  have inside : count ≤ request.bytes.length := by
    simp only [HttpRequest.bytes, List.length_append]
    omega
  obtain ⟨filled, facts, parsed⟩ := tryParse_of_parses parses plain inside receiving arriving
  obtain ⟨start, length⟩ := facts.length
  have empty : filled.httpPostText = [] := by
    rw [facts.postText, Nat.sub_eq_zero_of_le inHead, List.take_zero]
  have waiting : 0 < filled.contentLength := by
    rw [length, HttpRequest.contentLength_of_cut announced]
    exact announced
  rw [unflagged, if_neg Bool.false_ne_true,
    if_pos ⟨waiting, by rw [empty]; exact waiting⟩] at parsed
  have same := started_of_running facts.running
  refine ⟨filled, parsed, ?_, ?_, ?_, ?_⟩
  · rw [same, facts.requestText]
  · rw [same, empty]
  · rw [same, facts.upgrade]
  · rw [same, facts.running]

theorem tryParse_whole (parses : request.Parses execute request.bytes.length)
    (plain : (request.upgradeAt request.bytes.length shown).2 ≠ asciiBytes "websocket")
    (small : request.body.length < 2 ^ 31)
    (receiving : Receiving (request.bytes.take arrived) shown buffer)
    (arriving : request.bytes.take arrived ++ data = request.bytes) :
    ∃ next, tryParse execute buffer data = (next, 0) ∧ next.isWebsocket = false ∧
      next.httpPostText = request.body ∧
      ((execute request.bytes).upgrade = false →
        Receiving [] (false, (request.upgradeAt request.bytes.length shown).2) next) := by
  have all : request.bytes.take request.bytes.length = request.bytes := List.take_length
  obtain ⟨filled, facts, parsed⟩ := tryParse_of_parses parses plain (Nat.le_refl _) receiving
    (arriving.trans all.symm)
  obtain ⟨start, length⟩ := facts.length
  have body : filled.httpPostText = request.body := by
    rw [facts.postText, List.take_of_length_le]
    simp [HttpRequest.bytes]
  have full : ¬(0 < filled.contentLength ∧
      intOfSize filled.httpPostText.length < filled.contentLength) := by
    rw [body, intOfSize_of_lt small, length, HttpRequest.contentLength_of_whole]
    omega
  have post := not_websocket facts.upgrade plain
  rw [all, if_neg full] at parsed
  cases flag : (execute request.bytes).upgrade with
  | true =>
    rw [flag, if_pos rfl] at parsed
    exact ⟨filled, parsed, post, body, fun unset => by cases unset⟩
  | false =>
    rw [flag, if_neg Bool.false_ne_true] at parsed
    refine ⟨_, parsed, post, body, fun _ => ⟨rfl, rfl, ?_, rfl⟩⟩
    rw [← facts.upgrade]
    rfl

end Parsing

end HttpTextBuffer

namespace PacketParseHttp

structure HttpCalls where
  mapHttpParse : MapHttpParse
  messageList : List MessagePacket

section Calls

variable (execute : List UInt8 → HttpParsed) (wsHandshake : List UInt8 → List UInt8)
  (connectId : Nat)

variable (mapHttpParse : MapHttpParse)

def opened : HttpCalls :=
  ⟨connect (disconnect mapHttpParse connectId) connectId, []⟩

def call (state : HttpCalls) (buffer : SessionBuffer) : Option HttpCalls :=
  (parsePacketFromRecvBuffer execute wsHandshake state.mapHttpParse connectId buffer []).map
    fun outcome => ⟨outcome.mapHttpParse, state.messageList ++ outcome.messageList⟩

def postPacket (request : HttpRequest) : MessagePacket := ⟨httpPostCommand, request.body⟩

def DeliveredOnce (requests : List HttpRequest) (calls : List SessionBuffer) : Prop :=
  (run (call execute wsHandshake connectId) (opened connectId mapHttpParse) calls).map
      (fun final => final.messageList.filter fun packet => packet.commandId = httpPostCommand) =
    some (requests.map postPacket)

/-- Every call ends with its request, or in the head of it behind a positive part of the length. No
upgrade is shown, but that the parser may report one for the last request. -/
def ArrivesApart : List (List UInt8) → List HttpRequest → Nat → Bool × List UInt8 → Prop
  | [], requests, _, _ => requests = []
  | _ :: _, [], _, _ => False
  | data :: pieces, request :: rest, arrived, shown =>
      (request.upgradeAt (arrived + data.length) shown).2 ≠ asciiBytes "websocket" ∧
        (arrived + data.length = request.bytes.length ∧ request.body.length < 2 ^ 31 ∧
            ((execute request.bytes).upgrade = false ∧
                ArrivesApart pieces rest 0
                  (false, (request.upgradeAt (arrived + data.length) shown).2) ∨
              pieces = [] ∧ rest.isEmpty) ∨
          arrived + data.length ≤ request.head.length ∧
            0 < atoi (request.lengthPart (arrived + data.length)) ∧
            (execute (request.bytes.take (arrived + data.length))).upgrade = false ∧
            ArrivesApart pieces (request :: rest) (arrived + data.length)
              (request.upgradeAt (arrived + data.length) shown))

instance decidableArrivesApart : ∀ pieces requests arrived shown,
    Decidable (ArrivesApart execute pieces requests arrived shown)
  | [], [], _, _ => .isTrue rfl
  | [], _ :: _, _, _ => .isFalse nofun
  | _ :: _, [], _, _ => inferInstanceAs (Decidable False)
  | data :: pieces, request :: rest, arrived, shown =>
      have := decidableArrivesApart pieces rest 0
        (false, (request.upgradeAt (arrived + data.length) shown).2)
      have := decidableArrivesApart pieces (request :: rest) (arrived + data.length)
        (request.upgradeAt (arrived + data.length) shown)
      inferInstanceAs (Decidable (_ ∧ (_ ∨ _)))

variable {execute wsHandshake connectId} {state : HttpCalls} {buffer : SessionBuffer}

def Waiting (connectId : Nat) (text : List UInt8) (shown : Bool × List UInt8)
    (state : HttpCalls) : Prop :=
  ∃ format, state.mapHttpParse.lookup connectId = some ⟨.protocalHttpPost, format⟩ ∧
    format.Receiving text shown

theorem opened_waiting (mapHttpParse : MapHttpParse) :
    Waiting connectId [] (false, []) (opened connectId mapHttpParse) := by
  refine ⟨{}, ?_, rfl, rfl, rfl, rfl⟩
  simp [opened, connect, disconnect, AList.lookup_erase]

theorem call_of_tryParse_one {format next : HttpTextBuffer}
    (found : state.mapHttpParse.lookup connectId = some ⟨.protocalHttpPost, format⟩)
    (parsed : format.tryParse execute buffer.content = (next, 1)) :
    call execute wsHandshake connectId state buffer =
      some ⟨state.mapHttpParse.insert connectId ⟨.protocalHttpPost, next⟩,
        state.messageList⟩ := by
  simp [call, parsePacketFromRecvBuffer, found, disposeHttpMessage, parsed]

theorem call_of_tryParse_zero {format next : HttpTextBuffer}
    (found : state.mapHttpParse.lookup connectId = some ⟨.protocalHttpPost, format⟩)
    (parsed : format.tryParse execute buffer.content = (next, 0))
    (plain : next.isWebsocket = false) :
    call execute wsHandshake connectId state buffer =
      some ⟨state.mapHttpParse.insert connectId ⟨.protocalHttpPost, next⟩,
        state.messageList ++ [⟨httpPostCommand, next.httpPostText⟩]⟩ := by
  simp [call, parsePacketFromRecvBuffer, found, disposeHttpMessage, parsed, plain]

theorem call_cut {request : HttpRequest} {arrived count : Nat} {shown : Bool × List UInt8}
    (parses : request.Parses execute count)
    (plain : (request.upgradeAt count shown).2 ≠ asciiBytes "websocket")
    (unflagged : (execute (request.bytes.take count)).upgrade = false)
    (inHead : count ≤ request.head.length) (announced : 0 < atoi (request.lengthPart count))
    (waiting : Waiting connectId (request.bytes.take arrived) shown state)
    (arriving : request.bytes.take arrived ++ buffer.content = request.bytes.take count) :
    ∃ next, call execute wsHandshake connectId state buffer = some next ∧
      next.messageList = state.messageList ∧
      Waiting connectId (request.bytes.take count) (request.upgradeAt count shown) next := by
  obtain ⟨format, found, receiving⟩ := waiting
  obtain ⟨next, parsed, kept⟩ :=
    tryParse_cut parses plain unflagged inHead announced receiving arriving
  exact ⟨_, call_of_tryParse_one found parsed, rfl, next, AList.lookup_insert _, kept⟩

theorem call_whole {request : HttpRequest} {arrived : Nat} {shown : Bool × List UInt8}
    (parses : request.Parses execute request.bytes.length)
    (plain : (request.upgradeAt request.bytes.length shown).2 ≠ asciiBytes "websocket")
    (small : request.body.length < 2 ^ 31)
    (waiting : Waiting connectId (request.bytes.take arrived) shown state)
    (arriving : request.bytes.take arrived ++ buffer.content = request.bytes) :
    ∃ next, call execute wsHandshake connectId state buffer = some next ∧
      next.messageList = state.messageList ++ [postPacket request] ∧
      ((execute request.bytes).upgrade = false →
        Waiting connectId [] (false, (request.upgradeAt request.bytes.length shown).2) next) := by
  obtain ⟨format, found, receiving⟩ := waiting
  obtain ⟨next, parsed, post, body, cleared⟩ :=
    tryParse_whole parses plain small receiving arriving
  refine ⟨_, call_of_tryParse_zero found parsed post, ?_,
    fun unflagged => ⟨next, AList.lookup_insert _, cleared unflagged⟩⟩
  rw [body, postPacket]

theorem run_arrivesApart {calls : List SessionBuffer} {requests : List HttpRequest}
    {arrived : Nat} {shown : Bool × List UInt8}
    (parses : ∀ request ∈ requests, ∀ count ≤ request.bytes.length,
      request.Parses execute count)
    (apart : ArrivesApart execute (calls.map SessionBuffer.content) requests arrived shown)
    (split : (calls.map SessionBuffer.content).flatten =
      (requests.flatMap HttpRequest.bytes).drop arrived)
    (waiting : ∀ request ∈ requests.head?,
      Waiting connectId (request.bytes.take arrived) shown state) :
    ∃ final, run (call execute wsHandshake connectId) state calls = some final ∧
      final.messageList = state.messageList ++ requests.map postPacket := by
  induction calls generalizing requests arrived shown state with
  | nil =>
    subst apart
    exact ⟨state, rfl, (List.append_nil _).symm⟩
  | cons buffer calls ih =>
    cases requests with
    | nil => exact absurd apart id
    | cons request rest =>
      obtain ⟨plain, apart⟩ := apart
      have now := waiting request rfl
      have size : request.bytes.length = request.head.length + request.body.length := by
        simp only [HttpRequest.bytes, List.length_append]
      have inside : arrived + buffer.content.length ≤ request.bytes.length := by
        rcases apart with ⟨complete, -⟩ | ⟨inHead, -⟩ <;> omega
      rw [List.map_cons, List.flatten_cons, List.flatMap_cons] at split
      obtain ⟨arriving, later⟩ := StreamCuts.arriving_within split inside
      have here := parses request List.mem_cons_self _ inside
      rcases apart with ⟨complete, small, apart⟩ | ⟨inHead, announced, unflagged, apart⟩
      · rw [complete, List.take_length] at arriving
        rw [complete] at here plain apart
        obtain ⟨next, called, emitted, empty⟩ := call_whole here plain small now arriving
        rw [complete, List.drop_left] at later
        rcases apart with ⟨unflagged, apart⟩ | ⟨last, alone⟩
        · obtain ⟨final, ran, all⟩ := ih
            (fun other member => parses other (List.mem_cons_of_mem _ member)) apart later
            (fun other _ => empty unflagged)
          refine ⟨final, by rw [run, called]; exact ran, ?_⟩
          rw [all, emitted, List.append_assoc, List.map_cons, List.singleton_append]
        · -- What the reported upgrade leaves behind is met by no further call.
          obtain rfl := List.map_eq_nil_iff.mp last
          obtain rfl := List.isEmpty_iff.mp alone
          exact ⟨next, by rw [run, called]; rfl, emitted⟩
      · obtain ⟨next, called, same, kept⟩ :=
          call_cut here plain unflagged inHead announced now arriving
        obtain ⟨final, ran, all⟩ := ih parses apart later (by
          rintro other ⟨⟩
          exact kept)
        refine ⟨final, by rw [run, called]; exact ran, ?_⟩
        rw [all, same]

/-- Requests are delivered once each with their own body, when the calls arrive apart. -/
theorem deliveredOnce_of_arrivesApart (execute : List UInt8 → HttpParsed)
    (wsHandshake : List UInt8 → List UInt8) (connectId : Nat) (mapHttpParse : MapHttpParse)
    (requests : List HttpRequest) (calls : List SessionBuffer)
    (parses : ∀ request ∈ requests, ∀ count ≤ request.bytes.length,
      request.Parses execute count)
    (split : (calls.map SessionBuffer.content).flatten = requests.flatMap HttpRequest.bytes)
    (apart : ArrivesApart execute (calls.map SessionBuffer.content) requests 0 (false, [])) :
    DeliveredOnce execute wsHandshake connectId mapHttpParse requests calls := by
  obtain ⟨final, ran, emitted⟩ := run_arrivesApart parses apart split
    (fun _ _ => opened_waiting mapHttpParse)
  rw [DeliveredOnce, ran, Option.map_some, emitted]
  refine congrArg some (List.filter_eq_self.mpr ?_)
  intro packet member
  obtain ⟨request, -, rfl⟩ := List.mem_map.mp member
  rfl

end Calls

def pairRequest (first second : UInt8) : HttpRequest where
  requestLine := asciiBytes "POST / HTTP/1.1\r\n"
  before := []
  lengthHeader := ⟨asciiBytes "Content-Length", asciiBytes " ", asciiBytes "2"⟩
  after := []
  body := [first, second]
  named := by decide
  alone := by simp
  counted := rfl

/-- An upgrade that the code does not know, and a header without a value. -/
def offeringRequest : HttpRequest where
  requestLine := asciiBytes "POST / HTTP/1.1\r\n"
  before := [⟨asciiBytes "Upgrade", asciiBytes " ", asciiBytes "h2c"⟩]
  lengthHeader := ⟨asciiBytes "Content-Length", [], asciiBytes "1"⟩
  after := [⟨asciiBytes "X", [], []⟩]
  body := [97]
  named := by decide
  alone := by decide
  counted := rfl

def headCut : List SessionBuffer :=
  [bufferHolding (asciiBytes "POST / HTTP/1.1\r\nContent-Length: 2\r") (by decide),
    bufferHolding (asciiBytes "\n\r\nhi") (by decide),
    bufferHolding (asciiBytes "POST / HTTP/1.1\r\nUpgrade: h2c\r\nContent-Length:1\r\nX:\r\n\r\na")
      (by decide),
    bufferHolding (asciiBytes "POST / HTTP/1.1\r\nContent-Length: 2\r\n\r\nyo") (by decide)]

theorem deliveredOnce_headCut :
    DeliveredOnce scanExecute id 1 ∅
      [pairRequest 104 105, offeringRequest, pairRequest 121 111] headCut := by
  refine deliveredOnce_of_arrivesApart scanExecute id 1 ∅ _ _ ?_ ?_ ?_
  · decide +kernel
  · decide +kernel
  · decide +kernel

def bodyCut : List SessionBuffer :=
  [bufferHolding (asciiBytes "POST / HTTP/1.1\r\nContent-Length: 2\r\n\r\nh") (by decide),
    bufferHolding (asciiBytes "i") (by decide)]

def cutBeforeLength : List SessionBuffer :=
  [bufferHolding (asciiBytes "POST / HTTP/1.1\r\n") (by decide),
    bufferHolding (asciiBytes "Content-Length: 2\r\n\r\nhi") (by decide)]

def bothAtOnce : List SessionBuffer :=
  [bufferHolding ((pairRequest 104 105).bytes ++ (pairRequest 121 111).bytes) (by decide)]

/-- A body arrives as `hhi`, another one as nothing, and two bodies as one. -/
theorem cut_and_joined_requests_misdelivered :
    (∀ count ≤ (pairRequest 104 105).bytes.length,
      (pairRequest 104 105).Parses scanExecute count) ∧
    (bodyCut.map SessionBuffer.content).flatten = (pairRequest 104 105).bytes ∧
    ¬DeliveredOnce scanExecute id 1 ∅ [pairRequest 104 105] bodyCut ∧
    ¬DeliveredOnce scanExecute id 1 ∅ [pairRequest 104 105] cutBeforeLength ∧
    ¬DeliveredOnce scanExecute id 1 ∅ [pairRequest 104 105, pairRequest 121 111] bothAtOnce := by
  unfold DeliveredOnce
  refine ⟨?_, ?_, ?_, ?_, ?_⟩
  · decide +kernel
  · decide +kernel
  · decide +kernel
  · decide +kernel
  · decide +kernel

end PacketParseHttp

end PssAsio
