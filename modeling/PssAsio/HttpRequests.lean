import PssAsio.HttpFormatCore

/-!
Requests with a `Content-Length` header, and the callbacks for the first bytes of one.
-/

namespace PssAsio

structure HttpHeader where
  name : List UInt8
  gap : List UInt8
  value : List UInt8
  deriving DecidableEq, Repr

namespace HttpHeader

variable (header : HttpHeader)

def line : List UInt8 :=
  header.name ++ 58 :: header.gap ++ header.value ++ [13, 10]

def valueStart : Nat := header.name.length + 1 + header.gap.length

def complete : List HttpCallback :=
  [.sHeadField header.name, .sHeadValue header.value]

def seenLine (count : Nat) : List HttpCallback :=
  if header.line.length < count then header.complete
  else
    let part := header.value.take (count - header.valueStart)
    .sHeadField (header.name.take count) :: if part = [] then [] else [.sHeadValue part]

def seen : List HttpHeader → Nat → List HttpCallback
  | [], _ => []
  | header :: rest, count =>
      if count = 0 then [] else header.seenLine count ++ seen rest (count - header.line.length)

end HttpHeader

/-- Exactly one header is named `Content-Length`, and its value is the number of body bytes. -/
structure HttpRequest where
  requestLine : List UInt8
  before : List HttpHeader
  lengthHeader : HttpHeader
  after : List HttpHeader
  body : List UInt8
  named : lengthHeader.name.map tolower = asciiBytes "content-length"
  alone : ∀ header ∈ before ++ after, header.name.map tolower ≠ asciiBytes "content-length"
  counted : atoi lengthHeader.value = body.length

namespace HttpRequest

open HttpHeader

variable (request : HttpRequest)

def headers : List HttpHeader :=
  request.before ++ request.lengthHeader :: request.after

def head : List UInt8 :=
  request.requestLine ++ request.headers.flatMap line ++ [13, 10]

def bytes : List UInt8 := request.head ++ request.body

def beforeLength : Nat :=
  request.requestLine.length + (request.before.flatMap line).length

variable (count : Nat)

def lengthPart : List UInt8 :=
  request.lengthHeader.value.take (count - request.beforeLength - request.lengthHeader.valueStart)

def callbacksAt : List HttpCallback :=
  seen request.headers (count - request.requestLine.length)

def bodyAt : List HttpCallback :=
  let part := request.body.take (count - request.head.length)
  if part = [] then [] else [.sBodyHandle part]

/-- The name `upgrade` is waiting for its value, and the values it had so far. -/
def upgradeStep (shown : Bool × List UInt8) : HttpCallback → Bool × List UInt8
  | .sHeadField data => (shown.1 || data.map tolower = asciiBytes "upgrade", shown.2)
  | .sHeadValue data => (false, if shown.1 then (shown.2 ++ data).map tolower else shown.2)
  | .sBodyHandle _ => shown

def upgradeAt (shown : Bool × List UInt8) : Bool × List UInt8 :=
  (request.callbacksAt count).foldl upgradeStep shown

variable (execute : List UInt8 → HttpParsed)

/-- What `http_parser_execute` does with the first bytes of a request. -/
structure Parses (request : HttpRequest) (count : Nat) : Prop where
  callbacks : (execute (request.bytes.take count)).callbacks =
    request.callbacksAt count ++ request.bodyAt count
  nparsed : (execute (request.bytes.take count)).nparsed = count

instance (request : HttpRequest) (count : Nat) : Decidable (request.Parses execute count) :=
  decidable_of_iff
    ((execute (request.bytes.take count)).callbacks =
        request.callbacksAt count ++ request.bodyAt count ∧
      (execute (request.bytes.take count)).nparsed = count)
    ⟨fun ⟨callbacks, nparsed⟩ => ⟨callbacks, nparsed⟩,
      fun parses => ⟨parses.callbacks, parses.nparsed⟩⟩

end HttpRequest

section Headers

open HttpHeader HttpTextBuffer

theorem HttpHeader.line_length (header : HttpHeader) :
    header.line.length = header.valueStart + header.value.length + 2 := by
  simp only [line, valueStart, List.length_append, List.length_cons, List.length_nil]
  omega

theorem HttpHeader.seenLine_of_part {header : HttpHeader} {count : Nat}
    (some : header.value.take (count - header.valueStart) ≠ []) :
    header.seenLine count =
      [.sHeadField header.name, .sHeadValue (header.value.take (count - header.valueStart))] := by
  have started : header.valueStart < count := by
    by_contra early
    rw [Nat.sub_eq_zero_of_le (by omega), List.take_zero] at some
    exact some rfl
  unfold seenLine
  split
  · rename_i beyond
    rw [line_length] at beyond
    rw [complete, List.take_of_length_le (by omega)]
  · have whole : header.name.length ≤ count := by
      unfold valueStart at started
      omega
    simp only [some, if_false, List.take_of_length_le whole]

theorem HttpHeader.seen_append {first second : List HttpHeader} {count : Nat}
    (beyond : (first.flatMap line).length < count) :
    seen (first ++ second) count =
      first.flatMap complete ++ seen second (count - (first.flatMap line).length) := by
  induction first generalizing count with
  | nil => rfl
  | cons header rest ih =>
    simp only [List.flatMap_cons, List.length_append] at beyond
    have later : (rest.flatMap line).length < count - header.line.length := by omega
    have longer : header.line.length < count := by omega
    simp only [List.cons_append, seen, seenLine, longer, if_true, ih later, List.flatMap_cons,
      List.length_append, List.append_assoc, Nat.sub_sub]
    rw [if_neg (by omega)]

theorem HttpHeader.seen_no_body (headers : List HttpHeader) (count : Nat) (data : List UInt8) :
    .sBodyHandle data ∉ seen headers count := by
  induction headers generalizing count with
  | nil => simp [seen]
  | cons header rest ih =>
    intro member
    unfold seen at member
    split at member
    · cases member
    · rcases List.mem_append.mp member with now | later
      · unfold seenLine complete at now
        split at now
        · simp at now
        · by_cases part : header.value.take (count - header.valueStart) = []
          · simp [part] at now
          · simp [part] at now
      · exact ih _ later

def HttpTextBuffer.shownUpgrade (buffer : HttpTextBuffer) : Bool × List UInt8 :=
  (buffer.isUpgrade, buffer.upgrade)

structure HttpTextBuffer.SameText (earlier later : HttpTextBuffer) : Prop where
  requestText : later.httpRequestText = earlier.httpRequestText
  postText : later.httpPostText = earlier.httpPostText
  completed : later.isCompleted = earlier.isCompleted

theorem HttpTextBuffer.foldl_sameText {callbacks : List HttpCallback}
    (headers : ∀ data, .sBodyHandle data ∉ callbacks) (buffer : HttpTextBuffer) :
    SameText buffer (callbacks.foldl callback buffer) ∧
      (callbacks.foldl callback buffer).shownUpgrade =
        callbacks.foldl HttpRequest.upgradeStep buffer.shownUpgrade := by
  induction callbacks generalizing buffer with
  | nil => exact ⟨⟨rfl, rfl, rfl⟩, rfl⟩
  | cons step rest ih =>
    obtain ⟨later, shown⟩ := ih (fun data member => headers data (List.mem_cons_of_mem _ member))
      (buffer.callback step)
    have now : SameText buffer (buffer.callback step) ∧
        (buffer.callback step).shownUpgrade =
          HttpRequest.upgradeStep buffer.shownUpgrade step := by
      cases step with
      | sHeadField data | sHeadValue data => exact ⟨⟨rfl, rfl, rfl⟩, rfl⟩
      | sBodyHandle data => exact absurd List.mem_cons_self (headers data)
    rw [List.foldl_cons, List.foldl_cons, shown, now.2]
    exact ⟨⟨later.requestText.trans now.1.requestText, later.postText.trans now.1.postText,
      later.completed.trans now.1.completed⟩, rfl⟩

/-- A cut name can read `content-length` and set the flag, but then no value follows it. -/
theorem HttpHeader.seenLine_contentLength {header : HttpHeader}
    (other : header.name.map tolower ≠ asciiBytes "content-length") (count : Nat)
    (buffer : HttpTextBuffer) (flag : buffer.isPostLength = false) :
    ((header.seenLine count).foldl callback buffer).contentLength = buffer.contentLength ∧
      (header.line.length < count →
        ((header.seenLine count).foldl callback buffer).isPostLength = false) := by
  have pair : ∀ value, ([HttpCallback.sHeadField header.name, .sHeadValue value].foldl
      callback buffer).contentLength = buffer.contentLength := by
    intro value
    simp [callback, sHeadField, sHeadValue, flag, other]
  by_cases beyond : header.line.length < count
  · simp only [seenLine, beyond, if_true, complete]
    exact ⟨pair _, fun _ => rfl⟩
  · refine ⟨?_, fun longer => absurd longer beyond⟩
    by_cases part : header.value.take (count - header.valueStart) = []
    · simp only [seenLine, beyond, part, if_true, if_false]
      rfl
    · rw [seenLine_of_part part]
      exact pair _

theorem HttpHeader.seen_contentLength {headers : List HttpHeader}
    (others : ∀ header ∈ headers, header.name.map tolower ≠ asciiBytes "content-length")
    (count : Nat) (buffer : HttpTextBuffer) (flag : buffer.isPostLength = false) :
    ((seen headers count).foldl callback buffer).contentLength = buffer.contentLength := by
  induction headers generalizing count buffer with
  | nil => rfl
  | cons header rest ih =>
    obtain ⟨here, later⟩ := List.forall_mem_cons.mp others
    have line := seenLine_contentLength here count buffer flag
    unfold seen
    split
    · rfl
    · rw [List.foldl_append]
      by_cases beyond : header.line.length < count
      · rw [ih later _ _ (line.2 beyond), line.1]
      · have nothing : seen rest 0 = [] := by
          cases rest <;> rfl
        rw [Nat.sub_eq_zero_of_le (by omega), nothing]
        exact line.1

end Headers

namespace HttpRequest

open HttpHeader HttpTextBuffer

theorem head_length (request : HttpRequest) :
    request.head.length = request.beforeLength + request.lengthHeader.line.length +
      (request.after.flatMap line).length + 2 := by
  simp only [head, headers, beforeLength, List.flatMap_append, List.flatMap_cons,
    List.length_append, List.length_cons, List.length_nil]
  omega

theorem callbacksAt_contentLength {request : HttpRequest} {count : Nat} {part : List UInt8}
    (started : request.beforeLength < count)
    (line : request.lengthHeader.seenLine (count - request.beforeLength) =
      [.sHeadField request.lengthHeader.name, .sHeadValue part]) (buffer : HttpTextBuffer) :
    ((request.callbacksAt count).foldl callback buffer).contentLength = atoi part := by
  have beyond : (request.before.flatMap HttpHeader.line).length <
      count - request.requestLine.length := by
    simp only [beforeLength] at started
    omega
  have split : count - request.requestLine.length - (request.before.flatMap HttpHeader.line).length
      = count - request.beforeLength := by
    simp only [beforeLength]
    omega
  have others : ∀ header ∈ request.after,
      header.name.map tolower ≠ asciiBytes "content-length" :=
    fun header member => request.alone header (List.mem_append_right _ member)
  rw [callbacksAt, headers, seen_append beyond, split, seen, if_neg (by omega), line,
    List.foldl_append, List.foldl_append, seen_contentLength others _ _ rfl]
  simp [callback, sHeadField, sHeadValue, request.named]

theorem contentLength_of_cut {request : HttpRequest} {count : Nat}
    (announced : 0 < atoi (request.lengthPart count)) (buffer : HttpTextBuffer) :
    ((request.callbacksAt count).foldl callback buffer).contentLength =
      atoi (request.lengthPart count) := by
  have part : request.lengthPart count ≠ [] := by
    intro nothing
    rw [nothing] at announced
    exact absurd announced (by decide)
  have started : request.beforeLength < count := by
    by_contra early
    apply part
    rw [lengthPart, Nat.sub_eq_zero_of_le (by omega), List.take_zero]
  exact callbacksAt_contentLength started (seenLine_of_part part) buffer

theorem contentLength_of_whole (request : HttpRequest) (buffer : HttpTextBuffer) :
    ((request.callbacksAt request.bytes.length).foldl callback buffer).contentLength =
      request.body.length := by
  have size := request.head_length
  have whole : request.bytes.length = request.head.length + request.body.length := by
    simp only [bytes, List.length_append]
  rw [callbacksAt_contentLength (by omega) _ buffer, request.counted]
  rw [seenLine, if_pos (by omega), complete]

end HttpRequest

end PssAsio
