import PssAsio.WebSocketFormatCore
import PssAsio.ByteMemory

/-!
`wsFrameExtractBuffer` undoes `wsFrameBuild`, and never accepts a frame with bytes missing.
-/

namespace PssAsio

open ByteMemory

@[simp] theorem applyMask_length (mask : MaskKey) (data : List UInt8) :
    (applyMask mask data).length = data.length := by
  simp [applyMask]

theorem applyMask_applyMask (mask : MaskKey) (data : List UInt8) :
    applyMask mask (applyMask mask data) = data := by
  have twice : (fun index => (fun byte => byte ^^^ mask (Fin.ofNat 4 index)) ∘
      fun byte : UInt8 => byte ^^^ mask (Fin.ofNat 4 index)) = fun _ byte => byte := by
    funext index byte
    rw [Function.comp_apply, UInt8.xor_assoc, UInt8.xor_self, UInt8.xor_zero]
  rw [applyMask, applyMask, List.mapIdx_mapIdx, twice]
  apply List.ext_getElem?
  intro index
  simp

namespace WebSocketFormat

variable {size pos arrived : Nat} {buffer : List UInt8}

@[simp] theorem byteAt_cons_succ (byte : UInt8) (rest : List UInt8) (index : Nat) :
    byteAt (byte :: rest) (index + 1) = byteAt rest index := rfl

@[simp] theorem byteAt_cons_zero (byte : UInt8) (rest : List UInt8) :
    byteAt (byte :: rest) 0 = byte := rfl

theorem byteAt_take {index : Nat} (buffer : List UInt8) (within : index < size) :
    byteAt (buffer.take size) index = byteAt buffer index := by
  rw [byteAt, byteAt, List.getD_eq_getElem?_getD, List.getD_eq_getElem?_getD,
    List.getElem?_take_of_lt within]

theorem byteAt_append_left {front : List UInt8} {index : Nat} (back : List UInt8)
    (within : index < front.length) : byteAt (front ++ back) index = byteAt front index := by
  rw [byteAt, byteAt, List.getD_eq_getElem?_getD, List.getD_eq_getElem?_getD,
    List.getElem?_append_left within]

theorem byteAt_append_right (front back : List UInt8) (index : Nat) :
    byteAt (front ++ back) (front.length + index) = byteAt back index := by
  rw [byteAt, byteAt, List.getD_eq_getElem?_getD, List.getD_eq_getElem?_getD,
    List.getElem?_append_right (Nat.le_add_right _ _), Nat.add_sub_cancel_left]

variable (head : UInt8)

theorem payloadLength_marked (length : UInt8) (rest : List UInt8) :
    payloadLength (head :: (length ||| 0x80) :: rest) = payloadLength (head :: length :: rest) := by
  rw [payloadLength, payloadLength]
  simp only [byteAt_cons_succ, byteAt_cons_zero, low_kept]
  rfl

theorem low_of_small {value : Nat} (small : value < 128) :
    UInt8.ofNat value &&& 0x7F = UInt8.ofNat value := by
  apply UInt8.toNat_inj.mp
  rw [UInt8.toNat_and, UInt8.toNat_ofNat']
  have low : (0x7F : UInt8).toNat = 2 ^ 7 - 1 := rfl
  rw [low, Nat.and_two_pow_sub_one_eq_mod]
  omega

theorem payloadLength_tiny (size : Nat) (rest : List UInt8) (tiny : size ≤ 125) :
    payloadLength (head :: UInt8.ofNat size :: rest) = some (size, 2) := by
  have value : (UInt8.ofNat size).toNat = size := by
    rw [UInt8.toNat_ofNat']
    omega
  have distinct : ∀ code : UInt8, 125 < code.toNat → UInt8.ofNat size ≠ code := by
    intro code large equal
    rw [← equal, value] at large
    omega
  simp only [payloadLength, byteAt_cons_succ, byteAt_cons_zero,
    low_of_small (by omega : size < 128)]
  rw [extendedLength, if_neg (distinct 126 (by decide)), if_neg (distinct 127 (by decide)), value]

theorem payloadLength_word (high low : UInt8) (rest : List UInt8) :
    payloadLength (head :: 126 :: high :: low :: rest) =
      some (high.toNat * 256 + low.toNat, 4) := by
  have code : (126 : UInt8) &&& 0x7F = 126 := by decide
  simp [payloadLength, code, extendedLength, Nat.shiftLeft_eq]

theorem payloadLength_long (b6 b7 b8 b9 : UInt8) (rest : List UInt8) :
    payloadLength (head :: 127 :: 0 :: 0 :: 0 :: 0 :: b6 :: b7 :: b8 :: b9 :: rest) =
      if b6.toNat < 128 then
        some (b6.toNat * 2 ^ 24 + b7.toNat * 2 ^ 16 + b8.toNat * 256 + b9.toNat, 10)
      else none := by
  have code : (127 : UInt8) &&& 0x7F = 127 := by decide
  have notWord : (127 : UInt8) ≠ 126 := by decide
  simp only [payloadLength, byteAt_cons_succ, byteAt_cons_zero, code]
  rw [extendedLength, if_neg notWord, if_pos rfl, if_neg (by simp)]
  simp only [byteAt_cons_succ, byteAt_cons_zero, ne_eq, not_true_eq_false, or_self, if_false,
    top_clear_iff, Nat.shiftLeft_eq, Nat.not_lt]
  by_cases small : b6.toNat < 128
  · rw [if_neg (by omega), if_pos small]
  · rw [if_pos (by omega), if_neg small]

theorem lengthBytes_long (long : 0xFFFF < size) : lengthBytes size =
      [127, 0, 0, 0, 0, UInt8.ofNat (size / 2 ^ 24 % 256), UInt8.ofNat (size / 2 ^ 16 % 256),
        UInt8.ofNat (size / 2 ^ 8 % 256), UInt8.ofNat (size % 256)] := by
  have byte24 := and_shiftRight_byte size 24
  have byte16 := and_shiftRight_byte size 16
  have byte8 := and_shiftRight_byte size 8
  have byte0 : size &&& 0xFF = size % 256 := Nat.and_two_pow_sub_one_eq_mod size 8
  rw [lengthBytes, if_neg (by omega), if_neg (by omega)]
  simp only [Nat.reduceShiftLeft] at byte24 byte16 byte8
  rw [byte24, byte16, byte8, byte0]

theorem lengthBytes_word (large : 125 < size) (word : size ≤ 0xFFFF) :
    lengthBytes size = [126, UInt8.ofNat (size / 2 ^ 8), UInt8.ofNat (size % 256)] := by
  have byte8 := and_shiftRight_byte size 8
  have byte0 : size &&& 0xFF = size % 256 := Nat.and_two_pow_sub_one_eq_mod size 8
  simp only [Nat.reduceShiftLeft] at byte8
  rw [lengthBytes, if_neg (by omega), if_pos word, byte8, byte0, Nat.mod_eq_of_lt (by omega)]

theorem payloadLength_lengthBytes (size : Nat) (rest : List UInt8) (short : size < 2 ^ 31) :
    payloadLength (head :: (lengthBytes size ++ rest)) =
      some (size, 1 + (lengthBytes size).length) := by
  by_cases tiny : size ≤ 125
  · have bytes : lengthBytes size = [UInt8.ofNat size] := if_pos tiny
    rw [bytes]
    exact payloadLength_tiny head size rest tiny
  by_cases word : size ≤ 0xFFFF
  · rw [lengthBytes_word (by omega) word]
    simp only [List.cons_append, List.nil_append, payloadLength_word, UInt8.toNat_ofNat',
      Option.some.injEq, Prod.mk.injEq, List.length_cons, List.length_nil, and_true]
    omega
  · rw [lengthBytes_long (by omega)]
    simp only [List.cons_append, List.nil_append, payloadLength_long, UInt8.toNat_ofNat']
    rw [if_pos (by omega)]
    simp only [Option.some.injEq, Prod.mk.injEq, List.length_cons, List.length_nil, and_true]
    omega

theorem payloadLength_oversize (size : Nat) (rest : List UInt8) (long : 2 ^ 31 ≤ size)
    (encodable : size < 2 ^ 32) : payloadLength (head :: (lengthBytes size ++ rest)) = none := by
  rw [lengthBytes_long (by omega)]
  simp only [List.cons_append, List.nil_append, payloadLength_long, UInt8.toNat_ofNat']
  rw [if_neg (by omega)]

theorem lengthBytes_eq_cons (size : Nat) :
    ∃ first more, lengthBytes size = first :: more ∧ first.toNat < 128 := by
  unfold lengthBytes
  split
  · refine ⟨_, _, rfl, ?_⟩
    rw [UInt8.toNat_ofNat']
    omega
  · split
    · exact ⟨_, _, rfl, by decide⟩
    · exact ⟨_, _, rfl, by decide⟩

variable (out : FrameOut)

theorem extract_marked (started : 2 ≤ buffer.length)
    (length : payloadLength buffer = some (size, pos)) (marked : byteAt buffer 1 &&& 0x80 ≠ 0) :
    wsFrameExtractBuffer buffer out =
      if buffer.length < pos + 4 + size then
        (false, { out with
          outfin := byteAt buffer 0 &&& 0x80 ≠ 0
          outopcode := ⟨byteAt buffer 0 &&& 0x0F⟩ })
      else
        (true, {
          payload := out.payload ++ applyMask (fun index => byteAt buffer (pos + index))
            ((buffer.drop (pos + 4)).take size)
          outopcode := ⟨byteAt buffer 0 &&& 0x0F⟩
          frameSize := size + (pos + 4)
          outfin := byteAt buffer 0 &&& 0x80 ≠ 0 }) := by
  simp only [wsFrameExtractBuffer, length, if_neg (Nat.not_lt.mpr started), if_pos marked]
  by_cases header : buffer.length < pos + 4
  · rw [if_pos header, if_pos (by omega)]
  · rw [if_neg header]

theorem extract_plain (started : 2 ≤ buffer.length)
    (length : payloadLength buffer = some (size, pos)) (plain : byteAt buffer 1 &&& 0x80 = 0) :
    wsFrameExtractBuffer buffer out =
      if buffer.length < pos + size then
        (false, { out with
          outfin := byteAt buffer 0 &&& 0x80 ≠ 0
          outopcode := ⟨byteAt buffer 0 &&& 0x0F⟩ })
      else
        (true, {
          payload := out.payload ++ (buffer.drop pos).take size
          outopcode := ⟨byteAt buffer 0 &&& 0x0F⟩
          frameSize := size + pos
          outfin := byteAt buffer 0 &&& 0x80 ≠ 0 }) := by
  simp only [wsFrameExtractBuffer, length, if_neg (Nat.not_lt.mpr started), plain, ne_eq,
    not_true_eq_false, if_false]

theorem extract_without_length (length : payloadLength buffer = none) :
    (wsFrameExtractBuffer buffer out).1 = false := by
  simp only [wsFrameExtractBuffer, length]
  split <;> rfl

theorem byteAt_ofFn (mask : MaskKey) (rest : List UInt8) (index : Fin 4) :
    byteAt (List.ofFn mask ++ rest) index = mask index := by
  have within : (index : Nat) < (List.ofFn mask).length := by
    rw [List.length_ofFn]
    exact index.isLt
  rw [byteAt, List.getD_eq_getElem?_getD, List.getElem?_append_left within,
    List.getElem?_eq_getElem within, List.getElem_ofFn]
  rfl

theorem drop_take_middle {front middle back : List UInt8} {offset : Nat}
    (before : front.length = offset) (sized : middle.length = size) :
    ((front ++ (middle ++ back)).drop offset).take size = middle := by
  rw [List.drop_left' before, List.take_left' sized]

theorem extract_plain_append (front body back : List UInt8) (out : FrameOut)
    (started : 2 ≤ front.length)
    (length : payloadLength (front ++ (body ++ back)) = some (body.length, front.length))
    (plain : byteAt front 1 &&& 0x80 = 0) :
    wsFrameExtractBuffer (front ++ (body ++ back)) out =
      (true, {
        payload := out.payload ++ body
        outopcode := ⟨byteAt front 0 &&& 0x0F⟩
        frameSize := front.length + body.length
        outfin := byteAt front 0 &&& 0x80 ≠ 0 }) := by
  have first : byteAt (front ++ (body ++ back)) 0 = byteAt front 0 :=
    byteAt_append_left _ (by omega)
  have second : byteAt (front ++ (body ++ back)) 1 = byteAt front 1 :=
    byteAt_append_left _ (by omega)
  have total : (front ++ (body ++ back)).length =
      front.length + (body.length + back.length) := by
    simp
  rw [extract_plain out (by omega) length (by rw [second]; exact plain), if_neg (by omega),
    drop_take_middle rfl rfl, first, Nat.add_comm]

theorem extract_marked_append (front : List UInt8) (mask : MaskKey) (body back : List UInt8)
    (out : FrameOut) (started : 2 ≤ front.length)
    (length : payloadLength (front ++ (List.ofFn mask ++ (applyMask mask body ++ back))) =
      some (body.length, front.length))
    (marked : byteAt front 1 &&& 0x80 ≠ 0) :
    wsFrameExtractBuffer (front ++ (List.ofFn mask ++ (applyMask mask body ++ back))) out =
      (true, {
        payload := out.payload ++ body
        outopcode := ⟨byteAt front 0 &&& 0x0F⟩
        frameSize := front.length + 4 + body.length
        outfin := byteAt front 0 &&& 0x80 ≠ 0 }) := by
  generalize shape : front ++ (List.ofFn mask ++ (applyMask mask body ++ back)) = buffer
    at length ⊢
  have first : byteAt buffer 0 = byteAt front 0 := by
    rw [← shape, byteAt_append_left _ (by omega)]
  have second : byteAt buffer 1 = byteAt front 1 := by
    rw [← shape, byteAt_append_left _ (by omega)]
  have key : (fun index : Fin 4 => byteAt buffer (front.length + index)) = mask := by
    funext index
    rw [← shape, byteAt_append_right, byteAt_ofFn]
  have total : buffer.length = front.length + (4 + (body.length + back.length)) := by
    simp only [← shape, List.length_append, List.length_ofFn, applyMask_length]
  have middle : (buffer.drop (front.length + 4)).take body.length = applyMask mask body := by
    rw [← shape, ← List.append_assoc]
    exact drop_take_middle (by simp) (applyMask_length mask body)
  rw [extract_marked out (by omega) length (by rw [second]; exact marked), if_neg (by omega), key,
    middle, applyMask_applyMask, first, Nat.add_comm]

theorem payloadLength_take (started : 2 ≤ arrived) (within : arrived ≤ buffer.length)
    (length : payloadLength buffer = some (size, pos)) :
    payloadLength (buffer.take arrived) = none ∨
      payloadLength (buffer.take arrived) = some (size, pos) := by
  have taken : (buffer.take arrived).length = arrived := by
    rw [List.length_take]
    omega
  rw [payloadLength, byteAt_take buffer (by omega)]
  rw [payloadLength] at length
  generalize byteAt buffer 1 &&& 0x7F = code at length ⊢
  unfold extendedLength at length ⊢
  rw [taken]
  by_cases word : code = 126
  · rw [if_pos word] at length ⊢
    by_cases short : arrived < 4
    · exact .inl (if_pos short)
    · rw [if_neg (by omega)] at length
      rw [if_neg short, byteAt_take buffer (by omega), byteAt_take buffer (by omega)]
      exact .inr length
  by_cases long : code = 127
  · rw [if_neg word, if_pos long] at length ⊢
    by_cases short : arrived < 10
    · exact .inl (if_pos short)
    · rw [if_neg (by omega)] at length
      rw [if_neg short]
      have same : ∀ index < 10, byteAt (buffer.take arrived) index = byteAt buffer index :=
        fun index below => byteAt_take buffer (by omega)
      simp only [same 2 (by omega), same 3 (by omega), same 4 (by omega), same 5 (by omega),
        same 6 (by omega), same 7 (by omega), same 8 (by omega), same 9 (by omega)]
      exact .inr length
  · rw [if_neg word, if_neg long] at length ⊢
    exact .inr length

theorem extract_take_none (within : arrived ≤ buffer.length)
    (length : payloadLength buffer = some (size, pos))
    (missing : arrived < pos + (if byteAt buffer 1 &&& 0x80 ≠ 0 then 4 else 0) + size) :
    (wsFrameExtractBuffer (buffer.take arrived) out).1 = false := by
  have taken : (buffer.take arrived).length = arrived := by
    rw [List.length_take]
    omega
  by_cases started : 2 ≤ arrived
  · have flag : byteAt (buffer.take arrived) 1 = byteAt buffer 1 := byteAt_take buffer (by omega)
    rcases payloadLength_take started within length with unknown | known
    · exact extract_without_length out unknown
    · by_cases marked : byteAt buffer 1 &&& 0x80 ≠ 0
      · rw [if_pos marked] at missing
        rw [extract_marked out (by omega) known (by rw [flag]; exact marked), if_pos (by omega)]
      · rw [if_neg marked] at missing
        rw [extract_plain out (by omega) known (by rw [flag]; exact not_not.mp marked),
          if_pos (by omega)]
  · simp only [wsFrameExtractBuffer]
    rw [if_pos (by omega)]

variable (payload : List UInt8) (frameType : WebSocketFrameType) (isFin : Bool) (mask : MaskKey)

variable (masking : Bool)

theorem wsFrameBuild_length :
    (wsFrameBuild payload frameType isFin masking mask).length =
      1 + (lengthBytes payload.length).length + (if masking then 4 else 0) + payload.length := by
  cases masking <;> simp [wsFrameBuild] <;> omega

def FrameOut.of (out : FrameOut) (masking : Bool) : FrameOut where
  payload := out.payload ++ payload
  outopcode := ⟨frameHead frameType isFin &&& 0x0F⟩
  frameSize := (wsFrameBuild payload frameType isFin masking mask).length
  outfin := frameHead frameType isFin &&& 0x80 ≠ 0

theorem extract_wsFrameBuild (tail : List UInt8) (out : FrameOut)
    (short : payload.length < 2 ^ 31) :
    wsFrameExtractBuffer (wsFrameBuild payload frameType isFin masking mask ++ tail) out =
      (true, FrameOut.of payload frameType isFin mask out masking) := by
  obtain ⟨first, more, bytes, small⟩ := lengthBytes_eq_cons payload.length
  have read := fun rest =>
    payloadLength_lengthBytes (frameHead frameType isFin) payload.length rest short
  simp only [bytes, Nat.add_comm 1] at read
  have sized := wsFrameBuild_length payload frameType isFin mask masking
  simp only [bytes, List.length_cons] at sized
  cases masking with
  | false =>
    have shape : wsFrameBuild payload frameType isFin false mask ++ tail =
        (frameHead frameType isFin :: first :: more) ++ (payload ++ tail) := by
      simp [wsFrameBuild, bytes]
    have plain : first &&& 0x80 = 0 := (top_clear_iff first).mpr small
    rw [shape, extract_plain_append (frameHead frameType isFin :: first :: more) payload tail out
      (by simp) (read (payload ++ tail)) plain]
    have size : (frameHead frameType isFin :: first :: more).length + payload.length =
        (wsFrameBuild payload frameType isFin false mask).length := by
      simp only [sized, List.length_cons, Bool.false_eq_true, if_false]
      omega
    rw [size]
    rfl
  | true =>
    have shape : wsFrameBuild payload frameType isFin true mask ++ tail =
        (frameHead frameType isFin :: (first ||| 0x80) :: more) ++
          (List.ofFn mask ++ (applyMask mask payload ++ tail)) := by
      simp [wsFrameBuild, bytes]
    have length := read (List.ofFn mask ++ (applyMask mask payload ++ tail))
    rw [List.cons_append, ← payloadLength_marked] at length
    rw [shape, extract_marked_append (frameHead frameType isFin :: (first ||| 0x80) :: more) mask
      payload tail out (by simp) length (top_set first)]
    have size : (frameHead frameType isFin :: (first ||| 0x80) :: more).length + 4 +
        payload.length = (wsFrameBuild payload frameType isFin true mask).length := by
      simp only [sized, List.length_cons, if_true]
      omega
    rw [size]
    rfl

theorem wsFrameBuild_payloadLength (short : payload.length < 2 ^ 31) :
    payloadLength (wsFrameBuild payload frameType isFin masking mask) =
        some (payload.length, 1 + (lengthBytes payload.length).length) ∧
      (byteAt (wsFrameBuild payload frameType isFin masking mask) 1 &&& 0x80 ≠ 0 ↔
        masking = true) := by
  obtain ⟨first, more, bytes, small⟩ := lengthBytes_eq_cons payload.length
  have read := fun rest =>
    payloadLength_lengthBytes (frameHead frameType isFin) payload.length rest short
  cases masking with
  | false =>
    refine ⟨read payload, ?_⟩
    have plain : first &&& 0x80 = 0 := (top_clear_iff first).mpr small
    simp [wsFrameBuild, bytes, plain]
  | true =>
    have length := read (List.ofFn mask ++ applyMask mask payload)
    rw [bytes, List.cons_append, ← payloadLength_marked] at length
    constructor
    · simpa [wsFrameBuild, bytes] using length
    · simpa [wsFrameBuild, bytes] using top_set first

theorem extract_incomplete (out : FrameOut) (short : payload.length < 2 ^ 31)
    (missing : arrived < (wsFrameBuild payload frameType isFin masking mask).length) :
    (wsFrameExtractBuffer ((wsFrameBuild payload frameType isFin masking mask).take arrived)
      out).1 = false := by
  obtain ⟨length, marked⟩ := wsFrameBuild_payloadLength payload frameType isFin mask masking short
  apply extract_take_none out (Nat.le_of_lt missing) length
  rw [wsFrameBuild_length] at missing
  cases masking with
  | false =>
    rw [if_neg (by simp [marked])]
    exact missing
  | true =>
    rw [if_pos (marked.mpr rfl)]
    exact missing

theorem extract_oversize (tail : List UInt8) (out : FrameOut) (long : 2 ^ 31 ≤ payload.length)
    (encodable : payload.length < 2 ^ 32) :
    (wsFrameExtractBuffer (wsFrameBuild payload frameType isFin masking mask ++ tail) out).1 =
      false := by
  obtain ⟨first, more, bytes, -⟩ := lengthBytes_eq_cons payload.length
  have unread := fun rest =>
    payloadLength_oversize (frameHead frameType isFin) payload.length rest long encodable
  apply extract_without_length out
  cases masking with
  | false =>
    have shape : wsFrameBuild payload frameType isFin false mask ++ tail =
        frameHead frameType isFin :: (lengthBytes payload.length ++ (payload ++ tail)) := by
      simp [wsFrameBuild]
    rw [shape]
    exact unread _
  | true =>
    have shape : wsFrameBuild payload frameType isFin true mask ++ tail =
        frameHead frameType isFin :: (first ||| 0x80) ::
          (more ++ (List.ofFn mask ++ (applyMask mask payload ++ tail))) := by
      simp [wsFrameBuild, bytes]
    rw [shape, payloadLength_marked, ← List.cons_append, ← bytes]
    exact unread _

theorem frameHead_opcode : (⟨frameHead frameType isFin &&& 0x0F⟩ : WebSocketFrameType) =
    frameType.opcode := by
  cases isFin with
  | false => simp [frameHead, WebSocketFrameType.opcode]
  | true => simp [frameHead, WebSocketFrameType.opcode, nibble_kept]

theorem frameHead_fin : frameHead frameType true &&& 0x80 ≠ 0 := top_set frameType.code

theorem frameHead_unfinished (fourBit : frameType.code.toNat < 16) :
    frameHead frameType false &&& 0x80 = 0 := by
  have plain : frameHead frameType false = frameType.code := UInt8.or_zero
  rw [plain, top_clear_iff]
  omega

theorem opcode_self (fourBit : frameType.code.toNat < 16) : frameType.opcode = frameType := by
  rw [WebSocketFrameType.opcode, nibble_self fourBit]

/-- For every payload below `2 ^ 31` bytes, masked or not. -/
theorem extract_undoes_build (masking : Bool) (tail : List UInt8) (out : FrameOut)
    (short : payload.length < 2 ^ 31) (fourBit : frameType.code.toNat < 16)
    (unfilled : out.payload = []) :
    wsFrameExtractBuffer (wsFrameBuild payload frameType isFin masking mask ++ tail) out =
      (true, {
        payload := payload
        outopcode := frameType
        frameSize := (wsFrameBuild payload frameType isFin masking mask).length
        outfin := isFin }) := by
  have fin : decide (frameHead frameType isFin &&& 0x80 ≠ 0) = isFin := by
    cases isFin with
    | false => simpa using frameHead_unfinished frameType fourBit
    | true => simpa using frameHead_fin frameType
  rw [extract_wsFrameBuild payload frameType isFin mask masking tail out short]
  simp only [FrameOut.of, unfilled, List.nil_append, frameHead_opcode,
    opcode_self frameType fourBit, fin]

theorem extract_undoes_build_masked_text :
    wsFrameExtractBuffer
        (wsFrameBuild [72, 105] .textFrame true true (fun index => UInt8.ofNat (index + 1)) ++
          [0x81]) ⟨[], .errorFrame, 0, false⟩ =
      (true, ⟨[72, 105], .textFrame, 8, true⟩) :=
  extract_undoes_build [72, 105] .textFrame true (fun index => UInt8.ofNat (index + 1)) true [0x81]
    ⟨[], .errorFrame, 0, false⟩ (by decide) (by decide) rfl

end WebSocketFormat

end PssAsio
