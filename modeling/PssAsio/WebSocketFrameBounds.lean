import PssAsio.WebSocketFormatRoundTrip

/-!
`wsFrameExtractBuffer` on arbitrary bytes.
-/

namespace PssAsio

open ByteMemory

namespace WebSocketFormat

/-- The limit is `2 ^ 31` for an `int` and `2 ^ 32` for a `uint32_t`. -/
structure LengthSum where
  exact : Nat
  limit : Nat

def zeroScan (buffer : List UInt8) : List Nat → Bool × List Nat
  | [] => (true, [])
  | index :: rest =>
      if byteAt buffer index ≠ 0 then (false, [index])
      else
        let (zero, accessed) := zeroScan buffer rest
        (zero, index :: accessed)

structure LengthTrace where
  length : Option (UInt32 × UInt32)
  accessed : List Nat
  sums : List LengthSum

def extendedLengthTrace (payloadlen : UInt32) (buffer : List UInt8) : LengthTrace :=
  if payloadlen = 126 then
    if buffer.length < 4 then ⟨none, [], []⟩
    else
      let sum := ((byteAt buffer 2).toNat <<< 8) + (byteAt buffer 3).toNat
      ⟨some (UInt32.ofNat sum, 4), [2, 3], [⟨sum, 2 ^ 31⟩]⟩
  else if payloadlen = 127 then
    if buffer.length < 10 then ⟨none, [], []⟩
    else
      let (zero, accessed) := zeroScan buffer [2, 3, 4, 5]
      if zero = false then ⟨none, accessed, []⟩
      else if byteAt buffer 6 &&& 0x80 ≠ 0 then ⟨none, accessed ++ [6], []⟩
      else
        -- The partial sums are not larger than the whole one.
        let sum := ((byteAt buffer 6).toNat <<< 24) + ((byteAt buffer 7).toNat <<< 16) +
          ((byteAt buffer 8).toNat <<< 8) + (byteAt buffer 9).toNat
        ⟨some (UInt32.ofNat sum, 10), accessed ++ [6, 6, 7, 8, 9], [⟨sum, 2 ^ 31⟩]⟩
  else ⟨some (payloadlen, 2), [], []⟩

structure ExtractTrace where
  accepted : Bool
  out : FrameOut
  accessed : List Nat
  sums : List LengthSum

variable (buffer : List UInt8)

def payloadTrace (seen : FrameOut) (mask : Option MaskKey) (payloadlen pos : UInt32)
    (accessed : List Nat) (sums : List LengthSum) : ExtractTrace :=
  let summed := sums ++ [⟨pos.toNat + payloadlen.toNat, 2 ^ 32⟩]
  if buffer.length < (pos + payloadlen).toNat then ⟨false, seen, accessed, summed⟩
  else
    let data := (buffer.drop pos.toNat).take payloadlen.toNat
    let taken := match mask with
      | some key => applyMask key data
      | none => data
    ⟨true, { seen with
        payload := seen.payload ++ taken
        frameSize := (payloadlen + pos).toNat },
      accessed ++ (List.range payloadlen.toNat).map (pos.toNat + ·),
      summed ++ [⟨payloadlen.toNat + pos.toNat, 2 ^ 32⟩]⟩

def extractTrace (out : FrameOut) : ExtractTrace :=
  if buffer.length < 2 then ⟨false, out, [], []⟩
  else
    let seen := { out with
      outfin := byteAt buffer 0 &&& 0x80 ≠ 0
      outopcode := ⟨byteAt buffer 0 &&& 0x0F⟩ }
    let trace := extendedLengthTrace (byteAt buffer 1 &&& 0x7F).toUInt32 buffer
    let accessed := [0, 0, 1, 1] ++ trace.accessed
    match trace.length with
    | none => ⟨false, seen, accessed, trace.sums⟩
    | some (payloadlen, pos) =>
        if byteAt buffer 1 &&& 0x80 ≠ 0 then
          let summed := trace.sums ++ [⟨pos.toNat + 4, 2 ^ 32⟩]
          if buffer.length < (pos + 4).toNat then ⟨false, seen, accessed, summed⟩
          else
            let mask : MaskKey := fun index => byteAt buffer (pos.toNat + index)
            payloadTrace buffer seen (some mask) payloadlen (pos + 4)
              (accessed ++ (List.range 4).map (pos.toNat + ·)) summed
        else payloadTrace buffer seen none payloadlen pos accessed trace.sums

theorem zeroScan_true_iff (indices : List Nat) :
    (zeroScan buffer indices).1 = true ↔ ∀ index ∈ indices, byteAt buffer index = 0 := by
  induction indices with
  | nil => simp [zeroScan]
  | cons index rest ih =>
    rw [List.forall_mem_cons, ← ih]
    by_cases zero : byteAt buffer index = 0
    · simp [zeroScan, zero]
    · simp [zeroScan, zero]

theorem zeroScan_accessed (indices : List Nat) : (zeroScan buffer indices).2 ⊆ indices := by
  induction indices with
  | nil => exact List.Subset.refl _
  | cons index rest ih =>
    simp only [zeroScan]
    split
    · simp
    · exact List.cons_subset_cons index ih

structure LengthTrace.Sound (trace : LengthTrace) (code : UInt8) (buffer : List UInt8) : Prop where
  agrees : trace.length.map (fun found => (found.1.toNat, found.2.toNat)) =
    extendedLength code buffer
  range : ∀ payloadlen pos, trace.length = some (payloadlen, pos) →
    payloadlen.toNat < 2 ^ 31 ∧ 2 ≤ pos.toNat ∧ pos.toNat ≤ 10
  within : ∀ index ∈ trace.accessed, index < buffer.length
  fits : ∀ sum ∈ trace.sums, sum.exact < sum.limit

theorem word_lt (high low : UInt8) : (high.toNat <<< 8) + low.toNat < 2 ^ 16 := by
  have := high.toNat_lt
  have := low.toNat_lt
  rw [Nat.shiftLeft_eq]
  omega

theorem long_lt {b6 : UInt8} (b7 b8 b9 : UInt8) (clear : b6 &&& 0x80 = 0) :
    (b6.toNat <<< 24) + (b7.toNat <<< 16) + (b8.toNat <<< 8) + b9.toNat < 2 ^ 31 := by
  have := (top_clear_iff b6).mp clear
  have := b7.toNat_lt
  have := b8.toNat_lt
  have := b9.toNat_lt
  simp only [Nat.shiftLeft_eq]
  omega

theorem toUInt32_eq_iff (code : UInt8) (value : UInt8) :
    code.toUInt32 = value.toUInt32 ↔ code = value := by
  rw [← UInt32.toNat_inj, ← UInt8.toNat_inj, UInt8.toNat_toUInt32, UInt8.toNat_toUInt32]

namespace LengthTrace.Sound

variable {code : UInt8} {buffer} {accessed : List Nat}

theorem refused (none : extendedLength code buffer = none)
    (within : ∀ index ∈ accessed, index < buffer.length) :
    Sound ⟨.none, accessed, []⟩ code buffer :=
  ⟨none.symm, by simp, within, by simp⟩

theorem summed {sum : Nat} {pos : UInt32}
    (found : extendedLength code buffer = some (sum, pos.toNat)) (small : sum < 2 ^ 31)
    (first : 2 ≤ pos.toNat) (last : pos.toNat ≤ 10)
    (within : ∀ index ∈ accessed, index < buffer.length) :
    Sound ⟨some (UInt32.ofNat sum, pos), accessed, [⟨sum, 2 ^ 31⟩]⟩ code buffer := by
  have exact : (UInt32.ofNat sum).toNat = sum := by
    rw [UInt32.toNat_ofNat']
    omega
  refine ⟨?_, ?_, within, ?_⟩
  · rw [found, Option.map_some, exact]
  · intro payloadlen position same
    cases same
    rw [exact]
    exact ⟨small, first, last⟩
  · intro other held
    rw [List.mem_singleton.mp held]
    exact small

end LengthTrace.Sound

variable {buffer} {out : FrameOut}

theorem extendedLengthTrace_word : (extendedLengthTrace 126 buffer).Sound 126 buffer := by
  simp only [extendedLengthTrace, if_true]
  split
  · rename_i short
    exact .refused (if_pos short) (by simp)
  · rename_i enough
    have bound := word_lt (byteAt buffer 2) (byteAt buffer 3)
    refine .summed (if_neg enough) (by omega) (by decide) (by decide) ?_
    simp only [List.mem_cons, List.not_mem_nil, or_false, forall_eq_or_imp, forall_eq]
    omega

theorem extendedLengthTrace_long : (extendedLengthTrace 127 buffer).Sound 127 buffer := by
  have notWord : ¬(127 : UInt32) = 126 := by decide
  have zero := zeroScan_true_iff buffer [2, 3, 4, 5]
  have accessed := zeroScan_accessed buffer [2, 3, 4, 5]
  simp only [extendedLengthTrace, notWord, if_false, if_true]
  generalize zeroScan buffer [2, 3, 4, 5] = scan at zero accessed ⊢
  simp only [List.mem_cons, List.not_mem_nil, or_false, forall_eq_or_imp, forall_eq] at zero
  split
  · rename_i short
    exact .refused (by simp [extendedLength, short]) (by simp)
  · rename_i enough
    have scanned : ∀ index ∈ scan.2, index < buffer.length := by
      intro index held
      have listed := accessed held
      simp only [List.mem_cons, List.not_mem_nil, or_false] at listed
      omega
    have last : ∀ index ∈ [6, 6, 7, 8, 9], index < buffer.length := by
      simp only [List.mem_cons, List.not_mem_nil, or_false, forall_eq_or_imp, forall_eq]
      omega
    by_cases zeros : scan.1 = true
    · obtain ⟨b2, b3, b4, b5⟩ := zero.mp zeros
      rw [if_neg (by simp [zeros])]
      by_cases top : byteAt buffer 6 &&& 0x80 = 0
      · rw [if_neg (not_not.mpr top)]
        refine .summed ?_ (long_lt _ _ _ top) (by decide) (by decide)
          (List.forall_mem_append.mpr ⟨scanned, last⟩)
        simp [extendedLength, enough, b2, b3, b4, b5, top]
      · rw [if_pos top]
        refine .refused ?_ (List.forall_mem_append.mpr ⟨scanned, fun index held => ?_⟩)
        · simp [extendedLength, b2, b3, b4, b5, top]
        · exact last index (by simp [List.mem_singleton.mp held])
    · rw [if_pos (by simpa using zeros)]
      refine .refused ?_ scanned
      rw [zero] at zeros
      simp only [extendedLength, enough, if_false]
      rw [if_neg (by decide), if_pos trivial, if_pos (by tauto)]

theorem extendedLengthTrace_sound (code : UInt8) (buffer : List UInt8) :
    (extendedLengthTrace code.toUInt32 buffer).Sound code buffer := by
  by_cases word : code = 126
  · subst word
    exact extendedLengthTrace_word
  by_cases long : code = 127
  · subst long
    exact extendedLengthTrace_long
  · have notWord : ¬code.toUInt32 = 126 := fun same => word ((toUInt32_eq_iff code 126).mp same)
    have notLong : ¬code.toUInt32 = 127 := fun same => long ((toUInt32_eq_iff code 127).mp same)
    have small := code.toNat_lt
    simp only [extendedLengthTrace, notWord, notLong, if_false]
    refine ⟨?_, ?_, by simp, by simp⟩
    · simp [extendedLength, word, long]
    · intro payloadlen pos same
      cases same
      rw [UInt8.toNat_toUInt32]
      exact ⟨by omega, by decide, by decide⟩

section Payload

variable {seen : FrameOut} {mask : Option MaskKey} {payloadlen pos : UInt32}
  {accessed : List Nat} {sums : List LengthSum}
  (small : payloadlen.toNat < 2 ^ 31) (low : pos.toNat ≤ 14)
include small low

theorem add_toNat : (pos + payloadlen).toNat = pos.toNat + payloadlen.toNat := by
  rw [UInt32.toNat_add]
  omega

theorem payloadTrace_within (within : ∀ index ∈ accessed, index < buffer.length) :
    ∀ index ∈ (payloadTrace buffer seen mask payloadlen pos accessed sums).accessed,
      index < buffer.length := by
  simp only [payloadTrace, add_toNat small low]
  split
  · exact within
  · rename_i enough
    refine List.forall_mem_append.mpr ⟨within, ?_⟩
    intro index held
    obtain ⟨offset, below, rfl⟩ := List.mem_map.mp held
    rw [List.mem_range] at below
    omega

theorem payloadTrace_fits (fits : ∀ sum ∈ sums, sum.exact < sum.limit) :
    ∀ sum ∈ (payloadTrace buffer seen mask payloadlen pos accessed sums).sums,
      sum.exact < sum.limit := by
  have first : ∀ sum ∈ [LengthSum.mk (pos.toNat + payloadlen.toNat) (2 ^ 32)],
      sum.exact < sum.limit := by
    simp only [List.mem_singleton, forall_eq]
    omega
  have second : ∀ sum ∈ [LengthSum.mk (payloadlen.toNat + pos.toNat) (2 ^ 32)],
      sum.exact < sum.limit := by
    simp only [List.mem_singleton, forall_eq]
    omega
  simp only [payloadTrace]
  split
  · exact List.forall_mem_append.mpr ⟨fits, first⟩
  · exact List.forall_mem_append.mpr ⟨List.forall_mem_append.mpr ⟨fits, first⟩, second⟩

theorem payloadTrace_out :
    ((payloadTrace buffer seen mask payloadlen pos accessed sums).accepted,
      (payloadTrace buffer seen mask payloadlen pos accessed sums).out) =
      if buffer.length < pos.toNat + payloadlen.toNat then (false, seen)
      else (true, { seen with
        payload := seen.payload ++ (match mask with
          | some key => applyMask key ((buffer.drop pos.toNat).take payloadlen.toNat)
          | none => (buffer.drop pos.toNat).take payloadlen.toNat)
        frameSize := payloadlen.toNat + pos.toNat }) := by
  have size : (payloadlen + pos).toNat = payloadlen.toNat + pos.toNat := by
    rw [UInt32.toNat_add]
    omega
  simp only [payloadTrace, add_toNat small low, size]
  split
  · rfl
  · rfl

end Payload

structure ExtractTrace.Sound (trace : ExtractTrace) (buffer : List UInt8) (out : FrameOut) : Prop
    where
  agrees : (trace.accepted, trace.out) = wsFrameExtractBuffer buffer out
  within : ∀ index ∈ trace.accessed, index < buffer.length
  fits : ∀ sum ∈ trace.sums, sum.exact < sum.limit

theorem extractTrace_sound (buffer : List UInt8) (out : FrameOut) :
    (extractTrace buffer out).Sound buffer out := by
  by_cases started : buffer.length < 2
  · have ended : extractTrace buffer out = ⟨false, out, [], []⟩ := if_pos started
    rw [ended]
    exact ⟨(if_pos started).symm, by simp, by simp⟩
  · have sound := extendedLengthTrace_sound (byteAt buffer 1 &&& 0x7F) buffer
    simp only [extractTrace, if_neg started]
    generalize extendedLengthTrace (byteAt buffer 1 &&& 0x7F).toUInt32 buffer = trace at sound ⊢
    have agrees : trace.length.map (fun found => (found.1.toNat, found.2.toNat)) =
      payloadLength buffer := sound.agrees
    have head : ∀ index ∈ [0, 0, 1, 1] ++ trace.accessed, index < buffer.length := by
      refine List.forall_mem_append.mpr ⟨?_, sound.within⟩
      simp only [List.mem_cons, List.not_mem_nil, or_false, forall_eq_or_imp, forall_eq]
      omega
    cases found : trace.length with
    | none =>
      rw [found, Option.map_none] at agrees
      refine ⟨?_, head, sound.fits⟩
      simp only [wsFrameExtractBuffer, if_neg started, ← agrees]
    | some pair =>
      obtain ⟨payloadlen, pos⟩ := pair
      obtain ⟨small, first, last⟩ := sound.range payloadlen pos found
      have length : payloadLength buffer = some (payloadlen.toNat, pos.toNat) := by
        rw [← agrees, found, Option.map_some]
      by_cases marked : byteAt buffer 1 &&& 0x80 ≠ 0
      · have four : (pos + 4).toNat = pos.toNat + 4 := by
          rw [UInt32.toNat_add, show (4 : UInt32).toNat = 4 from rfl]
          omega
        have low : (pos + 4).toNat ≤ 14 := by omega
        have fits : ∀ sum ∈ trace.sums ++ [⟨pos.toNat + 4, 2 ^ 32⟩], sum.exact < sum.limit := by
          refine List.forall_mem_append.mpr ⟨sound.fits, ?_⟩
          simp only [List.mem_singleton, forall_eq]
          omega
        have extracted := extract_marked out (by omega) length marked
        simp only [if_pos marked, four]
        by_cases short : buffer.length < pos.toNat + 4
        · rw [if_pos short]
          refine ⟨?_, head, fits⟩
          rw [extracted, if_pos (by omega)]
        · rw [if_neg short]
          have masked : ∀ index ∈ [0, 0, 1, 1] ++ trace.accessed ++
              (List.range 4).map (pos.toNat + ·), index < buffer.length := by
            refine List.forall_mem_append.mpr ⟨head, ?_⟩
            intro index held
            obtain ⟨offset, below, rfl⟩ := List.mem_map.mp held
            rw [List.mem_range] at below
            omega
          refine ⟨?_, payloadTrace_within small low masked, payloadTrace_fits small low fits⟩
          rw [payloadTrace_out small low, extracted, four]
      · have low : pos.toNat ≤ 14 := by omega
        simp only [if_neg marked]
        refine ⟨?_, payloadTrace_within small low head, payloadTrace_fits small low sound.fits⟩
        rw [payloadTrace_out small low, extract_plain out (by omega) length (not_not.mp marked)]

section Agreement

variable {buffer other : List UInt8} {size : Nat}

theorem byteAt_agree (agree : other.take size = buffer.take size) {index : Nat}
    (below : index < size) : byteAt other index = byteAt buffer index := by
  rw [← byteAt_take other below, ← byteAt_take buffer below, agree]

theorem payloadLength_agree {payloadlen pos : Nat}
    (length : payloadLength buffer = some (payloadlen, pos)) (second : 1 < size)
    (passed : pos ≤ size) (present : size ≤ other.length)
    (agree : other.take size = buffer.take size) :
    payloadLength other = some (payloadlen, pos) := by
  have same : ∀ index < size, byteAt other index = byteAt buffer index :=
    fun index below => byteAt_agree agree below
  rw [payloadLength] at length ⊢
  rw [same 1 second]
  generalize byteAt buffer 1 &&& 0x7F = code at length ⊢
  unfold extendedLength at length ⊢
  by_cases word : code = 126
  · rw [if_pos word] at length ⊢
    split at length
    · cases length
    · cases length
      rw [if_neg (by omega), same 2 (by omega), same 3 (by omega)]
  by_cases long : code = 127
  · rw [if_neg word, if_pos long] at length ⊢
    split at length
    · cases length
    · split at length
      · cases length
      · split at length
        · cases length
        · rename_i zeros top
          cases length
          simp only [same 2 (by omega), same 3 (by omega), same 4 (by omega), same 5 (by omega),
            same 6 (by omega), same 7 (by omega), same 8 (by omega), same 9 (by omega)]
          rw [if_neg (by omega), if_neg zeros, if_neg top]
  · rw [if_neg word, if_neg long] at length ⊢
    exact length

theorem slice_agree (agree : other.take size = buffer.take size) {offset count : Nat}
    (below : offset + count ≤ size) :
    (other.drop offset).take count = (buffer.drop offset).take count := by
  rw [take_drop_of_take other offset count size below, agree,
    ← take_drop_of_take buffer offset count size below]

end Agreement

def maskSize (buffer : List UInt8) : Nat := if byteAt buffer 1 &&& 0x80 ≠ 0 then 4 else 0

theorem payloadLength_pos {payloadlen pos : Nat}
    (length : payloadLength buffer = some (payloadlen, pos)) : 2 ≤ pos := by
  have sound := extendedLengthTrace_sound (byteAt buffer 1 &&& 0x7F) buffer
  obtain ⟨pair, found, same⟩ := Option.map_eq_some_iff.mp (sound.agrees.trans length)
  cases same
  exact (sound.range pair.1 pair.2 found).2.1

theorem extract_accepted (accepted : (wsFrameExtractBuffer buffer out).1 = true) :
    ∃ payloadlen pos, payloadLength buffer = some (payloadlen, pos) ∧ 2 ≤ pos ∧
      pos + maskSize buffer + payloadlen ≤ buffer.length ∧
      (wsFrameExtractBuffer buffer out).2.frameSize = pos + maskSize buffer + payloadlen := by
  have started : 2 ≤ buffer.length := by
    by_contra short
    rw [wsFrameExtractBuffer, if_pos (by omega)] at accepted
    cases accepted
  cases length : payloadLength buffer with
  | none =>
    rw [extract_without_length out length] at accepted
    cases accepted
  | some pair =>
    obtain ⟨payloadlen, pos⟩ := pair
    refine ⟨payloadlen, pos, rfl, payloadLength_pos length, ?_⟩
    by_cases marked : byteAt buffer 1 &&& 0x80 ≠ 0
    · rw [extract_marked out started length marked] at accepted ⊢
      rw [maskSize, if_pos marked]
      split at accepted
      · cases accepted
      · rename_i enough
        rw [if_neg enough]
        exact ⟨Nat.le_of_not_lt enough, Nat.add_comm _ _⟩
    · rw [extract_plain out started length (not_not.mp marked)] at accepted ⊢
      rw [maskSize, if_neg marked]
      split at accepted
      · cases accepted
      · rename_i enough
        rw [if_neg enough]
        exact ⟨Nat.le_of_not_lt enough, Nat.add_comm _ _⟩

theorem extract_agree {other : List UInt8} (accepted : (wsFrameExtractBuffer buffer out).1 = true)
    (present : (wsFrameExtractBuffer buffer out).2.frameSize ≤ other.length)
    (agree : other.take (wsFrameExtractBuffer buffer out).2.frameSize = buffer.take
      (wsFrameExtractBuffer buffer out).2.frameSize) :
    wsFrameExtractBuffer other out = wsFrameExtractBuffer buffer out := by
  obtain ⟨payloadlen, pos, length, first, fits, size⟩ := extract_accepted accepted
  rw [size] at present agree
  have same : ∀ index < pos + maskSize buffer + payloadlen,
      byteAt other index = byteAt buffer index := fun index below => byteAt_agree agree below
  have otherLength := payloadLength_agree length (by omega) (by omega) present agree
  by_cases marked : byteAt buffer 1 &&& 0x80 ≠ 0
  · simp only [maskSize, if_pos marked] at present agree fits same
    rw [extract_marked out (by omega) length marked, if_neg (by omega),
      extract_marked out (by omega) otherLength (by rw [same 1 (by omega)]; exact marked),
      if_neg (by omega), slice_agree agree (by omega), same 0 (by omega)]
    have key : (fun index : Fin 4 => byteAt other (pos + index)) =
        fun index : Fin 4 => byteAt buffer (pos + index) := by
      funext index
      exact same _ (by omega)
    rw [key]
  · simp only [maskSize, if_neg marked] at present agree fits same
    rw [extract_plain out (by omega) length (not_not.mp marked), if_neg (by omega),
      extract_plain out (by omega) otherLength (by rw [same 1 (by omega)]; exact not_not.mp marked),
      if_neg (by omega), slice_agree agree (by omega), same 0 (by omega)]

theorem extract_refused_payload (refused : (wsFrameExtractBuffer buffer out).1 = false) :
    (wsFrameExtractBuffer buffer out).2.payload = out.payload := by
  by_cases started : 2 ≤ buffer.length
  · cases length : payloadLength buffer with
    | none => simp only [wsFrameExtractBuffer, if_neg (Nat.not_lt.mpr started), length]
    | some pair =>
      by_cases marked : byteAt buffer 1 &&& 0x80 ≠ 0
      · rw [extract_marked out started length marked] at refused ⊢
        split at refused
        · rw [if_pos (by assumption)]
        · cases refused
      · rw [extract_plain out started length (not_not.mp marked)] at refused ⊢
        split at refused
        · rw [if_pos (by assumption)]
        · cases refused
  · rw [wsFrameExtractBuffer, if_pos (Nat.lt_of_not_le started)]

structure FrameFront (buffer : List UInt8) (out : FrameOut) (n : Nat) : Prop where
  started : 2 ≤ n
  present : n ≤ buffer.length
  fits : ∀ sum ∈ (extractTrace buffer out).sums, sum.exact < sum.limit
  decided : ∀ other, n ≤ other.length → other.take n = buffer.take n →
    wsFrameExtractBuffer other out = wsFrameExtractBuffer buffer out
  awaited : ∀ arrived < n, (wsFrameExtractBuffer (buffer.take arrived) out).1 = false ∧
    (wsFrameExtractBuffer (buffer.take arrived) out).2.payload = out.payload

/-- The function is a prefix decoder, on every buffer. -/
theorem extract_prefix_decoder (buffer : List UInt8) (out : FrameOut) :
    ((extractTrace buffer out).accepted, (extractTrace buffer out).out) =
        wsFrameExtractBuffer buffer out ∧
      (∀ index ∈ (extractTrace buffer out).accessed, index < buffer.length) ∧
      ((wsFrameExtractBuffer buffer out).1 = true →
        FrameFront buffer out (wsFrameExtractBuffer buffer out).2.frameSize) := by
  have sound := extractTrace_sound buffer out
  refine ⟨sound.agrees, sound.within, fun accepted => ?_⟩
  obtain ⟨payloadlen, pos, length, first, fits, size⟩ := extract_accepted accepted
  refine ⟨by omega, by omega, sound.fits, ?_, ?_⟩
  · intro other present agree
    exact extract_agree accepted present agree
  · intro arrived missing
    have refused := extract_take_none out (by omega) length (size ▸ missing)
    exact ⟨refused, extract_refused_payload refused⟩

theorem text_frame_front :
    (wsFrameExtractBuffer [0x81, 0x02, 0x48, 0x69, 0x00] ⟨[], .errorFrame, 0, false⟩).1 = true ∧
      FrameFront [0x81, 0x02, 0x48, 0x69, 0x00] ⟨[], .errorFrame, 0, false⟩ 4 :=
  ⟨by decide, (extract_prefix_decoder _ _).2.2 (by decide)⟩

end WebSocketFormat

end PssAsio
