import Mathlib.Data.Nat.Bitwise
import Mathlib.Tactic.IntervalCases
import PssAsio.ByteMemory
import PssAsio.SecureHash
import PssAsio.TransitionRuns

/-!
`CSHA1`: rounds on five registers and a ring of sixteen words, and the streaming of a message.
-/

namespace PssAsio

open BlockStream ByteMemory Function SecureHash TransitionRuns

namespace CSHA1

/-- `m_block` and the registers `a` to `e`, which have the numbers 0 to 4. -/
structure Workspace where
  block : Nat → Word
  registers : Nat → Word

def rol32 (value : Word) (bits : Nat) : Word := value <<< bits ||| value >>> (32 - bits)

def shablk0 (block : Nat → Word) (i : Nat) : Word :=
  (rol32 (block i) 24 &&& 0xFF00FF00#32) ||| (rol32 (block i) 8 &&& 0x00FF00FF#32)

def shablk (block : Nat → Word) (i : Nat) : Word :=
  rol32 (block ((i + 13) % 16) ^^^ block ((i + 8) % 16) ^^^ block ((i + 2) % 16) ^^^
    block (i % 16)) 1

def sRound (mixed : Word → Word → Word → Word) (constant : Word)
    (schedule : (Nat → Word) → Nat → Word) (space : Workspace) (v w x y z i : Nat) : Workspace :=
  let scheduled := schedule space.block i
  let old := space.registers
  let added := update old z
    (old z + (mixed (old w) (old x) (old y) + scheduled + constant + rol32 (old v) 5))
  ⟨update space.block (i % 16) scheduled, update added w (rol32 (added w) 30)⟩

def choose (w x y : Word) : Word := (w &&& (x ^^^ y)) ^^^ y

def sR0 := sRound choose 0x5A827999#32 shablk0
def sR1 := sRound choose 0x5A827999#32 shablk
def sR2 := sRound (· ^^^ · ^^^ ·) 0x6ED9EBA1#32 shablk
def sR3 := sRound (fun w x y => ((w ||| x) &&& y) ||| (w &&& x)) 0x8F1BBCDC#32 shablk
def sR4 := sRound (· ^^^ · ^^^ ·) 0xCA62C1D6#32 shablk

/-- The call number `i` of the unrolled loop. From one call to the next the names of the registers
are shifted by one. -/
def call (i : Nat) (space : Workspace) : Workspace :=
  (if i < 16 then sR0 else if i < 20 then sR1 else if i < 40 then sR2 else if i < 60 then sR3
    else sR4) space (4 * i % 5) ((4 * i + 1) % 5) ((4 * i + 2) % 5) ((4 * i + 3) % 5)
    ((4 * i + 4) % 5) i

def calls (space : Workspace) : Nat → Workspace
  | 0 => space
  | i + 1 => call i (calls space i)

/-- `memcpy` to the workspace of a little-endian machine. -/
def loaded (pBuffer : List UInt8) (i : Nat) : Word :=
  joinBytes (pBuffer.getD (4 * i + 3) 0) (pBuffer.getD (4 * i + 2) 0) (pBuffer.getD (4 * i + 1) 0)
    (pBuffer.getD (4 * i) 0)

def register (state : Words) : Nat → Word
  | 0 => state.a
  | 1 => state.b
  | 2 => state.c
  | 3 => state.d
  | _ => state.e

def transform (pState : Words) (pBuffer : List UInt8) : Words :=
  let registers := (calls ⟨loaded pBuffer, register pState⟩ 80).registers
  ⟨pState.a + registers 0, pState.b + registers 1, pState.c + registers 2, pState.d + registers 3,
    pState.e + registers 4⟩

theorem byteSwap (first second third fourth : UInt8) :
    shablk0 (fun _ => joinBytes fourth third second first) 0 =
      joinBytes first second third fourth := by
  ext i inside
  simp only [shablk0, rol32, joinBytes]
  interval_cases i <;> simp

theorem choose_eq (w x y : Word) : choose w x y = (w &&& x) ^^^ (~~~w &&& y) := by
  ext i inside
  simp only [choose, BitVec.getElem_xor, BitVec.getElem_and, BitVec.getElem_not]
  cases w[i] <;> cases x[i] <;> cases y[i] <;> rfl

theorem majority_eq (w x y : Word) :
    ((w ||| x) &&& y) ||| (w &&& x) = (w &&& x) ^^^ (w &&& y) ^^^ (x &&& y) := by
  ext i inside
  simp only [BitVec.getElem_xor, BitVec.getElem_and, BitVec.getElem_or]
  cases w[i] <;> cases x[i] <;> cases y[i] <;> rfl

/-- Before the call number `t` the ring holds the next sixteen words, those of the message as they
were copied, and the registers are named from the one with number `4 * t`. -/
structure Follows (bytes : List UInt8) (t : Nat) (space : Workspace) (words : Words) : Prop where
  ring : ∀ j, t ≤ j → j < t + 16 →
    space.block (j % 16) = if j < 16 then loaded bytes j else scheduleWord bytes (j - 16)
  named : ∀ k < 5, space.registers ((4 * t + k) % 5) = register words k

variable {bytes : List UInt8} {t : Nat} {space : Workspace} {words : Words}

theorem Follows.shablk0 (follows : Follows bytes t space words) (early : t < 16) :
    shablk0 space.block t = scheduleWord bytes t := by
  have held := follows.ring t (Nat.le_refl t) (by omega)
  rw [Nat.mod_eq_of_lt early, if_pos early] at held
  rw [scheduleWord, if_pos early, message, ← byteSwap]
  simp only [CSHA1.shablk0, held, loaded]

theorem Follows.shablk (follows : Follows bytes t space words) (late : ¬t < 16) :
    shablk space.block t = scheduleWord bytes t := by
  have held : ∀ ahead < 16,
      space.block ((t + ahead) % 16) = scheduleWord bytes (t + ahead - 16) := by
    intro ahead near
    rw [follows.ring (t + ahead) (by omega) (by omega), if_neg (by omega)]
  have oldest : space.block (t % 16) = scheduleWord bytes (t - 16) := held 0 (by decide)
  rw [scheduleWord, if_neg late, CSHA1.shablk, held 13 (by decide), held 8 (by decide),
    held 2 (by decide), oldest, show t + 13 - 16 = t - 3 by omega, show t + 8 - 16 = t - 8 by omega,
    show t + 2 - 16 = t - 14 by omega]
  rfl

theorem Follows.sRound (follows : Follows bytes t space words)
    {mixed : Word → Word → Word → Word} {constant : Word} {schedule : (Nat → Word) → Nat → Word}
    (mixes : mixed words.b words.c words.d = logical t words.b words.c words.d)
    (adds : constant = roundConstant t)
    (scheduled : schedule space.block t = scheduleWord bytes t) :
    Follows bytes (t + 1)
      (sRound mixed constant schedule space (4 * t % 5) ((4 * t + 1) % 5) ((4 * t + 2) % 5)
        ((4 * t + 3) % 5) ((4 * t + 4) % 5) t) (mixRound bytes t words) := by
  have old : space.registers (4 * t % 5) = words.a ∧ _ = words.b ∧ _ = words.c ∧ _ = words.d ∧
      _ = words.e :=
    ⟨follows.named 0 (by decide), follows.named 1 (by decide), follows.named 2 (by decide),
      follows.named 3 (by decide), follows.named 4 (by decide)⟩
  refine ⟨fun j after within => ?_, fun k below => ?_⟩
  · simp only [CSHA1.sRound, scheduled]
    by_cases last : j = t + 16
    · -- the slot of the word used now is that of word `t + 16`
      rw [last, if_neg (by omega), Nat.add_mod_right, Function.update_self, Nat.add_sub_cancel]
    · rw [Function.update_of_ne (by omega)]
      exact follows.ring j (by omega) (by omega)
  · simp only [CSHA1.sRound, old, mixes, adds, scheduled]
    match k with
    | 0 =>
      rw [show (4 * (t + 1) + 0) % 5 = (4 * t + 4) % 5 by omega, Function.update_of_ne (by omega),
        Function.update_self, show rol32 words.a 5 = words.a.rotateLeft 5 from rfl]
      simp only [mixRound, register]
      ac_rfl
    | k + 1 =>
      rw [show (4 * (t + 1) + (k + 1)) % 5 = (4 * t + k) % 5 by omega]
      by_cases turned : k = 1
      · rw [turned, Function.update_self, Function.update_of_ne (by omega), old.2.1]
        rfl
      · rw [Function.update_of_ne (by omega), Function.update_of_ne (by omega),
          follows.named k (by omega)]
        match k with
        | 0 | 2 | 3 => rfl

theorem Follows.call (follows : Follows bytes t space words) :
    Follows bytes (t + 1) (call t space) (mixRound bytes t words) := by
  unfold CSHA1.call
  split
  · have early : t < 20 := by omega
    exact follows.sRound (by simp [logical, choose_eq, early]) (by simp [roundConstant, early])
      (follows.shablk0 ‹_›)
  · have scheduled := follows.shablk ‹_›
    split
    · exact follows.sRound (by simp [logical, choose_eq, *]) (by simp [roundConstant, *]) scheduled
    · split
      · exact follows.sRound (by simp [logical, *]) (by simp [roundConstant, *]) scheduled
      · split
        · exact follows.sRound (by simp [logical, majority_eq, *]) (by simp [roundConstant, *])
            scheduled
        · exact follows.sRound (by simp [logical, *]) (by simp [roundConstant, *]) scheduled

theorem calls_follows (words : Words) (bytes : List UInt8) (t : Nat) :
    Follows bytes t (calls ⟨loaded bytes, register words⟩ t) (mixRounds bytes words t) := by
  induction t with
  | zero =>
    refine ⟨fun j _ near => ?_, fun k below => ?_⟩
    · have inside : j < 16 := by omega
      rw [if_pos inside, Nat.mod_eq_of_lt inside]
      rfl
    · rw [Nat.mul_zero, Nat.zero_add, Nat.mod_eq_of_lt below]
      rfl
  | succ t ih => exact ih.call

theorem transform_eq_compress (words : Words) (bytes : List UInt8) :
    transform words bytes = compress words bytes := by
  have named := (calls_follows words bytes 80).named
  have a := named 0 (by decide)
  have b := named 1 (by decide)
  have c := named 2 (by decide)
  have d := named 3 (by decide)
  have e := named 4 (by decide)
  simp only [Nat.reduceMul, Nat.reduceAdd, Nat.reduceMod, register] at a b c d e
  simp only [transform, compress, a, b, c, d, e]

end CSHA1

/-- The two words of `m_count` are numbers below `2 ^ 32`. -/
structure CSHA1 where
  state : Words
  count0 : Nat
  count1 : Nat
  buffer : List UInt8
  digest : List UInt8

namespace CSHA1

def reset (hash : CSHA1) : CSHA1 := { hash with state := initial, count0 := 0, count1 := 0 }

/-- The constructor, which leaves what is in the memory of the buffer. -/
def create (memory : Fin 64 → UInt8) : CSHA1 := reset ⟨initial, 0, 0, List.ofFn memory, []⟩

def transformLoop (pbData : List UInt8) (uLen : Nat) : Nat → Nat → Words → Option (Nat × Words)
  | 0, _, _ => none
  | turns + 1, i, state =>
      if (i + 63) % 2 ^ 32 < uLen then
        transformLoop pbData uLen turns ((i + 64) % 2 ^ 32)
          (transform state ((pbData.drop i).take 64))
      else some (i, state)

/-- The new `m_count`, where an overflow of the lower word is carried. -/
def advance (hash : CSHA1) (uLen : Nat) : Nat × Nat :=
  let bits := uLen * 8 % 2 ^ 32
  let count0 := (hash.count0 + bits) % 2 ^ 32
  let carried := if count0 < bits then (hash.count1 + 1) % 2 ^ 32 else hash.count1
  (count0, (carried + uLen / 2 ^ 29) % 2 ^ 32)

def update (hash : CSHA1) (pbData : List UInt8) (uLen : Nat) : Option CSHA1 :=
  let j := hash.count0 / 8 % 64
  let (count0, count1) := hash.advance uLen
  if 63 < (j + uLen) % 2 ^ 32 then
    let filled := patch hash.buffer j (pbData.take (64 - j))
    (transformLoop pbData uLen (uLen + 1) (64 - j) (transform hash.state filled)).map fun looped =>
      { hash with
        state := looped.2, count0, count1
        buffer := patch filled 0 ((pbData.drop looped.1).take (uLen - looped.1)) }
  else some { hash with count0, count1, buffer := patch hash.buffer j (pbData.take uLen) }

def padLoop : Nat → CSHA1 → Option CSHA1
  | 0, _ => none
  | turns + 1, hash =>
      if hash.count0 &&& 504 ≠ 448 then (hash.update [0] 1).bind (padLoop turns) else some hash

def digestOf (state : Words) : List UInt8 :=
  (List.range 20).map fun i =>
    UInt8.ofBitVec ((register state (i / 4) >>> ((3 - i % 4) * 8)).setWidth 8)

def finalCount (hash : CSHA1) : List UInt8 :=
  (List.range 8).map fun i =>
    UInt8.ofNat ((if 4 ≤ i then hash.count0 else hash.count1) / 2 ^ ((3 - i % 4) * 8))

def final (hash : CSHA1) : Option CSHA1 :=
  ((hash.update [0x80] 1).bind (padLoop 65)).bind fun padded =>
    (padded.update hash.finalCount 8).map fun last =>
      -- what was in the object is wiped, and one more `Transform` goes over it
      { state := transform ⟨0, 0, 0, 0, 0⟩ (List.replicate 64 0), count0 := 0, count1 := 0
        buffer := List.replicate 64 0, digest := digestOf last.state }

/-! The streaming. -/

theorem transformLoop_eq {data : List UInt8} (fits : data.length + 63 < 2 ^ 32) (turns i : Nat)
    (state : Words) (within : i ≤ data.length) (enough : data.length - i < 64 * turns) :
    ∃ last, transformLoop data data.length turns i state =
        some (last, absorb 64 transform state (data.drop i)) ∧
      data.drop last = leftover 64 (data.drop i) := by
  induction turns generalizing i state with
  | zero => omega
  | succ turns ih =>
    rw [transformLoop, Nat.mod_eq_of_lt (by omega)]
    have rest := List.length_drop (i := i) (l := data)
    by_cases whole : i + 63 < data.length
    · rw [if_pos whole, Nat.mod_eq_of_lt (by omega), absorb_of_le transform state (by decide)
        (by omega), leftover_of_le (by decide) (by omega), List.drop_drop]
      exact ih (i + 64) _ (by omega) (by omega)
    · rw [if_neg whole, absorb_of_lt transform state (by omega), leftover_of_lt (by omega)]
      exact ⟨i, rfl, rfl⟩

theorem patch_held {buffer : List UInt8} (held data : List UInt8) (size : buffer.length = 64)
    (front : buffer.take held.length = held) (fits : held.length + data.length ≤ 64) :
    (patch buffer held.length data).length = 64 ∧
      (patch buffer held.length data).take (held.length + data.length) = held ++ data := by
  refine ⟨(patch_length buffer held.length data (by omega)).trans size, ?_⟩
  rw [patch_take buffer held.length data (by omega), front]

variable {hash : CSHA1} {seen held data : List UInt8}

theorem update_eq (position : hash.count0 / 8 % 64 = held.length) (size : hash.buffer.length = 64)
    (front : hash.buffer.take held.length = held) (fits : data.length + 63 < 2 ^ 32) :
    ∃ buffer, hash.update data data.length = some ⟨absorb 64 transform hash.state (held ++ data),
        (hash.advance data.length).1, (hash.advance data.length).2, buffer, hash.digest⟩ ∧
      buffer.length = 64 ∧
      buffer.take (leftover 64 (held ++ data)).length = leftover 64 (held ++ data) := by
  have short : held.length < 64 := position ▸ Nat.mod_lt _ (by decide)
  have both : (held ++ data).length = held.length + data.length := List.length_append
  simp only [update, position]
  rw [Nat.mod_eq_of_lt (by omega)]
  by_cases whole : 63 < held.length + data.length
  · -- the first block ends in the buffer, the others are read from the data
    have taken : (data.take (64 - held.length)).length = 64 - held.length := by
      rw [List.length_take]
      omega
    obtain ⟨filledSize, filled⟩ := patch_held held (data.take (64 - held.length)) size front
      (by omega)
    rw [taken, Nat.add_sub_cancel' short.le, List.take_of_length_le filledSize.le] at filled
    obtain ⟨last, looped, rest⟩ := transformLoop_eq fits (data.length + 1) (64 - held.length)
      (transform hash.state (held ++ data.take (64 - held.length))) (by omega) (by omega)
    have restSize : (leftover 64 (data.drop (64 - held.length))).length < 64 :=
      (leftover_length 64 _).trans_lt (Nat.mod_lt _ (by decide))
    have copied : (data.drop last).take (data.length - last) = data.drop last :=
      List.take_of_length_le List.length_drop.le
    rw [if_pos whole, filled, looped, absorb_of_le transform hash.state (by decide) (by omega),
      leftover_of_le (by decide) (by omega), List.take_append, List.drop_append,
      List.take_of_length_le short.le, List.drop_of_length_le short.le, List.nil_append,
      Option.map_some, copied, rest]
    have full : (held ++ data.take (64 - held.length)).length = 64 := filled ▸ filledSize
    obtain ⟨kept, stored⟩ := patch_held [] (leftover 64 (data.drop (64 - held.length))) full rfl
      (by rw [List.length_nil]; omega)
    rw [List.length_nil, Nat.zero_add] at stored
    exact ⟨_, rfl, kept, stored⟩
  · obtain ⟨kept, stored⟩ := patch_held held data size front (by omega)
    rw [if_neg whole, List.take_length, absorb_of_lt transform hash.state (by omega),
      leftover_of_lt (by omega), both]
    exact ⟨_, rfl, kept, stored⟩

/-- What the object knows of the bytes it has seen. -/
structure Holds (hash : CSHA1) (seen : List UInt8) : Prop where
  state : hash.state = absorb 64 transform initial seen
  count : hash.count0 + 2 ^ 32 * hash.count1 = 8 * seen.length % 2 ^ 64
  small : hash.count0 < 2 ^ 32
  size : hash.buffer.length = 64
  rest : hash.buffer.take (leftover 64 seen).length = leftover 64 seen

theorem Holds.advance (holds : Holds hash seen) (data : List UInt8) :
    (hash.advance data.length).1 + 2 ^ 32 * (hash.advance data.length).2 =
      8 * (seen ++ data).length % 2 ^ 64 := by
  have count := holds.count
  have small := holds.small
  simp only [CSHA1.advance, List.length_append]
  split <;> omega

theorem Holds.update (holds : Holds hash seen) (data : List UInt8)
    (fits : data.length + 63 < 2 ^ 32) :
    ∃ next, hash.update data data.length = some next ∧ Holds next (seen ++ data) := by
  have position : hash.count0 / 8 % 64 = (leftover 64 seen).length := by
    have count := holds.count
    rw [leftover_length]
    omega
  obtain ⟨absorbed, left⟩ := absorb_append transform (by decide : 0 < 64) initial seen data
  obtain ⟨buffer, updated, size, rest⟩ := update_eq position holds.size holds.rest fits
  rw [holds.state, ← absorbed] at updated
  rw [← left] at rest
  exact ⟨_, updated, rfl, holds.advance data, Nat.mod_lt _ (by decide), size, rest⟩

theorem and_504 (count : Nat) : count &&& 504 = count / 8 % 64 * 8 := by
  have masked : ∀ low < 2 ^ 9, low &&& 504 = low / 8 % 64 * 8 := by decide +kernel
  have cut : count &&& 504 = count % 2 ^ 9 &&& 504 := by
    rw [← Nat.and_two_pow_sub_one_eq_mod, Nat.and_assoc]
    rfl
  rw [cut, masked _ (Nat.mod_lt _ (by decide))]
  omega

theorem Holds.padLoop (holds : Holds hash seen) (zeros turns : Nat)
    (missing : zeros = (120 - seen.length % 64) % 64) (enough : zeros < turns) :
    ∃ next, padLoop turns hash = some next ∧ Holds next (seen ++ List.replicate zeros 0) := by
  have count := holds.count
  induction zeros generalizing hash seen turns with
  | zero =>
    obtain ⟨turns, rfl⟩ := Nat.exists_eq_add_one.mpr enough
    rw [CSHA1.padLoop, and_504, if_neg (by omega), List.replicate_zero, List.append_nil]
    exact ⟨hash, rfl, holds⟩
  | succ zeros ih =>
    obtain ⟨turns, rfl⟩ := Nat.exists_eq_add_one.mpr (Nat.zero_lt_of_lt enough)
    obtain ⟨next, updated, held⟩ := holds.update [0] (by decide)
    have longer : (seen ++ [0]).length = seen.length + 1 := List.length_append
    rw [CSHA1.padLoop, and_504, if_pos (by omega), show hash.update [0] 1 = some next from updated,
      Option.bind_some, List.replicate_succ, List.append_cons]
    exact ih held turns (by omega) (by omega) held.count

theorem Holds.finalCount (holds : Holds hash seen) : hash.finalCount = lengthBytes seen.length := by
  have count := holds.count
  have small := holds.small
  refine List.map_congr_left fun i inside => ?_
  have below := List.mem_range.mp inside
  rw [← UInt8.toNat_inj, UInt8.toNat_ofNat', UInt8.toNat_ofNat']
  interval_cases i <;> simp <;> omega

theorem Holds.final (holds : Holds hash seen) : hash.final.map (·.digest) = some (sha1 seen) := by
  obtain ⟨marked, updated, holdsMark⟩ := holds.update [0x80] (by decide)
  obtain ⟨padded, looped, holdsPad⟩ := holdsMark.padLoop ((119 - seen.length % 64) % 64) 65
    (by simp only [List.length_append, List.length_singleton]; omega) (by omega)
  obtain ⟨last, counted, holdsLast⟩ := holdsPad.update
    (lengthBytes seen.length) (by simp [lengthBytes])
  have compressed : transform = compress := funext₂ transform_eq_compress
  simp only [CSHA1.final, holds.finalCount, show hash.update [0x80] 1 = some marked from updated,
    looped, show padded.update _ 8 = some last from counted, Option.bind_some, Option.map_some,
    holdsLast.state, compressed, sha1, padding, List.append_assoc, List.cons_append]
  rfl

theorem Holds.run (holds : Holds hash seen) (chunks : List (List UInt8))
    (fits : ∀ chunk ∈ chunks, chunk.length + 63 < 2 ^ 32) :
    ∃ next, run (fun hash chunk => hash.update chunk chunk.length) hash chunks = some next ∧
      Holds next (seen ++ chunks.flatten) := by
  induction chunks generalizing hash seen with
  | nil => exact ⟨hash, rfl, by simpa using holds⟩
  | cons chunk rest ih =>
    obtain ⟨first, later⟩ := List.forall_mem_cons.mp fits
    obtain ⟨middle, updated, held⟩ := holds.update chunk first
    obtain ⟨next, ran, ended⟩ := ih held later
    rw [List.flatten_cons, ← List.append_assoc]
    exact ⟨next, run_cons_eq_some.mpr ⟨middle, updated, ran⟩, ended⟩

theorem create_holds (memory : Fin 64 → UInt8) : Holds (create memory) [] :=
  ⟨rfl, rfl, Nat.two_pow_pos 32, List.length_ofFn, rfl⟩

/-- However the bytes are cut into calls of `Update`, `Final` leaves the hash of all of them. -/
theorem digest_eq_sha1 (memory : Fin 64 → UInt8) (chunks : List (List UInt8))
    (fits : ∀ chunk ∈ chunks, chunk.length + 63 < 2 ^ 32) :
    ((run (fun hash chunk => hash.update chunk chunk.length) (create memory) chunks).bind final).map
      (·.digest) = some (sha1 chunks.flatten) := by
  obtain ⟨last, ran, holds⟩ := (create_holds memory).run chunks fits
  rw [ran, Option.bind_some]
  exact holds.final

theorem digest_of_two_chunks :
    ((run (fun hash chunk => hash.update chunk chunk.length) (create fun _ => 7)
      [[97, 98], [99]]).bind final).map (·.digest) = some (sha1 [97, 98, 99]) :=
  digest_eq_sha1 (fun _ => 7) [[97, 98], [99]] (by decide)

end CSHA1

end PssAsio
