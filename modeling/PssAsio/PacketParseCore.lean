import PssAsio.SessionBufferCore

/-!
The packet parser plugin `PacketParse_Interface`. A call also reports where its furthest access
ended.
-/

namespace PssAsio

open ByteMemory

structure MessagePacket where
  commandId : UInt16
  buffer : List UInt8
  deriving DecidableEq

structure PacketHeader where
  packetVersion : UInt16
  commandId : UInt16
  packetBodyLength : Nat
  packetSession : List UInt8

def parseHeader (bytes : List UInt8) : PacketHeader where
  packetVersion := UInt16.ofNat (littleEndian (bytes.take 2))
  commandId := UInt16.ofNat (littleEndian ((bytes.drop 2).take 2))
  packetBodyLength := littleEndian ((bytes.drop 4).take 4)
  packetSession := (bytes.drop 8).take 32

def headerSize : Nat := 40

def bodyLimit : Nat := 1024000

inductive StreamOutcome where
  | returned (ret : Bool) (buffer : SessionBuffer) (messageList : List MessagePacket)
  | fault
  | running

structure StreamTrace where
  outcome : StreamOutcome
  readEnd : Nat

def streamLoop (buffer : SessionBuffer) :
    (fuel packetPos buffLength : Nat) → List MessagePacket → (readEnd : Nat) → StreamTrace
  | 0, _, _, _, readEnd => ⟨.running, readEnd⟩
  | fuel + 1, packetPos, buffLength, messageList, readEnd =>
      if buffLength < headerSize then
        ⟨.returned true (buffer.move packetPos) messageList, readEnd⟩
      else
        let headerEnd := max readEnd (packetPos + headerSize)
        match buffer.readBytes packetPos headerSize with
        | none => ⟨.fault, headerEnd⟩
        | some bytes =>
          let header := parseHeader bytes
          if bodyLimit ≤ header.packetBodyLength then
            ⟨.returned false buffer messageList, headerEnd⟩
          else if header.packetBodyLength = 0 then
            streamLoop buffer fuel ((packetPos + headerSize) % 2 ^ 32) (buffLength - headerSize)
              (messageList ++ [⟨header.commandId, bytes⟩]) headerEnd
          -- The test leaves the header out: the body alone is compared.
          else if buffLength < header.packetBodyLength then
            ⟨.returned true (buffer.move packetPos) messageList, headerEnd⟩
          else
            let currPacketSize := headerSize + header.packetBodyLength
            let packetEnd := max headerEnd (packetPos + currPacketSize)
            match buffer.readBytes packetPos currPacketSize with
            | none => ⟨.fault, packetEnd⟩
            | some packet =>
              streamLoop buffer fuel ((packetPos + currPacketSize) % 2 ^ 32)
                ((buffLength + (2 ^ 64 - currPacketSize)) % 2 ^ 64)
                (messageList ++ [⟨header.commandId, packet⟩]) packetEnd

variable (buffer : SessionBuffer)

def parsePacketFromRecvBufferStream : StreamTrace :=
  streamLoop buffer (buffer.maxBuffSize + 2) 0 buffer.getWriteSize [] 0

/-- What is left of `buff_length` after the packet is moved away, not the packet. -/
def parsePacketFromRecvBufferSingle : StreamTrace :=
  let buffLength := buffer.getWriteSize
  if buffLength < headerSize then ⟨.returned false (buffer.move buffLength) [], 0⟩
  else
    match buffer.readBytes 0 headerSize with
    | none => ⟨.fault, headerSize⟩
    | some bytes =>
      let header := parseHeader bytes
      if bodyLimit ≤ header.packetBodyLength then
        ⟨.returned false (buffer.move buffLength) [], headerSize⟩
      else if header.packetBodyLength = 0 then
        ⟨.returned true (buffer.move (buffLength - headerSize)) [⟨header.commandId, bytes⟩],
          headerSize⟩
      else if buffLength < header.packetBodyLength then
        ⟨.returned false (buffer.move buffLength) [], headerSize⟩
      else
        let currPacketSize := headerSize + header.packetBodyLength
        match buffer.readBytes 0 currPacketSize with
        | none => ⟨.fault, currPacketSize⟩
        | some packet =>
          ⟨.returned true (buffer.move ((buffLength + (2 ^ 64 - currPacketSize)) % 2 ^ 64))
            [⟨header.commandId, packet⟩], currPacketSize⟩

theorem readBytes_some {buffer : SessionBuffer} {offset size : Nat} {bytes : List UInt8}
    (found : buffer.readBytes offset size = some bytes) : offset + size ≤ buffer.maxBuffSize := by
  simp only [SessionBuffer.readBytes] at found
  split at found
  · assumption
  · simp at found

theorem streamLoop_round (fuel packetPos buffLength : Nat) (messageList : List MessagePacket)
    (readEnd : Nat) :
    (∃ outcome reached,
      streamLoop buffer (fuel + 1) packetPos buffLength messageList readEnd = ⟨outcome, reached⟩ ∧
        readEnd ≤ reached ∧ outcome ≠ .running ∧ ∀ ret next emitted,
          outcome = .returned ret next emitted →
            next = buffer ∨ ∃ count, next = buffer.move count) ∨
      ∃ size rest packets reached, 0 < size ∧ packetPos + size ≤ buffer.maxBuffSize ∧
        readEnd ≤ reached ∧
          streamLoop buffer (fuel + 1) packetPos buffLength messageList readEnd =
            streamLoop buffer fuel ((packetPos + size) % 2 ^ 32) rest packets reached := by
  have moved : ∀ ret packets ret' next emitted,
      StreamOutcome.returned ret (buffer.move packetPos) packets = .returned ret' next emitted →
        next = buffer ∨ ∃ count, next = buffer.move count := by
    intro ret packets ret' next emitted same
    cases same
    exact .inr ⟨packetPos, rfl⟩
  simp only [streamLoop]
  split
  · exact .inl ⟨_, _, rfl, Nat.le_refl _, by simp, moved _ _⟩
  · split
    · exact .inl ⟨_, _, rfl, Nat.le_max_left _ _, by simp, by simp⟩
    · rename_i bytes header
      have headerInside := readBytes_some header
      split
      · refine .inl ⟨_, _, rfl, Nat.le_max_left _ _, by simp, ?_⟩
        rintro ret next emitted ⟨rfl, rfl, rfl⟩
        exact .inl rfl
      · split
        · exact .inr ⟨headerSize, _, _, _, by decide, headerInside, Nat.le_max_left _ _, rfl⟩
        · split
          · exact .inl ⟨_, _, rfl, Nat.le_max_left _ _, by simp, moved _ _⟩
          · split
            · exact .inl ⟨_, _, rfl, by omega, by simp, by simp⟩
            · rename_i packet found
              refine .inr ⟨_, _, _, _, ?_, readBytes_some found, ?_, rfl⟩
              · simp only [headerSize]
                omega
              · omega

theorem streamLoop_readEnd (fuel packetPos buffLength : Nat) (messageList : List MessagePacket)
    (readEnd : Nat) :
    readEnd ≤ (streamLoop buffer fuel packetPos buffLength messageList readEnd).readEnd := by
  induction fuel generalizing packetPos buffLength messageList readEnd with
  | zero => exact Nat.le_refl _
  | succ fuel ih =>
    rcases streamLoop_round buffer fuel packetPos buffLength messageList readEnd with
      ⟨outcome, reached, same, further, -, -⟩ | ⟨size, rest, packets, reached, -, -, further, same⟩
    · rw [same]
      exact further
    · rw [same]
      exact Nat.le_trans further (ih _ _ _ _)

theorem streamLoop_moved {buffer next : SessionBuffer} {fuel packetPos buffLength : Nat}
    {messageList emitted : List MessagePacket} {readEnd : Nat} {ret : Bool}
    (returned : (streamLoop buffer fuel packetPos buffLength messageList readEnd).outcome =
      .returned ret next emitted) : next = buffer ∨ ∃ count, next = buffer.move count := by
  induction fuel generalizing packetPos buffLength messageList readEnd with
  | zero => simp [streamLoop] at returned
  | succ fuel ih =>
    rcases streamLoop_round buffer fuel packetPos buffLength messageList readEnd with
      ⟨outcome, reached, same, -, -, kept⟩ | ⟨size, rest, packets, reached, -, -, -, same⟩
    · rw [same] at returned
      exact kept ret next emitted returned
    · rw [same] at returned
      exact ih returned

theorem parsePacketFromRecvBufferSingle_maxBuffSize {buffer next : SessionBuffer} {ret : Bool}
    {messageList : List MessagePacket}
    (returned : (parsePacketFromRecvBufferSingle buffer).outcome = .returned ret next messageList) :
    next.maxBuffSize = buffer.maxBuffSize := by
  simp only [parsePacketFromRecvBufferSingle] at returned
  split at returned
  · cases returned
    exact buffer.move_maxBuffSize _
  · split at returned
    · cases returned
    · split at returned
      · cases returned
        exact buffer.move_maxBuffSize _
      · split at returned
        · cases returned
          exact buffer.move_maxBuffSize _
        · split at returned
          · cases returned
            exact buffer.move_maxBuffSize _
          · split at returned
            · cases returned
            · cases returned
              exact buffer.move_maxBuffSize _

theorem streamLoop_ends (small : buffer.maxBuffSize < 2 ^ 32) (fuel packetPos buffLength : Nat)
    (messageList : List MessagePacket) (readEnd : Nat) (inside : packetPos ≤ buffer.maxBuffSize)
    (enough : buffer.maxBuffSize < packetPos + fuel) :
    (streamLoop buffer fuel packetPos buffLength messageList readEnd).outcome ≠ .running := by
  induction fuel generalizing packetPos buffLength messageList readEnd with
  | zero => omega
  | succ fuel ih =>
    rcases streamLoop_round buffer fuel packetPos buffLength messageList readEnd with
      ⟨outcome, reached, same, -, ended, -⟩ | ⟨size, rest, packets, reached, taken, fits, -, same⟩
    · rw [same]
      exact ended
    · rw [same]
      apply ih <;> rw [Nat.mod_eq_of_lt (by omega)] <;> omega

theorem parsePacketFromRecvBufferStream_ends (small : buffer.maxBuffSize < 2 ^ 32) :
    (parsePacketFromRecvBufferStream buffer).outcome ≠ .running :=
  streamLoop_ends buffer small _ _ _ _ _ (Nat.zero_le _) (by omega)

end PssAsio
