import PssAsio.PacketParseCore

/-!
One call of `parse_packet_from_recv_buffer_single` on a datagram.
-/

namespace PssAsio

open ByteMemory

variable (buffer : SessionBuffer)

variable (datagram : List UInt8)

def datagramHeader : PacketHeader := parseHeader (datagram.take headerSize)

def datagramSize : Nat :=
  headerSize + (datagramHeader datagram).packetBodyLength

def WholePacket : Prop :=
  headerSize ≤ datagram.length ∧ (datagramHeader datagram).packetBodyLength < bodyLimit ∧
    datagramSize datagram ≤ datagram.length
  deriving Decidable

def Rejected : Prop :=
  datagram.length < headerSize ∨ bodyLimit ≤ (datagramHeader datagram).packetBodyLength ∨
    datagram.length < (datagramHeader datagram).packetBodyLength

def DatagramExact : Prop :=
  ∃ ret next messageList,
    (parsePacketFromRecvBufferSingle buffer).outcome = .returned ret next messageList ∧
    (ret = true ↔ WholePacket buffer.content) ∧
    (messageList = if WholePacket buffer.content then
      [⟨(datagramHeader buffer.content).commandId,
        buffer.content.take (datagramSize buffer.content)⟩] else []) ∧
    (parsePacketFromRecvBufferSingle buffer).readEnd ≤ buffer.content.length ∧ next.content = []

variable {buffer}

theorem move_all (buffer : SessionBuffer) : (buffer.move buffer.getWriteSize).content = [] := by
  rw [SessionBuffer.move_content]
  exact List.drop_of_length_le (Nat.le_of_eq buffer.content_length)

theorem readBytes_header (enough : headerSize ≤ buffer.content.length) :
    buffer.readBytes 0 headerSize = some (buffer.content.take headerSize) := by
  rw [buffer.content_length] at enough
  exact buffer.readBytes_content 0 headerSize (by omega)

theorem rejected_trace (rejected : Rejected buffer.content) :
    ∃ readEnd ≤ buffer.content.length,
      parsePacketFromRecvBufferSingle buffer =
        ⟨.returned false (buffer.move buffer.getWriteSize) [], readEnd⟩ := by
  by_cases short : buffer.getWriteSize < headerSize
  · exact ⟨0, Nat.zero_le _, if_pos short⟩
  · have size : buffer.content.length = buffer.getWriteSize := buffer.content_length
    have enough : headerSize ≤ buffer.content.length := by omega
    refine ⟨headerSize, enough, ?_⟩
    simp only [parsePacketFromRecvBufferSingle, short, if_false, readBytes_header enough]
    by_cases oversized : bodyLimit ≤ (datagramHeader buffer.content).packetBodyLength
    · exact if_pos oversized
    · have cut : buffer.getWriteSize < (datagramHeader buffer.content).packetBodyLength := by
        simp only [Rejected] at rejected
        omega
      have body : (datagramHeader buffer.content).packetBodyLength ≠ 0 := by omega
      rw [← datagramHeader, if_neg oversized, if_neg body, if_pos cut]

section Accepted

variable (enough : headerSize ≤ buffer.content.length)
  (below : (datagramHeader buffer.content).packetBodyLength < bodyLimit)
include enough below

/-- What is moved away after a packet is what follows it. -/
theorem whole_trace (fits : datagramSize buffer.content ≤ buffer.content.length) :
    parsePacketFromRecvBufferSingle buffer =
      ⟨.returned true (buffer.move (buffer.getWriteSize - datagramSize buffer.content))
        [⟨(datagramHeader buffer.content).commandId,
          buffer.content.take (datagramSize buffer.content)⟩], datagramSize buffer.content⟩ := by
  have size : buffer.content.length = buffer.getWriteSize := buffer.content_length
  have notShort : ¬buffer.getWriteSize < headerSize := by omega
  have notOversized : ¬bodyLimit ≤ (datagramHeader buffer.content).packetBodyLength := by omega
  have read := buffer.readBytes_content 0 (datagramSize buffer.content)
    (by rw [← buffer.content_length]; omega)
  simp only [parsePacketFromRecvBufferSingle, notShort, if_false, readBytes_header enough]
  rw [← datagramHeader, if_neg notOversized]
  simp only [datagramSize, headerSize] at *
  by_cases empty : (datagramHeader buffer.content).packetBodyLength = 0
  · simp only [empty, if_true, Nat.add_zero]
  · have notCut : ¬buffer.getWriteSize < (datagramHeader buffer.content).packetBodyLength := by
      omega
    have small : buffer.getWriteSize < 2 ^ 64 :=
      Nat.lt_of_le_of_lt buffer.bounded buffer.addressable
    have left : (buffer.getWriteSize +
        (2 ^ 64 - (40 + (datagramHeader buffer.content).packetBodyLength))) % 2 ^ 64 =
        buffer.getWriteSize - (40 + (datagramHeader buffer.content).packetBodyLength) := by
      omega
    rw [if_neg empty, if_neg notCut]
    simp only [read, left, List.drop_zero]

theorem cut_trace (body : (datagramHeader buffer.content).packetBodyLength ≤ buffer.content.length)
    (cut : buffer.content.length < datagramSize buffer.content) :
    (parsePacketFromRecvBufferSingle buffer).outcome = .fault ∨
      ∃ next messageList,
        (parsePacketFromRecvBufferSingle buffer).outcome = .returned true next messageList := by
  have size : buffer.content.length = buffer.getWriteSize := buffer.content_length
  have notShort : ¬buffer.getWriteSize < headerSize := by omega
  have notOversized : ¬bodyLimit ≤ (datagramHeader buffer.content).packetBodyLength := by omega
  have present : (datagramHeader buffer.content).packetBodyLength ≠ 0 := by
    simp only [datagramSize] at cut
    omega
  have notCut : ¬buffer.getWriteSize < (datagramHeader buffer.content).packetBodyLength := by omega
  simp only [parsePacketFromRecvBufferSingle, notShort, if_false, readBytes_header enough]
  rw [← datagramHeader, if_neg notOversized, if_neg present, if_neg notCut]
  split
  · exact .inl rfl
  · exact .inr ⟨_, _, rfl⟩

end Accepted

theorem Rejected.not_whole {datagram : List UInt8} (rejected : Rejected datagram) :
    ¬WholePacket datagram := by
  rintro ⟨enough, below, fits⟩
  simp only [Rejected, datagramSize] at rejected fits
  omega

theorem datagramExact_of_rejected (rejected : Rejected buffer.content) : DatagramExact buffer := by
  obtain ⟨readEnd, within, trace⟩ := rejected_trace rejected
  refine ⟨false, buffer.move buffer.getWriteSize, [], by rw [trace], ?_, ?_, ?_, move_all buffer⟩
  · exact iff_of_false Bool.false_ne_true rejected.not_whole
  · rw [if_neg rejected.not_whole]
  · rw [trace]
    exact within

/-- The call is exact for the datagrams it rejects and for no others. -/
theorem datagramExact_iff_rejected (buffer : SessionBuffer) :
    DatagramExact buffer ↔ Rejected buffer.content := by
  refine ⟨fun exact => ?_, datagramExact_of_rejected⟩
  obtain ⟨ret, next, messageList, outcome, accepted, -, -, emptied⟩ := exact
  by_contra kept
  simp only [Rejected, not_or, Nat.not_lt, Nat.not_le] at kept
  obtain ⟨enough, below, body⟩ := kept
  by_cases fits : datagramSize buffer.content ≤ buffer.content.length
  · rw [whole_trace enough below fits] at outcome
    cases outcome
    rw [SessionBuffer.move_content, List.drop_eq_nil_iff] at emptied
    have size : buffer.content.length = buffer.getWriteSize := buffer.content_length
    simp only [datagramSize, headerSize] at *
    omega
  · have returned : ret = true := by
      obtain fault | ⟨_, _, returned⟩ := cut_trace enough below body (Nat.lt_of_not_le fits)
      · rw [fault] at outcome
        cases outcome
      · rw [returned] at outcome
        cases outcome
        rfl
    exact fits (accepted.mp returned).2.2

def headerDatagram : SessionBuffer := bufferHolding (List.replicate 40 0) (by decide)

def cutDatagram : SessionBuffer where
  buffer := [0, 0, 7, 0, 40, 0, 0, 0] ++ List.replicate 72 0
  writeSize := 40
  maxBuffSize := 80
  allocated := rfl
  bounded := by decide
  addressable := by decide

/-- The cut header is accepted with 40 bytes that do not belong to it. -/
theorem accepted_datagrams_not_exact :
    ¬DatagramExact headerDatagram ∧ ¬DatagramExact cutDatagram := by
  constructor
  · rintro ⟨ret, next, messageList, outcome, -, -, -, emptied⟩
    rw [whole_trace (by decide) (by decide) (by decide)] at outcome
    cases outcome
    exact absurd emptied (by decide)
  · rintro ⟨ret, next, messageList, -, -, -, within, -⟩
    exact absurd within (by decide)

end PssAsio
