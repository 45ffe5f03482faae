import PssAsio.KcpListenerCore
import PssAsio.TransitionRuns

/-!
What the packet parser of the KCP server gets to see.
-/

namespace PssAsio

open TransitionRuns Function

section Loop

variable {length : Nat} {queue : List (List UInt8)} {buffer : SessionBuffer} {taken : KcpReceived}

variable {message : List UInt8} {stored : SessionBuffer}

theorem ikcpRecvLoop_cons_eq_some (short : message.length ≤ length)
    (ran : ikcpRecvLoop length (message :: queue) buffer = some taken) :
    ∃ stored rest, buffer.storeAtRead message = some stored ∧
      ikcpRecvLoop length queue (stored.setWriteData message.length).1 = some rest ∧
      taken = { rest with received := message :: rest.received } := by
  simp only [ikcpRecvLoop, short, if_true, Option.bind_eq_some_iff, Option.map_eq_some_iff] at ran
  obtain ⟨stored, stores, rest, ran, rfl⟩ := ran
  exact ⟨stored, rest, stores, ran, rfl⟩

theorem ikcpRecvLoop_takes_all (ran : ikcpRecvLoop length queue buffer = some taken)
    (short : ∀ message ∈ queue, message.length ≤ length) :
    taken.received = queue ∧ taken.queue = [] := by
  induction queue generalizing buffer taken with
  | nil =>
    cases ran
    exact ⟨rfl, rfl⟩
  | cons message queue ih =>
    obtain ⟨first, others⟩ := List.forall_mem_cons.mp short
    obtain ⟨stored, rest, -, later, rfl⟩ := ikcpRecvLoop_cons_eq_some first ran
    obtain ⟨received, left⟩ := ih later others
    exact ⟨congrArg (message :: ·) received, left⟩

theorem storeAtRead_eq_some (stores : buffer.storeAtRead message = some stored) :
    message.length ≤ buffer.maxBuffSize ∧ stored.writeSize = buffer.writeSize ∧
      stored.maxBuffSize = buffer.maxBuffSize ∧
      stored.buffer = ByteMemory.patch buffer.buffer 0 message := by
  unfold SessionBuffer.storeAtRead at stores
  split at stores
  · rename_i fits
    cases stores
    exact ⟨fits, rfl, rfl, rfl⟩
  · cases stores

theorem storeAtRead_content (stores : buffer.storeAtRead message = some stored)
    (empty : buffer.writeSize = 0) : (stored.setWriteData message.length).1.content = message := by
  obtain ⟨fits, writeSize, maxBuffSize, bytes⟩ := storeAtRead_eq_some stores
  obtain ⟨_, written⟩ := stored.setWriteData_of_fits message.length (by omega)
  have front := ByteMemory.patch_take buffer.buffer 0 message (Nat.zero_le _)
  rw [List.take_zero, List.nil_append] at front
  rw [written, SessionBuffer.content]
  simp only [bytes, writeSize, empty]
  exact front

theorem storeAtRead_nil_content (stores : buffer.storeAtRead [] = some stored) :
    (stored.setWriteData ([] : List UInt8).length).1.content = buffer.content := by
  obtain ⟨-, writeSize, -, bytes⟩ := storeAtRead_eq_some stores
  have bounded := stored.bounded
  obtain ⟨_, written⟩ :=
    stored.setWriteData_of_fits ([] : List UInt8).length (by simpa using bounded)
  rw [written, SessionBuffer.content, SessionBuffer.content]
  simp [bytes, writeSize, ByteMemory.patch]

theorem ikcpRecvLoop_empty_messages (ran : ikcpRecvLoop length queue buffer = some taken)
    (blank : ∀ message ∈ queue, message = []) : taken.buffer.content = buffer.content := by
  induction queue generalizing buffer taken with
  | nil => rw [← Option.some.inj ran]
  | cons message queue ih =>
    obtain ⟨rfl, others⟩ := List.forall_mem_cons.mp blank
    obtain ⟨stored, rest, stores, later, rfl⟩ :=
      ikcpRecvLoop_cons_eq_some (Nat.zero_le length) ran
    exact (ih later others).trans (storeAtRead_nil_content stores)

theorem ikcpRecvLoop_content (ran : ikcpRecvLoop length queue buffer = some taken)
    (short : ∀ message ∈ queue, message.length ≤ length)
    (single : (queue.filter (· ≠ [])).length ≤ 1) (empty : buffer.writeSize = 0) :
    taken.buffer.content = queue.flatten := by
  induction queue generalizing buffer taken with
  | nil =>
    cases ran
    exact List.eq_nil_of_length_eq_zero (by simpa using empty)
  | cons message queue ih =>
    obtain ⟨first, others⟩ := List.forall_mem_cons.mp short
    obtain ⟨stored, rest, stores, later, rfl⟩ := ikcpRecvLoop_cons_eq_some first ran
    by_cases blank : message = []
    · subst blank
      have unwritten := congrArg List.length (storeAtRead_nil_content stores)
      simp only [SessionBuffer.content_length, empty] at unwritten
      have held := ih later others (by simpa using single) unwritten
      simpa using held
    · have rest_blank : ∀ other ∈ queue, other = [] := by
        simpa [List.filter_cons, blank] using single
      rw [ikcpRecvLoop_empty_messages later rest_blank, storeAtRead_content stores empty,
        List.flatten_cons, List.flatten_eq_nil_iff.mpr rest_blank, List.append_nil]

end Loop

namespace KcpListener

variable {Peer : Type}

variable (server : KcpListener Peer)

structure PayloadExact : Prop where
  seen : ∀ call ∈ server.parserCalls, call.seen = call.received.flatten
  taken : ∀ connectId channel queue, server.udpId2EndpointList connectId = some channel →
    channel.kcpcb = some queue → queue = []

def Bridged : Prop :=
  server.ioState = .sessionIoBridge ∧ server.ioBridgeConnectId > 0
  deriving Decidable

/-- A message fits the datagram that completes it, has bytes and meets an empty buffer. -/
def PayloadFits : KcpListenerAction Peer → Prop
  | .receive _ data _ completed =>
      (∀ message ∈ completed, message.length ≤ data.length) ∧
      (completed.flatten ≠ [] → ¬server.Bridged →
        server.sessionRecvDataBuffer.writeSize = 0 ∧ (completed.filter (· ≠ [])).length ≤ 1)
  | _ => True

instance : ∀ action, Decidable (server.PayloadFits action)
  | .receive .. => inferInstanceAs (Decidable ((∀ message ∈ _, _) ∧ (_ → _ → _ ∧ _)))
  | .close _ | .setIoBridgeConnectId _ | .createCounter => .isTrue trivial

variable {next server : KcpListener Peer} {connectId : UInt32} {completed : List (List UInt8)}

section Exact

variable (holds : server.PayloadExact)

include holds

theorem PayloadExact.of_same (calls : next.parserCalls = server.parserCalls)
    (channels : next.udpId2EndpointList = server.udpId2EndpointList) : next.PayloadExact :=
  ⟨calls ▸ holds.seen, channels ▸ holds.taken⟩

theorem PayloadExact.update (calls : next.parserCalls = server.parserCalls)
    {entry : Option (KcpChannel Peer)}
    (channels : next.udpId2EndpointList = update server.udpId2EndpointList connectId entry)
    (emptied : ∀ channel queue, entry = some channel → channel.kcpcb = some queue → queue = []) :
    next.PayloadExact := by
  refine ⟨calls ▸ holds.seen, ?_⟩
  intro other channel queue found block
  rw [channels] at found
  by_cases same : other = connectId
  · rw [same, update_self] at found
    exact emptied channel queue found block
  · rw [update_of_ne same] at found
    exact holds.taken other channel queue found block

theorem parseData_exact {received : List (List UInt8)}
    (content : server.sessionRecvDataBuffer.content = received.flatten)
    (parsed : server.parseData connectId received = some next) : next.PayloadExact := by
  have seen : ∀ call ∈ server.parserCalls ++
      [⟨connectId, received, server.sessionRecvDataBuffer.content⟩],
      call.seen = call.received.flatten := by
    intro call member
    rcases List.mem_append.mp member with before | added
    · exact holds.seen call before
    · rw [List.mem_singleton.mp added]
      exact content
  obtain ⟨_, _, -, rfl⟩ := parseData_eq_some parsed
  exact ⟨seen, holds.taken⟩

theorem PayloadExact.inputTaken {channel : KcpChannel Peer} {queue : List (List UInt8)}
    {length : Nat} {taken : KcpReceived} (short : ∀ message ∈ completed, message.length ≤ length)
    (found : server.udpId2EndpointList connectId = some channel)
    (block : channel.kcpcb = some queue)
    (ran : ikcpRecvLoop length (queue ++ completed) server.sessionRecvDataBuffer = some taken)
    (buffer : SessionBuffer) :
    (server.inputTaken connectId channel buffer taken).PayloadExact ∧
      taken.received = completed ∧
      ikcpRecvLoop length completed server.sessionRecvDataBuffer = some taken := by
  rw [holds.taken connectId channel queue found block, List.nil_append] at ran
  obtain ⟨received, left⟩ := ikcpRecvLoop_takes_all ran short
  refine ⟨holds.update rfl rfl ?_, received, ran⟩
  intro other queue same block
  rw [← Option.some.inj same, left] at block
  exact (Option.some.inj block).symm

theorem Received.exact {channel : KcpChannel Peer} {length : Nat}
    (short : ∀ message ∈ completed, message.length ≤ length) (fits : completed.flatten ≠ [] →
      ¬server.Bridged → server.sessionRecvDataBuffer.writeSize = 0 ∧ (completed.filter (· ≠
      [])).length ≤ 1) (found : server.udpId2EndpointList connectId = some channel)
    (received : Received server connectId channel length completed next) : next.PayloadExact := by
  cases received with
  | full buffer => exact holds.of_same rfl rfl
  | created buffer =>
    refine holds.update rfl rfl ?_
    intro other queue same block
    rw [← Option.some.inj same] at block
    exact holds.taken connectId channel queue found block
  | unparsed queue taken buffer block ran =>
    exact (holds.inputTaken short found block ran buffer).1.of_same rfl rfl
  | parsed queue taken buffer next block ran bytes unbridged parses =>
    obtain ⟨input, received, ran⟩ := holds.inputTaken short found block ran buffer
    rw [received] at bytes parses
    obtain ⟨empty, single⟩ :=
      fits (fun none => bytes (by rw [logicDataLength, none]; rfl)) unbridged
    have content := ikcpRecvLoop_content ran short single empty
    exact (parseData_exact input content parses).of_same rfl rfl

variable [DecidableEq Peer]

theorem addUdpEndpoint_exact (recvEndpoint : Peer) (initKcp : Bool) :
    (server.addUdpEndpoint recvEndpoint initKcp).1.PayloadExact ∧
      (server.addUdpEndpoint recvEndpoint initKcp).1.sessionRecvDataBuffer =
        server.sessionRecvDataBuffer ∧
      ((server.addUdpEndpoint recvEndpoint initKcp).1.Bridged ↔ server.Bridged) := by
  unfold addUdpEndpoint
  cases server.udpEndpoint2IdList recvEndpoint with
  | some connectId => exact ⟨holds, rfl, Iff.rfl⟩
  | none =>
    have emptied : ∀ channel queue,
        some (⟨recvEndpoint, .kcpValud, if initKcp then some [] else none⟩ :
          KcpChannel Peer) = some channel → channel.kcpcb = some queue → queue = [] := by
      intro channel queue same block
      rw [← Option.some.inj same] at block
      cases initKcp with
      | false => cases block
      | true => exact (Option.some.inj block).symm
    cases initKcp with
    | false | true => exact ⟨holds.update rfl rfl emptied, rfl, Iff.rfl⟩

theorem doReceiveFrom_exact {recvEndpoint : Peer} {length : Nat} {initKcp : Bool}
    (short : ∀ message ∈ completed, message.length ≤ length)
    (fits : completed.flatten ≠ [] → ¬server.Bridged → server.sessionRecvDataBuffer.writeSize = 0 ∧
      (completed.filter (· ≠ [])).length ≤ 1)
    (handled : server.doReceiveFrom recvEndpoint length initKcp completed = some next) :
    next.PayloadExact := by
  obtain ⟨added, buffer, bridged⟩ := addUdpEndpoint_exact holds recvEndpoint initKcp
  obtain ⟨-, rfl⟩ | ⟨-, rfl | ⟨channel, found, received⟩⟩ := doReceiveFrom_cases handled
  · exact added
  · exact added.of_same rfl rfl
  · refine received.exact added short ?_ found
    rw [buffer, bridged]
    exact fits

end Exact

variable [DecidableEq Peer]

theorem step_exact (server : KcpListener Peer) (action : KcpListenerAction Peer)
    (next : KcpListener Peer) (holds : server.PayloadExact) (fits : server.PayloadFits action)
    (stepped : server.step action = some next) : next.PayloadExact := by
  cases action with
  | receive recvEndpoint data initKcp completed =>
    simp only [step, Option.ite_none_right_eq_some, Option.bind_eq_some_iff] at stepped
    obtain ⟨-, filled, -, handled⟩ := stepped
    have before : PayloadExact { server with
        receives := server.receives - 1
        sessionRecvBuffer := filled } := holds.of_same rfl rfl
    exact doReceiveFrom_exact before fits.1 fits.2 handled
  | close connectId =>
    obtain ⟨channel, -, rfl⟩ := Option.map_eq_some_iff.mp stepped
    refine holds.update rfl rfl ?_
    intro _ _ absent
    cases absent
  | setIoBridgeConnectId toConnectId =>
    cases stepped
    unfold setIoBridgeConnectId
    split <;> exact holds.of_same rfl rfl
  | createCounter =>
    cases stepped
    exact holds.of_same rfl rfl

/-- If the completed messages fit, the parser sees the messages just received. -/
theorem payloadExact_of_fits (maxRecvSize : UInt32) (fresh : Nat → UInt8) (countIndex : UInt32)
    {actions : List (KcpListenerAction Peer)}
    (fits : Throughout step PayloadFits (started maxRecvSize fresh countIndex) actions) :
    Always step PayloadExact (started maxRecvSize fresh countIndex) actions := by
  refine always_of_invariant step_exact (fun _ holds => holds) ⟨?_, ?_⟩ fits
  · intro call member
    cases member
  · intro connectId channel queue found
    cases found

def completing (completed : List (List UInt8)) : KcpListenerAction Nat :=
  .receive 7 (List.replicate 64 0) true completed

theorem payloadExact_refused_then_accepted :
    Always step PayloadExact (started 128 (fun _ => 0) 0)
      [completing [[1, 2, 3]], completing [], completing [List.replicate 40 0]] :=
  payloadExact_of_fits 128 (fun _ => 0) 0 (by decide)

theorem not_payloadExact_of_parserCalls {actions : List (KcpListenerAction Peer)}
    {start : KcpListener Peer} {calls : List KcpParserCall}
    (ran : (run step start actions).map (·.parserCalls) = some calls)
    (wrong : ¬∀ call ∈ calls, call.seen = call.received.flatten) :
    ∃ finish, run step start actions = some finish ∧ ¬finish.PayloadExact := by
  obtain ⟨finish, ends, rfl⟩ := Option.map_eq_some_iff.mp ran
  exact ⟨finish, ends, fun holds => wrong holds.seen⟩

theorem second_message_seen_with_leftovers :
    ∃ finish, run step (started 128 (fun _ => 0) 0)
      [completing [List.replicate 40 0], completing [List.replicate 40 0]] = some finish ∧
      ¬finish.PayloadExact := by
  have ran : (run step (started 128 (fun _ => 0) 0) [completing [List.replicate 40 0],
      completing [List.replicate 40 0]]).map (·.parserCalls) =
      some [⟨1, [List.replicate 40 0], List.replicate 40 0⟩,
        ⟨1, [List.replicate 40 0], List.replicate 80 0⟩] := by
    decide
  exact not_payloadExact_of_parserCalls ran (by decide)

end KcpListener

end PssAsio
