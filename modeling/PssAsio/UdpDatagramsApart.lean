import PssAsio.DatagramListening

/-!
What the packet parser and the bridge of `CUdpServer` get to see.
-/

namespace PssAsio

open TransitionRuns

structure UdpTrace (Peer : Type) where
  server : UdpServer Peer
  recvEndpoint : Option Peer
  presented : List (Peer × List UInt8)

def UdpHandling.length {Peer : Type} : UdpHandling Peer → Nat
  | .added _ length => length
  | .found _ length _ => length

namespace UdpServer

variable {Peer : Type}

variable (server : UdpServer Peer)

def handledLength : Option Nat :=
  server.handling.map UdpHandling.length

def shown (length : Nat) (sessionInfo : Option (UdpSessionInfo Peer)) : Option (List UInt8) :=
  match sessionInfo with
  | some info =>
      if info.ioState = .sessionIoBridge then server.sessionRecvBuffer.readBytes 0 length
      else some server.sessionRecvBuffer.content
  | none => some server.sessionRecvBuffer.content

structure Drained : Prop where
  idle : server.handledLength = none →
    server.receives ≤ 1 ∧ (0 < server.receives → server.sessionRecvBuffer.content = [])
  busy : ∀ length, server.handledLength = some length →
    server.receives = 0 ∧ server.sessionRecvBuffer.content.length = length

theorem parseData_content (connectId : UInt32) {length : Nat} (verdict : ReceiveVerdict)
    (filled : server.sessionRecvBuffer.content.length = length) :
    (server.parseData connectId length verdict).sessionRecvBuffer.content = [] := by
  have emptied : ((server.sessionRecvBuffer.content.drop verdict.consumed).drop length) = [] := by
    apply List.drop_of_length_le
    rw [List.length_drop]
    omega
  unfold parseData
  cases verdict.parsed with
  | none => simp only [call, SessionBuffer.move_content, emptied, List.drop_nil]
  | some messageList => simp only [call, SessionBuffer.move_content, emptied]

variable {server}

theorem disposeData_content {disposed : UdpServer Peer} {connectId : UInt32} {length : Nat}
    {sessionInfo : Option (UdpSessionInfo Peer)} {verdict : ReceiveVerdict}
    (disposes : server.disposeData connectId length sessionInfo verdict = some disposed)
    (filled : server.sessionRecvBuffer.content.length = length) :
    disposed.sessionRecvBuffer.content = [] := by
  have parsed := parseData_content server connectId verdict filled
  unfold disposeData at disposes
  cases sessionInfo with
  | none => rwa [← Option.some.inj disposes]
  | some info =>
    simp only at disposes
    split at disposes
    · -- `do_io_bridge_data` moves the datagram away before the last `move` of the handler.
      have emptied : (server.sessionRecvBuffer.content.drop length).drop length = [] := by
        simp [List.drop_of_length_le (Nat.le_of_eq filled)]
      simp only [doIoBridgeData, Option.map_map, Option.map_eq_some_iff] at disposes
      obtain ⟨bytes, -, rfl⟩ := disposes
      simp only [Function.comp_apply]
      by_cases bridged : info.ioBridgeConnectId > 0
      · cases verdict.bridgeSent <;>
          simp [bridged, setSessionInfo, SessionBuffer.move_content, emptied]
      · simp [bridged, SessionBuffer.move_content, emptied]
    · rwa [← Option.some.inj disposes]

theorem shown_eq {length : Nat} {sessionInfo : Option (UdpSessionInfo Peer)}
    {bytes : List UInt8} (filled : server.sessionRecvBuffer.content.length = length)
    (shows : server.shown length sessionInfo = some bytes) :
    bytes = server.sessionRecvBuffer.content := by
  unfold shown at shows
  split at shows
  · split at shows
    · have within : 0 + length ≤ server.sessionRecvBuffer.writeSize := by
        rw [← server.sessionRecvBuffer.content_length]
        omega
      rw [SessionBuffer.readBytes_content _ 0 length within, Option.some.injEq] at shows
      rw [← shows, List.drop_zero, List.take_of_length_le (Nat.le_of_eq filled)]
    · exact (Option.some.inj shows).symm
  · exact (Option.some.inj shows).symm

variable [DecidableEq Peer]

theorem addUdpEndpoint_buffer (server : UdpServer Peer) (recvEndpoint : Peer) :
    (server.addUdpEndpoint recvEndpoint).1.sessionRecvBuffer = server.sessionRecvBuffer := by
  cases found : server.udpEndpoint2IdList recvEndpoint with
  | some connectId => simp [addUdpEndpoint_known found]
  | none => simp [addUdpEndpoint_unknown found, call]

theorem doReceiveFrom_fills (server : UdpServer Peer) (recvEndpoint : Peer)
    {before filled : SessionBuffer} {data : List UInt8} (emptied : before.content = [])
    (stored : before.store data = some filled) (bytes : 0 < data.length)
    (holds : server.sessionRecvBuffer = filled) :
    (server.doReceiveFrom recvEndpoint data.length).handledLength = some data.length ∧
      (server.doReceiveFrom recvEndpoint data.length).receives = server.receives ∧
      (server.doReceiveFrom recvEndpoint data.length).sessionRecvBuffer.content = data := by
  have buffer := server.addUdpEndpoint_buffer recvEndpoint
  rw [holds] at buffer
  have room : filled.getBufferSize ≠ 0 := by
    have size := SessionBuffer.store_getBufferSize stored
    omega
  have received : before.receive data = some (filled.setWriteData data.length).1 := by
    simp [SessionBuffer.receive, stored]
  have content := SessionBuffer.receive_content received
  rw [emptied, List.nil_append] at content
  have nonzero : data.length ≠ 0 := by omega
  obtain ⟨receives, -⟩ := server.addUdpEndpoint_frame recvEndpoint
  simp only [doReceiveFrom, buffer, if_neg nonzero, if_neg room]
  exact ⟨rfl, receives, content⟩

theorem step_quiet {next : UdpServer Peer} {action : UdpAction Peer}
    (stepped : server.step action = some next)
    (noReceive : ∀ recvEndpoint data, action ≠ .receive recvEndpoint data)
    (noDispose : ∀ verdict, action ≠ .dispose verdict) :
    next.receives = server.receives ∧ next.sessionRecvBuffer = server.sessionRecvBuffer ∧
      next.handledLength = server.handledLength := by
  cases stepped_of_step stepped with
  | receive recvEndpoint data => exact absurd rfl (noReceive recvEndpoint data)
  | dispose verdict => exact absurd rfl (noDispose verdict)
  | findEndpoint connectId length handled =>
    refine ⟨rfl, rfl, ?_⟩
    simp [handledLength, handled, UdpHandling.length]
  | closeErase index connectId =>
    obtain ⟨receives, buffer, handling⟩ := server.eraseEndpoint_frame connectId
    exact ⟨receives, buffer, congrArg (Option.map UdpHandling.length) handling⟩
  | setIoBridgeConnectId | createCounter | closeLook | closeSkip | closeWithdraw =>
    exact ⟨rfl, rfl, rfl⟩

end UdpServer

namespace UdpTrace

variable {Peer : Type} [DecidableEq Peer]

def started (maxRecvSize : UInt32) (fresh : Nat → UInt8) (countIndex : UInt32) : UdpTrace Peer :=
  ⟨UdpServer.started maxRecvSize fresh countIndex, none, []⟩

def step (trace : UdpTrace Peer) (action : UdpAction Peer) : Option (UdpTrace Peer) :=
  match action with
  | .receive recvEndpoint data =>
      (trace.server.step (.receive recvEndpoint data)).map fun server =>
        { trace with server := server, recvEndpoint := some recvEndpoint }
  | .dispose verdict =>
      match trace.server.handling, trace.recvEndpoint with
      | some (.found _ length sessionInfo), some recvEndpoint =>
          (trace.server.shown length sessionInfo).bind fun bytes =>
            (trace.server.step (.dispose verdict)).map fun server =>
              { trace with
                server := server
                presented := trace.presented ++ [(recvEndpoint, bytes)] }
      | _, _ => none
  | action => (trace.server.step action).map fun server => { trace with server := server }

def datagrams (actions : List (UdpAction Peer)) : List (Peer × List UInt8) :=
  actions.filterMap fun
    | .receive recvEndpoint data => some (recvEndpoint, data)
    | _ => none

variable (trace : UdpTrace Peer)

def underway : List (Peer × List UInt8) :=
  match trace.server.handledLength, trace.recvEndpoint with
  | some _, some recvEndpoint => [(recvEndpoint, trace.server.sessionRecvBuffer.content)]
  | _, _ => []

def fromEndpoint (endpoint : Peer) (log : List (Peer × List UInt8)) : List (List UInt8) :=
  (log.filter fun entry => entry.1 = endpoint).map Prod.snd

def ReceivesBytes (trace : UdpTrace Peer) (action : UdpAction Peer) : Prop :=
  trace.server.ReceivesBytes action
  deriving Decidable

structure Clean : Prop where
  drained : trace.server.Drained
  sender : trace.server.handledLength ≠ none → trace.recvEndpoint ≠ none

def Progressed (next : UdpTrace Peer) (action : UdpAction Peer) : Prop :=
  next.Clean ∧
    next.presented ++ next.underway = trace.presented ++ trace.underway ++ datagrams [action]

variable {server : UdpServer Peer} {trace}

theorem receive_progressed (clean : trace.Clean) {recvEndpoint : Peer} {data : List UInt8}
    (bytes : 0 < data.length)
    (moved : trace.server.step (.receive recvEndpoint data) = some server) :
    Progressed trace { trace with server := server, recvEndpoint := some recvEndpoint }
      (.receive recvEndpoint data) := by
  cases UdpServer.stepped_of_step moved with
  | receive _ _ filled idle pending stored =>
    have unhandled : trace.server.handledLength = none := by
      simp [UdpServer.handledLength, idle]
    obtain ⟨single, emptied⟩ := clean.drained.idle unhandled
    obtain ⟨handled, receives, content⟩ := UdpServer.doReceiveFrom_fills
      { trace.server with
        receives := trace.server.receives - 1
        sessionRecvBuffer := filled } recvEndpoint (emptied pending) stored bytes rfl
    refine ⟨⟨⟨?_, ?_⟩, ?_⟩, ?_⟩
    · intro free
      rw [handled] at free
      cases free
    · intro length same
      rw [handled] at same
      rw [content, receives]
      exact ⟨by simp only; omega, Option.some.inj same⟩
    · simp
    · simp [underway, handled, unhandled, content, datagrams]

theorem dispose_progressed (clean : trace.Clean) {verdict : ReceiveVerdict} {connectId : UInt32}
    {length : Nat} {sessionInfo : Option (UdpSessionInfo Peer)} {recvEndpoint : Peer}
    {bytes : List UInt8}
    (handled : trace.server.handling = some (.found connectId length sessionInfo))
    (sender : trace.recvEndpoint = some recvEndpoint)
    (shows : trace.server.shown length sessionInfo = some bytes)
    (moved : trace.server.step (.dispose verdict) = some server) :
    Progressed trace
      { trace with server := server, presented := trace.presented ++ [(recvEndpoint, bytes)] }
      (.dispose verdict) := by
  have underHand : trace.server.handledLength = some length := by
    simp [UdpServer.handledLength, handled, UdpHandling.length]
  obtain ⟨receives, filled⟩ := clean.drained.busy length underHand
  have exactly := UdpServer.shown_eq filled shows
  cases UdpServer.stepped_of_step moved with
  | dispose _ other otherLength info disposed handledAgain disposes =>
    rw [handled, Option.some.injEq, UdpHandling.found.injEq] at handledAgain
    obtain ⟨rfl, rfl, rfl⟩ := handledAgain
    have emptied := UdpServer.disposeData_content disposes filled
    have counted := (UdpServer.disposeData_disposed disposes).receives
    refine ⟨⟨⟨?_, ?_⟩, ?_⟩, ?_⟩
    · intro _
      refine ⟨?_, fun _ => emptied⟩
      simp only [UdpServer.doReceive]
      omega
    · intro length busy
      cases busy
    · intro busy
      exact absurd rfl busy
    · simp [underway, handled, sender, exactly, UdpServer.handledLength, datagrams]

theorem quiet_progressed (clean : trace.Clean) {action : UdpAction Peer}
    (moved : trace.server.step action = some server)
    (noReceive : ∀ recvEndpoint data, action ≠ .receive recvEndpoint data)
    (noDispose : ∀ verdict, action ≠ .dispose verdict) :
    Progressed trace { trace with server := server } action := by
  obtain ⟨receives, buffer, handled⟩ := UdpServer.step_quiet moved noReceive noDispose
  have silent : datagrams [action] = [] := by
    cases action with
    | receive recvEndpoint data => exact absurd rfl (noReceive recvEndpoint data)
    | _ => rfl
  refine ⟨⟨⟨?_, ?_⟩, ?_⟩, ?_⟩
  · rw [handled, receives, buffer]
    exact clean.drained.idle
  · rw [handled, receives, buffer]
    exact clean.drained.busy
  · simp only [handled]
    exact clean.sender
  · simp only [underway, handled, buffer, silent, List.append_nil]

theorem step_progressed {next : UdpTrace Peer} {action : UdpAction Peer}
    (clean : trace.Clean) (bytes : trace.ReceivesBytes action)
    (stepped : trace.step action = some next) : Progressed trace next action := by
  cases action with
  | receive recvEndpoint data =>
    simp only [step] at stepped
    obtain ⟨server, moved, rfl⟩ := Option.map_eq_some_iff.mp stepped
    exact receive_progressed clean bytes moved
  | dispose verdict =>
    simp only [step] at stepped
    split at stepped
    · rename_i connectId length sessionInfo recvEndpoint handled sender
      obtain ⟨shown, shows, rest⟩ := Option.bind_eq_some_iff.mp stepped
      obtain ⟨server, moved, rfl⟩ := Option.map_eq_some_iff.mp rest
      exact dispose_progressed clean handled sender shows moved
    · cases stepped
  | _ =>
    simp only [step] at stepped
    obtain ⟨server, moved, rfl⟩ := Option.map_eq_some_iff.mp stepped
    exact quiet_progressed clean moved (by simp) (by simp)

theorem run_progressed {finish : UdpTrace Peer} {actions : List (UdpAction Peer)}
    (clean : trace.Clean) (bytes : Throughout step ReceivesBytes trace actions)
    (ran : run step trace actions = some finish) :
    finish.presented ++ finish.underway =
      trace.presented ++ trace.underway ++ datagrams actions := by
  induction actions generalizing trace with
  | nil =>
    cases ran
    simp [datagrams]
  | cons action rest ih =>
    obtain ⟨next, stepped, ended⟩ := run_cons_eq_some.mp ran
    obtain ⟨permitted, later⟩ := bytes
    rw [stepped] at later
    obtain ⟨kept, grown⟩ := step_progressed clean permitted stepped
    rw [ih kept later ended, grown, List.append_assoc]
    simp only [datagrams, ← List.filterMap_append, List.singleton_append]

omit [DecidableEq Peer] in
theorem started_clean (maxRecvSize : UInt32) (fresh : Nat → UInt8) (countIndex : UInt32) :
    (started maxRecvSize fresh countIndex : UdpTrace Peer).Clean := by
  refine ⟨⟨?_, ?_⟩, ?_⟩
  · intro _
    exact ⟨Nat.le_refl 1, fun _ => SessionBuffer.init_content _ _⟩
  · intro length busy
    cases busy
  · intro busy
    exact absurd rfl busy

/-- The parser and the bridge are shown the datagrams one after the other, never mixed. -/
theorem datagrams_presented_apart (maxRecvSize : UInt32) (fresh : Nat → UInt8)
    (countIndex : UInt32) {actions : List (UdpAction Peer)} {finish : UdpTrace Peer}
    (bytes : Throughout step ReceivesBytes (started maxRecvSize fresh countIndex) actions)
    (ran : run step (started maxRecvSize fresh countIndex) actions = some finish) :
    Always step
        (fun trace => 0 < trace.server.receives → trace.server.sessionRecvBuffer.content = [])
        (started maxRecvSize fresh countIndex) actions ∧
      datagrams actions = finish.presented ++ finish.underway ∧
      ∀ (otherBlock : Nat → UInt8) (otherIndex : UInt32) (others : List (UdpAction Peer))
        (otherFinish : UdpTrace Peer),
        Throughout step ReceivesBytes (started maxRecvSize otherBlock otherIndex) others →
        run step (started maxRecvSize otherBlock otherIndex) others = some otherFinish →
        ∀ endpoint,
          fromEndpoint endpoint (datagrams actions) = fromEndpoint endpoint (datagrams others) →
          fromEndpoint endpoint (finish.presented ++ finish.underway) =
            fromEndpoint endpoint (otherFinish.presented ++ otherFinish.underway) := by
  have shows := run_progressed (started_clean maxRecvSize fresh countIndex) bytes ran
  refine ⟨?_, shows.symm, ?_⟩
  · refine always_of_invariant
      (fun trace action next clean permitted stepped =>
        (step_progressed clean permitted stepped).1) ?_
      (started_clean maxRecvSize fresh countIndex) bytes
    intro trace clean outstanding
    cases handled : trace.server.handledLength with
    | none => exact (clean.drained.idle handled).2 outstanding
    | some length =>
      have none := (clean.drained.busy length handled).1
      omega
  · intro otherBlock otherIndex others otherFinish otherBytes otherRan endpoint same
    have otherShows :=
      run_progressed (started_clean maxRecvSize otherBlock otherIndex) otherBytes otherRan
    rw [shows, otherShows]
    exact same

def neighbourFirst : List (UdpAction Nat) :=
  [.receive 9 [5, 6, 7], .findEndpoint, .dispose ⟨none, 1, true⟩,
    .setIoBridgeConnectId 1 3, .receive 9 [8, 9], .findEndpoint, .dispose ⟨none, 0, false⟩,
    .receive 7 [1, 2], .findEndpoint, .dispose ⟨some [], 1, true⟩]

def aloneSending : List (UdpAction Nat) :=
  [.receive 7 [1, 2], .findEndpoint, .dispose ⟨some [], 2, true⟩]

theorem datagrams_presented_apart_neighbour :
    ∃ finish otherFinish, run step (started 4 (fun _ => 0) 0) neighbourFirst = some finish ∧
      run step (started 4 (fun _ => 0) 0) aloneSending = some otherFinish ∧
      fromEndpoint 7 (finish.presented ++ finish.underway) =
        fromEndpoint 7 (otherFinish.presented ++ otherFinish.underway) := by
  obtain ⟨finish, ran⟩ := Option.isSome_iff_exists.mp
    (show (run step (started 4 (fun _ => 0) 0) neighbourFirst).isSome = true by decide)
  obtain ⟨otherFinish, otherRan⟩ := Option.isSome_iff_exists.mp
    (show (run step (started 4 (fun _ => 0) 0) aloneSending).isSome = true by decide)
  have apart := datagrams_presented_apart 4 (fun _ => 0) 0 (by decide) ran
  exact ⟨finish, otherFinish, ran, otherRan,
    apart.2.2 (fun _ => 0) 0 aloneSending otherFinish (by decide) otherRan 7 (by decide)⟩

end UdpTrace

end PssAsio
