import PssAsio.BridgeServers
import PssAsio.ParserIdsCore

/-!
Which connections the parser sees under one id.
-/

namespace PssAsio

open TransitionRuns Function

variable {Peer : Type} {visit : ObjectVisit Peer} {index : Nat} {known : UInt32 → Prop}

namespace ReadObject

def Owned (objects : List (ReadObject Peer)) (index : Nat) (connectId : UInt32) : Prop :=
  ∃ object, objects[index]? = some object ∧ object.connectionOf connectId = connectId

variable {connectId : UInt32} {objects : List (ReadObject Peer)}

theorem owned_append (owned : Owned objects index connectId)
    (object : ReadObject Peer) : Owned (objects ++ [object]) index connectId := by
  obtain ⟨other, found, owns⟩ := owned
  refine ⟨other, ?_, owns⟩
  rw [List.getElem?_append_left (List.getElem?_eq_some_iff.mp found).1, found]

theorem owned_set {before after : ReadObject Peer} (found : objects[index]? = some before) (kept : ∀
      connectId, before.connectionOf connectId = connectId → after.connectionOf connectId =
      connectId) {other : Nat} (owned : Owned objects other connectId) :
    Owned (objects.set index after) other connectId := by
  obtain ⟨object, listed, owns⟩ := owned
  by_cases same : index = other
  · subst same
    obtain rfl := Option.some.inj (found.symm.trans listed)
    exact ⟨after, List.getElem?_set_self (List.getElem?_eq_some_iff.mp found).1, kept _ owns⟩
  · exact ⟨object, by rw [List.getElem?_set_ne same, listed], owns⟩

theorem owned_concat {entries : List (Nat × UInt32)}
    (all : ∀ entry ∈ entries, Owned objects entry.1 entry.2)
    (owned : Owned objects index connectId) :
    ∀ entry ∈ entries ++ [(index, connectId)], Owned objects entry.1 entry.2 := by
  intro entry listed
  rcases List.mem_append.mp listed with earlier | last
  · exact all entry earlier
  · rw [List.mem_singleton.mp last]
    exact owned

end ReadObject

def LogicCall.Fits {Peer : Type} (visit : ObjectVisit Peer) : LogicCall → Prop
  | .work (.addThreadSession connectId) =>
      connectId = visit.connection ∧ visit.object.connectionOf connectId = connectId
  | .work (.closeSessionEvent connectId) | .addMessage _ connectId =>
      visit.object.connectionOf connectId = connectId
  | .work _ => True

namespace ParserHost

structure Sane (host : ParserHost Peer) : Prop where
  registered : ∀ connectId index, host.sessions connectId = some index →
    ReadObject.Owned host.objects index connectId
  closing : ∀ entry ∈ host.closing, ReadObject.Owned host.objects entry.1 entry.2
  dispatched : ∀ entry ∈ host.dispatched, ReadObject.Owned host.objects entry.1 entry.2

theorem perform_objects (index : Nat) (connection : UInt32) (host : ParserHost Peer)
    (call : LogicCall) : (host.perform index connection call).objects = host.objects := by
  unfold perform
  split <;> rfl

variable {host : ParserHost Peer}

theorem perform_sane {call : LogicCall} (sane : host.Sane)
    (here : host.objects[index]? = some visit.object) (fits : call.Fits visit) :
    (perform index visit.connection host call).Sane := by
  have closed : ∀ connectId, visit.object.connectionOf connectId = connectId →
      ∀ entry ∈ host.closing ++ [(index, connectId)],
        ReadObject.Owned host.objects entry.1 entry.2 :=
    fun connectId owns => ReadObject.owned_concat sane.closing ⟨visit.object, here, owns⟩
  obtain action | ⟨logicId, connectId⟩ := call
  · cases action with
    | addThreadSession connectId =>
      refine ⟨fun other object found => ?_, sane.closing, sane.dispatched⟩
      by_cases same : other = connectId
      · subst same
        simp only [perform, update_self, Option.some.injEq] at found
        exact found ▸ ⟨visit.object, here, fits.2⟩
      · simp only [perform, update_of_ne same] at found
        exact sane.registered other object found
    | deleteThreadSession connectId =>
      refine ⟨fun other object found => ?_, sane.closing, sane.dispatched⟩
      by_cases same : other = connectId
      · subst same
        simp [perform] at found
      · simp only [perform, update_of_ne same] at found
        exact sane.registered other object found
    | closeSessionEvent connectId =>
      exact ⟨sane.registered, closed connectId fits, sane.dispatched⟩
    | _ => exact sane
  · exact ⟨sane.registered, closed connectId fits, sane.dispatched⟩

theorem performAll_sane {made : List LogicCall} (sane : host.Sane)
    (here : host.objects[index]? = some visit.object) (fits : ∀ call ∈ made, call.Fits visit) :
    (made.foldl (perform index visit.connection) host).Sane ∧
      (made.foldl (perform index visit.connection) host).objects = host.objects := by
  induction made generalizing host with
  | nil => exact ⟨sane, rfl⟩
  | cons call rest ih =>
    obtain ⟨first, later⟩ := List.forall_mem_cons.mp fits
    have same := perform_objects index visit.connection host call
    obtain ⟨kept, unchanged⟩ := ih (perform_sane sane here first) (same ▸ here) later
    exact ⟨kept, unchanged.trans same⟩

theorem performAll_calls (visit : ObjectVisit Peer) (index : Nat) (host : ParserHost Peer)
    (made : List LogicCall) :
    ∃ added, (made.foldl (perform index visit.connection) host).calls = host.calls ++ added ∧
      ∀ call ∈ added, ∃ connectId, .work (.addThreadSession connectId) ∈ made ∧
        call = ⟨index, visit.connection, .addThreadSession, connectId⟩ := by
  induction made generalizing host with
  | nil => exact ⟨[], (List.append_nil _).symm, by simp⟩
  | cons call rest ih =>
    obtain ⟨added, grown, recorded⟩ := ih (perform index visit.connection host call)
    have later : ∀ entry ∈ added, ∃ connectId,
        .work (.addThreadSession connectId) ∈ call :: rest ∧
          entry = ⟨index, visit.connection, .addThreadSession, connectId⟩ := by
      intro entry listed
      obtain ⟨connectId, inside, same⟩ := recorded entry listed
      exact ⟨connectId, List.mem_cons_of_mem _ inside, same⟩
    rw [List.foldl_cons, grown]
    unfold perform
    split
    · rename_i connectId
      refine ⟨⟨index, visit.connection, .addThreadSession, connectId⟩ :: added,
        List.append_assoc _ _ _, ?_⟩
      exact List.forall_mem_cons.mpr ⟨⟨connectId, List.mem_cons_self, rfl⟩, later⟩
    all_goals exact ⟨added, rfl, later⟩

def Exact (host : ParserHost Peer) : Prop :=
  ∀ call ∈ host.calls, call.connectId = call.connection

theorem Exact.oneId (exactly : host.Exact) : host.OneId := by
  intro first firstListed second secondListed _ same
  rw [exactly first firstListed, exactly second secondListed, same]

end ParserHost

def UdpServer.Knows {Peer : Type} (server : UdpServer Peer) (connectId : UInt32) : Prop :=
  (∃ recvEndpoint, server.udpEndpoint2IdList recvEndpoint = some connectId) ∨
    ∃ handling, server.handling = some handling ∧ handling.connectId = connectId

namespace ParserHost

variable (host : ParserHost Peer)

def Announced : Prop :=
  ∀ index server, host.objects[index]? = some (.udp server) → ∀ connectId,
    server.Knows connectId → ⟨index, connectId, .packetConnect, connectId⟩ ∈ host.calls

structure Good : Prop where
  sane : host.Sane
  exactly : host.Exact
  announced : host.Announced

end ParserHost

structure ObjectVisit.Sound {Peer : Type} (visit : ObjectVisit Peer)
    (known : UInt32 → Prop) : Prop where
  passes : ∀ entry ∈ visit.passed, entry.2 = visit.connection
  fits : ∀ call ∈ visit.made, call.Fits visit
  knows : ∀ server, visit.object = .udp server → ∀ connectId, server.Knows connectId →
    known connectId ∨ (.packetConnect, connectId) ∈ visit.passed

namespace ParserHost

theorem mem_enter_calls (host : ParserHost Peer) (index : Nat) (objects : List (ReadObject Peer))
    (visit : ObjectVisit Peer) {call : ConnectionCall} (listed : call ∈ host.calls ∨ ∃ entry ∈
      visit.passed, call = ⟨index, visit.connection, entry.1, entry.2⟩) :
    call ∈ (host.enter index objects visit).calls := by
  obtain ⟨added, grown, -⟩ := performAll_calls visit index (host.passing index objects visit)
    visit.made
  rw [enter, grown]
  apply List.mem_append_left
  rcases listed with earlier | ⟨entry, inside, rfl⟩
  · exact List.mem_append_left _ earlier
  · exact List.mem_append_right _ (List.mem_map.mpr ⟨entry, inside, rfl⟩)

variable {host : ParserHost Peer}

theorem enter_good {objects : List (ReadObject Peer)}
    (good : host.Good) (here : objects[index]? = some visit.object)
    (kept : ∀ other connectId, ReadObject.Owned host.objects other connectId → ReadObject.Owned
      objects other connectId)
    (others : ∀ other, other ≠ index → ∀ server, objects[other]? = some (.udp server) →
      host.objects[other]? = some (.udp server)) (sound : visit.Sound known)
    (before : ∀ connectId, known connectId → ⟨index, connectId, .packetConnect, connectId⟩ ∈
      host.calls) : (host.enter index objects visit).Good := by
  have start : (host.passing index objects visit).Sane :=
    ⟨fun connectId other found => kept other connectId (good.sane.registered connectId other found),
      fun entry listed => kept entry.1 entry.2 (good.sane.closing entry listed),
      fun entry listed => kept entry.1 entry.2 (good.sane.dispatched entry listed)⟩
  obtain ⟨sane, same⟩ := performAll_sane start here sound.fits
  obtain ⟨added, grown, recorded⟩ := performAll_calls visit index
    (host.passing index objects visit) visit.made
  refine ⟨sane, ?_, ?_⟩
  · -- earlier calls, calls of the parser, registrations
    intro call listed
    rw [enter, grown, passing, List.mem_append, List.mem_append] at listed
    rcases listed with (earlier | passed) | later
    · exact good.exactly call earlier
    · obtain ⟨entry, inside, rfl⟩ := List.mem_map.mp passed
      exact sound.passes entry inside
    · obtain ⟨connectId, inside, rfl⟩ := recorded call later
      exact (sound.fits _ inside).1
  · -- only the server that was visited can know a new connection
    intro other server found connectId knows
    rw [enter, same] at found
    apply mem_enter_calls
    by_cases first : other = index
    · subst first
      obtain object := Option.some.inj (here.symm.trans found)
      rcases sound.knows server object connectId knows with earlier | announces
      · exact .inl (before connectId earlier)
      · have made : connectId = visit.connection := sound.passes _ announces
        exact .inr ⟨_, announces, by rw [← made]⟩
    · exact .inl (good.announced other server (others other first server found) connectId knows)

def Known (host : ParserHost Peer) (index : Nat) (connectId : UInt32) : Prop :=
  ∃ server, host.objects[index]? = some (.udp server) ∧ server.Knows connectId

theorem enroll_good (good : host.Good) (sound : visit.Sound fun _ => False) :
    (host.enroll visit).Good := by
  refine enter_good good (by simp) (fun _ _ owned => ReadObject.owned_append owned _) ?_ sound
    (fun _ known => known.elim)
  intro other away server found
  have inside : other < host.objects.length := by
    have bound := (List.getElem?_eq_some_iff.mp found).1
    rw [List.length_append, List.length_singleton] at bound
    omega
  rwa [List.getElem?_append_left inside] at found

theorem revisit_good {before : ReadObject Peer} (good : host.Good)
    (found : host.objects[index]? = some before) (kept : ∀ connectId, before.connectionOf connectId
      = connectId → visit.object.connectionOf connectId = connectId)
    (sound : visit.Sound (host.Known index)) : (host.revisit index visit).Good := by
  refine enter_good good ?_ (fun _ _ owned => ReadObject.owned_set found kept owned) ?_ sound ?_
  · exact List.getElem?_set_self (List.getElem?_eq_some_iff.mp found).1
  · intro other away server listed
    rwa [List.getElem?_set_ne (Ne.symm away)] at listed
  · rintro connectId ⟨server, here, knows⟩
    exact good.announced index server here connectId knows

end ParserHost

def LogicCall.Concerns (connectId : UInt32) : LogicCall → Prop
  | .work (.addThreadSession other) | .work (.closeSessionEvent other) | .addMessage _ other =>
      other = connectId
  | .work _ => True

theorem LogicCall.mem_made {before after made : List WorkAction} (grown : after = before ++ made)
    {action : WorkAction}
    (listed : .work action ∈ (after.drop before.length).map LogicCall.work) : action ∈ made := by
  rw [grown, List.drop_left] at listed
  obtain ⟨other, inside, same⟩ := List.mem_map.mp listed
  cases same
  exact inside

namespace ObjectVisit

theorem sound_of_single
    (single : ∀ connectId, visit.object.connectionOf connectId = visit.connection)
    (other : ∀ server, visit.object ≠ .udp server)
    (passes : ∀ entry ∈ visit.passed, entry.2 = visit.connection)
    (concerns : ∀ call ∈ visit.made, call.Concerns visit.connection) : visit.Sound known := by
  refine ⟨passes, fun call listed => ?_, fun server same => absurd same (other server)⟩
  have about := concerns call listed
  obtain action | ⟨logicId, connectId⟩ := call
  · cases action with
    | addThreadSession connectId => exact ⟨about, (single connectId).trans about.symm⟩
    | closeSessionEvent connectId => exact (single connectId).trans about.symm
    | _ => trivial
  · exact (single connectId).trans about.symm

theorem sound_of_server (shared : ∀ connectId, visit.object.connectionOf connectId = connectId)
    (passes : ∀ entry ∈ visit.passed, entry.2 = visit.connection) (adds : ∀ connectId, .work
      (.addThreadSession connectId) ∈ visit.made → connectId = visit.connection) (knows : ∀ server,
      visit.object = .udp server → ∀ connectId, server.Knows connectId → known connectId ∨
      (.packetConnect, connectId) ∈ visit.passed) : visit.Sound known := by
  refine ⟨passes, fun call listed => ?_, knows⟩
  obtain action | ⟨logicId, connectId⟩ := call
  · cases action with
    | addThreadSession connectId => exact ⟨adds connectId listed, shared connectId⟩
    | closeSessionEvent connectId => exact shared connectId
    | _ => trivial
  · exact shared connectId

end ObjectVisit

section Sockets

theorem BridgeDelivery.calls_concern (delivery : BridgeDelivery) (verdict : ReceiveVerdict) :
    ∀ action ∈ delivery.calls verdict, (LogicCall.work action).Concerns delivery.connectId := by
  intro action listed
  rcases delivery.calls_cases verdict with none | closed | ⟨messageList, data⟩
  · simp [none] at listed
  · rw [closed, List.mem_singleton] at listed
    rw [listed]
    rfl
  · rw [data, List.mem_singleton] at listed
    rw [listed]
    trivial

variable {data : List UInt8} {delivery : BridgeDelivery} {next session : BridgeSession}
  {verdict : ReceiveVerdict}

theorem BridgeSession.doReadSome_connectId {after : SessionBuffer → SessionBuffer}
    (handled : session.doReadSome data verdict after = some (next, delivery)) :
    next.connectId = session.connectId ∧ delivery.connectId = session.connectId := by
  obtain ⟨written, -, routed⟩ := Option.bind_eq_some_iff.mp handled
  exact routeData_connectId routed

theorem BridgeClass.receive_connectId {kind : BridgeClass}
    (handled : kind.receive session data verdict = some (next, delivery)) :
    next.connectId = session.connectId ∧ delivery.connectId = session.connectId := by
  cases kind with
  | tcpSession | tcpClientSession | tcpSslSession | tcpSslClientSession =>
    exact BridgeSession.doReadSome_connectId handled
  | udpClientSession =>
    simp only [receive, BridgeSession.udpClientDoReceiveFrom, Option.bind_eq_some_iff,
      Option.map_eq_some_iff] at handled
    obtain ⟨written, -, bytes, -, copied, -, ⟨routed, route⟩, found, same⟩ := handled
    cases same
    have kept := BridgeSession.routeData_connectId found
    exact ⟨kept.1, kept.2⟩
  | ttyServer =>
    simp only [receive, BridgeSession.ttyDoReadSome] at handled
    split at handled
    · obtain ⟨filled, -, routed⟩ := Option.bind_eq_some_iff.mp handled
      exact BridgeSession.routeData_connectId routed
    · cases handled
      exact ⟨rfl, rfl⟩

theorem BridgeClass.setIoBridgeConnectId_connectId (kind : BridgeClass) (session : BridgeSession)
    (toConnectId : UInt32) :
    (kind.setIoBridgeConnectId session toConnectId).connectId = session.connectId := by
  cases kind <;> simp only [setIoBridgeConnectId, BridgeSession.setIoBridge] <;> split <;> rfl

namespace SocketReader

structure Answers (reader : SocketReader) (answer : SocketReader × List LogicCall) : Prop where
  connectId : answer.1.session.connectId = reader.session.connectId
  concerns : ∀ call ∈ answer.2, call.Concerns reader.session.connectId

variable {answer : SocketReader × List LogicCall} {reader : SocketReader}

theorem doRead_answers (answered : reader.doRead = some answer) : reader.Answers answer := by
  simp only [doRead, Option.ite_none_right_eq_some, Option.some.injEq] at answered
  obtain ⟨-, rfl⟩ := answered
  refine ⟨rfl, fun call listed => ?_⟩
  simp only [fullCalls] at listed
  split at listed
  · cases kind : reader.kind with
    | ttyServer => simp [kind] at listed
    | _ =>
      simp only [kind, List.mem_singleton] at listed
      rw [listed]
      rfl
  · cases listed

theorem doReadSome_answers (answered : reader.doReadSome data verdict = some answer) :
    reader.Answers answer := by
  simp only [doReadSome, Option.ite_none_right_eq_some] at answered
  obtain ⟨-, handled⟩ := answered
  split at handled
  · cases handled
    exact ⟨rfl, by simp⟩
  · obtain ⟨⟨session, delivery⟩, received, rfl⟩ := Option.map_eq_some_iff.mp handled
    obtain ⟨same, owner⟩ := BridgeClass.receive_connectId received
    refine ⟨same, fun call listed => ?_⟩
    obtain ⟨action, inside, rfl⟩ := List.mem_map.mp listed
    exact owner ▸ delivery.calls_concern verdict action inside

theorem readError_answers (answered : reader.readError = some answer) : reader.Answers answer := by
  simp only [readError, Option.ite_none_right_eq_some, Option.some.injEq] at answered
  obtain ⟨-, rfl⟩ := answered
  refine ⟨rfl, fun call listed => ?_⟩
  simp only at listed
  split at listed
  · cases listed
  · rw [List.mem_singleton.mp listed]
    rfl

theorem visit_sound (answers : reader.Answers answer) {passed : List (ParserFunction × UInt32)}
    (passes : ∀ entry ∈ passed, entry.2 = reader.session.connectId) :
    (reader.visit passed answer : ObjectVisit Peer).Sound known :=
  ObjectVisit.sound_of_single (fun _ => answers.connectId) (fun _ same => by cases same) passes
    answers.concerns

theorem passes_own (reader : SocketReader) :
    ∀ entry ∈ reader.passes, entry.2 = reader.session.connectId := by
  intro entry listed
  unfold passes at listed
  split at listed
  · cases listed
  · rw [List.mem_singleton.mp listed]

end SocketReader

namespace TtyReads

structure Answers (port next : TtyReads) : Prop where
  connectId : next.session.connectId = port.session.connectId
  calls : ∃ made, next.calls = port.calls ++ made ∧
    ∀ action ∈ made, (LogicCall.work action).Concerns port.session.connectId

variable {next port : TtyReads}

theorem handled_answers {written : SessionBuffer} {after : SessionBuffer → SessionBuffer}
    (handled : ((port.session.routeData written data verdict after).map
      fun (routed, delivery) =>
        let handled := (port.moveTo written routed).call (delivery.calls verdict)
        if Refuses port.session verdict then handled.doReceive.doReceive
        else handled.doReceive) = some next) : port.Answers next := by
  obtain ⟨⟨routed, delivery⟩, found, rfl⟩ := Option.map_eq_some_iff.mp handled
  obtain ⟨same, owner⟩ := BridgeSession.routeData_connectId found
  have about := owner ▸ delivery.calls_concern verdict
  simp only
  split
  · exact ⟨same, delivery.calls verdict, rfl, about⟩
  · exact ⟨same, delivery.calls verdict, rfl, about⟩

theorem doReadSome_answers (handled : port.doReadSome data verdict = some next) :
    port.Answers next := by
  unfold doReadSome at handled
  split at handled
  · by_cases full : port.session.sessionRecvBuffer.getBufferSize = 0
    · simp only [if_pos full] at handled
      obtain ⟨same, made, grown, about⟩ := handled_answers handled
      refine ⟨same, .closeSessionEvent port.session.connectId :: made, ?_, ?_⟩
      · exact grown.trans (List.append_assoc _ _ _)
      · exact List.forall_mem_cons.mpr ⟨rfl, about⟩
    · simp only [if_neg full] at handled
      exact handled_answers handled
  · cases handled
    exact ⟨rfl, [], (List.append_nil _).symm, by simp⟩

theorem step_answers {action : TtyReadAction} (stepped : port.step action = some next) :
    port.Answers next := by
  cases action with
  | readSome index data verdict =>
    simp only [step, Option.bind_eq_some_iff, Option.ite_none_right_eq_some] at stepped
    obtain ⟨read, -, -, stored, -, handled⟩ := stepped
    obtain ⟨same, calls⟩ := doReadSome_answers handled
    exact ⟨same, calls⟩
  | readError index =>
    simp only [step, Option.map_eq_some_iff] at stepped
    obtain ⟨-, -, rfl⟩ := stepped
    exact ⟨rfl, [], (List.append_nil _).symm, by simp⟩
  | setIoBridgeConnectId toIoConnectId =>
    cases stepped
    refine ⟨?_, [], (List.append_nil _).symm, by simp⟩
    simp only [BridgeSession.setIoBridge]
    split <;> rfl

theorem passes_own (port : TtyReads) (action : TtyReadAction) :
    ∀ entry ∈ port.passes action, entry.2 = port.session.connectId := by
  intro entry listed
  unfold passes at listed
  split at listed
  · split at listed
    · rw [List.mem_singleton.mp listed]
    · cases listed
  · cases listed

theorem visit_sound {action : TtyReadAction} (visited : port.visit action = some visit) :
    visit.Sound known ∧ ∀ connectId,
      visit.object.connectionOf connectId = port.session.connectId := by
  obtain ⟨next, stepped, rfl⟩ := Option.map_eq_some_iff.mp visited
  obtain ⟨same, made, grown, about⟩ := step_answers stepped
  refine ⟨ObjectVisit.sound_of_single (fun _ => same) (fun _ udp => by cases udp)
    (port.passes_own action) ?_, fun _ => same⟩
  intro call listed
  obtain ⟨action, -, rfl⟩ := List.mem_map.mp listed
  exact about action (LogicCall.mem_made grown listed)

end TtyReads

end Sockets

namespace UdpServer

variable [DecidableEq Peer]

structure Answers (server next : UdpServer Peer) (action : UdpAction Peer) : Prop where
  calls : ∃ made, next.calls = server.calls ++ made ∧
    ∀ connectId, .addThreadSession connectId ∈ made → connectId = server.connection action
  knows : ∀ connectId, next.Knows connectId → server.Knows connectId ∨
    (.packetConnect, connectId) ∈ server.passes action

variable {action : UdpAction Peer} {next server : UdpServer Peer} {connectId : UInt32}

theorem Answers.of_same {made : List WorkAction} (grown : next.calls = server.calls ++ made)
    (adds : ∀ connectId, .addThreadSession connectId ∉ made)
    (endpoints : ∀ recvEndpoint connectId, next.udpEndpoint2IdList recvEndpoint = some connectId →
      server.udpEndpoint2IdList recvEndpoint = some connectId)
    (handling : ∀ handled, next.handling = some handled → ∃ before, server.handling = some before ∧
      before.connectId = handled.connectId) : server.Answers next action := by
  refine ⟨⟨made, grown, fun connectId added => absurd added (adds connectId)⟩, ?_⟩
  rintro connectId (⟨recvEndpoint, listed⟩ | ⟨handled, current, rfl⟩)
  · exact .inl (.inl ⟨recvEndpoint, endpoints recvEndpoint connectId listed⟩)
  · exact .inl (.inr (handling handled current))

theorem Answers.of_frame {made : List WorkAction} (grown : next.calls = server.calls ++ made)
    (adds : ∀ connectId, .addThreadSession connectId ∉ made)
    (endpoints : next.udpEndpoint2IdList = server.udpEndpoint2IdList)
    (handling : next.handling = server.handling) : server.Answers next action :=
  .of_same grown adds (fun _ _ listed => endpoints ▸ listed)
    fun after current => ⟨after, handling ▸ current, rfl⟩

theorem addUdpEndpoint_listed (server : UdpServer Peer) (recvEndpoint other : Peer)
    (listed : (server.addUdpEndpoint recvEndpoint).1.udpEndpoint2IdList other = some connectId) :
    server.udpEndpoint2IdList other = some connectId ∨
      server.udpEndpoint2IdList recvEndpoint = none ∧
        connectId = (server.addUdpEndpoint recvEndpoint).2 := by
  cases found : server.udpEndpoint2IdList recvEndpoint with
  | some known =>
    rw [addUdpEndpoint_known found] at listed
    exact .inl listed
  | none =>
    rw [addUdpEndpoint_unknown found] at listed ⊢
    by_cases same : other = recvEndpoint
    · simp only [call, same, update_self, Option.some.injEq] at listed
      exact .inr ⟨rfl, listed.symm⟩
    · simp only [call, update_of_ne same] at listed
      exact .inl listed

theorem addUdpEndpoint_calls (server : UdpServer Peer) (recvEndpoint : Peer) :
    ∃ made, (server.addUdpEndpoint recvEndpoint).1.calls = server.calls ++ made ∧
      ∀ connectId, .addThreadSession connectId ∈ made →
        connectId = (server.addUdpEndpoint recvEndpoint).2 := by
  cases found : server.udpEndpoint2IdList recvEndpoint with
  | some known =>
    rw [addUdpEndpoint_known found]
    exact ⟨[], (List.append_nil _).symm, by simp⟩
  | none =>
    rw [addUdpEndpoint_unknown found]
    refine ⟨_, rfl, fun connectId added => ?_⟩
    simpa using added

theorem addUdpEndpoint_id (server : UdpServer Peer) (recvEndpoint : Peer) :
    server.udpEndpoint2IdList recvEndpoint = some (server.addUdpEndpoint recvEndpoint).2 ∨
      server.udpEndpoint2IdList recvEndpoint = none := by
  cases found : server.udpEndpoint2IdList recvEndpoint with
  | some known =>
    rw [addUdpEndpoint_known found]
    exact .inl rfl
  | none => exact .inr rfl

theorem doReceiveFrom_cases (server : UdpServer Peer) (recvEndpoint : Peer) (length : Nat) :
    (server.doReceiveFrom recvEndpoint length).udpEndpoint2IdList =
        (server.addUdpEndpoint recvEndpoint).1.udpEndpoint2IdList ∧
      (∀ handled, (server.doReceiveFrom recvEndpoint length).handling = some handled →
        server.handling = some handled ∨
          handled.connectId = (server.addUdpEndpoint recvEndpoint).2) ∧
      ∃ made, (server.doReceiveFrom recvEndpoint length).calls =
          (server.addUdpEndpoint recvEndpoint).1.calls ++ made ∧
        ∀ connectId, .addThreadSession connectId ∉ made := by
  have idle := (addUdpEndpoint_frame server recvEndpoint).2.1
  simp only [doReceiveFrom]
  split
  · exact ⟨rfl, fun handled current => .inl (idle ▸ current), [], (List.append_nil _).symm,
      by simp⟩
  · split
    · exact ⟨rfl, fun handled current => .inl (idle ▸ current), _, rfl, by simp⟩
    · refine ⟨rfl, fun handled current => .inr ?_, [], (List.append_nil _).symm, by simp⟩
      cases current
      rfl

theorem eraseEndpoint_listed {other : UInt32} {recvEndpoint : Peer}
    (listed : (server.eraseEndpoint connectId).udpEndpoint2IdList recvEndpoint = some other) :
    server.udpEndpoint2IdList recvEndpoint = some other := by
  unfold eraseEndpoint at listed
  split at listed
  · rename_i info found
    by_cases same : recvEndpoint = info.sendEndpoint
    · simp [same] at listed
    · simpa only [update_of_ne same] using listed
  · exact listed

theorem receive_answers (server : UdpServer Peer) (filled : SessionBuffer) (recvEndpoint : Peer)
    (data : List UInt8) :
    server.Answers ({ server with
      receives := server.receives - 1
      sessionRecvBuffer := filled }.doReceiveFrom recvEndpoint data.length)
      (.receive recvEndpoint data) := by
  set taken : UdpServer Peer := { server with
    receives := server.receives - 1
    sessionRecvBuffer := filled } with takenEq
  have sameId : (taken.addUdpEndpoint recvEndpoint).2 = (server.addUdpEndpoint recvEndpoint).2 :=
    (addUdpEndpoint_same server taken recvEndpoint rfl rfl rfl).1
  obtain ⟨endpoints, handling, later, grown, quiet⟩ :=
    doReceiveFrom_cases taken recvEndpoint data.length
  obtain ⟨first, added, about⟩ := addUdpEndpoint_calls taken recvEndpoint
  have announces : ∀ connectId, connectId = (taken.addUdpEndpoint recvEndpoint).2 →
      server.udpEndpoint2IdList recvEndpoint = none →
        (.packetConnect, connectId) ∈ server.passes (.receive recvEndpoint data) := by
    intro connectId same unknown
    rw [same, sameId]
    simp [passes, unknown]
  constructor
  · refine ⟨first ++ later, ?_, fun connectId listed => ?_⟩
    · rw [grown, added, List.append_assoc]
    · rcases List.mem_append.mp listed with early | late
      · exact (about connectId early).trans sameId
      · exact absurd late (quiet connectId)
  · rintro connectId (⟨other, listed⟩ | ⟨handled, current, rfl⟩)
    · rw [endpoints] at listed
      rcases addUdpEndpoint_listed taken recvEndpoint other listed with before | ⟨unknown, same⟩
      · exact .inl (.inl ⟨other, before⟩)
      · exact .inr (announces connectId same unknown)
    · rcases handling handled current with before | same
      · exact .inl (.inr ⟨handled, before, rfl⟩)
      · rcases addUdpEndpoint_id taken recvEndpoint with known | unknown
        · exact .inl (.inl ⟨recvEndpoint, same ▸ known⟩)
        · exact .inr (announces _ same unknown)

theorem step_answers (stepped : server.step action = some next) : server.Answers next action := by
  cases stepped_of_step stepped with
  | receive recvEndpoint data filled idle pending stored =>
    exact server.receive_answers filled recvEndpoint data
  | findEndpoint connectId length handled =>
    refine .of_same (List.append_nil _).symm (by simp) (fun _ _ listed => listed) ?_
    intro after current
    exact ⟨_, handled, by rw [← Option.some.inj current]; rfl⟩
  | dispose verdict connectId length sessionInfo disposed handled disposes =>
    obtain ⟨-, -, endpoints, -, calls⟩ := disposeData_disposed disposes
    have listed : ∀ recvEndpoint connectId,
        disposed.udpEndpoint2IdList recvEndpoint = some connectId →
          server.udpEndpoint2IdList recvEndpoint = some connectId := by
      rw [endpoints]
      exact fun _ _ same => same
    rcases calls with calls | calls | ⟨messageList, calls⟩
    · exact .of_same (calls.trans (List.append_nil _).symm) (by simp) listed (by simp)
    · exact .of_same calls (by simp) listed (by simp)
    · exact .of_same calls (by simp) listed (by simp)
  | setIoBridgeConnectId fromConnectId toConnectId | createCounter | closeLook connectId
  | closeSkip index connectId looked =>
    exact .of_frame (List.append_nil _).symm (by simp) rfl rfl
  | closeWithdraw index connectId looked =>
    exact .of_frame rfl (by simp) rfl rfl
  | closeErase index connectId withdrawn =>
    have grown : (server.eraseEndpoint connectId).calls = server.calls ++ [] := by
      simp only [eraseEndpoint]
      split <;> simp
    refine .of_same grown (by simp) (fun _ _ listed => eraseEndpoint_listed listed) ?_
    intro after current
    exact ⟨after, (eraseEndpoint_frame server connectId).2.2 ▸ current, rfl⟩

omit [DecidableEq Peer] in
theorem parsedId_eq_some (parsed : server.parsedId = some connectId) : ∃ length sessionInfo,
      server.handling = some (.found connectId length sessionInfo) ∧
        ∀ info, sessionInfo = some info → info.ioState ≠ .sessionIoBridge := by
  unfold parsedId at parsed
  split at parsed
  · rename_i current length sessionInfo handled
    split at parsed
    · cases parsed
    · rename_i routed
      cases parsed
      refine ⟨length, sessionInfo, handled, ?_⟩
      rintro info rfl bridged
      exact routed (by simp [bridged])
  · cases parsed

theorem dispose_parsed (parsed : server.parsedId = some connectId) (verdict : ReceiveVerdict) :
    ∃ next, server.step (.dispose verdict) = some next := by
  obtain ⟨length, sessionInfo, handled, routed⟩ := parsedId_eq_some parsed
  have disposes : server.disposeData connectId length sessionInfo verdict =
      some (server.parseData connectId length verdict) := by
    cases sessionInfo with
    | none => rfl
    | some info => exact if_neg (routed info rfl)
  exact ⟨_, by simp only [step, handled, disposes]; rfl⟩

theorem connection_dispose (parsed : server.parsedId = some connectId) (verdict : ReceiveVerdict) :
    server.connection (.dispose verdict) = connectId := by
  obtain ⟨length, sessionInfo, handled, -⟩ := parsedId_eq_some parsed
  simp [connection, handled, UdpHandling.connectId]

omit [DecidableEq Peer] in
theorem knows_parsedId (parsed : server.parsedId = some connectId) : server.Knows connectId := by
  obtain ⟨length, sessionInfo, handled, -⟩ := parsedId_eq_some parsed
  exact .inr ⟨_, handled, rfl⟩

theorem passes_own
    (own : ∀ verdict, action = .dispose verdict → ∀ connectId ∈ server.parsedId, connectId =
      connectClientId) : ∀ entry ∈ server.passes action, entry.2 = server.connection action := by
  intro entry listed
  cases action with
  | receive recvEndpoint data | closeLook connectId =>
    simp only [passes] at listed
    split at listed
    · rw [List.mem_singleton.mp listed]
      rfl
    · cases listed
  | dispose verdict =>
    simp only [passes] at listed
    split at listed
    · rename_i parses
      obtain ⟨connectId, parsed⟩ := Option.isSome_iff_exists.mp parses
      rw [List.mem_singleton.mp listed, connection_dispose parsed verdict]
      exact (own verdict rfl connectId parsed).symm
    · cases listed
  | _ => cases listed

theorem visit_sound (stepped : server.step action = some next)
    (own : ∀ verdict, action = .dispose verdict → ∀ connectId ∈ server.parsedId, connectId =
      connectClientId) : (server.visit next action).Sound server.Knows := by
  obtain ⟨⟨made, grown, about⟩, knows⟩ := step_answers stepped
  refine ObjectVisit.sound_of_server (fun _ => rfl) (passes_own own) ?_ ?_
  · intro connectId listed
    exact about connectId (LogicCall.mem_made grown listed)
  · intro other same connectId known
    cases same
    exact knows connectId known

end UdpServer

namespace KcpListener

structure Answers (server next : KcpListener Peer) (connectId : UInt32) : Prop where
  calls : ∃ made, next.calls = server.calls ++ made ∧
    ∀ other, .addThreadSession other ∈ made → other = connectId
  parsed : ∃ seen, next.parserCalls = server.parserCalls ++ seen ∧
    ∀ call ∈ seen, call.connectId = connectId

variable {connectId : UInt32} {next server : KcpListener Peer}

theorem Answers.of_same (calls : next.calls = server.calls)
    (parsed : next.parserCalls = server.parserCalls) : server.Answers next connectId :=
  ⟨⟨[], by rw [calls, List.append_nil], by simp⟩, [], by rw [parsed, List.append_nil], by simp⟩

theorem Answers.trans {middle : KcpListener Peer} (first : server.Answers middle connectId)
    (second : middle.Answers next connectId) : server.Answers next connectId := by
  obtain ⟨⟨made, grown, about⟩, seen, parsed, owned⟩ := first
  obtain ⟨⟨later, grownLater, aboutLater⟩, seenLater, parsedLater, ownedLater⟩ := second
  refine ⟨⟨made ++ later, ?_, fun other listed => ?_⟩, seen ++ seenLater, ?_, fun call listed => ?_⟩
  · rw [grownLater, grown, List.append_assoc]
  · rcases List.mem_append.mp listed with early | late
    · exact about other early
    · exact aboutLater other late
  · rw [parsedLater, parsed, List.append_assoc]
  · rcases List.mem_append.mp listed with early | late
    · exact owned call early
    · exact ownedLater call late

theorem Received.answers {channel : KcpChannel Peer} {length : Nat} {completed : List (List UInt8)}
    (received : Received server connectId channel length completed next) :
    server.Answers next connectId := by
  cases received with
  | full buffer => exact ⟨⟨_, rfl, by simp⟩, [], (List.append_nil _).symm, by simp⟩
  | created buffer | unparsed queue taken buffer block ran => exact .of_same rfl rfl
  | parsed queue taken buffer next block ran bytes unbridged parses =>
    obtain ⟨_, action, reports, rfl⟩ := parseData_eq_some parses
    refine ⟨⟨[action], rfl, ?_⟩, _, rfl, by simp⟩
    rintro other added
    obtain rfl | ⟨messageList, rfl⟩ := reports <;> simp at added

variable [DecidableEq Peer]

theorem addUdpEndpoint_answers (server : KcpListener Peer) (recvEndpoint : Peer) (initKcp : Bool) :
    server.Answers (server.addUdpEndpoint recvEndpoint initKcp).1
      (server.addUdpEndpoint recvEndpoint initKcp).2 := by
  unfold addUdpEndpoint
  split
  · exact .of_same rfl rfl
  · cases initKcp with
    | true => exact ⟨⟨_, rfl, by simp⟩, [], (List.append_nil _).symm, by simp⟩
    | false => exact .of_same rfl rfl

theorem doReceiveFrom_answers {recvEndpoint : Peer} {length : Nat} {initKcp : Bool}
    {completed : List (List UInt8)}
    (handled : server.doReceiveFrom recvEndpoint length initKcp completed = some next) :
    server.Answers next (server.addUdpEndpoint recvEndpoint initKcp).2 := by
  have added := server.addUdpEndpoint_answers recvEndpoint initKcp
  obtain ⟨-, rfl⟩ | ⟨-, rfl | ⟨channel, -, received⟩⟩ := doReceiveFrom_cases handled
  · exact added
  · exact added.trans (.of_same rfl rfl)
  · exact added.trans received.answers

theorem addUdpEndpoint_id_eq (server other : KcpListener Peer) (recvEndpoint : Peer)
    (initKcp : Bool) (endpoints : other.udpEndpoint2IdList = server.udpEndpoint2IdList)
    (count : other.countIndex = server.countIndex) :
    (other.addUdpEndpoint recvEndpoint initKcp).2 =
      (server.addUdpEndpoint recvEndpoint initKcp).2 := by
  cases found : server.udpEndpoint2IdList recvEndpoint with
  | some connectId => simp [addUdpEndpoint, endpoints, found]
  | none => cases initKcp <;> simp [addUdpEndpoint, endpoints, found, count]

theorem step_answers {action : KcpListenerAction Peer} (stepped : server.step action = some next) :
    server.Answers next (server.connection action) := by
  cases action with
  | receive recvEndpoint data initKcp completed =>
    simp only [step, Option.ite_none_right_eq_some, Option.bind_eq_some_iff] at stepped
    obtain ⟨-, filled, -, handled⟩ := stepped
    have same := addUdpEndpoint_id_eq server { server with
      receives := server.receives - 1
      sessionRecvBuffer := filled } recvEndpoint initKcp rfl rfl
    obtain ⟨calls, parsed⟩ := same ▸ doReceiveFrom_answers handled
    exact ⟨calls, parsed⟩
  | close connectId =>
    simp only [step, Option.map_eq_some_iff] at stepped
    obtain ⟨channel, -, rfl⟩ := stepped
    exact ⟨⟨_, rfl, by simp⟩, [], (List.append_nil _).symm, by simp⟩
  | setIoBridgeConnectId toConnectId =>
    cases stepped
    unfold setIoBridgeConnectId
    split
    · exact .of_same rfl rfl
    · exact .of_same rfl rfl
  | createCounter =>
    cases stepped
    exact .of_same rfl rfl

theorem visit_sound {action : KcpListenerAction Peer} (stepped : server.step action = some next) :
    (server.visit next action).Sound known := by
  obtain ⟨⟨made, grown, about⟩, seen, parsed, owned⟩ := step_answers stepped
  refine ObjectVisit.sound_of_server (fun _ => rfl) ?_ ?_ (fun _ same => by cases same)
  · intro entry listed
    cases action with
    | receive recvEndpoint data initKcp completed =>
      simp only [visit, passes, parsed, List.drop_left, List.mem_append, List.mem_map] at listed
      rcases listed with connects | ⟨call, inside, rfl⟩
      · split at connects
        · rw [List.mem_singleton.mp connects]
          rfl
        · cases connects
      · exact owned call inside
    | close connectId =>
      rw [List.mem_singleton.mp listed]
      rfl
    | _ => cases listed
  · intro connectId listed
    exact about connectId (LogicCall.mem_made grown listed)

end KcpListener

namespace ParserHost

variable {host next : ParserHost Peer} {connectId : UInt32}
  {object : ReadObject Peer} {fresh : Nat → UInt8}

theorem openVisit_sound (single : ∀ other, object.connectionOf other = connectId)
    (socket : ∀ server, object ≠ .udp server) : (openVisit object connectId).Sound known :=
  ObjectVisit.sound_of_single single socket (by simp [openVisit])
    (by simp [openVisit, LogicCall.Concerns])

theorem closeVisit_sound (own : object.connectionOf connectId = connectId)
    (socket : ∀ server, object ≠ .udp server) : (closeVisit object connectId).Sound known :=
  ⟨by simp [closeVisit, own], by simp [closeVisit, LogicCall.Fits],
    fun server same => absurd same (socket server)⟩

section Good

variable (good : host.Good)

include good

theorem onSocket_good {handler : SocketReader → Option (ObjectVisit Peer)}
    (handled : host.onSocket index handler = some next) (sound : ∀ reader visit, handler reader =
      some visit → ∃ passed answer, visit = reader.visit passed answer ∧ reader.Answers answer ∧ ∀
      entry ∈ passed, entry.2 = reader.session.connectId) : next.Good := by
  unfold onSocket at handled
  split at handled
  · rename_i reader found
    obtain ⟨visit, answered, rfl⟩ := Option.map_eq_some_iff.mp handled
    obtain ⟨passed, answer, rfl, answers, own⟩ := sound reader visit answered
    exact revisit_good good found (fun _ same => answers.connectId.trans same)
      (SocketReader.visit_sound answers own)
  · cases handled

theorem Good.withCounter (counter : UInt32) :
    ({ host with connectCounter := counter } : ParserHost Peer).Good :=
  ⟨⟨good.sane.registered, good.sane.closing, good.sane.dispatched⟩, good.exactly, good.announced⟩

theorem Good.requeue {closing dispatched : List (Nat × UInt32)}
    (closes : ∀ entry ∈ closing, ReadObject.Owned host.objects entry.1 entry.2)
    (dispatches : ∀ entry ∈ dispatched, ReadObject.Owned host.objects entry.1 entry.2) :
    ({ host with closing := closing, dispatched := dispatched } : ParserHost Peer).Good :=
  ⟨⟨good.sane.registered, closes, dispatches⟩, good.exactly, good.announced⟩

theorem Good.dispatch (owned : ReadObject.Owned host.objects index connectId) :
    ({ host with dispatched := host.dispatched ++ [(index, connectId)] } :
      ParserHost Peer).Good :=
  good.requeue good.sane.closing (ReadObject.owned_concat good.sane.dispatched owned)

theorem Good.enqueue (owned : ReadObject.Owned host.objects index connectId) :
    ({ host with closing := host.closing ++ [(index, connectId)] } :
      ParserHost Peer).Good :=
  good.requeue (ReadObject.owned_concat good.sane.closing owned) good.sane.dispatched

theorem formatSendPacket_good (registered : host.sessions connectId = some index)
    (found : host.objects[index]? = some object) : ({ host with calls := host.calls ++
      [⟨index, object.connectionOf connectId, .parseFormatSendBuffer, connectId⟩] } :
      ParserHost Peer).Good := by
  refine ⟨⟨good.sane.registered, good.sane.closing, good.sane.dispatched⟩, ?_, ?_⟩
  · intro call listed
    rcases List.mem_append.mp listed with earlier | last
    · exact good.exactly call earlier
    · obtain ⟨other, here, owns⟩ := good.sane.registered connectId index registered
      obtain rfl := Option.some.inj (found.symm.trans here)
      rw [List.mem_singleton.mp last]
      exact owns.symm
  · intro other server here known knows
    exact List.mem_append_left _ (good.announced other server here known knows)

variable [DecidableEq Peer]

theorem stepUdp_good {server : UdpServer Peer} {action : UdpAction Peer}
    (found : host.objects[index]? = some (.udp server)) (own : ∀ verdict, action = .dispose verdict
      → ∀ connectId ∈ server.parsedId, connectId = UdpServer.connectClientId)
    (stepped : host.stepUdp index server action = some next) : next.Good := by
  obtain ⟨after, handled, rfl⟩ := Option.map_eq_some_iff.mp stepped
  have sound := UdpServer.visit_sound handled own
  refine (revisit_good good found (fun _ same => same) ⟨sound.passes, sound.fits, ?_⟩).withCounter _
  intro other same connectId knows
  exact (sound.knows other same connectId knows).imp_left fun known => ⟨server, found, known⟩

theorem stepKcp_good {server : KcpListener Peer} {action : KcpListenerAction Peer}
    (found : host.objects[index]? = some (.kcp server))
    (stepped : host.stepKcp index server action = some next) : next.Good := by
  obtain ⟨after, handled, rfl⟩ := Option.map_eq_some_iff.mp stepped
  exact (revisit_good good found (fun _ same => same)
    (KcpListener.visit_sound handled)).withCounter _

theorem closeObject_good (owned : ReadObject.Owned host.objects index connectId)
    (closed : host.closeObject index connectId = some next) : next.Good := by
  unfold closeObject at closed
  split at closed
  · rename_i reader found
    split at closed
    · exact Option.some.inj closed ▸ good
    · cases closed
      apply good.dispatch
      -- `connect_id_`, or the id of the close task
      split
      · exact ⟨_, found, rfl⟩
      · exact owned
  · rename_i port found
    cases closed
    exact good.dispatch ⟨_, found, rfl⟩
  · rename_i server found
    exact stepUdp_good good found (fun _ same => by cases same) closed
  · rename_i server found
    exact stepKcp_good good found closed
  · cases closed

theorem runClose_good {position : Nat}
    (ran : host.step fresh (.runClose position) = some next) : next.Good := by
  obtain ⟨⟨index, connectId⟩, listed, closed⟩ := Option.bind_eq_some_iff.mp ran
  have taken : ({ host with closing := host.closing.eraseIdx position } :
      ParserHost Peer).Good :=
    good.requeue (fun entry waits => good.sane.closing entry (List.mem_of_mem_eraseIdx waits))
      good.sane.dispatched
  exact closeObject_good taken (good.sane.closing _ (List.mem_of_getElem? listed)) closed

theorem runDispatched_good {position : Nat}
    (stepped : host.step fresh (.runDispatched position) = some next) : next.Good := by
  obtain ⟨⟨index, connectId⟩, listed, closed⟩ := Option.bind_eq_some_iff.mp stepped
  obtain ⟨object, here, owns⟩ := good.sane.dispatched _ (List.mem_of_getElem? listed)
  have taken : ({ host with dispatched := host.dispatched.eraseIdx position } :
      ParserHost Peer).Good :=
    good.requeue good.sane.closing fun entry waits =>
      good.sane.dispatched entry (List.mem_of_mem_eraseIdx waits)
  simp only at closed here owns
  split at closed
  · rename_i reader found
    cases closed
    obtain rfl := Option.some.inj (found.symm.trans here)
    have own : (ReadObject.socket { reader with isOpen := false } :
        ReadObject Peer).connectionOf connectId = connectId := owns
    exact revisit_good taken found (fun _ same => same)
      (closeVisit_sound own fun _ same => by cases same)
  · rename_i port found
    cases closed
    obtain rfl := Option.some.inj (found.symm.trans here)
    exact revisit_good taken found (fun _ same => same)
      (closeVisit_sound owns fun _ same => by cases same)
  · cases closed

theorem step_good {action : ParserAction Peer} (unmixed : host.Unmixed action)
    (stepped : host.step fresh action = some next) : next.Good := by
  cases action with
  | openSocket kind recvSize sendSize =>
    simp only [step, Option.ite_none_left_eq_some, Option.some.injEq] at stepped
    obtain ⟨-, rfl⟩ := stepped
    exact enroll_good (good.withCounter _)
      (openVisit_sound (fun _ => rfl) fun _ same => by cases same)
  | openTty recvSize sendSize =>
    cases stepped
    exact enroll_good (good.withCounter _)
      (openVisit_sound (fun _ => rfl) fun _ same => by cases same)
  | listenUdp recvSize =>
    cases stepped
    refine enroll_good good ⟨by simp, by simp, ?_⟩
    rintro server same connectId (⟨recvEndpoint, listed⟩ | ⟨handling, current, -⟩)
    · cases same
      cases listed
    · cases same
      cases current
  | listenKcp recvSize =>
    cases stepped
    exact enroll_good good ⟨by simp, by simp, fun _ same => by cases same⟩
  | createCounter =>
    cases stepped
    exact good.withCounter _
  | doRead index =>
    refine onSocket_good good stepped fun reader visit answered => ?_
    obtain ⟨answer, read, rfl⟩ := Option.map_eq_some_iff.mp answered
    exact ⟨_, answer, rfl, SocketReader.doRead_answers read, by simp⟩
  | readSome index data verdict =>
    refine onSocket_good good stepped fun reader visit answered => ?_
    obtain ⟨answer, read, rfl⟩ := Option.map_eq_some_iff.mp answered
    exact ⟨_, answer, rfl, SocketReader.doReadSome_answers read, reader.passes_own⟩
  | readError index =>
    refine onSocket_good good stepped fun reader visit answered => ?_
    obtain ⟨answer, read, rfl⟩ := Option.map_eq_some_iff.mp answered
    exact ⟨_, answer, rfl, SocketReader.readError_answers read, by simp⟩
  | setIoBridgeConnectId index toIoConnectId =>
    refine onSocket_good good stepped fun reader visit answered => ?_
    cases answered
    refine ⟨_, _, rfl, ⟨?_, by simp⟩, by simp⟩
    exact reader.kind.setIoBridgeConnectId_connectId reader.session toIoConnectId
  | tty index action =>
    simp only [step] at stepped
    split at stepped
    · rename_i port found
      obtain ⟨visit, visited, rfl⟩ := Option.map_eq_some_iff.mp stepped
      obtain ⟨sound, owner⟩ : visit.Sound (host.Known index) ∧ ∀ connectId,
          visit.object.connectionOf connectId = port.session.connectId :=
        TtyReads.visit_sound visited
      exact revisit_good good found (fun connectId same => (owner connectId).trans same) sound
    · cases stepped
  | udp index action =>
    simp only [step] at stepped
    split at stepped
    · rename_i server found
      refine stepUdp_good good found ?_ stepped
      rintro verdict rfl
      exact unmixed _ found
    · cases stepped
  | kcp index action =>
    simp only [step] at stepped
    split at stepped
    · rename_i server found
      exact stepKcp_good good found stepped
    · cases stepped
  | closeIoSession connectId =>
    obtain ⟨index, registered, rfl⟩ := Option.map_eq_some_iff.mp stepped
    exact good.enqueue (good.sane.registered connectId index registered)
  | formatSendPacket connectId =>
    obtain ⟨index, registered, formatted⟩ := Option.bind_eq_some_iff.mp stepped
    obtain ⟨object, found, rfl⟩ := Option.map_eq_some_iff.mp formatted
    exact formatSendPacket_good good registered found
  | runClose position => exact runClose_good good stepped
  | runDispatched position => exact runDispatched_good good stepped

theorem dispose_not_oneId {server : UdpServer Peer}
    (found : host.objects[index]? = some (.udp server)) (parsed : server.parsedId = some connectId)
    (other : connectId ≠ UdpServer.connectClientId) (verdict : ReceiveVerdict) :
    ∃ next, host.stepUdp index server (.dispose verdict) = some next ∧ ¬next.OneId := by
  let counted : UdpServer Peer := { server with countIndex := host.connectCounter }
  have parses : counted.parsedId = some connectId := parsed
  obtain ⟨after, stepped⟩ := UdpServer.dispose_parsed parses verdict
  -- the connect that was recorded earlier against the call with `connect_client_id_`
  refine ⟨_, Option.map_eq_some_iff.mpr ⟨after, stepped, rfl⟩, fun oneId => other ?_⟩
  have connects := good.announced index server found connectId (UdpServer.knows_parsedId parsed)
  have passed : (.packetFromRecvBuffer, UdpServer.connectClientId) ∈
      counted.passes (.dispose verdict) := by
    simp [UdpServer.passes, parses]
  exact oneId _ (mem_enter_calls host index _ _ (.inl connects))
    _ (mem_enter_calls host index _ _ (.inr ⟨_, passed, rfl⟩)) rfl
    (UdpServer.connection_dispose parses verdict).symm

theorem mixed_not_oneId {action : ParserAction Peer}
    (mixed : ¬host.Unmixed action) : ∃ next, host.step fresh action = some next ∧ ¬next.OneId := by
  unfold Unmixed at mixed
  split at mixed
  · rename_i index verdict
    push Not at mixed
    obtain ⟨object, found, connectId, parsed, other⟩ := mixed
    cases object with
    | udp server =>
      obtain ⟨next, stepped, broken⟩ := dispose_not_oneId good found parsed other verdict
      refine ⟨next, ?_, broken⟩
      have here : host.objects[index]? = some (.udp server) := found
      simp only [step, here, stepped]
    | _ => cases parsed
  · exact absurd trivial mixed

end Good

theorem init_good : (init : ParserHost Peer).Good :=
  ⟨⟨by simp [init], by simp [init], by simp [init]⟩, by simp [Exact, init],
    by simp [Announced, init]⟩

variable [DecidableEq Peer]

/-- The parser sees every connection under one id exactly as long as `CUdpServer` has no data for
it. -/
theorem oneId_iff_unmixed (fresh : Nat → UInt8) (actions : List (ParserAction Peer)) :
    Always (step fresh) OneId init actions ↔ Throughout (step fresh) Unmixed init actions := by
  refine always_iff_throughout_of_kept ?_ ?_ init_good init_good.exactly.oneId
  · intro host action next good _ single stepped
    by_cases unmixed : host.Unmixed action
    · exact step_good good unmixed stepped
    · obtain ⟨other, moved, broken⟩ := mixed_not_oneId good unmixed
      obtain rfl := Option.some.inj (stepped.symm.trans moved)
      exact absurd single broken
  · intro host action good _
    constructor
    · exact fun unmixed next stepped => (step_good good unmixed stepped).exactly.oneId
    · intro kept
      by_contra mixed
      obtain ⟨next, stepped, broken⟩ := mixed_not_oneId good mixed
      exact broken (kept next stepped)

theorem first_datagram_mixed :
    ¬Always (step fun _ => 0) OneId (init : ParserHost Bool)
      [.listenUdp 4, .udp 0 (.receive true [7]), .udp 0 .findEndpoint,
        .udp 0 (.dispose ⟨some [], 1, false⟩)] := by
  decide

end ParserHost

end PssAsio
