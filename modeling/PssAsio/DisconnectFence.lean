import PssAsio.TcpReceiverCore
import PssAsio.TcpSessionWithdrawal
import PssAsio.UdpServerCore

/-!
Received data after the disconnect of a connection: no class fences its receiving side off.
-/

namespace PssAsio

open TransitionRuns Function

def isDataAfterDisconnect : WorkAction → WorkAction → Bool
  | .deleteThreadSession connectId, .assignationThreadModuleLogic other messageList =>
      connectId = other && !messageList.isEmpty
  | _, _ => false

def NoDataAfterDisconnect (calls : List WorkAction) : Prop :=
  calls.Pairwise fun earlier later => isDataAfterDisconnect earlier later = false
  deriving Decidable

section Calls

variable {calls : List WorkAction}

variable {action : WorkAction}

theorem NoDataAfterDisconnect.append (holds : NoDataAfterDisconnect calls)
    (after : ∀ earlier ∈ calls, isDataAfterDisconnect earlier action = false) :
    NoDataAfterDisconnect (calls ++ [action]) := by
  refine List.pairwise_append.mpr ⟨holds, List.pairwise_singleton _ _, ?_⟩
  intro earlier member later single
  rw [List.mem_singleton.mp single]
  exact after earlier member

theorem NoDataAfterDisconnect.append_other (holds : NoDataAfterDisconnect calls)
    (noData : ∀ connectId messageList, action ≠ .assignationThreadModuleLogic connectId
      messageList) : NoDataAfterDisconnect (calls ++ [action]) := by
  apply holds.append
  intro earlier _
  cases action with
  | assignationThreadModuleLogic other messageList => exact absurd rfl (noData other messageList)
  | _ => cases earlier <;> rfl

theorem NoDataAfterDisconnect.append_all (holds : NoDataAfterDisconnect calls)
    {more : List WorkAction} (noData : ∀ action ∈ more, ∀ connectId messageList, action ≠
      .assignationThreadModuleLogic connectId messageList) :
    NoDataAfterDisconnect (calls ++ more) := by
  induction more generalizing calls with
  | nil => simpa using holds
  | cons action more ih =>
    obtain ⟨first, others⟩ := List.forall_mem_cons.mp noData
    rw [List.append_cons]
    exact ih (holds.append_other first) others

theorem NoDataAfterDisconnect.append_data (holds : NoDataAfterDisconnect calls) {connectId : UInt32}
    (messageList : List MessagePacket) (connected : .deleteThreadSession connectId ∉ calls) :
    NoDataAfterDisconnect (calls ++ [.assignationThreadModuleLogic connectId messageList]) := by
  apply holds.append
  intro earlier member
  cases earlier with
  | deleteThreadSession other =>
    have differs : other ≠ connectId := by
      rintro rfl
      exact connected member
    simp [isDataAfterDisconnect, differs]
  | _ => rfl

theorem mem_append_other {disconnect : WorkAction} (differs : action ≠ disconnect) :
    disconnect ∈ calls ++ [action] ↔ disconnect ∈ calls := by
  simp [differs.symm]

end Calls

theorem mem_set_of_ne {α : Type} {list : List α} {index : Nat} {old new value : α}
    (found : list[index]? = some old) (member : value ∈ list) (differs : value ≠ old) :
    value ∈ list.set index new := by
  obtain ⟨place, holds⟩ := List.mem_iff_getElem?.mp member
  refine List.mem_iff_getElem?.mpr ⟨place, ?_⟩
  have other : index ≠ place := by
    rintro rfl
    rw [found] at holds
    exact differs (Option.some.inj holds).symm
  rw [List.getElem?_set_ne other, holds]

theorem mem_eraseIdx_of_ne {α : Type} {list : List α} {index : Nat} {old value : α}
    (found : list[index]? = some old) (member : value ∈ list) (differs : value ≠ old) :
    value ∈ list.eraseIdx index := by
  obtain ⟨place, holds⟩ := List.mem_iff_getElem?.mp member
  refine List.mem_eraseIdx_iff_getElem?.mpr ⟨place, ?_, holds⟩
  rintro rfl
  rw [found] at holds
  exact differs (Option.some.inj holds).symm

namespace UdpServer

variable {Peer : Type}

variable (server : UdpServer Peer)

structure Fenced : Prop where
  ordered : NoDataAfterDisconnect server.calls
  mapped : ∀ endpoint connectId, server.udpEndpoint2IdList endpoint = some connectId →
    (server.udpId2EndpointList connectId).map (·.sendEndpoint) = some endpoint
  leaving : ∀ endpoint connectId, server.udpEndpoint2IdList endpoint = some connectId →
    .deleteThreadSession connectId ∈ server.calls → (connectId, .withdrawn) ∈ server.closing
  handled : ∀ handling, server.handling = some handling →
    .deleteThreadSession handling.connectId ∉ server.calls

/-- Datagrams and disconnects of one id do not overlap. -/
def ClosesApart : UdpAction Peer → Prop
  | .receive recvEndpoint _ =>
      match server.udpEndpoint2IdList recvEndpoint with
      | some connectId => (connectId, .withdrawn) ∉ server.closing
      | none => server.udpId2EndpointList (server.countIndex + 1) = none ∧
          .deleteThreadSession (server.countIndex + 1) ∉ server.calls
  | .closeWithdraw index =>
      match server.closing[index]?, server.handling with
      | some (connectId, .looked true), some handling => handling.connectId ≠ connectId
      | _, _ => True
  | _ => True

instance (action : UdpAction Peer) : Decidable (server.ClosesApart action) := by
  unfold ClosesApart
  (repeat' split) <;> infer_instance

variable {server} {connectId : UInt32}

section Fenced

variable (fenced : server.Fenced)

include fenced

theorem Fenced.of_tables {next : UdpServer Peer}
    (calls : next.calls = server.calls)
    (endpoints : next.udpEndpoint2IdList = server.udpEndpoint2IdList)
    (sessions : ∀ other, (next.udpId2EndpointList other).map (·.sendEndpoint) =
      (server.udpId2EndpointList other).map (·.sendEndpoint))
    (closing : ∀ connectId, (connectId, .withdrawn) ∈ server.closing → (connectId, .withdrawn) ∈
      next.closing)
    (handling : ∀ handling, next.handling = some handling → ∃ before, server.handling = some before
      ∧ before.connectId = handling.connectId) : next.Fenced := by
  refine ⟨calls ▸ fenced.ordered, ?_, ?_, ?_⟩
  · intro endpoint connectId known
    rw [sessions]
    exact fenced.mapped endpoint connectId (endpoints ▸ known)
  · intro endpoint connectId known gone
    rw [calls] at gone
    exact closing connectId (fenced.leaving endpoint connectId (endpoints ▸ known) gone)
  · intro current held
    obtain ⟨before, earlier, same⟩ := handling current held
    rw [calls, ← same]
    exact fenced.handled before earlier

theorem Fenced.call {action : WorkAction}
    (noData : ∀ connectId messageList, action ≠ .assignationThreadModuleLogic connectId messageList)
    (noDisconnect : ∀ connectId, action ≠ .deleteThreadSession connectId) :
    (server.call action).Fenced := by
  refine ⟨fenced.ordered.append_other noData, fenced.mapped, ?_, ?_⟩
  · intro endpoint connectId known gone
    exact fenced.leaving endpoint connectId known
      ((mem_append_other (noDisconnect connectId)).mp gone)
  · intro handling held gone
    exact fenced.handled handling held ((mem_append_other (noDisconnect _)).mp gone)

theorem withdraw_fenced {index : Nat}
    (looked : server.closing[index]? = some (connectId, .looked true))
    (free : ∀ handling, server.handling = some handling → handling.connectId ≠ connectId) :
    Fenced ({ server with closing := server.closing.set index (connectId, .withdrawn) }.call
      (.deleteThreadSession connectId)) := by
  have listed : (connectId, UdpClosing.withdrawn) ∈
      server.closing.set index (connectId, .withdrawn) := by
    have inside := (List.getElem?_eq_some_iff.mp looked).1
    exact List.mem_iff_getElem?.mpr ⟨index, by simp [inside]⟩
  refine ⟨fenced.ordered.append_other (by simp), fenced.mapped, ?_, ?_⟩
  · intro endpoint other known gone
    rcases List.mem_append.mp gone with before | added
    · exact mem_set_of_ne looked (fenced.leaving endpoint other known before) (by simp)
    · have same := List.mem_singleton.mp added
      rw [WorkAction.deleteThreadSession.inj same]
      exact listed
  · intro handling held gone
    rcases List.mem_append.mp gone with before | added
    · exact fenced.handled handling held before
    · have same := List.mem_singleton.mp added
      exact free handling held (WorkAction.deleteThreadSession.inj same)

theorem dispose_fenced {disposed : UdpServer Peer}
    (connected : .deleteThreadSession connectId ∉ server.calls)
    (done : Disposed server disposed connectId) :
    Fenced { disposed.doReceive with handling := none } := by
  have kept : ∀ calls, disposed.calls = calls → NoDataAfterDisconnect calls →
      (∀ other, .deleteThreadSession other ∈ calls → .deleteThreadSession other ∈ server.calls) →
      Fenced { disposed.doReceive with handling := none } := by
    rintro calls rfl ordered earlier
    refine ⟨ordered, ?_, ?_, by simp⟩
    · intro endpoint other known
      have mapped := fenced.mapped endpoint other (done.endpoints ▸ known)
      rw [← done.sessions other] at mapped
      exact mapped
    · intro endpoint other known gone
      have listed := fenced.leaving endpoint other (done.endpoints ▸ known) (earlier other gone)
      rw [← done.closing] at listed
      exact listed
  rcases done.calls with same | closed | ⟨messageList, data⟩
  · exact kept _ same fenced.ordered fun _ gone => gone
  · exact kept _ closed (fenced.ordered.append_other (by simp)) fun _ gone =>
      (mem_append_other (by simp)).mp gone
  · exact kept _ data (fenced.ordered.append_data messageList connected) fun _ gone =>
      (mem_append_other (by simp)).mp gone

variable [DecidableEq Peer]

theorem Fenced.insertEndpoint (idle : server.handling = none) (recvEndpoint : Peer)
    (unused : server.udpId2EndpointList connectId = none)
    (never : .deleteThreadSession connectId ∉ server.calls) :
    Fenced { server with
      countIndex := connectId
      udpEndpoint2IdList := update server.udpEndpoint2IdList recvEndpoint
        (some connectId)
      udpId2EndpointList := update server.udpId2EndpointList connectId
        (some ⟨0, .sessionIoLogic, recvEndpoint⟩) } := by
  refine ⟨fenced.ordered, ?_, ?_, ?_⟩
  · intro endpoint other known
    by_cases same : endpoint = recvEndpoint
    · simp only [same, update_self, Option.some.injEq] at known
      simp [← known, same]
    · simp only [update_of_ne same] at known
      have kept := fenced.mapped endpoint other known
      have differs : other ≠ connectId := by
        rintro rfl
        simp [unused] at kept
      simpa only [update_of_ne differs] using kept
  · intro endpoint other known gone
    by_cases same : endpoint = recvEndpoint
    · simp only [same, update_self, Option.some.injEq] at known
      exact absurd (known ▸ gone) never
    · simp only [update_of_ne same] at known
      exact fenced.leaving endpoint other known gone
  · intro handling held
    simp only [idle] at held
    cases held

theorem addUdpEndpoint_fenced (idle : server.handling = none) {recvEndpoint : Peer}
    {data : List UInt8} (apart : server.ClosesApart (.receive recvEndpoint data)) :
    (server.addUdpEndpoint recvEndpoint).1.Fenced ∧
      .deleteThreadSession (server.addUdpEndpoint recvEndpoint).2 ∉
        (server.addUdpEndpoint recvEndpoint).1.calls := by
  cases found : server.udpEndpoint2IdList recvEndpoint with
  | some connectId =>
    rw [addUdpEndpoint_known found]
    simp only [ClosesApart, found] at apart
    refine ⟨fenced, ?_⟩
    intro gone
    exact apart (fenced.leaving recvEndpoint connectId found gone)
  | none =>
    rw [addUdpEndpoint_unknown found]
    simp only [ClosesApart, found] at apart
    obtain ⟨unused, never⟩ := apart
    have added := fenced.insertEndpoint idle recvEndpoint unused never
    refine ⟨added.call (by simp) (by simp), ?_⟩
    intro gone
    exact never ((mem_append_other (by simp)).mp gone)

theorem doReceiveFrom_fenced (idle : server.handling = none) {recvEndpoint : Peer}
    {data : List UInt8} (apart : server.ClosesApart (.receive recvEndpoint data)) :
    (server.doReceiveFrom recvEndpoint data.length).Fenced := by
  obtain ⟨added, connected⟩ := addUdpEndpoint_fenced fenced idle apart
  have free := (server.addUdpEndpoint_frame recvEndpoint).2.1.trans idle
  simp only [doReceiveFrom]
  split
  · exact added
  · split
    · have moved : Fenced { (server.addUdpEndpoint recvEndpoint).1 with
          sessionRecvBuffer :=
            (server.addUdpEndpoint recvEndpoint).1.sessionRecvBuffer.move data.length } :=
        ⟨added.ordered, added.mapped, added.leaving, added.handled⟩
      have noData : ∀ other messageList,
          WorkAction.closeSessionEvent (server.addUdpEndpoint recvEndpoint).2 ≠
            .assignationThreadModuleLogic other messageList := by
        simp
      have called := moved.call noData (by simp)
      exact ⟨called.ordered, called.mapped, called.leaving, called.handled⟩
    · refine ⟨added.ordered, added.mapped, added.leaving, ?_⟩
      intro handling held
      cases held
      exact connected

theorem eraseEndpoint_fenced {index : Nat}
    (withdrawn : server.closing[index]? = some (connectId, .withdrawn)) :
    Fenced { server.eraseEndpoint connectId with closing := server.closing.eraseIdx index } := by
  have remaining : ∀ other, other ≠ connectId → (other, .withdrawn) ∈ server.closing →
      (other, .withdrawn) ∈ server.closing.eraseIdx index := by
    intro other differs member
    refine mem_eraseIdx_of_ne withdrawn member ?_
    intro same
    exact differs (Prod.mk.inj same).1
  unfold eraseEndpoint
  cases found : server.udpId2EndpointList connectId with
  | none =>
    -- No endpoint leads to an id that is not in the other table.
    have unmapped : ∀ endpoint, server.udpEndpoint2IdList endpoint ≠ some connectId := by
      intro endpoint known
      simpa [found] using fenced.mapped endpoint connectId known
    refine ⟨fenced.ordered, fenced.mapped, ?_, fenced.handled⟩
    intro endpoint other known gone
    refine remaining other ?_ (fenced.leaving endpoint other known gone)
    rintro rfl
    exact unmapped endpoint known
  | some info =>
    have others : ∀ endpoint other,
        update server.udpEndpoint2IdList info.sendEndpoint none endpoint = some other →
          server.udpEndpoint2IdList endpoint = some other ∧ other ≠ connectId := by
      intro endpoint other known
      have kept : endpoint ≠ info.sendEndpoint := by
        rintro rfl
        simp at known
      rw [update_of_ne kept] at known
      refine ⟨known, ?_⟩
      rintro rfl
      have mapped := fenced.mapped endpoint other known
      simp only [found, Option.map_some, Option.some.injEq] at mapped
      exact kept mapped.symm
    refine ⟨fenced.ordered, ?_, ?_, fenced.handled⟩
    · intro endpoint other known
      obtain ⟨before, differs⟩ := others endpoint other known
      simp only [update_of_ne differs]
      exact fenced.mapped endpoint other before
    · intro endpoint other known gone
      obtain ⟨before, differs⟩ := others endpoint other known
      exact remaining other differs (fenced.leaving endpoint other before gone)

end Fenced

variable [DecidableEq Peer]

theorem step_fenced (server : UdpServer Peer) (action : UdpAction Peer) (next : UdpServer Peer)
    (fenced : server.Fenced) (apart : server.ClosesApart action)
    (stepped : server.step action = some next) : next.Fenced := by
  cases stepped_of_step stepped with
  | receive recvEndpoint data filled idle =>
    have before : Fenced { server with
        receives := server.receives - 1
        sessionRecvBuffer := filled } :=
      ⟨fenced.ordered, fenced.mapped, fenced.leaving, fenced.handled⟩
    exact doReceiveFrom_fenced before idle apart
  | findEndpoint connectId length handled =>
    refine fenced.of_tables rfl rfl (fun _ => rfl) (fun _ member => member) ?_
    intro handling held
    exact ⟨_, handled, by rw [← Option.some.inj held]; rfl⟩
  | dispose verdict connectId length sessionInfo disposed handled disposes =>
    exact dispose_fenced fenced (fenced.handled _ handled) (disposeData_disposed disposes)
  | setIoBridgeConnectId fromConnectId toConnectId =>
    refine fenced.of_tables rfl rfl ?_ (fun _ member => member)
      (fun handling held => ⟨handling, held, rfl⟩)
    intro other
    apply setSessionInfo_sendEndpoint
    intro info
    split <;> rfl
  | createCounter =>
    exact fenced.of_tables rfl rfl (fun _ => rfl) (fun _ member => member)
      (fun handling held => ⟨handling, held, rfl⟩)
  | closeLook connectId =>
    exact fenced.of_tables rfl rfl (fun _ => rfl)
      (fun _ member => List.mem_append_left _ member)
      (fun handling held => ⟨handling, held, rfl⟩)
  | closeSkip index connectId looked =>
    exact fenced.of_tables rfl rfl (fun _ => rfl)
      (fun _ member => mem_set_of_ne looked member (by simp))
      (fun handling held => ⟨handling, held, rfl⟩)
  | closeWithdraw index connectId looked =>
    refine withdraw_fenced fenced looked ?_
    intro handling held
    simpa [ClosesApart, looked, held] using apart
  | closeErase index connectId withdrawn => exact eraseEndpoint_fenced fenced withdrawn

end UdpServer

namespace TcpReceiver

variable (receiver : TcpReceiver)

structure Fenced : Prop where
  ordered : NoDataAfterDisconnect receiver.calls
  silent : .deleteThreadSession receiver.reader.connectId ∈ receiver.calls →
    receiver.session.socketOpen = false ∧ receiver.read.hasData = false
  own : ∀ delivery verdict, receiver.read = .handling delivery verdict →
    delivery.connectId = receiver.reader.connectId

/-- The closure does not run while data was read and is not handed over. -/
def ClosesApart : TcpReceiverAction → Prop
  | .drive action => receiver.session.runsClosure action → receiver.read.hasData = false
  | _ => True

instance (action : TcpReceiverAction) : Decidable (receiver.ClosesApart action) := by
  unfold ClosesApart
  split <;> infer_instance

theorem calls_no_data {connectId : UInt32} {events : List SessionEvent} :
    ∀ action ∈ events.flatMap (SessionEvent.calls connectId), ∀ other messageList,
      action ≠ .assignationThreadModuleLogic other messageList := by
  rintro action member other messageList rfl
  obtain ⟨event, -, listed⟩ := List.mem_flatMap.mp member
  cases event <;> simp [SessionEvent.calls] at listed

theorem calls_no_disconnect {connectId : UInt32} {events : List SessionEvent}
    (unrelated : Unrelated events) :
    .deleteThreadSession connectId ∉ events.flatMap (SessionEvent.calls connectId) := by
  intro member
  obtain ⟨event, listed, called⟩ := List.mem_flatMap.mp member
  cases event with
  | deleteThreadSession => exact List.count_eq_zero.mp (unrelated _ (by decide)) listed
  | _ => simp [SessionEvent.calls] at called

variable {receiver next : TcpReceiver} {verdict : ReceiveVerdict}

theorem Fenced.closeSessionEvent (fenced : receiver.Fenced) :
    receiver.closeSessionEvent.Fenced := by
  refine ⟨fenced.ordered.append_other (by simp), ?_, fenced.own⟩
  intro gone
  exact fenced.silent ((mem_append_other (by simp)).mp gone)

theorem doRead_fenced (ordered : NoDataAfterDisconnect receiver.calls)
    (connected : .deleteThreadSession receiver.reader.connectId ∉ receiver.calls) :
    receiver.doRead.Fenced := by
  have before : Fenced { receiver with read := .pending } :=
    ⟨ordered, fun gone => absurd gone connected, by simp⟩
  simp only [doRead]
  split
  · exact ⟨before.closeSessionEvent.ordered, before.closeSessionEvent.silent, by simp⟩
  · exact before

section Received

variable (fenced : receiver.Fenced)

include fenced

theorem drive_fenced {action : TcpAction}
    (apart : receiver.session.runsClosure action → receiver.read.hasData = false)
    (driven : receiver.drive action = some next) : next.Fenced := by
  unfold drive at driven
  split at driven
  · rename_i cause
    split at driven
    · cases driven
    · obtain ⟨session, raised, rfl⟩ := Option.map_eq_some_iff.mp driven
      have socket : session.socketOpen = receiver.session.socketOpen := by
        cases TcpSession.stepped_closeSessionEvent raised
        rfl
      refine ⟨fenced.ordered.append_other (by simp), ?_, fenced.own⟩
      intro gone
      obtain ⟨closed, none⟩ := fenced.silent ((mem_append_other (by simp)).mp gone)
      exact ⟨socket.trans closed, none⟩
  · obtain ⟨session, stepped, rfl⟩ := Option.map_eq_some_iff.mp driven
    refine ⟨fenced.ordered.append_all calls_no_data, ?_, fenced.own⟩
    intro gone
    obtain ⟨⟨others, unrelated, events⟩, socketOpen, -⟩ := TcpSession.step_adds stepped
    cases ran : receiver.session.runsClosure action with
    | true =>
      simp only [ran, Bool.not_true, Bool.and_false] at socketOpen
      exact ⟨socketOpen, apart ran⟩
    | false =>
      simp only [ran, Bool.false_eq_true, if_false, List.append_nil, Bool.not_false,
        Bool.and_true] at events socketOpen
      rw [events, List.drop_left] at gone
      rcases List.mem_append.mp gone with before | added
      · obtain ⟨closed, none⟩ := fenced.silent before
        exact ⟨socketOpen.trans closed, none⟩
      · exact absurd added (calls_no_disconnect unrelated)

theorem Fenced.connected (data : receiver.read.hasData = true) :
    .deleteThreadSession receiver.reader.connectId ∉ receiver.calls := by
  intro gone
  rw [(fenced.silent gone).2] at data
  cases data

theorem doReadSome_fenced (handled : receiver.doReadSome verdict = some next) : next.Fenced := by
  unfold doReadSome at handled
  split at handled
  · rename_i data completed
    obtain ⟨⟨reader, delivery⟩, routed, rfl⟩ := Option.map_eq_some_iff.mp handled
    obtain ⟨same, owner⟩ := BridgeSession.routeData_connectId routed
    have connected := fenced.connected (by rw [completed]; rfl)
    refine ⟨fenced.ordered, fun gone => absurd (same ▸ gone) connected, ?_⟩
    intro other answer held
    obtain ⟨rfl, -⟩ := TcpRead.handling.inj held
    exact owner.trans same.symm
  · cases handled
    have closing := fenced.closeSessionEvent
    exact ⟨closing.ordered, fun gone => ⟨(closing.silent gone).1, rfl⟩, by simp⟩
  · cases handled

theorem handOver_fenced (handed : receiver.handOver = some next) : next.Fenced := by
  unfold handOver at handed
  split at handed
  · rename_i delivery verdict held
    cases handed
    have owner := fenced.own delivery verdict held
    have connected := fenced.connected (by rw [held]; rfl)
    apply doRead_fenced
    · simp only [perform]
      rcases delivery.calls_cases verdict with none | closed | ⟨messageList, data⟩
      · rw [none, List.append_nil]
        exact fenced.ordered
      · rw [closed]
        exact fenced.ordered.append_other (by simp)
      · rw [data, owner]
        exact fenced.ordered.append_data messageList connected
    · simp only [perform]
      intro gone
      rcases List.mem_append.mp gone with before | made
      · exact connected before
      · rcases delivery.calls_cases verdict with none | closed | ⟨messageList, data⟩ <;>
          simp_all
  · cases handed

end Received

theorem step_fenced (receiver : TcpReceiver) (action : TcpReceiverAction) (next : TcpReceiver)
    (fenced : receiver.Fenced) (apart : receiver.ClosesApart action)
    (stepped : receiver.step action = some next) : next.Fenced := by
  cases action with
  | drive action =>
    simp only [step, Option.ite_none_left_eq_some] at stepped
    exact drive_fenced fenced apart stepped.2
  | readCompleted data =>
    simp only [step, Option.ite_none_right_eq_some, Option.map_eq_some_iff] at stepped
    obtain ⟨⟨-, stillOpen⟩, filled, -, rfl⟩ := stepped
    refine ⟨fenced.ordered, ?_, by simp⟩
    intro gone
    have closed := (fenced.silent gone).1
    simp [closed] at stillOpen
  | readFailed =>
    simp only [step, Option.ite_none_right_eq_some, Option.some.injEq] at stepped
    obtain ⟨-, rfl⟩ := stepped
    exact ⟨fenced.ordered, fun gone => ⟨(fenced.silent gone).1, rfl⟩, by simp⟩
  | doReadSome verdict =>
    simp only [step, Option.ite_none_left_eq_some] at stepped
    exact doReadSome_fenced fenced stepped.2
  | handOver => exact handOver_fenced fenced stepped
  | setIoBridgeConnectId toConnectId =>
    cases stepped
    have same : (receiver.reader.setIoBridge toConnectId toConnectId).connectId =
        receiver.reader.connectId := by
      unfold BridgeSession.setIoBridge
      split <;> rfl
    refine ⟨fenced.ordered, ?_, ?_⟩
    · simp only [same]
      exact fenced.silent
    · simp only [same]
      exact fenced.own

end TcpReceiver

def oneMessage : ReceiveVerdict := ⟨some [⟨9, [1, 2]⟩], 2, false⟩

end PssAsio
