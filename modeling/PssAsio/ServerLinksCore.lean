import PssAsio.CommunicationServiceCore

/-!
`CCommunicationService` with the sessions it starts. `visits` is what is left of a loop under
`mutex_`.
-/

namespace PssAsio

inductive LinkPhase where
  | connecting
  | connected (connectId : Nat)
  | lost (connectId : Nat)
  | closed (connectId : Nat)
  | failed
  deriving DecidableEq, Repr

structure LinkSession where
  serverId : Nat
  ioType : ConnectIoType
  phase : LinkPhase
  connectFlag : Bool
  deriving DecidableEq, Repr

inductive VisitKind where
  | firstConnect
  | check
  deriving DecidableEq, Repr

structure ServerLinks where
  service : CommunicationService
  sessions : List LinkSession
  connectCounter : Nat
  visits : List (VisitKind × Nat)

inductive LinkAction where
  | addConnect (ioInfo : ConnectIoInfo) (ioType : ConnectIoType) (outcome : Bool)
  | connectIoServer (ioInfo : ConnectIoInfo) (ioType : ConnectIoType) (outcome : Bool)
  | runServerToServer (order : List Nat)
  | runCheckTask (order : List Nat)
  | visit (outcome : Bool)
  | resetConnect (serverId : Nat) (outcome : Bool)
  | sendIoMessage (connectId : Nat) (outcome : Bool)
  | closeConnect (serverId : Nat)
  | handleConnect (session : Nat) (failed : Bool)
  | disconnected (session : Nat)
  | deleteThreadSession (session : Nat)
  deriving DecidableEq, Repr

def LinkAction.isCall : LinkAction → Bool
  | .addConnect .. | .connectIoServer .. | .resetConnect .. | .sendIoMessage .. => true
  | _ => false

inductive StartResult where
  | unsupported
  | connecting
  | connected
  | failed
  deriving DecidableEq, Repr

def startResult (sslSupport : Bool) (ioType : ConnectIoType) (outcome : Bool) : StartResult :=
  match ioType with
  | .connectIoTcp => .connecting
  | .connectIoUdp | .connectIoTty => if outcome then .connected else .failed
  | .connectIoSsl =>
      if sslSupport then if outcome then .connecting else .failed else .unsupported
  | _ => .unsupported

/-- `is_connect` is overridden by `CTcpClientSession` only. -/
def LinkSession.isConnect (session : LinkSession) : Bool :=
  match session.ioType with
  | .connectIoTcp => session.connectFlag
  | _ => true

def CommunicationService.linkSession (service : CommunicationService) (serverId connectId : Nat) :
    CommunicationService :=
  if 0 < serverId then service.setConnectId serverId connectId else service

namespace ServerLinks

def init : ServerLinks := ⟨.init, [], 0, []⟩

def start (sslSupport : Bool) (links : ServerLinks) (connectInfo : CommunicationIoInfo)
    (outcome : Bool) : ServerLinks :=
  let serverId := connectInfo.ioInfo.serverId
  let created := fun phase => links.sessions ++ [⟨serverId, connectInfo.ioType, phase, false⟩]
  match startResult sslSupport connectInfo.ioType outcome with
  | .unsupported => links
  | .connecting =>
      { links with
        service := links.service.setSession serverId links.sessions.length
        sessions := created .connecting }
  | .connected =>
      let connectId := links.connectCounter + 1
      { links with
        service := (links.service.linkSession serverId connectId).setSession serverId
          links.sessions.length
        sessions := created (.connected connectId)
        connectCounter := connectId }
  | .failed =>
      { links with
        service := links.service.setSession serverId links.sessions.length
        sessions := created .failed }

def ioConnect (sslSupport : Bool) (links : ServerLinks) (connectInfo : CommunicationIoInfo)
    (outcome : Bool) : ServerLinks :=
  let connecting := links.service.ioConnect connectInfo
  let stored := { links with service := connecting.1 }
  if connecting.2 then stored.start sslSupport connectInfo outcome else stored

variable (links : ServerLinks)

variable (session : Nat)

def sessionIsConnect : Bool :=
  match links.sessions[session]? with
  | some record => record.isConnect
  | none => true

def needsReconnect (info : CommunicationIoInfo) : Bool :=
  (match info.session with
    | none => true
    | some session => !links.sessionIsConnect session) && info.ioInfo.isNeedReconnect

def isRegistered (connectId : Nat) : Bool :=
  links.sessions.any fun session =>
    session.phase == .connected connectId || session.phase == .lost connectId

/-! The `io_connect` call, if any, that each operation of the service comes down to. -/

def visitEntry (kind : VisitKind) (serverId : Nat) : Option CommunicationIoInfo :=
  match links.service.communicationList.lookup serverId with
  | none => none
  | some info =>
      match kind with
      | .firstConnect => some info
      | .check => if links.needsReconnect info then some info else none

def deliverIoMessage (connectId : Nat) : Option CommunicationIoInfo :=
  if links.isRegistered connectId then none
  else
    let serverId := links.service.getServerId connectId
    if 0 < serverId then links.service.communicationList.lookup serverId else none

def request : LinkAction → Option (CommunicationIoInfo × Bool)
  | .addConnect ioInfo ioType outcome =>
      some (CommunicationService.newConnect ioInfo ioType, outcome)
  | .connectIoServer ioInfo ioType outcome =>
      if links.service.isExist ioInfo.serverId then none
      else some (CommunicationService.newConnect ioInfo ioType, outcome)
  | .visit outcome =>
      match links.visits with
      | [] => none
      | (kind, serverId) :: _ => (links.visitEntry kind serverId).map (·, outcome)
  | .resetConnect serverId outcome =>
      (links.service.communicationList.lookup serverId).map (·, outcome)
  | .sendIoMessage connectId outcome => (links.deliverIoMessage connectId).map (·, outcome)
  | _ => none

def answer (sslSupport : Bool) (links : ServerLinks) :
    Option (CommunicationIoInfo × Bool) → ServerLinks
  | none => links
  | some (connectInfo, outcome) => links.ioConnect sslSupport connectInfo outcome

def updateSession (record : LinkSession) : ServerLinks :=
  { links with sessions := links.sessions.set session record }

def handleConnect (record : LinkSession) (failed : Bool) : ServerLinks :=
  if failed then
    links.updateSession session { record with phase := .failed, connectFlag := false }
  else
    let connectId := links.connectCounter + 1
    { links.updateSession session { record with
        phase := .connected connectId
        connectFlag := true } with
      service := links.service.linkSession record.serverId connectId
      connectCounter := connectId }

def deleteThreadSession (record : LinkSession) (connectId : Nat) : ServerLinks :=
  { links.updateSession session { record with phase := .closed connectId } with
    service := links.service.linkSession record.serverId 0 }

def step (sslSupport : Bool) (links : ServerLinks) (action : LinkAction) : Option ServerLinks :=
  match action with
  | .addConnect .. | .connectIoServer .. | .resetConnect .. | .sendIoMessage .. =>
      if links.visits = [] then some (links.answer sslSupport (links.request action)) else none
  | .visit _ =>
      if links.visits = [] then none
      else some { links.answer sslSupport (links.request action) with visits := links.visits.tail }
  | .runServerToServer order =>
      if links.visits = [] ∧ order.Perm links.service.communicationList.keys then
        some { links with
          service := { links.service with communicationIsRun := true }
          visits := order.map (.firstConnect, ·) }
      else none
  | .runCheckTask order =>
      if links.visits = [] ∧ order.Perm links.service.communicationList.keys then
        some { links with visits := order.map (.check, ·) }
      else none
  | .closeConnect serverId =>
      if links.visits = [] then
        some { links with service := links.service.closeConnect serverId }
      else none
  | .handleConnect session failed =>
      match links.sessions[session]? with
      | none => none
      | some record =>
          if record.phase = .connecting ∧ (failed ∨ links.visits = []) then
            some (links.handleConnect session record failed)
          else none
  | .disconnected session =>
      match links.sessions[session]? with
      | none => none
      | some record =>
          match record.phase with
          | .connected connectId => some (links.updateSession session
              { record with phase := .lost connectId, connectFlag := false })
          | .closed connectId => some (links.updateSession session
              { record with phase := .closed connectId, connectFlag := false })
          | _ => none
  | .deleteThreadSession session =>
      match links.sessions[session]? with
      | none => none
      | some record =>
          match record.phase with
          | .connected connectId | .lost connectId | .closed connectId =>
              if links.visits = [] then some (links.deleteThreadSession session record connectId)
              else none
          | _ => none

theorem linkSession_marker (service : CommunicationService) (serverId connectId : Nat) :
    (service.linkSession serverId connectId).serverIsConnectList =
        (if 0 < serverId then service.serverIsConnectList.erase serverId
        else service.serverIsConnectList) ∧
      (service.linkSession serverId connectId).communicationIsRun =
        service.communicationIsRun := by
  unfold CommunicationService.linkSession
  split
  · exact service.setConnectId_marker serverId connectId
  · exact ⟨rfl, rfl⟩

/-! What an accepted step did, with what had to hold for it. -/

inductive Stepped (sslSupport : Bool) (links : ServerLinks) : LinkAction → ServerLinks → Prop where
  | answered (action : LinkAction) (call : action.isCall) (free : links.visits = []) :
      Stepped sslSupport links action (links.answer sslSupport (links.request action))
  | visited (outcome : Bool) (kind : VisitKind) (serverId : Nat) (rest : List (VisitKind × Nat))
      (next : links.visits = (kind, serverId) :: rest) :
      Stepped sslSupport links (.visit outcome)
        { links.answer sslSupport (links.request (.visit outcome)) with visits := rest }
  | runServerToServer (order : List Nat) (free : links.visits = [])
      (complete : order.Perm links.service.communicationList.keys) :
      Stepped sslSupport links (.runServerToServer order) { links with
        service := { links.service with communicationIsRun := true }
        visits := order.map (.firstConnect, ·) }
  | runCheckTask (order : List Nat) (free : links.visits = [])
      (complete : order.Perm links.service.communicationList.keys) :
      Stepped sslSupport links (.runCheckTask order)
        { links with visits := order.map (.check, ·) }
  | closeConnect (serverId : Nat) (free : links.visits = []) :
      Stepped sslSupport links (.closeConnect serverId)
        { links with service := links.service.closeConnect serverId }
  | handleConnect (session : Nat) (failed : Bool) (record : LinkSession)
      (found : links.sessions[session]? = some record) (waiting : record.phase = .connecting)
      (free : failed ∨ links.visits = []) :
      Stepped sslSupport links (.handleConnect session failed)
        (links.handleConnect session record failed)
  | disconnected (session : Nat) (record after : LinkSession)
      (found : links.sessions[session]? = some record)
      (ended : ∃ connectId, record.phase = .connected connectId ∧ after.phase = .lost connectId ∨
        record.phase = .closed connectId ∧ after.phase = .closed connectId)
      (same : after.serverId = record.serverId) :
      Stepped sslSupport links (.disconnected session) (links.updateSession session after)
  | deleteThreadSession (session : Nat) (record : LinkSession) (connectId : Nat)
      (found : links.sessions[session]? = some record) (free : links.visits = [])
      (registered : record.phase = .connected connectId ∨ record.phase = .lost connectId ∨
        record.phase = .closed connectId) :
      Stepped sslSupport links (.deleteThreadSession session)
        (links.deleteThreadSession session record connectId)

theorem stepped_of_step {sslSupport : Bool} {links next : ServerLinks} {action : LinkAction}
    (stepped : links.step sslSupport action = some next) :
    Stepped sslSupport links action next := by
  cases action with
  | addConnect | connectIoServer | resetConnect | sendIoMessage =>
    simp only [step, Option.ite_none_right_eq_some, Option.some.injEq] at stepped
    exact stepped.2 ▸ .answered _ rfl stepped.1
  | visit outcome =>
    simp only [step, Option.ite_none_left_eq_some, Option.some.injEq] at stepped
    obtain ⟨pending, rfl⟩ := stepped
    cases visits : links.visits with
    | nil => exact absurd visits pending
    | cons head rest => exact .visited outcome head.1 head.2 rest visits
  | runServerToServer order =>
    simp only [step, Option.ite_none_right_eq_some, Option.some.injEq] at stepped
    exact stepped.2 ▸ .runServerToServer order stepped.1.1 stepped.1.2
  | runCheckTask order =>
    simp only [step, Option.ite_none_right_eq_some, Option.some.injEq] at stepped
    exact stepped.2 ▸ .runCheckTask order stepped.1.1 stepped.1.2
  | closeConnect serverId =>
    simp only [step, Option.ite_none_right_eq_some, Option.some.injEq] at stepped
    exact stepped.2 ▸ .closeConnect serverId stepped.1
  | handleConnect session failed =>
    simp only [step] at stepped
    split at stepped
    · cases stepped
    · rename_i record found
      simp only [Option.ite_none_right_eq_some, Option.some.injEq] at stepped
      exact stepped.2 ▸ .handleConnect session failed record found stepped.1.1 stepped.1.2
  | disconnected session =>
    simp only [step] at stepped
    split at stepped
    · cases stepped
    · rename_i record found
      split at stepped <;> cases stepped
      · rename_i connectId phase
        exact .disconnected session record _ found ⟨connectId, .inl ⟨phase, rfl⟩⟩ rfl
      · rename_i connectId phase
        exact .disconnected session record _ found ⟨connectId, .inr ⟨phase, rfl⟩⟩ rfl
  | deleteThreadSession session =>
    simp only [step] at stepped
    split at stepped
    · cases stepped
    · rename_i record found
      split at stepped <;>
        simp only [Option.ite_none_right_eq_some, Option.some.injEq, reduceCtorEq] at stepped
      all_goals
        rename_i connectId phase
        exact stepped.2 ▸
          .deleteThreadSession session record connectId found stepped.1 (by simp [phase])

end ServerLinks

end PssAsio
