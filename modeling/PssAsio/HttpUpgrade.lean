import PssAsio.HttpScanCore
import PssAsio.HttpSendCore
import PssAsio.TransitionRuns
import PssAsio.WebSocketFrameBounds

/-!
The upgrade of one watched connection, with calls for it and for others in any order.
-/

namespace PssAsio

open TransitionRuns WebSocketFormat Function

/-- The frame loop has rounds enough, because a frame has two bytes at least. -/
theorem websocketLoop_ends (rounds leftLen : Nat) (cacheFrame : List UInt8)
    (state : WebsocketOutcome) (enough : leftLen < rounds) :
    ∃ outcome, websocketLoop rounds leftLen cacheFrame state = some outcome ∧
      (state.protocol = .protocalWebsocketData → outcome.protocol = .protocalWebsocketData) := by
  induction rounds generalizing leftLen cacheFrame state with
  | zero => omega
  | succ rounds ih =>
    simp only [websocketLoop]
    by_cases ended : leftLen = 0
    · rw [if_pos ended]
      exact ⟨state, rfl, id⟩
    · rw [if_neg ended]
      split
      · exact ⟨state, rfl, id⟩
      · rename_i frame extracted
        obtain ⟨payloadlen, pos, -, first, -, size⟩ :=
          extract_accepted (congrArg Prod.fst extracted)
        have taken : frame.frameSize = _ := (congrArg (·.2.frameSize) extracted).symm.trans size
        split
        · exact ih _ _ _ (by omega)
        · obtain ⟨outcome, ended, kept⟩ := ih (leftLen - frame.frameSize) _ _ (by omega)
          exact ⟨outcome, ended, fun _ => kept rfl⟩

theorem disposeWebsocketDataMessage_ends (buffer : SessionBuffer)
    (messageList : List MessagePacket) :
    ∃ outcome, disposeWebsocketDataMessage buffer .protocalWebsocketData messageList =
        some outcome ∧ outcome.protocol = .protocalWebsocketData := by
  obtain ⟨outcome, ended, kept⟩ := websocketLoop_ends (buffer.getWriteSize + 1)
    buffer.getWriteSize [] ⟨buffer, .protocalWebsocketData, messageList⟩ (Nat.lt_succ_self _)
  exact ⟨outcome, ended, kept rfl⟩

namespace HttpUpgrade

/-- The table and the packets whose replies are due, and for the watched connection its formatted
outputs and the key of its request. -/
structure UpgradeWorld where
  mapHttpParse : MapHttpParse
  received : Nat → List MessagePacket
  outputs : List (List UInt8)
  upgradeKey : Option (List UInt8)

inductive UpgradeAction where
  | connect (connectId : Nat)
  | disconnect (connectId : Nat)
  | parse (connectId : Nat) (buffer : SessionBuffer)
  | reply (connectId : Nat)
  | sendIoMessage (connectId : Nat) (sendPacket : MessagePacket)

variable (execute : List UInt8 → HttpParsed) (wsHandshake : List UInt8 → List UInt8)
  (logic : MessagePacket → MessagePacket) (watched : Nat)

def requestKey (text : List UInt8) : List UInt8 :=
  ((execute text).callbacks.foldl HttpTextBuffer.callback {}).websocketKey

def keyAfter (key : Option (List UInt8)) : (before after : Option ProtocalInfo) →
    Option (List UInt8)
  | some old, some new =>
      if old.protocol = .protocalHttpPost ∧ new.protocol = .protocalWebsocketSharkHand then
        some (requestKey execute new.httpFormat.httpRequestText)
      else key
  | _, _ => key

def format (world : UpgradeWorld) (connectId : Nat) (message : MessagePacket) : UpgradeWorld :=
  match PacketParseHttp.parsePacketFormatSendBuffer world.mapHttpParse connectId message with
  | none => world
  | some (formatMessage, mapHttpParse) =>
      { world with
        mapHttpParse
        outputs := if connectId = watched then world.outputs ++ [formatMessage.buffer]
          else world.outputs }

/-- A round of the loop of `do_work_thread_module_logic`, which drops empty replies. -/
def reply (world : UpgradeWorld) (connectId : Nat) : UpgradeWorld :=
  match world.received connectId with
  | [] => world
  | recvPacket :: rest =>
      let taken := { world with received := update world.received connectId rest }
      if (logic recvPacket).buffer = [] then taken
      else format watched taken connectId (logic recvPacket)

def step (world : UpgradeWorld) : UpgradeAction → Option UpgradeWorld
  | .connect connectId =>
      let mapHttpParse := PacketParseHttp.connect world.mapHttpParse connectId
      if connectId = watched ∧ world.mapHttpParse.lookup watched = none then
        some { world with mapHttpParse, outputs := [], upgradeKey := none }
      else some { world with mapHttpParse }
  | .disconnect connectId =>
      some { world with
        mapHttpParse := PacketParseHttp.disconnect world.mapHttpParse connectId }
  | .parse connectId buffer =>
      (PacketParseHttp.parsePacketFromRecvBuffer execute wsHandshake world.mapHttpParse connectId
        buffer []).map fun outcome =>
          { world with
            mapHttpParse := outcome.mapHttpParse
            received := update world.received connectId
              (world.received connectId ++ outcome.messageList)
            upgradeKey := keyAfter execute world.upgradeKey (world.mapHttpParse.lookup watched)
              (outcome.mapHttpParse.lookup watched) }
  | .reply connectId => some (reply logic watched world connectId)
  | .sendIoMessage connectId sendPacket => some (format watched world connectId sendPacket)

def InOrder (outputs : List (List UInt8)) : Prop :=
  ∃ responses upgrades frames, outputs = responses ++ upgrades ++ frames ∧
    (∀ output ∈ responses, ∃ text, output = getResponseText text) ∧
    upgrades.length ≤ 1 ∧ (∀ output ∈ upgrades, ∃ text, output = getResponseWebsocketText text) ∧
    ∀ output ∈ frames, ∃ text, output = doWebsocketSendFrame text

def Answered (wsHandshake : List UInt8 → List UInt8) (key : Option (List UInt8))
    (outputs : List (List UInt8)) : Prop :=
  ∀ text, getResponseWebsocketText text ∈ outputs → some text = key.map wsHandshake

def protocol (watched : Nat) (world : UpgradeWorld) : Option HttpProtocol :=
  (world.mapHttpParse.lookup watched).map (·.protocol)

/-! What a call does to the watched connection. -/

structure Connection where
  info : Option ProtocalInfo
  received : List MessagePacket
  outputs : List (List UInt8)
  upgradeKey : Option (List UInt8)

def connection (watched : Nat) (world : UpgradeWorld) : Connection :=
  ⟨world.mapHttpParse.lookup watched, world.received watched, world.outputs, world.upgradeKey⟩

def formatted : HttpProtocol → List UInt8 → List UInt8
  | .protocalHttpPost => getResponseText
  | .protocalWebsocketSharkHand => getResponseWebsocketText
  | .protocalWebsocketData => doWebsocketSendFrame

def protocolSent : HttpProtocol → HttpProtocol
  | .protocalHttpPost => .protocalHttpPost
  | .protocalWebsocketSharkHand | .protocalWebsocketData => .protocalWebsocketData

def Connection.send (connection : Connection) (info : ProtocalInfo) (text : List UInt8) :
    Connection :=
  { connection with
    info := some { info with protocol := protocolSent info.protocol }
    outputs := connection.outputs ++ [formatted info.protocol text] }

/-- Plain requests, an upgrade request, or frames. -/
inductive Parsed (execute : List UInt8 → HttpParsed) (wsHandshake : List UInt8 → List UInt8)
    (buffer : SessionBuffer) : (old new : ProtocalInfo) → List MessagePacket → Prop
  | posted {old new messages} (before : old.protocol = .protocalHttpPost)
      (after : new.protocol = .protocalHttpPost)
      (plain : ∀ packet ∈ messages, packet.commandId ≠ httpWebsocketSharkHand) :
      Parsed execute wsHandshake buffer old new messages
  | requested {old : ProtocalInfo} (before : old.protocol = .protocalHttpPost)
      (ended : (old.httpFormat.tryParse execute buffer.content).2 = 0)
      (upgrades : (old.httpFormat.tryParse execute buffer.content).1.isWebsocket = true) :
      Parsed execute wsHandshake buffer old
        ⟨.protocalWebsocketSharkHand, (old.httpFormat.tryParse execute buffer.content).1⟩
        [⟨httpWebsocketSharkHand,
          wsHandshake (old.httpFormat.tryParse execute buffer.content).1.websocketKey⟩]
  | framed {old new messages} (before : old.protocol = .protocalWebsocketData)
      (after : new.protocol = .protocalWebsocketData) :
      Parsed execute wsHandshake buffer old new messages

inductive Change (execute : List UInt8 → HttpParsed) (wsHandshake : List UInt8 → List UInt8)
    (logic : MessagePacket → MessagePacket) (watched : Nat) (before : Connection) :
    UpgradeAction → Connection → Prop
  | kept (action : UpgradeAction) : Change execute wsHandshake logic watched before action before
  | opened (absent : before.info = none) :
      Change execute wsHandshake logic watched before (.connect watched)
        { before with info := some {}, outputs := [], upgradeKey := none }
  | closed : Change execute wsHandshake logic watched before (.disconnect watched)
      { before with info := none }
  | parsed {buffer old new messages} (found : before.info = some old)
      (parsed : Parsed execute wsHandshake buffer old new messages) :
      Change execute wsHandshake logic watched before (.parse watched buffer)
        { before with
          info := some new
          received := before.received ++ messages
          upgradeKey := keyAfter execute before.upgradeKey (some old) (some new) }
  | dropped {packet rest} (waiting : before.received = packet :: rest) :
      Change execute wsHandshake logic watched before (.reply watched)
        { before with received := rest }
  | replied {packet rest info} (waiting : before.received = packet :: rest)
      (full : (logic packet).buffer ≠ []) (found : before.info = some info) :
      Change execute wsHandshake logic watched before (.reply watched)
        ({ before with received := rest }.send info (logic packet).buffer)
  | pushed {info} (sendPacket : MessagePacket) (found : before.info = some info) :
      Change execute wsHandshake logic watched before (.sendIoMessage watched sendPacket)
        (before.send info sendPacket.buffer)

theorem disposeHttpMessage_parsed (buffer : SessionBuffer) {info : ProtocalInfo}
    (state : info.protocol = .protocalHttpPost) :
    let disposed := PacketParseHttp.disposeHttpMessage execute wsHandshake buffer.content info []
    Parsed execute wsHandshake buffer info disposed.2.1 disposed.2.2 := by
  simp only [PacketParseHttp.disposeHttpMessage]
  split
  · rename_i ended
    split
    · exact .posted state rfl (by simp [httpPostCommand, httpWebsocketSharkHand])
    · rename_i upgrades
      exact .requested state ended (Bool.not_eq_false _ ▸ upgrades)
  · split
    · exact .posted state state (by simp)
    · exact .posted state state (by simp)

theorem parse_map (mapHttpParse : MapHttpParse) (connectId : Nat) (buffer : SessionBuffer) :
    ∃ outcome, PacketParseHttp.parsePacketFromRecvBuffer execute wsHandshake mapHttpParse connectId
        buffer [] = some outcome ∧
      (outcome.mapHttpParse = mapHttpParse ∧ outcome.messageList = [] ∨
        ∃ old new, mapHttpParse.lookup connectId = some old ∧
          outcome.mapHttpParse = mapHttpParse.insert connectId new ∧
          Parsed execute wsHandshake buffer old new outcome.messageList) := by
  unfold PacketParseHttp.parsePacketFromRecvBuffer
  cases found : mapHttpParse.lookup connectId with
  | none => exact ⟨⟨true, mapHttpParse, buffer, []⟩, rfl, .inl ⟨rfl, rfl⟩⟩
  | some info =>
    dsimp only
    split
    · rename_i state
      have parsed := disposeHttpMessage_parsed execute wsHandshake buffer state
      exact ⟨⟨_, mapHttpParse.insert connectId _, _, _⟩, rfl, .inr ⟨info, _, rfl, rfl, parsed⟩⟩
    · rename_i state
      obtain ⟨outcome, ended, kept⟩ := disposeWebsocketDataMessage_ends buffer []
      rw [state, ended]
      exact ⟨⟨true, mapHttpParse.insert connectId { info with protocol := outcome.protocol }, _, _⟩,
        rfl, .inr ⟨info, _, rfl, rfl, .framed state kept⟩⟩
    · exact ⟨⟨true, mapHttpParse, buffer, []⟩, rfl, .inl ⟨rfl, rfl⟩⟩

theorem keyAfter_same (key : Option (List UInt8))
    (info : Option ProtocalInfo) : keyAfter execute key info info = key := by
  cases info with
  | none => rfl
  | some info =>
    refine if_neg ?_
    rintro ⟨posted, handshake⟩
    rw [posted] at handshake
    cases handshake

section Steps

variable {execute wsHandshake logic watched} {connectId : Nat} {world next : UpgradeWorld}

theorem parse_change {buffer : SessionBuffer}
    (stepped : step execute wsHandshake logic watched world (.parse connectId buffer) = some next) :
    Change execute wsHandshake logic watched (connection watched world) (.parse connectId buffer)
      (connection watched next) := by
  obtain ⟨outcome, returned, effect⟩ :=
    parse_map execute wsHandshake world.mapHttpParse connectId buffer
  simp only [step, returned, Option.map_some, Option.some.injEq] at stepped
  rw [← stepped]
  obtain ⟨same, silent⟩ | ⟨old, new, found, inserted, parsed⟩ := effect
  · simp only [connection, same, silent, List.append_nil, update_eq_self, keyAfter_same]
    exact .kept _
  · simp only [connection, inserted]
    by_cases own : watched = connectId
    · subst own
      simp only [AList.lookup_insert, update_self, found]
      exact .parsed rfl parsed
    · simp only [AList.lookup_insert_ne own, update_of_ne own, keyAfter_same]
      exact .kept _

theorem format_other (world : UpgradeWorld) (message : MessagePacket)
    (other : watched ≠ connectId) :
    connection watched (format watched world connectId message) = connection watched world := by
  simp only [format, PacketParseHttp.parsePacketFormatSendBuffer, if_neg other.symm]
  cases world.mapHttpParse.lookup connectId with
  | none => rfl
  | some info =>
    obtain ⟨protocol, httpFormat⟩ := info
    cases protocol with
    | protocalHttpPost | protocalWebsocketData => rfl
    | protocalWebsocketSharkHand => simp only [connection, AList.lookup_insert_ne other]

theorem format_own {info : ProtocalInfo} (found : world.mapHttpParse.lookup watched = some info)
    (message : MessagePacket) :
    connection watched (format watched world watched message) =
      (connection watched world).send info message.buffer := by
  obtain ⟨protocol, httpFormat⟩ := info
  cases protocol with
  | protocalHttpPost | protocalWebsocketSharkHand | protocalWebsocketData =>
    simp [format, PacketParseHttp.parsePacketFormatSendBuffer, found, connection, Connection.send,
      formatted, protocolSent]

theorem format_absent (absent : world.mapHttpParse.lookup connectId = none)
    (message : MessagePacket) : format watched world connectId message = world := by
  simp [format, PacketParseHttp.parsePacketFormatSendBuffer, absent]

theorem reply_change (logic : MessagePacket → MessagePacket) (watched : Nat) (world : UpgradeWorld)
    (connectId : Nat) :
    Change execute wsHandshake logic watched (connection watched world) (.reply connectId)
      (connection watched (reply logic watched world connectId)) := by
  simp only [reply]
  split
  · exact .kept _
  · rename_i packet rest waiting
    let taken := { world with received := update world.received connectId rest }
    by_cases own : watched = connectId
    · subst own
      have received : connection watched taken =
          { connection watched world with received := rest } := by
        simp [connection, taken]
      split
      · exact received ▸ .dropped waiting
      · rename_i full
        cases found : world.mapHttpParse.lookup watched with
        | none => exact format_absent (show taken.mapHttpParse.lookup watched = none from found) _ ▸
            received ▸ .dropped waiting
        | some info =>
          rw [format_own (show taken.mapHttpParse.lookup watched = some info from found), received]
          exact .replied waiting full found
    · have same : connection watched taken = connection watched world := by
        simp [connection, taken, update_of_ne own]
      split
      · exact same ▸ .kept _
      · rw [format_other taken _ own, same]
        exact .kept _

theorem step_change {action : UpgradeAction}
    (stepped : step execute wsHandshake logic watched world action = some next) :
    Change execute wsHandshake logic watched (connection watched world) action
      (connection watched next) := by
  cases action with
  | connect connectId =>
    simp only [step, PacketParseHttp.connect] at stepped
    split at stepped
    · rename_i fresh
      obtain ⟨rfl, absent⟩ := fresh
      cases stepped
      simp only [connection, absent, AList.lookup_insert]
      exact .opened rfl
    · rename_i other
      cases stepped
      cases found : world.mapHttpParse.lookup connectId with
      | some info => exact .kept _
      | none =>
        have different : watched ≠ connectId := fun same => other ⟨same.symm, same ▸ found⟩
        simp only [connection, AList.lookup_insert_ne different]
        exact .kept _
  | disconnect connectId =>
    cases stepped
    by_cases own : watched = connectId
    · subst own
      simp only [connection, PacketParseHttp.disconnect, AList.lookup_erase]
      exact .closed
    · simp only [connection, PacketParseHttp.disconnect, AList.lookup_erase_ne own]
      exact .kept _
  | parse connectId buffer => exact parse_change stepped
  | reply connectId =>
    cases stepped
    exact reply_change logic watched world connectId
  | sendIoMessage connectId sendPacket =>
    cases stepped
    by_cases own : watched = connectId
    · subst own
      cases found : world.mapHttpParse.lookup watched with
      | none =>
        rw [format_absent found]
        exact .kept _
      | some info => exact format_own found sendPacket ▸ .pushed sendPacket found
    · exact format_other world sendPacket own ▸ .kept _

end Steps

/-! The outputs come in order. -/

def Responses (outputs : List (List UInt8)) : Prop :=
  ∀ output ∈ outputs, ∃ text, output = getResponseText text

def Reached (outputs : List (List UInt8)) : HttpProtocol → Prop
  | .protocalHttpPost | .protocalWebsocketSharkHand => Responses outputs
  | .protocalWebsocketData => ∃ responses text frames,
      outputs = responses ++ getResponseWebsocketText text :: frames ∧ Responses responses ∧
        ∀ output ∈ frames, ∃ text, output = doWebsocketSendFrame text

def Connection.Phased (connection : Connection) : Prop :=
  match connection.info with
  | none => InOrder connection.outputs
  | some info => Reached connection.outputs info.protocol

section Order

variable {outputs : List (List UInt8)}

theorem Responses.inOrder (responses : Responses outputs) : InOrder outputs :=
  ⟨outputs, [], [], by simp, responses, by simp, by simp, by simp⟩

theorem Connection.phased_iff {connection : Connection} {info : ProtocalInfo}
    (found : connection.info = some info) :
    connection.Phased ↔ Reached connection.outputs info.protocol := by
  simp only [Connection.Phased, found]

theorem Connection.Phased.inOrder {connection : Connection} (phased : connection.Phased) :
    InOrder connection.outputs := by
  unfold Connection.Phased at phased
  split at phased
  · exact phased
  · rename_i info _
    cases state : info.protocol with
    | protocalHttpPost | protocalWebsocketSharkHand =>
      rw [state] at phased
      exact Responses.inOrder phased
    | protocalWebsocketData =>
      rw [state] at phased
      obtain ⟨responses, text, frames, same, first, last⟩ := phased
      rw [same]
      exact ⟨responses, [getResponseWebsocketText text], frames, by simp, first, by simp,
        by simp, last⟩

theorem Reached.send {protocol : HttpProtocol} (reached : Reached outputs protocol)
    (text : List UInt8) :
    Reached (outputs ++ [formatted protocol text]) (protocolSent protocol) := by
  cases protocol with
  | protocalHttpPost => exact List.forall_mem_append.mpr ⟨reached, by simp [formatted]⟩
  | protocalWebsocketSharkHand => exact ⟨outputs, text, [], rfl, reached, by simp⟩
  | protocalWebsocketData =>
    obtain ⟨responses, answered, frames, rfl, first, last⟩ := reached
    refine ⟨responses, answered, frames ++ [doWebsocketSendFrame text], ?_, first, ?_⟩
    · simp [formatted]
    · exact List.forall_mem_append.mpr ⟨last, by simp⟩

end Order

section Changes

variable {execute wsHandshake logic watched} {before after : Connection} {action : UpgradeAction}

theorem Connection.Phased.send {info : ProtocalInfo} (phased : before.Phased)
    (found : before.info = some info) (text : List UInt8) : (before.send info text).Phased :=
  Reached.send ((Connection.phased_iff found).mp phased) text

theorem Change.phased (change : Change execute wsHandshake logic watched before action after)
    (phased : before.Phased) : after.Phased := by
  cases change with
  | kept | dropped waiting => exact phased
  | opened absent => exact fun output held => absurd held List.not_mem_nil
  | closed => exact phased.inOrder
  | replied waiting full found =>
    have taken : { before with received := _ }.Phased := phased
    exact taken.send found _
  | pushed sendPacket found => exact phased.send found _
  | parsed found parsed =>
    have reached := (Connection.phased_iff found).mp phased
    refine (Connection.phased_iff rfl).mpr ?_
    cases parsed with
    | posted old new plain | framed old new =>
      rw [old] at reached
      rw [new]
      exact reached
    | requested old ended upgrades =>
      rw [old] at reached
      exact reached

end Changes

def start : UpgradeWorld := ⟨∅, fun _ => [], [], none⟩

def UpgradedInOrder (wsHandshake : List UInt8 → List UInt8) (world : UpgradeWorld) : Prop :=
  InOrder world.outputs ∧ Answered wsHandshake world.upgradeKey world.outputs

/-! The handshake that a reply carries. `clear` leaves the key of an earlier request behind. -/

def KeyUnread (buffer : HttpTextBuffer) : Prop :=
  buffer.started.websocketKey = [] ∧ buffer.started.isWebsocketKey = false
  deriving Decidable

theorem callbacks_key (callbacks : List HttpCallback) (first second : HttpTextBuffer)
    (key : first.websocketKey = second.websocketKey)
    (flag : first.isWebsocketKey = second.isWebsocketKey) :
    (callbacks.foldl HttpTextBuffer.callback first).websocketKey =
        (callbacks.foldl HttpTextBuffer.callback second).websocketKey ∧
      (callbacks.foldl HttpTextBuffer.callback first).httpRequestText = first.httpRequestText := by
  induction callbacks generalizing first second with
  | nil => exact ⟨key, rfl⟩
  | cons callback rest ih =>
    simp only [List.foldl_cons]
    cases callback with
    | sHeadField data =>
      exact ih _ _ key (by simp [HttpTextBuffer.callback, HttpTextBuffer.sHeadField, flag])
    | sHeadValue data =>
      exact ih _ _ (by simp [HttpTextBuffer.callback, HttpTextBuffer.sHeadValue, key, flag]) rfl
    | sBodyHandle data => exact ih _ _ key flag

theorem tryParse_key {buffer : HttpTextBuffer} (unread : KeyUnread buffer) (text : List UInt8) :
    (buffer.tryParse execute text).1.websocketKey =
      requestKey execute (buffer.tryParse execute text).1.httpRequestText := by
  obtain ⟨key, flag⟩ := unread
  have decided (parsed : HttpParsed) (filled : HttpTextBuffer) :
      (HttpTextBuffer.decided parsed filled).1.websocketKey = filled.websocketKey ∧
        (HttpTextBuffer.decided parsed filled).1.httpRequestText = filled.httpRequestText := by
    unfold HttpTextBuffer.decided
    repeat' split
    all_goals exact ⟨rfl, rfl⟩
  obtain ⟨read, kept⟩ := callbacks_key (execute (buffer.joined text).httpRequestText).callbacks
    (buffer.joined text) {} key flag
  simp only [HttpTextBuffer.tryParse, (decided _ _).1, (decided _ _).2, kept]
  exact read

/-- Nothing but the reply to the handshake packet is formatted between an upgrade request and its
`101`, and no key is left over when the request comes. -/
def AnswersRequest (world : UpgradeWorld) : UpgradeAction → Prop
  | .connect connectId => connectId = watched → world.mapHttpParse.lookup watched = none →
      ∀ packet ∈ world.received watched, packet.commandId ≠ httpWebsocketSharkHand
  | .disconnect _ => True
  | .parse connectId buffer => connectId = watched →
      ∀ info ∈ world.mapHttpParse.lookup watched, info.protocol = .protocalHttpPost →
        (info.httpFormat.tryParse execute buffer.content).2 = 0 →
          (info.httpFormat.tryParse execute buffer.content).1.isWebsocket = true →
            KeyUnread info.httpFormat
  | .reply connectId => connectId = watched →
      protocol watched world = some .protocalWebsocketSharkHand →
        ∀ packet ∈ (world.received watched).head?,
          packet.commandId = httpWebsocketSharkHand ∨ (logic packet).buffer = []
  | .sendIoMessage connectId _ => connectId = watched →
      protocol watched world ≠ some .protocalWebsocketSharkHand

instance (world : UpgradeWorld) (action : UpgradeAction) :
    Decidable (AnswersRequest execute logic watched world action) := by
  unfold AnswersRequest
  split <;> infer_instance

/-- The handshake packets that wait for their replies belong to the request that is open. -/
def Connection.Tied (wsHandshake : List UInt8 → List UInt8) (connection : Connection) : Prop :=
  ∀ info, connection.info = some info → ∀ packet ∈ connection.received,
    packet.commandId = httpWebsocketSharkHand →
      info.protocol ≠ .protocalHttpPost ∧ (info.protocol = .protocalWebsocketSharkHand →
        some packet.buffer = connection.upgradeKey.map wsHandshake)

section Answers

variable {execute wsHandshake logic watched} {world : UpgradeWorld} {after : Connection}
  {action : UpgradeAction}

theorem Connection.Tied.send {before : Connection} {info : ProtocalInfo}
    (tied : before.Tied wsHandshake) (found : before.info = some info) {rest : List MessagePacket}
    (fewer : ∀ packet ∈ rest, packet ∈ before.received) (text : List UInt8) :
    ({ before with received := rest }.send info text).Tied wsHandshake := by
  intro sent same packet member handshake
  cases same
  have held := (tied info found packet (fewer packet member) handshake).1
  cases state : info.protocol with
  | protocalHttpPost => exact absurd state held
  | protocalWebsocketSharkHand | protocalWebsocketData =>
    simp only [protocolSent]
    exact ⟨nofun, nofun⟩

theorem Change.tied
    (change : Change execute wsHandshake logic watched (connection watched world) action after)
    (answers : AnswersRequest execute logic watched world action)
    (tied : (connection watched world).Tied wsHandshake) : after.Tied wsHandshake := by
  cases change with
  | kept => exact tied
  | opened absent =>
    intro info _ packet member handshake
    exact absurd handshake (answers rfl absent packet member)
  | closed => exact fun info same => by cases same
  | dropped waiting =>
    exact fun info found packet member =>
      tied info found packet (waiting ▸ List.mem_cons_of_mem _ member)
  | replied waiting full found =>
    exact tied.send found (fun packet member => waiting ▸ List.mem_cons_of_mem _ member) _
  | pushed sendPacket found => exact tied.send found (fun packet member => member) _
  | @parsed buffer old new messages found parsed =>
    intro info same packet member handshake
    cases same
    rcases List.mem_append.mp member with earlier | made
    · have held := tied old found packet earlier handshake
      cases parsed with
      | posted before after plain | requested before ended upgrades => exact absurd before held.1
      | framed before after =>
        rw [after]
        exact ⟨nofun, nofun⟩
    · cases parsed with
      | posted before after plain => exact absurd handshake (plain packet made)
      | framed before after =>
        rw [after]
        exact ⟨nofun, nofun⟩
      | requested before ended upgrades =>
        rw [List.mem_singleton.mp made]
        refine ⟨nofun, fun _ => ?_⟩
        rw [tryParse_key execute (answers rfl old found before ended upgrades) buffer.content]
        simp only [keyAfter, before, true_and, if_true, Option.map_some]

theorem answered_send {before : Connection} {info : ProtocalInfo} {text : List UInt8}
    (answered : Answered wsHandshake before.upgradeKey before.outputs) (right : info.protocol =
      .protocalWebsocketSharkHand → some text = before.upgradeKey.map wsHandshake) :
    Answered wsHandshake before.upgradeKey (before.send info text).outputs := by
  intro value held
  rcases List.mem_append.mp held with earlier | last
  · exact answered value earlier
  · have same := List.mem_singleton.mp last
    cases state : info.protocol with
    | protocalHttpPost =>
      rw [state] at same
      exact absurd same.symm (getResponseText_ne_websocket text value)
    | protocalWebsocketSharkHand =>
      rw [state] at same
      rw [getResponseWebsocketText_inj same]
      exact right state
    | protocalWebsocketData =>
      rw [state] at same
      exact absurd same.symm (doWebsocketSendFrame_ne_websocket text value)

theorem Change.answered
    (change : Change execute wsHandshake logic watched (connection watched world) action after)
      (echoes : ∀ packet, packet.commandId = httpWebsocketSharkHand → (logic packet).buffer =
      packet.buffer) (answers : AnswersRequest execute logic watched world action)
    (phased : (connection watched world).Phased)
    (tied : (connection watched world).Tied wsHandshake)
    (answered : Answered wsHandshake world.upgradeKey world.outputs) :
    Answered wsHandshake after.upgradeKey after.outputs := by
  have awaits {info : ProtocalInfo} (found : world.mapHttpParse.lookup watched = some info)
      (state : info.protocol = .protocalWebsocketSharkHand) :
      protocol watched world = some .protocalWebsocketSharkHand := by
    rw [protocol, found, Option.map_some, state]
  cases change with
  | kept | closed | dropped waiting => exact answered
  | opened absent => exact fun text held => absurd held List.not_mem_nil
  | pushed sendPacket found =>
    exact answered_send answered fun state => absurd (awaits found state) (answers rfl)
  | @replied packet rest info waiting full found =>
    refine answered_send answered fun state => ?_
    have handshake : packet.commandId = httpWebsocketSharkHand :=
      (answers rfl (awaits found state) packet
        (congrArg List.head? waiting)).resolve_right full
    rw [echoes packet handshake]
    exact (tied info found packet (waiting ▸ List.mem_cons_self) handshake).2 state
  | parsed found parsed =>
    cases parsed with
    | posted before after plain | framed before after =>
      simp only [keyAfter, before, after, reduceCtorEq, and_false, if_false]
      exact answered
    | requested before ended upgrades =>
      -- So far there were responses only.
      have responses := (Connection.phased_iff found).mp phased
      rw [before] at responses
      intro value held
      obtain ⟨text, same⟩ := responses _ held
      exact absurd same.symm (getResponseText_ne_websocket text value)

end Answers

theorem start_phased : (connection watched start).Phased :=
  Responses.inOrder fun _ held => absurd held List.not_mem_nil

theorem answered_always {actions : List UpgradeAction} (echoes : ∀ packet, packet.commandId =
      httpWebsocketSharkHand → (logic packet).buffer = packet.buffer) (answers : Throughout (step
      execute wsHandshake logic watched) (AnswersRequest execute logic watched) start actions) :
    Always (step execute wsHandshake logic watched) (UpgradedInOrder wsHandshake) start
      actions := by
  refine always_of_invariant (fun world action next (held : (connection watched world).Phased ∧
      (connection watched world).Tied wsHandshake ∧
      Answered wsHandshake world.upgradeKey world.outputs) permitted stepped => ?_)
    (fun world held => ⟨held.1.inOrder, held.2.2⟩) ?_ answers
  · obtain ⟨phased, tied, answered⟩ := held
    have change := step_change stepped
    exact ⟨change.phased phased, change.tied permitted tied,
      change.answered echoes permitted phased tied answered⟩
  · exact ⟨start_phased watched, nofun, fun text held => absurd held List.not_mem_nil⟩

/-- `do_module_message` of Test_Logic: the websocket data are sent later, as messages of their
own. -/
def doModuleMessage (recvPacket : MessagePacket) : MessagePacket :=
  if recvPacket.commandId = httpPostCommand ∨ recvPacket.commandId = httpWebsocketSharkHand then
    ⟨0, recvPacket.buffer⟩
  else ⟨0, []⟩

theorem doModuleMessage_handshake (packet : MessagePacket)
    (handshake : packet.commandId = httpWebsocketSharkHand) :
    (doModuleMessage packet).buffer = packet.buffer := by
  rw [doModuleMessage, if_pos (.inr handshake)]

def markedKey (key : List UInt8) : List UInt8 := asciiBytes "ok " ++ key

def upgradeRequest : SessionBuffer :=
  bufferHolding (asciiBytes
    "POST / HTTP/1.1\r\nUpgrade: websocket\r\nSec-WebSocket-Key: k\r\n\r\n") (by decide)

def keyedRequest : SessionBuffer :=
  bufferHolding (asciiBytes "POST / HTTP/1.1\r\nSec-WebSocket-Key: j\r\n\r\n") (by decide)

def pushedBetween : List UpgradeAction :=
  [.connect 1, .parse 1 upgradeRequest, .sendIoMessage 1 ⟨7, asciiBytes "news"⟩, .reply 1]

def keyLeftOver : List UpgradeAction :=
  [.connect 1, .parse 1 keyedRequest, .reply 1, .parse 1 upgradeRequest, .reply 1]

theorem not_answered {world : UpgradeWorld} (text key : List UInt8)
    (sent : getResponseWebsocketText text ∈ world.outputs) (known : world.upgradeKey = some key)
    (different : text ≠ markedKey key) : ¬UpgradedInOrder markedKey world := by
  rintro ⟨-, answered⟩
  have same := answered text sent
  rw [known, Option.map_some, Option.some.injEq] at same
  exact different same

end HttpUpgrade

end PssAsio
