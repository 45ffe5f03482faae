import PssAsio.BridgeSessions
import PssAsio.TransitionRuns

/-!
The reads of a `CTTyServer`. `received`, `taken` and `calls` are history.
-/

namespace PssAsio

open ByteMemory TransitionRuns

def SessionBuffer.storeAt (session : SessionBuffer) (offset : Nat) (data : List UInt8) :
    Option SessionBuffer :=
  if fits : offset + data.length ≤ session.maxBuffSize then
    some { session with
      buffer := patch session.buffer offset data
      allocated := by
        have allocated := session.allocated
        rw [patch_length _ _ _ (by omega), allocated] }
  else none

theorem SessionBuffer.storeAt_getCurrWritePtr (session : SessionBuffer) (data : List UInt8) :
    session.storeAt session.getCurrWritePtr data = session.store data := by
  have bounded := session.bounded
  have same : session.getCurrWritePtr + data.length ≤ session.maxBuffSize ↔
      data.length ≤ session.getBufferSize := by
    simp only [getCurrWritePtr, getBufferSize]
    omega
  simp only [storeAt, store, same]

structure PendingRead where
  currWritePtr : Nat
  bufferSize : Nat
  deriving DecidableEq, Repr

structure TtyReads where
  session : BridgeSession
  reads : List PendingRead
  received : List UInt8
  taken : List UInt8
  calls : List WorkAction

inductive TtyReadAction where
  | readSome (index : Nat) (data : List UInt8) (verdict : ReceiveVerdict)
  | readError (index : Nat)
  | setIoBridgeConnectId (toIoConnectId : UInt32)
  deriving DecidableEq

namespace TtyReads

def content (tty : TtyReads) : List UInt8 := tty.session.sessionRecvBuffer.content

variable (session : BridgeSession)

def freePart : PendingRead :=
  ⟨session.sessionRecvBuffer.getCurrWritePtr, session.sessionRecvBuffer.getBufferSize⟩

variable (tty : TtyReads)

def doReceive : TtyReads :=
  { tty with reads := tty.reads ++ [freePart tty.session] }

def call (made : List WorkAction) : TtyReads :=
  { tty with calls := tty.calls ++ made }

def moveTo (written : SessionBuffer) (session : BridgeSession) : TtyReads :=
  { tty with
    session := session
    taken := tty.taken ++ written.content.take
      (written.getWriteSize - session.sessionRecvBuffer.getWriteSize) }

def Refuses (verdict : ReceiveVerdict) : Prop :=
  session.ioState ≠ .sessionIoBridge ∧ verdict.parsed = none
  deriving Decidable

/-- `do_read_some` for data that is already in the block. -/
def doReadSome (data : List UInt8) (verdict : ReceiveVerdict) : Option TtyReads :=
  if data.length > 0 then
    let buffer := tty.session.sessionRecvBuffer
    let checked :=
      if buffer.getBufferSize = 0 then
        ((tty.moveTo buffer { tty.session with
          sessionRecvBuffer := buffer.move data.length }).call
            [.closeSessionEvent tty.session.connectId]).doReceive
      else tty
    let written := (checked.session.sessionRecvBuffer.setWriteData data.length).1
    let after (moved : SessionBuffer) : SessionBuffer :=
      if verdict.parsed.isNone then moved.move data.length else moved
    (checked.session.routeData written data verdict after).map fun (routed, delivery) =>
      let handled := (checked.moveTo written routed).call (delivery.calls verdict)
      if Refuses checked.session verdict then handled.doReceive.doReceive else handled.doReceive
  else some tty.doReceive

def step : TtyReadAction → Option TtyReads
  | .readSome index data verdict =>
      (tty.reads[index]?).bind fun read =>
        if data.length ≤ read.bufferSize then
          (tty.session.sessionRecvBuffer.storeAt read.currWritePtr data).bind fun stored =>
            { tty with
              session := { tty.session with sessionRecvBuffer := stored }
              reads := tty.reads.eraseIdx index
              received := tty.received ++ data : TtyReads }.doReadSome data verdict
        else none
  | .readError index =>
      (tty.reads[index]?).map fun _ => { tty with reads := tty.reads.eraseIdx index }
  | .setIoBridgeConnectId toIoConnectId =>
      some { tty with session := tty.session.setIoBridge toIoConnectId toIoConnectId }

def started (connectId maxRecvSize maxSendSize : UInt32) (fresh : Nat → UInt8) : TtyReads :=
  doReceive ⟨BridgeSession.opened connectId maxRecvSize maxSendSize fresh, [], [], [],
    [.addThreadSession connectId]⟩

/-- One read at most, and the bytes received are those taken and those that are presented next. -/
def Exact : Prop :=
  tty.reads.length ≤ 1 ∧ tty.taken ++ tty.content = tty.received
  deriving Decidable

def Accepted : TtyReadAction → Prop
  | .readSome index data verdict =>
      ∀ read ∈ tty.reads[index]?, data.length ≤ read.bufferSize → data ≠ [] →
        ¬Refuses tty.session verdict
  | _ => True

instance (action : TtyReadAction) : Decidable (tty.Accepted action) := by
  unfold Accepted
  split <;> infer_instance

def Aimed : Prop := ∀ read ∈ tty.reads, read = freePart tty.session

end TtyReads

theorem SessionBuffer.move_move_content (session : SessionBuffer) (first second : Nat) :
    ((session.move first).move second).content = session.content.drop (first + second) := by
  rw [move_content, move_content, List.drop_drop]

theorem BridgeSession.routeData_content (session : BridgeSession) {written : SessionBuffer}
    {data : List UInt8} (verdict : ReceiveVerdict)
    (within : data.length ≤ written.maxBuffSize) :
    ∃ routed delivery count, session.routeData written data verdict (fun moved =>
        if verdict.parsed.isNone then moved.move data.length else moved) =
          some (routed, delivery) ∧
      routed.sessionRecvBuffer.content = written.content.drop count := by
  unfold routeData
  by_cases bridged : session.ioState = .sessionIoBridge
  · have bytes : written.readBytes 0 data.length =
        some ((written.buffer.drop 0).take data.length) := by
      rw [SessionBuffer.readBytes, if_pos (by omega)]
    simp only [if_pos bridged, bridgeData, doIoBridgeData, bytes, Option.bind_some,
      Option.map_some]
    refine ⟨_, _, data.length, rfl, ?_⟩
    rw [← SessionBuffer.move_content]
    split
    · split <;> rfl
    · rfl
  · rw [if_neg bridged]
    by_cases refused : verdict.parsed.isNone
    · refine ⟨_, _, verdict.consumed + data.length, rfl, ?_⟩
      simp only [if_pos refused, SessionBuffer.move_move_content]
    · refine ⟨_, _, verdict.consumed, rfl, ?_⟩
      simp only [if_neg refused, SessionBuffer.move_content]

namespace TtyReads

theorem moveTo_whole (tty : TtyReads) {written : SessionBuffer} {session : BridgeSession}
    {count : Nat} (moved : session.sessionRecvBuffer.content = written.content.drop count) :
    (tty.moveTo written session).taken ++ (tty.moveTo written session).content =
      tty.taken ++ written.content := by
  have size : written.getWriteSize - session.sessionRecvBuffer.getWriteSize =
      min count written.content.length := by
    rw [SessionBuffer.getWriteSize, SessionBuffer.getWriteSize, ← SessionBuffer.content_length,
      ← SessionBuffer.content_length, moved, List.length_drop]
    omega
  simp only [moveTo, content, size, moved, List.append_assoc, List.append_cancel_left_eq]
  rw [← List.take_eq_take_min, List.take_append_drop]

structure ReadDone (tty : TtyReads) (data : List UInt8) (verdict : ReceiveVerdict)
    (next : TtyReads) : Prop where
  received : next.received = tty.received ++ data
  whole : next.taken ++ next.content = tty.taken ++ tty.content ++ data
  started : next.reads =
    List.replicate (if data ≠ [] ∧ Refuses tty.session verdict then 2 else 1)
      (freePart next.session)

variable {data : List UInt8} {tty next : TtyReads} {verdict : ReceiveVerdict}

theorem readDone_of_data {stored : SessionBuffer} (bytes : data ≠ [])
    (found : tty.session.sessionRecvBuffer.store data = some stored) :
    ∃ next, { tty with
        session := { tty.session with sessionRecvBuffer := stored }
        reads := []
        received := tty.received ++ data : TtyReads }.doReadSome data verdict = some next ∧
      tty.ReadDone data verdict next := by
  have positive : data.length > 0 := List.length_pos_iff.mpr bytes
  have room : stored.getBufferSize ≠ 0 := by
    have size := SessionBuffer.store_getBufferSize found
    omega
  have received : tty.session.sessionRecvBuffer.receive data =
      some (stored.setWriteData data.length).1 := by
    rw [SessionBuffer.receive, found, Option.map_some]
  have written := SessionBuffer.receive_content received
  have within : data.length ≤ (stored.setWriteData data.length).1.maxBuffSize := by
    have fits := SessionBuffer.receive_fits received
    rw [SessionBuffer.receive_maxBuffSize received]
    omega
  obtain ⟨routed, delivery, count, route, moved⟩ :=
    BridgeSession.routeData_content { tty.session with sessionRecvBuffer := stored } verdict within
  simp only [doReadSome, if_pos positive, if_neg room, route, Option.map_some]
  refine ⟨_, rfl, ?_⟩
  have whole := moveTo_whole tty moved
  by_cases refuses : Refuses tty.session verdict
  · have here : Refuses { tty.session with sessionRecvBuffer := stored } verdict := refuses
    rw [if_pos here]
    refine ⟨rfl, ?_, ?_⟩
    · rw [written] at whole
      exact whole.trans (List.append_assoc _ _ _).symm
    · rw [if_pos ⟨bytes, refuses⟩]
      rfl
  · have here : ¬Refuses { tty.session with sessionRecvBuffer := stored } verdict := refuses
    rw [if_neg here]
    refine ⟨rfl, ?_, ?_⟩
    · rw [written] at whole
      exact whole.trans (List.append_assoc _ _ _).symm
    · rw [if_neg fun both => refuses both.2]
      rfl

theorem step_readSome {index : Nat} {read : PendingRead} (aimed : tty.Aimed)
    (alone : tty.reads.length ≤ 1) (verdict : ReceiveVerdict)
    (pending : tty.reads[index]? = some read) (fits : data.length ≤ read.bufferSize) :
    ∃ next, tty.step (.readSome index data verdict) = some next ∧
      tty.ReadDone data verdict next := by
  obtain ⟨bound, inside⟩ := List.getElem?_eq_some_iff.mp pending
  have free : read = freePart tty.session := aimed read (inside ▸ List.getElem_mem bound)
  have rest : tty.reads.eraseIdx index = [] := by
    apply List.eq_nil_of_length_eq_zero
    rw [List.length_eraseIdx_of_lt bound]
    omega
  subst free
  obtain ⟨stored, found, -, -, -⟩ := tty.session.sessionRecvBuffer.store_eq_some data (by
    have bounded := tty.session.sessionRecvBuffer.bounded
    simp only [freePart, SessionBuffer.getBufferSize] at fits
    omega)
  have arrived : tty.session.sessionRecvBuffer.storeAt
      (freePart tty.session).currWritePtr data = some stored :=
    (SessionBuffer.storeAt_getCurrWritePtr _ _).trans found
  simp only [step, pending, Option.bind_some, if_pos fits, arrived, rest]
  by_cases bytes : data = []
  · subst bytes
    refine ⟨_, rfl, ?_, ?_, ?_⟩
    · rfl
    · rw [List.append_nil (tty.taken ++ tty.content)]
      exact congrArg (tty.taken ++ ·) (SessionBuffer.store_content found)
    · rfl
  · exact readDone_of_data bytes found

theorem ReadDone.aimed (done : tty.ReadDone data verdict next) : next.Aimed := by
  intro read pending
  rw [done.started] at pending
  exact List.eq_of_mem_replicate pending

theorem ReadDone.exact_iff (done : tty.ReadDone data verdict next)
    (whole : tty.taken ++ tty.content = tty.received) :
    next.Exact ↔ (data ≠ [] → ¬Refuses tty.session verdict) := by
  have inOrder : next.taken ++ next.content = next.received := by
    rw [done.whole, done.received, whole]
  have count : next.reads.length ≤ 1 ↔ (data ≠ [] → ¬Refuses tty.session verdict) := by
    rw [done.started, List.length_replicate]
    split
    · rename_i twice
      exact iff_of_false (by omega) fun accepted => accepted twice.1 twice.2
    · rename_i once
      exact iff_of_true (Nat.le_refl 1) fun bytes refuses => once ⟨bytes, refuses⟩
  exact ⟨fun exactly => count.mp exactly.1, fun accepted => ⟨count.mpr accepted, inOrder⟩⟩

theorem fits_of_step {index : Nat} (stepped : tty.step (.readSome index data verdict) = some next) :
    ∃ read, tty.reads[index]? = some read ∧ data.length ≤ read.bufferSize := by
  simp only [step, Option.bind_eq_some_iff, Option.ite_none_right_eq_some] at stepped
  obtain ⟨read, pending, fits, -⟩ := stepped
  exact ⟨read, pending, fits⟩

theorem readDone_of_step {index : Nat} (aimed : tty.Aimed) (alone : tty.reads.length ≤ 1)
    (stepped : tty.step (.readSome index data verdict) = some next) :
    tty.ReadDone data verdict next := by
  obtain ⟨read, pending, fits⟩ := fits_of_step stepped
  obtain ⟨other, found, done⟩ := step_readSome aimed alone verdict pending fits
  obtain rfl := Option.some.inj (stepped.symm.trans found)
  exact done

theorem accepted_iff (aimed : tty.Aimed) (exactly : tty.Exact) (action : TtyReadAction) :
    tty.Accepted action ↔ ∀ next, tty.step action = some next → next.Exact := by
  obtain ⟨alone, whole⟩ := exactly
  cases action with
  | readSome index data verdict =>
    constructor
    · intro accepted next stepped
      obtain ⟨read, pending, fits⟩ := fits_of_step stepped
      have done := readDone_of_step aimed alone stepped
      exact (done.exact_iff whole).mpr (accepted read pending fits)
    · intro kept read pending fits
      obtain ⟨next, stepped, done⟩ := step_readSome aimed alone verdict pending fits
      exact (done.exact_iff whole).mp (kept next stepped)
  | readError index =>
    refine iff_of_true trivial fun next stepped => ?_
    simp only [step, Option.map_eq_some_iff] at stepped
    obtain ⟨-, -, rfl⟩ := stepped
    exact ⟨Nat.le_trans (List.length_eraseIdx_le _ _) alone, whole⟩
  | setIoBridgeConnectId toIoConnectId =>
    refine iff_of_true trivial fun next stepped => ?_
    cases stepped
    refine ⟨alone, Eq.trans ?_ whole⟩
    simp only [content, BridgeSession.setIoBridge]
    split <;> rfl

theorem step_aimed {action : TtyReadAction} (aimed : tty.Aimed) (exactly : tty.Exact)
    (stepped : tty.step action = some next) : next.Aimed := by
  cases action with
  | readSome index data verdict => exact (readDone_of_step aimed exactly.1 stepped).aimed
  | readError index =>
    simp only [step, Option.map_eq_some_iff] at stepped
    obtain ⟨-, -, rfl⟩ := stepped
    exact fun read pending => aimed read (List.mem_of_mem_eraseIdx pending)
  | setIoBridgeConnectId toIoConnectId =>
    cases stepped
    intro read pending
    rw [aimed read pending]
    simp only [freePart, BridgeSession.setIoBridge]
    split <;> rfl

/-- One read is outstanding and every byte is taken once exactly if the parser refuses nothing. -/
theorem exact_iff_accepted (connectId maxRecvSize maxSendSize : UInt32) (fresh : Nat → UInt8)
    (actions : List TtyReadAction) :
    Always step Exact (started connectId maxRecvSize maxSendSize fresh) actions ↔
      Throughout step Accepted (started connectId maxRecvSize maxSendSize fresh) actions := by
  have aimed : (started connectId maxRecvSize maxSendSize fresh).Aimed :=
    fun _ pending => List.mem_singleton.mp pending
  have initial : (started connectId maxRecvSize maxSendSize fresh).Exact :=
    ⟨Nat.le_refl 1, SessionBuffer.init_content maxRecvSize.toUInt64 fresh⟩
  exact always_iff_throughout_of_kept
    (fun _ _ _ here exactly _ stepped => step_aimed here exactly stepped)
    (fun _ action here exactly => accepted_iff here exactly action) aimed initial

/-- After a refusal two reads are outstanding for the same bytes of the block. -/
theorem refusal_doubles_reads :
    (run step (started 1 8 8 fun _ => 0) [.readSome 0 [5] ⟨none, 0, false⟩]).map
        (fun tty => tty.reads) = some [⟨0, 8⟩, ⟨0, 8⟩] ∧
      (run step (started 1 8 8 fun _ => 0)
          [.readSome 0 [5] ⟨none, 0, false⟩, .readSome 0 [6] ⟨some [], 0, false⟩,
            .readSome 0 [7] ⟨some [], 2, false⟩]).map
        (fun tty => (tty.received, tty.taken, tty.content)) = some ([5, 6, 7], [5, 7, 0], []) ∧
      ¬ Always step Exact (started 1 8 8 fun _ => 0) [.readSome 0 [5] ⟨none, 0, false⟩] := by
  decide

end TtyReads

end PssAsio
