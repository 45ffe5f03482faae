import Mathlib.Data.List.Basic
import Mathlib.Logic.Function.Basic
import PssAsio.TransitionRuns

/-!
The idle check of one `CSessionInterface`. A session of a `CUdpServer` has the receive time of the
server until data of it was taken.
-/

namespace PssAsio

open TransitionRuns Function

inductive IdleObject where
  | tcpSession
  | udpServer (server : Nat)
  | unchecked
  deriving DecidableEq, Repr

namespace IdleObject

def Checked (object : IdleObject) : Prop := object ≠ .unchecked
  deriving Decidable

end IdleObject

inductive UdpReceiving where
  | waiting
  | handling (connectId : UInt32)
  | stopped
  deriving DecidableEq, Repr

structure IdleReport where
  sessionId : UInt32
  time : Nat
  heard : Nat
  deriving DecidableEq, Repr

structure IdleWatch where
  now : Nat
  checkConnectTime : Nat
  sessionsList : List (UInt32 × IdleObject)
  -- `recv_data_time_` of the TCP session with the id, and of a `CUdpServer`
  recvDataTime : UInt32 → Nat
  serverRecvDataTime : Nat → Nat
  cidRecvDataTime : Nat → UInt32 → Option Nat
  udpReceiving : Nat → UdpReceiving
  -- when the session received last, and whether the parser or the bridge took it
  heard : UInt32 → Nat
  taken : UInt32 → Bool
  checks : List Nat
  reports : List IdleReport

inductive IdleAction where
  | tick (elapsed : Nat)
  | open (connectId : UInt32)
  | addUnchecked (connectId : UInt32)
  | doReadSome (connectId : UInt32) (taken : Bool)
  | addUdpEndpoint (server : Nat) (connectId : UInt32) (length : Nat) (isNew : Bool)
  | takeDatagram (server : Nat)
  | refuseDatagram (server : Nat)
  | close (connectId : UInt32)
  | checkSessionIoTimeout
  deriving DecidableEq, Repr

namespace IdleWatch

def fresh (now : Nat) (constructed : Nat → Nat) : IdleWatch where
  now := now
  checkConnectTime := now
  sessionsList := []
  recvDataTime := fun _ => 0
  serverRecvDataTime := constructed
  cidRecvDataTime := fun _ _ => none
  udpReceiving := fun _ => .waiting
  heard := fun _ => 0
  taken := fun _ => false
  checks := []
  reports := []

variable (watch : IdleWatch)

variable (connectId : UInt32)

def Absent : Prop :=
  ∀ session ∈ watch.sessionsList, session.1 ≠ connectId
  deriving Decidable

def hears (taken : Bool) : IdleWatch :=
  { watch with
    heard := update watch.heard connectId watch.now
    taken := update watch.taken connectId taken }

def recvNow : IdleWatch :=
  { watch with recvDataTime := update watch.recvDataTime connectId watch.now }

def cidRecvNow (server : Nat) (connectId : UInt32) : IdleWatch :=
  { watch with
    serverRecvDataTime := update watch.serverRecvDataTime server watch.now
    cidRecvDataTime := update watch.cidRecvDataTime server
      (update (watch.cidRecvDataTime server) connectId (some watch.now)) }

def receiving (server : Nat) (phase : UdpReceiving) : IdleWatch :=
  { watch with udpReceiving := update watch.udpReceiving server phase }

def addSession (object : IdleObject) : IdleWatch :=
  { watch with sessionsList := watch.sessionsList ++ [(connectId, object)] }

def getRecvTime (session : UInt32 × IdleObject) : Nat :=
  match session.2 with
  | .udpServer server =>
      (watch.cidRecvDataTime server session.1).getD (watch.serverRecvDataTime server)
  | _ => watch.recvDataTime session.1

variable (connectTimeout : Nat)

def isNeedCheckSession (watch : IdleWatch) : Prop :=
  watch.checkConnectTime + connectTimeout ≤ watch.now
  deriving Decidable

variable (server : Nat)

def Serves (connectId : UInt32) : Prop :=
  (connectId, .udpServer server) ∈ watch.sessionsList ∨ watch.Absent connectId
  deriving Decidable

/-- An endpoint in the list may have lost its session; an empty datagram leaves the handler here. -/
def addUdpEndpoint (connectId : UInt32) (length : Nat) (isNew : Bool) : IdleWatch :=
  let added :=
    if isNew then (watch.hears connectId false).addSession connectId (.udpServer server)
    else if 0 < length then watch.hears connectId false
    else watch
  added.receiving server (if 0 < length then .handling connectId else .stopped)

def sessionList (watch : IdleWatch) : List IdleReport :=
  watch.sessionsList.filterMap fun session =>
    if session.2.Checked ∧ watch.getRecvTime session + connectTimeout ≤ watch.now then
      some ⟨session.1, watch.now, watch.heard session.1⟩
    else none

def checkSessionIoTimeout (watch : IdleWatch) : IdleWatch :=
  if watch.isNeedCheckSession connectTimeout then
    { watch with
      checkConnectTime := watch.now
      checks := watch.checks ++ [watch.now]
      reports := watch.reports ++ watch.sessionList connectTimeout }
  else { watch with checks := watch.checks ++ [watch.now] }

def step (watch : IdleWatch) : IdleAction → Option IdleWatch
  | .tick elapsed => some { watch with now := watch.now + elapsed }
  | .open connectId =>
      -- ids come from one counter
      if watch.Absent connectId then
        some (((watch.recvNow connectId).hears connectId true).addSession connectId .tcpSession)
      else none
  | .addUnchecked connectId =>
      if watch.Absent connectId then
        some ((watch.hears connectId true).addSession connectId .unchecked)
      else none
  | .doReadSome connectId taken =>
      if (connectId, .tcpSession) ∈ watch.sessionsList then
        some (if taken then (watch.recvNow connectId).hears connectId true
          else watch.hears connectId false)
      else none
  | .addUdpEndpoint server connectId length isNew =>
      if watch.udpReceiving server = .waiting ∧
          (if isNew then watch.Absent connectId else watch.Serves server connectId) then
        some (watch.addUdpEndpoint server connectId length isNew)
      else none
  | .takeDatagram server =>
      match watch.udpReceiving server with
      | .handling connectId =>
          if watch.Serves server connectId then
            some (((watch.cidRecvNow server connectId).hears connectId true).receiving server
              .waiting)
          else none
      | _ => none
  | .refuseDatagram server =>
      -- the buffer is full or the parser refuses; the close is posted
      match watch.udpReceiving server with
      | .handling _ => some (watch.receiving server .waiting)
      | _ => none
  | .close connectId =>
      some { watch with
        sessionsList := watch.sessionsList.filter (·.1 ≠ connectId)
        cidRecvDataTime := fun server key =>
          if key = connectId ∧ (connectId, .udpServer server) ∈ watch.sessionsList then none
          else watch.cidRecvDataTime server key }
  | .checkSessionIoTimeout => some (watch.checkSessionIoTimeout connectTimeout)

variable (connectId : UInt32)

def Sound (watch : IdleWatch) : Prop :=
  ∀ report ∈ watch.reports, report.sessionId = connectId →
    report.heard + connectTimeout ≤ report.time
  deriving Decidable

/-- Every check at twice the timeout comes with or after a report of the session. -/
def Prompt (watch : IdleWatch) : Prop :=
  ∀ session ∈ watch.sessionsList, session.1 = connectId → session.2.Checked →
    ∀ check ∈ watch.checks, watch.heard connectId + 2 * connectTimeout ≤ check →
      ∃ report ∈ watch.reports, report.sessionId = connectId ∧
        watch.heard connectId + connectTimeout ≤ report.time ∧ report.time ≤ check
  deriving Decidable

def ChecksTaken (watch : IdleWatch) : IdleAction → Prop
  | .checkSessionIoTimeout =>
      ∀ session ∈ watch.sessionsList, session.1 = connectId → session.2.Checked →
        watch.taken connectId = true
  | _ => True

instance (watch : IdleWatch) (action : IdleAction) :
    Decidable (ChecksTaken connectId watch action) := by
  unfold ChecksTaken
  split <;> infer_instance

def OwnTime (session : UInt32 × IdleObject) : Prop :=
  match session.2 with
  | .udpServer server => watch.cidRecvDataTime server session.1 = some (watch.heard session.1)
  | .tcpSession => watch.recvDataTime session.1 = watch.heard session.1
  | .unchecked => True

variable {session : UInt32 × IdleObject} {watch next : IdleWatch} {connectId : UInt32}
  {server connectTimeout : Nat} {action : IdleAction}

theorem getRecvTime_of_ownTime (checked : session.2.Checked) (own : watch.OwnTime session) :
    watch.getRecvTime session = watch.heard session.1 := by
  obtain ⟨connectId, object⟩ := session
  cases object with
  | tcpSession => exact own
  | udpServer server =>
    have entry : watch.cidRecvDataTime server connectId = some (watch.heard connectId) := own
    simp [getRecvTime, entry]
  | unchecked => exact absurd rfl checked

structure Recorded (watch : IdleWatch) : Prop where
  single : ∀ first ∈ watch.sessionsList, ∀ second ∈ watch.sessionsList,
    first.1 = second.1 → first = second
  own : ∀ session ∈ watch.sessionsList, watch.taken session.1 = true → watch.OwnTime session

theorem recorded_addSession {object : IdleObject} (recorded : Recorded watch)
    (absent : watch.Absent connectId)
    (own : watch.taken connectId = true → watch.OwnTime (connectId, object)) :
    Recorded (watch.addSession connectId object) where
  single := by
    intro first inFirst second inSecond same
    simp only [addSession, List.mem_append, List.mem_singleton] at inFirst inSecond
    obtain inFirst | rfl := inFirst <;> obtain inSecond | rfl := inSecond
    · exact recorded.single first inFirst second inSecond same
    · exact absurd same (absent first inFirst)
    · exact absurd same.symm (absent second inSecond)
    · rfl
  own := by
    intro session inside taken
    simp only [addSession, List.mem_append, List.mem_singleton] at inside
    obtain inside | rfl := inside
    · exact recorded.own session inside taken
    · exact own taken

structure Elsewhere (connectId : UInt32) (watch next : IdleWatch) : Prop where
  heard : ∀ other, other ≠ connectId → next.heard other = watch.heard other
  taken : ∀ other, other ≠ connectId → next.taken other = watch.taken other
  recvDataTime : ∀ other, other ≠ connectId → next.recvDataTime other = watch.recvDataTime other
  cidRecvDataTime : ∀ server other, other ≠ connectId →
    next.cidRecvDataTime server other = watch.cidRecvDataTime server other

theorem Elsewhere.ownTime (elsewhere : Elsewhere connectId watch next)
    (other : session.1 ≠ connectId) (own : watch.OwnTime session) : next.OwnTime session := by
  obtain ⟨sessionId, object⟩ := session
  cases object with
  | tcpSession =>
    exact (elsewhere.recvDataTime sessionId other).trans
      (Eq.trans own (elsewhere.heard sessionId other).symm)
  | udpServer server =>
    exact (elsewhere.cidRecvDataTime server sessionId other).trans
      (Eq.trans own (congrArg some (elsewhere.heard sessionId other).symm))
  | unchecked => trivial

theorem recorded_of_elsewhere (recorded : Recorded watch)
    (elsewhere : Elsewhere connectId watch next)
    (sessions : ∀ session ∈ next.sessionsList, session ∈ watch.sessionsList)
    (own : ∀ session ∈ next.sessionsList, session.1 = connectId → next.taken connectId = true →
      next.OwnTime session) : Recorded next where
  single := by
    intro first inFirst second inSecond same
    exact recorded.single first (sessions first inFirst) second (sessions second inSecond) same
  own := by
    intro session inside taken
    by_cases same : session.1 = connectId
    · exact own session inside same (same ▸ taken)
    · rw [elsewhere.taken session.1 same] at taken
      exact elsewhere.ownTime same (recorded.own session (sessions session inside) taken)

theorem Elsewhere.hears (elsewhere : Elsewhere connectId watch next) (taken : Bool) :
    Elsewhere connectId watch (next.hears connectId taken) where
  heard := by
    intro other apart
    exact (update_of_ne apart _ _).trans (elsewhere.heard other apart)
  taken := by
    intro other apart
    exact (update_of_ne apart _ _).trans (elsewhere.taken other apart)
  recvDataTime := elsewhere.recvDataTime
  cidRecvDataTime := elsewhere.cidRecvDataTime

structure Quiet (watch next : IdleWatch) : Prop where
  now : next.now = watch.now
  checkConnectTime : next.checkConnectTime = watch.checkConnectTime
  checks : next.checks = watch.checks
  reports : next.reports = watch.reports
  heard : ∀ session ∈ next.sessionsList,
    (session ∈ watch.sessionsList ∧ next.heard session.1 = watch.heard session.1) ∨
      next.heard session.1 = watch.now

theorem Quiet.receiving (quiet : Quiet watch next) {phase : UdpReceiving} :
    Quiet watch (next.receiving server phase) :=
  ⟨quiet.now, quiet.checkConnectTime, quiet.checks, quiet.reports, quiet.heard⟩

section Watch

variable (watch : IdleWatch) (connectId : UInt32)

theorem elsewhere_refl : Elsewhere connectId watch watch :=
  ⟨fun _ _ => rfl, fun _ _ => rfl, fun _ _ => rfl, fun _ _ _ => rfl⟩

theorem recvNow_elsewhere :
    Elsewhere connectId watch (watch.recvNow connectId) where
  heard := fun _ _ => rfl
  taken := fun _ _ => rfl
  recvDataTime := fun _ apart => update_of_ne apart _ _
  cidRecvDataTime := fun _ _ _ => rfl

theorem cidRecvNow_elsewhere (server : Nat) :
    Elsewhere connectId watch (watch.cidRecvNow server connectId) where
  heard := fun _ _ => rfl
  taken := fun _ _ => rfl
  recvDataTime := fun _ _ => rfl
  cidRecvDataTime := by
    intro other sessionId apart
    by_cases same : other = server
    · subst same
      simp [cidRecvNow, update_of_ne apart]
    · simp [cidRecvNow, update_of_ne same]

theorem hears_heard (taken : Bool) (inside : session ∈ watch.sessionsList) :
    (session ∈ watch.sessionsList ∧
      (watch.hears connectId taken).heard session.1 = watch.heard session.1) ∨
      (watch.hears connectId taken).heard session.1 = watch.now := by
  by_cases same : session.1 = connectId
  · exact .inr (by simp [hears, same])
  · exact .inl ⟨inside, update_of_ne same _ _⟩

theorem hears_quiet (taken : Bool) : Quiet watch (watch.hears connectId taken) :=
  ⟨rfl, rfl, rfl, rfl, fun _ inside => watch.hears_heard connectId taken inside⟩

theorem hears_addSession_quiet (taken : Bool) (object : IdleObject) :
    Quiet watch ((watch.hears connectId taken).addSession connectId object) := by
  refine ⟨rfl, rfl, rfl, rfl, fun session inside => ?_⟩
  simp only [addSession, List.mem_append, List.mem_singleton] at inside
  obtain inside | rfl := inside
  · exact watch.hears_heard connectId taken inside
  · exact .inr (by simp [addSession, hears])

theorem quiet_refl : Quiet watch watch :=
  ⟨rfl, rfl, rfl, rfl, fun _ inside => .inl ⟨inside, rfl⟩⟩

theorem addUdpEndpoint_quiet (server : Nat) (length : Nat) (isNew : Bool) :
    Quiet watch (watch.addUdpEndpoint server connectId length isNew) := by
  apply Quiet.receiving
  cases isNew with
  | true => exact watch.hears_addSession_quiet connectId false (.udpServer server)
  | false =>
    simp only [Bool.false_eq_true, if_false]
    split
    · exact watch.hears_quiet connectId false
    · exact watch.quiet_refl

end Watch

section Recorded

variable (recorded : Recorded watch)

include recorded

theorem recorded_untaken (connectId : UInt32) : Recorded (watch.hears connectId false) := by
  refine recorded_of_elsewhere recorded ((elsewhere_refl watch connectId).hears false)
    (fun _ inside => inside) ?_
  intro session _ _ taken
  simp [hears] at taken

theorem recorded_recvNow (tcp : ∀ session ∈ watch.sessionsList, session.1 = connectId → session =
      (connectId, .tcpSession)) : Recorded ((watch.recvNow connectId).hears connectId true) := by
  refine recorded_of_elsewhere recorded ((watch.recvNow_elsewhere connectId).hears true)
    (fun _ inside => inside) ?_
  intro session inside same _
  rw [tcp session inside same]
  simp [OwnTime, hears, recvNow]

theorem recorded_cidRecvNow
    (udp : ∀ session ∈ watch.sessionsList, session.1 = connectId → session = (connectId, .udpServer
      server)) : Recorded ((watch.cidRecvNow server connectId).hears connectId true) := by
  refine recorded_of_elsewhere recorded ((watch.cidRecvNow_elsewhere connectId server).hears true)
    (fun _ inside => inside) ?_
  intro session inside same _
  rw [udp session inside same]
  simp [OwnTime, hears, cidRecvNow]

theorem Recorded.receiving (server : Nat) (phase : UdpReceiving) :
    Recorded (watch.receiving server phase) :=
  ⟨recorded.single, recorded.own⟩

theorem recorded_addUdpEndpoint {length : Nat} {isNew : Bool}
    (absent : isNew = true → watch.Absent connectId) :
    Recorded (watch.addUdpEndpoint server connectId length isNew) := by
  apply Recorded.receiving
  cases isNew with
  | true =>
    refine recorded_addSession (recorded_untaken recorded connectId) (absent rfl) ?_
    simp [hears]
  | false =>
    simp only [Bool.false_eq_true, if_false]
    split
    · exact recorded_untaken recorded connectId
    · exact recorded

end Recorded

theorem step_cases (stepped : watch.step connectTimeout action = some next) :
    (∃ elapsed, action = .tick elapsed ∧ next = { watch with now := watch.now + elapsed }) ∨
    (action = .checkSessionIoTimeout ∧ next = watch.checkSessionIoTimeout connectTimeout) ∨
    Quiet watch next ∧ (Recorded watch → Recorded next) := by
  cases action with
  | tick elapsed => exact .inl ⟨elapsed, rfl, (Option.some.inj stepped).symm⟩
  | checkSessionIoTimeout => exact .inr (.inl ⟨rfl, (Option.some.inj stepped).symm⟩)
  | «open» connectId =>
    obtain ⟨absent, ⟨⟩⟩ := Option.ite_none_right_eq_some.mp stepped
    obtain ⟨now, gate, checks, reports, heard⟩ :=
      (watch.recvNow connectId).hears_addSession_quiet connectId true .tcpSession
    refine .inr (.inr ⟨⟨now, gate, checks, reports, heard⟩, fun recorded => ?_⟩)
    refine recorded_addSession (recorded_recvNow recorded ?_) absent ?_
    · exact fun session inside same => absurd same (absent session inside)
    · simp [OwnTime, hears, recvNow]
  | addUnchecked connectId =>
    obtain ⟨absent, ⟨⟩⟩ := Option.ite_none_right_eq_some.mp stepped
    refine .inr (.inr ⟨watch.hears_addSession_quiet connectId true .unchecked, fun recorded => ?_⟩)
    refine recorded_addSession ?_ absent (fun _ => trivial)
    refine recorded_of_elsewhere recorded ((elsewhere_refl watch connectId).hears true)
      (fun _ inside => inside) ?_
    exact fun session inside same => absurd same (absent session inside)
  | doReadSome connectId taken =>
    obtain ⟨member, ⟨⟩⟩ := Option.ite_none_right_eq_some.mp stepped
    cases taken with
    | false =>
      exact .inr (.inr ⟨watch.hears_quiet connectId false,
        fun recorded => recorded_untaken recorded connectId⟩)
    | true =>
      obtain ⟨now, gate, checks, reports, heard⟩ :=
        (watch.recvNow connectId).hears_quiet connectId true
      refine .inr (.inr ⟨⟨now, gate, checks, reports, heard⟩, fun recorded => ?_⟩)
      exact recorded_recvNow recorded fun session inside same =>
        recorded.single session inside _ member same
  | addUdpEndpoint server connectId length isNew =>
    obtain ⟨⟨-, allowed⟩, ⟨⟩⟩ := Option.ite_none_right_eq_some.mp stepped
    refine .inr (.inr ⟨watch.addUdpEndpoint_quiet connectId server length isNew,
      fun recorded => recorded_addUdpEndpoint recorded fun new => ?_⟩)
    simpa [new] using allowed
  | takeDatagram server =>
    simp only [step] at stepped
    split at stepped
    · rename_i connectId _
      obtain ⟨serves, ⟨⟩⟩ := Option.ite_none_right_eq_some.mp stepped
      obtain ⟨now, gate, checks, reports, heard⟩ :=
        (watch.cidRecvNow server connectId).hears_quiet connectId true
      refine .inr (.inr ⟨⟨now, gate, checks, reports, heard⟩, fun recorded => ?_⟩)
      refine (recorded_cidRecvNow recorded fun session inside same => ?_).receiving server .waiting
      obtain member | absent := serves
      · exact recorded.single session inside _ member same
      · exact absurd same (absent session inside)
    · cases stepped
  | refuseDatagram server =>
    simp only [step] at stepped
    split at stepped
    · cases stepped
      exact .inr (.inr ⟨watch.quiet_refl.receiving, fun recorded =>
        recorded.receiving server .waiting⟩)
    · cases stepped
  | close connectId =>
    cases stepped
    refine .inr (.inr ⟨⟨rfl, rfl, rfl, rfl,
      fun _ inside => .inl ⟨(List.mem_filter.mp inside).1, rfl⟩⟩, fun recorded => ?_⟩)
    refine recorded_of_elsewhere recorded (?_ : Elsewhere connectId watch _)
      (fun _ inside => (List.mem_filter.mp inside).1) ?_
    · exact ⟨fun _ _ => rfl, fun _ _ => rfl, fun _ _ => rfl,
        fun server other apart => if_neg fun both => apart both.1⟩
    · intro session inside same _
      have left := (List.mem_filter.mp inside).2
      simp [same] at left

theorem Recorded.checked (recorded : Recorded watch) :
    Recorded (watch.checkSessionIoTimeout connectTimeout) := by
  unfold checkSessionIoTimeout
  split <;> exact ⟨recorded.single, recorded.own⟩

structure Gated (connectTimeout : Nat) (connectId : UInt32) (watch : IdleWatch) : Prop where
  passed : watch.checkConnectTime ≤ watch.now
  recent : ∀ check ∈ watch.checks,
    check ≤ watch.now ∧ check < watch.checkConnectTime + connectTimeout
  heard : ∀ session ∈ watch.sessionsList, session.1 = connectId →
    watch.heard connectId ≤ watch.now
  reportTimes : ∀ report ∈ watch.reports, report.time ≤ watch.now
  reported : ∀ session ∈ watch.sessionsList, session.1 = connectId → session.2.Checked →
    watch.heard connectId + connectTimeout ≤ watch.checkConnectTime →
    ∃ report ∈ watch.reports, report.sessionId = connectId ∧
      watch.heard connectId + connectTimeout ≤ report.time
  sound : Sound connectTimeout connectId watch
  prompt : Prompt connectTimeout connectId watch

theorem fresh_gated (connectTimeout : Nat) (connectId : UInt32) (now : Nat)
    (constructed : Nat → Nat) : Gated connectTimeout connectId (fresh now constructed) := by
  constructor <;> simp [fresh, Sound, Prompt]

theorem tick_gated (gated : Gated connectTimeout connectId watch) (elapsed : Nat) :
    Gated connectTimeout connectId { watch with now := watch.now + elapsed } where
  passed := Nat.le_add_right_of_le gated.passed
  recent := fun check made =>
    ⟨Nat.le_add_right_of_le (gated.recent check made).1, (gated.recent check made).2⟩
  heard := fun session inside same => Nat.le_add_right_of_le (gated.heard session inside same)
  reportTimes := fun report made => Nat.le_add_right_of_le (gated.reportTimes report made)
  reported := gated.reported
  sound := gated.sound
  prompt := gated.prompt

theorem quiet_gated (positive : 0 < connectTimeout) (gated : Gated connectTimeout connectId watch)
    (quiet : Quiet watch next) : Gated connectTimeout connectId next where
  passed := by
    rw [quiet.checkConnectTime, quiet.now]
    exact gated.passed
  recent := by
    rw [quiet.checks, quiet.checkConnectTime, quiet.now]
    exact gated.recent
  heard := by
    rintro session inside rfl
    rw [quiet.now]
    obtain ⟨before, heard⟩ | heard := quiet.heard session inside
    · rw [heard]
      exact gated.heard session before rfl
    · exact Nat.le_of_eq heard
  reportTimes := by
    rw [quiet.reports, quiet.now]
    exact gated.reportTimes
  reported := by
    rintro session inside rfl checked silent
    rw [quiet.checkConnectTime] at silent
    rw [quiet.reports]
    obtain ⟨before, heard⟩ | heard := quiet.heard session inside
    · rw [heard] at silent ⊢
      exact gated.reported session before rfl checked silent
    · -- it received after the last check that passed
      have passed := gated.passed
      omega
  sound := by
    intro report made
    rw [quiet.reports] at made
    exact gated.sound report made
  prompt := by
    rintro session inside rfl checked check made late
    rw [quiet.checks] at made
    rw [quiet.reports]
    obtain ⟨before, heard⟩ | heard := quiet.heard session inside
    · rw [heard] at late ⊢
      exact gated.prompt session before rfl checked check made late
    · have early := (gated.recent check made).1
      omega

theorem mem_sessionList (recorded : Recorded watch)
    (taken : ChecksTaken connectId watch .checkSessionIoTimeout) {report : IdleReport}
    (same : report.sessionId = connectId) :
    report ∈ watch.sessionList connectTimeout ↔
      (∃ session ∈ watch.sessionsList, session.1 = connectId ∧ session.2.Checked) ∧
      watch.heard connectId + connectTimeout ≤ watch.now ∧
      report = ⟨connectId, watch.now, watch.heard connectId⟩ := by
  have onTime : ∀ session ∈ watch.sessionsList, session.1 = connectId → session.2.Checked →
      watch.getRecvTime session = watch.heard connectId := by
    intro session inside owner checked
    have mine : watch.taken session.1 = true := owner ▸ taken session inside owner checked
    rw [getRecvTime_of_ownTime checked (recorded.own session inside mine), owner]
  simp only [sessionList, List.mem_filterMap, Option.ite_none_right_eq_some, Option.some.injEq]
  constructor
  · rintro ⟨session, inside, ⟨checked, silent⟩, rfl⟩
    rw [onTime session inside same checked] at silent
    have owner : session.1 = connectId := same
    exact ⟨⟨session, inside, owner, checked⟩, silent, by rw [owner]⟩
  · rintro ⟨⟨session, inside, owner, checked⟩, silent, rfl⟩
    refine ⟨session, inside, ⟨checked, ?_⟩, by rw [owner]⟩
    rw [onTime session inside owner checked]
    exact silent

theorem skipped_gated (gated : Gated connectTimeout connectId watch)
    (early : ¬watch.isNeedCheckSession connectTimeout) :
    Gated connectTimeout connectId { watch with checks := watch.checks ++ [watch.now] } := by
  have short : watch.now < watch.checkConnectTime + connectTimeout := Nat.lt_of_not_le early
  refine ⟨gated.passed, ?_, gated.heard, gated.reportTimes, gated.reported, gated.sound, ?_⟩
  · intro check made
    simp only [List.mem_append, List.mem_singleton] at made
    obtain made | rfl := made
    · exact gated.recent check made
    · exact ⟨Nat.le_refl _, short⟩
  · intro session inside same checked check made late
    simp only [List.mem_append, List.mem_singleton] at made
    obtain made | rfl := made
    · exact gated.prompt session inside same checked check made late
    · -- the last check that passed was late enough already
      have silent : watch.heard connectId + connectTimeout ≤ watch.checkConnectTime := by
        change watch.heard connectId + 2 * connectTimeout ≤ watch.now at late
        omega
      obtain ⟨report, made, owner, after⟩ := gated.reported session inside same checked silent
      exact ⟨report, made, owner, after, gated.reportTimes report made⟩

theorem passed_gated (positive : 0 < connectTimeout) (recorded : Recorded watch)
    (gated : Gated connectTimeout connectId watch)
    (taken : ChecksTaken connectId watch .checkSessionIoTimeout) :
    Gated connectTimeout connectId { watch with
      checkConnectTime := watch.now
      checks := watch.checks ++ [watch.now]
      reports := watch.reports ++ watch.sessionList connectTimeout } := by
  have listed : ∀ session ∈ watch.sessionsList, session.1 = connectId → session.2.Checked →
      watch.heard connectId + connectTimeout ≤ watch.now →
      ⟨connectId, watch.now, watch.heard connectId⟩ ∈
        watch.reports ++ watch.sessionList connectTimeout := by
    intro session inside same checked silent
    exact List.mem_append_right _ ((mem_sessionList recorded taken rfl).mpr
      ⟨⟨session, inside, same, checked⟩, silent, rfl⟩)
  refine ⟨Nat.le_refl _, ?_, gated.heard, ?_, ?_, ?_, ?_⟩
  · intro check made
    simp only [List.mem_append, List.mem_singleton] at made
    obtain made | rfl := made
    · exact ⟨(gated.recent check made).1,
        Nat.lt_of_le_of_lt (gated.recent check made).1 (Nat.lt_add_of_pos_right positive)⟩
    · exact ⟨Nat.le_refl _, Nat.lt_add_of_pos_right positive⟩
  · intro report made
    obtain made | made := List.mem_append.mp made
    · exact gated.reportTimes report made
    · simp only [sessionList, List.mem_filterMap, Option.ite_none_right_eq_some,
        Option.some.injEq] at made
      obtain ⟨_, _, _, rfl⟩ := made
      exact Nat.le_refl _
  · intro session inside same checked silent
    exact ⟨_, listed session inside same checked silent, rfl, silent⟩
  · intro report made same
    obtain made | made := List.mem_append.mp made
    · exact gated.sound report made same
    · obtain ⟨-, silent, rfl⟩ := (mem_sessionList recorded taken same).mp made
      exact silent
  · intro session inside same checked check made late
    simp only [List.mem_append, List.mem_singleton] at made
    obtain made | rfl := made
    · obtain ⟨report, made, found⟩ := gated.prompt session inside same checked check made late
      exact ⟨report, List.mem_append_left _ made, found⟩
    · change watch.heard connectId + 2 * connectTimeout ≤ watch.now at late
      have silent : watch.heard connectId + connectTimeout ≤ watch.now := by omega
      exact ⟨_, listed session inside same checked silent, rfl, silent, Nat.le_refl _⟩

theorem step_gated (positive : 0 < connectTimeout) (recorded : Recorded watch)
    (gated : Gated connectTimeout connectId watch) (taken : ChecksTaken connectId watch action)
    (stepped : watch.step connectTimeout action = some next) :
    Recorded next ∧ Gated connectTimeout connectId next := by
  obtain ⟨elapsed, rfl, rfl⟩ | ⟨rfl, rfl⟩ | ⟨quiet, kept⟩ := step_cases stepped
  · exact ⟨⟨recorded.single, recorded.own⟩, tick_gated gated elapsed⟩
  · refine ⟨recorded.checked, ?_⟩
    unfold checkSessionIoTimeout
    split
    · exact passed_gated positive recorded gated taken
    · rename_i early
      exact skipped_gated gated early
  · exact ⟨kept recorded, quiet_gated positive gated quiet⟩

/-- A session whose data every check finds taken is reported between the timeout and its double. -/
theorem sound_and_prompt_of_checksTaken {connectTimeout : Nat} (positive : 0 < connectTimeout)
    (connectId : UInt32) (now : Nat) (constructed : Nat → Nat) {actions : List IdleAction} (taken :
      Throughout (step connectTimeout) (ChecksTaken connectId) (fresh now constructed) actions) :
    Always (step connectTimeout)
      (fun watch => Sound connectTimeout connectId watch ∧ Prompt connectTimeout connectId watch)
      (fresh now constructed) actions := by
  have initial : Recorded (fresh now constructed) ∧
      Gated connectTimeout connectId (fresh now constructed) :=
    ⟨⟨by simp [fresh], by simp [fresh]⟩, fresh_gated connectTimeout connectId now constructed⟩
  have preserved : ∀ watch action next,
      Recorded watch ∧ Gated connectTimeout connectId watch → ChecksTaken connectId watch action →
      watch.step connectTimeout action = some next →
      Recorded next ∧ Gated connectTimeout connectId next := by
    rintro watch action next ⟨recorded, gated⟩ found stepped
    exact step_gated positive recorded gated found stepped
  exact always_of_invariant preserved (fun _ held => ⟨held.2.sound, held.2.prompt⟩) initial taken

theorem silent_session_reported :
    Always (step 10) (fun watch => Sound 10 1 watch ∧ Prompt 10 1 watch) (fresh 0 fun _ => 0)
      [.addUdpEndpoint 0 1 4 true, .takeDatagram 0, .tick 9, .checkSessionIoTimeout, .tick 2,
        .checkSessionIoTimeout, .tick 9, .checkSessionIoTimeout] :=
  sound_and_prompt_of_checksTaken (by decide) 1 0 (fun _ => 0) (by decide)

/-- A first datagram before the parser has taken it, and one that the parser refuses. -/
theorem first_datagram_misjudged :
    ((run (step 10) (fresh 0 fun _ => 0)
      [.tick 10, .addUdpEndpoint 0 1 4 true, .checkSessionIoTimeout]).map (·.reports)) =
      some [⟨1, 10, 10⟩] ∧
    ¬Always (step 10) (Sound 10 1) (fresh 0 fun _ => 0)
      [.tick 10, .addUdpEndpoint 0 1 4 true, .checkSessionIoTimeout] ∧
    ((run (step 10) (fresh 0 fun _ => 0)
      [.addUdpEndpoint 0 1 4 true, .refuseDatagram 0, .tick 15, .addUdpEndpoint 0 2 4 true,
        .takeDatagram 0, .tick 5, .checkSessionIoTimeout]).map
          fun watch => (watch.checks, watch.reports)) = some ([20], []) ∧
    ¬Always (step 10) (Prompt 10 1) (fresh 0 fun _ => 0)
      [.addUdpEndpoint 0 1 4 true, .refuseDatagram 0, .tick 15, .addUdpEndpoint 0 2 4 true,
        .takeDatagram 0, .tick 5, .checkSessionIoTimeout] := by
  decide

end IdleWatch

end PssAsio
