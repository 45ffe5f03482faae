import PssAsio.SessionLocksCore
import PssAsio.TransitionRuns

/-!
Deadlocks between the link checker and the session bookkeeping.
-/

namespace PssAsio

open ReentrantLocks Threads TransitionRuns Function

namespace SessionLocks

def rank : SessionLock → Nat
  | .pluginTimerMutex => 0
  | .mutex => 1

variable (held : SessionLock → Nat)

def mayCall : LockedCall → Prop
  | .addThreadSession _ _ | .deleteThreadSession _ => MayAcquire rank held .pluginTimerMutex
  | .markConnecting _ => 0 < held .mutex
  | _ => True

def after : LockedCall → SessionLock → Nat
  | .markConnecting _ => update held .mutex (held .mutex - 1)
  | _ => held

abbrev InOrder (program : List LockedInstr) : Prop :=
  Ordered rank mayCall after held program

section Order

variable {held} {rest : List LockedInstr}

theorem mayAcquire_mutex (held : SessionLock → Nat) : MayAcquire rank held .mutex := by
  by_cases own : 0 < held .mutex
  · exact .inl own
  · refine .inr ?_
    intro other holds
    cases other with
    | pluginTimerMutex => decide
    | mutex => exact absurd holds own

theorem mayAcquire_pluginTimerMutex (free : held .mutex = 0) :
    MayAcquire rank held .pluginTimerMutex := by
  by_cases own : 0 < held .pluginTimerMutex
  · exact .inl own
  · refine .inr ?_
    intro other holds
    cases other with
    | pluginTimerMutex => exact absurd holds own
    | mutex => omega

theorem inOrder_calls {calls : List LockedCall}
    (keeps : ∀ call ∈ calls, mayCall held call ∧ after held call = held)
    (later : InOrder held rest) : InOrder held (calls.map .call ++ rest) := by
  induction calls with
  | nil => exact later
  | cons call calls ih =>
    obtain ⟨⟨may, same⟩, others⟩ := List.forall_mem_cons.mp keeps
    refine ⟨may, ?_⟩
    rw [same]
    exact ih others

theorem inOrder_guarded {lock : SessionLock} {body : List LockedCall}
    (may : MayAcquire rank held lock)
    (keeps : ∀ call ∈ body, ∀ held, mayCall held call ∧ after held call = held)
    (later : InOrder held rest) : InOrder held (guarded lock body ++ rest) := by
  refine ⟨may, ?_⟩
  change InOrder _ (body.map Instr.call ++ [Instr.release lock] ++ rest)
  rw [List.append_assoc]
  refine inOrder_calls (fun call member => keeps call member _) ?_
  change InOrder (update _ lock _) rest
  rw [update_self, Nat.add_sub_cancel, update_idem, update_eq_self]
  exact later

theorem inOrder_guarded_mutex {call : LockedCall}
    (keeps : ∀ held, mayCall held call ∧ after held call = held)
    (later : InOrder held rest) : InOrder held (guarded .mutex [call] ++ rest) := by
  refine inOrder_guarded (mayAcquire_mutex held) ?_ later
  intro other member
  rw [List.mem_singleton.mp member]
  exact keeps

theorem inOrder_session {serverId connectId : Nat}
    (may : MayAcquire rank held .pluginTimerMutex) (later : InOrder held rest) :
    InOrder held (guarded .pluginTimerMutex
      (if 0 < serverId then [.setConnectId serverId connectId] else []) ++ rest) := by
  refine inOrder_guarded may ?_ later
  intro call member held
  split at member
  · rw [List.mem_singleton.mp member]
    exact ⟨trivial, rfl⟩
  · cases member

end Order

def startsAtOnce (program : List LockedInstr) (choice : LinkChoice) : Bool :=
  match program with
  | .call (.start connectInfo) :: _ =>
      (connectInfo.ioType = .connectIoUdp ∨ connectInfo.ioType = .connectIoTty) ∧
        choice.outcome = true
  | _ => false

/-- A thread that holds `mutex_` starts no link that connects before `start` returns. -/
def StartsApart (threads : LockedThreads) : LockedMove → Prop
  | .enter _ _ => True
  | .advance thread choice =>
      startsAtOnce (threads.program thread) choice = true → ¬threads.Holds thread .mutex

instance (threads : LockedThreads) (move : LockedMove) : Decidable (StartsApart threads move) := by
  unfold StartsApart
  split <;> infer_instance

section Expansion

variable {held} {rest : List LockedInstr} {connectInfo : CommunicationIoInfo}
  {choice : LinkChoice}

theorem inOrder_start
    (apart : (connectInfo.ioType = .connectIoUdp ∨ connectInfo.ioType = .connectIoTty) ∧
      choice.outcome = true → held .mutex = 0)
    (later : InOrder held rest) : InOrder held (startCalls connectInfo choice ++ rest) := by
  have stored : InOrder held
      (guarded .mutex [.storeSession connectInfo.ioInfo.serverId choice.session] ++ rest) :=
    inOrder_guarded_mutex (fun _ => ⟨trivial, rfl⟩) later
  have reported : (connectInfo.ioType = .connectIoUdp ∨ connectInfo.ioType = .connectIoTty) ∧
      choice.outcome = true → InOrder held
        (.call (.addThreadSession connectInfo.ioInfo.serverId choice.connectId) ::
          guarded .mutex [.storeSession connectInfo.ioInfo.serverId choice.session] ++ rest) :=
    fun atOnce => ⟨mayAcquire_pluginTimerMutex (apart atOnce), stored⟩
  cases ioType : connectInfo.ioType <;> simp only [startCalls, ioType]
  case connectIoTcp | connectIoSsl =>
    split
    · exact stored
    · exact later
  case connectIoUdp =>
    split
    · exact reported ⟨.inl ioType, by assumption⟩
    · exact stored
  case connectIoTty =>
    split
    · exact reported ⟨.inr ioType, by assumption⟩
    · exact stored
  all_goals exact later

theorem inOrder_visit {service : CommunicationService} {kind : VisitKind} {serverId : Nat}
    (later : InOrder held rest) :
    InOrder held ((expand service (.visit kind serverId) choice).2 ++ rest) := by
  simp only [expand]
  split
  · exact later
  · split
    · exact later
    · exact ⟨trivial, later⟩

theorem inOrder_visits {kind : VisitKind} {serverIds : List Nat} (later : InOrder held rest) :
    InOrder held (serverIds.map (fun serverId => .call (.visit kind serverId)) ++ rest) := by
  have visits : InOrder held ((serverIds.map (LockedCall.visit kind)).map .call ++ rest) := by
    refine inOrder_calls ?_ later
    intro call member
    obtain ⟨serverId, -, rfl⟩ := List.mem_map.mp member
    exact ⟨trivial, rfl⟩
  rw [List.map_map] at visits
  exact visits

theorem inOrder_testRun {service : CommunicationService} (later : InOrder held rest) :
    InOrder held ((expand service (.testRun connectInfo) choice).2 ++ rest) := by
  simp only [expand]
  split
  · refine ⟨mayAcquire_mutex held, ?_, ?_⟩
    · change 0 < update held _ _ _
      rw [update_self]
      omega
    · change InOrder (update _ _ _) rest
      rw [update_self, Nat.add_sub_cancel, update_idem,
        update_eq_self]
      exact later
  · exact later

theorem inOrder_markConnecting {service : CommunicationService}
    (later : InOrder (update held .mutex (held .mutex - 1)) rest) :
    InOrder held ((expand service (.markConnecting connectInfo) choice).2 ++ rest) := by
  simp only [expand]
  split
  · exact later
  · exact ⟨trivial, later⟩

end Expansion

variable (threads : LockedThreads)

theorem expand_inOrder (thread : Nat) (call : LockedCall) (choice : LinkChoice)
    (rest : List LockedInstr) (program : threads.program thread = .call call :: rest)
    (apart : StartsApart threads (.advance thread choice))
    (may : mayCall (threads.depth thread) call)
    (later : InOrder (after (threads.depth thread) call) rest) :
    InOrder (threads.depth thread) ((expand threads.shared call choice).2 ++ rest) := by
  cases call with
  | addThreadSession serverId connectId | deleteThreadSession serverId =>
    exact inOrder_session may later
  | setConnectId serverId connectId | runCheckTask | runFirstIoConnect | resetConnect serverId =>
    exact inOrder_guarded_mutex (fun _ => ⟨trivial, rfl⟩) later
  | storeConnectId serverId connectId | storeConnectInfo connectInfo
  | storeSession serverId session => exact later
  | eachIoConnect kind => exact inOrder_visits later
  | visit kind serverId => exact inOrder_visit later
  | ioConnect connectInfo =>
    simp only [expand, List.append_assoc]
    exact inOrder_guarded_mutex (fun _ => ⟨trivial, rfl⟩) ⟨trivial, later⟩
  | testRun connectInfo => exact inOrder_testRun later
  | markConnecting connectInfo => exact inOrder_markConnecting later
  | start connectInfo =>
    simp only [StartsApart, program] at apart
    refine inOrder_start ?_ later
    intro atOnce
    exact Nat.eq_zero_of_not_pos (apart (decide_eq_true atOnce))

theorem entry_inOrder {call : LockedCall} (entry : isEntry call = true)
    {held : SessionLock → Nat} (nothing : ∀ lock, held lock = 0) : InOrder held [.call call] := by
  cases call <;> simp only [isEntry, Bool.false_eq_true] at entry
  case addThreadSession | deleteThreadSession =>
    exact ⟨mayAcquire_pluginTimerMutex (nothing _), nothing⟩
  all_goals exact ⟨trivial, nothing⟩

def Permitted (move : LockedMove) : Prop :=
  StartsApart threads move ∧
    match move with
    | .enter _ call => isEntry call = true
    | .advance _ _ => True

theorem permitted_of_step {threads next : LockedThreads} {move : LockedMove}
    (apart : StartsApart threads move) (stepped : step threads move = some next) :
    Permitted threads move ∧ threads.step expand move = some next := by
  cases move with
  | enter thread call =>
    simp only [step, Option.ite_none_right_eq_some] at stepped
    exact ⟨⟨apart, stepped.1⟩, stepped.2⟩
  | advance thread choice => exact ⟨⟨apart, trivial⟩, stepped⟩

theorem step_inOrder (move : LockedMove) (next : LockedThreads)
    (ordered : threads.AllOrdered rank mayCall after) (apart : StartsApart threads move)
    (stepped : step threads move = some next) : next.AllOrdered rank mayCall after := by
  obtain ⟨permitted, stepped⟩ := permitted_of_step apart stepped
  refine step_allOrdered expand ?_ ?_ threads move next ordered permitted stepped
  · intro threads thread call permitted held nothing
    exact entry_inOrder permitted.2 nothing
  · intro threads thread call choice rest program permitted
    exact expand_inOrder threads thread call choice rest program permitted.1

def CrossWait : Prop :=
  ∃ first second, threads.Holds first .pluginTimerMutex ∧ threads.Waits first .mutex ∧
    threads.Holds second .mutex ∧ threads.Waits second .pluginTimerMutex

theorem crossWait_of_heads {threads : LockedThreads} {first second : Nat} (differ : first ≠ second)
    (holdsTimer : threads.Holds first .pluginTimerMutex) (holdsMutex : threads.Holds second .mutex)
    (takesMutex : (threads.program first).head? = some (.acquire .mutex))
    (takesTimer : (threads.program second).head? = some (.acquire .pluginTimerMutex)) :
    CrossWait threads :=
  ⟨first, second, holdsTimer, ⟨takesMutex, second, differ.symm, holdsMutex⟩, holdsMutex,
    takesTimer, first, differ, holdsTimer⟩

/-- No deadlock in runs whose links connect at once only outside `mutex_`. -/
theorem noCrossWait_of_starts_apart (service : CommunicationService) (moves : List LockedMove)
    (apart : Throughout step StartsApart (idle service) moves) :
    Always step (fun threads => ¬CrossWait threads) (idle service) moves := by
  refine always_of_invariant step_inOrder ?_ (idle_allOrdered service) apart
  rintro threads ordered ⟨first, second, holdsTimer, waitsMutex, holdsMutex, waitsTimer⟩
  exact ordered.no_cross_wait holdsTimer waitsMutex holdsMutex waitsTimer

def oneLink (ioType : ConnectIoType) : CommunicationService :=
  { CommunicationService.init with
    communicationList := AList.insert 1 ⟨none, 0, ⟨1, true⟩, ioType⟩ ∅
    communicationIsRun := true }

def checkAndReport : List LockedMove :=
  let connected : LinkChoice := ⟨true, 3, 7, false⟩
  .enter 0 .runCheckTask :: List.replicate 12 (.advance 0 connected) ++
    .enter 1 (.addThreadSession 2 5) :: List.replicate 3 (.advance 1 connected) ++
    List.replicate 2 (.advance 0 connected)

theorem noCrossWait_tcp_link :
    Throughout step StartsApart (idle (oneLink .connectIoTcp)) checkAndReport ∧
      Always step (fun threads => ¬CrossWait threads) (idle (oneLink .connectIoTcp))
        checkAndReport := by
  have apart : Throughout step StartsApart (idle (oneLink .connectIoTcp)) checkAndReport := by
    decide
  exact ⟨apart, noCrossWait_of_starts_apart _ _ apart⟩

theorem udp_link_blocks_bookkeeping :
    ∃ finish, run step (idle (oneLink .connectIoUdp)) checkAndReport = some finish ∧
      CrossWait finish := by
  have blocked : (run step (idle (oneLink .connectIoUdp)) checkAndReport).any (fun threads =>
      threads.Holds 1 .pluginTimerMutex ∧ threads.Holds 0 .mutex ∧
        (threads.program 1).head? = some (.acquire .mutex) ∧
        (threads.program 0).head? = some (.acquire .pluginTimerMutex)) = true := by
    decide
  obtain ⟨finish, ran, state⟩ := (Option.any_eq_true _ _).mp blocked
  obtain ⟨holdsTimer, holdsMutex, takesMutex, takesTimer⟩ := of_decide_eq_true state
  exact ⟨finish, ran, crossWait_of_heads (by decide) holdsTimer holdsMutex takesMutex takesTimer⟩

end SessionLocks

end PssAsio
