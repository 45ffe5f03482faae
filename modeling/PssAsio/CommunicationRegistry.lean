import PssAsio.CommunicationServiceCore
import PssAsio.PartialInverse
import PssAsio.TransitionRuns

/-!
The registry of server-to-server links read in both directions.
-/

namespace PssAsio

open TransitionRuns PartialInverse Function

inductive RegistryAction where
  | addConnect (ioInfo : ConnectIoInfo) (ioType : ConnectIoType) (session : Option Nat)
  | setConnectId (serverId connectId : Nat)
  | closeConnect (serverId : Nat)
  | close
  deriving DecidableEq, Repr

structure Registry where
  service : CommunicationService
  issued : List Nat

namespace CommunicationService

variable (service : CommunicationService)

def addConnect (ioInfo : ConnectIoInfo) (ioType : ConnectIoType) (session : Option Nat) :
    CommunicationService :=
  let connecting := service.ioConnect (newConnect ioInfo ioType)
  match connecting.2, session with
  | true, some created => connecting.1.setSession ioInfo.serverId created
  | _, _ => connecting.1

def Agree : Prop :=
  ∀ serverId connectId, 0 < serverId → 0 < connectId →
    (service.getServerId connectId = serverId ↔
      ∃ info, service.communicationList.lookup serverId = some info ∧
        info.connectId = connectId)

def idOf (serverId : Nat) : Option Nat :=
  if serverId = 0 ∨ service.getConnectId serverId = 0 then none
  else some (service.getConnectId serverId)

def ownerOf (connectId : Nat) : Option Nat :=
  if connectId = 0 ∨ service.getServerId connectId = 0 then none
  else some (service.getServerId connectId)

variable {connectId serverId : Nat} {service next : CommunicationService}

theorem idOf_eq_some : service.idOf serverId = some connectId ↔
      0 < serverId ∧ 0 < connectId ∧ service.getConnectId serverId = connectId := by
  simp only [idOf, Option.ite_none_left_eq_some, Option.some.injEq]
  omega

theorem idOf_eq_none :
    service.idOf serverId = none ↔ serverId = 0 ∨ service.getConnectId serverId = 0 := by
  unfold idOf
  split <;> simp [*]

theorem ownerOf_eq_none :
    service.ownerOf connectId = none ↔ connectId = 0 ∨ service.getServerId connectId = 0 := by
  unfold ownerOf
  split <;> simp [*]

theorem ownerOf_eq_some : service.ownerOf connectId = some serverId ↔
      0 < serverId ∧ 0 < connectId ∧ service.getServerId connectId = serverId := by
  simp only [ownerOf, Option.ite_none_left_eq_some, Option.some.injEq]
  omega

theorem lookup_connectId (positive : 0 < connectId) :
    (∃ info, service.communicationList.lookup serverId = some info ∧ info.connectId = connectId) ↔
      service.getConnectId serverId = connectId := by
  unfold getConnectId
  cases found : service.communicationList.lookup serverId with
  | none => simp [positive.ne]
  | some info => simp

theorem agree_iff_inverse (service : CommunicationService) :
    service.Agree ↔ Inverse service.idOf service.ownerOf := by
  simp only [Inverse, idOf_eq_some, ownerOf_eq_some]
  constructor
  · intro agree serverId connectId
    constructor
    · rintro ⟨server, connect, found⟩
      exact ⟨server, connect, (lookup_connectId connect).mp ((agree _ _ server connect).mp found)⟩
    · rintro ⟨server, connect, found⟩
      exact ⟨server, connect, (agree _ _ server connect).mpr ((lookup_connectId connect).mpr found)⟩
  · intro inverse serverId connectId server connect
    rw [lookup_connectId connect]
    have pair := inverse serverId connectId
    simpa [server, connect] using pair

/-! How the operations change the two readings. -/

theorem idOf_congr (same : next.getConnectId serverId = service.getConnectId serverId) :
    next.idOf serverId = service.idOf serverId := by
  simp only [idOf, same]

theorem ownerOf_congr (same : next.getServerId connectId = service.getServerId connectId) :
    next.ownerOf connectId = service.ownerOf connectId := by
  simp only [ownerOf, same]

theorem idOf_insert {info : CommunicationIoInfo}
    (inserted : next.communicationList = service.communicationList.insert serverId info) :
    next.idOf = update service.idOf serverId
      (if serverId = 0 ∨ info.connectId = 0 then none else some info.connectId) := by
  funext other
  by_cases same : other = serverId
  · subst same
    simp [idOf, getConnectId, inserted]
  · rw [update_of_ne same]
    apply idOf_congr
    simp [getConnectId, inserted, AList.lookup_insert_ne same]

theorem idOf_erase (erased : next.communicationList = service.communicationList.erase serverId) :
    next.idOf = update service.idOf serverId none := by
  funext other
  by_cases same : other = serverId
  · subst same
    simp [idOf, getConnectId, erased]
  · rw [update_of_ne same]
    apply idOf_congr
    simp [getConnectId, erased, AList.lookup_erase_ne same]

theorem ownerOf_insert (positive : connectId ≠ 0)
    (inserted : next.serverConnectIdList = service.serverConnectIdList.insert connectId serverId) :
    next.ownerOf = update service.ownerOf connectId
      (if serverId = 0 then none else some serverId) := by
  funext other
  by_cases same : other = connectId
  · subst same
    simp [ownerOf, getServerId, inserted, positive]
  · rw [update_of_ne same]
    apply ownerOf_congr
    simp [getServerId, inserted, AList.lookup_insert_ne same]

theorem ownerOf_erase
    (erased : next.serverConnectIdList = service.serverConnectIdList.erase connectId) :
    next.ownerOf = update service.ownerOf connectId none := by
  funext other
  by_cases same : other = connectId
  · subst same
    simp [ownerOf, getServerId, erased]
  · rw [update_of_ne same]
    apply ownerOf_congr
    simp [getServerId, erased, AList.lookup_erase_ne same]

theorem ownerOf_same (same : next.serverConnectIdList = service.serverConnectIdList) :
    next.ownerOf = service.ownerOf := by
  funext connectId
  apply ownerOf_congr
  simp only [getServerId, same]

theorem setSession_getConnectId (service : CommunicationService) (serverId session other : Nat) :
    (service.setSession serverId session).getConnectId other = service.getConnectId other := by
  unfold setSession
  split
  · rfl
  · rename_i info found
    by_cases same : other = serverId
    · subst same
      simp [getConnectId, found]
    · simp [getConnectId, AList.lookup_insert_ne same]

theorem setSession_serverConnectIdList (service : CommunicationService) (serverId session : Nat) :
    (service.setSession serverId session).serverConnectIdList = service.serverConnectIdList := by
  unfold setSession
  split <;> rfl

theorem addConnect_views (service : CommunicationService) (ioInfo : ConnectIoInfo)
    (ioType : ConnectIoType) (session : Option Nat) :
    (service.addConnect ioInfo ioType session).idOf =
        update service.idOf ioInfo.serverId none ∧
      (service.addConnect ioInfo ioType session).ownerOf = service.ownerOf := by
  obtain ⟨stored, kept⟩ := ioConnect_lists service (newConnect ioInfo ioType)
  have ids : (service.ioConnect (newConnect ioInfo ioType)).1.idOf =
      update service.idOf ioInfo.serverId none := by
    rw [idOf_insert stored]
    simp [newConnect]
  have owners := ownerOf_same kept
  simp only [addConnect]
  split
  · constructor
    · rw [← ids]
      funext other
      exact idOf_congr (setSession_getConnectId ..)
    · rw [← owners]
      exact ownerOf_same (setSession_serverConnectIdList ..)
  · exact ⟨ids, owners⟩

theorem setConnectId_unlisted (unlisted : service.communicationList.lookup serverId = none)
    (connectId : Nat) :
    (service.setConnectId serverId connectId).idOf = service.idOf ∧
      (service.setConnectId serverId connectId).ownerOf = service.ownerOf := by
  simp only [setConnectId, unlisted]
  exact ⟨rfl, rfl⟩

theorem setConnectId_zero_views (unkeyed : service.ownerOf 0 = none) (serverId : Nat) :
    (service.setConnectId serverId 0).idOf = update service.idOf serverId none ∧
      (service.setConnectId serverId 0).ownerOf = service.ownerOf := by
  cases listed : service.communicationList.lookup serverId with
  | none =>
    have absent : service.idOf serverId = none := by simp [idOf, getConnectId, listed]
    obtain ⟨ids, owners⟩ := setConnectId_unlisted listed 0
    exact ⟨by rw [ids, ← absent, update_eq_self], owners⟩
  | some info =>
    simp only [setConnectId, listed, if_true]
    constructor
    · rw [idOf_insert rfl]
      simp
    · rw [ownerOf_erase rfl, ← unkeyed]
      exact update_eq_self 0 service.ownerOf

theorem setConnectId_views {info : CommunicationIoInfo}
    (listed : service.communicationList.lookup serverId = some info) (positive : connectId ≠ 0) :
    (service.setConnectId serverId connectId).idOf = update service.idOf serverId
        (if serverId = 0 then none else some connectId) ∧
      (service.setConnectId serverId connectId).ownerOf = update service.ownerOf connectId
        (if serverId = 0 then none else some serverId) := by
  simp only [setConnectId, listed, positive, if_false]
  constructor
  · rw [idOf_insert rfl]
    simp [positive]
  · exact ownerOf_insert positive rfl

theorem inverse_setConnectId (inverse : Inverse service.idOf service.ownerOf) (serverId : Nat)
    (positive : connectId ≠ 0) (unowned : service.ownerOf connectId = none) :
    Inverse (service.setConnectId serverId connectId).idOf
        (service.setConnectId serverId connectId).ownerOf ↔
      service.idOf serverId = none := by
  cases listed : service.communicationList.lookup serverId with
  | none =>
    obtain ⟨ids, owners⟩ := setConnectId_unlisted listed connectId
    rw [ids, owners]
    refine iff_of_true inverse ?_
    simp [idOf, getConnectId, listed]
  | some info =>
    obtain ⟨ids, owners⟩ := setConnectId_views listed positive
    rw [ids, owners]
    by_cases zero : serverId = 0
    · have absent : service.idOf serverId = none := idOf_eq_none.mpr (.inl zero)
      simp only [zero, if_true] at absent ⊢
      refine iff_of_true ?_ absent
      rw [← absent, update_eq_self, absent, ← unowned, update_eq_self]
      exact inverse
    · simp only [zero, if_false]
      exact inverse_assign_iff inverse serverId unowned

theorem closeConnect_views (service : CommunicationService) (serverId : Nat) :
    (service.closeConnect serverId).idOf = update service.idOf serverId none ∧
      (service.closeConnect serverId).ownerOf =
        if service.getServerId serverId = 0 then service.ownerOf
        else update service.ownerOf (service.getServerId serverId) none := by
  have reads : ({ service with communicationList := service.communicationList.erase serverId } :
      CommunicationService).getServerId serverId = service.getServerId serverId := rfl
  simp only [closeConnect, reads]
  split
  · rename_i positive
    rw [if_neg positive.ne.symm]
    exact ⟨idOf_erase rfl, ownerOf_erase rfl⟩
  · rename_i zero
    rw [if_pos (Nat.eq_zero_of_not_pos zero)]
    exact ⟨idOf_erase rfl, rfl⟩

end CommunicationService

namespace Registry

open CommunicationService

def init : Registry := ⟨.init, []⟩

variable (registry : Registry)

def step : RegistryAction → Option Registry
  | .addConnect ioInfo ioType session =>
      some { registry with service := registry.service.addConnect ioInfo ioType session }
  | .setConnectId serverId connectId =>
      if connectId = 0 then
        some { registry with service := registry.service.setConnectId serverId 0 }
      else if connectId ∈ registry.issued then none
      else some ⟨registry.service.setConnectId serverId connectId, connectId :: registry.issued⟩
  | .closeConnect serverId =>
      some { registry with service := registry.service.closeConnect serverId }
  | .close => some { registry with service := registry.service.close }

def Agree (registry : Registry) : Prop := registry.service.Agree

def KeepsAgreement : RegistryAction → Prop
  | .addConnect ioInfo _ _ =>
      ioInfo.serverId = 0 ∨ registry.service.getConnectId ioInfo.serverId = 0
  | .setConnectId serverId _ => serverId = 0 ∨ registry.service.getConnectId serverId = 0
  | .closeConnect serverId =>
      let found := registry.service.getServerId serverId
      (serverId = 0 ∨ registry.service.getConnectId serverId = 0 ∨
        registry.service.getConnectId serverId = found) ∧
      (found = 0 ∨ registry.service.getServerId found = 0 ∨
        registry.service.getServerId found = serverId)
  | .close => True

instance (action : RegistryAction) : Decidable (registry.KeepsAgreement action) := by
  cases action <;> simp only [KeepsAgreement] <;> infer_instance

def OwnersIssued : Prop :=
  ∀ connectId serverId, registry.service.ownerOf connectId = some serverId →
    connectId ∈ registry.issued

theorem ownersIssued_step {registry next : Registry} {action : RegistryAction}
    (holds : registry.OwnersIssued) (stepped : registry.step action = some next) :
    next.OwnersIssued := by
  cases action with
  | addConnect ioInfo ioType session =>
    cases stepped
    intro connectId serverId owned
    simp only [(registry.service.addConnect_views ioInfo ioType session).2] at owned
    exact holds connectId serverId owned
  | setConnectId target connectId =>
    simp only [step] at stepped
    split at stepped
    · cases stepped
      intro other serverId owned
      simp only [(setConnectId_zero_views rfl target).2] at owned
      exact holds other serverId owned
    · rename_i positive
      simp only [Option.ite_none_left_eq_some, Option.some.injEq] at stepped
      obtain ⟨fresh, rfl⟩ := stepped
      intro other serverId owned
      by_cases same : other = connectId
      · exact same ▸ List.mem_cons_self ..
      · apply List.mem_cons_of_mem
        cases listed : registry.service.communicationList.lookup target with
        | none =>
          simp only [(setConnectId_unlisted listed connectId).2] at owned
          exact holds other serverId owned
        | some info =>
          simp only [(setConnectId_views listed positive).2,
            update_of_ne same] at owned
          exact holds other serverId owned
  | closeConnect target =>
    cases stepped
    intro other serverId owned
    simp only [(registry.service.closeConnect_views target).2] at owned
    split at owned
    · exact holds other serverId owned
    · by_cases same : other = registry.service.getServerId target
      · simp [same] at owned
      · rw [update_of_ne same] at owned
        exact holds other serverId owned
  | close =>
    cases stepped
    intro other serverId owned
    simp [CommunicationService.close, ownerOf, getServerId] at owned

theorem agree_step {registry next : Registry} {action : RegistryAction}
    (issued : registry.OwnersIssued) (agree : registry.Agree)
    (stepped : registry.step action = some next) : next.Agree ↔ registry.KeepsAgreement action := by
  have inverse := registry.service.agree_iff_inverse.mp agree
  simp only [Agree, agree_iff_inverse]
  cases action with
  | addConnect ioInfo ioType session =>
    cases stepped
    obtain ⟨ids, owners⟩ := registry.service.addConnect_views ioInfo ioType session
    rw [ids, owners, inverse_forget_iff inverse, idOf_eq_none]
    rfl
  | setConnectId serverId connectId =>
    simp only [step] at stepped
    split at stepped
    · cases stepped
      obtain ⟨ids, owners⟩ :=
        @setConnectId_zero_views registry.service rfl serverId
      rw [ids, owners, inverse_forget_iff inverse, idOf_eq_none]
      rfl
    · rename_i positive
      simp only [Option.ite_none_left_eq_some, Option.some.injEq] at stepped
      obtain ⟨fresh, rfl⟩ := stepped
      have unowned : registry.service.ownerOf connectId = none := by
        cases owned : registry.service.ownerOf connectId with
        | none => rfl
        | some owner => exact absurd (issued connectId owner owned) fresh
      simp only [KeepsAgreement, ← idOf_eq_none]
      exact inverse_setConnectId inverse serverId positive unowned
  | closeConnect serverId =>
    cases stepped
    obtain ⟨ids, owners⟩ := registry.service.closeConnect_views serverId
    rw [ids, owners]
    simp only [KeepsAgreement]
    split
    · rename_i zero
      rw [inverse_forget_iff inverse, idOf_eq_none, zero]
      simp
    · rename_i positive
      rw [inverse_remove_iff inverse, idOf_eq_none, idOf_eq_some, ownerOf_eq_none,
        ownerOf_eq_some]
      omega
  | close =>
    cases stepped
    refine iff_of_true ?_ trivial
    intro serverId connectId
    simp [CommunicationService.close, ownerOf, idOf, getServerId, getConnectId]

/-- The directions agree exactly when links are changed only without a connect id, and closed where
the lookup removes the right entry or none. -/
theorem agree_iff_keeps_agreement {finish : Registry} {actions : List RegistryAction}
    (ran : run step init actions = some finish) :
    Always step Agree init actions ↔ Throughout step KeepsAgreement init actions := by
  have grounded : init.OwnersIssued := by
    intro connectId serverId owned
    simp [init, CommunicationService.init, ownerOf, getServerId] at owned
  have empty : init.Agree := by
    intro serverId connectId server connect
    simp [init, CommunicationService.init, getServerId, server.ne]
  apply always_iff_throughout (fun _ _ _ => ownersIssued_step) _ grounded empty ran
  intro registry action next issued agree stepped
  exact agree_step issued agree stepped

theorem agree_single_connect :
    Always step Agree init [.addConnect ⟨1, true⟩ .connectIoTcp none, .setConnectId 1 5, .close] :=
  (agree_iff_keeps_agreement (Option.some_get (by decide)).symm).mpr (by decide)

theorem stale_connectId_after_disconnect :
    (run step init [.addConnect ⟨1, true⟩ .connectIoTcp none, .setConnectId 1 5,
      .setConnectId 1 0]).map (fun registry =>
        (registry.service.getServerId 5, registry.service.getConnectId 1)) = some (1, 0) := by
  decide

end Registry

end PssAsio
