import PssAsio.IoBridgeCore
import PssAsio.TransitionRuns

/-!
Which mappings `check_io_mapping` lets in.
-/

namespace PssAsio

open TransitionRuns

structure IoMapping where
  fromIo : IoEndpoint
  toIo : IoEndpoint
  bridgeType : IoBridgeType
  deriving DecidableEq, Repr

def IoMapping.connectInfo (mapping : IoMapping) : IoConnectInfo :=
  { fromIo := mapping.fromIo, toIo := mapping.toIo, bridgeType := mapping.bridgeType }

inductive MappingAction where
  | addSessionIoMapping (mapping : IoMapping)
  | deleteSessionIoMapping (fromIo : IoEndpoint)
  deriving DecidableEq, Repr

namespace IoConnectInfo

variable (first : IoConnectInfo)

def EitherBath (second : IoConnectInfo) : Prop :=
  first.bridgeType = .ioBridgeBath ∨ second.bridgeType = .ioBridgeBath
  deriving Decidable

def Apart (second : IoConnectInfo) : Prop :=
  EitherBath first second → first.endpoints.Disjoint second.endpoints

variable (stored : IoConnectInfo)

variable (new : IoConnectInfo)

/-- The test that `check_io_mapping` makes of a new mapping against one stored mapping. -/
def Clears : Prop :=
  new.fromIo ≠ stored.fromIo ∧ (EitherBath stored new → new.toIo ≠ stored.fromIo)

def AvoidsTo : Prop :=
  EitherBath stored new → new.fromIo ≠ stored.toIo ∧ new.toIo ≠ stored.toIo
  deriving Decidable

instance (second : IoConnectInfo) : Decidable (Apart first second) :=
  decidable_of_iff (EitherBath first second → ∀ endpoint ∈ first.endpoints,
    endpoint ∉ second.endpoints) Iff.rfl

deriving instance Decidable for Clears

theorem apart_iff_avoidsTo {stored new : IoConnectInfo} (clears : Clears stored new) :
    Apart stored new ↔ AvoidsTo stored new := by
  obtain ⟨fresh, noLoop⟩ := clears
  simp only [Apart, AvoidsTo, endpoints]
  constructor
  · intro apart bath
    have disjoint := apart bath
    refine ⟨?_, ?_⟩
    · intro same
      exact disjoint (a := stored.toIo) (by simp) (by simp [same])
    · intro same
      exact disjoint (a := stored.toIo) (by simp) (by simp [same])
  · intro avoids bath endpoint stays enters
    have begins := (avoids bath).1
    have ends := (avoids bath).2
    have loops := noLoop bath
    simp only [List.mem_cons, List.not_mem_nil, or_false] at stays enters
    rcases stays with rfl | rfl <;> rcases enters with same | same
    · exact fresh same.symm
    · exact loops same.symm
    · exact begins same.symm
    · exact ends same.symm

end IoConnectInfo

namespace IotoIo

open IoConnectInfo

variable (iotoio : IotoIo)

def perform : MappingAction → IotoIo
  | .addSessionIoMapping mapping =>
      (iotoio.addSessionIoMapping mapping.fromIo mapping.toIo mapping.bridgeType).2
  | .deleteSessionIoMapping fromIo => (iotoio.deleteSessionIoMapping fromIo).2

def step (action : MappingAction) : Option IotoIo := some (iotoio.perform action)

def ConflictFree : Prop := iotoio.io2IoList.Pairwise Apart
  deriving Decidable

variable (mapping : IoMapping)

def accepts : Bool :=
  (iotoio.addSessionIoMapping mapping.fromIo mapping.toIo mapping.bridgeType).1

variable (first : IoMapping)

variable (second : IoMapping)

def acceptsBoth : Bool :=
  iotoio.accepts first && (iotoio.perform (.addSessionIoMapping first)).accepts second

def Fits : Prop :=
  ∀ stored ∈ iotoio.io2IoList, Clears stored mapping.connectInfo
  deriving Decidable

def AddsAvoidTo : MappingAction → Prop
  | .addSessionIoMapping mapping => iotoio.Fits mapping →
      ∀ stored ∈ iotoio.io2IoList, AvoidsTo stored mapping.connectInfo
  | .deleteSessionIoMapping _ => True

def OrderFree : Prop :=
  iotoio.Fits first → iotoio.Fits second → first.fromIo ≠ second.fromIo →
    EitherBath first.connectInfo second.connectInfo →
      (first.toIo = second.fromIo ↔ second.toIo = first.fromIo)

instance (action : MappingAction) : Decidable (iotoio.AddsAvoidTo action) := by
  unfold AddsAvoidTo
  split <;> infer_instance

theorem checkIoMapping_eq_zero_iff (new : IoConnectInfo) (list : List IoConnectInfo) :
    checkIoMapping new list = 0 ↔ ∀ stored ∈ list, Clears stored new := by
  induction list with
  | nil => simp [checkIoMapping]
  | cons stored rest ih =>
    simp only [checkIoMapping, compareConnectIo_iff, List.forall_mem_cons, ← ih]
    split
    · rename_i same
      simp [Clears, same]
    · rename_i fresh
      split
      · rename_i loops
        simp [Clears, EitherBath, loops.1.symm, loops.2]
      · rename_i passes
        have clears : Clears stored new :=
          ⟨fresh, fun bath same => passes ⟨bath.symm, same⟩⟩
        simp [clears]

theorem accepts_iff : iotoio.accepts mapping ↔ iotoio.Fits mapping := by
  rw [Fits, ← checkIoMapping_eq_zero_iff]
  simp only [accepts, addSessionIoMapping, IoMapping.connectInfo]
  split <;> simp_all

theorem perform_add :
    iotoio.perform (.addSessionIoMapping mapping) =
      if iotoio.Fits mapping then
        { iotoio with io2IoList := iotoio.io2IoList ++ [mapping.connectInfo] }
      else iotoio := by
  simp only [← accepts_iff]
  simp only [perform, accepts, addSessionIoMapping, IoMapping.connectInfo]
  split <;> simp_all

theorem acceptsBoth_iff :
    iotoio.acceptsBoth first second ↔ iotoio.Fits first ∧ iotoio.Fits second ∧
      Clears first.connectInfo second.connectInfo := by
  simp only [acceptsBoth, Bool.and_eq_true, perform_add, accepts_iff]
  apply and_congr_right
  intro fits
  rw [if_pos fits]
  simp only [Fits, List.forall_mem_append, List.forall_mem_singleton]

theorem conflictFree_step {iotoio next : IotoIo} {action : MappingAction}
    (holds : iotoio.ConflictFree) (stepped : iotoio.step action = some next) :
    next.ConflictFree ↔ iotoio.AddsAvoidTo action := by
  simp only [step, Option.some.injEq] at stepped
  subst stepped
  cases action with
  | addSessionIoMapping mapping =>
    rw [perform_add]
    simp only [AddsAvoidTo]
    split
    · rename_i fits
      rw [forall_prop_of_true fits]
      simp only [ConflictFree, List.pairwise_append, List.pairwise_singleton, true_and,
        List.mem_singleton, forall_eq]
      constructor
      · intro apart stored member
        exact (apart_iff_avoidsTo (fits stored member)).mp (apart.2 stored member)
      · intro avoids
        refine ⟨holds, ?_⟩
        intro stored member
        exact (apart_iff_avoidsTo (fits stored member)).mpr (avoids stored member)
    · rename_i refused
      exact iff_of_true holds (fun fits => absurd fits refused)
  | deleteSessionIoMapping fromIo =>
    refine iff_of_true ?_ trivial
    exact holds.sublist ((List.eraseP_sublist).trans List.eraseP_sublist)

theorem acceptsBoth_comm_iff :
    iotoio.acceptsBoth first second = iotoio.acceptsBoth second first ↔
      iotoio.OrderFree first second := by
  have symmetric : EitherBath second.connectInfo first.connectInfo ↔
      EitherBath first.connectInfo second.connectInfo := or_comm
  have forward : Clears first.connectInfo second.connectInfo ↔ second.fromIo ≠ first.fromIo ∧
      (EitherBath first.connectInfo second.connectInfo → second.toIo ≠ first.fromIo) := Iff.rfl
  have backward : Clears second.connectInfo first.connectInfo ↔ first.fromIo ≠ second.fromIo ∧
      (EitherBath second.connectInfo first.connectInfo → first.toIo ≠ second.fromIo) := Iff.rfl
  rw [Bool.eq_iff_iff, acceptsBoth_iff, acceptsBoth_iff, forward, backward, symmetric]
  unfold OrderFree
  grind

/-- No endpoint is shared with a two-way mapping exactly when no mapping that is let in meets the
`to` end of another, one of them being two-way. -/
theorem conflictFree_iff_adds_avoid_to (actions : List MappingAction) :
    (Always step ConflictFree init actions ↔ Throughout step AddsAvoidTo init actions) ∧
      ∀ (iotoio : IotoIo) (first second : IoMapping),
        iotoio.acceptsBoth first second = iotoio.acceptsBoth second first ↔
          iotoio.OrderFree first second := by
  refine ⟨?_, acceptsBoth_comm_iff⟩
  have empty : init.ConflictFree := List.Pairwise.nil
  have ran : run step init actions = some (actions.foldl perform init) :=
    run_total perform init actions
  apply always_iff_throughout (fun _ _ _ _ _ => trivial) _ trivial empty ran
  intro iotoio action next _ holds stepped
  exact conflictFree_step holds stepped

def host (number : Nat) : IoEndpoint := ⟨⟨"127.0.0.1", number⟩, .connectIoTcp⟩

theorem conflictFree_separate_mappings :
    Always step ConflictFree init
      [.addSessionIoMapping ⟨host 1, host 2, .ioBridgeBath⟩,
        .addSessionIoMapping ⟨host 3, host 4, .ioBridgeFrom⟩, .deleteSessionIoMapping (host 2),
        .addSessionIoMapping ⟨host 2, host 1, .ioBridgeTo⟩] :=
  (conflictFree_iff_adds_avoid_to _).1.mpr (by decide)

theorem chain_accepted_in_one_order :
    (∃ finish, run step init [.addSessionIoMapping ⟨host 1, host 2, .ioBridgeBath⟩,
        .addSessionIoMapping ⟨host 2, host 3, .ioBridgeBath⟩] = some finish ∧
          ¬finish.ConflictFree) ∧
      init.acceptsBoth ⟨host 1, host 2, .ioBridgeBath⟩ ⟨host 2, host 3, .ioBridgeBath⟩ = true ∧
      init.acceptsBoth ⟨host 2, host 3, .ioBridgeBath⟩ ⟨host 1, host 2, .ioBridgeBath⟩ = false :=
  ⟨⟨_, rfl, by decide⟩, by decide, by decide⟩

end IotoIo

end PssAsio
