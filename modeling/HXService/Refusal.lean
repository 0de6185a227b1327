import HXService.Sends
import HXService.Upkeep

/-! `c2s_tell_user_profile` when no player is free. The id that is not written is
read all the same, and the state of whoever has it is broadcast. -/

namespace HXService.Refusal
open Bytes PlayerManager SceneServer

def AllBound (m : PlayerManager) : Prop := ∀ ply ∈ m.players, ply.mUserType = vip → ply.bBoundUser = true

def refusal : LinkID → Sent := command idError noAvailableSeatNumber [] fits_nil

/-- On every network the request is answered with the error, and that is all. -/
def OnlyRefused (m : PlayerManager) (pack : HXMessagePackage) (given : Given) : Prop :=
  ∀ (σ : Type) (net : Network σ) (s : σ),
    handle net m pack given s = .ok (m, net.performAll s [refusal pack.mLinkid])

section Refused
variable {σ : Type} {net : Network σ} {m : PlayerManager} {pack : HXMessagePackage} {given : Given} {s : σ}

theorem getFreePlayer_none (hbound : AllBound m) : m.getFreePlayer = none := by
  unfold getFreePlayer
  rw [List.find?_eq_none]
  intro ply hply hfree
  rw [Bool.and_eq_true, Bool.not_eq_true', decide_eq_true_eq] at hfree
  exact Bool.false_ne_true (hfree.1.symm.trans (hbound ply hply hfree.2))

theorem handle_refused (hpack : IsProfile pack) (hbound : AllBound m) :
    handle net m pack given s = (m.broadcastUserState net given.retPlyId.toUInt32.toNat idUserLogin
      stateEntering (net.performAll s [refusal pack.mLinkid])).map fun s => (m, s) := by
  rw [handle_profile hpack]
  unfold handleTellUserProfile bindFaceModeWithSeatNumber
  simp only [getFreePlayer_none hbound]
  rw [sendCmd_eq fits_nil]
  rfl

theorem updUserState_ne_nil {ply : Player} {msgID : UInt16} {userState : Int32} (hply : ply ∈ m.players) :
    m.updUserState ply msgID userState ≠ [] := by
  intro hnil
  unfold updUserState at hnil
  dsimp only at hnil
  split_ifs at hnil
  · exact List.cons_ne_nil _ _ (List.append_eq_nil_iff.mp hnil).2
  · exact List.ne_nil_of_mem hply (List.map_eq_nil_iff.mp hnil)

theorem onlyRefused_of_absent (hpack : IsProfile pack) (hbound : AllBound m)
    (habsent : ∀ ply, m.findPlayer given.retPlyId.toUInt32.toNat = some ply → ply.mUserType ≠ vip) :
    OnlyRefused m pack given := by
  intro σ net s
  rw [handle_refused hpack hbound, broadcastUserState_none habsent]
  rfl

theorem not_onlyRefused {ply : Player} (hpack : IsProfile pack) (hbound : AllBound m)
    (hply : m.findPlayer given.retPlyId.toUInt32.toNat = some ply) (hvip : ply.mUserType = vip) :
    ¬OnlyRefused m pack given := by
  intro h
  have hsent := h (List Sent) Network.notebook []
  rw [handle_refused hpack hbound, broadcastUserState_eq hply hvip] at hsent
  have hsends := congrArg Prod.snd (Except.ok.inj hsent)
  dsimp only at hsends
  rw [Network.performAll_notebook] at hsends
  exact updUserState_ne_nil (List.mem_of_find?_eq_some hply) (List.append_right_eq_self.mp hsends)

/-- With nobody left to bind, a request is refused and has no other effect exactly
when the indeterminate id is of no VIP player. -/
theorem onlyRefused_iff (hpack : IsProfile pack) (hbound : AllBound m) :
    OnlyRefused m pack given ↔
      ∀ ply, m.findPlayer given.retPlyId.toUInt32.toNat = some ply → ply.mUserType ≠ vip := by
  constructor
  · intro h ply hply hvip
    exact not_onlyRefused hpack hbound hply hvip h
  · exact onlyRefused_of_absent hpack hbound

end Refused

def boundPlayer : Player :=
  { Player.new ⟨1, 0⟩ false (TransformInfo.ofBytes []) with bBoundUser := true, mSeatNumber := 3 }

def fullServer : PlayerManager :=
  (PlayerManager.new false (Block.zeros 32)).addPlayer boundPlayer

def request : HXMessagePackage :=
  HXMessagePackage.filled ⟨2, 0⟩ idUserLogin c2sTellUserProfile [] fits_nil

def holding (retPlyId : Int32) : Given := ⟨false, TransformInfo.ofBytes [], retPlyId⟩

theorem isProfile_request : IsProfile request := ⟨rfl, rfl⟩

theorem allBound_fullServer : AllBound fullServer := by
  intro ply hply _
  rw [List.mem_singleton.mp hply]
  rfl

theorem onlyRefused_iff_zero : OnlyRefused fullServer request (holding 0) ↔
    ∀ ply, fullServer.findPlayer 0 = some ply → ply.mUserType ≠ vip :=
  @onlyRefused_iff fullServer request (holding 0) isProfile_request allBound_fullServer

theorem refused_otherwise : ¬∀ (m : PlayerManager) (pack : HXMessagePackage) (given : Given),
    IsProfile pack → AllBound m → OnlyRefused m pack given := by
  intro h
  exact not_onlyRefused isProfile_request allBound_fullServer rfl rfl
    (h fullServer request (holding 1) isProfile_request allBound_fullServer)

end HXService.Refusal
