import HXService.SceneServer

/-! What a scene server sends, as a list in the order of sending. No answer of the
network counts where it broadcasts. -/

namespace HXService
open Bytes

inductive Sent
  | client (linkID : LinkID) (msg : Outgoing)
  | center (id id2 : UInt16) (bytes : List UInt8)

namespace Network
variable {σ : Type} (net : Network σ)

def perform (s : σ) : Sent → σ
  | .client linkID msg => (net.send s linkID msg).2
  | .center id id2 bytes => (net.sendCenter s id id2 bytes).2

def performAll (s : σ) (sends : List Sent) : σ := sends.foldl net.perform s

def notebook : Network (List Sent) where
  send sends linkID msg := (true, sends ++ [.client linkID msg])
  sendCenter sends id id2 bytes := (true, sends ++ [.center id id2 bytes])

variable {net} {s : σ} {sends more : List Sent}

theorem performAll_append : net.performAll s (sends ++ more) =
    net.performAll (net.performAll s sends) more := List.foldl_append

theorem perform_notebook (sent : Sent) : notebook.perform sends sent = sends ++ [sent] := by
  cases sent <;> rfl

theorem performAll_notebook : notebook.performAll sends more = sends ++ more := by
  induction more generalizing sends with
  | nil => exact (List.append_nil sends).symm
  | cons sent more ih =>
    show notebook.performAll (notebook.perform sends sent) more = _
    rw [perform_notebook, ih, List.append_assoc, List.singleton_append]

end Network

namespace PlayerManager
variable {σ : Type} {net : Network σ} {m : PlayerManager} {s : σ} {linkID : LinkID}
variable {msgID cmdID : UInt16} {data : List UInt8}

/-- One command to one client. -/
def command (msgID cmdID : UInt16) (data : List UInt8) (h : data.length ≤ maxBodyLength)
    (linkID : LinkID) : Sent :=
  .client linkID (.package (HXMessagePackage.filled LinkID.zero msgID cmdID data h))

theorem sendCmd_eq (h : data.length ≤ maxBodyLength) : sendCmd net linkID msgID cmdID data s =
    .ok (net.send s linkID (.package (HXMessagePackage.filled LinkID.zero msgID cmdID data h))) := by
  unfold sendCmd Network.cmdPackage
  rw [dif_pos h]
  rfl

theorem sendCmdTo_eq (h : data.length ≤ maxBodyLength) (players : List Player) :
    sendCmdTo net players msgID cmdID data s = .ok (net.performAll s
      (players.map fun ply => command msgID cmdID data h ply.mLinkID)) := by
  induction players generalizing s with
  | nil => rfl
  | cons ply players ih =>
    rw [sendCmdTo, List.foldlM_cons, sendCmd_eq h, ok_bind]
    exact ih

theorem fits_nil : ([] : List UInt8).length ≤ maxBodyLength := Nat.zero_le _

theorem fits_int32 (n : Int32) : (int32Bytes n).length ≤ maxBodyLength := by
  unfold int32Bytes
  rw [length_leBytes]
  decide

theorem fits_state (id : Block 32) (seat state : Int32) :
    (externalInfo id (int32Bytes seat ++ int32Bytes state)).length ≤ maxBodyLength := by
  unfold externalInfo int32Bytes
  simp only [List.length_append, length_leBytes, id.size_eq]
  decide

/-- The state of a player, to every player and to the center server. -/
def updUserState (m : PlayerManager) (ply : Player) (msgID : UInt16) (userState : Int32) : List Sent :=
  let told := m.players.map fun other => command msgID s2cUpdUserState
    (externalInfo m.mSceneServerID (int32Bytes ply.mSeatNumber ++ int32Bytes userState))
    (fits_state m.mSceneServerID ply.mSeatNumber userState) other.mLinkID
  if m.userVisibleFlag then told ++ [.center msgID s2cUpdUserState
    (externalInfo m.mSceneServerID (int32Bytes ply.mSeatNumber ++ int32Bytes userState))]
  else told

theorem broadcastUserState_eq {plyId : Nat} {ply : Player} {userState : Int32}
    (hply : m.findPlayer plyId = some ply) (hvip : ply.mUserType = vip) :
    m.broadcastUserState net plyId msgID userState s =
      .ok (net.performAll s (m.updUserState ply msgID userState)) := by
  unfold broadcastUserState updUserState
  simp only [hply, hvip, ne_eq, not_true_eq_false, if_false]
  rw [sendCmdTo_eq (fits_state m.mSceneServerID ply.mSeatNumber userState), ok_bind]
  split_ifs
  · rw [Network.performAll_append]
    rfl
  · rfl

theorem broadcastUserState_none {plyId : Nat} {userState : Int32}
    (h : ∀ ply, m.findPlayer plyId = some ply → ply.mUserType ≠ vip) :
    m.broadcastUserState net plyId msgID userState s = .ok s := by
  unfold broadcastUserState
  cases hply : m.findPlayer plyId with
  | none => rfl
  | some ply =>
    simp only [h ply hply, ne_eq, not_false_eq_true, if_true]
    rfl

end PlayerManager
end HXService
