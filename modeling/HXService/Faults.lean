import HXService.Sectioning
import HXService.SceneServer
import HXService.CenterServer
import HXService.Identity

/-! Which calls of the managers fault. Nothing a scene server does for its local
clients does, once the body of the message has been read; the stream may be too
long for an `int`. -/

namespace HXService
open Bytes

def Returns {α : Type} (x : Checked α) : Prop := ∃ a, x = .ok a

def Inside {α : Type} (x : Checked α) : Prop := x ≠ .error .outsideArray

section Checked
variable {α β : Type} {x : Checked α} {f : α → Checked β}

theorem returns_pure (a : α) : Returns (pure a : Checked α) := ⟨a, rfl⟩

theorem Returns.bind (h : Returns x) (hf : ∀ a, x = .ok a → Returns (f a)) : Returns (x >>= f) := by
  obtain ⟨a, ha⟩ := h
  rw [ha, ok_bind]
  exact hf a ha

theorem Returns.inside (h : Returns x) : Inside x := by
  obtain ⟨a, rfl⟩ := h
  intro h
  cases h

theorem inside_pure (a : α) : Inside (pure a : Checked α) := (returns_pure a).inside

theorem Inside.bind (h : Inside x) (hf : ∀ a, x = .ok a → Inside (f a)) : Inside (x >>= f) := by
  cases x with
  | error e =>
    rw [error_bind]
    intro h'
    apply h
    rw [Except.error.inj h']
  | ok a =>
    rw [ok_bind]
    exact hf a rfl

theorem inside_checkInt (n : Int) : Inside (checkInt n) := by
  unfold checkInt Inside
  split_ifs <;> simp

end Checked

namespace PlayerManager

section Returns
variable {σ : Type} {net : Network σ} {m : PlayerManager} {s : σ} {plyId : Nat} {linkID : LinkID}

theorem length_clientList (players : List Player) (count : Nat) :
    (clientList count players).length ≤ maxBodyLength - count * ProfileInfo.size := by
  induction players generalizing count with
  | nil => simp [clientList]
  | cons ply rest ih =>
    unfold clientList
    split_ifs
    · simp
    · have hrest := ih (count + 1)
      rw [Nat.succ_mul] at hrest
      simp
      omega
    · exact ih count

theorem returns_sendCmd {msgID cmdID : UInt16} {data : List UInt8} (h : data.length ≤ maxBodyLength) :
    Returns (sendCmd net linkID msgID cmdID data s) := by
  exact ⟨_, sendCmd_eq h⟩

theorem returns_sendCmdTo {players : List Player} {msgID cmdID : UInt16} {data : List UInt8}
    (h : data.length ≤ maxBodyLength) : Returns (sendCmdTo net players msgID cmdID data s) :=
  ⟨_, sendCmdTo_eq h players⟩

theorem returns_sendClientList : Returns (m.sendClientList net linkID s) := by
  have hlength := length_clientList m.players 0
  unfold sendClientList
  dsimp only
  split_ifs
  · apply returns_pure
  · apply Returns.bind
    · apply returns_sendCmd
      omega
    · intro _ _
      apply returns_pure

theorem returns_sendPlayerLeaveMsg : Returns (m.sendPlayerLeaveMsg net plyId s) := by
  unfold sendPlayerLeaveMsg
  cases m.findPlayer plyId with
  | none => apply returns_pure
  | some ply =>
    apply Returns.bind
    · apply returns_sendCmdTo
      exact fits_int32 _
    · intro _ _
      apply returns_pure

theorem returns_bindFaceModeWithSeatNumber {faceModel : Checked (Block faceModelSize)}
    (h : Returns faceModel) : Returns (m.bindFaceModeWithSeatNumber net linkID faceModel s) := by
  unfold bindFaceModeWithSeatNumber
  cases m.getFreePlayer with
  | none =>
    apply Returns.bind
    · exact returns_sendCmd (Nat.zero_le _)
    · intro _ _
      apply returns_pure
  | some ply =>
    apply Returns.bind
    · apply returns_sendCmd
      exact fits_int32 _
    · intro _ _
      apply Returns.bind h
      intro _ _
      apply returns_pure

theorem returns_sendUserReadyMsg (seatNumber : Int32) :
    Returns (m.sendUserReadyMsg net seatNumber s) := by
  unfold sendUserReadyMsg
  cases m.findPlayerBySeatNumber seatNumber with
  | none => apply returns_pure
  | some ply =>
    dsimp only
    split_ifs
    · apply returns_pure
    · apply returns_sendCmdTo
      simp [maxBodyLength, ProfileInfo.size]

theorem returns_broadcastUserState (msgID : UInt16) (userState : Int32) :
    Returns (m.broadcastUserState net plyId msgID userState s) := by
  by_cases hstate : ∃ ply, m.findPlayer plyId = some ply ∧ ply.mUserType = vip
  · obtain ⟨ply, hply, hvip⟩ := hstate
    exact ⟨_, broadcastUserState_eq hply hvip⟩
  · have hnone : ∀ ply, m.findPlayer plyId = some ply → ply.mUserType ≠ vip :=
      fun ply hply hvip => hstate ⟨ply, hply, hvip⟩
    exact ⟨_, broadcastUserState_none hnone⟩

theorem returns_broadcastControlCmd (msgID cmdID : UInt16) :
    Returns (m.broadcastControlCmd net msgID cmdID s) := returns_sendCmdTo (Nat.zero_le _)

end Returns
end PlayerManager

namespace SceneServer
open PlayerManager

section Returns
variable {σ : Type} {net : Network σ} {m : PlayerManager} {s : σ} {pack : HXMessagePackage}
  {given : Given}

theorem returns_handleConnect : Returns (handleConnect net m pack.mLinkid given s) := by
  unfold handleConnect
  apply Returns.bind
  · apply returns_sendClientList
  · intro _ _
    apply returns_pure

theorem returns_handleGlobalNotify : Returns (handleGlobalNotify net m pack s) := by
  unfold handleGlobalNotify
  dsimp only
  split_ifs
  · apply returns_pure
  · apply returns_pure
  · apply returns_pure
  · apply returns_pure
  · apply Returns.bind
    · apply returns_broadcastUserState
    · intro _ _
      apply returns_pure
  · apply Returns.bind
    · apply returns_broadcastUserState
    · intro _ _
      apply returns_pure
  · apply returns_pure
  · apply returns_pure

theorem returns_handleTellSeatNum (h : Returns (bodyBlock pack 4)) :
    Returns (handleTellSeatNum net m pack s) := by
  unfold handleTellSeatNum
  apply Returns.bind h
  intro seatNum _
  apply Returns.bind
  · split_ifs
    · apply returns_broadcastUserState
    · apply returns_pure
  · intro _ _
    apply returns_pure

theorem returns_handleTellUserProfile (h : Returns (bodyBlock pack faceModelSize)) :
    Returns (handleTellUserProfile net m pack given s) := by
  unfold handleTellUserProfile
  apply Returns.bind
  · exact returns_bindFaceModeWithSeatNumber h
  · intro bound _
    apply Returns.bind
    · apply returns_broadcastUserState
    · intro _ _
      apply returns_pure

end Returns
end SceneServer

section Stream
variable {σ α : Type} {net : Network σ} {z : Zlib}

theorem inside_setBigPackage (q : HXBigMessageQueue) (id id2 : UInt16) (data : List UInt8) :
    Inside (q.setBigPackage z id id2 data 0) := by
  rcases Nat.lt_or_ge (Sectioning.count data) 65536 with hfits | hover
  · rw [Sectioning.setBigPackage_plain z q hfits]
    exact (returns_pure _).inside
  · unfold HXBigMessageQueue.setBigPackage
    apply Inside.bind
    · apply inside_checkInt
    intro comp hcomp
    -- the count is 65536, so that no section is made
    have hcount : Sectioning.count data = 65536 := by
      have hmax : maxBodyLength = 32768 := rfl
      unfold checkInt at hcomp
      split_ifs at hcomp with hrange
      unfold Sectioning.count at hover ⊢
      rw [hmax] at hover ⊢
      omega
    have hzero : (Sectioning.plainHeader id id2 data).sectionCount.toNat = 0 := by
      show (UInt16.ofNat (Sectioning.count data)).toNat = 0
      rw [hcount]
      rfl
    apply Inside.bind
    · simp only [lt_irrefl, if_false]
      change Inside ((List.range (Sectioning.plainHeader id id2 data).sectionCount.toNat).foldlM _ _)
      rw [hzero]
      apply inside_pure
    · intro _ _
      apply inside_pure

theorem inside_sendFlvSeqHeaders (linkID : LinkID) (q : HXBigMessageQueue) (s : σ)
    (datas : List (List UInt8)) : Inside (sendFlvSeqHeaders net z linkID q s datas) := by
  induction datas generalizing q s with
  | nil => apply inside_pure
  | cons data rest ih =>
    unfold sendFlvSeqHeaders
    apply Inside.bind
    · apply inside_setBigPackage
    · intro pkt _
      dsimp only
      split_ifs
      · apply ih
      · apply inside_pure

theorem inside_sendFlvHeadersTo (r : Receiving α) (m : FlvSeqHeaderMap) (change : Bool) (s : σ)
    (user : α) : Inside (sendFlvHeadersTo net z r m change s user) := by
  unfold sendFlvHeadersTo
  split_ifs
  · apply Inside.bind
    · apply inside_sendFlvSeqHeaders
    · intro _ _
      apply inside_pure
  · apply inside_pure

theorem inside_sendFlvStreamTo (r : Receiving α) (m : FlvSeqHeaderMap)
    (before : Nat → α → List Outgoing) (pkt : HXBigMessageQueue) (i : Nat) (change : Bool) (s : σ)
    (users : List α) : Inside (sendFlvStreamTo net z r m before pkt i change s users) := by
  induction users generalizing i change s with
  | nil => apply inside_pure
  | cons user rest ih =>
    unfold sendFlvStreamTo
    split_ifs
    · apply Inside.bind
      · apply ih
      · intro _ _
        apply inside_pure
    · apply Inside.bind
      · apply inside_sendFlvHeadersTo
      · intro headers _
        apply Inside.bind
        · apply ih
        · intro _ _
          apply inside_pure

theorem PlayerManager.inside_sendFlvPackage (m : PlayerManager) (pkt : HXBigMessageQueue) (s : σ) :
    Inside (m.sendFlvPackage net z pkt s) := by
  unfold PlayerManager.sendFlvPackage
  apply Inside.bind
  · apply inside_sendFlvStreamTo
  · intro _ _
    apply inside_pure

theorem PlayerManager.inside_sendFlvStream (m : PlayerManager) (data : List UInt8) (s : σ) :
    Inside (m.sendFlvStream net z data s) := by
  apply Inside.bind
  · apply inside_setBigPackage
  · intro pkt _
    apply m.inside_sendFlvPackage

theorem PlayerManager.inside_sendFlvStreamBelow (m : PlayerManager) (len : Int32) (s : σ) :
    Inside (m.sendFlvStreamBelow net z len s) := by
  apply Inside.bind
  · unfold HXBigMessageQueue.setBigPackageBelow
    split_ifs
    · exact fun h => nomatch h
    · apply inside_pure
  · intro pkt _
    apply m.inside_sendFlvPackage

theorem UserManager.inside_sendFlvStream (m : UserManager) (mem : Memory) (len : Nat)
    (now : Nat → UInt64) (s : σ) : Inside (m.sendFlvStream net z mem len now s) := by
  unfold UserManager.sendFlvStream
  apply Inside.bind
  · apply inside_setBigPackage
  · intro pkt _
    apply Inside.bind
    · apply inside_sendFlvStreamTo
    · intro _ _
      apply inside_pure

end Stream
end HXService
