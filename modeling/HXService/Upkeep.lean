import HXService.SceneServer

/-! What the messages of a scene server do to its players: one comes in, one goes,
or all of them stay and one may be bound. -/

namespace HXService.PlayerManager
open Bytes

structure Same (ply ply' : Player) : Prop where
  mPlyID : ply'.mPlyID = ply.mPlyID
  mLinkID : ply'.mLinkID = ply.mLinkID
  sceneServerID : ply'.mProfileInfo.sceneServerID = ply.mProfileInfo.sceneServerID
  bBoundUser : ply.bBoundUser = true → ply'.bBoundUser = true

structure Kept (m m' : PlayerManager) : Prop where
  mSceneServerID : m'.mSceneServerID = m.mSceneServerID
  players : List.Forall₂ Same m.players m'.players

/-- What a player has in common with himself later, whatever comes but a seat number. -/
structure Lasting (R : Player → Player → Prop) : Prop where
  refl : ∀ ply, R ply ply
  bound : ∀ ply mFaceModel,
    R ply { ply with mProfileInfo := { ply.mProfileInfo with mFaceModel }, bBoundUser := true }
  userType : ∀ ply mUserType, R ply { ply with mUserType }
  transInfo : ∀ ply transInfo, R ply { ply with transInfo }
  headerFlag : ∀ ply, R ply { ply with mFlvSeqHeaderFlag := true }

structure KeptBy (R : Player → Player → Prop) (m m' : PlayerManager) : Prop where
  mSceneServerID : m'.mSceneServerID = m.mSceneServerID
  players : List.Forall₂ R m.players m'.players

variable {σ : Type} {net : Network σ} {m : PlayerManager} {pack : HXMessagePackage}
variable {given : SceneServer.Given} {s : σ} {R : Player → Player → Prop}

theorem Lasting.all (hR : Lasting R) (players : List Player) : List.Forall₂ R players players :=
  List.forall₂_same.mpr fun ply _ => hR.refl ply

theorem Lasting.kept (hR : Lasting R) (m : PlayerManager) : KeptBy R m m := ⟨rfl, hR.all m.players⟩

theorem lasting_same : Lasting Same where
  refl _ := ⟨rfl, rfl, rfl, id⟩
  bound _ _ := ⟨rfl, rfl, rfl, fun _ => rfl⟩
  userType _ _ := ⟨rfl, rfl, rfl, id⟩
  transInfo _ _ := ⟨rfl, rfl, rfl, id⟩
  headerFlag _ := ⟨rfl, rfl, rfl, id⟩

theorem keptBy_modifyPlayer {plyId : Nat} {f : Player → Player} (hR : Lasting R)
    (h : ∀ ply, R ply (f ply)) : KeptBy R m (m.modifyPlayer plyId f).2 :=
  ⟨rfl, Roster.forall₂_modify hR.refl h⟩

def IsTellSeatNum (pack : HXMessagePackage) : Prop :=
  pack.header.id = idUserLogin ∧ pack.header.id2 = c2sTellSeatNum

instance (pack : HXMessagePackage) : Decidable (IsTellSeatNum pack) :=
  inferInstanceAs (Decidable (_ ∧ _))

theorem keptBy_bindFaceModeWithSeatNumber (hR : Lasting R) {linkID : LinkID}
    {faceModel : Checked (Block faceModelSize)} {out : Option Nat × PlayerManager × σ}
    (h : m.bindFaceModeWithSeatNumber net linkID faceModel s = .ok out) : KeptBy R m out.2.1 := by
  rw [bindFaceModeWithSeatNumber] at h
  split at h
  · obtain ⟨sent, -, h⟩ := bind_eq_ok.mp h
    rw [← Except.ok.inj h]
    exact hR.kept m
  · rename_i ply hfree
    obtain ⟨sent, -, h⟩ := bind_eq_ok.mp h
    obtain ⟨faceModel, -, h⟩ := bind_eq_ok.mp h
    rw [← Except.ok.inj h]
    rw [getFreePlayer, List.find?_eq_getElem?_findIdx] at hfree
    exact ⟨rfl, Roster.forall₂_set hR.refl hfree (hR.bound ply faceModel)⟩

theorem keptBy_handleGlobalNotify (hR : Lasting R) {out : PlayerManager × σ}
    (h : SceneServer.handleGlobalNotify net m pack s = .ok out) : KeptBy R m out.1 := by
  rw [SceneServer.handleGlobalNotify] at h
  dsimp only at h
  split_ifs at h
  · rw [← Except.ok.inj h]
    exact hR.kept m
  · rw [← Except.ok.inj h]
    exact hR.kept m
  · rw [← Except.ok.inj h]
    exact hR.kept m
  · rw [← Except.ok.inj h]
    exact hR.kept m
  · obtain ⟨s', -, h⟩ := bind_eq_ok.mp h
    rw [← Except.ok.inj h]
    exact hR.kept m
  · obtain ⟨s', -, h⟩ := bind_eq_ok.mp h
    rw [← Except.ok.inj h]
    exact hR.kept m
  · rw [← Except.ok.inj h]
    exact ⟨rfl, hR.all m.players⟩
  · rw [← Except.ok.inj h]
    exact hR.kept m

theorem keptBy_handleUserLogin (hR : Lasting R)
    (hseat : pack.header.id2 = c2sTellSeatNum → ∀ ply seatNum, R ply (ply.setSeatNumber seatNum))
    {out : PlayerManager × σ}
    (h : SceneServer.handleUserLogin net m pack given s = .ok out) : KeptBy R m out.1 := by
  rw [SceneServer.handleUserLogin] at h
  split_ifs at h with hid
  · obtain ⟨seatNum, -, h⟩ := bind_eq_ok.mp h
    obtain ⟨s', -, h⟩ := bind_eq_ok.mp h
    rw [← Except.ok.inj h]
    exact keptBy_modifyPlayer hR fun ply => hseat hid ply _
  · obtain ⟨userType, -, h⟩ := bind_eq_ok.mp h
    rw [← Except.ok.inj h]
    exact keptBy_modifyPlayer hR fun ply => hR.userType ply _
  · obtain ⟨bound, hbound, h⟩ := bind_eq_ok.mp h
    obtain ⟨s', -, h⟩ := bind_eq_ok.mp h
    rw [← Except.ok.inj h]
    exact keptBy_bindFaceModeWithSeatNumber hR hbound
  · obtain ⟨seatNum, -, h⟩ := bind_eq_ok.mp h
    obtain ⟨s', -, h⟩ := bind_eq_ok.mp h
    rw [← Except.ok.inj h]
    exact hR.kept m
  · rw [← Except.ok.inj h]
    exact hR.kept m

theorem handle_globalNotify (hid : pack.header.id = idGlobalNotify) :
    SceneServer.handle net m pack given s = SceneServer.handleGlobalNotify net m pack s := by
  unfold SceneServer.handle
  simp [hid, idGlobalNotify, idConnect, idDisconnect]

theorem handle_userLogin (hid : pack.header.id = idUserLogin) :
    SceneServer.handle net m pack given s = SceneServer.handleUserLogin net m pack given s := by
  unfold SceneServer.handle
  simp [hid, idUserLogin, idConnect, idDisconnect, idGlobalNotify]

/-! The request of a client for a player whose place it takes. -/

def IsProfile (pack : HXMessagePackage) : Prop :=
  pack.header.id = idUserLogin ∧ pack.header.id2 = c2sTellUserProfile

theorem handle_profile (hpack : IsProfile pack) :
    SceneServer.handle net m pack given s = SceneServer.handleTellUserProfile net m pack given s := by
  rw [handle_userLogin hpack.1]
  unfold SceneServer.handleUserLogin
  simp [hpack.2, c2sTellUserProfile, c2sTellSeatNum, c2sTellUserType]

/-! A connect adds a player that carries the server's id, a disconnect takes the
first one with the id away. -/

def entrant (m : PlayerManager) (linkID : LinkID) (given : SceneServer.Given) : Player :=
  (Player.new linkID given.mFlvSeqHeaderFlag given.transInfo).setSceneServerID m.mSceneServerID

theorem handle_connect {out : PlayerManager × σ} (hid : pack.header.id = idConnect)
    (h : SceneServer.handle net m pack given s = .ok out) :
    out.1 = m.addPlayer (m.entrant pack.mLinkid given) := by
  rw [SceneServer.handle, if_pos hid] at h
  obtain ⟨s', -, h⟩ := bind_eq_ok.mp h
  rw [← Except.ok.inj h]
  rfl

theorem handle_disconnect {out : PlayerManager × σ} (hid : pack.header.id = idDisconnect)
    (h : SceneServer.handle net m pack given s = .ok out) :
    out.1 = m.deletePlayer pack.mLinkid.sid.toNat := by
  have hne : pack.header.id ≠ idConnect := by
    rw [hid]
    decide
  rw [SceneServer.handle, if_neg hne, if_pos hid] at h
  obtain ⟨left, hleft, h⟩ := bind_eq_ok.mp h
  rw [← Except.ok.inj h]
  rw [sendPlayerLeaveMsg] at hleft
  split at hleft
  · rename_i hnone
    rw [← Except.ok.inj hleft, deletePlayer, Roster.remove_of_find_none hnone]
  · obtain ⟨s', -, hleft⟩ := bind_eq_ok.mp hleft
    rw [← Except.ok.inj hleft]

theorem handle_keptBy (hR : Lasting R)
    (hseat : IsTellSeatNum pack → ∀ ply seatNum, R ply (ply.setSeatNumber seatNum))
    {out : PlayerManager × σ} (hconnect : pack.header.id ≠ idConnect)
    (hdisconnect : pack.header.id ≠ idDisconnect)
    (h : SceneServer.handle net m pack given s = .ok out) : KeptBy R m out.1 := by
  rw [SceneServer.handle, if_neg hconnect, if_neg hdisconnect] at h
  split_ifs at h with _ hlogin
  · exact keptBy_handleGlobalNotify hR h
  · exact keptBy_handleUserLogin hR (fun hid => hseat ⟨hlogin, hid⟩) h
  · obtain ⟨transInfo, -, h⟩ := bind_eq_ok.mp h
    rw [← Except.ok.inj h]
    exact keptBy_modifyPlayer hR fun ply => hR.transInfo ply _
  · rw [← Except.ok.inj h]
    exact hR.kept m

theorem handle_kept {out : PlayerManager × σ} (hconnect : pack.header.id ≠ idConnect)
    (hdisconnect : pack.header.id ≠ idDisconnect)
    (h : SceneServer.handle net m pack given s = .ok out) : Kept m out.1 := by
  have hkept := handle_keptBy lasting_same (fun _ _ _ => ⟨rfl, rfl, rfl, id⟩) hconnect hdisconnect h
  exact ⟨hkept.mSceneServerID, hkept.players⟩

theorem keptBy_sendFlvPackage (hR : Lasting R) {z : Zlib} {pkt : HXBigMessageQueue}
    {out : PlayerManager × σ} (h : m.sendFlvPackage net z pkt s = .ok out) : KeptBy R m out.1 := by
  rw [sendFlvPackage] at h
  obtain ⟨sent, hsent, h⟩ := bind_eq_ok.mp h
  rw [← Except.ok.inj h]
  exact ⟨rfl, forall₂_sendFlvStreamTo hR.refl hR.headerFlag hsent⟩

theorem keptBy_handleCenterNotify (hR : Lasting R) {out : PlayerManager × σ}
    (h : SceneServer.handleCenterNotify net m pack s = .ok out) : KeptBy R m out.1 := by
  rw [SceneServer.handleCenterNotify] at h
  dsimp only at h
  split_ifs at h
  · obtain ⟨s', -, h⟩ := bind_eq_ok.mp h
    rw [← Except.ok.inj h]
    exact hR.kept m
  · rw [← Except.ok.inj h]
    exact hR.kept m
  · rw [← Except.ok.inj h]
    exact ⟨rfl, hR.all m.players⟩
  · rw [← Except.ok.inj h]
    exact hR.kept m

theorem handleCenter_keptBy (hR : Lasting R) {z : Zlib} {out : PlayerManager × σ}
    (h : SceneServer.handleCenter net z m pack s = .ok out) : KeptBy R m out.1 := by
  rw [SceneServer.handleCenter] at h
  split_ifs at h
  · exact keptBy_handleCenterNotify hR h
  · rw [← Except.ok.inj h]
    exact hR.kept m
  · rw [← Except.ok.inj h]
    exact hR.kept m
  · rw [← Except.ok.inj h]
    exact hR.kept m
  · obtain ⟨data, -, h⟩ := bind_eq_ok.mp h
    rw [← Except.ok.inj h]
    exact ⟨rfl, hR.all m.players⟩
  · obtain ⟨pkt, -, h⟩ := bind_eq_ok.mp h
    exact keptBy_sendFlvPackage hR h
  · obtain ⟨data, -, h⟩ := bind_eq_ok.mp h
    obtain ⟨pkt, -, h⟩ := bind_eq_ok.mp h
    exact keptBy_sendFlvPackage hR h
  · rw [← Except.ok.inj h]
    exact hR.kept m

theorem handleCenter_kept {z : Zlib} {out : PlayerManager × σ}
    (h : SceneServer.handleCenter net z m pack s = .ok out) : Kept m out.1 := by
  have hkept := handleCenter_keptBy lasting_same h
  exact ⟨hkept.mSceneServerID, hkept.players⟩

end HXService.PlayerManager

namespace HXService.SceneServer
open PlayerManager

inductive Event
  | client (pack : HXMessagePackage) (given : Given)
  | center (pack : HXMessagePackage)

variable {σ : Type} (net : Network σ) (z : Zlib)

def entering (sid : UInt16) : Event :=
  .client (HXMessagePackage.filled ⟨sid, 0⟩ idConnect 0 [] (Nat.zero_le _))
    ⟨false, TransformInfo.ofBytes [], 0⟩

def step (server : PlayerManager × σ) : Event → Option (PlayerManager × σ)
  | .client pack given => (handle net server.1 pack given server.2).toOption
  | .center pack => (handleCenter net z server.1 pack server.2).toOption

variable {net z} {server server' : PlayerManager × σ} {e : Event}

theorem step_players (h : step net z server e = some server') :
    (∃ linkID given, server'.1 = server.1.addPlayer (server.1.entrant linkID given)) ∨
    (∃ plyId, server'.1 = server.1.deletePlayer plyId) ∨ Kept server.1 server'.1 := by
  cases e with
  | client pack given =>
    have hhandle : handle net server.1 pack given server.2 = .ok server' := mem_toOption h
    by_cases hconnect : pack.header.id = idConnect
    · exact .inl ⟨_, _, handle_connect hconnect hhandle⟩
    by_cases hdisconnect : pack.header.id = idDisconnect
    · exact .inr (.inl ⟨_, handle_disconnect hdisconnect hhandle⟩)
    · exact .inr (.inr (handle_kept hconnect hdisconnect hhandle))
  | center pack => exact .inr (.inr (handleCenter_kept (mem_toOption h)))

end HXService.SceneServer
