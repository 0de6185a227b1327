import HXService.CenterServer
import HXService.Enrolment
import HXService.Upkeep

/-! The main loops of both servers and the entries of their managers: no message
but connect and disconnect changes which links are listed. -/

namespace HXService
open Bytes

structure MainLoop (μ γ : Type) where
  faces : μ → List Face
  handle : μ → HXMessagePackage → γ → Checked μ
  faces_handle : ∀ {m m' : μ} {pack : HXMessagePackage} {given : γ},
    handle m pack given = .ok m' → faces m' = enrol pack (faces m)

namespace UserManager

def face (user : User) : Face := (user.mUserID, user.mLinkID)

def faces (m : UserManager) : List Face := m.users.map face

variable {σ : Type} {net : Network σ} {z : Zlib} {m : UserManager} {s : σ}

theorem faces_sendFlvStream {mem : Memory} {len : Nat} {now : Nat → UInt64} {out : UserManager × σ}
    (h : m.sendFlvStream net z mem len now s = .ok out) : out.1.faces = m.faces := by
  rw [sendFlvStream] at h
  obtain ⟨pkt, -, h⟩ := bind_eq_ok.mp h
  obtain ⟨sent, hsent, h⟩ := bind_eq_ok.mp h
  rw [← Except.ok.inj h]
  exact map_sendFlvStreamTo face (fun _ => rfl) hsent

theorem faces_handleFlvStream {pack : HXMessagePackage} {given : CenterServer.Given}
    {out : UserManager × σ} (h : CenterServer.handleFlvStream net z m pack given s = .ok out) :
    out.1.faces = m.faces := by
  rw [CenterServer.handleFlvStream] at h
  obtain ⟨body, -, h⟩ := bind_eq_ok.mp h
  dsimp only at h
  split_ifs at h
  exact (faces_sendFlvStream h).trans (Roster.map_modify face fun _ => rfl)

theorem faces_handle {pack : HXMessagePackage} {given : CenterServer.Given} {out : UserManager × σ}
    (h : CenterServer.handle net z m pack given s = .ok out) : out.1.faces = enrol pack m.faces := by
  rw [CenterServer.handle] at h
  rw [enrol]
  split_ifs at h ⊢
  · rw [← Except.ok.inj h]
    exact List.map_append
  · rw [← Except.ok.inj h]
    exact Roster.map_remove face Prod.fst fun _ _ => rfl
  · rw [← Except.ok.inj h]
  · rw [← Except.ok.inj h]
  · rw [← Except.ok.inj h]
  · rw [← Except.ok.inj h]
  · obtain ⟨written, -, h⟩ := bind_eq_ok.mp h
    rw [← Except.ok.inj h]
  · obtain ⟨data, -, h⟩ := bind_eq_ok.mp h
    rw [← Except.ok.inj h]
    exact Roster.map_modify face fun _ => rfl
  · obtain ⟨data, -, h⟩ := bind_eq_ok.mp h
    rw [← Except.ok.inj h]
    rfl
  · exact faces_handleFlvStream h
  · rw [← Except.ok.inj h]

end UserManager

def centerLoop {σ : Type} (net : Network σ) (z : Zlib) :
    MainLoop (UserManager × σ) CenterServer.Given where
  faces m := m.1.faces
  handle m pack given := CenterServer.handle net z m.1 pack given m.2
  faces_handle := UserManager.faces_handle

namespace PlayerManager

def face (ply : Player) : Face := (ply.mPlyID, ply.mLinkID)

def faces (m : PlayerManager) : List Face := m.players.map face

variable {σ : Type} {net : Network σ} {m : PlayerManager} {pack : HXMessagePackage}
variable {given : SceneServer.Given} {s : σ}

theorem Kept.faces {m' : PlayerManager} (h : Kept m m') : m'.faces = m.faces := by
  have hfaces : List.Forall₂ (fun ply ply' => face ply = face ply') m.players m'.players := by
    apply h.players.imp
    intro ply ply' hsame
    rw [face, face, hsame.mPlyID, hsame.mLinkID]
  rw [← List.forall₂_map_right_iff, ← List.forall₂_map_left_iff, List.forall₂_eq_eq_eq] at hfaces
  exact hfaces.symm

theorem faces_handle {out : PlayerManager × σ} (h : SceneServer.handle net m pack given s = .ok out) :
    out.1.faces = enrol pack m.faces := by
  by_cases hconnect : pack.header.id = idConnect
  · rw [handle_connect hconnect h, enrol_connect hconnect]
    exact List.map_append
  by_cases hdisconnect : pack.header.id = idDisconnect
  · rw [handle_disconnect hdisconnect h, enrol_disconnect hdisconnect]
    exact Roster.map_remove face Prod.fst fun _ _ => rfl
  · rw [enrol_other hconnect hdisconnect]
    exact (handle_kept hconnect hdisconnect h).faces

end PlayerManager

def sceneLoop {σ : Type} (net : Network σ) : MainLoop (PlayerManager × σ) SceneServer.Given where
  faces m := m.1.faces
  handle m pack given := SceneServer.handle net m.1 pack given m.2
  faces_handle := PlayerManager.faces_handle

end HXService
