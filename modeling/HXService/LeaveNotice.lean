import HXService.Lib.Runs
import HXService.Sends
import HXService.Upkeep

/-! The notice of a player that leaves. The one for the center server is written
from the profile of the last player of the list; it names the right server because
all profiles name the same. -/

namespace HXService.LeaveNotice
open Bytes Runs PlayerManager SceneServer

/-- `s2c_ply_leave`, with the seat of the player that leaves. -/
def plyLeave (seatNum : Int32) (linkID : LinkID) : Sent :=
  command idUserNotify s2cPlyLeave (int32Bytes seatNum) (fits_int32 seatNum) linkID

/-- `s2c_user_leave_external`, with a `LeaveUserInfo` of the player. -/
def userLeaveExternal (ply : Player) : Sent :=
  .center idGlobalNotify s2cUserLeaveExternal
    (ply.mProfileInfo.sceneServerID.bytes ++ int32Bytes ply.mSeatNumber)

def leaveSends (m : PlayerManager) (ply : Player) : List Sent :=
  let told := m.players.map fun other => plyLeave ply.mSeatNumber other.mLinkID
  if m.userVisibleFlag then told ++ [userLeaveExternal ply] else told

/-- What `SendPlayerLeaveMsg` is to do, for every id and on every network. -/
structure Notifies (m : PlayerManager) : Prop where
  listed : ∀ (σ : Type) (net : Network σ) (s : σ) (before after : List Player) (ply : Player),
    m.players = before ++ ply :: after → m.sendPlayerLeaveMsg net ply.mPlyID s =
      .ok (true, { m with players := before ++ after }, net.performAll s (leaveSends m ply))
  unlisted : ∀ (σ : Type) (net : Network σ) (s : σ) (plyId : Nat),
    plyId ∉ m.players.map Player.mPlyID → m.sendPlayerLeaveMsg net plyId s = .ok (false, m, s)

def CarriesID (id : Block 32) (ply : Player) : Prop :=
  ply.mProfileInfo.sceneServerID.bytes = id.bytes ++ [0]

def AllCarry (m : PlayerManager) : Prop := ∀ ply ∈ m.players, CarriesID m.mSceneServerID ply

section Carry
variable {m m' : PlayerManager}

theorem carries_entrant (linkID : LinkID) (given : Given) :
    CarriesID m.mSceneServerID (m.entrant linkID given) := by
  have hsize := m.mSceneServerID.size_eq
  simp [CarriesID, entrant, Player.new, Player.setSceneServerID, Block.store, patch, Block.zeros, hsize]

theorem AllCarry.kept (h : AllCarry m) (hkept : Kept m m') : AllCarry m' := by
  intro ply' hply'
  obtain ⟨hlength, hget⟩ := List.forall₂_iff_get.mp hkept.players
  obtain ⟨⟨i, hi'⟩, rfl⟩ := List.mem_iff_get.mp hply'
  have hi : i < m.players.length := hlength ▸ hi'
  have hsame := hget i hi hi'
  have hcarries := h (m.players.get ⟨i, hi⟩) (List.get_mem _ _)
  unfold CarriesID at hcarries ⊢
  rw [hsame.sceneServerID, hkept.mSceneServerID]
  exact hcarries

variable {σ : Type} {net : Network σ} {z : Zlib}

theorem allCarry_step (server : PlayerManager × σ) (e : Event) (server' : PlayerManager × σ)
    (h : AllCarry server.1) (hstep : step net z server e = some server') : AllCarry server'.1 := by
  rcases step_players hstep with ⟨linkID, given, hplayers⟩ | ⟨plyId, hplayers⟩ | hkept
  · rw [hplayers]
    intro ply hply
    rcases List.mem_append.mp hply with hply | hply
    · exact h ply hply
    · rw [List.mem_singleton.mp hply]
      exact carries_entrant linkID given
  · rw [hplayers]
    intro ply hply
    exact h ply (List.mem_of_mem_eraseP hply)
  · exact h.kept hkept

end Carry

section Notice
variable {m : PlayerManager} {ply : Player}

theorem last_names (hcarry : AllCarry m) (hply : ply ∈ m.players) :
    (m.players.getLastD ply).mProfileInfo.sceneServerID.load 32 ++ [0] =
      ply.mProfileInfo.sceneServerID.bytes := by
  have hlast : m.players.getLastD ply ∈ m.players := by
    rw [List.getLastD_eq_getLast?, List.getLast?_eq_some_getLast (List.ne_nil_of_mem hply)]
    exact List.getLast_mem _
  have hsize := m.mSceneServerID.size_eq
  rw [Block.load, hcarry _ hlast, hcarry _ hply, List.take_left' hsize]

theorem notifies_of_allCarry (hnodup : (m.players.map Player.mPlyID).Nodup) (hcarry : AllCarry m) :
    Notifies m := by
  constructor
  · intro σ net s before after ply hplayers
    have hmem : ply ∈ m.players := by
      rw [hplayers]
      exact List.mem_append_right _ List.mem_cons_self
    rw [hplayers] at hnodup
    have hfind : m.findPlayer ply.mPlyID = some ply := by
      rw [findPlayer, hplayers]
      exact Roster.find_between hnodup
    have hdelete : m.deletePlayer ply.mPlyID = { m with players := before ++ after } := by
      rw [deletePlayer, hplayers, Roster.remove_between hnodup]
    unfold sendPlayerLeaveMsg
    simp only [hfind, hdelete]
    rw [sendCmdTo_eq (fits_int32 ply.mSeatNumber), ok_bind, last_names hcarry hmem]
    unfold leaveSends
    split_ifs
    · rw [Network.performAll_append]
      rfl
    · rfl
  · intro σ net s plyId hnot
    have hnone : m.findPlayer plyId = none := Roster.find_eq_none_of_notMem hnot
    unfold sendPlayerLeaveMsg
    simp only [hnone]
    rfl

end Notice

/-- Whatever messages a scene server has handled, it announces a leaving player
under its own seat and server. -/
theorem run_notifies {σ : Type} {net : Network σ} {z : Zlib} {flvSeqHeaderChange : Bool}
    {sceneServerID : Block 32} {s₀ : σ} {es : List Event} {server : PlayerManager × σ}
    (hrun : run (step net z) (PlayerManager.new flvSeqHeaderChange sceneServerID, s₀) es = some server)
    (hnodup : (server.1.players.map Player.mPlyID).Nodup) : Notifies server.1 :=
  notifies_of_allCarry hnodup (run_invariant allCarry_step hrun nofun)

theorem run_notifies_two : ∃ server, run (step Network.notebook Zlib.refusing)
    (PlayerManager.new false (Block.zeros 32), []) [entering 1, entering 2] = some server ∧
      Notifies server.1 :=
  ⟨_, rfl, @run_notifies _ Network.notebook Zlib.refusing false (Block.zeros 32) []
    [entering 1, entering 2] _ rfl (by decide)⟩

end HXService.LeaveNotice
