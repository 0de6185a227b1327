import HXService.Relay
import HXService.Upkeep

/-! What the servers send, by kind. The streams go out as big messages with the ids
of the stream; a scene server sends a command to the center server when a client asks
for one, and its clients get commands and news only from there. -/

namespace HXService
open Bytes

/-- Sends of the kind `L` leave `I` alone. -/
def Network.Keeps {σ : Type} (net : Network σ) (L : Sent → Prop) (I : σ → Prop) : Prop :=
  ∀ s sent, L sent → I s → I (net.perform s sent)

theorem Network.Keeps.mono {σ : Type} {net : Network σ} {L L' : Sent → Prop} {I : σ → Prop}
    (h : net.Keeps L' I) (hL : ∀ sent, L sent → L' sent) : net.Keeps L I :=
  fun s sent hsent => h s sent (hL sent hsent)

/-! ## Streams -/

def FilledAs (z : Zlib) (id : UInt16) (pkt : HXBigMessageQueue) : Prop :=
  ∃ q : HXBigMessageQueue, ∃ data : List UInt8, q.setBigPackage z id 0 data 0 = .ok pkt

def Streamed (z : Zlib) (pkt : HXBigMessageQueue) : Prop :=
  FilledAs z idFLVSequenceHeader pkt ∨ FilledAs z idFLVStream pkt

namespace Network.Keeps
variable {σ : Type} {net : Network σ} {L : Sent → Prop} {I : σ → Prop} {s : σ} {z : Zlib}

section Streams
variable (h : net.Keeps L I)
variable (hheader : ∀ linkID pkt, FilledAs z idFLVSequenceHeader pkt → L (.client linkID (.big pkt)))
include h hheader

theorem sendFlvSeqHeaders {linkID : LinkID} {pkt : HXBigMessageQueue} {datas : List (List UInt8)}
    {out : Bool × σ} (hout : HXService.sendFlvSeqHeaders net z linkID pkt s datas = .ok out)
    (hs : I s) : I out.2 := by
  induction datas generalizing pkt s with
  | nil =>
    obtain rfl := Except.ok.inj hout
    exact hs
  | cons data datas ih =>
    obtain ⟨pkt', hpkt, hout⟩ := bind_eq_ok.mp hout
    have hnext : I (net.send s linkID (.big pkt')).2 :=
      h s (.client linkID (.big pkt')) (hheader linkID pkt' ⟨pkt, data, hpkt⟩) hs
    dsimp only at hout
    split_ifs at hout
    · exact ih hout hnext
    · obtain rfl := Except.ok.inj hout
      exact hnext

theorem sendFlvHeadersTo {α : Type} {r : Receiving α} {m : FlvSeqHeaderMap} {change : Bool} {user : α}
    {out : α × Bool × σ} (hout : HXService.sendFlvHeadersTo net z r m change s user = .ok out)
    (hs : I s) : I out.2.2 := by
  unfold HXService.sendFlvHeadersTo sendFlvSeqHeaderData at hout
  split_ifs at hout
  · obtain ⟨sent, hsent, hout⟩ := bind_eq_ok.mp hout
    have hnext : I sent.2 := h.sendFlvSeqHeaders hheader hsent hs
    rw [← Except.ok.inj hout]
    exact hnext
  · rw [← Except.ok.inj hout]
    exact hs

theorem sendFlvStreamTo {α : Type} {r : Receiving α} {m : FlvSeqHeaderMap}
    {before : Nat → α → List Outgoing} {pkt : HXBigMessageQueue} {i : Nat} {change : Bool}
    {users : List α} {out : List α × Bool × σ} (hpkt : ∀ linkID, L (.client linkID (.big pkt)))
    (hbefore : ∀ i user, ∀ msg ∈ before i user, ∀ linkID, L (.client linkID msg))
    (hout : HXService.sendFlvStreamTo net z r m before pkt i change s users = .ok out) (hs : I s) :
    I out.2.2 := by
  have hmsgs : ∀ (linkID : LinkID) (msgs : List Outgoing), (∀ msg ∈ msgs, L (.client linkID msg)) →
      ∀ s, I s → I (msgs.foldl (fun s msg => (net.send s linkID msg).2) s) := by
    intro linkID msgs
    induction msgs with
    | nil => exact fun _ _ hs => hs
    | cons msg msgs ih =>
      intro hlocal s hs
      refine ih (fun msg hmsg => hlocal msg (List.mem_cons_of_mem _ hmsg)) _ ?_
      exact h s (.client linkID msg) (hlocal msg List.mem_cons_self) hs
  induction users generalizing i change s out with
  | nil =>
    obtain rfl := Except.ok.inj hout
    exact hs
  | cons user rest ih =>
    unfold HXService.sendFlvStreamTo at hout
    split_ifs at hout
    · obtain ⟨out', hout', hout⟩ := bind_eq_ok.mp hout
      have hrest : I out'.2.2 := ih hout' hs
      rw [← Except.ok.inj hout]
      exact hrest
    · obtain ⟨headers, hheaders, hout⟩ := bind_eq_ok.mp hout
      obtain ⟨out', hout', hout⟩ := bind_eq_ok.mp hout
      have hafter : I headers.2.2 := h.sendFlvHeadersTo hheader hheaders hs
      have hrest : I out'.2.2 := by
        refine ih hout' (hmsgs _ _ ?_ _ hafter)
        intro msg hmsg
        rcases List.mem_append.mp hmsg with hmsg | hmsg
        · exact hbefore i user msg hmsg _
        · rw [List.mem_singleton.mp hmsg]
          exact hpkt _
      rw [← Except.ok.inj hout]
      exact hrest

end Streams
end Network.Keeps

/-! ## Local sends of a scene server -/

/-- No command to the center server and, to a client, neither a command nor news nor a
stream. -/
def IsLocal : Sent → Prop
  | .client _ (.package p) => p.header.id ∈ [idUserNotify, idUserLogin, idUserTransform, idError]
  | .client _ (.big _) => False
  | .client _ (.data _ _ _) => False
  | .center id id2 _ =>
    ¬(id = idGlobalNotify ∧ id2 ∈ [s2cBeginFlying, s2cPlayVideo, s2cStandUp, s2cWalk])

namespace Network.Keeps
variable {σ : Type} {net : Network σ} {I : σ → Prop} {s : σ}
variable (h : net.Keeps IsLocal I)
include h

theorem sendCmd {linkID : LinkID} {msgID cmdID : UInt16} {data : List UInt8} {out : Bool × σ}
    (hid : msgID ∈ [idUserNotify, idUserLogin, idUserTransform, idError])
    (hout : PlayerManager.sendCmd net linkID msgID cmdID data s = .ok out) (hs : I s) : I out.2 := by
  unfold PlayerManager.sendCmd cmdPackage at hout
  split_ifs at hout with hfits
  · obtain rfl := Except.ok.inj hout
    exact h s (.client linkID (.package _)) hid hs
  · cases hout

theorem sendCmdTo {players : List Player} {msgID cmdID : UInt16} {data : List UInt8} {s' : σ}
    (hid : msgID ∈ [idUserNotify, idUserLogin, idUserTransform, idError])
    (hout : PlayerManager.sendCmdTo net players msgID cmdID data s = .ok s') (hs : I s) : I s' := by
  induction players generalizing s with
  | nil =>
    obtain rfl := Except.ok.inj hout
    exact hs
  | cons ply players ih =>
    rw [PlayerManager.sendCmdTo, List.foldlM_cons] at hout
    obtain ⟨s₁, hfirst, hout⟩ := bind_eq_ok.mp hout
    obtain ⟨sent, hsent, hfirst⟩ := bind_eq_ok.mp hfirst
    obtain rfl := Except.ok.inj hfirst
    exact ih hout (h.sendCmd hid hsent hs)

theorem sendCenter {id id2 : UInt16} (bytes : List UInt8)
    (hid : ¬(id = idGlobalNotify ∧ id2 ∈ [s2cBeginFlying, s2cPlayVideo, s2cStandUp, s2cWalk]))
    (hs : I s) : I (net.sendCenter s id id2 bytes).2 :=
  h s (.center id id2 bytes) hid hs

theorem sendClientListToCenterServer (m : PlayerManager) (hs : I s) :
    I (m.sendClientListToCenterServer net s) := by
  unfold PlayerManager.sendClientListToCenterServer
  dsimp only
  split_ifs
  · exact hs
  · exact h.sendCenter _ (by decide) hs

theorem asks (m : PlayerManager) (hs : I s) :
    I (net.sendCenter (m.sendClientListToCenterServer net s) idGlobalNotify s2sReqUsrList []).2 :=
  h.sendCenter _ (by decide) (h.sendClientListToCenterServer m hs)

theorem broadcastUserState {m : PlayerManager} {plyId : Nat} {userState : Int32} {s' : σ}
    (hout : m.broadcastUserState net plyId idUserLogin userState s = .ok s') (hs : I s) : I s' := by
  unfold PlayerManager.broadcastUserState at hout
  cases hply : m.findPlayer plyId with
  | none =>
    rw [hply] at hout
    obtain rfl := Except.ok.inj hout
    exact hs
  | some ply =>
    simp only [hply] at hout
    split_ifs at hout
    · obtain rfl := Except.ok.inj hout
      exact hs
    · obtain ⟨s₁, hsent, hout⟩ := bind_eq_ok.mp hout
      obtain rfl := Except.ok.inj hout
      exact h.sendCenter _ (by decide) (h.sendCmdTo (by decide) hsent hs)
    · obtain ⟨s₁, hsent, hout⟩ := bind_eq_ok.mp hout
      obtain rfl := Except.ok.inj hout
      exact h.sendCmdTo (by decide) hsent hs

open SceneServer in
theorem sceneNotify {m : PlayerManager} {pack : HXMessagePackage} {out : PlayerManager × σ}
    (hcmd : pack.header.id2 ∉ [c2sBeginFlying, c2sPlayVideo, c2sStandUp, c2sWalk])
    (hout : handleGlobalNotify net m pack s = .ok out) (hs : I s) : I out.2 := by
  unfold handleGlobalNotify at hout
  simp only [List.mem_cons, List.not_mem_nil, or_false, not_or] at hcmd
  simp only [hcmd.1, hcmd.2.1, hcmd.2.2.1, hcmd.2.2.2, if_false] at hout
  split_ifs at hout
  · obtain ⟨s', hsent, hout⟩ := bind_eq_ok.mp hout
    rw [← Except.ok.inj hout]
    exact h.broadcastUserState hsent hs
  · obtain ⟨s', hsent, hout⟩ := bind_eq_ok.mp hout
    rw [← Except.ok.inj hout]
    exact h.broadcastUserState hsent hs
  · rw [← Except.ok.inj hout]
    exact h.asks _ hs
  · rw [← Except.ok.inj hout]
    exact hs

open SceneServer in
theorem tellSeatNum {m : PlayerManager} {pack : HXMessagePackage} {out : PlayerManager × σ}
    (hout : handleTellSeatNum net m pack s = .ok out) (hs : I s) : I out.2 := by
  obtain ⟨seatNum, -, hout⟩ := bind_eq_ok.mp hout
  obtain ⟨s', htold, hout⟩ := bind_eq_ok.mp hout
  have hs' : I s' := by
    split_ifs at htold
    · exact h.broadcastUserState htold hs
    · rw [← Except.ok.inj htold]
      exact hs
  rw [← Except.ok.inj hout]
  dsimp only
  split_ifs
  · exact h.asks _ hs'
  · exact hs'

open SceneServer in
theorem userProfile {m : PlayerManager} {pack : HXMessagePackage} {given : Given}
    {out : PlayerManager × σ} (hout : handleTellUserProfile net m pack given s = .ok out) (hs : I s) :
    I out.2 := by
  obtain ⟨bound, hbound, hout⟩ := bind_eq_ok.mp hout
  obtain ⟨s', hsent, hout⟩ := bind_eq_ok.mp hout
  rw [← Except.ok.inj hout]
  refine h.broadcastUserState hsent ?_
  unfold PlayerManager.bindFaceModeWithSeatNumber at hbound
  cases hfree : m.getFreePlayer with
  | none =>
    rw [hfree] at hbound
    obtain ⟨sent, hsent, hbound⟩ := bind_eq_ok.mp hbound
    rw [← Except.ok.inj hbound]
    exact h.sendCmd (by decide) hsent hs
  | some ply =>
    rw [hfree] at hbound
    obtain ⟨sent, hsent, hbound⟩ := bind_eq_ok.mp hbound
    obtain ⟨faceModel, -, hbound⟩ := bind_eq_ok.mp hbound
    rw [← Except.ok.inj hbound]
    exact h.sendCmd (by decide) hsent hs

open SceneServer in
theorem userLogin {m : PlayerManager} {pack : HXMessagePackage} {given : Given} {out : PlayerManager × σ}
    (hout : handleUserLogin net m pack given s = .ok out) (hs : I s) : I out.2 := by
  unfold handleUserLogin at hout
  dsimp only at hout
  split_ifs at hout
  · exact h.tellSeatNum hout hs
  · obtain ⟨userType, -, hout⟩ := bind_eq_ok.mp hout
    rw [← Except.ok.inj hout]
    exact hs
  · exact h.userProfile hout hs
  · obtain ⟨seatNum, -, hout⟩ := bind_eq_ok.mp hout
    obtain ⟨s', hsent, hout⟩ := bind_eq_ok.mp hout
    rw [← Except.ok.inj hout]
    unfold PlayerManager.sendUserReadyMsg at hsent
    cases hply : m.findPlayerBySeatNumber (int32OfBytes seatNum.bytes) with
    | none =>
      rw [hply] at hsent
      rw [← Except.ok.inj hsent]
      exact hs
    | some ply =>
      simp only [hply] at hsent
      split_ifs at hsent
      · rw [← Except.ok.inj hsent]
        exact hs
      · exact h.sendCmdTo (by decide) hsent hs
  · rw [← Except.ok.inj hout]
    exact hs

end Network.Keeps

/-! ## What clients ask for -/

namespace SceneServer
open PlayerManager

/-- The command that a client asks a scene server to pass on to everybody. -/
def asked (pack : HXMessagePackage) : Option UInt16 :=
  if pack.header.id ≠ idGlobalNotify then none
  else if pack.header.id2 = c2sBeginFlying then some s2cBeginFlying
  else if pack.header.id2 = c2sPlayVideo then some s2cPlayVideo
  else if pack.header.id2 = c2sStandUp then some s2cStandUp
  else if pack.header.id2 = c2sWalk then some s2cWalk
  else none

variable {σ : Type} {net : Network σ} {m : PlayerManager} {pack : HXMessagePackage} {given : Given}
variable {s : σ} {out : PlayerManager × σ} {cmd : UInt16}

theorem mem_commands (h : asked pack = some cmd) :
    cmd ∈ [s2cBeginFlying, s2cPlayVideo, s2cStandUp, s2cWalk] := by
  unfold asked at h
  split_ifs at h <;> obtain rfl := Option.some.inj h <;> decide

theorem handle_asked (h : asked pack = some cmd) :
    handle net m pack given s = .ok (m, (net.sendCenter s idGlobalNotify cmd []).2) := by
  unfold asked at h
  split_ifs at h with hid hfly hplay hstand hwalk <;> obtain rfl := Option.some.inj h <;>
    rw [handle_globalNotify (not_not.mp hid), handleGlobalNotify]
  · rw [hfly]
    rfl
  · rw [hplay]
    rfl
  · rw [hstand]
    rfl
  · rw [hwalk]
    rfl

end SceneServer

namespace Network.Keeps
variable {σ : Type} {net : Network σ} {I : σ → Prop} {s : σ}
variable (h : net.Keeps IsLocal I)
include h

open SceneServer in
theorem sceneHandle {m : PlayerManager} {pack : HXMessagePackage} {given : Given}
    {out : PlayerManager × σ} (hnone : asked pack = none) (hout : handle net m pack given s = .ok out)
    (hs : I s) : I out.2 := by
  unfold handle at hout
  dsimp only at hout
  split_ifs at hout with hconnect hdisconnect hnotify
  · obtain ⟨s', hsent, hout⟩ := bind_eq_ok.mp hout
    rw [← Except.ok.inj hout]
    unfold PlayerManager.sendClientList at hsent
    dsimp only at hsent
    split_ifs at hsent
    · rw [← Except.ok.inj hsent]
      exact hs
    · obtain ⟨sent, hsent, hrest⟩ := bind_eq_ok.mp hsent
      rw [← Except.ok.inj hrest]
      exact h.sendCmd (by decide) hsent hs
  · obtain ⟨left, hleft, hout⟩ := bind_eq_ok.mp hout
    rw [← Except.ok.inj hout]
    unfold PlayerManager.sendPlayerLeaveMsg at hleft
    cases hply : m.findPlayer pack.mLinkid.sid.toNat with
    | none =>
      rw [hply] at hleft
      rw [← Except.ok.inj hleft]
      exact hs
    | some ply =>
      rw [hply] at hleft
      obtain ⟨s', hsent, hleft⟩ := bind_eq_ok.mp hleft
      rw [← Except.ok.inj hleft]
      have hs' : I s' := h.sendCmdTo (by decide) hsent hs
      dsimp only
      split_ifs
      · exact h.sendCenter _ (by decide) hs'
      · exact hs'
  · refine h.sceneNotify ?_ hout hs
    intro hmem
    simp only [List.mem_cons, List.not_mem_nil, or_false] at hmem
    unfold asked at hnone
    rw [if_neg (not_not.mpr hnotify)] at hnone
    rcases hmem with hcmd | hcmd | hcmd | hcmd <;> rw [hcmd] at hnone <;> cases hnone
  · exact h.userLogin hout hs
  · obtain ⟨transInfo, -, hout⟩ := bind_eq_ok.mp hout
    rw [← Except.ok.inj hout]
    exact hs
  · rw [← Except.ok.inj hout]
    exact hs

open SvcTimer in
theorem tick {m : PlayerManager} {out : PlayerManager × σ} (hout : handler net m s = .ok out)
    (hs : I s) : I out.2 := by
  obtain ⟨gathered, -, hout⟩ := bind_eq_ok.mp hout
  dsimp only at hout
  split_ifs at hout
  · obtain ⟨s', hsent, hout⟩ := bind_eq_ok.mp hout
    rw [← Except.ok.inj hout]
    exact h.sendCenter _ (by decide) (h.sendCmdTo (by decide) hsent hs)
  · obtain ⟨s', hsent, hout⟩ := bind_eq_ok.mp hout
    rw [← Except.ok.inj hout]
    exact h.sendCmdTo (by decide) hsent hs
  · rw [← Except.ok.inj hout]
    exact hs

end Network.Keeps

/-! ## Messages of the center server -/

/-- No package to a client, and no command to the center server. -/
def IsUnheard : Sent → Prop
  | .client _ (.package _) => False
  | .client _ (.big _) => True
  | .client _ (.data _ _ _) => True
  | .center id id2 _ =>
    ¬(id = idGlobalNotify ∧ id2 ∈ [s2cBeginFlying, s2cPlayVideo, s2cStandUp, s2cWalk])

namespace Network.Keeps
variable {σ : Type} {net : Network σ} {I : σ → Prop} {s : σ}

theorem sendFlvPackage (h : net.Keeps IsUnheard I) {z : Zlib} {m : PlayerManager}
    {pkt : HXBigMessageQueue} {out : PlayerManager × σ} (hout : m.sendFlvPackage net z pkt s = .ok out)
    (hs : I s) : I out.2 := by
  obtain ⟨sent, hsent, hout⟩ := bind_eq_ok.mp hout
  have hnext : I sent.2.2 := h.sendFlvStreamTo (fun _ _ _ => trivial) (fun _ => trivial)
    (by simp) hsent hs
  rw [← Except.ok.inj hout]
  exact hnext

open SceneServer CrossScene in
theorem sceneHandleCenter (h : net.Keeps IsUnheard I) {z : Zlib} {m : PlayerManager}
    {pack : HXMessagePackage} {out : PlayerManager × σ} (hcmd : ¬IsCommand pack) (hnews : ¬IsNews pack)
    (hout : handleCenter net z m pack s = .ok out) (hs : I s) : I out.2 := by
  unfold handleCenter handleCenterNotify at hout
  dsimp only at hout
  split_ifs at hout with hid hcommand hexternal hrequest hlogin hstate htransform hheader hstream
  · exact absurd ⟨hid, hcommand⟩ hcmd
  · exact absurd (Or.inl ⟨hid, hexternal⟩) hnews
  · rw [← Except.ok.inj hout]
    unfold PlayerManager.sendClientListToCenterServer
    dsimp only
    split_ifs
    · exact hs
    · have hlist : s2cClientListExternal ∉ [s2cBeginFlying, s2cPlayVideo, s2cStandUp, s2cWalk] := by
        decide
      exact h s (.center _ _ _) (fun hcommand => hlist hcommand.2) hs
  · rw [← Except.ok.inj hout]
    exact hs
  · exact absurd (Or.inr (Or.inl ⟨hlogin, hstate⟩)) hnews
  · rw [← Except.ok.inj hout]
    exact hs
  · exact absurd (Or.inr (Or.inr htransform)) hnews
  · obtain ⟨data, -, hout⟩ := bind_eq_ok.mp hout
    rw [← Except.ok.inj hout]
    exact hs
  · obtain ⟨pkt, -, hout⟩ := bind_eq_ok.mp hout
    exact h.sendFlvPackage hout hs
  · obtain ⟨data, -, hout⟩ := bind_eq_ok.mp hout
    obtain ⟨pkt, -, hout⟩ := bind_eq_ok.mp hout
    exact h.sendFlvPackage hout hs
  · rw [← Except.ok.inj hout]
    exact hs

end Network.Keeps
end HXService
