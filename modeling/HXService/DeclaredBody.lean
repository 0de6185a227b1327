import HXService.Lib.Doubles
import HXService.Delivery
import HXService.Faults

/-! How far the handlers look at the body of a message: two packages that differ
only behind the declared body are handled alike as long as it is as long as what
the handler reads of it. -/

namespace HXService.DeclaredBody
open Bytes HXMessagePackage StreamTrailer

/-! ## Packages with one declared body -/

/-- The declared body lies in the array `body()` points to. -/
def Received (p : HXMessagePackage) : Prop := p.bodyLength ≤ p.body.length

/-- Both stand in the read buffer or both are reassembled, from one sender, with
one header and one declared body. -/
structure SameDeclared (p p' : HXMessagePackage) : Prop where
  mLinkid : p'.mLinkid = p.mLinkid
  header : p'.header = p.header
  reassembled : p'.bigDataPointer.isSome = p.bigDataPointer.isSome
  bodyBytes : p'.bodyBytes = p.bodyBytes

/-- The same outcome, and none that comes from a place outside an array. -/
def Same {α : Type} (x y : Checked α) : Prop := x = y ∧ Inside x

-- what leaves of a package is its frame
def SendsFrames {σ : Type} (net : Network σ) : Prop := ∀ s linkID p p', p.frame = p'.frame →
  net.send s linkID (.package p) = net.send s linkID (.package p')

-- the server, had earlier messages left something else in `read_msg_`
def leftOver (s : HXLibAsioServer) (link : SessionPtr) (readMsg : HXMessagePackage) : HXLibAsioServer :=
  s.modifySession link ({ · with readMsg })

inductive Handler
  | sceneClients
  | sceneCenter
  | center
  | readBody

/-- Only the sender, the header and the declared body of `p` tell in the state of
the manager and in what is sent, the answer to a heartbeat included. -/
def OnlyDeclared (p : HXMessagePackage) : Handler → Prop
  | .sceneClients => ∀ p', SameDeclared p p' → ∀ (σ : Type) (net : Network σ), SendsFrames net →
      ∀ m given s, Same (SceneServer.handle net m p given s) (SceneServer.handle net m p' given s)
  | .sceneCenter => ∀ p', SameDeclared p p' → ∀ (σ : Type) (net : Network σ), SendsFrames net →
      ∀ z m s, Same (SceneServer.handleCenter net z m p s) (SceneServer.handleCenter net z m p' s)
  | .center => ∀ p', SameDeclared p p' → ∀ (σ : Type) (net : Network σ), SendsFrames net →
      ∀ z m given s, Same (CenterServer.handle net z m p given s) (CenterServer.handle net z m p' given s)
  | .readBody => p.bigDataPointer = none → ∀ p', SameDeclared p p' →
      ∀ z s link readMsg body (h : body.length ≤ maxBodyLength), (s.mSessions link).received body h = p →
        ((leftOver s link readMsg).mSessions link).received body h = p' →
      ∀ t t', s.handleReadBody z link (some body) = .ok t →
        (leftOver s link readMsg).handleReadBody z link (some body) = .ok t' →
      ∀ q, (t'.mSessions q).writeMsgs = (t.mSessions q).writeMsgs

/-! ## What the handlers use -/

/-- How many bytes behind `body()` are used. Into a transform message the center
server only writes, for which `data_` has room. -/
def reach (p : HXMessagePackage) : Handler → Nat
  | .sceneClients =>
    if p.header.id = idUserLogin then
      if p.header.id2 ∈ [c2sTellSeatNum, c2sTellUserType, c2sTellReady] then 4
      else if p.header.id2 = c2sTellUserProfile then faceModelSize else 0
    else if p.header.id = idUserTransform then TransformInfo.size - 1 else 0
  | .sceneCenter => 0
  | .center =>
    if p.header.id = idUserTransform then if p.bigDataPointer.isSome then 4 else 0
    else if p.header.id = idFLVStreamReback then 8
    else if p.header.id = idFLVStream then
      -- the trailer of a short body begins in the header or the link in front of it
      if p.bigDataPointer.isSome then FlvStreamReback.size else FlvStreamReback.size - 12
    else 0
  | .readBody => if p.header.id = idHeartbeat ∧ p.bigDataPointer = none then 8 else 0

/-- The messages that are passed on as they are. -/
def PassedOn (p : HXMessagePackage) : Handler → Prop
  | .sceneClients | .readBody => False
  | .sceneCenter =>
    p.header.id = idGlobalNotify ∧ p.header.id2 ∈ [s2cClientListExternal, s2cUserLeaveExternal] ∨
      p.header.id = idUserLogin ∧ p.header.id2 = s2cUpdUserState ∨ p.header.id = idGlobalTransform
  | .center =>
    p.header.id = idGlobalNotify ∧ p.header.id2 ∈ [s2cBeginFlying, s2cPlayVideo, s2cStandUp, s2cWalk,
      s2cClientListExternal, s2cUserLeaveExternal, s2sReqUsrList] ∨
      p.header.id = idUserLogin ∧ p.header.id2 = s2cUpdUserState ∨ p.header.id = idGlobalTransform

structure Covered (p : HXMessagePackage) (h : Handler) : Prop where
  reach_le : reach p h ≤ p.bodyLength
  inline : PassedOn p h → p.bigDataPointer.isSome → p.bodyLength = 0

section Alike
variable {p p' : HXMessagePackage} {n : Nat}

theorem same_of_returns {α : Type} {x : Checked α} (h : Returns x) : Same x x := ⟨rfl, h.inside⟩

theorem Same.bind {α β : Type} {x y : Checked α} {f g : α → Checked β} (h : Same x y)
    (hf : ∀ a, x = .ok a → Same (f a) (g a)) : Same (x >>= f) (y >>= g) := by
  obtain ⟨rfl, hinside⟩ := h
  refine ⟨?_, ?_⟩
  · cases x with
    | error e => rfl
    | ok a => exact (hf a rfl).1
  · exact hinside.bind fun a ha => (hf a ha).2

theorem SameDeclared.bodyLength (h : SameDeclared p p') : p'.bodyLength = p.bodyLength := by
  rw [HXMessagePackage.bodyLength, h.header]
  rfl

theorem SameDeclared.pointer_eq (h : SameDeclared p p') (hp : p.bigDataPointer = none) :
    p'.bigDataPointer = none := by
  have hnone := h.reassembled
  rw [hp] at hnone
  simpa using hnone

theorem bodyBlock_eq (hr : Received p) (hn : n ≤ p.bodyLength) :
    ∃ b : Block n, bodyBlock p n = .ok b ∧ b.bytes = p.bodyBytes.take n := by
  unfold bodyBlock
  rw [dif_pos (hn.trans hr)]
  refine ⟨_, rfl, ?_⟩
  rw [HXMessagePackage.bodyBytes, List.take_take, Nat.min_eq_left hn]

theorem SameDeclared.received (h : SameDeclared p p') (hr : Received p) : Received p' := by
  have hlength := congrArg List.length h.bodyBytes
  unfold Received at *
  simp only [HXMessagePackage.bodyBytes, List.length_take, h.bodyLength] at hlength ⊢
  omega

theorem bodyBlock_same (h : SameDeclared p p') (hr : Received p) (hn : n ≤ p.bodyLength) :
    Same (bodyBlock p n) (bodyBlock p' n) := by
  obtain ⟨b, hb, hbytes⟩ := bodyBlock_eq hr hn
  obtain ⟨b', hb', hbytes'⟩ := bodyBlock_eq (h.received hr) (hn.trans h.bodyLength.ge)
  have heq : b = b' := by
    cases b
    cases b'
    simp only [Block.mk.injEq]
    exact hbytes.trans ((congrArg _ h.bodyBytes.symm).trans hbytes'.symm)
  refine ⟨?_, ?_⟩
  · rw [hb, hb', heq]
  · exact Returns.inside ⟨b, hb⟩

theorem bodyData_same (h : SameDeclared p p') (hr : Received p) : Same (bodyData p) (bodyData p') := by
  unfold bodyData
  rw [h.header, h.bodyLength]
  split_ifs
  · exact same_of_returns (returns_pure _)
  · apply (bodyBlock_same h hr le_rfl).bind
    intro _ _
    exact same_of_returns (returns_pure _)

theorem lowest_same (h : SameDeclared p p') : lowest p' = lowest p := by
  rw [lowest, lowest, h.reassembled]

theorem memoryOf_same (h : SameDeclared p p') (hr : Received p) {a : Int} (ha : a < p.bodyLength) :
    memoryOf p' a = memoryOf p a := by
  have hr' := h.received hr
  unfold Received at hr hr'
  rw [h.bodyLength] at hr'
  unfold memoryOf
  rw [h.mLinkid, h.header]
  by_cases hfront : a < 0
  · have hout (mem : Memory) (bs : List UInt8) : mem.store 0 bs a = mem a := Memory.store_outside (by omega)
    rw [hout, hout]
  · have hin (mem : Memory) (bs : List UInt8) (hbs : p.bodyLength ≤ bs.length) :
        mem.store 0 bs a = bs[a.toNat]?.getD 0 := by
      rw [Memory.store, if_pos ⟨not_lt.mp hfront, by omega⟩, Int.sub_zero, List.getD_eq_getElem?_getD]
    have hbyte := congrArg (fun bs => bs[a.toNat]?) h.bodyBytes
    simp only [HXMessagePackage.bodyBytes, h.bodyLength] at hbyte
    rw [List.getElem?_take_of_lt (by omega), List.getElem?_take_of_lt (by omega)] at hbyte
    rw [hin _ _ hr', hin _ _ hr, hbyte]

theorem frame_same (h : SameDeclared p p') (hinline : p.bigDataPointer.isSome → p.bodyLength = 0) :
    p'.frame = p.frame := by
  unfold HXMessagePackage.frame
  rw [h.header, h.bodyLength]
  cases hp : p.bigDataPointer with
  | none =>
    have hbytes := h.bodyBytes
    rw [bodyBytes_of_none hp, bodyBytes_of_none (h.pointer_eq hp), h.bodyLength] at hbytes
    rw [hbytes]
  | some d =>
    rw [hinline (by simp [hp])]
    simp [Block.load]

theorem sendEach_same {σ : Type} {net : Network σ} (hnet : SendsFrames net) (hframe : p'.frame = p.frame)
    (links : List LinkID) (s : σ) :
    net.sendEach (.package p') links s = net.sendEach (.package p) links s := by
  induction links generalizing s with
  | nil => rfl
  | cons linkID links ih =>
    unfold Network.sendEach at *
    simp only [List.foldl_cons, hnet s linkID _ _ hframe]
    apply ih

end Alike

section Sufficient
variable {p p' : HXMessagePackage} {σ : Type} {net : Network σ} {z : Zlib} {s : σ}

theorem handleTellSeatNum_same (h : SameDeclared p p') (hr : Received p) (hlen : 4 ≤ p.bodyLength)
    (m : PlayerManager) :
    Same (SceneServer.handleTellSeatNum net m p s) (SceneServer.handleTellSeatNum net m p' s) := by
  have hreturns := (bodyBlock_eq hr hlen).imp fun _ hb => hb.1
  refine ⟨?_, (SceneServer.returns_handleTellSeatNum hreturns).inside⟩
  unfold SceneServer.handleTellSeatNum
  rw [h.mLinkid, (bodyBlock_same h hr hlen).1]

theorem handleTellUserProfile_same (h : SameDeclared p p') (hr : Received p)
    (hlen : faceModelSize ≤ p.bodyLength) (m : PlayerManager) (given : SceneServer.Given) :
    Same (SceneServer.handleTellUserProfile net m p given s)
      (SceneServer.handleTellUserProfile net m p' given s) := by
  have hreturns := (bodyBlock_eq hr hlen).imp fun _ hb => hb.1
  refine ⟨?_, (SceneServer.returns_handleTellUserProfile hreturns).inside⟩
  unfold SceneServer.handleTellUserProfile
  rw [h.mLinkid, (bodyBlock_same h hr hlen).1]

theorem handleUserLogin_same (h : SameDeclared p p') (hr : Received p)
    (hid : p.header.id = idUserLogin) (hreach : reach p .sceneClients ≤ p.bodyLength)
    (m : PlayerManager) (given : SceneServer.Given) :
    Same (SceneServer.handleUserLogin net m p given s)
      (SceneServer.handleUserLogin net m p' given s) := by
  unfold reach at hreach
  dsimp only at hreach
  rw [if_pos hid] at hreach
  unfold SceneServer.handleUserLogin
  rw [h.header, h.mLinkid]
  dsimp only
  split_ifs with h1 h2 h3 h4
  · rw [if_pos (by simp [h1])] at hreach
    exact handleTellSeatNum_same h hr hreach m
  · rw [if_pos (by simp [h2])] at hreach
    apply (bodyBlock_same h hr hreach).bind
    intro _ _
    apply same_of_returns
    apply returns_pure
  · rw [if_neg (by simp [h3, c2sTellUserProfile, c2sTellSeatNum, c2sTellUserType, c2sTellReady]),
      if_pos h3] at hreach
    exact handleTellUserProfile_same h hr hreach m given
  · rw [if_pos (by simp [h4])] at hreach
    apply (bodyBlock_same h hr hreach).bind
    intro seatNum _
    apply same_of_returns
    apply Returns.bind
    · apply PlayerManager.returns_sendUserReadyMsg
    · intro _ _
      apply returns_pure
  · apply same_of_returns
    apply returns_pure

theorem sceneClients_same (h : SameDeclared p p') (hr : Received p) (hc : Covered p .sceneClients)
    (m : PlayerManager) (given : SceneServer.Given) :
    Same (SceneServer.handle net m p given s) (SceneServer.handle net m p' given s) := by
  have hreach := hc.reach_le
  have hnotify : SceneServer.handleGlobalNotify net m p' s =
      SceneServer.handleGlobalNotify net m p s := by
    unfold SceneServer.handleGlobalNotify
    rw [h.header, h.mLinkid]
  unfold SceneServer.handle
  rw [h.header, h.mLinkid, hnotify]
  dsimp only
  split_ifs with h1 h2 h3 h4 h5
  · exact same_of_returns SceneServer.returns_handleConnect
  · apply same_of_returns
    apply Returns.bind
    · apply PlayerManager.returns_sendPlayerLeaveMsg
    · intro _ _
      apply returns_pure
  · exact same_of_returns SceneServer.returns_handleGlobalNotify
  · exact handleUserLogin_same h hr h4 hreach m given
  · unfold reach at hreach
    dsimp only at hreach
    rw [if_neg h4, if_pos h5] at hreach
    apply (bodyBlock_same h hr hreach).bind
    intro _ _
    apply same_of_returns
    apply returns_pure
  · apply same_of_returns
    apply returns_pure

theorem sceneCenter_same (hnet : SendsFrames net) (h : SameDeclared p p') (hr : Received p)
    (hc : Covered p .sceneCenter) (m : PlayerManager) :
    Same (SceneServer.handleCenter net z m p s) (SceneServer.handleCenter net z m p' s) := by
  have hsend (hpassed : PassedOn p .sceneCenter) :
      (m.sendMsg net p' s).2 = (m.sendMsg net p s).2 :=
    sendEach_same hnet (frame_same h (hc.inline hpassed)) _ s
  unfold SceneServer.handleCenter SceneServer.handleCenterNotify PlayerManager.broadcastExternalUserState
  rw [h.header, h.bodyLength]
  dsimp only
  split_ifs with h1 h2 h3 h4 h5 h6 h7 h8 h9 h10
  · apply same_of_returns
    apply Returns.bind
    · apply PlayerManager.returns_broadcastControlCmd
    · intro _ _
      apply returns_pure
  · rw [hsend (Or.inl ⟨h1, h3⟩)]
    exact same_of_returns (returns_pure _)
  · exact same_of_returns (returns_pure _)
  · exact same_of_returns (returns_pure _)
  · rw [hsend (Or.inr (Or.inl ⟨h5, h6⟩))]
    exact same_of_returns (returns_pure _)
  · exact same_of_returns (returns_pure _)
  · rw [hsend (Or.inr (Or.inr h7))]
    exact same_of_returns (returns_pure _)
  · apply (bodyData_same h hr).bind
    intro _ _
    exact same_of_returns (returns_pure _)
  · exact ⟨rfl, m.inside_sendFlvStreamBelow p.header.length s⟩
  · apply (bodyBlock_same h hr le_rfl).bind
    intro data _
    exact ⟨rfl, m.inside_sendFlvStream data.bytes s⟩
  · exact same_of_returns (returns_pure _)

theorem reach_stream (hid : p.header.id = idFLVStream) :
    reach p .center ≤ p.bodyLength ↔ ¬trailerAt p.bodyLength < lowest p := by
  have hsize : FlvStreamReback.size = 40 := rfl
  have hne : idFLVStream ≠ idUserTransform ∧ idFLVStream ≠ idFLVStreamReback := by decide
  unfold reach trailerAt lowest
  dsimp only
  rw [hid, if_neg hne.1, if_neg hne.2, if_pos rfl]
  split_ifs <;> omega

theorem handleFlvStream_same (h : SameDeclared p p') (hr : Received p) (hid : p.header.id = idFLVStream)
    (hreach : reach p .center ≤ p.bodyLength) (m : UserManager) (given : CenterServer.Given) :
    Same (CenterServer.handleFlvStream net z m p given s)
      (CenterServer.handleFlvStream net z m p' given s) := by
  have hlow := (reach_stream hid).mp hreach
  have hagree (a : Int) (_ : lowest p ≤ a) (ha : a < p.bodyLength) := memoryOf_same h hr ha
  unfold CenterServer.handleFlvStream
  rw [h.mLinkid, h.bodyLength, lowest_same h]
  apply (bodyBlock_same h hr le_rfl).bind
  intro _ _
  rw [if_neg hlow, if_neg hlow]
  dsimp only
  rw [trailer_congr hagree (not_lt.mp hlow),
    UserManager.sendFlvStream_congr hagree (not_lt.mp hlow) (lowest_nonpos p)]
  refine ⟨rfl, ?_⟩
  apply UserManager.inside_sendFlvStream

theorem userTransform_same (h : SameDeclared p p') (hr : Received p)
    (hlen : p.bigDataPointer.isSome → 4 ≤ p.bodyLength) {α : Type} (a : α) :
    Same (bodyBlock p 4 >>= fun _ => (pure a : Checked α)) (bodyBlock p' 4 >>= fun _ => pure a) := by
  cases hp : p.bigDataPointer with
  | none =>
    have hroom (q : HXMessagePackage) (hq : q.bigDataPointer = none) :
        (bodyBlock q 4 >>= fun _ => (pure a : Checked α)) = pure a := by
      have hfit : 4 ≤ q.body.length := by
        rw [HXMessagePackage.body, hq, Option.getD_none, q.data.size_eq]
        decide
      rw [bodyBlock, dif_pos hfit]
      rfl
    rw [hroom p hp, hroom p' (h.pointer_eq hp)]
    exact same_of_returns (returns_pure _)
  | some d =>
    apply (bodyBlock_same h hr (hlen (by simp [hp]))).bind
    intro _ _
    exact same_of_returns (returns_pure _)

theorem centerNotify_same (h : SameDeclared p p') (m : UserManager)
    (hsend : p.header.id2 ∈ [s2cBeginFlying, s2cPlayVideo, s2cStandUp, s2cWalk, s2cClientListExternal,
      s2cUserLeaveExternal, s2sReqUsrList] → ∀ links : List LinkID,
        net.sendEach (.package p') links s = net.sendEach (.package p) links s) :
    CenterServer.handleGlobalNotify net m p' s = CenterServer.handleGlobalNotify net m p s := by
  unfold CenterServer.handleGlobalNotify UserManager.forwardCommand
  rw [h.header, h.mLinkid]
  simp only [Identity.forwardMsg_eq]
  split_ifs with hcommand hexternal
  · exact hsend (List.mem_append_left [s2cClientListExternal, s2cUserLeaveExternal, s2sReqUsrList]
      hcommand) _
  · exact hsend (List.mem_append_right [s2cBeginFlying, s2cPlayVideo, s2cStandUp, s2cWalk] hexternal) _
  · rfl

theorem center_same (hnet : SendsFrames net) (h : SameDeclared p p') (hr : Received p)
    (hc : Covered p .center) (m : UserManager) (given : CenterServer.Given) :
    Same (CenterServer.handle net z m p given s) (CenterServer.handle net z m p' given s) := by
  have hreach := hc.reach_le
  have hsend (hpassed : PassedOn p .center) (links : List LinkID) :
      net.sendEach (.package p') links s = net.sendEach (.package p) links s :=
    sendEach_same hnet (frame_same h (hc.inline hpassed)) links s
  unfold CenterServer.handle
  rw [h.header, h.mLinkid]
  simp only [Identity.forwardMsg_eq]
  split_ifs with hconnect hdisconnect hlogin hstate hnotify hall htransform hreback hheader hstream
  · exact same_of_returns (returns_pure _)
  · exact same_of_returns (returns_pure _)
  · rw [hsend (Or.inr (Or.inl ⟨hlogin, hstate⟩))]
    exact same_of_returns (returns_pure _)
  · exact same_of_returns (returns_pure _)
  · rw [centerNotify_same h m fun hmem => hsend (Or.inl ⟨hnotify, hmem⟩)]
    exact same_of_returns (returns_pure _)
  · rw [hsend (Or.inr (Or.inr hall))]
    exact same_of_returns (returns_pure _)
  · apply userTransform_same h hr
    intro hpointer
    simpa [reach, htransform, hpointer] using hreach
  · apply (bodyBlock_same h hr ?_).bind
    · intro _ _
      exact same_of_returns (returns_pure _)
    · unfold reach at hreach
      dsimp only at hreach
      rwa [if_neg htransform, if_pos hreback] at hreach
  · apply (bodyData_same h hr).bind
    intro _ _
    exact same_of_returns (returns_pure _)
  · exact handleFlvStream_same h hr hstream hreach m given
  · exact same_of_returns (returns_pure _)

theorem writeMsgs_send_eq (a : HXLibAccept) (msg : HXMessagePackage) : (a.send msg).writeMsgs =
    if a.socketOpen then a.writeMsgs ++ [msg] else a.writeMsgs := by
  unfold HXLibAccept.send
  split_ifs with h1 h2 h3 <;> simp_all

theorem heartbeatReply_same (h : SameDeclared p p') (hp : p.bigDataPointer = none)
    (hlen : 8 ≤ p.bodyLength) : HXLibAccept.heartbeatReply p' = HXLibAccept.heartbeatReply p := by
  have hbytes := congrArg (List.take 8) h.bodyBytes
  rw [bodyBytes_of_none hp, bodyBytes_of_none (h.pointer_eq hp), h.bodyLength] at hbytes
  unfold Block.load at hbytes
  simp only [List.take_take, Nat.min_eq_left hlen] at hbytes
  unfold HXLibAccept.heartbeatReply Block.load
  simp only [hbytes]

theorem writeMsgs_handleReadBody {server t : HXLibAsioServer} {link : SessionPtr} {body : List UInt8}
    {hfit : body.length ≤ maxBodyLength} (hp : (server.mSessions link).received body hfit = p)
    (ht : server.handleReadBody z link (some body) = .ok t) (q : SessionPtr) :
    (t.mSessions q).writeMsgs = (server.mSessions q).writeMsgs ++
      if q = link ∧ p.header.id = idHeartbeat ∧ (server.mSessions link).socketOpen then
        [HXLibAccept.heartbeatReply p] else [] := by
  unfold HXLibAsioServer.handleReadBody at ht
  dsimp only at ht
  rw [dif_pos hfit, hp] at ht
  split_ifs at ht with hid
  · obtain ⟨added, -, ht⟩ := bind_eq_ok.mp ht
    obtain rfl := Except.ok.inj ht
    rw [if_neg (by tauto), List.append_nil]
    rcases eq_or_ne q link with rfl | hq
    · rw [HXLibAsioServer.mSessions_modifySession_self]
    · exact congrArg HXLibAccept.writeMsgs (Function.update_of_ne hq ..)
  · obtain rfl := Except.ok.inj ht
    rw [not_not] at hid
    rcases eq_or_ne q link with rfl | hq
    · rw [HXLibAsioServer.mSessions_modifySession_self]
      dsimp only
      rw [writeMsgs_send_eq]
      split_ifs <;> simp_all
    · rw [if_neg (by tauto), List.append_nil]
      exact congrArg HXLibAccept.writeMsgs (Function.update_of_ne hq ..)

theorem readBody_same (hc : Covered p .readBody) : OnlyDeclared p .readBody := by
  intro hp p' h z server link readMsg body hfit hread hread' t t' ht ht' q
  have hreach := hc.reach_le
  rw [writeMsgs_handleReadBody hread ht, writeMsgs_handleReadBody hread' ht', h.header]
  have hwrites : ((leftOver server link readMsg).mSessions q).writeMsgs =
      (server.mSessions q).writeMsgs := by
    unfold leftOver
    rcases eq_or_ne q link with rfl | hq
    · rw [HXLibAsioServer.mSessions_modifySession_self]
    · exact congrArg HXLibAccept.writeMsgs (Function.update_of_ne hq ..)
  have hopen : ((leftOver server link readMsg).mSessions link).socketOpen =
      (server.mSessions link).socketOpen := by
    unfold leftOver
    rw [HXLibAsioServer.mSessions_modifySession_self]
  rw [hwrites, hopen]
  split_ifs with hecho
  · rw [heartbeatReply_same h hp]
    simpa [reach, hecho.2.1, hp] using hreach
  · rfl

end Sufficient

/-! ## Less is not enough

A package whose body array is filled with a byte behind the declared body: what
is read beyond the body ends with that byte. -/

section Refilled

def refilled (p : HXMessagePackage) (b : UInt8) : HXMessagePackage :=
  { p with
    data := ⟨resize (p.data.load p.bodyLength) maxBodyLength b, length_resize ..⟩
    bigDataPointer := p.bigDataPointer.map (·.take p.bodyLength ++ List.replicate maxBodyLength b) }

-- read as the last byte of a number, one makes it positive and the other negative
def low : UInt8 := 0x3f
def high : UInt8 := 0xbf

variable {p : HXMessagePackage} {b : UInt8} {n : Nat}

theorem bodyLength_refilled : (refilled p b).bodyLength = p.bodyLength := rfl

theorem body_refilled (hr : Received p) : ∃ rest, (refilled p b).body = p.bodyBytes ++ rest ∧
    ∀ k, k + p.bodyLength ≤ maxBodyLength → rest.take k = List.replicate k b := by
  unfold refilled HXMessagePackage.bodyBytes HXMessagePackage.body
  unfold Received HXMessagePackage.body at hr
  cases hp : p.bigDataPointer with
  | none =>
    rw [hp, Option.getD_none, p.data.size_eq] at hr
    refine ⟨List.replicate (maxBodyLength - p.bodyLength) b, ?_, ?_⟩
    · simp [resize, Block.load, p.data.size_eq, hr]
    · intro k hk
      rw [List.take_replicate, Nat.min_eq_left (by omega)]
  | some d =>
    refine ⟨List.replicate maxBodyLength b, rfl, ?_⟩
    intro k hk
    rw [List.take_replicate, Nat.min_eq_left (by omega)]

theorem length_bodyBytes (hr : Received p) : p.bodyBytes.length = p.bodyLength := by
  unfold HXMessagePackage.bodyBytes
  rw [List.length_take, Nat.min_eq_left hr]

theorem sameDeclared_refilled (hr : Received p) (b : UInt8) : SameDeclared p (refilled p b) := by
  obtain ⟨rest, hbody, -⟩ := @body_refilled p b hr
  refine ⟨rfl, rfl, ?_, ?_⟩
  · simp [refilled]
  · rw [HXMessagePackage.bodyBytes, hbody, bodyLength_refilled, ← length_bodyBytes hr, List.take_left]

theorem bodyBlock_refilled (hr : Received p) (hshort : p.bodyLength ≤ n) (hn : n < maxBodyLength)
    (b : UInt8) : ∃ (block : Block (n + 1)) (ys : List UInt8),
      bodyBlock (refilled p b) (n + 1) = .ok block ∧
      ys.length = n ∧ block.bytes = ys ++ [b] := by
  obtain ⟨rest, hbody, hrest⟩ := @body_refilled p b hr
  have hlength := length_bodyBytes hr
  have htake := hrest (n - p.bodyLength + 1) (by omega)
  have hlong := congrArg List.length htake
  rw [List.length_take, List.length_replicate] at hlong
  have hfit : n + 1 ≤ (refilled p b).body.length := by
    rw [hbody, List.length_append]
    omega
  unfold bodyBlock
  rw [dif_pos hfit]
  refine ⟨_, p.bodyBytes ++ List.replicate (n - p.bodyLength) b, rfl, ?_, ?_⟩
  · simp [hlength, hshort]
  · show (refilled p b).body.take (n + 1) = _
    have hcut : n + 1 = p.bodyBytes.length + (n - p.bodyLength + 1) := by omega
    rw [hbody, hcut, List.take_length_add_append, htake, List.replicate_succ', List.append_assoc]

theorem ofLE_last_inj {xs ys : List UInt8} {a b : UInt8} (hlength : xs.length = ys.length)
    (h : ofLE (xs ++ [a]) = ofLE (ys ++ [b])) : a = b := by
  have hxs := ofLE_lt xs
  have hys := ofLE_lt ys
  rw [ofLE_append, ofLE_append, hlength] at h
  rw [hlength] at hxs
  simp only [ofLE, mul_zero, add_zero] at h
  apply UInt8.toNat_inj.mp
  nlinarith

theorem uint32_last_inj {xs ys : List UInt8} {a b : UInt8} (hxs : xs.length = 3) (hys : ys.length = 3)
    (h : UInt32.ofNat (ofLE ((xs ++ [a]).take 4)) = UInt32.ofNat (ofLE ((ys ++ [b]).take 4))) :
    a = b := by
  have ha := ofLE_lt (xs ++ [a])
  have hb := ofLE_lt (ys ++ [b])
  have hbits := congrArg UInt32.toNat h
  rw [List.take_of_length_le (by simp [hxs]), List.take_of_length_le (by simp [hys])] at hbits
  simp at hbits
  simp only [List.length_append, hxs, hys, List.length_singleton] at ha hb
  apply ofLE_last_inj (hxs.trans hys.symm)
  omega

theorem int32OfBytes_last_inj {xs ys : List UInt8} {a b : UInt8} (hxs : xs.length = 3)
    (hys : ys.length = 3) (h : int32OfBytes (xs ++ [a]) = int32OfBytes (ys ++ [b])) : a = b := by
  unfold int32OfBytes at h
  apply uint32_last_inj hxs hys
  have hbits := congrArg Int32.toUInt32 h
  simpa using hbits

end Refilled

def frames : Network (List (List UInt8)) where
  send s _ msg :=
    match msg with
    | .package p => (true, s ++ [p.frame])
    | _ => (true, s)
  sendCenter s _ _ _ := (true, s)

theorem sendsFrames_frames : SendsFrames frames := by
  intro s linkID p p' h
  simp [frames, h]

def lone (linkID : LinkID) (userType : Int32) : PlayerManager :=
  (PlayerManager.new false (Block.zeros 32)).addPlayer
    { Player.new linkID false (TransformInfo.ofBytes []) with mUserType := userType }

def givenScene : SceneServer.Given := ⟨false, TransformInfo.ofBytes [], 0⟩

section Scene
variable {p q : HXMessagePackage} {n : Nat} {block : Block n}

theorem seats_tellSeatNum {b : Block 4} (hid : q.header.id = idUserLogin)
    (hcmd : q.header.id2 = c2sTellSeatNum) (hb : bodyBlock q 4 = .ok b) :
    (SceneServer.handle frames (lone q.mLinkid capsule) q givenScene []).map
      (fun out => out.1.players.map Player.mSeatNumber) = .ok [int32OfBytes b.bytes] := by
  rw [PlayerManager.handle_userLogin hid]
  unfold SceneServer.handleUserLogin SceneServer.handleTellSeatNum
  simp only [hcmd, hb, ok_bind, if_true]
  simp [lone, PlayerManager.new, PlayerManager.addPlayer, PlayerManager.updatePlayerSeatNumber,
    PlayerManager.modifyPlayer, PlayerManager.findPlayer, Roster.find, Roster.modify, Player.new,
    Player.setSeatNumber, PlayerManager.broadcastUserState, capsule, vip]
  rfl

theorem types_tellUserType {b : Block 4} (hid : q.header.id = idUserLogin)
    (hcmd : q.header.id2 = c2sTellUserType) (hb : bodyBlock q 4 = .ok b) :
    (SceneServer.handle frames (lone q.mLinkid capsule) q givenScene []).map
      (fun out => out.1.players.map Player.mUserType) = .ok [int32OfBytes b.bytes] := by
  rw [PlayerManager.handle_userLogin hid]
  unfold SceneServer.handleUserLogin
  simp only [hcmd, hb, ok_bind]
  simp [lone, PlayerManager.new, PlayerManager.addPlayer, PlayerManager.updateUserType,
    PlayerManager.modifyPlayer, Roster.modify, Player.new, c2sTellUserType, c2sTellSeatNum]
  rfl

theorem sent_tellReady {b : Block 4} (hid : q.header.id = idUserLogin)
    (hcmd : q.header.id2 = c2sTellReady) (hb : bodyBlock q 4 = .ok b) (seat : Int32) :
    (SceneServer.handle frames ((lone q.mLinkid vip).updatePlayerSeatNumber q.mLinkid.sid.toNat seat).2 q
      givenScene []).map (fun out => out.2.length) =
        .ok (if seat = int32OfBytes b.bytes then 1 else 0) := by
  rw [PlayerManager.handle_userLogin hid]
  unfold SceneServer.handleUserLogin
  simp only [hcmd, hb, ok_bind]
  simp [lone, PlayerManager.new, PlayerManager.addPlayer, PlayerManager.updatePlayerSeatNumber,
    PlayerManager.modifyPlayer, PlayerManager.findPlayerBySeatNumber, Roster.find, Roster.modify,
    Player.new, Player.setSeatNumber, PlayerManager.sendUserReadyMsg, c2sTellUserType, c2sTellSeatNum,
    c2sTellReady, c2sTellUserProfile]
  split_ifs <;> rfl

theorem faces_tellUserProfile {b : Block faceModelSize} (hid : q.header.id = idUserLogin)
    (hcmd : q.header.id2 = c2sTellUserProfile) (hb : bodyBlock q faceModelSize = .ok b) :
    (SceneServer.handle frames (lone q.mLinkid vip) q givenScene []).map
      (fun out => out.1.players.map (·.mProfileInfo.mFaceModel)) = .ok [b] := by
  rw [PlayerManager.handle_userLogin hid]
  unfold SceneServer.handleUserLogin SceneServer.handleTellUserProfile
  simp only [hcmd, hb]
  simp [lone, PlayerManager.new, PlayerManager.addPlayer, PlayerManager.bindFaceModeWithSeatNumber,
    PlayerManager.getFreePlayer, PlayerManager.findPlayer, Roster.find, Player.new,
    PlayerManager.broadcastUserState, c2sTellUserType, c2sTellSeatNum, c2sTellUserProfile, ok_bind]
  rfl

theorem dirs_transform {b : Block (TransformInfo.size - 1)} (hid : q.header.id = idUserTransform)
    (hb : bodyBlock q (TransformInfo.size - 1) = .ok b) :
    (SceneServer.handle frames (lone q.mLinkid vip) q givenScene []).map
      (fun out => out.1.players.map (·.transInfo.dir.z)) =
        .ok [UInt32.ofNat (ofLE ((b.bytes.drop 64).take 4))] := by
  unfold SceneServer.handle
  simp only [hid, hb, ok_bind]
  simp [lone, PlayerManager.new, PlayerManager.addPlayer, PlayerManager.updatePlayerTransform,
    PlayerManager.modifyPlayer, Roster.modify, Player.new, idUserLogin, idConnect, idDisconnect,
    idGlobalNotify, idUserTransform]
  simp [Except.map, pure, Except.pure, TransformInfo.ofBytes, Vec3.ofBytes]

theorem blocks_apart (hr : Received p) (hshort : p.bodyLength ≤ n) (hn : n < maxBodyLength) :
    ∃ (c d : Block (n + 1)) (xs ys : List UInt8), bodyBlock (refilled p low) (n + 1) = .ok c ∧
      bodyBlock (refilled p high) (n + 1) = .ok d ∧ xs.length = n ∧ ys.length = n ∧
      c.bytes = xs ++ [low] ∧ d.bytes = ys ++ [high] := by
  obtain ⟨c, xs, hc, hxs, hcs⟩ := bodyBlock_refilled hr hshort hn low
  obtain ⟨d, ys, hd, hys, hds⟩ := bodyBlock_refilled hr hshort hn high
  exact ⟨c, d, xs, ys, hc, hd, hxs, hys, hcs, hds⟩

theorem int32_apart (hr : Received p) (hshort : p.bodyLength < 4) :
    ∃ c d : Block 4, bodyBlock (refilled p low) 4 = .ok c ∧ bodyBlock (refilled p high) 4 = .ok d ∧
      int32OfBytes c.bytes ≠ int32OfBytes d.bytes := by
  obtain ⟨c, d, xs, ys, hc, hd, hxs, hys, hcs, hds⟩ :=
    @blocks_apart p 3 hr (Nat.lt_succ_iff.mp hshort) (by decide)
  refine ⟨c, d, hc, hd, ?_⟩
  intro heq
  rw [hcs, hds] at heq
  exact absurd (int32OfBytes_last_inj hxs hys heq) (by decide)

theorem userLogin_reach (hr : Received p) (hid : p.header.id = idUserLogin)
    (heq : ∀ m, SceneServer.handle frames m (refilled p low) givenScene [] =
      SceneServer.handle frames m (refilled p high) givenScene []) :
    (p.header.id2 ∈ [c2sTellSeatNum, c2sTellUserType, c2sTellReady] → 4 ≤ p.bodyLength) ∧
    (p.header.id2 = c2sTellUserProfile → faceModelSize ≤ p.bodyLength) := by
  refine ⟨?_, ?_⟩
  · intro hcmd
    by_contra hshort
    obtain ⟨c, d, hc, hd, hne⟩ := int32_apart hr (not_le.mp hshort)
    simp only [List.mem_cons, List.not_mem_nil, or_false] at hcmd
    rcases hcmd with hcmd | hcmd | hcmd
    · have hlow := @seats_tellSeatNum (refilled p low) c hid hcmd hc
      have hhigh := @seats_tellSeatNum (refilled p high) d hid hcmd hd
      rw [heq] at hlow
      simpa [hne] using hlow.symm.trans hhigh
    · have hlow := @types_tellUserType (refilled p low) c hid hcmd hc
      have hhigh := @types_tellUserType (refilled p high) d hid hcmd hd
      rw [heq] at hlow
      simpa [hne] using hlow.symm.trans hhigh
    · have hlow := @sent_tellReady (refilled p low) c hid hcmd hc (int32OfBytes c.bytes)
      have hhigh := @sent_tellReady (refilled p high) d hid hcmd hd (int32OfBytes c.bytes)
      rw [heq] at hlow
      simpa [hne] using hlow.symm.trans hhigh
  · intro hcmd
    by_contra hshort
    obtain ⟨c, d, xs, ys, hc, hd, hxs, hys, hcs, hds⟩ :=
      @blocks_apart p 93 hr (Nat.lt_succ_iff.mp (not_le.mp hshort)) (by decide)
    have hlow := @faces_tellUserProfile (refilled p low) c hid hcmd hc
    have hhigh := @faces_tellUserProfile (refilled p high) d hid hcmd hd
    rw [heq] at hlow
    have hsame := congrArg Block.bytes (List.head_eq_of_cons_eq (Except.ok.inj (hlow.symm.trans hhigh)))
    rw [hcs, hds] at hsame
    have hlast := List.append_inj_right' hsame rfl
    exact absurd hlast (by decide)

theorem transform_reach (hr : Received p) (hid : p.header.id = idUserTransform)
    (heq : ∀ m, SceneServer.handle frames m (refilled p low) givenScene [] =
      SceneServer.handle frames m (refilled p high) givenScene []) :
    TransformInfo.size - 1 ≤ p.bodyLength := by
  by_contra hshort
  obtain ⟨c, d, xs, ys, hc, hd, hxs, hys, hcs, hds⟩ :=
    @blocks_apart p 67 hr (Nat.lt_succ_iff.mp (not_le.mp hshort)) (by decide)
  have hlow := @dirs_transform (refilled p low) c hid hc
  have hhigh := @dirs_transform (refilled p high) d hid hd
  rw [heq] at hlow
  have hsame := List.head_eq_of_cons_eq (Except.ok.inj (hlow.symm.trans hhigh))
  rw [hcs, hds, List.drop_append_of_le_length (by omega),
    List.drop_append_of_le_length (by omega)] at hsame
  have hlast := uint32_last_inj (by simp [hxs]) (by simp [hys]) hsame
  exact absurd hlast (by decide)

theorem sceneClients_reach (hr : Received p) (h : OnlyDeclared p .sceneClients) :
    Covered p .sceneClients := by
  have heq (m : PlayerManager) : SceneServer.handle frames m (refilled p low) givenScene [] =
      SceneServer.handle frames m (refilled p high) givenScene [] :=
    (h _ (sameDeclared_refilled hr low) _ frames sendsFrames_frames m givenScene []).1.symm.trans
      (h _ (sameDeclared_refilled hr high) _ frames sendsFrames_frames m givenScene []).1
  refine ⟨?_, False.elim⟩
  unfold reach
  dsimp only
  split_ifs with hid hcmd hcmd hid
  · exact (userLogin_reach hr hid heq).1 hcmd
  · exact (userLogin_reach hr hid heq).2 hcmd
  · exact Nat.zero_le _
  · exact transform_reach hr hid heq
  · exact Nat.zero_le _

end Scene

section PassedOn
variable {p q : HXMessagePackage} {z : Zlib}

def overwritten (p : HXMessagePackage) (b : UInt8) : HXMessagePackage :=
  { p with data := ⟨List.replicate maxBodyLength b, List.length_replicate⟩ }

theorem sameDeclared_overwritten (h : p.bigDataPointer.isSome) (b : UInt8) :
    SameDeclared p (overwritten p b) := by
  obtain ⟨d, hd⟩ := Option.isSome_iff_exists.mp h
  refine ⟨rfl, rfl, rfl, ?_⟩
  simp [overwritten, HXMessagePackage.bodyBytes, HXMessagePackage.body, HXMessagePackage.bodyLength, hd]

theorem frame_overwritten_ne (h : p.bodyLength ≠ 0) :
    (overwritten p low).frame ≠ (overwritten p high).frame := by
  intro heq
  unfold HXMessagePackage.frame at heq
  have hload := List.append_cancel_left heq
  change (List.replicate maxBodyLength low).take p.bodyLength =
    (List.replicate maxBodyLength high).take p.bodyLength at hload
  have hpos : min p.bodyLength maxBodyLength ≠ 0 := by
    have hmax : maxBodyLength = 32768 := rfl
    omega
  rw [List.take_replicate, List.take_replicate, List.replicate_inj] at hload
  exact absurd (hload.2.resolve_left hpos) (by decide)

theorem handleCenter_passedOn (h : PassedOn q .sceneCenter) :
    SceneServer.handleCenter frames z (lone q.mLinkid vip) q [] =
      .ok (lone q.mLinkid vip, [q.frame]) := by
  have hsent : ((lone q.mLinkid vip).sendMsg frames q []).2 = [q.frame] := rfl
  unfold SceneServer.handleCenter SceneServer.handleCenterNotify PlayerManager.broadcastExternalUserState
  rw [hsent]
  rcases h with ⟨hid, hcmd⟩ | ⟨hid, hcmd⟩ | hid
  · simp at hcmd
    rcases hcmd with hcmd | hcmd <;> simp [hid, hcmd] <;> rfl
  · simp [hid, hcmd]
    rfl
  · simp [hid]
    rfl

def elsewhere (linkID : LinkID) : UserManager :=
  UserManager.new.addUser (User.new ⟨linkID.sid + 1, 0⟩ false)

theorem handle_passedOn (h : PassedOn q .center) :
    CenterServer.handle frames z (elsewhere q.mLinkid) q Identity.given [] =
      .ok (elsewhere q.mLinkid, [q.frame]) := by
  have hcommand : (elsewhere q.mLinkid).forwardCommand frames q [] = [q.frame] := rfl
  have hmsg : (elsewhere q.mLinkid).forwardMsg frames q.mLinkid q [] = [q.frame] := by
    simp [elsewhere, UserManager.addUser, UserManager.new, UserManager.forwardMsg, User.new, frames]
  unfold CenterServer.handle CenterServer.handleGlobalNotify
  rw [hcommand, hmsg]
  rcases h with ⟨hid, hcmd⟩ | ⟨hid, hcmd⟩ | hid
  · simp at hcmd
    rcases hcmd with hcmd | hcmd | hcmd | hcmd | hcmd | hcmd | hcmd <;> simp [hid, hcmd] <;> rfl
  · simp [hid, hcmd]
    rfl
  · simp [hid]
    rfl

theorem sceneCenter_inline (h : OnlyDeclared p .sceneCenter) : Covered p .sceneCenter := by
  refine ⟨Nat.zero_le _, ?_⟩
  intro hpassed hpointer
  by_contra hne
  have hlow := h _ (sameDeclared_overwritten hpointer low) _ frames sendsFrames_frames Zlib.refusing
    (lone p.mLinkid vip) []
  have hhigh := h _ (sameDeclared_overwritten hpointer high) _ frames sendsFrames_frames Zlib.refusing
    (lone p.mLinkid vip) []
  have hl := @handleCenter_passedOn (overwritten p low) Zlib.refusing hpassed
  have hh := @handleCenter_passedOn (overwritten p high) Zlib.refusing hpassed
  have heq := hl.symm.trans (hlow.1.symm.trans (hhigh.1.trans hh))
  apply frame_overwritten_ne hne
  simpa using congrArg Prod.snd (Except.ok.inj heq)

end PassedOn

section Center
variable {p q : HXMessagePackage} {z : Zlib}

def cut (p : HXMessagePackage) : HXMessagePackage := { p with bigDataPointer := some p.bodyBytes }

theorem sameDeclared_cut (hr : Received p) (h : p.bigDataPointer.isSome) : SameDeclared p (cut p) := by
  refine ⟨rfl, rfl, h.symm, ?_⟩
  show p.bodyBytes.take p.bodyLength = p.bodyBytes
  rw [List.take_of_length_le (length_bodyBytes hr).le]

theorem userTransform_reach (hr : Received p) (h : OnlyDeclared p .center)
    (hid : p.header.id = idUserTransform) (hpointer : p.bigDataPointer.isSome) : 4 ≤ p.bodyLength := by
  by_contra hshort
  obtain ⟨hsame, hinside⟩ := h _ (sameDeclared_cut hr hpointer) _ frames sendsFrames_frames Zlib.refusing
    UserManager.new Identity.given []
  apply hinside
  have hblock : bodyBlock (cut p) 4 = .error .outsideArray := by
    unfold bodyBlock
    rw [dif_neg]
    show ¬4 ≤ p.bodyBytes.length
    rwa [length_bodyBytes hr]
  rw [hsame]
  unfold CenterServer.handle
  have hid' : (cut p).header.id = idUserTransform := hid
  simp [hid', hblock]
  rfl

theorem flvStream_reach (hr : Received p) (h : OnlyDeclared p .center)
    (hid : p.header.id = idFLVStream) : reach p .center ≤ p.bodyLength := by
  rw [reach_stream hid]
  intro hlow
  obtain ⟨-, hinside⟩ := h p ⟨rfl, rfl, rfl, rfl⟩ _ frames sendsFrames_frames Zlib.refusing
    UserManager.new Identity.given []
  apply hinside
  obtain ⟨b, hb, -⟩ := bodyBlock_eq hr (le_refl p.bodyLength)
  unfold CenterServer.handle CenterServer.handleFlvStream
  simp [hid, hb, ok_bind, hlow]
  rfl

def one (linkID : LinkID) : UserManager := UserManager.new.addUser (User.new linkID false)

theorem delays_streamReback {b : Block 8} (hid : q.header.id = idFLVStreamReback)
    (hb : bodyBlock q 8 = .ok b) :
    (CenterServer.handle frames z (one q.mLinkid) q Identity.given []).map
      (fun out => out.1.users.map User.mDelayTimer) =
        .ok [(Float.ofBits 0 - Float.ofBits (UInt64.ofNat (ofLE b.bytes))).toBits] := by
  have hwhole : b.bytes.take 8 = b.bytes := List.take_of_length_le b.size_eq.le
  unfold CenterServer.handle
  simp only [hid, hb, ok_bind]
  simp [one, UserManager.new, UserManager.addUser, UserManager.onStreamReback, Roster.modify, User.new,
    idUserLogin, idConnect, idDisconnect, idGlobalNotify, idUserTransform, idGlobalTransform,
    idFLVStreamReback, Identity.given, FlvStreamReback.ofBytes, hwhole]
  rfl

theorem normal_of_last {xs : List UInt8} {b : UInt8} (hxs : xs.length = 7) (hb : b = low ∨ b = high) :
    Doubles.Normal (UInt64.ofNat (ofLE (xs ++ [b]))).toBitVec ∧
      (Doubles.sign (UInt64.ofNat (ofLE (xs ++ [b]))).toBitVec).toNat = if b = low then 0 else 1 := by
  have hlt := ofLE_lt xs
  have hlast := ofLE_append xs [b]
  have hvalue : (UInt64.ofNat (ofLE (xs ++ [b]))).toBitVec.toNat = ofLE xs + 256 ^ 7 * b.toNat := by
    have hb' := b.toNat_lt
    rw [hxs] at hlt hlast
    simp only [ofLE, mul_zero, add_zero] at hlast
    rw [hlast, UInt64.toNat_toBitVec, UInt64.toNat_ofNat']
    omega
  rw [hxs] at hlt
  rcases hb with rfl | rfl
  · have hlow : low.toNat = 63 := rfl
    refine ⟨?_, ?_⟩
    · apply Doubles.normal_of_exponent <;> rw [hvalue, hlow] <;> omega
    · rw [Doubles.toNat_sign, hvalue, hlow, if_pos rfl]
      omega
  · have hhigh : high.toNat = 191 := rfl
    refine ⟨?_, ?_⟩
    · apply Doubles.normal_of_exponent <;> rw [hvalue, hhigh] <;> omega
    · rw [Doubles.toNat_sign, hvalue, hhigh, if_neg (by decide)]
      omega

theorem streamReback_reach (hr : Received p) (h : OnlyDeclared p .center)
    (hid : p.header.id = idFLVStreamReback) : 8 ≤ p.bodyLength := by
  by_contra hshort
  obtain ⟨c, d, xs, ys, hc, hd, hxs, hys, hcs, hds⟩ :=
    @blocks_apart p 7 hr (Nat.lt_succ_iff.mp (not_le.mp hshort)) (by decide)
  have heq := (h _ (sameDeclared_refilled hr low) _ frames sendsFrames_frames Zlib.refusing (one p.mLinkid)
    Identity.given []).1.symm.trans (h _ (sameDeclared_refilled hr high) _ frames sendsFrames_frames
      Zlib.refusing (one p.mLinkid) Identity.given []).1
  have hlow := @delays_streamReback (refilled p low) Zlib.refusing c hid hc
  have hhigh := @delays_streamReback (refilled p high) Zlib.refusing d hid hd
  have hsame := hlow.symm.trans ((congrArg (Except.map _) heq).trans hhigh)
  have hdelay := List.head_eq_of_cons_eq (Except.ok.inj hsame)
  rw [hcs, hds] at hdelay
  obtain ⟨hnormal, hsign⟩ := normal_of_last hxs (Or.inl rfl)
  obtain ⟨hnormal', hsign'⟩ := normal_of_last hys (Or.inr rfl)
  apply Doubles.zero_sub_ne hnormal hnormal' ?_ hdelay
  intro hsigns
  rw [hsigns, hsign'] at hsign
  exact absurd hsign (by decide)

theorem center_reach (hr : Received p) (h : OnlyDeclared p .center) : Covered p .center := by
  refine ⟨?_, ?_⟩
  · by_cases hstream : p.header.id = idFLVStream
    · exact flvStream_reach hr h hstream
    · unfold reach
      dsimp only
      rw [if_neg hstream]
      split_ifs with hid hpointer hid
      · exact userTransform_reach hr h hid hpointer
      · exact Nat.zero_le _
      · exact streamReback_reach hr h hid
      · exact Nat.zero_le _
  · intro hpassed hpointer
    by_contra hne
    have hlow := h _ (sameDeclared_overwritten hpointer low) _ frames sendsFrames_frames Zlib.refusing
      (elsewhere p.mLinkid) Identity.given []
    have hhigh := h _ (sameDeclared_overwritten hpointer high) _ frames sendsFrames_frames Zlib.refusing
      (elsewhere p.mLinkid) Identity.given []
    have hl := @handle_passedOn (overwritten p low) Zlib.refusing hpassed
    have hh := @handle_passedOn (overwritten p high) Zlib.refusing hpassed
    have heq := hl.symm.trans (hlow.1.symm.trans (hhigh.1.trans hh))
    apply frame_overwritten_ne hne
    simpa using congrArg Prod.snd (Except.ok.inj heq)

end Center

section ReadBody
variable {p : HXMessagePackage} {z : Zlib}

theorem load_refilled (hr : Received p) (hp : p.bigDataPointer = none) (b : UInt8) :
    (refilled p b).data.load p.bodyLength = p.data.load p.bodyLength := by
  have hsame := (sameDeclared_refilled hr b).bodyBytes
  rwa [bodyBytes_of_none hp, bodyBytes_of_none (by simp [refilled, hp])] at hsame

def reading (q : HXMessagePackage) : HXLibAsioServer :=
  HXLibAsioServer.zeroed.modifySession 0 ({ · with mLinkid := q.mLinkid, readMsg := q })

theorem received_eq {a : HXLibAccept} {q : HXMessagePackage} {body : List UInt8}
    {hfit : body.length ≤ maxBodyLength} (hlen : q.bodyLength ≤ maxBodyLength)
    (hlink : a.mLinkid = q.mLinkid) (hread : a.readMsg = q) (hbody : q.data.load q.bodyLength = body) :
    a.received body hfit = q := by
  subst hbody
  unfold HXLibAccept.received
  rw [hlink, hread, Block.store_load hlen]

theorem handleReadBody_echo {server : HXLibAsioServer} {q : HXMessagePackage} {body : List UInt8}
    {hfit : body.length ≤ maxBodyLength} (hq : (server.mSessions 0).received body hfit = q)
    (hid : q.header.id = idHeartbeat) : ∃ t, server.handleReadBody z 0 (some body) = .ok t := by
  unfold HXLibAsioServer.handleReadBody
  dsimp only
  rw [dif_pos hfit, hq, if_neg (not_not.mpr hid)]
  exact ⟨_, rfl⟩

theorem heartbeatReply_refilled (hr : Received p) (h : OnlyDeclared p .readBody)
    (hid : p.header.id = idHeartbeat) (hp : p.bigDataPointer = none) (b : UInt8) :
    HXLibAccept.heartbeatReply (refilled p b) = HXLibAccept.heartbeatReply p := by
  have hlen : p.bodyLength ≤ maxBodyLength := by
    unfold Received HXMessagePackage.body at hr
    rwa [hp, Option.getD_none, p.data.size_eq] at hr
  have hfit : (p.data.load p.bodyLength).length ≤ maxBodyLength := by
    rwa [Block.length_load hlen]
  have hread : ((reading p).mSessions 0).received _ hfit = p := received_eq hlen rfl rfl rfl
  have hread' : ((leftOver (reading p) 0 (refilled p b)).mSessions 0).received _ hfit = refilled p b :=
    received_eq hlen rfl rfl (load_refilled hr hp b)
  obtain ⟨t, ht⟩ := @handleReadBody_echo Zlib.refusing _ p _ hfit hread hid
  obtain ⟨t', ht'⟩ := @handleReadBody_echo Zlib.refusing _ (refilled p b) _ hfit hread' hid
  have hsame := h hp _ (sameDeclared_refilled hr b) _ _ 0 _ _ hfit hread hread' t t' ht ht' 0
  rw [writeMsgs_handleReadBody hread ht, writeMsgs_handleReadBody hread' ht',
    if_pos ⟨rfl, hid, rfl⟩, if_pos ⟨rfl, hid, rfl⟩] at hsame
  exact List.head_eq_of_cons_eq hsame

theorem bodyBytes_heartbeatReply (q : HXMessagePackage) :
    (HXLibAccept.heartbeatReply q).bodyBytes = q.data.load 8 := bodyBytes_filled _ _ _ _

theorem load_eq_of_bodyBlock {q : HXMessagePackage} {n : Nat} {block : Block n}
    (hq : q.bigDataPointer = none) (h : bodyBlock q n = .ok block) : q.data.load n = block.bytes := by
  unfold bodyBlock at h
  split_ifs at h
  rw [← Except.ok.inj h]
  simp [HXMessagePackage.body, hq, Block.load]

theorem readBody_reach (hr : Received p) (h : OnlyDeclared p .readBody) : Covered p .readBody := by
  refine ⟨?_, False.elim⟩
  unfold reach
  dsimp only
  split_ifs with hecho
  case neg => exact Nat.zero_le _
  by_contra hshort
  obtain ⟨c, d, xs, ys, hc, hd, hxs, hys, hcs, hds⟩ :=
    @blocks_apart p 7 hr (Nat.lt_succ_iff.mp (not_le.mp hshort)) (by decide)
  have hreply := (heartbeatReply_refilled hr h hecho.1 hecho.2 low).trans
    (heartbeatReply_refilled hr h hecho.1 hecho.2 high).symm
  have hbytes := congrArg HXMessagePackage.bodyBytes hreply
  rw [bodyBytes_heartbeatReply, bodyBytes_heartbeatReply,
    load_eq_of_bodyBlock (by simp [refilled, hecho.2]) hc,
    load_eq_of_bodyBlock (by simp [refilled, hecho.2]) hd, hcs, hds] at hbytes
  have hlast := List.append_inj_right' hbytes rfl
  exact absurd hlast (by decide)

end ReadBody

section Queue
variable {msg e : HXMessagePackage} {b : HXBigMessageQueue}

theorem received_of_inRange (h : msg.header.InRange) (hp : msg.bigDataPointer = none) : Received msg := by
  unfold Received HXMessagePackage.body
  rw [hp, Option.getD_none, msg.data.size_eq]
  exact bodyLength_le h

theorem received_deliver (hp : msg.bigDataPointer = none) (h : HXMessageQueueAB.deliver b msg = .ok e)
    (hlen : b.mHeader.originalLength.toNat < 2 ^ 31)
    (hdata : b.mRecvData.length = 0 → b.mHeader.originalLength.toNat ≤ maxBodyLength) : Received e := by
  have hint := HXMessageQueueAB.toInt_toInt32 hlen
  have hsize : sizeT b.mHeader.originalLength.toInt32 = b.mHeader.originalLength.toNat := by
    have hnonneg := @sizeT_of_nonneg b.mHeader.originalLength.toInt32 (by omega)
    omega
  unfold Received HXMessagePackage.bodyLength HXMessagePackage.body
  rcases Nat.eq_zero_or_pos b.mRecvData.length with hempty | hpos
  · rw [HXMessageQueueAB.deliver_empty hempty] at h
    rw [← Except.ok.inj h]
    dsimp only
    rw [hsize, hp, Option.getD_none, msg.data.size_eq]
    exact hdata hempty
  · rcases Nat.lt_or_ge b.mRecvData.length b.mHeader.originalLength.toNat with hover | hfit
    · rw [HXMessageQueueAB.deliver_overruns hpos.ne' hover] at h
      cases h
    · rw [HXMessageQueueAB.deliver_fits hpos.ne' hfit] at h
      rw [← Except.ok.inj h]
      dsimp only
      rw [hsize, Option.getD_some, length_patch] <;> simp [hfit]

end Queue

/-! ## What the handlers go by -/

/-- A handler goes by the declared body alone exactly when it is as long as what
the handler uses, and stands in the package when the package is passed on. -/
theorem onlyDeclared_iff {p : HXMessagePackage} (hr : Received p) (handler : Handler) :
    OnlyDeclared p handler ↔ Covered p handler := by
  constructor
  · intro h
    cases handler with
    | sceneClients => exact sceneClients_reach hr h
    | sceneCenter => exact sceneCenter_inline h
    | center => exact center_reach hr h
    | readBody => exact readBody_reach hr h
  · intro hc
    cases handler with
    | sceneClients =>
      intro p' h σ net _ m given s
      exact sceneClients_same h hr hc m given
    | sceneCenter =>
      intro p' h σ net hnet z m s
      exact sceneCenter_same hnet h hr hc m
    | center =>
      intro p' h σ net hnet z m given s
      exact center_same hnet h hr hc m given
    | readBody => exact readBody_same hc

def seatMessage (seat : List UInt8) (h : seat.length ≤ maxBodyLength) : HXMessagePackage :=
  filled ⟨1, 0⟩ idUserLogin c2sTellSeatNum seat h

def emptySeat : HXMessagePackage := seatMessage [] (by decide)

theorem onlyDeclared_seatMessage :
    OnlyDeclared (seatMessage [3, 0, 0, 0] (by decide)) .sceneClients := by
  refine (onlyDeclared_iff ?_ .sceneClients).mpr ⟨?_, False.elim⟩
  · exact received_of_inRange (filled_inRange _ _ _ _) rfl
  · decide +kernel

/-- What is left over becomes the seat of the player. -/
theorem emptySeat_leftOver : SameDeclared emptySeat (refilled emptySeat 1) ∧
    (SceneServer.handle frames (lone ⟨1, 0⟩ capsule) emptySeat givenScene []).map
      (fun out => out.1.players.map Player.mSeatNumber) = .ok [0] ∧
    (SceneServer.handle frames (lone ⟨1, 0⟩ capsule) (refilled emptySeat 1) givenScene []).map
      (fun out => out.1.players.map Player.mSeatNumber) = .ok [16843009] ∧
    ¬OnlyDeclared emptySeat .sceneClients := by
  have hr : Received emptySeat := received_of_inRange (filled_inRange _ _ _ _) rfl
  refine ⟨sameDeclared_refilled hr 1, ?_, ?_, ?_⟩
  · exact @seats_tellSeatNum emptySeat ⟨[0, 0, 0, 0], rfl⟩ rfl rfl (by decide +kernel)
  · exact @seats_tellSeatNum (refilled emptySeat 1) ⟨[1, 1, 1, 1], rfl⟩ rfl rfl (by decide +kernel)
  · intro h
    have hreach := (sceneClients_reach hr h).reach_le
    exact absurd hreach (by decide +kernel)

end HXService.DeclaredBody
