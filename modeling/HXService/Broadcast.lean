import HXService.ExternalLists
import HXService.Posting

/-! The order of the center server. All messages go through it one by one; each scene
server hears, and tells its clients, what is for it in that order, once. -/

namespace HXService.CrossScene
open Bytes Runs PlayerManager ExternalLists HXMessageQueueAB

/-! ## The order -/

def handled (s : State) : Event → List (Option LinkID × HXMessagePackage)
  | .center a _ => (s.outbox a).head?.toList.map fun pack => (some a, arriving a pack)
  | .other pack _ => [(none, pack)]
  | .client _ _ _ => []
  | .tick _ => []
  | .external _ => []

/-- The messages of a run in the order of their handling at the center server. -/
def order (z : Zlib) (s : State) (es : List Event) : List (Option LinkID × HXMessagePackage) :=
  collect (step z) handled s es

def fromScene (a : LinkID) (m : Option LinkID × HXMessagePackage) : Option HXMessagePackage :=
  if m.1 = some a then some m.2 else none

def forScene (b : LinkID) (m : Option LinkID × HXMessagePackage) : Option HXMessagePackage :=
  if Reaches m.2 b then some m.2 else none

def said (z : Zlib) (a : LinkID) (s : State) (e : Event) : List HXMessagePackage :=
  (sendsOf z a s e).filterMap Sent.packed

def taken (b : LinkID) (s : State) : Event → List Outgoing
  | .external a => if a = b then (s.inbox a).head?.toList else []
  | _ => []

/-- The scene server is connected to the center server by one connection. -/
def Listed (b : LinkID) (s : State) (_ : Event) : Prop :=
  (s.center.users.map User.mLinkID).count b = 1

section Order
variable {z : Zlib} {s s' t : State} {e : Event} {es : List Event} {a b : LinkID}

theorem outbox_step (h : step z s e = some s') :
    s.outbox a ++ said z a s e = takenFrom a s e ++ s'.outbox a := by
  obtain ⟨outbox, houtbox, hwires⟩ := wires_step h
  have hout : s'.outbox a = outbox ++ said z a s e := by
    unfold State.outbox
    rw [hwires, performAll_downlink]
    rfl
  rw [houtbox, hout, List.append_assoc]

theorem fromScene_handled : (handled s e).filterMap (fromScene a) = (takenFrom a s e).map (arriving a) := by
  cases e with
  | center c given =>
    dsimp only [handled, takenFrom]
    by_cases hc : c = a
    · subst hc
      rw [if_pos rfl]
      cases (s.outbox c).head? with
      | none => rfl
      | some pack => simp [fromScene]
    · rw [if_neg hc]
      cases (s.outbox c).head? with
      | none => rfl
      | some pack => simp [fromScene, hc]
  | client c pack given => rfl
  | tick c => rfl
  | other pack given => rfl
  | external c => rfl

theorem relays_step (h : step z s e = some s') (hb : Listed b s e) (hstep : ∀ c, e ≠ .external c) :
    (s'.inbox b).filterMap relayed =
      (s.inbox b).filterMap relayed ++ (handled s e).filterMap (forScene b) := by
  have hnone : (s.inbox b).filterMap relayed = (s.inbox b).filterMap relayed ++ [] :=
    (List.append_nil _).symm
  have hone (pack : HXMessagePackage) (source : Option LinkID) :
      (if Reaches pack b then List.replicate ((s.center.users.map User.mLinkID).count b) pack else []) =
        [(source, pack)].filterMap (forScene b) := by
    unfold Listed at hb
    unfold forScene
    rw [hb, List.filterMap_cons]
    split_ifs <;> rfl
  cases e with
  | client c pack given =>
    obtain ⟨out, -, rfl⟩ := Option.map_eq_some_iff.mp h
    exact hnone
  | tick c =>
    obtain ⟨out, -, rfl⟩ := Option.map_eq_some_iff.mp h
    exact hnone
  | center c given =>
    obtain ⟨pack, hpack, h⟩ := Option.bind_eq_some_iff.mp h
    obtain ⟨out, hout, rfl⟩ := Option.map_eq_some_iff.mp h
    have hrelays := (relays_handle (mem_toOption hout)).relayed b
    rw [hone (arriving c pack) (some c)] at hrelays
    dsimp only [handled]
    rw [hpack]
    exact hrelays
  | other pack given =>
    obtain ⟨out, hout, rfl⟩ := Option.map_eq_some_iff.mp h
    have hrelays := (relays_handle (mem_toOption hout)).relayed b
    rw [hone pack none] at hrelays
    exact hrelays
  | external c => exact absurd rfl (hstep c)

theorem inbox_step (h : step z s e = some s') (hb : Listed b s e) :
    (s.inbox b).filterMap relayed ++ (handled s e).filterMap (forScene b) =
      (taken b s e).filterMap relayed ++ (s'.inbox b).filterMap relayed := by
  cases e with
  | external c =>
    obtain ⟨msg, hmsg, h⟩ := Option.bind_eq_some_iff.mp h
    obtain ⟨out, -, rfl⟩ := Option.map_eq_some_iff.mp h
    show (s.inbox b).filterMap relayed ++ [] = (if c = b then _ else _ : List Outgoing).filterMap relayed ++
      (Function.update s.inbox c (s.inbox c).tail b).filterMap relayed
    rw [List.append_nil]
    by_cases hc : c = b
    · subst hc
      rw [if_pos rfl, Function.update_self, ← List.filterMap_append, hmsg]
      exact congrArg _ (List.cons_head?_tail hmsg).symm
    · rw [if_neg hc, Function.update_of_ne (Ne.symm hc)]
      rfl
  | client c pack given => exact (relays_step h hb (by simp)).symm
  | tick c => exact (relays_step h hb (by simp)).symm
  | center c given => exact (relays_step h hb (by simp)).symm
  | other pack given => exact (relays_step h hb (by simp)).symm

/-- All that a scene server has said is handled by the center server in the order of
saying, or still under way. -/
theorem collect_outbox (hrun : run (step z) s es = some t) :
    (s.outbox a ++ collect (step z) (said z a) s es).map (arriving a) =
      (order z s es).filterMap (fromScene a) ++ (t.outbox a).map (arriving a) := by
  have hqueue := collect_queue (I := fun _ => True) (C := fun _ _ => True) (fun _ _ _ _ _ _ => trivial)
    (fun s e s' _ _ h => @outbox_step z s s' e a h) trivial (along_of_forall fun _ _ => trivial) hrun
  have hfrom : (order z s es).filterMap (fromScene a) =
      (collect (step z) (takenFrom a) s es).map (arriving a) := by
    unfold order
    rw [collect_filterMap, collect_map]
    congr 1
    funext s e
    exact fromScene_handled
  rw [hqueue, hfrom, List.map_append]

/-- What the center server has handled that is for a scene server, it gets in that order
and once, as long as it is connected by one connection. -/
theorem collect_inbox (hrun : run (step z) s es = some t) (hb : Along (step z) (Listed b) s es) :
    (s.inbox b).filterMap relayed ++ (order z s es).filterMap (forScene b) =
      (collect (step z) (taken b) s es).filterMap relayed ++ (t.inbox b).filterMap relayed := by
  have hqueue := collect_queue (I := fun _ => True) (fun _ _ _ _ _ _ => trivial)
    (fun s e s' _ hb h => @inbox_step z s s' e b h hb) trivial hb hrun
  unfold order
  rw [collect_filterMap, collect_filterMap]
  exact hqueue

end Order

/-! ## What the clients are told -/

/-- What a scene server sends to a client on a message of the center server, packages
only; `toCapsule` says whether the client is a capsule. -/
def passedOn (toCapsule : Bool) (pack : HXMessagePackage) : Option HXMessagePackage :=
  if IsCommand pack then
    if toCapsule then none
    else some (HXMessagePackage.filled LinkID.zero idUserControl pack.header.id2 [] fits_nil)
  else if IsNews pack then some (arriving LinkID.zero pack)
  else none

def packageTo (l : LinkID) : Sent → Option HXMessagePackage
  | .client linkID (.package msg) => if linkID = l then some msg else none
  | .client _ (.big _) => none
  | .client _ (.data _ _ _) => none
  | .center _ _ _ => none

/-- The packages that a scene server sends to a client while it handles messages of the
center server. -/
def told (z : Zlib) (b l : LinkID) (s : State) : Event → List HXMessagePackage
  | .external a => (sendsOf z b s (.external a)).filterMap (packageTo l)
  | _ => []

/-- The client is one of the players, by one connection. -/
def PlayedBy (m : PlayerManager) (l : LinkID) (isCapsule : Bool) : Prop :=
  (m.players.filter (·.mLinkID = l)).map (fun ply => decide (ply.mUserType = capsule)) = [isCapsule]

def Plays (b l : LinkID) (isCapsule : Bool) (s : State) (_ : Event) : Prop :=
  PlayedBy (s.scenes b).manager l isCapsule

section Handle
variable {z : Zlib} {m : PlayerManager} {pack : HXMessagePackage} {l : LinkID} {isCapsule : Bool}
variable {w : List Sent} {out : PlayerManager × List Sent}

theorem filterMap_packageTo (msg : HXMessagePackage) (players : List Player) :
    (players.map fun ply => Sent.client ply.mLinkID (.package msg)).filterMap (packageTo l) =
      List.replicate (players.filter (·.mLinkID = l)).length msg := by
  induction players with
  | nil => rfl
  | cons ply players ih =>
    rw [List.map_cons, List.filterMap_cons, ih, List.filter_cons]
    by_cases hl : ply.mLinkID = l
    · simp [packageTo, hl, List.replicate_succ]
    · simp [packageTo, hl]

theorem sendEach_notebook (msg : Outgoing) (links : List LinkID) :
    Network.notebook.sendEach msg links w = w ++ links.map fun linkID => Sent.client linkID msg := by
  unfold Network.sendEach
  induction links generalizing w with
  | nil => exact (List.append_nil w).symm
  | cons linkID links ih =>
    rw [List.foldl_cons, ih]
    exact List.append_assoc w _ _

theorem PlayedBy.length_eq (h : PlayedBy m l isCapsule) :
    (m.players.filter (·.mLinkID = l)).length = 1 := by
  rw [← List.length_map (fun ply : Player => decide (ply.mUserType = capsule)), h]
  rfl

theorem PlayedBy.length_controlled (h : PlayedBy m l isCapsule) :
    ((m.players.filter (·.mUserType ≠ capsule)).filter (·.mLinkID = l)).length =
      if isCapsule then 0 else 1 := by
  obtain ⟨ply, hply⟩ := List.length_eq_one_iff.mp h.length_eq
  unfold PlayedBy at h
  rw [hply, List.map_singleton, List.singleton_inj] at h
  rw [List.filter_comm, hply, ← h]
  by_cases hcapsule : ply.mUserType = capsule <;> simp [hcapsule]

theorem packages_sendMsg (h : PlayedBy m l isCapsule) :
    ((m.sendMsg Network.notebook pack w).2).filterMap (packageTo l) = w.filterMap (packageTo l) ++ [pack] := by
  show (Network.notebook.sendEach (.package pack) (m.players.map Player.mLinkID) w).filterMap _ = _
  rw [sendEach_notebook, List.filterMap_append, List.map_map]
  show _ ++ (m.players.map fun ply => Sent.client ply.mLinkID (.package pack)).filterMap _ = _
  rw [filterMap_packageTo, h.length_eq]
  rfl

theorem packages_broadcastControlCmd {cmd : UInt16} {w' : List Sent} (h : PlayedBy m l isCapsule)
    (hout : m.broadcastControlCmd Network.notebook idUserControl cmd w = .ok w') :
    w'.filterMap (packageTo l) = w.filterMap (packageTo l) ++
      if isCapsule then [] else [HXMessagePackage.filled LinkID.zero idUserControl cmd [] fits_nil] := by
  unfold broadcastControlCmd at hout
  rw [sendCmdTo_eq fits_nil, Network.performAll_notebook] at hout
  rw [← Except.ok.inj hout, List.filterMap_append]
  unfold command
  rw [filterMap_packageTo, h.length_controlled]
  cases isCapsule <;> rfl

theorem keeps_packageTo : Network.notebook.Keeps IsUnheard fun w' =>
    w'.filterMap (packageTo l) = w.filterMap (packageTo l) := by
  intro w' sent hsent h
  rw [Network.perform_notebook, List.filterMap_append, h]
  rcases sent with ⟨linkID, msg⟩ | ⟨id, id2, bytes⟩
  · cases msg with
    | package msg => cases hsent
    | big msg => exact List.append_nil _
    | data id id2 bytes => exact List.append_nil _
  · exact List.append_nil _

open SceneServer in
theorem handleCenter_command {σ : Type} {net : Network σ} {s : σ} (h : IsCommand pack) :
    handleCenter net z m pack s =
      (m.broadcastControlCmd net idUserControl pack.header.id2 s).map fun s => (m, s) := by
  rw [handleCenter, if_pos h.1, handleCenterNotify]
  dsimp only
  rw [if_pos h.2]
  cases m.broadcastControlCmd net idUserControl pack.header.id2 s <;> rfl

theorem IsNews.not_command (h : IsNews pack) : ¬IsCommand pack := by
  rintro ⟨hid, hid2⟩
  rcases h with ⟨-, hnews⟩ | ⟨hlogin, -⟩ | htransform
  · simp only [List.mem_cons, List.not_mem_nil, or_false] at hid2 hnews
    rcases hnews with hnews | hnews <;> rw [hnews] at hid2 <;> exact absurd hid2 (by decide)
  · exact absurd (hid.symm.trans hlogin) (by decide)
  · exact absurd (hid.symm.trans htransform) (by decide)

open SceneServer in
theorem handleCenter_news {σ : Type} {net : Network σ} {s : σ} (h : IsNews pack) :
    handleCenter net z m pack s = .ok (m, (m.sendMsg net pack s).2) := by
  have hcmd := h.not_command
  rcases h with ⟨hid, hid2⟩ | ⟨hid, hid2⟩ | hid
  · rw [handleCenter, if_pos hid, handleCenterNotify]
    dsimp only
    rw [if_neg fun h => hcmd ⟨hid, h⟩, if_pos hid2]
    rfl
  · rw [handleCenter, if_neg (by rw [hid]; decide), if_pos hid, if_pos hid2]
    rfl
  · rw [handleCenter, if_neg (by rw [hid]; decide), if_neg (by rw [hid]; decide), if_pos hid]
    rfl

open SceneServer in
theorem packages_handleCenter (hplays : PlayedBy m l isCapsule)
    (h : handleCenter Network.notebook z m (arriving LinkID.zero pack) w = .ok out) :
    out.2.filterMap (packageTo l) = w.filterMap (packageTo l) ++ (passedOn isCapsule pack).toList := by
  unfold passedOn
  by_cases hcmd : IsCommand pack
  · have hcmd' : IsCommand (arriving LinkID.zero pack) := hcmd
    rw [handleCenter_command hcmd'] at h
    cases hw : m.broadcastControlCmd Network.notebook idUserControl pack.header.id2 w with
    | error fault =>
      change (m.broadcastControlCmd Network.notebook idUserControl pack.header.id2 w).map _ = _ at h
      rw [hw] at h
      cases h
    | ok w' =>
      change (m.broadcastControlCmd Network.notebook idUserControl pack.header.id2 w).map _ = _ at h
      rw [hw] at h
      rw [← Except.ok.inj h, if_pos hcmd]
      refine (packages_broadcastControlCmd hplays hw).trans ?_
      cases isCapsule <;> rfl
  rw [if_neg hcmd]
  by_cases hnews : IsNews pack
  · have hnews' : IsNews (arriving LinkID.zero pack) := hnews
    rw [handleCenter_news hnews'] at h
    rw [if_pos hnews, ← Except.ok.inj h]
    exact packages_sendMsg hplays
  · have hcmd' : ¬IsCommand (arriving LinkID.zero pack) := hcmd
    have hnews' : ¬IsNews (arriving LinkID.zero pack) := hnews
    rw [if_neg hnews]
    refine Eq.trans ?_ (List.append_nil _).symm
    exact keeps_packageTo.sceneHandleCenter hcmd' hnews' h rfl

end Handle

/-! ## Messages under way -/

/-- What is under way from the center server is what it posts. -/
def Underway (z : Zlib) (s : State) : Prop := ∀ b, ∀ msg ∈ s.inbox b, Posted z msg

section Receive
variable {σ : Type} {net : Network σ} {z : Zlib} {m : PlayerManager} {q : HXBigMessageQueue}
variable {msg : Outgoing} {pack : HXMessagePackage} {w : σ}

theorem not_isBigStream_of_posted (h : Posted z (.package pack)) : ¬isBigStream pack.header.id := by
  have hid : pack.header.id ∈ [idGlobalNotify, idUserLogin, idGlobalTransform] := by
    rcases h with hcmd | (⟨hid, -⟩ | ⟨hid, -⟩ | hid) | hrequest
    · rw [hcmd.1]
      decide
    · rw [hid]
      decide
    · rw [hid]
      decide
    · rw [hid]
      decide
    · rw [hrequest.1]
      decide
  simp only [List.mem_cons, List.not_mem_nil, or_false] at hid
  rcases hid with hid | hid | hid <;> rw [hid] <;> decide

theorem receive_package (h : ¬isBigStream pack.header.id) :
    receive net z m q (.package pack) w =
      (SceneServer.handleCenter net z m (arriving LinkID.zero pack) w).map fun out => (out, q) := by
  have happended : appended z (arriving LinkID.zero pack) q = .ok (some (arriving LinkID.zero pack), q) :=
    if_neg h
  unfold receive packagesOf
  simp only [collected, happended, ok_bind, pure_bind]
  show handleAll net z m [arriving LinkID.zero pack] w >>= _ = _
  unfold handleAll
  rw [List.foldlM_cons]
  cases SceneServer.handleCenter net z m (arriving LinkID.zero pack) w <;> rfl

def idOf : Outgoing → UInt16
  | .package msg => msg.header.id
  | .big msg => msg.mHeader.id
  | .data id _ _ => id

theorem mHeader_filled {id : UInt16} {pkt : HXBigMessageQueue} (h : FilledAs z id pkt) :
    pkt.mHeader.id = id := by
  obtain ⟨q, data, hset⟩ := h
  rw [Sectioning.mHeader_setBigPackage hset]
  rfl

theorem isForeign_idOf (hposted : Posted z msg) (hmsg : relayed msg = none) : IsForeign (idOf msg) := by
  cases msg with
  | package msg => cases hmsg
  | big pkt =>
    show IsForeign pkt.mHeader.id
    rcases hposted with hpkt | hpkt <;> rw [mHeader_filled hpkt] <;> decide
  | data id id2 bytes =>
    show IsForeign id
    rw [show id = idFLVStreamReback from hposted]
    decide

theorem receive_unrelayed {out : (PlayerManager × σ) × HXBigMessageQueue} (hposted : Posted z msg)
    (hmsg : relayed msg = none) (h : receive net z m q msg w = .ok out) :
    ∃ entries, (∀ e ∈ entries, e.header.id = idOf msg) ∧ handleAll net z m entries w = .ok out.1 := by
  obtain ⟨packs, hpacks, h⟩ := bind_eq_ok.mp h
  obtain ⟨arrived, harrived, h⟩ := bind_eq_ok.mp h
  obtain ⟨all, hall, h⟩ := bind_eq_ok.mp h
  rw [← Except.ok.inj h]
  cases msg with
  | package msg => cases hmsg
  | big pkt =>
    obtain rfl := Except.ok.inj hpacks
    refine ⟨arrived.1, ?_, hall⟩
    show ∀ e ∈ arrived.1, e.header.id = pkt.mHeader.id
    rcases hposted with hpkt | hpkt <;> rw [mHeader_filled hpkt] <;> exact collected_filled hpkt harrived
  | data id id2 bytes =>
    obtain ⟨pack, hpack, hpacks⟩ := bind_eq_ok.mp hpacks
    obtain rfl := Except.ok.inj hpacks
    have hid : pack.header.id = id := by
      unfold Network.cmdPackage at hpack
      split_ifs at hpack
      rw [← Except.ok.inj hpack]
      rfl
    have happended : appended z (arriving LinkID.zero pack) q =
        .ok (some (arriving LinkID.zero pack), q) := by
      refine if_neg ?_
      show ¬isBigStream pack.header.id
      rw [hid, show id = idFLVStreamReback from hposted]
      decide
    simp only [collected, happended, ok_bind, pure_bind] at harrived
    obtain rfl := Except.ok.inj harrived
    refine ⟨_, fun e he => ?_, hall⟩
    rw [List.mem_singleton.mp he]
    exact hid

theorem keeps_handleAll {I : σ → Prop} (hI : net.Keeps IsUnheard I) {packs : List HXMessagePackage}
    {out : PlayerManager × σ} (hpacks : ∀ pack ∈ packs, IsForeign pack.header.id)
    (h : handleAll net z m packs w = .ok out) (hw : I w) : I out.2 := by
  unfold handleAll at h
  induction packs generalizing m w with
  | nil =>
    obtain rfl := Except.ok.inj h
    exact hw
  | cons pack packs ih =>
    rw [List.foldlM_cons] at h
    obtain ⟨next, hnext, h⟩ := bind_eq_ok.mp h
    have hforeign := hpacks pack List.mem_cons_self
    exact ih (fun pack hpack => hpacks pack (List.mem_cons_of_mem _ hpack)) h
      (hI.sceneHandleCenter hforeign.not_command hforeign.not_news hnext hw)

end Receive

section Told
variable {z : Zlib} {s s' t : State} {e : Event} {es : List Event} {b l : LinkID} {isCapsule : Bool}

theorem underway_step (hs : Underway z s) (h : step z s e = some s') : Underway z s' := by
  cases e with
  | client a pack given =>
    obtain ⟨out, -, rfl⟩ := Option.map_eq_some_iff.mp h
    exact hs
  | tick a =>
    obtain ⟨out, -, rfl⟩ := Option.map_eq_some_iff.mp h
    exact hs
  | center a given =>
    obtain ⟨pack, -, h⟩ := Option.bind_eq_some_iff.mp h
    obtain ⟨out, hout, rfl⟩ := Option.map_eq_some_iff.mp h
    intro b msg hmsg
    exact ((relays_handle (mem_toOption hout)).posted b msg hmsg).elim (hs b msg) id
  | other pack given =>
    obtain ⟨out, hout, rfl⟩ := Option.map_eq_some_iff.mp h
    intro b msg hmsg
    exact ((relays_handle (mem_toOption hout)).posted b msg hmsg).elim (hs b msg) id
  | external a =>
    obtain ⟨msg, hmsg, h⟩ := Option.bind_eq_some_iff.mp h
    obtain ⟨out, hout, rfl⟩ := Option.map_eq_some_iff.mp h
    intro b msg hmsg
    change msg ∈ Function.update s.inbox a (s.inbox a).tail b at hmsg
    by_cases hb : b = a
    · subst hb
      rw [Function.update_self] at hmsg
      exact hs b msg (List.mem_of_mem_tail hmsg)
    · rw [Function.update_of_ne hb] at hmsg
      exact hs b msg hmsg

theorem packages_receive {m : PlayerManager} {q : HXBigMessageQueue} {msg : Outgoing}
    {out : (PlayerManager × List Sent) × HXBigMessageQueue} (hposted : Posted z msg)
    (hplays : PlayedBy m l isCapsule) (h : receive Network.notebook z m q msg [] = .ok out) :
    out.1.2.filterMap (packageTo l) = ((relayed msg).bind (passedOn isCapsule)).toList := by
  cases hrelayed : relayed msg with
  | some pack =>
    cases msg with
    | package msg =>
      rw [receive_package (not_isBigStream_of_posted hposted)] at h
      cases hhandled : SceneServer.handleCenter Network.notebook z m (arriving LinkID.zero msg) [] with
      | error fault =>
        rw [hhandled] at h
        cases h
      | ok y =>
        obtain rfl := Option.some.inj hrelayed
        rw [hhandled] at h
        rw [← Except.ok.inj h]
        exact packages_handleCenter hplays hhandled
    | big pkt => cases hrelayed
    | data id id2 bytes => cases hrelayed
  | none =>
    obtain ⟨entries, hentries, hall⟩ := receive_unrelayed hposted hrelayed h
    have hforeign := isForeign_idOf hposted hrelayed
    exact keeps_handleAll (@keeps_packageTo l []) (fun e he => (hentries e he) ▸ hforeign) hall rfl

theorem told_step (hs : Underway z s) (hl : Plays b l isCapsule s e) (h : step z s e = some s') :
    told z b l s e = ((taken b s e).filterMap relayed).filterMap (passedOn isCapsule) := by
  cases e with
  | client a pack given => rfl
  | tick a => rfl
  | center a given => rfl
  | other pack given => rfl
  | external a =>
    by_cases ha : a = b
    · subst ha
      obtain ⟨msg, y, hmsg, hreceive, hsends, -⟩ := receive_step h
      have hposted : Posted z msg := hs a msg (List.mem_of_mem_head? hmsg)
      have htaken : taken a s (.external a) = [msg] := by
        refine (if_pos rfl).trans ?_
        rw [hmsg]
        rfl
      unfold told
      dsimp only
      rw [sendsOf_self rfl, hsends, htaken, packages_receive hposted hl hreceive]
      cases hrelayed : relayed msg with
      | none => simp [hrelayed]
      | some pack => cases hpassed : passedOn isCapsule pack <;> simp [hrelayed, hpassed]
    · have hsends : sendsOf z b s (.external a) = [] := if_neg fun h => ha (Option.some.inj h)
      have htaken : taken b s (.external a) = [] := if_neg ha
      unfold told
      dsimp only
      rw [hsends, htaken]
      rfl

theorem collect_told (hs : Underway z s) (hl : Along (step z) (Plays b l isCapsule) s es) : collect (step z) (told z b l) s es =
      ((collect (step z) (taken b) s es).filterMap relayed).filterMap (passedOn isCapsule) := by
  rw [collect_filterMap, collect_filterMap]
  exact collect_congr (fun _ _ _ hs _ h => underway_step hs h) (fun _ _ _ hs hl h => told_step hs hl h) hs hl

/-- The center server puts the messages of all scene servers into one order. In it are
the messages of each server in the order of sending; and each server gets what is for
it in that order and once, as long as it is connected by one connection. -/
theorem run_relayed (hrun : run (step z) s es = some t) :
    (∀ a, (s.outbox a ++ collect (step z) (said z a) s es).map (arriving a) =
      (order z s es).filterMap (fromScene a) ++ (t.outbox a).map (arriving a)) ∧
    ∀ b, Along (step z) (Listed b) s es →
      (s.inbox b).filterMap relayed ++ (order z s es).filterMap (forScene b) =
        (collect (step z) (taken b) s es).filterMap relayed ++ (t.inbox b).filterMap relayed :=
  ⟨fun _ => collect_outbox hrun, fun _ hb => collect_inbox hrun hb⟩

/-- What a client is told of the messages of the center server is all that is for its
scene server, in the one order and once, but for what is still under way. -/
theorem run_told (hs : Underway z s) (hrun : run (step z) s es = some t)
    (hb : Along (step z) (Listed b) s es) (hl : Along (step z) (Plays b l isCapsule) s es) :
    ((s.inbox b).filterMap relayed ++ (order z s es).filterMap (forScene b)).filterMap
        (passedOn isCapsule) =
      collect (step z) (told z b l) s es ++
        ((t.inbox b).filterMap relayed).filterMap (passedOn isCapsule) := by
  rw [collect_told hs hl, collect_inbox hrun hb, List.filterMap_append]

end Told

instance (b : LinkID) (s : State) (e : Event) : Decidable (Listed b s e) := inferInstanceAs (Decidable (_ = _))

instance (b l : LinkID) (isCapsule : Bool) (s : State) (e : Event) : Decidable (Plays b l isCapsule s e) :=
  inferInstanceAs (Decidable (_ = _))

def meeting : State where
  center := bothServers
  inbox _ := []
  scenes _ :=
    ⟨{ PlayerManager.new false (Block.zeros 32) with
        players := [Player.new ⟨1, 0⟩ false (TransformInfo.ofBytes [])] },
      ⟨[], []⟩, HXBigMessageQueue.new ⟨0, 0, 0, 0, 0, 0, 0⟩⟩

def flight : List Event :=
  [.client here (message idGlobalNotify c2sBeginFlying 0) ⟨false, TransformInfo.ofBytes [], 0⟩,
    .center here Identity.given, .external there, .external here]

theorem underway_meeting : Underway Zlib.refusing meeting := by
  intro b msg hmsg
  cases hmsg

theorem run_flight : ∃ t, run (step Zlib.refusing) meeting flight = some t :=
  Option.isSome_iff_exists.mp (by decide +kernel)

theorem along_flight : Along (step Zlib.refusing) (Listed there) meeting flight ∧
    Along (step Zlib.refusing) (Plays there ⟨1, 0⟩ false) meeting flight := by
  refine ⟨?_, ?_⟩ <;> decide +kernel

theorem run_relayed_flight : ∃ t, run (step Zlib.refusing) meeting flight = some t ∧
    (∀ a, (meeting.outbox a ++ collect (step Zlib.refusing) (said Zlib.refusing a) meeting flight).map
        (arriving a) = (order Zlib.refusing meeting flight).filterMap (fromScene a) ++
          (t.outbox a).map (arriving a)) ∧
    (meeting.inbox there).filterMap relayed ++
        (order Zlib.refusing meeting flight).filterMap (forScene there) =
      (collect (step Zlib.refusing) (taken there) meeting flight).filterMap relayed ++
        (t.inbox there).filterMap relayed := by
  obtain ⟨t, hrun⟩ := run_flight
  obtain ⟨hsaid, hheard⟩ := run_relayed hrun
  exact ⟨t, hrun, hsaid, hheard there along_flight.1⟩

theorem run_told_flight : ∃ t, run (step Zlib.refusing) meeting flight = some t ∧
    ((meeting.inbox there).filterMap relayed ++
        (order Zlib.refusing meeting flight).filterMap (forScene there)).filterMap (passedOn false) =
      collect (step Zlib.refusing) (told Zlib.refusing there ⟨1, 0⟩) meeting flight ++
        ((t.inbox there).filterMap relayed).filterMap (passedOn false) := by
  obtain ⟨t, hrun⟩ := run_flight
  exact ⟨t, hrun, run_told underway_meeting hrun along_flight.1 along_flight.2⟩

end HXService.CrossScene
