import HXService.Forwarding
import HXService.LocalSends

/-! What the center server puts on the way to the scene servers: messages that it
relays, and streams. -/

namespace HXService.CrossScene
open Bytes Runs PlayerManager ExternalLists HXMessageQueueAB

def IsForeign (id : UInt16) : Prop := id ∉ [idGlobalNotify, idUserLogin, idGlobalTransform]

instance (id : UInt16) : Decidable (IsForeign id) := inferInstanceAs (Decidable (¬_))

section Foreign
variable {pack : HXMessagePackage} (h : IsForeign pack.header.id)
include h

theorem IsForeign.not_command : ¬IsCommand pack := fun hcmd =>
  h (hcmd.1 ▸ List.mem_cons_self)

theorem IsForeign.not_news : ¬IsNews pack := by
  unfold IsForeign at h
  rintro (⟨hid, -⟩ | ⟨hid, -⟩ | hid) <;> exact h (by rw [hid]; decide)

theorem IsForeign.not_reaches (b : LinkID) : ¬Reaches pack b := by
  rintro (hcmd | ⟨hnews | hrequest, -⟩)
  · exact h.not_command hcmd
  · exact h.not_news hnews
  · exact h (hrequest.1 ▸ List.mem_cons_self)

end Foreign

section Filled
variable {z : Zlib} {pkt b b' : HXBigMessageQueue} {pack : HXMessagePackage} {id : UInt16}
variable {entry : Option HXMessagePackage} {packs : List HXMessagePackage}

def Continues (pack : HXMessagePackage) : Prop :=
  isBigStream pack.header.id ∧ pack.header.id ≠ idBigStreamBegin

theorem continues_sections {ptr : List UInt8} {mHeader : MBigHeader} {begin : HXMessagePackage}
    {ks : List Nat} {acc out : HXMessagePackage × List HXMessagePackage}
    (hacc : ∃ rest, acc.2 = begin :: rest ∧ ∀ pack ∈ rest, Continues pack)
    (hout : ks.foldlM (HXBigMessageQueue.addSection ptr mHeader) acc = .ok out) :
    ∃ rest, out.2 = begin :: rest ∧ ∀ pack ∈ rest, Continues pack := by
  induction ks generalizing acc with
  | nil =>
    obtain rfl := Except.ok.inj hout
    exact hacc
  | cons k ks ih =>
    rw [List.foldlM_cons] at hout
    obtain ⟨next, hnext, hout⟩ := bind_eq_ok.mp hout
    refine ih ?_ hout
    obtain ⟨start, -, hnext⟩ := bind_eq_ok.mp hnext
    obtain ⟨count, -, hnext⟩ := bind_eq_ok.mp hnext
    obtain ⟨data, -, hnext⟩ := bind_eq_ok.mp hnext
    obtain ⟨rest, hrest, hall⟩ := hacc
    rw [← Except.ok.inj hnext]
    refine ⟨_, congrArg (· ++ [_]) hrest, fun pack hpack => ?_⟩
    rcases List.mem_append.mp hpack with hpack | hpack
    · exact hall pack hpack
    · rw [List.mem_singleton.mp hpack]
      exact ⟨Or.inr (Or.inl rfl), HXBigMessageQueue.id_data_ne_begin⟩

theorem packages_filled (h : FilledAs z id pkt) : ∃ begin rest, pkt.mQueue = begin :: rest ∧
    begin.header.id = idBigStreamBegin ∧
    (∃ mHeader, MBigHeader.load (arriving LinkID.zero begin).body = .ok mHeader ∧ mHeader.id = id) ∧
    ∀ pack ∈ rest, Continues pack := by
  obtain ⟨q, data, hset⟩ := h
  obtain ⟨comp, -, hset⟩ := bind_eq_ok.mp hset
  obtain ⟨acc, hacc, hset⟩ := bind_eq_ok.mp hset
  obtain ⟨rest, hrest, hall⟩ := continues_sections ⟨[], rfl, by simp⟩ hacc
  rw [← Except.ok.inj hset]
  refine ⟨_, _, congrArg (· ++ [_]) hrest, rfl, ⟨_, MBigHeader.load_body rfl, ?_⟩, fun pack hpack => ?_⟩
  · unfold HXBigMessageQueue.markPackage arriving
    rw [MBigHeader.ofBytes_store]
    rfl
  · rcases List.mem_append.mp hpack with hpack | hpack
    · exact hall pack hpack
    · rw [List.mem_singleton.mp hpack]
      exact ⟨Or.inr (Or.inr rfl), by show idBigStreamEnd ≠ _; decide⟩

theorem mHeader_of_recvPackage {r : Bool × HXBigMessageQueue}
    (hbegin : pack.header.id ≠ idBigStreamBegin) (h : b.recvPackage z pack = .ok r) :
    r.2.mHeader = b.mHeader := by
  unfold HXBigMessageQueue.recvPackage at h
  rw [if_neg hbegin] at h
  split_ifs at h with hdata hsize hsection hend
  · rw [← Except.ok.inj h]
  · rw [← Except.ok.inj h]
  · obtain ⟨offset, -, h⟩ := bind_eq_ok.mp h
    obtain ⟨recvDataLength, -, h⟩ := bind_eq_ok.mp h
    split_ifs at h
    · rw [← Except.ok.inj h]
    · split at h
      · rw [← Except.ok.inj h]
      · cases h
  · obtain ⟨endHeader, -, h⟩ := bind_eq_ok.mp h
    split_ifs at h
    rw [← Except.ok.inj h]
  · obtain ⟨endHeader, -, h⟩ := bind_eq_ok.mp h
    split_ifs at h
    · rw [← Except.ok.inj h]
      rfl
    · rw [← Except.ok.inj h]
  · obtain ⟨endHeader, -, h⟩ := bind_eq_ok.mp h
    split_ifs at h
    · rw [← Except.ok.inj h]
    · rw [← Except.ok.inj h]
  · rw [← Except.ok.inj h]

theorem collected_continues {out : List HXMessagePackage × HXBigMessageQueue}
    (hpacks : ∀ pack ∈ packs, Continues pack) (h : collected z b packs = .ok out) :
    ∀ e ∈ out.1, e.header.id = b.mHeader.id := by
  induction packs generalizing b out with
  | nil =>
    obtain rfl := Except.ok.inj h
    simp
  | cons pack packs ih =>
    obtain ⟨first, hfirst, h⟩ := bind_eq_ok.mp h
    obtain ⟨rest, hrest, h⟩ := bind_eq_ok.mp h
    obtain ⟨hbig, hbegin⟩ := hpacks pack List.mem_cons_self
    rw [appended, if_pos (show isBigStream (arriving LinkID.zero pack).header.id from hbig)] at hfirst
    obtain ⟨received, hrecv, hfirst⟩ := bind_eq_ok.mp hfirst
    have hbegin' : (arriving LinkID.zero pack).header.id ≠ idBigStreamBegin := hbegin
    have hheader : received.2.mHeader = b.mHeader := mHeader_of_recvPackage hbegin' hrecv
    have hentries := ih (fun pack hpack => hpacks pack (List.mem_cons_of_mem _ hpack)) hrest
    rw [← Except.ok.inj h]
    intro e he
    split_ifs at hfirst
    · obtain ⟨temp, htemp, hfirst⟩ := bind_eq_ok.mp hfirst
      rw [← Except.ok.inj hfirst] at he hentries
      rcases List.mem_append.mp he with he | he
      · rw [List.mem_singleton.mp he, Forwarding.id_deliver htemp, hheader]
      · rw [hentries e he, hheader]
    · rw [← Except.ok.inj hfirst] at he hentries
      rcases List.mem_append.mp he with he | he
      · cases he
      · rw [hentries e he, hheader]

theorem collected_filled {out : List HXMessagePackage × HXBigMessageQueue} (hpkt : FilledAs z id pkt)
    (h : collected z b pkt.mQueue = .ok out) : ∀ e ∈ out.1, e.header.id = id := by
  obtain ⟨begin, rest, hqueue, hbegin, ⟨mHeader, hload, hid⟩, hrest⟩ := packages_filled hpkt
  rw [hqueue] at h
  obtain ⟨first, hfirst, h⟩ := bind_eq_ok.mp h
  obtain ⟨last, hlast, h⟩ := bind_eq_ok.mp h
  have hid' : (arriving LinkID.zero begin).header.id = idBigStreamBegin := hbegin
  rw [appended, if_pos (show isBigStream (arriving LinkID.zero begin).header.id from Or.inl hid'),
    HXBigMessageQueue.recvPackage, if_pos hid', hload] at hfirst
  obtain rfl := Except.ok.inj hfirst
  have hentries := collected_continues hrest hlast
  rw [← Except.ok.inj h]
  exact fun e he => (hentries e he).trans hid

end Filled

/-! ## The messages under way -/

def relayed : Outgoing → Option HXMessagePackage
  | .package msg => some msg
  | .big _ => none
  | .data _ _ _ => none

def Posted (z : Zlib) : Outgoing → Prop
  | .package msg => IsCommand msg ∨ IsNews msg ∨ IsRequest msg
  | .big pkt => Streamed z pkt
  | .data id _ _ => id = idFLVStreamReback

def Streaming (z : Zlib) : Sent → Prop
  | .client _ (.package _) => False
  | .client _ msg => Posted z msg
  | .center _ _ _ => False

section Center
variable {z : Zlib} {m : UserManager} {pack : HXMessagePackage} {given : CenterServer.Given}
variable {inbox : LinkID → List Outgoing} {out : UserManager × (LinkID → List Outgoing)} {b : LinkID}

theorem sendEach_post (msg : Outgoing) (links : List LinkID) :
    post.sendEach msg links inbox b = inbox b ++ List.replicate (links.count b) msg := by
  unfold Network.sendEach
  induction links generalizing inbox with
  | nil => exact (List.append_nil _).symm
  | cons linkID links ih =>
    rw [List.foldl_cons, ih]
    show Function.update inbox linkID (inbox linkID ++ [msg]) b ++ _ = _
    by_cases hb : b = linkID
    · subst hb
      rw [Function.update_self, List.count_cons_self, List.append_assoc]
      rfl
    · rw [Function.update_of_ne hb, List.count_cons_of_ne (Ne.symm hb)]

theorem keeps_streaming : post.Keeps (Streaming z) fun inbox' =>
    ∀ b, (inbox' b).filterMap relayed = (inbox b).filterMap relayed ∧
      ∀ msg ∈ inbox' b, msg ∈ inbox b ∨ Posted z msg := by
  rintro inbox' (⟨linkID, msg⟩ | ⟨id, id2, bytes⟩) hsent h b
  · show (Function.update inbox' linkID (inbox' linkID ++ [msg]) b).filterMap relayed = _ ∧
      ∀ msg' ∈ Function.update inbox' linkID (inbox' linkID ++ [msg]) b, _
    by_cases hb : b = linkID
    · subst hb
      rw [Function.update_self]
      cases msg with
      | package msg => cases hsent
      | big pkt =>
        refine ⟨by rw [List.filterMap_append, (h b).1]; exact List.append_nil _, fun msg hmsg => ?_⟩
        rcases List.mem_append.mp hmsg with hmsg | hmsg
        · exact (h b).2 msg hmsg
        · rw [List.mem_singleton.mp hmsg]
          exact Or.inr hsent
      | data id id2 bytes =>
        refine ⟨by rw [List.filterMap_append, (h b).1]; exact List.append_nil _, fun msg hmsg => ?_⟩
        rcases List.mem_append.mp hmsg with hmsg | hmsg
        · exact (h b).2 msg hmsg
        · rw [List.mem_singleton.mp hmsg]
          exact Or.inr hsent
    · rw [Function.update_of_ne hb]
      exact h b
  · cases hsent

/-- The center server relays a message to those it is for, and adds nothing else but
streams. -/
structure Relays (z : Zlib) (m : UserManager) (pack : HXMessagePackage)
    (inbox inbox' : LinkID → List Outgoing) : Prop where
  relayed : ∀ b, (inbox' b).filterMap relayed = (inbox b).filterMap relayed ++
    if Reaches pack b then List.replicate ((m.users.map User.mLinkID).count b) pack else []
  posted : ∀ b, ∀ msg ∈ inbox' b, msg ∈ inbox b ∨ Posted z msg

theorem relays_foreign {inbox' : LinkID → List Outgoing} (hforeign : IsForeign pack.header.id)
    (h : ∀ b, (inbox' b).filterMap CrossScene.relayed = (inbox b).filterMap CrossScene.relayed ∧
      ∀ msg ∈ inbox' b, msg ∈ inbox b ∨ Posted z msg) : Relays z m pack inbox inbox' := by
  refine ⟨fun b => ?_, fun b => (h b).2⟩
  rw [if_neg (hforeign.not_reaches b), List.append_nil]
  exact (h b).1

theorem relays_nothing (h : ∀ b, ¬Reaches pack b) : Relays z m pack inbox inbox := by
  refine ⟨fun b => ?_, fun b msg hmsg => Or.inl hmsg⟩
  rw [if_neg (h b), List.append_nil]

theorem relays_sendEach {links : List LinkID} (hpack : IsCommand pack ∨ IsNews pack ∨ IsRequest pack)
    (hlinks : ∀ b, links.count b =
      if Reaches pack b then (m.users.map User.mLinkID).count b else 0) :
    Relays z m pack inbox (post.sendEach (.package pack) links inbox) := by
  constructor
  · intro b
    have hone : CrossScene.relayed (.package pack) = some pack := rfl
    rw [sendEach_post, List.filterMap_append, List.filterMap_replicate_of_some hone, hlinks]
    split_ifs <;> rfl
  · intro b msg hmsg
    rw [sendEach_post] at hmsg
    rcases List.mem_append.mp hmsg with hmsg | hmsg
    · exact Or.inl hmsg
    · rw [List.eq_of_mem_replicate hmsg]
      exact Or.inr hpack

theorem relays_forwardCommand (hpack : IsCommand pack) :
    Relays z m pack inbox (m.forwardCommand post pack inbox) := by
  refine relays_sendEach (Or.inl hpack) fun b => ?_
  exact (if_pos (show Reaches pack b from Or.inl hpack)).symm

theorem relays_forwardMsg (hpack : IsNews pack ∨ IsRequest pack) (hcmd : ¬IsCommand pack) :
    Relays z m pack inbox (m.forwardMsg post pack.mLinkid pack inbox) := by
  rw [Identity.forwardMsg_eq]
  refine relays_sendEach (Or.inr hpack) fun b => ?_
  by_cases hsid : pack.mLinkid.sid = b.sid
  · have hreaches : ¬Reaches pack b := by
      rintro (h | ⟨-, h⟩)
      · exact hcmd h
      · exact h hsid
    rw [if_neg hreaches]
    refine List.count_eq_zero_of_not_mem fun hmem => ?_
    exact absurd hsid (of_decide_eq_true (List.mem_filter.mp hmem).2)
  · rw [if_pos (show Reaches pack b from Or.inr ⟨hpack, hsid⟩)]
    exact List.count_filter (decide_eq_true hsid)

open CenterServer in
theorem relays_globalNotify (hid : pack.header.id = idGlobalNotify) :
    Relays z m pack inbox (handleGlobalNotify post m pack inbox) := by
  unfold handleGlobalNotify
  split_ifs with hcmd hexternal
  · exact relays_forwardCommand ⟨hid, hcmd⟩
  · refine relays_forwardMsg ?_ fun h => hcmd h.2
    simp only [List.mem_cons, List.not_mem_nil, or_false] at hexternal
    rcases hexternal with h | h | h
    · exact Or.inl (Or.inl ⟨hid, by rw [h]; decide⟩)
    · exact Or.inl (Or.inl ⟨hid, by rw [h]; decide⟩)
    · exact Or.inr ⟨hid, h⟩
  · refine relays_nothing fun b => ?_
    simp only [List.mem_cons, List.not_mem_nil, or_false, not_or] at hcmd hexternal
    rintro (h | ⟨(⟨-, h⟩ | ⟨hid', -⟩ | hid') | h, -⟩)
    · simp only [IsCommand, List.mem_cons, List.not_mem_nil, or_false] at h
      tauto
    · simp only [List.mem_cons, List.not_mem_nil, or_false] at h
      tauto
    · rw [hid] at hid'
      exact absurd hid' (by decide)
    · rw [hid] at hid'
      exact absurd hid' (by decide)
    · exact hexternal.2.2 h.2

open CenterServer in
theorem relays_handle (h : handle post z m pack given inbox = .ok out) :
    Relays z m pack inbox out.2 := by
  have hsame : ∀ b, (inbox b).filterMap relayed = (inbox b).filterMap relayed ∧
      ∀ msg ∈ inbox b, msg ∈ inbox b ∨ Posted z msg := fun b => ⟨rfl, fun msg hmsg => Or.inl hmsg⟩
  have hquiet (hforeign : IsForeign pack.header.id) : Relays z m pack inbox inbox :=
    relays_foreign hforeign hsame
  unfold handle at h
  dsimp only at h
  split_ifs at h with hconnect hdisconnect hlogin hstate hnotify htransform huser hreback hheader hstream
  · rw [← Except.ok.inj h]
    exact hquiet (by rw [hconnect]; decide)
  · rw [← Except.ok.inj h]
    exact hquiet (by rw [hdisconnect]; decide)
  · rw [← Except.ok.inj h]
    refine relays_forwardMsg (Or.inl (Or.inr (Or.inl ⟨hlogin, hstate⟩))) fun hcmd => ?_
    exact absurd (hlogin.symm.trans hcmd.1) (by decide)
  · rw [← Except.ok.inj h]
    refine relays_nothing fun b => ?_
    rintro (hcmd | ⟨(⟨hid, -⟩ | ⟨-, hid2⟩ | hid) | hrequest, -⟩)
    · exact absurd (hlogin.symm.trans hcmd.1) (by decide)
    · exact absurd (hlogin.symm.trans hid) (by decide)
    · exact hstate hid2
    · exact absurd (hlogin.symm.trans hid) (by decide)
    · exact absurd (hlogin.symm.trans hrequest.1) (by decide)
  · rw [← Except.ok.inj h]
    exact relays_globalNotify hnotify
  · rw [← Except.ok.inj h]
    refine relays_forwardMsg (Or.inl (Or.inr (Or.inr htransform))) fun hcmd => ?_
    exact absurd (htransform.symm.trans hcmd.1) (by decide)
  · obtain ⟨data, -, h⟩ := bind_eq_ok.mp h
    rw [← Except.ok.inj h]
    exact hquiet (by rw [huser]; decide)
  · obtain ⟨data, -, h⟩ := bind_eq_ok.mp h
    rw [← Except.ok.inj h]
    exact hquiet (by rw [hreback]; decide)
  · obtain ⟨data, -, h⟩ := bind_eq_ok.mp h
    rw [← Except.ok.inj h]
    exact hquiet (by rw [hheader]; decide)
  · refine relays_foreign (by rw [hstream]; decide) ?_
    obtain ⟨body, -, h⟩ := bind_eq_ok.mp h
    dsimp only at h
    split_ifs at h
    unfold UserManager.sendFlvStream at h
    obtain ⟨pkt, hpkt, h⟩ := bind_eq_ok.mp h
    obtain ⟨sent, hsent, h⟩ := bind_eq_ok.mp h
    have hpkt' : Streamed z pkt := Or.inr ⟨_, _, hpkt⟩
    have hback (bytes : List UInt8) := @keeps_streaming z inbox inbox
      (.client pack.mLinkid (.data idFLVStreamReback 0 bytes)) rfl hsame
    have hnext := (@keeps_streaming z inbox).sendFlvStreamTo (fun _ _ hpkt => Or.inl hpkt) (fun _ => hpkt')
      (by simp [Streaming, Posted]) hsent (hback _)
    rw [← Except.ok.inj h]
    exact hnext
  · rw [← Except.ok.inj h]
    refine hquiet ?_
    simp only [IsForeign, List.mem_cons, List.not_mem_nil, or_false, not_or]
    exact ⟨hnotify, hlogin, htransform⟩

end Center
end HXService.CrossScene
