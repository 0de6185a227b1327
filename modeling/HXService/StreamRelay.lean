import HXService.Commands
import HXService.Reception
import HXService.RoundTrip
import HXService.StreamTrailer

/-! The FLV streams. The center server puts its time into a stream and sends it to the
scene servers, which send it to their players. -/

namespace HXService.CrossScene
open Bytes Runs PlayerManager ExternalLists HXMessageQueueAB HXBigMessageQueue Sectioning

/-! ## The bytes of a stream -/

def payload (msg : HXBigMessageQueue) : List UInt8 :=
  (dataSections msg.mQueue).flatMap HXMessagePackage.bodyBytes

def streamBytes : Outgoing → Option (List UInt8)
  | .package _ => none
  | .big msg => if msg.mHeader.id = idFLVStream then some (payload msg) else none
  | .data _ _ _ => none

section Payload
variable {z : Zlib} {data : List UInt8} {pkt : HXBigMessageQueue} {b : HXBigMessageQueue}
variable {packs : List HXMessagePackage} {contents : List Content}

theorem flatMap_chunk (data : List UInt8) (n : Nat) :
    (List.range n).flatMap (chunk data) = data.take (n * maxBodyLength) := by
  induction n with
  | zero => simp
  | succ n ih =>
    rw [List.range_succ, List.flatMap_append, ih, List.flatMap_singleton, Nat.succ_mul, List.take_add]
    rfl

theorem payload_packages {mHeader : MBigHeader} (h : pkt.mQueue = packages mHeader data) :
    payload pkt = data := by
  have hmax : maxBodyLength = 32768 := rfl
  have hall : data.length ≤ count data * maxBodyLength := by
    unfold count
    rw [hmax]
    omega
  have hbodies : (sections data (beginPack mHeader) (count data)).flatMap HXMessagePackage.bodyBytes =
      (List.range (count data)).flatMap (chunk data) := by
    unfold sections
    rw [List.flatMap_map]
    congr 1
    funext i
    exact bodyBytes_section
  unfold payload
  rw [h, dataSections_packages, hbodies, flatMap_chunk, List.take_of_length_le hall]

theorem streamBytes_filled {q : HXBigMessageQueue} (hfits : count data < 65536)
    (h : q.setBigPackage z idFLVStream 0 data 0 = .ok pkt) : streamBytes (.big pkt) = some data := by
  have hid : pkt.mHeader.id = idFLVStream := mHeader_filled ⟨q, data, h⟩
  rw [setBigPackage_plain z q hfits] at h
  have hqueue : pkt.mQueue = packages (plainHeader idFLVStream 0 data) data := by
    rw [← Except.ok.inj h]
  exact (if_pos hid).trans (congrArg some (payload_packages hqueue))

theorem streamBytes_header (h : FilledAs z idFLVSequenceHeader pkt) : streamBytes (.big pkt) = none := by
  refine if_neg ?_
  rw [mHeader_filled h]
  decide

theorem collected_awaits (h : Awaits z b packs contents) :
    ∃ out, collected z b packs = .ok out ∧ out.1.map contentOf = contents := by
  induction packs generalizing b contents with
  | nil => exact ⟨_, rfl, h.nothing.symm⟩
  | cons pack packs ih =>
    obtain ⟨e, b', contents', happended, hcontents, hrest⟩ :=
      h.next (show Copies (arriving LinkID.zero pack) pack from ⟨rfl, rfl, rfl⟩)
    obtain ⟨out, hout, hmap⟩ := ih hrest
    refine ⟨(e.toList ++ out.1, out.2), ?_, ?_⟩
    · rw [collected, happended, ok_bind, hout]
      rfl
    · rw [List.map_append, hmap, hcontents]

end Payload

/-! ## What is sent of streams -/

def toLink (l : LinkID) : Sent → Option Outgoing
  | .client linkID msg => if linkID = l then some msg else none
  | .center _ _ _ => none

def streamTo (l : LinkID) (sent : Sent) : Option (List UInt8) := (toLink l sent).bind streamBytes

def Streamless : Sent → Prop
  | .client _ msg => streamBytes msg = none
  | .center _ _ _ => True

section Sends
variable {z : Zlib} {l : LinkID} {w : List Sent} {data : List UInt8} {pkt : HXBigMessageQueue}

theorem streamTo_streamless {sent : Sent} (h : Streamless sent) : streamTo l sent = none := by
  cases sent with
  | client linkID msg =>
    show (if linkID = l then some msg else none).bind streamBytes = none
    split_ifs
    · exact h
    · rfl
  | center id id2 bytes => rfl

theorem keeps_streamTo : Network.notebook.Keeps Streamless fun w' =>
    w'.filterMap (streamTo l) = w.filterMap (streamTo l) := by
  intro w' sent hsent h
  rw [Network.perform_notebook, List.filterMap_append, h, List.filterMap_cons,
    streamTo_streamless hsent]
  exact List.append_nil _

theorem send_notebook (linkID : LinkID) (msgs : List Outgoing) (w : List Sent) :
    msgs.foldl (fun w msg => (Network.notebook.send w linkID msg).2) w = w ++ msgs.map (.client linkID) := by
  induction msgs generalizing w with
  | nil => exact (List.append_nil w).symm
  | cons msg msgs ih =>
    rw [List.foldl_cons, ih]
    exact List.append_assoc w _ _

theorem streamTo_before {linkID : LinkID} {msgs : List Outgoing}
    (hmsgs : ∀ msg ∈ msgs, streamBytes msg = none) (hpkt : streamBytes (.big pkt) = some data) :
    ((msgs ++ [Outgoing.big pkt]).map (Sent.client linkID)).filterMap (streamTo l) =
      if linkID = l then [data] else [] := by
  have hnone : (msgs.map (Sent.client linkID)).filterMap (streamTo l) = [] := by
    rw [List.filterMap_eq_nil_iff]
    intro sent hsent
    obtain ⟨msg, hmsg, rfl⟩ := List.mem_map.mp hsent
    exact streamTo_streamless (hmsgs msg hmsg)
  have hlast : streamTo l (.client linkID (.big pkt)) = if linkID = l then some data else none := by
    show (if linkID = l then some (Outgoing.big pkt) else none).bind streamBytes = _
    split_ifs
    · exact hpkt
    · rfl
  rw [List.map_append, List.filterMap_append, hnone, List.nil_append, List.map_singleton,
    List.filterMap_cons, hlast]
  split_ifs <;> rfl

theorem streams_sendFlvStreamTo {α : Type} {r : Receiving α} {m : FlvSeqHeaderMap}
    {before : Nat → α → List Outgoing} {i : Nat} {change : Bool} {users : List α}
    {out : List α × Bool × List Sent} (hpkt : streamBytes (.big pkt) = some data)
    (hbefore : ∀ i user, ∀ msg ∈ before i user, streamBytes msg = none)
    (hout : sendFlvStreamTo Network.notebook z r m before pkt i change w users = .ok out) :
    out.2.2.filterMap (streamTo l) = w.filterMap (streamTo l) ++
      List.replicate (users.filter fun user => !r.skipped user && r.linkID user = l).length data := by
  induction users generalizing i change w out with
  | nil =>
    obtain rfl := Except.ok.inj hout
    exact (List.append_nil _).symm
  | cons user rest ih =>
    unfold sendFlvStreamTo at hout
    split_ifs at hout with hskip
    · obtain ⟨out', hout', hout⟩ := bind_eq_ok.mp hout
      have hrest := ih hout'
      rw [← Except.ok.inj hout, List.filter_cons_of_neg (by simp [hskip])]
      exact hrest
    · obtain ⟨headers, hheaders, hout⟩ := bind_eq_ok.mp hout
      obtain ⟨out', hout', hout⟩ := bind_eq_ok.mp hout
      have hheader : headers.2.2.filterMap (streamTo l) = w.filterMap (streamTo l) :=
        (@keeps_streamTo l w).sendFlvHeadersTo (fun _ _ h => streamBytes_header h) hheaders rfl
      have hrest := ih hout'
      rw [send_notebook, List.filterMap_append, hheader, streamTo_before (hbefore i user) hpkt] at hrest
      rw [← Except.ok.inj hout]
      refine hrest.trans ?_
      rw [List.append_assoc]
      congr 1
      by_cases hl : r.linkID user = l
      · rw [if_pos hl, List.filter_cons_of_pos (by simp [hskip, hl])]
        rfl
      · rw [if_neg hl, List.filter_cons_of_neg (by simp [hl])]
        rfl

theorem keeps_forall (L : Sent → Prop) : Network.notebook.Keeps L fun w' => ∀ sent ∈ w', L sent := by
  intro w' sent hsent h sent' hsent'
  rw [Network.perform_notebook] at hsent'
  rcases List.mem_append.mp hsent' with hsent' | hsent'
  · exact h sent' hsent'
  · rw [List.mem_singleton.mp hsent']
    exact hsent

theorem streams_of_streamless {w' : List Sent} (h : ∀ sent ∈ w', Streamless sent) :
    w'.filterMap (streamTo l) = [] :=
  List.filterMap_eq_nil_iff.mpr fun sent hsent => streamTo_streamless (h sent hsent)

end Sends

/-! ## The center server -/

/-- `ID_FLV_Stream` with the time of the center server in the trailer. -/
def stamped (pack : HXMessagePackage) (now : UInt64) : List UInt8 :=
  (StreamTrailer.stamp (StreamTrailer.memoryOf pack) pack.bodyLength now).2

def streamOut (pack : HXMessagePackage) (given : CenterServer.Given) : Option (List UInt8) :=
  if pack.header.id = idFLVStream then some (stamped pack (given.now 0)) else none

/-- The scene server is connected by one connection, and is no source of streams. -/
def Watching (m : UserManager) (b : LinkID) : Prop :=
  (m.users.filter (·.mLinkID = b)).map (fun user => (user.mUserID, user.mIsOBSClient)) =
    [(b.sid.toNat, false)]

/-- A stream is of another source, and its sections can be counted. -/
def Foreseen (pack : HXMessagePackage) (b : LinkID) : Prop :=
  pack.header.id = idFLVStream → pack.mLinkid.sid ≠ b.sid ∧ count pack.bodyBytes < 65536

def Whole (z : Zlib) : Outgoing → Prop
  | .package _ => True
  | .big msg => msg.mHeader.id = idFLVStream → ∃ m : Prepared z, m.msg = msg ∧ m.id = idFLVStream
  | .data _ _ _ => True

def WholeSent (z : Zlib) : Sent → Prop
  | .client _ msg => Whole z msg
  | .center _ _ _ => True

section Center
variable {z : Zlib} {m : UserManager} {pack : HXMessagePackage} {given : CenterServer.Given} {b : LinkID}
variable {out : UserManager × List Sent} {inbox : LinkID → List Outgoing}

theorem performAll_post (sends : List Sent) (b : LinkID) :
    post.performAll inbox sends b = inbox b ++ sends.filterMap (toLink b) := by
  induction sends generalizing inbox with
  | nil => exact (List.append_nil _).symm
  | cons sent sends ih =>
    show post.performAll (post.perform inbox sent) sends b = _
    rw [ih]
    cases sent with
    | client linkID msg =>
      show Function.update inbox linkID (inbox linkID ++ [msg]) b ++ _ = _
      by_cases hb : linkID = b
      · subst hb
        rw [Function.update_self, List.append_assoc]
        simp [toLink]
      · rw [Function.update_of_ne (Ne.symm hb)]
        simp [toLink, hb]
    | center id id2 bytes => rfl

theorem Watching.filter_receivers {m' : UserManager} (h : Watching m b)
    (hsame : m'.users.filter (·.mLinkID = b) = m.users.filter (·.mLinkID = b)) :
    (m'.users.filter fun user => !user.mIsOBSClient && user.mLinkID = b).length = 1 := by
  unfold Watching at h
  obtain ⟨user, huser⟩ := List.length_eq_one_iff.mp
    (show (m.users.filter (·.mLinkID = b)).length = 1 by
      rw [← List.length_map (fun user : User => (user.mUserID, user.mIsOBSClient)), h]
      rfl)
  rw [huser, List.map_singleton, List.singleton_inj] at h
  have hobs : user.mIsOBSClient = false := congrArg Prod.snd h
  rw [← List.filter_filter, hsame, huser, List.filter_cons_of_pos (by simp [hobs])]
  rfl

theorem Watching.setOBSStreamClient {sid : UInt16} (h : Watching m b) (hsid : sid ≠ b.sid) :
    (m.setOBSStreamClient sid.toNat).users.filter (·.mLinkID = b) = m.users.filter (·.mLinkID = b) := by
  refine Roster.filter_modify (fun user huser hlink hid => ?_) fun _ => rfl
  have hmem : (user.mUserID, user.mIsOBSClient) ∈ [(b.sid.toNat, false)] := by
    rw [← show _ = _ from h]
    exact List.mem_map_of_mem (List.mem_filter.mpr ⟨huser, hlink⟩)
  have hsame : user.mUserID = b.sid.toNat := congrArg Prod.fst (List.mem_singleton.mp hmem)
  exact hsid (UInt16.toNat_inj.mp (hid.symm.trans hsame))

open CenterServer in
theorem packages_centerHandle (hid : pack.header.id ≠ idFLVStream)
    (h : handle Network.notebook z m pack given [] = .ok out) :
    ∀ sent ∈ out.2, ∃ linkID, sent = .client linkID (.package pack) := by
  have hempty : ∀ sent ∈ ([] : List Sent), ∃ linkID, sent = .client linkID (.package pack) := by simp
  have heach : ∀ links : List LinkID, ∀ sent ∈ Network.notebook.sendEach (.package pack) links [],
      ∃ linkID, sent = .client linkID (.package pack) := by
    intro links sent hsent
    rw [sendEach_notebook, List.nil_append] at hsent
    obtain ⟨linkID, -, rfl⟩ := List.mem_map.mp hsent
    exact ⟨linkID, rfl⟩
  unfold handle handleGlobalNotify UserManager.forwardCommand at h
  simp only [Identity.forwardMsg_eq] at h
  split_ifs at h
  · rw [← Except.ok.inj h]
    exact hempty
  · rw [← Except.ok.inj h]
    exact hempty
  · rw [← Except.ok.inj h]
    exact heach _
  · rw [← Except.ok.inj h]
    exact hempty
  · rw [← Except.ok.inj h]
    exact heach _
  · rw [← Except.ok.inj h]
    exact heach _
  · rw [← Except.ok.inj h]
    exact hempty
  · rw [← Except.ok.inj h]
    exact heach _
  · obtain ⟨data, -, h⟩ := bind_eq_ok.mp h
    rw [← Except.ok.inj h]
    exact hempty
  · obtain ⟨data, -, h⟩ := bind_eq_ok.mp h
    rw [← Except.ok.inj h]
    exact hempty
  · obtain ⟨data, -, h⟩ := bind_eq_ok.mp h
    rw [← Except.ok.inj h]
    exact hempty
  · rw [← Except.ok.inj h]
    exact hempty

theorem length_stamped (pack : HXMessagePackage) (now : UInt64) :
    (stamped pack now).length = pack.bodyLength := Memory.length_load

/-- Of a trailer in the body only `dTimer` is changed. -/
theorem stamped_eq {now : UInt64} (h : DeclaredBody.Received pack)
    (hlong : FlvStreamReback.size ≤ pack.bodyLength) :
    stamped pack now =
      patch pack.bodyBytes (pack.bodyLength - FlvStreamReback.size) (leBytes 8 now.toNat) :=
  StreamTrailer.payload_patched (StreamTrailer.holds_memoryOf h).body hlong

open CenterServer in
theorem streams_centerHandle (hid : pack.header.id = idFLVStream) (hwatch : Watching m b)
    (hsource : pack.mLinkid.sid ≠ b.sid) (hfits : count pack.bodyBytes < 65536)
    (h : handle Network.notebook z m pack given [] = .ok out) :
    out.2.filterMap (streamTo b) = [stamped pack (given.now 0)] ∧
      ∀ sent ∈ out.2, WholeSent z sent := by
  have hstream : handle Network.notebook z m pack given [] =
      handleFlvStream Network.notebook z m pack given [] := by
    unfold handle
    simp only [hid]
    rfl
  rw [hstream] at h
  obtain ⟨body, hbody, h⟩ := bind_eq_ok.mp h
  split_ifs at h
  dsimp only at h
  unfold UserManager.sendFlvStream at h
  obtain ⟨pkt, hpkt, h⟩ := bind_eq_ok.mp h
  obtain ⟨sent, hsent, h⟩ := bind_eq_ok.mp h
  have hcount : count (stamped pack (given.now 0)) < 65536 := by
    have hreceived : DeclaredBody.Received pack := by
      unfold bodyBlock at hbody
      split_ifs at hbody with hfit
      exact hfit
    rw [count, DeclaredBody.length_bodyBytes hreceived] at hfits
    rwa [count, length_stamped]
  have hstamp : streamBytes (.big pkt) = some (stamped pack (given.now 0)) :=
    streamBytes_filled hcount hpkt
  rw [← Except.ok.inj h]
  constructor
  · refine (streams_sendFlvStreamTo hstamp (by simp [streamBytes]) hsent).trans ?_
    show _ ++ List.replicate ((m.setOBSStreamClient pack.mLinkid.sid.toNat).users.filter fun user =>
      !user.mIsOBSClient && user.mLinkID = b).length _ = _
    rw [hwatch.filter_receivers (hwatch.setOBSStreamClient hsource)]
    exact congrArg (· ++ [stamped pack (given.now 0)])
      (streams_of_streamless (by simp [Network.notebook, Streamless, streamBytes]))
  · have hwhole : ∀ linkID, WholeSent z (.client linkID (.big pkt)) := fun _ _ =>
      ⟨⟨idFLVStream, 0, _, hcount, pkt, _, pkt, hpkt, rfl⟩, rfl, rfl⟩
    have hheader : ∀ linkID pkt, FilledAs z idFLVSequenceHeader pkt →
        WholeSent z (.client linkID (.big pkt)) := by
      intro linkID pkt hpkt hid
      rw [mHeader_filled hpkt] at hid
      exact absurd hid (by decide)
    exact (keeps_forall (WholeSent z)).sendFlvStreamTo hheader hwhole (by simp [WholeSent, Whole]) hsent
      (by simp [Network.notebook, WholeSent, Whole])

open CenterServer in
theorem filterMap_streamOut (hwatch : Watching m b) (hforeseen : Foreseen pack b)
    (h : handle Network.notebook z m pack given [] = .ok out) :
    out.2.filterMap (streamTo b) = (streamOut pack given).toList ∧ ∀ sent ∈ out.2, WholeSent z sent := by
  unfold streamOut
  by_cases hid : pack.header.id = idFLVStream
  · obtain ⟨hsource, hfits⟩ := hforeseen hid
    rw [if_pos hid]
    exact streams_centerHandle hid hwatch hsource hfits h
  · have hpackages := packages_centerHandle hid h
    rw [if_neg hid]
    constructor
    · refine streams_of_streamless fun sent hsent => ?_
      obtain ⟨linkID, rfl⟩ := hpackages sent hsent
      rfl
    · intro sent hsent
      obtain ⟨linkID, rfl⟩ := hpackages sent hsent
      trivial

theorem takesAll_post : post.TakesAll := fun _ _ _ => rfl

open CenterServer in
/-- What the center server adds of streams to what is under way to a scene server. -/
theorem streams_inbox {out : UserManager × (LinkID → List Outgoing)} (hwatch : Watching m b)
    (hforeseen : Foreseen pack b) (hwhole : ∀ msg ∈ inbox b, Whole z msg)
    (h : handle post z m pack given inbox = .ok out) :
    (out.2 b).filterMap streamBytes =
        (inbox b).filterMap streamBytes ++ (streamOut pack given).toList ∧
      ∀ msg ∈ out.2 b, Whole z msg := by
  rw [(Network.handlers_recorded takesAll_post inbox).1] at h
  cases hsends : handle Network.notebook z m pack given [] with
  | error fault =>
    rw [hsends] at h
    cases h
  | ok y =>
    obtain ⟨hstreams, hsent⟩ := filterMap_streamOut hwatch hforeseen hsends
    rw [hsends] at h
    rw [← Except.ok.inj h]
    show (post.performAll inbox y.2 b).filterMap streamBytes = _ ∧ ∀ msg ∈ post.performAll inbox y.2 b, _
    rw [performAll_post]
    constructor
    · rw [List.filterMap_append, List.filterMap_filterMap]
      exact congrArg _ hstreams
    · intro msg hmsg
      rcases List.mem_append.mp hmsg with hmsg | hmsg
      · exact hwhole msg hmsg
      · obtain ⟨sent, hmem, hlink⟩ := List.mem_filterMap.mp hmsg
        have hgood := hsent sent hmem
        cases sent with
        | client linkID msg' =>
          change (if linkID = b then some msg' else none) = some msg at hlink
          split_ifs at hlink
          obtain rfl := Option.some.inj hlink
          exact hgood
        | center id id2 bytes => cases hlink

end Center

/-! ## The scene servers -/

/-- The client is one of the players, by one connection, whatever its type. -/
def Present (m : PlayerManager) (l : LinkID) : Prop := (m.players.filter (·.mLinkID = l)).length = 1

section Scene
variable {z : Zlib} {m : PlayerManager} {pack : HXMessagePackage} {l : LinkID} {w : List Sent}
variable {out : PlayerManager × List Sent} {q : HXBigMessageQueue} {msg : Outgoing}

open SceneServer in
theorem streams_handleCenter_other (hid : pack.header.id ≠ idFLVStream)
    (h : handleCenter Network.notebook z m pack w = .ok out) :
    out.2.filterMap (streamTo l) = w.filterMap (streamTo l) := by
  have heach (links : List LinkID) : (Network.notebook.sendEach (.package pack) links w).filterMap
      (streamTo l) = w.filterMap (streamTo l) := by
    rw [sendEach_notebook, List.filterMap_append]
    refine (congrArg _ (streams_of_streamless fun sent hsent => ?_)).trans (List.append_nil _)
    obtain ⟨linkID, -, rfl⟩ := List.mem_map.mp hsent
    rfl
  by_cases hcmd : IsCommand pack
  · rw [handleCenter_command hcmd, broadcastControlCmd, sendCmdTo_eq fits_nil,
      Network.performAll_notebook] at h
    rw [← Except.ok.inj h]
    refine (List.filterMap_append).trans ?_
    refine (congrArg _ (streams_of_streamless fun sent hsent => ?_)).trans (List.append_nil _)
    obtain ⟨ply, -, rfl⟩ := List.mem_map.mp hsent
    rfl
  by_cases hnews : IsNews pack
  · rw [handleCenter_news hnews] at h
    rw [← Except.ok.inj h]
    exact heach _
  unfold handleCenter handleCenterNotify at h
  dsimp only at h
  split_ifs at h with hnotify hcommand hexternal hrequest hlogin hstate htransform hheader
  · exact absurd ⟨hnotify, hcommand⟩ hcmd
  · exact absurd (Or.inl ⟨hnotify, hexternal⟩) hnews
  · rw [← Except.ok.inj h]
    unfold PlayerManager.sendClientListToCenterServer
    dsimp only
    split_ifs
    · rfl
    · exact @keeps_streamTo l w w (.center _ _ _) trivial rfl
  · rw [← Except.ok.inj h]
  · exact absurd (Or.inr (Or.inl ⟨hlogin, hstate⟩)) hnews
  · rw [← Except.ok.inj h]
  · exact absurd (Or.inr (Or.inr htransform)) hnews
  · obtain ⟨data, -, h⟩ := bind_eq_ok.mp h
    rw [← Except.ok.inj h]
  · rw [← Except.ok.inj h]

theorem streams_handleAll_other {packs : List HXMessagePackage}
    (hpacks : ∀ pack ∈ packs, pack.header.id ≠ idFLVStream)
    (h : handleAll Network.notebook z m packs w = .ok out) :
    out.2.filterMap (streamTo l) = w.filterMap (streamTo l) := by
  unfold handleAll at h
  induction packs generalizing m w with
  | nil =>
    obtain rfl := Except.ok.inj h
    rfl
  | cons pack packs ih =>
    rw [List.foldlM_cons] at h
    obtain ⟨next, hnext, h⟩ := bind_eq_ok.mp h
    exact (ih (fun pack hpack => hpacks pack (List.mem_cons_of_mem _ hpack)) h).trans
      (streams_handleCenter_other (hpacks pack List.mem_cons_self) hnext)

open SceneServer in
theorem streams_handleCenter (hid : pack.header.id = idFLVStream)
    (hlength : 0 ≤ pack.header.length.toInt) (hpresent : Present m l)
    (hfits : count pack.bodyBytes < 65536) (h : handleCenter Network.notebook z m pack [] = .ok out) :
    out.2.filterMap (streamTo l) = [pack.bodyBytes] := by
  have hstream : handleCenter Network.notebook z m pack [] =
      (bodyBlock pack pack.bodyLength >>= fun data => m.sendFlvStream Network.notebook z data.bytes []) := by
    unfold handleCenter
    simp only [hid, if_neg (not_lt.mpr hlength)]
    rfl
  rw [hstream] at h
  obtain ⟨body, hbody, h⟩ := bind_eq_ok.mp h
  have hbytes : body.bytes = pack.bodyBytes := by
    unfold bodyBlock at hbody
    split_ifs at hbody
    rw [← Except.ok.inj hbody]
    rfl
  rw [hbytes] at h
  obtain ⟨pkt, hpkt, h⟩ := bind_eq_ok.mp h
  obtain ⟨sent, hsent, h⟩ := bind_eq_ok.mp h
  rw [← Except.ok.inj h]
  refine (streams_sendFlvStreamTo (streamBytes_filled hfits hpkt) (by simp) hsent).trans ?_
  show [] ++ List.replicate (m.players.filter fun ply => !false && ply.mLinkID = l).length _ = _
  rw [show (m.players.filter fun ply => !false && ply.mLinkID = l) = m.players.filter (·.mLinkID = l) by
    simp, hpresent]
  rfl

theorem streams_receive {out : (PlayerManager × List Sent) × HXBigMessageQueue}
    (hposted : Posted z msg) (hwhole : Whole z msg) (hpresent : Present m l)
    (h : receive Network.notebook z m q msg [] = .ok out) :
    out.1.2.filterMap (streamTo l) = (streamBytes msg).toList := by
  by_cases hstream : ∃ pkt, msg = .big pkt ∧ pkt.mHeader.id = idFLVStream
  · obtain ⟨pkt, rfl, hid⟩ := hstream
    obtain ⟨stream, hmsg, hstream⟩ := hwhole hid
    obtain ⟨packs, hpacks, h⟩ := bind_eq_ok.mp h
    obtain rfl := Except.ok.inj hpacks
    obtain ⟨arrived, harrived, h⟩ := bind_eq_ok.mp h
    obtain ⟨all, hall, h⟩ := bind_eq_ok.mp h
    have hawaits : Awaits z q pkt.mQueue [stream.content] := by
      have hbetween := Awaits.between q [Call.big stream]
      rw [List.flatMap_singleton, List.map_singleton] at hbetween
      rw [← hmsg]
      exact hbetween
    obtain ⟨made, hmade, hcontents⟩ := collected_awaits hawaits
    obtain rfl := Except.ok.inj (harrived.symm.trans hmade)
    obtain ⟨entry, hentry⟩ := List.length_eq_one_iff.mp
      (show arrived.1.length = 1 by rw [← List.length_map contentOf, hcontents]; rfl)
    rw [hentry, List.map_singleton, List.singleton_inj] at hcontents
    have hentryId : entry.header.id = idFLVStream := (congrArg Content.id hcontents).trans hstream
    have hbody : entry.bodyBytes = stream.data := congrArg Content.body hcontents
    have hlength : entry.header.length.toInt = stream.data.length := congrArg Content.length hcontents
    have hqueue : pkt.mQueue = packages stream.header stream.data := by
      rw [← hmsg]
      exact stream.mQueue_eq
    have hbytes : streamBytes (.big pkt) = some stream.data :=
      (if_pos hid).trans (congrArg some (payload_packages hqueue))
    rw [← Except.ok.inj h, hbytes]
    rw [hentry, handleAll, List.foldlM_cons] at hall
    obtain ⟨next, hnext, hall⟩ := bind_eq_ok.mp hall
    obtain rfl := Except.ok.inj hall
    rw [streams_handleCenter hentryId (by omega) hpresent (by rw [hbody]; exact stream.fits) hnext, hbody]
    rfl
  · have hnone : streamBytes msg = none := by
      cases msg with
      | package pack => rfl
      | big pkt => exact if_neg fun hid => hstream ⟨pkt, rfl, hid⟩
      | data id id2 bytes => rfl
    rw [hnone]
    cases hrelayed : relayed msg with
    | some pack =>
      cases msg with
      | package pack =>
        rw [receive_package (not_isBigStream_of_posted hposted)] at h
        cases hhandled : SceneServer.handleCenter Network.notebook z m (arriving LinkID.zero pack) [] with
        | error fault =>
          rw [hhandled] at h
          cases h
        | ok y =>
          rw [hhandled] at h
          rw [← Except.ok.inj h]
          refine streams_handleCenter_other (l := l) ?_ hhandled
          show pack.header.id ≠ idFLVStream
          rcases hposted with hcmd | (⟨hid, -⟩ | ⟨hid, -⟩ | hid) | hrequest
          · rw [hcmd.1]
            decide
          · rw [hid]
            decide
          · rw [hid]
            decide
          · rw [hid]
            decide
          · rw [hrequest.1]
            decide
      | big pkt => cases hrelayed
      | data id id2 bytes => cases hrelayed
    | none =>
      obtain ⟨entries, hentries, hall⟩ := receive_unrelayed hposted hrelayed h
      refine streams_handleAll_other (fun e he => ?_) hall
      rw [hentries e he]
      cases msg with
      | package pack => cases hrelayed
      | big pkt => exact fun hid => hstream ⟨pkt, rfl, hid⟩
      | data id id2 bytes =>
        show id ≠ idFLVStream
        rw [show id = idFLVStreamReback from hposted]
        decide

end Scene

def streams (l : LinkID) (w : Wires) : List (List UInt8) :=
  w.sent.filterMap fun sent => if sent.1 = l then streamBytes sent.2 else none

/-- The streams that come to the center server, as it sends them out. -/
def streamed (s : State) : Event → List (List UInt8)
  | .center a given => (s.outbox a).head?.toList.filterMap fun pack => streamOut (arriving a pack) given
  | .other pack given => (streamOut pack given).toList
  | .client _ _ _ => []
  | .tick _ => []
  | .external _ => []

/-- The scene server is connected by one connection and is no source of streams, and
the client is one of its players. -/
def Watches (b l : LinkID) (s : State) (e : Event) : Prop :=
  Watching s.center b ∧ Present (s.scenes b).manager l ∧ ∀ m ∈ handled s e, Foreseen m.2 b

/-- What is under way to a scene server is what the center server posts, streams whole. -/
def Streams (z : Zlib) (b : LinkID) (s : State) : Prop := Underway z s ∧ ∀ msg ∈ s.inbox b, Whole z msg

section Run
variable {z : Zlib} {s s' t : State} {e : Event} {es : List Event} {a b l : LinkID}

theorem streams_performAll (w : Wires) (sends : List Sent) :
    streams l (downlink.performAll w sends) = streams l w ++ sends.filterMap (streamTo l) := by
  rw [performAll_downlink, streams, List.filterMap_append, List.filterMap_filterMap]
  congr 2
  funext sent
  cases sent with
  | client linkID msg =>
    show (if linkID = l then streamBytes msg else none) = (if linkID = l then some msg else none).bind _
    split_ifs <;> rfl
  | center id id2 bytes => rfl

theorem streamless_of_isLocal {sent : Sent} (h : IsLocal sent) : Streamless sent := by
  rcases sent with ⟨linkID, msg⟩ | ⟨id, id2, bytes⟩
  · cases msg with
    | package msg => rfl
    | big msg => cases h
    | data id id2 bytes => cases h
  · trivial

theorem streams_sendsOf {x : Checked (PlayerManager × List Sent)} (hsends : sends z s e = noted x)
    (h : ∀ out, x = .ok out → out.2.filterMap (streamTo l) = []) :
    (sendsOf z b s e).filterMap (streamTo l) = [] := by
  unfold sendsOf
  split_ifs
  · rw [hsends]
    cases hx : x with
    | error fault => rfl
    | ok out => exact h out hx
  · rfl

theorem streams_sent (hs : Streams z b s) (hwatch : Watches b l s e) (h : step z s e = some s') :
    (sendsOf z b s e).filterMap (streamTo l) = (taken b s e).filterMap streamBytes := by
  have hlocal : Network.notebook.Keeps IsLocal fun w =>
      w.filterMap (streamTo l) = ([] : List Sent).filterMap (streamTo l) :=
    keeps_streamTo.mono fun _ => streamless_of_isLocal
  cases e with
  | client a pack given =>
    refine streams_sendsOf rfl fun out hout => ?_
    cases hasked : SceneServer.asked pack with
    | some cmd =>
      rw [SceneServer.handle_asked hasked] at hout
      rw [← Except.ok.inj hout]
      rfl
    | none => exact hlocal.sceneHandle hasked hout rfl
  | tick a => exact streams_sendsOf rfl fun out hout => hlocal.tick hout rfl
  | center a given => rfl
  | other pack given => rfl
  | external a =>
    by_cases ha : a = b
    · subst ha
      obtain ⟨msg, y, hmsg, hreceive, hsends, -⟩ := receive_step h
      have hmem : msg ∈ s.inbox a := List.mem_of_mem_head? hmsg
      have htaken : taken a s (.external a) = [msg] := by
        refine (if_pos rfl).trans ?_
        rw [hmsg]
        rfl
      rw [sendsOf_self rfl, hsends, htaken,
        streams_receive (hs.1 a msg hmem) (hs.2 msg hmem) hwatch.2.1 hreceive]
      cases hstream : streamBytes msg <;> simp [hstream]
    · have htaken : taken b s (.external a) = [] := if_neg ha
      rw [sendsOf_other (e := .external a) fun hactor => ha (Option.some.inj hactor), htaken]
      rfl

theorem streams_step (hs : Streams z b s) (hwatch : Watches b l s e) (h : step z s e = some s') :
    (s.inbox b).filterMap streamBytes ++ streamed s e =
      (taken b s e).filterMap streamBytes ++ (s'.inbox b).filterMap streamBytes ∧ Streams z b s' := by
  have hunderway : Underway z s' := underway_step hs.1 h
  cases e with
  | client a pack given =>
    obtain ⟨out, -, rfl⟩ := Option.map_eq_some_iff.mp h
    exact ⟨List.append_nil _, hunderway, hs.2⟩
  | tick a =>
    obtain ⟨out, -, rfl⟩ := Option.map_eq_some_iff.mp h
    exact ⟨List.append_nil _, hunderway, hs.2⟩
  | center a given =>
    obtain ⟨pack, hpack, h⟩ := Option.bind_eq_some_iff.mp h
    obtain ⟨out, hout, rfl⟩ := Option.map_eq_some_iff.mp h
    have hforeseen : Foreseen (arriving a pack) b := hwatch.2.2 (some a, arriving a pack) (by
      dsimp only [handled]
      rw [hpack]
      exact List.mem_singleton_self _)
    obtain ⟨hstreams, hwhole⟩ := streams_inbox hwatch.1 hforeseen hs.2 (mem_toOption hout)
    refine ⟨?_, hunderway, hwhole⟩
    dsimp only [streamed]
    rw [hpack]
    exact (hstreams.trans (by cases hstream : streamOut (arriving a pack) given <;> simp [hstream])).symm
  | other pack given =>
    obtain ⟨out, hout, rfl⟩ := Option.map_eq_some_iff.mp h
    have hforeseen : Foreseen pack b := hwatch.2.2 (none, pack) (List.mem_singleton_self _)
    obtain ⟨hstreams, hwhole⟩ := streams_inbox hwatch.1 hforeseen hs.2 (mem_toOption hout)
    exact ⟨hstreams.symm, hunderway, hwhole⟩
  | external a =>
    obtain ⟨msg, y, hmsg, -, -, rfl⟩ := receive_step h
    by_cases ha : a = b
    · subst ha
      have hinbox : (s.inbox a) = msg :: (s.inbox a).tail := (List.cons_head?_tail hmsg).symm
      have htaken : taken a s (.external a) = [msg] := by
        refine (if_pos rfl).trans ?_
        rw [hmsg]
        rfl
      have hrest : (s.delivered a ((y.1.1, downlink.performAll (s.scenes a).wires y.1.2), y.2)).inbox a =
          (s.inbox a).tail := Function.update_self ..
      refine ⟨?_, hunderway, ?_⟩
      · rw [htaken, hrest, ← List.filterMap_append, List.singleton_append, ← hinbox]
        exact List.append_nil _
      · rw [hrest]
        exact fun msg hmsg => hs.2 msg (List.mem_of_mem_tail hmsg)
    · have hrest : (s.delivered a ((y.1.1, downlink.performAll (s.scenes a).wires y.1.2), y.2)).inbox b =
          s.inbox b := Function.update_of_ne (Ne.symm ha) ..
      have htaken : taken b s (.external a) = [] := if_neg ha
      refine ⟨?_, hunderway, ?_⟩
      · rw [htaken, hrest]
        exact List.append_nil _
      · rw [hrest]
        exact hs.2

/-- What a client is sent of streams are the streams of the center server, each with the
time put in, in their order and once, but for what is still under way. -/
theorem run_streams (hs : Streams z b s) (hrun : run (step z) s es = some t)
    (hwatch : Along (step z) (Watches b l) s es) :
    streams l (s.scenes b).wires ++ ((s.inbox b).filterMap streamBytes ++ collect (step z) streamed s es) =
      streams l (t.scenes b).wires ++ (t.inbox b).filterMap streamBytes := by
  have hqueue := collect_queue (q := fun s => (s.inbox b).filterMap streamBytes)
    (fun _ _ _ hs hwatch h => (streams_step hs hwatch h).2)
    (fun _ _ _ hs hwatch h => (streams_step hs hwatch h).1) hs hwatch hrun
  have hsent := collect_journal (q := fun s => streams l (s.scenes b).wires)
    (f := fun s e => (taken b s e).filterMap streamBytes)
    (fun _ _ _ hs hwatch h => (streams_step hs hwatch h).2) (fun s e s' hs hwatch h => by
      obtain ⟨outbox, -, hwires⟩ := @wires_step z s s' e b h
      rw [hwires, streams_performAll, streams_sent hs hwatch h]
      rfl) hs hwatch hrun
  rw [hqueue, hsent, List.append_assoc]

end Run

instance (m : UserManager) (b : LinkID) : Decidable (Watching m b) := inferInstanceAs (Decidable (_ = _))

instance (pack : HXMessagePackage) (b : LinkID) : Decidable (Foreseen pack b) :=
  inferInstanceAs (Decidable (_ → _ ∧ _))

instance (m : PlayerManager) (l : LinkID) : Decidable (Present m l) := inferInstanceAs (Decidable (_ = _))

instance (b l : LinkID) (s : State) (e : Event) : Decidable (Watches b l s e) :=
  inferInstanceAs (Decidable (_ ∧ _ ∧ ∀ m ∈ _, _))

theorem fits_record : (FlvStreamReback.ofBytes []).bytes.length ≤ maxBodyLength := by
  rw [FlvStreamReback.length_bytes]
  decide

def broadcast : List Event :=
  [.other (HXMessagePackage.filled ⟨3, 2⟩ idFLVStream 0 _ fits_record) Identity.given, .external there,
    .external there]

theorem run_streams_broadcast : ∃ t, run (step Zlib.refusing) meeting broadcast = some t ∧
    streams ⟨1, 0⟩ (meeting.scenes there).wires ++ ((meeting.inbox there).filterMap streamBytes ++
        collect (step Zlib.refusing) streamed meeting broadcast) =
      streams ⟨1, 0⟩ (t.scenes there).wires ++ (t.inbox there).filterMap streamBytes := by
  obtain ⟨t, hrun⟩ : ∃ t, run (step Zlib.refusing) meeting broadcast = some t :=
    Option.isSome_iff_exists.mp (by decide +kernel)
  have hstreams : Streams Zlib.refusing there meeting := ⟨underway_meeting, fun msg hmsg => nomatch hmsg⟩
  exact ⟨t, hrun, run_streams hstreams hrun (by decide +kernel)⟩

end HXService.CrossScene
