import HXService.Delivery
import HXService.Identity

/-! Messages that a manager passes on as they are: what is sent are the bytes of
`data_`, whatever `body()` shows. -/

namespace HXService.Forwarding
open Bytes Runs HXLibAsioServer HXMessageQueueAB

/-! ## The managers on a running server -/

def outgoing (s : HXLibAsioServer) (linkID : LinkID) : Outgoing → Checked (Bool × HXLibAsioServer)
  | .package msg => s.send linkID msg
  | .big msg => s.sendBig linkID msg
  | .data id id2 bytes => s.sendData linkID id id2 (some bytes)

-- a call that faults does not return; nothing here is said of it
def service : Network HXLibAsioServer where
  send s linkID msg := (outgoing s linkID msg).toOption.getD (false, s)
  sendCenter s _ _ _ := (false, s)

inductive Forwarder
  | forwardCommand (m : UserManager)
  | forwardMsg (m : UserManager) (sourceLinkID : LinkID)
  | sendMsg (m : PlayerManager)

namespace Forwarder

def run (f : Forwarder) (pkt : HXMessagePackage) (s : HXLibAsioServer) : HXLibAsioServer :=
  match f with
  | forwardCommand m => m.forwardCommand service pkt s
  | forwardMsg m sourceLinkID => m.forwardMsg service sourceLinkID pkt s
  | sendMsg m => (m.sendMsg service pkt s).2

def addressed : Forwarder → List LinkID
  | forwardCommand m => m.users.map User.mLinkID
  | forwardMsg m sourceLinkID => (m.users.map User.mLinkID).filter (sourceLinkID.sid ≠ ·.sid)
  | sendMsg m => m.players.map Player.mLinkID

theorem run_eq (f : Forwarder) (pkt : HXMessagePackage) (s : HXLibAsioServer) :
    f.run pkt s = service.sendEach (.package pkt) f.addressed s := by
  cases f with
  | forwardCommand m => rfl
  | forwardMsg m sourceLinkID => exact Identity.forwardMsg_eq m sourceLinkID pkt s
  | sendMsg m => rfl

end Forwarder

section Sends
variable {s : HXLibAsioServer} {p q : SessionPtr} {linkID : LinkID} {pkt : HXMessagePackage}

theorem holds_unique (h : s.TableInv) (hp : s.Holds p linkID) (hq : s.Holds q linkID) : p = q :=
  Except.ok.inj ((deref_of_holds h hp).symm.trans (deref_of_holds h hq))

theorem service_send (h : s.TableInv) (hp : s.Holds p linkID) :
    (service.send s linkID (.package pkt)).2 = s.modifySession p (·.send pkt) := by
  unfold service outgoing
  dsimp only
  rw [(actsOn_of_holds h hp).send pkt]
  rfl

theorem service_send_stale (h : s.TableInv) (hsid : linkID.sid ≠ 0) (hstale : ¬s.Alive linkID) :
    (service.send s linkID (.package pkt)).2 = s := by
  have hstray : ¬s.Stray linkID := fun hstray => hsid hstray.1
  have hnot : ¬s.Linked linkID := fun hlinked => hstale ((linked_iff_holds h hstray).mp hlinked)
  unfold service outgoing
  dsimp only
  rw [(doesNothing_of_not_linked hnot).send pkt]
  rfl

/-- Every session gets the package once for each time it is listed; links of
sessions that have left are passed over. -/
theorem mSessions_sendEach {links : List LinkID} (h : s.TableInv) (hsids : ∀ l ∈ links, l.sid ≠ 0)
    (p : SessionPtr) : (service.sendEach (.package pkt) links s).mSessions p =
      (HXLibAccept.send · pkt)^[links.count (s.ownId p)] (s.mSessions p) := by
  induction links generalizing s with
  | nil => rfl
  | cons l links ih =>
    have hsid := hsids l List.mem_cons_self
    have hsids' : ∀ l' ∈ links, l'.sid ≠ 0 := fun l' hl' => hsids l' (List.mem_cons_of_mem _ hl')
    have hne : l ≠ LinkID.zero := by
      rintro rfl
      exact hsid rfl
    unfold Network.sendEach at *
    rw [List.foldl_cons]
    by_cases hlive : s.Alive l
    · obtain ⟨q, hq⟩ := hlive
      have hsame := (untouched_sendSession s q pkt).toSameTable
      rw [service_send h hq, ih (hsame.tableInv h) hsids', hsame.own p]
      by_cases hpq : p = q
      · subst hpq
        rw [mSessions_modifySession_self, hq.1, List.count_cons_self, Function.iterate_succ_apply]
      · have hl : l ≠ s.ownId p := fun hl => hpq (holds_unique h ⟨hl.symm, hne⟩ hq)
        rw [List.count_cons_of_ne hl]
        congr 1
        exact Function.update_of_ne hpq ..
    · have hl : l ≠ s.ownId p := fun hl => hlive ⟨p, hl.symm, hne⟩
      rw [service_send_stale h hsid hlive, ih h hsids', List.count_cons_of_ne hl]

theorem writeMsgs_iterate {a : HXLibAccept} (hopen : a.socketOpen = true) (n : Nat) :
    ((HXLibAccept.send · pkt)^[n] a).writeMsgs = a.writeMsgs ++ List.replicate n pkt := by
  induction n generalizing a with
  | zero => simp
  | succ n ih =>
    rw [Function.iterate_succ_apply, ih ((Delivery.socketOpen_send a pkt).trans hopen),
      Delivery.writeMsgs_send hopen]
    simp [List.replicate_succ]

end Sends

/-! ## What the other end makes of it -/

def decode (z : Zlib) (c : HXLibClientAccept) (frame : List UInt8) : Checked HXLibClientAccept :=
  (c.handleReadHeader (some (frame.take headerLength))).handleReadBody z
    (some (frame.drop headerLength))

/-- The frame of `q` is of an allowed length, and whoever reads it gets one
message, which says what `pkt` says. -/
structure ArrivesAs (pkt q : HXMessagePackage) : Prop where
  inRange : q.header.InRange
  decoded : ∀ z (c : HXLibClientAccept), c.readMsg.bigDataPointer = none →
    ∃ c' e, decode z c q.frame = .ok c' ∧ c'.mRecv = c.mRecv.add e ∧ contentOf e = contentOf pkt

/-- A package is forwarded whole when it stands in `data_` as `body()` shows it,
and its id is that of an ordinary message. -/
structure Inline (pkt : HXMessagePackage) : Prop where
  inRange : pkt.header.InRange
  plain : ¬isBigStream pkt.header.id
  not_heartbeat : pkt.header.id ≠ idHeartbeat
  body_eq : pkt.data.load pkt.bodyLength = pkt.bodyBytes

section Decode
variable {z : Zlib} {c : HXLibClientAccept} {pkt e : HXMessagePackage}

theorem decode_frame (pkt : HXMessagePackage) : decode z c pkt.frame =
    { c with readMsg := { c.readMsg with header := pkt.header } }.handleReadBody z
      (some (pkt.data.load pkt.bodyLength)) := by
  have htake := HXMessagePackage.take_frame pkt []
  have hdrop := HXMessagePackage.drop_frame pkt []
  rw [List.append_nil] at htake
  rw [List.append_nil, List.append_nil] at hdrop
  unfold decode HXLibClientAccept.handleReadHeader
  dsimp only
  rw [htake, hdrop, Header.ofBytes_bytes_self]

theorem contentOf_inline {q : HXMessagePackage} (h : Inline pkt) (hcopy : Copies q pkt) :
    contentOf q = contentOf pkt := by
  rw [contentOf, contentOf, hcopy.header_eq, hcopy.bodyBytes_eq, h.body_eq]

theorem arrivesAs_of_inline (h : Inline pkt) : ArrivesAs pkt pkt := by
  refine ⟨h.inRange, ?_⟩
  intro z c hpointer
  rw [decode_frame]
  generalize hread : { c with readMsg := { c.readMsg with header := pkt.header } } = d
  have hheader : d.readMsg.header = pkt.header := by rw [← hread]
  have hrecv : d.mRecv = c.mRecv := by rw [← hread]
  have hpointer' : d.readMsg.bigDataPointer = none := by
    rw [← hread]
    exact hpointer
  have hcopy := Delivery.copies_received h.inRange hpointer' hheader
    (Delivery.length_load_le h.inRange)
  have hplain : ¬isBigStream (d.received (pkt.data.load pkt.bodyLength)
      (Delivery.length_load_le h.inRange)).header.id := by
    rw [hcopy.header_eq]
    exact h.plain
  have hhandled := Delivery.handleReadBody_eq z h.inRange hheader h.not_heartbeat
  rw [appended_plain hplain] at hhandled
  refine ⟨_, _, hhandled, ?_, contentOf_inline h hcopy⟩
  simp [pushOption, push, h.plain, hrecv]

/-! An entry made of big-message packages has the id of the message they
announce, and the end package does not announce another. -/

theorem id_deliver {b : HXBigMessageQueue} {msg : HXMessagePackage} (h : deliver b msg = .ok e) :
    e.header.id = b.mHeader.id := by
  unfold deliver at h
  split_ifs at h
  · rw [← Except.ok.inj h]
  · split at h
    · rw [← Except.ok.inj h]
    · cases h

theorem mHeader_recvPackage {pack : HXMessagePackage} {b b' : HXBigMessageQueue}
    (hpointer : pack.bigDataPointer = none) (hrange : pack.header.InRange)
    (h : b.recvPackage z pack = .ok (true, b')) : b'.mHeader = b.mHeader := by
  by_cases hbegin : pack.header.id = idBigStreamBegin
  · rw [HXBigMessageQueue.recvPackage_begin hbegin hpointer] at h
    cases h
  by_cases hdata : pack.header.id = idBigStreamData
  · rw [HXBigMessageQueue.recvPackage_data hdata hpointer hrange] at h
    split_ifs at h <;> cases h
  by_cases hend : pack.header.id = idBigStreamEnd
  · rw [HXBigMessageQueue.recvPackage_end hend hpointer] at h
    split_ifs at h
    · exact congrArg (HXBigMessageQueue.mHeader ∘ Prod.snd) (Except.ok.inj h).symm
    · exact congrArg (HXBigMessageQueue.mHeader ∘ Prod.snd) (Except.ok.inj h).symm
    · cases h
  · rw [HXBigMessageQueue.recvPackage_other hbegin hdata hend] at h
    cases h

theorem id_appended {pack : HXMessagePackage} {b b' : HXBigMessageQueue}
    (hbig : isBigStream pack.header.id) (hpointer : pack.bigDataPointer = none)
    (hrange : pack.header.InRange) (h : appended z pack b = .ok (some e, b')) :
    e.header.id = b.mHeader.id := by
  rw [appended, if_pos hbig] at h
  obtain ⟨⟨done, b''⟩, hrecv, h⟩ := bind_eq_ok.mp h
  split_ifs at h with hdone
  · obtain ⟨temp, htemp, h⟩ := bind_eq_ok.mp h
    dsimp only at hdone
    subst hdone
    rw [← Option.some.inj (congrArg Prod.fst (Except.ok.inj h)), id_deliver htemp]
    exact congrArg MBigHeader.id (mHeader_recvPackage hpointer hrange hrecv)
  · cases h

/-- A reader that has received nothing yet tells whether a package arrives. -/
theorem inline_of_arrivesAs (h : ArrivesAs pkt pkt) : Inline pkt := by
  have hrange := h.inRange
  obtain ⟨c', e, hdecoded, hrecv, hcontent⟩ := h.decoded .refusing HXLibClientAccept.zeroed rfl
  rw [decode_frame] at hdecoded
  generalize hread : { HXLibClientAccept.zeroed with
    readMsg := { HXLibClientAccept.zeroed.readMsg with header := pkt.header } } = d at hdecoded
  have hheader : d.readMsg.header = pkt.header := by rw [← hread]
  have hpointer : d.readMsg.bigDataPointer = none := by
    rw [← hread]
    rfl
  have hbigId : d.mBigData.mHeader.id = 0 := by
    rw [← hread]
    rfl
  have hfresh : HXLibClientAccept.zeroed.mRecv.current.length + 1 < queueMax := by decide
  have hroom : d.mRecv.current.length + 1 < queueMax := by
    rw [← hread]
    exact hfresh
  have hadd : c'.mRecv.current = d.mRecv.current ++ [e] := by
    rw [hrecv, ← bounded_of_lt hroom, ← hread]
    exact current_setCurrent ..
  have hid : e.header.id = pkt.header.id := congrArg Content.id hcontent
  have hreal : pkt.header.id ≠ idHeartbeat := by
    intro hheartbeat
    obtain ⟨c'', hhandled, -, hsame, -⟩ :=
      Delivery.handleReadBody_heartbeat .refusing hrange hpointer hheader hheartbeat
    obtain rfl := Except.ok.inj (hdecoded.symm.trans hhandled)
    rw [hsame] at hadd
    simp at hadd
  have hcopy := Delivery.copies_received hrange hpointer hheader (Delivery.length_load_le hrange)
  rw [Delivery.handleReadBody_eq .refusing hrange hheader hreal] at hdecoded
  obtain ⟨⟨entry, b'⟩, happended, hdecoded⟩ := bind_eq_ok.mp hdecoded
  rw [← Except.ok.inj hdecoded] at hadd
  dsimp only at hadd
  rw [Delivery.current_pushOption hroom] at hadd
  have hentry : entry = some e := by
    rw [List.append_cancel_left_eq] at hadd
    cases entry with
    | none => simp at hadd
    | some entry => simpa using hadd
  rw [hentry] at happended
  have hplain : ¬isBigStream pkt.header.id := by
    intro hbig
    have hzero := id_appended (hcopy.header_eq ▸ hbig) hcopy.pointer_eq (hcopy.header_eq ▸ hrange)
      happended
    rw [hid, hbigId] at hzero
    rw [hzero] at hbig
    exact absurd hbig (by decide)
  refine ⟨hrange, hplain, hreal, ?_⟩
  rw [appended_plain (hcopy.header_eq ▸ hplain)] at happended
  obtain rfl := Option.some.inj (congrArg Prod.fst (Except.ok.inj happended))
  rw [← hcopy.bodyBytes_eq]
  exact congrArg Content.body hcontent

end Decode

/-! ## When a message is forwarded whole -/

/-- On every addressed connection that is open, each package that is put on it
arrives as the message `pkt`. The managers list identifiers `Join` has given. -/
def Preserved (pkt : HXMessagePackage) : Prop :=
  ∀ (f : Forwarder) (s : HXLibAsioServer), s.TableInv → (∀ l ∈ f.addressed, l.sid ≠ 0) →
    ∀ p, s.ownId p ∈ f.addressed → (s.mSessions p).socketOpen = true →
      ∃ sent, ((f.run pkt s).mSessions p).writeMsgs = (s.mSessions p).writeMsgs ++ sent ∧
        sent.length = f.addressed.count (s.ownId p) ∧ ∀ q ∈ sent, ArrivesAs pkt q

section Preserved
variable {pkt : HXMessagePackage}

theorem writeMsgs_run {f : Forwarder} {s : HXLibAsioServer} {p : SessionPtr} (h : s.TableInv)
    (hsids : ∀ l ∈ f.addressed, l.sid ≠ 0) (hopen : (s.mSessions p).socketOpen = true) :
    ((f.run pkt s).mSessions p).writeMsgs =
      (s.mSessions p).writeMsgs ++ List.replicate (f.addressed.count (s.ownId p)) pkt := by
  rw [f.run_eq, mSessions_sendEach h hsids, writeMsgs_iterate hopen]

def oneUser : Forwarder := .forwardCommand (UserManager.new.addUser (User.new ⟨1, 0⟩ false))

theorem arrivesAs_of_preserved (h : Preserved pkt) : ArrivesAs pkt pkt := by
  have hstart : zeroed.start 1 = (true, (zeroed.start 1).2) := rfl
  have htable : ((zeroed.start 1).2.accept 0 IpText.empty).TableInv :=
    tableInv_accept (tableInv_start hstart) (ownId_start hstart 0) IpText.empty
  have hsids : ∀ l ∈ oneUser.addressed, l.sid ≠ 0 := by
    intro l hl
    obtain rfl := List.mem_singleton.mp hl
    decide
  obtain ⟨sent, hsent, hlength, harrives⟩ := h oneUser _ htable hsids 0 (List.mem_singleton.mpr rfl) rfl
  rw [writeMsgs_run htable hsids rfl, List.append_cancel_left_eq] at hsent
  apply harrives
  rw [← hsent]
  exact List.mem_singleton.mpr rfl

/-- A message is forwarded whole exactly when it stands in the package itself. -/
theorem forwarding_iff (pkt : HXMessagePackage) : Preserved pkt ↔ Inline pkt := by
  constructor
  · intro h
    exact inline_of_arrivesAs (arrivesAs_of_preserved h)
  · intro h f s htable hsids p _ hopen
    refine ⟨_, writeMsgs_run htable hsids hopen, List.length_replicate, ?_⟩
    intro q hq
    obtain rfl := List.eq_of_mem_replicate hq
    exact arrivesAs_of_inline h

theorem inline_ordinary (m : Ordinary) : Inline m.pack :=
  ⟨m.inRange, m.plain, m.not_heartbeat, (HXMessagePackage.bodyBytes_of_none m.pointer_eq).symm⟩

end Preserved

/-! ## A reassembled message -/

def sevenHeader : MBigHeader := Sectioning.plainHeader idGlobalTransform 0 [7]

def sendSeven : List Service.Event :=
  [.accept 0 IpText.empty,
    .read 0 (some (Header.bytes ⟨idBigStreamBegin, 0, 17⟩)), .read 0 (some sevenHeader.bytes),
    .read 0 (some (Header.bytes ⟨idBigStreamData, 0, 1⟩)), .read 0 (some [7]),
    .read 0 (some (Header.bytes ⟨idBigStreamEnd, 0, 17⟩)), .read 0 (some sevenHeader.bytes)]

def shown (e : HXMessagePackage) : Header × List UInt8 × List UInt8 :=
  (e.header, e.bodyBytes, e.data.load 1)

theorem reassembled_shown :
    (run (Service.step .refusing) ⟨(zeroed.start 1).2, []⟩ sendSeven).map
      (fun s => s.server.mQueue.swap.2.map shown) =
    some [(⟨idConnect, 0, 1⟩, [0], [0]), (⟨idGlobalTransform, 0, 1⟩, [7], [0])] := by decide +kernel

/-- It is in the queue the main loop gets, and is not forwarded whole. -/
theorem reassembled_not_preserved : ∃ s connect e,
    run (Service.step .refusing) ⟨(zeroed.start 1).2, []⟩ sendSeven = some s ∧
    s.server.mQueue.swap.2 = [connect, e] ∧ e.bodyBytes = [7] ∧ ¬Preserved e := by
  obtain ⟨s, hrun, hshown⟩ := Option.map_eq_some_iff.mp reassembled_shown
  obtain ⟨connect, rest, hswap, -, hrest⟩ := List.map_eq_cons_iff.mp hshown
  obtain ⟨e, rfl, he⟩ := List.map_eq_singleton_iff.mp hrest
  obtain ⟨hheader, hpair⟩ := Prod.mk.inj he
  obtain ⟨hbody, hload⟩ := Prod.mk.inj hpair
  refine ⟨s, connect, e, hrun, hswap, hbody, ?_⟩
  intro h
  have hinline := (inline_of_arrivesAs (arrivesAs_of_preserved h)).body_eq
  have hlength : e.bodyLength = 1 := by
    rw [HXMessagePackage.bodyLength, hheader]
    decide
  rw [hlength, hbody, hload] at hinline
  exact absurd hinline (by decide)

end HXService.Forwarding
