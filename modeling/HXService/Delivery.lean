import HXService.AsioClient
import HXService.Lookups
import HXService.Reception

/-! From `Send` to the client's queue over one connection: the server's session,
the bytes under way and the client's read loop, in any interleaving. -/

namespace HXService.Delivery
open Bytes Runs Sectioning HXLibAsioServer

/-! ## The connection

`sending` are the packages the running `Send` has not handed over yet, `wire` the
bytes transmitted and not read, in order, and `taken` what the client's main loop
has swapped out. `returned` records the results of the calls. -/

structure State (z : Zlib) where
  session : HXLibAccept
  sending : List HXMessagePackage
  returned : List (Call z × Bool)
  wire : List UInt8
  client : HXLibClientAccept
  awaiting : ReadOp
  taken : List HXMessagePackage

inductive Event (z : Zlib)
  | send (call : Call z)
  | package
  | heartbeat (pack : HXMessagePackage)
  | written (bytes : List UInt8)
  | read
  | swap

def start {z : Zlib} (session : HXLibAccept) (client : HXLibClientAccept) : State z :=
  ⟨session, [], [], [], client, .header, []⟩

section Machine
variable {z : Zlib}

def Lost (a : HXLibAccept) : Call z → Prop
  | .small _ => False
  | .big m => DropsBig a m.msg

instance (a : HXLibAccept) (call : Call z) : Decidable (Lost a call) :=
  match call with
  | .small _ => isFalse not_false
  | .big m => inferInstanceAs (Decidable (DropsBig a m.msg))

/-- What an `async_write` may transmit. The storage of a local copy is gone when
`handle_write` returns, so nothing is known but the number of the bytes. -/
def Transmits (front : HXMessagePackage) (bytes : List UInt8) : WriteSource → Prop
  | .queueFront => bytes = front.frame
  | .localCopy => bytes.length = front.frame.length

instance (front : HXMessagePackage) (bytes : List UInt8) (source : WriteSource) :
    Decidable (Transmits front bytes source) :=
  match source with
  | .queueFront => inferInstanceAs (Decidable (_ = _))
  | .localCopy => inferInstanceAs (Decidable (_ = _))

def step (z : Zlib) (s : State z) : Event z → Option (State z)
  | .send call =>
    if s.sending = [] then some { s with
      sending := if Lost s.session call then [] else call.packages
      returned := s.returned ++ [(call, !decide (Lost s.session call))] }
    else none
  | .package =>
    match s.sending with
    | [] => none
    | pack :: rest => some { s with session := s.session.send pack, sending := rest }
  | .heartbeat pack => some { s with session := s.session.send (HXLibAccept.heartbeatReply pack) }
  | .written bytes =>
    match s.session.writing, s.session.writeMsgs with
    | some source, front :: _ =>
      if Transmits front bytes source then
        some { s with session := s.session.written, wire := s.wire ++ bytes }
      else none
    | _, _ => none
  | .read =>
    match s.awaiting with
    | .header =>
      if headerLength ≤ s.wire.length then some { s with
        client := s.client.handleReadHeader (some (s.wire.take headerLength))
        wire := s.wire.drop headerLength
        awaiting := .body }
      else none
    | .body =>
      let length := s.client.readMsg.bodyLength
      if length ≤ s.wire.length then
        (s.client.handleReadBody z (some (s.wire.take length))).toOption.map fun client =>
          { s with client, wire := s.wire.drop length, awaiting := .header }
      else none
  | .swap => some { s with
      client := { s.client with mRecv := s.client.mRecv.swap.1 }
      taken := s.taken ++ s.client.mRecv.swap.2 }

def State.accepted (s : State z) : List (Call z) := (s.returned.filter Prod.snd).map Prod.fst

structure Done (s : State z) : Prop where
  sending : s.sending = []
  writeMsgs : s.session.writeMsgs = []
  wire : s.wire = []
  awaiting : s.awaiting = .header

/-! ## What a run needs -/

-- an `async_write` that `handle_write` starts transmits the front of the queue
def Intact (s : State z) (e : Event z) : Prop :=
  ∀ bytes front rest, e = .written bytes → s.session.writing = some .localCopy →
    s.session.writeMsgs = front :: rest → bytes = front.frame

def Room (s : State z) (e : Event z) : Prop :=
  e = .read → s.client.mRecv.current.length + 1 < queueMax

/-! ## The invariant -/

def real (packs : List HXMessagePackage) : List HXMessagePackage :=
  packs.filter fun pack => pack.header.id ≠ idHeartbeat

/-- The packages on the wire; a header that has been read already is gone. -/
def Unread (readMsg : HXMessagePackage) (wire : List UInt8) (unread : List HXMessagePackage) :
    ReadOp → Prop
  | .header => wire = unread.flatMap HXMessagePackage.frame
  | .body => ∃ p rest, unread = p :: rest ∧ readMsg.header = p.header ∧
      wire = p.data.load p.bodyLength ++ rest.flatMap HXMessagePackage.frame

/-- What has been received and what is still to come is what has been sent. -/
structure Conserved (before : List HXMessagePackage) (s : State z)
    (unread entries : List HXMessagePackage) (todo : List Content) : Prop where
  wire : Unread s.client.readMsg s.wire unread s.awaiting
  inRange : ∀ p ∈ unread, p.header.InRange
  awaits : Awaits z s.client.mBigData (real (unread ++ s.session.writeMsgs) ++ s.sending) todo
  received : s.taken ++ s.client.mRecv.current = before ++ entries
  contents : entries.map contentOf ++ todo = s.accepted.map Call.content

structure Inv (before : List HXMessagePackage) (s : State z) : Prop where
  isOpen : s.session.socketOpen = true
  idle : s.session.writing = none ↔ s.session.writeMsgs = []
  pointer_eq : s.client.readMsg.bigDataPointer = none
  queued : ∀ p ∈ s.session.writeMsgs, p.header.InRange
  sending : ∀ p ∈ s.sending, p.header.InRange ∧ p.header.id ≠ idHeartbeat
  conserved : ∃ unread entries todo, Conserved before s unread entries todo

section Session
variable {a : HXLibAccept} {pack : HXMessagePackage}

theorem writeMsgs_send (h : a.socketOpen = true) : (a.send pack).writeMsgs = a.writeMsgs ++ [pack] := by
  rw [HXLibAccept.send, if_neg (by rw [h]; exact Bool.noConfusion)]
  split_ifs with hempty
  · rw [hempty]
    rfl
  · rfl

theorem socketOpen_send (a : HXLibAccept) (pack : HXMessagePackage) :
    (a.send pack).socketOpen = a.socketOpen := by
  rw [HXLibAccept.send]
  split_ifs <;> rfl

theorem writing_send (h : a.socketOpen = true) (hidle : a.writing = none ↔ a.writeMsgs = []) :
    (a.send pack).writing ≠ none := by
  rw [HXLibAccept.send, if_neg (by rw [h]; exact Bool.noConfusion)]
  split_ifs with hempty
  · exact Option.some_ne_none _
  · exact fun hnone => hempty (hidle.mp hnone)

theorem idle_written (a : HXLibAccept) : a.written.writing = none ↔ a.written.writeMsgs = [] := by
  rw [HXLibAccept.written]
  dsimp only
  split_ifs with hempty
  · exact iff_of_true rfl hempty
  · exact iff_of_false nofun hempty

theorem inRange_heartbeatReply : (HXLibAccept.heartbeatReply pack).header.InRange :=
  HXMessagePackage.filled_inRange ..

end Session

section Calls

theorem real_append (packs more : List HXMessagePackage) :
    real (packs ++ more) = real packs ++ real more :=
  List.filter_append ..

theorem real_of_genuine {packs : List HXMessagePackage} (h : ∀ p ∈ packs, p.header.id ≠ idHeartbeat) :
    real packs = packs := by
  rw [real, List.filter_eq_self]
  exact fun p hp => decide_eq_true (h p hp)

theorem real_heartbeat {p : HXMessagePackage} (h : p.header.id = idHeartbeat) : real [p] = [] := by
  rw [real, List.filter_singleton, decide_eq_false (not_not.mpr h)]
  rfl

theorem mem_packages {p : HXMessagePackage} (call : Call z) (hp : p ∈ call.packages) :
    p.header.InRange ∧ p.header.id ≠ idHeartbeat := by
  cases call with
  | small m =>
    rw [List.mem_singleton.mp hp]
    exact ⟨m.inRange, m.not_heartbeat⟩
  | big m =>
    rw [Call.packages, m.mQueue_eq, packages, List.mem_append, List.mem_cons, List.mem_singleton] at hp
    have hbegin : idBigStreamBegin ≠ idHeartbeat := by decide
    have hdata : idBigStreamData ≠ idHeartbeat := by decide
    have hend : idBigStreamEnd ≠ idHeartbeat := by decide
    rcases hp with (rfl | hp) | rfl
    · exact ⟨inRange_markPackage, hbegin⟩
    · obtain ⟨i, -, rfl⟩ := List.mem_map.mp hp
      exact ⟨inRange_sectionPack, hdata⟩
    · exact ⟨inRange_markPackage, hend⟩

theorem accepted_append (returned : List (Call z × Bool)) (call : Call z) (ok : Bool) :
    ((returned ++ [(call, ok)]).filter Prod.snd).map Prod.fst =
      (returned.filter Prod.snd).map Prod.fst ++ if ok then [call] else [] := by
  rw [List.filter_append, List.map_append]
  cases ok <;> rfl

end Calls

variable {before : List HXMessagePackage} {s s' : State z} {e : Event z}

theorem inv_send {call : Call z} (h : Inv before s) (hstep : step z s (.send call) = some s') :
    Inv before s' := by
  rw [step] at hstep
  split_ifs at hstep with hsending hlost
  · obtain rfl := Option.some.inj hstep
    obtain ⟨unread, entries, todo, hc⟩ := h.conserved
    refine ⟨h.isOpen, h.idle, h.pointer_eq, h.queued, nofun, unread, entries, todo, hc.wire, hc.inRange,
      ?_, hc.received, ?_⟩
    · have hawaits := hc.awaits
      rw [hsending] at hawaits
      exact hawaits
    · rw [hc.contents, State.accepted, State.accepted, accepted_append, decide_eq_true hlost]
      exact congrArg _ (List.append_nil _).symm
  · obtain rfl := Option.some.inj hstep
    obtain ⟨unread, entries, todo, hc⟩ := h.conserved
    refine ⟨h.isOpen, h.idle, h.pointer_eq, h.queued, fun p hp => mem_packages call hp, unread, entries,
      todo ++ [call.content], hc.wire, hc.inRange, ?_, hc.received, ?_⟩
    · have hawaits := hc.awaits.append call
      rw [hsending, List.append_nil] at hawaits
      exact hawaits
    · rw [← List.append_assoc, hc.contents, State.accepted, State.accepted, accepted_append,
        decide_eq_false hlost, List.map_append]
      rfl

theorem Inv.queue {pack : HXMessagePackage} {rest : List HXMessagePackage} (h : Inv before s)
    (hrange : pack.header.InRange) (hrest : ∀ p ∈ rest, p.header.InRange ∧ p.header.id ≠ idHeartbeat)
    (hreal : real [pack] ++ rest = s.sending) :
    Inv before { s with session := s.session.send pack, sending := rest } := by
  obtain ⟨unread, entries, todo, hc⟩ := h.conserved
  have hwriteMsgs := @writeMsgs_send s.session pack h.isOpen
  refine ⟨(socketOpen_send _ _).trans h.isOpen, ?_, h.pointer_eq, ?_, hrest, unread, entries, todo,
    hc.wire, hc.inRange, ?_, hc.received, hc.contents⟩
  · refine iff_of_false (writing_send h.isOpen h.idle) ?_
    show (s.session.send pack).writeMsgs ≠ []
    rw [hwriteMsgs]
    exact List.append_ne_nil_of_right_ne_nil _ (List.cons_ne_nil _ _)
  · show ∀ p ∈ (s.session.send pack).writeMsgs, _
    rw [hwriteMsgs]
    intro p hp
    rcases List.mem_append.mp hp with hp | hp
    · exact h.queued p hp
    · rw [List.mem_singleton.mp hp]
      exact hrange
  · show Awaits z _ (real (unread ++ (s.session.send pack).writeMsgs) ++ rest) todo
    rw [hwriteMsgs, ← List.append_assoc, real_append, List.append_assoc, hreal]
    exact hc.awaits

theorem inv_package (h : Inv before s) (hstep : step z s .package = some s') : Inv before s' := by
  simp only [step] at hstep
  cases hsending : s.sending with
  | nil =>
    rw [hsending] at hstep
    exact nomatch hstep
  | cons pack rest =>
    rw [hsending] at hstep
    obtain rfl := Option.some.inj hstep
    have hpack := h.sending pack (hsending ▸ List.mem_cons_self)
    refine h.queue hpack.1 (fun p hp => h.sending p (hsending ▸ List.mem_cons_of_mem _ hp)) ?_
    rw [hsending, real_of_genuine (fun p hp => List.mem_singleton.mp hp ▸ hpack.2)]
    rfl

theorem inv_heartbeat {pack : HXMessagePackage} (h : Inv before s)
    (hstep : step z s (.heartbeat pack) = some s') : Inv before s' := by
  obtain rfl := Option.some.inj hstep
  refine h.queue inRange_heartbeatReply h.sending ?_
  rw [real_heartbeat rfl]
  rfl

theorem Unread.append {readMsg : HXMessagePackage} {wire : List UInt8} {unread : List HXMessagePackage}
    {op : ReadOp} (h : Unread readMsg wire unread op) (p : HXMessagePackage) :
    Unread readMsg (wire ++ p.frame) (unread ++ [p]) op := by
  have hframes : ∀ packs : List HXMessagePackage, packs.flatMap HXMessagePackage.frame ++ p.frame =
      (packs ++ [p]).flatMap HXMessagePackage.frame := by
    intro packs
    rw [List.flatMap_append, List.flatMap_singleton]
  cases op with
  | header =>
    rw [Unread] at h ⊢
    rw [h, hframes]
  | body =>
    obtain ⟨first, rest, rfl, hheader, rfl⟩ := h
    refine ⟨first, rest ++ [p], rfl, hheader, ?_⟩
    rw [List.append_assoc, hframes]

theorem Unread.nothing {readMsg : HXMessagePackage} {unread : List HXMessagePackage}
    (h : Unread readMsg [] unread .header) : unread = [] := by
  cases unread with
  | nil => rfl
  | cons p rest =>
    have hlength := congrArg List.length h
    rw [List.flatMap_cons, List.length_append, HXMessagePackage.frame, List.length_append,
      Header.length_bytes] at hlength
    have hpos : headerLength = 8 := rfl
    rw [List.length_nil] at hlength
    omega

theorem inv_written {bytes : List UInt8} (h : Inv before s) (hintact : Intact s (.written bytes))
    (hstep : step z s (.written bytes) = some s') : Inv before s' := by
  simp only [step] at hstep
  split at hstep
  · rename_i source front rest hwriting hwriteMsgs
    split_ifs at hstep with htransmits
    obtain rfl := Option.some.inj hstep
    have hbytes : bytes = front.frame := by
      cases source with
      | queueFront => exact htransmits
      | localCopy => exact hintact bytes front rest rfl hwriting hwriteMsgs
    have htail : s.session.written.writeMsgs = rest := by
      rw [HXLibAccept.written, hwriteMsgs]
      rfl
    obtain ⟨unread, entries, todo, hc⟩ := h.conserved
    refine ⟨h.isOpen, idle_written _, h.pointer_eq, ?_, h.sending, unread ++ [front], entries, todo, ?_,
      ?_, ?_, hc.received, hc.contents⟩
    · show ∀ p ∈ s.session.written.writeMsgs, _
      rw [htail]
      exact fun p hp => h.queued p (hwriteMsgs ▸ List.mem_cons_of_mem _ hp)
    · rw [hbytes]
      exact hc.wire.append front
    · intro p hp
      rcases List.mem_append.mp hp with hp | hp
      · exact hc.inRange p hp
      · rw [List.mem_singleton.mp hp]
        exact h.queued front (hwriteMsgs ▸ List.mem_cons_self)
    · show Awaits z _ (real (unread ++ [front] ++ s.session.written.writeMsgs) ++ s.sending) todo
      rw [htail, List.append_assoc, List.singleton_append, ← hwriteMsgs]
      exact hc.awaits
  · exact nomatch hstep

section Client
variable {c : HXLibClientAccept} {p : HXMessagePackage}

theorem length_load_le (hrange : p.header.InRange) :
    (p.data.load p.bodyLength).length ≤ maxBodyLength := by
  rw [Block.length_load (HXMessagePackage.bodyLength_le hrange)]
  exact HXMessagePackage.bodyLength_le hrange

theorem copies_received (hrange : p.header.InRange) (hpointer : c.readMsg.bigDataPointer = none)
    (hheader : c.readMsg.header = p.header) (hfit : (p.data.load p.bodyLength).length ≤ maxBodyLength) :
    Copies (c.received (p.data.load p.bodyLength) hfit) p := by
  refine ⟨hpointer, hheader, ?_⟩
  have hlength := @Block.length_load _ p.data _ (HXMessagePackage.bodyLength_le hrange)
  exact @Block.load_store_of_length _ c.readMsg.data _ hfit _ hlength.symm

theorem handleReadBody_heartbeat (z : Zlib) (hrange : p.header.InRange)
    (hpointer : c.readMsg.bigDataPointer = none) (hheader : c.readMsg.header = p.header)
    (hid : p.header.id = idHeartbeat) :
    ∃ c', c.handleReadBody z (some (p.data.load p.bodyLength)) = .ok c' ∧
      c'.readMsg.bigDataPointer = none ∧ c'.mRecv = c.mRecv ∧ c'.mBigData = c.mBigData := by
  have hfit := length_load_le hrange
  have hcopy := copies_received hrange hpointer hheader hfit
  have hhandled : c.handleReadBody z (some (p.data.load p.bodyLength)) = .ok { c with
      readMsg := c.received (p.data.load p.bodyLength) hfit
      heartbeats := c.heartbeats ++ [(c.received (p.data.load p.bodyLength) hfit).data.load 8] } := by
    rw [HXLibClientAccept.handleReadBody]
    dsimp only
    rw [dif_pos hfit, if_neg (not_not.mpr ((congrArg Header.id hcopy.header_eq).trans hid))]
    rfl
  exact ⟨_, hhandled, hcopy.pointer_eq, rfl, rfl⟩

theorem current_pushOption {q : HXMessageQueueAB} (hroom : q.current.length + 1 < queueMax) (big : Bool)
    (entry : Option HXMessagePackage) :
    (q.pushOption big entry).current = q.current ++ entry.toList := by
  cases entry with
  | none => exact (List.append_nil _).symm
  | some entry =>
    rw [HXMessageQueueAB.pushOption, HXMessageQueueAB.push]
    split_ifs
    · exact HXMessageQueueAB.current_setCurrent ..
    · rw [HXMessageQueueAB.add, HXMessageQueueAB.current_setCurrent,
        HXMessageQueueAB.bounded_of_lt hroom]
      rfl

theorem handleReadBody_eq (z : Zlib) (hrange : p.header.InRange) (hheader : c.readMsg.header = p.header)
    (hid : p.header.id ≠ idHeartbeat) :
    c.handleReadBody z (some (p.data.load p.bodyLength)) =
      HXMessageQueueAB.appended z (c.received (p.data.load p.bodyLength) (length_load_le hrange))
        c.mBigData >>= fun r => .ok { c with
          mRecv := c.mRecv.pushOption (isBigStream p.header.id) r.1
          readMsg := c.received (p.data.load p.bodyLength) (length_load_le hrange)
          mBigData := r.2 } := by
  have hsame : (c.received (p.data.load p.bodyLength) (length_load_le hrange)).header = p.header :=
    hheader
  rw [HXLibClientAccept.handleReadBody]
  dsimp only
  rw [dif_pos (length_load_le hrange), if_pos ((congrArg Header.id hsame).trans_ne hid),
    HXMessageQueueAB.addWith_eq, hsame]
  cases HXMessageQueueAB.appended z (c.received (p.data.load p.bodyLength) (length_load_le hrange))
    c.mBigData <;> rfl

theorem handleReadBody_real {packs : List HXMessagePackage} {todo : List Content}
    (hrange : p.header.InRange) (hpointer : c.readMsg.bigDataPointer = none)
    (hheader : c.readMsg.header = p.header) (hid : p.header.id ≠ idHeartbeat)
    (hroom : c.mRecv.current.length + 1 < queueMax) (hawaits : Awaits z c.mBigData (p :: packs) todo) :
    ∃ c' e todo', c.handleReadBody z (some (p.data.load p.bodyLength)) = .ok c' ∧
      c'.readMsg.bigDataPointer = none ∧ c'.mRecv.current = c.mRecv.current ++ e ∧
      todo = e.map contentOf ++ todo' ∧ Awaits z c'.mBigData packs todo' := by
  have hcopy := copies_received hrange hpointer hheader (length_load_le hrange)
  obtain ⟨e, b', todo', happended, htodo, hawaits'⟩ := hawaits.next hcopy
  have hhandled := handleReadBody_eq z hrange hheader hid
  rw [happended] at hhandled
  exact ⟨_, e.toList, todo', hhandled, hcopy.pointer_eq, current_pushOption hroom _ e, htodo, hawaits'⟩

end Client

theorem step_readHeader {p : HXMessagePackage} {rest : List UInt8} (hawaiting : s.awaiting = .header)
    (hwire : s.wire = p.frame ++ rest) : ∃ c, step z s .read = some { s with
      client := c, wire := p.data.load p.bodyLength ++ rest, awaiting := .body } ∧
    c.readMsg.header = p.header ∧ c.readMsg.bigDataPointer = s.client.readMsg.bigDataPointer ∧
    c.mRecv = s.client.mRecv ∧ c.mBigData = s.client.mBigData := by
  refine ⟨s.client.handleReadHeader (some p.header.bytes), ?_, Header.ofBytes_bytes_self p.header,
    rfl, rfl, rfl⟩
  simp only [step, hawaiting, hwire]
  rw [if_pos (HXMessagePackage.headerLength_le_frame p rest), HXMessagePackage.take_frame,
    HXMessagePackage.drop_frame]

theorem step_readBody {p : HXMessagePackage} {rest : List UInt8} {c : HXLibClientAccept}
    (hawaiting : s.awaiting = .body) (hrange : p.header.InRange)
    (hheader : s.client.readMsg.header = p.header) (hwire : s.wire = p.data.load p.bodyLength ++ rest)
    (hc : s.client.handleReadBody z (some (p.data.load p.bodyLength)) = .ok c) :
    step z s .read = some { s with client := c, wire := rest, awaiting := .header } := by
  have hlength := HXMessagePackage.bodyLength_of_header hrange hheader
  have hle : s.client.readMsg.bodyLength ≤ s.wire.length := by
    rw [hwire, hlength, List.length_append]
    exact Nat.le_add_right _ _
  have htake : s.wire.take s.client.readMsg.bodyLength = p.data.load p.bodyLength := by
    rw [hwire, hlength, List.take_left]
  have hdrop : s.wire.drop s.client.readMsg.bodyLength = rest := by
    rw [hwire, hlength, List.drop_left]
  simp only [step, hawaiting]
  rw [if_pos hle, htake, hdrop, hc]
  rfl

theorem read_header (h : Inv before s) (hawaiting : s.awaiting = .header) (hwire : s.wire ≠ []) :
    ∃ s', step z s .read = some s' ∧ Inv before s' ∧ s'.session = s.session ∧ s'.sending = s.sending ∧
      s'.returned = s.returned ∧ s'.awaiting = .body ∧
      s'.wire.length + headerLength = s.wire.length := by
  obtain ⟨unread, entries, todo, hc⟩ := h.conserved
  have hframes := hc.wire
  rw [hawaiting, Unread] at hframes
  cases unread with
  | nil => exact absurd hframes hwire
  | cons p rest =>
    rw [List.flatMap_cons] at hframes
    obtain ⟨c, hstep, hheader, hpointer, hrecv, hbig⟩ := step_readHeader hawaiting hframes
    refine ⟨_, hstep,
      ⟨h.isOpen, h.idle, hpointer.trans h.pointer_eq, h.queued, h.sending, p :: rest, entries,
      todo, ⟨p, rest, rfl, hheader, rfl⟩, hc.inRange, ?_, ?_, hc.contents⟩, rfl, rfl, rfl, rfl, ?_⟩
    · show Awaits z c.mBigData _ todo
      rw [hbig]
      exact hc.awaits
    · show s.taken ++ c.mRecv.current = _
      rw [hrecv]
      exact hc.received
    · rw [hframes, HXMessagePackage.frame, List.length_append, List.length_append, List.length_append,
        Header.length_bytes]
      omega

theorem read_body (h : Inv before s) (hawaiting : s.awaiting = .body)
    (hroom : s.client.mRecv.current.length + 1 < queueMax) :
    ∃ s', step z s .read = some s' ∧ Inv before s' ∧ s'.session = s.session ∧ s'.sending = s.sending ∧
      s'.returned = s.returned ∧ s'.awaiting = .header ∧ s'.wire.length ≤ s.wire.length := by
  obtain ⟨unread, entries, todo, hc⟩ := h.conserved
  have hwire := hc.wire
  rw [hawaiting] at hwire
  obtain ⟨p, rest, rfl, hheader, hwire⟩ := hwire
  have hrange := hc.inRange p List.mem_cons_self
  have hshorter : (rest.flatMap HXMessagePackage.frame).length ≤ s.wire.length := by
    rw [hwire, List.length_append]
    exact Nat.le_add_left _ _
  have hrest : ∀ q ∈ rest, q.header.InRange := fun q hq => hc.inRange q (List.mem_cons_of_mem _ hq)
  by_cases hid : p.header.id = idHeartbeat
  · obtain ⟨c', hc', hpointer, hrecv, hbig⟩ :=
      handleReadBody_heartbeat z hrange h.pointer_eq hheader hid
    refine ⟨_, step_readBody hawaiting hrange hheader hwire hc', ?_, rfl, rfl, rfl, rfl, hshorter⟩
    refine ⟨h.isOpen, h.idle, hpointer, h.queued, h.sending, rest, entries, todo, rfl, hrest, ?_, ?_,
      hc.contents⟩
    · have hawaits := hc.awaits
      rw [← List.singleton_append, List.append_assoc, real_append, real_heartbeat hid, List.nil_append,
        ← hbig] at hawaits
      exact hawaits
    · show s.taken ++ c'.mRecv.current = _
      rw [hrecv]
      exact hc.received
  · have hawaits := hc.awaits
    have hgenuine : real [p] = [p] := real_of_genuine fun q hq => List.mem_singleton.mp hq ▸ hid
    rw [← List.singleton_append, List.append_assoc, real_append, hgenuine, List.append_assoc,
      List.singleton_append] at hawaits
    obtain ⟨c', e, todo', hc', hpointer, hrecv, htodo, hawaits'⟩ :=
      handleReadBody_real hrange h.pointer_eq hheader hid hroom hawaits
    refine ⟨_, step_readBody hawaiting hrange hheader hwire hc', ?_, rfl, rfl, rfl, rfl, hshorter⟩
    refine ⟨h.isOpen, h.idle, hpointer, h.queued, h.sending, rest, entries ++ e, todo', rfl, hrest,
      hawaits', ?_, ?_⟩
    · show s.taken ++ c'.mRecv.current = _
      rw [hrecv, ← List.append_assoc, hc.received, List.append_assoc]
    · rw [List.map_append, List.append_assoc, ← htodo]
      exact hc.contents

theorem inv_swap (h : Inv before s) (hstep : step z s .swap = some s') : Inv before s' := by
  obtain rfl := Option.some.inj hstep
  obtain ⟨unread, entries, todo, hc⟩ := h.conserved
  refine ⟨h.isOpen, h.idle, h.pointer_eq, h.queued, h.sending, unread, entries, todo, hc.wire,
    hc.inRange, hc.awaits, ?_, hc.contents⟩
  show s.taken ++ s.client.mRecv.current ++ s.client.mRecv.swap.1.current = _
  rw [HXMessageQueueAB.current_swap, List.append_nil]
  exact hc.received

theorem step_inv (h : Inv before s) (hintact : Intact s e) (hroom : Room s e)
    (hstep : step z s e = some s') : Inv before s' := by
  cases e with
  | send call => exact inv_send h hstep
  | package => exact inv_package h hstep
  | heartbeat pack => exact inv_heartbeat h hstep
  | written bytes => exact inv_written h hintact hstep
  | read =>
    cases hawaiting : s.awaiting with
    | header =>
      have hwire : s.wire ≠ [] := by
        intro hwire
        simp only [step, hawaiting, hwire] at hstep
        exact nomatch hstep
      obtain ⟨t, ht, hinv, -⟩ := read_header h hawaiting hwire
      rw [hstep] at ht
      rwa [Option.some.inj ht]
    | body =>
      obtain ⟨t, ht, hinv, -⟩ := read_body h hawaiting (hroom rfl)
      rw [hstep] at ht
      rwa [Option.some.inj ht]
  | swap => exact inv_swap h hstep

/-! ## What is sent arrives

Every package still has to be handed over, written and read. -/

def cost (p : HXMessagePackage) : Nat := 2 * p.frame.length + 1

def remaining (s : State z) : Nat :=
  (s.sending.map (cost · + 1)).sum + (s.session.writeMsgs.map cost).sum + 2 * s.wire.length +
    if s.awaiting = .body then 1 else 0

theorem run_one (hstep : step z s e = some s') :
    run (step z) s [e] = some s' :=
  run_cons.mpr ⟨s', hstep, rfl⟩

theorem progress_sending {pack : HXMessagePackage} {rest : List HXMessagePackage} (h : Inv before s)
    (hsending : s.sending = pack :: rest) : ∃ s', step z s .package = some s' ∧
      s'.returned = s.returned ∧ remaining s' < remaining s := by
  have hstep : step z s .package = some { s with session := s.session.send pack, sending := rest } := by
    simp only [step, hsending]
  refine ⟨_, hstep, rfl, ?_⟩
  rw [remaining, remaining]
  dsimp only
  rw [writeMsgs_send h.isOpen, hsending, List.map_append, List.sum_append, List.map_singleton,
    List.sum_singleton, List.map_cons, List.sum_cons]
  omega

theorem progress_writing {front : HXMessagePackage} {rest : List HXMessagePackage} (h : Inv before s)
    (hwriteMsgs : s.session.writeMsgs = front :: rest) :
    ∃ s', step z s (.written front.frame) = some s' ∧ s'.returned = s.returned ∧
      remaining s' < remaining s := by
  have hne : s.session.writing ≠ none := by
    rw [ne_eq, h.idle, hwriteMsgs]
    exact List.cons_ne_nil _ _
  obtain ⟨source, hwriting⟩ := Option.ne_none_iff_exists'.mp hne
  have htransmits : Transmits front front.frame source := by cases source <;> rfl
  have hstep : step z s (.written front.frame) =
      some { s with session := s.session.written, wire := s.wire ++ front.frame } := by
    simp only [step, hwriting, hwriteMsgs]
    exact if_pos htransmits
  refine ⟨_, hstep, rfl, ?_⟩
  have htail : s.session.written.writeMsgs = rest := by
    rw [HXLibAccept.written, hwriteMsgs]
    rfl
  rw [remaining, remaining]
  dsimp only
  rw [htail, hwriteMsgs, List.map_cons, List.sum_cons, List.length_append, cost]
  omega

theorem progress_header (h : Inv before s) (hawaiting : s.awaiting = .header) (hwire : s.wire ≠ []) :
    ∃ s', step z s .read = some s' ∧ Inv before s' ∧ s'.returned = s.returned ∧
      remaining s' < remaining s := by
  obtain ⟨s', hstep, hinv, hsession, hsending, hreturned, hbody, hlength⟩ :=
    read_header h hawaiting hwire
  refine ⟨s', hstep, hinv, hreturned, ?_⟩
  have hpos : headerLength = 8 := rfl
  rw [remaining, remaining, hsession, hsending, hbody, hawaiting, if_pos rfl, if_neg nofun]
  omega

theorem progress_body (h : Inv before s) (hawaiting : s.awaiting = .body) :
    ∃ s', run (step z) s [.swap, .read] = some s' ∧ Inv before s' ∧ s'.returned = s.returned ∧
      remaining s' < remaining s := by
  obtain ⟨t, ht⟩ : ∃ t, step z s .swap = some t := ⟨_, rfl⟩
  have hinv := inv_swap h ht
  obtain rfl := Option.some.inj ht
  have hroom : s.client.mRecv.swap.1.current.length + 1 < queueMax := by
    rw [HXMessageQueueAB.current_swap]
    decide
  obtain ⟨s', hstep, hinv', hsession, hsending, hreturned, hheader, hshorter⟩ :=
    read_body hinv hawaiting hroom
  refine ⟨s', run_cons.mpr ⟨_, rfl, run_one hstep⟩, hinv', hreturned, ?_⟩
  rw [remaining, remaining, hsession, hsending, hheader, hawaiting, if_neg nofun, if_pos rfl]
  dsimp only at hshorter ⊢
  omega

theorem progress (h : Inv before s) (hdone : ¬Done s) : ∃ es s', run (step z) s es = some s' ∧
    (Inv before s' ∧ s'.returned = s.returned) ∧ remaining s' < remaining s := by
  cases hsending : s.sending with
  | cons pack rest =>
    obtain ⟨s', hstep, hreturned, hless⟩ := progress_sending h hsending
    exact ⟨_, s', run_one hstep, ⟨inv_package h hstep, hreturned⟩, hless⟩
  | nil =>
    cases hwriteMsgs : s.session.writeMsgs with
    | cons front rest =>
      obtain ⟨s', hstep, hreturned, hless⟩ := progress_writing h hwriteMsgs
      refine ⟨_, s', run_one hstep, ⟨inv_written h ?_ hstep, hreturned⟩, hless⟩
      rintro bytes other more hbytes - hother
      rw [hwriteMsgs] at hother
      rw [← Event.written.inj hbytes, (List.cons.inj hother).1]
    | nil =>
      cases hawaiting : s.awaiting with
      | body =>
        obtain ⟨s', hrun, hinv, hreturned, hless⟩ := progress_body h hawaiting
        exact ⟨_, s', hrun, ⟨hinv, hreturned⟩, hless⟩
      | header =>
        have hwire : s.wire ≠ [] := fun hwire => hdone ⟨hsending, hwriteMsgs, hwire, hawaiting⟩
        obtain ⟨s', hstep, hinv, hreturned, hless⟩ := progress_header h hawaiting hwire
        exact ⟨_, s', run_one hstep, ⟨hinv, hreturned⟩, hless⟩

theorem Inv.delivered (h : Inv before s) :
    ∃ entries, s.taken ++ s.client.mRecv.current = before ++ entries ∧
    entries.map contentOf <+: s.accepted.map Call.content ∧
    (Done s → entries.map contentOf = s.accepted.map Call.content) := by
  obtain ⟨unread, entries, todo, hc⟩ := h.conserved
  refine ⟨entries, hc.received, ⟨todo, hc.contents⟩, ?_⟩
  intro hdone
  have hunread : unread = [] := by
    have hwire := hc.wire
    rw [hdone.awaiting, hdone.wire] at hwire
    exact hwire.nothing
  have hawaits := hc.awaits
  rw [hunread, hdone.writeMsgs, hdone.sending] at hawaits
  have hcontents := hc.contents
  rwa [hawaits.nothing, List.append_nil] at hcontents

/-- Over one connection, with any mix of messages, heartbeats at any point, and
every write intact: the client's queue has got, in order, an entry for each call
that returned `true`; all of them, when all is read; and it can always be read. -/
theorem run_delivers (z : Zlib) {a : HXLibAccept} {c : HXLibClientAccept} (hopen : a.socketOpen = true)
    (hwriteMsgs : a.writeMsgs = []) (hwriting : a.writing = none)
    (hpointer : c.readMsg.bigDataPointer = none)
    {es : List (Event z)} {s : State z} (hrun : run (step z) (start a c) es = some s)
    (hintact : Along (step z) Intact (start a c) es) (hroom : Along (step z) Room (start a c) es) :
    (∃ entries, s.taken ++ s.client.mRecv.current = c.mRecv.current ++ entries ∧
      entries.map contentOf <+: s.accepted.map Call.content ∧
      (Done s → entries.map contentOf = s.accepted.map Call.content)) ∧
    ∃ more s', run (step z) s more = some s' ∧ Done s' ∧ s'.returned = s.returned ∧
      ∃ entries, s'.taken ++ s'.client.mRecv.current = c.mRecv.current ++ entries ∧
        entries.map contentOf = s.accepted.map Call.content := by
  have hstart : Inv c.mRecv.current (start a c : State z) := by
    refine ⟨hopen, iff_of_true hwriting hwriteMsgs, hpointer, ?_, nofun, [], [], [], rfl, nofun, ?_, ?_,
      rfl⟩
    · show ∀ p ∈ a.writeMsgs, _
      rw [hwriteMsgs]
      exact nofun
    · show Awaits z _ (real ([] ++ a.writeMsgs) ++ []) []
      rw [hwriteMsgs]
      exact Awaits.between _ []
    · exact (List.append_nil _).symm
  have hinv : Inv c.mRecv.current s :=
    run_invariant_along (fun _ _ _ hs hsound hstep => step_inv hs hsound.1 hsound.2 hstep)
      (hintact.and hroom)
      hrun hstart
  refine ⟨hinv.delivered, ?_⟩
  obtain ⟨more, s', hrun', ⟨hinv', hreturned⟩, hdone⟩ := @exists_run_of_measure _ _ (step z)
    (fun t => Inv c.mRecv.current t ∧ t.returned = s.returned) Done remaining
    (fun t ht hnot => by
      obtain ⟨es, t', hrun, ⟨hinv, hreturned⟩, hless⟩ := progress ht.1 hnot
      exact ⟨es, t', hrun, ⟨hinv, hreturned.trans ht.2⟩, hless⟩) s ⟨hinv, rfl⟩
  obtain ⟨entries, hreceived, -, hcontents⟩ := hinv'.delivered
  refine ⟨more, s', hrun', hdone, hreturned, entries, hreceived, ?_⟩
  rw [hcontents hdone, State.accepted, hreturned, State.accepted]

def note (id : UInt16) (hplain : ¬isBigStream id) (hid : id ≠ idHeartbeat) : Ordinary :=
  ⟨HXMessagePackage.filled LinkID.zero id 0 [] (Nat.zero_le _), rfl, HXMessagePackage.filled_inRange ..,
    hplain, hid⟩

def first : Ordinary := note 1000 (by decide) (by decide)
def second : Ordinary := note 1001 (by decide) (by decide)
def other : Ordinary := note 1002 (by decide) (by decide)

def session : HXLibAccept := HXLibAccept.new HXLibClientAccept.zeroed.readMsg ⟨0, 0, 0, 0, 0, 0, 0⟩

def large : Prepared Zlib.refusing where
  id := 2000
  id2 := 0
  data := [5, 6, 7]
  fits := by
    show 3 / maxBodyLength + 1 < 65536
    decide
  msg := { HXBigMessageQueue.new (plainHeader 2000 0 [5, 6, 7]) with
    mQueue := packages (plainHeader 2000 0 [5, 6, 7]) [5, 6, 7] }
  prepared := ⟨HXBigMessageQueue.new (plainHeader 2000 0 [5, 6, 7]), _, setBigPackage_plain _ _ (by decide), rfl⟩

def beat : HXMessagePackage :=
  HXMessagePackage.filled LinkID.zero idHeartbeat 0 (List.replicate 8 9) (by decide)

/-- A small message, the answer to a heartbeat in the midst of a big one, and all of it
written, by `handle_write` but for the first. -/
def mixed : List (Event Zlib.refusing) :=
  [.send (.small first), .package, .send (.big large), .package, .heartbeat beat, .package, .package,
    .written first.pack.frame] ++
  [.written (beginPack large.header).frame, .written (HXLibAccept.heartbeatReply beat).frame] ++
  (large.msg.mQueue.tail.map fun pack => .written pack.frame) ++ [.read, .read, .swap]

instance (s : State z) : ∀ e, Decidable (Intact s e)
  | .written bytes => decidable_of_iff (s.session.writing = some .localCopy →
      ∀ front ∈ s.session.writeMsgs.head?, bytes = front.frame) <| by
    constructor
    · rintro h _ front rest ⟨⟩ hwriting hwriteMsgs
      exact h hwriting front (by rw [hwriteMsgs]; rfl)
    · intro h hwriting front hfront
      obtain ⟨rest, hwriteMsgs⟩ := List.head?_eq_some_iff.mp hfront
      exact h bytes front rest rfl hwriting hwriteMsgs
  | .send _ => isTrue nofun
  | .package => isTrue nofun
  | .heartbeat _ => isTrue nofun
  | .read => isTrue nofun
  | .swap => isTrue nofun

instance (s : State z) : ∀ e, Decidable (Room s e)
  | .read => decidable_of_iff (s.client.mRecv.current.length + 1 < queueMax) ⟨fun h _ => h, fun h => h rfl⟩
  | .send _ => isTrue nofun
  | .package => isTrue nofun
  | .heartbeat _ => isTrue nofun
  | .written _ => isTrue nofun
  | .swap => isTrue nofun

theorem run_mixed : ((run (step Zlib.refusing) (start session HXLibClientAccept.zeroed) mixed).map
      fun s => s.accepted.map Call.content) = some [⟨1000, 0, 0, []⟩, ⟨2000, 0, 3, [5, 6, 7]⟩] ∧
    Along (step Zlib.refusing) Intact (start session HXLibClientAccept.zeroed) mixed ∧
    Along (step Zlib.refusing) Room (start session HXLibClientAccept.zeroed) mixed := by
  refine ⟨?_, ?_, ?_⟩ <;> decide +kernel

theorem run_delivers_mixed : ∃ s s' : State Zlib.refusing, ∃ more,
    run (step Zlib.refusing) (start session HXLibClientAccept.zeroed) mixed = some s ∧
    run (step Zlib.refusing) s more = some s' ∧ Done s' ∧
    ∃ entries, s'.taken ++ s'.client.mRecv.current = HXLibClientAccept.zeroed.mRecv.current ++ entries ∧
      entries.map contentOf = [⟨1000, 0, 0, []⟩, ⟨2000, 0, 3, [5, 6, 7]⟩] := by
  obtain ⟨hcontents, hintact, hroom⟩ := run_mixed
  obtain ⟨s, hrun, haccepted⟩ := Option.map_eq_some_iff.mp hcontents
  obtain ⟨-, more, s', hmore, hdone, -, hentries⟩ :=
    run_delivers Zlib.refusing rfl rfl rfl rfl hrun hintact hroom
  rw [haccepted] at hentries
  exact ⟨s, s', more, hrun, hmore, hdone, hentries⟩

end Machine

/-! ## `Send` on the server

A call on a live link is the event and its packages with nothing in between. -/

section Server
variable {z : Zlib}

def sendCall (server : HXLibAsioServer) (linkid : LinkID) : Call z → Checked (Bool × HXLibAsioServer)
  | .small m => server.send linkid m.pack
  | .big m => server.sendBig linkid m.msg

theorem sendCall_eq {server : HXLibAsioServer} {p : SessionPtr} {linkid : LinkID} (h : server.TableInv)
    (hp : server.Holds p linkid) (call : Call z) : sendCall server linkid call =
      if Lost (server.mSessions p) call then .ok (false, server)
      else .ok (true, server.modifySession p fun a => call.packages.foldl HXLibAccept.send a) := by
  have hacts := actsOn_of_holds h hp
  cases call with
  | small m => exact hacts.send m.pack
  | big m =>
    by_cases hlost : DropsBig (server.mSessions p) m.msg
    · rw [if_pos (show Lost (server.mSessions p) (.big m) from hlost)]
      exact hacts.sendBig_drops m.msg hlost
    · rw [if_neg (show ¬Lost (server.mSessions p) (.big m) from hlost)]
      exact hacts.sendBig m.msg hlost

theorem sendData_eq (server : HXLibAsioServer) (linkid : LinkID) (id id2 : UInt16)
    {data : Option (List UInt8)}
    (hfit : (data.getD []).length ≤ maxBodyLength) : server.sendData linkid id id2 data =
      server.send linkid (HXMessagePackage.filled LinkID.zero id id2 (data.getD []) hfit) := by
  rw [sendData, send]
  split_ifs
  · exact dif_pos hfit
  · rfl

theorem run_packages (s : State z) (packs rest : List HXMessagePackage) :
    run (step z) { s with sending := packs ++ rest } (List.replicate packs.length .package) =
      some { s with session := packs.foldl HXLibAccept.send s.session, sending := rest } := by
  induction packs generalizing s with
  | nil => rfl
  | cons pack packs ih => exact ih { s with session := s.session.send pack }

theorem send_runs {server : HXLibAsioServer} {p : SessionPtr} {linkid : LinkID} (h : server.TableInv)
    (hp : server.Holds p linkid) (call : Call z) {s : State z}
    (hsession : s.session = server.mSessions p) (hsending : s.sending = []) :
    ∃ ok server' n, sendCall server linkid call = .ok (ok, server') ∧
      run (step z) s (.send call :: List.replicate n .package) = some { s with
        session := server'.mSessions p, returned := s.returned ++ [(call, ok)] } := by
  have hcall := @sendCall_eq z server p linkid h hp call
  have hstep : step z s (.send call) = some { s with
      sending := if Lost (server.mSessions p) call then [] else call.packages
      returned := s.returned ++ [(call, !decide (Lost (server.mSessions p) call))] } := by
    rw [step, if_pos hsending, hsession]
  by_cases hlost : Lost (server.mSessions p) call
  · rw [if_pos hlost] at hcall
    rw [if_pos hlost, decide_eq_true hlost, ← hsending] at hstep
    refine ⟨false, server, 0, hcall, run_cons.mpr ⟨_, hstep, ?_⟩⟩
    rw [← hsession]
    rfl
  · rw [if_neg hlost] at hcall
    rw [if_neg hlost, decide_eq_false hlost] at hstep
    refine ⟨true, _, call.packages.length, hcall, run_cons.mpr ⟨_, hstep, ?_⟩⟩
    have hrun := run_packages { s with returned := s.returned ++ [(call, true)] } call.packages []
    rw [List.append_nil] at hrun
    rw [mSessions_modifySession_self, ← hsession, hsending]
    exact hrun

end Server

section Lost
variable {z : Zlib} {s : State z}

theorem read_ordinary {m : Ordinary} {rest : List UInt8} (hawaiting : s.awaiting = .header)
    (hwire : s.wire = m.pack.frame ++ rest) (hpointer : s.client.readMsg.bigDataPointer = none)
    (hroom : s.client.mRecv.current.length + 1 < queueMax) :
    ∃ c e, run (step z) s [.read, .read] = some { s with client := c, wire := rest } ∧
      c.readMsg.bigDataPointer = none ∧ c.mRecv.current = s.client.mRecv.current ++ [e] ∧
      contentOf e = contentOf m.pack := by
  obtain ⟨c, hstep, hheader, hpointer', hrecv, -⟩ := step_readHeader hawaiting hwire
  obtain ⟨c', e, todo, hc', hpointer'', hcurrent, htodo, hawaits⟩ :=
    @handleReadBody_real z c m.pack [] [contentOf m.pack] m.inRange (hpointer'.trans hpointer) hheader
      m.not_heartbeat (hrecv ▸ hroom) (Awaits.between c.mBigData [.small m])
  rw [hawaits.nothing, List.append_nil] at htodo
  obtain ⟨entry, rfl, hentry⟩ := List.map_eq_singleton_iff.mp htodo.symm
  refine ⟨c', entry, run_cons.mpr ⟨_, hstep, run_one ?_⟩, hpointer'', ?_, hentry⟩
  · rw [step_readBody rfl m.inRange hheader rfl hc', ← hawaiting]
  · rw [hcurrent, hrecv]

def twoSends (bytes : List UInt8) : List (Event Zlib.refusing) :=
  [.send (.small first), .package, .send (.small second), .package, .written first.pack.frame,
    .written bytes]

theorem run_twoSends : ∃ s, run (step Zlib.refusing) (start session HXLibClientAccept.zeroed)
    (twoSends other.pack.frame) = some s ∧ s.sending = [] ∧ s.session.writeMsgs = [] ∧
    s.awaiting = .header ∧
    s.wire = first.pack.frame ++ other.pack.frame ∧ s.client = HXLibClientAccept.zeroed ∧ s.taken = [] ∧
    s.accepted = [.small first, .small second] :=
  ⟨_, rfl, rfl, rfl, rfl, rfl, rfl, rfl, rfl⟩

/-- The second write transmits what is left of a local package: another message
arrives in place of the second one. -/
theorem delivery_fails : ∃ s, run (step Zlib.refusing) (start session HXLibClientAccept.zeroed)
      (twoSends other.pack.frame ++ [.read, .read, .read, .read]) = some s ∧
    Done s ∧ s.client.mRecv.current.length = 3 ∧
    ¬∃ entries, s.taken ++ s.client.mRecv.current = HXLibClientAccept.zeroed.mRecv.current ++ entries ∧
      entries.map contentOf = s.accepted.map Call.content := by
  obtain ⟨s, hrun, hsending, hwriteMsgs, hawaiting, hwire, hclient, htaken, haccepted⟩ := run_twoSends
  have hlength : s.client.mRecv.current.length = 1 := by
    rw [hclient]
    rfl
  have hpointer : s.client.readMsg.bigDataPointer = none := by
    rw [hclient]
    rfl
  obtain ⟨c₁, e₁, hrun₁, hpointer₁, hcurrent₁, hcontent₁⟩ :=
    read_ordinary hawaiting hwire hpointer (by rw [hlength]; decide)
  have hlength₁ : c₁.mRecv.current.length = 2 := by
    rw [hcurrent₁, List.length_append, hlength]
    rfl
  obtain ⟨c₂, e₂, hrun₂, -, hcurrent₂, hcontent₂⟩ := @read_ordinary Zlib.refusing
    { s with client := c₁, wire := other.pack.frame } other [] hawaiting (List.append_nil _).symm
      hpointer₁
    (by rw [hlength₁]; decide)
  refine ⟨_, run_append.mpr ⟨s, hrun, run_append.mpr ⟨_, hrun₁, hrun₂⟩⟩,
    ⟨hsending, hwriteMsgs, rfl, hawaiting⟩, ?_, ?_⟩
  · rw [hcurrent₂, List.length_append, hlength₁]
    rfl
  · rintro ⟨entries, hentries, hcontents⟩
    rw [hcurrent₂, hcurrent₁, htaken, hclient, List.nil_append, List.append_assoc] at hentries
    rw [← List.append_cancel_left hentries] at hcontents
    have hboth : [contentOf e₁, contentOf e₂] = s.accepted.map Call.content := hcontents
    rw [haccepted, hcontent₂] at hboth
    have hsecond := (List.cons.inj (List.cons.inj hboth).2).1
    have hids : (1002 : UInt16) = 1001 := congrArg Content.id hsecond
    exact absurd hids (by decide)

end Lost

end HXService.Delivery
