import HXService.Delivery
import HXService.WriteQueue

/-! Several threads that call `Send` on one connected client: each posts its
packages one at a time, and the server collects what arrives. -/

namespace HXService.ClientSends
open Bytes Runs Sectioning HXBigMessageQueue Delivery

/-! ## Requests -/

/-- What `SetBigPackage` has prepared, for data of any size it takes. -/
structure Packed (z : Zlib) where
  id : UInt16
  id2 : UInt16
  data : List UInt8
  msg : HXBigMessageQueue
  packed : ∃ q r, setBigPackage z q id id2 data 0 = .ok r ∧ msg.mQueue = r.mQueue

inductive Request (z : Zlib)
  | small (m : Ordinary)
  | big (m : Packed z)

namespace Request
variable {z : Zlib}

def packages : Request z → List HXMessagePackage
  | small m => [m.pack]
  | big m => m.msg.mQueue

def content : Request z → Content
  | small m => contentOf m.pack
  | big m => ⟨m.id, m.id2, m.data.length, m.data⟩

def Fits : Request z → Prop
  | small _ => True
  | big m => count m.data < 65536

instance (request : Request z) : Decidable request.Fits :=
  match request with
  | small _ => isTrue trivial
  | big m => inferInstanceAs (Decidable (count m.data < 65536))

def allocMemory (c : HXLibClientSession) : Nat := c.mNumofWrite * HXLibAsioServer.sizeofPackage % 2 ^ 32

/-- Whether `Send` gets past its tests. -/
def GoesThrough (c : HXLibClientSession) : Request z → Prop
  | small _ => c.mBConnected = true
  | big m => c.mBConnected = true ∧ ¬(m.msg.mBAllowLost = true ∧ m.msg.mMaxOfMemory.toNat ≤ allocMemory c)

instance (c : HXLibClientSession) (request : Request z) : Decidable (request.GoesThrough c) :=
  match request with
  | small _ => inferInstanceAs (Decidable (_ = _))
  | big _ => inferInstanceAs (Decidable (_ ∧ _))

end Request

/-- A call that has gone through, and how many of its packages it has posted. -/
structure Sending (z : Zlib) where
  request : Request z
  sent : Nat

namespace Sending
variable {z : Zlib}

def next (x : Sending z) : Option HXMessagePackage := x.request.packages[x.sent]?

def posted (x : Sending z) : Sending z := { x with sent := x.sent + 1 }

def Finished (x : Sending z) : Prop := x.sent = x.request.packages.length

def Midway (x : Sending z) : Prop := 0 < x.sent ∧ x.sent < x.request.packages.length

def Opens (x : Sending z) : Prop :=
  match x.request with
  | .small _ => False
  | .big _ => x.sent = 0

instance (x : Sending z) : Decidable x.Finished := inferInstanceAs (Decidable (_ = _))

instance (x : Sending z) : Decidable x.Midway := inferInstanceAs (Decidable (_ ∧ _))

instance (x : Sending z) : Decidable x.Opens :=
  match x with
  | ⟨.small _, _⟩ => isFalse not_false
  | ⟨.big _, sent⟩ => inferInstanceAs (Decidable (sent = 0))

end Sending

/-! ## The connection

`wire` are the bytes written and not read; `delivered` is what the server's
`m_queue` has been given of this connection. -/

structure State (z : Zlib) where
  sends : List (Sending z)
  client : WriteQueue.Client.State
  wire : List UInt8
  server : HXLibAsioServer
  delivered : List HXMessagePackage

inductive Event (z : Zlib)
  | send (request : Request z)
  | post (i : Nat)
  | heartbeat (time : Block 8)
  | doWrite
  | written
  | read
  | elsewhere (server : HXLibAsioServer)

def start {z : Zlib} (session : HXLibClientSession) (server : HXLibAsioServer) : State z :=
  ⟨[], WriteQueue.Client.start session, [], server, []⟩

theorem length_time_le (time : Block 8) : time.bytes.length ≤ maxBodyLength := by
  rw [time.size_eq]
  decide

def heartbeatPack (time : Block 8) : HXMessagePackage :=
  HXMessagePackage.filled LinkID.zero idHeartbeat 0 time.bytes (length_time_le time)

/-- The entry that `handle_read_body` makes of a body, if any. -/
def entered (z : Zlib) (a : HXLibAccept) (body : List UInt8) : Option HXMessagePackage :=
  if h : body.length ≤ maxBodyLength then
    if (a.received body h).header.id = idHeartbeat then none
    else (HXMessageQueueAB.appended z (a.received body h) a.mBigData).toOption.bind Prod.fst
  else none

def elsewhere (link : SessionPtr) (s other : HXLibAsioServer) : HXLibAsioServer :=
  other.modifySession link fun a => { s.mSessions link with
    writeMsgs := a.writeMsgs, mNumofWrite := a.mNumofWrite, writing := a.writing }

def step (z : Zlib) (link : SessionPtr) (s : State z) : Event z → Option (State z)
  | .send request =>
    if request.GoesThrough s.client.session then some { s with sends := s.sends ++ [⟨request, 0⟩] }
    else some s
  | .post i =>
    s.sends[i]?.bind fun x => x.next.bind fun pack =>
      (WriteQueue.Client.step s.client (.write pack)).map fun client =>
        { s with sends := s.sends.set i x.posted, client }
  | .heartbeat time =>
    (WriteQueue.Client.step s.client (.write (heartbeatPack time))).map ({ s with client := · })
  | .doWrite => (WriteQueue.Client.step s.client .doWrite).map ({ s with client := · })
  | .written =>
    s.client.outstanding.head?.bind fun front =>
      (WriteQueue.Client.step s.client (.completed 0)).map fun client =>
        { s with client, wire := s.wire ++ front.frame }
  | .read =>
    let session := s.server.mSessions link
    match session.reading with
    | some .header =>
      if headerLength ≤ s.wire.length then some { s with
        server := s.server.handleReadHeader link (some (s.wire.take headerLength))
        wire := s.wire.drop headerLength }
      else none
    | some .body =>
      let length := session.readMsg.bodyLength
      if length ≤ s.wire.length then
        (s.server.handleReadBody z link (some (s.wire.take length))).toOption.map fun server =>
          { s with
            server
            wire := s.wire.drop length
            delivered := s.delivered ++ (entered z session (s.wire.take length)).toList }
      else none
    | none => none
  | .elsewhere server => some { s with server := elsewhere link s.server server }

section Machine
variable {z : Zlib} {link : SessionPtr}

def State.accepted (s : State z) : List (Request z) := s.sends.map Sending.request

structure Done (link : SessionPtr) (s : State z) : Prop where
  sends : ∀ x ∈ s.sends, x.Finished
  posted : s.client.posted = []
  writeMsgs : s.client.session.writeMsgs = []
  wire : s.wire = []
  reading : (s.server.mSessions link).reading = some .header

/-- A big message fits its header, and the first of its packages is posted while
no other big message is between its first and its last. -/
def Alone (s : State z) : Event z → Prop
  | .send request => request.Fits
  | .post i => ∀ x ∈ s.sends[i]?, x.Opens → ∀ y ∈ s.sends, ¬y.Midway
  | _ => True

instance (s : State z) (e : Event z) : Decidable (Alone s e) :=
  match e with
  | .send request => inferInstanceAs (Decidable request.Fits)
  | .post i => inferInstanceAs (Decidable (∀ x ∈ s.sends[i]?, x.Opens → ∀ y ∈ s.sends, ¬y.Midway))
  | .heartbeat _ => isTrue trivial
  | .doWrite => isTrue trivial
  | .written => isTrue trivial
  | .read => isTrue trivial
  | .elsewhere _ => isTrue trivial

/-! ## Collecting with other messages in between

A position is the big message under way and how many of its sections are past. -/

abbrev Position (z : Zlib) := Option (Prepared z × Nat)

/-- From `p`, the package `pack` leads to `q` and completes what `contents` says. -/
inductive Turn : Position z → HXMessagePackage → List Content → Position z → Prop
  | small (p : Position z) (m : Ordinary) : Turn p m.pack [contentOf m.pack] p
  | opening (m : Prepared z) : Turn none (beginPack m.header) [] (some (m, 0))
  | section (m : Prepared z) (k : Nat) (hk : k < count m.data) :
    Turn (some (m, k)) (m.sectionAt k) [] (some (m, k + 1))
  | closing (m : Prepared z) : Turn (some (m, count m.data)) m.endPack [m.content] none

inductive Flow : Position z → List HXMessagePackage → List Content → Position z → Prop
  | nil (p : Position z) : Flow p [] [] p
  | cons {p q r : Position z} {pack : HXMessagePackage} {packs : List HXMessagePackage}
    {contents more : List Content} (turn : Turn p pack contents q) (flow : Flow q packs more r) :
    Flow p (pack :: packs) (contents ++ more) r

def At (b : HXBigMessageQueue) : Position z → Prop
  | none => True
  | some (m, k) => Gathered m.header m.data k b

section Flow
variable {p q r : Position z} {pack first : HXMessagePackage} {packs : List HXMessagePackage}
variable {contents more : List Content} {b : HXBigMessageQueue}

theorem Flow.append (flow : Flow p packs contents q) (turn : Turn q pack more r) :
    Flow p (packs ++ [pack]) (contents ++ more) r := by
  induction flow with
  | nil p => simpa using Flow.cons turn (.nil r)
  | cons first _ ih =>
    rw [List.cons_append, List.append_assoc]
    exact .cons first (ih turn)

theorem Turn.received (turn : Turn p first contents q) (hb : At b p) (hcopy : Copies pack first) :
    ∃ e b', HXMessageQueueAB.appended z pack b = .ok (e, b') ∧ contents = e.toList.map contentOf ∧
      At b' q := by
  cases turn with
  | small p m =>
    have hplain : ¬isBigStream pack.header.id := by
      rw [hcopy.header_eq]
      exact m.plain
    refine ⟨some pack, b, appended_plain hplain, ?_, hb⟩
    simp [hcopy.contentOf_eq m.pointer_eq]
  | opening m =>
    obtain ⟨hrecv, hb'⟩ := @gathered_begin z m.header m.data b pack _ m.announces hcopy
    have hbig : isBigStream pack.header.id := Or.inl (congrArg Header.id hcopy.header_eq)
    exact ⟨none, _, appended_none hbig hrecv, rfl, hb'⟩
  | «section» m k hk =>
    obtain ⟨b', hrecv, hb'⟩ := @gathered_section z m.header m.data k b pack _ m.announces hk hb hcopy
    have hbig : isBigStream pack.header.id := Or.inr (Or.inl (congrArg Header.id hcopy.header_eq))
    exact ⟨none, b', appended_none hbig hrecv, rfl, hb'⟩
  | closing m =>
    have hrecv := @gathered_end z m.id m.id2 m.data b pack _ hb hcopy
    obtain ⟨e, he, hcontent⟩ := @deliver_collected m.id m.id2 m.data b pack m.fits hb
    have hbig : isBigStream pack.header.id := Or.inr (Or.inr (congrArg Header.id hcopy.header_eq))
    refine ⟨some e, b, appended_some hbig hrecv he, ?_, trivial⟩
    exact congrArg (· :: []) hcontent.symm

end Flow

/-! ## What the callers have left to post -/

namespace Packed
variable (m : Packed z)

def prepared (h : count m.data < 65536) : Prepared z := ⟨m.id, m.id2, m.data, h, m.msg, m.packed⟩

end Packed

section Packages
variable (m : Prepared z)

theorem drop_mQueue {k : Nat} (hk : k ≤ count m.data) : m.msg.mQueue.drop (k + 1) = m.rest k := by
  have hlength : (sections m.data (beginPack m.header) (count m.data)).length = count m.data := by
    simp [sections]
  rw [m.mQueue_eq_cons, List.drop_succ_cons]
  unfold Prepared.rest
  rw [List.drop_zero, List.drop_append_of_le_length (hk.trans hlength.ge)]

theorem length_mQueue : m.msg.mQueue.length = count m.data + 2 := by
  rw [m.mQueue_eq_cons]
  simp [Prepared.rest, sections]

theorem mQueue_opening : m.msg.mQueue[0]? = some (beginPack m.header) := by
  rw [m.mQueue_eq_cons]
  rfl

theorem mQueue_section {k : Nat} (hk : k < count m.data) :
    m.msg.mQueue[k + 1]? = some (m.sectionAt k) := by
  rw [← List.head?_drop, drop_mQueue m hk.le, m.rest_of_lt hk]
  rfl

theorem mQueue_closing : m.msg.mQueue[count m.data + 1]? = some m.endPack := by
  rw [← List.head?_drop, drop_mQueue m le_rfl, m.rest_count]
  rfl

end Packages

/-- Where the callers stand: at most one is midway through a big message. -/
inductive Standing (sends : List (Sending z)) : Position z → Prop
  | between (h : ∀ x ∈ sends, ¬x.Midway) : Standing sends none
  | inside (i : Nat) (m : Packed z) (hfits : count m.data < 65536) (k : Nat) (hk : k ≤ count m.data)
    (hi : sends[i]? = some ⟨.big m, k + 1⟩)
    (h : ∀ j x, j ≠ i → sends[j]? = some x → ¬x.Midway) : Standing sends (some (m.prepared hfits, k))

section Standing
variable {sends : List (Sending z)} {x : Sending z} {i : Nat} {q : Position z} {pack : HXMessagePackage}

theorem midway_big {m : Packed z} (hfits : count m.data < 65536) {k : Nat} (hk : k ≤ count m.data) :
    (⟨.big m, k + 1⟩ : Sending z).Midway := by
  have hlength : m.msg.mQueue.length = count m.data + 2 := length_mQueue (m.prepared hfits)
  refine ⟨Nat.succ_pos k, ?_⟩
  show k + 1 < m.msg.mQueue.length
  omega

theorem not_midway_small {m : Ordinary} {n : Nat} : ¬(⟨.small m, n⟩ : Sending z).Midway := by
  rintro ⟨hpos, hlt⟩
  exact absurd hlt (Nat.not_lt.mpr hpos)

theorem Standing.add (h : Standing sends q) (request : Request z) :
    Standing (sends ++ [⟨request, 0⟩]) q := by
  have hnew : ¬(⟨request, 0⟩ : Sending z).Midway := fun hmid => Nat.lt_irrefl 0 hmid.1
  cases h with
  | between h =>
    refine .between ?_
    intro x hx
    rcases List.mem_append.mp hx with hx | hx
    · exact h x hx
    · rw [List.mem_singleton.mp hx]
      exact hnew
  | inside i m hfits k hk hi h =>
    have hlt := (List.getElem?_eq_some_iff.mp hi).1
    refine .inside i m hfits k hk ?_ ?_
    · rw [List.getElem?_append_left hlt, hi]
    · intro j x hj hx
      rcases Nat.lt_or_ge j sends.length with hjlt | hge
      · rw [List.getElem?_append_left hjlt] at hx
        exact h j x hj hx
      · rw [List.getElem?_append_right hge] at hx
        rw [← List.mem_singleton.mp (List.mem_of_getElem? hx)] at hnew
        exact hnew

theorem others_set {y : Sending z} (h : ∀ j x, j ≠ i → sends[j]? = some x → ¬x.Midway)
    (hy : ¬y.Midway) : Standing (sends.set i y) none := by
  refine .between ?_
  intro x hx
  obtain ⟨j, hj⟩ := List.mem_iff_getElem?.mp hx
  rw [List.getElem?_set] at hj
  split_ifs at hj with hij hlt
  · rwa [← Option.some.inj hj]
  · exact h j x (Ne.symm hij) hj

theorem Standing.none_of_opens (h : Standing sends q) (halone : ∀ y ∈ sends, ¬y.Midway) : q = none := by
  cases h with
  | between h => rfl
  | inside i m hfits k hk hi h =>
    exact absurd (midway_big hfits hk) (halone _ (List.mem_of_getElem? hi))

theorem Standing.post_small (h : Standing sends q) {m : Ordinary} {n : Nat}
    (hx : sends[i]? = some ⟨.small m, n⟩) : Standing (sends.set i ⟨.small m, n + 1⟩) q := by
  cases h with
  | between h =>
    exact others_set (fun j y _ hy => h y (List.mem_of_getElem? hy)) not_midway_small
  | inside j m' hfits k hk hj h =>
    have hij : i ≠ j := by
      rintro rfl
      rw [hx] at hj
      cases hj
    refine .inside j m' hfits k hk ?_ ?_
    · rw [List.getElem?_set_ne hij, hj]
    · intro l y hl hy
      rw [List.getElem?_set] at hy
      split_ifs at hy with hil hlt
      · rw [← Option.some.inj hy]
        exact not_midway_small
      · exact h l y hl hy

/-- The next package of a call takes the sender from one position to the next. -/
theorem Standing.post (h : Standing sends q) (hx : sends[i]? = some x) (hnext : x.next = some pack)
    (hfits : x.request.Fits) (halone : x.Opens → ∀ y ∈ sends, ¬y.Midway) :
    ∃ q', Turn q pack (if x.posted.Finished then [x.request.content] else []) q' ∧
      Standing (sends.set i x.posted) q' := by
  obtain ⟨request, n⟩ := x
  have hlt : n < request.packages.length := (List.getElem?_eq_some_iff.mp hnext).1
  cases request with
  | small m =>
    obtain rfl : n = 0 := Nat.lt_one_iff.mp hlt
    obtain rfl : m.pack = pack := Option.some.inj hnext
    refine ⟨q, ?_, h.post_small hx⟩
    simpa [Sending.posted, Sending.Finished, Request.packages, Request.content] using Turn.small q m
  | big m =>
    have hlength : m.msg.mQueue.length = count m.data + 2 := length_mQueue (m.prepared hfits)
    have hfinished : (Sending.posted ⟨.big m, n⟩ : Sending z).Finished ↔ n = count m.data + 1 := by
      show n + 1 = m.msg.mQueue.length ↔ _
      omega
    simp only [hfinished]
    cases n with
    | zero =>
      obtain rfl := h.none_of_opens (halone rfl)
      obtain rfl : beginPack (m.prepared hfits).header = pack :=
        Option.some.inj ((mQueue_opening (m.prepared hfits)).symm.trans hnext)
      refine ⟨_, .opening (m.prepared hfits), ?_⟩
      refine .inside i m hfits 0 (Nat.zero_le _) ?_ ?_
      · rw [List.getElem?_set_self (List.getElem?_eq_some_iff.mp hx).1]
        rfl
      · intro j y hj hy
        rw [List.getElem?_set_ne hj.symm] at hy
        exact halone rfl y (List.mem_of_getElem? hy)
    | succ k =>
      have hk : k ≤ count m.data := by
        have : k + 1 < m.msg.mQueue.length := hlt
        omega
      cases h with
      | between h => exact absurd (midway_big hfits hk) (h _ (List.mem_of_getElem? hx))
      | inside j m' hfits' k' hk' hj h =>
        obtain rfl : i = j := by
          by_contra hij
          exact h i _ hij hx (midway_big hfits hk)
        rw [hx] at hj
        cases hj
        rcases Nat.lt_or_eq_of_le hk with hlt' | rfl
        · obtain rfl : (m.prepared hfits).sectionAt k = pack :=
            Option.some.inj ((mQueue_section (m.prepared hfits) hlt').symm.trans hnext)
          rw [if_neg (by omega)]
          refine ⟨_, .section (m.prepared hfits) k hlt', .inside i m hfits (k + 1) hlt' ?_ ?_⟩
          · rw [List.getElem?_set_self (List.getElem?_eq_some_iff.mp hx).1]
            rfl
          · intro j y hj hy
            rw [List.getElem?_set_ne hj.symm] at hy
            exact h j y hj hy
        · obtain rfl : (m.prepared hfits).endPack = pack :=
            Option.some.inj ((mQueue_closing (m.prepared hfits)).symm.trans hnext)
          rw [if_pos rfl]
          refine ⟨_, .closing (m.prepared hfits), others_set h ?_⟩
          rintro ⟨-, hmid⟩
          exact absurd hmid (by show ¬count m.data + 1 + 1 < m.msg.mQueue.length; omega)

end Standing

section Requests
variable {request : Request z}

def Request.toCall (request : Request z) (h : request.Fits) : Call z :=
  match request, h with
  | .small m, _ => .small m
  | .big m, h => .big (m.prepared h)

theorem Request.packages_toCall (h : request.Fits) : (request.toCall h).packages = request.packages := by
  cases request <;> rfl

theorem Request.packages_ne_nil (h : request.Fits) : request.packages ≠ [] := by
  rw [← Request.packages_toCall h]
  exact (request.toCall h).packages_ne_nil

theorem Request.mem_packages {p : HXMessagePackage} (h : request.Fits) (hp : p ∈ request.packages) :
    p.header.InRange ∧ p.header.id ≠ idHeartbeat := by
  rw [← Request.packages_toCall h] at hp
  exact Delivery.mem_packages _ hp

end Requests

/-- What the messages say that have been posted whole. -/
def finished (sends : List (Sending z)) : List Content :=
  (sends.filter fun x => x.Finished).map fun x => x.request.content

section Finished
variable {sends : List (Sending z)} {x : Sending z} {i : Nat} {pack : HXMessagePackage}

theorem split_set (hx : sends[i]? = some x) :
    ∃ l r, sends = l ++ x :: r ∧ ∀ y, sends.set i y = l ++ y :: r := by
  obtain ⟨hi, rfl⟩ := List.getElem?_eq_some_iff.mp hx
  refine ⟨sends.take i, sends.drop (i + 1), ?_, ?_⟩
  · simp
  · intro y
    exact List.set_eq_take_append_cons_drop.trans (if_pos hi)

theorem finished_add {request : Request z} (h : request.Fits) :
    finished (sends ++ [⟨request, 0⟩]) = finished sends := by
  have hnew : ¬(⟨request, 0⟩ : Sending z).Finished := by
    intro hzero
    exact request.packages_ne_nil h (List.length_eq_zero_iff.mp hzero.symm)
  unfold finished
  simp [hnew]

theorem finished_set (hx : sends[i]? = some x) (hnext : x.next = some pack) :
    (finished (sends.set i x.posted)).Perm
      (finished sends ++ if x.posted.Finished then [x.request.content] else []) := by
  obtain ⟨l, r, hsends, hset⟩ := split_set hx
  have hnot : ¬x.Finished := fun h => absurd (List.getElem?_eq_some_iff.mp hnext).1 (h.ge.not_gt)
  unfold finished
  rw [hset, hsends]
  by_cases hdone : x.posted.Finished
  · simp only [List.filter_append, List.filter_cons, hdone, hnot, decide_true, decide_false, if_true,
      List.map_append, List.map_cons]
    exact List.perm_middle.trans (List.perm_append_singleton _ _).symm
  · simp [hdone, hnot]

end Finished

/-! ## The invariant -/

/-- What has been delivered and what is still to come is what has been posted whole. -/
structure Conserved (link : SessionPtr) (s : State z) (op : ReadOp) (unread : List HXMessagePackage)
    (todo : List Content) (p q : Position z) : Prop where
  reading : (s.server.mSessions link).reading = some op
  wire : Unread (s.server.mSessions link).readMsg s.wire unread op
  inRange : ∀ pack ∈ unread ++ s.client.session.writeMsgs ++ s.client.posted, pack.header.InRange
  position : At (s.server.mSessions link).mBigData p
  flow : Flow p (real (unread ++ s.client.session.writeMsgs ++ s.client.posted)) todo q
  standing : Standing s.sends q
  contents : (finished s.sends).Perm (s.delivered.map contentOf ++ todo)

structure Inv (link : SessionPtr) (s : State z) : Prop where
  client : ∃ entered, WriteQueue.Client.Inv s.client entered
  running : s.client.failed = false
  pointer_eq : (s.server.mSessions link).readMsg.bigDataPointer = none
  sends : ∀ x ∈ s.sends, x.request.Fits ∧ x.sent ≤ x.request.packages.length
  conserved : ∃ op unread todo p q, Conserved link s op unread todo p q

section Steps
variable {s s' : State z} {e : Event z} {pack : HXMessagePackage}

theorem inv_send {request : Request z} (h : Inv link s) (hfits : request.Fits)
    (hstep : step z link s (.send request) = some s') : Inv link s' := by
  rw [step] at hstep
  split_ifs at hstep
  · obtain rfl := Option.some.inj hstep
    obtain ⟨op, unread, todo, p, q, hc⟩ := h.conserved
    refine ⟨h.client, h.running, h.pointer_eq, ?_, op, unread, todo, p, q, hc.reading, hc.wire,
      hc.inRange, hc.position, hc.flow, hc.standing.add request, ?_⟩
    · intro x hx
      rcases List.mem_append.mp hx with hx | hx
      · exact h.sends x hx
      · rw [List.mem_singleton.mp hx]
        exact ⟨hfits, Nat.zero_le _⟩
    · show (finished (s.sends ++ [⟨request, 0⟩])).Perm _
      rw [finished_add hfits]
      exact hc.contents
  · exact Option.some.inj hstep ▸ h

theorem Conserved.write {op : ReadOp} {unread : List HXMessagePackage} {todo more : List Content}
    {p q r : Position z} {sends : List (Sending z)} {client : WriteQueue.Client.State}
    (hc : Conserved link s op unread todo p q)
    (hclient : WriteQueue.Client.step s.client (.write pack) = some client)
    (hrange : pack.header.InRange) (hflow : ∀ packs, Flow p packs todo q →
      Flow p (packs ++ real [pack]) (todo ++ more) r)
    (hstanding : Standing sends r) (hfinished : (finished sends).Perm (finished s.sends ++ more)) :
    Conserved link { s with sends, client } op unread (todo ++ more) p r := by
  obtain rfl := Option.some.inj hclient
  refine ⟨hc.reading, hc.wire, ?_, hc.position, ?_, hstanding, ?_⟩
  · show ∀ p ∈ unread ++ s.client.session.writeMsgs ++ (s.client.posted ++ [pack]), _
    intro p hp
    rw [← List.append_assoc] at hp
    rcases List.mem_append.mp hp with hp | hp
    · exact hc.inRange p hp
    · rw [List.mem_singleton.mp hp]
      exact hrange
  · show Flow p (real (unread ++ s.client.session.writeMsgs ++ (s.client.posted ++ [pack]))) _ r
    rw [← List.append_assoc, real_append]
    exact hflow _ hc.flow
  · rw [← List.append_assoc]
    exact hfinished.trans (hc.contents.append_right more)

theorem inv_post {i : Nat} (h : Inv link s) (halone : Alone s (.post i))
    (hstep : step z link s (.post i) = some s') : Inv link s' := by
  rw [step] at hstep
  obtain ⟨x, hx, hstep⟩ := Option.bind_eq_some_iff.mp hstep
  obtain ⟨pack, hnext, hstep⟩ := Option.bind_eq_some_iff.mp hstep
  obtain ⟨client, hclient, rfl⟩ := Option.map_eq_some_iff.mp hstep
  obtain ⟨op, unread, todo, p, q, hc⟩ := h.conserved
  obtain ⟨entered, hinv⟩ := h.client
  have hfits := (h.sends x (List.mem_of_getElem? hx)).1
  have hpack := Request.mem_packages hfits (List.mem_of_getElem? hnext)
  obtain ⟨r, hturn, hstanding⟩ := hc.standing.post hx hnext hfits (halone x hx)
  have hreal : real [pack] = [pack] :=
    real_of_genuine fun p hp => by
      rw [List.mem_singleton.mp hp]
      exact hpack.2
  refine ⟨WriteQueue.Client.step_inv hinv hclient, ?_, h.pointer_eq, ?_, op, unread, _, p, r,
    hc.write hclient hpack.1 ?_ hstanding (finished_set hx hnext)⟩
  · obtain rfl := Option.some.inj hclient
    exact h.running
  · intro y hy
    rcases List.mem_or_eq_of_mem_set hy with hy | rfl
    · exact h.sends y hy
    · exact ⟨hfits, (List.getElem?_eq_some_iff.mp hnext).1⟩
  · intro packs hflow
    rw [hreal]
    exact hflow.append hturn

theorem inv_heartbeat {time : Block 8} (h : Inv link s)
    (hstep : step z link s (.heartbeat time) = some s') : Inv link s' := by
  rw [step] at hstep
  obtain ⟨client, hclient, rfl⟩ := Option.map_eq_some_iff.mp hstep
  obtain ⟨op, unread, todo, p, q, hc⟩ := h.conserved
  obtain ⟨entered, hinv⟩ := h.client
  have hreal : real [heartbeatPack time] = [] := real_heartbeat rfl
  refine ⟨WriteQueue.Client.step_inv hinv hclient, ?_, h.pointer_eq, h.sends, op, unread, todo ++ [],
    p, q, hc.write hclient (HXMessagePackage.filled_inRange ..) ?_ hc.standing ?_⟩
  · obtain rfl := Option.some.inj hclient
    exact h.running
  · intro packs hflow
    rwa [hreal, List.append_nil, List.append_nil]
  · rw [List.append_nil]

theorem Conserved.moved {op : ReadOp} {unread unread' : List HXMessagePackage} {todo : List Content}
    {p q : Position z} {client : WriteQueue.Client.State} {wire : List UInt8}
    (hc : Conserved link s op unread todo p q)
    (hwire : Unread (s.server.mSessions link).readMsg wire unread' op)
    (hsame : unread' ++ client.session.writeMsgs ++ client.posted =
      unread ++ s.client.session.writeMsgs ++ s.client.posted) :
    Conserved link { s with client, wire } op unread' todo p q := by
  refine ⟨hc.reading, hwire, ?_, hc.position, ?_, hc.standing, hc.contents⟩
  · show ∀ p ∈ unread' ++ client.session.writeMsgs ++ client.posted, _
    rw [hsame]
    exact hc.inRange
  · show Flow p (real (unread' ++ client.session.writeMsgs ++ client.posted)) todo q
    rw [hsame]
    exact hc.flow

theorem inv_doWrite (h : Inv link s) (hstep : step z link s .doWrite = some s') : Inv link s' := by
  rw [step] at hstep
  obtain ⟨client, hclient, rfl⟩ := Option.map_eq_some_iff.mp hstep
  obtain ⟨op, unread, todo, p, q, hc⟩ := h.conserved
  obtain ⟨entered, hinv⟩ := h.client
  have hinv' := WriteQueue.Client.step_inv hinv hclient
  cases hposted : s.client.posted with
  | nil => simp [WriteQueue.Client.step, hposted] at hclient
  | cons msg posted =>
    simp only [WriteQueue.Client.step, hposted, Option.some.injEq] at hclient
    subst hclient
    have hsame : unread ++ (s.client.session.writeMsgs ++ [msg]) ++ posted =
        unread ++ s.client.session.writeMsgs ++ s.client.posted := by
      simp [hposted]
    exact ⟨hinv', h.running, h.pointer_eq, h.sends, op, unread, todo, p, q, hc.moved hc.wire hsame⟩

theorem Inv.front {front : HXMessagePackage} (h : Inv link s)
    (hfront : s.client.outstanding.head? = some front) :
    ∃ rest, s.client.session.writeMsgs = front :: rest := by
  obtain ⟨entered, hinv⟩ := h.client
  obtain ⟨more, hmore⟩ := List.head?_eq_some_iff.mp hfront
  exact (@Writer.State.Ordered.outstanding_eq _ _ [] more front hinv.ordered hmore).2.2.2.2

theorem inv_written (h : Inv link s) (hstep : step z link s .written = some s') : Inv link s' := by
  rw [step] at hstep
  obtain ⟨front, hfront, hstep⟩ := Option.bind_eq_some_iff.mp hstep
  obtain ⟨client, hclient, rfl⟩ := Option.map_eq_some_iff.mp hstep
  obtain ⟨op, unread, todo, p, q, hc⟩ := h.conserved
  obtain ⟨entered, hinv⟩ := h.client
  obtain ⟨rest, hwriteMsgs⟩ := h.front hfront
  have hinv' := WriteQueue.Client.step_inv hinv hclient
  obtain ⟨-, -, rfl⟩ := Option.map_eq_some_iff.mp hclient
  have hsame : unread ++ [front] ++ s.client.session.writeMsgs.tail ++ s.client.posted =
      unread ++ s.client.session.writeMsgs ++ s.client.posted := by
    simp [hwriteMsgs]
  exact ⟨hinv', h.running, h.pointer_eq, h.sends, op, unread ++ [front], todo, p, q,
    hc.moved (hc.wire.append front) hsame⟩

end Steps

/-! ## Reading

The server reads like the client does; a heartbeat is answered and makes no entry. -/

section Server
variable {server t : HXLibAsioServer} {pack : HXMessagePackage} {body : List UInt8}

theorem mQueue_handleReadBody (h : server.handleReadBody z link (some body) = .ok t) :
    ∃ big, t.mQueue = server.mQueue.pushOption big (entered z (server.mSessions link) body) := by
  simp only [HXLibAsioServer.handleReadBody] at h
  unfold entered
  split_ifs at h with hfit hid
  · rw [HXMessageQueueAB.addWith_eq] at h
    rw [dif_pos hfit, if_neg hid]
    obtain ⟨added, hadded, h⟩ := bind_eq_ok.mp h
    obtain ⟨r, hr, hadded⟩ := bind_eq_ok.mp hadded
    obtain rfl := Except.ok.inj h
    obtain rfl := Except.ok.inj hadded
    rw [hr]
    exact ⟨_, rfl⟩
  · obtain rfl := Except.ok.inj h
    rw [dif_pos hfit, if_pos (not_not.mp hid)]
    exact ⟨false, rfl⟩

theorem copies_receivedAt {a : HXLibAccept} (hrange : pack.header.InRange)
    (hpointer : a.readMsg.bigDataPointer = none) (hheader : a.readMsg.header = pack.header)
    (hfit : (pack.data.load pack.bodyLength).length ≤ maxBodyLength) :
    Copies (a.received (pack.data.load pack.bodyLength) hfit) pack := by
  refine ⟨hpointer, hheader, ?_⟩
  have hlength := @Block.length_load _ pack.data _ (HXMessagePackage.bodyLength_le hrange)
  exact @Block.load_store_of_length _ a.readMsg.data _ hfit _ hlength.symm

structure ReadsTo (link : SessionPtr) (server t : HXLibAsioServer) (body : List UInt8)
    (b : HXBigMessageQueue) (e : Option HXMessagePackage) : Prop where
  handled : server.handleReadBody z link (some body) = .ok t
  reading : (t.mSessions link).reading = some .header
  pointer_eq : (t.mSessions link).readMsg.bigDataPointer = none
  mBigData : (t.mSessions link).mBigData = b
  entered : entered z (server.mSessions link) body = e

theorem mBigData_send (a : HXLibAccept) (msg : HXMessagePackage) :
    (a.send msg).mBigData = a.mBigData := by
  unfold HXLibAccept.send
  split_ifs <;> rfl

theorem reads_heartbeat (hrange : pack.header.InRange)
    (hpointer : (server.mSessions link).readMsg.bigDataPointer = none)
    (hheader : (server.mSessions link).readMsg.header = pack.header)
    (hid : pack.header.id = idHeartbeat) :
    ∃ t, @ReadsTo z link server t (pack.data.load pack.bodyLength) (server.mSessions link).mBigData
      none := by
  have hfit := length_load_le hrange
  have hcopy := copies_receivedAt hrange hpointer hheader hfit
  have hsame : ((server.mSessions link).received (pack.data.load pack.bodyLength) hfit).header.id =
      idHeartbeat := (congrArg Header.id hcopy.header_eq).trans hid
  have hhandled : ∃ t, server.handleReadBody z link (some (pack.data.load pack.bodyLength)) = .ok t ∧
      t = server.modifySession link fun a =>
        { a.send (HXLibAccept.heartbeatReply
            ((server.mSessions link).received (pack.data.load pack.bodyLength) hfit)) with
          readMsg := (server.mSessions link).received (pack.data.load pack.bodyLength) hfit
          reading := some .header } := by
    unfold HXLibAsioServer.handleReadBody
    dsimp only
    rw [dif_pos hfit, if_neg (not_not.mpr hsame)]
    exact ⟨_, rfl, rfl⟩
  obtain ⟨t, hhandled, ht⟩ := hhandled
  refine ⟨t, hhandled, ?_, ?_, ?_, ?_⟩
  · simp [ht]
  · simpa [ht] using hcopy.pointer_eq
  · simp [ht, mBigData_send]
  · unfold ClientSends.entered
    rw [dif_pos hfit, if_pos hsame]

theorem reads_turn {p q : Position z} {contents : List Content} (hrange : pack.header.InRange)
    (hpointer : (server.mSessions link).readMsg.bigDataPointer = none)
    (hheader : (server.mSessions link).readMsg.header = pack.header) (hid : pack.header.id ≠ idHeartbeat)
    (hb : At (server.mSessions link).mBigData p) (turn : Turn p pack contents q) :
    ∃ t e b, @ReadsTo z link server t (pack.data.load pack.bodyLength) b e ∧
      contents = e.toList.map contentOf ∧ At b q := by
  have hfit := length_load_le hrange
  have hcopy := copies_receivedAt hrange hpointer hheader hfit
  obtain ⟨e, b, happended, hcontents, hb'⟩ := turn.received hb hcopy
  have hsame : ((server.mSessions link).received (pack.data.load pack.bodyLength) hfit).header.id ≠
      idHeartbeat := (congrArg Header.id hcopy.header_eq).trans_ne hid
  have hhandled : ∃ t q, server.handleReadBody z link (some (pack.data.load pack.bodyLength)) = .ok t ∧
      t = { server with mQueue := q }.modifySession link fun a =>
        { a with
          readMsg := (server.mSessions link).received (pack.data.load pack.bodyLength) hfit
          mBigData := b
          reading := some .header } := by
    unfold HXLibAsioServer.handleReadBody
    dsimp only
    rw [dif_pos hfit, if_pos hsame, HXMessageQueueAB.addWith_eq, happended]
    exact ⟨_, _, rfl, rfl⟩
  obtain ⟨t, queue, hhandled, ht⟩ := hhandled
  refine ⟨t, e, b, ⟨hhandled, ?_, ?_, ?_, ?_⟩, hcontents, hb'⟩
  · simp [ht]
  · simpa [ht] using hcopy.pointer_eq
  · simp [ht]
  · unfold ClientSends.entered
    rw [dif_pos hfit, if_neg hsame, happended]
    rfl

end Server

section Reads
variable {s s' : State z} {e : Event z}

theorem read_header (h : Inv link s) (hreading : (s.server.mSessions link).reading = some .header)
    (hwire : s.wire ≠ []) : ∃ s', step z link s .read = some s' ∧ Inv link s' ∧ s'.sends = s.sends ∧
      s'.client = s.client ∧ (s'.server.mSessions link).reading = some .body ∧
      s'.wire.length + headerLength = s.wire.length := by
  obtain ⟨op, unread, todo, p, q, hc⟩ := h.conserved
  obtain rfl : op = .header := Option.some.inj (hc.reading.symm.trans hreading)
  have hframes := hc.wire
  rw [Unread] at hframes
  cases unread with
  | nil => exact absurd hframes hwire
  | cons pack rest =>
    rw [List.flatMap_cons] at hframes
    have hstep : step z link s .read = some { s with
        server := s.server.handleReadHeader link (some pack.header.bytes)
        wire := pack.data.load pack.bodyLength ++ rest.flatMap HXMessagePackage.frame } := by
      simp only [step, hreading, hframes]
      rw [if_pos (HXMessagePackage.headerLength_le_frame pack _), HXMessagePackage.take_frame,
        HXMessagePackage.drop_frame]
    have hsession : (s.server.handleReadHeader link (some pack.header.bytes)).mSessions link =
        (s.server.mSessions link).readHeader pack.header.bytes := by
      unfold HXLibAsioServer.handleReadHeader
      simp
    refine ⟨_, hstep, ⟨h.client, h.running, ?_, h.sends, .body, pack :: rest, todo, p, q, ?_, ?_,
      hc.inRange, ?_, hc.flow, hc.standing, hc.contents⟩, rfl, rfl, ?_, ?_⟩
    · rw [hsession]
      exact h.pointer_eq
    · rw [hsession]
      rfl
    · rw [hsession]
      exact ⟨pack, rest, rfl, Header.ofBytes_bytes_self pack.header, rfl⟩
    · rw [hsession]
      exact hc.position
    · rw [hsession]
      rfl
    · rw [hframes, HXMessagePackage.frame, List.length_append, List.length_append, List.length_append,
        Header.length_bytes]
      omega

theorem read_body (h : Inv link s) (hreading : (s.server.mSessions link).reading = some .body) :
    ∃ s', step z link s .read = some s' ∧ Inv link s' ∧ s'.sends = s.sends ∧ s'.client = s.client ∧
      (s'.server.mSessions link).reading = some .header ∧ s'.wire.length ≤ s.wire.length := by
  obtain ⟨op, unread, todo, p, q, hc⟩ := h.conserved
  obtain rfl : op = .body := Option.some.inj (hc.reading.symm.trans hreading)
  obtain ⟨pack, rest, rfl, hheader, hwire⟩ := hc.wire
  have hrange := hc.inRange pack (by simp)
  have hshorter : (rest.flatMap HXMessagePackage.frame).length ≤ s.wire.length := by
    rw [hwire, List.length_append]
    exact Nat.le_add_left _ _
  have hlength := HXMessagePackage.bodyLength_of_header hrange hheader
  have hle : (s.server.mSessions link).readMsg.bodyLength ≤ s.wire.length := by
    rw [hwire, hlength, List.length_append]
    exact Nat.le_add_right _ _
  have htake : s.wire.take (s.server.mSessions link).readMsg.bodyLength =
      pack.data.load pack.bodyLength := by
    rw [hwire, hlength, List.take_left]
  have hdrop : s.wire.drop (s.server.mSessions link).readMsg.bodyLength =
      rest.flatMap HXMessagePackage.frame := by
    rw [hwire, hlength, List.drop_left]
  have hstep : ∀ {t b e}, @ReadsTo z link s.server t (pack.data.load pack.bodyLength) b e →
      step z link s .read = some { s with
        server := t
        wire := rest.flatMap HXMessagePackage.frame
        delivered := s.delivered ++ e.toList } := by
    intro t b e ht
    simp only [step, hreading]
    rw [if_pos hle, htake, hdrop, ht.handled, ht.entered]
    rfl
  have hrest : ∀ p ∈ rest ++ s.client.session.writeMsgs ++ s.client.posted, p.header.InRange :=
    fun p hp => hc.inRange p (List.mem_cons_of_mem _ hp)
  have hflow := hc.flow
  rw [List.cons_append, List.cons_append, ← List.singleton_append, real_append] at hflow
  by_cases hid : pack.header.id = idHeartbeat
  · obtain ⟨t, ht⟩ := @reads_heartbeat z link s.server pack hrange h.pointer_eq hheader hid
    rw [real_heartbeat hid, List.nil_append] at hflow
    refine ⟨_, hstep ht, ⟨h.client, h.running, ht.pointer_eq, h.sends, .header, rest, todo, p, q,
      ht.reading, rfl, hrest, ?_, ?_, hc.standing, ?_⟩, rfl, rfl, ht.reading, hshorter⟩
    · rw [ht.mBigData]
      exact hc.position
    · exact hflow
    · simpa using hc.contents
  · have hreal : real [pack] = [pack] := real_of_genuine fun p hp => by
      rw [List.mem_singleton.mp hp]
      exact hid
    rw [hreal, List.singleton_append] at hflow
    cases hflow with
    | cons turn flow =>
      rename_i r contents more
      obtain ⟨t, e, b, ht, rfl, hb⟩ :=
        @reads_turn z link s.server pack p r contents hrange h.pointer_eq hheader hid hc.position turn
      refine ⟨_, hstep ht, ⟨h.client, h.running, ht.pointer_eq, h.sends, .header, rest, more, r, q,
        ht.reading, rfl, hrest, ?_, flow, hc.standing, ?_⟩, rfl, rfl, ht.reading, hshorter⟩
      · rw [ht.mBigData]
        exact hb
      · rw [List.map_append, List.append_assoc]
        exact hc.contents

theorem inv_read (h : Inv link s) (hstep : step z link s .read = some s') : Inv link s' := by
  obtain ⟨op, unread, todo, p, q, hc⟩ := h.conserved
  cases op with
  | header =>
    have hwire : s.wire ≠ [] := by
      intro hwire
      simp [step, hc.reading, hwire, headerLength] at hstep
    obtain ⟨t, ht, hinv, -⟩ := read_header h hc.reading hwire
    rw [hstep] at ht
    rwa [Option.some.inj ht]
  | body =>
    obtain ⟨t, ht, hinv, -⟩ := read_body h hc.reading
    rw [hstep] at ht
    rwa [Option.some.inj ht]

theorem inv_elsewhere {server : HXLibAsioServer} (h : Inv link s)
    (hstep : step z link s (.elsewhere server) = some s') : Inv link s' := by
  obtain rfl := Option.some.inj hstep
  obtain ⟨op, unread, todo, p, q, hc⟩ := h.conserved
  have hsession : (elsewhere link s.server server).mSessions link = { s.server.mSessions link with
      writeMsgs := (server.mSessions link).writeMsgs
      mNumofWrite := (server.mSessions link).mNumofWrite
      writing := (server.mSessions link).writing } := by
    unfold elsewhere
    simp
  refine ⟨h.client, h.running, ?_, h.sends, op, unread, todo, p, q, ?_, ?_, hc.inRange, ?_, hc.flow,
    hc.standing, hc.contents⟩
  · rw [hsession]
    exact h.pointer_eq
  · rw [hsession]
    exact hc.reading
  · rw [hsession]
    exact hc.wire
  · rw [hsession]
    exact hc.position

theorem step_inv (h : Inv link s) (halone : Alone s e) (hstep : step z link s e = some s') :
    Inv link s' := by
  cases e with
  | send request => exact inv_send h halone hstep
  | post i => exact inv_post h halone hstep
  | heartbeat time => exact inv_heartbeat h hstep
  | doWrite => exact inv_doWrite h hstep
  | written => exact inv_written h hstep
  | read => exact inv_read h hstep
  | elsewhere server => exact inv_elsewhere h hstep

end Reads

/-! ## What is sent arrives

Every package still has to be posted, queued, written and read. -/

section Progress
variable {s s' : State z} {e : Event z}

def unposted (x : Sending z) : Nat := ((x.request.packages.drop x.sent).map (cost · + 2)).sum

def remaining (link : SessionPtr) (s : State z) : Nat :=
  (s.sends.map unposted).sum + (s.client.posted.map (cost · + 1)).sum +
    (s.client.session.writeMsgs.map cost).sum + 2 * s.wire.length +
    if (s.server.mSessions link).reading = some .body then 1 else 0

theorem unposted_posted {x : Sending z} {pack : HXMessagePackage} (hnext : x.next = some pack) :
    unposted x = unposted x.posted + (cost pack + 2) := by
  obtain ⟨hlt, hpack⟩ := List.getElem?_eq_some_iff.mp hnext
  unfold unposted
  rw [List.drop_eq_getElem_cons hlt, hpack, List.map_cons, List.sum_cons, Nat.add_comm]
  rfl

theorem progress_post {i : Nat} {x : Sending z} {pack : HXMessagePackage} (hx : s.sends[i]? = some x)
    (hnext : x.next = some pack) : ∃ s', step z link s (.post i) = some s' ∧ s'.accepted = s.accepted ∧
      remaining link s' < remaining link s := by
  obtain ⟨l, r, hsends, hset⟩ := split_set hx
  have hstep : step z link s (.post i) = some { s with
      sends := s.sends.set i x.posted
      client := { s.client with
        posted := s.client.posted ++ [pack], accepted := s.client.accepted ++ [pack] } } := by
    rw [step, hx, Option.bind_some, hnext, Option.bind_some]
    rfl
  refine ⟨_, hstep, ?_, ?_⟩
  · unfold State.accepted
    dsimp only
    rw [hset, hsends]
    simp [Sending.posted]
  · have hless := unposted_posted hnext
    unfold remaining
    dsimp only
    rw [hset, hsends]
    simp only [List.map_append, List.map_cons, List.sum_append, List.sum_cons, List.map_nil,
      List.sum_nil]
    omega

theorem progress_doWrite {msg : HXMessagePackage} {posted : List HXMessagePackage}
    (hposted : s.client.posted = msg :: posted) : ∃ s', step z link s .doWrite = some s' ∧
      s'.sends = s.sends ∧ remaining link s' < remaining link s := by
  obtain ⟨client, hclient⟩ : ∃ client, WriteQueue.Client.step s.client .doWrite = some client ∧
      client.posted = posted ∧ client.session.writeMsgs = s.client.session.writeMsgs ++ [msg] := by
    simp only [WriteQueue.Client.step, hposted]
    exact ⟨_, rfl, rfl, rfl⟩
  refine ⟨{ s with client }, by rw [step, hclient.1]; rfl, rfl, ?_⟩
  unfold remaining
  dsimp only
  rw [hclient.2.1, hclient.2.2, hposted]
  simp only [List.map_append, List.map_cons, List.sum_append, List.sum_cons, List.map_nil, List.sum_nil]
  omega

theorem progress_written (h : Inv link s) (hwriteMsgs : s.client.session.writeMsgs ≠ []) :
    ∃ s', step z link s .written = some s' ∧ s'.sends = s.sends ∧
      remaining link s' < remaining link s := by
  obtain ⟨entered, hinv⟩ := h.client
  obtain ⟨front, rest, hqueue⟩ := List.exists_cons_of_ne_nil hwriteMsgs
  have hfront : s.client.outstanding = [front] := by
    have hone := hinv.ordered.front h.running
    simpa [WriteQueue.Client.toWriter, hqueue] using hone
  obtain ⟨client, hclient⟩ : ∃ client, WriteQueue.Client.step s.client (.completed 0) = some client ∧
      client.posted = s.client.posted ∧ client.session.writeMsgs = rest := by
    simp only [WriteQueue.Client.step, hfront]
    exact ⟨_, rfl, rfl, by simp [WriteQueue.Client.started, HXLibClientSession.handleWrite, hqueue]⟩
  have hstep : step z link s .written = some { s with client, wire := s.wire ++ front.frame } := by
    rw [step, hfront, hclient.1]
    rfl
  refine ⟨_, hstep, rfl, ?_⟩
  unfold remaining
  dsimp only
  rw [hclient.2.1, hclient.2.2, hqueue]
  simp only [List.map_cons, List.sum_cons, List.length_append, cost]
  omega

theorem progress_read (h : Inv link s)
    (hmore : (s.server.mSessions link).reading = some .header → s.wire ≠ []) :
    ∃ s', step z link s .read = some s' ∧ s'.sends = s.sends ∧
      remaining link s' < remaining link s := by
  obtain ⟨op, unread, todo, p, q, hc⟩ := h.conserved
  cases op with
  | header =>
    obtain ⟨s', hstep, -, hsends, hclient, hbody, hlength⟩ :=
      read_header h hc.reading (hmore hc.reading)
    refine ⟨s', hstep, hsends, ?_⟩
    unfold remaining
    rw [hsends, hclient, hbody, hc.reading, if_pos rfl, if_neg (by simp), ← hlength]
    have hpos : headerLength = 8 := rfl
    omega
  | body =>
    obtain ⟨s', hstep, -, hsends, hclient, hheader, hshorter⟩ := read_body h hc.reading
    refine ⟨s', hstep, hsends, ?_⟩
    unfold remaining
    rw [hsends, hclient, hheader, hc.reading, if_pos rfl, if_neg (by simp)]
    omega

theorem exists_alone (h : Inv link s) (hsends : ∃ x ∈ s.sends, ¬x.Finished) :
    ∃ i x pack, s.sends[i]? = some x ∧ x.next = some pack ∧ Alone s (.post i) := by
  have hnext : ∀ x : Sending z, x.sent < x.request.packages.length → ∃ pack, x.next = some pack :=
    fun x hlt => ⟨_, List.getElem?_eq_some_iff.mpr ⟨hlt, rfl⟩⟩
  by_cases hmid : ∃ y ∈ s.sends, y.Midway
  · obtain ⟨y, hy, hpos, hlt⟩ := hmid
    obtain ⟨i, hi⟩ := List.mem_iff_getElem?.mp hy
    obtain ⟨pack, hpack⟩ := hnext y hlt
    refine ⟨i, y, pack, hi, hpack, ?_⟩
    intro x hx hopens
    obtain rfl : y = x := Option.some.inj (hi.symm.trans hx)
    obtain ⟨request, n⟩ := y
    cases request with
    | small m => exact hopens.elim
    | big m => exact absurd hopens hpos.ne'
  · obtain ⟨x, hx, hnot⟩ := hsends
    obtain ⟨i, hi⟩ := List.mem_iff_getElem?.mp hx
    obtain ⟨pack, hpack⟩ := hnext x (lt_of_le_of_ne (h.sends x hx).2 hnot)
    exact ⟨i, x, pack, hi, hpack, fun _ _ _ y hy hy' => hmid ⟨y, hy, hy'⟩⟩

theorem progress (h : Inv link s) (hdone : ¬Done link s) : ∃ e s', step z link s e = some s' ∧
    Alone s e ∧ s'.accepted = s.accepted ∧ remaining link s' < remaining link s := by
  have hsame : ∀ {s' : State z}, s'.sends = s.sends → s'.accepted = s.accepted :=
    congrArg (List.map Sending.request)
  by_cases hsends : ∃ x ∈ s.sends, ¬x.Finished
  · obtain ⟨i, x, pack, hx, hnext, halone⟩ := exists_alone h hsends
    obtain ⟨s', hstep, haccepted, hless⟩ := @progress_post z link s i x pack hx hnext
    exact ⟨_, s', hstep, halone, haccepted, hless⟩
  cases hposted : s.client.posted with
  | cons msg posted =>
    obtain ⟨s', hstep, hkept, hless⟩ := @progress_doWrite z link s msg posted hposted
    exact ⟨_, s', hstep, trivial, hsame hkept, hless⟩
  | nil =>
    by_cases hwriteMsgs : s.client.session.writeMsgs = []
    · obtain ⟨s', hstep, hkept, hless⟩ := progress_read h fun hreading hwire =>
        hdone ⟨by simpa using hsends, hposted, hwriteMsgs, hwire, hreading⟩
      exact ⟨_, s', hstep, trivial, hsame hkept, hless⟩
    · obtain ⟨s', hstep, hkept, hless⟩ := progress_written h hwriteMsgs
      exact ⟨_, s', hstep, trivial, hsame hkept, hless⟩

end Progress

section Runs
variable {s : State z}

theorem Inv.delivered (h : Inv link s) :
    (∃ rest, (s.delivered.map contentOf ++ rest).Perm (s.accepted.map Request.content)) ∧
    (Done link s → (s.delivered.map contentOf).Perm (s.accepted.map Request.content)) := by
  obtain ⟨op, unread, todo, p, q, hc⟩ := h.conserved
  have hall : (s.accepted.map Request.content).Perm (finished s.sends ++
      (s.sends.filter fun x => !decide x.Finished).map fun x => x.request.content) := by
    unfold State.accepted finished
    rw [List.map_map, ← List.map_append]
    exact (List.filter_append_perm _ s.sends).symm.map _
  constructor
  · refine ⟨todo ++ (s.sends.filter fun x => !decide x.Finished).map fun x => x.request.content, ?_⟩
    rw [← List.append_assoc]
    exact (hc.contents.symm.append_right _).trans hall.symm
  · intro hdone
    have hunread : unread = [] := by
      obtain rfl : op = .header := Option.some.inj (hc.reading.symm.trans hdone.reading)
      have hwire := hc.wire
      rw [hdone.wire] at hwire
      exact hwire.nothing
    have hflow := hc.flow
    rw [hunread, hdone.writeMsgs, hdone.posted] at hflow
    have htodo : todo = [] := by
      generalize hnone : real ([] ++ [] ++ []) = packs at hflow
      cases hflow with
      | nil => rfl
      | cons turn flow => cases hnone
    have hfinished : finished s.sends = s.accepted.map Request.content := by
      unfold State.accepted finished
      rw [List.filter_eq_self.mpr fun x hx => decide_eq_true (hdone.sends x hx), List.map_map]
      rfl
    have hcontents := hc.contents
    rw [htodo, List.append_nil, hfinished] at hcontents
    exact hcontents.symm

/-- Any number of calls of `Send` in any interleaving of their posts, with
heartbeats among them. Where no big message begins while another is midway,
each message of each call is delivered once, as it was sent, and nothing else
is; and what has not arrived can. -/
theorem run_delivers_each (z : Zlib) {link : SessionPtr} {session : HXLibClientSession}
    {server : HXLibAsioServer} (hwriteMsgs : session.writeMsgs = [])
    (hreading : (server.mSessions link).reading = some .header)
    (hpointer : (server.mSessions link).readMsg.bigDataPointer = none)
    {es : List (Event z)} {s : State z} (hrun : run (step z link) (start session server) es = some s)
    (halone : Along (step z link) Alone (start session server) es) :
    (∃ rest, (s.delivered.map contentOf ++ rest).Perm (s.accepted.map Request.content)) ∧
    (Done link s → (s.delivered.map contentOf).Perm (s.accepted.map Request.content)) ∧
    ∃ more s', run (step z link) s more = some s' ∧ Done link s' ∧ s'.accepted = s.accepted ∧
      (s'.delivered.map contentOf).Perm (s.accepted.map Request.content) := by
  have hstart : Inv link (start session server : State z) := by
    have hnobody : ∀ x ∈ ([] : List (Sending z)), ¬x.Midway := by simp
    refine ⟨⟨[], ?_, rfl⟩, rfl, hpointer, by simp [start], .header, [], [], none, none, hreading, rfl, ?_,
      trivial, ?_, .between hnobody, List.Perm.refl _⟩
    · show Writer.State.Ordered ⟨session.writeMsgs, [], [], [], [], false⟩
      rw [hwriteMsgs]
      exact Writer.State.ordered_start
    · show ∀ pack ∈ [] ++ session.writeMsgs ++ [], _
      simp [hwriteMsgs]
    · show Flow none (real ([] ++ session.writeMsgs ++ [])) [] none
      rw [hwriteMsgs]
      exact Flow.nil none
  have hinv : Inv link s :=
    run_invariant_along (fun _ _ _ hs halone hstep => step_inv hs halone hstep) halone hrun hstart
  refine ⟨hinv.delivered.1, hinv.delivered.2, ?_⟩
  obtain ⟨more, s', hrun', ⟨hinv', haccepted⟩, hdone⟩ := @exists_run_of_measure _ _ (step z link)
    (fun t => Inv link t ∧ t.accepted = s.accepted) (Done link) (remaining link)
    (fun t ht hnot => by
      obtain ⟨e, t', hstep, halone, hsame, hless⟩ := progress ht.1 hnot
      exact ⟨[e], t', run_cons.mpr ⟨t', hstep, rfl⟩,
        ⟨step_inv ht.1 halone hstep, hsame.trans ht.2⟩, hless⟩) s ⟨hinv, rfl⟩
  refine ⟨more, s', hrun', hdone, haccepted, ?_⟩
  rw [← haccepted]
  exact hinv'.delivered.2 hdone

end Runs

end Machine
/-! ## Two big messages at once -/

theorem fits_one (byte : UInt8) : count [byte] < 65536 := by
  show 1 / maxBodyLength + 1 < 65536
  decide

def oneByte (id : UInt16) (byte : UInt8) : Packed Zlib.refusing where
  id := id
  id2 := 0
  data := [byte]
  msg := { HXBigMessageQueue.new (plainHeader id 0 [byte]) with
    mQueue := packages (plainHeader id 0 [byte]) [byte] }
  packed :=
    ⟨HXBigMessageQueue.new (plainHeader id 0 [byte]), _, setBigPackage_plain _ _ (fits_one byte), rfl⟩

def connected : HXLibAsioServer := (HXLibAsioServer.zeroed.start 1).2.accept 0 IpText.empty

def session : HXLibClientSession :=
  HXLibClientSession.new (HXMessagePackage.filled LinkID.zero 0 0 [] (Nat.zero_le _))
    ⟨0, 0, 0, 0, 0, 0, 0⟩

def passed (i : Nat) : List (Event Zlib.refusing) := [.post i, .doWrite, .written, .read, .read]

def oneAfterTheOther : List (Event Zlib.refusing) :=
  [.send (.big (oneByte 1000 65)), .send (.small first), .send (.big (oneByte 1001 66))] ++
    [0, 1, 0, 0, 2].flatMap passed

theorem run_oneAfterTheOther : ((run (step Zlib.refusing 0) (start session connected)
    oneAfterTheOther).map fun s => s.accepted.map Request.content) =
      some [⟨1000, 0, 1, [65]⟩, ⟨1000, 0, 0, []⟩, ⟨1001, 0, 1, [66]⟩] ∧
    Along (step Zlib.refusing 0) Alone (start session connected) oneAfterTheOther := by
  constructor <;> decide +kernel

theorem run_delivers_each_three : ∃ s s' : State Zlib.refusing, ∃ more,
    run (step Zlib.refusing 0) (start session connected) oneAfterTheOther = some s ∧
    run (step Zlib.refusing 0) s more = some s' ∧ Done 0 s' ∧
    (s'.delivered.map contentOf).Perm [⟨1000, 0, 1, [65]⟩, ⟨1000, 0, 0, []⟩, ⟨1001, 0, 1, [66]⟩] := by
  obtain ⟨hcontents, halone⟩ := run_oneAfterTheOther
  obtain ⟨s, hrun, haccepted⟩ := Option.map_eq_some_iff.mp hcontents
  have hreading : (connected.mSessions 0).reading = some .header := by decide +kernel
  obtain ⟨-, -, more, s', hmore, hdone, -, hdelivered⟩ :=
    run_delivers_each Zlib.refusing rfl hreading rfl hrun halone
  rw [haccepted] at hdelivered
  exact ⟨s, s', more, hrun, hmore, hdone, hdelivered⟩

def twoAtOnce : List (Event Zlib.refusing) :=
  [.send (.big (oneByte 1000 65)), .send (.big (oneByte 1001 66))] ++
    [0, 1, 0, 1, 0, 1].flatMap passed

instance (link : SessionPtr) {z : Zlib} (s : State z) : Decidable (Done link s) :=
  decidable_of_iff ((∀ x ∈ s.sends, x.Finished) ∧ s.client.posted = [] ∧
      s.client.session.writeMsgs = [] ∧ s.wire = [] ∧
      (s.server.mSessions link).reading = some .header)
    ⟨fun ⟨h₁, h₂, h₃, h₄, h₅⟩ => ⟨h₁, h₂, h₃, h₄, h₅⟩, fun h => ⟨h.1, h.2, h.3, h.4, h.5⟩⟩

theorem run_twoAtOnce : ((run (step Zlib.refusing 0) (start session connected) twoAtOnce).map
    fun s => (decide (Done 0 s), s.delivered.map contentOf, s.accepted.map Request.content)) =
      some (true, [⟨1001, 0, 1, [66]⟩, ⟨1001, 0, 1, [66]⟩],
        [⟨1000, 0, 1, [65]⟩, ⟨1001, 0, 1, [66]⟩]) := by
  decide +kernel

/-- Two callers post one package each in turn: the second message arrives twice,
the first one never. -/
theorem delivers_each_fails : ∃ s,
    run (step Zlib.refusing 0) (start session connected) twoAtOnce = some s ∧
    Done 0 s ∧ ¬(s.delivered.map contentOf).Perm (s.accepted.map Request.content) := by
  obtain ⟨s, hrun, hs⟩ := Option.map_eq_some_iff.mp run_twoAtOnce
  obtain ⟨hdone, hdelivered, haccepted⟩ :
      Done 0 s ∧ s.delivered.map contentOf = [⟨1001, 0, 1, [66]⟩, ⟨1001, 0, 1, [66]⟩] ∧
      s.accepted.map Request.content = [⟨1000, 0, 1, [65]⟩, ⟨1001, 0, 1, [66]⟩] := by
    simpa using hs
  refine ⟨s, hrun, hdone, ?_⟩
  rw [hdelivered, haccepted]
  decide

end HXService.ClientSends
