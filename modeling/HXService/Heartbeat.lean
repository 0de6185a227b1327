import HXService.ClientSends

/-! The heartbeat between a client and the server: `SwapQueue` sends the time, the server
answers with it, and `OnRecvHeartbeat` measures the delay. Both directions of one
connection, with whatever else is sent on it. -/

namespace HXService
open Bytes Runs

/-! ## The client

What `SwapQueue` and `OnRecvHeartbeat` read and write, for a client that has a
connection. Doubles are kept by their bits. -/

structure HXLibAsioClient where
  mBTimeLast : Bool
  mDTimeLast : UInt64
  mDNetDelay : UInt64

namespace HXLibAsioClient

def new : HXLibAsioClient := ⟨false, 0, 0⟩

-- `dTime > (m_dTimeLast + 0.5f)`
def Due (last dTime : UInt64) : Prop := Float.ofBits last + 0.5 < Float.ofBits dTime

instance (last dTime : UInt64) : Decidable (Due last dTime) :=
  inferInstanceAs (Decidable (Float.ofBits last + 0.5 < Float.ofBits dTime))

def Beats (c : HXLibAsioClient) (isConnected : Bool) (dTime : UInt64) : Prop :=
  isConnected = true ∧ c.mBTimeLast = false ∧ Due c.mDTimeLast dTime

instance (c : HXLibAsioClient) (isConnected : Bool) (dTime : UInt64) :
    Decidable (c.Beats isConnected dTime) := inferInstanceAs (Decidable (_ ∧ _ ∧ _))

def beat (c : HXLibAsioClient) (dTime : UInt64) : HXLibAsioClient :=
  { c with mBTimeLast := true, mDTimeLast := dTime }

def halfSince (now dTime : UInt64) : UInt64 := ((Float.ofBits now - Float.ofBits dTime) * 0.5).toBits

def unanswered (c : HXLibAsioClient) : List UInt64 := if c.mBTimeLast then [c.mDTimeLast] else []

def onRecvHeartbeat (c : HXLibAsioClient) (now dTime : UInt64) : HXLibAsioClient :=
  { c with mBTimeLast := false, mDNetDelay := halfSince now dTime }

end HXLibAsioClient

namespace Heartbeat
open HXLibAsioClient HXLibAsioServer ClientSends Delivery

def timeBlock (time : UInt64) : Block 8 := ⟨leBytes 8 time.toNat, length_leBytes 8 _⟩

def timeOfBytes (bytes : List UInt8) : UInt64 := UInt64.ofNat (ofLE bytes)

/-! ## The connection

`beating` is the time for whose heartbeat `SwapQueue` has still to call `write`; `up` and
`down` are the bytes written and not read. `times` are all times that heartbeats have
been made for, `answers` the calls of `OnRecvHeartbeat`, each with its own reading of the
timer. -/

structure State where
  client : HXLibAsioClient
  beating : Option UInt64
  writer : WriteQueue.Client.State
  up : List UInt8
  server : HXLibAsioServer
  down : List UInt8
  awaiting : ReadOp
  times : List UInt64
  answers : List (UInt64 × UInt64)

def start (session : HXLibClientSession) (server : HXLibAsioServer) : State :=
  ⟨HXLibAsioClient.new, none, WriteQueue.Client.start session, [], server, [], .header, [], []⟩

/-- What others send on the connection. -/
structure Message where
  pack : HXMessagePackage
  inRange : pack.header.InRange
  not_heartbeat : pack.header.id ≠ idHeartbeat

inductive Event
  | swapQueue (dTime : UInt64)
  | beat
  | swap
  | write (m : Message)
  | doWrite
  | written
  | readUp
  | send (m : Message)
  | transmitted (bytes : List UInt8)
  | readDown (now : UInt64)
  | elsewhere (server : HXLibAsioServer)

def State.afterBody (s : State) (now : UInt64) (c : HXLibClientAccept) : State :=
  let told := (c.heartbeats.drop s.writer.session.heartbeats.length).map timeOfBytes
  { s with
    client := told.foldl (fun client dTime => client.onRecvHeartbeat now dTime) s.client
    writer := { s.writer with session := { s.writer.session with toHXLibClientAccept := c } }
    answers := s.answers ++ told.map (now, ·) }

def step (z : Zlib) (link : SessionPtr) (s : State) : Event → Option State
  | .swapQueue dTime =>
    if s.beating = none then
      if s.client.Beats s.writer.session.mBConnected dTime then some { s with
        client := s.client.beat dTime
        beating := some dTime
        times := s.times ++ [dTime] }
      else some s
    else none
  | .beat => s.beating.bind fun dTime =>
      (WriteQueue.Client.step s.writer (.write (heartbeatPack (timeBlock dTime)))).map
        ({ s with beating := none, writer := · })
  | .swap => some { s with
      writer := { s.writer with
        session := { s.writer.session with mRecv := s.writer.session.mRecv.swap.1 } } }
  | .write m => (WriteQueue.Client.step s.writer (.write m.pack)).map ({ s with writer := · })
  | .doWrite => (WriteQueue.Client.step s.writer .doWrite).map ({ s with writer := · })
  | .written =>
    s.writer.outstanding.head?.bind fun front =>
      (WriteQueue.Client.step s.writer (.completed 0)).map fun writer =>
        { s with writer, up := s.up ++ front.frame }
  | .readUp =>
    let session := s.server.mSessions link
    match session.reading with
    | some .header =>
      if headerLength ≤ s.up.length then some { s with
        server := s.server.handleReadHeader link (some (s.up.take headerLength))
        up := s.up.drop headerLength }
      else none
    | some .body =>
      let length := session.readMsg.bodyLength
      if length ≤ s.up.length then
        (s.server.handleReadBody z link (some (s.up.take length))).toOption.map fun server =>
          { s with server, up := s.up.drop length }
      else none
    | none => none
  | .send m => some { s with server := s.server.modifySession link (·.send m.pack) }
  | .transmitted bytes =>
    match (s.server.mSessions link).writing, (s.server.mSessions link).writeMsgs with
    | some source, front :: _ =>
      if Transmits front bytes source then
        some { s with server := s.server.handleWrite link true, down := s.down ++ bytes }
      else none
    | _, _ => none
  | .readDown now =>
    match s.awaiting with
    | .header =>
      if headerLength ≤ s.down.length then
        some { s with
          writer := { s.writer with
            session := { s.writer.session with
              toHXLibClientAccept := s.writer.session.handleReadHeader (some (s.down.take headerLength)) } }
          down := s.down.drop headerLength
          awaiting := .body }
      else none
    | .body =>
      let length := s.writer.session.readMsg.bodyLength
      if length ≤ s.down.length then
        (s.writer.session.handleReadBody z (some (s.down.take length))).toOption.map fun c =>
          { s.afterBody now c with down := s.down.drop length, awaiting := .header }
      else none
  -- anything happens at the server but to this session
  | .elsewhere server =>
    some { s with server := server.modifySession link fun _ => s.server.mSessions link }

def beats (packs : List HXMessagePackage) : List HXMessagePackage :=
  packs.filter fun pack => pack.header.id = idHeartbeat

def beatPack (time : UInt64) : HXMessagePackage := heartbeatPack (timeBlock time)

section Packages
variable {packs more : List HXMessagePackage} {pack : HXMessagePackage} {time : UInt64}

theorem beats_append : beats (packs ++ more) = beats packs ++ beats more := List.filter_append ..

theorem beats_beatPack : beats [beatPack time] = [beatPack time] := rfl

theorem beats_other (h : pack.header.id ≠ idHeartbeat) : beats [pack] = [] :=
  List.filter_eq_nil_iff.mpr fun _ hp hid => h (List.mem_singleton.mp hp ▸ of_decide_eq_true hid)

theorem bodyLength_beatPack : (beatPack time).bodyLength = 8 := by
  unfold beatPack heartbeatPack
  rw [HXMessagePackage.bodyLength_filled]
  exact (timeBlock time).size_eq

theorem load_beatPack : (beatPack time).data.load (beatPack time).bodyLength = (timeBlock time).bytes := by
  have hsize : (timeBlock time).bytes.length = 8 := (timeBlock time).size_eq
  rw [bodyLength_beatPack]
  exact @Block.load_store_of_length _ _ _ (length_time_le (timeBlock time)) _ hsize.symm

theorem timeOfBytes_timeBlock : timeOfBytes (timeBlock time).bytes = time := by
  have hlt := time.toNat_lt
  show UInt64.ofNat (ofLE (leBytes 8 time.toNat)) = time
  rw [ofLE_leBytes, Nat.mod_eq_of_lt (by omega), UInt64.ofNat_toNat]

theorem load_store_beatPack (data : Block maxBodyLength)
    (hfit : ((beatPack time).data.load (beatPack time).bodyLength).length ≤ maxBodyLength) :
    (data.store ((beatPack time).data.load (beatPack time).bodyLength) hfit).load 8 =
      (timeBlock time).bytes := by
  have hlength : ((beatPack time).data.load (beatPack time).bodyLength).length = 8 := by
    rw [load_beatPack]
    exact (timeBlock time).size_eq
  rw [Block.load_store_of_length hlength.symm, load_beatPack]

theorem heartbeatReply_eq (h : pack.data.load 8 = (timeBlock time).bytes) :
    HXLibAccept.heartbeatReply pack = beatPack time := by
  unfold HXLibAccept.heartbeatReply beatPack heartbeatPack
  simp only [h]

end Packages

section Reading
variable {readMsg readMsg' : HXMessagePackage} {wire : List UInt8} {unread : List HXMessagePackage}

theorem unread_header (h : Unread readMsg wire unread .header) (hlength : headerLength ≤ wire.length)
    (hheader : readMsg'.header = Header.ofBytes (wire.take headerLength)) :
    Unread readMsg' (wire.drop headerLength) unread .body := by
  rw [Unread] at h
  subst h
  cases unread with
  | nil => exact absurd hlength (by decide)
  | cons p rest =>
    rw [List.flatMap_cons, HXMessagePackage.take_frame, Header.ofBytes_bytes_self] at hheader
    rw [List.flatMap_cons, HXMessagePackage.drop_frame]
    exact ⟨p, rest, rfl, hheader, rfl⟩

theorem unread_body (h : Unread readMsg wire unread .body) (hrange : ∀ p ∈ unread, p.header.InRange) :
    ∃ p rest, unread = p :: rest ∧ readMsg.header = p.header ∧
      wire.take readMsg.bodyLength = p.data.load p.bodyLength ∧
      Unread readMsg' (wire.drop readMsg.bodyLength) rest .header := by
  obtain ⟨p, rest, rfl, hheader, rfl⟩ := h
  have hlength := HXMessagePackage.bodyLength_of_header (hrange p List.mem_cons_self) hheader
  refine ⟨p, rest, rfl, hheader, ?_, ?_⟩
  · rw [hlength, List.take_left]
  · rw [hlength, List.drop_left]
    rfl

variable {z : Zlib} {link : SessionPtr} {server t : HXLibAsioServer} {c c' : HXLibClientAccept}
variable {pack : HXMessagePackage} {body : List UInt8}

theorem session_handleReadBody (hfit : body.length ≤ maxBodyLength)
    (h : server.handleReadBody z link (some body) = .ok t) : ∃ big, t.mSessions link =
      { (if (server.mSessions link).readMsg.header.id = idHeartbeat then
          (server.mSessions link).send
            (HXLibAccept.heartbeatReply ((server.mSessions link).received body hfit))
        else server.mSessions link) with
        readMsg := (server.mSessions link).received body hfit
        mBigData := big
        reading := some .header } := by
  have hid : ((server.mSessions link).received body hfit).header.id =
      (server.mSessions link).readMsg.header.id := rfl
  unfold HXLibAsioServer.handleReadBody at h
  dsimp only at h
  rw [dif_pos hfit, hid] at h
  by_cases hbeat : (server.mSessions link).readMsg.header.id = idHeartbeat
  · rw [if_neg (not_not.mpr hbeat)] at h
    obtain rfl := Except.ok.inj h
    rw [if_pos hbeat]
    exact ⟨_, HXLibAsioServer.mSessions_modifySession_self ..⟩
  · rw [if_pos hbeat] at h
    obtain ⟨added, -, h⟩ := bind_eq_ok.mp h
    obtain rfl := Except.ok.inj h
    rw [if_neg hbeat]
    exact ⟨_, HXLibAsioServer.mSessions_modifySession_self ..⟩

theorem heartbeats_handleReadBody (hfit : body.length ≤ maxBodyLength)
    (h : c.handleReadBody z (some body) = .ok c') : c'.heartbeats = c.heartbeats ++
      if c.readMsg.header.id = idHeartbeat then [(c.received body hfit).data.load 8] else [] := by
  have hid : (c.received body hfit).header.id = c.readMsg.header.id := rfl
  unfold HXLibClientAccept.handleReadBody at h
  dsimp only at h
  rw [dif_pos hfit, hid] at h
  by_cases hbeat : c.readMsg.header.id = idHeartbeat
  · rw [if_neg (not_not.mpr hbeat)] at h
    obtain rfl := Except.ok.inj h
    rw [if_pos hbeat]
  · rw [if_pos hbeat] at h
    obtain ⟨added, -, h⟩ := bind_eq_ok.mp h
    obtain rfl := Except.ok.inj h
    rw [if_neg hbeat, List.append_nil]

end Reading

/-- An `async_write` that `handle_write` starts transmits the front of the queue. -/
def Intact (link : SessionPtr) (s : State) (e : Event) : Prop :=
  ∀ bytes front rest, e = .transmitted bytes → (s.server.mSessions link).writing = some .localCopy →
    (s.server.mSessions link).writeMsgs = front :: rest → bytes = front.frame

instance decidableIntact (link : SessionPtr) (s : State) : (e : Event) → Decidable (Intact link s e)
  | .transmitted bytes => decidable_of_iff
      ((s.server.mSessions link).writing = some .localCopy →
        ∀ front ∈ (s.server.mSessions link).writeMsgs.head?, bytes = front.frame) <| by
      constructor
      · rintro h _ front rest ⟨⟩ hwriting hwriteMsgs
        exact h hwriting front (by rw [hwriteMsgs]; rfl)
      · intro h hwriting front hfront
        obtain ⟨rest, hwriteMsgs⟩ := List.head?_eq_some_iff.mp hfront
        exact h bytes front rest rfl hwriting hwriteMsgs
  | .swapQueue _ => isTrue nofun
  | .beat => isTrue nofun
  | .swap => isTrue nofun
  | .write _ => isTrue nofun
  | .doWrite => isTrue nofun
  | .written => isTrue nofun
  | .readUp => isTrue nofun
  | .send _ => isTrue nofun
  | .readDown _ => isTrue nofun
  | .elsewhere _ => isTrue nofun

/-! ## The invariant

One heartbeat goes round: from `SwapQueue` through the client's posts, its write queue,
the line, the server's write queue and the line back. -/

def State.onTheWay (s : State) (link : SessionPtr) (up down : List HXMessagePackage) :
    List HXMessagePackage :=
  down ++ ((s.server.mSessions link).writeMsgs ++ (up ++ (s.writer.session.writeMsgs ++ s.writer.posted)))

structure Passing (link : SessionPtr) (s : State) (op : ReadOp) (up down : List HXMessagePackage) :
    Prop where
  reading : (s.server.mSessions link).reading = some op
  wireUp : Unread (s.server.mSessions link).readMsg s.up up op
  wireDown : Unread s.writer.session.readMsg s.down down s.awaiting
  inRange : ∀ p ∈ s.onTheWay link up down, p.header.InRange
  round : beats (s.onTheWay link up down) ++ s.beating.toList.map beatPack = s.client.unanswered.map beatPack

/-- The answers are those to the times that have been sent, in order, each once, but the
last while `m_bTimeLast`; the times are far enough apart, and the delay is that of
the last answer. -/
structure Answered (client : HXLibAsioClient) (times : List UInt64) (answers : List (UInt64 × UInt64)) :
    Prop where
  times_eq : times = answers.map Prod.snd ++ client.unanswered
  last : client.mDTimeLast = times.getLast?.getD 0
  spaced : (0 :: times).IsChain Due
  delay : client.mDNetDelay = answers.getLast?.elim 0 fun a => halfSince a.1 a.2

structure Inv (link : SessionPtr) (s : State) : Prop where
  writer : ∃ entered, WriteQueue.Client.Inv s.writer entered
  isOpen : (s.server.mSessions link).socketOpen = true
  answered : Answered s.client s.times s.answers
  passing : ∃ op up down, Passing link s op up down

section Steps
variable {z : Zlib} {link : SessionPtr} {s s' : State} {op : ReadOp} {up down : List HXMessagePackage}

theorem Passing.eq_beatPack (h : Passing link s op up down) {p : HXMessagePackage}
    (hp : p ∈ s.onTheWay link up down) (hid : p.header.id = idHeartbeat) :
    s.client.mBTimeLast = true ∧ p = beatPack s.client.mDTimeLast := by
  have hbeat : p ∈ beats (s.onTheWay link up down) := List.mem_filter.mpr ⟨hp, decide_eq_true hid⟩
  have hall : p ∈ s.client.unanswered.map beatPack := h.round ▸ List.mem_append_left _ hbeat
  unfold unanswered at hall
  split_ifs at hall with hlast
  · exact ⟨hlast, List.mem_singleton.mp hall⟩
  · cases hall

theorem Inv.swapQueue {dTime : UInt64} (h : Inv link s) (hstep : step z link s (.swapQueue dTime) = some s') :
    Inv link s' := by
  simp only [step] at hstep
  split_ifs at hstep with hbeating hbeats
  · obtain rfl := Option.some.inj hstep
    obtain ⟨-, hlast, hdue⟩ := hbeats
    obtain ⟨op, up, down, hp⟩ := h.passing
    have hnone : s.client.unanswered = [] := by
      unfold unanswered
      rw [hlast]
      rfl
    have htimes := h.answered.times_eq
    rw [hnone, List.append_nil] at htimes
    have hquiet := hp.round
    rw [hnone, List.map_nil, hbeating, Option.toList_none, List.map_nil, List.append_nil] at hquiet
    refine ⟨h.writer, h.isOpen, ⟨?_, ?_, ?_, h.answered.delay⟩, op, up, down, hp.reading, hp.wireUp,
      hp.wireDown, hp.inRange, ?_⟩
    · show s.times ++ [dTime] = s.answers.map Prod.snd ++ [dTime]
      rw [htimes]
    · show dTime = (s.times ++ [dTime]).getLast?.getD 0
      rw [List.getLast?_concat]
      rfl
    · show (0 :: (s.times ++ [dTime])).IsChain Due
      rw [← List.cons_append, List.isChain_append]
      refine ⟨h.answered.spaced, List.isChain_singleton _, ?_⟩
      intro x hx y hy
      rw [List.getLast?_cons, ← h.answered.last] at hx
      obtain rfl := Option.some.inj hx
      obtain rfl := Option.some.inj hy
      exact hdue
    · show beats (s.onTheWay link up down) ++ [beatPack dTime] = [beatPack dTime]
      rw [hquiet, List.nil_append]
  · obtain rfl := Option.some.inj hstep
    exact h

theorem Passing.write (h : Passing link s op up down) {pack : HXMessagePackage} {beating : Option UInt64}
    {writer : WriteQueue.Client.State} (hrange : pack.header.InRange)
    (hwriter : WriteQueue.Client.step s.writer (.write pack) = some writer)
    (hbeats : beats [pack] ++ beating.toList.map beatPack = s.beating.toList.map beatPack) :
    Passing link { s with beating, writer } op up down := by
  obtain rfl := Option.some.inj hwriter
  have hlonger : State.onTheWay { s with
      beating
      writer := { s.writer with
        posted := s.writer.posted ++ [pack], accepted := s.writer.accepted ++ [pack] } } link up down =
      s.onTheWay link up down ++ [pack] := by
    simp [State.onTheWay]
  refine ⟨h.reading, h.wireUp, h.wireDown, ?_, ?_⟩
  · rw [hlonger]
    intro p hp
    rcases List.mem_append.mp hp with hp | hp
    · exact h.inRange p hp
    · rw [List.mem_singleton.mp hp]
      exact hrange
  · rw [hlonger, beats_append, List.append_assoc, hbeats]
    exact h.round

theorem Inv.beat (h : Inv link s) (hstep : step z link s .beat = some s') : Inv link s' := by
  simp only [step] at hstep
  obtain ⟨dTime, hbeating, hstep⟩ := Option.bind_eq_some_iff.mp hstep
  obtain ⟨writer, hwriter, rfl⟩ := Option.map_eq_some_iff.mp hstep
  obtain ⟨op, up, down, hp⟩ := h.passing
  obtain ⟨entered, hinv⟩ := h.writer
  refine ⟨WriteQueue.Client.step_inv hinv hwriter, h.isOpen, h.answered, op, up, down,
    hp.write (HXMessagePackage.filled_inRange ..) hwriter ?_⟩
  rw [hbeating]
  rfl

theorem Inv.write {m : Message} (h : Inv link s) (hstep : step z link s (.write m) = some s') :
    Inv link s' := by
  simp only [step] at hstep
  obtain ⟨writer, hwriter, rfl⟩ := Option.map_eq_some_iff.mp hstep
  obtain ⟨op, up, down, hp⟩ := h.passing
  obtain ⟨entered, hinv⟩ := h.writer
  refine ⟨WriteQueue.Client.step_inv hinv hwriter, h.isOpen, h.answered, op, up, down,
    hp.write m.inRange hwriter ?_⟩
  rw [beats_other m.not_heartbeat]
  rfl

theorem Passing.next (h : Passing link s op up down) {op' : ReadOp} {up' down' : List HXMessagePackage}
    (hclient : s'.client = s.client) (hbeating : s'.beating = s.beating)
    (hreading : (s'.server.mSessions link).reading = some op')
    (hup : Unread (s'.server.mSessions link).readMsg s'.up up' op')
    (hdown : Unread s'.writer.session.readMsg s'.down down' s'.awaiting)
    (hmem : ∀ p ∈ s'.onTheWay link up' down', p ∈ s.onTheWay link up down)
    (hround : Heartbeat.beats (s'.onTheWay link up' down') = Heartbeat.beats (s.onTheWay link up down)) :
    Passing link s' op' up' down' := by
  refine ⟨hreading, hup, hdown, fun p hp => h.inRange p (hmem p hp), ?_⟩
  rw [hround, hclient, hbeating]
  exact h.round

theorem Passing.moved (h : Passing link s op up down) {op' : ReadOp} {up' down' : List HXMessagePackage}
    (hclient : s'.client = s.client) (hbeating : s'.beating = s.beating)
    (hreading : (s'.server.mSessions link).reading = some op')
    (hup : Unread (s'.server.mSessions link).readMsg s'.up up' op')
    (hdown : Unread s'.writer.session.readMsg s'.down down' s'.awaiting)
    (hsame : s'.onTheWay link up' down' = s.onTheWay link up down) : Passing link s' op' up' down' :=
  h.next hclient hbeating hreading hup hdown (fun _ hp => hsame ▸ hp) (congrArg Heartbeat.beats hsame)

theorem Inv.swap (h : Inv link s) (hstep : step z link s .swap = some s') : Inv link s' := by
  obtain rfl := Option.some.inj hstep
  obtain ⟨op, up, down, hp⟩ := h.passing
  obtain ⟨entered, hinv⟩ := h.writer
  exact ⟨⟨entered, hinv.ordered, hinv.accepted_eq⟩, h.isOpen, h.answered, op, up, down,
    hp.moved rfl rfl hp.reading hp.wireUp hp.wireDown rfl⟩

theorem Inv.doWrite (h : Inv link s) (hstep : step z link s .doWrite = some s') : Inv link s' := by
  simp only [step] at hstep
  obtain ⟨writer, hwriter, rfl⟩ := Option.map_eq_some_iff.mp hstep
  obtain ⟨op, up, down, hp⟩ := h.passing
  obtain ⟨entered, hinv⟩ := h.writer
  have hinv' := WriteQueue.Client.step_inv hinv hwriter
  cases hposted : s.writer.posted with
  | nil => simp [WriteQueue.Client.step, hposted] at hwriter
  | cons msg posted =>
    simp only [WriteQueue.Client.step, hposted, Option.some.injEq] at hwriter
    subst hwriter
    refine ⟨hinv', h.isOpen, h.answered, op, up, down,
      hp.moved rfl rfl hp.reading hp.wireUp hp.wireDown ?_⟩
    show down ++ (_ ++ (up ++ ((s.writer.session.writeMsgs ++ [msg]) ++ posted))) =
      down ++ (_ ++ (up ++ (s.writer.session.writeMsgs ++ s.writer.posted)))
    rw [hposted, List.append_assoc, List.singleton_append]

theorem Inv.written (h : Inv link s) (hstep : step z link s .written = some s') : Inv link s' := by
  simp only [step] at hstep
  obtain ⟨front, hfront, hstep⟩ := Option.bind_eq_some_iff.mp hstep
  obtain ⟨writer, hwriter, rfl⟩ := Option.map_eq_some_iff.mp hstep
  obtain ⟨op, up, down, hp⟩ := h.passing
  obtain ⟨entered, hinv⟩ := h.writer
  obtain ⟨more, hmore⟩ := List.head?_eq_some_iff.mp hfront
  obtain ⟨-, -, -, -, rest, hrest⟩ :=
    @Writer.State.Ordered.outstanding_eq _ _ [] more front hinv.ordered hmore
  have hwriteMsgs : s.writer.session.writeMsgs = front :: rest := hrest
  have hinv' := WriteQueue.Client.step_inv hinv hwriter
  obtain ⟨-, -, rfl⟩ := Option.map_eq_some_iff.mp hwriter
  refine ⟨hinv', h.isOpen, h.answered, op, up ++ [front], down,
    hp.moved rfl rfl hp.reading (hp.wireUp.append front) hp.wireDown ?_⟩
  show down ++ (_ ++ ((up ++ [front]) ++ (s.writer.session.writeMsgs.tail ++ s.writer.posted))) =
    down ++ (_ ++ (up ++ (s.writer.session.writeMsgs ++ s.writer.posted)))
  rw [hwriteMsgs, List.tail_cons, List.append_assoc, List.singleton_append, List.cons_append]

theorem Inv.send {m : Message} (h : Inv link s) (hstep : step z link s (.send m) = some s') :
    Inv link s' := by
  obtain rfl := Option.some.inj hstep
  obtain ⟨op, up, down, hp⟩ := h.passing
  have hsession : (s.server.modifySession link (·.send m.pack)).mSessions link =
      (s.server.mSessions link).send m.pack := HXLibAsioServer.mSessions_modifySession_self ..
  have hwriteMsgs := @writeMsgs_send (s.server.mSessions link) m.pack h.isOpen
  have hreads : ((s.server.mSessions link).send m.pack).reading = (s.server.mSessions link).reading ∧
      ((s.server.mSessions link).send m.pack).readMsg = (s.server.mSessions link).readMsg := by
    unfold HXLibAccept.send
    split_ifs <;> exact ⟨rfl, rfl⟩
  have hbetween : State.onTheWay { s with server := s.server.modifySession link (·.send m.pack) } link
      up down = down ++ ((s.server.mSessions link).writeMsgs ++ ([m.pack] ++
        (up ++ (s.writer.session.writeMsgs ++ s.writer.posted)))) := by
    unfold State.onTheWay
    dsimp only
    rw [hsession, hwriteMsgs, List.append_assoc]
  refine ⟨h.writer, ?_, h.answered, op, up, down, ?_, ?_, hp.wireDown, ?_, ?_⟩
  · show ((s.server.modifySession link (·.send m.pack)).mSessions link).socketOpen = true
    rw [hsession, socketOpen_send]
    exact h.isOpen
  · show ((s.server.modifySession link (·.send m.pack)).mSessions link).reading = some op
    rw [hsession, hreads.1]
    exact hp.reading
  · show Unread ((s.server.modifySession link (·.send m.pack)).mSessions link).readMsg s.up up op
    rw [hsession, hreads.2]
    exact hp.wireUp
  · rw [hbetween]
    intro p hmem
    rcases List.mem_append.mp hmem with hmem | hmem
    · exact hp.inRange p (List.mem_append_left _ hmem)
    rcases List.mem_append.mp hmem with hmem | hmem
    · exact hp.inRange p (List.mem_append_right _ (List.mem_append_left _ hmem))
    rcases List.mem_append.mp hmem with hmem | hmem
    · rw [List.mem_singleton.mp hmem]
      exact m.inRange
    · exact hp.inRange p (List.mem_append_right _ (List.mem_append_right _ hmem))
  · rw [hbetween, beats_append, beats_append, beats_append, beats_other m.not_heartbeat, List.nil_append]
    have hround := hp.round
    unfold State.onTheWay at hround
    rw [beats_append, beats_append] at hround
    exact hround

theorem Inv.elsewhere {server : HXLibAsioServer} (h : Inv link s)
    (hstep : step z link s (.elsewhere server) = some s') : Inv link s' := by
  obtain rfl := Option.some.inj hstep
  obtain ⟨op, up, down, hp⟩ := h.passing
  have hsession : (server.modifySession link fun _ => s.server.mSessions link).mSessions link =
      s.server.mSessions link := HXLibAsioServer.mSessions_modifySession_self ..
  refine ⟨h.writer, ?_, h.answered, op, up, down, hp.moved rfl rfl ?_ ?_ hp.wireDown ?_⟩
  · dsimp only
    rw [hsession]
    exact h.isOpen
  · dsimp only
    rw [hsession]
    exact hp.reading
  · dsimp only
    rw [hsession]
    exact hp.wireUp
  · unfold State.onTheWay
    dsimp only
    rw [hsession]

theorem Inv.transmitted {bytes : List UInt8} (h : Inv link s) (hintact : Intact link s (.transmitted bytes))
    (hstep : step z link s (.transmitted bytes) = some s') : Inv link s' := by
  simp only [step] at hstep
  split at hstep
  · rename_i source front rest hwriting hwriteMsgs
    split_ifs at hstep with htransmits
    obtain rfl := Option.some.inj hstep
    obtain ⟨op, up, down, hp⟩ := h.passing
    have hbytes : bytes = front.frame := by
      cases source with
      | queueFront => exact htransmits
      | localCopy => exact hintact bytes front rest rfl hwriting hwriteMsgs
    have hsession : (s.server.handleWrite link true).mSessions link = (s.server.mSessions link).written :=
      HXLibAsioServer.mSessions_modifySession_self ..
    refine ⟨h.writer, ?_, h.answered, op, up, down ++ [front], hp.moved rfl rfl ?_ ?_ ?_ ?_⟩
    · dsimp only
      rw [hsession]
      exact h.isOpen
    · dsimp only
      rw [hsession]
      exact hp.reading
    · dsimp only
      rw [hsession]
      exact hp.wireUp
    · rw [hbytes]
      exact hp.wireDown.append front
    · unfold State.onTheWay
      dsimp only
      rw [hsession, hwriteMsgs]
      unfold HXLibAccept.written
      dsimp only
      rw [hwriteMsgs, List.tail_cons, List.append_assoc, List.singleton_append, List.cons_append]
  · exact nomatch hstep

theorem Inv.readUp_header (h : Inv link s) (hreading : (s.server.mSessions link).reading = some .header)
    (hstep : step z link s .readUp = some s') : Inv link s' := by
  simp only [step, hreading] at hstep
  split_ifs at hstep with hlength
  obtain rfl := Option.some.inj hstep
  obtain ⟨op, up, down, hp⟩ := h.passing
  obtain rfl : op = .header := Option.some.inj (hp.reading.symm.trans hreading)
  have hsession : (s.server.handleReadHeader link (some (s.up.take headerLength))).mSessions link =
      (s.server.mSessions link).readHeader (s.up.take headerLength) := by
    unfold HXLibAsioServer.handleReadHeader
    exact HXLibAsioServer.mSessions_modifySession_self ..
  refine ⟨h.writer, ?_, h.answered, .body, up, down, hp.moved rfl rfl ?_ ?_ hp.wireDown ?_⟩
  · dsimp only
    rw [hsession]
    exact h.isOpen
  · dsimp only
    rw [hsession]
    rfl
  · dsimp only
    rw [hsession]
    exact unread_header hp.wireUp hlength rfl
  · unfold State.onTheWay
    dsimp only
    rw [hsession]
    rfl

theorem Inv.readUp_body (h : Inv link s) (hreading : (s.server.mSessions link).reading = some .body)
    (hstep : step z link s .readUp = some s') : Inv link s' := by
  simp only [step, hreading] at hstep
  split_ifs at hstep with hlength
  obtain ⟨t, ht, rfl⟩ := Option.map_eq_some_iff.mp hstep
  obtain ⟨op, up, down, hp⟩ := h.passing
  obtain rfl : op = .body := Option.some.inj (hp.reading.symm.trans hreading)
  have hrange : ∀ p ∈ up, p.header.InRange := fun p hmem => hp.inRange p
    (List.mem_append_right _ (List.mem_append_right _ (List.mem_append_left _ hmem)))
  obtain ⟨p, rest, rfl, hheader, hbody, hunread⟩ :=
    @unread_body _ (t.mSessions link).readMsg _ _ hp.wireUp hrange
  have hmem : p ∈ s.onTheWay link (p :: rest) down :=
    List.mem_append_right _ (List.mem_append_right _ List.mem_cons_self)
  rw [hbody] at ht
  have hfit := length_load_le (hrange p List.mem_cons_self)
  obtain ⟨big, hsession⟩ := session_handleReadBody hfit (mem_toOption ht)
  by_cases hid : p.header.id = idHeartbeat
  · obtain ⟨-, rfl⟩ := hp.eq_beatPack hmem hid
    have hreply : HXLibAccept.heartbeatReply ((s.server.mSessions link).received _ hfit) =
        beatPack s.client.mDTimeLast := heartbeatReply_eq (load_store_beatPack _ hfit)
    rw [if_pos (hheader ▸ hid), hreply] at hsession
    refine ⟨h.writer, ?_, h.answered, .header, rest, down, hp.moved rfl rfl ?_ hunread hp.wireDown ?_⟩
    · dsimp only
      rw [hsession]
      exact (socketOpen_send ..).trans h.isOpen
    · dsimp only
      rw [hsession]
    · unfold State.onTheWay
      dsimp only
      rw [hsession]
      dsimp only
      rw [writeMsgs_send h.isOpen, List.append_assoc, List.singleton_append, List.cons_append]
  · rw [if_neg (hheader ▸ hid)] at hsession
    refine ⟨h.writer, ?_, h.answered, .header, rest, down, hp.next rfl rfl ?_ hunread hp.wireDown ?_ ?_⟩
    · dsimp only
      rw [hsession]
      exact h.isOpen
    · dsimp only
      rw [hsession]
    · unfold State.onTheWay
      dsimp only
      rw [hsession]
      intro q hq
      simp only [List.mem_append, List.mem_cons] at hq ⊢
      tauto
    · unfold State.onTheWay
      dsimp only
      rw [hsession, ← List.singleton_append]
      simp only [beats_append, beats_other hid, List.nil_append]

theorem Inv.readUp (h : Inv link s) (hstep : step z link s .readUp = some s') : Inv link s' := by
  obtain ⟨op, up, down, hp⟩ := h.passing
  cases op with
  | header => exact h.readUp_header hp.reading hstep
  | body => exact h.readUp_body hp.reading hstep

theorem Inv.readDown_header {now : UInt64} (h : Inv link s) (hawaiting : s.awaiting = .header)
    (hstep : step z link s (.readDown now) = some s') : Inv link s' := by
  simp only [step, hawaiting] at hstep
  split_ifs at hstep with hlength
  obtain rfl := Option.some.inj hstep
  obtain ⟨op, up, down, hp⟩ := h.passing
  obtain ⟨entered, hinv⟩ := h.writer
  have hdown := hp.wireDown
  rw [hawaiting] at hdown
  exact ⟨⟨entered, hinv.ordered, hinv.accepted_eq⟩, h.isOpen, h.answered, op, up, down,
    hp.moved rfl rfl hp.reading hp.wireUp (unread_header hdown hlength rfl) rfl⟩

theorem afterBody_of_beat {now time : UInt64} {c : HXLibClientAccept}
    (h : c.heartbeats = s.writer.session.heartbeats ++ [(timeBlock time).bytes]) :
    s.afterBody now c = { s with
      client := s.client.onRecvHeartbeat now time
      writer := { s.writer with session := { s.writer.session with toHXLibClientAccept := c } }
      answers := s.answers ++ [(now, time)] } := by
  unfold State.afterBody
  rw [h, List.drop_left, List.map_singleton, timeOfBytes_timeBlock]
  rfl

theorem afterBody_of_other {now : UInt64} {c : HXLibClientAccept}
    (h : c.heartbeats = s.writer.session.heartbeats) :
    s.afterBody now c = { s with
      writer := { s.writer with session := { s.writer.session with toHXLibClientAccept := c } } } := by
  unfold State.afterBody
  rw [h, List.drop_length]
  simp

theorem Answered.answer {client : HXLibAsioClient} {times : List UInt64}
    {answers : List (UInt64 × UInt64)} (h : Answered client times answers)
    (hlast : client.mBTimeLast = true) (now : UInt64) :
    Answered (client.onRecvHeartbeat now client.mDTimeLast) times
      (answers ++ [(now, client.mDTimeLast)]) := by
  refine ⟨?_, h.last, h.spaced, ?_⟩
  · have htimes := h.times_eq
    unfold unanswered at htimes
    rw [if_pos hlast] at htimes
    rw [List.map_append, List.map_singleton]
    exact htimes.trans (List.append_nil _).symm
  · rw [List.getLast?_concat]
    rfl

theorem Inv.readDown_body {now : UInt64} (h : Inv link s) (hawaiting : s.awaiting = .body)
    (hstep : step z link s (.readDown now) = some s') : Inv link s' := by
  simp only [step, hawaiting] at hstep
  split_ifs at hstep with hlength
  obtain ⟨c, hc, rfl⟩ := Option.map_eq_some_iff.mp hstep
  obtain ⟨op, up, down, hp⟩ := h.passing
  obtain ⟨entered, hinv⟩ := h.writer
  have hdown := hp.wireDown
  rw [hawaiting] at hdown
  have hrange : ∀ p ∈ down, p.header.InRange := fun p hmem => hp.inRange p (List.mem_append_left _ hmem)
  obtain ⟨p, rest, rfl, hheader, hbody, hunread⟩ := @unread_body _ c.readMsg _ _ hdown hrange
  have hmem : p ∈ s.onTheWay link up (p :: rest) := List.mem_append_left _ List.mem_cons_self
  rw [hbody] at hc
  have hfit := length_load_le (hrange p List.mem_cons_self)
  have hheartbeats := heartbeats_handleReadBody hfit (mem_toOption hc)
  have hround := hp.round
  unfold State.onTheWay at hround
  rw [← List.singleton_append, List.append_assoc, beats_append, List.append_assoc] at hround
  have hless : ∀ q ∈ rest ++ ((s.server.mSessions link).writeMsgs ++
      (up ++ (s.writer.session.writeMsgs ++ s.writer.posted))), q.header.InRange :=
    fun q hq => hp.inRange q (List.mem_cons_of_mem p hq)
  by_cases hid : p.header.id = idHeartbeat
  · obtain ⟨hlast, rfl⟩ := hp.eq_beatPack hmem hid
    have hread : ((s.writer.session.received _ hfit).data.load 8) = (timeBlock s.client.mDTimeLast).bytes :=
      load_store_beatPack _ hfit
    rw [if_pos (hheader ▸ hid), hread] at hheartbeats
    unfold unanswered at hround
    rw [if_pos hlast, beats_beatPack, List.map_singleton] at hround
    rw [afterBody_of_beat hheartbeats]
    exact ⟨⟨entered, hinv.ordered, hinv.accepted_eq⟩, h.isOpen, h.answered.answer hlast now, op, up,
      rest, hp.reading, hp.wireUp, hunread, hless, List.append_cancel_left hround⟩
  · rw [if_neg (hheader ▸ hid), List.append_nil] at hheartbeats
    rw [beats_other hid, List.nil_append] at hround
    rw [afterBody_of_other hheartbeats]
    exact ⟨⟨entered, hinv.ordered, hinv.accepted_eq⟩, h.isOpen, h.answered, op, up, rest, hp.reading,
      hp.wireUp, hunread, hless, hround⟩

theorem step_inv (h : Inv link s) (e : Event) (hintact : Intact link s e)
    (hstep : step z link s e = some s') : Inv link s' := by
  cases e with
  | swapQueue dTime => exact h.swapQueue hstep
  | beat => exact h.beat hstep
  | swap => exact h.swap hstep
  | write m => exact h.write hstep
  | doWrite => exact h.doWrite hstep
  | written => exact h.written hstep
  | readUp => exact h.readUp hstep
  | send m => exact h.send hstep
  | transmitted bytes => exact h.transmitted hintact hstep
  | readDown now =>
    cases hawaiting : s.awaiting with
    | header => exact h.readDown_header hawaiting hstep
    | body => exact h.readDown_body hawaiting hstep
  | elsewhere server => exact h.elsewhere hstep

end Steps

/-! ## Every interleaving -/

/-- While `m_bTimeLast` there is one heartbeat on the connection, with the time of the
last; otherwise there is none. -/
structure Counted (link : SessionPtr) (s : State) : Prop where
  answered : Answered s.client s.times s.answers
  passing : ∃ op up down, Passing link s op up down

theorem inv_start {link : SessionPtr} {session : HXLibClientSession} {server : HXLibAsioServer}
    (hsession : session.writeMsgs = []) (hopen : (server.mSessions link).socketOpen = true)
    (hreading : (server.mSessions link).reading = some .header)
    (hserver : (server.mSessions link).writeMsgs = []) : Inv link (start session server) := by
  have hempty : (start session server).onTheWay link [] [] = [] := by
    unfold State.onTheWay start WriteQueue.Client.start
    dsimp only
    rw [hserver, hsession]
    rfl
  refine ⟨⟨[], ?_, rfl⟩, hopen, ⟨rfl, rfl, List.isChain_singleton _, rfl⟩, .header, [], [], hreading, rfl,
    rfl, ?_, ?_⟩
  · unfold start WriteQueue.Client.start WriteQueue.Client.toWriter
    dsimp only
    rw [hsession]
    exact Writer.State.ordered_start
  · rw [hempty]
    exact fun _ hp => absurd hp List.not_mem_nil
  · rw [hempty]
    rfl

theorem always_counted (z : Zlib) {link : SessionPtr} {session : HXLibClientSession}
    {server : HXLibAsioServer} {es : List Event} (hsession : session.writeMsgs = [])
    (hopen : (server.mSessions link).socketOpen = true)
    (hreading : (server.mSessions link).reading = some .header)
    (hserver : (server.mSessions link).writeMsgs = [])
    (h : Along (step z link) (Intact link) (start session server) es) :
    Always (step z link) (Counted link) (start session server) es :=
  @always_of_along _ _ (step z link) (Counted link) (Intact link) _ _ (Inv link)
    (fun _ hinv => ⟨hinv.answered, hinv.passing⟩)
    (fun _ e _ hinv hintact hstep => step_inv hinv e hintact hstep)
    (inv_start hsession hopen hreading hserver) h

def second : UInt64 := 0x3FF0000000000000
def twoSeconds : UInt64 := 0x4000000000000000

def round : List Event :=
  [.swapQueue second, .beat, .swap, .doWrite, .written, .readUp, .readUp,
    .transmitted (beatPack second).frame, .readDown twoSeconds, .readDown twoSeconds]

theorem always_counted_round :
    Always (step Zlib.refusing 0) (Counted 0) (start session connected) round :=
  always_counted Zlib.refusing rfl (by decide +kernel) (by decide +kernel) (by decide +kernel)
    (by decide +kernel)

example : ((run (step Zlib.refusing 0) (start session connected) round).map
    fun s => (s.client.mBTimeLast, s.answers)) = some (false, [(twoSeconds, second)]) := by
  decide +kernel

end Heartbeat
end HXService
