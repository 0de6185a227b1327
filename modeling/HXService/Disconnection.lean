import HXService.Lib.Runs
import HXService.Lib.Journal
import HXService.AsioClient
import HXService.AsioServer

/-! What the client reports of its connection, over any order of completions, posted
handlers and calls of `close`. -/

namespace HXService
open Runs Journals

namespace Disconnection
open HXLibClientAccept HXMessageQueueAB

inductive Handler
  | doWrite (msg : HXMessagePackage)
  | doClose

/-- A message added to the receive queue, and whether it came from the peer. -/
structure Added where
  received : Bool
  msg : HXMessagePackage

inductive Event
  | connect (error : Option ErrorText)
  | read (bytes : Option (List UInt8))
  | write (msg : HXMessagePackage)
  | written (i : Nat) (ok : Bool)
  | close
  | handler

/-- `connecting`, `reading` and `outstanding` are the pending operations of asio,
`posted` the handlers posted to the `io_service`. -/
structure State where
  session : HXLibClientSession
  connecting : Bool
  reading : Option ReadOp
  outstanding : List HXMessagePackage
  posted : List Handler
  added : List Added

def start (readMsg : HXMessagePackage) (mHeader : MBigHeader) : State where
  session := { HXLibClientAccept.connecting readMsg mHeader with writeMsgs := [], mNumofWrite := 0 }
  connecting := true
  reading := none
  outstanding := []
  posted := []
  added := []

/-! ## The handlers -/

def entry (z : Zlib) (c : HXLibClientAccept) (body : List UInt8) : Option HXMessagePackage :=
  if h : body.length ≤ maxBodyLength then
    if (c.received body h).header.id ≠ idHeartbeat then
      match appended z (c.received body h) c.mBigData with
      | .ok (entry, _) => entry
      | .error _ => none
    else none
  else none

def report (state : UInt16) : Added :=
  ⟨false, HXMessagePackage.filled LinkID.zero idDisconnect state [] (Nat.zero_le _)⟩

def adds (z : Zlib) (s : State) : Event → List Added
  | .connect none => [⟨false, connectMessage⟩]
  | .connect (some error) => [⟨false, connectFailureMessage error⟩]
  | .read none => [report dissconnectReadError]
  | .read (some bytes) =>
    match s.reading with
    | some .body => (entry z s.session.toHXLibClientAccept bytes).toList.map (Added.mk true)
    | _ => []
  | .write _ => []
  | .written _ ok => if ok then [] else [report dissconnectWriteError]
  | .close => [report dissconnectClosedByMain]
  | .handler => []

def setAccept (s : State) (c : HXLibClientAccept) : State :=
  { s with session := { s.session with toHXLibClientAccept := c } }

-- a read completes with an error, or with as many bytes as it was asked for
def fills (bytes : Option (List UInt8)) (length : Nat) : Bool := bytes.all (·.length == length)

def react (z : Zlib) (s : State) : Event → Option State
  | .connect error =>
    if s.connecting then some { setAccept s (s.session.handleConnect error) with
      connecting := false
      reading := if error.isNone then some .header else none }
    else none
  | .read bytes =>
    match s.reading with
    | some .header =>
      if fills bytes headerLength then some { setAccept s (s.session.handleReadHeader bytes) with
        reading := bytes.map fun _ => .body }
      else none
    | some .body =>
      if fills bytes s.session.readMsg.bodyLength then
        (s.session.handleReadBody z bytes).toOption.map fun c =>
          { setAccept s c with reading := bytes.map fun _ => .header }
      else none
    | none => none
  | .write msg =>
    if s.session.mBConnected then some { s with posted := s.posted ++ [.doWrite msg] } else none
  | .written i ok => s.outstanding[i]?.map fun _ => { s with
      session := (s.session.handleWrite ok).1
      outstanding := s.outstanding.eraseIdx i ++ (s.session.handleWrite ok).2.toList }
  | .close => some { setAccept s (s.session.closemsg dissconnectClosedByMain) with
      posted := s.posted ++ [.doClose] }
  | .handler =>
    match s.posted with
    | [] => none
    | .doWrite msg :: posted => some { s with
        session := (s.session.doWrite msg).1
        outstanding := s.outstanding ++ (s.session.doWrite msg).2.toList
        posted }
    | .doClose :: posted => some { setAccept s s.session.doClose with posted }

def step (z : Zlib) (s : State) (e : Event) : Option State :=
  (react z s e).map fun t => { t with added := s.added ++ adds z s e }

/-! ## What is to hold -/

/-- An `ID_Connect` of the client's own opens, any `ID_Disconnect` closes, and what is
received is carried. -/
def kinds : Kinds Added where
  opens a := a.received = false ∧ a.msg.header.id = idConnect
  closes a := a.msg.header.id = idDisconnect
  carries a := a.received = true

/-- `m_bConnected` is set, no `do_close` is posted, and no message with the reserved id
`ID_Disconnect` has been received. -/
def IsOpen (s : State) : Prop :=
  s.session.mBConnected = true ∧ .doClose ∉ s.posted ∧
    ∀ a ∈ s.added, a.received = true → a.msg.header.id ≠ idDisconnect

/-- `handle_connect` apart, a message is added only while the connection is open. -/
def WhileOpen (z : Zlib) (s : State) (e : Event) : Prop :=
  (react z s e).isSome → (∀ error, e ≠ .connect error) → adds z s e ≠ [] → IsOpen s

structure Inv (s : State) : Prop where
  once : kinds.ClosedOnce s.added
  connected : s.session.mBConnected = true → kinds.Opened s.added
  unclosed : kinds.Opened s.added → ¬kinds.Closed s.added → s.session.mBConnected = true
  isOpen : IsOpen s → ¬kinds.Closed s.added
  reading : s.reading.isSome → kinds.Opened s.added
  connecting : s.connecting = true → ¬kinds.Opened s.added
  posted : .doClose ∈ s.posted → kinds.Closed s.added

section Steps
variable {z : Zlib} {s s' t : State} {e : Event}

theorem closes_report (state : UInt16) : kinds.closes (report state) := rfl

theorem not_opens_report (state : UInt16) : ¬kinds.opens (report state) := by
  rintro ⟨-, hid⟩
  have hid : idDisconnect = idConnect := hid
  exact absurd hid (by decide)

theorem not_carries_report (state : UInt16) : ¬kinds.carries (report state) := Bool.false_ne_true

theorem isOpen_iff (h : Inv s) : IsOpen s ↔ kinds.Opened s.added ∧ ¬kinds.Closed s.added := by
  constructor
  · intro hopen
    exact ⟨h.connected hopen.1, h.isOpen hopen⟩
  · rintro ⟨hopened, hclosed⟩
    refine ⟨h.unclosed hopened hclosed, fun hposted => hclosed (h.posted hposted), ?_⟩
    exact fun a ha _ hid => hclosed ⟨a, ha, hid⟩

theorem not_closed_of_connecting (h : Inv s) (hconnecting : s.connecting = true) :
    ¬kinds.Closed s.added :=
  fun hclosed => h.connecting hconnecting (h.once.opened_of_closed hclosed)

theorem once_report (h : Inv s) (state : UInt16) :
    kinds.ClosedOnce (s.added ++ [report state]) ↔ IsOpen s := by
  rw [Kinds.closedOnce_concat h.once, isOpen_iff h]
  constructor
  · rintro ⟨hcloses, -⟩
    exact hcloses (closes_report state)
  · intro hopen
    exact ⟨fun _ => hopen, fun hcarries => absurd hcarries (not_carries_report state)⟩

theorem once_received (h : Inv s) (hopened : kinds.Opened s.added) (msg : HXMessagePackage) :
    kinds.ClosedOnce (s.added ++ [⟨true, msg⟩]) ↔ IsOpen s := by
  rw [Kinds.closedOnce_concat h.once, isOpen_iff h]
  constructor
  · rintro ⟨-, hcarries⟩
    exact ⟨hopened, hcarries rfl⟩
  · intro hopen
    exact ⟨fun _ => hopen, fun _ => hopen.2⟩

theorem adds_connect (z : Zlib) (s : State) (error : Option ErrorText) :
    ∃ msg, adds z s (.connect error) = [⟨false, msg⟩] ∧ msg.header.id ≠ idDisconnect := by
  cases error with
  | none => exact ⟨connectMessage, rfl, show idConnect ≠ idDisconnect by decide⟩
  | some error => exact ⟨_, rfl, show idConnectFailure ≠ idDisconnect by decide⟩

theorem once_connect (h : Inv s) (error : Option ErrorText) :
    kinds.ClosedOnce (s.added ++ adds z s (.connect error)) := by
  obtain ⟨msg, hadds, hid⟩ := adds_connect z s error
  rw [hadds]
  apply h.once.concat
  · exact fun hcloses => absurd hcloses hid
  · exact fun hcarries => absurd hcarries Bool.false_ne_true

theorem adds_read (z : Zlib) (s : State) (bytes : List UInt8) : adds z s (.read (some bytes)) = [] ∨
    s.reading = some .body ∧ ∃ msg, adds z s (.read (some bytes)) = [⟨true, msg⟩] := by
  cases hreading : s.reading with
  | none => simp [adds, hreading]
  | some op =>
    cases op with
    | header => simp [adds, hreading]
    | body => cases hentry : entry z s.session.toHXLibClientAccept bytes <;> simp [adds, hreading, hentry]

/-- The journal stays in order exactly when the condition is met. -/
theorem once_iff (h : Inv s) :
    kinds.ClosedOnce (s.added ++ adds z s e) ↔
      ((∀ error, e ≠ .connect error) → adds z s e ≠ [] → IsOpen s) := by
  have hsame : adds z s e = [] → (kinds.ClosedOnce (s.added ++ adds z s e) ↔
      ((∀ error, e ≠ .connect error) → adds z s e ≠ [] → IsOpen s)) := by
    intro hnone
    rw [hnone, List.append_nil]
    exact iff_of_true h.once (by simp)
  have hreport : ∀ state, adds z s e = [report state] → (∀ error, e ≠ .connect error) →
      (kinds.ClosedOnce (s.added ++ adds z s e) ↔
        ((∀ error, e ≠ .connect error) → adds z s e ≠ [] → IsOpen s)) := by
    intro state hadds hother
    rw [hadds, once_report h]
    simp [hother]
  cases e with
  | connect error => exact iff_of_true (once_connect h error) (by simp)
  | read bytes =>
    cases bytes with
    | none => exact hreport _ rfl (by simp)
    | some bytes =>
      rcases adds_read z s bytes with hadds | ⟨hreading, msg, hadds⟩
      · exact hsame hadds
      · rw [hadds, once_received h (h.reading (hreading ▸ rfl))]
        simp
  | write msg => exact hsame rfl
  | written i ok =>
    cases ok with
    | true => exact hsame rfl
    | false => exact hreport _ rfl (by simp)
  | close => exact hreport _ rfl (by simp)
  | handler => exact hsame rfl

theorem Inv.closing {state : UInt16} (h : Inv s) (hadded : s'.added = s.added ++ [report state])
    (honce : kinds.ClosedOnce s'.added) (hclosed : s'.session.mBConnected = false)
    (hconnecting : s'.connecting = s.connecting) (hreading : s'.reading.isSome → s.reading.isSome) :
    Inv s' := by
  have hopened : kinds.Opened s'.added ↔ kinds.Opened s.added := by
    simp [hadded, not_opens_report]
  have hreported : kinds.Closed s'.added := by simp [hadded, closes_report]
  refine ⟨honce, ?_, ?_, ?_, ?_, ?_, ?_⟩
  · simp [hclosed]
  · exact fun _ hnone => absurd hreported hnone
  · simp [IsOpen, hclosed]
  · exact fun hsome => hopened.mpr (h.reading (hreading hsome))
  · rw [hconnecting, hopened]
    exact h.connecting
  · exact fun _ => hreported

theorem Inv.goOn {more : List HXMessagePackage} (h : Inv s)
    (hadded : s'.added = s.added ++ more.map (Added.mk true)) (honce : kinds.ClosedOnce s'.added)
    (hconnected : s'.session.mBConnected = s.session.mBConnected)
    (hposted : .doClose ∈ s'.posted ↔ .doClose ∈ s.posted) (hconnecting : s'.connecting = s.connecting)
    (hreading : s'.reading.isSome → s.reading.isSome) : Inv s' := by
  have hmore : ¬kinds.Opened (more.map (Added.mk true)) := by
    rintro ⟨a, ha, hfalse, -⟩
    obtain ⟨msg, -, rfl⟩ := List.mem_map.mp ha
    simp at hfalse
  have hopened : kinds.Opened s'.added ↔ kinds.Opened s.added := by simp [hadded, hmore]
  have hclosed : kinds.Closed s.added → kinds.Closed s'.added := by
    intro hclosed
    simp [hadded, hclosed]
  refine ⟨honce, ?_, ?_, ?_, ?_, ?_, ?_⟩
  · rw [hconnected, hopened]
    exact h.connected
  · rw [hconnected, hopened]
    exact fun hopen hnone => h.unclosed hopen (mt hclosed hnone)
  · rintro ⟨hopen, hnone, hplain⟩ hclosed'
    have hplain' : ∀ a ∈ s.added, a.received = true → a.msg.header.id ≠ idDisconnect :=
      fun a ha => hplain a (hadded ▸ List.mem_append_left _ ha)
    have hunclosed := h.isOpen ⟨hconnected ▸ hopen, mt hposted.mpr hnone, hplain'⟩
    rw [hadded, Kinds.closed_append] at hclosed'
    rcases hclosed' with hclosed' | ⟨a, ha, hid⟩
    · exact hunclosed hclosed'
    · obtain ⟨msg, -, rfl⟩ := List.mem_map.mp ha
      exact hplain _ (hadded ▸ List.mem_append_right _ ha) rfl hid
  · exact fun hsome => hopened.mpr (h.reading (hreading hsome))
  · rw [hconnecting, hopened]
    exact h.connecting
  · exact fun hmem => hclosed (h.posted (hposted.mp hmem))

theorem step_eq_some : step z s e = some s' ↔
    ∃ t, react z s e = some t ∧ s' = { t with added := s.added ++ adds z s e } := by
  unfold step
  rw [Option.map_eq_some_iff]
  simp only [eq_comm]

theorem Inv.connect {error : Option ErrorText} (h : Inv s) (hstep : step z s (.connect error) = some s')
    (honce : kinds.ClosedOnce s'.added) : Inv s' := by
  obtain ⟨t, hreact, rfl⟩ := step_eq_some.mp hstep
  simp only [react, Option.ite_none_right_eq_some, Option.some.injEq] at hreact
  obtain ⟨hconnecting, rfl⟩ := hreact
  have hnone := not_closed_of_connecting h hconnecting
  have hunopened := h.connecting hconnecting
  obtain ⟨msg, hadds, hid⟩ := adds_connect z s error
  have hnew : ¬kinds.Closed (adds z s (.connect error)) := by
    rintro ⟨a, ha, hcloses⟩
    rw [hadds] at ha
    obtain rfl := List.mem_singleton.mp ha
    exact hid hcloses
  have hunclosed : ¬kinds.Closed (s.added ++ adds z s (.connect error)) := by
    simp [hnone, hnew]
  have hposted : .doClose ∉ s.posted := fun hmem => hnone (h.posted hmem)
  cases error with
  | none =>
    have hopened : kinds.Opened (s.added ++ adds z s (.connect none)) := by
      rw [Kinds.opened_append]
      exact Or.inr ⟨_, List.mem_singleton_self _, rfl, rfl⟩
    refine ⟨honce, fun _ => hopened, fun _ _ => rfl, fun _ => hunclosed, fun _ => hopened, ?_, ?_⟩
    · simp
    · exact fun hmem => absurd hmem hposted
  | some error =>
    have hfailure : ¬kinds.opens ⟨false, connectFailureMessage error⟩ := by
      rintro ⟨-, hid⟩
      have hid : idConnectFailure = idConnect := hid
      exact absurd hid (by decide)
    have hopened : ¬kinds.Opened (s.added ++ adds z s (.connect (some error))) := by
      simp [hunopened, adds, hfailure]
    refine ⟨honce, ?_, ?_, fun _ => hunclosed, ?_, fun _ => hopened, ?_⟩
    · exact fun hconnected => absurd (h.connected hconnected) hunopened
    · exact fun hopened' => absurd hopened' hopened
    · simp
    · exact fun hmem => absurd hmem hposted

theorem Inv.close (h : Inv s) (hstep : step z s .close = some s') (honce : kinds.ClosedOnce s'.added) :
    Inv s' := by
  obtain ⟨t, hreact, rfl⟩ := step_eq_some.mp hstep
  obtain rfl := Option.some.inj hreact
  have hopened : kinds.Opened (s.added ++ adds z s .close) ↔ kinds.Opened s.added := by
    simp [adds, not_opens_report]
  have hclosed : kinds.Closed (s.added ++ adds z s .close) := by
    simp [adds, closes_report]
  refine ⟨honce, ?_, ?_, ?_, ?_, ?_, ?_⟩
  · exact fun hconnected => hopened.mpr (h.connected hconnected)
  · exact fun _ hnone => absurd hclosed hnone
  · exact fun hopen => absurd (List.mem_append_right _ (List.mem_singleton_self _)) hopen.2.1
  · exact fun hsome => hopened.mpr (h.reading hsome)
  · exact fun hconnecting hopen => h.connecting hconnecting (hopened.mp hopen)
  · exact fun _ => hclosed

theorem Inv.doClose (h : Inv s) {posted : List Handler} (hposted : s.posted = .doClose :: posted)
    (hadded : s'.added = s.added) (hclosed : s'.session.mBConnected = false)
    (hconnecting : s'.connecting = s.connecting) (hreading : s'.reading = s.reading) : Inv s' := by
  have hreported : kinds.Closed s.added := h.posted (by simp [hposted])
  refine ⟨hadded ▸ h.once, ?_, ?_, ?_, ?_, ?_, ?_⟩
  · simp [hclosed]
  · exact fun _ hnone => absurd (hadded ▸ hreported) hnone
  · simp [IsOpen, hclosed]
  · rw [hreading, hadded]
    exact h.reading
  · rw [hconnecting, hadded]
    exact h.connecting
  · rw [hadded]
    exact fun _ => hreported

theorem mBConnected_handleReadBody {c c' : HXLibClientAccept} {bytes : List UInt8}
    (h : c.handleReadBody z (some bytes) = .ok c') : c'.mBConnected = c.mBConnected := by
  unfold handleReadBody at h
  simp only at h
  split_ifs at h
  · obtain ⟨added, -, h⟩ := bind_eq_ok.mp h
    rw [← Except.ok.inj h]
  · rw [← Except.ok.inj h]

theorem Inv.read {bytes : Option (List UInt8)} (h : Inv s) (hstep : step z s (.read bytes) = some s')
    (honce : kinds.ClosedOnce s'.added) : Inv s' := by
  obtain ⟨t, hreact, rfl⟩ := step_eq_some.mp hstep
  simp only [react] at hreact
  cases bytes with
  | none =>
    -- either handler closes and reports
    have ht : t.session.mBConnected = false ∧ t.connecting = s.connecting ∧ t.reading = none := by
      cases hreading : s.reading with
      | none => simp [hreading] at hreact
      | some op =>
        cases op with
        | header =>
          simp only [hreading] at hreact
          obtain rfl := Option.some.inj hreact
          exact ⟨rfl, rfl, rfl⟩
        | body =>
          simp only [hreading] at hreact
          obtain rfl := Option.some.inj hreact
          exact ⟨rfl, rfl, rfl⟩
    exact h.closing rfl honce ht.1 ht.2.1 (by simp [ht.2.2])
  | some bytes =>
    have ht : t.session.mBConnected = s.session.mBConnected ∧ t.connecting = s.connecting ∧
        t.posted = s.posted ∧ s.reading.isSome := by
      cases hreading : s.reading with
      | none => simp [hreading] at hreact
      | some op =>
        cases op with
        | header =>
          simp only [hreading, Option.ite_none_right_eq_some, Option.some.injEq] at hreact
          obtain ⟨-, rfl⟩ := hreact
          exact ⟨rfl, rfl, rfl, rfl⟩
        | body =>
          simp only [hreading, Option.ite_none_right_eq_some, Option.map_eq_some_iff] at hreact
          obtain ⟨-, c, hc, rfl⟩ := hreact
          exact ⟨mBConnected_handleReadBody (mem_toOption hc), rfl, rfl, rfl⟩
    obtain ⟨more, hmore⟩ : ∃ more : List HXMessagePackage,
        adds z s (.read (some bytes)) = more.map (Added.mk true) := by
      rcases adds_read z s bytes with hadds | ⟨-, msg, hadds⟩
      · exact ⟨[], hadds⟩
      · exact ⟨[msg], hadds⟩
    apply @Inv.goOn _ _ more h
    · exact congrArg (s.added ++ ·) hmore
    · exact honce
    · exact ht.1
    · exact Iff.of_eq (congrArg _ ht.2.2.1)
    · exact ht.2.1
    · exact fun _ => ht.2.2.2

theorem Inv.written {i : Nat} {ok : Bool} (h : Inv s) (hstep : step z s (.written i ok) = some s')
    (honce : kinds.ClosedOnce s'.added) : Inv s' := by
  obtain ⟨t, hreact, rfl⟩ := step_eq_some.mp hstep
  obtain ⟨front, -, rfl⟩ := Option.map_eq_some_iff.mp hreact
  cases ok with
  | true => exact @Inv.goOn _ _ [] h rfl honce rfl Iff.rfl rfl id
  | false => exact h.closing rfl honce rfl rfl id

theorem Inv.handler (h : Inv s) (hstep : step z s .handler = some s') : Inv s' := by
  obtain ⟨t, hreact, rfl⟩ := step_eq_some.mp hstep
  have hadded : s.added ++ adds z s .handler = s.added := List.append_nil _
  cases hposted : s.posted with
  | nil => simp [react, hposted] at hreact
  | cons handler posted =>
    simp only [react, hposted] at hreact
    cases handler with
    | doWrite msg =>
      obtain rfl := Option.some.inj hreact
      refine @Inv.goOn _ _ [] h rfl (hadded.symm ▸ h.once) rfl ?_ rfl id
      simp [hposted]
    | doClose =>
      obtain rfl := Option.some.inj hreact
      exact h.doClose hposted hadded rfl rfl rfl

theorem step_inv (h : Inv s) (hwhile : WhileOpen z s e) (hstep : step z s e = some s') : Inv s' := by
  obtain ⟨t, hreact, hs'⟩ := step_eq_some.mp hstep
  have honce : kinds.ClosedOnce s'.added := by
    rw [hs']
    exact (once_iff h).mpr (hwhile (hreact ▸ rfl))
  cases e with
  | connect error => exact h.connect hstep honce
  | read bytes => exact h.read hstep honce
  | write msg =>
    simp only [react, Option.ite_none_right_eq_some, Option.some.injEq] at hreact
    obtain ⟨-, rfl⟩ := hreact
    subst hs'
    exact @Inv.goOn _ _ [] h rfl honce rfl (by simp) rfl id
  | written i ok => exact h.written hstep honce
  | close => exact h.close hstep honce
  | handler => exact h.handler hstep

theorem inv_start (readMsg : HXMessagePackage) (mHeader : MBigHeader) : Inv (start readMsg mHeader) := by
  refine ⟨Kinds.closedOnce_nil _, ?_, ?_, ?_, ?_, ?_, ?_⟩ <;>
    simp [start, HXLibClientAccept.connecting, Kinds.Opened, Kinds.Closed]

end Steps

/-- The messages added contain at most one `ID_Disconnect`, after an `ID_Connect` and
before nothing that is received, in exactly the runs in which, `handle_connect` apart,
messages are added while the connection is open. -/
theorem disconnect_iff (z : Zlib) (readMsg : HXMessagePackage) (mHeader : MBigHeader)
    (es : List Event) :
    Always (step z) (fun s => kinds.ClosedOnce s.added) (start readMsg mHeader) es ↔
      Along (step z) (WhileOpen z) (start readMsg mHeader) es := by
  apply @always_iff_along _ _ _ _ _ _ _ Inv
  · exact fun s h => h.once
  · intro s e s' h hwhile hstep
    exact step_inv h hwhile hstep
  · intro s e h hnext hreact
    obtain ⟨t, ht⟩ := Option.isSome_iff_exists.mp hreact
    exact (once_iff h).mp (hnext _ (step_eq_some.mpr ⟨t, ht, rfl⟩))
  · exact inv_start readMsg mHeader

def note : HXMessagePackage := HXMessagePackage.filled LinkID.zero 1000 0 [] (Nat.zero_le _)

/-- A write fails, and then the pending read, which reports a second time. -/
theorem disconnect_twice : ¬Always (step Zlib.refusing) (fun s => kinds.ClosedOnce s.added)
    (start (HXMessagePackage.filled LinkID.zero 0 0 [] (Nat.zero_le _)) ⟨0, 0, 0, 0, 0, 0, 0⟩)
    [.connect none, .write note, .handler, .written 0 false, .read none] := by
  intro h
  have honce := @Always.reach _ _ _ _ _ _
    [Event.connect none, .write note, .handler, .written 0 false, .read none] [] h rfl
  apply honce.once [⟨false, connectMessage⟩] (report dissconnectWriteError)
    [report dissconnectReadError] rfl rfl
  exact Kinds.closed_singleton.mpr (closes_report _)

section Queue
variable {z : Zlib} {s t : State} {e : Event}

theorem handleReadBody_queue {c c' : HXLibClientAccept} {bytes : List UInt8}
    (h : c.handleReadBody z (some bytes) = .ok c') :
    (entry z c bytes = none ∧ c'.mRecv = c.mRecv) ∨
      ∃ msg big, entry z c bytes = some msg ∧ c'.mRecv = c.mRecv.push big msg := by
  unfold entry
  unfold handleReadBody at h
  by_cases hlength : bytes.length ≤ maxBodyLength
  · by_cases hid : (c.received bytes hlength).header.id ≠ idHeartbeat
    · simp only [hlength, hid, if_true, dif_pos, ne_eq, not_false_eq_true] at h ⊢
      obtain ⟨added, hadded, h⟩ := bind_eq_ok.mp h
      rw [addWith_eq] at hadded
      obtain ⟨r, hr, hadded⟩ := bind_eq_ok.mp hadded
      rw [← Except.ok.inj h, ← Except.ok.inj hadded, hr]
      cases hentry : r.1 with
      | none => exact Or.inl ⟨hentry, rfl⟩
      | some msg => exact Or.inr ⟨msg, _, hentry, rfl⟩
    · simp only [hlength, hid, if_false, dif_pos] at h ⊢
      rw [← Except.ok.inj h]
      exact Or.inl ⟨trivial, rfl⟩
  · simp only [hlength, dif_neg, not_false_eq_true] at h
    cases h

/-- What is recorded of an event is what its handler adds to the queue. -/
theorem react_queue (hreact : react z s e = some t) :
    (adds z s e = [] ∧ t.session.mRecv = s.session.mRecv) ∨
      ∃ a big, adds z s e = [a] ∧ t.session.mRecv = s.session.mRecv.push big a.msg := by
  cases e with
  | connect error =>
    simp only [react, Option.ite_none_right_eq_some, Option.some.injEq] at hreact
    obtain ⟨-, rfl⟩ := hreact
    cases error with
    | none => exact Or.inr ⟨_, false, rfl, rfl⟩
    | some error => exact Or.inr ⟨_, false, rfl, rfl⟩
  | read bytes =>
    cases hreading : s.reading with
    | none => simp [react, hreading] at hreact
    | some op =>
      cases op with
      | header =>
        simp only [react, hreading, Option.ite_none_right_eq_some, Option.some.injEq] at hreact
        obtain ⟨-, rfl⟩ := hreact
        cases bytes with
        | none => exact Or.inr ⟨_, false, rfl, rfl⟩
        | some bytes => exact Or.inl ⟨by simp [adds, hreading], rfl⟩
      | body =>
        simp only [react, hreading, Option.ite_none_right_eq_some, Option.map_eq_some_iff] at hreact
        obtain ⟨-, c, hc, rfl⟩ := hreact
        have hc := mem_toOption hc
        cases bytes with
        | none =>
          obtain rfl := Except.ok.inj hc
          exact Or.inr ⟨_, false, rfl, rfl⟩
        | some bytes =>
          rcases handleReadBody_queue hc with ⟨hentry, hqueue⟩ | ⟨msg, big, hentry, hqueue⟩
          · exact Or.inl ⟨by simp [adds, hreading, hentry], hqueue⟩
          · exact Or.inr ⟨⟨true, msg⟩, big, by simp [adds, hreading, hentry], hqueue⟩
  | write msg =>
    simp only [react, Option.ite_none_right_eq_some, Option.some.injEq] at hreact
    obtain ⟨-, rfl⟩ := hreact
    exact Or.inl ⟨rfl, rfl⟩
  | written i ok =>
    obtain ⟨front, -, rfl⟩ := Option.map_eq_some_iff.mp hreact
    cases ok with
    | true => exact Or.inl ⟨rfl, rfl⟩
    | false => exact Or.inr ⟨_, false, rfl, rfl⟩
  | close =>
    obtain rfl := Option.some.inj hreact
    exact Or.inr ⟨_, false, rfl, rfl⟩
  | handler =>
    simp only [react] at hreact
    split at hreact
    · cases hreact
    · obtain rfl := Option.some.inj hreact
      exact Or.inl ⟨rfl, rfl⟩
    · obtain rfl := Option.some.inj hreact
      exact Or.inl ⟨rfl, rfl⟩

end Queue
end Disconnection
end HXService
