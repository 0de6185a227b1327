import HXService.Lib.Transfer
import HXService.WriteQueue

/-! What the writes of a session and of the client transmit, when asio may read
the storage they refer to at any time until they complete. -/

namespace HXService
open Runs Transfers

namespace Transmission

instance nontrivialByte : Nontrivial UInt8 := ⟨0, 1, by decide⟩

/-- A write refers to an element of `write_msgs_` or to the local variable of a
handler, whose contents are gone when the handler has returned. -/
inductive Storage
  | element (k : Nat)
  | copy (contents : Option HXMessagePackage)

namespace Storage

def contents (gone : Nat) (queue : List HXMessagePackage) : Storage → Option HXMessagePackage
  | element k => deref gone queue k
  | copy contents => contents

def returned : Storage → Storage
  | element k => element k
  | copy _ => copy none

end Storage

/-- The writes under way on one socket; `gone` packages have been removed from the
front of the queue so far. -/
structure Wire where
  gone : Nat
  writes : List (Transfer Storage UInt8)

namespace Wire

def empty : Wire := ⟨0, []⟩

def begin (w : Wire) (source : Storage) (queue : List HXMessagePackage) : Wire :=
  { w with writes := w.writes ++ queue.head?.toList.map fun front => .start source front.frame }

def beginFront (w : Wire) (queue : List HXMessagePackage) : Wire := w.begin (.element w.gone) queue

def pop (w : Wire) : Wire := { w with gone := w.gone + 1 }

def finish (w : Wire) (i : Nat) : Wire := { w with writes := w.writes.eraseIdx i }

def found (w : Wire) (queue : List HXMessagePackage) (t : Transfer Storage UInt8) : Option UInt8 :=
  (t.source.contents w.gone queue).bind fun pack => pack.frame[t.read.length]?

def transmit (w : Wire) (queue : List HXMessagePackage) (i : Nat) : Option Wire :=
  match w.writes[i]? with
  | some t =>
    if t.read.length < t.bytes.length then
      some { w with writes := w.writes.set i (t.next (w.found queue t)) }
    else none
  | none => none

def complete (w : Wire) (i : Nat) : Option Wire :=
  match w.writes[i]? with
  | some t => if t.read.length = t.bytes.length then some (w.finish i) else none
  | none => none

def handlerReturns (w : Wire) (i : Nat) : Option Wire :=
  match w.writes[i]? with
  | some t => some { w with writes := w.writes.set i { t with source := t.source.returned } }
  | none => none

/-- Every write transmits the package that stood at the front when it was started. -/
def Faithful (w : Wire) : Prop := ∀ t ∈ w.writes, t.Faithful

/-! ## What holds of the writes

`queue` is `write_msgs_`, and `outstanding` are the packages whose write is under way. -/

def Live (w : Wire) (queue : List HXMessagePackage) (t : Transfer Storage UInt8) : Prop :=
  ∃ pack, t.source.contents w.gone queue = some pack ∧ t.bytes = pack.frame

structure Holds (w : Wire) (queue outstanding : List HXMessagePackage) : Prop where
  bytes : w.writes.map Transfer.bytes = outstanding.map HXMessagePackage.frame
  faithful : w.Faithful
  storage : ∀ t ∈ w.writes, t.source = .copy none ∨ w.Live queue t

section Holds
variable {w w' : Wire} {queue outstanding : List HXMessagePackage} {i : Nat}
variable {t : Transfer Storage UInt8}

theorem holds_empty (queue : List HXMessagePackage) : empty.Holds queue [] := by
  constructor <;> simp [empty, Faithful]

theorem Holds.append (h : w.Holds queue outstanding) (more : List HXMessagePackage) :
    w.Holds (queue ++ more) outstanding := by
  refine ⟨h.bytes, h.faithful, ?_⟩
  intro t ht
  refine (h.storage t ht).imp_right ?_
  rintro ⟨pack, hpack, hbytes⟩
  refine ⟨pack, ?_, hbytes⟩
  cases hsource : t.source with
  | element k =>
    rw [hsource] at hpack
    exact deref_append hpack more
  | copy contents => rwa [hsource] at hpack

theorem Holds.begin {source : Storage} {front : HXMessagePackage} {rest : List HXMessagePackage}
    (h : w.Holds (front :: rest) outstanding)
    (hsource : source.contents w.gone (front :: rest) = some front) :
    (w.begin source (front :: rest)).Holds (front :: rest) (outstanding ++ [front]) := by
  unfold Wire.begin
  refine ⟨?_, ?_, ?_⟩
  · simp [h.bytes, Transfer.start]
  · intro t ht
    rcases List.mem_append.mp ht with ht | ht
    · exact h.faithful t ht
    · obtain rfl : t = .start source front.frame := by simpa using ht
      exact Transfer.faithful_start _ _
  · intro t ht
    rcases List.mem_append.mp ht with ht | ht
    · exact h.storage t ht
    · obtain rfl : t = .start source front.frame := by simpa using ht
      exact Or.inr ⟨front, hsource, rfl⟩

theorem Holds.beginFront (h : w.Holds queue outstanding) :
    (w.beginFront queue).Holds queue (outstanding ++ queue.head?.toList) := by
  unfold Wire.beginFront
  cases queue with
  | nil => simpa [Wire.begin] using h
  | cons front rest => exact h.begin (deref_front w.gone (front :: rest))

theorem Holds.finish (h : w.Holds queue outstanding) (i : Nat) :
    (w.finish i).Holds queue (outstanding.eraseIdx i) := by
  refine ⟨?_, fun t ht => h.faithful t (List.mem_of_mem_eraseIdx ht),
    fun t ht => h.storage t (List.mem_of_mem_eraseIdx ht)⟩
  show (w.writes.eraseIdx i).map Transfer.bytes = _
  rw [← List.eraseIdx_map, h.bytes, List.eraseIdx_map]

theorem finish_of_complete (hcomplete : w.complete i = some w') : w' = w.finish i := by
  unfold Wire.complete at hcomplete
  split at hcomplete
  · split_ifs at hcomplete
    exact (Option.some.inj hcomplete).symm
  · cases hcomplete

theorem Holds.complete (h : w.Holds queue outstanding) (hcomplete : w.complete i = some w') :
    w'.Holds queue (outstanding.eraseIdx i) := by
  rw [finish_of_complete hcomplete]
  exact h.finish i

theorem Holds.pop (h : w.Holds queue []) (queue' : List HXMessagePackage) : w.pop.Holds queue' [] := by
  have hnone : w.writes = [] := List.map_eq_nil_iff.mp h.bytes
  constructor <;> simp [Wire.pop, Faithful, hnone]

theorem Holds.set (h : w.Holds queue outstanding) {t' : Transfer Storage UInt8} (hi : w.writes[i]? = some t)
    (hbytes : t'.bytes = t.bytes) (hfaithful : t'.Faithful)
    (hstorage : t'.source = .copy none ∨ w.Live queue t') :
    Holds { w with writes := w.writes.set i t' } queue outstanding := by
  refine ⟨?_, ?_, ?_⟩
  · show (w.writes.set i t').map Transfer.bytes = _
    have hget : (w.writes.map Transfer.bytes)[i]? = some t'.bytes := by
      rw [List.getElem?_map, hi, hbytes]
      rfl
    obtain ⟨hlt, hget⟩ := List.getElem?_eq_some_iff.mp hget
    rw [List.map_set, ← h.bytes, ← hget]
    exact List.set_getElem_self hlt
  · intro u hu
    rcases List.mem_or_eq_of_mem_set hu with hu | rfl
    · exact h.faithful u hu
    · exact hfaithful
  · intro u hu
    rcases List.mem_or_eq_of_mem_set hu with hu | rfl
    · exact h.storage u hu
    · exact hstorage

theorem handlerReturns_eq_some : w.handlerReturns i = some w' ↔ ∃ t, w.writes[i]? = some t ∧
    w' = { w with writes := w.writes.set i { t with source := t.source.returned } } := by
  unfold Wire.handlerReturns
  cases w.writes[i]? <;> simp [eq_comm]

theorem Holds.handlerReturns (h : w.Holds queue outstanding)
    (hreturns : w.handlerReturns i = some w') : w'.Holds queue outstanding := by
  obtain ⟨t, hi, rfl⟩ := handlerReturns_eq_some.mp hreturns
  have ht : t ∈ w.writes := List.mem_of_getElem? hi
  apply h.set hi
  · rfl
  · exact h.faithful t ht
  · rcases h.storage t ht with hnone | ⟨pack, hpack, hbytes⟩
    · exact Or.inl (by simp [hnone, Storage.returned])
    · cases hsource : t.source with
      | element k =>
        rw [hsource] at hpack
        exact Or.inr ⟨pack, hpack, hbytes⟩
      | copy contents => exact Or.inl rfl

theorem transmit_eq_some : w.transmit queue i = some w' ↔ ∃ t, w.writes[i]? = some t ∧
    t.read.length < t.bytes.length ∧
    w' = { w with writes := w.writes.set i (t.next (w.found queue t)) } := by
  unfold Wire.transmit
  cases w.writes[i]? with
  | none => simp
  | some t =>
    by_cases hlt : t.read.length < t.bytes.length <;> simp [hlt, eq_comm]

theorem Live.found (h : w.Live queue t) : w.found queue t = t.bytes[t.read.length]? := by
  obtain ⟨pack, hpack, hbytes⟩ := h
  rw [Wire.found, hpack, hbytes]
  rfl

theorem Holds.transmit (h : w.Holds queue outstanding)
    (htransmit : w.transmit queue i = some w')
    (hlive : ∀ t, w.writes[i]? = some t → t.read.length < t.bytes.length → t.source ≠ .copy none) :
    w'.Holds queue outstanding := by
  obtain ⟨t, hi, hlt, rfl⟩ := transmit_eq_some.mp htransmit
  have ht : t ∈ w.writes := List.mem_of_getElem? hi
  have hstorage := (h.storage t ht).resolve_left (hlive t hi hlt)
  apply h.set hi
  · rfl
  · exact ((h.faithful t ht).next_iff hlt).mpr hstorage.found
  · exact Or.inr hstorage

theorem not_faithful_of_gone (h : w.Holds queue outstanding)
    (htransmit : w.transmit queue i = some w') (hi : w.writes[i]? = some t)
    (hgone : t.source = .copy none) : ¬w'.Faithful := by
  obtain ⟨t', hi', hlt, rfl⟩ := transmit_eq_some.mp htransmit
  obtain rfl : t = t' := Option.some.inj (hi.symm.trans hi')
  intro hfaithful
  have hmem : t.next (w.found queue t) ∈ w.writes.set i (t.next (w.found queue t)) :=
    List.mem_set (List.getElem?_eq_some_iff.mp hi).1 _
  have hfound := ((h.faithful t (List.mem_of_getElem? hi)).next_iff hlt).mp (hfaithful _ hmem)
  rw [List.getElem?_eq_getElem hlt] at hfound
  simp [found, hgone, Storage.contents] at hfound

def InPlace (w : Wire) : Prop := ∀ t ∈ w.writes, t.source ≠ .copy none

theorem InPlace.beginFront (h : w.InPlace) (queue : List HXMessagePackage) :
    (w.beginFront queue).InPlace := by
  intro t ht
  rcases List.mem_append.mp ht with ht | ht
  · exact h t ht
  · obtain ⟨front, -, rfl⟩ := List.mem_map.mp ht
    simp [Transfer.start]

theorem InPlace.finish (h : w.InPlace) (i : Nat) : (w.finish i).InPlace :=
  fun t ht => h t (List.mem_of_mem_eraseIdx ht)

theorem InPlace.complete (h : w.InPlace) (hcomplete : w.complete i = some w') : w'.InPlace := by
  rw [finish_of_complete hcomplete]
  exact h.finish i

theorem InPlace.transmit (h : w.InPlace) (htransmit : w.transmit queue i = some w') : w'.InPlace := by
  obtain ⟨t, hi, -, rfl⟩ := transmit_eq_some.mp htransmit
  intro u hu
  rcases List.mem_or_eq_of_mem_set hu with hu | rfl
  · exact h u hu
  · exact h t (List.mem_of_getElem? hi)

end Holds
end Wire

/-! ## The server -/

namespace Server

/-- `completed` is the locked part of `handle_write`, `begin` the write it starts
behind it, and `returned` its end. -/
inductive Event
  | send (msg : HXMessagePackage)
  | transmit (i : Nat)
  | completed (i : Nat)
  | begin (i : Nat)
  | returned (i : Nat)
  | failed (i : Nat)
  | close

structure State where
  calls : WriteQueue.Server.State
  wire : Wire

def start (session : HXLibAccept) : State := ⟨WriteQueue.Server.start session, Wire.empty⟩

def State.queue (s : State) : List HXMessagePackage := s.calls.session.writeMsgs

def step (s : State) : Event → Option State
  | .send msg => (WriteQueue.Server.step s.calls (.send msg)).map fun calls =>
    ⟨calls, if s.calls.session.socketOpen ∧ s.queue = [] then
      s.wire.beginFront calls.session.writeMsgs else s.wire⟩
  | .transmit i => do
    let wire ← s.wire.transmit s.queue i
    some { s with wire }
  | .completed i => do
    let calls ← WriteQueue.Server.step s.calls (.completed i)
    let wire ← s.wire.complete i
    some ⟨calls, wire.pop⟩
  | .begin i => do
    let front ← s.calls.imminent[i]?
    let calls ← WriteQueue.Server.step s.calls (.begin i)
    some ⟨calls, s.wire.begin (.copy (some front)) s.queue⟩
  | .returned i => do
    let wire ← s.wire.handlerReturns i
    some { s with wire }
  | .failed i => do
    let calls ← WriteQueue.Server.step s.calls (.failed i)
    some ⟨calls, s.wire.finish i⟩
  | .close => (WriteQueue.Server.step s.calls .close).map fun calls => { s with calls }

/-- No byte is read of the local copy of a `handle_write` that has returned. -/
def InTime (s : State) : Event → Prop
  | .transmit i => ∀ t, s.wire.writes[i]? = some t → t.read.length < t.bytes.length →
      t.source ≠ .copy none
  | _ => True

structure Inv (s : State) : Prop where
  ordered : (WriteQueue.Server.toWriter s.calls).Ordered
  wire : s.wire.Holds s.queue s.calls.outstanding

section Steps
variable {s s' : State} {e : Event} {i : Nat} {msg : HXMessagePackage}

theorem Inv.send (h : Inv s) (hstep : step s (.send msg) = some s') : Inv s' := by
  have hordered := WriteQueue.Server.step_ordered h.ordered
    (rfl : WriteQueue.Server.step s.calls (.send msg) = some _)
  have hwire := h.wire
  obtain rfl := Option.some.inj hstep
  refine ⟨hordered, ?_⟩
  unfold State.queue at hwire ⊢
  unfold HXLibAccept.send WriteQueue.Server.started
  by_cases hopen : s.calls.session.socketOpen = true
  · by_cases hempty : s.calls.session.writeMsgs = []
    · rw [hempty] at hwire
      simpa [hopen, hempty] using (hwire.append [msg]).beginFront
    · simpa [hopen, hempty] using hwire.append [msg]
  · simpa [hopen] using hwire

theorem Inv.completed (h : Inv s) (hstep : step s (.completed i) = some s') : Inv s' := by
  obtain ⟨calls, hcalls, hstep⟩ := Option.bind_eq_some_iff.mp hstep
  obtain ⟨wire, hwire, hs'⟩ := Option.bind_eq_some_iff.mp hstep
  have hordered := WriteQueue.Server.step_ordered h.ordered hcalls
  obtain ⟨front, hi, rfl⟩ := Option.map_eq_some_iff.mp hcalls
  obtain rfl := Option.some.inj hs'
  refine ⟨hordered, ?_⟩
  have hfinish := h.wire.complete hwire
  obtain ⟨l, r, ho, herase⟩ := WriteQueue.split_eraseIdx hi
  obtain ⟨-, rfl, rfl, -⟩ := h.ordered.outstanding_eq ho
  show wire.pop.Holds _ (s.calls.outstanding.eraseIdx i)
  rw [herase] at hfinish ⊢
  exact hfinish.pop _

theorem Inv.begin (h : Inv s) (hstep : step s (.begin i) = some s') : Inv s' := by
  obtain ⟨front, hi, hstep⟩ := Option.bind_eq_some_iff.mp hstep
  obtain ⟨calls, hcalls, hs'⟩ := Option.bind_eq_some_iff.mp hstep
  have hordered := WriteQueue.Server.step_ordered h.ordered hcalls
  simp only [WriteQueue.Server.step, hi, Option.map_some, Option.some.injEq] at hcalls
  subst hcalls
  obtain rfl := Option.some.inj hs'
  refine ⟨hordered, ?_⟩
  obtain ⟨l, r, himminent, -⟩ := WriteQueue.split_eraseIdx hi
  obtain ⟨-, -, -, -, rest, hqueue⟩ := h.ordered.imminent_eq himminent
  have hwire := h.wire
  unfold State.queue at hwire ⊢
  change s.calls.session.writeMsgs = front :: rest at hqueue
  rw [hqueue] at hwire ⊢
  show Wire.Holds _ s.calls.session.writeMsgs _
  rw [hqueue]
  exact hwire.begin rfl

theorem Inv.failed (h : Inv s) (hstep : step s (.failed i) = some s') : Inv s' := by
  obtain ⟨calls, hcalls, hs'⟩ := Option.bind_eq_some_iff.mp hstep
  have hordered := WriteQueue.Server.step_ordered h.ordered hcalls
  obtain ⟨front, hi, rfl⟩ := Option.map_eq_some_iff.mp hcalls
  obtain rfl := Option.some.inj hs'
  exact ⟨hordered, h.wire.finish i⟩

theorem step_inv (h : Inv s) (htime : InTime s e) (hstep : step s e = some s') : Inv s' := by
  cases e with
  | send msg => exact h.send hstep
  | transmit i =>
    obtain ⟨wire, hwire, hs'⟩ := Option.bind_eq_some_iff.mp hstep
    obtain rfl := Option.some.inj hs'
    exact ⟨h.ordered, h.wire.transmit hwire htime⟩
  | completed i => exact h.completed hstep
  | begin i => exact h.begin hstep
  | returned i =>
    obtain ⟨wire, hwire, hs'⟩ := Option.bind_eq_some_iff.mp hstep
    obtain rfl := Option.some.inj hs'
    exact ⟨h.ordered, h.wire.handlerReturns hwire⟩
  | failed i => exact h.failed hstep
  | close =>
    obtain rfl := Option.some.inj hstep
    exact ⟨h.ordered, h.wire⟩

theorem faithful_iff (session : HXLibAccept) (hempty : session.writeMsgs = []) (es : List Event) :
    Always step (fun s => s.wire.Faithful) (start session) es ↔ Along step InTime (start session) es := by
  apply @always_iff_along _ _ _ _ _ _ _ Inv
  · exact fun s h => h.wire.faithful
  · intro s e s' h htime hstep
    exact step_inv h htime hstep
  · intro s e h hnext
    cases e with
    | transmit i =>
      intro t hi hlt hgone
      have hwire := (@Wire.transmit_eq_some s.wire _ s.queue i).mpr ⟨t, hi, hlt, rfl⟩
      have hstep : step s (.transmit i) = some { s with wire := _ } :=
        Option.bind_eq_some_iff.mpr ⟨_, hwire, rfl⟩
      exact Wire.not_faithful_of_gone h.wire hwire hi hgone (hnext _ hstep)
    | _ => trivial
  · refine ⟨?_, Wire.holds_empty _⟩
    unfold start WriteQueue.Server.start WriteQueue.Server.toWriter
    rw [hempty]
    exact Writer.State.ordered_start

end Steps
end Server

/-! ## The client

`do_write` and `handle_write` both start the write of the front at its place. -/

namespace Client

inductive Event
  | write (msg : HXMessagePackage)
  | doWrite
  | transmit (i : Nat)
  | completed (i : Nat)
  | failed (i : Nat)
  | doClose

structure State where
  calls : WriteQueue.Client.State
  wire : Wire

def start (session : HXLibClientSession) : State := ⟨WriteQueue.Client.start session, Wire.empty⟩

def State.queue (s : State) : List HXMessagePackage := s.calls.session.writeMsgs

def step (s : State) : Event → Option State
  | .write msg => (WriteQueue.Client.step s.calls (.write msg)).map fun calls => { s with calls }
  | .doWrite => do
    let calls ← WriteQueue.Client.step s.calls .doWrite
    some ⟨calls, if s.queue = [] then s.wire.beginFront calls.session.writeMsgs else s.wire⟩
  | .transmit i => do
    let wire ← s.wire.transmit s.queue i
    some { s with wire }
  | .completed i => do
    let calls ← WriteQueue.Client.step s.calls (.completed i)
    let wire ← s.wire.complete i
    some ⟨calls, wire.pop.beginFront calls.session.writeMsgs⟩
  | .failed i => do
    let calls ← WriteQueue.Client.step s.calls (.failed i)
    some ⟨calls, s.wire.finish i⟩
  | .doClose => (WriteQueue.Client.step s.calls .doClose).map fun calls => { s with calls }

structure Inv (s : State) (entered : List HXMessagePackage) : Prop where
  calls : WriteQueue.Client.Inv s.calls entered
  wire : s.wire.Holds s.queue s.calls.outstanding
  inPlace : s.wire.InPlace

section Steps
variable {s s' : State} {e : Event} {i : Nat} {entered : List HXMessagePackage}

theorem Inv.doWrite (h : Inv s entered) (hstep : step s .doWrite = some s') :
    ∃ entered', Inv s' entered' := by
  obtain ⟨calls, hcalls, hs'⟩ := Option.bind_eq_some_iff.mp hstep
  cases hposted : s.calls.posted with
  | nil => simp [WriteQueue.Client.step, hposted] at hcalls
  | cons msg posted =>
    have hinv := (h.calls.doWrite hposted hcalls).2
    simp only [WriteQueue.Client.step, hposted, Option.some.injEq] at hcalls
    subst hcalls
    obtain rfl := Option.some.inj hs'
    have hwire := h.wire.append [msg]
    refine ⟨entered ++ [msg], hinv, ?_, ?_⟩
    · unfold State.queue at hwire ⊢
      unfold WriteQueue.Client.started HXLibClientSession.doWrite
      by_cases hempty : s.calls.session.writeMsgs = []
      · simpa [hempty] using (hempty ▸ hwire).beginFront
      · simpa [hempty] using hwire
    · show Wire.InPlace (if s.queue = [] then _ else _)
      split_ifs
      · exact h.inPlace.beginFront _
      · exact h.inPlace

theorem Inv.completed (h : Inv s entered) (hstep : step s (.completed i) = some s') : Inv s' entered := by
  obtain ⟨calls, hcalls, hstep⟩ := Option.bind_eq_some_iff.mp hstep
  obtain ⟨wire, hwire, hs'⟩ := Option.bind_eq_some_iff.mp hstep
  have hinv := h.calls.completed hcalls
  obtain ⟨front, hi, rfl⟩ := Option.map_eq_some_iff.mp hcalls
  obtain rfl := Option.some.inj hs'
  have hfinish := h.wire.complete hwire
  obtain ⟨l, r, ho, herase⟩ := WriteQueue.split_eraseIdx hi
  obtain ⟨-, rfl, rfl, -⟩ := h.calls.ordered.outstanding_eq ho
  rw [herase] at hfinish
  refine ⟨hinv, ?_, ?_⟩
  · unfold State.queue WriteQueue.Client.started HXLibClientSession.handleWrite
    simp only [herase, if_true]
    exact (hfinish.pop _).beginFront
  · have hcomplete : wire.InPlace := h.inPlace.complete hwire
    have hpop : wire.pop.InPlace := hcomplete
    exact hpop.beginFront _

theorem Inv.failed (h : Inv s entered) (hstep : step s (.failed i) = some s') : Inv s' entered := by
  obtain ⟨calls, hcalls, hs'⟩ := Option.bind_eq_some_iff.mp hstep
  have hinv := h.calls.failed hcalls
  obtain ⟨front, hi, rfl⟩ := Option.map_eq_some_iff.mp hcalls
  obtain rfl := Option.some.inj hs'
  refine ⟨hinv, ?_, h.inPlace.finish i⟩
  unfold State.queue WriteQueue.Client.started HXLibClientSession.handleWrite
  simpa [State.queue] using h.wire.finish i

theorem step_inv (h : Inv s entered) (hstep : step s e = some s') : ∃ entered', Inv s' entered' := by
  cases e with
  | write msg =>
    obtain ⟨entered', hinv⟩ := WriteQueue.Client.step_inv h.calls
      (rfl : WriteQueue.Client.step s.calls (.write msg) = some _)
    obtain rfl := Option.some.inj hstep
    exact ⟨entered', hinv, h.wire, h.inPlace⟩
  | doWrite => exact h.doWrite hstep
  | transmit i =>
    obtain ⟨wire, hwire, hs'⟩ := Option.bind_eq_some_iff.mp hstep
    obtain rfl := Option.some.inj hs'
    refine ⟨entered, h.calls, h.wire.transmit hwire ?_, h.inPlace.transmit hwire⟩
    exact fun t hi _ => h.inPlace t (List.mem_of_getElem? hi)
  | completed i => exact ⟨entered, h.completed hstep⟩
  | failed i => exact ⟨entered, h.failed hstep⟩
  | doClose =>
    obtain ⟨entered', hinv⟩ := WriteQueue.Client.step_inv h.calls
      (rfl : WriteQueue.Client.step s.calls .doClose = some _)
    obtain rfl := Option.some.inj hstep
    exact ⟨entered', hinv, h.wire, h.inPlace⟩

theorem always_faithful (session : HXLibClientSession) (hempty : session.writeMsgs = [])
    (es : List Event) : Always step (fun s => s.wire.Faithful) (start session) es := by
  apply @always_of_invariant _ _ _ _ _ _ fun s => ∃ entered, Inv s entered
  · rintro s ⟨entered, h⟩
    exact h.wire.faithful
  · rintro s e s' ⟨entered, h⟩ hstep
    exact step_inv h hstep
  · obtain ⟨entered, hinv⟩ := WriteQueue.Client.run_inv hempty
      (rfl : run WriteQueue.Client.step (WriteQueue.Client.start session) [] = some _)
    exact ⟨entered, hinv, Wire.holds_empty _, by simp [start, Wire.empty, Wire.InPlace]⟩

end Steps
end Client

/-- Every write of the client transmits the package at the front of its queue; those of
a server session do in exactly the runs in which asio reads no byte of a local copy
after the `handle_write` that made it has returned. -/
theorem transmission (readMsg : HXMessagePackage) (mHeader : MBigHeader) (linkid : LinkID)
    (es : List Server.Event) (es' : List Client.Event) :
    (Always Server.step (fun s => s.wire.Faithful)
        (Server.start (HXLibAccept.joined readMsg mHeader linkid)) es ↔
      Along Server.step Server.InTime (Server.start (HXLibAccept.joined readMsg mHeader linkid)) es) ∧
    Always Client.step (fun s => s.wire.Faithful)
      (Client.start (HXLibClientSession.new readMsg mHeader)) es' :=
  ⟨Server.faithful_iff _ rfl es, Client.always_faithful _ rfl es'⟩

/-- Two sends: the second package is written from a local copy that is gone when its
first byte is read. -/
theorem transmission_late : ¬Always Server.step (fun s => s.wire.Faithful)
    (Server.start (HXLibAccept.joined WriteQueue.ping ⟨0, 0, 0, 0, 0, 0, 0⟩ ⟨1, 0⟩))
    ([.send WriteQueue.ping, .send WriteQueue.ping] ++ List.replicate 8 (.transmit 0) ++
      [.completed 0, .begin 0, .returned 0] ++ [.transmit 0]) := by
  rw [Server.faithful_iff _ rfl]
  intro h
  have hlate := (h.append rfl).1
  exact hlate _ rfl (by decide) rfl

end Transmission
end HXService
