import HXService.Lib.Runs
import HXService.Lib.Writer
import HXService.AsioClient
import HXService.AsioServer

/-! The write queues of a server session and of the client, over any order of
calls and completions: both are queues with one writer at a time. -/

namespace HXService
open Runs

namespace WriteQueue

theorem split_eraseIdx {α : Type} {xs : List α} {i : Nat} {a : α} (h : xs[i]? = some a) :
    ∃ l r, xs = l ++ a :: r ∧ xs.eraseIdx i = l ++ r := by
  obtain ⟨hi, rfl⟩ := List.getElem?_eq_some_iff.mp h
  refine ⟨xs.take i, xs.drop (i + 1), ?_, ?_⟩
  · simp
  · exact List.eraseIdx_eq_take_drop_succ xs i

end WriteQueue

/-! ## The server

`handle_write` chooses the next package under `m_mutex` and starts its write
behind it; a `send` may come between. -/

namespace HXLibAccept

/-- The part of `handle_write` under `m_mutex`, and the package it copies. -/
def popped (a : HXLibAccept) : HXLibAccept × Option HXMessagePackage :=
  ({ a with writeMsgs := a.writeMsgs.tail, mNumofWrite := a.writeMsgs.tail.length, writing := none },
    a.writeMsgs.tail.head?)

def startCopy (a : HXLibAccept) : HXLibAccept := { a with writing := some .localCopy }

theorem written_eq (a : HXLibAccept) :
    a.written = if a.popped.2.isSome then a.popped.1.startCopy else a.popped.1 := by
  unfold written popped startCopy
  cases a.writeMsgs.tail <;> simp

end HXLibAccept

namespace WriteQueue.Server

inductive Event
  | send (msg : HXMessagePackage)
  | completed (i : Nat)
  | begin (i : Nat)
  | failed (i : Nat)
  | close

/-- `outstanding` are the packages whose `async_write` is under way, `imminent`
those a `handle_write` has chosen and not started. -/
structure State where
  session : HXLibAccept
  outstanding : List HXMessagePackage
  imminent : List HXMessagePackage
  accepted : List HXMessagePackage
  handed : List HXMessagePackage
  failed : Bool

def start (session : HXLibAccept) : State := ⟨session, [], [], [], [], false⟩

def started (a : HXLibAccept) (msg : HXMessagePackage) : Option HXMessagePackage :=
  if a.socketOpen ∧ a.writeMsgs = [] then some msg else none

def step (s : State) : Event → Option State
  | .send msg => some { s with
      session := s.session.send msg
      outstanding := s.outstanding ++ (started s.session msg).toList
      handed := s.handed ++ (started s.session msg).toList
      accepted := s.accepted ++ if s.session.socketOpen then [msg] else [] }
  | .completed i => s.outstanding[i]?.map fun _ => { s with
      session := s.session.popped.1
      outstanding := s.outstanding.eraseIdx i
      imminent := s.imminent ++ s.session.popped.2.toList }
  | .begin i => s.imminent[i]?.map fun front => { s with
      session := s.session.startCopy
      imminent := s.imminent.eraseIdx i
      outstanding := s.outstanding ++ [front]
      handed := s.handed ++ [front] }
  | .failed i => s.outstanding[i]?.map fun _ => { s with
      session := { s.session with writing := none }.resetLinkID
      outstanding := s.outstanding.eraseIdx i
      failed := true }
  | .close => some { s with session := s.session.close }

def toWriter (s : State) : Writer.State HXMessagePackage :=
  ⟨s.session.writeMsgs, s.outstanding, s.imminent, s.accepted, s.handed, s.failed⟩

section Steps
variable {s s' : State} {e : Event} {i : Nat} {front : HXMessagePackage}

theorem toWriter_send (hopen : s.session.socketOpen = true) (msg : HXMessagePackage)
    (hstep : step s (.send msg) = some s') : toWriter s' = (toWriter s).accept msg := by
  obtain rfl := Option.some.inj hstep
  unfold toWriter Writer.State.accept HXLibAccept.send started
  by_cases hempty : s.session.writeMsgs = [] <;> simp [hopen, hempty]

theorem toWriter_closed (hclosed : s.session.socketOpen = false) (msg : HXMessagePackage)
    (hstep : step s (.send msg) = some s') : toWriter s' = toWriter s := by
  obtain rfl := Option.some.inj hstep
  simp [toWriter, HXLibAccept.send, started, hclosed]

theorem toWriter_completed (hi : s.outstanding[i]? = some front)
    (hstep : step s (.completed i) = some s') :
    toWriter s' = (toWriter s).complete (s.outstanding.eraseIdx i) := by
  simp only [step, hi, Option.map_some, Option.some.injEq] at hstep
  subst hstep
  rfl

theorem toWriter_begin (hi : s.imminent[i]? = some front) (hstep : step s (.begin i) = some s') :
    toWriter s' = (toWriter s).begin front (s.imminent.eraseIdx i) := by
  simp only [step, hi, Option.map_some, Option.some.injEq] at hstep
  subst hstep
  rfl

theorem toWriter_failed (hi : s.outstanding[i]? = some front) (hstep : step s (.failed i) = some s') :
    toWriter s' = (toWriter s).fail (s.outstanding.eraseIdx i) := by
  simp only [step, hi, Option.map_some, Option.some.injEq] at hstep
  subst hstep
  rfl

/-- Each event is a step of the writer, or none where the socket is closed. -/
theorem step_writes (hstep : step s e = some s') :
    toWriter s' = toWriter s ∨ Writer.State.Step (toWriter s) (toWriter s') := by
  cases e with
  | send msg =>
    cases hopen : s.session.socketOpen with
    | true =>
      rw [toWriter_send hopen msg hstep]
      exact Or.inr (.accept _ msg)
    | false => exact Or.inl (toWriter_closed hopen msg hstep)
  | completed i =>
    obtain ⟨front, hi, -⟩ := Option.map_eq_some_iff.mp hstep
    obtain ⟨l, r, ho, herase⟩ := split_eraseIdx hi
    rw [toWriter_completed hi hstep, herase]
    exact Or.inr (.complete _ l front r ho)
  | begin i =>
    obtain ⟨front, hi, -⟩ := Option.map_eq_some_iff.mp hstep
    obtain ⟨l, r, ho, herase⟩ := split_eraseIdx hi
    rw [toWriter_begin hi hstep, herase]
    exact Or.inr (.begin _ l front r ho)
  | failed i =>
    obtain ⟨front, hi, -⟩ := Option.map_eq_some_iff.mp hstep
    obtain ⟨l, r, ho, herase⟩ := split_eraseIdx hi
    rw [toWriter_failed hi hstep, herase]
    exact Or.inr (.fail _ l front r ho)
  | close =>
    obtain rfl := Option.some.inj hstep
    exact Or.inl rfl

theorem step_ordered (h : (toWriter s).Ordered) (hstep : step s e = some s') :
    (toWriter s').Ordered := by
  rcases step_writes hstep with heq | hwrites
  · rwa [heq]
  · exact h.step hwrites

theorem step_failed (h : (toWriter s).Ordered) (hfailed : s.failed = true)
    (hstep : step s e = some s') : s'.failed = true ∧ s'.handed = s.handed := by
  rcases step_writes hstep with heq | hwrites
  · exact ⟨(congrArg Writer.State.failed heq).trans hfailed, congrArg Writer.State.handed heq⟩
  · exact h.step_failed hfailed hwrites

end Steps

section Runs
variable {s s' : State} {es : List Event}

theorem run_ordered {session : HXLibAccept} (hempty : session.writeMsgs = [])
    (hrun : run step (start session) es = some s) : (toWriter s).Ordered := by
  apply @run_invariant _ _ step (fun s => (toWriter s).Ordered) _ _ _ _ hrun
  · unfold start toWriter
    rw [hempty]
    exact Writer.State.ordered_start
  · intro s e s' h hstep
    exact step_ordered h hstep

theorem run_failed (h : (toWriter s).Ordered) (hfailed : s.failed = true)
    (hrun : run step s es = some s') : s'.handed = s.handed := by
  induction es generalizing s with
  | nil =>
    obtain rfl := Option.some.inj hrun
    rfl
  | cons e es ih =>
    obtain ⟨t, ht, hrun⟩ := run_cons.mp hrun
    obtain ⟨hfailed', hhanded⟩ := step_failed h hfailed ht
    exact (ih (step_ordered h ht) hfailed' hrun).trans hhanded

end Runs
end WriteQueue.Server

/-! ## The client

`write` posts `do_write`; the handlers of the `io_service` run in the order
they were posted, completions in between. -/

namespace WriteQueue.Client

inductive Event
  | write (msg : HXMessagePackage)
  | doWrite
  | completed (i : Nat)
  | failed (i : Nat)
  | doClose

structure State where
  session : HXLibClientSession
  posted : List HXMessagePackage
  outstanding : List HXMessagePackage
  accepted : List HXMessagePackage
  handed : List HXMessagePackage
  failed : Bool

def start (session : HXLibClientSession) : State := ⟨session, [], [], [], [], false⟩

def started (s : State) (write : Option HXMessagePackage) : State :=
  { s with outstanding := s.outstanding ++ write.toList, handed := s.handed ++ write.toList }

def step (s : State) : Event → Option State
  | .write msg => some { s with posted := s.posted ++ [msg], accepted := s.accepted ++ [msg] }
  | .doWrite =>
    match s.posted with
    | [] => none
    | msg :: posted =>
      some (started { s with session := (s.session.doWrite msg).1, posted } (s.session.doWrite msg).2)
  | .completed i => s.outstanding[i]?.map fun _ =>
      started { s with
        session := (s.session.handleWrite true).1
        outstanding := s.outstanding.eraseIdx i } (s.session.handleWrite true).2
  | .failed i => s.outstanding[i]?.map fun _ =>
      started { s with
        session := (s.session.handleWrite false).1
        outstanding := s.outstanding.eraseIdx i
        failed := true } (s.session.handleWrite false).2
  | .doClose => some { s with
      session := { s.session with toHXLibClientAccept := s.session.doClose } }

-- `entered` are the packages whose `do_write` has run
def toWriter (s : State) (entered : List HXMessagePackage) : Writer.State HXMessagePackage :=
  ⟨s.session.writeMsgs, s.outstanding, [], entered, s.handed, s.failed⟩

/-- What has been posted enters the queue in the order of the calls. -/
structure Inv (s : State) (entered : List HXMessagePackage) : Prop where
  ordered : (toWriter s entered).Ordered
  accepted_eq : s.accepted = entered ++ s.posted

section Steps
variable {s s' : State} {entered : List HXMessagePackage} {e : Event} {i : Nat}

theorem Inv.doWrite {msg : HXMessagePackage} {posted : List HXMessagePackage} (h : Inv s entered)
    (hposted : s.posted = msg :: posted) (hstep : step s .doWrite = some s') :
    toWriter s' (entered ++ [msg]) = (toWriter s entered).accept msg ∧ Inv s' (entered ++ [msg]) := by
  simp only [step, hposted, Option.some.injEq] at hstep
  subst hstep
  have hwriter : toWriter (started { s with session := (s.session.doWrite msg).1, posted }
      (s.session.doWrite msg).2) (entered ++ [msg]) = (toWriter s entered).accept msg := by
    unfold toWriter Writer.State.accept started HXLibClientSession.doWrite
    by_cases hempty : s.session.writeMsgs = [] <;> simp [hempty]
  refine ⟨hwriter, ?_, ?_⟩
  · rw [hwriter]
    exact h.ordered.accept msg
  · show s.accepted = entered ++ [msg] ++ posted
    simp [h.accepted_eq, hposted]

/-- `handle_write` chooses and starts in one go. -/
theorem Inv.completed (h : Inv s entered) (hstep : step s (.completed i) = some s') : Inv s' entered := by
  obtain ⟨front, hi, hs'⟩ := Option.map_eq_some_iff.mp hstep
  obtain ⟨l, r, ho, herase⟩ := split_eraseIdx hi
  have hcomplete := h.ordered.complete ho
  subst hs'
  refine ⟨?_, h.accepted_eq⟩
  unfold toWriter started HXLibClientSession.handleWrite
  unfold toWriter Writer.State.complete at hcomplete
  simp only [List.nil_append, herase, if_true] at hcomplete ⊢
  cases hnext : s.session.writeMsgs.tail.head? with
  | none => simpa [hnext] using hcomplete
  | some next =>
    rw [hnext] at hcomplete
    exact @Writer.State.Ordered.begin _ _ [] [] next hcomplete rfl

theorem Inv.failed (h : Inv s entered) (hstep : step s (.failed i) = some s') : Inv s' entered := by
  obtain ⟨front, hi, hs'⟩ := Option.map_eq_some_iff.mp hstep
  obtain ⟨l, r, ho, herase⟩ := split_eraseIdx hi
  have hfail := h.ordered.fail ho
  subst hs'
  refine ⟨?_, h.accepted_eq⟩
  unfold toWriter started HXLibClientSession.handleWrite
  unfold toWriter Writer.State.fail at hfail
  simpa [herase] using hfail

theorem step_inv (h : Inv s entered) (hstep : step s e = some s') : ∃ entered', Inv s' entered' := by
  cases e with
  | write msg =>
    obtain rfl := Option.some.inj hstep
    refine ⟨entered, h.ordered, ?_⟩
    simp [h.accepted_eq]
  | doWrite =>
    cases hposted : s.posted with
    | nil => simp [step, hposted] at hstep
    | cons msg posted => exact ⟨_, (h.doWrite hposted hstep).2⟩
  | completed i => exact ⟨entered, h.completed hstep⟩
  | failed i => exact ⟨entered, h.failed hstep⟩
  | doClose =>
    obtain rfl := Option.some.inj hstep
    exact ⟨entered, h.ordered, h.accepted_eq⟩

theorem step_failed (h : Inv s entered) (hfailed : s.failed = true) (hstep : step s e = some s') :
    s'.failed = true ∧ s'.handed = s.handed := by
  have hnone : s.outstanding = [] := (h.ordered.stopped hfailed).1
  cases e with
  | write msg =>
    obtain rfl := Option.some.inj hstep
    exact ⟨hfailed, rfl⟩
  | doWrite =>
    cases hposted : s.posted with
    | nil => simp [step, hposted] at hstep
    | cons msg posted =>
      have hwriter := (h.doWrite hposted hstep).1
      have hkept := h.ordered.step_failed hfailed (.accept _ msg)
      rw [← hwriter] at hkept
      exact hkept
  | completed i => simp [step, hnone] at hstep
  | failed i => simp [step, hnone] at hstep
  | doClose =>
    obtain rfl := Option.some.inj hstep
    exact ⟨hfailed, rfl⟩

end Steps

section Runs
variable {s s' : State} {es : List Event} {entered : List HXMessagePackage}

theorem run_inv {session : HXLibClientSession} (hempty : session.writeMsgs = [])
    (hrun : run step (start session) es = some s) : ∃ entered, Inv s entered := by
  apply @run_invariant _ _ step (fun s => ∃ entered, Inv s entered) _ _ _ _ hrun
  · refine ⟨[], ?_, rfl⟩
    unfold start toWriter
    rw [hempty]
    exact Writer.State.ordered_start
  · rintro s e s' ⟨entered, h⟩ hstep
    exact step_inv h hstep

theorem run_failed (h : Inv s entered) (hfailed : s.failed = true) (hrun : run step s es = some s') :
    s'.handed = s.handed := by
  induction es generalizing s entered with
  | nil =>
    obtain rfl := Option.some.inj hrun
    rfl
  | cons e es ih =>
    obtain ⟨t, ht, hrun⟩ := run_cons.mp hrun
    obtain ⟨hfailed', hhanded⟩ := step_failed h hfailed ht
    obtain ⟨entered', h'⟩ := step_inv h ht
    exact (ih h' hfailed' hrun).trans hhanded

end Runs
end WriteQueue.Client

namespace WriteQueue

/-- At most one write is under way or about to start, and one is exactly when
there is something to write. -/
def OneWriter (outstanding imminent queue : List HXMessagePackage) : Prop :=
  (outstanding ++ imminent).length ≤ 1 ∧ (outstanding ++ imminent ≠ [] ↔ queue ≠ [])

theorem oneWriter {w : Writer.State HXMessagePackage} (h : w.Ordered) (hrunning : w.failed = false) :
    OneWriter w.outstanding w.imminent w.queue := ⟨h.length_le_one hrunning, h.nonempty_iff hrunning⟩

/-- The packages handed to `async_write` are the first of those accepted, in
order, at the server and at the client; after an error no write is started. -/
theorem write_discipline :
    (∀ session es s, session.writeMsgs = [] → run Server.step (Server.start session) es = some s →
      (s.failed = false → OneWriter s.outstanding s.imminent s.session.writeMsgs) ∧
      (∃ rest, s.accepted = s.handed ++ rest) ∧
      (s.failed = true → ∀ fs s', run Server.step s fs = some s' → s'.handed = s.handed)) ∧
    (∀ session es s, session.writeMsgs = [] → run Client.step (Client.start session) es = some s →
      (s.failed = false → OneWriter s.outstanding [] s.session.writeMsgs) ∧
      (∃ rest, s.accepted = s.handed ++ rest) ∧
      (s.failed = true → ∀ fs s', run Client.step s fs = some s' → s'.handed = s.handed)) := by
  constructor
  · intro session es s hempty hrun
    have h := Server.run_ordered hempty hrun
    refine ⟨?_, h.handed_accepted, ?_⟩
    · intro hrunning
      exact oneWriter h hrunning
    · intro hfailed fs s' hrun'
      exact Server.run_failed h hfailed hrun'
  · intro session es s hempty hrun
    obtain ⟨entered, h⟩ := Client.run_inv hempty hrun
    refine ⟨?_, ?_, ?_⟩
    · intro hrunning
      exact oneWriter h.ordered hrunning
    · obtain ⟨rest, hrest⟩ := h.ordered.handed_accepted
      refine ⟨rest ++ s.posted, ?_⟩
      rw [h.accepted_eq, ← List.append_assoc]
      exact congrArg (· ++ s.posted) hrest
    · intro hfailed fs s' hrun'
      exact Client.run_failed h hfailed hrun'

def ping : HXMessagePackage := HXMessagePackage.filled LinkID.zero 1000 0 [] (Nat.zero_le _)

def zeroedAccept : HXLibAccept :=
  HXLibAccept.new (HXMessagePackage.filled LinkID.zero 0 0 [] (Nat.zero_le _)) ⟨0, 0, 0, 0, 0, 0, 0⟩

def zeroedSession : HXLibClientSession :=
  HXLibClientSession.new (HXMessagePackage.filled LinkID.zero 0 0 [] (Nat.zero_le _))
    ⟨0, 0, 0, 0, 0, 0, 0⟩

-- a call between the locked part of `handle_write` and the write it starts; two posts at once
theorem write_discipline_gap : ∀ m n : HXMessagePackage,
    (∃ s, run Server.step (Server.start zeroedAccept)
        [.send m, .send n, .completed 0, .send m, .begin 0] = some s ∧
      OneWriter s.outstanding s.imminent s.session.writeMsgs) ∧
    (∃ s, run Client.step (Client.start zeroedSession)
        [.write m, .write n, .doWrite, .doWrite, .completed 0] = some s ∧
      OneWriter s.outstanding [] s.session.writeMsgs) := by
  intro m n
  have hserver : ∃ s, run Server.step (Server.start zeroedAccept)
      [.send m, .send n, .completed 0, .send m, .begin 0] = some s ∧ s.failed = false := ⟨_, rfl, rfl⟩
  have hclient : ∃ s, run Client.step (Client.start zeroedSession)
      [.write m, .write n, .doWrite, .doWrite, .completed 0] = some s ∧ s.failed = false := ⟨_, rfl, rfl⟩
  obtain ⟨s, hs, hrunning⟩ := hserver
  obtain ⟨t, ht, hrunning'⟩ := hclient
  refine ⟨⟨s, hs, ?_⟩, ⟨t, ht, ?_⟩⟩
  · exact (write_discipline.1 zeroedAccept _ s rfl hs).1 hrunning
  · exact (write_discipline.2 zeroedSession _ t rfl ht).1 hrunning'

end WriteQueue
end HXService
