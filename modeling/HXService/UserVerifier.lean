import HXService.QueueSteps
import HXService.Protocol

/-! The user verifier (`UserVerifier`): one thread takes messages from a queue and puts
answers into another, a second thread sends these. A step of a thread is a step of its
call on a queue, or the send. -/

namespace HXService.UserVerifier
open Bytes Runs MsgQueue

/-! ## Answers -/

def idUserVerify : UInt16 := 1004
def s2cRspIdVerify : UInt16 := 113

def linkBytes (l : LinkID) : List UInt8 := leBytes 2 l.sid.toNat ++ leBytes 2 l.sindex.toNat

def linkOfBytes (bs : List UInt8) : LinkID :=
  ⟨UInt16.ofNat (ofLE (bs.take 2)), UInt16.ofNat (ofLE ((bs.drop 2).take 2))⟩

theorem fits_userID (userID : Int32) : (int32Bytes userID).length ≤ maxBodyLength := by
  unfold int32Bytes
  rw [length_leBytes]
  decide

def verifyMsgPackage (userID : Int32) (usrLinkID : LinkID) : HXMessagePackage :=
  HXMessagePackage.filled usrLinkID idUserVerify s2cRspIdVerify (int32Bytes userID) (fits_userID userID)

-- `length() + 4` bytes of a package: its link, and the header and body
def image (pack : HXMessagePackage) : List UInt8 := linkBytes pack.mLinkid ++ pack.frame

section Answer
variable {userID : Int32} {linkID usrLinkID : LinkID}

theorem image_verifyMsgPackage : image (verifyMsgPackage userID usrLinkID) =
    linkBytes usrLinkID ++ (Header.bytes ⟨idUserVerify, s2cRspIdVerify, 4⟩ ++ int32Bytes userID) := by
  have hbody : (verifyMsgPackage userID usrLinkID).data.load (verifyMsgPackage userID usrLinkID).bodyLength =
      int32Bytes userID := by
    rw [← HXMessagePackage.bodyBytes_of_none rfl]
    exact HXMessagePackage.bodyBytes_filled ..
  unfold image HXMessagePackage.frame
  rw [hbody]
  show _ ++ (Header.bytes ⟨_, _, Int32.ofNat (int32Bytes userID).length⟩ ++ _) = _
  unfold int32Bytes
  rw [length_leBytes]
  rfl

theorem length_image : (image (verifyMsgPackage userID usrLinkID)).length = 16 := by
  rw [image_verifyMsgPackage]
  simp [linkBytes, int32Bytes, headerLength]

theorem fits_image (userID : Int32) (usrLinkID : LinkID) :
    (image (verifyMsgPackage userID usrLinkID)).length ≤ maxBodyLength := by
  rw [length_image]
  decide

end Answer

/-- What `VerifyUserID` puts into the queue. -/
def verifyUserID (userID : Int32) (linkID usrLinkID : LinkID) : HXMessagePackage :=
  HXMessagePackage.filled linkID idUserVerify s2cRspIdVerify
    (image (verifyMsgPackage userID usrLinkID)) (fits_image userID usrLinkID)

-- `messagepack.body()` read as a package; the `body()` of one that is not const is in `data_`
def usrLnkID (messagepack : HXMessagePackage) : LinkID := linkOfBytes messagepack.data.bytes

def userID (messagepack : HXMessagePackage) : Int32 := int32OfBytes (messagepack.data.bytes.drop 12)

/-- What `HandleQueueInMsg` answers, if it does. -/
def answer (messagepack : HXMessagePackage) : Option HXMessagePackage :=
  if messagepack.header.id = idUserVerify then
    some (verifyUserID (userID messagepack) messagepack.mLinkid (usrLnkID messagepack))
  else none

section Nested
variable {user : Int32} {linkID usrLinkID : LinkID} {rest : List UInt8}

theorem linkOfBytes_linkBytes : linkOfBytes (linkBytes usrLinkID ++ rest) = usrLinkID := by
  obtain ⟨sid, sindex⟩ := usrLinkID
  have hsid : (leBytes 2 sid.toNat).length = 2 := length_leBytes 2 _
  have hsindex : (leBytes 2 sindex.toNat).length = 2 := length_leBytes 2 _
  have hlt := sid.toNat_lt
  have hlt' := sindex.toNat_lt
  unfold linkOfBytes linkBytes
  rw [List.append_assoc, List.take_left' hsid, List.drop_left' hsid, List.take_left' hsindex, ofLE_leBytes,
    ofLE_leBytes, Nat.mod_eq_of_lt (by omega), Nat.mod_eq_of_lt (by omega), UInt16.ofNat_toNat,
    UInt16.ofNat_toNat]

theorem nested_verifyUserID : usrLnkID (verifyUserID user linkID usrLinkID) = usrLinkID ∧
    userID (verifyUserID user linkID usrLinkID) = user := by
  have hbytes : (verifyUserID user linkID usrLinkID).data.bytes = linkBytes usrLinkID ++
      (Header.bytes ⟨idUserVerify, s2cRspIdVerify, 4⟩ ++ (int32Bytes user ++
        (List.replicate maxBodyLength 0).drop (0 + (image (verifyMsgPackage user usrLinkID)).length))) := by
    show patch (List.replicate maxBodyLength 0) 0 (image (verifyMsgPackage user usrLinkID)) = _
    unfold patch
    rw [List.take_zero, List.nil_append]
    nth_rewrite 1 [image_verifyMsgPackage]
    rw [List.append_assoc, List.append_assoc]
  have hlink : (linkBytes usrLinkID).length = 4 := by
    simp [linkBytes]
  have hheader : (Header.bytes ⟨idUserVerify, s2cRspIdVerify, 4⟩).length = 8 := Header.length_bytes _
  unfold usrLnkID userID
  rw [hbytes]
  refine ⟨linkOfBytes_linkBytes, ?_⟩
  rw [← List.append_assoc, List.drop_left' (by rw [List.length_append, hlink, hheader])]
  exact int32OfBytes_int32Bytes ..

end Nested

/-! ## The threads -/

inductive Thread
  | caller (n : Nat)
  | handleIn
  | handleOut
  deriving DecidableEq

abbrev Queue := MsgQueue.State Thread HXMessagePackage

/-- `answering` is what one thread has in hand to put, `sending` what the other has to
send, `sent` all that has been sent. -/
structure State where
  queueIn : Queue
  queueOut : Queue
  answering : Option HXMessagePackage
  sending : Option HXMessagePackage
  sent : List HXMessagePackage

def start : State := ⟨MsgQueue.start verifierSize, MsgQueue.start verifierSize, none, none, []⟩

inductive Event
  | queueIn (e : MsgQueue.Event Thread HXMessagePackage)
  | queueOut (e : MsgQueue.Event Thread HXMessagePackage)
  | send

def Thread.isCaller : Thread → Bool
  | .caller _ => true
  | .handleIn => false
  | .handleOut => false

def State.calls (s : State) : Event → Bool
  | .queueIn (.put t _ _) => t.isCaller
  | .queueIn (.get t _) => t = .handleIn ∧ s.answering = none
  | .queueOut (.put t x _) => t = .handleIn ∧ s.answering = some x
  | .queueOut (.get t _) => t = .handleOut ∧ s.sending = none
  | _ => true

def newest (before after : List HXMessagePackage) : Option HXMessagePackage :=
  (after.drop before.length).head?

def State.afterIn (s : State) (queueIn : Queue) : State :=
  { s with
    queueIn
    answering := (newest s.queueIn.returned queueIn.returned).elim s.answering answer }

def State.afterOut (s : State) (queueOut : Queue) : State :=
  { s with
    queueOut
    answering := (newest s.queueOut.inserted queueOut.inserted).elim s.answering fun _ => none
    sending := (newest s.queueOut.returned queueOut.returned).elim s.sending some }

def step (s : State) (e : Event) : Option State :=
  if s.calls e then
    match e with
    | .queueIn e => (MsgQueue.step s.queueIn e).map s.afterIn
    | .queueOut e => (MsgQueue.step s.queueOut e).map s.afterOut
    | .send => s.sending.map fun msg => { s with sending := none, sent := s.sent ++ [msg] }
  else none

section Steps
variable {s s' : State} {e : MsgQueue.Event Thread HXMessagePackage} {q : Queue} {x : HXMessagePackage}
variable {t : Thread} {pick : Option Thread} {xs : List HXMessagePackage}

theorem newest_self : newest xs xs = none := by
  unfold newest
  rw [List.drop_length]
  rfl

theorem newest_append : newest xs (xs ++ [x]) = some x := by
  unfold newest
  rw [List.drop_left]
  rfl

theorem afterIn_of_returned (h : q.returned = s.queueIn.returned) : s.afterIn q = { s with queueIn := q } := by
  unfold State.afterIn
  rw [h, newest_self]
  rfl

theorem afterIn_of_taken (h : Taken s.queueIn q x) :
    s.afterIn q = { s with queueIn := q, answering := answer x } := by
  unfold State.afterIn
  rw [h.returned, newest_append]
  rfl

theorem afterOut_of_still (h : Still s.queueOut q) : s.afterOut q = { s with queueOut := q } := by
  unfold State.afterOut
  rw [h.inserted, h.returned, newest_self, newest_self]
  rfl

theorem afterOut_of_appended (h : Appended s.queueOut q x) :
    s.afterOut q = { s with queueOut := q, answering := none } := by
  unfold State.afterOut
  rw [h.inserted, h.returned, newest_append, newest_self]
  rfl

theorem afterOut_of_taken (h : Taken s.queueOut q x) :
    s.afterOut q = { s with queueOut := q, sending := some x } := by
  unfold State.afterOut
  rw [h.inserted, h.returned, newest_append, newest_self]
  rfl

end Steps

/-! ## The invariant

What the threads have in hand is what they have taken and not passed on. Only the thread
that answers waits at the end of `queueIn` and at the start of `queueOut`, only the one
that sends at the end of `queueOut`, and with empty hands but for the answer that
`put` is to append. -/

structure Inv (s : State) : Prop where
  queueIn : MsgQueue.Inv verifierSize s.queueIn
  queueOut : MsgQueue.Inv verifierSize s.queueOut
  answers : s.queueOut.inserted ++ s.answering.toList = s.queueIn.returned.filterMap answer
  sends : s.sent ++ s.sending.toList = s.queueOut.returned
  callers : ∀ t, s.queueIn.notFull.Inside t → t.isCaller = true
  taker : s.queueIn.notEmpty.Only .handleIn
  taking : s.queueIn.notEmpty.Inside .handleIn → s.answering = none
  putter : s.queueOut.notFull.Only .handleIn
  putting : s.queueOut.notFull.Inside .handleIn →
    s.answering ≠ none ∧ s.queueOut.argument .handleIn = s.answering
  sender : s.queueOut.notEmpty.Only .handleOut
  awaiting : s.queueOut.notEmpty.Inside .handleOut → s.sending = none

theorem inv_start : Inv start where
  queueIn := MsgQueue.inv_start
  queueOut := MsgQueue.inv_start
  answers := rfl
  sends := rfl
  callers := fun _ hin => absurd hin Condition.not_inside_idle
  taker := Condition.only_idle
  taking := fun _ => rfl
  putter := Condition.only_idle
  putting := fun hin => absurd hin Condition.not_inside_idle
  sender := Condition.only_idle
  awaiting := fun _ => rfl

section Preservation
variable {s s' : State} {e : MsgQueue.Event Thread HXMessagePackage} {q : Queue} {x : HXMessagePackage}

theorem Inv.answering_eq_none (h : Inv s) (hcalls : s.calls (.queueIn e)) (hgets : Gets e)
    (hstep : MsgQueue.step s.queueIn e = some q) : s.answering = none := by
  cases e with
  | get t pick => exact (of_decide_eq_true hcalls).2
  | getAgain t pick =>
    simp only [MsgQueue.step] at hstep
    split_ifs at hstep with hreleased
    obtain rfl := h.taker.eq_of_inside (Or.inr hreleased)
    exact h.taking (Or.inr hreleased)
  | put t x pick => cases hgets
  | putAgain t pick => cases hgets
  | wakeProducer t => cases hgets
  | wakeConsumer t => cases hgets

theorem Inv.sending_eq_none (h : Inv s) (hcalls : s.calls (.queueOut e)) (hgets : Gets e)
    (hstep : MsgQueue.step s.queueOut e = some q) : s.sending = none := by
  cases e with
  | get t pick => exact (of_decide_eq_true hcalls).2
  | getAgain t pick =>
    simp only [MsgQueue.step] at hstep
    split_ifs at hstep with hreleased
    obtain rfl := h.sender.eq_of_inside (Or.inr hreleased)
    exact h.awaiting (Or.inr hreleased)
  | put t x pick => cases hgets
  | putAgain t pick => cases hgets
  | wakeProducer t => cases hgets
  | wakeConsumer t => cases hgets

/-- What gets into `queueOut` is the answer in hand. -/
theorem Inv.answering_eq_some (h : Inv s) (hcalls : s.calls (.queueOut e))
    (hputs : Puts s.queueOut e = some x) (hstep : MsgQueue.step s.queueOut e = some q) :
    s.answering = some x := by
  cases e with
  | put t y pick =>
    rw [← Option.some.inj hputs]
    exact (of_decide_eq_true hcalls).2
  | putAgain t pick =>
    simp only [MsgQueue.step] at hstep
    split_ifs at hstep with hreleased
    obtain rfl := h.putter.eq_of_inside (Or.inr hreleased)
    exact (h.putting (Or.inr hreleased)).2.symm.trans hputs
  | get t pick => cases hputs
  | getAgain t pick => cases hputs
  | wakeProducer t => cases hputs
  | wakeConsumer t => cases hputs

theorem calls_queueIn (hcalls : s.calls (.queueIn e)) :
    (∀ t x pick, e = .put t x pick → t.isCaller = true) ∧
      ∀ t pick, e = .get t pick → t = .handleIn ∧ s.answering = none := by
  constructor
  · rintro t x pick rfl
    exact hcalls
  · rintro t pick rfl
    exact of_decide_eq_true hcalls

theorem calls_queueOut (hcalls : s.calls (.queueOut e)) :
    (∀ t x pick, e = .put t x pick → t = .handleIn ∧ s.answering = some x) ∧
      ∀ t pick, e = .get t pick → t = .handleOut ∧ s.sending = none := by
  constructor
  · rintro t x pick rfl
    exact of_decide_eq_true hcalls
  · rintro t pick rfl
    exact of_decide_eq_true hcalls

theorem Inv.afterIn (h : Inv s) (hcalls : s.calls (.queueIn e))
    (hstep : MsgQueue.step s.queueIn e = some q) : Inv (s.afterIn q) := by
  obtain ⟨hput, hget⟩ := calls_queueIn hcalls
  obtain ⟨hnotFull, hnotEmpty⟩ := step_waits hstep
  have hqueueIn := MsgQueue.step_inv _ _ _ h.queueIn hstep
  have hcallers : ∀ t, q.notFull.Inside t → t.isCaller = true := by
    intro t hin
    rcases hnotFull.inside hin with hin | ⟨x, pick, he⟩
    · exact h.callers t hin
    · exact hput t x pick he
  have htaker : q.notEmpty.Only .handleIn := by
    refine hnotEmpty.only ?_ h.taker
    rintro t ⟨pick, he⟩
    exact (hget t pick he).1
  have htaking : q.notEmpty.Inside .handleIn → s.answering = none := by
    intro hin
    rcases hnotEmpty.inside hin with hin | ⟨pick, he⟩
    · exact h.taking hin
    · exact (hget _ pick he).2
  have hsame (hreturned : q.returned = s.queueIn.returned) : Inv (s.afterIn q) := by
    rw [afterIn_of_returned hreturned]
    exact { h with
      queueIn := hqueueIn
      answers := h.answers.trans (congrArg (List.filterMap answer) hreturned.symm)
      callers := hcallers
      taker := htaker
      taking := htaking }
  rcases step_items hstep with hstill | ⟨x, -, happended⟩ | ⟨hgets, x, htaken⟩
  · exact hsame hstill.returned
  · exact hsame happended.returned
  · have hidle := h.answering_eq_none hcalls hgets hstep
    have hnotPutting : ¬s.queueOut.notFull.Inside .handleIn := fun hin => (h.putting hin).1 hidle
    rw [afterIn_of_taken htaken]
    refine { h with
      queueIn := hqueueIn
      answers := ?_
      callers := hcallers
      taker := htaker
      taking := fun hin => absurd hin (taker_out h.taker (fun t pick he => (hget t pick he).1) hstep htaken)
      putting := fun hin => absurd hin hnotPutting }
    have hanswers := h.answers
    rw [hidle, Option.toList_none, List.append_nil] at hanswers
    show s.queueOut.inserted ++ (answer x).toList = q.returned.filterMap answer
    rw [htaken.returned, List.filterMap_append, hanswers]
    cases hanswer : answer x <;> simp [hanswer]

theorem Inv.afterOut (h : Inv s) (hcalls : s.calls (.queueOut e))
    (hstep : MsgQueue.step s.queueOut e = some q) : Inv (s.afterOut q) := by
  obtain ⟨hput, hget⟩ := calls_queueOut hcalls
  obtain ⟨hnotFull, hnotEmpty⟩ := step_waits hstep
  obtain ⟨hargument, hargument'⟩ := step_argument hstep
  have hqueueOut := MsgQueue.step_inv _ _ _ h.queueOut hstep
  have hputter : q.notFull.Only .handleIn := by
    refine hnotFull.only ?_ h.putter
    rintro t ⟨x, pick, he⟩
    exact (hput t x pick he).1
  have hputting : q.notFull.Inside .handleIn →
      s.answering ≠ none ∧ q.argument .handleIn = s.answering := by
    intro hin
    rcases hargument .handleIn with hsame | ⟨x, pick, he⟩
    · rcases hnotFull.inside hin with hin | ⟨x, pick, he⟩
      · rw [hsame]
        exact h.putting hin
      · rw [(hput _ x pick he).2, hargument' _ x pick he]
        exact ⟨nofun, rfl⟩
    · rw [(hput _ x pick he).2, hargument' _ x pick he]
      exact ⟨nofun, rfl⟩
  have hsender : q.notEmpty.Only .handleOut := by
    refine hnotEmpty.only ?_ h.sender
    rintro t ⟨pick, he⟩
    exact (hget t pick he).1
  have hawaiting : q.notEmpty.Inside .handleOut → s.sending = none := by
    intro hin
    rcases hnotEmpty.inside hin with hin | ⟨pick, he⟩
    · exact h.awaiting hin
    · exact (hget _ pick he).2
  rcases step_items hstep with hstill | ⟨x, hputs, happended⟩ | ⟨hgets, x, htaken⟩
  · rw [afterOut_of_still hstill]
    exact { h with
      queueOut := hqueueOut
      answers := (congrArg (· ++ _) hstill.inserted).trans h.answers
      sends := h.sends.trans hstill.returned.symm
      putter := hputter
      putting := hputting
      sender := hsender
      awaiting := hawaiting }
  · have hanswering := h.answering_eq_some hcalls hputs hstep
    have hout := putter_out h.putter (fun t x pick he => (hput t x pick he).1) hstep happended
    rw [afterOut_of_appended happended]
    refine { h with
      queueOut := hqueueOut
      answers := ?_
      sends := h.sends.trans happended.returned.symm
      taking := fun _ => rfl
      putter := hputter
      putting := fun hin => absurd hin hout
      sender := hsender
      awaiting := hawaiting }
    show q.inserted ++ [] = _
    rw [happended.inserted, List.append_nil, ← h.answers, hanswering]
    rfl
  · have hidle := h.sending_eq_none hcalls hgets hstep
    have hout := taker_out h.sender (fun t pick he => (hget t pick he).1) hstep htaken
    rw [afterOut_of_taken htaken]
    refine { h with
      queueOut := hqueueOut
      answers := (congrArg (· ++ _) htaken.inserted).trans h.answers
      sends := ?_
      putter := hputter
      putting := hputting
      sender := hsender
      awaiting := fun hin => absurd hin hout }
    have hsends := h.sends
    rw [hidle, Option.toList_none, List.append_nil] at hsends
    show s.sent ++ [x] = q.returned
    rw [htaken.returned, hsends]

theorem step_inv (s : State) (e : Event) (s' : State) (h : Inv s) (hstep : step s e = some s') : Inv s' := by
  unfold step at hstep
  split_ifs at hstep with hcalls
  cases e with
  | queueIn e =>
    obtain ⟨q, hq, rfl⟩ := Option.map_eq_some_iff.mp hstep
    exact h.afterIn hcalls hq
  | queueOut e =>
    obtain ⟨q, hq, rfl⟩ := Option.map_eq_some_iff.mp hstep
    exact h.afterOut hcalls hq
  | send =>
    obtain ⟨msg, hmsg, rfl⟩ := Option.map_eq_some_iff.mp hstep
    refine { h with
      sends := ?_
      awaiting := fun _ => rfl }
    show s.sent ++ [msg] ++ [] = _
    rw [List.append_nil, ← h.sends, hmsg]
    rfl

end Preservation

/-! ## Every interleaving -/

def State.pending (s : State) : List HXMessagePackage :=
  s.sending.toList ++ (s.queueOut.queue.mQueue ++
    (s.answering.toList ++ s.queueIn.queue.mQueue.filterMap answer))

/-- The answers that have been sent, and those on their way, are those to the messages
that have come, in their order. -/
structure Answered (s : State) : Prop where
  queueIn : Sound verifierSize s.queueIn
  queueOut : Sound verifierSize s.queueOut
  answers : s.sent ++ s.pending = s.queueIn.inserted.filterMap answer

theorem one_le_verifierSize : 1 ≤ verifierSize.toInt := by decide

theorem Inv.answered {s : State} (h : Inv s) : Answered s := by
  refine ⟨h.queueIn.sound one_le_verifierSize, h.queueOut.sound one_le_verifierSize, ?_⟩
  have hout : s.queueOut.returned ++ s.queueOut.queue.mQueue = s.queueOut.inserted := h.queueOut.fifo.symm
  have hin : s.queueIn.inserted = s.queueIn.returned ++ s.queueIn.queue.mQueue := h.queueIn.fifo
  calc s.sent ++ s.pending
      = (s.sent ++ s.sending.toList) ++ (s.queueOut.queue.mQueue ++
          (s.answering.toList ++ s.queueIn.queue.mQueue.filterMap answer)) := by
        rw [State.pending, List.append_assoc]
    _ = s.queueOut.inserted ++ (s.answering.toList ++ s.queueIn.queue.mQueue.filterMap answer) := by
        rw [h.sends, ← List.append_assoc, hout]
    _ = s.queueIn.returned.filterMap answer ++ s.queueIn.queue.mQueue.filterMap answer := by
        rw [← List.append_assoc, h.answers]
    _ = s.queueIn.inserted.filterMap answer := by
        rw [hin, List.filterMap_append]

theorem always_answered (es : List Event) : Always step Answered start es :=
  always_of_invariant (fun _ h => h.answered) step_inv inv_start

/-! The threads cannot lock each other out: whatever has been asked, they can answer. -/

-- each answer has four steps to go: out of `queueIn`, into `queueOut`, out of it, and sent
def remaining (s : State) : Nat :=
  4 * s.queueIn.queue.mQueue.length + 3 * s.answering.toList.length +
    2 * s.queueOut.queue.mQueue.length + s.sending.toList.length

section Progress
variable {s : State}

theorem Inv.step_answering (h : Inv s) {x : HXMessagePackage} (hanswering : s.answering = some x)
    (hempty : s.queueOut.queue.mQueue = []) : ∃ e s', step s e = some s' ∧
      s'.queueIn = s.queueIn ∧ remaining s' < remaining s := by
  have hroom : ¬s.queueOut.queue.IsFull := by
    show ¬s.queueOut.queue.mQueue.length = sizeT s.queueOut.queue.mMaxSize
    rw [hempty, h.queueOut.size]
    decide
  have hnot : ¬s.queueOut.notEmpty.Inside .handleIn := fun hin => nomatch h.sender.eq_of_inside hin
  obtain ⟨e, q, ⟨pick, he⟩, hstep, happended⟩ := exists_put h.queueOut one_le_verifierSize h.putter hnot
    hroom fun hin => (h.putting hin).2.trans hanswering
  have hcalls : s.calls (.queueOut e) = true := by
    rcases he with rfl | rfl
    · exact decide_eq_true ⟨rfl, hanswering⟩
    · rfl
  refine ⟨.queueOut e, s.afterOut q, ?_, ?_, ?_⟩
  · unfold step
    rw [if_pos hcalls]
    exact congrArg (Option.map s.afterOut) hstep
  · rfl
  · rw [afterOut_of_appended happended]
    unfold remaining
    dsimp only
    rw [happended.queue, hanswering, hempty]
    simp

theorem Inv.step_awaiting (h : Inv s) (hsending : s.sending = none)
    (hsome : s.queueOut.queue.mQueue ≠ []) : ∃ e s', step s e = some s' ∧
      s'.queueIn = s.queueIn ∧ remaining s' < remaining s := by
  have hnot : ¬s.queueOut.notFull.Inside .handleOut := fun hin => nomatch h.putter.eq_of_inside hin
  obtain ⟨e, q, x, ⟨pick, he⟩, hstep, htaken⟩ := exists_get h.queueOut one_le_verifierSize h.sender hnot hsome
  have hcalls : s.calls (.queueOut e) = true := by
    rcases he with rfl | rfl
    · exact decide_eq_true ⟨rfl, hsending⟩
    · rfl
  refine ⟨.queueOut e, s.afterOut q, ?_, ?_, ?_⟩
  · unfold step
    rw [if_pos hcalls]
    exact congrArg (Option.map s.afterOut) hstep
  · rfl
  · rw [afterOut_of_taken htaken]
    unfold remaining
    dsimp only
    rw [htaken.queue, hsending]
    simp only [Option.toList_some, Option.toList_none, List.length_cons, List.length_nil]
    omega

theorem Inv.step_taking (h : Inv s) (hanswering : s.answering = none)
    (hsome : s.queueIn.queue.mQueue ≠ []) : ∃ e s', step s e = some s' ∧
      s'.queueIn.inserted = s.queueIn.inserted ∧ remaining s' < remaining s := by
  have hnot : ¬s.queueIn.notFull.Inside .handleIn := fun hin => nomatch h.callers _ hin
  obtain ⟨e, q, x, ⟨pick, he⟩, hstep, htaken⟩ := exists_get h.queueIn one_le_verifierSize h.taker hnot hsome
  have hcalls : s.calls (.queueIn e) = true := by
    rcases he with rfl | rfl
    · exact decide_eq_true ⟨rfl, hanswering⟩
    · rfl
  refine ⟨.queueIn e, s.afterIn q, ?_, ?_, ?_⟩
  · unfold step
    rw [if_pos hcalls]
    exact congrArg (Option.map s.afterIn) hstep
  · exact htaken.inserted
  · have hone : (answer x).toList.length ≤ 1 := Option.length_toList_le
    rw [afterIn_of_taken htaken]
    unfold remaining
    dsimp only
    rw [htaken.queue, hanswering]
    simp only [Option.toList_none, List.length_cons, List.length_nil]
    omega

/-- One of the threads can go on while an answer is pending. -/
theorem Inv.progress (h : Inv s) (hpending : remaining s ≠ 0) : ∃ e s', step s e = some s' ∧
    s'.queueIn.inserted = s.queueIn.inserted ∧ remaining s' < remaining s := by
  cases hsending : s.sending with
  | some msg =>
    refine ⟨.send, { s with sending := none, sent := s.sent ++ [msg] }, ?_, rfl, ?_⟩
    · have hcalls : s.calls .send = true := rfl
      unfold step
      rw [if_pos hcalls]
      dsimp only
      rw [hsending]
      rfl
    · unfold remaining
      rw [hsending]
      exact Nat.lt_succ_self _
  | none =>
    by_cases hqueueOut : s.queueOut.queue.mQueue = []
    · cases hanswering : s.answering with
      | some x =>
        obtain ⟨e, s', hstep, hqueueIn, hless⟩ := h.step_answering hanswering hqueueOut
        exact ⟨e, s', hstep, congrArg _ hqueueIn, hless⟩
      | none =>
        refine h.step_taking hanswering fun hqueueIn => hpending ?_
        unfold remaining
        rw [hqueueIn, hanswering, hqueueOut, hsending]
        rfl
    · obtain ⟨e, s', hstep, hqueueIn, hless⟩ := h.step_awaiting hsending hqueueOut
      exact ⟨e, s', hstep, congrArg _ hqueueIn, hless⟩

theorem Inv.sent_of_remaining (h : Inv s) (hdone : remaining s = 0) :
    s.sent = s.queueIn.inserted.filterMap answer := by
  unfold remaining at hdone
  have hqueueIn : s.queueIn.queue.mQueue = [] := List.length_eq_zero_iff.mp (by omega)
  have hanswering : s.answering.toList = [] := List.length_eq_zero_iff.mp (by omega)
  have hqueueOut : s.queueOut.queue.mQueue = [] := List.length_eq_zero_iff.mp (by omega)
  have hsending : s.sending.toList = [] := List.length_eq_zero_iff.mp (by omega)
  rw [← h.answered.answers, State.pending, hsending, hqueueOut, hanswering, hqueueIn]
  exact (List.append_nil _).symm

end Progress

/-- Steps lead on from here that let nothing more in, and after them all is answered. -/
def Answerable (s : State) : Prop := ∃ es s', run step s es = some s' ∧
  s'.queueIn.inserted = s.queueIn.inserted ∧ s'.sent = s.queueIn.inserted.filterMap answer

theorem Inv.answerable {s : State} (h : Inv s) : Answerable s := by
  have hprogress : ∀ t, (Inv t ∧ t.queueIn.inserted = s.queueIn.inserted) → ¬remaining t = 0 →
      ∃ es t', run step t es = some t' ∧ (Inv t' ∧ t'.queueIn.inserted = s.queueIn.inserted) ∧
        remaining t' < remaining t := by
    rintro t ⟨hinv, hsame⟩ hpending
    obtain ⟨e, t', hstep, hinserted, hless⟩ := hinv.progress hpending
    have hinv' := step_inv t e t' hinv hstep
    exact ⟨[e], t', run_cons.mpr ⟨t', hstep, rfl⟩, ⟨hinv', hinserted.trans hsame⟩, hless⟩
  obtain ⟨es, s', hrun, ⟨hinv, hsame⟩, hdone⟩ := exists_run_of_measure remaining hprogress ⟨h, rfl⟩
  refine ⟨es, s', hrun, hsame, ?_⟩
  rw [hinv.sent_of_remaining hdone, hsame]

theorem always_answerable (es : List Event) : Always step Answerable start es :=
  always_of_invariant (fun _ h => h.answerable) step_inv inv_start

end HXService.UserVerifier
