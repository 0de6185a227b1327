import HXService.BigMessage

/-! The double queue between the network thread and the main loop
(`HXMessageQueueAB`). `add(msg)` and `add(msg, &m_bigData)` are `add` and
`addWith`; `swap` returns the half the main loop reads until the next swap. -/

namespace HXService
open Bytes

def queueMax : Nat := 8162

def isBigStream (id : UInt16) : Prop :=
  id = idBigStreamBegin ∨ id = idBigStreamData ∨ id = idBigStreamEnd

instance (id : UInt16) : Decidable (isBigStream id) := inferInstanceAs (Decidable (_ ∨ _))

structure HXMessageQueueAB where
  mQueue : Fin 2 → List HXMessagePackage
  mCurrent : Fin 2

namespace HXMessageQueueAB

def new : HXMessageQueueAB := ⟨fun _ => [], 0⟩

def current (q : HXMessageQueueAB) : List HXMessagePackage := q.mQueue q.mCurrent

def setCurrent (q : HXMessageQueueAB) (half : List HXMessagePackage) : HXMessageQueueAB :=
  { q with mQueue := Function.update q.mQueue q.mCurrent half }

@[simp] theorem current_setCurrent (q : HXMessageQueueAB) (half : List HXMessagePackage) :
    (q.setCurrent half).current = half := Function.update_self ..

-- Add, then RemoveFront when the half has reached `m_queueMax`
def bounded (half : List HXMessagePackage) (msg : HXMessagePackage) : List HXMessagePackage :=
  if queueMax ≤ (half ++ [msg]).length then (half ++ [msg]).tail else half ++ [msg]

def add (q : HXMessageQueueAB) (msg : HXMessagePackage) : HXMessageQueueAB :=
  q.setCurrent (bounded q.current msg)

/-- The entry `add` makes of a completed big message: the last package with the
message's own id, id2 and length, and a copy of the received data. The copy's
bytes behind `originalLength` are indeterminate in the source and zero here. -/
def deliver (bigData : HXBigMessageQueue) (msg : HXMessagePackage) : Checked HXMessagePackage :=
  let temp := { msg with
    header := ⟨bigData.mHeader.id, bigData.mHeader.id2, bigData.mHeader.originalLength.toInt32⟩ }
  if bigData.mRecvData.length = 0 then pure temp
  else match copyInto (List.replicate bigData.mRecvData.length 0) 0 bigData.mRecvData
      bigData.mHeader.originalLength.toNat with
    | some copy => pure { temp with bigDataPointer := some copy }
    | none => throw .outsideArray

def addWith (z : Zlib) (q : HXMessageQueueAB) (msg : HXMessagePackage) (bigData : HXBigMessageQueue) :
    Checked (HXMessageQueueAB × HXBigMessageQueue) :=
  if isBigStream msg.header.id then do
    let received ← bigData.recvPackage z msg
    if received.1 then do
      let temp ← deliver received.2 msg
      pure (q.setCurrent (q.current ++ [temp]), received.2)
    else pure (q, received.2)
  else pure (q.add msg, bigData)

def swap (q : HXMessageQueueAB) : HXMessageQueueAB × List HXMessagePackage :=
  (⟨Function.update q.mQueue (q.mCurrent + 1) [], q.mCurrent + 1⟩, q.current)

def get (q : HXMessageQueueAB) : List HXMessagePackage :=
  if q.mCurrent = 0 then q.mQueue 1 else q.mQueue 0

theorem toInt_toInt32 {n : UInt32} (h : n.toNat < 2 ^ 31) : n.toInt32.toInt = n.toNat := by
  have hn : n.toInt32 = Int32.ofNat n.toNat := by
    rw [← Int32.toInt32_toUInt32 (Int32.ofNat n.toNat), Int32.toUInt32_ofNat', UInt32.ofNat_toNat]
  rw [hn, Int32.toInt_ofNat_of_lt h]

theorem lt_of_toInt_toInt32 {n : UInt32} {k : Nat} (h : n.toInt32.toInt = k) : n.toNat < 2 ^ 31 := by
  by_contra hge
  have hn : n.toInt32 = Int32.ofNat n.toNat := by
    rw [← Int32.toInt32_toUInt32 (Int32.ofNat n.toNat), Int32.toUInt32_ofNat', UInt32.ofNat_toNat]
  have hlt := n.toNat_lt
  have hsize : Int32.size = 4294967296 := rfl
  rw [hn, Int32.toInt_ofNat', hsize, Int.bmod_def] at h
  split at h <;> omega

section Deliver
variable {b : HXBigMessageQueue} {msg e : HXMessagePackage}

theorem deliver_empty (h : b.mRecvData.length = 0) :
    deliver b msg = .ok { msg with
      header := ⟨b.mHeader.id, b.mHeader.id2, b.mHeader.originalLength.toInt32⟩ } := by
  rw [deliver, if_pos h]
  rfl

theorem deliver_fits (h : b.mRecvData.length ≠ 0)
    (hfit : b.mHeader.originalLength.toNat ≤ b.mRecvData.length) :
    deliver b msg = .ok { msg with
      header := ⟨b.mHeader.id, b.mHeader.id2, b.mHeader.originalLength.toInt32⟩
      bigDataPointer := some (patch (List.replicate b.mRecvData.length 0) 0
        (b.mRecvData.take b.mHeader.originalLength.toNat)) } := by
  have hcopy : copyInto (List.replicate b.mRecvData.length 0) 0 b.mRecvData
      b.mHeader.originalLength.toNat = some (patch (List.replicate b.mRecvData.length 0) 0
        (b.mRecvData.take b.mHeader.originalLength.toNat)) :=
    copyInto_eq_some_iff.mpr ⟨hfit, by rw [List.length_replicate]; omega, rfl⟩
  rw [deliver, if_neg h, hcopy]
  rfl

theorem deliver_overruns (h : b.mRecvData.length ≠ 0)
    (hover : b.mRecvData.length < b.mHeader.originalLength.toNat) :
    deliver b msg = .error .outsideArray := by
  have hcopy : copyInto (List.replicate b.mRecvData.length 0) 0 b.mRecvData
      b.mHeader.originalLength.toNat = none := copyInto_eq_none_iff.mpr (Or.inl hover)
  rw [deliver, if_neg h, hcopy]
  rfl

end Deliver

theorem bounded_of_lt {half : List HXMessagePackage} {msg : HXMessagePackage}
    (h : half.length + 1 < queueMax) : bounded half msg = half ++ [msg] := by
  rw [bounded, if_neg]
  simp only [List.length_append, List.length_singleton]
  omega

theorem addWith_plain {z : Zlib} {q : HXMessageQueueAB} {msg : HXMessagePackage}
    {bigData : HXBigMessageQueue} (h : ¬isBigStream msg.header.id) :
    addWith z q msg bigData = .ok (q.add msg, bigData) := by
  rw [addWith, if_neg h]
  rfl

theorem addWith_big {z : Zlib} {q : HXMessageQueueAB} {msg : HXMessagePackage}
    {bigData : HXBigMessageQueue} (h : isBigStream msg.header.id) :
    addWith z q msg bigData = bigData.recvPackage z msg >>= fun received =>
      if received.1 then deliver received.2 msg >>= fun temp =>
        .ok (q.setCurrent (q.current ++ [temp]), received.2)
      else .ok (q, received.2) := by
  rw [addWith, if_pos h]
  rfl

/-- The entry `addWith` makes of a package, if any, and the receiver afterwards. -/
def appended (z : Zlib) (msg : HXMessagePackage) (bigData : HXBigMessageQueue) :
    Checked (Option HXMessagePackage × HXBigMessageQueue) :=
  if isBigStream msg.header.id then bigData.recvPackage z msg >>= fun received =>
    if received.1 then deliver received.2 msg >>= fun temp => .ok (some temp, received.2)
    else .ok (none, received.2)
  else .ok (some msg, bigData)

/-- `RecvPackage` reports the big message complete, and the copy `add` makes of it
stays in the received data. -/
def CompletesBig (z : Zlib) (msg : HXMessagePackage) (bigData : HXBigMessageQueue) : Prop :=
  ∃ b, bigData.recvPackage z msg = .ok (true, b) ∧
    (b.mRecvData.length = 0 ∨ b.mHeader.originalLength.toNat ≤ b.mRecvData.length)

section Completes
variable {z : Zlib} {msg : HXMessagePackage} {bigData : HXBigMessageQueue}

theorem isBigStream_of_recvPackage {b : HXBigMessageQueue}
    (h : bigData.recvPackage z msg = .ok (true, b)) : isBigStream msg.header.id := by
  by_contra hother
  simp only [isBigStream, not_or] at hother
  rw [HXBigMessageQueue.recvPackage_other hother.1 hother.2.1 hother.2.2] at h
  simp at h

/-- What `addWith` appends of a big message, it appends of a completed one. -/
theorem appended_iff (hbig : isBigStream msg.header.id) :
    (∃ entry b, appended z msg bigData = .ok (some entry, b)) ↔ CompletesBig z msg bigData := by
  unfold appended CompletesBig
  rw [if_pos hbig]
  constructor
  · rintro ⟨entry, b, h⟩
    obtain ⟨⟨done, b'⟩, hreceived, h⟩ := bind_eq_ok.mp h
    cases done with
    | false => simp at h
    | true =>
      refine ⟨b', hreceived, ?_⟩
      obtain ⟨temp, htemp, -⟩ := bind_eq_ok.mp h
      by_contra hover
      obtain ⟨hne, hlt⟩ := not_or.mp hover
      rw [deliver_overruns hne (not_le.mp hlt)] at htemp
      simp at htemp
  · rintro ⟨b', hreceived, hfit⟩
    obtain ⟨temp, htemp⟩ : ∃ temp, deliver b' msg = .ok temp := by
      by_cases hne : b'.mRecvData.length = 0
      · exact ⟨_, deliver_empty hne⟩
      · exact ⟨_, deliver_fits hne (hfit.resolve_left hne)⟩
    exact ⟨temp, b', by rw [hreceived, ok_bind, if_pos rfl, htemp, ok_bind]⟩

theorem appended_some_iff : (∃ entry b, appended z msg bigData = .ok (some entry, b)) ↔
    (isBigStream msg.header.id → CompletesBig z msg bigData) := by
  by_cases hbig : isBigStream msg.header.id
  · rw [appended_iff hbig, forall_prop_of_true hbig]
  · refine iff_of_true ⟨msg, bigData, ?_⟩ fun h => absurd h hbig
    rw [appended, if_neg hbig]

end Completes

-- a big message is added without a look at the limit
def push (q : HXMessageQueueAB) (big : Bool) (entry : HXMessagePackage) : HXMessageQueueAB :=
  if big then q.setCurrent (q.current ++ [entry]) else q.add entry

def pushOption (q : HXMessageQueueAB) (big : Bool) (entry : Option HXMessagePackage) :
    HXMessageQueueAB :=
  match entry with
  | some entry => q.push big entry
  | none => q

theorem addWith_eq (z : Zlib) (q : HXMessageQueueAB) (msg : HXMessagePackage)
    (bigData : HXBigMessageQueue) :
    addWith z q msg bigData = appended z msg bigData >>= fun r =>
      .ok (q.pushOption (isBigStream msg.header.id) r.1, r.2) := by
  by_cases hbig : isBigStream msg.header.id
  case neg =>
    rw [addWith_plain hbig, appended, if_neg hbig, ok_bind, decide_eq_false hbig]
    rfl
  rw [addWith_big hbig, appended, if_pos hbig, decide_eq_true hbig]
  cases bigData.recvPackage z msg with
  | error e => rfl
  | ok received =>
    rw [ok_bind, ok_bind]
    by_cases hdone : received.1
    · rw [if_pos hdone, if_pos hdone]
      cases deliver received.2 msg <;> rfl
    · rw [if_neg hdone, if_neg hdone]
      rfl

theorem mLinkid_deliver {b : HXBigMessageQueue} {msg e : HXMessagePackage} (h : deliver b msg = .ok e) :
    e.mLinkid = msg.mLinkid := by
  by_cases hempty : b.mRecvData.length = 0
  · rw [deliver_empty hempty] at h
    rw [← Except.ok.inj h]
  by_cases hfit : b.mHeader.originalLength.toNat ≤ b.mRecvData.length
  · rw [deliver_fits hempty hfit] at h
    rw [← Except.ok.inj h]
  · rw [deliver_overruns hempty (not_le.mp hfit)] at h
    exact nomatch h

theorem mLinkid_appended {z : Zlib} {msg e : HXMessagePackage} {b b' : HXBigMessageQueue}
    (h : appended z msg b = .ok (some e, b')) : e.mLinkid = msg.mLinkid := by
  rw [appended] at h
  split_ifs at h with hbig
  · obtain ⟨received, -, h⟩ := bind_eq_ok.mp h
    split_ifs at h
    · obtain ⟨temp, htemp, h⟩ := bind_eq_ok.mp h
      rw [← Option.some.inj (congrArg Prod.fst (Except.ok.inj h))]
      exact mLinkid_deliver htemp
    · exact nomatch h
  · rw [← Option.some.inj (congrArg Prod.fst (Except.ok.inj h))]

@[simp] theorem current_swap (q : HXMessageQueueAB) : q.swap.1.current = [] := Function.update_self ..

theorem get_swap (q : HXMessageQueueAB) : q.swap.1.get = q.swap.2 := by
  obtain ⟨half, cur⟩ := q
  fin_cases cur <;> rfl

end HXMessageQueueAB
end HXService
