import HXService.Lib.Heap
import HXService.MessageQueue
import HXService.Sectioning

/-! The buffers of the double queue in memory. A package there holds a pointer; `add`
makes the buffer of a big message, `RemoveFront` and `Reset` free the buffers of the
packages that go. -/

namespace HXService
open Bytes Runs

/-! ## Packages in memory -/

/-- A package with the address of its buffer, or null. -/
structure StoredPackage where
  mLinkid : LinkID
  header : Header
  data : Block maxBodyLength
  bigDataPointer : Option Nat

abbrev Buffers := Heap (List UInt8)

namespace StoredPackage

def ofPackage (pack : HXMessagePackage) : StoredPackage := ⟨pack.mLinkid, pack.header, pack.data, none⟩

def value (heap : Buffers) (e : StoredPackage) : HXMessagePackage :=
  ⟨e.mLinkid, e.header, e.data, e.bigDataPointer.bind heap⟩

def pointers (half : List StoredPackage) : List Nat := half.filterMap bigDataPointer

section Value
variable {heap heap' : Buffers} {half rest : List StoredPackage} {e : StoredPackage}

@[simp] theorem pointers_append : pointers (half ++ rest) = pointers half ++ pointers rest :=
  List.filterMap_append

theorem value_congr (h : ∀ p, e.bigDataPointer = some p → heap' p = heap p) :
    e.value heap' = e.value heap := by
  unfold value
  cases hp : e.bigDataPointer with
  | none => rfl
  | some p =>
    rw [Option.bind_some, Option.bind_some, h p hp]

theorem map_value_congr (h : ∀ p ∈ pointers half, heap' p = heap p) :
    half.map (value heap') = half.map (value heap) := by
  refine List.map_congr_left fun e he => value_congr fun p hp => h p ?_
  exact List.mem_filterMap.mpr ⟨e, he, hp⟩

theorem value_ofPackage {pack : HXMessagePackage} (h : pack.bigDataPointer = none) :
    (ofPackage pack).value heap = pack := by
  cases pack
  cases h
  rfl

end Value
end StoredPackage

/-- A package as a connection hands it over: `bigDataPointer` is null from its
constructor on. -/
structure HandedOver where
  pack : HXMessagePackage
  pointer_eq : pack.bigDataPointer = none

/-! ## The queue in memory -/

structure StoredQueue where
  mQueue : Fin 2 → List StoredPackage
  mCurrent : Fin 2
  heap : Buffers

namespace StoredQueue
open StoredPackage

def new : StoredQueue := ⟨fun _ => [], ⟨0, Nat.two_pos⟩, Heap.empty⟩

def next (i : Fin 2) : Fin 2 := ⟨(i.val + 1) % 2, Nat.mod_lt _ Nat.two_pos⟩

def current (q : StoredQueue) : List StoredPackage := q.mQueue q.mCurrent

def other (q : StoredQueue) : List StoredPackage := q.mQueue (next q.mCurrent)

def setCurrent (q : StoredQueue) (half : List StoredPackage) (heap : Buffers) : StoredQueue :=
  { q with mQueue := Function.update q.mQueue q.mCurrent half, heap }

/-- `RemoveFront`; nothing but a live buffer is freed. -/
def removeFront (half : List StoredPackage) (heap : Buffers) : Option (List StoredPackage × Buffers) :=
  match half with
  | [] => none
  | e :: rest =>
    match e.bigDataPointer with
    | none => some (rest, heap)
    | some p => (heap.delete p).map fun heap => (rest, heap)

def reset (half : List StoredPackage) (heap : Buffers) : Option Buffers := heap.deleteAll (pointers half)

def add (q : StoredQueue) (msg : HandedOver) : Option StoredQueue :=
  let half := q.current ++ [ofPackage msg.pack]
  if queueMax ≤ half.length then
    (removeFront half q.heap).map fun out => q.setCurrent out.1 out.2
  else some (q.setCurrent half q.heap)

/-- The entry of a completed message; its buffer is made at `p`. -/
def deliver (heap : Buffers) (bigData : HXBigMessageQueue) (msg : HandedOver) (p : Nat) :
    Option (StoredPackage × Buffers) :=
  let temp := { ofPackage msg.pack with
    header := ⟨bigData.mHeader.id, bigData.mHeader.id2, bigData.mHeader.originalLength.toInt32⟩ }
  if bigData.mRecvData.length = 0 then some (temp, heap)
  else do
    let copy ← copyInto (List.replicate bigData.mRecvData.length 0) 0 bigData.mRecvData
      bigData.mHeader.originalLength.toNat
    let heap ← heap.new p copy
    pure ({ temp with bigDataPointer := some p }, heap)

def addWith (z : Zlib) (q : StoredQueue) (msg : HandedOver) (bigData : HXBigMessageQueue) (p : Nat) :
    Option (StoredQueue × HXBigMessageQueue) :=
  if isBigStream msg.pack.header.id then do
    let received ← (bigData.recvPackage z msg.pack).toOption
    if received.1 then do
      let out ← deliver q.heap received.2 msg p
      pure (q.setCurrent (q.current ++ [out.1]) out.2, received.2)
    else pure (q, received.2)
  else (q.add msg).map fun q => (q, bigData)

def swap (q : StoredQueue) : Option StoredQueue :=
  (reset q.other q.heap).map fun heap =>
    ⟨Function.update q.mQueue (next q.mCurrent) [], next q.mCurrent, heap⟩

def get (q : StoredQueue) : List StoredPackage :=
  if q.mCurrent.val = 0 then q.mQueue ⟨1, Nat.one_lt_two⟩ else q.mQueue ⟨0, Nat.two_pos⟩

/-! ## The queue by value -/

/-- Each buffer is pointed to by one package of the queue, and read through it the
queue is `v`. -/
structure Refines (q : StoredQueue) (v : HXMessageQueueAB) : Prop where
  owns : q.heap.Owns (pointers q.current ++ pointers q.other)
  mCurrent_eq : v.mCurrent = q.mCurrent
  mQueue_eq : ∀ i, v.mQueue i = (q.mQueue i).map (value q.heap)

variable {q q' : StoredQueue} {v : HXMessageQueueAB} {half : List StoredPackage} {heap : Buffers}
variable {z : Zlib} {msg : HandedOver} {bigData : HXBigMessageQueue} {p : Nat}

theorem refines_new : Refines new HXMessageQueueAB.new :=
  ⟨Heap.owns_empty, rfl, fun _ => rfl⟩

@[simp] theorem current_setCurrent : (q.setCurrent half heap).current = half := Function.update_self ..

theorem succ_ne (i : Fin 2) : i + 1 ≠ i := by
  fin_cases i <;> decide

theorem eq_or_eq_succ (i j : Fin 2) : j = i ∨ j = i + 1 := by
  fin_cases i <;> fin_cases j <;> decide

@[simp] theorem other_setCurrent : (q.setCurrent half heap).other = q.other :=
  Function.update_of_ne (succ_ne q.mCurrent) ..

theorem Refines.current_eq (h : Refines q v) : v.current = q.current.map (value q.heap) := by
  unfold HXMessageQueueAB.current
  rw [h.mCurrent_eq]
  exact h.mQueue_eq q.mCurrent

/-- What the main loop reads is left alone. -/
structure Spares (q q' : StoredQueue) : Prop where
  mCurrent_eq : q'.mCurrent = q.mCurrent
  other_eq : q'.other = q.other
  heap_eq : ∀ p ∈ pointers q.other, q'.heap p = q.heap p

theorem Spares.refl (q : StoredQueue) : q.Spares q := ⟨rfl, rfl, fun _ _ => rfl⟩

theorem Spares.trans {q₁ q₂ q₃ : StoredQueue} (h : q₁.Spares q₂) (h' : q₂.Spares q₃) : q₁.Spares q₃ where
  mCurrent_eq := h'.mCurrent_eq.trans h.mCurrent_eq
  other_eq := h'.other_eq.trans h.other_eq
  heap_eq p hp := (h'.heap_eq p (h.other_eq ▸ hp)).trans (h.heap_eq p hp)

theorem Refines.setCurrent (h : Refines q v) (howns : heap.Owns (pointers half ++ pointers q.other))
    (hsame : ∀ p ∈ pointers q.other, heap p = q.heap p) :
    Refines (q.setCurrent half heap) (v.setCurrent (half.map (value heap))) ∧
      q.Spares (q.setCurrent half heap) := by
  refine ⟨⟨?_, h.mCurrent_eq, fun i => ?_⟩, rfl, other_setCurrent, hsame⟩
  · rw [current_setCurrent, other_setCurrent]
    exact howns
  · show Function.update v.mQueue v.mCurrent _ i = (Function.update q.mQueue q.mCurrent half i).map (value heap)
    rw [h.mCurrent_eq]
    rcases eq_or_eq_succ q.mCurrent i with rfl | rfl
    · rw [Function.update_self, Function.update_self]
    · rw [Function.update_of_ne (succ_ne _), Function.update_of_ne (succ_ne _), h.mQueue_eq]
      exact (map_value_congr hsame).symm

theorem refines_add (h : Refines q v) :
    ∃ q', q.add msg = some q' ∧ Refines q' (v.add msg.pack) ∧ q.Spares q' := by
  have hnone : pointers [ofPackage msg.pack] = [] := rfl
  have hhalf : (q.current ++ [ofPackage msg.pack]).map (value q.heap) = v.current ++ [msg.pack] := by
    rw [List.map_append, ← h.current_eq, List.map_singleton, value_ofPackage msg.pointer_eq]
  have howns : q.heap.Owns (pointers (q.current ++ [ofPackage msg.pack]) ++ pointers q.other) := by
    rw [pointers_append, hnone, List.append_nil]
    exact h.owns
  have hlength : (v.current ++ [msg.pack]).length = (q.current ++ [ofPackage msg.pack]).length := by
    rw [← hhalf, List.length_map]
  unfold StoredQueue.add HXMessageQueueAB.add HXMessageQueueAB.bounded
  rw [hlength, ← hhalf]
  dsimp only
  split_ifs with hfull
  · cases hlist : q.current ++ [ofPackage msg.pack] with
    | nil => exact absurd hlist (List.append_ne_nil_of_right_ne_nil _ (List.cons_ne_nil _ _))
    | cons e rest =>
      rw [hlist] at howns
      cases hp : e.bigDataPointer with
      | none =>
        have hrest : pointers (e :: rest) = pointers rest := List.filterMap_cons_none hp
        rw [hrest] at howns
        refine ⟨_, ?_, h.setCurrent howns fun _ _ => rfl⟩
        simp only [removeFront, hp]
        rfl
      | some p =>
        have hrest : pointers (e :: rest) = p :: pointers rest := List.filterMap_cons_some hp
        rw [hrest] at howns
        obtain ⟨heap, hdelete, howns', -, hsame⟩ := howns.delete
        have hne : ∀ p' ∈ pointers rest ++ pointers q.other, heap p' = q.heap p' := by
          intro p' hp'
          apply hsame
          rintro rfl
          exact (List.nodup_cons.mp howns.nodup).1 hp'
        refine ⟨q.setCurrent rest heap, ?_, ?_⟩
        · simp only [removeFront, hp, hdelete]
          rfl
        · rw [List.map_cons, List.tail_cons,
            ← map_value_congr fun p' hp' => hne p' (List.mem_append_left _ hp')]
          exact h.setCurrent howns' fun p' hp' => hne p' (List.mem_append_right _ hp')
  · exact ⟨_, rfl, h.setCurrent howns fun _ _ => rfl⟩

theorem deliver_rel {ps : List Nat} (howns : heap.Owns ps) (hp : heap p = none) :
    Option.Rel (fun out e => out.1.value out.2 = e ∧ out.2.Owns (ps ++ pointers [out.1]) ∧
        ∀ p' ∈ ps, out.2 p' = heap p')
      (deliver heap bigData msg p) (HXMessageQueueAB.deliver bigData msg.pack).toOption := by
  unfold deliver HXMessageQueueAB.deliver
  dsimp only
  split_ifs with hempty
  · refine .some ⟨?_, ?_, fun _ _ => rfl⟩
    · rw [value, ofPackage, msg.pointer_eq]
      rfl
    · show heap.Owns (ps ++ [])
      rw [List.append_nil]
      exact howns
  · cases copyInto (List.replicate bigData.mRecvData.length 0) 0 bigData.mRecvData
        bigData.mHeader.originalLength.toNat with
    | none => exact .none
    | some copy =>
      have hnew : heap.new p copy = some (Function.update heap p (some copy)) :=
        Heap.new_eq_some_iff.mpr ⟨hp, rfl⟩
      obtain ⟨howns', hget, hsame⟩ := howns.new hnew
      rw [Option.bind_eq_bind, Option.bind_some, hnew]
      refine .some ⟨?_, howns', hsame⟩
      show (⟨_, _, _, Function.update heap p (some copy) p⟩ : HXMessagePackage) = _
      rw [hget]
      rfl

theorem refines_addWith (h : Refines q v) (hp : q.heap p = none) :
    Option.Rel (fun out r => (Refines out.1 r.1 ∧ q.Spares out.1) ∧ out.2 = r.2)
      (q.addWith z msg bigData p) (v.addWith z msg.pack bigData).toOption := by
  unfold StoredQueue.addWith
  split_ifs with hbig
  · rw [HXMessageQueueAB.addWith_big hbig]
    cases hrecv : bigData.recvPackage z msg.pack with
    | error fault => exact .none
    | ok received =>
      rw [ok_bind]
      show Option.Rel _ (if received.1 then _ else _) _
      split_ifs with hdone
      · have hdeliver := @deliver_rel q.heap msg received.2 p _ h.owns hp
        cases hvalue : HXMessageQueueAB.deliver received.2 msg.pack with
        | error fault =>
          rw [hvalue] at hdeliver
          cases hout : deliver q.heap received.2 msg p with
          | none => exact .none
          | some out =>
            rw [hout] at hdeliver
            cases hdeliver
        | ok e =>
          rw [hvalue] at hdeliver
          obtain ⟨out, hout, hvalue, howns, hsame⟩ := rel_right hdeliver
          rw [hout]
          have hperm : (pointers q.current ++ pointers q.other ++ pointers [out.1]).Perm
              (pointers (q.current ++ [out.1]) ++ pointers q.other) := by
            rw [pointers_append, List.append_assoc, List.append_assoc]
            exact List.perm_append_comm.append_left _
          have hset := h.setCurrent (howns.perm hperm) fun p' hp' => hsame p' (List.mem_append_right _ hp')
          rw [List.map_append, List.map_singleton, hvalue,
            map_value_congr fun p' hp' => hsame p' (List.mem_append_left _ hp'), ← h.current_eq] at hset
          exact .some ⟨hset, rfl⟩
      · exact .some ⟨⟨h, Spares.refl q⟩, rfl⟩
  · rw [HXMessageQueueAB.addWith_plain hbig]
    obtain ⟨q', hadd, hq'⟩ := @refines_add q v msg h
    rw [hadd]
    exact .some ⟨hq', rfl⟩

/-- `swap` frees the buffers of the half that is emptied, and no others. -/
theorem refines_swap (h : Refines q v) : ∃ q', q.swap = some q' ∧ Refines q' v.swap.1 ∧
    (∀ p ∈ pointers q.other, q'.heap p = none) ∧ ∀ p ∉ pointers q.other, q'.heap p = q.heap p := by
  obtain ⟨heap, hreset, howns, hsame⟩ := (h.owns.perm List.perm_append_comm).deleteAll
  have hkept : ∀ p ∈ pointers q.current, heap p = q.heap p := by
    intro p hp
    apply hsame
    intro hother
    exact List.disjoint_of_nodup_append h.owns.nodup hp hother
  have hback : q.mCurrent + 1 + 1 = q.mCurrent := by
    rcases eq_or_eq_succ (q.mCurrent + 1) q.mCurrent with heq | heq
    · exact absurd heq.symm (succ_ne _)
    · exact heq.symm
  refine ⟨⟨Function.update q.mQueue (q.mCurrent + 1) [], q.mCurrent + 1, heap⟩, ?_, ⟨?_, ?_, ?_⟩, ?_, hsame⟩
  · unfold StoredQueue.swap reset
    rw [hreset]
    rfl
  · show heap.Owns (pointers (Function.update q.mQueue (q.mCurrent + 1) [] (q.mCurrent + 1)) ++
      pointers (Function.update q.mQueue (q.mCurrent + 1) [] (q.mCurrent + 1 + 1)))
    rw [Function.update_self, hback, Function.update_of_ne (succ_ne _).symm]
    exact howns
  · show v.mCurrent + 1 = q.mCurrent + 1
    rw [h.mCurrent_eq]
  · intro i
    show Function.update v.mQueue (v.mCurrent + 1) [] i =
      (Function.update q.mQueue (q.mCurrent + 1) [] i).map (value heap)
    rw [h.mCurrent_eq]
    rcases eq_or_eq_succ q.mCurrent i with rfl | rfl
    · rw [Function.update_of_ne (succ_ne _).symm, Function.update_of_ne (succ_ne _).symm, h.mQueue_eq]
      exact (map_value_congr hkept).symm
    · rw [Function.update_self, Function.update_self]
      rfl
  · intro p hp
    apply howns.none
    intro hcurrent
    exact List.disjoint_of_nodup_append h.owns.nodup hcurrent hp

theorem get_eq (q : StoredQueue) : q.get = q.other := by
  have hlt := q.mCurrent.isLt
  unfold get other
  split_ifs with hzero
  · refine congrArg q.mQueue (Fin.ext ?_)
    show 1 = (q.mCurrent.val + 1) % 2
    omega
  · refine congrArg q.mQueue (Fin.ext ?_)
    show 0 = (q.mCurrent.val + 1) % 2
    omega

/-! ## Every order of calls -/

/-- The queue and, by connection, what its big messages are collected in. -/
structure State where
  queue : StoredQueue
  bigData : Nat → HXBigMessageQueue

-- `p` is the address the allocator gives when the package ends a message
inductive Event
  | add (msg : HandedOver)
  | addWith (k : Nat) (msg : HandedOver) (p : Nat)
  | swap

def step (z : Zlib) (s : State) : Event → Option State
  | .add msg => (s.queue.add msg).map fun queue => { s with queue }
  | .addWith k msg p => (s.queue.addWith z msg (s.bigData k) p).map fun out =>
    ⟨out.1, Function.update s.bigData k out.2⟩
  | .swap => s.queue.swap.map fun queue => { s with queue }

/-- The allocator gives no address of a live block. -/
def Allocates (s : State) : Event → Prop
  | .add _ => True
  | .addWith _ _ p => s.queue.heap p = none
  | .swap => True

structure Values where
  queue : HXMessageQueueAB
  bigData : Nat → HXBigMessageQueue

def stepValues (z : Zlib) (v : Values) : Event → Option Values
  | .add msg => some { v with queue := v.queue.add msg.pack }
  | .addWith k msg _ => (v.queue.addWith z msg.pack (v.bigData k)).toOption.map fun r =>
    ⟨r.1, Function.update v.bigData k r.2⟩
  | .swap => some { v with queue := v.queue.swap.1 }

def Related (s : State) (v : Values) : Prop := Refines s.queue v.queue ∧ v.bigData = s.bigData

section Run
variable {s s' t : State} {v : Values} {e : Event} {es fs : List Event} {bigData : Nat → HXBigMessageQueue}

theorem related_step (h : Related s v) (hp : Allocates s e) :
    Option.Rel Related (step z s e) (stepValues z v e) := by
  obtain ⟨hqueue, hdata⟩ := h
  cases e with
  | add msg =>
    obtain ⟨queue, hadd, hrefines, -⟩ := @refines_add s.queue v.queue msg hqueue
    unfold step
    dsimp only
    rw [hadd]
    exact .some ⟨hrefines, hdata⟩
  | addWith k msg p =>
    have hrel := @refines_addWith s.queue v.queue z msg (s.bigData k) p hqueue hp
    unfold step stepValues
    dsimp only
    rw [hdata]
    cases hvalue : (v.queue.addWith z msg.pack (s.bigData k)).toOption with
    | none =>
      rw [hvalue] at hrel
      cases hadd : s.queue.addWith z msg (s.bigData k) p with
      | none => exact .none
      | some out =>
        rw [hadd] at hrel
        cases hrel
    | some r =>
      rw [hvalue] at hrel
      obtain ⟨out, hadd, ⟨hrefines, -⟩, hcollected⟩ := rel_right hrel
      rw [hadd]
      refine .some ⟨hrefines, ?_⟩
      show Function.update s.bigData k r.2 = Function.update s.bigData k out.2
      rw [hcollected]
  | swap =>
    obtain ⟨queue, hswap, hrefines, -⟩ := refines_swap hqueue
    unfold step
    dsimp only
    rw [hswap]
    exact .some ⟨hrefines, hdata⟩

theorem spares_step (h : Related s v) (hp : Allocates s e) (hswap : e ≠ .swap)
    (hstep : step z s e = some s') : s.queue.Spares s'.queue := by
  cases e with
  | add msg =>
    obtain ⟨queue, hadd, -, hspares⟩ := @refines_add s.queue v.queue msg h.1
    unfold step at hstep
    dsimp only at hstep
    rw [hadd] at hstep
    rw [← Option.some.inj hstep]
    exact hspares
  | addWith k msg p =>
    obtain ⟨out, hadd, rfl⟩ := Option.map_eq_some_iff.mp hstep
    have hrel := @refines_addWith s.queue v.queue z msg (s.bigData k) p h.1 hp
    rw [hadd] at hrel
    obtain ⟨r, -, ⟨-, hspares⟩, -⟩ := rel_left hrel
    exact hspares
  | swap => exact absurd rfl hswap

/-- However the calls come, the queue in memory does what the queue by value does: no
buffer is freed twice or read after it has been freed, and none is lost, since the live
buffers are those of the packages in the queue. -/
theorem run_mirrored (h : Along (step z) Allocates ⟨new, bigData⟩ es) :
    Option.Rel Related (run (step z) ⟨new, bigData⟩ es)
      (run (stepValues z) ⟨HXMessageQueueAB.new, bigData⟩ es) :=
  run_rel (fun s v e hrelated hp => @related_step z s v e hrelated hp) ⟨refines_new, rfl⟩ h

/-- What `swap` has returned stays where it is and as it is, with all its buffers, until
the next `swap`, which frees them and no others. -/
theorem run_reads (h : Along (step z) Allocates ⟨new, bigData⟩ fs)
    (hs : run (step z) ⟨new, bigData⟩ fs = some s) (hes : Along (step z) Allocates s es)
    (ht : run (step z) s es = some t) (hswap : .swap ∉ es) :
    t.queue.get = s.queue.get ∧
    (∀ p ∈ pointers s.queue.get, ∃ bytes, s.queue.heap p = some bytes ∧ t.queue.heap p = some bytes) ∧
    ∃ s', step z t .swap = some s' ∧ (∀ p ∈ pointers s.queue.get, s'.queue.heap p = none) ∧
      ∀ p ∉ pointers s.queue.get, s'.queue.heap p = t.queue.heap p := by
  have hrelated : ∃ v, Related s v := by
    have hrun := run_rel (fun s v e hrelated hp => @related_step z s v e hrelated hp)
      (show Related ⟨new, bigData⟩ ⟨HXMessageQueueAB.new, bigData⟩ from ⟨refines_new, rfl⟩) h
    rw [hs] at hrun
    obtain ⟨v, -, hv⟩ := rel_left hrun
    exact ⟨v, hv⟩
  have hspares : s.queue.Spares t.queue ∧ ∃ v, Related t v := by
    clear h hs
    induction es generalizing s with
    | nil =>
      obtain rfl := Option.some.inj ht
      exact ⟨Spares.refl _, hrelated⟩
    | cons e es ih =>
      obtain ⟨u, hu, ht⟩ := run_cons.mp ht
      obtain ⟨v, hv⟩ := hrelated
      have hnext := @related_step z s v e hv hes.1
      rw [hu] at hnext
      obtain ⟨v', -, hv'⟩ := rel_left hnext
      rw [List.mem_cons, not_or] at hswap
      obtain ⟨hrest, hlast⟩ := ih (hes.2 u hu) ht hswap.2 ⟨v', hv'⟩
      exact ⟨(spares_step hv hes.1 (Ne.symm hswap.1) hu).trans hrest, hlast⟩
  obtain ⟨hkept, v', hv'⟩ := hspares
  obtain ⟨v, hv⟩ := hrelated
  obtain ⟨queue, hnext, -, hfreed, hspared⟩ := refines_swap hv'.1
  rw [hkept.other_eq] at hfreed hspared
  rw [get_eq, get_eq]
  refine ⟨hkept.other_eq, fun p hp => ?_, ⟨queue, t.bigData⟩, ?_, hfreed, hspared⟩
  · obtain ⟨bytes, hbytes⟩ := hv.1.owns.get (List.mem_append_right _ hp)
    exact ⟨bytes, hbytes, (hkept.heap_eq p hp).trans hbytes⟩
  · unfold step
    dsimp only
    rw [hnext]
    rfl

end Run

instance (s : State) (e : Event) : Decidable (Allocates s e) :=
  match e with
  | .add _ => isTrue trivial
  | .addWith _ _ p => inferInstanceAs (Decidable (s.queue.heap p = none))
  | .swap => isTrue trivial

-- a big message of one connection arrives, and is copied to `p`
def arrivals (p : Nat) : List Event :=
  ((Sectioning.packages (Sectioning.plainHeader 1001 0 [1, 2, 3]) [1, 2, 3]).filterMap fun pack =>
    if h : pack.bigDataPointer = none then some (HandedOver.mk pack h) else none).map (.addWith 0 · p)

def collecting : Nat → HXBigMessageQueue := fun _ => HXBigMessageQueue.new ⟨0, 0, 0, 0, 0, 0, 0⟩

theorem allocates_arrivals :
    Along (step Zlib.refusing) Allocates ⟨new, collecting⟩ (arrivals 7 ++ [.swap]) := by decide +kernel

theorem run_mirrored_arrivals : Option.Rel Related
    (run (step Zlib.refusing) ⟨new, collecting⟩ (arrivals 7 ++ [.swap]))
    (run (stepValues Zlib.refusing) ⟨HXMessageQueueAB.new, collecting⟩ (arrivals 7 ++ [.swap])) :=
  run_mirrored allocates_arrivals

-- while the first message is read, a second one arrives, which the next swap spares
theorem run_reads_arrivals : ∃ s t, run (step Zlib.refusing) ⟨new, collecting⟩ (arrivals 7 ++ [.swap]) = some s ∧
    run (step Zlib.refusing) s (arrivals 8) = some t ∧ pointers t.queue.get = [7] ∧
    (t.queue.heap 7).isSome ∧ (t.queue.heap 8).isSome ∧
    ∃ s', step Zlib.refusing t .swap = some s' ∧ s'.queue.heap 7 = none ∧ (s'.queue.heap 8).isSome := by
  have hsome : ((run (step Zlib.refusing) ⟨new, collecting⟩ (arrivals 7 ++ [.swap])).map
      fun s => pointers s.queue.get) = some [7] := by decide +kernel
  obtain ⟨s, hs, hpointers⟩ := Option.map_eq_some_iff.mp hsome
  have hlater : ((run (step Zlib.refusing) ⟨new, collecting⟩ ((arrivals 7 ++ [.swap]) ++ arrivals 8)).map
      fun t => (t.queue.heap 8).isSome) = some true := by decide +kernel
  obtain ⟨t, ht, hheap⟩ := Option.map_eq_some_iff.mp hlater
  obtain ⟨s₁, hs₁, ht⟩ := run_append.mp ht
  obtain rfl := Option.some.inj (hs.symm.trans hs₁)
  have hall : Along (step Zlib.refusing) Allocates ⟨new, collecting⟩ ((arrivals 7 ++ [.swap]) ++ arrivals 8) := by
    decide +kernel
  have hswap : Event.swap ∉ arrivals 8 := by
    intro hmem
    obtain ⟨msg, -, heq⟩ := List.mem_map.mp hmem
    cases heq
  obtain ⟨hget, hkept, s', hswap, hfreed, hspared⟩ :=
    run_reads allocates_arrivals hs (hall.append hs) ht hswap
  rw [hpointers] at hkept hfreed hspared
  obtain ⟨bytes, -, hbytes⟩ := hkept 7 (List.mem_singleton_self 7)
  refine ⟨s, t, hs, ht, by rw [hget, hpointers], Option.isSome_of_eq_some hbytes, hheap, s', hswap, ?_, ?_⟩
  · exact hfreed 7 (List.mem_singleton_self 7)
  · rw [hspared 8 (by decide)]
    exact hheap

end StoredQueue
end HXService
