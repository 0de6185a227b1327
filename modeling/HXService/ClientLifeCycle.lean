import HXService.Disconnection

/-! The life cycle of a client (`HXLibAsioClient`). Each `Start` makes a connection and a
thread that runs the `io_service`; `Stop` stops the service and deletes the connection.
Nobody calls `reset`, so that a service that has stopped runs no handler any more. -/

namespace HXService.ClientLifeCycle
open Runs

/-! ## The client -/

/-- `accepts` are all connections that have been made, deleted ones too, and `mClient` is
the place of `m_client` among them. Of the threads, `entering` are before their call of
`run` and `inside` in it; `busy` are the handlers they run, with the places of `this`. -/
structure State where
  mQueue : HXMessageQueueAB
  mClient : Option Nat
  accepts : List Disconnection.State
  stopped : Bool
  entering : Nat
  inside : Nat
  busy : List (Nat × Disconnection.Event)

def initial : State := ⟨HXMessageQueueAB.new, none, [], false, 0, 0, []⟩

-- `m_recv` of all connections is the queue of the client
def State.react (z : Zlib) (s : State) (i : Nat) (e : Disconnection.Event) : Option State :=
  s.accepts[i]?.bind fun accept =>
    let receiving := Disconnection.setAccept accept { accept.session.toHXLibClientAccept with
      mRecv := s.mQueue }
    (Disconnection.react z receiving e).map fun accept =>
      { s with mQueue := accept.session.mRecv, accepts := s.accepts.set i accept }

/-- `online` is what `CheckNetworkAlive` returns. -/
def State.start (s : State) (online : Bool) (readMsg : HXMessagePackage) (mHeader : MBigHeader) :
    Int × State :=
  if !online then (2, s)
  else if s.mClient.isSome then (1, s)
  else (0, { s with
    mClient := some s.accepts.length
    accepts := s.accepts ++ [Disconnection.start readMsg mHeader]
    entering := s.entering + 1 })

def State.stop (z : Zlib) (s : State) : Option State :=
  match s.mClient with
  | none => some s
  | some i =>
    let ended : State := { s with stopped := true }
    (ended.react z i .close).map fun s => { s with mClient := none }

def State.isConnected (s : State) : Bool :=
  (s.mClient.bind fun i => s.accepts[i]?).any fun accept => accept.session.mBConnected

def State.write (z : Zlib) (s : State) (msg : HXMessagePackage) : Bool × State :=
  match s.mClient.bind fun i => s.react z i (.write msg) with
  | some s => (true, s)
  | none => (false, s)

/-! ## The threads -/

-- the others are called by the main thread
def isHandler : Disconnection.Event → Bool
  | .connect _ => true
  | .read _ => true
  | .written _ _ => true
  | .handler => true
  | .write _ => false
  | .close => false

def IsIdle (accept : Disconnection.State) : Prop :=
  accept.connecting = false ∧ accept.reading = none ∧ accept.outstanding = [] ∧ accept.posted = []

instance (accept : Disconnection.State) : Decidable (accept.outstanding = []) :=
  decidable_of_iff _ List.isEmpty_iff

instance (accept : Disconnection.State) : Decidable (accept.posted = []) :=
  decidable_of_iff _ List.isEmpty_iff

instance (accept : Disconnection.State) : Decidable (IsIdle accept) :=
  inferInstanceAs (Decidable (_ ∧ _ ∧ _ ∧ _))

def State.hasFree (s : State) : Prop := s.busy.length < s.inside

instance (s : State) : Decidable s.hasFree := inferInstanceAs (Decidable (_ < _))

/-- A `run` that finds no work left stops the service itself. A handler begins with the
result it is called with, and ends with its effects; one whose connection is deleted by
then goes on with what is not there, and the run ends. -/
inductive Event
  | start (online : Bool) (readMsg : HXMessagePackage) (mHeader : MBigHeader)
  | stop
  | write (msg : HXMessagePackage)
  | swap
  | enter
  | leave
  | begin (i : Nat) (e : Disconnection.Event)
  | finish (k : Nat)

def step (z : Zlib) (s : State) : Event → Option State
  | .start online readMsg mHeader => some (s.start online readMsg mHeader).2
  | .stop => s.stop z
  | .write msg => some (s.write z msg).2
  | .swap => some { s with mQueue := s.mQueue.swap.1 }
  | .enter =>
    if s.entering = 0 then none
    else some { s with entering := s.entering - 1, inside := if s.stopped then s.inside else s.inside + 1 }
  | .leave =>
    if s.hasFree ∧ (s.stopped = true ∨ s.busy = [] ∧ ∀ accept ∈ s.accepts, IsIdle accept) then
      some { s with inside := s.inside - 1, stopped := true }
    else none
  | .begin i e =>
    if s.hasFree ∧ s.stopped = false ∧ isHandler e = true ∧ (s.react z i e).isSome = true then
      some { s with busy := s.busy ++ [(i, e)] }
    else none
  | .finish k =>
    s.busy[k]?.bind fun job =>
      if s.mClient = some job.1 then
        (s.react z job.1 job.2).map fun s => { s with busy := s.busy.eraseIdx k }
      else none

/-! ## What is to hold -/

/-- Handlers are run one at a time, and on the connection that is there. -/
def Safe (s : State) : Prop := s.busy.length ≤ 1 ∧ ∀ job ∈ s.busy, s.mClient = some job.1

/-- `Stop` deletes no connection while a handler is run. -/
def Waits (s : State) : Event → Prop
  | .stop => s.mClient.isSome → s.busy = []
  | _ => True

/-- Until the service has stopped there is one connection at most; the ones made after
that never get connected. -/
structure Inv (s : State) : Prop where
  safe : Safe s
  inside : s.inside ≤ 1
  busy : s.busy.length ≤ s.inside
  threads : s.stopped = false → s.entering + s.inside ≤ s.accepts.length
  single : s.stopped = false → s.accepts.length ≤ 1
  current : s.stopped = false → s.accepts ≠ [] → s.mClient = some 0
  place : ∀ i, s.mClient = some i → i < s.accepts.length
  made : s.stopped = true → s.accepts ≠ []
  first : ∀ job ∈ s.busy, job.1 = 0
  later : ∀ accept ∈ s.accepts.tail, accept.session.mBConnected = false

section Steps
variable {z : Zlib} {s s' t : State} {i : Nat} {e : Disconnection.Event} {accept accept' : Disconnection.State}

theorem react_eq_some (h : s.react z i e = some t) : ∃ accept accept' receiving,
    s.accepts[i]? = some accept ∧ receiving.session.mBConnected = accept.session.mBConnected ∧
      receiving.session.mRecv = s.mQueue ∧ Disconnection.react z receiving e = some accept' ∧
        t = { s with mQueue := accept'.session.mRecv, accepts := s.accepts.set i accept' } := by
  obtain ⟨accept, haccept, h⟩ := Option.bind_eq_some_iff.mp h
  obtain ⟨accept', hreact, rfl⟩ := Option.map_eq_some_iff.mp h
  exact ⟨accept, accept', Disconnection.setAccept accept { accept.session.toHXLibClientAccept with
    mRecv := s.mQueue }, haccept, rfl, rfl, hreact, rfl⟩

theorem lt_of_react (h : s.react z i e = some t) : i < s.accepts.length := by
  obtain ⟨_, _, _, haccept, -⟩ := react_eq_some h
  exact (List.getElem?_eq_some_iff.mp haccept).1

theorem connected_react (he : isHandler e = false) (h : Disconnection.react z accept e = some accept') :
    accept'.session.mBConnected = accept.session.mBConnected := by
  cases e with
  | connect error => cases he
  | read bytes => cases he
  | written i ok => cases he
  | handler => cases he
  | write msg =>
    simp only [Disconnection.react, Option.ite_none_right_eq_some, Option.some.injEq] at h
    rw [← h.2]
  | close =>
    rw [← Option.some.inj h]
    rfl

theorem later_react (hlater : ∀ accept ∈ s.accepts.tail, accept.session.mBConnected = false)
    (h : s.react z i e = some t) (hfirst : i = 0 ∨ isHandler e = false) :
    ∀ accept ∈ t.accepts.tail, accept.session.mBConnected = false := by
  obtain ⟨accept, accept', receiving, haccept, hsame, -, hreact, rfl⟩ := react_eq_some h
  intro other hother
  cases haccepts : s.accepts with
  | nil =>
    rw [haccepts] at haccept
    cases haccept
  | cons head rest =>
    rw [haccepts] at hlater haccept
    dsimp only at hother
    rw [haccepts] at hother
    cases i with
    | zero => exact hlater other hother
    | succ i =>
      rcases List.mem_or_eq_of_mem_set hother with hmem | rfl
      · exact hlater other hmem
      · have hmain := hfirst.resolve_left (Nat.succ_ne_zero i)
        rw [connected_react hmain hreact, hsame]
        exact hlater accept (List.mem_of_getElem? haccept)

theorem Inv.react (hinv : Inv s) (h : s.react z i e = some t) (hfirst : i = 0 ∨ isHandler e = false) :
    Inv t := by
  have hlater := later_react hinv.later h hfirst
  obtain ⟨_, accept', _, -, -, -, -, rfl⟩ := react_eq_some h
  have hlength : (s.accepts.set i accept').length = s.accepts.length := List.length_set
  have hnil : s.accepts.set i accept' ≠ [] ↔ s.accepts ≠ [] := by
    rw [← List.length_pos_iff, ← List.length_pos_iff, hlength]
  refine ⟨hinv.safe, hinv.inside, hinv.busy, ?_, ?_, ?_, ?_, ?_, hinv.first, hlater⟩
  · exact fun hrunning => hlength ▸ hinv.threads hrunning
  · exact fun hrunning => hlength ▸ hinv.single hrunning
  · exact fun hrunning hmade => hinv.current hrunning (hnil.mp hmade)
  · exact fun j hj => hlength ▸ hinv.place j hj
  · exact fun hstopped => hnil.mpr (hinv.made hstopped)

theorem later_concat (h : ∀ accept ∈ s.accepts.tail, accept.session.mBConnected = false)
    (hnew : accept'.session.mBConnected = false) :
    ∀ accept ∈ (s.accepts ++ [accept']).tail, accept.session.mBConnected = false := by
  intro accept haccept
  cases haccepts : s.accepts with
  | nil =>
    rw [haccepts] at haccept
    cases haccept
  | cons head rest =>
    rw [haccepts] at haccept h
    rcases List.mem_append.mp haccept with haccept | haccept
    · exact h accept haccept
    · rw [List.mem_singleton.mp haccept]
      exact hnew

theorem inv_initial : Inv initial where
  safe := ⟨Nat.zero_le _, nofun⟩
  inside := Nat.zero_le _
  busy := Nat.le_refl _
  threads _ := Nat.le_refl _
  single _ := Nat.zero_le _
  current _ hmade := absurd rfl hmade
  place := nofun
  made := nofun
  first := nofun
  later := nofun

theorem Inv.start {online : Bool} {readMsg : HXMessagePackage} {mHeader : MBigHeader} (hinv : Inv s) :
    Inv (s.start online readMsg mHeader).2 := by
  unfold State.start
  split_ifs with _ hclient
  · exact hinv
  · exact hinv
  · have hnone : s.mClient = none := Option.not_isSome_iff_eq_none.mp hclient
    have hidle : s.busy = [] := by
      rw [List.eq_nil_iff_forall_not_mem]
      intro job hjob
      have halive := hinv.safe.2 job hjob
      rw [hnone] at halive
      cases halive
    have hempty : s.stopped = false → s.accepts = [] := by
      intro hrunning
      by_contra hmade
      have hcurrent := hinv.current hrunning hmade
      rw [hnone] at hcurrent
      cases hcurrent
    refine ⟨⟨hinv.safe.1, ?_⟩, hinv.inside, hinv.busy, ?_, ?_, ?_, ?_, ?_, hinv.first,
      later_concat hinv.later rfl⟩
    · rw [hidle]
      nofun
    · intro hrunning
      have hthreads := hinv.threads hrunning
      rw [List.length_append, List.length_singleton]
      dsimp only
      omega
    · intro hrunning
      rw [hempty hrunning]
      exact Nat.le_refl 1
    · intro hrunning _
      rw [hempty hrunning]
      rfl
    · intro j hj
      rw [List.length_append, List.length_singleton]
      obtain rfl := Option.some.inj hj
      exact Nat.lt_succ_self _
    · exact fun _ => List.concat_ne_nil _ _

theorem stop_eq_some (h : s.stop z = some t) : (s.mClient = none ∧ t = s) ∨
    ∃ i u, s.mClient = some i ∧ State.react z { s with stopped := true } i .close = some u ∧
      t = { u with mClient := none } := by
  unfold State.stop at h
  split at h
  · rename_i hnone
    exact Or.inl ⟨hnone, (Option.some.inj h).symm⟩
  · rename_i i hclient
    obtain ⟨u, hreact, rfl⟩ := Option.map_eq_some_iff.mp h
    exact Or.inr ⟨i, u, hclient, hreact, rfl⟩

theorem Inv.stop (hinv : Inv s) (hwaits : Waits s .stop) (h : s.stop z = some t) : Inv t := by
  rcases stop_eq_some h with ⟨-, rfl⟩ | ⟨i, u, hclient, hreact, rfl⟩
  · exact hinv
  · have hmade : s.accepts ≠ [] := List.ne_nil_of_length_pos (Nat.zero_lt_of_lt (hinv.place i hclient))
    have hended : Inv { s with stopped := true } :=
      ⟨hinv.safe, hinv.inside, hinv.busy, nofun, nofun, nofun, hinv.place, fun _ => hmade, hinv.first,
        hinv.later⟩
    have hmain : isHandler .close = false := rfl
    have hu := hended.react hreact (Or.inr hmain)
    obtain ⟨_, _, _, -, -, -, -, rfl⟩ := react_eq_some hreact
    have hidle : s.busy = [] := hwaits (hclient ▸ rfl)
    refine ⟨⟨hu.safe.1, ?_⟩, hu.inside, hu.busy, nofun, nofun, nofun, nofun, hu.made, hu.first, hu.later⟩
    rw [hidle]
    nofun

theorem Inv.write {msg : HXMessagePackage} (hinv : Inv s) : Inv (s.write z msg).2 := by
  unfold State.write
  cases hwrite : s.mClient.bind fun i => s.react z i (.write msg) with
  | none => exact hinv
  | some t =>
    obtain ⟨i, -, hreact⟩ := Option.bind_eq_some_iff.mp hwrite
    have hmain : isHandler (.write msg) = false := rfl
    exact hinv.react hreact (Or.inr hmain)

theorem Inv.enter (hinv : Inv s) (h : s.entering ≠ 0) : Inv { s with
    entering := s.entering - 1
    inside := if s.stopped then s.inside else s.inside + 1 } := by
  by_cases hstopped : s.stopped = true
  · rw [if_pos hstopped]
    refine ⟨hinv.safe, hinv.inside, hinv.busy, ?_, hinv.single, hinv.current, hinv.place, hinv.made,
      hinv.first, hinv.later⟩
    exact fun hrunning => absurd hstopped (Bool.not_eq_true _ ▸ hrunning)
  · have hrunning : s.stopped = false := Bool.not_eq_true _ ▸ hstopped
    have hthreads := hinv.threads hrunning
    have hsingle := hinv.single hrunning
    rw [if_neg hstopped]
    refine ⟨hinv.safe, ?_, hinv.busy.trans (Nat.le_succ _), ?_, hinv.single, hinv.current, hinv.place,
      hinv.made, hinv.first, hinv.later⟩
    · show s.inside + 1 ≤ 1
      omega
    · intro _
      show s.entering - 1 + (s.inside + 1) ≤ s.accepts.length
      omega

theorem Inv.leave (hinv : Inv s) (hfree : s.hasFree) : Inv { s with
    inside := s.inside - 1
    stopped := true } := by
  have hbusy : s.busy.length < s.inside := hfree
  have hmade : s.accepts ≠ [] := by
    cases hstopped : s.stopped with
    | true => exact hinv.made hstopped
    | false =>
      have hthreads := hinv.threads hstopped
      exact List.ne_nil_of_length_pos (by omega)
  refine ⟨hinv.safe, (Nat.sub_le _ _).trans hinv.inside, ?_, nofun, nofun, nofun, hinv.place, fun _ => hmade,
    hinv.first, hinv.later⟩
  exact Nat.le_sub_one_of_lt hbusy

theorem Inv.begin (hinv : Inv s) (hfree : s.hasFree) (hrunning : s.stopped = false)
    (hreact : (s.react z i e).isSome = true) : Inv { s with busy := s.busy ++ [(i, e)] } := by
  have hbusy : s.busy.length < s.inside := hfree
  have hinside := hinv.inside
  obtain ⟨t, hreact⟩ := Option.isSome_iff_exists.mp hreact
  have hplace := lt_of_react hreact
  have hsingle := hinv.single hrunning
  have hfirst : i = 0 := by omega
  have hcurrent := hinv.current hrunning (List.ne_nil_of_length_pos (Nat.zero_lt_of_lt hplace))
  have hidle : s.busy = [] := List.length_eq_zero_iff.mp (by omega)
  have hone : ∀ job ∈ s.busy ++ [(i, e)], job.1 = 0 := by
    intro job hjob
    rw [hidle, List.nil_append] at hjob
    rw [List.mem_singleton.mp hjob]
    exact hfirst
  have hlength : (s.busy ++ [(i, e)]).length = 1 := by rw [hidle]; rfl
  refine ⟨⟨hlength.le, ?_⟩, hinv.inside, ?_, hinv.threads, hinv.single, hinv.current, hinv.place,
    hinv.made, hone, hinv.later⟩
  · intro job hjob
    rw [hone job hjob]
    exact hcurrent
  · show (s.busy ++ [(i, e)]).length ≤ s.inside
    omega

theorem Inv.finish {k : Nat} {job : Nat × Disconnection.Event} (hinv : Inv s) (hjob : s.busy[k]? = some job)
    (hreact : s.react z job.1 job.2 = some t) : Inv { t with busy := t.busy.eraseIdx k } := by
  have ht := hinv.react hreact (Or.inl (hinv.first job (List.mem_of_getElem? hjob)))
  have hlength : (s.busy.eraseIdx k).length ≤ s.busy.length := (List.eraseIdx_sublist s.busy k).length_le
  have hsub : ∀ other ∈ s.busy.eraseIdx k, other ∈ s.busy := fun _ h => List.mem_of_mem_eraseIdx h
  obtain ⟨_, _, _, -, -, -, -, rfl⟩ := react_eq_some hreact
  exact ⟨⟨hlength.trans hinv.safe.1, fun other hother => hinv.safe.2 other (hsub other hother)⟩, ht.inside,
    hlength.trans hinv.busy, ht.threads, ht.single, ht.current, ht.place, ht.made,
    fun other hother => hinv.first other (hsub other hother), ht.later⟩

theorem step_inv (s : State) (e : Event) (s' : State) (hinv : Inv s) (hwaits : Waits s e)
    (hstep : step z s e = some s') : Inv s' := by
  cases e with
  | start online readMsg mHeader => exact Option.some.inj hstep ▸ hinv.start
  | stop => exact hinv.stop hwaits hstep
  | write msg => exact Option.some.inj hstep ▸ hinv.write
  | swap =>
    obtain rfl := Option.some.inj hstep
    exact ⟨hinv.safe, hinv.inside, hinv.busy, hinv.threads, hinv.single, hinv.current, hinv.place, hinv.made,
      hinv.first, hinv.later⟩
  | enter =>
    simp only [step, Option.ite_none_left_eq_some, Option.some.injEq] at hstep
    obtain ⟨hentering, rfl⟩ := hstep
    exact hinv.enter hentering
  | leave =>
    simp only [step, Option.ite_none_right_eq_some, Option.some.injEq] at hstep
    obtain ⟨⟨hfree, -⟩, rfl⟩ := hstep
    exact hinv.leave hfree
  | begin i e =>
    simp only [step, Option.ite_none_right_eq_some, Option.some.injEq] at hstep
    obtain ⟨⟨hfree, hrunning, -, hreact⟩, rfl⟩ := hstep
    exact hinv.begin hfree hrunning hreact
  | finish k =>
    obtain ⟨job, hjob, hstep⟩ := Option.bind_eq_some_iff.mp hstep
    simp only [Option.ite_none_right_eq_some] at hstep
    obtain ⟨t, hreact, rfl⟩ := Option.map_eq_some_iff.mp hstep.2
    exact hinv.finish hjob hreact

theorem exists_stop (hinv : Inv s) (hclient : s.mClient.isSome) :
    ∃ t, s.stop z = some t ∧ t.mClient = none ∧ t.busy = s.busy := by
  obtain ⟨i, hi⟩ := Option.isSome_iff_exists.mp hclient
  obtain ⟨accept, haccept⟩ : ∃ accept, s.accepts[i]? = some accept :=
    ⟨_, List.getElem?_eq_getElem (hinv.place i hi)⟩
  unfold State.stop State.react
  rw [hi]
  dsimp only
  rw [haccept]
  exact ⟨_, rfl, rfl, rfl⟩

/-- The handlers of a client run one at a time, and on a connection that is there, exactly
as long as no `Stop` comes while one is run. -/
theorem safe_iff {es : List Event} :
    Always (step z) Safe initial es ↔ Along (step z) Waits initial es := by
  refine always_iff_along (fun s hinv => hinv.safe) step_inv ?_ inv_initial
  intro s e hinv hnext
  cases e with
  | stop =>
    intro hclient
    obtain ⟨t, hstop, hnone, hbusy⟩ := exists_stop hinv hclient
    rw [List.eq_nil_iff_forall_not_mem]
    intro job hjob
    have halive := (hnext t hstop).2 job (hbusy ▸ hjob)
    rw [hnone] at halive
    cases halive
  | _ => trivial

end Steps

/-! ## After Stop -/

/-- What a client is that has been stopped: there is an `m_client`, or there is none, and
the queue. -/
structure Ended where
  linked : Bool
  mQueue : HXMessageQueueAB

-- only `Stop` puts something into the queue
def Ended.step (a : Ended) : Event → Ended
  | .start online _ _ => { a with linked := a.linked || online }
  | .stop =>
    if a.linked then ⟨false, a.mQueue.add
      (HXMessagePackage.filled LinkID.zero idDisconnect dissconnectClosedByMain [] (Nat.zero_le _))⟩
    else a
  | .swap => { a with mQueue := a.mQueue.swap.1 }
  | _ => a

def State.ended (s : State) : Ended := ⟨s.mClient.isSome, s.mQueue⟩

structure Gone (s : State) : Prop where
  stopped : s.stopped = true
  idle : s.busy = []
  made : s.accepts ≠ []
  place : ∀ i, s.mClient = some i → 0 < i
  later : ∀ accept ∈ s.accepts.tail, accept.session.mBConnected = false

section Ended
variable {z : Zlib} {s t : State} {i : Nat} {e : Event}

theorem Gone.not_connected {accept : Disconnection.State} (h : Gone s) (hclient : s.mClient = some i)
    (haccept : s.accepts[i]? = some accept) : accept.session.mBConnected = false := by
  obtain ⟨j, rfl⟩ := Nat.exists_eq_succ_of_ne_zero (h.place i hclient).ne'
  rw [← List.getElem?_tail] at haccept
  exact h.later accept (List.mem_of_getElem? haccept)

theorem Gone.isConnected (h : Gone s) : s.isConnected = false := by
  unfold State.isConnected
  cases hclient : s.mClient with
  | none => rfl
  | some i =>
    show (s.accepts[i]?).any _ = false
    cases haccept : s.accepts[i]? with
    | none => rfl
    | some accept => exact h.not_connected hclient haccept

theorem Gone.write {msg : HXMessagePackage} (h : Gone s) : s.write z msg = (false, s) := by
  have hnone : (s.mClient.bind fun i => s.react z i (.write msg)) = none := by
    rw [Option.bind_eq_none_iff]
    intro i hclient
    cases hreact : s.react z i (.write msg) with
    | none => rfl
    | some t =>
      obtain ⟨accept, _, receiving, haccept, hsame, -, hwrite, -⟩ := react_eq_some hreact
      rw [h.not_connected hclient haccept] at hsame
      simp only [Disconnection.react, hsame, Bool.false_eq_true, if_false] at hwrite
      cases hwrite
  unfold State.write
  rw [hnone]

theorem gone_stop (h : Gone s) (hstop : s.stop z = some t) : Gone t ∧ t.ended = s.ended.step .stop := by
  rcases stop_eq_some hstop with ⟨hnone, rfl⟩ | ⟨i, u, hclient, hreact, rfl⟩
  · refine ⟨h, ?_⟩
    unfold State.ended
    rw [hnone]
    rfl
  · have hmain : isHandler .close = false := rfl
    have hended : ∀ accept ∈ State.accepts { s with stopped := true } |>.tail,
        accept.session.mBConnected = false := h.later
    have hlater := later_react hended hreact (Or.inr hmain)
    obtain ⟨accept, accept', receiving, haccept, -, hqueue, hclose, rfl⟩ := react_eq_some hreact
    have hmade : s.accepts.set i accept' ≠ [] := by
      rw [← List.length_pos_iff, List.length_set]
      exact List.length_pos_iff.mpr h.made
    have hadded : accept'.session.mRecv = s.mQueue.add
        (HXMessagePackage.filled LinkID.zero idDisconnect dissconnectClosedByMain [] (Nat.zero_le _)) := by
      rw [← Option.some.inj hclose, ← hqueue]
      rfl
    refine ⟨⟨rfl, h.idle, hmade, nofun, hlater⟩, ?_⟩
    unfold State.ended
    dsimp only
    rw [hclient, hadded]
    rfl

theorem gone_start {online : Bool} {readMsg : HXMessagePackage} {mHeader : MBigHeader} (h : Gone s) :
    Gone (s.start online readMsg mHeader).2 ∧
      (s.start online readMsg mHeader).2.ended = s.ended.step (.start online readMsg mHeader) := by
  unfold State.ended Ended.step
  dsimp only
  cases online with
  | false =>
    refine ⟨h, ?_⟩
    rw [Bool.or_false]
    rfl
  | true =>
    rw [Bool.or_true]
    cases hclient : s.mClient with
    | some i =>
      have hsame : s.start true readMsg mHeader = (1, s) := by
        unfold State.start
        rw [hclient]
        rfl
      rw [hsame, hclient]
      exact ⟨h, rfl⟩
    | none =>
      have hnew : s.start true readMsg mHeader = (0, { s with
          mClient := some s.accepts.length
          accepts := s.accepts ++ [Disconnection.start readMsg mHeader]
          entering := s.entering + 1 }) := by
        unfold State.start
        rw [hclient]
        rfl
      rw [hnew]
      refine ⟨⟨h.stopped, h.idle, List.concat_ne_nil _ _, ?_, later_concat h.later rfl⟩, rfl⟩
      intro i hi
      obtain rfl := Option.some.inj hi
      exact List.length_pos_iff.mpr h.made

theorem gone_step (h : Gone s) (hstep : step z s e = some t) : Gone t ∧ t.ended = s.ended.step e := by
  cases e with
  | start online readMsg mHeader => exact Option.some.inj hstep ▸ gone_start h
  | stop => exact gone_stop h hstep
  | write msg =>
    obtain rfl := Option.some.inj hstep
    rw [h.write]
    exact ⟨h, rfl⟩
  | swap =>
    obtain rfl := Option.some.inj hstep
    exact ⟨⟨h.stopped, h.idle, h.made, h.place, h.later⟩, rfl⟩
  | enter =>
    simp only [step, Option.ite_none_left_eq_some, Option.some.injEq] at hstep
    obtain ⟨-, rfl⟩ := hstep
    exact ⟨⟨h.stopped, h.idle, h.made, h.place, h.later⟩, rfl⟩
  | leave =>
    simp only [step, Option.ite_none_right_eq_some, Option.some.injEq] at hstep
    obtain ⟨-, rfl⟩ := hstep
    exact ⟨⟨rfl, h.idle, h.made, h.place, h.later⟩, rfl⟩
  | begin i e =>
    simp only [step, h.stopped, Option.ite_none_right_eq_some] at hstep
    exact absurd hstep.1.2.1 (by decide)
  | finish k =>
    obtain ⟨job, hjob, -⟩ := Option.bind_eq_some_iff.mp hstep
    rw [h.idle] at hjob
    cases hjob

theorem run_gone {es : List Event} (h : Gone s) (hrun : run (step z) s es = some t) :
    Gone t ∧ t.ended = es.foldl Ended.step s.ended := by
  induction es generalizing s with
  | nil =>
    obtain rfl := Option.some.inj hrun
    exact ⟨h, rfl⟩
  | cons e es ih =>
    obtain ⟨u, hstep, hrun⟩ := run_cons.mp hrun
    obtain ⟨hgone, hended⟩ := gone_step h hstep
    rw [List.foldl_cons, ← hended]
    exact ih hgone hrun

theorem Inv.gone (hinv : Inv s) (hstopped : s.stopped = true) (hnone : s.mClient = none) : Gone s := by
  refine ⟨hstopped, ?_, hinv.made hstopped, ?_, hinv.later⟩
  · rw [List.eq_nil_iff_forall_not_mem]
    intro job hjob
    have halive := hinv.safe.2 job hjob
    rw [hnone] at halive
    cases halive
  · intro i hi
    rw [hnone] at hi
    cases hi

/-- A client that has been stopped never gets connected again, whatever `Start` returns:
all that is put into its queue are the reports of its own further `Stop`s. -/
theorem run_ended {es fs : List Event} (hwaits : Along (step z) Waits initial es)
    (hrun : run (step z) initial es = some s) (hstopped : s.stopped = true) (hnone : s.mClient = none)
    (hrest : run (step z) s fs = some t) :
    t.isConnected = false ∧ t.ended = fs.foldl Ended.step s.ended := by
  have hinv : Inv s := run_invariant_along step_inv hwaits hrun inv_initial
  obtain ⟨hgone, hended⟩ := run_gone (hinv.gone hstopped hnone) hrest
  exact ⟨hgone.isConnected, hended⟩

end Ended

def starting : Event :=
  .start true (HXMessagePackage.filled LinkID.zero 0 0 [] (Nat.zero_le _)) ⟨0, 0, 0, 0, 0, 0, 0⟩

def lifetime : List Event := [starting, .enter, .begin 0 (.connect none), .finish 0, .stop]

theorem waits_lifetime : Along (step Zlib.refusing) Waits initial lifetime := by
  refine ⟨trivial, ?_⟩
  intro s hstart
  obtain rfl := Option.some.inj hstart
  refine ⟨trivial, ?_⟩
  intro s henter
  obtain rfl := Option.some.inj henter
  refine ⟨trivial, ?_⟩
  intro s hbegin
  obtain rfl := Option.some.inj hbegin
  refine ⟨trivial, ?_⟩
  intro s hfinish
  obtain rfl := Option.some.inj hfinish
  exact ⟨fun _ => rfl, fun _ _ => trivial⟩

theorem run_ended_again : ∃ s t, run (step Zlib.refusing) initial lifetime = some s ∧
    run (step Zlib.refusing) s [starting, .leave, .enter, .stop] = some t ∧ t.isConnected = false ∧
      t.ended = [starting, .leave, .enter, .stop].foldl Ended.step s.ended :=
  ⟨_, _, rfl, rfl, run_ended waits_lifetime rfl rfl rfl rfl⟩

end HXService.ClientLifeCycle
