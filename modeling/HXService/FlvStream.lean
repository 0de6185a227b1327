import HXService.Protocol

/-! The FLV stream as both managers send it: the cached sequence headers, and the
loop that gives every receiver the headers before the stream package. -/

namespace HXService
open Bytes

/-- `std::map<uint8_t, FlvSeqHeader>`; the data of an entry. -/
abbrev FlvSeqHeaderMap := UInt8 → Option (List UInt8)

namespace FlvSeqHeaderMap

def empty : FlvSeqHeaderMap := fun _ => none

-- the entries in the order of an iterator
def data (m : FlvSeqHeaderMap) : List (List UInt8) :=
  (List.range 256).filterMap fun k => m (UInt8.ofNat k)

instance : DecidableEq FlvSeqHeaderMap := fun m m' =>
  decidable_of_iff (∀ k : Fin 256, m (UInt8.ofFin k) = m' (UInt8.ofFin k)) <| by
    constructor
    · intro h
      funext k
      exact h k.toFin
    · rintro rfl _
      rfl

end FlvSeqHeaderMap

/-- `CacheFlvSeqHeaderData` on the map and the change flag. -/
def cacheFlvSeqHeader (m : FlvSeqHeaderMap) (flvSeqHeaderChange : Bool) (data : List UInt8) :
    FlvSeqHeaderMap × Bool :=
  match data with
  | [] => (m, flvSeqHeaderChange)
  | dt :: _ => (Function.update m dt (some data), flvSeqHeaderChange || (m dt).isSome)

section Send
variable {σ : Type} (net : Network σ) (z : Zlib)

/-- The loop of `SendFlvSeqHeaderData`: one package object, filled for each entry
in turn, until a send is refused. -/
def sendFlvSeqHeaders (linkID : LinkID) : HXBigMessageQueue → σ → List (List UInt8) → Checked (Bool × σ)
  | _, s, [] => .ok (true, s)
  | bigSeqHeaderPkt, s, data :: rest => do
    let bigSeqHeaderPkt ← bigSeqHeaderPkt.setBigPackage z idFLVSequenceHeader 0 data 0
    let sent := net.send s linkID (.big bigSeqHeaderPkt)
    if sent.1 then sendFlvSeqHeaders linkID bigSeqHeaderPkt sent.2 rest else pure (false, sent.2)

-- `CreateBigPackage()`; `SetBigPackage` overwrites the header before it is read
def createBigPackage : HXBigMessageQueue := HXBigMessageQueue.new ⟨0, 0, 0, 0, 0, 0, 0⟩

def sendFlvSeqHeaderData (m : FlvSeqHeaderMap) (linkID : LinkID) (s : σ) : Checked (Bool × σ) :=
  sendFlvSeqHeaders net z linkID createBigPackage s m.data

structure Receiving (α : Type) where
  linkID : α → LinkID
  skipped : α → Bool
  flag : α → Bool
  setFlag : α → α

/-- Headers first when the receiver has had none or when they have changed. The
change flag is cleared once headers have been sent to anybody. -/
def sendFlvHeadersTo {α : Type} (r : Receiving α) (m : FlvSeqHeaderMap) (flvSeqHeaderChange : Bool)
    (s : σ) (user : α) : Checked (α × Bool × σ) :=
  if !r.flag user || flvSeqHeaderChange then do
    let sent ← sendFlvSeqHeaderData net z m (r.linkID user) s
    pure (if sent.1 then r.setFlag user else user, false, sent.2)
  else pure (user, flvSeqHeaderChange, s)

/-- The loop of `SendFlvStream`: to every receiver the headers it needs, what goes
before the stream, and the stream. -/
def sendFlvStreamTo {α : Type} (r : Receiving α) (m : FlvSeqHeaderMap)
    (before : Nat → α → List Outgoing) (bigDataPkt : HXBigMessageQueue) :
    Nat → Bool → σ → List α → Checked (List α × Bool × σ)
  | _, flvSeqHeaderChange, s, [] => .ok ([], flvSeqHeaderChange, s)
  | i, flvSeqHeaderChange, s, user :: rest =>
    if r.skipped user then do
      let out ← sendFlvStreamTo r m before bigDataPkt (i + 1) flvSeqHeaderChange s rest
      pure (user :: out.1, out.2)
    else do
      let headers ← sendFlvHeadersTo net z r m flvSeqHeaderChange s user
      let s := (before i user ++ [Outgoing.big bigDataPkt]).foldl
        (fun s msg => (net.send s (r.linkID user) msg).2) headers.2.2
      let out ← sendFlvStreamTo r m before bigDataPkt (i + 1) headers.2.1 s rest
      pure (headers.1 :: out.1, out.2)

end Send

section Stream
variable {σ α β : Type} {net : Network σ} {z : Zlib} {r : Receiving α} {m : FlvSeqHeaderMap}

theorem sendFlvHeadersTo_keeps {R : α → α → Prop} (hrefl : ∀ a, R a a) (hflag : ∀ a, R a (r.setFlag a))
    {change : Bool} {s : σ} {user : α} {out : α × Bool × σ}
    (h : sendFlvHeadersTo net z r m change s user = .ok out) : R user out.1 := by
  rw [sendFlvHeadersTo] at h
  split_ifs at h
  · obtain ⟨sent, -, h⟩ := bind_eq_ok.mp h
    rw [← Except.ok.inj h]
    dsimp only
    split_ifs
    · exact hflag user
    · exact hrefl user
  · rw [← Except.ok.inj h]
    exact hrefl user

theorem forall₂_sendFlvStreamTo {R : α → α → Prop} (hrefl : ∀ a, R a a) (hflag : ∀ a, R a (r.setFlag a))
    {before : Nat → α → List Outgoing} {pkt : HXBigMessageQueue} {i : Nat} {change : Bool} {s : σ}
    {users : List α} {out : List α × Bool × σ}
    (h : sendFlvStreamTo net z r m before pkt i change s users = .ok out) :
    List.Forall₂ R users out.1 := by
  induction users generalizing i change s out with
  | nil =>
    rw [sendFlvStreamTo] at h
    rw [← Except.ok.inj h]
    exact .nil
  | cons user rest ih =>
    rw [sendFlvStreamTo] at h
    split_ifs at h with hskip
    · obtain ⟨out', hout, h⟩ := bind_eq_ok.mp h
      rw [← Except.ok.inj h]
      exact .cons (hrefl user) (ih hout)
    · obtain ⟨headers, hheaders, h⟩ := bind_eq_ok.mp h
      obtain ⟨out', hout, h⟩ := bind_eq_ok.mp h
      rw [← Except.ok.inj h]
      exact .cons (sendFlvHeadersTo_keeps hrefl hflag hheaders) (ih hout)

theorem map_sendFlvStreamTo (g : α → β) (hg : ∀ a, g (r.setFlag a) = g a)
    {before : Nat → α → List Outgoing} {pkt : HXBigMessageQueue} {i : Nat} {change : Bool} {s : σ}
    {users : List α} {out : List α × Bool × σ}
    (h : sendFlvStreamTo net z r m before pkt i change s users = .ok out) :
    out.1.map g = users.map g := by
  have hall := @forall₂_sendFlvStreamTo σ α net z r m (fun a b => g a = g b) (fun _ => rfl)
    (fun a => (hg a).symm) before pkt i change s users out h
  rw [← List.forall₂_map_right_iff, ← List.forall₂_map_left_iff, List.forall₂_eq_eq_eq] at hall
  exact hall.symm

end Stream
end HXService
