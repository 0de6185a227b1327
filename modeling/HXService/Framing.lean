import HXService.AsioClient
import HXService.AsioServer

/-! Reading a byte stream header by header and body by body, on either side of a
connection: when every read stays inside `data_`. -/

namespace HXService
open Bytes

/-! ## The loop

A side reads into `read_msg_`. `handedOn` is the package `handle_read_body` gives
to the queue, if any. -/

structure Side (σ : Type) where
  readMsg : σ → HXMessagePackage
  readHeader : σ → List UInt8 → σ
  readBody : σ → List UInt8 → Checked σ
  handedOn : σ → List UInt8 → Option HXMessagePackage
  header_readHeader : ∀ s bytes, (readMsg (readHeader s bytes)).header = Header.ofBytes bytes
  header_handedOn : ∀ s bytes pack, handedOn s bytes = some pack → pack.header = (readMsg s).header

def serverSide (z : Zlib) (link : SessionPtr) : Side HXLibAsioServer where
  readMsg s := (s.mSessions link).readMsg
  readHeader s bytes := s.handleReadHeader link (some bytes)
  readBody s bytes := s.handleReadBody z link (some bytes)
  handedOn s bytes :=
    if h : bytes.length ≤ maxBodyLength ∧ (s.mSessions link).readMsg.header.id ≠ idHeartbeat then
      some ((s.mSessions link).received bytes h.1)
    else none
  header_readHeader s bytes := by
    rw [HXLibAsioServer.handleReadHeader, HXLibAsioServer.mSessions_modifySession_self]
    rfl
  header_handedOn s bytes pack h := by
    split_ifs at h
    rw [← Option.some.inj h]
    rfl

def clientSide (z : Zlib) : Side HXLibClientAccept where
  readMsg := HXLibClientAccept.readMsg
  readHeader c bytes := c.handleReadHeader (some bytes)
  readBody c bytes := c.handleReadBody z (some bytes)
  handedOn c bytes :=
    if h : bytes.length ≤ maxBodyLength ∧ c.readMsg.header.id ≠ idHeartbeat then
      some (c.received bytes h.1)
    else none
  header_readHeader _ _ := rfl
  header_handedOn c bytes pack h := by
    split_ifs at h
    rw [← Option.some.inj h]
    rfl

namespace Framing

/-- What happens while a stream is read: a header has been read, a body of so
many bytes is requested at `data_ + 8`, a package is handed on, the side
disconnects, bytes are written behind `data_`, a handler faults otherwise. -/
inductive Action
  | header (header : Header)
  | bodyRead (length : Nat)
  | handedOn (pack : HXMessagePackage)
  | left
  | overrun
  | fault

variable {σ : Type} (side : Side σ)

/-- The actions on a stream after which the peer closes the connection. -/
def actions (s : σ) (stream : List UInt8) : List Action :=
  if stream.length < headerLength then [.left]
  else
    let s := side.readHeader s (stream.take headerLength)
    let length := (side.readMsg s).bodyLength
    let rest := stream.drop headerLength
    .header (side.readMsg s).header :: .bodyRead length ::
      if maxBodyLength < min length rest.length then [.overrun]
      else if rest.length < length then [.left]
      else
        ((side.handedOn s (rest.take length)).map .handedOn).toList ++
          match side.readBody s (rest.take length) with
          | .ok s => actions s (rest.drop length)
          | .error _ => [.fault]
termination_by stream.length
decreasing_by
  have hpos : 0 < headerLength := by decide
  simp only [List.length_drop]
  omega

/-- Every body read and every package handed on fits, nothing is written behind
`data_`, and a header that does not fit is followed by the disconnection. -/
structure Safe (as : List Action) : Prop where
  bodyRead : ∀ length, .bodyRead length ∈ as → length ≤ maxBodyLength
  handedOn : ∀ pack, .handedOn pack ∈ as → pack.header.InRange
  overrun : .overrun ∉ as
  refused : ∀ before header after, as = before ++ .header header :: after → ¬header.InRange →
    after = [.left]

/-- Every header the loop reaches announces a length that fits. -/
def WellFramed (s : σ) (stream : List UInt8) : Prop :=
  headerLength ≤ stream.length →
    let s := side.readHeader s (stream.take headerLength)
    let length := (side.readMsg s).bodyLength
    let rest := stream.drop headerLength
    (side.readMsg s).header.InRange ∧
      (length ≤ rest.length → ∀ t, side.readBody s (rest.take length) = .ok t →
        WellFramed t (rest.drop length))
termination_by stream.length
decreasing_by
  have hpos : 0 < headerLength := by decide
  simp only [List.length_drop]
  omega

/-! ## Safe lists of actions -/

def Action.Fits : Action → Prop
  | .header h => h.InRange
  | .bodyRead length => length ≤ maxBodyLength
  | .handedOn pack => pack.header.InRange
  | .overrun => False
  | .left | .fault => True

section Actions
variable {a : Action} {as : List Action}

theorem safe_nil : Safe [] := by
  refine ⟨nofun, nofun, nofun, ?_⟩
  intro before header after h
  exact absurd (congrArg List.length h) (by simp)

theorem safe_cons (ha : a.Fits) : Safe (a :: as) ↔ Safe as := by
  constructor
  · intro h
    refine ⟨?_, ?_, ?_, ?_⟩
    · exact fun length hmem => h.bodyRead length (List.mem_cons_of_mem a hmem)
    · exact fun pack hmem => h.handedOn pack (List.mem_cons_of_mem a hmem)
    · exact fun hmem => h.overrun (List.mem_cons_of_mem a hmem)
    · rintro before header after rfl
      exact h.refused (a :: before) header after rfl
  · intro h
    refine ⟨?_, ?_, ?_, ?_⟩
    · intro length hmem
      rcases List.mem_cons.mp hmem with rfl | hmem
      · exact ha
      · exact h.bodyRead length hmem
    · intro pack hmem
      rcases List.mem_cons.mp hmem with rfl | hmem
      · exact ha
      · exact h.handedOn pack hmem
    · intro hmem
      rcases List.mem_cons.mp hmem with rfl | hmem
      · exact ha
      · exact h.overrun hmem
    · intro before header after heq hrange
      cases before with
      | nil =>
        obtain ⟨rfl, -⟩ := List.cons.inj heq
        exact absurd ha hrange
      | cons b before =>
        obtain ⟨-, rfl⟩ := List.cons.inj heq
        exact h.refused before header after rfl hrange

theorem safe_handedOn {pack : Option HXMessagePackage} (h : ∀ p, pack = some p → p.header.InRange) :
    Safe ((pack.map Action.handedOn).toList ++ as) ↔ Safe as := by
  cases pack with
  | none => exact Iff.rfl
  | some p => exact @safe_cons (.handedOn p) as (h p rfl)

end Actions

/-! ## The loop is safe exactly when the lengths fit -/

variable {side} {s : σ} {stream : List UInt8}

theorem actions_of_lt (h : stream.length < headerLength) : actions side s stream = [.left] := by
  rw [actions, if_pos h]

theorem safe_left : Safe [.left] := (@safe_cons .left [] trivial).mpr safe_nil

theorem safe_fault : Safe [.fault] := (@safe_cons .fault [] trivial).mpr safe_nil

theorem not_safe_of_not_inRange (h : headerLength ≤ stream.length)
    (hrange : ¬(side.readMsg (side.readHeader s (stream.take headerLength))).header.InRange) :
    ¬Safe (actions side s stream) := by
  intro hsafe
  rw [actions, if_neg (not_lt.mpr h)] at hsafe
  have hle := hsafe.bodyRead _ (List.mem_cons_of_mem _ List.mem_cons_self)
  exact hrange ((Header.sizeT_le_iff _).mp hle)

theorem safe_iff_wellFramed (side : Side σ) (s : σ) (stream : List UInt8) :
    Safe (actions side s stream) ↔ WellFramed side s stream := by
  induction hn : stream.length using Nat.strong_induction_on generalizing s stream with
  | _ n ih =>
    rw [WellFramed]
    by_cases hshort : stream.length < headerLength
    · rw [actions_of_lt hshort]
      exact iff_of_true safe_left fun h => absurd hshort (not_lt.mpr h)
    have hlong := not_lt.mp hshort
    rw [imp_iff_right hlong]
    by_cases hrange : (side.readMsg (side.readHeader s (stream.take headerLength))).header.InRange
    case neg => exact iff_of_false (not_safe_of_not_inRange hlong hrange) fun h => hrange h.1
    have hle : (side.readMsg (side.readHeader s (stream.take headerLength))).bodyLength ≤
      maxBodyLength :=
      HXMessagePackage.bodyLength_le hrange
    rw [actions, if_neg hshort]
    dsimp only
    generalize hs : side.readHeader s (stream.take headerLength) = t at *
    generalize hlength : (side.readMsg t).bodyLength = length at *
    rw [@safe_cons (.header (side.readMsg t).header) _ hrange, @safe_cons (.bodyRead length) _ hle,
      if_neg (by omega), and_iff_right hrange]
    by_cases hrest : (stream.drop headerLength).length < length
    · rw [if_pos hrest]
      exact iff_of_true safe_left fun h => absurd hrest (not_lt.mpr h)
    have hpack : ∀ pack, side.handedOn t ((stream.drop headerLength).take length) = some pack →
        pack.header.InRange := by
      intro pack hpack
      rw [side.header_handedOn _ _ _ hpack]
      exact hrange
    rw [if_neg hrest, imp_iff_right (not_lt.mp hrest), safe_handedOn hpack]
    cases hbody : side.readBody t ((stream.drop headerLength).take length) with
    | error e => exact iff_of_true safe_fault fun u hu => nomatch hu
    | ok u =>
      have hless : ((stream.drop headerLength).drop length).length < n := by
        have hpos : 0 < headerLength := by decide
        rw [List.length_drop, List.length_drop]
        omega
      dsimp only
      rw [ih _ hless u _ rfl]
      constructor
      · rintro h v hv
        obtain rfl := Except.ok.inj hv
        exact h
      · exact fun h => h u rfl

/-- Both sides: whatever stream a peer sends, the reads stay inside the buffer
exactly when no header that is reached announces a length that does not fit. -/
theorem framing_safe_iff (z : Zlib) :
    (∀ link s stream, Safe (actions (serverSide z link) s stream) ↔
      WellFramed (serverSide z link) s stream) ∧
    (∀ c stream, Safe (actions (clientSide z) c stream) ↔ WellFramed (clientSide z) c stream) :=
  ⟨fun link => safe_iff_wellFramed (serverSide z link), safe_iff_wellFramed (clientSide z)⟩

section Hostile
variable {h : Header} {body : List UInt8}

theorem header_read (side : Side σ) (s : σ) (h : Header) (body : List UInt8) :
    (side.readMsg (side.readHeader s ((h.bytes ++ body).take headerLength))).header = h := by
  have hlength : h.bytes.length = headerLength := Header.length_bytes h
  rw [side.header_readHeader, ← hlength, List.take_left]
  exact Header.ofBytes_bytes_self h

theorem not_safe_of_header (side : Side σ) (s : σ) (hrange : ¬h.InRange) :
    ¬Safe (actions side s (h.bytes ++ body)) := by
  apply not_safe_of_not_inRange
  · rw [List.length_append, Header.length_bytes]
    exact Nat.le_add_right _ _
  · rw [header_read]
    exact hrange

/-- With enough bytes behind such a header the buffer is overrun. -/
theorem overrun_of_header (side : Side σ) (s : σ) (hrange : ¬h.InRange)
    (hbody : maxBodyLength < body.length) :
    .overrun ∈ actions side s (h.bytes ++ body) := by
  have hlength : h.bytes.length = headerLength := Header.length_bytes h
  have hlong : ¬(h.bytes ++ body).length < headerLength := by
    rw [List.length_append, hlength]
    exact not_lt.mpr (Nat.le_add_right _ _)
  have hrest : (h.bytes ++ body).drop headerLength = body := by
    rw [← hlength, List.drop_left]
  have hsize : maxBodyLength < sizeT h.length :=
    not_le.mp fun hle => hrange ((Header.sizeT_le_iff h).mp hle)
  have hover : maxBodyLength < min (sizeT h.length) body.length := lt_min hsize hbody
  rw [actions, if_neg hlong]
  dsimp only
  rw [HXMessagePackage.bodyLength, header_read, hrest, if_pos hover]
  exact List.mem_cons_of_mem _ (List.mem_cons_of_mem _ List.mem_cons_self)

end Hostile

def hostile (length : Int32) : Header := ⟨1000, 0, length⟩

/-- A negative length is read as an enormous one, and one byte too many is
written behind the buffer, on either side. -/
theorem framing_overruns :
    ¬Safe (actions (serverSide Zlib.refusing 0) HXLibAsioServer.zeroed ((hostile (-1)).bytes ++ [])) ∧
    ¬Safe (actions (clientSide Zlib.refusing) HXLibClientAccept.zeroed ((hostile (-1)).bytes ++ [])) ∧
    .overrun ∈ actions (serverSide Zlib.refusing 0) HXLibAsioServer.zeroed
      ((hostile 32769).bytes ++ List.replicate 32769 0) ∧
    .overrun ∈ actions (clientSide Zlib.refusing) HXLibClientAccept.zeroed
      ((hostile 32769).bytes ++ List.replicate 32769 0) := by
  have hnegative : ¬(hostile (-1)).InRange := by decide
  have hlarge : ¬(hostile 32769).InRange := by decide
  have hbody : maxBodyLength < (List.replicate 32769 (0 : UInt8)).length := by
    rw [List.length_replicate]
    decide
  exact ⟨not_safe_of_header _ _ hnegative, not_safe_of_header _ _ hnegative,
    overrun_of_header _ _ hlarge hbody, overrun_of_header _ _ hlarge hbody⟩

end Framing
end HXService
