import HXService.Faults
import HXService.Lib.Runs
import HXService.Lib.Tags
import HXService.Sends
import HXService.Upkeep

/-! The seat numbers of the players of a scene server, over the runs of its main loop.
A client tells its own; nothing tests what it tells. -/

namespace HXService.Seats
open Bytes Runs PlayerManager SceneServer Tags

-- `MIN_SEAT_NUMBER` and `MAX_SEAT_NUMBER`, of which the code makes no use
def minSeatNumber : Int32 := 1
def maxSeatNumber : Int32 := 30

def IsSeat (seatNumber : Int32) : Prop := minSeatNumber ≤ seatNumber ∧ seatNumber ≤ maxSeatNumber

instance (seatNumber : Int32) : Decidable (IsSeat seatNumber) := inferInstanceAs (Decidable (_ ∧ _))

/-- A seat is in range, and the player found by it is the only one in it. -/
structure Identify (m : PlayerManager) : Prop where
  range : ∀ ply ∈ m.players, ply.mSeatNumber ≠ 0 → IsSeat ply.mSeatNumber
  distinct : m.players.Pairwise fun a b => a.mSeatNumber = b.mSeatNumber → a.mSeatNumber = 0
  found : ∀ ply ∈ m.players, ply.mSeatNumber ≠ 0 →
    m.findPlayerBySeatNumber ply.mSeatNumber = some ply ∧
      m.players.filter (·.mSeatNumber = ply.mSeatNumber) = [ply]

/-! ## The server and what the players have told

`told` has an entry for each player: the seat number he told last, if he told one. -/

structure State (σ : Type) where
  server : PlayerManager × σ
  told : List (Option Int32)

def seatIn (pack : HXMessagePackage) : Option Int32 :=
  (bodyBlock pack 4).toOption.map fun seatNum => int32OfBytes seatNum.bytes

def IsTellReady (pack : HXMessagePackage) : Prop :=
  pack.header.id = idUserLogin ∧ pack.header.id2 = c2sTellReady

variable {σ : Type} (net : Network σ) (z : Zlib)

def State.note (st : State σ) : Event → List (Option Int32)
  | .client pack _ =>
    let i := st.server.1.players.findIdx (·.mPlyID = pack.mLinkid.sid.toNat)
    if pack.header.id = idConnect then st.told ++ [none]
    else if pack.header.id = idDisconnect then st.told.eraseIdx i
    else if IsTellSeatNum pack then st.told.set i (seatIn pack)
    else st.told
  | .center _ => st.told

def step (st : State σ) (e : Event) : Option (State σ) :=
  (SceneServer.step net z st.server e).map fun server => ⟨server, st.note e⟩

def start (flvSeqHeaderChange : Bool) (sceneServerID : Block 32) (s : σ) : State σ :=
  ⟨(PlayerManager.new flvSeqHeaderChange sceneServerID, s), []⟩

/-- Whom `FindPlayerBySeatNumber` finds, and what he has told. -/
def State.found (st : State σ) (seatNumber : Int32) : Option (Player × Option Int32) :=
  (st.server.1.players.zip st.told).find? (·.1.mSeatNumber = seatNumber)

theorem fits_profile (ply : Player) : ply.mProfileInfo.bytes.length ≤ maxBodyLength := by
  rw [ProfileInfo.length_bytes]
  decide

def plyReady (m : PlayerManager) (ply : Player) : List Sent :=
  m.players.map fun other =>
    command idUserLogin s2cPlyReady ply.mProfileInfo.bytes (fits_profile ply) other.mLinkID

/-- Whatever is sent on a message that says a seat is ready announces a player who has told
just that seat; his profile has it, too. -/
def AnnouncesWell (st : State σ) : Event → Prop
  | .client pack given => IsTellReady pack → ∀ seatNumber, seatIn pack = some seatNumber →
    ∀ out, handle Network.notebook st.server.1 pack given [] = .ok out → out.2 ≠ [] →
      ∃ ply told, st.found seatNumber = some (ply, told) ∧ out.2 = plyReady st.server.1 ply ∧
        told = some seatNumber ∧ ply.mProfileInfo.mSeatNumber = seatNumber
  | .center _ => True

/-- A listed player tells 0, or a seat in range that no other has; nobody says that seat 0
is ready while it is a VIP that has told none who would be found. -/
def Acceptable (st : State σ) : Event → Prop
  | .client pack _ =>
    (IsTellSeatNum pack → ∀ seatNumber, seatIn pack = some seatNumber →
      ∀ ply, st.server.1.findPlayer pack.mLinkid.sid.toNat = some ply → seatNumber ≠ 0 →
        IsSeat seatNumber ∧
          ∀ other ∈ Roster.remove Player.mPlyID pack.mLinkid.sid.toNat st.server.1.players,
            other.mSeatNumber ≠ seatNumber) ∧
    (IsTellReady pack → seatIn pack = some 0 →
      ∀ ply, st.found 0 = some (ply, none) → ply.mUserType ≠ vip)
  | .center _ => True

/-! ## The seats of a list of players -/

def seats (m : PlayerManager) : List Int32 := m.players.map Player.mSeatNumber

theorem identify_iff {m : PlayerManager} : Identify m ↔ Apart IsSeat (seats m) := by
  constructor
  · intro h
    exact ⟨List.forall_mem_map.mpr h.range, List.pairwise_map.mpr h.distinct⟩
  · intro h
    refine ⟨List.forall_mem_map.mp h.valid, List.pairwise_map.mp h.distinct, ?_⟩
    intro ply hply hne
    have honly := filter_tag h hply hne
    refine ⟨?_, honly⟩
    unfold findPlayerBySeatNumber Roster.find
    rw [← List.head?_filter, honly]
    rfl

/-! ## What the messages do -/

structure SameSeat (ply ply' : Player) : Prop where
  mSeatNumber : ply'.mSeatNumber = ply.mSeatNumber
  profile : ply'.mProfileInfo.mSeatNumber = ply.mProfileInfo.mSeatNumber

theorem lasting_sameSeat : Lasting SameSeat where
  refl _ := ⟨rfl, rfl⟩
  bound _ _ := ⟨rfl, rfl⟩
  userType _ _ := ⟨rfl, rfl⟩
  transInfo _ _ := ⟨rfl, rfl⟩
  headerFlag _ := ⟨rfl, rfl⟩

section Messages
variable {net z} {m m' : PlayerManager} {pack : HXMessagePackage} {given : Given} {s : σ}
variable {out : PlayerManager × σ}

theorem seats_kept (h : KeptBy SameSeat m m') : seats m' = seats m := by
  unfold seats
  have hplayers := h.players
  generalize m.players = xs at hplayers
  generalize m'.players = ys at hplayers
  induction hplayers with
  | nil => rfl
  | cons hsame _ ih => rw [List.map_cons, List.map_cons, hsame.mSeatNumber, ih]

theorem handle_tellSeatNum (hpack : IsTellSeatNum pack) (h : handle net m pack given s = .ok out) :
    ∃ seatNumber, seatIn pack = some seatNumber ∧
      out.1 = (m.updatePlayerSeatNumber pack.mLinkid.sid.toNat seatNumber).2 := by
  rw [handle_userLogin hpack.1, SceneServer.handleUserLogin, if_pos hpack.2,
    SceneServer.handleTellSeatNum] at h
  obtain ⟨seatNum, hseat, h⟩ := bind_eq_ok.mp h
  obtain ⟨s', -, h⟩ := bind_eq_ok.mp h
  refine ⟨int32OfBytes seatNum.bytes, ?_, ?_⟩
  · rw [seatIn, hseat]
    rfl
  · rw [← Except.ok.inj h]

theorem handle_tellSeatNum_of (hpack : IsTellSeatNum pack) {seatNumber : Int32}
    (hseat : seatIn pack = some seatNumber) : ∃ s', handle net m pack given s =
      .ok ((m.updatePlayerSeatNumber pack.mLinkid.sid.toNat seatNumber).2, s') := by
  obtain ⟨seatNum, hblock, -⟩ := Option.map_eq_some_iff.mp hseat
  have hreturns : Returns (handle net m pack given s) := by
    rw [handle_userLogin hpack.1, SceneServer.handleUserLogin, if_pos hpack.2]
    exact returns_handleTellSeatNum ⟨seatNum, mem_toOption hblock⟩
  obtain ⟨out, hout⟩ := hreturns
  obtain ⟨seatNumber', hseat', hm⟩ := handle_tellSeatNum hpack hout
  rw [hseat] at hseat'
  refine ⟨out.2, ?_⟩
  rw [hout, Option.some.inj hseat', ← hm]

theorem seats_told {plyId : Nat} {ply : Player} {seatNumber : Int32}
    (hply : m.findPlayer plyId = some ply) :
    (seats (m.updatePlayerSeatNumber plyId seatNumber).2).Perm
      (seatNumber :: (Roster.remove Player.mPlyID plyId m.players).map Player.mSeatNumber) :=
  (Roster.perm_modify hply).map Player.mSeatNumber

theorem apart_told_iff {plyId : Nat} {ply : Player} {seatNumber : Int32} (h : Apart IsSeat (seats m))
    (hply : m.findPlayer plyId = some ply) :
    Apart IsSeat (seats (m.updatePlayerSeatNumber plyId seatNumber).2) ↔
      (seatNumber ≠ 0 → IsSeat seatNumber ∧
        ∀ other ∈ Roster.remove Player.mPlyID plyId m.players, other.mSeatNumber ≠ seatNumber) := by
  have hothers : Apart IsSeat ((Roster.remove Player.mPlyID plyId m.players).map Player.mSeatNumber) :=
    (apart_cons.mp (h.perm ((Roster.perm_remove hply).map Player.mSeatNumber))).2
  have hmem : seatNumber ∉ (Roster.remove Player.mPlyID plyId m.players).map Player.mSeatNumber ↔
      ∀ other ∈ Roster.remove Player.mPlyID plyId m.players, other.mSeatNumber ≠ seatNumber := by
    simp only [List.mem_map, not_exists, not_and, ne_eq]
  rw [← hmem]
  constructor
  · intro hafter
    exact (apart_cons.mp (hafter.perm (seats_told hply))).1
  · intro hnumber
    exact (apart_cons.mpr ⟨hnumber, hothers⟩).perm (seats_told hply).symm

end Messages

/-! ## What was told -/

/-- A player's seat number is what he told last, and 0 before. -/
structure Told (ply : Player) (told : Option Int32) : Prop where
  mSeatNumber : ply.mSeatNumber = told.getD 0
  profile : ply.mProfileInfo.mSeatNumber = told.getD 0

structure Inv (st : State σ) : Prop where
  apart : Apart IsSeat (seats st.server.1)
  told : List.Forall₂ Told st.server.1.players st.told

section Steps
variable {net z} {st st' : State σ} {pack : HXMessagePackage} {given : Given} {server : PlayerManager × σ}
variable {seatNumber : Int32} {ply : Player} {told : Option Int32}

theorem inv_start {flvSeqHeaderChange : Bool} {sceneServerID : Block 32} {s : σ} :
    Inv (start flvSeqHeaderChange sceneServerID s) := ⟨apart_nil, .nil⟩

theorem told_kept {m m' : PlayerManager} {ts : List (Option Int32)}
    (htold : List.Forall₂ Told m.players ts) (h : KeptBy SameSeat m m') :
    List.Forall₂ Told m'.players ts := by
  refine Roster.forall₂_change htold h.players ?_
  rintro ply t ply' hsame ⟨hseat, hprofile⟩
  exact ⟨hsame.mSeatNumber.trans hseat, hsame.profile.trans hprofile⟩

theorem told_client (htold : List.Forall₂ Told st.server.1.players st.told)
    (hhandle : handle net st.server.1 pack given st.server.2 = .ok server) :
    List.Forall₂ Told server.1.players (st.note (.client pack given)) := by
  unfold State.note
  dsimp only
  split_ifs with hconnect hdisconnect hpack
  · rw [handle_connect hconnect hhandle]
    exact List.rel_append htold (.cons ⟨rfl, rfl⟩ .nil)
  · rw [handle_disconnect hdisconnect hhandle, deletePlayer, Roster.remove_eq_eraseIdx]
    exact Roster.forall₂_eraseIdx htold _
  · obtain ⟨seatNumber, hseat, hm⟩ := handle_tellSeatNum hpack hhandle
    rw [hm, hseat]
    exact Roster.forall₂_modify_set htold fun _ => ⟨rfl, rfl⟩
  · refine told_kept htold (handle_keptBy lasting_sameSeat ?_ hconnect hdisconnect hhandle)
    exact fun htell => absurd htell hpack

theorem apart_client (h : Inv st)
    (hacceptable : Acceptable st (.client pack given))
    (hhandle : handle net st.server.1 pack given st.server.2 = .ok server) :
    Apart IsSeat (seats server.1) := by
  by_cases hconnect : pack.header.id = idConnect
  · rw [handle_connect hconnect hhandle]
    show Apart IsSeat ((st.server.1.players ++ [_]).map Player.mSeatNumber)
    rw [List.map_append]
    exact h.apart.concat_zero
  by_cases hdisconnect : pack.header.id = idDisconnect
  · rw [handle_disconnect hdisconnect hhandle]
    exact h.apart.sublist ((List.eraseP_sublist).map Player.mSeatNumber)
  by_cases hpack : IsTellSeatNum pack
  · obtain ⟨seatNumber, hseat, hm⟩ := handle_tellSeatNum hpack hhandle
    rw [hm]
    cases hply : st.server.1.findPlayer pack.mLinkid.sid.toNat with
    | none =>
      show Apart IsSeat ((Roster.modify _ _ _ _).map Player.mSeatNumber)
      rw [Roster.modify_of_find_none hply]
      exact h.apart
    | some ply => exact (apart_told_iff h.apart hply).mpr (hacceptable.1 hpack seatNumber hseat ply hply)
  · have hkept := handle_keptBy lasting_sameSeat (fun htell => absurd htell hpack) hconnect hdisconnect hhandle
    rw [seats_kept hkept]
    exact h.apart

theorem step_inv (st : State σ) (e : Event) (st' : State σ) (h : Inv st) (hacceptable : Acceptable st e)
    (hstep : step net z st e = some st') : Inv st' := by
  obtain ⟨server, hserver, rfl⟩ := Option.map_eq_some_iff.mp hstep
  cases e with
  | client pack given =>
    have hhandle : handle net st.server.1 pack given st.server.2 = .ok server := mem_toOption hserver
    exact ⟨apart_client h hacceptable hhandle, told_client h.told hhandle⟩
  | center pack =>
    have hkept := handleCenter_keptBy lasting_sameSeat (mem_toOption hserver)
    refine ⟨?_, told_kept h.told hkept⟩
    show Apart IsSeat (seats server.1)
    rw [seats_kept hkept]
    exact h.apart

/-! ## Who is announced -/

theorem told_of_found (h : Inv st) (hfound : st.found seatNumber = some (ply, told)) :
    ply.mSeatNumber = seatNumber ∧ Told ply told := by
  unfold State.found at hfound
  have hseat := List.find?_some hfound
  exact ⟨of_decide_eq_true hseat, List.forall₂_zip h.told (List.mem_of_find?_eq_some hfound)⟩

/-! `State.found` is whom the message is about. -/

theorem findPlayerBySeatNumber_eq (h : Inv st) :
    st.server.1.findPlayerBySeatNumber seatNumber = (st.found seatNumber).map Prod.fst := by
  have hplayers : (st.server.1.players.zip st.told).map Prod.fst = st.server.1.players :=
    List.map_fst_zip h.told.length_eq.le
  unfold findPlayerBySeatNumber Roster.find State.found
  conv_lhs => rw [← hplayers, List.find?_map]
  rfl

def State.announced (st : State σ) (seatNumber : Int32) : List Sent :=
  match st.found seatNumber with
  | some (ply, _) => if ply.mUserType = vip then plyReady st.server.1 ply else []
  | none => []

theorem sendUserReadyMsg_eq (h : Inv st) {τ : Type} {net : Network τ} (t : τ) :
    st.server.1.sendUserReadyMsg net seatNumber t = .ok (net.performAll t (st.announced seatNumber)) := by
  unfold sendUserReadyMsg State.announced
  rw [findPlayerBySeatNumber_eq h]
  cases st.found seatNumber with
  | none => rfl
  | some found =>
    obtain ⟨ply, told⟩ := found
    by_cases hvip : ply.mUserType = vip
    · simp only [Option.map_some, ne_eq, hvip, not_true_eq_false, if_false, if_true]
      exact sendCmdTo_eq (fits_profile ply) st.server.1.players
    · simp only [Option.map_some, ne_eq, hvip, not_false_eq_true, if_true, if_false]
      rfl

theorem handle_tellReady (h : Inv st) (hpack : IsTellReady pack) (hseat : seatIn pack = some seatNumber)
    {τ : Type} {net : Network τ} (t : τ) : handle net st.server.1 pack given t =
      .ok (st.server.1, net.performAll t (st.announced seatNumber)) := by
  obtain ⟨seatNum, hblock, hnumber⟩ := Option.map_eq_some_iff.mp hseat
  have hother : c2sTellReady ≠ c2sTellSeatNum ∧ c2sTellReady ≠ c2sTellUserType ∧
      c2sTellReady ≠ c2sTellUserProfile := by decide
  rw [handle_userLogin hpack.1, SceneServer.handleUserLogin, hpack.2, if_neg hother.1,
    if_neg hother.2.1, if_neg hother.2.2, if_pos rfl, mem_toOption hblock, ok_bind, hnumber,
    sendUserReadyMsg_eq h]
  rfl

theorem plyReady_ne_nil (hfound : st.found seatNumber = some (ply, told)) :
    plyReady st.server.1 ply ≠ [] := by
  have hmem := List.mem_of_find?_eq_some hfound
  refine fun hnil => List.ne_nil_of_mem (List.of_mem_zip hmem).1 ?_
  exact List.map_eq_nil_iff.mp hnil

/-- Whoever is sent has told the number, unless the number is 0 and he has told none. -/
theorem announces_iff (h : Inv st) :
    AnnouncesWell st (.client pack given) ↔ (IsTellReady pack → seatIn pack = some 0 →
      ∀ ply, st.found 0 = some (ply, none) → ply.mUserType ≠ vip) := by
  constructor
  · intro hannounces hpack hzero ply hfound hvip
    have hsent : st.announced 0 = plyReady st.server.1 ply := by
      rw [State.announced, hfound]
      exact if_pos hvip
    obtain ⟨_, told, hfound', -, htold, -⟩ := hannounces hpack 0 hzero _
      (handle_tellReady h hpack hzero []) (by
        rw [Network.performAll_notebook, hsent]
        exact plyReady_ne_nil hfound)
    rw [hfound] at hfound'
    exact nomatch (congrArg Prod.snd (Option.some.inj hfound')).trans htold
  · intro hready hpack seatNumber hseat out hout hsent
    rw [handle_tellReady h hpack hseat] at hout
    obtain rfl := Except.ok.inj hout
    rw [Network.performAll_notebook, List.nil_append] at hsent ⊢
    unfold State.announced at hsent ⊢
    cases hfound : st.found seatNumber with
    | none =>
      rw [hfound] at hsent
      exact absurd rfl hsent
    | some found =>
      obtain ⟨ply, told⟩ := found
      rw [hfound] at hsent
      have hvip : ply.mUserType = vip := by
        by_contra hvip
        exact hsent (if_neg hvip)
      obtain ⟨hply, htold⟩ := told_of_found h hfound
      refine ⟨ply, told, rfl, if_pos hvip, ?_⟩
      cases told with
      | some n =>
        have hn : n = seatNumber := htold.mSeatNumber.symm.trans hply
        exact ⟨congrArg some hn, htold.profile.trans hn⟩
      | none =>
        have hzero : seatNumber = 0 := hply.symm.trans htold.mSeatNumber
        subst hzero
        exact absurd hvip (hready hpack hseat ply hfound)

theorem acceptable_iff (st : State σ) (e : Event) (h : Inv st) :
    ((∀ st', step net z st e = some st' → Identify st'.server.1) ∧ AnnouncesWell st e) ↔
      Acceptable st e := by
  constructor
  · rintro ⟨hidentify, hannounces⟩
    cases e with
    | client pack given =>
      refine ⟨?_, (announces_iff h).mp hannounces⟩
      intro hpack seatNumber hseat ply hply
      obtain ⟨s', hhandle⟩ := @handle_tellSeatNum_of _ net st.server.1 pack given st.server.2 hpack _ hseat
      have hafter := hidentify ⟨_, st.note (.client pack given)⟩
        (Option.map_eq_some_iff.mpr ⟨_, congrArg Except.toOption hhandle, rfl⟩)
      exact (apart_told_iff h.apart hply).mp (identify_iff.mp hafter)
    | center pack => trivial
  · intro hacceptable
    refine ⟨fun st' hstep => identify_iff.mpr (step_inv st e st' h hacceptable hstep).apart, ?_⟩
    cases e with
    | client pack given => exact (announces_iff h).mpr hacceptable.2
    | center pack => trivial

end Steps

/-- Seats identify the players of a run and the ready messages name who is meant, exactly
when all that is told is acceptable. -/
theorem seats_iff {flvSeqHeaderChange : Bool} {sceneServerID : Block 32} {s : σ} {es : List Event} :
    (Always (step net z) (Identify ·.server.1) (start flvSeqHeaderChange sceneServerID s) es ∧
      Along (step net z) AnnouncesWell (start flvSeqHeaderChange sceneServerID s) es) ↔
    Along (step net z) Acceptable (start flvSeqHeaderChange sceneServerID s) es := by
  have hinv : Inv (start flvSeqHeaderChange sceneServerID s) := inv_start
  rw [← along_iff_of_kept acceptable_iff step_inv hinv, always_iff_along_next, along_and_iff, and_assoc]
  exact and_iff_right (identify_iff.mpr hinv.apart)

def tellSeatNum (sid : UInt16) (seatNumber : Int32) : HXMessagePackage :=
  HXMessagePackage.filled ⟨sid, 0⟩ idUserLogin c2sTellSeatNum (int32Bytes seatNumber) (fits_int32 seatNumber)

def telling (sid : UInt16) (seatNumber : Int32) : Event :=
  .client (tellSeatNum sid seatNumber) ⟨false, TransformInfo.ofBytes [], 0⟩

theorem step_telling {sid : UInt16} {seatNumber : Int32}
    (h : seatIn (tellSeatNum sid seatNumber) = some seatNumber) (st : State σ) :
    ∃ s', step net z st (telling sid seatNumber) =
      some ⟨((st.server.1.updatePlayerSeatNumber sid.toNat seatNumber).2, s'),
        st.note (telling sid seatNumber)⟩ := by
  obtain ⟨s', hhandle⟩ := @handle_tellSeatNum_of _ net st.server.1 (tellSeatNum sid seatNumber)
    ⟨false, TransformInfo.ofBytes [], 0⟩ st.server.2 ⟨rfl, rfl⟩ _ h
  exact ⟨s', Option.map_eq_some_iff.mpr ⟨_, congrArg Except.toOption hhandle, rfl⟩⟩

theorem not_seats : ¬Always (step Network.notebook Zlib.refusing) (Identify ·.server.1)
    (start false (Block.zeros 32) []) [entering 1, entering 2, telling 1 5, telling 2 5] := by
  intro h
  have hentered := (h.2 _ rfl).2 _ rfl
  obtain ⟨s, hfirst⟩ := step_telling Network.notebook Zlib.refusing
    (by decide +kernel : seatIn (tellSeatNum 1 5) = some 5) _
  have htold := hentered.2 _ hfirst
  obtain ⟨s', hsecond⟩ := step_telling Network.notebook Zlib.refusing
    (by decide +kernel : seatIn (tellSeatNum 2 5) = some 5) _
  have hlast := (htold.2 _ hsecond).distinct
  have hzero := (List.pairwise_cons.mp hlast).1 _ (List.mem_singleton_self _) rfl
  exact absurd hzero (by decide)

end HXService.Seats
