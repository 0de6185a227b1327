import HXService.ClientLists
import HXService.LeaveNotice
import HXService.Lib.Replica
import HXService.LocalSends
import HXService.Seats
import HXService.SvcTimer

/-! What the clients of a scene server know of its seats. A client reads the list it
gets when it connects, and from then on what is told to everybody. -/

namespace HXService.Views
open Bytes Runs PlayerManager SceneServer Seats ClientLists Tags

/-! ## Clients -/

def seatsIn : Nat → List UInt8 → List Int32
  | 0, _ => []
  | v + 1, p => int32OfBytes (p.drop 33) :: seatsIn v (p.drop ProfileInfo.size)

-- somebody is in the seat; 0 is none
def sit (seats : Finset Int32) (seat : Int32) : Finset Int32 := if seat = 0 then seats else insert seat seats

/-- The seats that are taken, as a client of the server `own` knows them, after one more
message of the server. States come from other servers, too. -/
def learn (own : Block 32) (seats : Finset Int32) (id id2 : UInt16) (body : List UInt8) : Finset Int32 :=
  if id = idUserNotify ∧ id2 = s2cClientList then
    seats ∪ (seatsIn (body.length / ProfileInfo.size) body).toFinset
  else if id = idUserNotify ∧ id2 = s2cPlyLeave then seats.erase (int32OfBytes body)
  else if id = idUserLogin ∧ id2 = s2cPlyReady then sit seats (int32OfBytes (body.drop 33))
  else if id = idUserLogin ∧ id2 = s2cUpdUserState ∧ body.take 32 = own.bytes then
    sit seats (int32OfBytes (body.drop 33))
  else seats

def hear (own : Block 32) (seats : Finset Int32) : Outgoing → Finset Int32
  | .package pack => learn own seats pack.header.id pack.header.id2 pack.bodyBytes
  | .big _ => seats
  | .data _ _ _ => seats

abbrev Known := LinkID → Finset Int32

def clients (own : Block 32) : Network Known where
  send known linkID msg := (true, Function.update known linkID (hear own (known linkID) msg))
  sendCenter known _ _ _ := (true, known)

/-! ## The server and its clients -/

abbrev State := PlayerManager × Known

inductive Event
  | message (e : SceneServer.Event)
  | tick

def forget (known : Known) : SceneServer.Event → Known
  | .client pack _ => if pack.header.id = idConnect then Function.update known pack.mLinkid ∅ else known
  | .center _ => known

def step (own : Block 32) (z : Zlib) (st : State) : Event → Option State
  | .message e => SceneServer.step (clients own) z (st.1, forget st.2 e) e
  | .tick => (SvcTimer.handler (clients own) st.1 st.2).toOption

def start (flvSeqHeaderChange : Bool) (own : Block 32) (known : Known) : State :=
  (PlayerManager.new flvSeqHeaderChange own, known)

def taken (m : PlayerManager) : Finset Int32 := ((seated m).map Player.mSeatNumber).toFinset

-- what a player may tell: his own seat or, when he has none, one that nobody has
def MayTell (m : PlayerManager) (ply : Player) (seat : Int32) : Prop :=
  seat ≠ ply.mSeatNumber →
    ply.mSeatNumber = 0 ∧ IsSeat seat ∧ ∀ other ∈ m.players, other.mSeatNumber ≠ seat

/-- A client connects on a link that nobody has; it tells a seat once, which nobody else has,
and its type before; news of states is about other servers. -/
def Orderly (own : Block 32) (st : State) : Event → Prop
  | .message (.client pack _) =>
    (pack.header.id = idConnect → ∀ ply ∈ st.1.players, ply.mLinkID ≠ pack.mLinkid) ∧
    (IsTellSeatNum pack → ∀ seat, seatIn pack = some seat →
      ∀ ply, st.1.findPlayer pack.mLinkid.sid.toNat = some ply → MayTell st.1 ply seat) ∧
    (pack.header.id = idUserLogin → pack.header.id2 = c2sTellUserType →
      ∀ ply, st.1.findPlayer pack.mLinkid.sid.toNat = some ply → ply.mSeatNumber = 0)
  | .message (.center pack) =>
    pack.header.id = idUserLogin → pack.header.id2 = s2cUpdUserState → pack.bodyBytes.take 32 ≠ own.bytes
  | .tick => True

section Learning
variable {own : Block 32} {V : Finset Int32} {id id2 : UInt16} {body : List UInt8} {seat : Int32}
variable {rest : List UInt8}

theorem seatsIn_profiles (players : List Player) :
    seatsIn players.length (profiles players) = players.map fun ply => ply.mProfileInfo.mSeatNumber := by
  induction players with
  | nil => rfl
  | cons ply players ih =>
    have hid : ply.mProfileInfo.sceneServerID.bytes.length = 33 := ply.mProfileInfo.sceneServerID.size_eq
    have hsplit : profiles (ply :: players) = ply.mProfileInfo.sceneServerID.bytes ++
        (int32Bytes ply.mProfileInfo.mSeatNumber ++
          (ply.mProfileInfo.mFaceModel.bytes ++ profiles players)) := by
      unfold profiles ProfileInfo.bytes
      rw [List.flatMap_cons, List.append_assoc, List.append_assoc]
    have hnext : (profiles (ply :: players)).drop ProfileInfo.size = profiles players := by
      unfold profiles
      rw [List.flatMap_cons, List.drop_left' ply.mProfileInfo.length_bytes]
    rw [List.length_cons, seatsIn, hnext, ih, hsplit, List.drop_left' hid, int32OfBytes_int32Bytes]
    rfl

theorem learn_list (players : List Player) : learn own V idUserNotify s2cClientList (profiles players) =
    V ∪ (players.map fun ply => ply.mProfileInfo.mSeatNumber).toFinset := by
  unfold learn
  rw [if_pos ⟨rfl, rfl⟩, length_profiles, Nat.mul_div_cancel _ (by decide), seatsIn_profiles]

theorem learn_leave : learn own V idUserNotify s2cPlyLeave (int32Bytes seat) = V.erase seat := by
  have hread := int32OfBytes_int32Bytes seat []
  rw [List.append_nil] at hread
  unfold learn
  rw [if_neg (by decide), if_pos ⟨rfl, rfl⟩, hread]

theorem learn_ready (profile : ProfileInfo) :
    learn own V idUserLogin s2cPlyReady profile.bytes = sit V profile.mSeatNumber := by
  have hid : profile.sceneServerID.bytes.length = 33 := profile.sceneServerID.size_eq
  unfold learn
  rw [if_neg (by decide), if_neg (by decide), if_pos ⟨rfl, rfl⟩]
  unfold ProfileInfo.bytes
  rw [List.append_assoc, List.drop_left' hid, int32OfBytes_int32Bytes]

theorem learn_state : learn own V idUserLogin s2cUpdUserState (externalInfo own (int32Bytes seat ++ rest)) =
    sit V seat := by
  have hid : (own.bytes ++ [0]).length = 33 := by
    rw [List.length_append, own.size_eq]
    rfl
  have htake : (externalInfo own (int32Bytes seat ++ rest)).take 32 = own.bytes := by
    unfold externalInfo
    rw [List.append_assoc, List.take_left' own.size_eq]
  unfold learn
  rw [if_neg (by decide), if_neg (by decide), if_neg (by decide), if_pos ⟨rfl, rfl, htake⟩]
  unfold externalInfo
  rw [List.drop_left' hid, int32OfBytes_int32Bytes]

def Silent (own : Block 32) (id id2 : UInt16) (body : List UInt8) : Prop :=
  ∀ V, learn own V id id2 body = V

theorem silent_of_id (hnotify : id ≠ idUserNotify) (hlogin : id ≠ idUserLogin) : Silent own id id2 body := by
  intro V
  unfold learn
  rw [if_neg fun h => hnotify h.1, if_neg fun h => hnotify h.1, if_neg fun h => hlogin h.1,
    if_neg fun h => hlogin h.1]

theorem silent_seatNum : Silent own idUserLogin s2cRspSeatNum body := by
  intro V
  unfold learn
  rw [if_neg (by decide), if_neg (by decide), if_neg (by decide),
    if_neg fun h => absurd h.2.1 (by decide)]

theorem silent_other (hother : body.take 32 ≠ own.bytes) : Silent own idUserLogin s2cUpdUserState body := by
  intro V
  unfold learn
  rw [if_neg (by decide), if_neg (by decide), if_neg (by decide), if_neg fun h => hother h.2.2]

end Learning

section Sit
variable {V : Finset Int32} {seat : Int32}

theorem sit_zero : sit V 0 = V := if_pos rfl

theorem sit_of_mem (h : seat ∈ V) : sit V seat = V := by
  unfold sit
  split_ifs
  · rfl
  · exact Finset.insert_eq_of_mem h

theorem sit_sit : sit (sit V seat) seat = sit V seat := by
  unfold sit
  split_ifs
  · rfl
  · exact Finset.insert_eq_of_mem (Finset.mem_insert_self ..)

end Sit

section Sends
variable {own : Block 32} {known : Known} {players : List Player} {id id2 : UInt16} {body : List UInt8}
variable {sends : List Sent}

theorem perform_command (h : body.length ≤ maxBodyLength) (linkID : LinkID) :
    (clients own).perform known (command id id2 body h linkID) =
      Function.update known linkID (learn own (known linkID) id id2 body) := by
  show Function.update known linkID (learn own (known linkID) id id2 _) = _
  rw [HXMessagePackage.bodyBytes_filled]

theorem performAll_command (h : body.length ≤ maxBodyLength) :
    (clients own).performAll known (players.map fun ply => command id id2 body h ply.mLinkID) =
      Replica.tell (fun V => learn own V id id2 body) (players.map Player.mLinkID) known := by
  induction players generalizing known with
  | nil => rfl
  | cons ply players ih =>
    rw [List.map_cons, List.map_cons, Replica.tell_cons, ← ih, ← perform_command h]
    rfl

theorem tell_silent (h : Silent own id id2 body) (links : List LinkID) :
    Replica.tell (fun V => learn own V id id2 body) links known = known := by
  induction links with
  | nil => rfl
  | cons linkID links ih => rw [Replica.tell_cons, h, Function.update_eq_self, ih]

theorem sendCmdTo_eq_tell {known' : Known} (h : sendCmdTo (clients own) players id id2 body known = .ok known') :
    known' = Replica.tell (fun V => learn own V id id2 body) (players.map Player.mLinkID) known := by
  induction players generalizing known with
  | nil => exact (Except.ok.inj h).symm
  | cons ply players ih =>
    rw [sendCmdTo, List.foldlM_cons] at h
    obtain ⟨known₁, hfirst, h⟩ := bind_eq_ok.mp h
    obtain ⟨sent, hsent, hfirst⟩ := bind_eq_ok.mp hfirst
    obtain rfl := Except.ok.inj hfirst
    unfold sendCmd Network.cmdPackage at hsent
    split_ifs at hsent with hfits
    · obtain rfl := Except.ok.inj hsent
      rw [ih h, List.map_cons, Replica.tell_cons]
      congr 1
      exact perform_command hfits ply.mLinkID
    · cases hsent

theorem sendCmd_silent {linkID : LinkID} {sent : Bool × Known} (hsilent : Silent own id id2 body)
    (h : sendCmd (clients own) linkID id id2 body known = .ok sent) : sent.2 = known := by
  unfold sendCmd Network.cmdPackage at h
  split_ifs at h with hfits
  · obtain rfl := Except.ok.inj h
    have hsame := @perform_command own known id id2 body hfits linkID
    rw [hsilent, Function.update_eq_self] at hsame
    exact hsame
  · cases h

theorem sendEach_silent {pack : HXMessagePackage}
    (h : Silent own pack.header.id pack.header.id2 pack.bodyBytes) (links : List LinkID) :
    (clients own).sendEach (.package pack) links known = known := by
  induction links with
  | nil => rfl
  | cons linkID links ih =>
    have hfirst : Function.update known linkID (hear own (known linkID) (.package pack)) = known := by
      rw [hear, h, Function.update_eq_self]
    rw [Network.sendEach, List.foldl_cons]
    show (clients own).sendEach (.package pack) links (Function.update known linkID _) = known
    rw [hfirst, ih]

theorem sendClientListToCenterServer_clients (m : PlayerManager) :
    m.sendClientListToCenterServer (clients own) known = known := by
  unfold PlayerManager.sendClientListToCenterServer
  dsimp only
  split_ifs
  · rfl
  · rfl

theorem keeps_big : (clients own).Keeps (fun sent => ∃ linkID pkt, sent = .client linkID (.big pkt))
    (· = known) := by
  rintro known' sent ⟨linkID, pkt, rfl⟩ rfl
  exact Function.update_eq_self ..

end Sends

/-! ## Seats that are taken -/

def occupied (ply : Player) (V : Finset Int32) : Finset Int32 :=
  if ply.mUserType = vip then sit V ply.mSeatNumber else V

def takenIn (players : List Player) : Finset Int32 :=
  ((players.filter isSeated).map Player.mSeatNumber).toFinset

section Taken
variable {m m' : PlayerManager} {players others : List Player} {ply ply' : Player} {V : Finset Int32}
variable {seat : Int32}

theorem pos_of_isSeat (h : IsSeat seat) : 0 < seat := by
  have hmin : (1 : Int) ≤ seat.toInt := Int32.le_iff_toInt_le.mp h.1
  exact Int32.lt_iff_toInt_lt.mpr (by show (0 : Int) < seat.toInt; omega)

theorem ne_zero_of_pos (h : 0 < seat) : seat ≠ 0 := by
  rintro rfl
  exact absurd h (by decide)

theorem mem_takenIn : seat ∈ takenIn players ↔
    ∃ ply ∈ players, ply.mUserType = vip ∧ 0 < ply.mSeatNumber ∧ ply.mSeatNumber = seat := by
  unfold takenIn isSeated
  simp only [List.mem_toFinset, List.mem_map, List.mem_filter, decide_eq_true_eq, and_assoc]

theorem takenIn_perm (h : players.Perm others) : takenIn players = takenIn others :=
  Finset.ext fun _ => by simp only [mem_takenIn, h.mem_iff]

theorem takenIn_cons (h : ply.mSeatNumber ≠ 0 → IsSeat ply.mSeatNumber) :
    takenIn (ply :: players) = occupied ply (takenIn players) := by
  unfold occupied sit
  by_cases hvip : ply.mUserType = vip
  · rw [if_pos hvip]
    by_cases hzero : ply.mSeatNumber = 0
    · have hnot : ¬isSeated ply = true := fun hseated =>
        ne_zero_of_pos (of_decide_eq_true hseated).2 hzero
      rw [if_pos hzero, takenIn, List.filter_cons_of_neg hnot]
      rfl
    · have hseated : isSeated ply = true := decide_eq_true ⟨hvip, pos_of_isSeat (h hzero)⟩
      rw [if_neg hzero, takenIn, List.filter_cons_of_pos hseated, List.map_cons, List.toFinset_cons]
      rfl
  · have hnot : ¬isSeated ply = true := fun hseated => hvip (of_decide_eq_true hseated).1
    rw [if_neg hvip, takenIn, List.filter_cons_of_neg hnot]
    rfl

theorem occupied_of_zero (h : ply.mSeatNumber = 0) : occupied ply V = V := by
  unfold occupied
  split_ifs
  · rw [h, sit_zero]
  · rfl

theorem occupied_occupied (hseat : ply.mSeatNumber = 0 ∨ ply'.mSeatNumber = ply.mSeatNumber)
    (htype : ply'.mUserType = ply.mUserType) : occupied ply' (occupied ply V) = occupied ply' V := by
  rcases hseat with hzero | hsame
  · rw [occupied_of_zero hzero]
  · unfold occupied
    rw [hsame, htype]
    split_ifs
    · exact sit_sit
    · rfl

theorem erase_occupied (h : ply.mSeatNumber ∉ V) : (occupied ply V).erase ply.mSeatNumber = V := by
  have hsame : V.erase ply.mSeatNumber = V := Finset.erase_eq_of_notMem h
  unfold occupied sit
  split_ifs
  · exact hsame
  · exact Finset.erase_insert h
  · exact hsame

end Taken

/-! ## What is kept -/

abbrev links (m : PlayerManager) : List LinkID := m.players.map Player.mLinkID

structure Fitting (own : Block 32) (m : PlayerManager) : Prop where
  mSceneServerID : m.mSceneServerID = own
  apart : Apart IsSeat (seats m)
  profile : ∀ ply ∈ m.players, ply.mProfileInfo.mSeatNumber = ply.mSeatNumber

structure Inv (own : Block 32) (st : State) : Prop where
  fitting : Fitting own st.1
  agree : Replica.Agree (links st.1) st.2 (taken st.1)

def outline (ply : Player) : LinkID × Int32 × Int32 × Int32 :=
  (ply.mLinkID, ply.mSeatNumber, ply.mProfileInfo.mSeatNumber, ply.mUserType)

structure Alike (m m' : PlayerManager) : Prop where
  mSceneServerID : m'.mSceneServerID = m.mSceneServerID
  players : m'.players.map outline = m.players.map outline

section Kept
variable {own : Block 32} {m m' : PlayerManager} {known : Known} {plyId : Nat}
variable {ply ply' : Player} {V : Finset Int32}

theorem inv_start {flvSeqHeaderChange : Bool} : Inv own (start flvSeqHeaderChange own known) :=
  ⟨⟨rfl, apart_nil, nofun⟩, Replica.agree_nil⟩

theorem alike_set {i : Nat} (hply : m.players[i]? = some ply) (hsame : outline ply' = outline ply) :
    Alike m { m with players := m.players.set i ply' } := by
  obtain ⟨hi, rfl⟩ := List.getElem?_eq_some_iff.mp hply
  refine ⟨rfl, ?_⟩
  show (m.players.set i ply').map outline = m.players.map outline
  have hlength : i < (m.players.map outline).length := by rwa [List.length_map]
  have hget : outline ply' = (m.players.map outline)[i] := by rw [hsame, List.getElem_map]
  rw [List.map_set, hget, List.set_getElem_self]

theorem alike_modify_none {f : Player → Player} (hply : m.findPlayer plyId = none) :
    Alike m (m.modifyPlayer plyId f).2 := by
  refine ⟨rfl, ?_⟩
  show (Roster.modify Player.mPlyID plyId f m.players).map outline = _
  rw [Roster.modify_of_find_none hply]

theorem alike_modify {f : Player → Player} (hf : ∀ ply, outline (f ply) = outline ply) :
    Alike m (m.modifyPlayer plyId f).2 := ⟨rfl, Roster.map_modify outline hf⟩

theorem Alike.links_eq (h : Alike m m') : links m' = links m := by
  have hlinks := congrArg (List.map Prod.fst) h.players
  rwa [List.map_map, List.map_map] at hlinks

theorem Alike.seats_eq (h : Alike m m') : seats m' = seats m := by
  have hseats := congrArg (List.map fun shown => shown.2.1) h.players
  rwa [List.map_map, List.map_map] at hseats

theorem Alike.taken_eq (h : Alike m m') : taken m' = taken m := by
  have houtline : ∀ players seat, seat ∈ takenIn players ↔
      ∃ shown ∈ players.map outline, shown.2.2.2 = vip ∧ 0 < shown.2.1 ∧ shown.2.1 = seat := by
    intro players seat
    simp only [mem_takenIn, List.mem_map, exists_exists_and_eq_and, outline]
  refine Finset.ext fun seat => (houtline m'.players seat).trans ?_
  rw [h.players]
  exact (houtline m.players seat).symm

theorem Inv.alike (hinv : Inv own (m, known)) (h : Alike m m') : Inv own (m', known) := by
  refine ⟨⟨h.mSceneServerID.trans hinv.fitting.mSceneServerID, ?_, ?_⟩, ?_⟩
  · rw [h.seats_eq]
    exact hinv.fitting.apart
  · have hprofile : ∀ shown ∈ m.players.map outline, shown.2.2.1 = shown.2.1 :=
      List.forall_mem_map.mpr hinv.fitting.profile
    rw [← h.players] at hprofile
    exact List.forall_mem_map.mp hprofile
  · show Replica.Agree (links m') known (taken m')
    rw [h.links_eq, h.taken_eq]
    exact hinv.agree

theorem Fitting.isSeat (h : Fitting own m) (hply : ply ∈ m.players) (hne : ply.mSeatNumber ≠ 0) :
    IsSeat ply.mSeatNumber :=
  h.apart.valid _ (List.mem_map_of_mem hply) hne

theorem Fitting.taken_found (h : Fitting own m) (hply : m.findPlayer plyId = some ply) :
    taken m = occupied ply (takenIn (Roster.remove Player.mPlyID plyId m.players)) :=
  (takenIn_perm (Roster.perm_remove hply)).trans
    (takenIn_cons (h.isSeat (List.mem_of_find?_eq_some hply)))

def announced (m : PlayerManager) (plyId : Nat) (V : Finset Int32) : Finset Int32 :=
  (m.findPlayer plyId).elim V (occupied · V)

theorem Fitting.announced_taken (h : Fitting own m) : announced m plyId (taken m) = taken m := by
  unfold announced
  cases hply : m.findPlayer plyId with
  | none => rfl
  | some ply =>
    show occupied ply (taken m) = taken m
    rw [h.taken_found hply]
    exact occupied_occupied (Or.inr rfl) rfl

end Kept

section Handlers
variable {own : Block 32} {m : PlayerManager} {known known' : Known} {pack : HXMessagePackage}
variable {given : Given} {out : State} {plyId : Nat} {V V' : Finset Int32}

theorem agree_sendCmdTo {id id2 : UInt16} {body : List UInt8}
    (hknown : Replica.Agree (links m) known V)
    (h : sendCmdTo (clients own) m.players id id2 body known = .ok known')
    (hnew : learn own V id id2 body = V') (hagain : learn own V' id id2 body = V') :
    Replica.Agree (links m) known' V' := by
  rw [sendCmdTo_eq_tell h]
  exact hknown.tell hnew hagain

theorem agree_broadcastUserState {userState : Int32} (hown : m.mSceneServerID = own)
    (hknown : Replica.Agree (links m) known V)
    (h : m.broadcastUserState (clients own) plyId idUserLogin userState known = .ok known') :
    Replica.Agree (links m) known' (announced m plyId V) := by
  unfold broadcastUserState at h
  unfold announced
  cases hply : m.findPlayer plyId with
  | none =>
    rw [hply] at h
    obtain rfl := Except.ok.inj h
    exact hknown
  | some ply =>
    simp only [hply] at h
    show Replica.Agree (links m) known' (occupied ply V)
    unfold occupied
    by_cases hvip : ply.mUserType = vip
    · rw [if_neg (not_not.mpr hvip)] at h
      obtain ⟨known₁, hsent, h⟩ := bind_eq_ok.mp h
      have hsame : known' = known₁ := by
        rw [← Except.ok.inj h]
        split_ifs
        · rfl
        · rfl
      rw [hown] at hsent
      rw [if_pos hvip, hsame]
      exact agree_sendCmdTo hknown hsent learn_state (learn_state.trans sit_sit)
    · rw [if_pos hvip] at h
      rw [if_neg hvip, ← Except.ok.inj h]
      exact hknown

theorem Inv.broadcast {userState : Int32} (hinv : Inv own (m, known))
    (h : m.broadcastUserState (clients own) plyId idUserLogin userState known = .ok known') :
    Inv own (m, known') := by
  have hagree := agree_broadcastUserState hinv.fitting.mSceneServerID hinv.agree h
  rw [hinv.fitting.announced_taken] at hagree
  exact ⟨hinv.fitting, hagree⟩

theorem Inv.globalNotify (hinv : Inv own (m, known))
    (h : handleGlobalNotify (clients own) m pack known = .ok out) : Inv own out := by
  unfold handleGlobalNotify at h
  dsimp only at h
  split_ifs at h
  · rw [← Except.ok.inj h]
    exact hinv
  · rw [← Except.ok.inj h]
    exact hinv
  · rw [← Except.ok.inj h]
    exact hinv
  · rw [← Except.ok.inj h]
    exact hinv
  · obtain ⟨known₁, hsent, h⟩ := bind_eq_ok.mp h
    rw [← Except.ok.inj h]
    exact hinv.broadcast hsent
  · obtain ⟨known₁, hsent, h⟩ := bind_eq_ok.mp h
    rw [← Except.ok.inj h]
    exact hinv.broadcast hsent
  · have halike : Alike m { m with userVisibleFlag := true } := ⟨rfl, rfl⟩
    rw [← Except.ok.inj h, sendClientListToCenterServer_clients]
    exact hinv.alike halike
  · rw [← Except.ok.inj h]
    exact hinv

theorem Inv.userProfile (hinv : Inv own (m, known))
    (h : handleTellUserProfile (clients own) m pack given known = .ok out) : Inv own out := by
  obtain ⟨bound, hbound, h⟩ := bind_eq_ok.mp h
  obtain ⟨known₁, hsent, h⟩ := bind_eq_ok.mp h
  rw [← Except.ok.inj h]
  refine Inv.broadcast ?_ hsent
  unfold bindFaceModeWithSeatNumber at hbound
  cases hfree : m.getFreePlayer with
  | none =>
    rw [hfree] at hbound
    obtain ⟨sent, hsent, hbound⟩ := bind_eq_ok.mp hbound
    rw [← Except.ok.inj hbound, sendCmd_silent (silent_of_id (by decide) (by decide)) hsent]
    exact hinv
  | some ply =>
    rw [hfree] at hbound
    obtain ⟨sent, hsent, hbound⟩ := bind_eq_ok.mp hbound
    obtain ⟨faceModel, -, hbound⟩ := bind_eq_ok.mp hbound
    rw [← Except.ok.inj hbound, sendCmd_silent silent_seatNum hsent]
    rw [getFreePlayer, List.find?_eq_getElem?_findIdx] at hfree
    refine hinv.alike (alike_set hfree ?_)
    rfl

theorem Inv.ready {seat : Int32} (hinv : Inv own (m, known))
    (h : m.sendUserReadyMsg (clients own) seat known = .ok known') : Inv own (m, known') := by
  refine ⟨hinv.fitting, ?_⟩
  unfold sendUserReadyMsg at h
  cases hply : m.findPlayerBySeatNumber seat with
  | none =>
    rw [hply] at h
    rw [← Except.ok.inj h]
    exact hinv.agree
  | some ply =>
    simp only [hply] at h
    by_cases hvip : ply.mUserType = vip
    · have hmem : ply ∈ m.players := List.mem_of_find?_eq_some hply
      have htaken : sit (taken m) ply.mSeatNumber = taken m := by
        by_cases hzero : ply.mSeatNumber = 0
        · rw [hzero, sit_zero]
        · refine sit_of_mem (mem_takenIn.mpr ⟨ply, hmem, hvip, ?_, rfl⟩)
          exact pos_of_isSeat (hinv.fitting.isSeat hmem hzero)
      have hlearn : learn own (taken m) idUserLogin s2cPlyReady ply.mProfileInfo.bytes = taken m := by
        rw [learn_ready, hinv.fitting.profile ply hmem, htaken]
      rw [if_neg (not_not.mpr hvip)] at h
      exact agree_sendCmdTo hinv.agree h hlearn hlearn
    · rw [if_pos hvip] at h
      rw [← Except.ok.inj h]
      exact hinv.agree

theorem Fitting.profile_modify {f : Player → Player} {ply : Player} (h : Fitting own m)
    (hply : m.findPlayer plyId = some ply)
    (hf : (f ply).mProfileInfo.mSeatNumber = (f ply).mSeatNumber) :
    ∀ other ∈ Roster.modify Player.mPlyID plyId f m.players,
      other.mProfileInfo.mSeatNumber = other.mSeatNumber := by
  intro other hother
  rcases List.mem_cons.mp ((Roster.perm_modify hply).mem_iff.mp hother) with rfl | hother
  · exact hf
  · exact h.profile other (List.mem_of_mem_eraseP hother)

theorem Fitting.seat_free {ply : Player} {seat : Int32} (h : Fitting own m)
    (hply : m.findPlayer plyId = some ply) (htells : MayTell m ply seat) (hne : seat ≠ 0) :
    IsSeat seat ∧ ∀ other ∈ Roster.remove Player.mPlyID plyId m.players, other.mSeatNumber ≠ seat := by
  by_cases hsame : seat = ply.mSeatNumber
  · subst hsame
    have hapart := apart_cons.mp (h.apart.perm ((Roster.perm_remove hply).map Player.mSeatNumber))
    obtain ⟨hvalid, hnew⟩ := hapart.1 hne
    exact ⟨hvalid, fun other hother heq => hnew (heq ▸ List.mem_map_of_mem hother)⟩
  · obtain ⟨-, hvalid, hnew⟩ := htells hsame
    exact ⟨hvalid, fun other hother => hnew other (List.mem_of_mem_eraseP hother)⟩

theorem Inv.seated {ply : Player} {seat : Int32} (hinv : Inv own (m, known))
    (hply : m.findPlayer plyId = some ply) (htells : MayTell m ply seat)
    (h : (m.updatePlayerSeatNumber plyId seat).2.broadcastUserState (clients own) plyId idUserLogin
      stateInitial known = .ok known') : Inv own ((m.updatePlayerSeatNumber plyId seat).2, known') := by
  have hfree := hinv.fitting.seat_free hply htells
  have hfitting : Fitting own (m.updatePlayerSeatNumber plyId seat).2 :=
    ⟨hinv.fitting.mSceneServerID, (apart_told_iff hinv.fitting.apart hply).mpr hfree,
      hinv.fitting.profile_modify hply rfl⟩
  have hlinks : links (m.updatePlayerSeatNumber plyId seat).2 = links m :=
    Roster.map_modify Player.mLinkID fun _ => rfl
  have hagree : Replica.Agree (links (m.updatePlayerSeatNumber plyId seat).2) known (taken m) := by
    rw [hlinks]
    exact hinv.agree
  have hfind : (m.updatePlayerSeatNumber plyId seat).2.findPlayer plyId = some (ply.setSeatNumber seat) := by
    have hkey : ∀ other : Player, (other.setSeatNumber seat).mPlyID = other.mPlyID := fun _ => rfl
    exact (Roster.find_modify hkey).trans (congrArg (Option.map _) hply)
  have htaken : taken (m.updatePlayerSeatNumber plyId seat).2 =
      occupied (ply.setSeatNumber seat) (takenIn (Roster.remove Player.mPlyID plyId m.players)) :=
    (takenIn_perm (Roster.perm_modify hply)).trans (takenIn_cons fun hne => (hfree hne).1)
  have hannounced : announced (m.updatePlayerSeatNumber plyId seat).2 plyId (taken m) =
      taken (m.updatePlayerSeatNumber plyId seat).2 := by
    rw [announced, hfind, htaken, hinv.fitting.taken_found hply]
    refine occupied_occupied ?_ rfl
    by_cases hsame : seat = ply.mSeatNumber
    · exact Or.inr hsame
    · exact Or.inl (htells hsame).1
  refine ⟨hfitting, ?_⟩
  rw [← hannounced]
  exact agree_broadcastUserState hfitting.mSceneServerID hagree h

theorem Inv.tellSeatNum (hinv : Inv own (m, known))
    (htells : ∀ seat, seatIn pack = some seat → ∀ ply, m.findPlayer pack.mLinkid.sid.toNat = some ply →
      MayTell m ply seat)
    (h : handleTellSeatNum (clients own) m pack known = .ok out) : Inv own out := by
  obtain ⟨seatNum, hseat, h⟩ := bind_eq_ok.mp h
  obtain ⟨known₁, htold, h⟩ := bind_eq_ok.mp h
  have hread : seatIn pack = some (int32OfBytes seatNum.bytes) := by
    rw [seatIn, hseat]
    rfl
  generalize int32OfBytes seatNum.bytes = seat at hread htold h
  generalize hplyId : pack.mLinkid.sid.toNat = plyId at htells htold h
  have hafter : Inv own ((m.updatePlayerSeatNumber plyId seat).2, known₁) := by
    cases hply : m.findPlayer plyId with
    | none =>
      have hfalse : ¬(m.updatePlayerSeatNumber plyId seat).1 = true := by
        show ¬(m.findPlayer plyId).isSome = true
        rw [hply]
        exact Bool.false_ne_true
      rw [if_neg hfalse] at htold
      rw [← Except.ok.inj htold]
      exact hinv.alike (alike_modify_none hply)
    | some ply =>
      have htrue : (m.updatePlayerSeatNumber plyId seat).1 = true := by
        show (m.findPlayer plyId).isSome = true
        rw [hply]
        rfl
      rw [if_pos htrue] at htold
      exact hinv.seated hply (htells seat hread ply hply) htold
  rw [← Except.ok.inj h]
  split_ifs
  · rw [sendClientListToCenterServer_clients]
    exact hafter
  · exact hafter

theorem Inv.userType {userType : Int32} (hinv : Inv own (m, known))
    (hnone : ∀ ply, m.findPlayer plyId = some ply → ply.mSeatNumber = 0) :
    Inv own ((m.updateUserType plyId userType).2, known) := by
  cases hply : m.findPlayer plyId with
  | none => exact hinv.alike (alike_modify_none hply)
  | some ply =>
    have hseats : seats (m.updateUserType plyId userType).2 = seats m :=
      Roster.map_modify Player.mSeatNumber fun _ => rfl
    have hlinks : links (m.updateUserType plyId userType).2 = links m :=
      Roster.map_modify Player.mLinkID fun _ => rfl
    have hmem : ply ∈ m.players := List.mem_of_find?_eq_some hply
    have hzero := hnone ply hply
    have htaken : taken (m.updateUserType plyId userType).2 = taken m := by
      rw [hinv.fitting.taken_found hply, occupied_of_zero hzero]
      have hnow : { ply with mUserType := userType }.mSeatNumber = 0 := hzero
      refine (takenIn_perm (Roster.perm_modify hply)).trans ?_
      exact (takenIn_cons fun hne => absurd hnow hne).trans (occupied_of_zero hnow)
    refine ⟨⟨hinv.fitting.mSceneServerID, ?_, ?_⟩, ?_⟩
    · rw [hseats]
      exact hinv.fitting.apart
    · exact hinv.fitting.profile_modify hply (hinv.fitting.profile ply hmem)
    · rw [hlinks, htaken]
      exact hinv.agree

theorem Inv.userLogin (hinv : Inv own (m, known)) (hid : pack.header.id = idUserLogin)
    (horderly : Orderly own (m, known) (.message (.client pack given)))
    (h : handleUserLogin (clients own) m pack given known = .ok out) : Inv own out := by
  unfold handleUserLogin at h
  dsimp only at h
  split_ifs at h with hseat htype
  · exact hinv.tellSeatNum (horderly.2.1 ⟨hid, hseat⟩) h
  · obtain ⟨userType, -, h⟩ := bind_eq_ok.mp h
    rw [← Except.ok.inj h]
    exact hinv.userType (horderly.2.2 hid htype)
  · exact hinv.userProfile h
  · obtain ⟨seatNum, -, h⟩ := bind_eq_ok.mp h
    obtain ⟨known₁, hsent, h⟩ := bind_eq_ok.mp h
    rw [← Except.ok.inj h]
    exact hinv.ready hsent
  · rw [← Except.ok.inj h]
    exact hinv

theorem Inv.leave (hinv : Inv own (m, known)) {left : Bool × PlayerManager × Known}
    (h : m.sendPlayerLeaveMsg (clients own) plyId known = .ok left) : Inv own left.2 := by
  unfold sendPlayerLeaveMsg at h
  cases hply : m.findPlayer plyId with
  | none =>
    rw [hply] at h
    rw [← Except.ok.inj h]
    exact hinv
  | some ply =>
    rw [hply] at h
    obtain ⟨known₁, hsent, h⟩ := bind_eq_ok.mp h
    have hsame : left.2 = (m.deletePlayer plyId, known₁) := by
      rw [← Except.ok.inj h]
      dsimp only
      split_ifs
      · rfl
      · rfl
    rw [hsame]
    have hapart := apart_cons.mp
      (hinv.fitting.apart.perm ((Roster.perm_remove hply).map Player.mSeatNumber))
    have hgone : ply.mSeatNumber ∉ taken (m.deletePlayer plyId) := by
      intro hmem
      obtain ⟨other, hother, -, hpos, hseat⟩ := mem_takenIn.mp hmem
      rw [hseat] at hpos
      exact (hapart.1 (ne_zero_of_pos hpos)).2 (hseat ▸ List.mem_map_of_mem hother)
    have hsub : links (m.deletePlayer plyId) ⊆ links m :=
      ((List.eraseP_sublist).map Player.mLinkID).subset
    refine ⟨⟨hinv.fitting.mSceneServerID, hapart.2, ?_⟩, ?_⟩
    · exact fun other hother => hinv.fitting.profile other (List.mem_of_mem_eraseP hother)
    · refine (agree_sendCmdTo hinv.agree hsent ?_ ?_).subset hsub
      · rw [learn_leave, hinv.fitting.taken_found hply]
        exact erase_occupied hgone
      · rw [learn_leave]
        exact Finset.erase_eq_of_notMem hgone

theorem Fitting.length_seated (h : Fitting own m) : (seated m).length ≤ capacity := by
  have hpos : ∀ ply ∈ seated m, 0 < ply.mSeatNumber := by
    intro ply hply
    have hseated : isSeated ply = true := (List.mem_filter.mp hply).2
    exact (of_decide_eq_true hseated).2
  have hnodup : ((seated m).map fun ply => ply.mSeatNumber.toInt).Nodup := by
    have hsub : (seated m).Sublist m.players := List.filter_sublist
    have hdistinct := (h.apart.sublist (hsub.map Player.mSeatNumber)).distinct
    refine List.pairwise_map.mpr ((List.pairwise_map.mp hdistinct).imp_of_mem ?_)
    intro ply other hply _ hapart heq
    exact ne_zero_of_pos (hpos ply hply) (hapart (Int32.toInt_inj.mp heq))
  have hrange : ((seated m).map fun ply => ply.mSeatNumber.toInt).toFinset ⊆ Finset.Icc 1 30 := by
    intro n hn
    obtain ⟨ply, hply, rfl⟩ := List.mem_map.mp (List.mem_toFinset.mp hn)
    obtain ⟨hmin, hmax⟩ := h.isSeat (List.mem_of_mem_filter hply) (ne_zero_of_pos (hpos ply hply))
    exact Finset.mem_Icc.mpr ⟨Int32.le_iff_toInt_le.mp hmin, Int32.le_iff_toInt_le.mp hmax⟩
  have hcard := Finset.card_le_card hrange
  rw [List.toFinset_card_of_nodup hnodup, List.length_map] at hcard
  exact hcard.trans (by decide)

theorem sendClientList_clients {linkID : LinkID} (h : Fitting own m) (hnone : known linkID = ∅) :
    m.sendClientList (clients own) linkID known = .ok (Function.update known linkID (taken m)) := by
  have hbatch : Batch.batch isSeated capacity m.players = seated m :=
    List.take_of_length_le h.length_seated
  rw [← sendClientList_manager, sendClientList_eq]
  unfold messages
  rw [hbatch]
  congr 1
  split_ifs with hempty
  · have htaken : taken m = known linkID := by
      rw [hnone, taken, hempty]
      rfl
    rw [htaken, Function.update_eq_self]
    rfl
  · have hprofiles : (seated m).map (fun ply => ply.mProfileInfo.mSeatNumber) =
        (seated m).map Player.mSeatNumber :=
      List.map_congr_left fun ply hply => h.profile ply (List.mem_of_mem_filter hply)
    show (clients own).perform known (command idUserNotify s2cClientList (listed m) _ linkID) = _
    rw [perform_command, listed, hbatch, learn_list, hnone, Finset.empty_union, hprofiles]
    rfl

theorem Inv.connect {linkID : LinkID} (hinv : Inv own (m, known))
    (hfresh : ∀ ply ∈ m.players, ply.mLinkID ≠ linkID)
    (h : handleConnect (clients own) m linkID given (Function.update known linkID ∅) = .ok out) :
    Inv own out := by
  obtain ⟨known₁, hsent, h⟩ := bind_eq_ok.mp h
  have hseat : (m.entrant linkID given).mSeatNumber = 0 := rfl
  have hfitting : Fitting own (m.addPlayer (m.entrant linkID given)) := by
    refine ⟨hinv.fitting.mSceneServerID, ?_, ?_⟩
    · show Apart IsSeat ((m.players ++ [_]).map Player.mSeatNumber)
      rw [List.map_append]
      exact hinv.fitting.apart.concat_zero
    · intro ply hply
      rcases List.mem_append.mp hply with hply | hply
      · exact hinv.fitting.profile ply hply
      · rw [List.mem_singleton.mp hply]
        rfl
  have htaken : taken (m.addPlayer (m.entrant linkID given)) = taken m := by
    refine (takenIn_perm (List.perm_append_singleton _ _)).trans ?_
    exact (takenIn_cons fun hne => absurd hseat hne).trans (occupied_of_zero hseat)
  have hsame := sendClientList_clients hfitting (Function.update_self linkID ∅ known)
  rw [htaken, Function.update_idem] at hsame
  have hout : out = (m.addPlayer (m.entrant linkID given), Function.update known linkID (taken m)) := by
    rw [← Except.ok.inj h, Except.ok.inj (hsent.symm.trans hsame)]
    rfl
  rw [hout]
  refine ⟨hfitting, ?_⟩
  show Replica.Agree ((m.players ++ [_]).map Player.mLinkID) _ (taken _)
  rw [List.map_append, htaken]
  refine hinv.agree.enter ?_
  intro hmem
  obtain ⟨ply, hply, hlink⟩ := List.mem_map.mp hmem
  exact hfresh ply hply hlink

theorem Inv.client (hinv : Inv own (m, known))
    (horderly : Orderly own (m, known) (.message (.client pack given)))
    (h : handle (clients own) m pack given (forget known (.client pack given)) = .ok out) :
    Inv own out := by
  unfold handle forget at h
  dsimp only at h
  split_ifs at h with hconnect hdisconnect hnotify hlogin
  · exact hinv.connect (horderly.1 hconnect) h
  · obtain ⟨left, hleft, h⟩ := bind_eq_ok.mp h
    rw [← Except.ok.inj h]
    exact hinv.leave hleft
  · exact hinv.globalNotify h
  · exact hinv.userLogin hlogin horderly h
  · obtain ⟨transInfo, -, h⟩ := bind_eq_ok.mp h
    rw [← Except.ok.inj h]
    exact hinv.alike (alike_modify fun _ => rfl)
  · rw [← Except.ok.inj h]
    exact hinv

theorem Inv.centerNotify (hinv : Inv own (m, known)) (hid : pack.header.id = idGlobalNotify)
    (h : handleCenterNotify (clients own) m pack known = .ok out) : Inv own out := by
  have hsilent : Silent own pack.header.id pack.header.id2 pack.bodyBytes := by
    rw [hid]
    exact silent_of_id (by decide) (by decide)
  unfold handleCenterNotify at h
  dsimp only at h
  split_ifs at h
  · obtain ⟨known₁, hsent, h⟩ := bind_eq_ok.mp h
    rw [← Except.ok.inj h, sendCmdTo_eq_tell hsent, tell_silent (silent_of_id (by decide) (by decide))]
    exact hinv
  · rw [← Except.ok.inj h]
    show Inv own (m, (clients own).sendEach (.package pack) (links m) known)
    rw [sendEach_silent hsilent]
    exact hinv
  · have halike : Alike m { m with userVisibleFlag := true } := ⟨rfl, rfl⟩
    rw [← Except.ok.inj h, sendClientListToCenterServer_clients]
    exact hinv.alike halike
  · rw [← Except.ok.inj h]
    exact hinv

theorem Inv.flvPackage {z : Zlib} {pkt : HXBigMessageQueue} (hinv : Inv own (m, known))
    (h : m.sendFlvPackage (clients own) z pkt known = .ok out) : Inv own out := by
  obtain ⟨sent, hsent, h⟩ := bind_eq_ok.mp h
  have hknown : sent.2.2 = known := keeps_big.sendFlvStreamTo (fun linkID pkt _ => ⟨linkID, pkt, rfl⟩)
    (fun linkID => ⟨linkID, _, rfl⟩) (fun _ _ _ hmsg => absurd hmsg List.not_mem_nil) hsent rfl
  rw [← Except.ok.inj h, hknown]
  exact hinv.alike ⟨rfl, map_sendFlvStreamTo outline (fun _ => rfl) hsent⟩

theorem Inv.center {z : Zlib} (hinv : Inv own (m, known))
    (horderly : Orderly own (m, known) (.message (.center pack)))
    (h : handleCenter (clients own) z m pack known = .ok out) : Inv own out := by
  unfold handleCenter at h
  split_ifs at h with hnotify hlogin hstate htransform
  · exact hinv.centerNotify hnotify h
  · have hsilent : Silent own pack.header.id pack.header.id2 pack.bodyBytes := by
      rw [hlogin, hstate]
      exact silent_other (horderly hlogin hstate)
    rw [← Except.ok.inj h]
    show Inv own (m, (clients own).sendEach (.package pack) (links m) known)
    rw [sendEach_silent hsilent]
    exact hinv
  · rw [← Except.ok.inj h]
    exact hinv
  · have hsilent : Silent own pack.header.id pack.header.id2 pack.bodyBytes := by
      rw [htransform]
      exact silent_of_id (by decide) (by decide)
    rw [← Except.ok.inj h]
    show Inv own (m, (clients own).sendEach (.package pack) (links m) known)
    rw [sendEach_silent hsilent]
    exact hinv
  · obtain ⟨data, -, h⟩ := bind_eq_ok.mp h
    rw [← Except.ok.inj h]
    exact hinv.alike ⟨rfl, rfl⟩
  · obtain ⟨pkt, -, h⟩ := bind_eq_ok.mp h
    exact hinv.flvPackage h
  · obtain ⟨data, -, h⟩ := bind_eq_ok.mp h
    obtain ⟨pkt, -, h⟩ := bind_eq_ok.mp h
    exact hinv.flvPackage h
  · rw [← Except.ok.inj h]
    exact hinv

theorem Inv.tick (hinv : Inv own (m, known)) (h : SvcTimer.handler (clients own) m known = .ok out) :
    Inv own out := by
  rw [SvcTimer.handler_eq] at h
  have hknown : (clients own).performAll known (SvcTimer.tickSends m) = known := by
    have htold : (clients own).performAll known (m.players.map fun ply => command idUserTransform 0
        (SvcTimer.transforms (SvcTimer.due m)) (SvcTimer.fits_due m) ply.mLinkID) = known := by
      rw [performAll_command, tell_silent (silent_of_id (by decide) (by decide))]
    unfold SvcTimer.tickSends
    dsimp only
    split_ifs
    · rfl
    · rw [Network.performAll_append, htold]
      rfl
    · exact htold
  rw [← Except.ok.inj h, hknown]
  exact hinv.alike ⟨rfl, Batch.map_clearFirst outline fun _ => rfl⟩

end Handlers

section Run
variable {own : Block 32} {z : Zlib} {es : List Event}

theorem step_inv (st : State) (e : Event) (st' : State) (hinv : Inv own st) (horderly : Orderly own st e)
    (hstep : step own z st e = some st') : Inv own st' := by
  obtain ⟨m, known⟩ := st
  cases e with
  | message e =>
    cases e with
    | client pack given => exact hinv.client horderly (mem_toOption hstep)
    | center pack => exact hinv.center horderly (mem_toOption hstep)
  | tick => exact hinv.tick (mem_toOption hstep)

/-- Every client of the server always knows which seats are taken. -/
theorem always_known {flvSeqHeaderChange : Bool} {known : Known}
    (h : Along (step own z) (Orderly own) (start flvSeqHeaderChange own known) es) :
    Always (step own z) (fun st => ∀ ply ∈ st.1.players, st.2 ply.mLinkID = taken st.1)
      (start flvSeqHeaderChange own known) es := by
  refine always_of_along ?_ step_inv inv_start h
  intro st hinv ply hply
  exact hinv.agree _ (List.mem_map_of_mem hply)

end Run

def welcome : List Event := [.message (entering 1), .message (telling 1 5), .message (entering 2)]

def nothing : Known := fun _ => ∅

example : (run (step (Block.zeros 32) Zlib.refusing) (start false (Block.zeros 32) nothing)
    welcome).map (fun st => st.2 ⟨2, 0⟩) = some {5} := by decide +kernel

theorem orderly_entering {st : State} {sid : UInt16} (h : ∀ ply ∈ st.1.players, ply.mLinkID ≠ ⟨sid, 0⟩) :
    Orderly (Block.zeros 32) st (.message (entering sid)) := by
  have hother : idConnect ≠ idUserLogin := by decide
  exact ⟨fun _ => h, fun hpack => absurd hpack.1 hother, fun hid => absurd hid hother⟩

theorem links_telling {own : Block 32} {z : Zlib} {st st' : State} {sid : UInt16} {seat : Int32}
    (h : step own z st (.message (telling sid seat)) = some st') : links st'.1 = links st.1 := by
  have htell : IsTellSeatNum (tellSeatNum sid seat) := ⟨rfl, rfl⟩
  obtain ⟨_, -, hm⟩ := handle_tellSeatNum htell (mem_toOption h)
  rw [hm]
  exact Roster.map_modify Player.mLinkID fun _ => rfl

theorem along_welcome : Along (step (Block.zeros 32) Zlib.refusing) (Orderly (Block.zeros 32))
    (start false (Block.zeros 32) nothing) welcome := by
  refine ⟨orderly_entering nofun, ?_⟩
  intro st hst
  obtain rfl := Option.some.inj hst
  have hread : seatIn (tellSeatNum 1 5) = some 5 := by decide +kernel
  refine ⟨⟨fun hid => absurd hid (by decide), ?_, ?_⟩, ?_⟩
  · intro _ seat hseat ply hply _
    obtain rfl := Option.some.inj (hread.symm.trans hseat)
    obtain rfl := Option.some.inj hply
    exact ⟨rfl, by decide, by decide⟩
  · exact fun _ hid2 => absurd hid2 (by decide)
  · intro st hst
    refine ⟨orderly_entering ?_, fun _ _ => trivial⟩
    intro ply hply
    have hlink : ply.mLinkID ∈ links st.1 := List.mem_map_of_mem hply
    rw [links_telling hst] at hlink
    rw [List.mem_singleton.mp hlink]
    decide

theorem always_known_welcome : Always (step (Block.zeros 32) Zlib.refusing)
    (fun st => ∀ ply ∈ st.1.players, st.2 ply.mLinkID = taken st.1)
    (start false (Block.zeros 32) nothing) welcome := always_known along_welcome

end HXService.Views
