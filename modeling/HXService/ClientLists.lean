import HXService.Lib.Batch
import HXService.Lib.Packing
import HXService.Sends

/-! The lists of the seated clients (`SendClientList`, `SendClientListToCenterServer`),
packed into `user_list_buffer` as far as it has room. -/

namespace HXService.ClientLists
open Bytes PlayerManager Batch Packing

def isSeated (ply : Player) : Bool := ply.mUserType = vip ∧ 0 < ply.mSeatNumber

def cleared : Filling UInt8 := ⟨List.replicate maxBodyLength 0, 0, 0⟩

/-- The loop of both, which leaves the players as they are. -/
def gather (g : Filling UInt8) (players : List Player) : Checked (Filling UInt8) :=
  match fill maxBodyLength ProfileInfo.size isSeated (fun ply => ply.mProfileInfo.bytes) id
    g players with
  | none => .error .outsideArray
  | some out => .ok out.2

section Send
variable {σ : Type} (net : Network σ)

def sendClientList (m : PlayerManager) (linkID : LinkID) (s : σ) : Checked σ := do
  let g ← gather cleared m.players
  if 0 < g.count then do
    let data := g.buffer.take (ProfileInfo.size * g.count)
    let sent ← sendCmd net linkID idUserNotify s2cClientList data s
    pure sent.2
  else pure s

def sendClientListToCenterServer (m : PlayerManager) (s : σ) : Checked σ := do
  let g ← gather cleared m.players
  if 0 < g.count then
    let data := g.buffer.take (ProfileInfo.size * g.count)
    pure (net.sendCenter s idGlobalNotify s2cClientListExternal data).2
  else pure s

end Send

def capacity : Nat := 250

def seated (m : PlayerManager) : List Player := m.players.filter isSeated

def profiles (players : List Player) : List UInt8 := players.flatMap fun ply => ply.mProfileInfo.bytes

def listed (m : PlayerManager) : List UInt8 := profiles (batch isSeated capacity m.players)

section Gather
variable {g : Filling UInt8} {players : List Player} {written : List (List UInt8)}

theorem packed_cleared : Packed maxBodyLength ProfileInfo.size cleared [] :=
  packed_empty List.length_replicate

theorem gather_eq (h : Packed maxBodyLength ProfileInfo.size g written) :
    ∃ g', gather g players = .ok g' ∧ Packed maxBodyLength ProfileInfo.size g' (written ++
      (batch isSeated (capacity - g.count) players).map fun ply => ply.mProfileInfo.bytes) := by
  have hcapacity : maxBodyLength / ProfileInfo.size = capacity := by decide
  obtain ⟨g', hfill, hg'⟩ := fill_eq isSeated id (by decide) (by decide)
    (fun ply => ply.mProfileInfo.length_bytes) h players
  rw [hcapacity] at hfill hg'
  refine ⟨g', ?_, hg'⟩
  unfold gather
  rw [hfill]

theorem length_profiles (players : List Player) :
    (profiles players).length = players.length * ProfileInfo.size :=
  length_records (fun ply => ply.mProfileInfo.length_bytes) players

theorem fits_listed (m : PlayerManager) : (listed m).length ≤ maxBodyLength := by
  have hcount : (batch isSeated capacity m.players).length ≤ capacity := length_batch_le
  unfold listed
  rw [length_profiles]
  exact (Nat.mul_le_mul_right _ hcount).trans (by decide)

/-- No access is outside the buffer; what stands in it at the end is the list. -/
theorem gather_cleared (m : PlayerManager) :
    ∃ g, gather cleared m.players = .ok g ∧
      (0 < g.count ↔ batch isSeated capacity m.players ≠ []) ∧
      g.buffer.take (ProfileInfo.size * g.count) = listed m := by
  obtain ⟨g, hgather, hpacked⟩ := @gather_eq cleared m.players [] packed_cleared
  rw [List.nil_append] at hpacked
  refine ⟨g, hgather, ?_, ?_⟩
  · rw [hpacked.count_eq, List.length_map]
    exact List.length_pos_iff
  · rw [Nat.mul_comm, ← hpacked.p_eq, hpacked.take_eq]
    exact List.flatMap_def.symm

end Gather

abbrev Payload := {data : List UInt8 // data.length ≤ maxBodyLength}

def Payload.toClient (linkID : LinkID) (payload : Payload) : Sent :=
  command idUserNotify s2cClientList payload.1 payload.2 linkID

def Payload.toCenter (payload : Payload) : Sent := .center idGlobalNotify s2cClientListExternal payload.1

/-- Both functions send the profiles of the seated players, all of them once and in the
order of the list, in as many messages as it takes; both send the same. -/
def Conveys (m : PlayerManager) : Prop :=
  ∃ payloads : List Payload, payloads.flatMap Subtype.val = profiles (seated m) ∧
    ∀ {σ : Type} (net : Network σ) (s : σ),
      (∀ linkID, sendClientList net m linkID s =
        .ok (net.performAll s (payloads.map (Payload.toClient linkID)))) ∧
      sendClientListToCenterServer net m s = .ok (net.performAll s (payloads.map Payload.toCenter))

section Messages
variable {m : PlayerManager} {linkID : LinkID}

def messages (m : PlayerManager) : List Payload :=
  if batch isSeated capacity m.players = [] then [] else [⟨listed m, fits_listed m⟩]

theorem flatMap_messages (m : PlayerManager) : (messages m).flatMap Subtype.val = listed m := by
  unfold messages
  split_ifs with hnone
  · unfold listed
    rw [hnone]
    rfl
  · exact List.flatMap_singleton ..

variable {σ : Type} {net : Network σ} {s : σ}

theorem sendClientList_eq : sendClientList net m linkID s =
    .ok (net.performAll s ((messages m).map (Payload.toClient linkID))) := by
  obtain ⟨g, hgather, hcount, htake⟩ := gather_cleared m
  unfold sendClientList messages
  rw [hgather, ok_bind]
  dsimp only
  rw [htake]
  by_cases hnone : batch isSeated capacity m.players = []
  · rw [if_pos hnone, if_neg fun hpos => hcount.mp hpos hnone]
    rfl
  · rw [if_neg hnone, if_pos (hcount.mpr hnone), sendCmd_eq (fits_listed m)]
    rfl

theorem sendClientListToCenterServer_eq : sendClientListToCenterServer net m s =
    .ok (net.performAll s ((messages m).map Payload.toCenter)) := by
  obtain ⟨g, hgather, hcount, htake⟩ := gather_cleared m
  unfold sendClientListToCenterServer messages
  rw [hgather, ok_bind]
  dsimp only
  rw [htake]
  by_cases hnone : batch isSeated capacity m.players = []
  · rw [if_pos hnone, if_neg fun hpos => hcount.mp hpos hnone]
    rfl
  · rw [if_neg hnone, if_pos (hcount.mpr hnone)]
    rfl

/-! The functions of `PlayerManager` leave the buffer out and come to the same. -/

theorem clientList_eq {count : Nat} (players : List Player) (h : count ≤ capacity) :
    clientList count players = profiles (batch isSeated (capacity - count) players) := by
  have hsize : ProfileInfo.size = 131 := rfl
  have hmax : maxBodyLength = 32768 := rfl
  have hcapacity : capacity = 250 := rfl
  induction players generalizing count with
  | nil =>
    rw [batch_nil]
    rfl
  | cons ply players ih =>
    have hfull : maxBodyLength - count * ProfileInfo.size < ProfileInfo.size ↔ count = capacity := by
      rw [hsize, hmax]
      omega
    unfold clientList
    split_ifs with hlt hply
    · rw [hfull.mp hlt, Nat.sub_self, batch, List.take_zero]
      rfl
    · have hroom : count < capacity := lt_of_le_of_ne h fun heq => hlt (hfull.mpr heq)
      have hk : capacity - count = capacity - (count + 1) + 1 := by omega
      have hseated : isSeated ply = true := decide_eq_true hply
      rw [hk, batch_cons_of_flag hseated, ih hroom]
      rfl
    · have hnot : ¬isSeated ply = true := fun hseated => hply (of_decide_eq_true hseated)
      rw [batch_cons_of_not hnot, ih h]

theorem clientList_eq_nil : clientList 0 m.players = [] ↔ batch isSeated capacity m.players = [] := by
  rw [clientList_eq m.players (Nat.zero_le _), ← List.length_eq_zero_iff, length_profiles,
    ← List.length_eq_zero_iff, Nat.mul_eq_zero]
  exact or_iff_left (by decide)

theorem sendClientList_manager :
    sendClientList net m linkID s = PlayerManager.sendClientList net m linkID s := by
  rw [sendClientList_eq]
  unfold PlayerManager.sendClientList messages
  by_cases hnone : batch isSeated capacity m.players = []
  · rw [if_pos hnone, if_pos (clientList_eq_nil.mpr hnone)]
    rfl
  · have hlist : clientList 0 m.players = listed m := clientList_eq m.players (Nat.zero_le _)
    rw [if_neg hnone, if_neg fun hnil => hnone (clientList_eq_nil.mp hnil), hlist,
      sendCmd_eq (fits_listed m)]
    rfl

theorem sendClientListToCenterServer_manager :
    sendClientListToCenterServer net m s = .ok (m.sendClientListToCenterServer net s) := by
  rw [sendClientListToCenterServer_eq]
  unfold PlayerManager.sendClientListToCenterServer messages
  by_cases hnone : batch isSeated capacity m.players = []
  · rw [if_pos hnone, if_pos (clientList_eq_nil.mpr hnone)]
    rfl
  · have hlist : clientList 0 m.players = listed m := clientList_eq m.players (Nat.zero_le _)
    rw [if_neg hnone, if_neg fun hnil => hnone (clientList_eq_nil.mp hnil), hlist]
    rfl

theorem toCenter_injective : Function.Injective Payload.toCenter := by
  intro a b h
  obtain ⟨-, -, hbytes⟩ := Sent.center.inj h
  exact Subtype.ext hbytes

theorem listed_of_conveys (h : Conveys m) : listed m = profiles (seated m) := by
  obtain ⟨payloads, hprofiles, hsends⟩ := h
  have hcenter := (hsends Network.notebook []).2
  rw [sendClientListToCenterServer_eq, Network.performAll_notebook, Network.performAll_notebook] at hcenter
  have hmessages : messages m = payloads :=
    List.map_injective_iff.mpr toCenter_injective (Except.ok.inj hcenter)
  rw [← flatMap_messages, hmessages, hprofiles]

theorem conveys_of_listed (h : listed m = profiles (seated m)) : Conveys m :=
  ⟨messages m, (flatMap_messages m).trans h, fun _ _ =>
    ⟨fun _ => sendClientList_eq, sendClientListToCenterServer_eq⟩⟩

theorem listed_iff (m : PlayerManager) :
    listed m = profiles (seated m) ↔ (seated m).length ≤ capacity := by
  constructor
  · intro h
    have hlength := congrArg List.length h
    unfold listed at hlength
    rw [length_profiles, length_profiles] at hlength
    have hcount := Nat.eq_of_mul_eq_mul_right (by decide) hlength
    exact hcount ▸ length_batch_le
  · intro h
    exact congrArg profiles (List.take_of_length_le h)

/-- The lists are complete exactly as long as the profiles fit into one buffer. -/
theorem conveys_iff (m : PlayerManager) : Conveys m ↔ (seated m).length ≤ capacity :=
  ⟨fun h => (listed_iff m).mp (listed_of_conveys h), fun h => conveys_of_listed ((listed_iff m).mpr h)⟩

end Messages

/-! One player more than the buffer holds, each in a seat of his own. -/

def seatedPlayer (i : Nat) : Player :=
  (Player.new ⟨UInt16.ofNat (i + 1), UInt16.ofNat i⟩ false (TransformInfo.ofBytes [])).setSeatNumber
    (Int32.ofNat (i + 1))

def crowd : PlayerManager :=
  { PlayerManager.new false (Block.zeros 32) with players := (List.range 251).map seatedPlayer }

theorem isSeated_seatedPlayer {i : Nat} (h : i < 251) : isSeated (seatedPlayer i) = true := by
  have hseat : (Int32.ofNat (i + 1)).toInt = (i + 1 : Nat) := Int32.toInt_ofNat_of_lt (by omega)
  refine decide_eq_true ⟨rfl, Int32.lt_iff_toInt_lt.mpr ?_⟩
  show (0 : Int) < (Int32.ofNat (i + 1)).toInt
  omega

theorem not_conveys : ¬Conveys crowd := by
  intro h
  have hall : ∀ i ∈ List.range 251, isSeated (seatedPlayer i) = true :=
    fun i hi => isSeated_seatedPlayer (List.mem_range.mp hi)
  have hseated : seated crowd = (List.range 251).map seatedPlayer :=
    List.filter_eq_self.mpr (List.forall_mem_map.mpr hall)
  have hfits := (listed_iff crowd).mp (listed_of_conveys h)
  rw [hseated, List.length_map, List.length_range] at hfits
  exact absurd hfits (by decide)

end HXService.ClientLists
