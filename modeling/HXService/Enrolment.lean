import HXService.Lib.Roster
import HXService.Message

/-! A list of entries that session messages enter and leave: what it holds when
the messages still queued have been handled. -/

namespace HXService
open Roster

/-! ## Entries

A connect message enters its link, a disconnect message removes it by `sid`. -/

def sidOf (linkID : LinkID) : Nat := linkID.sid.toNat

/-- The part of an entry that no message changes: its id and its link. -/
abbrev Face := Nat × LinkID

def enrol (pack : HXMessagePackage) (faces : List Face) : List Face :=
  if pack.header.id = idConnect then faces ++ [(sidOf pack.mLinkid, pack.mLinkid)]
  else if pack.header.id = idDisconnect then remove Prod.fst (sidOf pack.mLinkid) faces
  else faces

def Keyed (faces : List Face) : Prop := ∀ face ∈ faces, face.1 = sidOf face.2

def changesOf (pack : HXMessagePackage) : List (Change LinkID) :=
  if pack.header.id = idConnect then [.enter pack.mLinkid]
  else if pack.header.id = idDisconnect then [.leave pack.mLinkid]
  else []

section Enrol
variable {pack : HXMessagePackage} {faces : List Face}

theorem enrol_connect (h : pack.header.id = idConnect) :
    enrol pack faces = faces ++ [(sidOf pack.mLinkid, pack.mLinkid)] := if_pos h

theorem enrol_disconnect (h : pack.header.id = idDisconnect) :
    enrol pack faces = remove Prod.fst (sidOf pack.mLinkid) faces := by
  have hne : pack.header.id ≠ idConnect := by
    rw [h]
    decide
  rw [enrol, if_neg hne, if_pos h]

theorem enrol_other (h : pack.header.id ≠ idConnect) (h' : pack.header.id ≠ idDisconnect) :
    enrol pack faces = faces := by
  rw [enrol, if_neg h, if_neg h']

theorem keyed_enrol (h : Keyed faces) : Keyed (enrol pack faces) := by
  intro face hface
  rw [enrol] at hface
  split_ifs at hface
  · rcases List.mem_append.mp hface with hface | hface
    · exact h face hface
    · rw [List.mem_singleton.mp hface]
  · exact h face (List.mem_of_mem_eraseP hface)
  · exact h face hface

theorem links_enrol (h : Keyed faces) : (enrol pack faces).map Prod.snd =
    settle sidOf (faces.map Prod.snd) (changesOf pack) := by
  rw [enrol, changesOf]
  split_ifs
  · exact List.map_append
  · exact map_remove Prod.snd sidOf fun face hface => (h face hface).symm
  · rfl

theorem keyed_map_fst (h : Keyed faces) : faces.map Prod.fst = (faces.map Prod.snd).map sidOf := by
  rw [List.map_map]
  exact List.map_congr_left h

end Enrol

/-! ## Messages under way

`alive` are the links whose connect message has been queued and whose disconnect
message has not. -/

structure Tracks (faces : List Face) (cs : List (Change LinkID)) (alive : LinkID → Prop) : Prop where
  keyed : Keyed faces
  nodup : ((faces.map Prod.snd).map sidOf).Nodup
  sound : SoundAll sidOf (faces.map Prod.snd) cs
  settled : ∀ linkID, linkID ∈ settle sidOf (faces.map Prod.snd) cs ↔ alive linkID

namespace Tracks
variable {faces : List Face} {cs : List (Change LinkID)} {alive alive' : LinkID → Prop}

theorem empty (h : ∀ linkID, ¬alive linkID) : Tracks [] [] alive :=
  ⟨nofun, List.nodup_nil, trivial, fun linkID => iff_of_false List.not_mem_nil (h linkID)⟩

theorem congr (h : Tracks faces cs alive) (halive : ∀ linkID, alive linkID ↔ alive' linkID) :
    Tracks faces cs alive' :=
  ⟨h.keyed, h.nodup, h.sound, fun linkID => (h.settled linkID).trans (halive linkID)⟩

theorem enter {linkID : LinkID} (h : Tracks faces cs alive)
    (hfresh : ∀ other, alive other → sidOf other ≠ sidOf linkID) :
    Tracks faces (cs ++ [.enter linkID]) fun other => alive other ∨ other = linkID := by
  refine ⟨h.keyed, h.nodup, ?_, ?_⟩
  · rw [soundAll_append]
    refine ⟨h.sound, ?_, trivial⟩
    intro hmem
    obtain ⟨other, hother, hsid⟩ := List.mem_map.mp hmem
    exact hfresh other ((h.settled other).mp hother) hsid
  · intro other
    rw [settle_append]
    exact (@mem_apply_enter _ _ _ sidOf _ linkID other).trans (or_congr_left (h.settled other))

theorem leave {linkID : LinkID} (h : Tracks faces cs alive) (hlink : alive linkID) :
    Tracks faces (cs ++ [.leave linkID]) fun other => alive other ∧ other ≠ linkID := by
  have hmem := (h.settled linkID).mpr hlink
  refine ⟨h.keyed, h.nodup, ?_, ?_⟩
  · rw [soundAll_append]
    exact ⟨h.sound, hmem, trivial⟩
  · intro other
    rw [settle_append]
    exact (mem_apply_leave (nodup_settle h.nodup h.sound) hmem).trans
      (and_congr_left' (h.settled other))

theorem handled {pack : HXMessagePackage} (h : Tracks faces (changesOf pack ++ cs) alive) :
    Tracks (enrol pack faces) cs alive := by
  have hlinks := @links_enrol pack faces h.keyed
  obtain ⟨hhead, htail⟩ := soundAll_append.mp h.sound
  refine ⟨keyed_enrol h.keyed, ?_, ?_, ?_⟩
  · rw [hlinks]
    exact nodup_settle h.nodup hhead
  · rw [hlinks]
    exact htail
  · intro linkID
    rw [hlinks, ← settle_append]
    exact h.settled linkID

theorem nodup_ids (h : Tracks faces cs alive) : (faces.map Prod.fst).Nodup := by
  rw [keyed_map_fst h.keyed]
  exact h.nodup

end Tracks

section Sender
variable {α : Type} {id : α → Nat} {link : α → LinkID} {xs : List α}

theorem id_eq_sidOf_iff (hkeyed : ∀ x ∈ xs, id x = sidOf (link x)) (hnodup : (xs.map id).Nodup)
    {x y : α} (hx : x ∈ xs) (hy : y ∈ xs) : id y = sidOf (link x) ↔ link y = link x := by
  constructor
  · intro h
    rw [List.inj_on_of_nodup_map hnodup hy hx (h.trans (hkeyed x hx).symm)]
  · intro h
    rw [hkeyed y hy, h]

theorem remove_sender (hkeyed : ∀ x ∈ xs, id x = sidOf (link x)) (hnodup : (xs.map id).Nodup)
    {x : α} (hx : x ∈ xs) : remove id (sidOf (link x)) xs = xs.filter (link · ≠ link x) := by
  rw [remove_eq_filter hnodup]
  apply List.filter_congr
  intro y hy
  rw [decide_eq_decide]
  exact not_congr (id_eq_sidOf_iff hkeyed hnodup hx hy)

theorem modify_sender (f : α → α) (hkeyed : ∀ x ∈ xs, id x = sidOf (link x))
    (hnodup : (xs.map id).Nodup) {x : α} (hx : x ∈ xs) :
    modify id (sidOf (link x)) f xs = xs.map fun y => if link y = link x then f y else y := by
  rw [modify_eq_map f hnodup]
  apply List.map_congr_left
  intro y hy
  exact if_congr (id_eq_sidOf_iff hkeyed hnodup hx hy) rfl rfl

end Sender
end HXService
