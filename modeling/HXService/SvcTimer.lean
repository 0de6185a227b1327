import HXService.Lib.Batch
import HXService.Lib.Packing
import HXService.Sends

/-! The timer of a scene server (`SvcTimer`): every 30 milliseconds the transforms
that have been updated go to everybody, as many as the buffer holds. -/

namespace HXService.SvcTimer
open Bytes PlayerManager Batch Packing

def updated (ply : Player) : Bool := ply.transInfo.update

def clearUpdate (ply : Player) : Player :=
  { ply with transInfo := { ply.transInfo with update := false } }

def cleared : Filling UInt8 := ⟨List.replicate maxBodyLength 0, 0, 0⟩

/-- The first loop of `handler`. -/
def gather (g : Filling UInt8) (players : List Player) : Checked (List Player × Filling UInt8) :=
  match fill maxBodyLength TransformInfo.size updated (fun ply => ply.transInfo.bytes) clearUpdate
    g players with
  | none => .error .outsideArray
  | some out => .ok out

variable {σ : Type} (net : Network σ)

def handler (m : PlayerManager) (s : σ) : Checked (PlayerManager × σ) := do
  let out ← gather cleared m.players
  let m := { m with players := out.1 }
  if 0 < out.2.count then do
    let data := out.2.buffer.take (TransformInfo.size * out.2.count)
    let s ← sendCmdTo net m.players idUserTransform 0 data s
    pure (m, if m.userVisibleFlag then (net.sendCenter s idGlobalTransform 0 data).2 else s)
  else pure (m, s)

def capacity : Nat := 474

def due (m : PlayerManager) : List Player := batch updated capacity m.players

def transforms (players : List Player) : List UInt8 := players.flatMap fun ply => ply.transInfo.bytes

section Gather
variable {g : Filling UInt8} {players : List Player} {written : List (List UInt8)}

theorem length_transforms (players : List Player) :
    (transforms players).length = players.length * TransformInfo.size :=
  length_records (fun ply => ply.transInfo.length_bytes) players

theorem packed_cleared : Packed maxBodyLength TransformInfo.size cleared [] :=
  packed_empty List.length_replicate

theorem gather_eq (h : Packed maxBodyLength TransformInfo.size g written) :
    ∃ g', gather g players = .ok (clearFirst updated clearUpdate (capacity - g.count) players, g') ∧
      Packed maxBodyLength TransformInfo.size g' (written ++
        (batch updated (capacity - g.count) players).map fun ply => ply.transInfo.bytes) := by
  have hcapacity : maxBodyLength / TransformInfo.size = capacity := by decide
  obtain ⟨g', hfill, hg'⟩ := fill_eq updated clearUpdate (by decide) (by decide)
    (fun ply => ply.transInfo.length_bytes) h players
  rw [hcapacity] at hfill hg'
  refine ⟨g', ?_, hg'⟩
  unfold gather
  rw [hfill]

end Gather

theorem fits_due (m : PlayerManager) : (transforms (due m)).length ≤ maxBodyLength := by
  have hcount : (due m).length ≤ capacity := length_batch_le
  rw [length_transforms]
  exact (Nat.mul_le_mul_right _ hcount).trans (by decide)

def tickSends (m : PlayerManager) : List Sent :=
  let told := m.players.map fun ply =>
    command idUserTransform 0 (transforms (due m)) (fits_due m) ply.mLinkID
  if due m = [] then []
  else if m.userVisibleFlag then told ++ [.center idGlobalTransform 0 (transforms (due m))]
  else told

/-- No access of the handler is outside the buffer. -/
theorem handler_eq {σ : Type} {net : Network σ} (m : PlayerManager) (s : σ) : handler net m s =
    .ok ({ m with players := clearFirst updated clearUpdate capacity m.players },
      net.performAll s (tickSends m)) := by
  obtain ⟨g, hgather, hpacked⟩ := @gather_eq cleared m.players [] packed_cleared
  rw [List.nil_append] at hpacked
  have hcount : g.count = (due m).length := hpacked.count_eq.trans (List.length_map _)
  have hbytes : g.buffer.take (TransformInfo.size * g.count) = transforms (due m) := by
    rw [Nat.mul_comm, ← hpacked.p_eq, hpacked.take_eq]
    exact List.flatMap_def.symm
  have htold : (clearFirst updated clearUpdate capacity m.players).map (fun ply =>
        command idUserTransform 0 (transforms (due m)) (fits_due m) ply.mLinkID) =
      m.players.map fun ply =>
        command idUserTransform 0 (transforms (due m)) (fits_due m) ply.mLinkID :=
    map_clearFirst _ fun _ => rfl
  unfold handler tickSends
  rw [hgather, ok_bind]
  dsimp only
  rw [hbytes, hcount]
  by_cases hnone : due m = []
  · have hzero : ¬0 < (due m).length := by
      rw [hnone]
      exact Nat.lt_irrefl 0
    rw [if_pos hnone, if_neg hzero]
    rfl
  · rw [if_neg hnone, if_pos (List.length_pos_iff.mpr hnone), sendCmdTo_eq (fits_due m), ok_bind]
    simp only [Nat.sub_zero, cleared]
    rw [htold]
    split_ifs
    · rw [Network.performAll_append]
      rfl
    · rfl

end HXService.SvcTimer
