import HXService.Lib.Runs
import HXService.SvcTimer

/-! Positions between the calls that store them and the ticks that send them, in any
order of the two threads' calls. -/

namespace HXService.Positions
open Bytes Runs PlayerManager SvcTimer Batch

/-! ## The calls

Each is atomic under `mMutex`. No player is added under an id that is listed. -/

inductive Event
  | update (plyId : Nat) (transInfo : TransformInfo)
  | add (ply : Player)
  | delete (plyId : Nat)
  | tick

variable {σ : Type} (net : Network σ)

def step (server : PlayerManager × σ) : Event → Option (PlayerManager × σ)
  | .update plyId transInfo => some (server.1.updatePlayerTransform plyId transInfo, server.2)
  | .add ply =>
    if ply.mPlyID ∈ server.1.players.map Player.mPlyID then none
    else some (server.1.addPlayer ply, server.2)
  | .delete plyId => some (server.1.deletePlayer plyId, server.2)
  | .tick => (handler net server.1 server.2).toOption

def start (m : PlayerManager) (s : σ) : PlayerManager × σ := ({ m with players := [] }, s)

/-- A tick sends the transforms of the first players that are updated, to everybody,
and clears the flags of just these. `room` is what every test of the loop finds. -/
structure Broadcasts (m : PlayerManager) (s : σ) : Prop where
  sends : handler net m s = .ok ({ m with
    players := m.players.map fun ply => if ply ∈ due m then clearUpdate ply else ply },
    net.performAll s (tickSends m))
  room : ∀ before after, m.players = before ++ after → ∃ out, gather cleared before = .ok out ∧
    out.2.count * TransformInfo.size ≤ maxBodyLength

def TicksWell (server : PlayerManager × σ) : Event → Prop
  | .tick => Broadcasts net server.1 server.2
  | _ => True

/-! ## What becomes of one position -/

def Touches (plyId : Nat) : Event → Prop
  | .update id _ => id = plyId
  | .add ply => ply.mPlyID = plyId
  | .delete id => id = plyId
  | .tick => False

def takenAt (plyId : Nat) (m : PlayerManager) : Event → List TransformInfo
  | .tick => ((due m).filter (·.mPlyID = plyId)).map Player.transInfo
  | _ => []

def taken (plyId : Nat) : PlayerManager × σ → List Event → List TransformInfo
  | _, [] => []
  | server, e :: es => takenAt plyId server.1 e ++
    match step net server e with
    | none => []
    | some server' => taken plyId server' es

/-- In `es` the last that is stored for a player is in exactly one tick since, or it
is in none and still flagged. -/
def NoneLost (server : PlayerManager × σ) (es : List Event) : Prop :=
  ∀ before after plyId transInfo last, es = before ++ .update plyId transInfo :: after →
    (∀ e ∈ after, ¬Touches plyId e) → run (step net) server es = some last →
    ∀ ply ∈ last.1.players, ply.mPlyID = plyId →
      ply.transInfo = { transInfo with update := ply.transInfo.update } ∧
      ∃ stored, run (step net) server (before ++ [.update plyId transInfo]) = some stored ∧
        taken net plyId stored after =
          if ply.transInfo.update then [] else [{ transInfo with update := true }]

variable {net} {server server' : PlayerManager × σ} {e : Event} {plyId : Nat} {t : TransformInfo}

/-! ## Ticks -/

def Distinct (server : PlayerManager × σ) : Prop := (server.1.players.map Player.mPlyID).Nodup

theorem broadcasts_of_distinct (h : Distinct server) : Broadcasts net server.1 server.2 := by
  constructor
  · have hplayers := @clearFirst_eq_map _ updated clearUpdate capacity server.1.players _ h.of_map
    rw [handler_eq, hplayers]
    rfl
  · intro before after _
    obtain ⟨g, hgather, hpacked⟩ := @gather_eq cleared before [] packed_cleared
    exact ⟨_, hgather, hpacked.room⟩

theorem step_tick (h : Distinct server) (hstep : step net server .tick = some server') :
    server'.1.players = server.1.players.map fun ply =>
      if ply ∈ due server.1 then clearUpdate ply else ply := by
  rw [step, (broadcasts_of_distinct h).sends] at hstep
  rw [← Option.some.inj hstep]

theorem ids_tick (h : Distinct server) (hstep : step net server .tick = some server') :
    server'.1.players.map Player.mPlyID = server.1.players.map Player.mPlyID := by
  rw [step_tick h hstep, List.map_map]
  apply List.map_congr_left
  intro ply _
  rw [Function.comp_apply]
  split_ifs <;> rfl

theorem distinct_step (server : PlayerManager × σ) (e : Event) (server' : PlayerManager × σ)
    (h : Distinct server) (hstep : step net server e = some server') : Distinct server' := by
  unfold Distinct at *
  cases e with
  | update plyId transInfo =>
    have hids : (server.1.updatePlayerTransform plyId transInfo).players.map Player.mPlyID =
        server.1.players.map Player.mPlyID := Roster.map_modify Player.mPlyID fun _ => rfl
    rw [← Option.some.inj hstep]
    rwa [hids]
  | add ply =>
    rw [step] at hstep
    split_ifs at hstep with hlisted
    rw [← Option.some.inj hstep]
    exact Roster.nodup_apply h (show Roster.Sound Player.mPlyID _ (.enter ply) from hlisted)
  | delete plyId =>
    rw [← Option.some.inj hstep]
    exact h.sublist (List.eraseP_sublist.map _)
  | tick => rwa [ids_tick h hstep]

/-! ## One position

`Status` says what is stored for a player, and whether its flag is set. -/

def Status (plyId : Nat) (t : TransformInfo) (flag : Bool) (server : PlayerManager × σ) : Prop :=
  ∀ ply ∈ server.1.players, ply.mPlyID = plyId → ply.transInfo = { t with update := flag }

variable {flag : Bool}

theorem players_update (h : Distinct server) (id : Nat) (transInfo : TransformInfo) :
    (server.1.updatePlayerTransform id transInfo).players = server.1.players.map fun ply =>
      if ply.mPlyID = id then { ply with transInfo := { transInfo with update := true } } else ply :=
  Roster.modify_eq_map _ h

theorem status_update (h : Distinct server) (hstep : step net server (.update plyId t) = some server') :
    Status plyId t true server' := by
  rw [← Option.some.inj hstep]
  intro ply hply hid
  dsimp only at hply
  rw [players_update h] at hply
  obtain ⟨old, -, rfl⟩ := List.mem_map.mp hply
  split_ifs at hid ⊢ with hold
  · rfl
  · exact absurd hid hold

theorem status_other (h : Distinct server) (hne : e ≠ .tick) (hquiet : ¬Touches plyId e)
    (hstatus : Status plyId t flag server) (hstep : step net server e = some server') :
    Status plyId t flag server' := by
  intro ply hply hid
  cases e with
  | update id transInfo =>
    rw [← Option.some.inj hstep] at hply
    dsimp only at hply
    rw [players_update h] at hply
    obtain ⟨old, hold, rfl⟩ := List.mem_map.mp hply
    split_ifs at hid ⊢ with hsame
    · exact absurd (hsame.symm.trans hid) hquiet
    · exact hstatus old hold hid
  | add new =>
    rw [step] at hstep
    split_ifs at hstep
    rw [← Option.some.inj hstep] at hply
    rcases List.mem_append.mp hply with hply | hply
    · exact hstatus ply hply hid
    · rw [List.mem_singleton.mp hply] at hid
      exact absurd hid hquiet
  | delete id =>
    rw [← Option.some.inj hstep] at hply
    exact hstatus ply (List.mem_of_mem_eraseP hply) hid
  | tick => exact absurd rfl hne

theorem ids_due (h : Distinct server) : ((due server.1).map Player.mPlyID).Nodup :=
  h.sublist (((List.take_sublist _ _).trans List.filter_sublist).map _)

theorem status_taken {ply : Player} (h : Distinct server) (hply : ply ∈ due server.1)
    (hstatus : Status ply.mPlyID t flag server) (hstep : step net server .tick = some server') :
    flag = true ∧ takenAt ply.mPlyID server.1 .tick = [{ t with update := true }] ∧
      Status ply.mPlyID t false server' := by
  have hlisted := mem_of_mem_batch hply
  have hinfo := hstatus ply hlisted rfl
  have hupdated : updated ply = true := flag_of_mem hply
  rw [updated, hinfo] at hupdated
  obtain rfl : flag = true := hupdated
  refine ⟨rfl, ?_, ?_⟩
  · unfold takenAt
    dsimp only
    rw [Roster.filter_key (ids_due h) hply, List.map_singleton, hinfo]
  · intro ply' hply' hid
    rw [step_tick h hstep] at hply'
    obtain ⟨old, hold, rfl⟩ := List.mem_map.mp hply'
    have hsame : old.mPlyID = ply.mPlyID := by
      split_ifs at hid <;> exact hid
    obtain rfl := Roster.eq_of_key h hold hlisted hsame
    rw [if_pos hply, clearUpdate, hinfo]

theorem status_left (h : Distinct server) (hnot : ∀ ply ∈ due server.1, ply.mPlyID ≠ plyId)
    (hstatus : Status plyId t flag server) (hstep : step net server .tick = some server') :
    takenAt plyId server.1 .tick = [] ∧ Status plyId t flag server' := by
  constructor
  · unfold takenAt
    dsimp only
    rw [List.map_eq_nil_iff, List.filter_eq_nil_iff]
    intro ply hply
    rw [decide_eq_true_eq]
    exact hnot ply hply
  · intro ply' hply' hid
    rw [step_tick h hstep] at hply'
    obtain ⟨old, hold, rfl⟩ := List.mem_map.mp hply'
    split_ifs at hid ⊢ with hdue
    · exact absurd hid (hnot old hdue)
    · exact hstatus old hold hid

theorem status_step (h : Distinct server) (hquiet : ¬Touches plyId e)
    (hstatus : Status plyId t flag server) (hstep : step net server e = some server') : ∃ flag', Status plyId t flag' server' ∧
      (flag = false → flag' = false) ∧ takenAt plyId server.1 e =
        if flag && !flag' then [{ t with update := true }] else [] := by
  by_cases htick : e = .tick
  · subst htick
    by_cases hdue : ∃ ply ∈ due server.1, ply.mPlyID = plyId
    · obtain ⟨ply, hply, rfl⟩ := hdue
      obtain ⟨rfl, htaken, hstatus'⟩ := status_taken h hply hstatus hstep
      exact ⟨false, hstatus', fun _ => rfl, htaken⟩
    · have hnot : ∀ ply ∈ due server.1, ply.mPlyID ≠ plyId := fun ply hply hid => hdue ⟨ply, hply, hid⟩
      obtain ⟨htaken, hstatus'⟩ := status_left h hnot hstatus hstep
      refine ⟨flag, hstatus', id, ?_⟩
      rw [htaken, Bool.and_not_self]
      rfl
  · refine ⟨flag, status_other h htick hquiet hstatus hstep, id, ?_⟩
    rw [Bool.and_not_self]
    cases e with
    | tick => exact absurd rfl htick
    | update id transInfo => rfl
    | add ply => rfl
    | delete id => rfl

theorem status_run {es : List Event} (h : Distinct server) (hquiet : ∀ e ∈ es, ¬Touches plyId e)
    (hstatus : Status plyId t flag server) (hrun : run (step net) server es = some server') :
    ∃ flag', Status plyId t flag' server' ∧ (flag = false → flag' = false) ∧
      taken net plyId server es = if flag && !flag' then [{ t with update := true }] else [] := by
  induction es generalizing server flag with
  | nil =>
    rw [run, Option.some.injEq] at hrun
    refine ⟨flag, hrun ▸ hstatus, id, ?_⟩
    rw [Bool.and_not_self]
    rfl
  | cons e es ih =>
    obtain ⟨mid, hstep, hrest⟩ := run_cons.mp hrun
    obtain ⟨flag₁, hmid, hdown, htaken⟩ := status_step h (hquiet e List.mem_cons_self) hstatus hstep
    obtain ⟨flag₂, hlast, hdown', htaken'⟩ := ih (distinct_step _ _ _ h hstep)
      (fun e' he' => hquiet e' (List.mem_cons_of_mem _ he')) hmid hrest
    refine ⟨flag₂, hlast, fun hflag => hdown' (hdown hflag), ?_⟩
    rw [taken, hstep]
    dsimp only
    rw [htaken, htaken']
    -- the flag is lowered at most once
    cases flag with
    | false =>
      rw [hdown rfl]
      rfl
    | true =>
      cases flag₁ with
      | false =>
        rw [hdown' rfl]
        rfl
      | true => rfl

theorem noneLost_of_distinct {es : List Event} (h : Distinct server) : NoneLost net server es := by
  intro before after plyId t last hes hquiet hrun ply hply hid
  rw [hes, List.append_cons] at hrun
  obtain ⟨stored, hstored, hafter⟩ := run_append.mp hrun
  obtain ⟨earlier, hbefore, hupdate⟩ := run_append.mp hstored
  have hearlier : Distinct earlier := run_invariant distinct_step hbefore h
  obtain ⟨mid, hstep, hmid⟩ := run_cons.mp hupdate
  rw [run, Option.some.injEq] at hmid
  subst hmid
  obtain ⟨flag, hlast, -, htaken⟩ :=
    status_run (distinct_step _ _ _ hearlier hstep) hquiet (status_update hearlier hstep) hafter
  have hinfo := hlast ply hply hid
  have hflag : ply.transInfo.update = flag := by rw [hinfo]
  rw [hflag]
  refine ⟨hinfo, mid, hstored, ?_⟩
  rw [htaken]
  cases flag with
  | false => rfl
  | true => rfl

/-- However updates, joins, leaves and ticks interleave, every tick broadcasts as it
should, and every position is sent once or waits with its flag set. -/
theorem run_positions {m : PlayerManager} {s : σ} {es : List Event} :
    Along (step net) (TicksWell net) (start m s) es ∧ NoneLost net (start m s) es := by
  have hstart : Distinct (start m s) := List.nodup_nil
  constructor
  · have hticks : ∀ (server : PlayerManager × σ) (e : Event), Distinct server → TicksWell net server e := by
      intro server e hdistinct
      cases e with
      | tick => exact broadcasts_of_distinct hdistinct
      | update plyId transInfo => trivial
      | add ply => trivial
      | delete plyId => trivial
    exact along_of_inv hticks distinct_step hstart
  · exact noneLost_of_distinct hstart

end HXService.Positions
