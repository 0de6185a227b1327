import HXService.Broadcast

/-! The commands that clients ask for: each goes to everybody but the capsules, to all
in one order. -/

namespace HXService.CrossScene
open Bytes Runs PlayerManager ExternalLists

def commandOf (pack : HXMessagePackage) : Option UInt16 :=
  if IsCommand pack then some pack.header.id2 else none

def asks (a : LinkID) (_ : State) : Event → List UInt16
  | .client c pack _ => if c = a then (SceneServer.asked pack).toList else []
  | _ => []

def others (_ : State) : Event → List UInt16
  | .other pack _ => (commandOf pack).toList
  | _ => []

/-- The commands in the order of the center server, each with the scene server it is
from. -/
def commands (z : Zlib) (s : State) (es : List Event) : List (Option LinkID × UInt16) :=
  (order z s es).filterMap fun m => (commandOf m.2).map fun cmd => (m.1, cmd)

def issued (source : Option LinkID) (cmd : Option LinkID × UInt16) : Option UInt16 :=
  if cmd.1 = source then some cmd.2 else none

def controlOf (pack : HXMessagePackage) : Option UInt16 :=
  if pack.header.id = idUserControl then some pack.header.id2 else none

def controlTo (l : LinkID) : LinkID × Outgoing → Option UInt16
  | (linkID, .package msg) => if linkID = l then controlOf msg else none
  | (_, .big _) => none
  | (_, .data _ _ _) => none

def controls (l : LinkID) (w : Wires) : List UInt16 := w.sent.filterMap (controlTo l)

section Asked
variable {z : Zlib} {m : PlayerManager} {w : List Sent} {pack : HXMessagePackage} {a : LinkID}

def commanded (sends : List Sent) : List UInt16 := (sends.filterMap Sent.packed).filterMap commandOf

theorem commanded_append (sends more : List Sent) :
    commanded (sends ++ more) = commanded sends ++ commanded more := by
  unfold commanded
  rw [List.filterMap_append, List.filterMap_append]

theorem commanded_center {id id2 : UInt16} {bytes : List UInt8}
    (h : ¬(id = idGlobalNotify ∧ id2 ∈ [s2cBeginFlying, s2cPlayVideo, s2cStandUp, s2cWalk])) :
    commanded [.center id id2 bytes] = [] := by
  unfold commanded Sent.packed
  by_cases hfits : bytes.length ≤ maxBodyLength
  · have hcmd : commandOf (HXMessagePackage.filled LinkID.zero id id2 bytes hfits) = none := if_neg h
    simp [hfits, hcmd]
  · simp [hfits]

def IsOther : Sent → Prop
  | .client _ _ => True
  | .center id id2 _ =>
    ¬(id = idGlobalNotify ∧ id2 ∈ [s2cBeginFlying, s2cPlayVideo, s2cStandUp, s2cWalk])

theorem keeps_commanded : Network.notebook.Keeps IsOther fun w' => commanded w' = commanded w := by
  intro w' sent hsent h
  rw [Network.perform_notebook, commanded_append, h]
  cases sent with
  | client linkID msg => exact List.append_nil _
  | center id id2 bytes =>
    rw [commanded_center hsent]
    exact List.append_nil _

theorem isOther_of_isUnheard {sent : Sent} (h : IsUnheard sent) : IsOther sent := by
  cases sent with
  | client linkID msg => trivial
  | center id id2 bytes => exact h

theorem isOther_of_isLocal {sent : Sent} (h : IsLocal sent) : IsOther sent := by
  cases sent with
  | client linkID msg => trivial
  | center id id2 bytes => exact h

theorem commanded_append_clients (sends : List Sent) {more : List Sent}
    (h : ∀ sent ∈ more, sent.packed = none) : commanded (sends ++ more) = commanded sends := by
  rw [commanded_append]
  unfold commanded
  rw [List.filterMap_eq_nil_iff.mpr h]
  exact List.append_nil _

theorem commanded_handleCenter {out : PlayerManager × List Sent}
    (h : SceneServer.handleCenter Network.notebook z m pack w = .ok out) :
    commanded out.2 = commanded w := by
  by_cases hcmd : IsCommand pack
  · rw [handleCenter_command hcmd, broadcastControlCmd, sendCmdTo_eq fits_nil,
      Network.performAll_notebook] at h
    rw [← Except.ok.inj h]
    refine commanded_append_clients w fun sent hsent => ?_
    obtain ⟨ply, -, rfl⟩ := List.mem_map.mp hsent
    rfl
  by_cases hnews : IsNews pack
  · rw [handleCenter_news hnews] at h
    rw [← Except.ok.inj h]
    show commanded (Network.notebook.sendEach (.package pack) (m.players.map Player.mLinkID) w) = _
    rw [sendEach_notebook]
    refine commanded_append_clients w fun sent hsent => ?_
    obtain ⟨linkID, -, rfl⟩ := List.mem_map.mp hsent
    rfl
  · exact ((@keeps_commanded w).mono fun _ => isOther_of_isUnheard).sceneHandleCenter hcmd hnews h rfl

theorem commanded_handleAll {packs : List HXMessagePackage} {out : PlayerManager × List Sent}
    (h : handleAll Network.notebook z m packs w = .ok out) : commanded out.2 = commanded w := by
  unfold handleAll at h
  induction packs generalizing m w with
  | nil =>
    obtain rfl := Except.ok.inj h
    rfl
  | cons pack packs ih =>
    rw [List.foldlM_cons] at h
    obtain ⟨next, hnext, h⟩ := bind_eq_ok.mp h
    exact (ih h).trans (commanded_handleCenter hnext)

theorem commanded_sceneHandle {given : SceneServer.Given} :
    commanded (noted (SceneServer.handle Network.notebook m pack given [])) =
      (SceneServer.asked pack).toList := by
  cases hasked : SceneServer.asked pack with
  | some cmd =>
    rw [SceneServer.handle_asked hasked]
    have hcmd : IsCommand (HXMessagePackage.filled LinkID.zero idGlobalNotify cmd [] fits_nil) :=
      ⟨rfl, SceneServer.mem_commands hasked⟩
    have hof : commandOf (HXMessagePackage.filled LinkID.zero idGlobalNotify cmd [] fits_nil) = some cmd :=
      if_pos hcmd
    show commanded [.center idGlobalNotify cmd []] = _
    unfold commanded Sent.packed
    simp [hof]
  | none =>
    cases hout : SceneServer.handle Network.notebook m pack given [] with
    | error fault => rfl
    | ok out => exact ((@keeps_commanded []).mono fun _ => isOther_of_isLocal).sceneHandle hasked hout rfl

/-- A scene server says exactly the commands that its clients ask for. -/
theorem commands_said {s : State} {e : Event} : (said z a s e).filterMap commandOf = asks a s e := by
  show commanded (sendsOf z a s e) = _
  by_cases ha : actor e = some a
  · rw [sendsOf_self ha]
    cases e with
    | client c pack given =>
      obtain rfl := Option.some.inj ha
      exact commanded_sceneHandle.trans (if_pos rfl).symm
    | tick c =>
      show commanded (noted (SvcTimer.handler Network.notebook (s.scenes c).manager [])) = []
      cases hout : SvcTimer.handler Network.notebook (s.scenes c).manager [] with
      | error fault => rfl
      | ok out => exact ((@keeps_commanded []).mono fun _ => isOther_of_isLocal).tick hout rfl
    | center c given => cases ha
    | other pack given => cases ha
    | external c =>
      show commanded ((s.inbox c).head?.elim [] _) = []
      cases (s.inbox c).head? with
      | none => rfl
      | some msg =>
        show commanded (noted ((receive Network.notebook z _ _ msg []).map Prod.fst)) = []
        cases hout : receive Network.notebook z (s.scenes c).manager (s.scenes c).mBigData msg [] with
        | error fault => rfl
        | ok out =>
          obtain ⟨packs, -, hout⟩ := bind_eq_ok.mp hout
          obtain ⟨arrived, -, hout⟩ := bind_eq_ok.mp hout
          obtain ⟨all, hall, hout⟩ := bind_eq_ok.mp hout
          rw [← Except.ok.inj hout]
          exact commanded_handleAll hall
  · rw [sendsOf_other ha]
    cases e with
    | client c pack given => exact (if_neg fun hc => ha (congrArg some hc)).symm
    | tick c => rfl
    | center c given => rfl
    | other pack given => rfl
    | external c => rfl

end Asked

section Controlled
variable {z : Zlib} {s s' t : State} {e : Event} {es : List Event} {a b l : LinkID} {w : List Sent}

def controlled (l : LinkID) (sends : List Sent) : List UInt16 :=
  (sends.filterMap Sent.shown).filterMap (controlTo l)

theorem controlled_eq (sends : List Sent) :
    controlled l sends = (sends.filterMap (packageTo l)).filterMap controlOf := by
  unfold controlled
  rw [List.filterMap_filterMap, List.filterMap_filterMap]
  congr 1
  funext sent
  rcases sent with ⟨linkID, msg⟩ | ⟨id, id2, bytes⟩
  · cases msg with
    | package msg =>
      show controlTo l (linkID, .package msg) = (if linkID = l then some msg else none).bind controlOf
      unfold controlTo
      by_cases hl : linkID = l
      · rw [if_pos hl]
        exact if_pos hl
      · rw [if_neg hl]
        exact if_neg hl
    | big msg => rfl
    | data id id2 bytes => rfl
  · rfl

theorem controlled_append (sends more : List Sent) :
    controlled l (sends ++ more) = controlled l sends ++ controlled l more := by
  unfold controlled
  rw [List.filterMap_append, List.filterMap_append]

theorem keeps_controlled : Network.notebook.Keeps IsLocal fun w' => controlled l w' = controlled l w := by
  intro w' sent hsent h
  rw [Network.perform_notebook, controlled_append, h]
  rcases sent with ⟨linkID, msg⟩ | ⟨id, id2, bytes⟩
  · cases msg with
    | package msg =>
      have hid : msg.header.id ≠ idUserControl := by
        intro hid
        change msg.header.id ∈ [idUserNotify, idUserLogin, idUserTransform, idError] at hsent
        rw [hid] at hsent
        exact absurd hsent (by decide)
      have hnone : controlTo l (linkID, .package msg) = none := by
        show (if linkID = l then controlOf msg else none) = none
        rw [controlOf, if_neg hid]
        exact ite_self none
      show controlled l w ++ ([(linkID, Outgoing.package msg)].filterMap (controlTo l)) = _
      rw [List.filterMap_cons, hnone]
      exact List.append_nil _
    | big msg => cases hsent
    | data id id2 bytes => cases hsent
  · exact List.append_nil _

theorem controls_passedOn (packs : List HXMessagePackage) :
    (packs.filterMap (passedOn false)).filterMap controlOf = packs.filterMap commandOf := by
  rw [List.filterMap_filterMap]
  congr 1
  funext pack
  unfold passedOn commandOf
  by_cases hcmd : IsCommand pack
  · rw [if_pos hcmd, if_pos hcmd]
    rfl
  rw [if_neg hcmd, if_neg hcmd]
  by_cases hnews : IsNews pack
  · rw [if_pos hnews]
    show controlOf (arriving LinkID.zero pack) = none
    refine if_neg fun hid => ?_
    change pack.header.id = idUserControl at hid
    rcases hnews with ⟨h, -⟩ | ⟨h, -⟩ | h <;> rw [hid] at h <;> exact absurd h (by decide)
  · rw [if_neg hnews]
    rfl

theorem controlled_sendsOf (hs : Underway z s) (hl : Plays b l false s e) (h : step z s e = some s') :
    controlled l (sendsOf z b s e) = ((taken b s e).filterMap relayed).filterMap commandOf := by
  cases e with
  | client c pack given =>
    show _ = []
    by_cases hb : actor (.client c pack given) = some b
    · rw [sendsOf_self hb]
      show controlled l (noted (SceneServer.handle Network.notebook (s.scenes c).manager pack given [])) = []
      cases hasked : SceneServer.asked pack with
      | some cmd =>
        rw [SceneServer.handle_asked hasked]
        rfl
      | none =>
        cases hout : SceneServer.handle Network.notebook (s.scenes c).manager pack given [] with
        | error fault => rfl
        | ok out => exact (@keeps_controlled l []).sceneHandle hasked hout rfl
    · rw [sendsOf_other hb]
      rfl
  | tick c =>
    show _ = []
    by_cases hb : actor (.tick c) = some b
    · rw [sendsOf_self hb]
      show controlled l (noted (SvcTimer.handler Network.notebook (s.scenes c).manager [])) = []
      cases hout : SvcTimer.handler Network.notebook (s.scenes c).manager [] with
      | error fault => rfl
      | ok out => exact (@keeps_controlled l []).tick hout rfl
    · rw [sendsOf_other hb]
      rfl
  | center c given => rfl
  | other pack given => rfl
  | external c =>
    rw [controlled_eq]
    have htold := told_step hs hl h
    unfold told at htold
    dsimp only at htold
    rw [htold, controls_passedOn]

theorem controls_step (hs : Underway z s) (hl : Plays b l false s e) (h : step z s e = some s') :
    controls l (s'.scenes b).wires =
      controls l (s.scenes b).wires ++ ((taken b s e).filterMap relayed).filterMap commandOf := by
  obtain ⟨outbox, -, hwires⟩ := @wires_step z s s' e b h
  unfold controls
  rw [hwires, performAll_downlink, List.filterMap_append, ← controlled_sendsOf hs hl h]
  rfl

theorem collect_controls (hs : Underway z s) (hrun : run (step z) s es = some t)
    (hl : Along (step z) (Plays b l false) s es) :
    controls l (t.scenes b).wires = controls l (s.scenes b).wires ++
      ((collect (step z) (taken b) s es).filterMap relayed).filterMap commandOf := by
  rw [collect_filterMap, collect_filterMap]
  exact collect_journal (q := fun s => controls l (s.scenes b).wires)
    (fun _ _ _ hs _ h => underway_step hs h) (fun _ _ _ hs hl h => controls_step hs hl h) hs hl hrun

theorem commandOf_arriving (packs : List HXMessagePackage) :
    (packs.map (arriving a)).filterMap commandOf = packs.filterMap commandOf := by
  rw [List.filterMap_map]
  rfl

theorem commands_issued : (commands z s es).filterMap (issued (some a)) =
    ((order z s es).filterMap (fromScene a)).filterMap commandOf := by
  unfold commands
  rw [List.filterMap_filterMap, List.filterMap_filterMap]
  congr 1
  funext m
  unfold fromScene
  by_cases hm : m.1 = some a
  · rw [if_pos hm]
    cases hcmd : commandOf m.2 <;> simp [issued, hm, hcmd]
  · rw [if_neg hm]
    cases hcmd : commandOf m.2 <;> simp [issued, hm]

theorem commands_others : (commands z s es).filterMap (issued none) = collect (step z) others s es := by
  unfold commands order
  rw [List.filterMap_filterMap, collect_filterMap]
  congr 1
  funext s e
  cases e with
  | client c pack given => rfl
  | tick c => rfl
  | center c given =>
    dsimp only [handled, others]
    cases (s.outbox c).head? with
    | none => rfl
    | some pack => cases hcmd : commandOf (arriving c pack) <;> simp [issued, hcmd]
  | other pack given =>
    dsimp only [handled, others]
    cases hcmd : commandOf pack <;> simp [issued, hcmd]
  | external c => rfl

theorem commands_snd : (commands z s es).map Prod.snd =
    ((order z s es).filterMap (forScene b)).filterMap commandOf := by
  unfold commands
  rw [List.map_filterMap, List.filterMap_filterMap]
  congr 1
  funext m
  unfold forScene
  by_cases hcmd : IsCommand m.2
  · have hreaches : Reaches m.2 b := Or.inl hcmd
    rw [if_pos hreaches]
    cases hof : commandOf m.2 <;> simp [hof]
  · have hof : commandOf m.2 = none := if_neg hcmd
    rw [hof]
    split_ifs
    · exact hof.symm
    · rfl

/-- There is one order of the commands. In it are the commands asked for at each scene
server, in the order of asking, and no others; and each client that is no capsule gets
them in that order and once, but for those still under way. -/
theorem run_commands (hs : Underway z s) (hidle : Idle s) (hrun : run (step z) s es = some t) :
    ∃ commands : List (Option LinkID × UInt16),
      (∀ a, collect (step z) (asks a) s es =
        commands.filterMap (issued (some a)) ++ (t.outbox a).filterMap commandOf) ∧
      collect (step z) others s es = commands.filterMap (issued none) ∧
      ∀ b l, Along (step z) (Listed b) s es → Along (step z) (Plays b l false) s es →
        controls l (s.scenes b).wires ++ commands.map Prod.snd =
          controls l (t.scenes b).wires ++ ((t.inbox b).filterMap relayed).filterMap commandOf := by
  refine ⟨commands z s es, fun a => ?_, ?_, fun b l hb hl => ?_⟩
  · have hqueue := congrArg (List.filterMap commandOf) (@collect_outbox z s t es a hrun)
    rw [(hidle a).1, List.nil_append, List.filterMap_append, commandOf_arriving, commandOf_arriving,
      collect_filterMap] at hqueue
    rw [commands_issued, ← hqueue]
    congr 1
    funext s e
    exact commands_said.symm
  · exact commands_others.symm
  · have hqueue := congrArg (List.filterMap commandOf) (collect_inbox hrun hb)
    rw [(hidle b).2, List.filterMap_nil, List.nil_append, List.filterMap_append] at hqueue
    rw [collect_controls hs hrun hl, commands_snd, hqueue, List.append_assoc]

theorem run_commands_flight : ∃ t, ∃ commands : List (Option LinkID × UInt16),
    run (step Zlib.refusing) meeting flight = some t ∧
    collect (step Zlib.refusing) (asks here) meeting flight =
      commands.filterMap (issued (some here)) ++ (t.outbox here).filterMap commandOf ∧
    collect (step Zlib.refusing) others meeting flight = commands.filterMap (issued none) ∧
    controls ⟨1, 0⟩ (meeting.scenes there).wires ++ commands.map Prod.snd =
      controls ⟨1, 0⟩ (t.scenes there).wires ++ ((t.inbox there).filterMap relayed).filterMap commandOf := by
  obtain ⟨t, hrun⟩ := run_flight
  obtain ⟨commands, hasks, hothers, hsent⟩ :=
    run_commands underway_meeting (fun _ => ⟨rfl, rfl⟩) hrun
  exact ⟨t, commands, hrun, hasks here, hothers, hsent there ⟨1, 0⟩ along_flight.1 along_flight.2⟩

end Controlled
end HXService.CrossScene
