import HXService.CrossScene

/-! What the scene servers say to each other goes through the center server, which
puts it into one order. Every scene server hears all that is for it, in that order. -/

namespace HXService

namespace Sent

def packed : Sent → Option HXMessagePackage
  | .client _ _ => none
  | .center id id2 bytes =>
    if h : bytes.length ≤ maxBodyLength then some (HXMessagePackage.filled LinkID.zero id id2 bytes h)
    else none

def shown : Sent → Option (LinkID × Outgoing)
  | .client linkID msg => some (linkID, msg)
  | .center _ _ _ => none

end Sent

namespace CrossScene
open Bytes Runs PlayerManager ExternalLists

theorem performAll_downlink (w : Wires) (sends : List Sent) : downlink.performAll w sends =
    ⟨w.outbox ++ sends.filterMap Sent.packed, w.sent ++ sends.filterMap Sent.shown⟩ := by
  induction sends generalizing w with
  | nil => simp [Network.performAll]
  | cons sent sends ih =>
    show downlink.performAll (downlink.perform w sent) sends = _
    rw [ih]
    cases sent with
    | client linkID msg => simp [Network.perform, downlink, Sent.packed, Sent.shown, List.filterMap_cons]
    | center id id2 bytes =>
      by_cases h : bytes.length ≤ maxBodyLength <;>
        simp [Network.perform, downlink, Sent.packed, Sent.shown, List.filterMap_cons, h]

theorem takesAll_downlink : downlink.TakesAll := fun _ _ _ => rfl

def actor : Event → Option LinkID
  | .client a _ _ => some a
  | .tick a => some a
  | .external a => some a
  | .center _ _ => none
  | .other _ _ => none

def noted {α : Type} (x : Checked (α × List Sent)) : List Sent := x.toOption.elim [] Prod.snd

open Network in
def sends (z : Zlib) (s : State) : Event → List Sent
  | .client a pack given => noted (SceneServer.handle notebook (s.scenes a).manager pack given [])
  | .tick a => noted (SvcTimer.handler notebook (s.scenes a).manager [])
  | .external a =>
    (s.inbox a).head?.elim [] fun msg =>
      noted ((receive notebook z (s.scenes a).manager (s.scenes a).mBigData msg []).map Prod.fst)
  | .center _ _ => []
  | .other _ _ => []

section Step
variable {z : Zlib} {s s' : State} {e : Event} {a b : LinkID}

theorem noted_of_map {α σ : Type} {x : Checked (α × List Sent)} {φ : List Sent → σ} {out : α × σ}
    (h : x.map (Prod.map id φ) = .ok out) : out.2 = φ (noted x) := by
  cases x with
  | error e => cases h
  | ok y =>
    rw [← Except.ok.inj h]
    rfl

theorem receive_eq {σ : Type} {net : Network σ} {φ : List Sent → σ}
    (h : Network.notebook.Hom net φ) {m : PlayerManager} {q : HXBigMessageQueue} {msg : Outgoing}
    {l : List Sent} : receive net z m q msg (φ l) =
      (receive Network.notebook z m q msg l).map (Prod.map (Prod.map id φ) id) := by
  have hall : ∀ (packs : List HXMessagePackage) (m : PlayerManager) (l : List Sent),
      handleAll net z m packs (φ l) =
        (handleAll Network.notebook z m packs l).map (Prod.map id φ) := by
    intro packs
    unfold handleAll
    induction packs with
    | nil => exact fun _ _ => rfl
    | cons pack packs ih =>
      intro m l
      rw [List.foldlM_cons, List.foldlM_cons, h.sceneHandleCenter, bind_map, map_bind]
      exact bind_congr fun out => ih out.1 out.2
  unfold receive
  rw [map_bind]
  refine bind_congr fun packs => ?_
  rw [map_bind]
  refine bind_congr fun arrived => ?_
  rw [hall, bind_map, map_bind]
  rfl

def sendsOf (z : Zlib) (b : LinkID) (s : State) (e : Event) : List Sent :=
  if actor e = some b then sends z s e else []

section SendsOf
variable {z : Zlib} {s : State} {a b : LinkID}

theorem sendsOf_self {e : Event} (h : actor e = some b) : sendsOf z b s e = sends z s e := if_pos h

theorem sendsOf_other {e : Event} (h : actor e ≠ some b) : sendsOf z b s e = [] := if_neg h

end SendsOf

def takenFrom (b : LinkID) (s : State) : Event → List HXMessagePackage
  | .center a _ => if a = b then (s.outbox a).head?.toList else []
  | _ => []

theorem wires_withScene {scene : Scene}
    (hwires : scene.wires = downlink.performAll (s.scenes a).wires (sends z s e))
    (hactor : actor e = some a) : ((s.withScene a scene).scenes b).wires =
      downlink.performAll (s.scenes b).wires (sendsOf z b s e) := by
  unfold sendsOf State.withScene
  dsimp only
  rw [Function.update_apply, hactor]
  by_cases hb : b = a
  · subst hb
    rw [if_pos rfl, if_pos rfl]
    exact hwires
  · rw [if_neg hb, if_neg fun h => hb (Option.some.inj h).symm]
    rfl

theorem receive_step (h : step z s (.external a) = some s') : ∃ msg y,
    (s.inbox a).head? = some msg ∧
    receive Network.notebook z (s.scenes a).manager (s.scenes a).mBigData msg [] = .ok y ∧
    sends z s (.external a) = y.1.2 ∧
    s' = s.delivered a ((y.1.1, downlink.performAll (s.scenes a).wires y.1.2), y.2) := by
  obtain ⟨msg, hmsg, h⟩ := Option.bind_eq_some_iff.mp h
  obtain ⟨out, hout, rfl⟩ := Option.map_eq_some_iff.mp h
  have hrun := mem_toOption hout
  rw [← show downlink.performAll (s.scenes a).wires [] = (s.scenes a).wires from rfl,
    receive_eq (Network.hom_notebook takesAll_downlink (s.scenes a).wires)] at hrun
  cases hreceive : receive Network.notebook z (s.scenes a).manager (s.scenes a).mBigData msg [] with
  | error fault =>
    rw [hreceive] at hrun
    cases hrun
  | ok y =>
    rw [hreceive] at hrun
    refine ⟨msg, y, hmsg, hreceive, ?_, by rw [← Except.ok.inj hrun]; rfl⟩
    show (s.inbox a).head?.elim [] _ = _
    rw [hmsg, Option.elim_some, hreceive]
    rfl

/-- What a step does to the wires of a scene server. -/
theorem wires_step (h : step z s e = some s') : ∃ outbox,
    s.outbox b = takenFrom b s e ++ outbox ∧ (s'.scenes b).wires =
      downlink.performAll { (s.scenes b).wires with outbox } (sendsOf z b s e) := by
  cases e with
  | client a pack given =>
    obtain ⟨out, hout, rfl⟩ := Option.map_eq_some_iff.mp h
    have hrun := mem_toOption hout
    rw [(Network.handlers_recorded takesAll_downlink (s.scenes a).wires).2.1] at hrun
    exact ⟨s.outbox b, rfl, wires_withScene (noted_of_map hrun) rfl⟩
  | tick a =>
    obtain ⟨out, hout, rfl⟩ := Option.map_eq_some_iff.mp h
    have hrun := mem_toOption hout
    rw [(Network.handlers_recorded takesAll_downlink (s.scenes a).wires).2.2.2] at hrun
    exact ⟨s.outbox b, rfl, wires_withScene (noted_of_map hrun) rfl⟩
  | center a given =>
    obtain ⟨pack, hpack, h⟩ := Option.bind_eq_some_iff.mp h
    obtain ⟨out, -, rfl⟩ := Option.map_eq_some_iff.mp h
    unfold takenFrom State.atCenter State.popped State.withScene
    dsimp only
    rw [Function.update_apply]
    by_cases hb : b = a
    · subst hb
      refine ⟨(s.outbox b).tail, ?_, ?_⟩
      · rw [if_pos rfl, hpack]
        exact (List.cons_head?_tail hpack).symm
      · rw [if_pos rfl]
        rfl
    · refine ⟨s.outbox b, ?_, ?_⟩
      · rw [if_neg (Ne.symm hb)]
        rfl
      · rw [if_neg hb]
        rfl
  | other pack given =>
    obtain ⟨out, -, rfl⟩ := Option.map_eq_some_iff.mp h
    exact ⟨s.outbox b, rfl, rfl⟩
  | external a =>
    obtain ⟨msg, y, -, -, hsends, rfl⟩ := receive_step h
    refine ⟨s.outbox b, rfl, wires_withScene ?_ rfl⟩
    rw [hsends]

end Step
end CrossScene
end HXService
