import HXService.Lib.Flow
import HXService.Recorded
import HXService.SceneNetwork

/-! The center server and all scene servers with their clients and timers, in any
order of the steps. The connections between them lose nothing and keep the order. -/

namespace HXService.CrossScene
open Bytes Runs PlayerManager ExternalLists HXMessageQueueAB

/-! ## The servers

A scene server is named by its `LinkID` at the center server. `mBigData` collects
the big messages of its connection there, `inbox` is what is under way to it. -/

structure Scene where
  manager : PlayerManager
  wires : Wires
  mBigData : HXBigMessageQueue

structure State where
  center : UserManager
  inbox : LinkID → List Outgoing
  scenes : LinkID → Scene

def post : Network (LinkID → List Outgoing) where
  send inbox linkID msg := (true, Function.update inbox linkID (inbox linkID ++ [msg]))
  sendCenter inbox _ _ _ := (false, inbox)

def packagesOf : Outgoing → Checked (List HXMessagePackage)
  | .package msg => pure [msg]
  | .big msg => pure msg.mQueue
  | .data id id2 bytes => do
    let msg ← Network.cmdPackage id id2 bytes
    pure [msg]

/-- The entries that arriving packages make in the queue, and the receiver afterwards. -/
def collected (z : Zlib) : HXBigMessageQueue → List HXMessagePackage →
    Checked (List HXMessagePackage × HXBigMessageQueue)
  | b, [] => pure ([], b)
  | b, pack :: packs => do
    let first ← appended z (arriving LinkID.zero pack) b
    let rest ← collected z first.2 packs
    pure (first.1.toList ++ rest.1, rest.2)

def handleAll {σ : Type} (net : Network σ) (z : Zlib) (m : PlayerManager)
    (packs : List HXMessagePackage) (w : σ) : Checked (PlayerManager × σ) :=
  packs.foldlM (fun out pack => SceneServer.handleCenter net z out.1 pack out.2) (m, w)

def receive {σ : Type} (net : Network σ) (z : Zlib) (m : PlayerManager) (b : HXBigMessageQueue)
    (msg : Outgoing) (w : σ) : Checked ((PlayerManager × σ) × HXBigMessageQueue) := do
  let packs ← packagesOf msg
  let arrived ← collected z b packs
  let out ← handleAll net z m arrived.1 w
  pure (out, arrived.2)

/-- `client` is a message of a client at its scene server, `tick` the timer of one,
`center` the next message of a scene server at the center server, `other` a message
there of anybody else, connects and disconnects included, `external` the next
message of the center server at a scene server. -/
inductive Event
  | client (a : LinkID) (pack : HXMessagePackage) (given : SceneServer.Given)
  | tick (a : LinkID)
  | center (a : LinkID) (given : CenterServer.Given)
  | other (pack : HXMessagePackage) (given : CenterServer.Given)
  | external (a : LinkID)

def State.outbox (s : State) (a : LinkID) : List HXMessagePackage := (s.scenes a).wires.outbox

def State.withScene (s : State) (a : LinkID) (scene : Scene) : State :=
  { s with scenes := Function.update s.scenes a scene }

def State.serve (s : State) (a : LinkID) (out : PlayerManager × Wires) : State :=
  s.withScene a { s.scenes a with manager := out.1, wires := out.2 }

def State.atCenter (s : State) (out : UserManager × (LinkID → List Outgoing)) : State :=
  { s with center := out.1, inbox := out.2 }

def State.popped (s : State) (a : LinkID) : State :=
  s.withScene a { s.scenes a with wires :=
    { (s.scenes a).wires with outbox := (s.outbox a).tail } }

def State.delivered (s : State) (a : LinkID) (out : (PlayerManager × Wires) × HXBigMessageQueue) :
    State :=
  { s.withScene a ⟨out.1.1, out.1.2, out.2⟩ with
    inbox := Function.update s.inbox a (s.inbox a).tail }

def step (z : Zlib) (s : State) : Event → Option State
  | .client a pack given =>
    (SceneServer.handle downlink (s.scenes a).manager pack given (s.scenes a).wires).toOption.map
      (s.serve a)
  | .tick a =>
    (SvcTimer.handler downlink (s.scenes a).manager (s.scenes a).wires).toOption.map (s.serve a)
  | .center a given =>
    (s.outbox a).head?.bind fun pack =>
      (CenterServer.handle post z s.center (arriving a pack) given s.inbox).toOption.map
        (s.popped a).atCenter
  | .other pack given =>
    (CenterServer.handle post z s.center pack given s.inbox).toOption.map s.atCenter
  | .external a =>
    (s.inbox a).head?.bind fun msg =>
      (receive downlink z (s.scenes a).manager (s.scenes a).mBigData msg (s.scenes a).wires).toOption.map
        (s.delivered a)

def Idle (s : State) : Prop := ∀ a, s.outbox a = [] ∧ s.inbox a = []

def IsCommand (pack : HXMessagePackage) : Prop :=
  pack.header.id = idGlobalNotify ∧
    pack.header.id2 ∈ [s2cBeginFlying, s2cPlayVideo, s2cStandUp, s2cWalk]

/-- What a scene server tells its clients of those of the others. -/
def IsNews (pack : HXMessagePackage) : Prop :=
  pack.header.id = idGlobalNotify ∧ pack.header.id2 ∈ [s2cClientListExternal, s2cUserLeaveExternal] ∨
    pack.header.id = idUserLogin ∧ pack.header.id2 = s2cUpdUserState ∨
    pack.header.id = idGlobalTransform

instance (pack : HXMessagePackage) : Decidable (IsCommand pack) := inferInstanceAs (Decidable (_ ∧ _))

instance (pack : HXMessagePackage) : Decidable (IsNews pack) :=
  inferInstanceAs (Decidable (_ ∧ _ ∨ _ ∧ _ ∨ _))

/-- A command goes to everybody, also to the scene server it came from; news and
requests go to all whose `sid` is not the sender's. -/
def Reaches (pack : HXMessagePackage) (b : LinkID) : Prop :=
  IsCommand pack ∨ (IsNews pack ∨ IsRequest pack) ∧ pack.mLinkid.sid ≠ b.sid

instance (pack : HXMessagePackage) : Decidable (IsRequest pack) := inferInstanceAs (Decidable (_ ∧ _))

instance (pack : HXMessagePackage) (b : LinkID) : Decidable (Reaches pack b) :=
  inferInstanceAs (Decidable (_ ∨ _ ∧ _))

end HXService.CrossScene
