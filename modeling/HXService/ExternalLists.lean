import HXService.Lib.Exchange
import HXService.SceneNetwork

/-! Every order of the steps of the servers: the scene servers exchange the
profiles of their seated players through the center server. -/

namespace HXService.ExternalLists
open Bytes Runs PlayerManager

/-! ## The exchange

The servers are parties that exchange the profiles of their seated players. -/

def view (s : State) : Exchange.State LinkID LinkID ProfileInfo where
  visible a := (s.scenes a).manager.userVisibleFlag = true
  holds a l info := ∃ ply ∈ s.players a, ply.mLinkID = l ∧ Seated ply ∧ ply.mProfileInfo = info
  asks a := ∃ pack ∈ (s.scenes a).wires.outbox, IsRequest pack
  asked a := ∃ pack ∈ s.inbox a, IsRequest pack
  offers a info := ∃ pack ∈ (s.scenes a).wires.outbox, Lists pack info
  offered a info := ∃ pack ∈ s.inbox a, Lists pack info
  handled a info := ∃ pack ∈ (s.scenes a).received, Lists pack info
  knows a l info := ∃ pack, (l, Outgoing.package pack) ∈ (s.scenes a).wires.sent ∧ Lists pack info

theorem grows_of_subset {s s' : State}
    (houtbox : ∀ b, (s.scenes b).wires.outbox ⊆ (s'.scenes b).wires.outbox)
    (hinbox : ∀ b, ∀ pack ∈ s.inbox b, IsList pack → pack ∈ s'.inbox b)
    (hreceived : ∀ b, (s.scenes b).received ⊆ (s'.scenes b).received)
    (hsent : ∀ b, (s.scenes b).wires.sent ⊆ (s'.scenes b).wires.sent) :
    Exchange.Grows (view s) (view s') := by
  constructor
  · rintro b ⟨pack, hpack, hrequest⟩
    exact ⟨pack, houtbox b hpack, hrequest⟩
  · rintro b info ⟨pack, hpack, hlists⟩
    exact ⟨pack, houtbox b hpack, hlists⟩
  · rintro b info ⟨pack, hpack, hlists⟩
    exact ⟨pack, hinbox b pack hpack hlists.1, hlists⟩
  · rintro b info ⟨pack, hpack, hlists⟩
    exact ⟨pack, hreceived b hpack, hlists⟩
  · rintro b l info ⟨pack, hpack, hlists⟩
    exact ⟨pack, hsent b hpack, hlists⟩

structure Talk (party : List LinkID) (s : State) : Prop where
  servers : s.servers = party
  rolls : ∀ a ∈ party, Roll (s.players a)
  outbox : ∀ a ∈ party, ∀ pack ∈ (s.scenes a).wires.outbox, Spoken pack
  inbox : ∀ a ∈ party, ∀ pack ∈ s.inbox a, Spoken pack

def after (s : State) (a : LinkID) (m : PlayerManager) (w : Wires) : State :=
  { s with scenes := Function.update s.scenes a { s.scenes a with manager := m, wires := w } }

section After
variable {s : State} {a b : LinkID} {m : PlayerManager} {w : Wires} {more : List HXMessagePackage}
variable {party : List LinkID}

@[simp] theorem scenes_after_self :
    (after s a m w).scenes a = { s.scenes a with manager := m, wires := w } := Function.update_self ..

@[simp] theorem scenes_after_of_ne (h : b ≠ a) : (after s a m w).scenes b = s.scenes b :=
  Function.update_of_ne h ..

theorem scenes_after (hadds : Adds (s.scenes a).wires w more) (b : LinkID) :
    (s.scenes b).wires.outbox ⊆ ((after s a m w).scenes b).wires.outbox ∧
    (s.scenes b).received ⊆ ((after s a m w).scenes b).received ∧
    (s.scenes b).wires.sent ⊆ ((after s a m w).scenes b).wires.sent := by
  by_cases hb : b = a
  · subst hb
    simp [hadds.outbox, hadds.sent]
  · simp [hb]

theorem outbox_after (hadds : Adds (s.scenes a).wires w []) (b : LinkID) :
    ((after s a m w).scenes b).wires.outbox = (s.scenes b).wires.outbox := by
  by_cases hb : b = a
  · subst hb
    simp [hadds.outbox]
  · simp [hb]

theorem visible_after (hflag : m.userVisibleFlag = (s.scenes a).manager.userVisibleFlag) (b : LinkID) :
    (view (after s a m w)).visible b ↔ (view s).visible b := by
  by_cases hb : b = a
  · subst hb
    simp [view, hflag]
  · simp [view, hb]

theorem grows_after (hadds : Adds (s.scenes a).wires w more) :
    Exchange.Grows (view s) (view (after s a m w)) := by
  have hscene := @scenes_after s a m w more hadds
  exact grows_of_subset (fun b => (hscene b).1) (fun _ _ h _ => h) (fun b => (hscene b).2.1)
    fun b => (hscene b).2.2

theorem holds_after_of_ne (hb : b ≠ a) {l : LinkID} {info : ProfileInfo}
    (h : (view (after s a m w)).holds b l info) : (view s).holds b l info := by
  simpa [view, State.players, hb] using h

theorem talk_after (h : Talk party s) (hroll : Roll m.players) (hadds : Adds (s.scenes a).wires w more)
    (hspoken : ∀ pack ∈ more, Spoken pack) : Talk party (after s a m w) := by
  refine ⟨h.servers, ?_, ?_, h.inbox⟩
  · intro b hb
    unfold State.players
    by_cases hba : b = a
    · subst hba
      simpa using hroll
    · rw [scenes_after_of_ne hba]
      exact h.rolls b hb
  · intro b hb pack hpack
    by_cases hba : b = a
    · subst hba
      simp only [scenes_after_self, hadds.outbox, List.mem_append] at hpack
      exact hpack.elim (h.outbox b hb pack) (hspoken pack)
    · rw [scenes_after_of_ne hba] at hpack
      exact h.outbox b hb pack hpack

theorem announces_after (hflag : m.userVisibleFlag = true) (hadds : Adds (s.scenes a).wires w more)
    (hasks : Asks m.players more) : Exchange.Announces a (view s) (view (after s a m w)) := by
  refine ⟨⟨grows_after hadds, ?_, fun _ _ h => h, ?_⟩, fun b hb l info => holds_after_of_ne hb, ?_⟩
  · intro b
    by_cases hb : b = a
    · subst hb
      simp [view, hflag]
    · simp [view, hb]
  · rintro l info ⟨ply, hply, rfl, hseated, rfl⟩
    have hply' : ply ∈ m.players := by simpa [State.players] using hply
    obtain ⟨pack, hpack, hlists⟩ := hasks.listing ply hply' hseated
    refine ⟨pack, ?_, hlists⟩
    simp [hadds.outbox, hpack]
  · obtain ⟨pack, hpack, hrequest⟩ := hasks.request
    refine ⟨pack, ?_, hrequest⟩
    simp [hadds.outbox, hpack]

theorem connect_after {ply : Player} (hflag : m.userVisibleFlag = (s.scenes a).manager.userVisibleFlag)
    (hplayers : m.players = s.players a ++ [ply]) (hply : ¬Seated ply)
    (hadds : Adds (s.scenes a).wires w []) :
    Exchange.Moves {b | b ∈ party} (view s) (view (after s a m w)) := by
  have hgrows := @grows_after s a m w [] hadds
  refine ⟨visible_after hflag, ?_, fun b h => Or.inl (hgrows.asks b h), fun _ h => h,
    fun b x h => Or.inl (hgrows.offers b x h), fun b x h => Or.inl (hgrows.offered b x h),
    hgrows.handled, hgrows.knows, ?_, fun b h => Or.inl h⟩
  · intro b l info h
    by_cases hb : b = a
    · subst hb
      obtain ⟨q, hq, hl, hseated, hinfo⟩ := h
      have hq' : q ∈ s.players b ++ [ply] := by
        rw [← hplayers]
        simpa [State.players] using hq
      rcases List.mem_append.mp hq' with hq' | hq'
      · exact ⟨q, hq', hl, hseated, hinfo⟩
      · rw [List.mem_singleton.mp hq'] at hseated
        exact absurd hseated hply
    · exact holds_after_of_ne hb h
  · rintro b ⟨pack, hpack, hrequest⟩
    exact ⟨pack, outbox_after hadds b ▸ hpack, hrequest⟩

end After

section Quiet
variable {s : State} {a b : LinkID} {m : PlayerManager} {w : Wires} {linkID : LinkID} {seat : Int32}
variable {party : List LinkID}

theorem owed_of_coming {info : ProfileInfo} (hservers : s.servers = party)
    (h : Coming s a b info ∨ (view s).knows a linkID info) :
    Exchange.Owed {b | b ∈ party} (view s) a b linkID info := by
  rcases h with (⟨c, hc, hne, hasks⟩ | hasked | hoffers | hoffered) | hknows
  · exact Or.inl ⟨c, hservers ▸ hc, hne, hasks⟩
  · exact Or.inr (Or.inl hasked)
  · exact Or.inr (Or.inr (Or.inl hoffers))
  · exact Or.inr (Or.inr (Or.inr (Or.inl hoffered)))
  · exact Or.inr (Or.inr (Or.inr (Or.inr hknows)))

theorem enters_after (hquiet : (s.scenes a).manager.userVisibleFlag = false)
    (hflag : m.userVisibleFlag = (s.scenes a).manager.userVisibleFlag)
    (hplayers : m.players = (s.players a).map (told linkID seat))
    (hadds : Adds (s.scenes a).wires w [])
    (htold : ∀ b ∈ party, b ≠ a → ∀ q ∈ s.players b, Seated q →
      (view s).handled a q.mProfileInfo →
        Exchange.Owed {b | b ∈ party} (view s) a b linkID q.mProfileInfo) :
    Exchange.Enters {b | b ∈ party} a linkID (view s) (view (after s a m w)) := by
  refine ⟨grows_after hadds, visible_after hflag, ?_, ?_, fun _ h => h, ?_, fun _ h => h, ?_⟩
  · simp [view, hquiet]
  · intro b l info h
    by_cases hb : b = a
    · subst hb
      obtain ⟨q, hq, rfl, hseated, rfl⟩ := h
      have hq' : q ∈ (s.players b).map (told linkID seat) := by
        rw [← hplayers]
        simpa [State.players] using hq
      obtain ⟨ply, hply, rfl⟩ := List.mem_map.mp hq'
      rw [mLinkID_told]
      by_cases hlink : ply.mLinkID = linkID
      · exact Or.inl ⟨rfl, hlink⟩
      · right
        unfold told at hseated ⊢
        rw [if_neg hlink] at hseated ⊢
        exact ⟨ply, hply, rfl, hseated, rfl⟩
    · exact Or.inr (holds_after_of_ne hb h)
  · rintro b ⟨pack, hpack, hrequest⟩
    exact ⟨pack, outbox_after hadds b ▸ hpack, hrequest⟩
  · rintro b hb hne l info ⟨ply, hply, rfl, hseated, rfl⟩
    exact htold b hb hne ply hply hseated

end Quiet

/-! ## Messages go on -/

def forwarded (s : State) (a : LinkID) (rest : List HXMessagePackage)
    (inbox : LinkID → List HXMessagePackage) : State :=
  { s with
    inbox
    scenes := Function.update s.scenes a { s.scenes a with
      wires := { (s.scenes a).wires with outbox := rest } } }

def passed (s : State) (a : LinkID) (pack : HXMessagePackage) (rest : List HXMessagePackage)
    (m : PlayerManager) (w : Wires) : State :=
  { s with
    inbox := Function.update s.inbox a rest
    scenes := Function.update s.scenes a ⟨m, w, (s.scenes a).received ++ [pack]⟩ }

section Forward
variable {s : State} {a b : LinkID} {party : List LinkID} {pack : HXMessagePackage}
variable {rest : List HXMessagePackage} {inbox : LinkID → List HXMessagePackage}

@[simp] theorem scenes_forwarded_self : (forwarded s a rest inbox).scenes a =
    { s.scenes a with wires := { (s.scenes a).wires with outbox := rest } } := Function.update_self ..

@[simp] theorem scenes_forwarded_of_ne (h : b ≠ a) : (forwarded s a rest inbox).scenes b = s.scenes b :=
  Function.update_of_ne h ..

theorem scenes_forwarded (b : LinkID) :
    ((forwarded s a rest inbox).scenes b).manager = (s.scenes b).manager ∧
    ((forwarded s a rest inbox).scenes b).received = (s.scenes b).received ∧
    ((forwarded s a rest inbox).scenes b).wires.sent = (s.scenes b).wires.sent := by
  by_cases hb : b = a
  · subst hb
    simp
  · simp [hb]

theorem outbox_forwarded (houtbox : (s.scenes a).wires.outbox = pack :: rest) {y : HXMessagePackage} :
    y ∈ (s.scenes b).wires.outbox ↔
      y ∈ ((forwarded s a rest inbox).scenes b).wires.outbox ∨ b = a ∧ y = pack := by
  by_cases hb : b = a
  · subst hb
    simp [houtbox, or_comm]
  · simp [hb]

theorem moves_forwarded (ha : a ∈ party) (hsids : (party.map LinkID.sid).Nodup)
    (houtbox : (s.scenes a).wires.outbox = pack :: rest)
    (hinbox : ∀ b y, y ∈ inbox b ↔ y ∈ s.inbox b ∨
      (b ∈ party ∧ a.sid ≠ b.sid) ∧ y = arriving LinkID.zero (arriving a pack)) :
    Exchange.Moves {b | b ∈ party} (view s) (view (forwarded s a rest inbox)) := by
  have hothers : ∀ b ∈ party, b ≠ a → arriving LinkID.zero (arriving a pack) ∈ inbox b := by
    intro b hb hne
    refine (hinbox b _).mpr (Or.inr ⟨⟨hb, ?_⟩, rfl⟩)
    intro hsid
    exact hne (List.inj_on_of_nodup_map hsids hb ha hsid.symm)
  have hkept : ∀ b y, y ∈ s.inbox b → y ∈ inbox b := fun b y hy => (hinbox b y).mpr (Or.inl hy)
  have hscene := @scenes_forwarded s a rest inbox
  constructor
  · intro b
    simp [view, (hscene b).1]
  · intro b l info h
    simpa [view, State.players, (hscene b).1] using h
  · rintro b ⟨y, hy, hrequest⟩
    rcases (@outbox_forwarded s a b pack rest inbox houtbox y).mp hy with hy | ⟨rfl, rfl⟩
    · exact Or.inl ⟨y, hy, hrequest⟩
    · exact Or.inr fun c hc hne => ⟨_, hothers c hc hne, hrequest⟩
  · rintro b ⟨y, hy, hrequest⟩
    exact ⟨y, hkept b y hy, hrequest⟩
  · rintro b info ⟨y, hy, hlists⟩
    rcases (@outbox_forwarded s a b pack rest inbox houtbox y).mp hy with hy | ⟨rfl, rfl⟩
    · exact Or.inl ⟨y, hy, hlists⟩
    · exact Or.inr fun c hc hne => ⟨_, hothers c hc hne, hlists⟩
  · rintro b info ⟨y, hy, hlists⟩
    exact Or.inl ⟨y, hkept b y hy, hlists⟩
  · intro b info h
    simpa [view, (hscene b).2.1] using h
  · intro b l info h
    simpa [view, (hscene b).2.2] using h
  · rintro b ⟨y, hy, hrequest⟩
    exact ⟨y, (outbox_forwarded houtbox).mpr (Or.inl hy), hrequest⟩
  · rintro b ⟨y, hy, hrequest⟩
    rcases (hinbox b y).mp hy with hy | ⟨-, rfl⟩
    · exact Or.inl ⟨y, hy, hrequest⟩
    · exact Or.inr ⟨a, ha, pack, houtbox ▸ List.mem_cons_self, hrequest⟩

theorem talk_forwarded (h : Talk party s) (houtbox : (s.scenes a).wires.outbox = pack :: rest)
    (hspoken : Spoken pack) (hinbox : ∀ b y, y ∈ inbox b → y ∈ s.inbox b ∨
      y = arriving LinkID.zero (arriving a pack)) : Talk party (forwarded s a rest inbox) := by
  refine ⟨h.servers, ?_, ?_, ?_⟩
  · intro b hb
    unfold State.players
    rw [(@scenes_forwarded s a rest inbox b).1]
    exact h.rolls b hb
  · intro b hb y hy
    exact h.outbox b hb y ((outbox_forwarded houtbox).mpr (Or.inl hy))
  · intro b hb y hy
    rcases hinbox b y hy with hy | rfl
    · exact h.inbox b hb y hy
    · exact hspoken

end Forward

section Pass
variable {s : State} {a b : LinkID} {party : List LinkID} {pack : HXMessagePackage}
variable {rest more : List HXMessagePackage} {m : PlayerManager} {w : Wires}

@[simp] theorem scenes_passed_self :
    (passed s a pack rest m w).scenes a = ⟨m, w, (s.scenes a).received ++ [pack]⟩ :=
  Function.update_self ..

@[simp] theorem scenes_passed_of_ne (h : b ≠ a) : (passed s a pack rest m w).scenes b = s.scenes b :=
  Function.update_of_ne h ..

theorem inbox_passed (hinbox : s.inbox a = pack :: rest) {y : HXMessagePackage} :
    y ∈ s.inbox b ↔ y ∈ (passed s a pack rest m w).inbox b ∨ b = a ∧ y = pack := by
  unfold passed
  by_cases hb : b = a
  · subst hb
    simp [hinbox, or_comm]
  · simp [hb]

theorem scenes_passed (hadds : Adds (s.scenes a).wires w more) (b : LinkID) :
    (s.scenes b).wires.outbox ⊆ ((passed s a pack rest m w).scenes b).wires.outbox ∧
    (s.scenes b).received ⊆ ((passed s a pack rest m w).scenes b).received ∧
    (s.scenes b).wires.sent ⊆ ((passed s a pack rest m w).scenes b).wires.sent := by
  by_cases hb : b = a
  · subst hb
    simp [hadds.outbox, hadds.sent]
  · simp [hb]

theorem talk_passed (h : Talk party s) (hinbox : s.inbox a = pack :: rest)
    (hplayers : m.players = s.players a) (hadds : Adds (s.scenes a).wires w more)
    (hspoken : ∀ p ∈ more, Spoken p) : Talk party (passed s a pack rest m w) := by
  refine ⟨h.servers, ?_, ?_, ?_⟩
  · intro b hb
    unfold State.players
    by_cases hba : b = a
    · subst hba
      rw [scenes_passed_self, hplayers]
      exact h.rolls b hb
    · rw [scenes_passed_of_ne hba]
      exact h.rolls b hb
  · intro b hb y hy
    by_cases hba : b = a
    · subst hba
      simp only [scenes_passed_self, hadds.outbox, List.mem_append] at hy
      exact hy.elim (h.outbox b hb y) (hspoken y)
    · rw [scenes_passed_of_ne hba] at hy
      exact h.outbox b hb y hy
  · intro b hb y hy
    exact h.inbox b hb y ((inbox_passed hinbox).mpr (Or.inl hy))

theorem moves_passed (hinbox : s.inbox a = pack :: rest) (hpack : IsList pack ∨ IsState pack)
    (hadds : Adds (s.scenes a).wires w [])
    (hsent : ∀ ply ∈ s.players a, (ply.mLinkID, Outgoing.package pack) ∈ w.sent) :
    Exchange.Moves {b | b ∈ party} (view s) (view (passed s a pack rest (s.scenes a).manager w)) := by
  have hmanager : ∀ b, ((passed s a pack rest (s.scenes a).manager w).scenes b).manager =
      (s.scenes b).manager := by
    intro b
    by_cases hb : b = a
    · subst hb
      simp
    · simp [hb]
  have hscene := @scenes_passed s a pack rest [] (s.scenes a).manager w hadds
  have hnot : ¬IsRequest pack := by
    rintro ⟨hid, hcmd⟩
    rcases hpack with ⟨-, hcmd'⟩ | ⟨hid', -⟩
    · rw [hcmd] at hcmd'
      exact absurd hcmd' (by decide)
    · rw [hid] at hid'
      exact absurd hid' (by decide)
  constructor
  · intro b
    simp [view, hmanager b]
  · intro b l info h
    simpa [view, State.players, hmanager b] using h
  · rintro b ⟨y, hy, hrequest⟩
    exact Or.inl ⟨y, (hscene b).1 hy, hrequest⟩
  · rintro b ⟨y, hy, hrequest⟩
    rcases (inbox_passed hinbox).mp hy with hy | ⟨rfl, rfl⟩
    · exact ⟨y, hy, hrequest⟩
    · exact absurd hrequest hnot
  · rintro b info ⟨y, hy, hlists⟩
    exact Or.inl ⟨y, (hscene b).1 hy, hlists⟩
  · rintro b info ⟨y, hy, hlists⟩
    rcases (inbox_passed hinbox).mp hy with hy | ⟨rfl, rfl⟩
    · exact Or.inl ⟨y, hy, hlists⟩
    · refine Or.inr ⟨⟨y, ?_, hlists⟩, ?_⟩
      · simp
      · rintro l _ ⟨ply, hply, rfl, -⟩
        refine ⟨y, ?_, hlists⟩
        simpa using hsent ply hply
  · rintro b info ⟨y, hy, hlists⟩
    exact ⟨y, (hscene b).2.1 hy, hlists⟩
  · rintro b l info ⟨y, hy, hlists⟩
    exact ⟨y, (hscene b).2.2 hy, hlists⟩
  · rintro b ⟨y, hy, hrequest⟩
    refine ⟨y, ?_, hrequest⟩
    by_cases hb : b = a
    · subst hb
      simpa [hadds.outbox] using hy
    · simpa [hb] using hy
  · rintro b ⟨y, hy, hrequest⟩
    exact Or.inl ⟨y, (inbox_passed hinbox).mpr (Or.inl hy), hrequest⟩

theorem answers_passed (hinbox : s.inbox a = pack :: rest) (hrequest : IsRequest pack)
    (hadds : Adds (s.scenes a).wires w more) (hlisting : Listing (s.players a) more) :
    Exchange.Answers a (view s) (view (passed s a pack rest
      { (s.scenes a).manager with userVisibleFlag := true } w)) := by
  have hscene := @scenes_passed s a pack rest more { (s.scenes a).manager with userVisibleFlag := true } w
    hadds
  have hnot : ¬IsList pack := by
    rintro ⟨-, hcmd⟩
    rw [hrequest.2] at hcmd
    exact absurd hcmd (by decide)
  have hplayers : ∀ b, (passed s a pack rest
      { (s.scenes a).manager with userVisibleFlag := true } w).players b = s.players b := by
    intro b
    unfold State.players
    by_cases hb : b = a
    · subst hb
      simp
    · simp [hb]
  have hkept : ∀ b, ∀ y ∈ s.inbox b, IsList y → y ∈ (passed s a pack rest
      { (s.scenes a).manager with userVisibleFlag := true } w).inbox b := by
    intro b y hy hlist
    rcases (inbox_passed hinbox).mp hy with hy | ⟨-, rfl⟩
    · exact hy
    · exact absurd hlist hnot
  have hgrows := grows_of_subset (fun b => (hscene b).1) hkept (fun b => (hscene b).2.1)
    fun b => (hscene b).2.2
  refine ⟨⟨hgrows, ?_, ?_, ?_⟩, ?_, ⟨pack, hinbox ▸ List.mem_cons_self, hrequest⟩⟩
  · intro b
    by_cases hb : b = a
    · subst hb
      simp [view]
    · simp [view, hb]
  · rintro b hb ⟨y, hy, hy'⟩
    rcases (inbox_passed hinbox).mp hy with hy | ⟨rfl, -⟩
    · exact ⟨y, hy, hy'⟩
    · exact absurd rfl hb
  · rintro l info ⟨ply, hply, rfl, hseated, rfl⟩
    rw [hplayers] at hply
    obtain ⟨y, hy, hlists⟩ := hlisting ply hply hseated
    refine ⟨y, ?_, hlists⟩
    simp [hadds.outbox, hy]
  · intro b l info h
    simpa [view, hplayers] using h

end Pass

section Steps
variable {z : Zlib} {party : List LinkID} {s s' : State} {a b : LinkID}

theorem step_client {pack : HXMessagePackage} {given : SceneServer.Given} (h : Talk party s)
    (hallowed : Allowed s (.client a pack given)) (htold : Told s (.client a pack given))
    (hstep : step z s (.client a pack given) = some s') :
    Talk party s' ∧ Exchange.Step {b | b ∈ party} (view s) (view s') := by
  obtain ⟨⟨m, w⟩, hout, rfl⟩ := Option.map_eq_some_iff.mp hstep
  have hhandle := mem_toOption hout
  obtain ⟨ha, hallowed⟩ := hallowed
  rw [h.servers] at ha
  have hroll := h.rolls a ha
  rcases hallowed with ⟨hid, hfresh⟩ | ⟨hid, hcmd, hlink, ⟨seatNum, hseat, -⟩, hseats⟩ | ⟨hid, hcmd⟩
  · obtain ⟨hadds, hflag, ply, hplayers, hlink, hplyId, hvip, hnot⟩ := handle_connect hid hhandle
    refine ⟨talk_after h ?_ hadds (by simp), .moves (connect_after hflag hplayers hnot hadds)⟩
    rw [hplayers]
    refine ⟨?_, ?_, ?_, ?_⟩
    · intro q hq
      rcases List.mem_append.mp hq with hq | hq
      · exact hroll.ids q hq
      · rw [List.mem_singleton.mp hq, hplyId, hlink]
    · intro q hq
      rcases List.mem_append.mp hq with hq | hq
      · exact hroll.vips q hq
      · rw [List.mem_singleton.mp hq, hvip]
    · rw [List.map_append, List.nodup_append]
      refine ⟨hroll.nodup, List.nodup_singleton _, ?_⟩
      intro x hx y hy
      rw [List.map_singleton, List.mem_singleton, hlink] at hy
      rintro rfl
      exact hfresh (hy ▸ hx)
    · have hseats := hroll.seats
      simpa [State.players, List.filter_append, hnot] using hseats
  · have hseat' := mem_toOption hseat
    have hroll' : Roll ((s.players a).map (told pack.mLinkid (int32OfBytes seatNum.bytes))) :=
      hroll.told hseats
    have hplayers : ((s.scenes a).manager.updatePlayerSeatNumber pack.mLinkid.sid.toNat
        (int32OfBytes seatNum.bytes)).2.players =
        (s.players a).map (told pack.mLinkid (int32OfBytes seatNum.bytes)) := hroll.modify_eq hlink
    obtain ⟨hm, more, hadds, hspoken, hmore⟩ :=
      handle_tellSeatNum hid hcmd hseat' (hplayers ▸ hroll') hhandle
    rw [← hm] at hplayers
    have hflag : m.userVisibleFlag = (s.scenes a).manager.userVisibleFlag := by
      rw [hm]
      rfl
    refine ⟨talk_after h (hplayers ▸ hroll') hadds hspoken, ?_⟩
    cases hvisible : (s.scenes a).manager.userVisibleFlag with
    | true =>
      rw [hvisible] at hmore hflag
      exact .announces a ha (announces_after hflag hadds hmore)
    | false =>
      rw [hvisible, if_neg Bool.false_ne_true] at hmore
      subst hmore
      refine .enters a ha pack.mLinkid (enters_after hvisible hflag hplayers hadds ?_)
      intro b hb hne q hq hseated hhandled
      exact owed_of_coming h.servers (htold hid hvisible b (h.servers ▸ hb) hne q hq hseated hhandled)
  · obtain ⟨hm, more, hadds, hspoken, hasks⟩ := handle_seen hid hcmd hroll hhandle
    subst hm
    exact ⟨talk_after h hroll hadds hspoken, .announces a ha (announces_after rfl hadds hasks)⟩

theorem step_center {given : CenterServer.Given} (hsids : (party.map LinkID.sid).Nodup)
    (h : Talk party s) (hallowed : Allowed s (.center a given))
    (hstep : step z s (.center a given) = some s') :
    Talk party s' ∧ Exchange.Step {b | b ∈ party} (view s) (view s') := by
  have ha : a ∈ party := h.servers ▸ hallowed
  simp only [step] at hstep
  cases houtbox : (s.scenes a).wires.outbox with
  | nil => simp [houtbox] at hstep
  | cons pack rest =>
    rw [houtbox] at hstep
    obtain ⟨⟨center, inbox⟩, hout, rfl⟩ := Option.map_eq_some_iff.mp hstep
    have hspoken := h.outbox a ha pack (houtbox ▸ List.mem_cons_self)
    obtain ⟨rfl, hinbox⟩ := handle_center hspoken (mem_toOption hout)
    rw [show s.center.users.map User.mLinkID = party from h.servers] at hinbox
    refine ⟨talk_forwarded h houtbox hspoken ?_, .moves (moves_forwarded ha hsids houtbox hinbox)⟩
    intro b y hy
    exact ((hinbox b y).mp hy).imp_right And.right

theorem step_external (h : Talk party s) (hallowed : Allowed s (.external a))
    (hstep : step z s (.external a) = some s') :
    Talk party s' ∧ Exchange.Step {b | b ∈ party} (view s) (view s') := by
  have ha : a ∈ party := h.servers ▸ hallowed
  simp only [step] at hstep
  cases hinbox : s.inbox a with
  | nil => simp [hinbox] at hstep
  | cons pack rest =>
    rw [hinbox] at hstep
    obtain ⟨⟨m, w⟩, hout, rfl⟩ := Option.map_eq_some_iff.mp hstep
    have hhandle := mem_toOption hout
    have hpasses : IsList pack ∨ IsState pack → Talk party (passed s a pack rest m w) ∧
        Exchange.Step {b | b ∈ party} (view s) (view (passed s a pack rest m w)) := by
      intro hpack
      obtain ⟨rfl, hadds, hsent⟩ := handleCenter_passes hpack hhandle
      exact ⟨talk_passed h hinbox rfl hadds (by simp), .moves (moves_passed hinbox hpack hadds hsent)⟩
    rcases h.inbox a ha pack (hinbox ▸ List.mem_cons_self) with hpack | hpack | hpack
    · exact hpasses (Or.inl hpack)
    · obtain ⟨rfl, more, hadds, hlists, hlisting⟩ := handleCenter_request hpack (h.rolls a ha) hhandle
      refine ⟨talk_passed h hinbox rfl hadds fun p hp => Or.inl (hlists p hp), ?_⟩
      exact .answers a ha (answers_passed hinbox hpack hadds hlisting)
    · exact hpasses (Or.inr hpack)

def Waits (s : State) : Event → Prop
  | .client _ _ _ => True
  | .center a _ => (s.scenes a).wires.outbox ≠ []
  | .external a => s.inbox a ≠ []

theorem step_possible {e : Event} (h : Talk party s) (hallowed : Allowed s e) (hwaits : Waits s e) :
    ∃ s', step z s e = some s' := by
  cases e with
  | client a pack given =>
    have hreturns : Returns (SceneServer.handle downlink (s.scenes a).manager pack given
        (s.scenes a).wires) := by
      rcases hallowed.2 with ⟨hid, -⟩ | ⟨hid, hcmd, -, ⟨seatNum, hseat, -⟩, -⟩ | ⟨hid, -⟩
      · rw [SceneServer.handle, if_pos hid]
        exact SceneServer.returns_handleConnect
      · rw [handle_tells hid hcmd]
        exact SceneServer.returns_handleTellSeatNum ⟨seatNum, mem_toOption hseat⟩
      · rw [handle_globalNotify hid]
        exact SceneServer.returns_handleGlobalNotify
    obtain ⟨out, hout⟩ := hreturns
    simp [step, hout, Except.toOption]
  | center a given =>
    obtain ⟨pack, rest, houtbox⟩ := List.exists_cons_of_ne_nil hwaits
    have ha : a ∈ party := h.servers ▸ hallowed
    have hspoken := h.outbox a ha pack (houtbox ▸ List.mem_cons_self)
    simp [step, houtbox, center_forwards hspoken, Except.toOption]
  | external a =>
    obtain ⟨pack, rest, hinbox⟩ := List.exists_cons_of_ne_nil hwaits
    have ha : a ∈ party := h.servers ▸ hallowed
    rcases h.inbox a ha pack (hinbox ▸ List.mem_cons_self) with hpack | hpack | hpack
    · simp [step, hinbox, handleCenter_broadcasts (Or.inl hpack), Except.toOption]
    · simp [step, hinbox, handleCenter_answers hpack, Except.toOption]
    · simp [step, hinbox, handleCenter_broadcasts (Or.inr hpack), Except.toOption]

end Steps

section Runs
variable {z : Zlib} {party : List LinkID} {s s' : State} {e : Event}

structure Inv (party : List LinkID) (s : State) : Prop where
  talk : Talk party s
  exchange : Exchange.Inv {b | b ∈ party} (view s)

theorem step_exchanges (hsids : (party.map LinkID.sid).Nodup) (h : Inv party s) (hallowed : Allowed s e)
    (htold : Told s e) (hstep : step z s e = some s') :
    Talk party s' ∧ Exchange.Step {b | b ∈ party} (view s) (view s') := by
  cases e with
  | client a pack given => exact step_client h.talk hallowed htold hstep
  | center a given => exact step_center hsids h.talk hallowed hstep
  | external a => exact step_external h.talk hallowed hstep

theorem step_inv (hsids : (party.map LinkID.sid).Nodup) (h : Inv party s) (hallowed : Allowed s e)
    (htold : Told s e) (hstep : step z s e = some s') : Inv party s' := by
  obtain ⟨htalk, hexchange⟩ := step_exchanges hsids h hallowed htold hstep
  exact ⟨htalk, hexchange.inv h.exchange⟩

theorem inv_start (center : UserManager) (flvSeqHeaderChange : LinkID → Bool)
    (sceneServerID : LinkID → Block 32) :
    Inv (center.users.map User.mLinkID) (start center flvSeqHeaderChange sceneServerID) := by
  refine ⟨⟨rfl, ?_, ?_, ?_⟩, Exchange.inv_quiet ?_ ?_ ?_⟩
  · intro a _
    constructor <;> simp [State.players, start, PlayerManager.new]
  · simp [start]
  · simp [start]
  · simp [view, start, PlayerManager.new]
  · simp [view, start]
  · simp [view, start]

theorem visible_seen {a : LinkID} {pack : HXMessagePackage} {given : SceneServer.Given} (h : Inv party s)
    (hallowed : Allowed s (.client a pack given)) (hid : pack.header.id = idGlobalNotify)
    (hcmd : pack.header.id2 = c2sSeenExternal) (hstep : step z s (.client a pack given) = some s') :
    (view s').visible a := by
  obtain ⟨⟨m, w⟩, hout, rfl⟩ := Option.map_eq_some_iff.mp hstep
  have ha : a ∈ party := h.talk.servers ▸ hallowed.1
  obtain ⟨rfl, -⟩ := handle_seen hid hcmd (h.talk.rolls a ha) (mem_toOption hout)
  simp [view]

theorem settled_view (h : Talk party s) (hsettled : Settled s) :
    Exchange.Settled {b | b ∈ party} (view s) := by
  have hempty : ∀ b ∈ party, (s.scenes b).wires.outbox = [] ∧ s.inbox b = [] :=
    fun b hb => hsettled b (h.servers ▸ hb)
  constructor
  · intro b hb
    simp [view, (hempty b hb).1]
  · intro b hb
    simp [view, (hempty b hb).2]
  · intro b hb info
    simp [view, (hempty b hb).1]
  · intro b hb info
    simp [view, (hempty b hb).2]

theorem Inv.allListed {a : LinkID} (h : Inv party s) (hsettled : Settled s) (ha : a ∈ party)
    (hvisible : (view s).visible a) : AllListed s := by
  have hknown := h.exchange.known (settled_view h.talk hsettled) ⟨a, ha, hvisible⟩
  intro b hb p hp hpseated c hc hne q hq hqseated
  rw [h.talk.servers] at hb hc
  have hholds : (view s).holds b p.mLinkID p.mProfileInfo := ⟨p, hp, rfl, hpseated, rfl⟩
  have hholds' : (view s).holds c q.mLinkID q.mProfileInfo := ⟨q, hq, rfl, hqseated, rfl⟩
  exact hknown b hb _ _ hholds c hc hne _ _ hholds'

/-- Once a server has handled `c2s_seen_external`, and whenever no message is
under way, every player that has told its seat has been sent the seated players
of every other server: in every run in which a player that tells its seat at a
server that is not visible yet has missed none of them. -/
theorem run_lists (z : Zlib) {center : UserManager} {flvSeqHeaderChange : LinkID → Bool}
    {sceneServerID : LinkID → Block 32} (hsids : (center.users.map fun user => user.mLinkID.sid).Nodup)
    {es : List Event} {s : State}
    (hrun : run (step z) (start center flvSeqHeaderChange sceneServerID) es = some s)
    (hallowed : Along (step z) Allowed (start center flvSeqHeaderChange sceneServerID) es)
    (htold : Along (step z) Told (start center flvSeqHeaderChange sceneServerID) es)
    {a : LinkID} {pack : HXMessagePackage} {given : SceneServer.Given} (hseen : .client a pack given ∈ es)
    (hid : pack.header.id = idGlobalNotify) (hcmd : pack.header.id2 = c2sSeenExternal)
    (hsettled : Settled s) : AllListed s := by
  have hsids' : ((center.users.map User.mLinkID).map LinkID.sid).Nodup := by
    rwa [List.map_map]
  have hkept : ∀ s e s', Inv (center.users.map User.mLinkID) s → Allowed s e ∧ Told s e →
      step z s e = some s' → Inv (center.users.map User.mLinkID) s' :=
    fun s e s' h hboth hstep => step_inv hsids' h hboth.1 hboth.2 hstep
  have hboth := hallowed.and htold
  have hstart := inv_start center flvSeqHeaderChange sceneServerID
  have hinv := run_invariant_along hkept hboth hrun hstart
  have hvisible : a ∈ center.users.map User.mLinkID ∧ (view s).visible a := by
    apply @run_establishes _ _ (step z) (Inv (center.users.map User.mLinkID))
      (fun s => a ∈ center.users.map User.mLinkID ∧ (view s).visible a) _ _ hkept ?_ ?_ _ _ _ hseen hboth
      hrun hstart
    · intro s e s' h hvisible hboth hstep
      exact ⟨hvisible.1, (step_exchanges hsids' h hboth.1 hboth.2 hstep).2.visible hvisible.2⟩
    · intro s s' h hboth hstep
      exact ⟨h.talk.servers ▸ hboth.1.1, visible_seen h hboth.1 hid hcmd hstep⟩
  exact hinv.allListed hsettled hvisible.1 hvisible.2

end Runs

/-! ## A list that is missed -/

instance (s : State) (e : Event) : Decidable (Allowed s e) :=
  match e with
  | .client _ _ _ => inferInstanceAs (Decidable (_ ∧ (_ ∧ _ ∨ _ ∧ _ ∧ _ ∧ _ ∧ _ ∨ _ ∧ _)))
  | .center a _ => inferInstanceAs (Decidable (a ∈ s.servers))
  | .external a => inferInstanceAs (Decidable (a ∈ s.servers))

instance (s : State) : Decidable (Settled s) :=
  inferInstanceAs (Decidable (∀ a ∈ s.servers, (s.scenes a).wires.outbox = [] ∧ s.inbox a = []))

def BeforeAll (s : State) : Event → Prop
  | .client a pack _ => pack.header.id = idUserLogin → (s.scenes a).received = []
  | _ => True

instance (s : State) (e : Event) : Decidable (BeforeAll s e) :=
  match e with
  | .client a pack _ =>
    inferInstanceAs (Decidable (pack.header.id = idUserLogin → (s.scenes a).received = []))
  | .center _ _ => isTrue trivial
  | .external _ => isTrue trivial

theorem told_of_beforeAll {s : State} {e : Event} (h : BeforeAll s e) : Told s e := by
  cases e with
  | client a pack given =>
    rintro hid - b - - q - - ⟨list, hlist, -⟩
    simp [h hid] at hlist
  | center => trivial
  | external => trivial

def here : LinkID := ⟨1, 0⟩
def there : LinkID := ⟨2, 1⟩

def bothServers : UserManager :=
  (UserManager.new.addUser (User.new here false)).addUser (User.new there false)

def begin : State := start bothServers (fun _ => false) fun _ => Block.zeros 32

theorem length_take_int32 (n : Nat) : ((int32Bytes 1).take n).length ≤ maxBodyLength := by
  rw [List.length_take]
  exact (Nat.min_le_right _ _).trans (by decide)

def message (id id2 : UInt16) (n : Nat) : HXMessagePackage :=
  HXMessagePackage.filled ⟨1, 0⟩ id id2 ((int32Bytes 1).take n) (length_take_int32 n)

def client (a : LinkID) (id id2 : UInt16) (n : Nat) : Event :=
  .client a (message id id2 n) ⟨false, TransformInfo.ofBytes [], 0⟩

def connects (a : LinkID) : Event := client a idConnect 0 0
def tells (a : LinkID) : Event := client a idUserLogin c2sTellSeatNum 4
def sees (a : LinkID) : Event := client a idGlobalNotify c2sSeenExternal 0
def forwards (a : LinkID) : Event := .center a Identity.given

def hearing : List Event :=
  [connects there, tells there, connects here, tells here, sees there, forwards there, forwards there,
    .external here, .external here, forwards here, .external there]

def missing : List Event :=
  [connects there, tells there, sees there, forwards there, forwards there, .external here,
    connects here, tells here, .external here, forwards here, .external there]

def seatedAt (s : State) (a : LinkID) : List (LinkID × Bool) :=
  (s.players a).map fun ply => (ply.mLinkID, decide (Seated ply))

def listsSent (s : State) (a : LinkID) : Nat :=
  (s.scenes a).wires.sent.countP fun sent =>
    match sent.2 with
    | .package pack => IsList pack
    | _ => false

theorem run_hearing : (run (step Zlib.refusing) begin hearing).map (fun s =>
      (decide (Settled s), seatedAt s here, seatedAt s there)) =
        some (true, [(⟨1, 0⟩, true)], [(⟨1, 0⟩, true)]) ∧
    Along (step Zlib.refusing) Allowed begin hearing ∧
    Along (step Zlib.refusing) BeforeAll begin hearing := by
  refine ⟨?_, ?_, ?_⟩ <;> decide +kernel

theorem run_lists_hearing : ∃ s, run (step Zlib.refusing) begin hearing = some s ∧
    seatedAt s here = [(⟨1, 0⟩, true)] ∧ seatedAt s there = [(⟨1, 0⟩, true)] ∧ AllListed s := by
  obtain ⟨hs, hallowed, hbefore⟩ := run_hearing
  obtain ⟨s, hrun, hs⟩ := Option.map_eq_some_iff.mp hs
  obtain ⟨hsettled, hhere, hthere⟩ : Settled s ∧ seatedAt s here = [(⟨1, 0⟩, true)] ∧
      seatedAt s there = [(⟨1, 0⟩, true)] := by simpa using hs
  have htold : Along (step Zlib.refusing) Told begin hearing :=
    along_of_invariant (fun _ _ _ h => told_of_beforeAll h) (fun _ _ _ _ _ _ => trivial)
      (trivial : (fun _ : State => True) begin) hbefore
  have hsids : (bothServers.users.map fun user => user.mLinkID.sid).Nodup := by decide
  have hseen : sees there ∈ hearing := by simp [hearing]
  exact ⟨s, hrun, hhere, hthere,
    run_lists Zlib.refusing hsids hrun hallowed htold hseen rfl rfl hsettled⟩

theorem run_missing : (run (step Zlib.refusing) begin missing).map (fun s =>
      (decide (Settled s ∧ s.servers = [here, there]), seatedAt s here, seatedAt s there,
        listsSent s here)) = some (true, [(⟨1, 0⟩, true)], [(⟨1, 0⟩, true)], 0) ∧
    Along (step Zlib.refusing) Allowed begin missing := by
  refine ⟨?_, ?_⟩ <;> decide +kernel

/-- Nothing is under way any more, and the player has been sent no list at all. -/
theorem lists_missing : ∃ s, run (step Zlib.refusing) begin missing = some s ∧
    Along (step Zlib.refusing) Allowed begin missing ∧ sees there ∈ missing ∧ Settled s ∧
    ¬AllListed s := by
  obtain ⟨hs, hallowed⟩ := run_missing
  obtain ⟨s, hrun, hs⟩ := Option.map_eq_some_iff.mp hs
  obtain ⟨⟨hsettled, hservers⟩, hhere, hthere, hnone⟩ : (Settled s ∧ s.servers = [here, there]) ∧
      seatedAt s here = [(⟨1, 0⟩, true)] ∧ seatedAt s there = [(⟨1, 0⟩, true)] ∧
      listsSent s here = 0 := by
    simpa using hs
  refine ⟨s, hrun, hallowed, by simp [missing], hsettled, ?_⟩
  intro hlisted
  obtain ⟨p, hp, hp'⟩ := List.map_eq_singleton_iff.mp hhere
  obtain ⟨q, hq, hq'⟩ := List.map_eq_singleton_iff.mp hthere
  obtain ⟨pack, hsent, hlists⟩ := hlisted here (by simp [hservers]) p (by simp [hp])
    (by simpa using congrArg Prod.snd hp') there (by simp [hservers]) (by decide) q (by simp [hq])
    (by simpa using congrArg Prod.snd hq')
  have hcount := List.countP_eq_zero.mp hnone _ hsent
  exact hcount (by simpa using hlists.1)

end HXService.ExternalLists
