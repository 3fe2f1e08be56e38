import Sp2p.NodeClient.Context
import Sp2p.Sercli.CertFiles

/-!
# What the commands do

`LocalEffect` is what the commands of the contexts `Node` and `Network` and the basic ones can do, and
`Effect` what those of `Sp2p` can do besides, but for `gnd` and `gnt`, which pick an object
(`Picks`). Everything that is said of commands elsewhere is read off these.
-/

namespace Sp2p.NodeClient

open Std Protocol Sercli

variable {κ ξ σ : Type}

/-- Up to the session and the connection the node is as it was. -/
def SameButSession (n n' : NodeMembers κ ξ) : Prop :=
  { n' with isLogged := n.isLogged, isActive := n.isActive } = n

namespace SameButSession

variable {n n' n'' : NodeMembers κ ξ}

theorem refl (n : NodeMembers κ ξ) : SameButSession n n := rfl

theorem toNode (h : SameButSession n n') : n'.toNode = n.toNode := by
  have hsame : { n' with isLogged := n.isLogged, isActive := n.isActive } = n := h
  have hnode := congrArg (fun n : NodeMembers κ ξ => n.toNode) hsame
  exact hnode

theorem trans (h : SameButSession n n') (h' : SameButSession n' n'') : SameButSession n n'' := by
  have hfirst : { n' with isLogged := n.isLogged, isActive := n.isActive } = n := h
  have hsame : { n'' with isLogged := n'.isLogged, isActive := n'.isActive } = n' := h'
  calc { n'' with isLogged := n.isLogged, isActive := n.isActive }
      = { ({ n'' with isLogged := n'.isLogged, isActive := n'.isActive } : NodeMembers κ ξ) with
          isLogged := n.isLogged, isActive := n.isActive } := rfl
    _ = { n' with isLogged := n.isLogged, isActive := n.isActive } := by rw [hsame]
    _ = n := hfirst

theorem setActive (n : NodeMembers κ ξ) (active : Bool) :
    SameButSession n { n with isActive := active } := rfl

/-- A reply that only ends the session. -/
theorem endSession (n : NodeMembers κ ξ) (active : Bool) :
    SameButSession n { n with isLogged := false, isActive := active } := rfl

end SameButSession

theorem Objects.nodes_setNode (o : Objects κ ξ) (p q : NodePtr) (n : NodeMembers κ ξ) :
    (o.setNode p n).nodes q = if q = p then n else o.nodes q :=
  Function.update_apply ..

theorem Objects.networks_setNetwork (o : Objects κ ξ) (q r : NetworkPtr) (network : Network) :
    (o.setNetwork q network).networks r = if r = q then network else o.networks r :=
  Function.update_apply ..

/-! ### Effects -/

inductive LocalEffect (s : Client κ ξ) : Option Thrown × Client κ ξ → Prop
  | throws (thrown : Thrown) : LocalEffect s (some thrown, s)
  | moves (context : ContextName) : LocalEffect s (none, { s with currentContext := context })
  /-- The working node is changed; where the exception is reported nothing but its session is. -/
  | node (p : NodePtr) (n : NodeMembers κ ξ) (t : Option Thrown) (hp : s.nodeC.node = some p)
      (hdesc : n.nodeDesc = (s.nodes p).nodeDesc)
      (ht : ∀ thrown ∈ t, thrown.report.isSome → SameButSession (s.nodes p) n) :
      LocalEffect s (t, s.setNode p n)
  | sessions (g : NodePtr → NodeMembers κ ξ) (t : Option Thrown)
      (hg : ∀ p, SameButSession (s.nodes p) (g p)) : LocalEffect s (t, { s with nodes := g })
  /-- The working network lists no more than before and the working node. -/
  | network (q : NetworkPtr) (network : Network) (hq : s.networkC.network = some q)
      (hdesc : network.networkDesc = (s.networks q).networkDesc)
      (hlisted : ∀ k p, (k, p) ∈ network.nodeSet.toList → (k, p) ∈ (s.networks q).nodeSet.toList ∨
        s.networkC.node = some p ∧ k = (s.nodes p).nodeDesc) :
      LocalEffect s (none, s.setNetwork q network)

/-- What `clear` and `loadState` make of the objects, `g` being the nodes after `stopAll`. -/
inductive Renewed (o : Objects κ ξ) (g : NodePtr → NodeMembers κ ξ) : Objects κ ξ → Prop
  | stopped : Renewed o g { o with nodes := g }
  | cleared : Renewed o g { o with nodes := g, nodesMap := ∅, networksMap := ∅ }
  | loaded {σ : Type} (src : AbstractSource σ) (source : Option σ) :
    Renewed o g (({ o with nodes := g, nodesMap := ∅, networksMap := ∅ } : Objects κ ξ).loadFile src source).1

inductive Effect (s : Client κ ξ) : Option Thrown × Client κ ξ → Prop
  | ofLocal {r : Option Thrown × Client κ ξ} (h : LocalEffect s r) : Effect s r
  | createNode (desc : NodeDescription) (user : MyUser) :
    Effect s (none, { s with toObjects := s.addNode (.new desc user) })
  | removeNode (desc : NodeDescription) :
    Effect s (none, { s with nodesMap := s.nodesMap.erase desc })
  | createNetwork (desc : NetworkDescription) :
    Effect s (none, { s with toObjects := s.addNetwork { networkDesc := desc } })
  | removeNetwork (desc : NetworkDescription) :
    Effect s (none, { s with networksMap := s.networksMap.erase desc })
  | saves (dataManager : DataManager) (saved : List (Sink × List Item)) (t : Option Thrown)
      (ht : ∀ thrown ∈ t, thrown.report = none) : Effect s (t, { s with dataManager, saved })
  | renews (dataManager : DataManager) (g : NodePtr → NodeMembers κ ξ) (o : Objects κ ξ)
      (t : Option Thrown) (hg : ∀ p, SameButSession (s.nodes p) (g p)) (ho : Renewed s.toObjects g o)
      (ht : ∀ thrown ∈ t, thrown.report = none) :
      Effect s (t, { s with toObjects := o, dataManager })

inductive Picks (s : Client κ ξ) : Option Thrown × Client κ ξ → Prop
  | none (t : Option Thrown) : Picks s (t, s)
  | node (k : NodeDescription) (p : NodePtr) (hp : (k, p) ∈ s.nodesMap.toList) :
    Picks s (.none, Sp2pContext.setNode p s)
  | network (k : NetworkDescription) (q : NetworkPtr) (hq : (k, q) ∈ s.networksMap.toList) :
    Picks s (.none, Sp2pContext.setNetwork q s)

/-! ### Operations of a node -/

section Operations

variable {n : NodeMembers κ ξ} {readCertificate : String → Option ξ} {c : NodeCall} {x : Exchange}
  {connected keyUsable : Bool} {reply : Option NodeMessage}

theorem nodeDesc_receiveMembers (response : NodeMessage) :
    (n.receive readCertificate response c).2.nodeDesc = n.nodeDesc := by
  rw [show (n.receive readCertificate response c).2.nodeDesc =
    (n.receive readCertificate response c).2.toNodeState.nodeDesc from rfl,
    NodeMembers.receive_toNodeState, NodeMembers.nodeDesc_receive]

/-- No operation describes the node anew. -/
theorem nodeDesc_perform :
    (n.perform readCertificate c connected keyUsable reply).2.nodeDesc = n.nodeDesc := by
  unfold NodeMembers.perform
  split
  · rfl
  · split
    · exact nodeDesc_receiveMembers _
    · rfl

/-- A reply of type `OK` that an error is returned for has a certificate that cannot be read. -/
theorem receive_ok (hc : c.isAuthenticated = true) {response : NodeMessage}
    (hr : response.responseType.getD .ok = .ok)
    (herror : (n.receive readCertificate response c).1 ≠ .ok) :
    (n.receive readCertificate response c).2 = n := by
  unfold NodeMembers.receive at herror ⊢
  rw [hr] at herror ⊢
  cases c with
  | logIn | logOut | registerUser | asyncUpdateServer => cases hc
  | signKey pem networkDesc =>
    simp only [NodeState.receive, hr, NodeMembers.readable, NodeMembers.file, if_true] at herror ⊢
    have hunreadable :
        readCertificate ((response.signKeyResponse.getD {}).userCertificate.getD "") = none := by
      by_contra hne
      exact herror (if_pos (Option.isSome_iff_ne_none.2 hne))
    rw [hunreadable]
  | changePassword newPassword =>
    simp only [NodeState.receive, hr, if_true] at herror
    exact absurd rfl herror
  | _ =>
    simp only [NodeState.receive, NodeState.receiveDefault, hr] at herror
    exact absurd rfl herror

/-- An operation in a session that returns an error has changed nothing but the session. -/
theorem sameButSession_perform (hc : c.isAuthenticated = true)
    (herror : (n.perform readCertificate c connected keyUsable reply).1 ≠ .ok) :
    SameButSession n (n.perform readCertificate c connected keyUsable reply).2 := by
  unfold NodeMembers.perform at herror ⊢
  split
  · exact .setActive n _
  · rename_i o hbegin
    rw [hbegin] at herror
    dsimp only at herror ⊢
    cases reply with
    | none => exact .setActive n true
    | some response =>
      dsimp only at herror ⊢
      by_cases hr : response.responseType.getD .ok = .ok
      · rw [receive_ok hc hr herror]
        exact .setActive n true
      · rw [NodeMembers.receive_error hc hr]
        dsimp only
        split
        · exact .endSession n true
        · exact .setActive n true

/-- A query of servers changes nothing but the session. -/
theorem getServersList_state {isAddress : String → Bool} {networkDesc : NetworkDescription}
    {state : NodeState} {r : (NodeError × List ServerDescription) × NodeState}
    (h : state.getServersList isAddress networkDesc x = .ok r) :
    { r.2 with isLogged := state.isLogged } = state := by
  have hreceive (response : NodeMessage) :
      { (state.receive true response (.getServersList networkDesc)).2 with isLogged := state.isLogged } =
        state := by
    simp only [NodeState.receive, NodeState.receiveDefault]
    split
    · rfl
    · rfl
  unfold NodeState.getServersList at h
  split at h
  · obtain rfl := Except.ok.inj h
    rfl
  · split at h
    · cases h
    · split at h
      · obtain rfl := Except.ok.inj h
        rfl
      · dsimp only at h
        split at h
        · split at h
          · obtain rfl := Except.ok.inj h
            exact hreceive _
          · cases h
        · obtain rfl := Except.ok.inj h
          exact hreceive _

theorem sameButSession_invokeServersList {isAddress : String → Bool} {networkDesc : NetworkDescription}
    {n' : NodeMembers κ ξ} (h : invokeServersList n isAddress networkDesc x = .ok n') :
    SameButSession n n' := by
  unfold invokeServersList at h
  cases hr : n.toNodeState.getServersList isAddress networkDesc (exchangeOf n x) with
  | error e =>
    rw [hr] at h
    cases h
  | ok r =>
    rw [hr] at h
    obtain rfl := Except.ok.inj h
    have hstate := getServersList_state hr
    show ({ n with toNodeState := { r.2 with isLogged := n.isLogged } } : NodeMembers κ ξ) = n
    rw [hstate]

end Operations

/-! ### A discovery -/

section Discover

variable {lock : NodePtr → Option NodePtr} {isAddress : String → Bool}
  {exchange : NodeDescription → Exchange} {networkDesc : NetworkDescription}

theorem query_sessions {d d' : Discovery} {it : NodeDescription × NodePtr}
    (h : Network.query lock isAddress exchange networkDesc d it = .ok d') (p : NodePtr) :
    { d'.nodes p with isLogged := (d.nodes p).isLogged } = d.nodes p := by
  obtain ⟨node, result, state, -, hstate, rfl⟩ := Network.query_eq_ok_iff.1 h
  by_cases hp : p = node
  · subst hp
    show { (Function.update d.nodes p state) p with isLogged := (d.nodes p).isLogged } = d.nodes p
    rw [Function.update_self]
    exact getServersList_state hstate
  · rw [Discovery.append_nodes_of_ne hp]

theorem foldlM_query_sessions (l : List (NodeDescription × NodePtr)) :
    ∀ d d' : Discovery, l.foldlM (Network.query lock isAddress exchange networkDesc) d = .ok d' →
      ∀ p, { d'.nodes p with isLogged := (d.nodes p).isLogged } = d.nodes p := by
  induction l with
  | nil =>
    intro d d' h p
    obtain rfl := Except.ok.inj h
    rfl
  | cons it l ih =>
    intro d d' h p
    obtain ⟨d₁, hfirst, hrest⟩ := Network.foldlM_query_cons.1 h
    calc { d'.nodes p with isLogged := (d.nodes p).isLogged }
        = { ({ d'.nodes p with isLogged := (d₁.nodes p).isLogged } : NodeState) with
            isLogged := (d.nodes p).isLogged } := rfl
      _ = { d₁.nodes p with isLogged := (d.nodes p).isLogged } := by rw [ih d₁ d' hrest p]
      _ = d.nodes p := query_sessions hfirst p

end Discover

/-! ### Handlers that may throw before they do anything -/

section Intro

variable {α : Type} {s : Client κ ξ} {P : Option Thrown × Client κ ξ → Prop}

theorem attempt_intro {first : Client κ ξ → Except Thrown α} {act : α → Action κ ξ}
    (hthrow : ∀ t, P (some t, s)) (hact : ∀ a, first s = .ok a → P (act a s)) :
    P (attempt first act s) := by
  unfold attempt
  split
  · exact hthrow _
  · rename_i a ha
    exact hact a ha

theorem reading_intro {arguments : Except Thrown (Option α)} {act : α → Action κ ξ}
    (hthrow : ∀ t, P (some t, s)) (hnone : P (none, s)) (hact : ∀ a, P (act a s)) :
    P (reading arguments act s) := by
  refine attempt_intro hthrow fun a _ => ?_
  cases a with
  | none => exact hnone
  | some a => exact hact a

theorem checkNode_intro {w : Client κ ξ → Working} {act : NodePtr → Action κ ξ}
    (hthrow : ∀ t, P (some t, s)) (hact : ∀ p, (w s).node = some p → P (act p s)) :
    P (checkNode w act s) := by
  refine attempt_intro hthrow fun p hp => hact p ?_
  split at hp
  · rename_i heq
    rw [heq, Except.ok.inj hp]
  · cases hp

theorem checkNetwork_intro {w : Client κ ξ → Working} {act : NetworkPtr → Action κ ξ}
    (hthrow : ∀ t, P (some t, s)) (hact : ∀ q, (w s).network = some q → P (act q s)) :
    P (checkNetwork w act s) := by
  refine attempt_intro hthrow fun q hq => hact q ?_
  split at hq
  · rename_i heq
    rw [heq, Except.ok.inj hq]
  · cases hq

end Intro

theorem LocalEffect.stays (s : Client κ ξ) : LocalEffect s (none, s) := .moves s.currentContext

theorem LocalEffect.ofReading {α : Type} {s : Client κ ξ} {arguments : Except Thrown (Option α)}
    {act : α → Action κ ξ} (hact : ∀ a, LocalEffect s (act a s)) :
    LocalEffect s (reading arguments act s) :=
  reading_intro .throws (.stays s) hact

/-- The connection ends, or the exception of the log comes first. -/
theorem stopConnections_cases (opened : Bool) (p : NodePtr) (o : Objects κ ξ) :
    o.stopConnections opened p = (some .other, o) ∨
      ∃ active, o.stopConnections opened p = (none, o.setNode p { o.nodes p with isActive := active }) := by
  unfold Objects.stopConnections
  split
  · split
    · exact .inl rfl
    · exact .inr ⟨false, rfl⟩
  · refine .inr ⟨(o.nodes p).isActive, ?_⟩
    rw [Objects.setNode, Function.update_eq_self]

/-! ### The contexts -/

/-- Every call of the handler has such an effect. -/
def Does (P : Client κ ξ → Option Thrown × Client κ ξ → Prop) (h : Handler (Client κ ξ)) : Prop :=
  ∀ d s, P s (h d s)

section Handlers

variable (lib : Libraries κ ξ σ) (world : Nat → Surroundings κ σ)

theorem local_prints : Does LocalEffect (Context.prints : Handler (Client κ ξ)) :=
  fun _ s => .stays s

theorem local_pr : Does LocalEffect (Context.pr : Handler (Client κ ξ)) := by
  intro d s
  unfold Context.pr
  split
  · exact .moves _
  · exact .throws _

theorem local_cd : Does LocalEffect (Context.cd : Handler (Client κ ξ)) := by
  intro d s
  unfold Context.cd
  split
  · exact .throws _
  · split
    · exact .throws _
    · split
      · exact .moves _
      · exact .throws _

theorem local_context : ∀ h ∈ (Context.handlers : List (String × Handler (Client κ ξ))),
    Does LocalEffect h.2 := by
  simp only [Context.handlers, List.forall_mem_cons, List.not_mem_nil, false_imp_iff, implies_true,
    and_true]
  exact ⟨local_prints, local_pr, local_cd, local_prints, fun _ _ => .throws _, local_prints,
    local_prints, local_prints⟩

namespace NodeContext

/-- An exception that the loop reports comes from an error of an operation in a session. -/
theorem local_call {d : Dispatch} {s : Client κ ξ} {node : NodePtr} (hp : s.nodeC.node = some node)
    (c : NodeCall) {act : NodeError → Option Thrown}
    (hact : ∀ error, ∀ thrown ∈ act error, thrown.report.isSome → c.isAuthenticated = true ∧ error ≠ .ok) :
    LocalEffect s (call lib world d node c act s) := by
  unfold call invoke
  split
  · rename_i error n heq
    split at heq
    · cases heq
    · obtain ⟨herror, hn⟩ := Prod.mk.inj (Option.some_inj.1 heq)
      subst herror hn
      refine .node node _ _ hp nodeDesc_perform fun thrown hthrown hreport => ?_
      obtain ⟨hc, herror⟩ := hact _ thrown hthrown hreport
      exact sameButSession_perform hc herror
  · exact .throws _

theorem local_showNode : Does LocalEffect (showNode : Handler (Client κ ξ)) :=
  fun _ s => checkNode_intro .throws fun _ _ => .stays s

theorem local_pnt : Does LocalEffect (pnt : Handler (Client κ ξ)) :=
  fun _ s => checkNetwork_intro .throws fun _ _ => .stays s

theorem local_setU : Does LocalEffect (setU lib : Handler (Client κ ξ)) := by
  intro d s
  refine checkNode_intro .throws fun node hp => .ofReading fun user => ?_
  split
  · exact .throws _
  · rename_i n hset
    refine .node node n none hp ?_ nofun
    unfold NodeMembers.setUser at hset
    split at hset
    · cases hset
    · obtain rfl := (Prod.mk.inj hset).2
      rfl

theorem local_nodeCall (c : NodeCall) : Does LocalEffect (nodeCall lib world c) :=
  fun _ _ => checkNode_intro .throws fun _ hp => local_call lib world hp c fun _ => nofun

theorem local_register : Does LocalEffect (register lib world) := by
  refine fun d s => checkNode_intro .throws fun node hp => local_call lib world hp _ ?_
  intro error thrown hthrown hreport
  split at hthrown
  · obtain rfl := Option.some_inj.1 hthrown
    cases hreport
  · cases hthrown

theorem local_cp : Does LocalEffect (cp lib world) := by
  refine fun d s => checkNode_intro .throws fun node hp => .ofReading fun password =>
    local_call lib world hp _ ?_
  intro error thrown hthrown hreport
  split at hthrown
  · cases hthrown
  · rename_i herror
    exact ⟨rfl, herror⟩

theorem local_networkCall (c : NetworkDescription → NodeCall) : Does LocalEffect (networkCall lib world c) :=
  fun _ _ => checkNode_intro .throws fun _ hp => checkNetwork_intro .throws fun _ _ =>
    local_call lib world hp _ fun _ => nofun

theorem local_networkCallWith {α : Type} (arguments : Dispatch → Except Thrown (Option α))
    (c : NetworkDescription → α → NodeCall) :
    Does LocalEffect (networkCallWith lib world arguments c) :=
  fun _ _ => checkNode_intro .throws fun _ hp => checkNetwork_intro .throws fun _ _ =>
    .ofReading fun _ => local_call lib world hp _ fun _ => nofun

theorem local_getSL : Does LocalEffect (getSL lib world) := by
  refine fun d s => checkNode_intro .throws fun node hp => checkNetwork_intro .throws fun network _ => ?_
  split
  · rename_i n hquery
    have hsame := sameButSession_invokeServersList hquery
    refine .node node n none hp ?_ nofun
    rw [show n.nodeDesc = n.toNode.nodeDesc from rfl, hsame.toNode]
  · exact .throws _

theorem local_stop : Does LocalEffect (stop lib : Handler (Client κ ξ)) := by
  refine fun d s => checkNode_intro .throws fun node hp => ?_
  obtain heq | ⟨active, heq⟩ := stopConnections_cases lib.opened node s.toObjects
  · rw [onObjects, heq]
    exact .throws _
  · rw [onObjects, heq]
    exact .node node _ none hp rfl nofun

theorem nodeDesc_gk (n : NodeMembers κ ξ) (readCertificate : String → Option ξ) (desc : NodeDescription)
    (key : κ) (net : Option NetworkDescription) :
    (n.step readCertificate (NodeClient.gk desc key net)).nodeDesc = n.nodeDesc := by
  cases net <;> rfl

theorem local_fileKey {d : Dispatch} {s : Client κ ξ} {node : NodePtr} (hp : s.nodeC.node = some node)
    (net : Option NetworkDescription) : LocalEffect s (fileKey lib world d node net s) := by
  refine .node node _ _ hp (nodeDesc_gk _ _ _ _ _) fun thrown hthrown hreport => ?_
  split at hthrown
  · cases hthrown
  · obtain rfl := Option.some_inj.1 hthrown
    cases hreport

theorem local_gk : Does LocalEffect (gk lib world) := by
  refine fun d s => checkNode_intro .throws fun node hp => .ofReading fun network => ?_
  cases network with
  | none => exact local_fileKey lib world hp none
  | some networkName => exact attempt_intro .throws fun net _ => local_fileKey lib world hp _

theorem local_sk : Does LocalEffect (sk lib world) := by
  refine fun d s => checkNode_intro .throws fun node hp => .ofReading fun networkName =>
    attempt_intro .throws fun net _ => attempt_intro .throws fun key _ => local_call lib world hp _ ?_
  intro error thrown hthrown hreport
  split at hthrown
  · split at hthrown
    · cases hthrown
    · obtain rfl := Option.some_inj.1 hthrown
      cases hreport
  · rename_i herror
    exact ⟨rfl, herror⟩

theorem local_handlers : ∀ h ∈ handlers lib world, Does LocalEffect h.2 := by
  simp only [handlers, List.forall_mem_cons, List.not_mem_nil, false_imp_iff, implies_true, and_true]
  exact ⟨local_showNode, local_pnt, local_setU lib, local_nodeCall lib world _,
    local_nodeCall lib world _, local_register lib world, local_cp lib world, local_showNode,
    local_networkCallWith lib world _ _, local_networkCallWith lib world _ _,
    local_nodeCall lib world _, local_nodeCall lib world _, local_getSL lib world, local_showNode,
    local_showNode, local_showNode, local_networkCall lib world _, local_networkCall lib world _,
    local_networkCallWith lib world _ _, local_networkCall lib world _, local_stop lib, local_prints,
    local_gk lib world, local_sk lib world⟩

end NodeContext

namespace NetworkContext

theorem local_showNetwork : Does LocalEffect (showNetwork : Handler (Client κ ξ)) :=
  fun _ s => checkNetwork_intro .throws fun _ _ => .stays s

theorem local_pnd : Does LocalEffect (pnd : Handler (Client κ ξ)) :=
  fun _ s => checkNode_intro .throws fun _ _ => .stays s

theorem local_addNd : Does LocalEffect (addNd : Handler (Client κ ξ)) := by
  refine fun d s => checkNode_intro .throws fun node hp => checkNetwork_intro .throws fun network hq => ?_
  refine .network network _ hq rfl fun k p hkp => ?_
  rcases TreeMap.mem_toList_insertIfNew.1 hkp with hold | ⟨rfl, rfl, -⟩
  · exact .inl hold
  · exact .inr ⟨hp, rfl⟩

theorem local_delNd : Does LocalEffect (delNd : Handler (Client κ ξ)) := by
  refine fun d s => checkNode_intro .throws fun node hp => checkNetwork_intro .throws fun network hq => ?_
  exact .network network _ hq rfl fun k p hkp => .inl (TreeMap.mem_toList_erase.1 hkp).2

theorem local_getSl : Does LocalEffect (getSl lib world) := by
  refine fun d s => checkNetwork_intro .throws fun network hq => ?_
  split
  · exact .throws _
  · rename_i found hfound
    refine .sessions _ none fun p => ?_
    have hstate := foldlM_query_sessions _ _ _ hfound p
    show ({ s.nodes p with
      toNodeState := { found.nodes p with isLogged := (s.nodes p).isLogged } } : NodeMembers κ ξ) = s.nodes p
    rw [hstate]

theorem networkDesc_isActive {lock : NodePtr → Option NodePtr} {active : NodePtr → Bool}
    (network : Network) : (network.isActive lock active).2.networkDesc = network.networkDesc := by
  have hvisit (l : List (NodeDescription × NodePtr)) : ∀ r : Bool × Network,
      (l.foldl (Network.visit lock active) r).2.networkDesc = r.2.networkDesc := by
    induction l with
    | nil =>
      intro r
      rfl
    | cons it l ih =>
      intro r
      rw [List.foldl_cons, ih, Network.visit]
      split <;> rfl
  exact hvisit _ _

theorem local_ia : Does LocalEffect (ia : Handler (Client κ ξ)) := by
  refine fun d s => checkNetwork_intro .throws fun network hq => ?_
  refine .network network _ hq (networkDesc_isActive _) fun k p hkp => ?_
  exact .inl (Network.mem_nodeSet_isActive.1 hkp).1

theorem local_handlers : ∀ h ∈ handlers lib world, Does LocalEffect h.2 := by
  simp only [handlers, List.forall_mem_cons, List.not_mem_nil, false_imp_iff, implies_true, and_true]
  exact ⟨local_showNetwork, local_pnd, local_addNd, local_delNd, local_showNetwork,
    local_getSl lib world, local_ia⟩

end NetworkContext

namespace Sp2pContext

/-! ### Stopping and loading -/

theorem stopEach_sessions (opened : Bool) (ps : List NodePtr) :
    ∀ o : Objects κ ξ, ∃ g, (∀ p, SameButSession (o.nodes p) (g p)) ∧
      (Objects.stopEach opened ps o).2 = { o with nodes := g } ∧
      ∀ thrown ∈ (Objects.stopEach opened ps o).1, thrown.report = none := by
  induction ps with
  | nil => exact fun o => ⟨o.nodes, fun p => .refl _, rfl, nofun⟩
  | cons p ps ih =>
    intro o
    rw [Objects.stopEach]
    obtain heq | ⟨active, heq⟩ := stopConnections_cases opened p o
    · rw [heq]
      refine ⟨o.nodes, fun p => .refl _, rfl, fun thrown hthrown => ?_⟩
      obtain rfl := Option.some_inj.1 hthrown
      rfl
    · rw [heq]
      obtain ⟨g, hg, hrest, hthrown⟩ := ih (o.setNode p { o.nodes p with isActive := active })
      refine ⟨g, fun q => SameButSession.trans ?_ (hg q), hrest, hthrown⟩
      rw [Objects.nodes_setNode]
      split
      · rename_i hqp
        rw [hqp]
        exact .setActive _ _
      · exact .refl _

/-- What `clear` throws is not reported. -/
theorem clear_renews (opened : Bool) (o : Objects κ ξ) :
    ∃ g, (∀ p, SameButSession (o.nodes p) (g p)) ∧ (∀ thrown ∈ (o.clear opened).1, thrown.report = none) ∧
      (o.clear opened = (none, { o with nodes := g, nodesMap := ∅, networksMap := ∅ }) ∨
        ∃ thrown, o.clear opened = (some thrown, { o with nodes := g })) := by
  obtain ⟨g, hg, heq, hthrown⟩ := stopEach_sessions opened (o.nodesMap.toList.map Prod.snd) o
  refine ⟨g, hg, ?_⟩
  unfold Objects.clear Objects.stopAll
  generalize Objects.stopEach opened (o.nodesMap.toList.map Prod.snd) o = r at heq hthrown
  obtain ⟨thrown, o'⟩ := r
  dsimp only at heq
  subst heq
  cases thrown with
  | none => exact ⟨nofun, .inl rfl⟩
  | some thrown => exact ⟨hthrown, .inr ⟨thrown, rfl⟩⟩

theorem setDataFile_eq (destFile : Option String) (s : Client κ ξ) :
    ∃ dataManager, setDataFile destFile s = { s with dataManager } := by
  cases destFile with
  | none => exact ⟨s.dataManager, rfl⟩
  | some file => exact ⟨s.dataManager.setDataFile file, rfl⟩

theorem effect_clear : Does Effect (clear lib : Handler (Client κ ξ)) := by
  intro d s
  obtain ⟨g, hg, hthrown, heq | ⟨thrown, heq⟩⟩ := clear_renews lib.opened s.toObjects
  · rw [clear, onObjects, heq]
    exact .renews s.dataManager g _ none hg .cleared nofun
  · rw [heq] at hthrown
    rw [clear, onObjects, heq]
    exact .renews s.dataManager g _ (some thrown) hg .stopped hthrown

theorem effect_loadFrom (file : Option σ) (s : Client κ ξ) (dataManager : DataManager) :
    Effect s (loadFrom lib file { s with dataManager }) := by
  obtain ⟨g, hg, hthrown, heq | ⟨thrown, heq⟩⟩ := clear_renews lib.opened s.toObjects
  · rw [loadFrom, onObjects, Objects.loadState, heq]
    refine .renews dataManager g _ _ hg (.loaded lib.source _) fun thrown hthrown => ?_
    dsimp only at hthrown
    split at hthrown
    · cases hthrown
    · obtain rfl := Option.some_inj.1 hthrown
      rfl
  · rw [heq] at hthrown
    rw [loadFrom, onObjects, Objects.loadState, heq]
    exact .renews dataManager g _ (some thrown) hg .stopped hthrown

theorem effect_load : Does Effect (load lib world) := by
  refine fun d s => reading_intro (fun t => .ofLocal (.throws t)) (.ofLocal (.stays s)) fun sourceFile => ?_
  obtain ⟨dataManager, heq⟩ := setDataFile_eq sourceFile s
  rw [heq]
  exact effect_loadFrom lib _ s dataManager

theorem effect_save : Does Effect (save lib world) := by
  refine fun d s => reading_intro (fun t => .ofLocal (.throws t)) (.ofLocal (.stays s)) fun destFile => ?_
  obtain ⟨dataManager, heq⟩ := setDataFile_eq destFile s
  have hother : ∀ thrown ∈ some Thrown.other, thrown.report = none := by
    intro thrown hthrown
    obtain rfl := Option.some_inj.1 hthrown
    rfl
  dsimp only
  rw [heq]
  split
  · exact .saves dataManager s.saved _ hother
  · split
    · refine .saves dataManager _ _ ?_
      split
      · nofun
      · exact hother
    · exact .saves dataManager s.saved _ hother

/-! ### The manager -/

theorem effect_onManager {s : Client κ ξ} {f : Objects κ ξ → Except Thrown (Objects κ ξ)}
    (hf : ∀ o, f s.toObjects = .ok o → Effect s (none, { s with toObjects := o })) :
    Effect s (onManager f s) :=
  attempt_intro (fun t => .ofLocal (.throws t)) hf

theorem effect_cnd : Does Effect (cnd lib : Handler (Client κ ξ)) := by
  refine fun d s => reading_intro (fun t => .ofLocal (.throws t)) (.ofLocal (.stays s)) ?_
  rintro ⟨desc, user⟩
  refine effect_onManager fun o ho => ?_
  unfold Objects.createNode at ho
  split at ho
  · cases ho
  · obtain rfl := Except.ok.inj ho
    exact .createNode desc user

theorem effect_rnd : Does Effect (rnd lib : Handler (Client κ ξ)) := by
  refine fun d s => reading_intro (fun t => .ofLocal (.throws t)) (.ofLocal (.stays s)) fun key => ?_
  refine effect_onManager fun o ho => ?_
  unfold Objects.removeNode at ho
  split at ho
  · obtain rfl := Except.ok.inj ho
    exact .removeNode _
  · cases ho

theorem effect_cnt : Does Effect (cnt lib : Handler (Client κ ξ)) := by
  refine fun d s => reading_intro (fun t => .ofLocal (.throws t)) (.ofLocal (.stays s)) fun desc => ?_
  refine effect_onManager fun o ho => ?_
  unfold Objects.createNetwork at ho
  split at ho
  · cases ho
  · obtain rfl := Except.ok.inj ho
    exact .createNetwork desc

theorem effect_rnt : Does Effect (rnt lib : Handler (Client κ ξ)) := by
  refine fun d s => reading_intro (fun t => .ofLocal (.throws t)) (.ofLocal (.stays s)) fun key => ?_
  refine effect_onManager fun o ho => ?_
  unfold Objects.removeNetwork at ho
  split at ho
  · obtain rfl := Except.ok.inj ho
    exact .removeNetwork _
  · cases ho

/-! ### Picking an object -/

theorem entry_of_getNode {o : Objects κ ξ} {key : NodeKey} {p : NodePtr} (h : o.getNode key = .ok p) :
    ∃ k, (k, p) ∈ o.nodesMap.toList := by
  unfold Objects.getNode at h
  split at h
  · rename_i entry hentry
    obtain rfl := Except.ok.inj h
    cases key with
    | inl desc =>
      obtain ⟨p, hp, rfl⟩ := Option.map_eq_some_iff.1 hentry
      obtain ⟨k, -, hk⟩ := ExtTreeMap.getElem?_eq_some_iff_exists_compare_eq_eq_and_mem_toList.1 hp
      exact ⟨k, hk⟩
    | inr nodeName => exact ⟨entry.1, List.mem_of_find?_eq_some hentry⟩
  · cases h

theorem entry_of_getNetwork {o : Objects κ ξ} {key : NetworkKey} {q : NetworkPtr}
    (h : o.getNetwork key = .ok q) : ∃ k, (k, q) ∈ o.networksMap.toList := by
  have hentry : ∃ k, o.networkEntry key = some (k, q) := by
    unfold Objects.getNetwork at h
    split at h
    · rename_i entry hentry
      obtain rfl := Except.ok.inj h
      exact ⟨entry.1, hentry⟩
    · cases h
    · cases h
  obtain ⟨k, hk⟩ := hentry
  cases key with
  | inl desc =>
    obtain ⟨q, hq, heq⟩ := Option.map_eq_some_iff.1 hk
    obtain rfl := (Prod.mk.inj heq).2
    obtain ⟨k, -, hk⟩ := ExtTreeMap.getElem?_eq_some_iff_exists_compare_eq_eq_and_mem_toList.1 hq
    exact ⟨k, hk⟩
  | inr networkName => exact ⟨k, List.mem_of_find?_eq_some hk⟩

theorem picks_gnd : Does Picks (gnd lib : Handler (Client κ ξ)) := by
  refine fun d s => reading_intro (fun t => .none (some t)) (.none none) fun key =>
    attempt_intro (fun t => .none (some t)) fun node hnode => ?_
  obtain ⟨k, hk⟩ := entry_of_getNode hnode
  exact .node k node hk

theorem picks_gnt : Does Picks (gnt lib : Handler (Client κ ξ)) := by
  refine fun d s => reading_intro (fun t => .none (some t)) (.none none) fun key =>
    attempt_intro (fun t => .none (some t)) fun network hnetwork => ?_
  obtain ⟨k, hk⟩ := entry_of_getNetwork hnetwork
  exact .network k network hk

/-- Only two handlers pick an object. -/
theorem effect_handlers : ∀ h ∈ handlers lib world,
    Does Effect h.2 ∨ (h.1 = "gnd" ∨ h.1 = "gnt") ∧ Does Picks h.2 := by
  have hprints : Does Effect (Context.prints : Handler (Client κ ξ)) :=
    fun d s => .ofLocal (local_prints d s)
  simp only [handlers, List.forall_mem_cons, List.not_mem_nil, false_imp_iff, implies_true, and_true]
  exact ⟨.inl (effect_cnd lib), .inr ⟨.inl trivial, picks_gnd lib⟩, .inl (effect_rnd lib), .inl hprints,
    .inl (effect_cnt lib), .inr ⟨.inr trivial, picks_gnt lib⟩, .inl (effect_rnt lib), .inl hprints,
    .inl (effect_save lib world), .inl (effect_load lib world), .inl hprints, .inl hprints,
    .inl hprints, .inl (effect_clear lib)⟩

end Sp2pContext

/-! ### The dispatcher -/

/-- **What a line can do**, when the connections that have ended are off. -/
theorem dispatcher_cases {s : Client κ ξ} {command : String} {h : Handler (Client κ ξ)}
    (hh : dispatcher lib world s command = some h) (d : Dispatch) (s' : Client κ ξ) :
    let s'' := s'.endConnections (world d.line).ended
    (LocalEffect s'' (h d s') ∨ Effect s'' (h d s') ∧ s.currentContext = .sp2p) ∨
      Picks s'' (h d s') ∧ s.currentContext = .sp2p ∧ (command = "gnd" ∨ command = "gnt") := by
  obtain ⟨⟨name, handler⟩, hfind, rfl⟩ := Option.map_eq_some_iff.1 hh
  have hmem := List.mem_of_find?_eq_some hfind
  have hname : name = command := by simpa using List.find?_some hfind
  cases hcontext : s.currentContext with
  | mainApp =>
    rw [hcontext] at hmem
    exact .inl (.inl (local_context _ hmem d _))
  | node =>
    rw [hcontext] at hmem
    rcases List.mem_append.1 hmem with hmem | hmem
    · exact .inl (.inl (NodeContext.local_handlers lib world _ hmem d _))
    · exact .inl (.inl (local_context _ hmem d _))
  | network =>
    rw [hcontext] at hmem
    rcases List.mem_append.1 hmem with hmem | hmem
    · exact .inl (.inl (NetworkContext.local_handlers lib world _ hmem d _))
    · exact .inl (.inl (local_context _ hmem d _))
  | sp2p =>
    rw [hcontext] at hmem
    rcases List.mem_append.1 hmem with hmem | hmem
    · rcases Sp2pContext.effect_handlers lib world _ hmem with heffect | ⟨hgnd, hpicks⟩
      · exact .inl (.inr ⟨heffect d _, rfl⟩)
      · exact .inr ⟨hpicks d _, rfl, hname ▸ hgnd⟩
    · exact .inl (.inl (local_context _ hmem d _))

end Handlers

end Sp2p.NodeClient
