import Sp2p.NodeClient.Commands

/-!
# The client over a whole run

The loop is a system that takes lines, up to the one that ends it. `consistent_run` says what holds in
every state it comes to: the contexts work with the same objects, and the manager has each object under
the name that it has all its life.
-/

namespace Sp2p.NodeClient

open Std Protocol Sercli

/-! ### Objects -/

variable {κ ξ σ : Type}

namespace Objects

/-- Pointers are to what has been created, and every key, of the manager or of a network, has the name of
its object. -/
structure Sound (o : Objects κ ξ) : Prop where
  nodes : ∀ k p, (k, p) ∈ o.nodesMap.toList →
    p < o.nextNode ∧ (o.nodes p).nodeDesc.nodeName = k.nodeName
  networks : ∀ k q, (k, q) ∈ o.networksMap.toList →
    q < o.nextNetwork ∧ (o.networks q).networkDesc.networkName = k.networkName
  listed : ∀ q k p, (k, p) ∈ (o.networks q).nodeSet.toList →
    p < o.nextNode ∧ (o.nodes p).nodeDesc.nodeName = k.nodeName

/-- No object is described anew. -/
structure Later (o o' : Objects κ ξ) : Prop where
  nextNode : o.nextNode ≤ o'.nextNode
  nextNetwork : o.nextNetwork ≤ o'.nextNetwork
  nodes : ∀ p, p < o.nextNode → (o'.nodes p).nodeDesc = (o.nodes p).nodeDesc
  networks : ∀ q, q < o.nextNetwork → (o'.networks q).networkDesc = (o.networks q).networkDesc

/-- From sound objects it comes to sound objects, which are the same ones and possibly more. -/
structure Evolves (o o' : Objects κ ξ) : Prop extends Later o o' where
  sound : o.Sound → o'.Sound

variable {o o' o'' : Objects κ ξ}

theorem Later.refl (o : Objects κ ξ) : Later o o :=
  ⟨Nat.le_refl _, Nat.le_refl _, fun _ _ => rfl, fun _ _ => rfl⟩

theorem Later.trans (h : Later o o') (h' : Later o' o'') : Later o o'' where
  nextNode := Nat.le_trans h.nextNode h'.nextNode
  nextNetwork := Nat.le_trans h.nextNetwork h'.nextNetwork
  nodes p hp := (h'.nodes p (Nat.lt_of_lt_of_le hp h.nextNode)).trans (h.nodes p hp)
  networks q hq := (h'.networks q (Nat.lt_of_lt_of_le hq h.nextNetwork)).trans (h.networks q hq)

theorem Evolves.refl (o : Objects κ ξ) : Evolves o o := ⟨.refl o, id⟩

theorem Evolves.trans (h : Evolves o o') (h' : Evolves o' o'') : Evolves o o'' :=
  ⟨h.toLater.trans h'.toLater, fun hs => h'.sound (h.sound hs)⟩

theorem evolves_nodes (o : Objects κ ξ) {g : NodePtr → NodeMembers κ ξ}
    (hg : ∀ p, (g p).nodeDesc = (o.nodes p).nodeDesc) : Evolves o { o with nodes := g } where
  nextNode := Nat.le_refl _
  nextNetwork := Nat.le_refl _
  nodes p _ := hg p
  networks _ _ := rfl
  sound h := by
    refine ⟨fun k p hkp => ?_, h.networks, fun q k p hkp => ?_⟩
    · exact ⟨(h.nodes k p hkp).1, (congrArg _ (hg p)).trans (h.nodes k p hkp).2⟩
    · exact ⟨(h.listed q k p hkp).1, (congrArg _ (hg p)).trans (h.listed q k p hkp).2⟩

theorem evolves_setNode (o : Objects κ ξ) {p : NodePtr} {n : NodeMembers κ ξ}
    (hdesc : n.nodeDesc = (o.nodes p).nodeDesc) : Evolves o (o.setNode p n) := by
  refine evolves_nodes o fun q => ?_
  rw [Function.update_apply]
  split
  · rename_i hq
    rw [hq, hdesc]
  · rfl

theorem nodes_addNode (o : Objects κ ξ) (n : NodeMembers κ ξ) (p : NodePtr) :
    (o.addNode n).nodes p = if p = o.nextNode then n else o.nodes p :=
  Function.update_apply ..

theorem networks_addNetwork (o : Objects κ ξ) (network : Network) (q : NetworkPtr) :
    (o.addNetwork network).networks q = if q = o.nextNetwork then network else o.networks q :=
  Function.update_apply ..

theorem evolves_addNode (o : Objects κ ξ) (n : NodeMembers κ ξ) : Evolves o (o.addNode n) := by
  have hold : ∀ p, p < o.nextNode → (o.addNode n).nodes p = o.nodes p :=
    fun p hp => (nodes_addNode o n p).trans (if_neg (Nat.ne_of_lt hp))
  refine ⟨⟨Nat.le_succ _, Nat.le_refl _, fun p hp => by rw [hold p hp], fun _ _ => rfl⟩, fun h => ?_⟩
  refine ⟨fun k p hkp => ?_, h.networks, fun q k p hkp => ?_⟩
  · rcases TreeMap.mem_toList_assign.1 hkp with ⟨rfl, rfl⟩ | ⟨-, hkp⟩
    · refine ⟨Nat.lt_succ_self _, ?_⟩
      rw [nodes_addNode, if_pos rfl]
      exact (NodeDescription.compare_eq.1 (TreeMap.compare_getKeyD _ _)).symm
    · obtain ⟨hp, hname⟩ := h.nodes k p hkp
      exact ⟨Nat.lt_succ_of_lt hp, by rw [hold p hp, hname]⟩
  · obtain ⟨hp, hname⟩ := h.listed q k p hkp
    exact ⟨Nat.lt_succ_of_lt hp, by rw [hold p hp, hname]⟩

/-- What a network lists is there and has the name it is listed by. -/
def Names (o : Objects κ ξ) (network : Network) : Prop :=
  ∀ k p, (k, p) ∈ network.nodeSet.toList → p < o.nextNode ∧ (o.nodes p).nodeDesc.nodeName = k.nodeName

theorem evolves_addNetwork (o : Objects κ ξ) {network : Network} (hnames : o.Sound → o.Names network) :
    Evolves o (o.addNetwork network) := by
  have hold : ∀ q, q < o.nextNetwork → (o.addNetwork network).networks q = o.networks q :=
    fun q hq => (networks_addNetwork o network q).trans (if_neg (Nat.ne_of_lt hq))
  refine ⟨⟨Nat.le_refl _, Nat.le_succ _, fun _ _ => rfl, fun q hq => by rw [hold q hq]⟩, fun h => ?_⟩
  refine ⟨h.nodes, fun k q hkq => ?_, fun q k p hkp => ?_⟩
  · rcases TreeMap.mem_toList_assign.1 hkq with ⟨rfl, rfl⟩ | ⟨-, hkq⟩
    · refine ⟨Nat.lt_succ_self _, ?_⟩
      rw [networks_addNetwork, if_pos rfl]
      exact (NetworkDescription.compare_eq.1 (TreeMap.compare_getKeyD _ _)).symm
    · obtain ⟨hq, hname⟩ := h.networks k q hkq
      exact ⟨Nat.lt_succ_of_lt hq, by rw [hold q hq, hname]⟩
  · rw [networks_addNetwork] at hkp
    split at hkp
    · exact hnames h k p hkp
    · exact h.listed q k p hkp

theorem evolves_setNetwork (o : Objects κ ξ) {q : NetworkPtr} {network : Network}
    (hdesc : network.networkDesc = (o.networks q).networkDesc) (hnames : o.Sound → o.Names network) :
    Evolves o (o.setNetwork q network) := by
  have hsame : ∀ r, ((o.setNetwork q network).networks r).networkDesc = (o.networks r).networkDesc := by
    intro r
    rw [networks_setNetwork]
    split
    · rename_i hr
      rw [hr, hdesc]
    · rfl
  refine ⟨⟨Nat.le_refl _, Nat.le_refl _, fun _ _ => rfl, fun r _ => hsame r⟩, fun h => ?_⟩
  refine ⟨h.nodes, fun k r hkr => ?_, fun r k p hkp => ?_⟩
  · obtain ⟨hr, hname⟩ := h.networks k r hkr
    exact ⟨hr, by rw [hsame, hname]⟩
  · rw [networks_setNetwork] at hkp
    split at hkp
    · exact hnames h k p hkp
    · exact h.listed r k p hkp

/-- Fewer entries in the maps. -/
theorem evolves_maps (o : Objects κ ξ) {nodesMap : ExtTreeMap NodeDescription NodePtr}
    {networksMap : ExtTreeMap NetworkDescription NetworkPtr}
    (hnodes : ∀ k p, (k, p) ∈ nodesMap.toList → (k, p) ∈ o.nodesMap.toList)
    (hnetworks : ∀ k q, (k, q) ∈ networksMap.toList → (k, q) ∈ o.networksMap.toList) :
    Evolves o { o with nodesMap, networksMap } :=
  ⟨⟨Nat.le_refl _, Nat.le_refl _, fun _ _ => rfl, fun _ _ => rfl⟩, fun h =>
    ⟨fun k p hkp => h.nodes k p (hnodes k p hkp), fun k q hkq => h.networks k q (hnetworks k q hkq),
      h.listed⟩⟩

/-! ### Loading -/

theorem names_associateKnown (h : o.Sound) (held : NodePtr → Bool) (descs : List NodeDescription) :
    ∀ network : Network, o.Names network →
      o.Names (associateKnown (o.manager held) network descs).1 := by
  induction descs with
  | nil => exact fun network hnetwork => hnetwork
  | cons desc descs ih =>
    intro network hnetwork
    rw [associateKnown]
    split
    · rename_i node hnode
      refine ih _ fun k p hkp => ?_
      rcases TreeMap.mem_toList_insertIfNew.1 hkp with hold | ⟨rfl, rfl, -⟩
      · exact hnetwork k p hold
      · obtain ⟨k, -, hk⟩ :=
          ExtTreeMap.getElem?_eq_some_iff_exists_compare_eq_eq_and_mem_toList.1 hnode
        exact ⟨(h.nodes k p hk).1, rfl⟩
    · exact hnetwork

section Load

variable {src : AbstractSource σ} {Inv : Objects κ ξ → Prop}

/-- What a load adds: nodes, and networks of nodes that the manager has. -/
structure KeptByLoad (Inv : Objects κ ξ → Prop) : Prop where
  node : ∀ o n, Inv o → Inv (o.addNode n)
  network : ∀ o desc descs, Inv o →
    Inv (o.addNetwork (associateKnown (o.manager fun _ => false) { networkDesc := desc } descs).1)

theorem loadNodes_keeps (hInv : KeptByLoad Inv) (n : Nat) :
    ∀ {o : Objects κ ξ} (file : σ), Inv o → Inv (loadNodes src n o file).1 := by
  induction n with
  | zero => exact fun _ h => h
  | succ n ih =>
    intro o file h
    rw [loadNodes]
    split
    · exact ih _ (hInv.node o _ h)
    · exact h

theorem loadNetworks_keeps (hInv : KeptByLoad Inv) (n : Nat) :
    ∀ {o : Objects κ ξ} (file : σ), Inv o → Inv (loadNetworks src n o file).1 := by
  induction n with
  | zero => exact fun _ h => h
  | succ n ih =>
    intro o file h
    rw [loadNetworks]
    split
    · exact h
    · rename_i desc file _
      split
      · exact hInv.network o desc [] h
      · rename_i descs file _
        have hnetwork := hInv.network o desc descs h
        split
        · rename_i network heq
          rw [heq] at hnetwork
          exact ih _ hnetwork
        · rename_i network heq
          rw [heq] at hnetwork
          exact hnetwork

theorem loadFile_keeps (hInv : KeptByLoad Inv) (source : Option σ) (h : Inv o) :
    Inv (o.loadFile src source).1 := by
  unfold loadFile
  split
  · exact h
  · rename_i nc file _
    have hnodes : Inv (loadNodes src nc.toNat o file).1 := loadNodes_keeps hInv nc.toNat file h
    split
    · rename_i heq
      rw [heq] at hnodes
      exact hnodes
    · rename_i heq
      rw [heq] at hnodes
      split
      · exact hnodes
      · exact loadNetworks_keeps hInv _ _ hnodes

theorem evolves_loadFile (o : Objects κ ξ) (source : Option σ) : Evolves o (o.loadFile src source).1 := by
  have hadd : KeptByLoad (Evolves o) := by
    refine ⟨fun o' n h => h.trans (evolves_addNode o' n), fun o' desc descs h => ?_⟩
    refine h.trans (evolves_addNetwork o' fun hs => names_associateKnown hs _ descs _ fun k p hkp => ?_)
    simp at hkp
  exact loadFile_keeps hadd source (.refl o)

end Load

end Objects

/-! ### The client -/

open Objects (Later Evolves evolves_nodes evolves_setNode evolves_addNode evolves_addNetwork
  evolves_setNetwork evolves_maps evolves_loadFile)

theorem Renewed.evolves {o o' : Objects κ ξ} {g : NodePtr → NodeMembers κ ξ} (h : Renewed o g o')
    (hg : ∀ p, SameButSession (o.nodes p) (g p)) : Evolves o o' := by
  have hnodes : Evolves o { o with nodes := g } :=
    evolves_nodes o fun p => congrArg (·.nodeDesc) (hg p).toNode
  have hcleared : Evolves o { o with nodes := g, nodesMap := ∅, networksMap := ∅ } :=
    hnodes.trans (evolves_maps _ (by simp) (by simp))
  cases h with
  | stopped => exact hnodes
  | cleared => exact hcleared
  | loaded src source => exact hcleared.trans (evolves_loadFile _ source)

/-- The contexts work with the same objects, which have been created, and the objects are sound. -/
structure Client.Sound (s : Client κ ξ) : Prop where
  objects : s.toObjects.Sound
  nodeC : s.nodeC = s.current
  networkC : s.networkC = s.current
  node : ∀ p, s.current.node = some p → p < s.nextNode
  network : ∀ q, s.current.network = some q → q < s.nextNetwork

section Sound

variable {s s' : Client κ ξ} {r : Option Thrown × Client κ ξ}

/-- The objects have gone on, and the contexts work with what they did. -/
theorem Client.Sound.of_evolves (hs : s.Sound) (h : Evolves s.toObjects s'.toObjects)
    (hcurrent : s'.current = s.current) (hnode : s'.nodeC = s.nodeC)
    (hnetwork : s'.networkC = s.networkC) : s'.Sound ∧ Later s.toObjects s'.toObjects := by
  refine ⟨⟨h.sound hs.objects, ?_, ?_, fun p hp => ?_, fun q hq => ?_⟩, h.toLater⟩
  · rw [hnode, hcurrent, hs.nodeC]
  · rw [hnetwork, hcurrent, hs.networkC]
  · rw [hcurrent] at hp
    exact Nat.lt_of_lt_of_le (hs.node p hp) h.nextNode
  · rw [hcurrent] at hq
    exact Nat.lt_of_lt_of_le (hs.network q hq) h.nextNetwork

theorem Client.Sound.endConnections (hs : s.Sound) (ended : List NodePtr) :
    (s.endConnections ended).Sound ∧ Later s.toObjects (s.endConnections ended).toObjects :=
  hs.of_evolves (evolves_nodes _ fun _ => rfl) rfl rfl rfl

theorem LocalEffect.sound (h : LocalEffect s r) (hs : s.Sound) :
    r.2.Sound ∧ Later s.toObjects r.2.toObjects := by
  cases h with
  | throws thrown => exact ⟨hs, .refl _⟩
  | moves context => exact hs.of_evolves (.refl _) rfl rfl rfl
  | node p n t hp hdesc ht => exact hs.of_evolves (evolves_setNode _ hdesc) rfl rfl rfl
  | sessions g t hg =>
    exact hs.of_evolves (evolves_nodes _ fun p => congrArg (·.nodeDesc) (hg p).toNode) rfl rfl rfl
  | network q network hq hdesc hlisted =>
    refine hs.of_evolves (evolves_setNetwork _ hdesc fun ho k p hkp => ?_) rfl rfl rfl
    rcases hlisted k p hkp with hold | ⟨hp, rfl⟩
    · exact ho.listed q k p hold
    · rw [hs.networkC] at hp
      exact ⟨hs.node p hp, rfl⟩

theorem Effect.sound (h : Effect s r) (hs : s.Sound) : r.2.Sound ∧ Later s.toObjects r.2.toObjects := by
  cases h with
  | ofLocal h => exact h.sound hs
  | createNode desc user => exact hs.of_evolves (evolves_addNode _ _) rfl rfl rfl
  | removeNode desc =>
    refine hs.of_evolves (evolves_maps _ (fun k p hkp => ?_) fun _ _ h => h) rfl rfl rfl
    exact (TreeMap.mem_toList_erase.1 hkp).2
  | createNetwork desc =>
    refine hs.of_evolves (evolves_addNetwork _ fun _ k p hkp => ?_) rfl rfl rfl
    simp at hkp
  | removeNetwork desc =>
    refine hs.of_evolves (evolves_maps _ (fun _ _ h => h) fun k q hkq => ?_) rfl rfl rfl
    exact (TreeMap.mem_toList_erase.1 hkq).2
  | saves dataManager saved t ht => exact hs.of_evolves (.refl _) rfl rfl rfl
  | renews dataManager g o t hg ho ht => exact hs.of_evolves (ho.evolves hg) rfl rfl rfl

theorem Picks.sound (h : Picks s r) (hs : s.Sound) : r.2.Sound ∧ Later s.toObjects r.2.toObjects := by
  refine ⟨?_, ?_⟩
  · cases h with
    | none t => exact hs
    | node k p hp =>
      refine ⟨hs.objects, ?_, ?_, fun p' hp' => ?_, hs.network⟩
      · rw [Sp2pContext.setNode, hs.nodeC]
      · rw [Sp2pContext.setNode, hs.networkC]
      · obtain rfl := Option.some_inj.1 hp'
        exact (hs.objects.nodes k p hp).1
    | network k q hq =>
      refine ⟨hs.objects, ?_, ?_, hs.node, fun q' hq' => ?_⟩
      · rw [Sp2pContext.setNetwork, hs.nodeC]
      · rw [Sp2pContext.setNetwork, hs.networkC]
      · obtain rfl := Option.some_inj.1 hq'
        exact (hs.objects.networks k q hq).1
  · cases h with
    | none t => exact .refl _
    | node k p hp => exact .refl _
    | network k q hq => exact .refl _

end Sound

/-! ### The manager of a sound client -/

variable {c : Client κ ξ}

theorem Client.Sound.keyed (hs : c.Sound) : c.manager.Keyed where
  ownKey k p hkp := (hs.objects.nodes k p hkp).2
  allocated p hp := by
    obtain ⟨k, hkp⟩ := Manager.stored_iff.1 hp
    exact (hs.objects.nodes k p hkp).1

theorem Client.networks_entry {desc : NetworkDescription} {network : Network}
    (h : (desc, network) ∈ c.manager.networksMap.toList) :
    ∃ q, (desc, q) ∈ c.networksMap.toList ∧ c.networks q = network := by
  rw [Client.manager, Objects.manager, ExtTreeMap.toList_map] at h
  obtain ⟨⟨k, q⟩, hkq, heq⟩ := List.mem_map.1 h
  obtain ⟨rfl, rfl⟩ := Prod.mk.inj heq
  exact ⟨q, hkq, rfl⟩

theorem Client.Sound.networksMatch (hs : c.Sound) : c.manager.NetworksMatch := by
  intro desc network h
  obtain ⟨q, hq, rfl⟩ := networks_entry h
  exact (hs.objects.networks desc q hq).2

/-! ### The start -/

section Start

variable {m : Manager} {name : String}

theorem bind_eq_ok {ε α β : Type} {x : Except ε α} {f : α → Except ε β} {b : β} :
    x >>= f = .ok b ↔ ∃ a, x = .ok a ∧ f a = .ok b := by
  cases x with
  | error e => exact ⟨nofun, nofun⟩
  | ok a =>
    constructor
    · intro h
      exact ⟨a, rfl, h⟩
    · rintro ⟨a', ha, h⟩
      obtain rfl := Except.ok.inj ha
      exact h

theorem mem_scan {β : Type} {body : String → Option (Except ScanException β)} {it : β} (names : List String) :
    it ∈ (scan body names).1 → ∃ name, body name = some (.ok it) := by
  induction names with
  | nil => exact fun h => absurd h List.not_mem_nil
  | cons name names ih =>
    intro h
    rw [scan] at h
    split at h
    · exact ih h
    · exact absurd h List.not_mem_nil
    · rename_i it' hbody
      rcases List.mem_cons.1 h with rfl | h
      · exact ⟨name, hbody⟩
      · exact ih h

theorem event_of_attachToNode {α : Type} {load : String → Option α} {nodeName : String}
    {f : α → NodeEvent κ ξ} {it : NodePtr × NodeEvent κ ξ}
    (h : attachToNode m load name nodeName f = .ok it) : ∃ store, it.2 = f store := by
  obtain ⟨store, -, h⟩ := bind_eq_ok.1 h
  obtain ⟨node, -, h⟩ := bind_eq_ok.1 h
  obtain rfl := Except.ok.inj h
  exact ⟨store, rfl⟩

theorem event_of_attachToNetwork {α : Type} {load : String → Option α} {nodeName networkName : String}
    {f : NetworkDescription → α → NodeEvent κ ξ} {it : NodePtr × NodeEvent κ ξ}
    (h : attachToNetwork m load name nodeName networkName f = .ok it) :
    ∃ networkDesc store, it.2 = f networkDesc store := by
  obtain ⟨store, -, h⟩ := bind_eq_ok.1 h
  obtain ⟨node, -, h⟩ := bind_eq_ok.1 h
  obtain ⟨network, -, h⟩ := bind_eq_ok.1 h
  obtain rfl := Except.ok.inj h
  exact ⟨network.networkDesc, store, rfl⟩

/-- What a scan finds is filed with a node. -/
theorem filed_of_ifMatches {α : Type} {load : String → Option α} {reg1 reg2 : List (Pattern.Piece Char)}
    {f : List (List Char) → α → NodeEvent κ ξ}
    {g : List (List Char) → NetworkDescription → α → NodeEvent κ ξ}
    (hf : ∀ sm store, (kind (f sm store)).isSome) (hg : ∀ sm desc store, (kind (g sm desc store)).isSome)
    {it : NodePtr × NodeEvent κ ξ} (h : ifMatches reg1 reg2 name
      (fun sm => attachToNode m load name (capture sm 1) (f sm))
      (fun sm => attachToNetwork m load name (capture sm 1) (capture sm 2) (g sm)) = some (.ok it)) :
    (kind it.2).isSome := by
  unfold ifMatches at h
  split at h
  · obtain ⟨store, hit⟩ := event_of_attachToNode (Option.some_inj.1 h)
    rw [hit]
    exact hf _ store
  · obtain ⟨sm, -, h⟩ := Option.map_eq_some_iff.1 h
    obtain ⟨desc, store, hit⟩ := event_of_attachToNetwork h
    rw [hit]
    exact hg sm desc store

theorem filed_of_scanForPrivKeys {load : String → Option κ} {filenames : List String}
    {it : NodePtr × NodeEvent κ ξ} (h : it ∈ (scanForPrivKeys m load filenames).1) : (kind it.2).isSome := by
  obtain ⟨name, hbody⟩ := mem_scan filenames h
  exact filed_of_ifMatches (fun _ _ => rfl) (fun _ _ _ => rfl) hbody

theorem filed_of_scanForCerts {load : String → Option ξ} {filenames : List String}
    {it : NodePtr × NodeEvent κ ξ} (h : it ∈ (scanForCerts m load filenames).1) : (kind it.2).isSome := by
  obtain ⟨name, hbody⟩ := mem_scan filenames h
  exact filed_of_ifMatches (fun _ _ => rfl) (fun _ _ _ => rfl) hbody

theorem nodeDesc_step_of_kind {e : NodeEvent κ ξ} (h : (kind e).isSome) (n : NodeMembers κ ξ)
    (readCertificate : String → Option ξ) : (n.step readCertificate e).nodeDesc = n.nodeDesc := by
  cases e with
  | addKey | addNetworkKey | addNodeCert | addNetworkCert => rfl
  | reply | connect | stopConnections | setUser | setNewDescription => cases h

variable (lib : Libraries κ ξ σ) {s s' : Client κ ξ}

theorem sound_attached (its : List (NodePtr × NodeEvent κ ξ)) (hits : ∀ it ∈ its, (kind it.2).isSome) :
    ∀ s : Client κ ξ, s.Sound → (its.foldl
      (fun s it => s.setNode it.1 ((s.nodes it.1).step lib.readCertificate it.2)) s).Sound := by
  induction its with
  | nil => exact fun s hs => hs
  | cons it its ih =>
    intro s hs
    obtain ⟨hit, hits⟩ := List.forall_mem_cons.1 hits
    have hnext : Evolves s.toObjects
        (s.toObjects.setNode it.1 ((s.nodes it.1).step lib.readCertificate it.2)) :=
      evolves_setNode _ (nodeDesc_step_of_kind hit _ _)
    have hsound : (s.setNode it.1 ((s.nodes it.1).step lib.readCertificate it.2)).Sound ∧ _ :=
      hs.of_evolves hnext rfl rfl rfl
    exact ih hits _ hsound.1

theorem sound_attach {found : List (NodePtr × NodeEvent κ ξ) × Option ScanException}
    (hfound : ∀ it ∈ found.1, (kind it.2).isSome) (hs : s.Sound) (h : attach lib found s = some s') :
    s'.Sound := by
  obtain ⟨its, e⟩ := found
  cases e with
  | some e => cases h
  | none =>
    obtain rfl := Option.some_inj.1 h
    exact sound_attached lib its hfound s hs

theorem sound_pick {α : Type} {nodeName : Option String} {find : String → Client κ ξ → Except Thrown α}
    {set : α → Client κ ξ → Client κ ξ}
    (hpicks : ∀ name a, find name s = .ok a → Picks s (none, set a s)) (hs : s.Sound)
    (h : pick nodeName find set s = some s') : s'.Sound := by
  unfold pick at h
  split at h
  · obtain rfl := Option.some_inj.1 h
    exact hs
  · split at h
    · rename_i name _ _ a hfind
      obtain rfl := Option.some_inj.1 h
      exact ((hpicks name a hfind).sound hs).1
    · cases h

theorem sound_loadAtStart {file : Option (Option σ)} (hs : s.Sound) (h : loadAtStart lib file s = some s') :
    s'.Sound := by
  unfold loadAtStart at h
  split at h
  · obtain rfl := Option.some_inj.1 h
    exact hs
  · rename_i file
    have hload := (Sp2pContext.effect_loadFrom lib file s s.dataManager).sound hs
    split at h
    · rename_i heq
      rw [show ({ s with dataManager := s.dataManager } : Client κ ξ) = s from rfl, heq] at hload
      obtain rfl := Option.some_inj.1 h
      exact hload.1
    · cases h

theorem sound_start {startup : Startup κ ξ σ} (h : start lib startup = some s) : s.Sound := by
  obtain ⟨s₁, h₁, h⟩ := Option.bind_eq_some_iff.1 h
  obtain ⟨s₂, h₂, h⟩ := Option.bind_eq_some_iff.1 h
  obtain ⟨s₃, h₃, h⟩ := Option.bind_eq_some_iff.1 h
  obtain ⟨privKeys, -, h⟩ := Option.bind_eq_some_iff.1 h
  obtain ⟨s₄, h₄, h⟩ := Option.bind_eq_some_iff.1 h
  have hs₁ : s₁.Sound := by
    refine sound_loadAtStart lib ?_ h₁
    exact ⟨⟨by simp, by simp, by simp⟩, rfl, rfl, nofun, nofun⟩
  have hs₂ : s₂.Sound := by
    refine sound_pick (fun name p hp => ?_) hs₁ h₂
    obtain ⟨k, hk⟩ := Sp2pContext.entry_of_getNode hp
    exact .node k p hk
  have hs₃ : s₃.Sound := by
    refine sound_pick (fun name q hq => ?_) hs₂ h₃
    obtain ⟨k, hk⟩ := Sp2pContext.entry_of_getNetwork hq
    exact .network k q hk
  have hs₄ : s₄.Sound := sound_attach lib (fun it => filed_of_scanForPrivKeys) hs₃ h₄
  split at h
  · obtain ⟨certs, -, h⟩ := Option.bind_eq_some_iff.1 h
    exact sound_attach lib (fun it => filed_of_scanForCerts) hs₄ h
  · cases h

end Start

/-! ### Runs -/

section Runs

variable (lib : Libraries κ ξ σ) (world : Nat → Surroundings κ σ) {s s' : ProgramLoop (Client κ ξ)}

theorem sound_step {commandLine : String} (hs : s.context.Sound)
    (h : s.step (dispatcher lib world) commandLine = some s') :
    s'.context.Sound ∧ Later s.context.toObjects s'.context.toObjects := by
  rw [s.step_context h]
  rcases s.turn_cases (dispatcher lib world) commandLine with
    heq | ⟨command, rest, call, d, -, hcall, heq, -⟩
  · rw [heq]
    exact ⟨hs, .refl _⟩
  · rw [heq]
    obtain ⟨hended, hlater⟩ := hs.endConnections (world d.line).ended
    have hgoes : (call d s.context).2.Sound ∧
        Later (s.context.endConnections (world d.line).ended).toObjects
          (call d s.context).2.toObjects := by
      rcases dispatcher_cases lib world hcall d s.context with (hlocal | ⟨heffect, -⟩) | ⟨hpicks, -⟩
      · exact hlocal.sound hended
      · exact heffect.sound hended
      · exact hpicks.sound hended
    exact ⟨hgoes.1, hlater.trans hgoes.2⟩

theorem sound_run {lines : List String} (hs : s.context.Sound)
    (h : Runs.run (ProgramLoop.step (dispatcher lib world)) s lines = some s') :
    s'.context.Sound ∧ Later s.context.toObjects s'.context.toObjects := by
  have hkeep : ∀ (t : ProgramLoop (Client κ ξ)) (line : String) (t' : ProgramLoop (Client κ ξ)),
      t.context.Sound ∧ Later s.context.toObjects t.context.toObjects →
      t.step (dispatcher lib world) line = some t' →
      t'.context.Sound ∧ Later s.context.toObjects t'.context.toObjects := by
    intro t line t' ht hstep
    obtain ⟨hsound, hlater⟩ := sound_step lib world ht.1 hstep
    exact ⟨hsound, ht.2.trans hlater⟩
  exact Runs.run_mono hkeep ⟨hs, .refl _⟩ h

/-- **The client over a whole run**: in every state that it comes to the contexts work with the same
objects and every object of the manager is found by its name, and whatever lines follow, the nodes and
networks that are there keep their descriptions. -/
theorem consistent_run {startup : Startup κ ξ σ} {c : Client κ ξ} (hstart : start lib startup = some c)
    {arguments : Arguments} {lines lines' : List String}
    (hrun : Runs.run (ProgramLoop.step (dispatcher lib world)) { context := c, arguments } lines = some s)
    (hrun' : Runs.run (ProgramLoop.step (dispatcher lib world)) s lines' = some s') :
    s.context.nodeC = s.context.current ∧ s.context.networkC = s.context.current ∧
      s.context.manager.KeysMatch ∧ Later s.context.toObjects s'.context.toObjects := by
  have hs := (sound_run lib world (sound_start lib hstart) hrun).1
  exact ⟨hs.nodeC, hs.networkC, hs.keyed.keysMatch hs.networksMatch, (sound_run lib world hs hrun').2⟩

end Runs

/-- No file and no keys. -/
def nothingKept : Startup Unit Unit (List Item) where
  dataFile := ""
  password := ""
  privKeys := some []
  certs := some []
  loadKey _ := none
  loadCert _ := none

theorem start_nothingKept : start plainLibraries nothingKept = some newClient.context := rfl

/-- The node of the contexts is removed from the manager. -/
theorem consistent_run_removed :
    ∃ s s', Runs.run (ProgramLoop.step (dispatcher plainLibraries quiet)) newClient
        ["cnd -n node1 -i 127.0.0.1 -P 10", "gnd -n node1"] = some s ∧
      Runs.run (ProgramLoop.step (dispatcher plainLibraries quiet)) s ["rnd -n node1"] = some s' ∧
      s.context.manager.KeysMatch ∧ Later s.context.toObjects s'.context.toObjects := by
  have hsome : ((Runs.run (ProgramLoop.step (dispatcher plainLibraries quiet)) newClient
      ["cnd -n node1 -i 127.0.0.1 -P 10", "gnd -n node1"]).bind fun s =>
        Runs.run (ProgramLoop.step (dispatcher plainLibraries quiet)) s ["rnd -n node1"]).isSome := by
    decide +kernel
  obtain ⟨s', hboth⟩ := Option.isSome_iff_exists.1 hsome
  obtain ⟨s, hrun, hrun'⟩ := Option.bind_eq_some_iff.1 hboth
  exact ⟨s, s', hrun, hrun', (consistent_run plainLibraries quiet start_nothingKept hrun hrun').2.2⟩

end Sp2p.NodeClient
