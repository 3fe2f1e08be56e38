import Sp2p.Sercli.FailedLoad

/-!
# The keys of the manager and their objects

A description is the key of `nodes_map` and a member of the node, which callers hold by its pointer.
`setNewDescription` writes the member alone. `keysMatch_iff_along` says along which calls the two agree,
so that a node is found by its own name and has it to itself.
-/

namespace Sp2p.Sercli

open Std

namespace Manager

/-! ### Lookup by name -/

/-- `none` is the `NodeException`. -/
def getNode (m : Manager) (nodeName : String) : Option NodePtr :=
  (m.nodesMap.toList.find? fun nodePair => nodePair.1.nodeName = nodeName).map Prod.snd

/-- `none` is the `NodeException`, which is thrown here too. -/
def getNetwork (m : Manager) (networkName : String) : Option Network :=
  (m.networksMap.toList.find? fun networkPair => networkPair.1.networkName = networkName).map Prod.snd

variable {m m' : Manager}

theorem entry_of_getNode {nodeName : String} {p : NodePtr} (h : m.getNode nodeName = some p) :
    ∃ desc, (desc, p) ∈ m.nodesMap.toList ∧ desc.nodeName = nodeName := by
  obtain ⟨⟨desc, q⟩, hfind, rfl⟩ := Option.map_eq_some_iff.1 h
  exact ⟨desc, List.mem_of_find?_eq_some hfind, by simpa using List.find?_some hfind⟩

/-- A name is that of one key at most. -/
theorem getNode_of_entry {desc : NodeDescription} {p : NodePtr} (h : (desc, p) ∈ m.nodesMap.toList) :
    m.getNode desc.nodeName = some p := by
  cases hget : m.getNode desc.nodeName with
  | none =>
    have hnone := List.find?_eq_none.1 (Option.map_eq_none_iff.1 hget) _ h
    simp at hnone
  | some q =>
    obtain ⟨desc', hq, hname⟩ := entry_of_getNode hget
    rw [(TreeMap.entry_unique hq h (NodeDescription.compare_eq.2 hname)).2]

theorem getNetwork_of_entry {desc : NetworkDescription} {network : Network}
    (h : (desc, network) ∈ m.networksMap.toList) : m.getNetwork desc.networkName = some network := by
  cases hget : m.getNetwork desc.networkName with
  | none =>
    have hnone := List.find?_eq_none.1 (Option.map_eq_none_iff.1 hget) _ h
    simp at hnone
  | some other =>
    obtain ⟨⟨desc', other'⟩, hfind, rfl⟩ := Option.map_eq_some_iff.1 hget
    have hname : desc'.networkName = desc.networkName := by simpa using List.find?_some hfind
    rw [(TreeMap.entry_unique (List.mem_of_find?_eq_some hfind) h
      (NetworkDescription.compare_eq.2 hname)).2]

/-! ### Keys and objects -/

/-- Every key names its object, and no two stored nodes share a name. -/
structure KeysMatch (m : Manager) : Prop where
  nodes : ∀ desc p, (desc, p) ∈ m.nodesMap.toList → (m.heap p).nodeDesc.nodeName = desc.nodeName
  networks : ∀ desc network, (desc, network) ∈ m.networksMap.toList →
    network.networkDesc.networkName = desc.networkName
  getNode : ∀ nodeName p, m.getNode nodeName = some p → (m.heap p).nodeDesc.nodeName = nodeName
  distinct : ∀ p p', m.Stored p → m.Stored p' →
    (m.heap p).nodeDesc.nodeName = (m.heap p').nodeDesc.nodeName → p = p'

/-- The keys of `networks_map` name the networks. -/
def NetworksMatch (m : Manager) : Prop :=
  ∀ desc network, (desc, network) ∈ m.networksMap.toList →
    network.networkDesc.networkName = desc.networkName

theorem Keyed.keysMatch (h : m.Keyed) (hnetworks : m.NetworksMatch) : m.KeysMatch where
  nodes := h.ownKey
  networks := hnetworks
  getNode nodeName p hget := by
    obtain ⟨desc, hp, hname⟩ := entry_of_getNode hget
    rw [h.ownKey desc p hp, hname]
  distinct p p' hp hp' hname := by
    obtain ⟨desc, hdesc⟩ := stored_iff.1 hp
    obtain ⟨desc', hdesc'⟩ := stored_iff.1 hp'
    exact (Prod.mk.inj (h.ownNames hdesc hdesc' hname)).2

/-- What a call on a network writes is the network of the name, with its description. -/
theorem NetworksMatch.onNetwork (h : m.NetworksMatch) {f : Network → Network}
    (hf : ∀ network, (f network).networkDesc = network.networkDesc) (desc : NetworkDescription) :
    (m.onNetwork desc f).NetworksMatch := by
  unfold Manager.onNetwork
  split
  · rename_i network hget
    intro desc' network' hentry
    rcases TreeMap.mem_toList_assign.1 hentry with ⟨rfl, rfl⟩ | ⟨-, hold⟩
    · obtain ⟨key, heq, hkey⟩ :=
        ExtTreeMap.getElem?_eq_some_iff_exists_compare_eq_eq_and_mem_toList.1 hget
      rw [hf, h key network hkey, NetworkDescription.compare_eq.1 (TreeMap.compare_getKeyD _ _),
        NetworkDescription.compare_eq.1 heq]
    · exact h desc' network' hold
  · exact h

theorem NetworksMatch.assign (h : m.NetworksMatch) (network : Network) :
    NetworksMatch { m with
      networksMap := TreeMap.assign m.networksMap network.networkDesc network } := by
  intro desc' network' hentry
  rcases TreeMap.mem_toList_assign.1 hentry with ⟨rfl, rfl⟩ | ⟨-, hold⟩
  · rw [NetworkDescription.compare_eq.1 (TreeMap.compare_getKeyD _ _)]
  · exact h desc' network' hold

/-- No call renames a network. -/
theorem NetworksMatch.step (h : m.NetworksMatch) {op : Op} (hstep : m.step op = some m') :
    m'.NetworksMatch := by
  cases op with
  | createNode desc user =>
    obtain rfl := Option.some_inj.1 hstep
    unfold createNode
    split <;> exact h
  | removeNode desc =>
    obtain rfl := Option.some_inj.1 hstep
    unfold removeNode
    split <;> exact h
  | createNetwork desc =>
    obtain rfl := Option.some_inj.1 hstep
    unfold createNetwork
    split
    · exact h
    · exact h.assign { networkDesc := desc }
  | removeNetwork desc =>
    obtain rfl := Option.some_inj.1 hstep
    unfold removeNetwork
    split
    · intro desc' network' hentry
      exact h desc' network' (TreeMap.mem_toList_erase.1 hentry).2
    · exact h
  | associateNode network node =>
    obtain ⟨p, -, hp⟩ := Option.bind_eq_some_iff.1 hstep
    obtain rfl := Option.some_inj.1 hp
    apply h.onNetwork
    intro network
    rfl
  | detachNode network node =>
    obtain rfl := Option.some_inj.1 hstep
    apply h.onNetwork
    intro network
    rfl
  | release node =>
    obtain rfl := Option.some_inj.1 hstep
    exact h
  | setUser node user | setNewDescription node desc | acquire node =>
    obtain ⟨p, -, hp⟩ := Option.bind_eq_some_iff.1 hstep
    obtain rfl := Option.some_inj.1 hp
    exact h

theorem nodeDesc_setUser (m : Manager) (node p : NodePtr) (user : MyUser) :
    ((m.setUser node user).heap p).nodeDesc = (m.heap p).nodeDesc := by
  show (Function.update m.heap node _ p).nodeDesc = _
  rw [Function.update_apply]
  split
  · rename_i heq
    rw [heq]
  · rfl

theorem nodeDesc_setNewDescription (m : Manager) (node p : NodePtr) (desc : NodeDescription) :
    ((m.setNewDescription node desc).heap p).nodeDesc =
      if p = node then desc else (m.heap p).nodeDesc := by
  show (Function.update m.heap node _ p).nodeDesc = _
  rw [Function.update_apply]
  split
  · rfl
  · rfl

/-- A stored node that is described anew keeps its name. -/
def KeepsName (m : Manager) : Op → Prop
  | .setNewDescription node desc => m.Stored node → (m.heap node).nodeDesc.nodeName = desc.nodeName
  | _ => True

theorem Keyed.step (h : m.Keyed) {op : Op} (hkeep : m.KeepsName op) (hstep : m.step op = some m') :
    m'.Keyed := by
  refine ⟨?_, lt_next_step h.allocated hstep⟩
  cases op with
  | createNode desc user =>
    obtain rfl := Option.some_inj.1 hstep
    unfold createNode
    split
    · exact h.ownKey
    · exact (h.addNode ⟨desc, user⟩).ownKey
  | removeNode desc =>
    obtain rfl := Option.some_inj.1 hstep
    unfold removeNode
    split
    · intro k p hkp
      exact h.ownKey k p (TreeMap.mem_toList_erase.1 hkp).2
    · exact h.ownKey
  | createNetwork desc =>
    obtain rfl := Option.some_inj.1 hstep
    unfold createNetwork
    split <;> exact h.ownKey
  | removeNetwork desc =>
    obtain rfl := Option.some_inj.1 hstep
    unfold removeNetwork
    split <;> exact h.ownKey
  | associateNode network node =>
    obtain ⟨p, -, hp⟩ := Option.bind_eq_some_iff.1 hstep
    obtain rfl := Option.some_inj.1 hp
    unfold onNetwork
    split <;> exact h.ownKey
  | detachNode network node =>
    obtain rfl := Option.some_inj.1 hstep
    unfold onNetwork
    split <;> exact h.ownKey
  | setUser node user =>
    obtain ⟨p, -, hp⟩ := Option.bind_eq_some_iff.1 hstep
    obtain rfl := Option.some_inj.1 hp
    intro k q hkq
    rw [nodeDesc_setUser]
    exact h.ownKey k q hkq
  | setNewDescription node desc =>
    obtain ⟨p, hlock, hp⟩ := Option.bind_eq_some_iff.1 hstep
    obtain rfl := lock_eq hlock
    obtain rfl := Option.some_inj.1 hp
    intro k q hkq
    rw [nodeDesc_setNewDescription, ← h.ownKey k q hkq]
    split
    · rename_i hq
      rw [hq] at hkq ⊢
      exact (hkeep (stored_iff.2 ⟨k, hkq⟩)).symm
    · rfl
  | acquire node =>
    obtain ⟨p, -, hp⟩ := Option.bind_eq_some_iff.1 hstep
    obtain rfl := Option.some_inj.1 hp
    exact h.ownKey
  | release node =>
    obtain rfl := Option.some_inj.1 hstep
    exact h.ownKey

/-- Another name than before is not that of the key. -/
theorem KeysMatch.keepsName (h : m.KeysMatch) {op : Op} (hstep : m.step op = some m')
    (h' : m'.KeysMatch) : m.KeepsName op := by
  cases op with
  | setNewDescription node desc =>
    obtain ⟨p, hlock, hp⟩ := Option.bind_eq_some_iff.1 hstep
    obtain rfl := lock_eq hlock
    obtain rfl := Option.some_inj.1 hp
    intro hstored
    obtain ⟨key, hkey⟩ := stored_iff.1 hstored
    have hnew := h'.nodes key node hkey
    rw [nodeDesc_setNewDescription, if_pos rfl] at hnew
    exact (h.nodes key node hkey).trans hnew.symm
  | _ => trivial

/-- What a call does to the keys of `networks_map`. -/
theorem mem_networksMap_step {op : Op} (hstep : m.step op = some m') (desc : NetworkDescription) :
    desc ∈ m'.networksMap ↔
      match op with
      | .createNetwork created => compare created desc = .eq ∨ desc ∈ m.networksMap
      | .removeNetwork removed => compare removed desc ≠ .eq ∧ desc ∈ m.networksMap
      | _ => desc ∈ m.networksMap := by
  have honNetwork (network : NetworkDescription) (f : Network → Network) :
      desc ∈ (m.onNetwork network f).networksMap ↔ desc ∈ m.networksMap := by
    unfold Manager.onNetwork
    split
    · rename_i found hget
      rw [TreeMap.mem_assign]
      refine or_iff_right_of_imp fun heq => ?_
      rw [← ExtTreeMap.mem_congr heq, ExtTreeMap.mem_iff_isSome_getElem?, hget]
      rfl
    · rfl
  cases op with
  | createNode created user =>
    obtain rfl := Option.some_inj.1 hstep
    unfold createNode
    split <;> rfl
  | removeNode removed =>
    obtain rfl := Option.some_inj.1 hstep
    unfold removeNode
    split <;> rfl
  | createNetwork created =>
    obtain rfl := Option.some_inj.1 hstep
    unfold createNetwork
    split
    · rename_i hold
      refine (or_iff_right_of_imp fun heq => ?_).symm
      exact (ExtTreeMap.mem_congr heq).1 hold
    · exact TreeMap.mem_assign
  | removeNetwork removed =>
    obtain rfl := Option.some_inj.1 hstep
    unfold removeNetwork
    split
    · exact ExtTreeMap.mem_erase
    · rename_i hnew
      refine (and_iff_right_of_imp fun hold heq => ?_).symm
      exact hnew ((ExtTreeMap.mem_congr heq).2 hold)
  | associateNode network node =>
    obtain ⟨p, -, hp⟩ := Option.bind_eq_some_iff.1 hstep
    obtain rfl := Option.some_inj.1 hp
    exact honNetwork _ _
  | detachNode network node =>
    obtain rfl := Option.some_inj.1 hstep
    exact honNetwork _ _
  | release node =>
    obtain rfl := Option.some_inj.1 hstep
    rfl
  | setUser node user | setNewDescription node desc | acquire node =>
    obtain ⟨p, -, hp⟩ := Option.bind_eq_some_iff.1 hstep
    obtain rfl := Option.some_inj.1 hp
    rfl

end Manager

/-! ### The manager with its objects -/

namespace ManagerObjects

/-- The pointers of `networks_map` after a call. -/
def pointersAfter (m : ManagerObjects) : Manager.Op → ExtTreeMap NetworkDescription NetworkPtr
  | .createNetwork desc => m.networkPtrs.insertIfNew desc m.nextNetwork
  | .removeNetwork desc => m.networkPtrs.erase desc
  | _ => m.networkPtrs

theorem mem_pointersAfter (m : ManagerObjects) (op : Manager.Op) {desc : NetworkDescription}
    {q : NetworkPtr} (h : (desc, q) ∈ (m.pointersAfter op).toList) : q < m.nextNetwork + 1 := by
  have hold : ∀ {desc q}, (desc, q) ∈ m.networkPtrs.toList → q < m.nextNetwork + 1 :=
    fun h => Nat.lt_succ_of_lt (m.network_lt _ _ h)
  cases op with
  | createNetwork created =>
    rcases TreeMap.mem_toList_insertIfNew.1 h with h | ⟨-, rfl, -⟩
    · exact hold h
    · exact Nat.lt_succ_self _
  | removeNetwork removed => exact hold (TreeMap.mem_toList_erase.1 h).2
  | _ => exact hold h

/-- A call on the objects; an address that is not used for a network is not used later either. -/
def step (m : ManagerObjects) (op : Manager.Op) : Option ManagerObjects :=
  match hstep : m.toManager.step op with
  | none => none
  | some manager => some {
      toManager := manager
      networkPtrs := m.pointersAfter op
      nextNetwork := m.nextNetwork + 1
      node_lt := Manager.lt_next_step m.node_lt hstep
      network_lt := fun _ _ h => m.mem_pointersAfter op h
      same_networks := fun desc => by
        rw [Manager.mem_networksMap_step hstep desc]
        cases op with
        | createNetwork created =>
          simp only [pointersAfter, ExtTreeMap.mem_insertIfNew, m.same_networks]
        | removeNetwork removed => simp only [pointersAfter, ExtTreeMap.mem_erase, m.same_networks]
        | _ => exact m.same_networks desc }

variable {m m' : ManagerObjects}

theorem step_toManager {op : Manager.Op} (h : m.step op = some m') :
    m.toManager.step op = some m'.toManager := by
  unfold step at h
  split at h
  · cases h
  · rename_i manager hstep
    obtain rfl := Option.some_inj.1 h
    exact hstep

/-- What is loaded is stored under its own names. -/
theorem keysMatch_loadState {σ : Type*} (src : AbstractSource σ) (source : Option σ) :
    (m.loadState src source).1.KeysMatch := by
  have hnodes : (m.loadState src source).1.Keyed :=
    loadState_keeps (·.Keyed) source (Manager.keyed_clear _) (fun _ node h => h.addNode node)
      fun _ _ h => ⟨h.ownKey, h.allocated⟩
  have hnetworks : (m.loadState src source).1.NetworksMatch :=
    loadState_keeps (·.NetworksMatch) source (fun desc network h => by simp [clear, Manager.clear] at h)
      (fun _ _ h => h) fun _ network h => h.assign network
  exact hnodes.keysMatch hnetworks

end ManagerObjects

/-! ### Runs -/

/-- The manager, and which nodes have an active connection. -/
structure ActiveNodes where
  manager : ManagerObjects := ManagerObjects.init
  active : NodePtr → Bool := fun _ => false

namespace ActiveNodes

/-- What is called on the manager and on what it hands out. A `clear` or `loadState` whose `stopAll` throws
has not come to the maps, and is a sequence of `setActive`. -/
inductive Call (σ : Type*)
  | op (op : Manager.Op)
  /-- A connection is made, or ends. -/
  | setActive (node : NodePtr) (active : Bool)
  | clear
  | loadState (source : Option σ)

/-- The call throws since the node is active. -/
def refuses (s : ActiveNodes) : Manager.Op → Bool
  | .setUser node _ | .setNewDescription node _ => s.active node
  | _ => false

/-- `stopAll`, when it does not throw. -/
def stopAll (s : ActiveNodes) : ActiveNodes :=
  { s with active := fun node => s.active node && !decide (s.manager.Stored node) }

variable {σ : Type*} (src : AbstractSource σ)

def step (s : ActiveNodes) : Call σ → Option ActiveNodes
  | .op op => if s.refuses op then some s else (s.manager.step op).map fun manager => { s with manager }
  | .setActive node active => some { s with active := Function.update s.active node active }
  | .clear => some { s.stopAll with manager := s.manager.clear }
  | .loadState source => some { s.stopAll with manager := (s.manager.loadState src source).1 }

/-- A stored node that takes a new description keeps its name. -/
def KeepsName (s : ActiveNodes) : Call σ → Prop
  | .op op => s.refuses op = false → s.manager.KeepsName op
  | _ => True

variable {src} {s s' : ActiveNodes}

theorem networksMatch_step {call : Call σ} (h : s.manager.NetworksMatch) (hs' : s.step src call = some s') :
    s'.manager.NetworksMatch := by
  cases call with
  | op op =>
    rw [step] at hs'
    split at hs'
    · obtain rfl := Option.some_inj.1 hs'
      exact h
    · obtain ⟨manager, hstep, rfl⟩ := Option.map_eq_some_iff.1 hs'
      exact h.step (ManagerObjects.step_toManager hstep)
  | setActive node active =>
    obtain rfl := Option.some_inj.1 hs'
    exact h
  | clear =>
    obtain rfl := Option.some_inj.1 hs'
    intro desc network hentry
    simp [ManagerObjects.clear, Manager.clear] at hentry
  | loadState source =>
    obtain rfl := Option.some_inj.1 hs'
    exact (ManagerObjects.keysMatch_loadState src source).networks

theorem keyed_of_keysMatch (h : s.manager.KeysMatch) : s.manager.Keyed := ⟨h.nodes, s.manager.node_lt⟩

/-- **One call.** Where the keys match they do so afterwards exactly when a stored node keeps its name. -/
theorem keysMatch_step_iff {call : Call σ} (h : s.manager.KeysMatch)
    (hs' : s.step src call = some s') : s'.manager.KeysMatch ↔ s.KeepsName call := by
  have hnetworks := networksMatch_step h.networks hs'
  cases call with
  | op op =>
    rw [step] at hs'
    split at hs'
    · rename_i hrefuses
      obtain rfl := Option.some_inj.1 hs'
      refine iff_of_true h fun hnot => ?_
      rw [hrefuses] at hnot
      cases hnot
    · obtain ⟨manager, hstep, rfl⟩ := Option.map_eq_some_iff.1 hs'
      have hop := ManagerObjects.step_toManager hstep
      constructor
      · intro h' _
        exact h.keepsName hop h'
      · intro hkeep
        exact ((keyed_of_keysMatch h).step (hkeep (by simpa using ‹¬ s.refuses op = true›)) hop).keysMatch
          hnetworks
  | setActive node active =>
    obtain rfl := Option.some_inj.1 hs'
    exact iff_of_true h trivial
  | clear =>
    obtain rfl := Option.some_inj.1 hs'
    exact iff_of_true ((Manager.keyed_clear _).keysMatch hnetworks) trivial
  | loadState source =>
    obtain rfl := Option.some_inj.1 hs'
    exact iff_of_true (ManagerObjects.keysMatch_loadState src source) trivial

theorem keysMatch_init : ({} : ActiveNodes).manager.KeysMatch where
  nodes := by simp [ManagerObjects.init]
  networks := by simp [ManagerObjects.init]
  getNode := by simp [ManagerObjects.init, Manager.getNode]
  distinct := by simp [ManagerObjects.init, Manager.stored_iff]

/-- **The keys match their contents all the time exactly when no stored node, being inactive, is given a
description of another name.** -/
theorem keysMatch_iff_along (src : AbstractSource σ) (calls : List (Call σ)) (t : ActiveNodes)
    (hrun : Runs.run (step src) {} calls = some t) :
    (∀ part s', part <+: calls → Runs.run (step src) {} part = some s' → s'.manager.KeysMatch) ↔
      Runs.Along (step src) KeepsName {} calls :=
  Runs.inv_iff_along (fun s => s.manager.NetworksMatch)
    (fun _ _ _ h hs' => networksMatch_step h hs') (fun _ _ _ _ h hs' => keysMatch_step_iff h hs')
    keysMatch_init.networks keysMatch_init hrun

/-- A node is created, and gets another port. -/
def moved : List (Call (List Item)) :=
  [.op (.createNode ⟨"127.0.0.1", "node1", 10⟩ .default),
    .op (.setNewDescription 0 ⟨"127.0.0.1", "node1", 11⟩)]

theorem keysMatch_iff_along_moved :
    ∃ t, Runs.run (step ManagerObjects.itemSource) {} moved = some t ∧
      ((∀ part s', part <+: moved → Runs.run (step ManagerObjects.itemSource) {} part = some s' →
        s'.manager.KeysMatch) ↔ Runs.Along (step ManagerObjects.itemSource) KeepsName {} moved) := by
  have hsome : (Runs.run (step ManagerObjects.itemSource) {} moved).isSome = true := by
    decide +kernel
  obtain ⟨t, ht⟩ := Option.isSome_iff_exists.1 hsome
  exact ⟨t, ht, keysMatch_iff_along ManagerObjects.itemSource moved t ht⟩

/-- Two nodes are created, and the first is described by the name of the second. -/
def renamed : List (Call (List Item)) :=
  [.op (.createNode ⟨"127.0.0.1", "node1", 10⟩ .default),
    .op (.createNode ⟨"127.0.0.1", "node2", 20⟩ .default),
    .op (.setNewDescription 0 ⟨"127.0.0.1", "node2", 20⟩)]

/-- The first is found by its old name and has the new one, which is that of the second too. -/
theorem not_keysMatch_renamed :
    ∃ s, Runs.run (step ManagerObjects.itemSource) {} renamed = some s ∧
      s.manager.getNode "node1" = some 0 ∧ (s.manager.heap 0).nodeDesc.nodeName = "node2" ∧
      s.manager.getNode "node2" = some 1 ∧ (s.manager.heap 1).nodeDesc.nodeName = "node2" ∧
      ¬ s.manager.KeysMatch := by
  have hrun : (Runs.run (step ManagerObjects.itemSource) {} renamed).map (fun s =>
      (s.manager.getNode "node1", (s.manager.heap 0).nodeDesc.nodeName, s.manager.getNode "node2",
        (s.manager.heap 1).nodeDesc.nodeName)) = some (some 0, "node2", some 1, "node2") := by
    decide +kernel
  obtain ⟨s, hs, hfound⟩ := Option.map_eq_some_iff.1 hrun
  obtain ⟨hfirst, hname, hsecond, hname'⟩ : s.manager.getNode "node1" = some 0 ∧
      (s.manager.heap 0).nodeDesc.nodeName = "node2" ∧ s.manager.getNode "node2" = some 1 ∧
      (s.manager.heap 1).nodeDesc.nodeName = "node2" := by
    simpa using hfound
  refine ⟨s, hs, hfirst, hname, hsecond, hname', fun h => ?_⟩
  have hown := h.getNode "node1" 0 hfirst
  rw [hname] at hown
  exact absurd hown (by decide)

end ActiveNodes
end Sp2p.Sercli
