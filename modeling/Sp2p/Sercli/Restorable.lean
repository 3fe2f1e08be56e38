import Sp2p.Sercli.ManagerKeys
import Sp2p.Sercli.RoundTrip

/-!
# Which managers can be saved and loaded

A file lists the nodes of a network by their names. Where every object has the name of its key,
`roundTrip_iff` says exactly when what is saved is loaded to the same again: the counts fit, and no network
lists a node that is not the manager's any more. It does not help that another node has its name by now: the
file is loaded, and the network has got the other node.
-/

namespace Sp2p.Sercli

open Std

namespace Manager

variable {m m' : Manager}

/-- The networks are read one after the other, each with what its nodes are found to be. -/
theorem loadNetworks_associates (l : List (NetworkDescription × Network)) :
    ∀ {m m' : Manager}, loadNetworks l.length m (l.flatMap fun e => saveNetwork e.2) = some m' →
      ∀ e ∈ l, ∃ network,
        m.associateAll { networkDesc := e.2.networkDesc } e.2.relatedNodes = some network := by
  induction l with
  | nil => exact fun _ e he => absurd he List.not_mem_nil
  | cons e l ih =>
    intro m m' hload x hx
    rw [List.flatMap_cons, saveNetwork] at hload
    obtain ⟨network, hrun, hrest⟩ := Option.bind_eq_some_iff.1 hload
    rcases List.mem_cons.1 hx with rfl | hx
    · exact ⟨network, hrun⟩
    · exact ih hrest x hx

/-- Every name of a listing becomes an entry. -/
theorem size_associateAll (hkeyed : m.Keyed) {descs : List NodeDescription} :
    ∀ {network network' : Network}, m.associateAll network descs = some network' →
      descs.Pairwise (fun x y => x.nodeName ≠ y.nodeName) → (∀ desc ∈ descs, desc ∉ network.nodeSet) →
      network'.nodeSet.size = network.nodeSet.size + descs.length := by
  induction descs with
  | nil =>
    intro network network' hrun _ _
    obtain rfl := Option.some_inj.1 hrun
    rfl
  | cons desc descs ih =>
    intro network network' hrun hdist hnew
    obtain ⟨hhead, htail⟩ := List.pairwise_cons.1 hdist
    rw [associateAll, List.foldlM_cons] at hrun
    obtain ⟨next, hnext, hrest⟩ := Option.bind_eq_some_iff.1 hrun
    obtain ⟨p, hp, hpure⟩ := Option.bind_eq_some_iff.1 hnext
    obtain rfl := Option.some_inj.1 hpure
    obtain ⟨k, heq, hkp⟩ :=
      ExtTreeMap.getElem?_eq_some_iff_exists_compare_eq_eq_and_mem_toList.1 hp
    have hname : (m.heap p).nodeDesc.nodeName = desc.nodeName := by
      rw [hkeyed.ownKey k p hkp, NodeDescription.compare_eq.1 heq]
    have hnot : (m.heap p).nodeDesc ∉ network.nodeSet := fun hmem =>
      hnew desc List.mem_cons_self ((ExtTreeMap.mem_congr (NodeDescription.compare_eq.2 hname)).1 hmem)
    have hset : (network.associateNode (m.heap p).nodeDesc p).nodeSet =
        network.nodeSet.insert (m.heap p).nodeDesc p := TreeMap.insertIfNew_of_not_mem hnot
    have hsize : (network.nodeSet.insert (m.heap p).nodeDesc p).size = network.nodeSet.size + 1 := by
      rw [ExtTreeMap.size_insert, if_neg (mt ExtTreeMap.mem_iff_contains.2 hnot)]
    have hnew' : ∀ x ∈ descs, x ∉ (network.associateNode (m.heap p).nodeDesc p).nodeSet := by
      intro x hx hmem
      rw [hset, ExtTreeMap.mem_insert] at hmem
      rcases hmem with hmem | hmem
      · exact hhead x hx (hname.symm.trans (NodeDescription.compare_eq.1 hmem))
      · exact hnew x (List.mem_cons_of_mem desc hx) hmem
    rw [ih hrest htail hnew', hset, hsize, List.length_cons]
    omega

/-- A network that is loaded has as many nodes as it had when it was saved, gone or not. -/
theorem size_loaded (hnetworks : m.NetworksMatch) (hn : m.nodesMap.size < 2 ^ 31)
    (hk : m.networksMap.size < 2 ^ 31) {m₀ : Manager} (hload : m₀.loadState m.saveState = some m')
    {desc : NetworkDescription} {network : Network} (hget : m.networksMap[desc]? = some network) :
    ∃ network', m'.networksMap[desc]? = some network' ∧ network'.nodeSet.size = network.nodeSet.size := by
  rw [loadState_saveState_eq m₀ hn hk, ← ExtTreeMap.length_toList] at hload
  obtain ⟨hkeyed, -, hempty⟩ :=
    loadNodes_spec (keyed_clear m₀) (loadNodes_map m.storedNodes m₀.clear [])
  have hassociates := loadNetworks_associates _ hload
  generalize m.storedNodes.foldl addNode m₀.clear = m₁ at hload hkeyed hempty hassociates
  let f (network : Network) : Network :=
    (m₁.associateAll { networkDesc := network.networkDesc } network.relatedNodes).getD network
  have hf : ∀ e ∈ m.networksMap.toList,
      m₁.associateAll { networkDesc := e.2.networkDesc } e.2.relatedNodes = some (f e.2) := by
    intro e he
    obtain ⟨network', hrun⟩ := hassociates e he
    simp only [f, hrun, Option.getD_some]
  rw [loadNetworks_flatMap f _ m₁ hf, hempty] at hload
  obtain rfl := Option.some_inj.1 hload
  refine ⟨f network, ?_, ?_⟩
  · exact (TreeMap.getElem?_foldl_assign_toList (fun e he => NetworkDescription.compare_eq.2
      (hnetworks e.1 e.2 he)) f (fun _ _ => rfl) desc).trans (congrArg (Option.map f) hget)
  · obtain ⟨key, -, hkey⟩ :=
      ExtTreeMap.getElem?_eq_some_iff_exists_compare_eq_eq_and_mem_toList.1 hget
    have hlisted := size_associateAll hkeyed (hf _ hkey) (by
      rw [Network.relatedNodes, List.pairwise_map]
      exact ExtTreeMap.distinct_keys_toList.imp fun hne hname => hne (NodeDescription.compare_eq.2 hname))
      fun _ _ => ExtTreeMap.not_mem_empty
    simpa [Network.relatedNodes] using hlisted

/-- So none of its nodes can have gone. -/
theorem RoundTrip.stored (h : m.RoundTrip) (hnetworks : m.NetworksMatch) {desc : NetworkDescription}
    {network : Network} (hmem : (desc, network) ∈ m.networksMap.toList) {k : NodeDescription} {p : NodePtr}
    (hkp : (k, p) ∈ network.nodeSet.toList) : m.Stored p := by
  have hget : m.networksMap[desc]? = some network :=
    TreeMap.getElem?_eq_some_of_entry hmem ReflCmp.compare_self
  obtain ⟨m', hload, hsame⟩ := h m
  obtain ⟨network', hget', hsize⟩ := size_loaded hnetworks h.few.1 h.few.2 hload hget
  have hrel := hsame.networks desc
  rw [hget, hget', Option.rel_some_some] at hrel
  obtain ⟨d, -, hd⟩ := ExtTreeMap.getElem?_eq_some_iff_exists_compare_eq_eq_and_mem_toList.1 hget'
  have hresolved := (settled_of_loadState hload).resolved d network' hd
  have hlength := hrel.2.length_eq
  rw [associated_of_stored fun k p hkp => (hresolved k p hkp).1, List.length_map, ExtTreeMap.length_toList,
    hsize, associated, ← ExtTreeMap.length_toList] at hlength
  obtain ⟨q, hq⟩ := Option.isSome_iff_exists.1
    (List.filterMap_length_eq_length.1 hlength.symm (k, p) hkp)
  obtain ⟨r, hr, -⟩ := Option.map_eq_some_iff.1 hq
  obtain rfl := lock_eq hr
  exact h.owned hget hkp hr

/-- **What a manager of matching keys saves is loaded to the same again** exactly when the counts fit in an
`int` and the nodes of its networks are its own. -/
theorem roundTrip_iff (hkeyed : m.Keyed) (hnetworks : m.NetworksMatch)
    (hnames : ∀ desc network, (desc, network) ∈ m.networksMap.toList → ∀ k p,
      (k, p) ∈ network.nodeSet.toList → (m.heap p).nodeDesc.nodeName = k.nodeName) :
    m.RoundTrip ↔ m.nodesMap.size < 2 ^ 31 ∧ m.networksMap.size < 2 ^ 31 ∧
      ∀ desc network, (desc, network) ∈ m.networksMap.toList → ∀ k p,
        (k, p) ∈ network.nodeSet.toList → m.Stored p := by
  constructor
  · intro h
    exact ⟨h.few.1, h.few.2, fun desc network hmem k p hkp => h.stored hnetworks hmem hkp⟩
  · rintro ⟨hn, hk, hstored⟩
    exact Settled.roundTrip {
      fewNodes := hn
      fewNetworks := hk
      allocated := hkeyed.allocated
      ownNames := fun k k' p p' hkp hkp' => hkeyed.ownNames hkp hkp'
      ownDesc := hnetworks
      resolved := fun desc network hmem k p hkp =>
        ⟨hstored desc network hmem k p hkp, hnames desc network hmem k p hkp⟩ }

end Manager

end Sp2p.Sercli
