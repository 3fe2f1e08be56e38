import Sp2p.Lib.Runs
import Sp2p.Sercli.Archive

/-!
# A load that fails

`loadState` empties the maps before it opens the file and fills them while it reads, so a load that
throws leaves what it had read by then. The file is anything that gives values or throws, an archive
that ends early or does not decode included, and opening it may throw as well. The nodes and the
networks are objects behind pointers here, and a map is as it was only if its pointers are.
-/

namespace Sp2p.Sercli

open Std

/-- What the operators of a source do: a value and the rest of the source, or `none` for a throw. -/
structure AbstractSource (σ : Type*) where
  text : σ → Option (String × σ)
  node : σ → Option (Node × σ)
  network : σ → Option (NetworkDescription × σ)
  nodes : σ → Option (List NodeDescription × σ)

abbrev NetworkPtr := Nat

/-- The manager with its network objects: `networkPtrs` has the pointers of `networks_map`, and
`networksMap` what is behind them. `new` gives an address that is in neither map. -/
structure ManagerObjects extends Manager where
  networkPtrs : ExtTreeMap NetworkDescription NetworkPtr
  nextNetwork : NetworkPtr
  node_lt : ∀ p, toManager.Stored p → p < next
  network_lt : ∀ desc q, (desc, q) ∈ networkPtrs.toList → q < nextNetwork
  same_networks : ∀ desc, desc ∈ networkPtrs ↔ desc ∈ networksMap

namespace ManagerObjects

def clear (m : ManagerObjects) : ManagerObjects where
  toManager := m.toManager.clear
  networkPtrs := ∅
  nextNetwork := m.nextNetwork
  node_lt p hp := by simp [Manager.Stored, Manager.clear] at hp
  network_lt desc q h := by simp at h
  same_networks desc := by simp [Manager.clear]

/-- `nodes_map[node->getDescription()] = node`. -/
def addNode (m : ManagerObjects) (node : Node) : ManagerObjects where
  toManager := m.toManager.addNode node
  networkPtrs := m.networkPtrs
  nextNetwork := m.nextNetwork
  node_lt := Manager.lt_next_addNode m.node_lt node
  network_lt := m.network_lt
  same_networks := m.same_networks

/-- `networks_map[network->getDescription()] = network`, with what `network` has in the end. -/
def addNetwork (m : ManagerObjects) (network : Network) : ManagerObjects where
  toManager := { m.toManager with
    networksMap := TreeMap.assign m.networksMap network.networkDesc network }
  networkPtrs := TreeMap.assign m.networkPtrs network.networkDesc m.nextNetwork
  nextNetwork := m.nextNetwork + 1
  node_lt := m.node_lt
  network_lt desc q h := by
    rcases TreeMap.mem_toList_assign.1 h with ⟨-, rfl⟩ | ⟨-, hold⟩
    · exact Nat.lt_succ_self _
    · exact Nat.lt_succ_of_lt (m.network_lt desc q hold)
  same_networks desc := by
    simp only [TreeMap.mem_assign, m.same_networks]

end ManagerObjects

/-! ### Every manager has objects -/

namespace Manager

variable {m m' : Manager}

/-- No call stores a node that it has not got from `new` or that was not stored before. -/
theorem lt_next_step {op : Op} (h : ∀ p, m.Stored p → p < m.next) (hstep : m.step op = some m') :
    ∀ p, m'.Stored p → p < m'.next := by
  cases op with
  | createNode desc user =>
    obtain rfl := Option.some_inj.1 hstep
    unfold createNode
    split
    · exact h
    · exact lt_next_addNode h ⟨desc, user⟩
  | removeNode desc =>
    obtain rfl := Option.some_inj.1 hstep
    unfold removeNode
    split
    · intro p hp
      obtain ⟨k, hkp⟩ := stored_iff.1 hp
      exact h p (stored_iff.2 ⟨k, (TreeMap.mem_toList_erase.1 hkp).2⟩)
    · exact h
  | createNetwork desc =>
    obtain rfl := Option.some_inj.1 hstep
    unfold createNetwork
    split <;> exact h
  | removeNetwork desc =>
    obtain rfl := Option.some_inj.1 hstep
    unfold removeNetwork
    split <;> exact h
  | detachNode network node =>
    obtain rfl := Option.some_inj.1 hstep
    unfold onNetwork
    split <;> exact h
  | associateNode network node =>
    obtain ⟨p, -, hp⟩ := Option.bind_eq_some_iff.1 hstep
    obtain rfl := Option.some_inj.1 hp
    unfold onNetwork
    split <;> exact h
  | release node =>
    obtain rfl := Option.some_inj.1 hstep
    exact h
  | setUser node user | setNewDescription node desc | acquire node =>
    obtain ⟨p, -, hp⟩ := Option.bind_eq_some_iff.1 hstep
    obtain rfl := Option.some_inj.1 hp
    exact h

theorem lt_next_run {ops : List Op} (hrun : run {} ops = some m) : ∀ p, m.Stored p → p < m.next :=
  Runs.run_mono (fun _ _ _ h hstep => lt_next_step h hstep) (by simp [Stored]) hrun

/-- What the calls make of a new manager is one with network objects. -/
theorem exists_objects {ops : List Op} (hrun : run {} ops = some m) :
    ∃ objects : ManagerObjects, objects.toManager = m :=
  ⟨{ toManager := m
     networkPtrs := m.networksMap.map fun _ _ => 0
     nextNetwork := 1
     node_lt := lt_next_run hrun
     network_lt := by
       intro desc q h
       simp only [ExtTreeMap.toList_map, List.mem_map] at h
       obtain ⟨e, -, he⟩ := h
       obtain ⟨-, rfl⟩ := Prod.mk.inj he
       exact Nat.one_pos
     same_networks := by simp }, rfl⟩

end Manager

/-! ### The load -/

/-- A count is a text that `stoi` reads. -/
def AbstractSource.count {σ : Type*} (src : AbstractSource σ) (file : σ) : Option (Int × σ) :=
  (src.text file).bind fun (count, file) => (stoi count).map fun nc => (nc, file)

/-- The nodes of a list are associated one by one up to the first that `nodes_map` has not got;
`false` is the `DataException` for that one. -/
def associateKnown (m : Manager) (network : Network) : List NodeDescription → Network × Bool
  | [] => (network, true)
  | desc :: descs =>
    match m.nodesMap[desc]? with
    | some node => associateKnown m (network.associateNode (m.heap node).nodeDesc node) descs
    | none => (network, false)

namespace ManagerObjects

section Load

variable {σ : Type*} (src : AbstractSource σ)

/-- The manager that is left, and what is left of the file unless the loop threw. -/
def loadNodes : Nat → ManagerObjects → σ → ManagerObjects × Option σ
  | 0, m, file => (m, some file)
  | n + 1, m, file =>
    match src.node file with
    | some (node, file) => loadNodes n (m.addNode node) file
    | none => (m, none)

/-- A network is put into the map before its nodes are read, so it is there when they fail. -/
def loadNetworks : Nat → ManagerObjects → σ → ManagerObjects × Option σ
  | 0, m, file => (m, some file)
  | n + 1, m, file =>
    match src.network file with
    | none => (m, none)
    | some (desc, file) =>
      match src.nodes file with
      | none => (m.addNetwork { networkDesc := desc }, none)
      | some (descs, file) =>
        match associateKnown m.toManager { networkDesc := desc } descs with
        | (network, true) => loadNetworks n (m.addNetwork network) file
        | (network, false) => (m.addNetwork network, none)

/-- `source` is what `getSource` gives, `none` when it throws: no file name, or a file that cannot
be opened as an archive. -/
def loadState (m : ManagerObjects) (source : Option σ) : ManagerObjects × Option σ :=
  match source.bind src.count with
  | none => (m.clear, none)
  | some (nc, file) =>
    match loadNodes src nc.toNat m.clear file with
    | (m, none) => (m, none)
    | (m, some file) =>
      match src.count file with
      | none => (m, none)
      | some (nc, file) => loadNetworks src nc.toNat m file

def Throws (m : ManagerObjects) (source : Option σ) : Prop := (m.loadState src source).2.isNone

/-- The file fails before it has given a node or a network. -/
def GivesNothing (source : Option σ) : Prop :=
  match source.bind src.count with
  | none => True
  | some (nc, file) =>
    if 0 < nc then src.node file = none
    else
      match src.count file with
      | none => True
      | some (nc, file) => 0 < nc ∧ src.network file = none

end Load

/-! ### The archive of values -/

/-- A file that gives back the values it was given. -/
def itemSource : AbstractSource (List Item) where
  text
    | .text s :: file => some (s, file)
    | _ => none
  node
    | .node node :: file => some (node, file)
    | _ => none
  network
    | .network desc :: file => some (desc, file)
    | _ => none
  nodes
    | .nodes descs :: file => some (descs, file)
    | _ => none

theorem networkDesc_associateKnown (m : Manager) (descs : List NodeDescription) :
    ∀ network : Network, (associateKnown m network descs).1.networkDesc = network.networkDesc := by
  induction descs with
  | nil =>
    intro network
    rfl
  | cons desc descs ih =>
    intro network
    rw [associateKnown]
    split
    · exact ih _
    · rfl

theorem associateAll_eq (m : Manager) (descs : List NodeDescription) :
    ∀ network : Network, m.associateAll network descs =
      if (associateKnown m network descs).2 then some (associateKnown m network descs).1
      else none := by
  induction descs with
  | nil =>
    intro network
    rfl
  | cons desc descs ih =>
    intro network
    rw [Manager.associateAll, List.foldlM_cons, associateKnown]
    cases hdesc : m.nodesMap[desc]? with
    | none => rfl
    | some node => exact ih _

/-- The manager and the rest of the file of a load that did not throw. -/
def loaded {σ : Type*} (r : ManagerObjects × Option σ) : Option (Manager × σ) :=
  r.2.map fun file => (r.1.toManager, file)

theorem loadNodes_items (n : Nat) :
    ∀ (m : ManagerObjects) (file : List Item),
      Manager.loadNodes n m.toManager file = loaded (loadNodes itemSource n m file) := by
  induction n with
  | zero =>
    intro m file
    rfl
  | succ n ih =>
    intro m file
    match file with
    | .node node :: file => exact ih (m.addNode node) file
    | [] | .text _ :: _ | .network _ :: _ | .nodes _ :: _ => rfl

theorem loadNetworks_items (n : Nat) :
    ∀ (m : ManagerObjects) (file : List Item),
      Manager.loadNetworks n m.toManager file =
        (loaded (loadNetworks itemSource n m file)).map Prod.fst := by
  induction n with
  | zero =>
    intro m file
    rfl
  | succ n ih =>
    intro m file
    match file with
    | .network desc :: .nodes descs :: file =>
      have hdesc := networkDesc_associateKnown m.toManager descs { networkDesc := desc }
      rw [Manager.loadNetworks, associateAll_eq]
      simp only [loadNetworks, itemSource]
      generalize associateKnown m.toManager { networkDesc := desc } descs = r at hdesc
      obtain ⟨network, known⟩ := r
      cases known with
      | false => rfl
      | true =>
        simp only at hdesc
        subst hdesc
        exact ih (m.addNetwork network) file
    | [] | .text _ :: _ | .node _ :: _ | .nodes _ :: _ => rfl
    | [.network _] | .network _ :: .text _ :: _ | .network _ :: .node _ :: _
    | .network _ :: .network _ :: _ => rfl

theorem count_items_text (count : String) (file : List Item) :
    itemSource.count (.text count :: file) = (stoi count).map fun nc => (nc, file) := rfl

/-- With such a file the load does what `Manager.loadState` says, which does not look at what a
failure leaves. -/
theorem loadState_items (m : ManagerObjects) (file : List Item) :
    m.toManager.loadState file =
      (loaded (m.loadState itemSource (some file))).map Prod.fst := by
  match file with
  | .text count :: file =>
    rw [loadState, Option.bind_some, count_items_text, Manager.loadState]
    cases stoi count with
    | none => rfl
    | some nc =>
      have hnodes := loadNodes_items nc.toNat m.clear file
      rw [show m.toManager.clear = m.clear.toManager from rfl]
      simp only [Option.bind_eq_bind, Option.bind_some, Option.map_some, hnodes]
      generalize loadNodes itemSource nc.toNat m.clear file = r
      obtain ⟨m', rest⟩ := r
      rcases rest with _ | _ | ⟨count | _ | _ | _, file⟩
      · rfl
      · rfl
      · simp only [loaded, Option.map_some, Option.bind_some, count_items_text]
        cases stoi count with
        | none => rfl
        | some nc => exact loadNetworks_items nc.toNat m' file
      · rfl
      · rfl
      · rfl
  | [] | .node _ :: _ | .network _ :: _ | .nodes _ :: _ => rfl

/-! ### What a load leaves -/

/-- No node and no network. -/
structure Empty (m : ManagerObjects) : Prop where
  nodes : m.nodesMap = ∅
  networks : m.networkPtrs = ∅

/-- The maps have the same pointers, and behind them are the same nodes, networks and
associations. -/
structure Kept (m m' : ManagerObjects) : Prop where
  nodesMap : m'.nodesMap = m.nodesMap
  networkPtrs : m'.networkPtrs = m.networkPtrs
  networksMap : m'.networksMap = m.networksMap
  heap : ∀ p, m.Stored p → m'.heap p = m.heap p
  associated : ∀ (desc : NetworkDescription) (network : Network), m.networksMap[desc]? = some network →
    m'.associated network = m.associated network

/-- Every object in the maps of `m'` was made when `m` had its addresses. -/
structure NewSince (m m' : ManagerObjects) : Prop where
  next : m.next ≤ m'.next
  nextNetwork : m.nextNetwork ≤ m'.nextNetwork
  nodes : ∀ p, m'.Stored p → m.next ≤ p
  networks : ∀ desc q, (desc, q) ∈ m'.networkPtrs.toList → m.nextNetwork ≤ q

variable {m m' : ManagerObjects} {σ : Type*} {src : AbstractSource σ}

theorem Empty.networksMap (h : m.Empty) : m.networksMap = ∅ := by
  rw [ExtTreeMap.eq_empty_iff_forall_not_mem]
  intro desc hdesc
  have hptr := (m.same_networks desc).2 hdesc
  rw [h.networks] at hptr
  exact ExtTreeMap.not_mem_empty hptr

theorem Empty.not_stored (h : m.Empty) (p : NodePtr) : ¬ m.Stored p := by
  intro hp
  obtain ⟨k, hkp⟩ := Manager.stored_iff.1 hp
  rw [h.nodes, TreeMap.toList_empty] at hkp
  cases hkp

/-! ### What the loops keep -/

theorem loadNodes_keeps (Inv : ManagerObjects → Prop)
    (hadd : ∀ m node, Inv m → Inv (m.addNode node)) (n : Nat) :
    ∀ {m : ManagerObjects} (file : σ), Inv m → Inv (loadNodes src n m file).1 := by
  induction n with
  | zero =>
    intro m file h
    exact h
  | succ n ih =>
    intro m file h
    rw [loadNodes]
    split
    · exact ih _ (hadd _ _ h)
    · exact h

theorem loadNetworks_keeps (Inv : ManagerObjects → Prop)
    (hadd : ∀ m network, Inv m → Inv (m.addNetwork network)) (n : Nat) :
    ∀ {m : ManagerObjects} (file : σ), Inv m → Inv (loadNetworks src n m file).1 := by
  induction n with
  | zero =>
    intro m file h
    exact h
  | succ n ih =>
    intro m file h
    rw [loadNetworks]
    split
    · exact h
    · split
      · exact hadd _ _ h
      · split
        · exact ih _ (hadd _ _ h)
        · exact hadd _ _ h

theorem loadState_keeps (Inv : ManagerObjects → Prop) (source : Option σ) (hclear : Inv m.clear)
    (hnode : ∀ m node, Inv m → Inv (m.addNode node))
    (hnetwork : ∀ m network, Inv m → Inv (m.addNetwork network)) :
    Inv (m.loadState src source).1 := by
  unfold loadState
  split
  · exact hclear
  · rename_i nc file _
    have hnodes : Inv (loadNodes src nc.toNat m.clear file).1 :=
      loadNodes_keeps Inv hnode nc.toNat file hclear
    split
    · rename_i heq
      rw [heq] at hnodes
      exact hnodes
    · rename_i heq
      rw [heq] at hnodes
      split
      · exact hnodes
      · exact loadNetworks_keeps Inv hnetwork _ _ hnodes

/-- The networks are read after the nodes and leave them as they are. -/
theorem loadNetworks_nodesMap (n : Nat) (m : ManagerObjects) (file : σ) :
    (loadNetworks src n m file).1.nodesMap = m.nodesMap :=
  loadNetworks_keeps (fun m' => m'.nodesMap = m.nodesMap) (fun _ _ h => h) n file rfl

/-- A node that is stored is replaced at most. -/
theorem loadNodes_ne_empty (n : Nat) {m : ManagerObjects} (file : σ) (h : m.nodesMap ≠ ∅) :
    (loadNodes src n m file).1.nodesMap ≠ ∅ :=
  loadNodes_keeps (fun m' => m'.nodesMap ≠ ∅) (fun _ _ _ => TreeMap.assign_ne_empty) n file h

theorem loadNetworks_ne_empty (n : Nat) {m : ManagerObjects} (file : σ) (h : m.networkPtrs ≠ ∅) :
    (loadNetworks src n m file).1.networkPtrs ≠ ∅ :=
  loadNetworks_keeps (fun m' => m'.networkPtrs ≠ ∅) (fun _ _ _ => TreeMap.assign_ne_empty) n
    file h

/-! ### What is in the maps is new -/

theorem newSince_clear (m : ManagerObjects) : m.NewSince m.clear where
  next := Nat.le_refl _
  nextNetwork := Nat.le_refl _
  nodes p hp := by simp [Manager.Stored, Manager.clear, clear] at hp
  networks desc q h := by simp [clear] at h

theorem NewSince.addNode (h : m.NewSince m') (node : Node) : m.NewSince (m'.addNode node) where
  next := Nat.le_succ_of_le h.next
  nextNetwork := h.nextNetwork
  nodes p hp := by
    rcases Manager.stored_addNode hp with rfl | hold
    · exact h.next
    · exact h.nodes p hold
  networks := h.networks

theorem NewSince.addNetwork (h : m.NewSince m') (network : Network) :
    m.NewSince (m'.addNetwork network) where
  next := h.next
  nextNetwork := Nat.le_succ_of_le h.nextNetwork
  nodes := h.nodes
  networks desc q hq := by
    rcases TreeMap.mem_toList_assign.1 hq with ⟨-, rfl⟩ | ⟨-, hold⟩
    · exact h.nextNetwork
    · exact h.networks desc q hold

theorem newSince_loadState (m : ManagerObjects) (source : Option σ) :
    m.NewSince (m.loadState src source).1 :=
  loadState_keeps m.NewSince source (newSince_clear m) (fun _ node h => h.addNode node)
    (fun _ network h => h.addNetwork network)

/-! ### A load that gives nothing -/

theorem loadNodes_empty_iff {n : Nat} {file : σ} (h : m.nodesMap = ∅) :
    (loadNodes src n m file).1.nodesMap = ∅ ↔ n = 0 ∨ src.node file = none := by
  cases n with
  | zero => simp [loadNodes, h]
  | succ n =>
    rw [loadNodes]
    cases hread : src.node file with
    | none => simp [h]
    | some r =>
      have hne : (loadNodes src n (m.addNode r.1) r.2).1.nodesMap ≠ ∅ :=
        loadNodes_ne_empty n r.2 TreeMap.assign_ne_empty
      simpa using hne

theorem loadNetworks_empty_iff {n : Nat} {file : σ} (h : m.networkPtrs = ∅) :
    (loadNetworks src n m file).1.networkPtrs = ∅ ↔ n = 0 ∨ src.network file = none := by
  cases n with
  | zero => simp [loadNetworks, h]
  | succ n =>
    rw [loadNetworks]
    cases hread : src.network file with
    | none => simp [h]
    | some r =>
      simp only [reduceCtorEq, Nat.succ_ne_zero, or_self, iff_false]
      split
      · exact TreeMap.assign_ne_empty
      · split
        · exact loadNetworks_ne_empty n _ TreeMap.assign_ne_empty
        · exact TreeMap.assign_ne_empty

theorem empty_clear (m : ManagerObjects) : m.clear.Empty where
  nodes := rfl
  networks := rfl

theorem loadState_nodesMap {source : Option σ} {nc : Int} {file : σ}
    (h : source.bind src.count = some (nc, file)) :
    (m.loadState src source).1.nodesMap = (loadNodes src nc.toNat m.clear file).1.nodesMap := by
  simp only [loadState, h]
  split
  · rename_i heq
    rw [heq]
  · rename_i heq
    rw [heq]
    split
    · rfl
    · exact loadNetworks_nodesMap _ _ _

/-- The second loop, behind a first one that had nothing to do. -/
theorem empty_loadNetworks_iff {nc : Int} {file : σ}
    (h : (loadNetworks src nc.toNat m.clear file).2.isNone) :
    (loadNetworks src nc.toNat m.clear file).1.Empty ↔ 0 < nc ∧ src.network file = none := by
  have hpos : 0 < nc := by
    by_contra hle
    rw [show nc.toNat = 0 by omega, loadNetworks] at h
    cases h
  have hnets : (loadNetworks src nc.toNat m.clear file).1.networkPtrs = ∅ ↔
      nc.toNat = 0 ∨ src.network file = none :=
    loadNetworks_empty_iff (empty_clear m).networks
  constructor
  · intro hempty
    exact ⟨hpos, (hnets.1 hempty.networks).resolve_left (by omega)⟩
  · rintro ⟨-, hfirst⟩
    exact ⟨loadNetworks_nodesMap _ _ _, hnets.2 (.inr hfirst)⟩

theorem empty_loadState_iff {source : Option σ} (h : m.Throws src source) :
    (m.loadState src source).1.Empty ↔ GivesNothing src source := by
  cases hcount : source.bind src.count with
  | none =>
    simp only [GivesNothing, loadState, hcount, iff_true]
    exact empty_clear m
  | some r =>
    obtain ⟨nc, file⟩ := r
    have hnodes : (m.loadState src source).1.nodesMap = ∅ ↔
        nc.toNat = 0 ∨ src.node file = none := by
      rw [loadState_nodesMap hcount]
      exact loadNodes_empty_iff (empty_clear m).nodes
    by_cases hnc : 0 < nc
    · simp only [GivesNothing, hcount, if_pos hnc]
      obtain ⟨n, hn⟩ : ∃ n, nc.toNat = n + 1 := ⟨nc.toNat - 1, by omega⟩
      constructor
      · intro hempty
        exact (hnodes.1 hempty.nodes).resolve_left (by omega)
      · intro hfirst
        simp only [loadState, hcount, hn, loadNodes, hfirst]
        exact empty_clear m
    · have hzero : nc.toNat = 0 := by omega
      simp only [Throws, loadState, hcount, hzero, loadNodes] at h ⊢
      simp only [GivesNothing, hcount, if_neg hnc]
      cases hcount' : src.count file with
      | none =>
        simp only [iff_true]
        exact empty_clear m
      | some r =>
        obtain ⟨nc', file'⟩ := r
        simp only [hcount'] at h
        exact empty_loadNetworks_iff h

/-! ### What a failed load keeps -/

theorem NewSince.empty_of_kept (h : m.NewSince m') (hkept : m.Kept m') : m.Empty := by
  constructor
  · apply ExtTreeMap.toList_eq_nil_iff.1
    apply List.eq_nil_iff_forall_not_mem.2
    rintro ⟨k, p⟩ hkp
    have hold : p < m.next := m.node_lt p (Manager.stored_iff.2 ⟨k, hkp⟩)
    rw [← hkept.nodesMap] at hkp
    exact absurd hold (Nat.not_lt.2 (h.nodes p (Manager.stored_iff.2 ⟨k, hkp⟩)))
  · apply ExtTreeMap.toList_eq_nil_iff.1
    apply List.eq_nil_iff_forall_not_mem.2
    rintro ⟨k, q⟩ hkq
    have hold : q < m.nextNetwork := m.network_lt k q hkq
    rw [← hkept.networkPtrs] at hkq
    exact absurd hold (Nat.not_lt.2 (h.networks k q hkq))

theorem Empty.kept (h : m.Empty) (h' : m'.Empty) : m.Kept m' where
  nodesMap := h'.nodes.trans h.nodes.symm
  networkPtrs := h'.networks.trans h.networks.symm
  networksMap := h'.networksMap.trans h.networksMap.symm
  heap p hp := absurd hp (h.not_stored p)
  associated desc network hn := by
    rw [h.networksMap, ExtTreeMap.getElem?_empty] at hn
    cases hn

theorem NewSince.kept_iff (h : m.NewSince m') : m.Kept m' ↔ m.Empty ∧ m'.Empty := by
  constructor
  · intro hkept
    have hempty := h.empty_of_kept hkept
    exact ⟨hempty, hkept.nodesMap.trans hempty.nodes, hkept.networkPtrs.trans hempty.networks⟩
  · rintro ⟨hempty, hempty'⟩
    exact hempty.kept hempty'

/-- A load that throws leaves none of the nodes and networks of before, and so the maps are as they
were only if there was nothing in them and the file gave nothing. -/
theorem failedLoad_kept_iff (src : AbstractSource σ) (m : ManagerObjects) (source : Option σ)
    (h : m.Throws src source) :
    (∀ p, (m.loadState src source).1.Stored p → ¬ m.Stored p) ∧
      (∀ desc desc' q, (desc, q) ∈ (m.loadState src source).1.networkPtrs.toList →
        (desc', q) ∉ m.networkPtrs.toList) ∧
      (m.Kept (m.loadState src source).1 ↔ m.Empty ∧ GivesNothing src source) := by
  have hnew : m.NewSince (m.loadState src source).1 := newSince_loadState m source
  refine ⟨?_, ?_, ?_⟩
  · intro p hp hold
    exact absurd (m.node_lt p hold) (Nat.not_lt.2 (hnew.nodes p hp))
  · intro desc desc' q hq hold
    exact absurd (m.network_lt desc' q hold) (Nat.not_lt.2 (hnew.networks desc q hq))
  · rw [hnew.kept_iff, empty_loadState_iff h]

/-- A manager as it is constructed. -/
def init : ManagerObjects where
  toManager := {}
  networkPtrs := ∅
  nextNetwork := 0
  node_lt p hp := by simp [Manager.Stored] at hp
  network_lt desc q h := by simp at h
  same_networks desc := by simp

/-- A manager with a node and a network. -/
def stocked : ManagerObjects :=
  (init.addNode default).addNetwork
    { networkDesc := ⟨.PUBLIC, .LISTED, .CLIENT_ONLY, "chess", "net", {}⟩ }

/-- A file of one node that ends there: what there was is gone. -/
theorem failedLoad_kept_truncated :
    let m := (stocked.loadState itemSource (some [.text "1", .node default])).1
    stocked.Throws itemSource (some [.text "1", .node default]) ∧
      (∀ p, m.Stored p → ¬ stocked.Stored p) ∧
      (∀ desc desc' q, (desc, q) ∈ m.networkPtrs.toList → (desc', q) ∉ stocked.networkPtrs.toList) ∧
      ¬ stocked.Kept m := by
  have hone : stoi "1" = some 1 := by decide +kernel
  have hcount (file : List Item) : itemSource.count (.text "1" :: file) = some (1, file) := by
    rw [count_items_text, hone, Option.map_some]
  have hthrows : stocked.Throws itemSource (some [.text "1", .node default]) := by
    rw [Throws, loadState, Option.bind_some, hcount]
    rfl
  obtain ⟨hnodes, hnetworks, hkept⟩ := failedLoad_kept_iff itemSource stocked _ hthrows
  refine ⟨hthrows, hnodes, hnetworks, fun h => ?_⟩
  exact TreeMap.assign_ne_empty (hkept.1 h).1.nodes

/-- A manager with a node, and a data manager that was given no file. -/
theorem failedLoad_loses_node :
    ¬ ∀ (m : ManagerObjects) (source : Option (List Item)), m.Throws itemSource source →
      m.Kept (m.loadState itemSource source).1 := by
  intro h
  have hkept := h (init.addNode default) none rfl
  exact TreeMap.assign_ne_empty hkept.nodesMap.symm

end ManagerObjects

end Sp2p.Sercli
