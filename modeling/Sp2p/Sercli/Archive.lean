import Mathlib.Algebra.Ring.Int.Defs
import Mathlib.Algebra.Ring.Nat
import Mathlib.Data.List.TakeWhile
import Mathlib.Tactic.Common
import Sp2p.Sercli.Manager

/-!
# Saving and loading the manager

`saveState` and `loadState` over a file that gives back the values it was given. The counts are
written as text and read with `stoi`. A node is archived with its own description, which is also the
key it is loaded under; a network lists its nodes by the keys of its map, which are the descriptions
the nodes had when they were associated.

`loadState_saveState` is the round trip: it succeeds when the counts fit in an `int`, no two stored
nodes have one name, and every node a network lists is stored under the name it is listed by.
-/

namespace Sp2p.Sercli

open Std

/-! ### Counts -/

/-- The white space that `strtol` skips. -/
def isSpace (c : Char) : Bool := c.toNat = 32 ∨ 9 ≤ c.toNat ∧ c.toNat ≤ 13

/-- `strtol` behind the white space: a sign, and digits up to the first other character. -/
def strtol : List Char → Option Int
  | '-' :: s => (digits s).map fun n => -(n : Int)
  | '+' :: s => (digits s).map fun n => (n : Int)
  | s => (digits s).map fun n => (n : Int)
where
  digits (s : List Char) : Option Nat :=
    match s.takeWhile Char.isDigit with
    | [] => none
    | ds => some (Nat.ofDigitChars 10 ds 0)

/-- `none` is an `invalid_argument` or an `out_of_range`. -/
def stoi (s : String) : Option Int :=
  (strtol (s.toList.dropWhile isSpace)).filter fun n => -2 ^ 31 ≤ n ∧ n < 2 ^ 31

theorem isSpace_of_isDigit {c : Char} (h : c.isDigit) : isSpace c = false := by
  have hlow : '0'.toNat ≤ c.toNat := (Char.isDigit_iff_toNat.1 h).1
  have hzero : '0'.toNat = 48 := rfl
  simp only [isSpace, decide_eq_false_iff_not]
  omega

theorem strtol_digits {ds : List Char} (hne : ds ≠ []) (hd : ∀ c ∈ ds, c.isDigit) :
    strtol (ds.dropWhile isSpace) = some (Nat.ofDigitChars 10 ds 0 : Int) := by
  have htake : ds.takeWhile Char.isDigit = ds := List.takeWhile_eq_self_iff.2 hd
  cases ds with
  | nil => exact absurd rfl hne
  | cons c cs =>
    have hc : c.isDigit := hd c List.mem_cons_self
    rw [List.dropWhile_cons_of_neg (by simp [isSpace_of_isDigit hc])]
    have hsign : c ≠ '-' ∧ c ≠ '+' := by
      constructor <;> rintro rfl <;> exact absurd hc (by decide)
    simp [strtol, strtol.digits, hsign, htake]

theorem stoi_toString (n : Nat) : stoi (toString n) = if n < 2 ^ 31 then some (n : Int) else none := by
  have hdigits : ∀ c ∈ Nat.toDigits 10 n, c.isDigit := fun c hc =>
    Nat.isDigit_of_mem_toDigits (by decide) (by decide) hc
  rw [stoi, show (toString n).toList = Nat.toDigits 10 n from Nat.toList_repr,
    strtol_digits Nat.toDigits_ne_nil hdigits, Nat.ofDigitChars_ten_toDigits]
  by_cases h : n < 2 ^ 31
  · rw [if_pos h]
    simp
    omega
  · rw [if_neg h]
    simp
    omega

theorem stoi_lt {s : String} {n : Int} (h : stoi s = some n) : n.toNat < 2 ^ 31 := by
  have hrange := of_decide_eq_true (Option.mem_filter_iff.1 h).2
  omega

/-! ### The file -/

/-- What the manager writes to a sink, one value after the other. -/
inductive Item
  | text (s : String)
  | node (node : Node)
  | network (desc : NetworkDescription)
  | nodes (descs : List NodeDescription)
  deriving DecidableEq

/-- `getAssociatedNodes`, the descriptions alone. -/
def Network.relatedNodes (network : Network) : List NodeDescription :=
  network.nodeSet.toList.map Prod.fst

namespace Manager

def storedNodes (m : Manager) : List Node := m.nodesMap.toList.map fun e => m.heap e.2

def saveNetwork (network : Network) : List Item :=
  [.network network.networkDesc, .nodes network.relatedNodes]

def saveState (m : Manager) : List Item :=
  .text (toString m.nodesMap.size) :: (m.storedNodes.map .node ++
    .text (toString m.networksMap.size) :: m.networksMap.toList.flatMap fun e => saveNetwork e.2)

def clear (m : Manager) : Manager := { m with nodesMap := ∅, networksMap := ∅ }

def loadNodes : Nat → Manager → List Item → Option (Manager × List Item)
  | 0, m, file => some (m, file)
  | n + 1, m, .node node :: file => loadNodes n (m.addNode node) file
  | _, _, _ => none

/-- A description the map has not got is the `DataException`. -/
def associateAll (m : Manager) (network : Network) (descs : List NodeDescription) :
    Option Network :=
  descs.foldlM (fun network desc => do
    let node ← m.nodesMap[desc]?
    pure (network.associateNode (m.heap node).nodeDesc node)) network

def loadNetworks : Nat → Manager → List Item → Option Manager
  | 0, m, _ => some m
  | n + 1, m, .network desc :: .nodes descs :: file => do
    let network ← m.associateAll { networkDesc := desc } descs
    loadNetworks n { m with networksMap := TreeMap.assign m.networksMap desc network } file
  | _, _, _ => none

/-- `none` is the `DataException`; what has been loaded until then is not kept here. -/
def loadState (m : Manager) : List Item → Option Manager
  | .text count :: file => do
    let nc ← stoi count
    let (m, file) ← loadNodes nc.toNat m.clear file
    match file with
    | .text count :: file => do
      let nc ← stoi count
      loadNetworks nc.toNat m file
    | _ => none
  | _ => none

/-- The nodes behind the pointers of a network that are still of use, each with whether it is one of
the manager's. -/
def associated (m : Manager) (network : Network) : List (Node × Bool) :=
  network.nodeSet.toList.filterMap fun e => (m.lock e.2).map fun p => (m.heap p, decide (m.Stored p))

/-- The same nodes, the same networks, and in every network the same nodes. -/
structure Same (m m' : Manager) : Prop where
  nodes : m'.storedNodes.Perm m.storedNodes
  networks : ∀ desc : NetworkDescription,
    Option.Rel (fun network' network => network'.networkDesc = network.networkDesc ∧
      (m'.associated network').Perm (m.associated network))
      m'.networksMap[desc]? m.networksMap[desc]?

/-- What `m` has saved is loaded by any manager. -/
def RoundTrip (m : Manager) : Prop :=
  ∀ m₀ : Manager, ∃ m', m₀.loadState m.saveState = some m' ∧ m.Same m'

/-- The nodes of a network are nodes of the manager, under the names they are listed by. -/
def Resolved (m : Manager) (network : Network) : Prop :=
  ∀ k p, (k, p) ∈ network.nodeSet.toList →
    m.Stored p ∧ (m.heap p).nodeDesc.nodeName = k.nodeName

/-- What makes a manager one that can be saved and loaded. -/
structure Settled (m : Manager) : Prop where
  fewNodes : m.nodesMap.size < 2 ^ 31
  fewNetworks : m.networksMap.size < 2 ^ 31
  allocated : ∀ p, m.Stored p → p < m.next
  ownNames : ∀ k k' p p', (k, p) ∈ m.nodesMap.toList → (k', p') ∈ m.nodesMap.toList →
    (m.heap p).nodeDesc.nodeName = (m.heap p').nodeDesc.nodeName → (k, p) = (k', p')
  ownDesc : ∀ desc network, (desc, network) ∈ m.networksMap.toList →
    network.networkDesc.networkName = desc.networkName
  resolved : ∀ desc network, (desc, network) ∈ m.networksMap.toList → m.Resolved network

variable {m m' : Manager}

theorem stored_iff {p : NodePtr} : m.Stored p ↔ ∃ k, (k, p) ∈ m.nodesMap.toList := by
  simp only [Stored, List.mem_map, Prod.exists, exists_eq_right]

theorem lock_of_stored {p : NodePtr} (h : m.Stored p) : m.lock p = some p := by
  rw [lock, if_pos (.inr h)]

theorem lock_eq {p q : NodePtr} (h : m.lock p = some q) : p = q := by
  unfold lock at h
  split at h
  · exact Option.some_inj.1 h
  · cases h

theorem associated_of_stored {network : Network}
    (h : ∀ k p, (k, p) ∈ network.nodeSet.toList → m.Stored p) :
    m.associated network = network.nodeSet.toList.map fun e => (m.heap e.2, true) := by
  rw [associated, ← List.filterMap_eq_map]
  refine List.filterMap_congr fun e he => ?_
  rw [lock_of_stored (h e.1 e.2 he)]
  simp [h e.1 e.2 he]

theorem length_storedNodes (m : Manager) : m.storedNodes.length = m.nodesMap.size := by
  rw [storedNodes, List.length_map, Std.ExtTreeMap.length_toList]

theorem mem_storedNodes {p : NodePtr} (h : m.Stored p) : m.heap p ∈ m.storedNodes := by
  obtain ⟨k, hk⟩ := stored_iff.1 h
  exact List.mem_map.2 ⟨(k, p), hk, rfl⟩

/-! ### Loading the nodes -/

/-- Every node of the manager is stored under its own name. -/
structure Keyed (m : Manager) : Prop where
  ownKey : ∀ k p, (k, p) ∈ m.nodesMap.toList → (m.heap p).nodeDesc.nodeName = k.nodeName
  allocated : ∀ p, m.Stored p → p < m.next

theorem Keyed.ownNames (h : m.Keyed) {k k' : NodeDescription} {p p' : NodePtr}
    (hkp : (k, p) ∈ m.nodesMap.toList) (hkp' : (k', p') ∈ m.nodesMap.toList)
    (hname : (m.heap p).nodeDesc.nodeName = (m.heap p').nodeDesc.nodeName) :
    (k, p) = (k', p') := by
  rw [h.ownKey k p hkp, h.ownKey k' p' hkp'] at hname
  obtain ⟨hk, hp⟩ := TreeMap.entry_unique hkp hkp' (NodeDescription.compare_eq.2 hname)
  rw [hk, hp]

theorem keyed_clear (m : Manager) : m.clear.Keyed where
  ownKey := by simp [clear]
  allocated := by simp [clear, stored_iff]

theorem heap_addNode_next (m : Manager) (node : Node) : (m.addNode node).heap m.next = node :=
  Function.update_self _ _ _

theorem heap_addNode (node : Node) {p : NodePtr} (h : p < m.next) :
    (m.addNode node).heap p = m.heap p :=
  Function.update_of_ne (Nat.ne_of_lt h) _ _

/-- The new entry has the name of the node, whatever the rest of its key is. -/
theorem entry_addNode {node : Node} {k : NodeDescription} {p : NodePtr}
    (h : (k, p) ∈ (m.addNode node).nodesMap.toList) :
    k.nodeName = node.nodeDesc.nodeName ∧ p = m.next ∨ (k, p) ∈ m.nodesMap.toList := by
  rcases TreeMap.mem_toList_assign.1 h with ⟨rfl, rfl⟩ | ⟨-, hold⟩
  · exact .inl ⟨NodeDescription.compare_eq.1 (TreeMap.compare_getKeyD _ _), rfl⟩
  · exact .inr hold

theorem stored_addNode {node : Node} {p : NodePtr} (h : (m.addNode node).Stored p) :
    p = m.next ∨ m.Stored p := by
  obtain ⟨k, hkp⟩ := stored_iff.1 h
  rcases entry_addNode hkp with ⟨-, hnew⟩ | hold
  · exact .inl hnew
  · exact .inr (stored_iff.2 ⟨k, hold⟩)

theorem lt_next_addNode (h : ∀ p, m.Stored p → p < m.next) (node : Node) :
    ∀ p, (m.addNode node).Stored p → p < (m.addNode node).next := by
  intro p hp
  rcases stored_addNode hp with rfl | hold
  · exact Nat.lt_succ_self _
  · exact Nat.lt_succ_of_lt (h p hold)

theorem Keyed.addNode (h : m.Keyed) (node : Node) : (m.addNode node).Keyed where
  ownKey k p hkp := by
    rcases entry_addNode hkp with ⟨hk, rfl⟩ | hold
    · rw [heap_addNode_next, hk]
    · rw [heap_addNode node (h.allocated p (stored_iff.2 ⟨k, hold⟩))]
      exact h.ownKey k p hold
  allocated := lt_next_addNode h.allocated node

/-- The manager holds these nodes. -/
structure Loaded (m : Manager) (ns : List Node) : Prop extends Keyed m where
  nodes : m.storedNodes.Perm ns

theorem Loaded.find {ns : List Node} (h : m.Loaded ns) {node : Node} (hmem : node ∈ ns)
    {desc : NodeDescription} (hname : node.nodeDesc.nodeName = desc.nodeName) :
    ∃ k p, (k, p) ∈ m.nodesMap.toList ∧ m.nodesMap[desc]? = some p ∧ m.heap p = node := by
  obtain ⟨⟨k, p⟩, hkp, hheap⟩ := List.mem_map.1 (h.nodes.mem_iff.2 hmem)
  have hkey := h.ownKey k p hkp
  refine ⟨k, p, hkp, TreeMap.getElem?_eq_some_of_entry hkp ?_, hheap⟩
  rw [NodeDescription.compare_eq, ← hkey, hheap, hname]

theorem Loaded.not_mem {ns : List Node} (h : m.Loaded ns) {desc : NodeDescription}
    (hname : ∀ node ∈ ns, node.nodeDesc.nodeName ≠ desc.nodeName) : desc ∉ m.nodesMap := by
  refine TreeMap.not_mem_iff.2 fun k p hkp heq => ?_
  refine hname (m.heap p) (h.nodes.mem_iff.1 (mem_storedNodes (stored_iff.2 ⟨k, hkp⟩))) ?_
  rw [h.ownKey k p hkp, NodeDescription.compare_eq.1 heq]

theorem loaded_clear (m : Manager) : m.clear.Loaded [] where
  toKeyed := keyed_clear m
  nodes := by simp [storedNodes, clear]

theorem Loaded.addNode {ns : List Node} (h : m.Loaded ns) {node : Node}
    (hname : ∀ x ∈ ns, x.nodeDesc.nodeName ≠ node.nodeDesc.nodeName) :
    (m.addNode node).Loaded (node :: ns) where
  toKeyed := h.toKeyed.addNode node
  nodes := by
    have hsame : m.nodesMap.toList.map (fun e => (m.addNode node).heap e.2) = m.storedNodes :=
      List.map_congr_left fun e he => heap_addNode node (h.allocated e.2 (stored_iff.2 ⟨e.1, he⟩))
    have hperm := (TreeMap.toList_assign_perm (v := m.next) (h.not_mem hname)).map
      fun e => (m.addNode node).heap e.2
    rw [List.map_cons, heap_addNode_next, hsame] at hperm
    exact hperm.trans (h.nodes.cons node)

/-- Nodes of different names, read one after the other. -/
theorem Loaded.foldl_addNode (ns : List Node) :
    ∀ {m : Manager} {ms : List Node}, m.Loaded ms →
      (ns ++ ms).Pairwise (fun x y => x.nodeDesc.nodeName ≠ y.nodeDesc.nodeName) →
      (ns.foldl Manager.addNode m).Loaded (ns ++ ms) := by
  induction ns with
  | nil =>
    intro m ms h _
    exact h
  | cons node ns ih =>
    intro m ms h hdist
    obtain ⟨hhead, htail⟩ := List.pairwise_cons.1 hdist
    have hnew : ∀ x ∈ ms, x.nodeDesc.nodeName ≠ node.nodeDesc.nodeName := fun x hx =>
      (hhead x (List.mem_append_right ns hx)).symm
    have hdist' : (ns ++ node :: ms).Pairwise
        (fun x y => x.nodeDesc.nodeName ≠ y.nodeDesc.nodeName) :=
      (List.perm_middle.pairwise_iff fun h => h.symm).2 hdist
    have hrest := ih (h.addNode hnew) hdist'
    exact ⟨hrest.toKeyed, hrest.nodes.trans List.perm_middle⟩

theorem loadNodes_map (ns : List Node) :
    ∀ (m : Manager) (rest : List Item),
      loadNodes ns.length m (ns.map .node ++ rest) = some (ns.foldl addNode m, rest) := by
  induction ns with
  | nil =>
    intro m rest
    rfl
  | cons node ns ih =>
    intro m rest
    exact ih (m.addNode node) rest

/-- Whatever nodes are read, each is stored under its own name. -/
theorem loadNodes_spec {n : Nat} :
    ∀ {m : Manager} {file : List Item} {r : Manager × List Item}, m.Keyed →
      loadNodes n m file = some r →
      r.1.Keyed ∧ r.1.nodesMap.size ≤ m.nodesMap.size + n ∧ r.1.networksMap = m.networksMap := by
  induction n with
  | zero =>
    intro m file r h hload
    obtain rfl := Option.some_inj.1 hload
    exact ⟨h, Nat.le_refl _, rfl⟩
  | succ n ih =>
    intro m file r h hload
    match file, hload with
    | .node node :: file, hload =>
      obtain ⟨hkeyed, hsize, hnets⟩ := ih (h.addNode node) hload
      have hone : (m.addNode node).nodesMap.size ≤ m.nodesMap.size + 1 := TreeMap.size_assign_le
      exact ⟨hkeyed, by omega, hnets⟩

/-! ### Loading the networks -/

theorem Resolved.associateNode {network : Network} (h : m.Resolved network) {p : NodePtr}
    (hp : m.Stored p) : m.Resolved (network.associateNode (m.heap p).nodeDesc p) := by
  intro k q hkq
  rcases TreeMap.mem_toList_insertIfNew.1 hkq with hold | ⟨rfl, rfl, -⟩
  · exact h k q hold
  · exact ⟨hp, rfl⟩

/-- A listing that is read at all is resolved, and each description of it is found. -/
theorem associateAll_spec {descs : List NodeDescription} :
    ∀ {network network' : Network}, m.Resolved network →
      m.associateAll network descs = some network' →
      m.Resolved network' ∧ network'.networkDesc = network.networkDesc ∧
        ∀ desc ∈ descs, desc ∈ m.nodesMap := by
  induction descs with
  | nil =>
    intro network network' h hrun
    obtain rfl := Option.some_inj.1 hrun
    exact ⟨h, rfl, by simp⟩
  | cons desc descs ih =>
    intro network network' h hrun
    rw [associateAll, List.foldlM_cons] at hrun
    obtain ⟨next, hnext, hrest⟩ := Option.bind_eq_some_iff.1 hrun
    obtain ⟨p, hp, hpure⟩ := Option.bind_eq_some_iff.1 hnext
    obtain rfl := Option.some_inj.1 hpure
    obtain ⟨k, -, hkp⟩ :=
      Std.ExtTreeMap.getElem?_eq_some_iff_exists_compare_eq_eq_and_mem_toList.1 hp
    obtain ⟨hresolved, hdesc, hfound⟩ := ih (h.associateNode (stored_iff.2 ⟨k, hkp⟩)) hrest
    refine ⟨hresolved, hdesc, ?_⟩
    intro d hd
    rcases List.mem_cons.1 hd with rfl | hd
    · exact Std.ExtTreeMap.mem_iff_isSome_getElem?.2 (by rw [hp]; rfl)
    · exact hfound d hd

/-- A listing whose nodes the manager holds under the names listed is associated again. -/
theorem Loaded.associateAll {ns : List Node} (h : m.Loaded ns) (l : List (NodeDescription × Node)) :
    ∀ network : Network,
      (∀ e ∈ l, e.2 ∈ ns ∧ e.2.nodeDesc.nodeName = e.1.nodeName) →
      l.Pairwise (fun x y => x.1.nodeName ≠ y.1.nodeName) →
      (∀ e ∈ l, e.1 ∉ network.nodeSet) →
      (∀ k p, (k, p) ∈ network.nodeSet.toList → m.Stored p) →
      ∃ network', m.associateAll network (l.map Prod.fst) = some network' ∧
        network'.networkDesc = network.networkDesc ∧
        (m.associated network').Perm (l.map (fun e => (e.2, true)) ++ m.associated network) := by
  induction l with
  | nil =>
    intro network _ _ _ _
    exact ⟨network, rfl, rfl, List.Perm.refl _⟩
  | cons e l ih =>
    intro network hin hdist hnew hstored
    obtain ⟨hhead, htail⟩ := List.pairwise_cons.1 hdist
    obtain ⟨hmem, hname⟩ := hin e List.mem_cons_self
    obtain ⟨k, p, hkp, hp, hheap⟩ := h.find hmem hname
    have hkey : compare e.1 e.2.nodeDesc = .eq := NodeDescription.compare_eq.2 hname.symm
    have hnot : e.2.nodeDesc ∉ network.nodeSet := fun hc =>
      hnew e List.mem_cons_self ((Std.ExtTreeMap.mem_congr hkey).2 hc)
    let next := network.associateNode e.2.nodeDesc p
    have hset : next.nodeSet = network.nodeSet.insert e.2.nodeDesc p :=
      TreeMap.insertIfNew_of_not_mem hnot
    have hstored' : ∀ k q, (k, q) ∈ next.nodeSet.toList → m.Stored q := by
      intro k' q hkq
      rw [hset, TreeMap.mem_toList_insert_of_not_mem hnot] at hkq
      rcases hkq with ⟨-, rfl⟩ | hkq
      · exact stored_iff.2 ⟨k, hkp⟩
      · exact hstored k' q hkq
    have hnew' : ∀ x ∈ l, x.1 ∉ next.nodeSet := by
      intro x hx hc
      rw [hset, Std.ExtTreeMap.mem_insert] at hc
      rcases hc with hc | hc
      · rw [NodeDescription.compare_eq, hname] at hc
        exact hhead x hx hc
      · exact hnew x (List.mem_cons_of_mem e hx) hc
    obtain ⟨network', hrun, hdesc, hperm⟩ :=
      ih next (fun x hx => hin x (List.mem_cons_of_mem e hx)) htail hnew' hstored'
    refine ⟨network', ?_, hdesc, ?_⟩
    · rw [List.map_cons, Manager.associateAll, List.foldlM_cons, hp]
      simp only [Option.bind_eq_bind, Option.bind_some, Option.pure_def, hheap]
      exact hrun
    · have hone : (m.associated next).Perm ((e.2, true) :: m.associated network) := by
        rw [associated_of_stored hstored', associated_of_stored hstored, hset]
        have := (TreeMap.toList_insert_perm (v := p) hnot).map fun x => (m.heap x.2, true)
        rwa [List.map_cons, hheap] at this
      rw [List.map_cons]
      exact (hperm.trans (hone.append_left _)).trans List.perm_middle

theorem loadNetworks_flatMap (f : Network → Network) (l : List (NetworkDescription × Network)) :
    ∀ m : Manager,
      (∀ e ∈ l, m.associateAll { networkDesc := e.2.networkDesc } e.2.relatedNodes = some (f e.2)) →
      loadNetworks l.length m (l.flatMap fun e => saveNetwork e.2) =
        some { m with
          networksMap := l.foldl (fun acc e => TreeMap.assign acc e.2.networkDesc (f e.2))
            m.networksMap } := by
  induction l with
  | nil =>
    intro m _
    rfl
  | cons e l ih =>
    intro m h
    rw [List.flatMap_cons, saveNetwork, List.length_cons]
    simp only [List.cons_append, List.nil_append, loadNetworks, h e List.mem_cons_self,
      Option.bind_eq_bind, Option.bind_some]
    exact ih _ fun x hx => h x (List.mem_cons_of_mem e hx)

/-- Only the networks change; each is read under its own name and is resolved. -/
theorem loadNetworks_spec {n : Nat} :
    ∀ {m m' : Manager} {file : List Item},
      (∀ desc network, (desc, network) ∈ m.networksMap.toList →
        network.networkDesc.networkName = desc.networkName ∧ m.Resolved network) →
      loadNetworks n m file = some m' →
      ∃ networks, m' = { m with networksMap := networks } ∧
        networks.size ≤ m.networksMap.size + n ∧
        ∀ desc network, (desc, network) ∈ networks.toList →
          network.networkDesc.networkName = desc.networkName ∧ m.Resolved network := by
  induction n with
  | zero =>
    intro m m' file h hload
    obtain rfl := Option.some_inj.1 hload
    exact ⟨m.networksMap, rfl, Nat.le_refl _, h⟩
  | succ n ih =>
    intro m m' file h hload
    match file, hload with
    | .network desc :: .nodes descs :: file, hload =>
      obtain ⟨network, hrun, hrest⟩ := Option.bind_eq_some_iff.1 hload
      obtain ⟨hresolved, hdesc, -⟩ := associateAll_spec (fun k p hkp => by simp at hkp) hrun
      obtain ⟨networks, heq, hsize, hall⟩ := ih (by
        intro d nw hmem
        rcases TreeMap.mem_toList_assign.1 hmem with ⟨rfl, rfl⟩ | ⟨-, hold⟩
        · refine ⟨?_, hresolved⟩
          rw [hdesc]
          exact (NetworkDescription.compare_eq.1 (TreeMap.compare_getKeyD _ _)).symm
        · exact h d nw hold) hrest
      have hone : (TreeMap.assign m.networksMap desc network).size ≤ m.networksMap.size + 1 :=
        TreeMap.size_assign_le
      refine ⟨networks, heq, ?_, hall⟩
      exact Nat.le_trans hsize (by simp only; omega)

/-! ### The round trip -/

/-- Counts that fit are read back, and the nodes are loaded; the rest is left to the networks. -/
theorem loadState_saveState_eq (m₀ : Manager) (hn : m.nodesMap.size < 2 ^ 31)
    (hk : m.networksMap.size < 2 ^ 31) :
    m₀.loadState m.saveState =
      loadNetworks m.networksMap.size (m.storedNodes.foldl addNode m₀.clear)
        (m.networksMap.toList.flatMap fun e => saveNetwork e.2) := by
  simp only [loadState, saveState, stoi_toString, if_pos hn, Option.bind_eq_bind,
    Option.bind_some, Int.toNat_natCast]
  rw [← length_storedNodes, loadNodes_map]
  simp only [Option.bind_some, stoi_toString, if_pos hk, Int.toNat_natCast]

/-- Whatever file a manager has loaded, it can be saved and loaded again. -/
theorem settled_of_loadState {m₀ : Manager} {file : List Item} (h : m₀.loadState file = some m) :
    m.Settled := by
  match file, h with
  | .text count :: file, h =>
    obtain ⟨nc, hnc, h⟩ := Option.bind_eq_some_iff.1 h
    obtain ⟨⟨m₁, file⟩, hnodes, h⟩ := Option.bind_eq_some_iff.1 h
    obtain ⟨hkeyed, hsize, hnets⟩ := loadNodes_spec (keyed_clear m₀) hnodes
    match file, h with
    | .text count' :: file, h =>
      obtain ⟨nc', hnc', h⟩ := Option.bind_eq_some_iff.1 h
      have hempty : m₁.networksMap = ∅ := hnets
      obtain ⟨networks, rfl, hfew, hall⟩ :=
        loadNetworks_spec (by simp [hempty]) h
      have hn := stoi_lt hnc
      have hk := stoi_lt hnc'
      rw [hempty, Std.ExtTreeMap.size_empty, Nat.zero_add] at hfew
      have hn' : m₁.nodesMap.size ≤ nc.toNat := by simpa [clear] using hsize
      exact {
        fewNodes := Nat.lt_of_le_of_lt hn' hn
        fewNetworks := Nat.lt_of_le_of_lt hfew hk
        allocated := hkeyed.allocated
        ownNames := fun k k' p p' hkp hkp' => hkeyed.ownNames hkp hkp'
        ownDesc := fun desc network hmem => (hall desc network hmem).1
        resolved := fun desc network hmem => (hall desc network hmem).2 }

theorem Settled.pairwise_storedNodes (h : m.Settled) :
    m.storedNodes.Pairwise (fun x y => x.nodeDesc.nodeName ≠ y.nodeDesc.nodeName) := by
  rw [storedNodes, List.pairwise_map]
  refine TreeMap.nodup_toList.imp_of_mem fun {e e'} he he' hne hname => hne ?_
  exact h.ownNames e.1 e'.1 e.2 e'.2 he he' hname

/-- A network whose nodes are the manager's is restored once the nodes are there. -/
theorem Resolved.restores {network : Network} (hres : m.Resolved network)
    (hl : m'.Loaded m.storedNodes) :
    ∃ network', m'.associateAll { networkDesc := network.networkDesc } network.relatedNodes =
        some network' ∧
      network'.networkDesc = network.networkDesc ∧
      (m'.associated network').Perm (m.associated network) := by
  obtain ⟨network', hrun, hdesc, hperm⟩ :=
    hl.associateAll (network.nodeSet.toList.map fun e => (e.1, m.heap e.2))
      { networkDesc := network.networkDesc }
      (by
        intro e he
        obtain ⟨⟨k, p⟩, hkp, rfl⟩ := List.mem_map.1 he
        obtain ⟨hstored, hname⟩ := hres k p hkp
        exact ⟨mem_storedNodes hstored, hname⟩)
      (by
        rw [List.pairwise_map]
        refine Std.ExtTreeMap.distinct_keys_toList.imp fun hne hname => hne ?_
        exact NodeDescription.compare_eq.2 hname)
      (fun _ _ => Std.ExtTreeMap.not_mem_empty)
      (by simp)
  refine ⟨network', ?_, hdesc, ?_⟩
  · rw [List.map_map] at hrun
    exact hrun
  · rw [List.map_map] at hperm
    rw [associated_of_stored fun k p hkp => (hres k p hkp).1]
    simpa [associated, Function.comp_def] using hperm

theorem Settled.roundTrip (h : m.Settled) : m.RoundTrip := by
  intro m₀
  let m₁ := m.storedNodes.foldl addNode m₀.clear
  have hloaded : m₁.Loaded m.storedNodes := by
    have := (loaded_clear m₀).foldl_addNode m.storedNodes
      (by rw [List.append_nil]; exact h.pairwise_storedNodes)
    rwa [List.append_nil] at this
  let f (network : Network) : Network :=
    (m₁.associateAll { networkDesc := network.networkDesc } network.relatedNodes).getD network
  have hf : ∀ desc network, (desc, network) ∈ m.networksMap.toList →
      m₁.associateAll { networkDesc := network.networkDesc } network.relatedNodes =
        some (f network) ∧
      (f network).networkDesc = network.networkDesc ∧
      (m₁.associated (f network)).Perm (m.associated network) := by
    intro desc network he
    obtain ⟨network', hrun, hdesc, hperm⟩ := (h.resolved desc network he).restores hloaded
    have hfe : f network = network' := by
      simp only [f]
      rw [hrun, Option.getD_some]
    rw [hfe]
    exact ⟨hrun, hdesc, hperm⟩
  have hnets := loadNetworks_flatMap f m.networksMap.toList m₁ fun e he => (hf e.1 e.2 he).1
  have hempty : m₁.networksMap = ∅ := (loadNodes_spec (keyed_clear m₀)
    (loadNodes_map m.storedNodes m₀.clear [])).2.2
  rw [hempty, Std.ExtTreeMap.length_toList] at hnets
  refine ⟨_, (loadState_saveState_eq m₀ h.fewNodes h.fewNetworks).trans hnets, hloaded.nodes,
    fun desc => ?_⟩
  rw [TreeMap.getElem?_foldl_assign_toList (fun e he => NetworkDescription.compare_eq.2
    (h.ownDesc e.1 e.2 he)) f (fun _ _ => rfl) desc]
  cases hget : m.networksMap[desc]? with
  | none => exact Option.Rel.none
  | some network =>
    obtain ⟨k, -, he⟩ :=
      Std.ExtTreeMap.getElem?_eq_some_iff_exists_compare_eq_eq_and_mem_toList.1 hget
    exact Option.Rel.some (hf k network he).2

end Manager

end Sp2p.Sercli
