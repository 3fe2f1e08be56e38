import Sp2p.Lib.Runs
import Sp2p.Sercli.Archive

/-!
# The nodes of a network

A network keeps its nodes by weak pointers under their descriptions, and a pointer can expire behind its
back. `isActive` erases what has expired; `associateNode` does not, and `insert` leaves the entry that is
there. `takesEffect_iff_fresh` says along which runs every association takes effect.
-/

namespace Sp2p.Sercli

open Std

namespace Network

variable (lock : NodePtr → Option NodePtr) (active : NodePtr → Bool)

/-- The body of the loop of `clearExpiredNodes`. -/
def eraseExpired (network : Network) (it : NodeDescription × NodePtr) : Network :=
  if lock it.2 = none then { network with nodeSet := network.nodeSet.erase it.1 } else network

/-- Nothing calls it. -/
def clearExpiredNodes (network : Network) : Network :=
  network.nodeSet.toList.foldl (eraseExpired lock) network

/-- The body of the loop of `isActive`; `active` says which nodes are. -/
def visit (r : Bool × Network) (it : NodeDescription × NodePtr) : Bool × Network :=
  match lock it.2 with
  | none => (r.1, { r.2 with nodeSet := r.2.nodeSet.erase it.1 })
  | some node => (r.1 || active node, r.2)

def isActive (network : Network) : Bool × Network :=
  network.nodeSet.toList.foldl (visit lock active) (false, network)

variable {lock active} {network : Network}

/-- The sibling erases the same entries. -/
theorem isActive_snd : (network.isActive lock active).2 = network.clearExpiredNodes lock := by
  refine (List.foldl_hom Prod.snd fun r it => ?_).symm
  unfold visit eraseExpired
  cases lock it.2 with
  | none => rfl
  | some node => rfl

/-- What has expired is gone, and nothing else. -/
theorem mem_nodeSet_isActive {k : NodeDescription} {q : NodePtr} :
    (k, q) ∈ (network.isActive lock active).2.nodeSet.toList ↔
      (k, q) ∈ network.nodeSet.toList ∧ lock q ≠ none := by
  have hloop : (network.clearExpiredNodes lock).nodeSet =
      network.nodeSet.toList.foldl (fun t it => if lock it.2 = none then t.erase it.1 else t)
        network.nodeSet := by
    refine (List.foldl_hom Network.nodeSet fun network it => ?_).symm
    unfold eraseExpired
    split
    · rfl
    · rfl
  rw [isActive_snd, hloop]
  exact TreeMap.mem_toList_foldl_erase_toList

end Network

/-- The nodes, as the manager and the callers own them, and a network that somebody holds. The networks
of the manager are others. -/
structure NetworkNodes where
  manager : Manager := {}
  network : Network

namespace NetworkNodes

inductive Event
  /-- Nodes are created, removed, described anew, acquired and released. -/
  | manager (op : Manager.Op)
  | associateNode (node : NodePtr)
  | detachNode (desc : NodeDescription)
  /-- `active` says which nodes are. -/
  | isActive (active : NodePtr → Bool)

def step (s : NetworkNodes) : Event → Option NetworkNodes
  | .manager op => (s.manager.step op).map fun manager => { s with manager }
  | .associateNode node => do
    let node ← s.manager.lock node
    some { s with network := s.network.associateNode (s.manager.heap node).nodeDesc node }
  | .detachNode desc => some { s with network := s.network.detachNode desc }
  | .isActive active => some { s with network := (s.network.isActive s.manager.lock active).2 }

def start (networkDesc : NetworkDescription) : NetworkNodes := { network := { networkDesc } }

/-- The description of the node is mapped to a pointer that locks to it, and the entries of other names
are as they were. -/
structure TakesEffect (s s' : NetworkNodes) (node : NodePtr) : Prop where
  own : ∃ q, s'.network.nodeSet[(s.manager.heap node).nodeDesc]? = some q ∧
    s'.manager.lock q = some node
  others : ∀ (k : NodeDescription) (q : NodePtr), k.nodeName ≠ (s.manager.heap node).nodeDesc.nodeName →
    ((k, q) ∈ s'.network.nodeSet.toList ↔ (k, q) ∈ s.network.nodeSet.toList)

/-- No entry under the name of the node points to another. -/
def Fresh (s : NetworkNodes) (node : NodePtr) : Prop :=
  ∀ q, s.network.nodeSet[(s.manager.heap node).nodeDesc]? = some q → q = node

variable {s s' : NetworkNodes} {node : NodePtr}

/-! ### One association -/

theorem step_associateNode (h : s.step (.associateNode node) = some s') :
    s.manager.lock node = some node ∧
      s' = { s with network := s.network.associateNode (s.manager.heap node).nodeDesc node } := by
  obtain ⟨p, hp, hs'⟩ := Option.bind_eq_some_iff.1 h
  obtain rfl := Manager.lock_eq hp
  exact ⟨hp, (Option.some_inj.1 hs').symm⟩

/-- **One association** of a live node takes effect exactly when its name is not taken by another. -/
theorem takesEffect_associateNode_iff (h : s.step (.associateNode node) = some s') :
    TakesEffect s s' node ↔ s.Fresh node := by
  obtain ⟨hlive, rfl⟩ := step_associateNode h
  constructor
  · intro heffect q hq
    obtain ⟨q', hq', hlock⟩ := heffect.own
    replace hq' : (s.network.nodeSet.insertIfNew (s.manager.heap node).nodeDesc node)[
        (s.manager.heap node).nodeDesc]? = some q' := hq'
    have htaken : (s.manager.heap node).nodeDesc ∈ s.network.nodeSet := by
      rw [ExtTreeMap.mem_iff_isSome_getElem?, hq]
      rfl
    rw [ExtTreeMap.getElem?_insertIfNew, if_neg fun hnew => hnew.2 htaken, hq] at hq'
    obtain rfl := Option.some_inj.1 hq'
    exact Manager.lock_eq hlock
  · intro hfresh
    refine ⟨⟨node, ?_, hlive⟩, ?_⟩
    · show (s.network.nodeSet.insertIfNew (s.manager.heap node).nodeDesc node)[
        (s.manager.heap node).nodeDesc]? = some node
      rw [ExtTreeMap.getElem?_insertIfNew]
      split
      · rfl
      · rename_i htaken
        have hmem : (s.manager.heap node).nodeDesc ∈ s.network.nodeSet := by
          by_contra hnot
          exact htaken ⟨ReflCmp.compare_self, hnot⟩
        obtain ⟨q, hq⟩ := Option.isSome_iff_exists.1 (ExtTreeMap.mem_iff_isSome_getElem?.1 hmem)
        rw [hq, hfresh q hq]
    · intro k q hk
      refine TreeMap.mem_toList_insertIfNew.trans (or_iff_left ?_)
      rintro ⟨rfl, -, -⟩
      exact hk rfl

/-- `isActive` leaves a name taken only by another that is live. -/
theorem fresh_isActive_iff {active : NodePtr → Bool} (h : s.step (.isActive active) = some s') :
    s'.Fresh node ↔ ∀ q, s.network.nodeSet[(s.manager.heap node).nodeDesc]? = some q →
      s.manager.lock q ≠ none → q = node := by
  obtain rfl := Option.some_inj.1 h
  simp only [Fresh, ExtTreeMap.getElem?_eq_some_iff_exists_compare_eq_eq_and_mem_toList,
    Network.mem_nodeSet_isActive]
  constructor
  · rintro hfresh q ⟨k, heq, hk⟩ hlive
    exact hfresh q ⟨k, heq, hk, hlive⟩
  · rintro hfresh q ⟨k, heq, hk, hlive⟩
    exact hfresh q ⟨k, heq, hk⟩ hlive

/-! ### Runs -/

/-- **Along a run, every association takes effect exactly when none finds the name of its node taken by
the pointer of another, expired or not.** -/
theorem takesEffect_iff_fresh (networkDesc : NetworkDescription) (es : List Event) :
    (∀ part node s s', part ++ [.associateNode node] <+: es →
      Runs.run step (start networkDesc) part = some s → s.step (.associateNode node) = some s' →
        TakesEffect s s' node) ↔
      ∀ part node s s', part ++ [.associateNode node] <+: es →
        Runs.run step (start networkDesc) part = some s → s.step (.associateNode node) = some s' →
          s.Fresh node := by
  constructor
  · intro h part node s s' hpart hrun hstep
    exact (takesEffect_associateNode_iff hstep).1 (h part node s s' hpart hrun hstep)
  · intro h part node s s' hpart hrun hstep
    exact (takesEffect_associateNode_iff hstep).2 (h part node s s' hpart hrun hstep)

/-- A node is associated and destroyed, and another of the name is created. -/
def recreated : List Event :=
  let node : NodeDescription := ⟨"127.0.0.1", "node1", 10⟩
  [.manager (.createNode node .default), .associateNode 0, .manager (.removeNode node),
    .manager (.release 0), .manager (.createNode node .default)]

/-- The new node is associated, and its description stays mapped to the one that is gone. -/
theorem not_takesEffect_recreated :
    ∃ s s' : NetworkNodes,
      Runs.run step (start ⟨.PUBLIC, .LISTED, .CLIENT_ONLY, "protocol1", "network1", {}⟩) recreated =
        some s ∧ s.step (.associateNode 1) = some s' ∧
      s.network.nodeSet[(s.manager.heap 1).nodeDesc]? = some 0 ∧ s.manager.lock 0 = none ∧
      ¬ TakesEffect s s' 1 := by
  have hentry : (Runs.run step
      (start ⟨.PUBLIC, .LISTED, .CLIENT_ONLY, "protocol1", "network1", {}⟩) recreated).map
        (fun s => (s.network.nodeSet[(s.manager.heap 1).nodeDesc]?, s.manager.lock 0,
          s.manager.lock 1)) = some (some 0, none, some 1) := by
    decide +kernel
  obtain ⟨s, hs, hentry⟩ := Option.map_eq_some_iff.1 hentry
  obtain ⟨hzero, hgone, hlive⟩ : s.network.nodeSet[(s.manager.heap 1).nodeDesc]? = some 0 ∧
      s.manager.lock 0 = none ∧ s.manager.lock 1 = some 1 := by
    simpa using hentry
  obtain ⟨s', hs'⟩ : ∃ s', s.step (.associateNode 1) = some s' := by
    rw [step, hlive]
    exact ⟨_, rfl⟩
  refine ⟨s, s', hs, hs', hzero, hgone, fun heffect => ?_⟩
  exact absurd ((takesEffect_associateNode_iff hs').1 heffect 0 hzero) (by decide)

end NetworkNodes

end Sp2p.Sercli
