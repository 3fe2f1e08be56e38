import Mathlib.Data.List.Induction
import Mathlib.Data.List.Pairwise
import Sp2p.Lib.Runs
import Sp2p.Sercli.Archive

/-!
# Runs of the manager that can be saved

`removeNode` does not look at the networks, and a later `loadState` rejects a listing whose node is
gone; the node's name is not kept in step with the key it is stored or listed under either. So a
manager comes to a state it cannot save and load when a call breaks one of these. `Careful` says
which calls do not, and `roundTrip_iff_careful` that they are the calls to avoid: the manager can be
saved and loaded all along a run if and only if every call of the run is careful.
-/

namespace Sp2p.Sercli

namespace Manager

/-- A network of the manager lists the node. -/
def Listed (m : Manager) (p : NodePtr) : Prop :=
  ∃ desc network k, (desc, network) ∈ m.networksMap.toList ∧ (k, p) ∈ network.nodeSet.toList

/-- The condition on a call, in the state before it. -/
def Careful (m : Manager) : Op → Prop
  | .createNode desc _ => desc ∉ m.nodesMap →
    m.nodesMap.size + 1 < 2 ^ 31 ∧ ∀ p, m.Stored p → (m.heap p).nodeDesc.nodeName ≠ desc.nodeName
  | .removeNode desc => ∀ p, m.nodesMap[desc]? = some p → ¬ m.Listed p
  | .createNetwork desc => desc ∉ m.networksMap → m.networksMap.size + 1 < 2 ^ 31
  | .associateNode desc p => ∀ network, m.networksMap[desc]? = some network →
    (m.heap p).nodeDesc ∈ network.nodeSet ∨ m.Stored p
  | .setNewDescription p desc => m.Stored p →
    (∀ q, m.Stored q → q ≠ p → (m.heap q).nodeDesc.nodeName ≠ desc.nodeName) ∧
      (m.Listed p → (m.heap p).nodeDesc.nodeName = desc.nodeName)
  | _ => True

variable {m m' : Manager}

/-! ### What a careful call keeps -/

theorem settled_empty : Settled {} where
  fewNodes := by simp
  fewNetworks := by simp
  allocated := by simp [stored_iff]
  ownNames := by simp
  ownDesc := by simp
  resolved := by simp

theorem Settled.addNode (h : m.Settled) {node : Node} (hnew : node.nodeDesc ∉ m.nodesMap)
    (hfew : m.nodesMap.size + 1 < 2 ^ 31)
    (hfree : ∀ p, m.Stored p → (m.heap p).nodeDesc.nodeName ≠ node.nodeDesc.nodeName) :
    (m.addNode node).Settled := by
  have hentry : ∀ {k p}, (k, p) ∈ (m.addNode node).nodesMap.toList ↔
      k = node.nodeDesc ∧ p = m.next ∨ (k, p) ∈ m.nodesMap.toList := by
    intro k p
    exact (TreeMap.toList_assign_perm hnew).mem_iff.trans
      (List.mem_cons.trans (or_congr_left Prod.ext_iff))
  have hold : ∀ {k p}, (k, p) ∈ m.nodesMap.toList → (m.addNode node).heap p = m.heap p :=
    fun hkp => heap_addNode _ (h.allocated _ (stored_iff.2 ⟨_, hkp⟩))
  refine ⟨?_, h.fewNetworks, ?_, ?_, h.ownDesc, ?_⟩
  · exact Nat.lt_of_le_of_lt TreeMap.size_assign_le hfew
  · exact lt_next_addNode h.allocated node
  · intro k k' p p' hkp hkp' hname
    rcases hentry.1 hkp with ⟨rfl, rfl⟩ | hin <;> rcases hentry.1 hkp' with ⟨rfl, rfl⟩ | hin'
    · rfl
    · rw [heap_addNode_next, hold hin'] at hname
      exact absurd hname.symm (hfree p' (stored_iff.2 ⟨k', hin'⟩))
    · rw [heap_addNode_next, hold hin] at hname
      exact absurd hname (hfree p (stored_iff.2 ⟨k, hin⟩))
    · rw [hold hin, hold hin'] at hname
      exact h.ownNames k k' p p' hin hin' hname
  · intro d network hmem k p hkp
    obtain ⟨hstored, hname⟩ := h.resolved d network hmem k p hkp
    obtain ⟨k', hk'⟩ := stored_iff.1 hstored
    refine ⟨stored_iff.2 ⟨k', hentry.2 (.inr hk')⟩, ?_⟩
    rw [hold hk', hname]

theorem Settled.createNode (h : m.Settled) {desc : NodeDescription} {user : MyUser}
    {r : NodePtr × Manager} (hc : m.Careful (.createNode desc user))
    (hr : m.createNode desc user = some r) : r.2.Settled := by
  unfold Manager.createNode at hr
  split at hr
  · cases hr
  · rename_i hnew
    obtain rfl := Option.some_inj.1 hr
    have hadd : (m.addNode ⟨desc, user⟩).Settled := h.addNode hnew (hc hnew).1 (hc hnew).2
    exact ⟨hadd.fewNodes, hadd.fewNetworks, hadd.allocated, hadd.ownNames, hadd.ownDesc,
      hadd.resolved⟩

theorem Settled.removeNode (h : m.Settled) {desc : NodeDescription}
    (hc : m.Careful (.removeNode desc)) (hr : m.removeNode desc = some m') : m'.Settled := by
  unfold Manager.removeNode at hr
  split at hr
  · obtain rfl := Option.some_inj.1 hr
    have hsub : ∀ {k p}, (k, p) ∈ (m.nodesMap.erase desc).toList → (k, p) ∈ m.nodesMap.toList :=
      fun hkp => (TreeMap.mem_toList_erase.1 hkp).2
    refine ⟨?_, h.fewNetworks, ?_, ?_, h.ownDesc, ?_⟩
    · exact Nat.lt_of_le_of_lt Std.ExtTreeMap.size_erase_le h.fewNodes
    · intro p hp
      obtain ⟨k, hkp⟩ := stored_iff.1 hp
      exact h.allocated p (stored_iff.2 ⟨k, hsub hkp⟩)
    · exact fun k k' p p' hkp hkp' => h.ownNames k k' p p' (hsub hkp) (hsub hkp')
    · intro d network hmem k p hkp
      obtain ⟨hstored, hname⟩ := h.resolved d network hmem k p hkp
      obtain ⟨k', hk'⟩ := stored_iff.1 hstored
      refine ⟨stored_iff.2 ⟨k', TreeMap.mem_toList_erase.2 ⟨fun heq => ?_, hk'⟩⟩, hname⟩
      exact hc p (TreeMap.getElem?_eq_some_of_entry hk' heq) ⟨d, network, k, hmem, hkp⟩
  · cases hr

theorem Settled.createNetwork (h : m.Settled) {desc : NetworkDescription}
    (hc : m.Careful (.createNetwork desc)) (hr : m.createNetwork desc = some m') : m'.Settled := by
  unfold Manager.createNetwork at hr
  split at hr
  · cases hr
  · rename_i hnew
    obtain rfl := Option.some_inj.1 hr
    have hentry : ∀ {d network},
        (d, network) ∈ (TreeMap.assign m.networksMap desc { networkDesc := desc }).toList →
        d = desc ∧ network = { networkDesc := desc } ∨ (d, network) ∈ m.networksMap.toList := by
      intro d network hmem
      exact (List.mem_cons.1 ((TreeMap.toList_assign_perm hnew).mem_iff.1 hmem)).imp_left
        Prod.mk.inj
    refine ⟨h.fewNodes, ?_, h.allocated, h.ownNames, ?_, ?_⟩
    · exact Nat.lt_of_le_of_lt TreeMap.size_assign_le (hc hnew)
    · intro d network hmem
      rcases hentry hmem with ⟨rfl, rfl⟩ | hold
      · rfl
      · exact h.ownDesc d network hold
    · intro d network hmem
      rcases hentry hmem with ⟨rfl, rfl⟩ | hold
      · exact fun k p hkp => by simp at hkp
      · exact h.resolved d network hold

theorem Settled.removeNetwork (h : m.Settled) {desc : NetworkDescription}
    (hr : m.removeNetwork desc = some m') : m'.Settled := by
  unfold Manager.removeNetwork at hr
  split at hr
  · obtain rfl := Option.some_inj.1 hr
    have hsub : ∀ {d network}, (d, network) ∈ (m.networksMap.erase desc).toList →
        (d, network) ∈ m.networksMap.toList := fun hmem => (TreeMap.mem_toList_erase.1 hmem).2
    exact ⟨h.fewNodes, Nat.lt_of_le_of_lt Std.ExtTreeMap.size_erase_le h.fewNetworks, h.allocated,
      h.ownNames, fun d network hmem => h.ownDesc d network (hsub hmem),
      fun d network hmem => h.resolved d network (hsub hmem)⟩
  · cases hr

theorem Settled.onNetwork (h : m.Settled) {desc : NetworkDescription} {f : Network → Network}
    (hdesc : ∀ network, (f network).networkDesc = network.networkDesc)
    (hres : ∀ network, m.networksMap[desc]? = some network → m.Resolved network →
      m.Resolved (f network)) :
    (m.onNetwork desc f).Settled := by
  unfold Manager.onNetwork
  split
  · rename_i network hget
    obtain ⟨k, heq, hk⟩ :=
      Std.ExtTreeMap.getElem?_eq_some_iff_exists_compare_eq_eq_and_mem_toList.1 hget
    have hmem : desc ∈ m.networksMap := Std.ExtTreeMap.mem_iff_isSome_getElem?.2 (by rw [hget]; rfl)
    have hkey := NetworkDescription.compare_eq.1 (TreeMap.compare_getKeyD m.networksMap desc)
    refine ⟨h.fewNodes, ?_, h.allocated, h.ownNames, ?_, ?_⟩
    · simp only [TreeMap.size_assign_of_mem hmem]
      exact h.fewNetworks
    · intro d network' hmem'
      rcases TreeMap.mem_toList_assign.1 hmem' with ⟨rfl, rfl⟩ | ⟨-, hold⟩
      · rw [hdesc, h.ownDesc k network hk, hkey, NetworkDescription.compare_eq.1 heq]
      · exact h.ownDesc d network' hold
    · intro d network' hmem'
      rcases TreeMap.mem_toList_assign.1 hmem' with ⟨rfl, rfl⟩ | ⟨-, hold⟩
      · exact hres network hget (h.resolved k network hk)
      · exact h.resolved d network' hold
  · exact h

/-- New names for the nodes: they must stay apart, and a listed node keeps its name. -/
theorem Settled.withHeap (h : m.Settled) {g : NodePtr → Node}
    (hown : ∀ p q, m.Stored p → m.Stored q → p ≠ q →
      (g p).nodeDesc.nodeName ≠ (g q).nodeDesc.nodeName)
    (hkeep : ∀ p, m.Listed p → (g p).nodeDesc.nodeName = (m.heap p).nodeDesc.nodeName) :
    { m with heap := g }.Settled := by
  refine ⟨h.fewNodes, h.fewNetworks, h.allocated, ?_, h.ownDesc, ?_⟩
  · intro k k' p p' hkp hkp' hname
    have hp : p = p' := by
      by_contra hne
      exact hown p p' (stored_iff.2 ⟨k, hkp⟩) (stored_iff.2 ⟨k', hkp'⟩) hne hname
    subst hp
    exact h.ownNames k k' p p hkp hkp' rfl
  · intro d network hmem k p hkp
    obtain ⟨hstored, hname⟩ := h.resolved d network hmem k p hkp
    exact ⟨hstored, (hkeep p ⟨d, network, k, hmem, hkp⟩).trans hname⟩

theorem Settled.names_ne (h : m.Settled) {p q : NodePtr} (hp : m.Stored p) (hq : m.Stored q)
    (hne : p ≠ q) : (m.heap p).nodeDesc.nodeName ≠ (m.heap q).nodeDesc.nodeName := by
  obtain ⟨k, hk⟩ := stored_iff.1 hp
  obtain ⟨k', hk'⟩ := stored_iff.1 hq
  intro hname
  exact hne (Prod.mk.inj (h.ownNames k k' p q hk hk' hname)).2

theorem Settled.setUser (h : m.Settled) (p : NodePtr) (user : MyUser) :
    (m.setUser p user).Settled := by
  have hsame : ∀ q, ((m.setUser p user).heap q).nodeDesc = (m.heap q).nodeDesc := by
    intro q
    by_cases hq : q = p
    · subst hq
      simp [Manager.setUser]
    · simp [Manager.setUser, Function.update_of_ne hq]
  refine h.withHeap (g := (m.setUser p user).heap) ?_ ?_
  · intro q q' hq hq' hne
    rw [hsame, hsame]
    exact h.names_ne hq hq' hne
  · intro q _
    rw [hsame]

theorem Settled.setNewDescription (h : m.Settled) {p : NodePtr} {desc : NodeDescription}
    (hc : m.Careful (.setNewDescription p desc)) : (m.setNewDescription p desc).Settled := by
  have hself : ((m.setNewDescription p desc).heap p).nodeDesc = desc := by
    simp [Manager.setNewDescription]
  have hother : ∀ {q}, q ≠ p → (m.setNewDescription p desc).heap q = m.heap q := fun hq =>
    Function.update_of_ne hq _ _
  refine h.withHeap (g := (m.setNewDescription p desc).heap) ?_ ?_
  · intro q q' hq hq' hne
    by_cases hqp : q = p
    · subst hqp
      rw [hself, hother hne.symm]
      exact ((hc hq).1 q' hq' hne.symm).symm
    · by_cases hqp' : q' = p
      · subst hqp'
        rw [hself, hother hqp]
        exact (hc hq').1 q hq hqp
      · rw [hother hqp, hother hqp']
        exact h.names_ne hq hq' hne
  · intro q hq
    by_cases hqp : q = p
    · subst hqp
      obtain ⟨d, network, k, hmem, hkq⟩ := id hq
      rw [hself]
      exact ((hc (h.resolved d network hmem k q hkq).1).2 hq).symm
    · rw [hother hqp]

/-- A step lemma: careful calls keep the manager settled. -/
theorem Settled.step (h : m.Settled) {op : Op} (hc : m.Careful op) (hstep : m.step op = some m') :
    m'.Settled := by
  cases op with
  | createNode desc user =>
    obtain rfl := Option.some_inj.1 hstep
    cases hr : m.createNode desc user with
    | none => exact h
    | some r => exact h.createNode hc hr
  | removeNode desc =>
    obtain rfl := Option.some_inj.1 hstep
    cases hr : m.removeNode desc with
    | none => exact h
    | some r => exact h.removeNode hc hr
  | createNetwork desc =>
    obtain rfl := Option.some_inj.1 hstep
    cases hr : m.createNetwork desc with
    | none => exact h
    | some r => exact h.createNetwork hc hr
  | removeNetwork desc =>
    obtain rfl := Option.some_inj.1 hstep
    cases hr : m.removeNetwork desc with
    | none => exact h
    | some r => exact h.removeNetwork hr
  | associateNode desc p =>
    obtain ⟨q, hq, hm⟩ := Option.bind_eq_some_iff.1 hstep
    obtain rfl := lock_eq hq
    obtain rfl := Option.some_inj.1 hm
    refine h.onNetwork (fun _ => rfl) fun network hget hres => ?_
    intro k r hkr
    rcases TreeMap.mem_toList_insertIfNew.1 hkr with hold | ⟨rfl, rfl, hnot⟩
    · exact hres k r hold
    · exact ⟨(hc network hget).resolve_left hnot, rfl⟩
  | detachNode desc node =>
    obtain rfl := Option.some_inj.1 hstep
    refine h.onNetwork (fun _ => rfl) fun network _ hres => ?_
    intro k p hkp
    exact hres k p (TreeMap.mem_toList_erase.1 hkp).2
  | setUser p user =>
    obtain ⟨q, hq, hm⟩ := Option.bind_eq_some_iff.1 hstep
    obtain rfl := Option.some_inj.1 hm
    exact h.setUser q user
  | setNewDescription p desc =>
    obtain ⟨q, hq, hm⟩ := Option.bind_eq_some_iff.1 hstep
    obtain rfl := lock_eq hq
    obtain rfl := Option.some_inj.1 hm
    exact h.setNewDescription hc
  | acquire p =>
    obtain ⟨q, -, hm⟩ := Option.bind_eq_some_iff.1 hstep
    obtain rfl := Option.some_inj.1 hm
    exact ⟨h.fewNodes, h.fewNetworks, h.allocated, h.ownNames, h.ownDesc, h.resolved⟩
  | release p =>
    obtain rfl := Option.some_inj.1 hstep
    exact ⟨h.fewNodes, h.fewNetworks, h.allocated, h.ownNames, h.ownDesc, h.resolved⟩

/-! ### What a manager that can be saved has -/

theorem RoundTrip.few (h : m.RoundTrip) :
    m.nodesMap.size < 2 ^ 31 ∧ m.networksMap.size < 2 ^ 31 := by
  obtain ⟨m', hload, -⟩ := h m
  obtain ⟨n, hn, hload⟩ := Option.bind_eq_some_iff.1 hload
  rw [stoi_toString] at hn
  split at hn
  · rename_i hfew
    obtain rfl := Option.some_inj.1 hn
    rw [Int.toNat_natCast, ← length_storedNodes, loadNodes_map] at hload
    obtain ⟨_, hread, hload⟩ := Option.bind_eq_some_iff.1 hload
    obtain rfl := Option.some_inj.1 hread
    obtain ⟨k, hk, -⟩ := Option.bind_eq_some_iff.1 hload
    rw [stoi_toString] at hk
    split at hk
    · exact ⟨hfew, ‹_›⟩
    · cases hk
  · cases hn

/-- What is loaded is settled, so the names of the nodes were different when they were saved. -/
theorem RoundTrip.names_ne (h : m.RoundTrip) {k k' : NodeDescription} {p p' : NodePtr}
    (hkp : (k, p) ∈ m.nodesMap.toList) (hkp' : (k', p') ∈ m.nodesMap.toList)
    (hne : (k, p) ≠ (k', p')) :
    (m.heap p).nodeDesc.nodeName ≠ (m.heap p').nodeDesc.nodeName := by
  obtain ⟨m', hload, hsame⟩ := h m
  have hloaded := (settled_of_loadState hload).pairwise_storedNodes
  have hpair := (hsame.nodes.pairwise_iff fun hxy => hxy.symm).1 hloaded
  rw [storedNodes, List.pairwise_map] at hpair
  have : Std.Symm fun a b : NodeDescription × NodePtr =>
      (m.heap a.2).nodeDesc.nodeName ≠ (m.heap b.2).nodeDesc.nodeName := ⟨fun _ _ hxy => hxy.symm⟩
  exact hpair.forall hkp hkp' hne

/-- Networks that are read at all list only nodes that are found. -/
theorem loadNetworks_found (l : List (NetworkDescription × Network)) :
    ∀ {m m' : Manager}, loadNetworks l.length m (l.flatMap fun e => saveNetwork e.2) = some m' →
      ∀ e ∈ l, ∀ k ∈ e.2.relatedNodes, k ∈ m.nodesMap := by
  induction l with
  | nil =>
    intro m m' _ e he
    simp at he
  | cons e l ih =>
    intro m m' hload x hx
    rw [List.flatMap_cons, saveNetwork] at hload
    obtain ⟨network, hrun, hrest⟩ := Option.bind_eq_some_iff.1 hload
    rcases List.mem_cons.1 hx with rfl | hx
    · exact (associateAll_spec (fun k p hkp => by simp at hkp) hrun).2.2
    · exact ih hrest x hx

theorem RoundTrip.found (h : m.RoundTrip) {desc : NetworkDescription} {network : Network}
    (hmem : (desc, network) ∈ m.networksMap.toList) {k : NodeDescription} {p : NodePtr}
    (hkp : (k, p) ∈ network.nodeSet.toList) :
    ∃ q, m.Stored q ∧ (m.heap q).nodeDesc.nodeName = k.nodeName := by
  obtain ⟨m', hload, hsame⟩ := h m
  rw [loadState_saveState_eq m h.few.1 h.few.2, ← Std.ExtTreeMap.length_toList] at hload
  obtain ⟨hkeyed, -, hempty⟩ :=
    loadNodes_spec (keyed_clear m) (loadNodes_map m.storedNodes m.clear [])
  have hk := loadNetworks_found _ hload (desc, network) hmem k (List.mem_map.2 ⟨(k, p), hkp, rfl⟩)
  obtain ⟨networks, rfl, -⟩ := loadNetworks_spec (by rw [hempty]; simp [clear]) hload
  obtain ⟨q, hq⟩ := Option.isSome_iff_exists.1 (Std.ExtTreeMap.mem_iff_isSome_getElem?.1 hk)
  obtain ⟨k', heq, hk'⟩ :=
    Std.ExtTreeMap.getElem?_eq_some_iff_exists_compare_eq_eq_and_mem_toList.1 hq
  obtain ⟨⟨a, r⟩, har, hr⟩ := List.mem_map.1
    (hsame.nodes.mem_iff.1 (mem_storedNodes (stored_iff.2 ⟨k', hk'⟩)))
  refine ⟨r, stored_iff.2 ⟨a, har⟩, ?_⟩
  rw [show m.heap r = _ from hr, NodeDescription.compare_eq.1 heq]
  exact hkeyed.ownKey k' q hk'

/-- A node in use in a network of the manager is one of its own. -/
theorem RoundTrip.owned (h : m.RoundTrip) {desc : NetworkDescription} {network : Network}
    (hget : m.networksMap[desc]? = some network) {k : NodeDescription} {p : NodePtr}
    (hkp : (k, p) ∈ network.nodeSet.toList) (hlock : m.lock p = some p) : m.Stored p := by
  obtain ⟨m', hload, hsame⟩ := h m
  have hrel := hsame.networks desc
  rw [hget] at hrel
  obtain ⟨network', hget', hperm⟩ : ∃ network', m'.networksMap[desc]? = some network' ∧
      (m'.associated network').Perm (m.associated network) := by
    cases hget' : m'.networksMap[desc]? with
    | none =>
      rw [hget'] at hrel
      cases hrel
    | some network' =>
      rw [hget', Option.rel_some_some] at hrel
      exact ⟨network', rfl, hrel.2⟩
  obtain ⟨d, -, hd⟩ :=
    Std.ExtTreeMap.getElem?_eq_some_iff_exists_compare_eq_eq_and_mem_toList.1 hget'
  have hres := (settled_of_loadState hload).resolved d network' hd
  have hmem : (m.heap p, decide (m.Stored p)) ∈ m.associated network :=
    List.mem_filterMap.2 ⟨(k, p), hkp, by rw [hlock]; rfl⟩
  rw [← hperm.mem_iff, associated_of_stored fun k p hkp => (hres k p hkp).1] at hmem
  obtain ⟨e, -, he⟩ := List.mem_map.1 hmem
  exact of_decide_eq_true (Prod.mk.inj he).2.symm

/-! ### A call that is not careful -/

theorem getElem?_onNetwork {desc : NetworkDescription} {f : Network → Network} {network : Network}
    (hget : m.networksMap[desc]? = some network) :
    (m.onNetwork desc f).networksMap[desc]? = some (f network) := by
  simp only [onNetwork, hget]
  rw [TreeMap.getElem?_assign, if_pos Std.ReflCmp.compare_self]

/-- A new node is counted, and its name is no other stored node's. -/
theorem RoundTrip.careful_createNode (hr : m'.RoundTrip) (h : m.Settled)
    {desc : NodeDescription} {user : MyUser}
    (hstep : m.step (.createNode desc user) = some m') : m.Careful (.createNode desc user) := by
  intro hnew
  rw [Manager.step, Manager.createNode, if_neg hnew] at hstep
  obtain rfl := Option.some_inj.1 hstep
  have hperm := TreeMap.toList_assign_perm (v := m.next) hnew
  refine ⟨?_, fun p hp hname => ?_⟩
  · have hsize := hperm.length_eq
    rw [Std.ExtTreeMap.length_toList, List.length_cons, Std.ExtTreeMap.length_toList] at hsize
    rw [← hsize]
    exact hr.few.1
  · obtain ⟨k, hk⟩ := stored_iff.1 hp
    refine hr.names_ne (hperm.mem_iff.2 (List.mem_cons_of_mem _ hk))
      (hperm.mem_iff.2 List.mem_cons_self) ?_ ?_
    · intro heq
      exact absurd (h.allocated p hp) (by rw [(Prod.mk.inj heq).2]; exact Nat.lt_irrefl _)
    · refine Eq.trans ?_ (congrArg (·.nodeDesc.nodeName) (heap_addNode_next m ⟨desc, user⟩).symm)
      rw [← hname]
      exact congrArg (·.nodeDesc.nodeName) (heap_addNode ⟨desc, user⟩ (h.allocated p hp))

/-- A network that lists the removed node would not find it any more. -/
theorem RoundTrip.careful_removeNode (hr : m'.RoundTrip) (h : m.Settled) {desc : NodeDescription}
    (hstep : m.step (.removeNode desc) = some m') : m.Careful (.removeNode desc) := by
  intro p hp
  rintro ⟨d, network, k, hmem, hkp⟩
  have hin : desc ∈ m.nodesMap := Std.ExtTreeMap.mem_iff_isSome_getElem?.2 (by rw [hp]; rfl)
  rw [Manager.step, Manager.removeNode, if_pos hin] at hstep
  obtain rfl := Option.some_inj.1 hstep
  obtain ⟨q, hq, hname⟩ := hr.found hmem hkp
  obtain ⟨k', hk'⟩ := stored_iff.1 hq
  obtain ⟨hne, hk'⟩ := TreeMap.mem_toList_erase.1 hk'
  obtain ⟨a, heq, ha⟩ :=
    Std.ExtTreeMap.getElem?_eq_some_iff_exists_compare_eq_eq_and_mem_toList.1 hp
  have hown := h.ownNames k' a q p hk' ha
    (hname.trans (h.resolved d network hmem k p hkp).2.symm)
  rw [(Prod.mk.inj hown).1] at hne
  exact hne heq

theorem RoundTrip.careful_createNetwork (hr : m'.RoundTrip) {desc : NetworkDescription}
    (hstep : m.step (.createNetwork desc) = some m') : m.Careful (.createNetwork desc) := by
  intro hnew
  rw [Manager.step, Manager.createNetwork, if_neg hnew] at hstep
  obtain rfl := Option.some_inj.1 hstep
  have hsize := (TreeMap.toList_assign_perm (v := ({ networkDesc := desc } : Network))
    hnew).length_eq
  rw [Std.ExtTreeMap.length_toList, List.length_cons, Std.ExtTreeMap.length_toList] at hsize
  rw [← hsize]
  exact hr.few.2

/-- The node that a network comes to list is stored. -/
theorem RoundTrip.careful_associateNode (hr : m'.RoundTrip)
    {desc : NetworkDescription} {p : NodePtr}
    (hstep : m.step (.associateNode desc p) = some m') : m.Careful (.associateNode desc p) := by
  intro network hget
  obtain ⟨q, hq, hm⟩ := Option.bind_eq_some_iff.1 hstep
  obtain rfl := lock_eq hq
  obtain rfl := Option.some_inj.1 hm
  by_cases hin : (m.heap p).nodeDesc ∈ network.nodeSet
  · exact .inl hin
  · refine .inr ?_
    have hstored := hr.owned (getElem?_onNetwork hget)
      (TreeMap.mem_toList_insertIfNew.2 (.inr ⟨rfl, rfl, hin⟩)) (by
        rw [Manager.onNetwork, hget]
        exact hq)
    rw [Manager.onNetwork, hget] at hstored
    exact hstored

/-- A node keeps the name it is listed under, and takes no other stored node's. -/
theorem RoundTrip.careful_setNewDescription (hr : m'.RoundTrip) (h : m.Settled)
    {p : NodePtr} {desc : NodeDescription}
    (hstep : m.step (.setNewDescription p desc) = some m') :
    m.Careful (.setNewDescription p desc) := by
  intro hp
  obtain ⟨q, hq, hm⟩ := Option.bind_eq_some_iff.1 hstep
  obtain rfl := lock_eq hq
  obtain rfl := Option.some_inj.1 hm
  have hself : ((m.setNewDescription p desc).heap p).nodeDesc = desc := by
    simp [Manager.setNewDescription]
  have hother : ∀ {q}, q ≠ p → (m.setNewDescription p desc).heap q = m.heap q := fun hq =>
    Function.update_of_ne hq _ _
  refine ⟨fun q hq hqp hname => ?_, ?_⟩
  · obtain ⟨k, hk⟩ := stored_iff.1 hp
    obtain ⟨k', hk'⟩ := stored_iff.1 hq
    refine hr.names_ne (k := k') (p := q) hk' hk (fun heq => hqp (Prod.mk.inj heq).2) ?_
    rw [hself, hother hqp, hname]
  · rintro ⟨d, network, k, hmem, hkp⟩
    obtain ⟨q, hq, hname⟩ := hr.found hmem hkp
    have hlisted := (h.resolved d network hmem k p hkp).2
    by_cases hqp : q = p
    · subst hqp
      rw [hself] at hname
      rw [hlisted, hname]
    · rw [hother hqp] at hname
      exact absurd (hname.trans hlisted.symm) (h.names_ne hq hp hqp)

/-- From a settled manager, only a careful call leads to one that can be saved. -/
theorem careful_of_roundTrip (h : m.Settled) {op : Op} (hstep : m.step op = some m')
    (hr : m'.RoundTrip) : m.Careful op := by
  cases op with
  | createNode desc user => exact hr.careful_createNode h hstep
  | removeNode desc => exact hr.careful_removeNode h hstep
  | createNetwork desc => exact hr.careful_createNetwork hstep
  | associateNode desc p => exact hr.careful_associateNode hstep
  | setNewDescription p desc => exact hr.careful_setNewDescription h hstep
  | removeNetwork desc => trivial
  | detachNode desc node => trivial
  | setUser p user => trivial
  | acquire p => trivial
  | release p => trivial

/-! ### Runs -/

theorem run_append_singleton (m : Manager) (ops : List Op) (op : Op) :
    m.run (ops ++ [op]) = (m.run ops).bind fun m' => m'.step op := by
  have hone : ∀ m' : Manager, Runs.run step m' [op] = m'.step op :=
    fun m' => Option.bind_fun_some (m'.step op)
  calc m.run (ops ++ [op])
      = (m.run ops).bind fun m' => Runs.run step m' [op] := Runs.run_append m ops [op]
    _ = (m.run ops).bind fun m' => m'.step op := by simp only [hone]

/-- A run of calls each of which is careful, if all went well until then. -/
theorem settled_run {ops : List Op}
    (hcareful : ∀ pre op m m', pre ++ [op] <+: ops → run {} pre = some m → m.Settled →
      m.step op = some m' → m.Careful op) :
    ∀ pre m, pre <+: ops → run {} pre = some m → m.Settled := by
  intro pre
  induction pre using List.reverseRecOn with
  | nil =>
    intro m _ hrun
    obtain rfl := Option.some_inj.1 hrun
    exact settled_empty
  | append_singleton pre op ih =>
    intro m' hpre hrun
    rw [run_append_singleton] at hrun
    obtain ⟨m, hm, hstep⟩ := Option.bind_eq_some_iff.1 hrun
    have hsettled := ih m ((List.prefix_append pre [op]).trans hpre) hm
    exact hsettled.step (hcareful pre op m m' hpre hm hsettled hstep) hstep

/-- A manager can be saved and loaded all along a run exactly when each call of it is careful. -/
theorem roundTrip_iff_careful (ops : List Op) :
    (∀ pre m, pre <+: ops → run {} pre = some m → m.RoundTrip) ↔
      ∀ pre op m m', pre ++ [op] <+: ops → run {} pre = some m → m.step op = some m' →
        m.Careful op := by
  constructor
  · intro hround
    have hstep : ∀ pre op m m', pre ++ [op] <+: ops → run {} pre = some m → m.Settled →
        m.step op = some m' → m.Careful op := by
      intro pre op m m' hpre hm hsettled hstep
      refine careful_of_roundTrip hsettled hstep (hround (pre ++ [op]) m' hpre ?_)
      rw [run_append_singleton, hm]
      exact hstep
    intro pre op m m' hpre hm hs
    have hsettled := settled_run hstep pre m ((List.prefix_append pre [op]).trans hpre) hm
    exact hstep pre op m m' hpre hm hsettled hs
  · intro hcareful pre m hpre hm
    refine (settled_run ?_ pre m hpre hm).roundTrip
    intro pre op m m' hpre hm _ hstep
    exact hcareful pre op m m' hpre hm hstep

/-- A node of a network is removed: the network still lists it, and the file is rejected. -/
def removeListed : List Op :=
  let node : NodeDescription := ⟨"127.0.0.1", "node1", 10⟩
  let network : NetworkDescription := ⟨.PRIVATE, .LISTED, .CLIENT_ONLY, "protocol1", "network1", {}⟩
  [.createNode node .default, .createNetwork network, .associateNode network 0, .removeNode node]

theorem not_restored_removeListed :
    ¬ ∀ m, run {} removeListed = some m →
      ∃ m', m.loadState m.saveState = some m' ∧ m.Same m' := by
  intro h
  have hload : (run {} removeListed).any (fun m => (m.loadState m.saveState).isNone) = true := by
    decide
  obtain ⟨m, hm, hnone⟩ := (Option.any_eq_true _ _).1 hload
  obtain ⟨m', hm', -⟩ := h m hm
  rw [hm'] at hnone
  cases hnone

end Manager

end Sp2p.Sercli
