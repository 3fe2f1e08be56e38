import Sp2p.NodeClient.Consistency
import Sp2p.Sercli.Restorable

/-!
# Saving and loading in the client

`restored_iff` says in which of the states that the client comes to its manager can be saved and loaded.
That is said of the manager by itself; `load_restores` is about the command `load`, which works on the
objects that are there.
-/

namespace Sp2p.NodeClient

open Std Protocol Sercli
open ManagerObjects (itemSource count_items_text)

variable {κ ξ : Type}

/-! ### Loading the objects -/

namespace Objects

variable {o : Objects κ ξ} {held : NodePtr → Bool}

theorem manager_addNode (o : Objects κ ξ) (n : NodeMembers κ ξ) :
    (o.addNode n).manager held = (o.manager held).addNode n.toNode := by
  have hheap : (fun p => ((o.addNode n).nodes p).toNode) =
      Function.update (fun p => (o.nodes p).toNode) o.nextNode n.toNode := by
    funext p
    rw [nodes_addNode, Function.update_apply]
    split <;> rfl
  simp only [manager, Manager.addNode, hheap]
  rfl

/-- The networks of the map have been created. -/
def Allocated (o : Objects κ ξ) : Prop := ∀ k q, (k, q) ∈ o.networksMap.toList → q < o.nextNetwork

theorem keptByLoad_allocated : KeptByLoad (Allocated : Objects κ ξ → Prop) := by
  refine ⟨fun o n h => h, fun o desc descs h k q hkq => ?_⟩
  rcases TreeMap.mem_toList_assign.1 hkq with ⟨-, rfl⟩ | ⟨-, hold⟩
  · exact Nat.lt_succ_self _
  · exact Nat.lt_succ_of_lt (h k q hold)

/-- The networks of the map stay where they are. -/
theorem manager_addNetwork (h : o.Allocated) (network : Network) :
    (o.addNetwork network).manager held = { o.manager held with
      networksMap := TreeMap.assign (o.manager held).networksMap network.networkDesc network } := by
  have hmap : (TreeMap.assign o.networksMap network.networkDesc o.nextNetwork).map
      (fun _ q => (o.addNetwork network).networks q) =
        TreeMap.assign (o.networksMap.map fun _ q => o.networks q) network.networkDesc network := by
    rw [TreeMap.map_assign (f := o.networks), networks_addNetwork, if_pos rfl]
    intro k q hkq
    rw [networks_addNetwork, if_neg (Nat.ne_of_lt (h k q hkq))]
  simp only [manager]
  rw [← hmap]
  rfl

/-- The manager and the rest of the file of a load that did not throw. -/
def loaded {σ : Type} (held : NodePtr → Bool) (r : Objects κ ξ × Option σ) : Option (Manager × σ) :=
  r.2.map fun file => (r.1.manager held, file)

theorem loadNodes_items (n : Nat) :
    ∀ (o : Objects κ ξ) (file : List Item),
      Manager.loadNodes n (o.manager held) file = loaded held (loadNodes itemSource n o file) := by
  induction n with
  | zero => exact fun o file => rfl
  | succ n ih =>
    intro o file
    match file with
    | .node node :: file =>
      have hnext := ih (o.addNode (.new node.nodeDesc node.myUser)) file
      rw [manager_addNode] at hnext
      exact hnext
    | [] | .text _ :: _ | .network _ :: _ | .nodes _ :: _ => rfl

theorem loadNetworks_items (n : Nat) :
    ∀ (o : Objects κ ξ) (file : List Item), o.Allocated →
      Manager.loadNetworks n (o.manager held) file =
        (loaded held (loadNetworks itemSource n o file)).map Prod.fst := by
  induction n with
  | zero => exact fun o file _ => rfl
  | succ n ih =>
    intro o file ho
    match file with
    | .network desc :: .nodes descs :: file =>
      have hdesc := ManagerObjects.networkDesc_associateKnown (o.manager fun _ => false) descs
        { networkDesc := desc }
      have hnext := keptByLoad_allocated.network o desc descs ho
      rw [Manager.loadNetworks, show (o.manager held).associateAll { networkDesc := desc } descs =
        (o.manager fun _ => false).associateAll { networkDesc := desc } descs from rfl,
        ManagerObjects.associateAll_eq]
      simp only [loadNetworks, itemSource]
      generalize associateKnown (o.manager fun _ => false) { networkDesc := desc } descs = r at hdesc hnext
      obtain ⟨network, known⟩ := r
      cases known with
      | false => rfl
      | true =>
        simp only at hdesc
        subst hdesc
        have hrest := ih (o.addNetwork network) file hnext
        rw [manager_addNetwork ho] at hrest
        exact hrest
    | [] | .text _ :: _ | .node _ :: _ | .nodes _ :: _ => rfl
    | [.network _] | .network _ :: .text _ :: _ | .network _ :: .node _ :: _
    | .network _ :: .network _ :: _ => rfl

theorem clear_manager (o : Objects κ ξ) : (o.manager held).clear =
    ({ o with nodesMap := ∅, networksMap := ∅ } : Objects κ ξ).manager held := by
  have hempty : (∅ : ExtTreeMap NetworkDescription NetworkPtr).map (fun _ q => o.networks q) = ∅ := by
    rw [← ExtTreeMap.toList_eq_nil_iff, ExtTreeMap.toList_map, TreeMap.toList_empty, List.map_nil]
  simp only [Manager.clear, manager, hempty]

/-- Behind `clear` the objects are loaded as `Manager.loadState` says. -/
theorem loadFile_items (o : Objects κ ξ) (file : List Item) :
    (o.manager held).loadState file = (loaded held
      (({ o with nodesMap := ∅, networksMap := ∅ } : Objects κ ξ).loadFile itemSource (some file))).map
        Prod.fst := by
  match file with
  | .text count :: file =>
    rw [loadFile, Option.bind_some, count_items_text, Manager.loadState, clear_manager]
    cases stoi count with
    | none => rfl
    | some nc =>
      simp only [Option.bind_eq_bind, Option.bind_some, Option.map_some, loadNodes_items]
      have hbound : (loadNodes itemSource nc.toNat
          ({ o with nodesMap := ∅, networksMap := ∅ } : Objects κ ξ) file).1.Allocated :=
        loadNodes_keeps keptByLoad_allocated _ file fun k q hkq => by simp at hkq
      generalize loadNodes itemSource nc.toNat
        ({ o with nodesMap := ∅, networksMap := ∅ } : Objects κ ξ) file = r at hbound
      obtain ⟨o', rest⟩ := r
      rcases rest with _ | _ | ⟨count | _ | _ | _, file⟩
      · rfl
      · rfl
      · simp only [loaded, Option.map_some, Option.bind_some, count_items_text]
        cases stoi count with
        | none => rfl
        | some nc => exact loadNetworks_items nc.toNat o' file hbound
      · rfl
      · rfl
      · rfl
  | [] | .node _ :: _ | .network _ :: _ | .nodes _ :: _ => rfl

/-- `stopAll` comes to its end when the log does not take the record of `disconnect`, or no node is
active. -/
theorem stopEach_eq_none_iff (opened : Bool) (ps : List NodePtr) : ∀ o : Objects κ ξ,
    (stopEach opened ps o).1 = none ↔ (opened = true → ∀ p ∈ ps, (o.nodes p).isActive = false) := by
  induction ps with
  | nil =>
    intro o
    exact iff_of_true rfl fun _ _ hp => absurd hp List.not_mem_nil
  | cons p ps ih =>
    intro o
    rw [stopEach, stopConnections]
    by_cases hactive : (o.nodes p).isActive = true
    · rw [if_pos hactive]
      cases opened with
      | false =>
        exact iff_of_true ((ih _).2 fun hopened => Bool.noConfusion hopened)
          fun hopened => Bool.noConfusion hopened
      | true =>
        refine iff_of_false (Option.some_ne_none _) fun h => ?_
        rw [h rfl p (List.mem_cons_self ..)] at hactive
        cases hactive
    · rw [if_neg hactive]
      refine (ih o).trans (imp_congr_right fun _ => ?_)
      rw [List.forall_mem_cons, and_iff_right (eq_false_of_ne_true hactive)]

/-- No node of the manager is active, or the log does not take the record of `disconnect`. -/
def Stops (o : Objects κ ξ) (opened : Bool) : Prop :=
  opened = true → ∀ k p, (k, p) ∈ o.nodesMap.toList → (o.nodes p).isActive = false

theorem stopAll_eq_none_iff {opened : Bool} : (o.stopAll opened).1 = none ↔ o.Stops opened := by
  unfold stopAll Stops
  rw [stopEach_eq_none_iff]
  simp only [List.forall_mem_map, Prod.forall]

/-- `clear` throws nothing then, and only then. -/
theorem clear_of_stops {opened : Bool} (h : o.Stops opened) :
    ∃ g, o.clear opened = (none, { o with nodes := g, nodesMap := ∅, networksMap := ∅ }) := by
  have hstop := stopAll_eq_none_iff.2 h
  obtain ⟨g, -, -, heq | ⟨thrown, heq⟩⟩ := Sp2pContext.clear_renews opened o
  · exact ⟨g, heq⟩
  · unfold clear at heq
    split at heq
    · cases (Prod.mk.inj heq).1
    · rename_i hthrow
      rw [hthrow] at hstop
      cases hstop

theorem stops_of_clear {opened : Bool} (h : (o.clear opened).1 = none) : o.Stops opened := by
  rw [← stopAll_eq_none_iff]
  unfold clear at h
  split at h
  · rename_i heq
    rw [heq]
  · cases h

theorem clear_of_loadState {σ : Type} {src : AbstractSource σ} {opened : Bool} {source : Option σ}
    (h : (o.loadState src opened source).1 = none) : (o.clear opened).1 = none := by
  unfold loadState at h
  split at h
  · rename_i heq
    rw [heq]
  · cases h

end Objects

theorem loadState_restores_iff {m : Manager} (h : m.RoundTrip) (o : Objects κ ξ) (opened : Bool)
    (held : NodePtr → Bool) :
    ((o.loadState itemSource opened (some m.saveState)).1 = none ∧
      m.Same ((o.loadState itemSource opened (some m.saveState)).2.manager held)) ↔ o.Stops opened := by
  refine ⟨fun hload => Objects.stops_of_clear (Objects.clear_of_loadState hload.1), fun hstops => ?_⟩
  obtain ⟨g, hclear⟩ := Objects.clear_of_stops hstops
  obtain ⟨m', hload, hsame⟩ := h (({ o with nodes := g } : Objects κ ξ).manager held)
  rw [Objects.loadFile_items] at hload
  obtain ⟨⟨m'', rest⟩, hloaded, rfl⟩ := Option.map_eq_some_iff.1 hload
  obtain ⟨file, hfile, heq⟩ := Option.map_eq_some_iff.1 hloaded
  obtain ⟨rfl, rfl⟩ := Prod.mk.inj heq
  rw [Objects.loadState, hclear]
  dsimp only
  rw [hfile]
  exact ⟨rfl, hsame⟩

/-! ### The client -/

/-- The nodes that a network of the manager lists are the manager's. -/
def Client.ListsOwn (c : Client κ ξ) : Prop :=
  ∀ desc q, (desc, q) ∈ c.networksMap.toList → ∀ k p, (k, p) ∈ (c.networks q).nodeSet.toList →
    ∃ k', (k', p) ∈ c.nodesMap.toList

instance (c : Client κ ξ) : Decidable c.ListsOwn :=
  decidable_of_iff (∀ e ∈ c.networksMap.toList, ∀ x ∈ (c.networks e.2).nodeSet.toList,
      x.2 ∈ c.nodesMap.toList.map Prod.snd) <| by
    simp only [Client.ListsOwn, Prod.forall, List.mem_map, Prod.exists, exists_eq_right]

theorem Client.Sound.roundTrip_iff {c : Client κ ξ} (hs : c.Sound) :
    c.manager.RoundTrip ↔ c.nodesMap.size < 2 ^ 31 ∧ c.networksMap.size < 2 ^ 31 ∧ c.ListsOwn := by
  have hlists : (∀ desc network, (desc, network) ∈ c.manager.networksMap.toList → ∀ k p,
      (k, p) ∈ network.nodeSet.toList → c.manager.Stored p) ↔ c.ListsOwn := by
    constructor
    · intro h desc q hq k p hkp
      refine Manager.stored_iff.1 (h desc (c.networks q) ?_ k p hkp)
      rw [Client.manager, Objects.manager, ExtTreeMap.toList_map]
      exact List.mem_map.2 ⟨(desc, q), hq, rfl⟩
    · intro h desc network hmem k p hkp
      obtain ⟨q, hq, rfl⟩ := Client.networks_entry hmem
      exact Manager.stored_iff.2 (h desc q hq k p hkp)
  have hsize : c.manager.networksMap.size = c.networksMap.size := ExtTreeMap.size_map
  rw [Manager.roundTrip_iff hs.keyed hs.networksMatch, hlists, hsize]
  · rfl
  · intro desc network hmem k p hkp
    obtain ⟨q, -, rfl⟩ := Client.networks_entry hmem
    exact (hs.objects.listed q k p hkp).2

/-- **What the client saves can be loaded** exactly when the counts fit in an `int` and no network of the
manager lists a node that is not the manager's. That is of a manager that is loaded when none of its nodes
is active; otherwise `clear` throws first, as `load_restores` says. -/
theorem restored_iff {σ : Type} (lib : Libraries κ ξ σ) (world : Nat → Surroundings κ σ)
    {startup : Startup κ ξ σ} {c : Client κ ξ} (hstart : start lib startup = some c) {arguments : Arguments}
    {lines : List String} {s : ProgramLoop (Client κ ξ)}
    (hrun : Runs.run (ProgramLoop.step (dispatcher lib world)) { context := c, arguments } lines = some s) :
    s.context.manager.RoundTrip ↔ s.context.nodesMap.size < 2 ^ 31 ∧
      s.context.networksMap.size < 2 ^ 31 ∧ s.context.ListsOwn :=
  (sound_run lib world (sound_start lib hstart) hrun).1.roundTrip_iff

/-- A node and a network that lists it. -/
def listsNode : List String :=
  ["cnd -n node1 -i 127.0.0.1 -P 10", "gnd -n node1",
    "cnt -n net1 -p chess -A PUBLIC -V LISTED -P CLIENT_ONLY", "gnt -n net1", "cd Network", "addNd", "pr"]

/-- The node is removed and made anew, and the network still lists the old one. -/
theorem restored_iff_remade :
    ∃ s, Runs.run (ProgramLoop.step (dispatcher plainLibraries quiet)) newClient
        (listsNode ++ ["rnd -n node1", "cnd -n node1 -i 127.0.0.1 -P 10"]) = some s ∧
      ¬ s.context.manager.RoundTrip := by
  have hsome : (Runs.run (ProgramLoop.step (dispatcher plainLibraries quiet)) newClient
      (listsNode ++ ["rnd -n node1", "cnd -n node1 -i 127.0.0.1 -P 10"])).map
        (fun s => decide s.context.ListsOwn) = some false := by
    decide +kernel
  obtain ⟨s, hrun, hlists⟩ := Option.map_eq_some_iff.1 hsome
  refine ⟨s, hrun, fun hround => ?_⟩
  exact of_decide_eq_false hlists ((restored_iff plainLibraries quiet start_nothingKept hrun).1 hround).2.2

/-- **The command `load`** restores what was saved of a manager whose networks list its own nodes, whatever
the client that loads it has got, as long as `clear` does not throw: none of its nodes is active, or the log
does not take the record of `disconnect`. The file gives back the values that it was given. -/
theorem load_restores (lib : Libraries κ ξ (List Item)) (world : Nat → Surroundings κ (List Item))
    (hsource : lib.source = itemSource)
    {startup : Startup κ ξ (List Item)} {c : Client κ ξ} (hstart : start lib startup = some c)
    {arguments : Arguments} {lines : List String} {s : ProgramLoop (Client κ ξ)}
    (hrun : Runs.run (ProgramLoop.step (dispatcher lib world)) { context := c, arguments } lines = some s)
    (hnodes : s.context.nodesMap.size < 2 ^ 31) (hnetworks : s.context.networksMap.size < 2 ^ 31)
    (hlists : s.context.ListsOwn) (d : Dispatch) (sourceFile : Option String)
    (hargs : Sp2pContext.filename lib Sp2pContext.loadState "Filename requires password to decode" d =
      .ok (some sourceFile))
    (hfile : (world d.line).file = some s.context.manager.saveState) {t : Client κ ξ} {source : Source}
    (hget : (Sp2pContext.setDataFile sourceFile t).dataManager.getSource = .ok source) :
    (∃ t', Sp2pContext.load lib world d t = (none, t') ∧ s.context.manager.Same t'.manager) ↔
      (lib.opened = true → ∀ k p, (k, p) ∈ t.nodesMap.toList → (t.nodes p).isActive = false) := by
  have hsound := (sound_run lib world (sound_start lib hstart) hrun).1
  have hround := hsound.roundTrip_iff.2 ⟨hnodes, hnetworks, hlists⟩
  obtain ⟨dataManager, hset⟩ := Sp2pContext.setDataFile_eq sourceFile t
  rw [hset] at hget
  have hload := loadState_restores_iff hround t.toObjects lib.opened t.held
  have heq : Sp2pContext.load lib world d t =
      onObjects (fun o => o.loadState itemSource lib.opened (some s.context.manager.saveState))
        { t with dataManager } := by
    have hopen : Sp2pContext.source (some s.context.manager.saveState) { t with dataManager } =
        some s.context.manager.saveState := by
      rw [Sp2pContext.source, hget]
    simp only [Sp2pContext.load, reading, attempt, hargs, hfile, Sp2pContext.loadFrom, hsource, hset, hopen]
  rw [heq]
  constructor
  · rintro ⟨t', ht', hsame⟩
    obtain ⟨hnone, rfl⟩ := Prod.mk.inj ht'
    exact hload.1 ⟨hnone, hsame⟩
  · intro hstops
    obtain ⟨hnone, hsame⟩ := hload.2 hstops
    exact ⟨_, Prod.ext hnone rfl, hsame⟩

/-- What is saved of the node and the network that lists it. -/
def savedNode : List Item :=
  [.text "1", .node ⟨⟨"127.0.0.1", "node1", 10⟩, .default⟩, .text "1",
    .network ⟨.PUBLIC, .LISTED, .CLIENT_ONLY, "chess", "net1", {}⟩, .nodes [⟨"127.0.0.1", "node1", 10⟩]]

def withFile (_ : Nat) : Surroundings Unit (List Item) where
  key := ()
  file := some savedNode

/-- The log takes the records of `disconnect`, as `logging::init` has it. -/
def loggingLibraries : Libraries Unit Unit (List Item) := { plainLibraries with opened := true }

/-- Another client, with a node that is not active. -/
def idleClient : Client Unit Unit where
  dataManager := ⟨.CryptDataManager "", "file"⟩
  toObjects := ({} : Objects Unit Unit).addNode (.new ⟨"127.0.0.1", "node2", 10⟩ .default)

theorem load_restores_node :
    ∃ s t', Runs.run (ProgramLoop.step (dispatcher loggingLibraries withFile)) newClient listsNode = some s ∧
      Sp2pContext.load loggingLibraries withFile ⟨0, ["load"], 1, newClient.arguments⟩ idleClient =
        (none, t') ∧ s.context.manager.Same t'.manager := by
  have hsome : (Runs.run (ProgramLoop.step (dispatcher loggingLibraries withFile)) newClient listsNode).map
      (fun s => (s.context.nodesMap.size, s.context.networksMap.size, decide s.context.ListsOwn,
        s.context.manager.saveState)) = some (1, 1, true, savedNode) := by
    decide +kernel
  obtain ⟨s, hrun, heq⟩ := Option.map_eq_some_iff.1 hsome
  obtain ⟨hnodes, heq⟩ := Prod.mk.inj heq
  obtain ⟨hnetworks, heq⟩ := Prod.mk.inj heq
  obtain ⟨hlists, hsaved⟩ := Prod.mk.inj heq
  have hidle : ∀ k p, (k, p) ∈ idleClient.nodesMap.toList → (idleClient.nodes p).isActive = false := by
    intro k p hkp
    rcases TreeMap.mem_toList_assign.1 hkp with ⟨-, rfl⟩ | ⟨-, hold⟩
    · rfl
    · simp at hold
  obtain ⟨t', hload, hsame⟩ := (load_restores loggingLibraries withFile rfl
    (show start loggingLibraries nothingKept = some newClient.context from rfl) hrun
    (by rw [hnodes]; decide) (by rw [hnetworks]; decide) (of_decide_eq_true hlists)
    ⟨0, ["load"], 1, newClient.arguments⟩ none rfl (congrArg some hsaved.symm)
    (t := idleClient) rfl).2 fun _ => hidle
  exact ⟨s, t', hrun, hload, hsame⟩

end Sp2p.NodeClient
