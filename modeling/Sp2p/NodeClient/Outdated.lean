import Sp2p.NodeClient.Consistency

/-!
# Objects that the manager has not got

A context keeps its node and its network when the manager has removed them, or has been cleared or loaded
anew. `outdated_run` says that they stay picked, and none of the manager's, until an object is picked again,
and that until then nothing that is done in the contexts `Node` and `Network` comes into what is saved.
-/

namespace Sp2p.NodeClient

open Std Protocol Sercli

variable {κ ξ σ : Type}

/-- The working node and the working network are none of the manager's. -/
structure Client.Outdated (s : Client κ ξ) : Prop where
  node : ∀ p, s.current.node = some p → ∀ k, (k, p) ∉ s.nodesMap.toList
  network : ∀ q, s.current.network = some q → ∀ k, (k, q) ∉ s.networksMap.toList

/-! ### What is saved -/

namespace Objects

theorem saveState_manager (o : Objects κ ξ) (held : NodePtr → Bool) :
    (o.manager held).saveState = .text (toString o.nodesMap.size) ::
      (o.nodesMap.toList.map (fun e => .node (o.nodes e.2).toNode) ++
        .text (toString o.networksMap.size) ::
          o.networksMap.toList.flatMap fun e => Manager.saveNetwork (o.networks e.2)) := by
  have hnodes : (o.manager held).storedNodes = o.nodesMap.toList.map fun e => (o.nodes e.2).toNode := rfl
  have hnetworks : (o.manager held).networksMap = o.networksMap.map fun _ q => o.networks q := rfl
  rw [Manager.saveState, hnodes, hnetworks, ExtTreeMap.size_map, ExtTreeMap.toList_map, List.map_map,
    List.flatMap_map]
  rfl

/-- Only what the maps have got is saved. -/
theorem saveState_congr {o o' : Objects κ ξ} {held held' : NodePtr → Bool}
    (hnodesMap : o'.nodesMap = o.nodesMap) (hnetworksMap : o'.networksMap = o.networksMap)
    (hnodes : ∀ k p, (k, p) ∈ o.nodesMap.toList → (o'.nodes p).toNode = (o.nodes p).toNode)
    (hnetworks : ∀ k q, (k, q) ∈ o.networksMap.toList → o'.networks q = o.networks q) :
    (o'.manager held').saveState = (o.manager held).saveState := by
  have hmap : o.nodesMap.toList.map (fun e => Item.node (o'.nodes e.2).toNode) =
      o.nodesMap.toList.map fun e => Item.node (o.nodes e.2).toNode :=
    List.map_congr_left fun e he => congrArg Item.node (hnodes e.1 e.2 he)
  have hflat : (o.networksMap.toList.flatMap fun e => Manager.saveNetwork (o'.networks e.2)) =
      o.networksMap.toList.flatMap fun e => Manager.saveNetwork (o.networks e.2) :=
    List.flatMap_congr fun e he => congrArg Manager.saveNetwork (hnetworks e.1 e.2 he)
  rw [saveState_manager, saveState_manager, hnodesMap, hnetworksMap, hmap, hflat]

end Objects

section Effects

variable {s : Client κ ξ} {r : Option Thrown × Client κ ξ}

theorem saveState_endConnections (s : Client κ ξ) (ended : List NodePtr) :
    (s.endConnections ended).manager.saveState = s.manager.saveState :=
  Objects.saveState_congr rfl rfl (fun _ _ _ => rfl) fun _ _ _ => rfl

/-- What the context changes is not saved. -/
theorem LocalEffect.saveState (h : LocalEffect s r) (hs : s.Sound) (hout : s.Outdated) :
    r.2.manager.saveState = s.manager.saveState := by
  cases h with
  | throws thrown => rfl
  | moves context => exact Objects.saveState_congr rfl rfl (fun _ _ _ => rfl) fun _ _ _ => rfl
  | node p n t hp hdesc ht =>
    rw [hs.nodeC] at hp
    refine Objects.saveState_congr rfl rfl (fun k p' hkp => ?_) fun _ _ _ => rfl
    rw [Client.setNode, Objects.nodes_setNode, if_neg]
    rintro rfl
    exact hout.node p' hp k hkp
  | sessions g t hg =>
    exact Objects.saveState_congr rfl rfl (fun k p _ => (hg p).toNode) fun _ _ _ => rfl
  | network q network hq hdesc hlisted =>
    rw [hs.networkC] at hq
    refine Objects.saveState_congr rfl rfl (fun _ _ _ => rfl) fun k q' hkq => ?_
    rw [Client.setNetwork, Objects.networks_setNetwork, if_neg]
    rintro rfl
    exact hout.network q' hq k hkq

/-! ### Until an object is picked -/

theorem LocalEffect.outdated (h : LocalEffect s r) (hout : s.Outdated) : r.2.Outdated := by
  cases h with
  | throws | moves | node | sessions | network => exact ⟨hout.node, hout.network⟩

/-- Only `gnd` and `gnt` pick an object. -/
theorem LocalEffect.current (h : LocalEffect s r) : r.2.current = s.current := by
  cases h with
  | throws | moves | node | sessions | network => rfl

theorem Effect.current (h : Effect s r) : r.2.current = s.current := by
  cases h with
  | ofLocal h => exact h.current
  | createNode | removeNode | createNetwork | removeNetwork | saves | renews => rfl

/-- The maps have got new objects only. -/
structure NewEntries (o o' : Objects κ ξ) : Prop where
  nextNode : o.nextNode ≤ o'.nextNode
  nextNetwork : o.nextNetwork ≤ o'.nextNetwork
  nodes : ∀ k p, (k, p) ∈ o'.nodesMap.toList → o.nextNode ≤ p
  networks : ∀ k q, (k, q) ∈ o'.networksMap.toList → o.nextNetwork ≤ q

theorem newEntries_loadFile {o : Objects κ ξ} (hnodes : o.nodesMap = ∅) (hnetworks : o.networksMap = ∅)
    (src : AbstractSource σ) (source : Option σ) : NewEntries o (o.loadFile src source).1 := by
  have hadd : Objects.KeptByLoad (NewEntries o) := by
    refine ⟨fun o' n h => ?_, fun o' desc descs h => ?_⟩
    · refine ⟨Nat.le_succ_of_le h.nextNode, h.nextNetwork, fun k p hkp => ?_, h.networks⟩
      rcases TreeMap.mem_toList_assign.1 hkp with ⟨-, rfl⟩ | ⟨-, hold⟩
      · exact h.nextNode
      · exact h.nodes k p hold
    · refine ⟨h.nextNode, Nat.le_succ_of_le h.nextNetwork, h.nodes, fun k q hkq => ?_⟩
      rcases TreeMap.mem_toList_assign.1 hkq with ⟨-, rfl⟩ | ⟨-, hold⟩
      · exact h.nextNetwork
      · exact h.networks k q hold
  exact Objects.loadFile_keeps hadd source
    ⟨Nat.le_refl _, Nat.le_refl _, by simp [hnodes], by simp [hnetworks]⟩

/-- `clear` and `loadState` leave nothing of what the contexts work with in the maps. -/
theorem Effect.outdated (h : Effect s r) (hs : s.Sound) (hout : s.Outdated) : r.2.Outdated := by
  cases h with
  | ofLocal h => exact h.outdated hout
  | createNode desc user =>
    refine ⟨fun p hp k hkp => ?_, hout.network⟩
    rcases TreeMap.mem_toList_assign.1 hkp with ⟨-, rfl⟩ | ⟨-, hold⟩
    · exact Nat.lt_irrefl _ (hs.node _ hp)
    · exact hout.node p hp k hold
  | removeNode desc =>
    exact ⟨fun p hp k hkp => hout.node p hp k (TreeMap.mem_toList_erase.1 hkp).2, hout.network⟩
  | createNetwork desc =>
    refine ⟨hout.node, fun q hq k hkq => ?_⟩
    rcases TreeMap.mem_toList_assign.1 hkq with ⟨-, rfl⟩ | ⟨-, hold⟩
    · exact Nat.lt_irrefl _ (hs.network _ hq)
    · exact hout.network q hq k hold
  | removeNetwork desc =>
    exact ⟨hout.node, fun q hq k hkq => hout.network q hq k (TreeMap.mem_toList_erase.1 hkq).2⟩
  | saves dataManager saved t ht => exact ⟨hout.node, hout.network⟩
  | renews dataManager g o t hg ho ht =>
    cases ho with
    | stopped => exact ⟨hout.node, hout.network⟩
    | cleared => exact ⟨fun _ _ _ => by simp, fun _ _ _ => by simp⟩
    | loaded src source =>
      have hnew := newEntries_loadFile (κ := κ) (ξ := ξ)
        (o := { s.toObjects with nodes := g, nodesMap := ∅, networksMap := ∅ }) rfl rfl src source
      refine ⟨fun p hp k hkp => ?_, fun q hq k hkq => ?_⟩
      · exact Nat.not_lt_of_le (hnew.nodes k p hkp) (hs.node p hp)
      · exact Nat.not_lt_of_le (hnew.networks k q hkq) (hs.network q hq)

end Effects

/-! ### Runs -/

section Runs

variable (lib : Libraries κ ξ σ) (world : Nat → Surroundings κ σ) {s s' : ProgramLoop (Client κ ξ)}

/-- The line does not pick an object. -/
def PicksNothing (commandLine : String) : Prop :=
  (splitInput commandLine).head? ≠ some "gnd" ∧ (splitInput commandLine).head? ≠ some "gnt"

instance (commandLine : String) : Decidable (PicksNothing commandLine) :=
  inferInstanceAs (Decidable (_ ∧ _))

theorem outdated_endConnections {c : Client κ ξ} (hout : c.Outdated) (ended : List NodePtr) :
    (c.endConnections ended).Outdated :=
  ⟨hout.node, hout.network⟩

theorem outdated_step {commandLine : String} (hline : PicksNothing commandLine) (hs : s.context.Sound)
    (hout : s.context.Outdated) (h : s.step (dispatcher lib world) commandLine = some s') :
    s'.context.Outdated ∧ s'.context.current = s.context.current := by
  rw [s.step_context h]
  rcases s.turn_cases (dispatcher lib world) commandLine with
    heq | ⟨command, rest, call, d, hsplit, hcall, heq, -⟩
  · rw [heq]
    exact ⟨hout, rfl⟩
  · rw [heq]
    have hended := (hs.endConnections (world d.line).ended).1
    have hout' := outdated_endConnections hout (world d.line).ended
    rcases dispatcher_cases lib world hcall d s.context with
      (hlocal | ⟨heffect, -⟩) | ⟨-, -, hcommand⟩
    · exact ⟨hlocal.outdated hout', hlocal.current⟩
    · exact ⟨heffect.outdated hended hout', heffect.current⟩
    · rw [PicksNothing, hsplit] at hline
      rcases hcommand with rfl | rfl
      · exact absurd rfl hline.1
      · exact absurd rfl hline.2

/-- A line in another context than `Sp2p`. -/
theorem saveState_turn {commandLine : String} (hcontext : s.context.currentContext ≠ .sp2p)
    (hs : s.context.Sound) (hout : s.context.Outdated) :
    (s.turn (dispatcher lib world) commandLine).1.context.manager.saveState =
      s.context.manager.saveState := by
  rcases s.turn_cases (dispatcher lib world) commandLine with
    heq | ⟨command, rest, call, d, -, hcall, heq, -⟩
  · rw [heq]
  · rw [heq]
    have hended := (hs.endConnections (world d.line).ended).1
    rcases dispatcher_cases lib world hcall d s.context with
      (hlocal | ⟨-, hsp2p⟩) | ⟨-, hsp2p, -⟩
    · rw [hlocal.saveState hended (outdated_endConnections hout _), saveState_endConnections]
    · exact absurd hsp2p hcontext
    · exact absurd hsp2p hcontext

end Runs

end Sp2p.NodeClient
