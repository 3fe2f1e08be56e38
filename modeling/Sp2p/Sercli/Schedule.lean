import Mathlib.Algebra.Ring.Nat
import Mathlib.Data.List.Induction
import Sp2p.Lib.TreeMap
import Sp2p.Sercli.NodeCalls

/-!
# The update schedule of a server

`Server::updateStateHandler` files a node that has taken an update under the second by which it wants
the next one; what was filed of the node before is searched and erased. The seconds are the keys of the
map, so there is one place for each, and `insert` does nothing where the place is taken: the node is in
no place then.

`scheduled_iff` says for which reports no node drops out.
-/

namespace Sp2p.Sercli

open Std

/-- The call of `updateStateHandler` for the reply of a node, with the clock. Nodes are compared by
their addresses. -/
structure Report (ν : Type) where
  now : Int
  error : NodeError
  timeLeft : Int32
  node : ν

/-- `std::time(0) + time_left`, as a `std::uint64_t`. -/
def Report.thisUpdate {ν : Type} (r : Report ν) : UInt64 := UInt64.ofInt (r.now + r.timeLeft.toInt)

/-- `expiresAt` is the expiry of the timer, `none` for `not_a_date_time`, and `waits` counts the waits
for it that were started. -/
structure Schedule (ν : Type) where
  nodesToUpdate : ExtTreeMap UInt64 ν := ∅
  expiresAt : Option Int := none
  waits : Nat := 0

namespace Schedule

variable {ν : Type} [DecidableEq ν]

/-- The loop: the first entry of the node is erased. -/
def eraseNode (t : ExtTreeMap UInt64 ν) (node : ν) : ExtTreeMap UInt64 ν :=
  match t.toList.find? (·.2 = node) with
  | some it => t.erase it.1
  | none => t

def updateStateHandler (s : Schedule ν) (r : Report ν) : Schedule ν :=
  if r.error ≠ .ok then s
  else
    let nodes := eraseNode s.nodesToUpdate r.node
    let earliestUpdate := nodes.minKey?.getD (UInt64.ofNat (2 ^ 64 - 1))
    let s := { s with nodesToUpdate := nodes.insertIfNew r.thisUpdate r.node }
    if r.thisUpdate < earliestUpdate then
      { s with
        expiresAt := s.expiresAt.map (· + (r.timeLeft >>> 1).toInt)
        waits := s.waits + 1 }
    else s

/-- The nodes that `timerUpdate` asks for an update. -/
def timerUpdate (s : Schedule ν) : List ν := s.nodesToUpdate.toList.map Prod.snd

def after (reports : List (Report ν)) : Schedule ν := reports.foldl updateStateHandler {}

/-- The second of the latest report of a node, if it has reported. -/
def latest (reports : List (Report ν)) (node : ν) : Option UInt64 :=
  (reports.reverse.find? fun r => r.error = .ok ∧ r.node = node).map Report.thisUpdate

/-- Every node that has reported is in one place, that of its latest report. -/
def Scheduled (reports : List (Report ν)) (s : Schedule ν) : Prop :=
  ∀ n d, latest reports n = some d → ∀ k, s.nodesToUpdate[k]? = some n ↔ k = d

/-- The report wants a second that is not the latest of another node. -/
def Apart (reports : List (Report ν)) (r : Report ν) : Prop :=
  r.error = .ok → ∀ m, m ≠ r.node → latest reports m ≠ some r.thisUpdate

variable {s : Schedule ν} {r : Report ν} {reports : List (Report ν)}

/-! ### One report -/

theorem latest_append (reports : List (Report ν)) (r : Report ν) (n : ν) :
    latest (reports ++ [r]) n =
      if r.error = .ok ∧ r.node = n then some r.thisUpdate else latest reports n := by
  unfold latest
  rw [List.reverse_append, List.reverse_singleton, List.singleton_append, List.find?_cons]
  by_cases h : r.error = .ok ∧ r.node = n
  · rw [if_pos h]
    simp [h]
  · rw [if_neg h]
    simp [h]

theorem after_append (reports : List (Report ν)) (r : Report ν) :
    after (reports ++ [r]) = (after reports).updateStateHandler r := by
  rw [after, List.foldl_append]
  rfl

/-- Erasing moves nobody. -/
theorem of_eraseNode {t : ExtTreeMap UInt64 ν} {node n : ν} {k : UInt64}
    (h : (eraseNode t node)[k]? = some n) : t[k]? = some n := by
  unfold eraseNode at h
  split at h
  · rw [ExtTreeMap.getElem?_erase] at h
    split at h
    · cases h
    · exact h
  · exact h

/-- A node that is in one place at most is in none afterwards, and the others stay. -/
theorem getElem?_eraseNode {t : ExtTreeMap UInt64 ν} {node : ν}
    (honce : ∀ k k' : UInt64, t[k]? = some node → t[k']? = some node → k = k') (k : UInt64) :
    (eraseNode t node)[k]? = if t[k]? = some node then none else t[k]? := by
  unfold eraseNode
  split
  · rename_i it hfind
    have hit : t[it.1]? = some node := by
      have hnode : it.2 = node := by simpa using List.find?_some hfind
      rw [← hnode]
      exact ExtTreeMap.mem_toList_iff_getElem?_eq_some.1 (List.mem_of_find?_eq_some hfind)
    rw [ExtTreeMap.getElem?_erase]
    by_cases hk : t[k]? = some node
    · rw [if_pos hk, honce k it.1 hk hit, if_pos ReflCmp.compare_self]
    · rw [if_neg hk, if_neg]
      intro heq
      rw [Std.compare_eq_iff_eq] at heq
      exact hk (heq ▸ hit)
  · rename_i hfind
    rw [if_neg]
    intro hk
    have hnone := List.find?_eq_none.1 hfind (k, node)
      (ExtTreeMap.mem_toList_iff_getElem?_eq_some.2 hk)
    simp at hnone

/-- A report without success changes nothing. -/
theorem updateStateHandler_of_error (h : r.error ≠ .ok) : s.updateStateHandler r = s := if_pos h

theorem nodesToUpdate_updateStateHandler (h : r.error = .ok) :
    (s.updateStateHandler r).nodesToUpdate =
      (eraseNode s.nodesToUpdate r.node).insertIfNew r.thisUpdate r.node := by
  unfold updateStateHandler
  rw [if_neg (by simp [h])]
  dsimp only
  split
  · rfl
  · rfl

/-- A success moves nobody but the node, and that to its new place at most. -/
theorem of_updateStateHandler {n : ν} {k : UInt64} (hok : r.error = .ok)
    (h : (s.updateStateHandler r).nodesToUpdate[k]? = some n) :
    n = r.node ∧ k = r.thisUpdate ∨ s.nodesToUpdate[k]? = some n := by
  rw [nodesToUpdate_updateStateHandler hok, ExtTreeMap.getElem?_insertIfNew] at h
  split at h
  · rename_i hnew
    exact .inl ⟨(Option.some_inj.1 h).symm, (Std.compare_eq_iff_eq.1 hnew.1).symm⟩
  · exact .inr (of_eraseNode h)

/-- Who is in a place has reported. -/
theorem reported_of_entry (reports : List (Report ν)) :
    ∀ {k : UInt64} {n : ν}, (after reports).nodesToUpdate[k]? = some n →
      ∃ d, latest reports n = some d := by
  induction reports using List.reverseRecOn with
  | nil =>
    intro k n h
    simp [after] at h
  | append_singleton reports r ih =>
    intro k n h
    rw [after_append] at h
    rw [latest_append]
    by_cases hreports : r.error = .ok ∧ r.node = n
    · exact ⟨r.thisUpdate, if_pos hreports⟩
    · rw [if_neg hreports]
      by_cases hok : r.error = .ok
      · rcases of_updateStateHandler hok h with ⟨rfl, -⟩ | hold
        · exact absurd ⟨hok, rfl⟩ hreports
        · exact ih hold
      · rw [updateStateHandler_of_error hok] at h
        exact ih h

/-! ### Nobody drops out -/

/-- The places of the nodes are those of their latest reports, and nothing else is in the map. -/
theorem scheduled_iff_filed :
    Scheduled reports (after reports) ↔
      ∀ n (k : UInt64), (after reports).nodesToUpdate[k]? = some n ↔ latest reports n = some k := by
  constructor
  · intro h n k
    constructor
    · intro hk
      obtain ⟨d, hd⟩ := reported_of_entry reports hk
      rw [hd, (h n d hd k).1 hk]
    · intro hk
      exact (h n k hk k).2 rfl
  · intro h n d hd k
    rw [h n k, hd, Option.some_inj]
    exact eq_comm

/-- Where the second is nobody else's, the node moves to it and the others stay. -/
theorem getElem?_of_apart (h : Scheduled reports (after reports)) (hok : r.error = .ok)
    (hapart : Apart reports r) (k : UInt64) :
    (after (reports ++ [r])).nodesToUpdate[k]? =
      if r.thisUpdate = k then some r.node
      else if (after reports).nodesToUpdate[k]? = some r.node then none
      else (after reports).nodesToUpdate[k]? := by
  rw [scheduled_iff_filed] at h
  have honce : ∀ k k' : UInt64, (after reports).nodesToUpdate[k]? = some r.node →
      (after reports).nodesToUpdate[k']? = some r.node → k = k' := by
    intro k k' hk hk'
    exact Option.some_inj.1 (((h _ k).1 hk).symm.trans ((h _ k').1 hk'))
  have hfree : r.thisUpdate ∉ eraseNode (after reports).nodesToUpdate r.node := by
    rw [ExtTreeMap.mem_iff_isSome_getElem?, getElem?_eraseNode honce]
    split
    · simp
    · rename_i hother
      cases htaken : (after reports).nodesToUpdate[r.thisUpdate]? with
      | none => simp
      | some m =>
        have hm : m ≠ r.node := by
          rintro rfl
          exact hother htaken
        exact absurd ((h m _).1 htaken) (hapart hok m hm)
  rw [after_append, nodesToUpdate_updateStateHandler hok, ExtTreeMap.getElem?_insertIfNew,
    getElem?_eraseNode honce]
  simp only [Std.compare_eq_iff_eq, hfree, not_false_eq_true, and_true]

/-- **One report.** With all nodes in their places, they are so after a report exactly when it is apart. -/
theorem scheduled_append_iff (h : Scheduled reports (after reports)) :
    Scheduled (reports ++ [r]) (after (reports ++ [r])) ↔ Apart reports r := by
  by_cases hok : r.error = .ok
  · rw [scheduled_iff_filed]
    constructor
    · intro hfiled _ m hm hlatest
      have hnode := (hfiled r.node r.thisUpdate).2 (by rw [latest_append, if_pos ⟨hok, rfl⟩])
      have hother := (hfiled m r.thisUpdate).2
        (by rw [latest_append, if_neg (fun hmine => hm hmine.2.symm), hlatest])
      rw [hnode, Option.some_inj] at hother
      exact hm hother.symm
    · intro hapart n k
      have hlookup := getElem?_of_apart h hok hapart k
      have hlatest := latest_append reports r n
      rw [scheduled_iff_filed] at h
      by_cases hk : r.thisUpdate = k
      · rw [if_pos hk] at hlookup
        rw [hlookup, Option.some_inj]
        by_cases hn : r.node = n
        · rw [if_pos ⟨hok, hn⟩] at hlatest
          exact iff_of_true hn (hlatest.trans (congrArg some hk))
        · rw [if_neg fun hmine => hn hmine.2] at hlatest
          rw [hlatest, ← hk]
          exact iff_of_false hn (hapart hok n fun heq => hn heq.symm)
      · rw [if_neg hk] at hlookup
        by_cases hn : r.node = n
        · rw [if_pos ⟨hok, hn⟩] at hlatest
          rw [hlookup, hlatest]
          refine iff_of_false ?_ (by simpa using hk)
          split
          · simp
          · rename_i hother
            exact hn ▸ hother
        · rw [if_neg fun hmine => hn hmine.2] at hlatest
          rw [hlookup, hlatest, ← h n k]
          split
          · rename_i hnode
            rw [hnode]
            simpa using hn
          · exact Iff.rfl
  · have hsame : latest (reports ++ [r]) = latest reports := by
      funext n
      rw [latest_append, if_neg fun hmine => hok hmine.1]
    rw [after_append, updateStateHandler_of_error hok]
    unfold Scheduled
    rw [hsame]
    exact iff_of_true h fun hok' => absurd hok' hok

/-- **No node drops out of the schedule at any time exactly when no report wants the second that is the
latest of another node.** -/
theorem scheduled_iff (reports : List (Report ν)) :
    (∀ part, part <+: reports → Scheduled part (after part)) ↔
      ∀ part r, part ++ [r] <+: reports → Apart part r := by
  induction reports using List.reverseRecOn with
  | nil =>
    refine iff_of_true ?_ ?_
    · intro part hpart
      obtain rfl := List.prefix_nil.1 hpart
      intro n d hd
      cases hd
    · intro part r hpart
      simp at hpart
  | append_singleton reports r ih =>
    constructor
    · intro h part r' hpart
      have hprefix : part <+: reports ++ [r] := (List.prefix_append _ _).trans hpart
      exact (scheduled_append_iff (h part hprefix)).1 (h (part ++ [r']) hpart)
    · intro h
      have hbefore : ∀ part, part <+: reports → Scheduled part (after part) :=
        ih.2 fun part r' hpart => h part r' (hpart.trans (List.prefix_append _ _))
      intro part hpart
      rcases List.prefix_concat_iff.1 hpart with rfl | hpart
      · exact (scheduled_append_iff (hbefore reports (List.prefix_refl _))).2
          (h reports r (List.prefix_refl _))
      · exact hbefore part hpart

/-- As long as nobody drops out, `timerUpdate` asks those that have reported. -/
theorem mem_timerUpdate (h : Scheduled reports (after reports)) (n : ν) :
    n ∈ (after reports).timerUpdate ↔ ∃ d, latest reports n = some d := by
  rw [scheduled_iff_filed] at h
  simp only [timerUpdate, List.mem_map, Prod.exists, exists_eq_right,
    ExtTreeMap.mem_toList_iff_getElem?_eq_some, h]

/-- Two nodes that report in one second and have as long. -/
def sameSecond : List (Report Nat) := [⟨1000, .ok, 60, 0⟩, ⟨1000, .ok, 60, 1⟩]

/-- The second node has reported, and is not in the map. -/
theorem not_scheduled_sameSecond :
    latest sameSecond 1 = some 1060 ∧ (after sameSecond).nodesToUpdate.toList = [(1060, 0)] ∧
      ¬ Scheduled sameSecond (after sameSecond) := by
  have hnodes : (after sameSecond).nodesToUpdate =
      (eraseNode ((eraseNode (∅ : ExtTreeMap UInt64 Nat) 0).insertIfNew 1060 0) 1).insertIfNew
        1060 1 := by
    rw [after, sameSecond, List.foldl_cons, List.foldl_cons, List.foldl_nil,
      nodesToUpdate_updateStateHandler rfl, nodesToUpdate_updateStateHandler rfl]
    rfl
  have hlatest : latest sameSecond 1 = some 1060 := by decide
  have hlist : (after sameSecond).nodesToUpdate.toList = [(1060, 0)] := by
    rw [hnodes]
    decide +kernel
  refine ⟨hlatest, hlist, fun h => ?_⟩
  have hplace := (h 1 1060 hlatest 1060).2 rfl
  rw [← ExtTreeMap.mem_toList_iff_getElem?_eq_some, hlist] at hplace
  exact absurd hplace (by decide)

end Schedule

end Sp2p.Sercli
