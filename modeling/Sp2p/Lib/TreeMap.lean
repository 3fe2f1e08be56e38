import Std.Data.ExtTreeMap
import Mathlib.Data.List.Perm.Basic
import Mathlib.Tactic.Common

/-!
# Ordered maps whose keys carry more than their order

In a map ordered by a part of its key the comparison may call two keys equivalent that differ in the
rest, so a lookup does not say which key is stored. What a map holds is therefore its list of
entries: each update is described by the entries it leaves, and entries with equivalent keys are one.

`assign` writes the value of a key and lets the key stay that is there. A map read back from its
entries finds what the map finds (`getElem?_foldl_assign_toList`).
-/

namespace TreeMap

open Std ExtTreeMap

variable {α β γ δ : Type*} {cmp : α → α → Ordering} [TransCmp cmp] {t : ExtTreeMap α β cmp}

@[simp] theorem toList_empty : (∅ : ExtTreeMap α β cmp).toList = [] := toList_eq_nil_iff.2 rfl

theorem entry_unique {a a' : α} {b b' : β} (h : (a, b) ∈ t.toList) (h' : (a', b') ∈ t.toList)
    (heq : cmp a a' = .eq) : a = a' ∧ b = b' := by
  simp only [mem_toList_iff_getKey?_eq_some_and_getElem?_eq_some] at h h'
  obtain ⟨hkey, hval⟩ := h
  rw [getKey?_congr heq] at hkey
  rw [getElem?_congr heq] at hval
  exact ⟨Option.some_inj.1 (hkey.symm.trans h'.1), Option.some_inj.1 (hval.symm.trans h'.2)⟩

theorem nodup_toList : t.toList.Nodup :=
  distinct_keys_toList.imp fun {a b} hne heq => hne (by rw [heq]; exact ReflCmp.compare_self)

theorem getElem?_eq_some_of_entry {k a : α} {b : β} (h : (a, b) ∈ t.toList) (heq : cmp k a = .eq) :
    t[k]? = some b :=
  getElem?_eq_some_iff_exists_compare_eq_eq_and_mem_toList.2 ⟨a, heq, h⟩

theorem mem_of_entry {a : α} {b : β} (h : (a, b) ∈ t.toList) : a ∈ t := by
  rw [mem_iff_isSome_getElem?, getElem?_eq_some_of_entry h ReflCmp.compare_self]
  rfl

theorem not_mem_iff {k : α} : k ∉ t ↔ ∀ a b, (a, b) ∈ t.toList → cmp k a ≠ .eq := by
  constructor
  · intro hk a b hab heq
    exact hk ((mem_congr heq).2 (mem_of_entry hab))
  · intro h hk
    obtain ⟨b, hb⟩ := Option.isSome_iff_exists.1 (mem_iff_isSome_getElem?.1 hk)
    obtain ⟨a, heq, hab⟩ := getElem?_eq_some_iff_exists_compare_eq_eq_and_mem_toList.1 hb
    exact h a b hab heq

theorem mem_toList_insert {k a : α} {v b : β} :
    (a, b) ∈ (t.insert k v).toList ↔ a = k ∧ b = v ∨ cmp k a ≠ .eq ∧ (a, b) ∈ t.toList := by
  simp only [mem_toList_iff_getKey?_eq_some_and_getElem?_eq_some, getKey?_insert, getElem?_insert]
  by_cases heq : cmp k a = .eq
  · simp [heq, eq_comm]
  · have hne : a ≠ k := by
      rintro rfl
      exact heq ReflCmp.compare_self
    simp [heq, hne]

theorem mem_toList_insert_of_not_mem {k a : α} {v b : β} (hk : k ∉ t) :
    (a, b) ∈ (t.insert k v).toList ↔ a = k ∧ b = v ∨ (a, b) ∈ t.toList := by
  rw [mem_toList_insert, and_iff_right_of_imp (not_mem_iff.1 hk a b)]

theorem mem_toList_erase {k a : α} {b : β} :
    (a, b) ∈ (t.erase k).toList ↔ cmp k a ≠ .eq ∧ (a, b) ∈ t.toList := by
  simp only [mem_toList_iff_getKey?_eq_some_and_getElem?_eq_some, getKey?_erase, getElem?_erase]
  by_cases heq : cmp k a = .eq <;> simp [heq]

theorem toList_insert_perm {k : α} {v : β} (hk : k ∉ t) :
    (t.insert k v).toList.Perm ((k, v) :: t.toList) := by
  refine (List.perm_ext_iff_of_nodup nodup_toList (List.nodup_cons.2 ⟨?_, nodup_toList⟩)).2 ?_
  · intro h
    exact hk (mem_of_entry h)
  · rintro ⟨a, b⟩
    rw [mem_toList_insert_of_not_mem hk, List.mem_cons, Prod.mk.injEq]

theorem insertIfNew_of_not_mem {k : α} {v : β} (hk : k ∉ t) : t.insertIfNew k v = t.insert k v := by
  refine ext_toList ((List.perm_ext_iff_of_nodup nodup_toList nodup_toList).2 ?_)
  rintro ⟨a, b⟩
  simp [getKey?_insertIfNew, getElem?_insertIfNew, getKey?_insert, getElem?_insert, hk]

theorem mem_toList_insertIfNew {k a : α} {v b : β} :
    (a, b) ∈ (t.insertIfNew k v).toList ↔ (a, b) ∈ t.toList ∨ a = k ∧ b = v ∧ k ∉ t := by
  by_cases hk : k ∈ t
  · simp [mem_toList_iff_getKey?_eq_some_and_getElem?_eq_some, getKey?_insertIfNew,
      getElem?_insertIfNew, hk]
  · rw [insertIfNew_of_not_mem hk, mem_toList_insert_of_not_mem hk, or_comm]
    simp only [hk, not_false_eq_true, and_true]

theorem mem_toList_foldl_erase {p : α × β → Prop} [DecidablePred p] {a : α} {b : β} (l : List (α × β)) :
    ∀ s : ExtTreeMap α β cmp,
      (a, b) ∈ (l.foldl (fun s e => if p e then s.erase e.1 else s) s).toList ↔
        (∀ e ∈ l, p e → cmp e.1 a ≠ .eq) ∧ (a, b) ∈ s.toList := by
  induction l with
  | nil =>
    intro s
    simp
  | cons e l ih =>
    intro s
    rw [List.foldl_cons, ih, List.forall_mem_cons]
    by_cases he : p e
    · rw [if_pos he, mem_toList_erase]
      tauto
    · rw [if_neg he]
      tauto

/-- A loop over the entries that erases those with a property leaves the others. -/
theorem mem_toList_foldl_erase_toList {p : α × β → Prop} [DecidablePred p] {a : α} {b : β} :
    (a, b) ∈ (t.toList.foldl (fun s e => if p e then s.erase e.1 else s) t).toList ↔
      (a, b) ∈ t.toList ∧ ¬ p (a, b) := by
  rw [mem_toList_foldl_erase]
  constructor
  · rintro ⟨herased, hab⟩
    exact ⟨hab, fun hp => herased (a, b) hab hp ReflCmp.compare_self⟩
  · rintro ⟨hab, hp⟩
    refine ⟨?_, hab⟩
    rintro ⟨a', b'⟩ he hpe heq
    obtain ⟨rfl, rfl⟩ := entry_unique he hab heq
    exact hp hpe

/-! ### Writing a value under the key that is there -/

/-- The value of a key is written; a key that is there stays as it is. -/
def assign (t : ExtTreeMap α β cmp) (k : α) (v : β) : ExtTreeMap α β cmp :=
  t.insert (t.getKeyD k k) v

theorem assign_of_not_mem {k : α} {v : β} (hk : k ∉ t) : assign t k v = t.insert k v := by
  rw [assign, getKeyD_eq_fallback hk]

theorem compare_getKeyD (t : ExtTreeMap α β cmp) (k : α) : cmp (t.getKeyD k k) k = .eq := by
  by_cases hk : k ∈ t
  · rw [← getKey_eq_getKeyD (h := hk)]
    exact compare_getKey_self hk
  · rw [getKeyD_eq_fallback hk]
    exact ReflCmp.compare_self

theorem mem_toList_assign {k a : α} {v b : β} :
    (a, b) ∈ (assign t k v).toList ↔
      a = t.getKeyD k k ∧ b = v ∨ cmp k a ≠ .eq ∧ (a, b) ∈ t.toList := by
  rw [assign, mem_toList_insert, TransCmp.congr_left (compare_getKeyD t k)]

theorem getElem?_assign {k a : α} {v : β} :
    (assign t k v)[a]? = if cmp k a = .eq then some v else t[a]? := by
  rw [assign, getElem?_insert, TransCmp.congr_left (compare_getKeyD t k)]

theorem mem_assign {k a : α} {v : β} : a ∈ assign t k v ↔ cmp k a = .eq ∨ a ∈ t := by
  rw [assign, mem_insert, TransCmp.congr_left (compare_getKeyD t k)]

theorem assign_ne_empty {k : α} {v : β} : assign t k v ≠ ∅ := insert_ne_empty

theorem size_assign_le {k : α} {v : β} : (assign t k v).size ≤ t.size + 1 := size_insert_le

theorem size_assign_of_mem {k : α} {v : β} (hk : k ∈ t) : (assign t k v).size = t.size := by
  have hkey : t.getKeyD k k ∈ t := (mem_congr (compare_getKeyD t k)).2 hk
  rw [assign, size_insert, if_pos (mem_iff_contains.1 hkey)]

theorem toList_assign_perm {k : α} {v : β} (hk : k ∉ t) :
    (assign t k v).toList.Perm ((k, v) :: t.toList) := by
  rw [assign_of_not_mem hk]
  exact toList_insert_perm hk

/-- Entries with new keys, no two of them equivalent, are all there at the end. -/
theorem toList_foldl_assign_perm {key : δ → α} (val : δ → β) (l : List δ) :
    ∀ s : ExtTreeMap α β cmp, l.Pairwise (fun x y => cmp (key x) (key y) ≠ .eq) →
      (∀ e ∈ l, key e ∉ s) →
      (l.foldl (fun acc e => assign acc (key e) (val e)) s).toList.Perm
        (l.map (fun e => (key e, val e)) ++ s.toList) := by
  induction l with
  | nil =>
    intro s _ _
    exact List.Perm.refl _
  | cons e l ih =>
    intro s hdist hnew
    obtain ⟨hhead, htail⟩ := List.pairwise_cons.1 hdist
    have hk : key e ∉ s := hnew e List.mem_cons_self
    have hnew' : ∀ x ∈ l, key x ∉ assign s (key e) (val e) := by
      intro x hx
      rw [assign_of_not_mem hk, mem_insert]
      rintro (h | h)
      · exact hhead x hx h
      · exact hnew x (List.mem_cons_of_mem _ hx) h
    have hrest := ih (assign s (key e) (val e)) htail hnew'
    have hmove := (toList_assign_perm (v := val e) hk).append_left
      (l.map fun x => (key x, val x))
    rw [List.foldl_cons, List.map_cons]
    exact (hrest.trans hmove).trans List.perm_middle

/-- A map read back from its values, each under a key equivalent to its own, finds what the map
finds. -/
theorem getElem?_foldl_assign_toList {key : α × β → α} {val : α × β → γ}
    (hkey : ∀ e ∈ t.toList, cmp (key e) e.1 = .eq) (f : β → γ)
    (hval : ∀ e ∈ t.toList, val e = f e.2) (k : α) :
    (t.toList.foldl (fun acc e => assign acc (key e) (val e)) (∅ : ExtTreeMap α γ cmp))[k]? =
      t[k]?.map f := by
  have hdist : t.toList.Pairwise (fun x y => cmp (key x) (key y) ≠ .eq) := by
    refine distinct_keys_toList.imp_of_mem fun {x y} hx hy hne heq => hne ?_
    rw [← TransCmp.congr_left (hkey x hx), ← TransCmp.congr_right (hkey y hy)]
    exact heq
  have hperm := toList_foldl_assign_perm val t.toList (∅ : ExtTreeMap α γ cmp) hdist
    (fun _ _ => not_mem_empty)
  rw [toList_empty, List.append_nil] at hperm
  cases hk : t[k]? with
  | some v =>
    obtain ⟨a, heq, hav⟩ := getElem?_eq_some_iff_exists_compare_eq_eq_and_mem_toList.1 hk
    have hentry := hperm.mem_iff.2 (List.mem_map.2 ⟨(a, v), hav, rfl⟩)
    rw [getElem?_eq_some_of_entry hentry, Option.map_some, hval _ hav]
    rw [TransCmp.congr_right (hkey _ hav)]
    exact heq
  | none =>
    refine getElem?_eq_none (not_mem_iff.2 fun a b hab heq => ?_)
    obtain ⟨e, he, hpair⟩ := List.mem_map.1 (hperm.mem_iff.1 hab)
    obtain ⟨rfl, -⟩ := Prod.mk.inj hpair
    rw [TransCmp.congr_right (hkey e he)] at heq
    rw [getElem?_eq_some_of_entry he heq] at hk
    exact absurd hk (by simp)

/-- Mapping behind a write is a write of what it gives. The old values may be mapped in another way. -/
theorem map_assign {f g : β → γ} {k : α} {v : β} (h : ∀ a b, (a, b) ∈ t.toList → g b = f b) :
    (assign t k v).map (fun _ b => g b) = assign (t.map fun _ b => f b) k (g v) := by
  refine ext_toList ((List.perm_ext_iff_of_nodup nodup_toList nodup_toList).2 ?_)
  rintro ⟨a, c⟩
  rw [mem_toList_assign, toList_map, toList_map, getKeyD_map, List.mem_map, List.mem_map]
  constructor
  · rintro ⟨⟨a', b⟩, hentry, heq⟩
    obtain ⟨rfl, rfl⟩ := Prod.mk.inj heq
    rcases mem_toList_assign.1 hentry with ⟨rfl, rfl⟩ | ⟨hne, hold⟩
    · exact .inl ⟨rfl, rfl⟩
    · exact .inr ⟨hne, (a', b), hold, Prod.ext rfl (h a' b hold).symm⟩
  · rintro (⟨rfl, rfl⟩ | ⟨hne, ⟨a', b⟩, hold, heq⟩)
    · exact ⟨_, mem_toList_assign.2 (.inl ⟨rfl, rfl⟩), rfl⟩
    · obtain ⟨rfl, rfl⟩ := Prod.mk.inj heq
      exact ⟨(a', b), mem_toList_assign.2 (.inr ⟨hne, hold⟩), Prod.ext rfl (h a' b hold)⟩

end TreeMap
