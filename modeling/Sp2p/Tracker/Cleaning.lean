import Sp2p.Tracker.SessionStore

/-!
# Cleaning the sessions

A wake-up of `daemonFunction` calls `cleanSome` with the time before which a session is stale.
`EvictsStale` is what it is to do. The loop removes the entries with a later time instead, and once
it has erased an entry it reads that entry's key and steps on from it, which is undefined: `Sweep`
lets anything happen from there. Whether an erased entry is taken so, or as if it could still be read
(`SessionMaps.cleanSome`), only sessions of exactly that time are treated as they should be
(`cleaning_evicts_iff`).
-/

namespace Sp2p.Tracker

open Std

/-- The loop of `cleanSome` over the entries that are left to visit, and the maps it can leave. -/
inductive Sweep (ttl : Int) : List (String × Int) → SessionMaps → SessionMaps → Prop
  | finished (m : SessionMaps) : Sweep ttl [] m m
  | kept {it : String × Int} {l : List (String × Int)} {m m' : SessionMaps} (h : ¬ ttl < it.2)
      (hrest : Sweep ttl l m m') : Sweep ttl (it :: l) m m'
  /-- `it` is erased, and then it is used. -/
  | undefined {it : String × Int} {l : List (String × Int)} {m m' : SessionMaps} (h : ttl < it.2) :
      Sweep ttl (it :: l) m m'

/-- One wake-up of `daemonFunction`, with the clock at `now`. -/
def WakeUp (now ttl : Int) (m m' : SessionMaps) : Prop := Sweep (now - ttl) m.cookieToTime.toList m m'

/-- Exactly the sessions from before the cutoff are gone, from both maps. -/
structure EvictsStale (cutoff : Int) (m m' : SessionMaps) : Prop where
  time : ∀ c : String, m'.cookieToTime[c]? = m.cookieToTime[c]?.filter (cutoff ≤ ·)
  login : ∀ c : String, m'.cookieToLogin[c]? =
    if m.cookieToTime[c]?.any (· < cutoff) then none else m.cookieToLogin[c]?

/-- Every session is from exactly this time. -/
def AllAt (cutoff : Int) (m : SessionMaps) : Prop :=
  ∀ (c : String) (t : Int), m.cookieToTime[c]? = some t → t = cutoff

variable {cutoff ttl now : Int} {m m' : SessionMaps}

/-- Where no entry is over the limit, nothing undefined happens, and nothing at all. -/
theorem Sweep.eq_self {l : List (String × Int)} (hl : ∀ it ∈ l, it.2 ≤ ttl)
    (h : Sweep ttl l m m') : m' = m := by
  induction h with
  | finished => rfl
  | kept _ _ ih =>
    apply ih
    intro it hit
    exact hl it (List.mem_cons_of_mem _ hit)
  | undefined hover =>
    have := hl _ List.mem_cons_self
    omega

/-- A sweep may go as if an erased entry could still be read. -/
theorem sweep_foldl (ttl : Int) (l : List (String × Int)) (m : SessionMaps) :
    Sweep ttl l m (l.foldl (SessionMaps.cleanEntry ttl) m) := by
  induction l with
  | nil => exact .finished m
  | cons it l ih =>
    by_cases h : ttl < it.2
    · exact .undefined h
    · have hself : SessionMaps.cleanEntry ttl m it = m := by
        unfold SessionMaps.cleanEntry
        rw [if_neg h]
      rw [List.foldl_cons, hself]
      exact .kept h ih

theorem wakeUp_cleanSome (now ttl : Int) (m : SessionMaps) :
    WakeUp now ttl m (m.cleanSome (now - ttl)) := sweep_foldl _ _ _

theorem AllAt.wakeUp_eq (hall : AllAt (now - ttl) m) (h : WakeUp now ttl m m') : m' = m := by
  apply Sweep.eq_self _ h
  rintro ⟨c, t⟩ hit
  have ht := hall c t (ExtTreeMap.mem_toList_iff_getElem?_eq_some.1 hit)
  show t ≤ now - ttl
  omega

/-- Nothing is stale, so all is kept. -/
theorem AllAt.evictsStale (hall : AllAt cutoff m) : EvictsStale cutoff m m where
  time c := by
    cases ht : m.cookieToTime[c]? with
    | none => rfl
    | some t =>
      have := hall c t ht
      rw [Option.filter_some, if_pos (decide_eq_true (by omega))]
  login c := by
    rw [if_neg]
    cases ht : m.cookieToTime[c]? with
    | none => simp
    | some t =>
      have := hall c t ht
      simp only [Option.any_some, decide_eq_true_eq]
      omega

/-- A session that the loop treats as it should is from the cutoff. -/
theorem EvictsStale.allAt (h : EvictsStale cutoff m (m.cleanSome cutoff)) : AllAt cutoff m := by
  intro c t ht
  have heq := h.time c
  rw [SessionMaps.getElem?_cleanSome_time, ht] at heq
  have hsame : t ≤ cutoff ↔ cutoff ≤ t := by
    simp only [Option.filter_some] at heq
    by_cases hle : t ≤ cutoff
    · by_cases hge : cutoff ≤ t
      · exact iff_of_true hle hge
      · simp [hle, hge] at heq
    · by_cases hge : cutoff ≤ t
      · simp [hle, hge] at heq
      · exact iff_of_false hle hge
  omega

/-- **Cleaning evicts the stale sessions and no others exactly when every session is from the cutoff
itself**, whatever the code does after erasing the entry it stands on, and also if it could go on. -/
theorem cleaning_evicts_iff (sc : SessionControler) (now ttl : Int) :
    ((∀ m', WakeUp now ttl sc.toSessionMaps m' → EvictsStale (now - ttl) sc.toSessionMaps m') ↔
        AllAt (now - ttl) sc.toSessionMaps) ∧
      (EvictsStale (now - ttl) sc.toSessionMaps (sc.toSessionMaps.cleanSome (now - ttl)) ↔
        AllAt (now - ttl) sc.toSessionMaps) := by
  have hclean := wakeUp_cleanSome now ttl sc.toSessionMaps
  have hall : AllAt (now - ttl) sc.toSessionMaps →
      ∀ m', WakeUp now ttl sc.toSessionMaps m' → EvictsStale (now - ttl) sc.toSessionMaps m' := by
    intro hall m' hw
    rw [hall.wakeUp_eq hw]
    exact hall.evictsStale
  refine ⟨⟨fun h => (h _ hclean).allAt, hall⟩, ⟨EvictsStale.allAt, fun h => hall h _ hclean⟩⟩

/-- Alice logged in at the time 1000. -/
def aliceAt1000 : SessionControler := SessionControler.empty.login "alice" "c00kie" 1000

/-- With a `ttl` of 60 seconds, her session stays when it is 99 seconds old, whatever the code may
do, and when she has just logged in it goes. -/
theorem cleaning_evicts_fresh :
    (∀ m', WakeUp 100000 60000 aliceAt1000.toSessionMaps m' →
      m'.cookieToTime["c00kie"]? = some 1000 ∧
        ¬ EvictsStale (100000 - 60000) aliceAt1000.toSessionMaps m') ∧
    (aliceAt1000.toSessionMaps.cleanSome (1000 - 60000)).cookieToTime["c00kie"]? = none ∧
      ¬ EvictsStale (1000 - 60000) aliceAt1000.toSessionMaps
        (aliceAt1000.toSessionMaps.cleanSome (1000 - 60000)) := by
  have htime : aliceAt1000.cookieToTime["c00kie"]? = some 1000 := by decide +kernel
  refine ⟨fun m' hw => ?_, ?_, fun h => ?_⟩
  · have hself : m' = aliceAt1000.toSessionMaps := by
      apply Sweep.eq_self _ hw
      decide +kernel
    rw [hself]
    refine ⟨htime, fun h => ?_⟩
    have hgone := h.time "c00kie"
    rw [htime] at hgone
    exact absurd hgone (by decide)
  · rw [SessionMaps.getElem?_cleanSome_time, htime]
    decide
  · have hat := h.allAt "c00kie" 1000 htime
    omega

end Sp2p.Tracker
