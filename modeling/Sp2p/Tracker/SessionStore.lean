import Sp2p.Lib.Runs
import Sp2p.Tracker.SessionControler

/-!
# The session store as one map

All seven operations of `SessionControler` on its two maps, as the code performs them: `at()` throws
and `erase(find(..))` is undefined when there is no such key, and a call that comes to that has no
result. What the two maps are for is one map from cookies to a login and a time (`Sessions`).
`store_refines` says that the code answers any calls as that map does.

Each operation holds the mutex from its first line to its last, so the calls of any number of
threads are a list, in the order in which they get the mutex.
-/

namespace Sp2p.Tracker

open Std Runs

inductive SessionCall
  | isLogged (cookie : String)
  | login (login currCookie : String) (now : Int)
  | logout (cookie : String)
  | getLogin (cookie : String)
  | refresh (cookie : String) (now : Int)
  | cleanAll
  | cleanSome (ttl : Int)

inductive SessionAnswer
  | done
  | bool (b : Bool)
  | text (s : String)
  deriving DecidableEq

/-! ### The two maps -/

namespace SessionMaps

/-- `map.erase(map.find(key))`. -/
def eraseFound {β : Type} (map : ExtTreeMap String β) (key : String) :
    Option (ExtTreeMap String β) :=
  if key ∈ map then some (map.erase key) else none

def refresh (m : SessionMaps) (cookie : String) (now : Int) : SessionMaps :=
  if cookie ∈ m.cookieToTime then { m with cookieToTime := m.cookieToTime.insert cookie now } else m

/-- The body of the loop in `cleanSome`, at one entry of `cookieToTime`. -/
def cleanEntry (ttl : Int) (m : SessionMaps) (it : String × Int) : SessionMaps :=
  if ttl < it.2 then
    { cookieToTime := m.cookieToTime.erase it.1
      cookieToLogin :=
        if it.1 ∈ m.cookieToLogin then m.cookieToLogin.erase it.1 else m.cookieToLogin }
  else m

/-- The loop is taken as visiting every entry once; after `erase(it)` the code still reads `it->first`
and steps `it` on. -/
def cleanSome (m : SessionMaps) (ttl : Int) : SessionMaps :=
  m.cookieToTime.toList.foldl (cleanEntry ttl) m

def call (m : SessionMaps) : SessionCall → Option (SessionAnswer × SessionMaps)
  | .isLogged cookie => some (.bool (cookie ∈ m.cookieToTime), m)
  | .login login currCookie now => some (.text currCookie, m.login login currCookie now)
  | .logout cookie =>
    if cookie ∈ m.cookieToTime then do
      let cookieToLogin ← eraseFound m.cookieToLogin cookie
      let cookieToTime ← eraseFound m.cookieToTime cookie
      some (.bool true, { cookieToLogin, cookieToTime })
    else some (.bool false, m)
  | .getLogin cookie => do
    let ret ← m.getLogin cookie
    some (.text ret, m)
  | .refresh cookie now => some (.done, m.refresh cookie now)
  | .cleanAll => some (.done, {})
  | .cleanSome ttl => some (.done, m.cleanSome ttl)

/-- Both maps have the same cookies. -/
def SameKeys (m : SessionMaps) : Prop := ∀ c, c ∈ m.cookieToLogin ↔ c ∈ m.cookieToTime

theorem getElem?_cleanEntry_time (ttl : Int) (m : SessionMaps) (k : String) (t : Int) (c : String) :
    (cleanEntry ttl m (k, t)).cookieToTime[c]? =
      if k = c ∧ ttl < t then none else m.cookieToTime[c]? := by
  unfold cleanEntry
  by_cases ht : ttl < t <;> simp [ht, ExtTreeMap.getElem?_erase]

theorem getElem?_cleanEntry_login (ttl : Int) (m : SessionMaps) (k : String) (t : Int)
    (c : String) :
    (cleanEntry ttl m (k, t)).cookieToLogin[c]? =
      if k = c ∧ ttl < t then none else m.cookieToLogin[c]? := by
  unfold cleanEntry
  by_cases ht : ttl < t
  · by_cases hk : k ∈ m.cookieToLogin
    · simp [ht, hk, ExtTreeMap.getElem?_erase]
    · by_cases hc : k = c
      · subst hc
        simp [ht, hk]
      · simp [ht, hk, hc]
  · simp [ht]

open Classical in
/-- What the loop leaves: nothing of an entry that is over the limit, and all the rest. -/
theorem getElem?_foldl_cleanEntry (ttl : Int) (c : String) (l : List (String × Int)) :
    ∀ m : SessionMaps,
      (l.foldl (cleanEntry ttl) m).cookieToTime[c]? =
        (if ∃ t, (c, t) ∈ l ∧ ttl < t then none else m.cookieToTime[c]?) ∧
      (l.foldl (cleanEntry ttl) m).cookieToLogin[c]? =
        (if ∃ t, (c, t) ∈ l ∧ ttl < t then none else m.cookieToLogin[c]?) := by
  induction l with
  | nil => simp
  | cons e l ih =>
    obtain ⟨k, t⟩ := e
    intro m
    obtain ⟨htime, hlogin⟩ := ih (cleanEntry ttl m (k, t))
    rw [List.foldl_cons, htime, hlogin]
    have hor : (∃ t', (c, t') ∈ (k, t) :: l ∧ ttl < t') ↔
        (∃ t', (c, t') ∈ l ∧ ttl < t') ∨ k = c ∧ ttl < t := by
      constructor
      · rintro ⟨t', hmem, ht'⟩
        rcases List.mem_cons.1 hmem with heq | hmem
        · obtain ⟨rfl, rfl⟩ := Prod.mk.inj heq
          exact .inr ⟨rfl, ht'⟩
        · exact .inl ⟨t', hmem, ht'⟩
      · rintro (⟨t', hmem, ht'⟩ | ⟨rfl, ht'⟩)
        · exact ⟨t', List.mem_cons_of_mem _ hmem, ht'⟩
        · exact ⟨t, List.mem_cons_self, ht'⟩
    by_cases hl : ∃ t', (c, t') ∈ l ∧ ttl < t'
    · simp only [if_pos hl, if_pos (hor.2 (.inl hl)), and_self]
    · by_cases hc : k = c ∧ ttl < t
      · simp only [if_neg hl, if_pos (hor.2 (.inr hc)), getElem?_cleanEntry_time,
          getElem?_cleanEntry_login, if_pos hc, and_self]
      · have hnot : ¬ ∃ t', (c, t') ∈ (k, t) :: l ∧ ttl < t' := fun h => (hor.1 h).elim hl hc
        simp only [if_neg hl, if_neg hnot, getElem?_cleanEntry_time, getElem?_cleanEntry_login,
          if_neg hc, and_self]

theorem getElem?_cleanSome_time (m : SessionMaps) (ttl : Int) (c : String) :
    (m.cleanSome ttl).cookieToTime[c]? = m.cookieToTime[c]?.filter (· ≤ ttl) := by
  rw [cleanSome, (getElem?_foldl_cleanEntry ttl c _ m).1]
  simp only [ExtTreeMap.mem_toList_iff_getElem?_eq_some]
  cases m.cookieToTime[c]? with
  | none => simp
  | some t => by_cases ht : ttl < t <;> simp [Option.filter, ht, Int.not_le.2, Int.not_lt.1]

open Classical in
theorem getElem?_cleanSome_login (m : SessionMaps) (ttl : Int) (c : String) :
    (m.cleanSome ttl).cookieToLogin[c]? =
      if ∃ t, m.cookieToTime[c]? = some t ∧ ttl < t then none else m.cookieToLogin[c]? := by
  rw [cleanSome, (getElem?_foldl_cleanEntry ttl c _ m).2]
  simp only [ExtTreeMap.mem_toList_iff_getElem?_eq_some]

end SessionMaps

/-! ### One map -/

abbrev Sessions := ExtTreeMap String (String × Int)

namespace Sessions

def call (s : Sessions) : SessionCall → SessionAnswer × Sessions
  | .isLogged cookie => (.bool (cookie ∈ s), s)
  | .login login currCookie now => (.text currCookie, s.insert currCookie (login, now))
  | .logout cookie => (.bool (cookie ∈ s), s.erase cookie)
  | .getLogin cookie => (.text ((s[cookie]?.map Prod.fst).getD ""), s)
  | .refresh cookie now =>
    (.done, match s[cookie]? with
      | some (login, _) => s.insert cookie (login, now)
      | none => s)
  | .cleanAll => (.done, ∅)
  | .cleanSome ttl => (.done, s.filter fun _ e => e.2 ≤ ttl)

/-- The two maps that stand for it. -/
def maps (s : Sessions) : SessionMaps where
  cookieToLogin := s.map fun _ e => e.1
  cookieToTime := s.map fun _ e => e.2

theorem sameKeys_maps (s : Sessions) : (maps s).SameKeys := by
  intro c
  simp [maps]

theorem mem_maps {s : Sessions} {c : String} : c ∈ (maps s).cookieToTime ↔ c ∈ s := by
  simp [maps]

/-- Two maps that stand for a session store are known by what they find. -/
theorem eq_maps {s : Sessions} {m : SessionMaps}
    (hlogin : ∀ c : String, m.cookieToLogin[c]? = s[c]?.map Prod.fst)
    (htime : ∀ c : String, m.cookieToTime[c]? = s[c]?.map Prod.snd) : m = maps s := by
  obtain ⟨l, t⟩ := m
  have hl : l = s.map fun _ e => e.1 := ExtTreeMap.ext_getElem? fun c => by
    rw [ExtTreeMap.getElem?_map]
    exact hlogin c
  have ht : t = s.map fun _ e => e.2 := ExtTreeMap.ext_getElem? fun c => by
    rw [ExtTreeMap.getElem?_map]
    exact htime c
  rw [hl, ht]
  rfl

theorem getLogin_maps (s : Sessions) (c : String) :
    (maps s).getLogin c = some ((s[c]?.map Prod.fst).getD "") := by
  unfold SessionMaps.getLogin
  by_cases hc : c ∈ s
  · obtain ⟨e, he⟩ := Option.isSome_iff_exists.1 (ExtTreeMap.mem_iff_isSome_getElem?.1 hc)
    rw [if_pos (mem_maps.2 hc), maps, ExtTreeMap.getElem?_map, he]
    rfl
  · rw [if_neg (mem_maps.not.2 hc), ExtTreeMap.getElem?_eq_none hc]
    rfl

theorem login_maps (s : Sessions) (login c : String) (now : Int) :
    (maps s).login login c now = maps (s.insert c (login, now)) := by
  apply eq_maps <;> intro c'
  · simp only [SessionMaps.login, maps, ExtTreeMap.getElem?_insert, ExtTreeMap.getElem?_map]
    split <;> rfl
  · simp only [SessionMaps.login, maps, ExtTreeMap.getElem?_insert, ExtTreeMap.getElem?_map]
    split <;> rfl

theorem erase_maps (s : Sessions) (c : String) :
    ({ cookieToLogin := (maps s).cookieToLogin.erase c
       cookieToTime := (maps s).cookieToTime.erase c } : SessionMaps) = maps (s.erase c) := by
  apply eq_maps <;> intro c'
  · simp only [maps, ExtTreeMap.getElem?_erase, ExtTreeMap.getElem?_map]
    split <;> rfl
  · simp only [maps, ExtTreeMap.getElem?_erase, ExtTreeMap.getElem?_map]
    split <;> rfl

theorem refresh_maps (s : Sessions) (c : String) (now : Int) :
    (maps s).refresh c now = maps (call s (.refresh c now)).2 := by
  simp only [call, SessionMaps.refresh, mem_maps]
  by_cases hc : c ∈ s
  · obtain ⟨⟨login, time⟩, he⟩ := Option.isSome_iff_exists.1 (ExtTreeMap.mem_iff_isSome_getElem?.1 hc)
    rw [if_pos hc, he]
    apply eq_maps <;> intro c'
    · simp only [maps, ExtTreeMap.getElem?_insert, ExtTreeMap.getElem?_map]
      split
      · rename_i hcc
        obtain rfl : c = c' := LawfulEqOrd.eq_of_compare hcc
        rw [he]
        rfl
      · rfl
    · simp only [maps, ExtTreeMap.getElem?_insert, ExtTreeMap.getElem?_map]
      split <;> rfl
  · rw [if_neg hc, ExtTreeMap.getElem?_eq_none hc]

theorem cleanSome_maps (s : Sessions) (ttl : Int) :
    (maps s).cleanSome ttl = maps (s.filter fun _ e => e.2 ≤ ttl) := by
  apply eq_maps <;> intro c
  · rw [SessionMaps.getElem?_cleanSome_login]
    simp only [maps, ExtTreeMap.getElem?_map, ExtTreeMap.getElem?_filter']
    cases s[c]? with
    | none => simp
    | some e => by_cases ht : ttl < e.2 <;> simp [Option.filter, ht, Int.not_le.2, Int.not_lt.1]
  · rw [SessionMaps.getElem?_cleanSome_time]
    simp only [maps, ExtTreeMap.getElem?_map, ExtTreeMap.getElem?_filter']
    cases s[c]? with
    | none => simp
    | some e => by_cases ht : ttl < e.2 <;> simp [Option.filter, ht, Int.not_le.2, Int.not_lt.1]

/-- One call: the two maps do not get stuck, and answer as the one map. -/
theorem call_maps (s : Sessions) (c : SessionCall) :
    (maps s).call c = some ((call s c).1, maps (call s c).2) := by
  cases c with
  | isLogged cookie => simp [SessionMaps.call, call, mem_maps]
  | login login currCookie now => simp [SessionMaps.call, call, login_maps]
  | logout cookie =>
    by_cases hc : cookie ∈ s
    · have htime : cookie ∈ (maps s).cookieToTime := mem_maps.2 hc
      have hlogin : cookie ∈ (maps s).cookieToLogin := (sameKeys_maps s cookie).2 htime
      simp only [SessionMaps.call, call, SessionMaps.eraseFound, if_pos htime, if_pos hlogin,
        Option.bind_eq_bind, Option.bind_some, erase_maps, hc, decide_true]
    · have htime : cookie ∉ (maps s).cookieToTime := mem_maps.not.2 hc
      have herase : s.erase cookie = s := ExtTreeMap.ext_getElem? fun c' => by
        rw [ExtTreeMap.getElem?_erase]
        split
        · rename_i hcc
          obtain rfl : cookie = c' := LawfulEqOrd.eq_of_compare hcc
          exact (ExtTreeMap.getElem?_eq_none hc).symm
        · rfl
      simp only [SessionMaps.call, call, if_neg htime, hc, decide_false, herase]
  | getLogin cookie => simp [SessionMaps.call, call, getLogin_maps]
  | refresh cookie now => rw [SessionMaps.call, refresh_maps]; rfl
  | cleanAll => simp [SessionMaps.call, call, maps]
  | cleanSome ttl => simp [SessionMaps.call, call, cleanSome_maps]

end Sessions

/-- **The store refines one map.** Whatever calls come, in whatever order from whatever threads, none
of them throws or erases what is not there, the two maps keep one set of keys, and the answers are
those of the one map. -/
theorem store_refines {Thread : Type} (calls : List (Thread × SessionCall)) :
    ∃ answers m s,
      Runs.serve (fun (m : SessionMaps) (c : Thread × SessionCall) => m.call c.2) {} calls =
        some (answers, m) ∧
      Runs.serve (fun (s : Sessions) (c : Thread × SessionCall) => some (Sessions.call s c.2)) ∅ calls =
        some (answers, s) ∧
      m = Sessions.maps s ∧ m.SameKeys := by
  have hstep : ∀ (m : SessionMaps) (s : Sessions) (c : Thread × SessionCall), m = Sessions.maps s →
      ∃ m', m.call c.2 = some ((Sessions.call s c.2).1, m') ∧
        m' = Sessions.maps (Sessions.call s c.2).2 := by
    rintro m s c rfl
    exact ⟨_, Sessions.call_maps s c.2, rfl⟩
  have hempty : ({} : SessionMaps) = Sessions.maps ∅ := by
    simp [Sessions.maps]
  obtain ⟨answers, m, s, hm, hs, rfl⟩ := serve_refines hstep calls hempty
  exact ⟨answers, Sessions.maps s, s, hm, hs, rfl, Sessions.sameKeys_maps s⟩

/-! ### The operations of the handlers -/

namespace SessionControler

theorem call_login (sc : SessionControler) (l c : String) (now : Int) :
    sc.toSessionMaps.call (.login l c now) = some (.text c, (sc.login l c now).toSessionMaps) := rfl

theorem call_logout (sc : SessionControler) (c : String) :
    sc.toSessionMaps.call (.logout c) =
      some (.bool (sc.logout c).1, (sc.logout c).2.toSessionMaps) := by
  by_cases hc : c ∈ sc.cookieToTime
  · have hl : c ∈ sc.cookieToLogin := (sc.sameKeys c).2 hc
    simp [SessionMaps.call, SessionMaps.eraseFound, logout, SessionMaps.logout, hc, hl]
  · simp [SessionMaps.call, logout, SessionMaps.logout, hc]

theorem call_getLogin (sc : SessionControler) (c : String) :
    sc.toSessionMaps.call (.getLogin c) = some (.text (sc.getLogin c), sc.toSessionMaps) := by
  simp [SessionMaps.call, getLogin_eq]

end SessionControler

end Sp2p.Tracker
