import Std.Data.ExtTreeMap
import Mathlib.Data.Prod.Basic

/-!
# The session store

`SessionControler` keeps two maps with one set of keys, from the live cookies to the login and to
the time of each. The operations that run inside a request are given here; each holds the mutex
throughout. `login` is given the string the random generator returns and the clock it reads.
-/

namespace Sp2p.Tracker

structure SessionMaps where
  cookieToLogin : Std.ExtTreeMap String String := ∅
  cookieToTime : Std.ExtTreeMap String Int := ∅

namespace SessionMaps

def login (m : SessionMaps) (login currCookie : String) (now : Int) : SessionMaps where
  cookieToLogin := m.cookieToLogin.insert currCookie login
  cookieToTime := m.cookieToTime.insert currCookie now

def logout (m : SessionMaps) (cookie : String) : Bool × SessionMaps :=
  if cookie ∈ m.cookieToTime then
    (true, { cookieToLogin := m.cookieToLogin.erase cookie, cookieToTime := m.cookieToTime.erase cookie })
  else (false, m)

/-- `none` is the exception of `at()`. -/
def getLogin (m : SessionMaps) (cookie : String) : Option String :=
  if cookie ∈ m.cookieToTime then m.cookieToLogin[cookie]? else some ""

end SessionMaps

/-- The two maps, with one set of keys. -/
structure SessionControler extends SessionMaps where
  sameKeys : ∀ cookie, cookie ∈ cookieToLogin ↔ cookie ∈ cookieToTime

namespace SessionControler

def empty : SessionControler where
  sameKeys := by simp

def login (sc : SessionControler) (login currCookie : String) (now : Int) : SessionControler where
  toSessionMaps := sc.toSessionMaps.login login currCookie now
  sameKeys c := by simp [SessionMaps.login, sc.sameKeys]

def logout (sc : SessionControler) (cookie : String) : Bool × SessionControler :=
  ((sc.toSessionMaps.logout cookie).1,
    { toSessionMaps := (sc.toSessionMaps.logout cookie).2
      sameKeys := fun c => by
        unfold SessionMaps.logout
        split
        · simp [sc.sameKeys]
        · exact sc.sameKeys c })

/-- The login of a live cookie. -/
def loginOf (sc : SessionControler) (cookie : String) : Option String := sc.cookieToLogin[cookie]?

def getLogin (sc : SessionControler) (cookie : String) : String := (sc.loginOf cookie).getD ""

/-- The cookie is live: what `isLogged` tests. -/
def isLogged (sc : SessionControler) (cookie : String) : Prop := cookie ∈ sc.cookieToTime

variable {sc sc' : SessionControler}

theorem isLogged_iff {cookie : String} : sc.isLogged cookie ↔ ∃ l, sc.loginOf cookie = some l := by
  rw [isLogged, ← sc.sameKeys, loginOf, Std.ExtTreeMap.mem_iff_isSome_getElem?,
    Option.isSome_iff_exists]

instance (sc : SessionControler) (cookie : String) : Decidable (sc.isLogged cookie) :=
  inferInstanceAs (Decidable (_ ∈ _))

/-- With one set of keys `at()` does not throw. -/
theorem getLogin_eq (cookie : String) :
    sc.toSessionMaps.getLogin cookie = some (sc.getLogin cookie) := by
  unfold SessionMaps.getLogin
  split
  · rename_i h
    obtain ⟨l, hl⟩ := isLogged_iff.1 h
    show sc.loginOf cookie = _
    simp [getLogin, hl]
  · rename_i h
    have : sc.loginOf cookie = none := by
      rw [← Option.not_isSome_iff_eq_none, Option.isSome_iff_exists]
      exact fun hl => h (isLogged_iff.2 hl)
    simp [getLogin, this]

theorem getLogin_of_not_isLogged {cookie : String} (h : ¬ sc.isLogged cookie) :
    sc.getLogin cookie = "" := by
  cases hl : sc.loginOf cookie with
  | none => simp [getLogin, hl]
  | some l => exact absurd (isLogged_iff.2 ⟨l, hl⟩) h

theorem loginOf_of_getLogin {cookie : String} (h : sc.getLogin cookie ≠ "") :
    sc.loginOf cookie = some (sc.getLogin cookie) := by
  cases hl : sc.loginOf cookie with
  | none => simp [getLogin, hl] at h
  | some l => simp [getLogin, hl]

@[simp] theorem loginOf_empty (cookie : String) : empty.loginOf cookie = none := by
  simp [loginOf, empty]

theorem loginOf_login (sc : SessionControler) (l c : String) (now : Int) (cookie : String) :
    (sc.login l c now).loginOf cookie = if c = cookie then some l else sc.loginOf cookie := by
  simp [loginOf, login, SessionMaps.login, Std.ExtTreeMap.getElem?_insert]

theorem logout_fst (sc : SessionControler) (c : String) :
    (sc.logout c).1 = decide (sc.isLogged c) := by
  simp only [logout, SessionMaps.logout, isLogged]
  split <;> simp [*]

theorem loginOf_logout (sc : SessionControler) (c cookie : String) :
    (sc.logout c).2.loginOf cookie = if c = cookie then none else sc.loginOf cookie := by
  simp only [loginOf, logout, SessionMaps.logout]
  split
  · simp [Std.ExtTreeMap.getElem?_erase]
  · rename_i h
    split
    · rename_i hc
      rw [← hc, ← Option.not_isSome_iff_eq_none, ← Std.ExtTreeMap.mem_iff_isSome_getElem?,
        sc.sameKeys]
      exact h
    · rfl

theorem timeOf_logout (sc : SessionControler) (c cookie : String) :
    (sc.logout c).2.cookieToTime[cookie]? = if c = cookie then none else sc.cookieToTime[cookie]? := by
  simp only [logout, SessionMaps.logout]
  split
  · simp [Std.ExtTreeMap.getElem?_erase]
  · rename_i h
    split
    · rename_i hc
      rwa [← hc, ← Option.not_isSome_iff_eq_none, ← Std.ExtTreeMap.mem_iff_isSome_getElem?]
    · rfl

theorem logout_of_not_isLogged {c : String} (h : ¬ sc.isLogged c) : (sc.logout c).2 = sc := by
  simp [logout, SessionMaps.logout, show ¬ c ∈ sc.cookieToTime from h]

/-- Two stores are equal when every cookie has the same login and time in both. -/
theorem ext_of_get (hl : ∀ c : String, sc.loginOf c = sc'.loginOf c)
    (ht : ∀ c : String, sc.cookieToTime[c]? = sc'.cookieToTime[c]?) : sc = sc' := by
  obtain ⟨⟨l, t⟩, h⟩ := sc
  obtain ⟨⟨l', t'⟩, h'⟩ := sc'
  have e1 : l = l' := Std.ExtTreeMap.ext_getElem? hl
  have e2 : t = t' := Std.ExtTreeMap.ext_getElem? ht
  subst e1 e2
  rfl

end SessionControler
end Sp2p.Tracker
