import Sp2p.Tracker.Conflict
import Sp2p.Tracker.Credentials

/-!
# The account of one user

What requests do to the account of a name: those of others leave it alone unless they are made under
the name, a REGISTER makes it with its password, and a CHANGE_PASSWORD that is answered `OK` gives it
the new one. A password is accepted when the stored hash is one of it (`Accepts`), which is what LOGIN
looks at.
-/

namespace Sp2p.Tracker

open Protocol NodeMessageFactory

/-- The row of a name. -/
def Tables.account? (t : Tables) (u : String) : Option UserRow :=
  t.users.find? fun v => v.login.text = rstrip u

theorem Tables.userId?_eq_account (t : Tables) (u : String) :
    t.userId? u = (t.account? u).map (·.id) := rfl

/-- The stored hash is one of the password. -/
def Accepts (check : String → String → Bool) (t : Tables) (u p : String) : Prop :=
  check p (PsqlConnector.getPassHash false u t) = true

instance (check : String → String → Bool) (t : Tables) (u p : String) :
    Decidable (Accepts check t u p) := inferInstanceAs (Decidable (_ = _))

variable {check : String → String → Bool} {s : State} {r : Request} {u p : String}

/-- LOGIN takes the passwords that are accepted. -/
theorem accepts_iff_login (hm : r.message.requestType = .login)
    (hsub : r.message.loginMessage = some ⟨some u, some p⟩) (hcheck : r.env.checkBcrypt = check)
    (hfault : r.env.fault 0 = false) : (r.handle s).1.isOk ↔ Accepts check s.db.tables u p := by
  rw [login_isOk hm hsub, GoodCredentials, hcheck, hfault]
  rfl

theorem accepts_of_account {row : UserRow} {t : Tables} (h : t.account? u = some row) :
    Accepts check t u p ↔ check p (toStdString row.password.out) = true := by
  unfold Accepts PsqlConnector.getPassHash
  unfold Tables.account? at h
  rw [h]
  rfl

theorem accepts_congr {t t' : Tables} (h : t'.account? u = t.account? u) :
    Accepts check t' u p ↔ Accepts check t u p := by
  unfold Accepts PsqlConnector.getPassHash
  unfold Tables.account? at h
  rw [h]

/-- What is used of bcrypt. -/
structure Bcrypt (check : String → String → Bool) (r : Request) : Prop where
  sameCheck : r.env.checkBcrypt = check
  check_empty : ∀ p, check p "" = false
  check_generate : ∀ p, check p (r.env.generateBcrypt p) = true
  noSpace : ∀ p, newPassword r.message = some p → NoSpace (r.env.generateBcrypt p)

/-- A hash that was stored is read back. -/
theorem Bcrypt.check_stored (h : Bcrypt check r) {b : BpChar 70} (hp : newPassword r.message = some p)
    (hb : BpChar.ofText 70 (r.env.generateBcrypt p) = some b) : check p (toStdString b.out) = true := by
  rw [(toStdString_out_ofText hb).2 (h.noSpace p hp)]
  exact h.check_generate p

/-- Nobody gets a cookie for a name without an account. -/
theorem Bcrypt.account_of_issues (h : Bcrypt check r) {cookie : String} (hissues : Issues s r cookie u) :
    (s.db.tables.account? u).isSome := by
  have hempty : RejectsEmpty r.env := by
    unfold RejectsEmpty
    rw [h.sameCheck]
    exact h.check_empty
  obtain ⟨uid, huid⟩ := Tracker.account_of_issues hempty hissues
  rw [(loginOf_of_issues hissues).2.1, Tables.userId?_eq_account] at huid
  rw [← Option.isSome_map, huid]
  rfl

/-! ### Requests of others -/

/-- The request does not register the name, and does not change or remove the account under it. -/
structure KeepsAccount (u : String) (s : State) (r : Request) : Prop where
  register : r.message.requestType = .register → ∀ name, username r.message = some name →
    rstrip name ≠ rstrip u
  authenticated : r.message.requestType ∈ [.changePassword, .unregister, .removeUser] →
    ∀ cookie name, AuthenticatedAs r.message s cookie name → rstrip name ≠ rstrip u

theorem account?_handle (h : KeepsAccount u s r) :
    (r.handle s).2.db.tables.account? u = s.db.tables.account? u := by
  rcases hout : r.handle s with ⟨reply, s'⟩
  have hk := r.outcome s
  have hu := hk.users
  rw [hout] at hk hu
  have hsame : s'.db.tables.users = s.db.tables.users →
      s'.db.tables.account? u = s.db.tables.account? u := by
    intro hrows
    unfold Tables.account?
    rw [hrows]
  cases hk with
  | kept _ => rfl
  | @registered login _ _ _ hm hsub _ ht _ =>
    obtain ⟨l, p, hl, -, -, ht⟩ := Tables.insertUser_eq_ok.1 ht
    have hne := h.register hm login (by simp [username, hm, hsub])
    show s'.db.tables.account? u = _
    rw [ht]
    exact Tables.find?_pushUser p (by rwa [BpChar.ofText_eq_some.1 hl])
  | unregistered hm ha _ ht _ =>
    have hne := h.authenticated (by simp [hm]) _ _ ha
    show s'.db.tables.account? u = _
    rw [ht]
    exact Tables.find?_deleteUser s.db.valid hne
  | removed hm ha _ ht _ =>
    have hne := h.authenticated (by simp [hm]) _ _ ha
    show s'.db.tables.account? u = _
    rw [ht, PsqlConnector.removeUser_snd]
    split
    · rfl
    · exact Tables.find?_deleteUser s.db.valid hne
  | changedPassword hm ha _ _ ht _ =>
    have hne := h.authenticated (by simp [hm]) _ _ ha
    obtain ⟨p, -, ht⟩ := Tables.updatePassword_eq_ok.1 ht
    show s'.db.tables.account? u = _
    rw [ht]
    exact Tables.find?_setPassword_of_ne p hne
  | loggedIn hm | loggedOut hm | createdNetwork hm | deletedNetwork hm | invited hm
  | updatedServer hm | stoppedServer hm | signedKey hm =>
    rcases hu with hu | hkind
    · exact hsame hu
    · simp [hm] at hkind

/-! ### Requests of the user -/

/-- After a REGISTER of the name there is the account that was there, or one that accepts the password. -/
theorem account?_register {pass key : String} (hbcrypt : Bcrypt check r)
    (hm : r.message.requestType = .register)
    (hsub : r.message.registerMessage = some ⟨some u, some pass, some key⟩) :
    (r.handle s).2.db.tables.account? u = s.db.tables.account? u ∨
      s.db.tables.account? u = none ∧ Accepts check (r.handle s).2.db.tables u pass := by
  rcases hout : r.handle s with ⟨reply, s'⟩
  have hk := r.outcome s
  rw [hout] at hk
  cases hk with
  | kept _ => exact .inl rfl
  | registered _ hsub' _ ht _ =>
    rw [hsub] at hsub'
    cases hsub'
    obtain ⟨l, p, hl, hp, hnew, ht⟩ := Tables.insertUser_eq_ok.1 ht
    have hnone : s.db.tables.account? u = none := by
      rw [Tables.account?, List.find?_eq_none]
      intro v hv hlogin
      exact hnew v hv (BpChar.ext ((of_decide_eq_true hlogin).trans (BpChar.ofText_eq_some.1 hl).symm))
    refine .inr ⟨hnone, ?_⟩
    have hrow : ∃ row, s'.db.tables.account? u = some row ∧ row.password = p := by
      rw [ht]
      unfold Tables.account? at hnone ⊢
      rw [Tables.pushUser, List.find?_append, hnone]
      simp [BpChar.ofText_eq_some.1 hl]
    obtain ⟨row, hrow, rfl⟩ := hrow
    exact (accepts_of_account hrow).2 (hbcrypt.check_stored (by rw [newPassword, hm, hsub]; rfl) hp)
  | unregistered hm' | loggedIn hm' | loggedOut hm' | createdNetwork hm' | deletedNetwork hm'
  | invited hm' | removed hm' | updatedServer hm' | stoppedServer hm' | signedKey hm'
  | changedPassword hm' => rw [hm] at hm'; cases hm'

/-- A CHANGE_PASSWORD that is not answered `OK` changes nothing, and else the hash of the new password
is stored for its user. -/
theorem changePassword_cases (hm : r.message.requestType = .changePassword) :
    (¬ (r.handle s).1.isOk ∧ (r.handle s).2 = s) ∨
      (r.handle s).1.isOk ∧ ∃ cookie name new, AuthenticatedAs r.message s cookie name ∧
        newPassword r.message = some new ∧
        s.db.tables.updatePassword name (r.env.generateBcrypt new) = .ok (r.handle s).2.db.tables := by
  rcases hout : r.handle s with ⟨reply, s'⟩
  have hk := r.outcome s
  rw [hout] at hk
  cases hk with
  | kept hok =>
    refine .inl ⟨fun hyes => ?_, rfl⟩
    simpa [Query, hm] using hok hyes
  | @changedPassword cookie name old new _ _ ha hold _ ht _ =>
    refine .inr ⟨(isOk_errorMesage .ok).2 rfl, cookie, name, new, ha, ?_, ht⟩
    have hnew := congrArg (Option.map Prod.snd) hold
    rw [Option.map_map] at hnew
    rw [newPassword, hm]
    exact hnew
  | unregistered hm' | loggedIn hm' | loggedOut hm' | createdNetwork hm' | deletedNetwork hm'
  | invited hm' | removed hm' | updatedServer hm' | stoppedServer hm' | signedKey hm'
  | registered hm' => rw [hm] at hm'; cases hm'

theorem handle_refused (hm : r.message.requestType = .changePassword) (hno : ¬ (r.handle s).1.isOk) :
    (r.handle s).2 = s := by
  rcases changePassword_cases hm with ⟨-, hsame⟩ | ⟨hok, -⟩
  · exact hsame
  · exact absurd hok hno

/-- A CHANGE_PASSWORD under the name gives the account the new password when it is answered `OK`, and
else leaves it alone. -/
theorem account?_changePassword {cookie new : String} {old : Option String}
    (hbcrypt : Bcrypt check r) (hm : r.message.requestType = .changePassword)
    (hsub : r.message.changePasswordMessage = some ⟨some cookie, old, some new⟩)
    (hname : ∀ name, s.sessions.loginOf cookie = some name → name = u) :
    (¬ (r.handle s).1.isOk ∧ (r.handle s).2.db.tables.account? u = s.db.tables.account? u) ∨
      (r.handle s).1.isOk ∧
        ((r.handle s).2.db.tables.account? u).isSome = (s.db.tables.account? u).isSome ∧
        ((s.db.tables.account? u).isSome → Accepts check (r.handle s).2.db.tables u new) := by
  rcases changePassword_cases hm with ⟨hno, hsame⟩ | ⟨hok, cookie', name, new', ha, hnew, ht⟩
  · exact .inl ⟨hno, by rw [hsame]⟩
  have hc := ha.presents
  simp only [ClientMessage.cookie, hm, hsub] at hc
  obtain rfl : cookie = cookie' := Option.some_inj.1 hc
  obtain rfl : name = u := by
    refine hname name ?_
    rw [← ha.login]
    exact SessionControler.loginOf_of_getLogin (ha.login ▸ ha.nonempty)
  obtain rfl : new = new' := by
    rw [newPassword, hm, hsub] at hnew
    exact Option.some_inj.1 hnew
  obtain ⟨b, hb, ht⟩ := Tables.updatePassword_eq_ok.1 ht
  have hrow : (r.handle s).2.db.tables.account? name = (s.db.tables.account? name).map fun v =>
      if v.login.text = rstrip name then { v with password := b } else v := by
    rw [ht]
    exact Tables.find?_setPassword name b name
  refine .inr ⟨hok, ?_, fun hsome => ?_⟩
  · rw [hrow, Option.isSome_map]
  · obtain ⟨v, hv⟩ := Option.isSome_iff_exists.1 hsome
    have hlogin : v.login.text = rstrip name := by
      simpa using List.find?_some hv
    rw [hv, Option.map_some, if_pos hlogin] at hrow
    exact (accepts_of_account hrow).2 (hbcrypt.check_stored hnew hb)

end Sp2p.Tracker
