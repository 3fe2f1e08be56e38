import Sp2p.Tracker.SessionLife

/-!
# The credential law

Over a whole run, LOGIN takes exactly the password that was given last: by the REGISTER of the
account, or by a CHANGE_PASSWORD of its user. `LastGiven` says which one that is, from the requests
of the run and whether they were answered `OK`; `Stored` is the invariant that ties it to the hashes
in the users table. Bcrypt is not modelled: `Ordinary` collects what is used of it, next to what is
assumed of the requests themselves.
-/

namespace Sp2p.Tracker

open Interleaving Protocol NodeMessageFactory

/-- The username of a REGISTER or a LOGIN. -/
def username (m : ClientMessage) : Option String :=
  match m.requestType with
  | .register => m.registerMessage.bind (·.username)
  | .login => m.loginMessage.bind (·.username)
  | _ => none

/-- The password that a REGISTER or a CHANGE_PASSWORD is to store. -/
def newPassword (m : ClientMessage) : Option String :=
  match m.requestType with
  | .register => m.registerMessage.bind (·.password)
  | .changePassword => m.changePasswordMessage.map (·.newPassword.getD "")
  | _ => none

/-- What is assumed of every request of a run, given the one `check_bcrypt`. -/
structure Ordinary (check : String → String → Bool) (r : Request) : Prop where
  noFault : ∀ k, r.env.fault k = false
  /-- A REGISTER carries a signable request. -/
  signable : r.message.requestType = .register → ∀ key,
    r.message.registerMessage.bind (·.publicKey) = some key → r.env.signCertyficate key ≠ ""
  /-- Usernames have no trailing blanks. -/
  trimmed : ∀ u, username r.message = some u → rstrip u = u
  sameCheck : r.env.checkBcrypt = check
  check_empty : ∀ p, check p "" = false
  check_generate : ∀ p q, check p (r.env.generateBcrypt q) = true ↔ p = q
  /-- A hash is one word that fits its column. -/
  hash : ∀ p, newPassword r.message = some p → (r.env.generateBcrypt p).length ≤ 70 ∧
    ∀ c ∈ (r.env.generateBcrypt p).toList, isSpace c = false

/-- The request is answered `OK`, and is a REGISTER of the user with this password or a
CHANGE_PASSWORD of the user to it. -/
inductive Gives (s : State) (r : Request) (u p : String) : Prop
  | register {key : Option String} (hm : r.message.requestType = .register)
      (hsub : r.message.registerMessage = some ⟨some u, some p, key⟩) (hok : (r.handle s).1.isOk)
  | changePassword {cookie : String} (hm : r.message.requestType = .changePassword)
      (hauth : AuthenticatedAs r.message s cookie u)
      (hsub : r.message.changePasswordMessage.map (·.newPassword.getD "") = some p)
      (hok : (r.handle s).1.isOk)

/-- The password is the last one the run gave to the user. -/
inductive LastGiven : List Request → String → String → Prop
  | now {rs : List Request} {r : Request} {u p : String} (h : Gives (after rs) r u p) :
      LastGiven (rs ++ [r]) u p
  | earlier {rs : List Request} {r : Request} {u p : String} (h : LastGiven rs u p)
      (hno : ∀ p', ¬ Gives (after rs) r u p') : LastGiven (rs ++ [r]) u p

variable {s : State} {r : Request} {rs : List Request} {check : String → String → Bool}

theorem Gives.unique {u p p' : String} (h : Gives s r u p) (h' : Gives s r u p') : p = p' := by
  cases h with
  | register hm hsub _ =>
    cases h' with
    | register _ hsub' _ => rw [hsub] at hsub'; cases hsub'; rfl
    | changePassword hm' _ _ _ => rw [hm] at hm'; cases hm'
  | changePassword hm _ hsub _ =>
    cases h' with
    | register hm' _ _ => rw [hm] at hm'; cases hm'
    | changePassword _ _ hsub' _ => rw [hsub] at hsub'; exact Option.some.inj hsub'

theorem LastGiven.unique {u p p' : String} (h : LastGiven rs u p) (h' : LastGiven rs u p') :
    p = p' := by
  induction h with
  | @now rs r u p hg =>
    generalize hrs : rs ++ [r] = all at h'
    cases h' with
    | now hg' =>
      obtain ⟨rfl, he⟩ := List.append_inj' hrs rfl
      obtain rfl := List.singleton_inj.1 he
      exact hg.unique hg'
    | earlier _ hno =>
      obtain ⟨rfl, he⟩ := List.append_inj' hrs rfl
      obtain rfl := List.singleton_inj.1 he
      exact absurd hg (hno _)
  | @earlier rs r u p _ hno ih =>
    generalize hrs : rs ++ [r] = all at h'
    cases h' with
    | now hg' =>
      obtain ⟨rfl, he⟩ := List.append_inj' hrs rfl
      obtain rfl := List.singleton_inj.1 he
      exact absurd hg' (hno _)
    | earlier h' _ =>
      obtain ⟨rfl, he⟩ := List.append_inj' hrs rfl
      obtain rfl := List.singleton_inj.1 he
      exact ih h'

/-! ### The invariant -/

/-- The stored hash is one of the password. -/
def HashOf (check : String → String → Bool) (row : UserRow) (p : String) : Prop :=
  ∀ q, check q (toStdString row.password.out) = true ↔ q = p

/-- After the run every account has a hash of the last password given to its user, and the logins of
the live cookies have no trailing blanks. -/
structure Stored (check : String → String → Bool) (rs : List Request) : Prop where
  hashes : ∀ row ∈ (after rs).db.tables.users,
    ∃ p, LastGiven rs row.login.text p ∧ HashOf check row p
  trimmed : ∀ c l, (after rs).sessions.loginOf c = some l → rstrip l = l

/-- A hash is read back as it was stored. -/
theorem hashOf_stored (h : Ordinary check r) {pass : String} (hp : newPassword r.message = some pass)
    {row : UserRow} (hrow : BpChar.ofText 70 (r.env.generateBcrypt pass) = some row.password) :
    HashOf check row pass := by
  obtain ⟨-, hword⟩ := h.hash pass hp
  have htext : row.password.text = r.env.generateBcrypt pass := by
    rw [BpChar.ofText_eq_some.1 hrow, rstrip_of_noSpace hword]
  intro q
  rw [toStdString_out (by rwa [htext]), htext]
  exact h.check_generate q pass

/-- An account that is kept as it is keeps its password, if the request gives its user none. -/
theorem stored_keep {row : UserRow}
    (h : ∃ p, LastGiven rs row.login.text p ∧ HashOf check row p)
    (hno : ∀ p, ¬ Gives (after rs) r row.login.text p) :
    ∃ p, LastGiven (rs ++ [r]) row.login.text p ∧ HashOf check row p := by
  obtain ⟨p, hlast, hhash⟩ := h
  exact ⟨p, .earlier hlast hno, hhash⟩

/-- A request of another kind gives nobody a password. -/
theorem not_gives {u p : String} (hr : r.message.requestType ≠ .register)
    (hc : r.message.requestType ≠ .changePassword) : ¬ Gives s r u p := by
  intro h
  cases h with
  | register hm _ _ => exact hr hm
  | changePassword hm _ _ _ => exact hc hm

theorem mem_of_mem_deleteUser {t : Tables} {u : String} {row : UserRow}
    (h : row ∈ (t.deleteUser u).users) : row ∈ t.users := by
  unfold Tables.deleteUser at h
  split at h
  · exact (List.mem_filter.1 h).1
  · exact h

/-- The cookies stay trimmed: LOGIN is the only request that adds one. -/
theorem trimmed_step (hr : Ordinary check r)
    (h : ∀ c l, s.sessions.loginOf c = some l → rstrip l = l) {c l : String}
    (hl : (r.handle s).2.sessions.loginOf c = some l) : rstrip l = l := by
  rcases loginOf_step hl with hold | ⟨hm, hsub, -⟩
  · exact h c l hold
  · exact hr.trimmed l (by simp [username, hm, hsub])

/-- A new account has a hash of the password it was registered with; the others are not its
user's. -/
theorem hashes_register (hr : Ordinary check r) (h : Stored check rs) {login pass key : String}
    {t : Tables} (hm : r.message.requestType = .register)
    (hsub : r.message.registerMessage = some ⟨some login, some pass, some key⟩)
    (hok : (r.handle (after rs)).1.isOk)
    (ht : (after rs).db.tables.insertUser login (r.env.generateBcrypt pass) = .ok t) :
    ∀ row ∈ t.users, ∃ p, LastGiven (rs ++ [r]) row.login.text p ∧ HashOf check row p := by
  obtain ⟨l, p, hl, hp, hnew, rfl⟩ := Tables.insertUser_eq_ok.1 ht
  have htext : l.text = login := by
    rw [BpChar.ofText_eq_some.1 hl]
    exact hr.trimmed login (by simp [username, hm, hsub])
  intro row hrow
  rcases List.mem_append.1 hrow with hrow | hrow
  · refine stored_keep (h.hashes row hrow) fun q hg => hnew row hrow (BpChar.ext ?_)
    cases hg with
    | register _ hsub' _ =>
      rw [hsub] at hsub'
      cases hsub'
      exact htext.symm
    | changePassword hm' _ _ _ => rw [hm] at hm'; cases hm'
  · obtain rfl := List.mem_singleton.1 hrow
    refine ⟨pass, .now ?_, hashOf_stored hr (by simp [newPassword, hm, hsub]) hp⟩
    rw [htext]
    exact .register hm hsub hok

/-- The account of the user has a hash of the new password; the others are not the user's. -/
theorem hashes_changePassword (hr : Ordinary check r) (h : Stored check rs) {cookie u new : String}
    {t : Tables} (hm : r.message.requestType = .changePassword)
    (hauth : AuthenticatedAs r.message (after rs) cookie u)
    (hnew : r.message.changePasswordMessage.map (·.newPassword.getD "") = some new)
    (hok : (r.handle (after rs)).1.isOk)
    (ht : (after rs).db.tables.updatePassword u (r.env.generateBcrypt new) = .ok t) :
    ∀ row ∈ t.users, ∃ p, LastGiven (rs ++ [r]) row.login.text p ∧ HashOf check row p := by
  obtain ⟨p, hp, rfl⟩ := Tables.updatePassword_eq_ok.1 ht
  have hu : rstrip u = u := by
    refine h.trimmed cookie u ?_
    rw [← hauth.login]
    exact SessionControler.loginOf_of_getLogin (hauth.login ▸ hauth.nonempty)
  intro row hrow
  obtain ⟨old, hold, rfl⟩ := Tables.mem_setPassword.1 hrow
  split
  · rename_i hlogin
    refine ⟨new, .now ?_, hashOf_stored hr (by simpa [newPassword, hm] using hnew) hp⟩
    rw [show old.login.text = u from hlogin.trans hu]
    exact .changePassword hm hauth hnew hok
  · rename_i hlogin
    refine stored_keep (h.hashes old hold) fun q hg => hlogin ?_
    cases hg with
    | register hm' _ _ => rw [hm] at hm'; cases hm'
    | changePassword _ hauth' _ _ =>
      have hc := Option.some.inj (hauth'.presents.symm.trans hauth.presents)
      rw [← hauth'.login, hc, hauth.login, hu]

theorem hashes_step (hr : Ordinary check r) (h : Stored check rs) :
    ∀ row ∈ (r.handle (after rs)).2.db.tables.users,
      ∃ p, LastGiven (rs ++ [r]) row.login.text p ∧ HashOf check row p := by
  have hother : r.message.requestType ≠ .register → r.message.requestType ≠ .changePassword →
      ∀ row ∈ (after rs).db.tables.users,
        ∃ p, LastGiven (rs ++ [r]) row.login.text p ∧ HashOf check row p :=
    fun hreg hchange row hrow => stored_keep (h.hashes row hrow) fun _ => not_gives hreg hchange
  intro row hrow
  rcases hout : r.handle (after rs) with ⟨reply, s'⟩
  have hk := r.outcome (after rs)
  have hu := hk.users
  rw [hout] at hk hrow hu
  cases hk with
  | kept hok =>
    have hreply : (r.handle (after rs)).1 = reply := by rw [hout]
    refine stored_keep (h.hashes row hrow) fun p hg => ?_
    cases hg with
    | register hm _ hok' => exact absurd (hok (hreply ▸ hok')) (by simp [Query, hm])
    | changePassword hm _ _ hok' => exact absurd (hok (hreply ▸ hok')) (by simp [Query, hm])
  | @registered login pass key _ hm hsub _ ht _ =>
    refine hashes_register hr h hm hsub ?_ ht row hrow
    have hkey := hr.signable hm key (by simp [hsub])
    rw [hout]
    simp [registerReply, hkey, NodeMessage.isOk, registerResponse]
  | changedPassword hm hauth hold _ ht _ =>
    refine hashes_changePassword hr h hm hauth ?_ (by rw [hout]; simp) ht row hrow
    obtain ⟨sub, hsub, he⟩ := Option.map_eq_some_iff.1 hold
    obtain ⟨-, rfl⟩ := Prod.mk.inj he
    rw [hsub]
    rfl
  | unregistered hm _ _ ht _ =>
    rw [ht] at hrow
    exact hother (by rw [hm]; decide) (by rw [hm]; decide) row (mem_of_mem_deleteUser hrow)
  | removed hm _ _ ht _ =>
    rw [ht, PsqlConnector.removeUser_snd, hr.noFault] at hrow
    exact hother (by rw [hm]; decide) (by rw [hm]; decide) row (mem_of_mem_deleteUser hrow)
  | loggedIn hm | loggedOut hm | createdNetwork hm | deletedNetwork hm | invited hm
  | updatedServer hm | stoppedServer hm | signedKey hm =>
    rcases hu with hu | hkind
    · exact hother (by rw [hm]; decide) (by rw [hm]; decide) row (hu ▸ hrow)
    · simp [hm] at hkind

theorem stored (check : String → String → Bool) (rs : List Request)
    (h : ∀ r ∈ rs, Ordinary check r) : Stored check rs := by
  induction rs using List.reverseRecOn with
  | nil => exact ⟨by simp [State.empty, Database.empty], by simp [State.empty]⟩
  | append_singleton rs r ih =>
    have ih := ih fun r hr => h r (List.mem_append_left _ hr)
    have hr : Ordinary check r := h r (by simp)
    constructor
    · rw [after_concat]
      exact hashes_step hr ih
    · intro c l hl
      rw [after_concat] at hl
      exact trimmed_step hr ih.trimmed hl

/-! ### LOGIN -/

/-- LOGIN is answered `OK` exactly when the credentials are good. -/
theorem login_isOk {u p : String} (hm : r.message.requestType = .login)
    (hsub : r.message.loginMessage = some ⟨some u, some p⟩) :
    (r.handle s).1.isOk ↔ GoodCredentials r.env s u p := by
  simp only [Request.handle, handle, handleRequest, hm]
  rw [run_handleLogin hsub]
  by_cases hgood : GoodCredentials r.env s u p
  · simp [hgood, loginResponse, NodeMessage.isOk]
  · simp [hgood]

/-- **LOGIN takes the password that was given last, if there is an account.** -/
theorem login_isOk_iff (check : String → String → Bool) (rs : List Request) (r : Request)
    (u p : String) (hrs : ∀ r ∈ rs, Ordinary check r) (hr : Ordinary check r)
    (hm : r.message.requestType = .login)
    (hsub : r.message.loginMessage = some ⟨some u, some p⟩) :
    (r.handle (after rs)).1.isOk ↔
      ((after rs).db.tables.userId? u).isSome ∧ LastGiven rs u p := by
  have hu : rstrip u = u := hr.trimmed u (by simp [username, hm, hsub])
  rw [login_isOk hm hsub, GoodCredentials, PsqlConnector.getPassHash, hr.noFault, hr.sameCheck,
    Tables.userId?]
  cases hrow : (after rs).db.tables.users.find? fun v => v.login.text = rstrip u with
  | none => simp [hr.check_empty]
  | some row =>
    have hlogin : row.login.text = u := by
      have := List.find?_some hrow
      rw [hu] at this
      simpa using this
    obtain ⟨p₀, hlast, hhash⟩ := (stored check rs hrs).hashes row (List.mem_of_find?_eq_some hrow)
    rw [hlogin] at hlast
    simp only [Bool.false_eq_true, if_false, Option.map_some, Option.isSome_some, true_and]
    rw [hhash p]
    constructor
    · rintro rfl
      exact hlast
    · exact fun h => h.unique hlast

/-- The sample environment's bcrypt is one. -/
theorem checkBcrypt_sample (p q : String) :
    Env.sample.checkBcrypt p (Env.sample.generateBcrypt q) = true ↔ p = q := by
  simp [Env.sample, eq_comm]

theorem ordinary_register_bob :
    Ordinary Env.sample.checkBcrypt (.register Env.sample "bob" "secret" "request") where
  noFault _ := rfl
  signable _ key h := by cases h; decide
  trimmed u h := by cases h; decide
  sameCheck := rfl
  check_empty := rejectsEmpty_sample
  check_generate := checkBcrypt_sample
  hash p h := by
    cases h
    exact ⟨by decide, show NoSpace (Env.sample.generateBcrypt "secret") by decide⟩

theorem ordinary_login_bob :
    Ordinary Env.sample.checkBcrypt (.login Env.sample "bob" "secret") where
  noFault _ := rfl
  signable h := by cases h
  trimmed u h := by cases h; decide
  sameCheck := rfl
  check_empty := rejectsEmpty_sample
  check_generate := checkBcrypt_sample
  hash p h := by cases h

theorem login_isOk_iff_bob :
    ((Request.login Env.sample "bob" "secret").handle
      (after [.register Env.sample "bob" "secret" "request"])).1.isOk ↔
      ((after [.register Env.sample "bob" "secret" "request"]).db.tables.userId? "bob").isSome ∧
        LastGiven [.register Env.sample "bob" "secret" "request"] "bob" "secret" :=
  login_isOk_iff Env.sample.checkBcrypt _ _ _ _
    (fun r hr => by rw [List.mem_singleton.1 hr]; exact ordinary_register_bob)
    ordinary_login_bob rfl rfl

end Sp2p.Tracker
