import Sp2p.Tracker.Run

/-!
# Sessions and accounts

A live cookie should stand for the account that logged in with it: an account that still exists, and
is the same one. Nothing ties the session store to the users table, so this is up to the handlers
that remove accounts. REMOVE_USER logs its own cookie out; UNREGISTER does not, and neither looks for
other cookies of the user. `Lasting` says what should hold after a run; `Tidy` is the condition on a
step that keeps it, `lasting_of_tidy` the result.
-/

namespace Sp2p.Tracker

open Interleaving Protocol NodeMessageFactory

/-- The request is a LOGIN that is answered `OK` and gives out the cookie for the login. -/
def Issues (s : State) (r : Request) (cookie login : String) : Prop :=
  r.message.requestType = .login ∧ r.message.loginMessage.bind (·.username) = some login ∧
    (r.handle s).1 = loginResponse cookie "notimplementedyet"

/-- A LOGIN of the run gave out the cookie for the login, and from then on the login has been that of
the account of one number. -/
def Lasts (rs : List Request) (cookie login : String) : Prop :=
  ∃ before r since uid, rs = before ++ r :: since ∧ Issues (after before) r cookie login ∧
    ∀ part, part <+: since → (after (before ++ r :: part)).db.tables.userId? login = some uid

/-- Every live cookie stands for the account it was issued to. -/
def Lasting (rs : List Request) : Prop :=
  ∀ cookie login, (after rs).sessions.loginOf cookie = some login → Lasts rs cookie login

/-- The request removes the account of the user. -/
structure Removes (s : State) (r : Request) (cookie u : String) : Prop where
  kind : r.message.requestType = .unregister ∨ r.message.requestType = .removeUser
  auth : AuthenticatedAs r.message s cookie u
  works : r.env.fault 0 = false

/-- No account is removed from under a cookie that stays live: a request that removes an account is
a REMOVE_USER, and presents the only cookie there is of the account. -/
def Tidy (s : State) (r : Request) : Prop :=
  ∀ cookie u, Removes s r cookie u → r.message.requestType = .removeUser ∧
    ∀ c l, s.sessions.loginOf c = some l → rstrip l = rstrip u → c = cookie

variable {rs : List Request} {r : Request} {s : State}

/-! ### One step -/

/-- A name whose account is not removed keeps its number. -/
theorem userId?_deleteUser {t : Tables} (h : t.Valid) {u login : String} {uid : Nat}
    (hne : rstrip login ≠ rstrip u) (huid : t.userId? login = some uid) :
    (t.deleteUser u).userId? login = some uid := by
  refine Tables.userId?_mono h (h.deleteUser u) (fun v hv hlogin => ⟨v, ?_, rfl, rfl⟩) huid
  unfold Tables.deleteUser
  split
  · rename_i gone hgone
    obtain ⟨w, hw, hwlogin, rfl⟩ := (Tables.userId?_eq_some h).1 hgone
    refine List.mem_filter.2 ⟨hv, decide_eq_true fun hid => hne ?_⟩
    rw [← hlogin, ← hwlogin, List.inj_on_of_nodup_map h.userIds hv hw hid]
  · exact hv

/-- The name of a removed account is free. -/
theorem userId?_deleteUser_self {t : Tables} (h : t.Valid) {u login : String}
    (he : rstrip login = rstrip u) : (t.deleteUser u).userId? login = none := by
  rw [Tables.userId?_eq_none, he]
  intro v hv hlogin
  unfold Tables.deleteUser at hv
  split at hv
  · rename_i gone hgone
    obtain ⟨hmem, hid⟩ := List.mem_filter.1 hv
    obtain ⟨w, hw, hwlogin, rfl⟩ := (Tables.userId?_eq_some h).1 hgone
    have hvw : v = w := List.inj_on_of_nodup_map h.logins hmem hw
      (BpChar.ext (hlogin.trans hwlogin.symm))
    simp [hvw] at hid
  · rename_i hnone
    exact Tables.userId?_eq_none.1 hnone v hv hlogin

theorem userId?_setPassword {t : Tables} (h : t.Valid) {u login : String} {p : BpChar 70} {uid : Nat}
    (huid : t.userId? login = some uid) : (t.setPassword u p).userId? login = some uid := by
  refine Tables.userId?_mono h (h.setPassword u p) (fun v hv _ => ?_) huid
  exact ⟨_, Tables.mem_setPassword.2 ⟨v, hv, rfl⟩, by split <;> rfl, by split <;> rfl⟩

theorem userId?_insertUser {t t' : Tables} (h : t.Valid) {u password login : String} {uid : Nat}
    (hins : t.insertUser u password = .ok t') (huid : t.userId? login = some uid) :
    t'.userId? login = some uid := by
  refine Tables.userId?_mono h (h.insertUser hins) (fun v hv _ => ⟨v, ?_, rfl, rfl⟩) huid
  obtain ⟨l, p, -, -, -, rfl⟩ := Tables.insertUser_eq_ok.1 hins
  exact List.mem_append_left _ hv

/-- A request that is `Tidy` keeps the number of every name that a live cookie has before and after. -/
theorem userId?_step (htidy : Tidy s r) {cookie login : String} {uid : Nat}
    (hold : s.sessions.loginOf cookie = some login)
    (hnew : (r.handle s).2.sessions.loginOf cookie = some login)
    (huid : s.db.tables.userId? login = some uid) :
    (r.handle s).2.db.tables.userId? login = some uid := by
  have hdelete : ∀ {c u : String}, Removes s r c u → cookie ≠ c →
      (s.db.tables.deleteUser u).userId? login = some uid := by
    intro c u hrem hne
    refine userId?_deleteUser s.db.valid (fun he => hne ?_) huid
    exact (htidy c u hrem).2 cookie login hold he
  rcases (r.outcome s).users with hu | hkind
  · rw [Tables.userId?, hu]
    exact huid
  · rcases hout : r.handle s with ⟨reply, s'⟩
    have h := r.outcome s
    rw [hout] at h hnew
    cases h with
    | kept _ => exact huid
    | registered _ _ _ ht _ => exact userId?_insertUser s.db.valid ht huid
    | unregistered hm ha hf _ _ =>
      have htype := (htidy _ _ ⟨.inl hm, ha, hf⟩).1
      rw [hm] at htype
      cases htype
    | removed hm ha _ ht hs =>
      rw [ht, PsqlConnector.removeUser_snd]
      split
      · exact huid
      · rename_i hf
        refine hdelete ⟨.inr hm, ha, by simpa using hf⟩ fun he => ?_
        rw [hs, SessionControler.loginOf_logout, if_pos he.symm] at hnew
        cases hnew
    | changedPassword _ _ _ _ ht _ =>
      obtain ⟨p, -, ht⟩ := Tables.updatePassword_eq_ok.1 ht
      rw [ht]
      exact userId?_setPassword s.db.valid huid
    | loggedIn hm | loggedOut hm | createdNetwork hm | deletedNetwork hm | invited hm
    | updatedServer hm | stoppedServer hm | signedKey hm => simp [hm] at hkind

/-- A cookie that is live after a request was so before, for the same login, or the request issued
it. -/
theorem loginOf_step {cookie login : String}
    (hnew : (r.handle s).2.sessions.loginOf cookie = some login) :
    s.sessions.loginOf cookie = some login ∨ Issues s r cookie login := by
  rcases hout : r.handle s with ⟨reply, s'⟩
  have h := r.outcome s
  rw [hout] at h hnew
  have hkept : ∀ {s' : State}, s'.sessions = s.sessions → s'.sessions.loginOf cookie = some login →
      s.sessions.loginOf cookie = some login := fun hs hl => by rwa [hs] at hl
  have hlogout : ∀ {c : String} {s' : State}, s'.sessions = (s.sessions.logout c).2 →
      s'.sessions.loginOf cookie = some login → s.sessions.loginOf cookie = some login := by
    intro c s' hs hl
    rw [hs, SessionControler.loginOf_logout] at hl
    split at hl
    · cases hl
    · exact hl
  cases h with
  | kept _ => exact .inl hnew
  | @loggedIn l pass _ hm hsub _ _ hs =>
    rw [hs, SessionControler.loginOf_login] at hnew
    split at hnew
    · rename_i hc
      cases hnew
      exact .inr ⟨hm, by simp [hsub], by rw [hout, hc]⟩
    · exact .inl hnew
  | loggedOut _ _ _ _ hs | removed _ _ _ _ hs => exact .inl (hlogout hs hnew)
  | registered _ _ _ _ hs | unregistered _ _ _ _ hs | createdNetwork _ _ _ _ _ hs
  | deletedNetwork _ _ _ _ _ _ hs | invited _ _ _ hs | updatedServer _ _ _ hs
  | stoppedServer _ _ _ _ _ hs | signedKey _ _ _ _ _ hs | changedPassword _ _ _ _ _ hs =>
    exact .inl (hkept hs hnew)

/-- The check rejects every password when there is no hash. -/
def RejectsEmpty (env : Env) : Prop := ∀ password, env.checkBcrypt password "" = false

/-- The cookie is live for the login then, and the credentials are good. -/
theorem loginOf_of_issues {cookie login : String} (h : Issues s r cookie login) :
    (r.handle s).2.sessions.loginOf cookie = some login ∧ (r.handle s).2.db = s.db ∧
      ∃ pass, GoodCredentials r.env s login pass := by
  obtain ⟨hm, hsub, hreply⟩ := h
  rcases hout : r.handle s with ⟨reply, s'⟩
  have hk := r.outcome s
  rw [hout] at hk hreply
  cases hk with
  | kept hok =>
    obtain rfl : reply = _ := hreply
    exact absurd (hok rfl) (by simp [Query, hm])
  | @loggedIn l pass _ _ hl hgood ht hs =>
    obtain rfl : l = login := by simpa [hl] using hsub
    have hcookie : r.env.randomString = cookie := by
      have hresponse := congrArg (fun m => m.loginResponse.bind (·.cookie)) hreply
      exact Option.some_inj.1 hresponse
    refine ⟨?_, ht, pass, hgood⟩
    show s'.sessions.loginOf cookie = some l
    rw [hs, SessionControler.loginOf_login, if_pos hcookie]
  | registered hm' | unregistered hm' | loggedOut hm' | createdNetwork hm' | deletedNetwork hm'
  | invited hm' | removed hm' | updatedServer hm' | stoppedServer hm' | signedKey hm'
  | changedPassword hm' => rw [hm] at hm'; cases hm'

/-- A cookie is only issued to an account. -/
theorem account_of_issues (hempty : RejectsEmpty r.env) {cookie login : String}
    (h : Issues s r cookie login) : ∃ uid, (r.handle s).2.db.tables.userId? login = some uid := by
  obtain ⟨-, hdb, pass, hgood⟩ := loginOf_of_issues h
  rw [hdb]
  unfold GoodCredentials PsqlConnector.getPassHash at hgood
  by_cases hf : r.env.fault 0 = true
  · simp [hf, hempty pass] at hgood
  · rw [if_neg hf] at hgood
    cases hrow : s.db.tables.users.find? fun u => u.login.text = rstrip login with
    | none => simp [hrow, hempty pass] at hgood
    | some u => exact ⟨u.id, by rw [Tables.userId?, hrow]; rfl⟩

/-- What a removal leaves: the name is free, and every other cookie as live as before. -/
theorem Removes.effect {cookie u : String} (h : Removes s r cookie u) :
    (r.handle s).2.db.tables = s.db.tables.deleteUser u ∧
      ∀ c, (r.message.requestType = .removeUser → c ≠ cookie) →
        (r.handle s).2.sessions.loginOf c = s.sessions.loginOf c := by
  rcases h.kind with hm | hm
  · obtain ⟨s', he, ht, hs⟩ := @handle_unregister r.env r.message s cookie u r.initialized hm h.auth
    rw [Request.handle, he]
    refine ⟨by rw [ht, PsqlConnector.removeUser_snd, h.works]; rfl, fun c _ => by rw [hs]⟩
  · obtain ⟨s', he, ht, hs⟩ := @handle_removeUser r.env r.message s cookie u hm h.auth
    rw [Request.handle, he]
    refine ⟨by rw [ht, PsqlConnector.removeUser_snd, h.works]; rfl, fun c hc => ?_⟩
    rw [hs, SessionControler.loginOf_logout, if_neg (hc hm).symm]

/-! ### Whole runs -/

/-- A `Tidy` request keeps every live cookie with its account. -/
theorem lasting_concat (hempty : RejectsEmpty r.env) (h : Lasting rs) (htidy : Tidy (after rs) r) :
    Lasting (rs ++ [r]) := by
  intro cookie login hnew
  rw [after_concat] at hnew
  rcases loginOf_step hnew with hold | hissue
  · obtain ⟨before, r₀, since, uid, rfl, hissue, hpart⟩ := h cookie login hold
    refine ⟨before, r₀, since ++ [r], uid, by simp, hissue, fun part hp => ?_⟩
    rcases List.prefix_concat_iff.1 hp with rfl | hp
    · have huid := hpart since (List.prefix_refl _)
      rw [show before ++ r₀ :: (since ++ [r]) = (before ++ r₀ :: since) ++ [r] by simp, after_concat]
      exact userId?_step htidy hold hnew huid
    · exact hpart part hp
  · obtain ⟨uid, huid⟩ := account_of_issues hempty hissue
    refine ⟨rs, r, [], uid, rfl, hissue, fun part hp => ?_⟩
    obtain rfl := List.prefix_nil.1 hp
    rwa [after_concat]

/-- A request that is not `Tidy` leaves a live cookie without its account. -/
theorem not_lasting_concat (htidy : ¬ Tidy (after rs) r) : ¬ Lasting (rs ++ [r]) := by
  intro hlast
  apply htidy
  intro cookie u hrem
  obtain ⟨ht, hsess⟩ := hrem.effect
  -- No cookie of the account may be live now.
  have hgone : ∀ c l, (after rs).sessions.loginOf c = some l → rstrip l = rstrip u →
      ¬ (r.message.requestType = .removeUser → c ≠ cookie) := by
    intro c l hl he hc
    obtain ⟨before, r₀, since, uid, heq, -, hpart⟩ :=
      hlast c l (by rw [after_concat, hsess c hc, hl])
    have huid := hpart since (List.prefix_refl _)
    rw [← heq, after_concat, ht, userId?_deleteUser_self (after rs).db.valid he] at huid
    cases huid
  have hown : (after rs).sessions.loginOf cookie = some u := by
    have := SessionControler.loginOf_of_getLogin (hrem.auth.login ▸ hrem.auth.nonempty)
    rwa [hrem.auth.login] at this
  constructor
  · by_contra hkind
    exact hgone cookie u hown rfl fun hm => absurd hm hkind
  · intro c l hl he
    by_contra hne
    exact hgone c l hl he fun _ => hne

/-- **Sessions never outlive accounts exactly in the runs whose every step is `Tidy`.** -/
theorem lasting_iff_tidy (rs : List Request) (hempty : ∀ r ∈ rs, RejectsEmpty r.env) :
    (∀ part, part <+: rs → Lasting part) ↔
      ∀ before r, before ++ [r] <+: rs → Tidy (after before) r := by
  induction rs using List.reverseRecOn with
  | nil =>
    constructor
    · intro _ before r hp
      exact absurd (List.prefix_nil.1 hp) (by simp)
    · intro _ part hp cookie login hl
      obtain rfl := List.prefix_nil.1 hp
      simp [State.empty] at hl
  | append_singleton rs r ih =>
    have ih := ih fun r hr => hempty r (List.mem_append_left _ hr)
    have hr : RejectsEmpty r.env := hempty r (by simp)
    constructor
    · intro hlast before r' hp
      have hrs := ih.1 fun part hp => hlast part (hp.trans (List.prefix_append _ _))
      rcases List.prefix_concat_iff.1 hp with he | hp
      · obtain ⟨rfl, hrr⟩ := List.append_inj' he rfl
        obtain rfl := List.singleton_inj.1 hrr
        by_contra htidy
        exact not_lasting_concat htidy (hlast _ (List.prefix_refl _))
      · exact hrs before r' hp
    · intro htidy part hp
      have hrs := ih.2 fun before r' hp => htidy before r' (hp.trans (List.prefix_append _ _))
      rcases List.prefix_concat_iff.1 hp with rfl | hp
      · exact lasting_concat hr (hrs rs (List.prefix_refl _)) (htidy rs r (List.prefix_refl _))
      · exact hrs part hp

theorem rejectsEmpty_sample : RejectsEmpty Env.sample := by
  intro password
  simp only [Env.sample, decide_eq_false_iff_not]
  intro h
  have hlen := congrArg String.length h
  rw [String.length_append, show "$2a$10$".length = 7 from rfl, show "".length = 0 from rfl] at hlen
  omega

/-- Bob registers, logs in, and unregisters: his cookie stays live. -/
def unregisterRun : List Request :=
  [.register Env.sample "bob" "secret" "request", .login Env.sample "bob" "secret",
    .unregister Env.sample "c00kie"]

theorem lasting_iff_tidy_unregisterRun :
    (∀ part, part <+: unregisterRun → Lasting part) ↔
      ∀ before r, before ++ [r] <+: unregisterRun → Tidy (after before) r :=
  lasting_iff_tidy unregisterRun fun r hr => by
    simp only [unregisterRun, List.mem_cons, List.not_mem_nil, or_false] at hr
    rcases hr with rfl | rfl | rfl <;> exact rejectsEmpty_sample

theorem session_outlives_account :
    ¬ ∀ rs : List Request, (∀ r ∈ rs, RejectsEmpty r.env) → Lasting rs := by
  intro h
  have hlast := h unregisterRun fun r hr => by
    simp only [unregisterRun, List.mem_cons, List.not_mem_nil, or_false] at hr
    rcases hr with rfl | rfl | rfl <;> exact rejectsEmpty_sample
  obtain ⟨before, r, since, uid, heq, -, hpart⟩ := hlast "c00kie" "bob" (by decide)
  have huid := hpart since (List.prefix_refl _)
  rw [← heq] at huid
  exact absurd huid (by rw [show (after unregisterRun).db.tables.userId? "bob" = none by decide]; simp)

end Sp2p.Tracker
