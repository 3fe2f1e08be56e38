import Sp2p.Tracker.Outcome

/-!
# The authentication gate

A request of any kind but REGISTER and LOGIN that presents no live cookie changes nothing and is
told nothing but a status. Every handler makes its own check of the fields and of the session, so
there is one lemma a handler: it is `Gated`, which leaves two ways to a refusal. The sub-message is
not there, or the cookie in it is dead.
-/

namespace Sp2p.Tracker

open Interleaving Protocol NodeMessageFactory

/-! ### What the handlers have in common -/

/-- The reply does not say `NOT_LOGGED`. -/
def Admitted (reply : NodeMessage) : Prop := reply.responseType ≠ some .notLogged

/-- A call that is not about a session, or only looks one up. -/
def SessionFree : Call → Prop
  | .login .. | .logout _ => False
  | _ => True

/-- Nothing here answers `NOT_LOGGED`, and all calls are of one kind. -/
structure Tame (P : Call → Prop) (h : Handler) : Prop where
  returns : h.Returns Admitted
  calls : h.All P

/-- The handler of a request with the cookie: the lookup of the session, and then something tame; or,
where the sub-message is missing, a status. -/
inductive Gated (P : Call → Prop) (cookie : Option String) : Handler → Prop
  | absent {r : ResponseType} (hr : r ≠ .ok) (h : cookie = none) : Gated P cookie (pure (errorMesage r))
  | behind {c : String} {k : String → Handler} (h : cookie = some c) (hk : ∀ u, Tame P (k u)) :
    Gated P cookie (authenticated c k)

variable {P : Call → Prop} {env : Env} {m : ClientMessage} {s : State}

theorem tame_status {r : ResponseType} (hr : r ≠ .notLogged) : Tame P (pure (errorMesage r)) :=
  ⟨fun h => hr (Option.some_inj.1 h), trivial⟩

theorem tame_ok {r : NodeMessage} (hr : r.isOk) : Tame P (pure r) := by
  refine ⟨fun h => ?_, trivial⟩
  have hok : some ResponseType.ok = some .notLogged := hr.symm.trans h
  cases hok

theorem tame_dbError {nf : ResponseType} (hnf : nf ≠ .notLogged) (r : DBResponse) :
    Tame P (pure (errorMesage (dbError nf r))) := by
  apply tame_status
  cases r with
  | notFound => exact hnf
  | ok | internalError | notUnique | notPermited => simp [dbError]

theorem tame_check {c : Prop} [Decidable c] {r : ResponseType} (hr : r ≠ .notLogged) {h : Handler}
    (hh : Tame P h) : Tame P (if c then pure (errorMesage r) else h) :=
  ⟨returns_ite (tame_status hr : Tame P _).returns hh.returns, all_ite trivial hh.calls⟩

theorem tame_call {c : Call} (hP : ∀ o, SessionFree o → P o) (hc : SessionFree c)
    {k : c.Ans → Handler} (hk : ∀ r, Tame P (k r)) : Tame P (callShared c >>= k) :=
  ⟨fun r => (hk r).returns, hP c hc, fun r => (hk r).calls⟩

theorem tame_goodCredentials (hP : ∀ o, SessionFree o → P o) {login pass : String}
    {k : Bool → Handler} (hk : ∀ r, Tame P (k r)) : Tame P (goodCredentials env login pass >>= k) :=
  ⟨returns_bind fun r => (hk r).returns,
    all_bind ⟨hP _ (by trivial), fun _ => trivial⟩ fun r => (hk r).calls⟩

theorem gated_unregister (hP : ∀ o, SessionFree o → P o) (hm : m.requestType = .unregister)
    (hinit : m.unregisterMessage.all (·.cookie.isSome)) :
    Gated P m.cookie (handleUnregister env m) := by
  unfold handleUnregister
  rcases hsub : m.unregisterMessage with _ | ⟨_ | cookie⟩
  · exact .absent (by decide) (by simp [ClientMessage.cookie, hm, hsub])
  · simp [hsub] at hinit
  · refine .behind (by simp [ClientMessage.cookie, hm, hsub]) fun _ => ?_
    exact tame_call hP (by trivial) fun r => tame_dbError (by decide) r

theorem gated_listNetworks (hP : ∀ o, SessionFree o → P o) (hm : m.requestType = .listNetworks)
    (hinit : m.listNetworksMessage.all (·.cookie.isSome)) :
    Gated P m.cookie (handleListNetworks env m) := by
  unfold handleListNetworks
  rcases hsub : m.listNetworksMessage with _ | ⟨_ | cookie⟩
  · exact .absent (by decide) (by simp [ClientMessage.cookie, hm, hsub])
  · simp [hsub] at hinit
  · refine .behind (by simp [ClientMessage.cookie, hm, hsub]) fun _ => ?_
    exact tame_call hP (by trivial) fun _ => tame_ok rfl

theorem gated_listMyNetworks (hP : ∀ o, SessionFree o → P o)
    (hm : m.requestType = .listMyNetworks) (hinit : m.listMyNetworksMessage.all (·.cookie.isSome)) :
    Gated P m.cookie (handleListMyNetworks env m) := by
  unfold handleListMyNetworks
  rcases hsub : m.listMyNetworksMessage with _ | ⟨_ | cookie⟩
  · exact .absent (by decide) (by simp [ClientMessage.cookie, hm, hsub])
  · simp [hsub] at hinit
  · refine .behind (by simp [ClientMessage.cookie, hm, hsub]) fun _ => ?_
    exact tame_call hP (by trivial) fun _ => tame_ok rfl

theorem gated_listServers (hP : ∀ o, SessionFree o → P o) (hm : m.requestType = .listServers)
    (hinit : m.listServersMessage.all fun r => r.cookie.isSome && r.networkName.isSome) :
    Gated P m.cookie (handleListServers env m) := by
  unfold handleListServers
  rcases hsub : m.listServersMessage with _ | ⟨_ | cookie, _ | network⟩
  · exact .absent (by decide) (by simp [ClientMessage.cookie, hm, hsub])
  · simp [hsub] at hinit
  · simp [hsub] at hinit
  · simp [hsub] at hinit
  · refine .behind (by simp [ClientMessage.cookie, hm, hsub]) fun _ => ?_
    refine tame_call hP (by trivial) fun _ => tame_check (by decide) ?_
    refine tame_call hP (by trivial) fun _ => tame_check (by decide) ?_
    exact tame_call hP (by trivial) fun _ => tame_ok rfl

theorem gated_createNetwork (hP : ∀ o, SessionFree o → P o) (hm : m.requestType = .createNetwork)
    (hinit : m.createNetworkMessage.all fun r => r.cookie.isSome && r.networkName.isSome &&
      r.accessRights.isSome && r.visibility.isSome && r.participationRights.isSome) :
    Gated P m.cookie (handleCreateNetwork env m) := by
  unfold handleCreateNetwork
  rcases hsub : m.createNetworkMessage with _ | ⟨cookie, name, access, vis, part, mail, proto⟩
  · exact .absent (by decide) (by simp [ClientMessage.cookie, hm, hsub])
  · simp only [hsub, Option.all_some, Bool.and_eq_true, Option.isSome_iff_exists] at hinit
    obtain ⟨⟨⟨⟨⟨cookie, rfl⟩, ⟨name, rfl⟩⟩, ⟨access, rfl⟩⟩, ⟨vis, rfl⟩⟩, ⟨part, rfl⟩⟩ := hinit
    refine .behind (by simp [ClientMessage.cookie, hm, hsub]) fun _ => ?_
    refine tame_call hP (by trivial) fun r => ?_
    cases r with
    | ok => exact tame_call hP (by trivial) fun _ => tame_ok rfl
    | _ => exact tame_dbError (by decide) _

theorem gated_deleteNetwork (hP : ∀ o, SessionFree o → P o) (hm : m.requestType = .deleteNetwork)
    (hinit : m.deleteNetworkMessage.all fun r => r.cookie.isSome && r.name.isSome) :
    Gated P m.cookie (handleDeleteNetwork env m) := by
  unfold handleDeleteNetwork
  rcases hsub : m.deleteNetworkMessage with _ | ⟨_ | cookie, _ | name⟩
  · exact .absent (by decide) (by simp [ClientMessage.cookie, hm, hsub])
  · simp [hsub] at hinit
  · simp [hsub] at hinit
  · simp [hsub] at hinit
  · refine .behind (by simp [ClientMessage.cookie, hm, hsub]) fun _ => ?_
    refine tame_call hP (by trivial) fun _ => tame_check (by decide) ?_
    exact tame_call hP (by trivial) fun r => tame_dbError (by decide) r

theorem gated_inviteUser (hP : ∀ o, SessionFree o → P o) (hm : m.requestType = .inviteUser)
    (hinit : m.inviteUserMessage.all fun r =>
      r.cookie.isSome && r.username.isSome && r.networkName.isSome) :
    Gated P m.cookie (handleInviteUser env m) := by
  unfold handleInviteUser
  rcases hsub : m.inviteUserMessage with _ | ⟨cookie, username, network⟩
  · exact .absent (by decide) (by simp [ClientMessage.cookie, hm, hsub])
  · simp only [hsub, Option.all_some, Bool.and_eq_true, Option.isSome_iff_exists] at hinit
    obtain ⟨⟨⟨cookie, rfl⟩, ⟨username, rfl⟩⟩, ⟨network, rfl⟩⟩ := hinit
    refine .behind (by simp [ClientMessage.cookie, hm, hsub]) fun _ => ?_
    refine tame_call hP (by trivial) fun _ => tame_check (by decide) ?_
    refine tame_call hP (by trivial) fun _ => tame_check (by decide) ?_
    exact tame_call hP (by trivial) fun r => tame_dbError (by decide) r

/-- The session goes at the end. -/
theorem gated_removeUser (hP : ∀ o, SessionFree o → P o) (hm : m.requestType = .removeUser)
    (hlogout : ∀ c, m.cookie = some c → P (.logout c)) :
    Gated P m.cookie (handleRemoveUser env m) := by
  unfold handleRemoveUser
  cases hsub : m.removeUserMessage with
  | none => exact .absent (by decide) (by simp [ClientMessage.cookie, hm, hsub])
  | some sub =>
    have hc : m.cookie = some (sub.cookie.getD "") := by simp [ClientMessage.cookie, hm, hsub]
    refine .behind hc fun _ => tame_call hP (by trivial) fun r => ?_
    have hr : Tame P (pure (errorMesage (dbError .noSuchUser r))) := tame_dbError (by decide) r
    exact ⟨fun _ => hr.returns, hlogout _ hc, fun _ => hr.calls⟩

theorem gated_userInfo (hP : ∀ o, SessionFree o → P o) (hm : m.requestType = .userInfo) :
    Gated P m.cookie (handleUserInfo env m) := by
  unfold handleUserInfo
  cases hsub : m.userInfoMessage with
  | none => exact .absent (by decide) (by simp [ClientMessage.cookie, hm, hsub])
  | some sub =>
    refine .behind (by simp [ClientMessage.cookie, hm, hsub]) fun _ => ?_
    refine tame_call hP (by trivial) fun _ => tame_check (by decide) ?_
    refine tame_call hP (by trivial) fun _ => tame_check (by decide) ?_
    exact tame_call hP (by trivial) fun _ => tame_ok rfl

theorem gated_updateServer (hP : ∀ o, SessionFree o → P o) (hm : m.requestType = .updateServer) :
    Gated P m.cookie (handleUpdateServer env m) := by
  unfold handleUpdateServer
  cases hsub : m.updateServerMessage with
  | none => exact .absent (by decide) (by simp [ClientMessage.cookie, hm, hsub])
  | some sub =>
    refine .behind (by simp [ClientMessage.cookie, hm, hsub]) fun _ => ?_
    refine tame_call hP (by trivial) fun _ => tame_check (by decide) ?_
    refine tame_call hP (by trivial) fun _ => tame_check (by decide) ?_
    refine tame_call hP (by trivial) fun r => ?_
    cases r with
    | ok => exact tame_ok rfl
    | _ => exact tame_dbError (by decide) _

theorem gated_stopServer (hP : ∀ o, SessionFree o → P o) (hm : m.requestType = .stopServer) :
    Gated P m.cookie (handleStopServer env m) := by
  unfold handleStopServer
  cases hsub : m.stopServerMessage with
  | none => exact .absent (by decide) (by simp [ClientMessage.cookie, hm, hsub])
  | some sub =>
    refine .behind (by simp [ClientMessage.cookie, hm, hsub]) fun _ => ?_
    refine tame_call hP (by trivial) fun _ => tame_check (by decide) ?_
    exact tame_call hP (by trivial) fun r => tame_dbError (by decide) r

theorem gated_signKey (hP : ∀ o, SessionFree o → P o) (hm : m.requestType = .signKey) :
    Gated P m.cookie (handleSignKey env m) := by
  unfold handleSignKey
  cases hsub : m.signKeyMessage with
  | none => exact .absent (by decide) (by simp [ClientMessage.cookie, hm, hsub])
  | some sub =>
    refine .behind (by simp [ClientMessage.cookie, hm, hsub]) fun _ => ?_
    refine tame_call hP (by trivial) fun r => tame_check (by decide) ?_
    cases r with
    | ok => exact tame_ok rfl
    | _ => exact tame_dbError (by decide) _

theorem gated_changePassword (hP : ∀ o, SessionFree o → P o)
    (hm : m.requestType = .changePassword) : Gated P m.cookie (handleChangePassword env m) := by
  unfold handleChangePassword
  cases hsub : m.changePasswordMessage with
  | none => exact .absent (by decide) (by simp [ClientMessage.cookie, hm, hsub])
  | some sub =>
    refine .behind (by simp [ClientMessage.cookie, hm, hsub]) fun _ => ?_
    refine tame_goodCredentials hP fun _ => tame_check (by decide) ?_
    exact tame_call hP (by trivial) fun r => tame_dbError (by decide) r

/-- All handlers but three look the session up first. -/
theorem gated_handleRequest (hP : ∀ o, SessionFree o → P o) (hinit : m.isInitialized = true)
    (hregister : m.requestType ≠ .register) (hlogin : m.requestType ≠ .login)
    (hlogout : m.requestType ≠ .logout)
    (hremove : m.requestType = .removeUser → ∀ c, m.cookie = some c → P (.logout c)) :
    Gated P m.cookie (handleRequest env m) := by
  simp only [ClientMessage.isInitialized, Bool.and_eq_true] at hinit
  unfold handleRequest
  cases hm : m.requestType with
  | register => exact absurd hm hregister
  | login => exact absurd hm hlogin
  | logout => exact absurd hm hlogout
  | unregister => exact gated_unregister hP hm (by tauto)
  | listNetworks => exact gated_listNetworks hP hm (by tauto)
  | listMyNetworks => exact gated_listMyNetworks hP hm (by tauto)
  | listServers => exact gated_listServers hP hm (by tauto)
  | createNetwork => exact gated_createNetwork hP hm (by tauto)
  | deleteNetwork => exact gated_deleteNetwork hP hm (by tauto)
  | inviteUser => exact gated_inviteUser hP hm (by tauto)
  | removeUser => exact gated_removeUser hP hm (hremove hm)
  | userInfo => exact gated_userInfo hP hm
  | updateServer => exact gated_updateServer hP hm
  | stopServer => exact gated_stopServer hP hm
  | signKey => exact gated_signKey hP hm
  | changePassword => exact gated_changePassword hP hm

/-! ### Without a session -/

/-- The request left the state alone and got a bare status, `NOT_LOGGED` if it came with the
sub-message of its type. -/
def Refused (m : ClientMessage) (s : State) (out : NodeMessage × State) : Prop :=
  out.2 = s ∧ ∃ r, r ≠ .ok ∧ out.1.IsStatus r ∧ (m.cookie.isSome → r = .notLogged)

/-- The cookie of the request, if it has one, is not live. -/
def NotLogged (m : ClientMessage) (s : State) : Prop :=
  ∀ c, m.cookie = some c → ¬ s.sessions.isLogged c

/-- Without its sub-message a request gets the status its handler has for that. -/
theorem refused_absent {r : ResponseType} (hr : r ≠ .ok) (h : m.cookie = none) :
    Refused m s (errorMesage r, s) :=
  ⟨rfl, r, hr, rfl, by simp [h]⟩

/-- With a dead cookie a handler stops at the lookup of the session. -/
theorem refused_authenticated {cookie : String} {k : String → Handler} (hdead : NotLogged m s)
    (h : m.cookie = some cookie) : Refused m s ((authenticated cookie k).run exec s) := by
  have hl : s.sessions.getLogin cookie = "" :=
    SessionControler.getLogin_of_not_isLogged (hdead cookie h)
  rw [run_authenticated, if_pos hl]
  exact ⟨rfl, .notLogged, by decide, rfl, fun _ => rfl⟩

theorem Gated.refused {h : Handler} (hg : Gated P m.cookie h) (hdead : NotLogged m s) :
    Refused m s (h.run exec s) := by
  cases hg with
  | absent hr hc => exact refused_absent hr hc
  | behind hc => exact refused_authenticated hdead hc

theorem refused_logout (hdead : NotLogged m s) (hm : m.requestType = .logout)
    (hinit : m.logoutMessage.all (·.cookie.isSome)) :
    Refused m s ((handleLogout m).run exec s) := by
  unfold handleLogout
  rcases hsub : m.logoutMessage with _ | ⟨_ | cookie⟩
  · exact refused_absent (by decide) (by simp [ClientMessage.cookie, hm, hsub])
  · simp [hsub] at hinit
  · have hc : m.cookie = some cookie := by simp [ClientMessage.cookie, hm, hsub]
    have hl : ¬ s.sessions.isLogged cookie := hdead cookie hc
    rw [run_callShared]
    simp only [exec, SessionControler.logout_fst, hl, decide_false,
      SessionControler.logout_of_not_isLogged hl]
    exact ⟨rfl, .notLogged, by decide, rfl, fun _ => rfl⟩

/-- **Without a live cookie a request changes nothing and learns nothing.** The two requests that
are exempt are those that carry no cookie. -/
theorem unauthenticated_refused (env : Env) (m : ClientMessage) (s : State)
    (hinit : m.isInitialized = true) (hregister : m.requestType ≠ .register)
    (hlogin : m.requestType ≠ .login) (hdead : NotLogged m s) : Refused m s (handle env m s) := by
  by_cases hlogout : m.requestType = .logout
  · simp only [ClientMessage.isInitialized, Bool.and_eq_true] at hinit
    simp only [handle, handleRequest, hlogout]
    exact refused_logout hdead hlogout (by tauto)
  · have hgated : Gated (fun _ => True) m.cookie (handleRequest env m) :=
      gated_handleRequest (fun _ _ => trivial) hinit hregister hlogin hlogout fun _ _ _ => trivial
    exact hgated.refused hdead

theorem unauthenticated_refused_listNetworks :
    Refused { request := some .listNetworks, listNetworksMessage := some ⟨some "stale"⟩ } State.empty
      (handle Env.sample
        { request := some .listNetworks, listNetworksMessage := some ⟨some "stale"⟩ } State.empty) :=
  unauthenticated_refused _ _ _ (by decide) (by decide) (by decide) fun c _ => by
    simp [SessionControler.isLogged_iff, State.empty]

end Sp2p.Tracker
