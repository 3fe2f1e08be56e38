import Sp2p.Tracker.RequestHandler

/-!
# What a request can do

`Outcome` lists every way a handled request can end: it keeps the state, or it is one of eleven
changes, each with what the handler found before making it and the reply it then gives. `outcome`
is the inversion lemma of the handlers: the results about one request, and the steps of the results
about runs, are case analyses over `Outcome`.
-/

namespace Sp2p.Tracker

open Interleaving Protocol NodeMessageFactory
open Framing (toInt32)

/-! ### Running the shared parts of the handlers -/

@[simp] theorem write_tables (s : State) (f : Tables → DBResponse × Tables) (hf) :
    (s.write f hf).2.db.tables = (f s.db.tables).2 := rfl

@[simp] theorem write_sessions (s : State) (f : Tables → DBResponse × Tables) (hf) :
    (s.write f hf).2.sessions = s.sessions := rfl

@[simp] theorem write_fst (s : State) (f : Tables → DBResponse × Tables) (hf) :
    (s.write f hf).1 = (f s.db.tables).1 := rfl

/-- A write that keeps the tables keeps the state. -/
theorem write_eq_self {s : State} {f : Tables → DBResponse × Tables} (hf)
    (h : (f s.db.tables).2 = s.db.tables) : s.write f hf = ((f s.db.tables).1, s) := by
  obtain ⟨⟨t, ht⟩, sc⟩ := s
  simp only [State.write] at h ⊢
  simp only [h]

/-- A write in terms of what it answers and the tables it leaves. -/
theorem write_eq {s : State} {f : Tables → DBResponse × Tables} (hf) {r : DBResponse} {t : Tables}
    (h : f s.db.tables = (r, t)) :
    ∃ s', s'.db.tables = t ∧ s'.sessions = s.sessions ∧ s.write f hf = (r, s') :=
  ⟨(s.write f hf).2, congrArg Prod.snd h, rfl, Prod.ext (by rw [write_fst, h]) rfl⟩

/-- What a call that is one transaction does: it commits the statement and answers `OK`, or, when
the transaction or the statement fails, it keeps the state. -/
def Transacts (fault : Bool) (x : Except SqlError Tables) (s : State) (out : DBResponse × State) :
    Prop :=
  (∃ s', fault = false ∧ x = .ok s'.db.tables ∧ s'.sessions = s.sessions ∧ out = (.ok, s')) ∨
    ∃ r, r ≠ .ok ∧ (fault = true ∨ ∀ t, x ≠ .ok t) ∧ out = (r, s)

theorem write_work (s : State) (f : Tables → DBResponse × Tables) (hf) {fault : Bool}
    {onUnique : DBResponse} {x : Except SqlError Tables}
    (hfx : f s.db.tables = PsqlConnector.work fault onUnique s.db.tables x) (hu : onUnique ≠ .ok) :
    Transacts fault x s (s.write f hf) := by
  rcases PsqlConnector.work_cases fault hu s.db.tables x with ⟨t, hfault, hx, hw⟩ | ⟨hno, hne, hw⟩
  · left
    obtain ⟨s', rfl, hs, he⟩ := write_eq hf (hfx.trans hw)
    exact ⟨s', hfault, hx, hs, he⟩
  · right
    rw [← hfx] at hne hw
    exact ⟨_, hne, hno, write_eq_self hf hw⟩

/-- Nothing stands in the way of a statement that is fine. -/
theorem Transacts.commits {fault : Bool} {x : Except SqlError Tables} {s : State}
    {out : DBResponse × State} (h : Transacts fault x s out) (hfault : fault = false) {t : Tables}
    (hx : x = .ok t) : ∃ s', s'.db.tables = t ∧ s'.sessions = s.sessions ∧ out = (.ok, s') := by
  rcases h with ⟨s', -, hx', hs, he⟩ | ⟨r, -, hno, -⟩
  · exact ⟨s', Except.ok.inj (hx'.symm.trans hx), hs, he⟩
  · rcases hno with hf | hno
    · rw [hfault] at hf; cases hf
    · exact absurd hx (hno t)

theorem exec_createUser (fault : Bool) (l pw : String) (s : State) :
    Transacts fault (s.db.tables.insertUser l pw) s (exec (.createUser fault l pw) s) :=
  write_work s _ _ rfl (by decide)

theorem exec_removeUser (fault : Bool) (l : String) (s : State) :
    Transacts fault (.ok (s.db.tables.deleteUser l)) s (exec (.removeUser fault l) s) :=
  write_work s _ _ rfl (by decide)

theorem exec_changeUserPassword (fault : Bool) (l pw : String) (s : State) :
    Transacts fault (s.db.tables.updatePassword l pw) s
      (exec (.changeUserPassword fault l pw) s) :=
  write_work s _ _ rfl (by decide)

theorem exec_addKey (fault : Bool) (l n key : String) (s : State) :
    Transacts fault (s.db.tables.insertKey l n key) s (exec (.addKey fault l n key) s) :=
  write_work s _ _ rfl (by decide)

theorem exec_createInvitation (fault : Bool) (l n : String) (s : State) :
    Transacts fault (s.db.tables.insertInvitation n l) s (exec (.createInvitation fault l n) s) :=
  write_work s _ _ rfl (by decide)

theorem exec_createNetwork (fault : Bool) (n l : String) (pub vis part : Bool)
    (mail proto : String) (s : State) :
    Transacts fault (s.db.tables.insertNetwork n l pub vis part mail proto) s
      (exec (.createNetwork fault n l pub vis part mail proto) s) :=
  write_work s _ _ rfl (by decide)

theorem exec_deleteNetwork (fault : Bool) (l n : String) (s : State) :
    (∃ row s', s.db.tables.network? n = some row ∧ some row.ownerId = s.db.tables.userId? l ∧
      s'.db.tables = s.db.tables.deleteNetworkRow row.id ∧ s'.sessions = s.sessions ∧
      exec (.deleteNetwork fault l n) s = (.ok, s')) ∨
      ∃ r, r ≠ .ok ∧ exec (.deleteNetwork fault l n) s = (r, s) := by
  rcases PsqlConnector.deleteNetwork_cases fault l n s.db.tables with
    ⟨row, -, hn, ho, he⟩ | ⟨hne, he⟩
  · left
    obtain ⟨s', ht, hs, hw⟩ := write_eq (PsqlConnector.valid_deleteNetwork s.db.valid fault l n) he
    exact ⟨row, s', hn, ho, ht, hs, hw⟩
  · right
    exact ⟨_, hne, write_eq_self (PsqlConnector.valid_deleteNetwork s.db.valid fault l n) he⟩

theorem exec_updateServer (fault : Bool) (n u ip : String) (port ttl : Int) (s : State) :
    (∃ d s', s.db.tables.insertServer n u d = .ok s'.db.tables ∧ s'.sessions = s.sessions ∧
      exec (.updateServer fault n u ip port ttl) s = (.ok, s')) ∨
      ∃ r, exec (.updateServer fault n u ip port ttl) s = (r, s) := by
  rcases PsqlConnector.updateServer_cases fault n u ip port ttl s.db.tables with
    ⟨d, t', hx, he⟩ | he
  · left
    obtain ⟨s', rfl, hs, hw⟩ :=
      write_eq (PsqlConnector.valid_updateServer s.db.valid fault n u ip port ttl) he
    exact ⟨d, s', hx, hs, hw⟩
  · right
    exact ⟨_, write_eq_self (PsqlConnector.valid_updateServer s.db.valid fault n u ip port ttl) he⟩

/-- The row goes, and the caller is told that there was none. -/
theorem exec_deleteServer (fault : Bool) (n u : String) (s : State) :
    (∃ s', fault = false ∧ s'.db.tables = (s.db.tables.deleteServer n u).2 ∧
      s'.sessions = s.sessions ∧ exec (.deleteServer fault n u) s = (.notFound, s')) ∨
      fault = true ∧ exec (.deleteServer fault n u) s = (.internalError, s) := by
  cases fault with
  | false => left; exact ⟨(exec (.deleteServer false n u) s).2, rfl, rfl, rfl, rfl⟩
  | true => right; exact ⟨rfl, rfl⟩

theorem run_callShared {α : Type} (c : Call) (k : c.Ans → Prog shared α) (s : State) :
    (callShared c >>= k).run exec s = (k (exec c s).1).run exec (exec c s).2 := rfl

/-- States with the same tables and the same sessions are one. -/
theorem State.ext_of {s s' : State} (ht : s'.db.tables = s.db.tables)
    (hs : s'.sessions = s.sessions) : s' = s := by
  obtain ⟨⟨t, h⟩, sc⟩ := s
  obtain ⟨⟨t', h'⟩, sc'⟩ := s'
  cases ht
  cases hs
  rfl

/-- A handler behind the lookup of the session. -/
theorem run_authenticated (cookie : String) (k : String → Handler) (s : State) :
    (authenticated cookie k).run exec s =
      if s.sessions.getLogin cookie = "" then (errorMesage .notLogged, s)
      else (k (s.sessions.getLogin cookie)).run exec s := by
  unfold authenticated
  rw [run_bind, run_op, run_ite]
  rfl

/-- The password matches what the store holds under the login. -/
def GoodCredentials (env : Env) (s : State) (login password : String) : Prop :=
  env.checkBcrypt password (PsqlConnector.getPassHash (env.fault 0) login s.db.tables) = true

instance (env : Env) (s : State) (login password : String) :
    Decidable (GoodCredentials env s login password) := inferInstanceAs (Decidable (_ = _))

theorem run_goodCredentials (env : Env) (login password : String) (s : State) :
    (goodCredentials env login password).run exec s =
      (decide (GoodCredentials env s login password), s) := by
  unfold goodCredentials
  rw [run_bind, run_op, run_pure]
  refine Prod.ext (Bool.eq_iff_iff.2 ?_) rfl
  rw [decide_eq_true_iff]
  rfl

/-! ### The outcomes -/

/-- The request presents the cookie, and the cookie resolves to the user. -/
structure AuthenticatedAs (m : ClientMessage) (s : State) (cookie u : String) : Prop where
  presents : m.cookie = some cookie
  login : s.sessions.getLogin cookie = u
  nonempty : u ≠ ""

/-- A handler goes on as the user the cookie resolves to. -/
theorem AuthenticatedAs.run {m : ClientMessage} {s : State} {cookie u : String}
    (h : AuthenticatedAs m s cookie u) (k : String → Handler) :
    (authenticated cookie k).run exec s = (k u).run exec s := by
  rw [run_authenticated, h.login, if_neg h.nonempty]

/-- The requests that can be answered `OK` without any effect: the queries, and an UPDATE_SERVER
that finds its row. -/
def Query (t : RequestType) : Prop :=
  t = .listNetworks ∨ t = .listMyNetworks ∨ t = .listServers ∨ t = .userInfo ∨ t = .updateServer

/-- The reply of REGISTER once the account exists. -/
def registerReply (env : Env) (key : String) : NodeMessage :=
  if env.signCertyficate key = "" then errorMesage .badRequest
  else registerResponse (env.signCertyficate key) env.nodeCert

/-- The reply of SIGN_KEY once the key is stored. -/
def signKeyReply (cert : String) : NodeMessage :=
  if cert = "" then errorMesage .badRequest else signKeyResponse cert

open PsqlConnector in
/-- The ways a request can end. -/
inductive Outcome (env : Env) (m : ClientMessage) (s : State) : NodeMessage × State → Prop
  | kept {r : NodeMessage} (hok : r.isOk → Query m.requestType) : Outcome env m s (r, s)
  | registered {login pass key : String} {s' : State} (hm : m.requestType = .register)
      (hsub : m.registerMessage = some ⟨some login, some pass, some key⟩)
      (hfault : env.fault 0 = false)
      (ht : s.db.tables.insertUser login (env.generateBcrypt pass) = .ok s'.db.tables)
      (hs : s'.sessions = s.sessions) : Outcome env m s (registerReply env key, s')
  | unregistered {cookie u : String} {s' : State} (hm : m.requestType = .unregister)
      (hauth : AuthenticatedAs m s cookie u) (hfault : env.fault 0 = false)
      (ht : s'.db.tables = s.db.tables.deleteUser u) (hs : s'.sessions = s.sessions) :
      Outcome env m s (errorMesage .ok, s')
  | loggedIn {login pass : String} {s' : State} (hm : m.requestType = .login)
      (hsub : m.loginMessage = some ⟨some login, some pass⟩)
      (hgood : GoodCredentials env s login pass) (ht : s'.db = s.db)
      (hs : s'.sessions = s.sessions.login login env.randomString env.currTimeInMS) :
      Outcome env m s (loginResponse env.randomString "notimplementedyet", s')
  | loggedOut {cookie : String} {s' : State} (hm : m.requestType = .logout)
      (hc : m.cookie = some cookie) (hlive : s.sessions.isLogged cookie) (ht : s'.db = s.db)
      (hs : s'.sessions = (s.sessions.logout cookie).2) : Outcome env m s (errorMesage .ok, s')
  | createdNetwork {cookie u name mail proto : String} {pub vis part : Bool} {t : Tables}
      {s' : State} (hm : m.requestType = .createNetwork) (hauth : AuthenticatedAs m s cookie u)
      (hn : m.createNetworkMessage.bind (·.networkName) = some name)
      (hins : s.db.tables.insertNetwork name u pub vis part mail proto = .ok t)
      (ht : s'.db.tables = (createInvitation (env.fault 1) u name t).2)
      (hs : s'.sessions = s.sessions) : Outcome env m s (errorMesage .ok, s')
  | deletedNetwork {cookie u name : String} {n : NetworkRow} {s' : State}
      (hm : m.requestType = .deleteNetwork) (hauth : AuthenticatedAs m s cookie u)
      (hn : m.deleteNetworkMessage.bind (·.name) = some name)
      (hrow : s.db.tables.network? name = some n)
      (howner : some n.ownerId = s.db.tables.userId? u)
      (ht : s'.db.tables = s.db.tables.deleteNetworkRow n.id) (hs : s'.sessions = s.sessions) :
      Outcome env m s (errorMesage .ok, s')
  | invited {cookie u invitedLogin network : String} {s' : State}
      (hm : m.requestType = .inviteUser) (hauth : AuthenticatedAs m s cookie u)
      (ht : s.db.tables.insertInvitation network invitedLogin = .ok s'.db.tables)
      (hs : s'.sessions = s.sessions) : Outcome env m s (errorMesage .ok, s')
  | removed {cookie u : String} {r : NodeMessage} {s' : State} (hm : m.requestType = .removeUser)
      (hauth : AuthenticatedAs m s cookie u) (hr : r.isOk ↔ env.fault 0 = false)
      (ht : s'.db.tables = (removeUser (env.fault 0) u s.db.tables).2)
      (hs : s'.sessions = (s.sessions.logout cookie).2) : Outcome env m s (r, s')
  | updatedServer {cookie u network : String} {d : ServerData} {s' : State}
      (hm : m.requestType = .updateServer) (hauth : AuthenticatedAs m s cookie u)
      (ht : s.db.tables.insertServer network u d = .ok s'.db.tables)
      (hs : s'.sessions = s.sessions) : Outcome env m s (updateServerResponse SERVER_TTL, s')
  | stoppedServer {cookie u network : String} {s' : State}
      (hm : m.requestType = .stopServer) (hauth : AuthenticatedAs m s cookie u)
      (hsub : m.stopServerMessage.map (·.networkName.getD "") = some network)
      (hfault : env.fault 0 = false ∧ env.fault 1 = false)
      (ht : s'.db.tables = (s.db.tables.deleteServer network u).2)
      (hs : s'.sessions = s.sessions) : Outcome env m s (errorMesage .badRequest, s')
  | signedKey {cookie u network key : String} {s' : State} (hm : m.requestType = .signKey)
      (hauth : AuthenticatedAs m s cookie u)
      (hsub : m.signKeyMessage.map (fun r => (r.networkName.getD "", r.publicKey.getD "")) =
        some (network, key))
      (hfault : env.fault 0 = false)
      (ht : s.db.tables.insertKey u network (env.signCertyficate key) = .ok s'.db.tables)
      (hs : s'.sessions = s.sessions) : Outcome env m s (signKeyReply (env.signCertyficate key), s')
  | changedPassword {cookie u old new : String} {s' : State}
      (hm : m.requestType = .changePassword) (hauth : AuthenticatedAs m s cookie u)
      (hold : m.changePasswordMessage.map (fun r => (r.oldPassword.getD "", r.newPassword.getD "")) =
        some (old, new))
      (hgood : GoodCredentials env s u old)
      (ht : s.db.tables.updatePassword u (env.generateBcrypt new) = .ok s'.db.tables)
      (hs : s'.sessions = s.sessions) : Outcome env m s (errorMesage .ok, s')

variable {env : Env} {m : ClientMessage} {s : State}

@[simp] theorem isOk_errorMesage (r : ResponseType) : (errorMesage r).isOk ↔ r = .ok := by
  simp [NodeMessage.isOk, errorMesage]

/-- A refusal keeps the state. -/
theorem Outcome.refused {r : ResponseType} (h : r ≠ .ok) : Outcome env m s (errorMesage r, s) :=
  .kept fun hok => absurd ((isOk_errorMesage r).1 hok) h

/-- A handler behind the lookup of the session refuses, or goes on as the user. -/
theorem outcome_authenticated {cookie : String} {k : String → Handler} (hc : m.cookie = some cookie)
    (hk : ∀ u, AuthenticatedAs m s cookie u → Outcome env m s ((k u).run exec s)) :
    Outcome env m s ((authenticated cookie k).run exec s) := by
  rw [run_authenticated]
  split
  · exact .refused (by decide)
  · rename_i hu
    exact hk _ ⟨hc, rfl, hu⟩

/-- Only `OK` is reported as `OK`. -/
theorem dbError_eq_ok {nf : ResponseType} (hnf : nf ≠ .ok) {r : DBResponse} :
    dbError nf r = .ok ↔ r = .ok := by
  cases r <;> simp [dbError, hnf]

/-- A transaction that does not commit is reported, whatever it was. -/
theorem Outcome.failed {nf : ResponseType} (hnf : nf ≠ .ok) {r : DBResponse} (hr : r ≠ .ok) :
    Outcome env m s (errorMesage (dbError nf r), s) :=
  .refused fun h => hr ((dbError_eq_ok hnf).1 h)

/-! ### Each handler -/

theorem outcome_register (hm : m.requestType = .register) :
    Outcome env m s ((handleRegister env m).run exec s) := by
  unfold handleRegister
  split
  · rename_i login pass key hsub
    rw [run_callShared]
    rcases exec_createUser (env.fault 0) login (env.generateBcrypt pass) s with
      ⟨s', hf, hx, hs, he⟩ | ⟨r, hr, -, he⟩ <;> rw [he]
    · have h := Outcome.registered hm hsub hf hx hs
      unfold registerReply at h
      by_cases hk : env.signCertyficate key = ""
      · simpa only [hk, if_true, run_pure] using h
      · simpa only [hk, if_false, run_pure] using h
    · cases r with
      | ok => exact absurd rfl hr
      | _ => exact .failed (by decide) hr
  · exact .refused (by decide)

theorem outcome_unregister (hm : m.requestType = .unregister) :
    Outcome env m s ((handleUnregister env m).run exec s) := by
  unfold handleUnregister
  split
  · rename_i cookie hsub
    refine outcome_authenticated (by simp [ClientMessage.cookie, hm, hsub]) fun u hauth => ?_
    rw [run_callShared]
    rcases exec_removeUser (env.fault 0) u s with ⟨s', hf, hx, hs, he⟩ | ⟨r, hr, -, he⟩ <;> rw [he]
    · exact .unregistered hm hauth hf (Except.ok.inj hx).symm hs
    · exact .failed (by decide) hr
  · exact .refused (by decide)

theorem run_handleLogin {login pass : String}
    (hsub : m.loginMessage = some ⟨some login, some pass⟩) :
    (handleLogin env m).run exec s =
      if GoodCredentials env s login pass then
        (loginResponse env.randomString "notimplementedyet",
          { s with sessions := s.sessions.login login env.randomString env.currTimeInMS })
      else (errorMesage .badCredentials, s) := by
  unfold handleLogin
  simp only [hsub]
  rw [run_bind, run_goodCredentials]
  by_cases hgood : GoodCredentials env s login pass
  · simp only [hgood, decide_true, Bool.true_eq_false, if_false, if_true]
    rfl
  · simp only [hgood, decide_false, if_true, if_false]
    rfl

theorem handleLogin_bad (hsub : ¬ ∃ login pass, m.loginMessage = some ⟨some login, some pass⟩) :
    handleLogin env m = pure badRequestMessage := by
  unfold handleLogin
  split
  · rename_i login pass h
    exact absurd ⟨login, pass, h⟩ hsub
  · rfl

theorem outcome_login (hm : m.requestType = .login) :
    Outcome env m s ((handleLogin env m).run exec s) := by
  by_cases hsub : ∃ login pass, m.loginMessage = some ⟨some login, some pass⟩
  · obtain ⟨login, pass, hsub⟩ := hsub
    rw [run_handleLogin hsub]
    split
    · rename_i hgood
      exact .loggedIn hm hsub hgood rfl rfl
    · exact .refused (by decide)
  · rw [handleLogin_bad hsub]
    exact .refused (by decide)

theorem outcome_logout (hm : m.requestType = .logout) :
    Outcome env m s ((handleLogout m).run exec s) := by
  unfold handleLogout
  split
  · rename_i cookie hsub
    rw [run_callShared]
    simp only [exec, SessionControler.logout_fst, decide_eq_true_eq]
    by_cases hlive : s.sessions.isLogged cookie
    · rw [if_pos hlive]
      exact .loggedOut hm (by simp [ClientMessage.cookie, hm, hsub]) hlive rfl rfl
    · rw [if_neg hlive, SessionControler.logout_of_not_isLogged hlive]
      exact .refused (by decide)
  · exact .refused (by decide)

theorem outcome_listNetworks (hm : m.requestType = .listNetworks) :
    Outcome env m s ((handleListNetworks env m).run exec s) := by
  unfold handleListNetworks
  split
  · rename_i cookie hsub
    refine outcome_authenticated (by simp [ClientMessage.cookie, hm, hsub]) fun u _ => ?_
    exact .kept fun _ => by simp [Query, hm]
  · exact .refused (by decide)

theorem outcome_listMyNetworks (hm : m.requestType = .listMyNetworks) :
    Outcome env m s ((handleListMyNetworks env m).run exec s) := by
  unfold handleListMyNetworks
  split
  · rename_i cookie hsub
    refine outcome_authenticated (by simp [ClientMessage.cookie, hm, hsub]) fun u _ => ?_
    exact .kept fun _ => by simp [Query, hm]
  · exact .refused (by decide)

/-- The two guards that end a handler early keep the state. -/
theorem outcome_guard {c : Bool} {r : ResponseType} (hr : r ≠ .ok) {k : Handler}
    (hk : c = true → Outcome env m s (k.run exec s)) :
    Outcome env m s ((if c = false then pure (errorMesage r) else k : Handler).run exec s) := by
  cases c with
  | false => exact .refused hr
  | true => exact hk rfl

theorem outcome_listServers (hm : m.requestType = .listServers) :
    Outcome env m s ((handleListServers env m).run exec s) := by
  unfold handleListServers
  split
  · rename_i cookie network hsub
    refine outcome_authenticated (by simp [ClientMessage.cookie, hm, hsub]) fun u _ => ?_
    rw [run_callShared]
    refine outcome_guard (by decide) fun _ => ?_
    rw [run_callShared]
    refine outcome_guard (by decide) fun _ => ?_
    exact .kept fun _ => by simp [Query, hm]
  · exact .refused (by decide)

theorem outcome_createNetwork (hm : m.requestType = .createNetwork) :
    Outcome env m s ((handleCreateNetwork env m).run exec s) := by
  unfold handleCreateNetwork
  split
  · rename_i cookie name access vis part mail proto hsub
    refine outcome_authenticated (by simp [ClientMessage.cookie, hm, hsub]) fun u hauth => ?_
    rw [run_callShared]
    rcases exec_createNetwork (env.fault 0) name u (access = .pub) (vis = .listed)
      (part = .clientServer) (mail.getD "") (proto.getD "") s with
      ⟨s', hf, hx, hs, he⟩ | ⟨r, hr, -, he⟩ <;> rw [he]
    · exact .createdNetwork hm hauth (by simp [hsub]) hx rfl hs
    · cases r with
      | ok => exact absurd rfl hr
      | _ => exact .failed (by decide) hr
  · exact .refused (by decide)

theorem outcome_deleteNetwork (hm : m.requestType = .deleteNetwork) :
    Outcome env m s ((handleDeleteNetwork env m).run exec s) := by
  unfold handleDeleteNetwork
  split
  · rename_i cookie name hsub
    refine outcome_authenticated (by simp [ClientMessage.cookie, hm, hsub]) fun u hauth => ?_
    rw [run_callShared]
    refine outcome_guard (by decide) fun _ => ?_
    rw [run_callShared]
    rcases exec_deleteNetwork (env.fault 1) u name s with
      ⟨row, s', hn, ho, ht, hs, he⟩ | ⟨r, hr, he⟩ <;> rw [he]
    · exact .deletedNetwork hm hauth (by simp [hsub]) hn ho ht hs
    · exact .failed (by decide) hr
  · exact .refused (by decide)

theorem outcome_inviteUser (hm : m.requestType = .inviteUser) :
    Outcome env m s ((handleInviteUser env m).run exec s) := by
  unfold handleInviteUser
  split
  · rename_i cookie invitedLogin network hsub
    refine outcome_authenticated (by simp [ClientMessage.cookie, hm, hsub]) fun u hauth => ?_
    rw [run_callShared]
    refine outcome_guard (by decide) fun _ => ?_
    rw [run_callShared]
    refine outcome_guard (by decide) fun _ => ?_
    rw [run_callShared]
    rcases exec_createInvitation (env.fault 2) invitedLogin network s with
      ⟨s', -, hx, hs, he⟩ | ⟨r, hr, -, he⟩ <;> rw [he]
    · exact .invited hm hauth hx hs
    · exact .failed (by decide) hr
  · exact .refused (by decide)

theorem outcome_removeUser (hm : m.requestType = .removeUser) :
    Outcome env m s ((handleRemoveUser env m).run exec s) := by
  unfold handleRemoveUser
  split
  · rename_i sub hsub
    refine outcome_authenticated (by simp [ClientMessage.cookie, hm, hsub]) fun u hauth => ?_
    refine .removed hm hauth ?_ rfl rfl
    show (errorMesage (dbError .noSuchUser (PsqlConnector.removeUser (env.fault 0) u s.db.tables).1)).isOk ↔ _
    rw [isOk_errorMesage, dbError_eq_ok (by decide)]
    cases env.fault 0 <;> simp [PsqlConnector.removeUser, PsqlConnector.work]
  · exact .refused (by decide)

theorem outcome_userInfo (hm : m.requestType = .userInfo) :
    Outcome env m s ((handleUserInfo env m).run exec s) := by
  unfold handleUserInfo
  split
  · rename_i sub hsub
    refine outcome_authenticated (by simp [ClientMessage.cookie, hm, hsub]) fun u _ => ?_
    rw [run_callShared]
    refine outcome_guard (by decide) fun _ => ?_
    rw [run_callShared]
    refine outcome_guard (by decide) fun _ => ?_
    exact .kept fun _ => by simp [Query, hm]
  · exact .refused (by decide)

theorem outcome_updateServer (hm : m.requestType = .updateServer) :
    Outcome env m s ((handleUpdateServer env m).run exec s) := by
  unfold handleUpdateServer
  split
  · rename_i sub hsub
    refine outcome_authenticated (by simp [ClientMessage.cookie, hm, hsub]) fun u hauth => ?_
    rw [run_callShared]
    refine outcome_guard (by decide) fun _ => ?_
    rw [run_callShared]
    refine outcome_guard (by decide) fun _ => ?_
    rw [run_callShared]
    rcases exec_updateServer (env.fault 2) (sub.networkName.getD "") u env.address
      (sub.portNumber.getD 0) (toInt32 (env.currTimeInMS + SERVER_TTL)) s with
      ⟨d, s', hx, hs, he⟩ | ⟨r, he⟩ <;> rw [he]
    · exact .updatedServer hm hauth hx hs
    · cases r with
      | ok => exact .kept fun _ => by simp [Query, hm]
      | _ => exact .refused (by simp [dbError])
  · exact .refused (by decide)

theorem outcome_stopServer (hm : m.requestType = .stopServer) :
    Outcome env m s ((handleStopServer env m).run exec s) := by
  unfold handleStopServer
  split
  · rename_i sub hsub
    refine outcome_authenticated (by simp [ClientMessage.cookie, hm, hsub]) fun u hauth => ?_
    rw [run_callShared]
    refine outcome_guard (by decide) fun hfound => ?_
    rw [run_callShared]
    rcases exec_deleteServer (env.fault 1) (sub.networkName.getD "") u s with
      ⟨s', hf, ht, hs, he⟩ | ⟨-, he⟩ <;> rw [he]
    · have hf0 : env.fault 0 = false := by
        simp only [exec, PsqlConnector.networkExists, Bool.and_eq_true, Bool.not_eq_true'] at hfound
        exact hfound.1
      exact .stoppedServer hm hauth (by simp [hsub]) ⟨hf0, hf⟩ ht hs
    · exact .failed (by decide) (show DBResponse.internalError ≠ .ok by decide)
  · exact .refused (by decide)

theorem outcome_signKey (hm : m.requestType = .signKey) :
    Outcome env m s ((handleSignKey env m).run exec s) := by
  unfold handleSignKey
  split
  · rename_i sub hsub
    refine outcome_authenticated (by simp [ClientMessage.cookie, hm, hsub]) fun u hauth => ?_
    rw [run_callShared]
    rcases exec_addKey (env.fault 0) u (sub.networkName.getD "")
      (env.signCertyficate (sub.publicKey.getD "")) s with ⟨s', hf, hx, hs, he⟩ | ⟨r, hr, -, he⟩ <;>
      rw [he]
    · have h := Outcome.signedKey hm hauth (by simp [hsub]) hf hx hs
      unfold signKeyReply at h
      by_cases hk : env.signCertyficate (sub.publicKey.getD "") = ""
      · simpa only [hk, if_true, run_pure] using h
      · simpa only [hk, if_false, run_pure] using h
    · by_cases hk : env.signCertyficate (sub.publicKey.getD "") = ""
      · simp only [hk, if_true]
        exact .refused (by decide)
      · simp only [hk, if_false]
        cases r with
        | ok => exact absurd rfl hr
        | _ => exact .failed (by decide) hr
  · exact .refused (by decide)

theorem outcome_changePassword (hm : m.requestType = .changePassword) :
    Outcome env m s ((handleChangePassword env m).run exec s) := by
  unfold handleChangePassword
  split
  · rename_i sub hsub
    refine outcome_authenticated (by simp [ClientMessage.cookie, hm, hsub]) fun u hauth => ?_
    rw [run_bind, run_goodCredentials]
    by_cases hgood : GoodCredentials env s u (sub.oldPassword.getD "")
    · simp only [hgood, decide_true, Bool.true_eq_false, if_false]
      rw [run_callShared]
      rcases exec_changeUserPassword (env.fault 1) u
        (env.generateBcrypt (sub.newPassword.getD "")) s with
        ⟨s', hf, hx, hs, he⟩ | ⟨r, hr, -, he⟩ <;> rw [he]
      · exact .changedPassword hm hauth (by simp [hsub]) hgood hx hs
      · exact .failed (by decide) hr
    · simp only [hgood, decide_false, if_true]
      exact .refused (by decide)
  · exact .refused (by decide)

/-! ### The two handlers that remove accounts

`Outcome` says what can happen; these say what does when the request is authenticated. -/

theorem handle_unregister {cookie u : String} (hinit : m.isInitialized = true)
    (hm : m.requestType = .unregister) (hauth : AuthenticatedAs m s cookie u) :
    ∃ s', handle env m s =
        (errorMesage (dbError .noSuchUser (PsqlConnector.removeUser (env.fault 0) u s.db.tables).1), s') ∧
      s'.db.tables = (PsqlConnector.removeUser (env.fault 0) u s.db.tables).2 ∧
      s'.sessions = s.sessions := by
  obtain ⟨⟨c⟩, hsub, hc⟩ : ∃ sub, m.unregisterMessage = some sub ∧ sub.cookie.getD "" = cookie := by
    simpa [ClientMessage.cookie, hm] using hauth.presents
  have hall : m.unregisterMessage.all (·.cookie.isSome) = true := by
    simp only [ClientMessage.isInitialized, Bool.and_eq_true] at hinit
    tauto
  obtain ⟨c, rfl⟩ : ∃ x, c = some x := by
    rw [hsub] at hall
    exact Option.isSome_iff_exists.1 hall
  cases hc
  refine ⟨(exec (.removeUser (env.fault 0) u) s).2, ?_, rfl, rfl⟩
  simp only [handle, handleRequest, hm, handleUnregister, hsub]
  exact hauth.run _

theorem handle_removeUser {cookie u : String} (hm : m.requestType = .removeUser)
    (hauth : AuthenticatedAs m s cookie u) :
    ∃ s', handle env m s =
        (errorMesage (dbError .noSuchUser (PsqlConnector.removeUser (env.fault 0) u s.db.tables).1), s') ∧
      s'.db.tables = (PsqlConnector.removeUser (env.fault 0) u s.db.tables).2 ∧
      s'.sessions = (s.sessions.logout cookie).2 := by
  obtain ⟨sub, hsub, rfl⟩ : ∃ sub, m.removeUserMessage = some sub ∧ sub.cookie.getD "" = cookie := by
    simpa [ClientMessage.cookie, hm] using hauth.presents
  refine ⟨(exec (.logout (sub.cookie.getD "")) (exec (.removeUser (env.fault 0) u) s).2).2, ?_, rfl, rfl⟩
  simp only [handle, handleRequest, hm, handleRemoveUser, hsub]
  exact hauth.run _

/-- **Every request ends in one of the listed ways.** -/
theorem outcome (env : Env) (m : ClientMessage) (s : State) : Outcome env m s (handle env m s) := by
  unfold handle handleRequest
  split
  · exact outcome_register ‹_›
  · exact outcome_unregister ‹_›
  · exact outcome_login ‹_›
  · exact outcome_logout ‹_›
  · exact outcome_listNetworks ‹_›
  · exact outcome_listMyNetworks ‹_›
  · exact outcome_listServers ‹_›
  · exact outcome_createNetwork ‹_›
  · exact outcome_deleteNetwork ‹_›
  · exact outcome_inviteUser ‹_›
  · exact outcome_removeUser ‹_›
  · exact outcome_userInfo ‹_›
  · exact outcome_updateServer ‹_›
  · exact outcome_stopServer ‹_›
  · exact outcome_signKey ‹_›
  · exact outcome_changePassword ‹_›

/-- Only four kinds of request touch the accounts. -/
theorem Outcome.users {out : NodeMessage × State} (h : Outcome env m s out) :
    out.2.db.tables.users = s.db.tables.users ∨ m.requestType = .register ∨
      m.requestType = .unregister ∨ m.requestType = .removeUser ∨
      m.requestType = .changePassword := by
  cases h with
  | registered hm => simp [hm]
  | unregistered hm => simp [hm]
  | removed hm => simp [hm]
  | changedPassword hm => simp [hm]
  | kept _ => left; rfl
  | loggedIn _ _ _ ht _ => left; rw [ht]
  | loggedOut _ _ _ ht _ => left; rw [ht]
  | createdNetwork _ _ _ hins ht _ => left; rw [ht, PsqlConnector.users_createInvitation hins]
  | deletedNetwork _ _ _ _ _ ht _ => left; rw [ht]; rfl
  | stoppedServer _ _ _ _ ht _ => left; rw [ht]; rfl
  | invited _ _ ht _ =>
    obtain ⟨_, _, -, -, -, ht⟩ := Tables.insertInvitation_eq_ok.1 ht
    left; rw [ht]
  | updatedServer _ _ ht _ =>
    obtain ⟨_, _, -, -, -, ht⟩ := Tables.insertServer_eq_ok.1 ht
    left; rw [ht]
  | signedKey _ _ _ _ ht _ =>
    obtain ⟨_, _, -, -, -, ht⟩ := Tables.insertKey_eq_ok.1 ht
    left; rw [ht]

/-- The tables of links that a statement on the accounts or the networks leaves. -/
theorem Tables.links_insertNetwork {t t' : Tables} {name owner mail proto : String}
    {pub vis part : Bool} (h : t.insertNetwork name owner pub vis part mail proto = .ok t') :
    t'.servers = t.servers ∧ t'.publicKey = t.publicKey := by
  obtain ⟨_, _, _, _, -, -, -, -, -, rfl⟩ := Tables.insertNetwork_eq_ok.1 h
  exact ⟨rfl, rfl⟩

theorem PsqlConnector.links_createInvitation (fault : Bool) (login network : String) (t : Tables) :
    (createInvitation fault login network t).2.servers = t.servers ∧
      (createInvitation fault login network t).2.publicKey = t.publicKey := by
  rcases work_cases fault (by decide : DBResponse.notUnique ≠ .ok) t
    (t.insertInvitation network login) with ⟨t', -, hx, hw⟩ | ⟨-, -, hw⟩
  · rw [createInvitation, hw]
    obtain ⟨_, _, -, -, -, rfl⟩ := Tables.insertInvitation_eq_ok.1 hx
    exact ⟨rfl, rfl⟩
  · rw [createInvitation, hw]
    exact ⟨rfl, rfl⟩

/-- How a table of links changes: rows go, or one comes for a pair that had none. -/
inductive LinkTable.Step {δ : Type} (tbl : LinkTable δ) : LinkTable δ → Prop
  | kept : Step tbl tbl
  | dropped (gone : Nat → Nat → Bool) : Step tbl (tbl.drop gone)
  | pushed {u n : Nat} (d : δ) (hnew : tbl.find? (some u) (some n) = none) :
    Step tbl (tbl.push u n d)

/-- No row ever changes. -/
theorem LinkTable.Step.find? {δ : Type} {tbl tbl' : LinkTable δ} (h : tbl.Step tbl') {u n : Nat}
    {row : LinkRow δ} (hrow : tbl.find? (some u) (some n) = some row) :
    tbl'.find? (some u) (some n) = some row ∨ tbl'.find? (some u) (some n) = none := by
  cases h with
  | kept => exact .inl hrow
  | dropped gone =>
    rw [find?_drop_some]
    split
    · exact .inr rfl
    · exact .inl hrow
  | pushed d hnew => exact .inl (find?_push_of_some hrow _ _ d)

theorem Tables.servers_deleteUser (t : Tables) (u : String) :
    t.servers.Step (t.deleteUser u).servers := by
  unfold Tables.deleteUser
  split
  · rename_i uid _
    exact .dropped fun u n => u = uid || t.owns uid n
  · exact .kept

/-- No row that a `DELETE` of a user takes has its user and its network left. -/
theorem Tables.not_gone_deleteUserRow {t : Tables} (h : t.Valid) {uid : Nat} {v : UserRow}
    {n : NetworkRow} (hv : v ∈ (t.deleteUserRow uid).users) (hn : n ∈ (t.deleteUserRow uid).networks) :
    (decide (v.id = uid) || t.owns uid n.id) = false := by
  obtain ⟨-, hvne⟩ := List.mem_filter.1 hv
  obtain ⟨hn, hnne⟩ := List.mem_filter.1 hn
  rw [Bool.or_eq_false_iff]
  refine ⟨by simpa using hvne, ?_⟩
  rw [Bool.eq_false_iff, ne_eq, Tables.owns_iff]
  rintro ⟨n', hn', hid', howner⟩
  have : n' = n := List.inj_on_of_nodup_map h.networkIds hn' hn hid'
  rw [this] at howner
  simp [howner] at hnne

/-- A row is there, as it was, as long as its user and its network are. -/
def LinkTable.Stays {δ : Type} (tbl tbl' : LinkTable δ) (t' : Tables) : Prop :=
  ∀ uid nid row, tbl.find? (some uid) (some nid) = some row →
    (∃ v ∈ t'.users, v.id = uid) → (∃ n ∈ t'.networks, n.id = nid) →
    tbl'.find? (some uid) (some nid) = some row

namespace LinkTable.Stays
variable {δ : Type} {tbl tbl' : LinkTable δ} {t t' : Tables}

theorem of_eq (h : tbl' = tbl) : tbl.Stays tbl' t' := by
  intro uid nid row hrow _ _
  rwa [h]

theorem of_push {u n : Nat} {d : δ} (h : tbl' = tbl.push u n d) : tbl.Stays tbl' t' := by
  intro uid nid row hrow _ _
  rw [h]
  exact LinkTable.find?_push_of_some hrow _ _ d

theorem of_drop {gone : Nat → Nat → Bool} (h : tbl' = tbl.drop gone)
    (hgone : ∀ v ∈ t'.users, ∀ n ∈ t'.networks, gone v.id n.id = false) : tbl.Stays tbl' t' := by
  rintro _ _ row hrow ⟨v, hv, rfl⟩ ⟨n, hn, rfl⟩
  rw [h, LinkTable.find?_drop_some, hgone v hv n hn]
  exact hrow

/-- A row goes only with its user or its network. -/
theorem deleteUser {links : Tables → LinkTable δ} (h : t.Valid) (u : String)
    (hlinks : ∀ uid, links (t.deleteUserRow uid) =
      (links t).drop fun u n => decide (u = uid) || t.owns uid n) :
    (links t).Stays (links (t.deleteUser u)) (t.deleteUser u) := by
  unfold Tables.deleteUser
  split
  · rename_i uid _
    exact of_drop (hlinks uid) fun v hv n hn => Tables.not_gone_deleteUserRow h hv hn
  · exact of_eq rfl

theorem deleteNetworkRow {links : Tables → LinkTable δ} (t : Tables) (nid : Nat)
    (hlinks : links (t.deleteNetworkRow nid) = (links t).drop fun _ n => decide (n = nid)) :
    (links t).Stays (links (t.deleteNetworkRow nid)) (t.deleteNetworkRow nid) := by
  refine of_drop hlinks fun v _ n hn => ?_
  obtain ⟨-, hne⟩ := List.mem_filter.1 hn
  simpa using hne

end LinkTable.Stays

/-- A stored key is there, as it was, as long as its user and its network are. -/
def KeysStay (t t' : Tables) : Prop :=
  ∀ uid nid row, t.publicKey.find? (some uid) (some nid) = some row →
    (∃ v ∈ t'.users, v.id = uid) → (∃ n ∈ t'.networks, n.id = nid) →
    t'.publicKey.find? (some uid) (some nid) = some row

namespace KeysStay

theorem of_eq {t t' : Tables} (h : t'.publicKey = t.publicKey) : KeysStay t t' :=
  LinkTable.Stays.of_eq h

theorem of_push {t t' : Tables} {u n : Nat} {d : String}
    (h : t'.publicKey = t.publicKey.push u n d) : KeysStay t t' :=
  LinkTable.Stays.of_push h

theorem deleteUser {t : Tables} (h : t.Valid) (u : String) : KeysStay t (t.deleteUser u) :=
  LinkTable.Stays.deleteUser h u fun _ => rfl

theorem deleteNetworkRow (t : Tables) (nid : Nat) : KeysStay t (t.deleteNetworkRow nid) :=
  LinkTable.Stays.deleteNetworkRow t nid rfl

end KeysStay

/-- What a request does to the servers and to the keys. -/
theorem Outcome.links {out : NodeMessage × State} (h : Outcome env m s out) :
    s.db.tables.servers.Step out.2.db.tables.servers ∧ KeysStay s.db.tables out.2.db.tables := by
  cases h with
  | kept _ => exact ⟨.kept, .of_eq rfl⟩
  | registered _ _ _ ht _ =>
    obtain ⟨_, _, -, -, -, ht⟩ := Tables.insertUser_eq_ok.1 ht
    rw [ht]
    exact ⟨.kept, .of_eq rfl⟩
  | unregistered _ _ _ ht _ =>
    rw [ht]
    exact ⟨Tables.servers_deleteUser _ _, .deleteUser s.db.valid _⟩
  | loggedIn _ _ _ ht _ => rw [ht]; exact ⟨.kept, .of_eq rfl⟩
  | loggedOut _ _ _ ht _ => rw [ht]; exact ⟨.kept, .of_eq rfl⟩
  | createdNetwork _ _ _ hins ht _ =>
    obtain ⟨hservers, hkeys⟩ := Tables.links_insertNetwork hins
    rw [ht, (PsqlConnector.links_createInvitation _ _ _ _).1, hservers]
    refine ⟨.kept, .of_eq ?_⟩
    rw [(PsqlConnector.links_createInvitation _ _ _ _).2, hkeys]
  | @deletedNetwork _ _ _ row _ _ _ _ _ _ ht _ =>
    rw [ht]
    exact ⟨.dropped fun _ n => n = row.id, .deleteNetworkRow _ _⟩
  | invited _ _ ht _ =>
    obtain ⟨_, _, -, -, -, ht⟩ := Tables.insertInvitation_eq_ok.1 ht
    rw [ht]
    exact ⟨.kept, .of_eq rfl⟩
  | removed _ _ _ ht _ =>
    rw [ht, PsqlConnector.removeUser_snd]
    split
    · exact ⟨.kept, .of_eq rfl⟩
    · exact ⟨Tables.servers_deleteUser _ _, .deleteUser s.db.valid _⟩
  | updatedServer _ _ ht _ =>
    obtain ⟨_, _, -, -, hnew, ht⟩ := Tables.insertServer_eq_ok.1 ht
    rw [ht]
    exact ⟨.pushed _ hnew, .of_eq rfl⟩
  | @stoppedServer _ u network _ _ _ _ _ ht _ =>
    rw [ht]
    exact ⟨.dropped fun uid nid => some uid = s.db.tables.userId? u &&
      some nid = s.db.tables.networkId? network, .of_eq rfl⟩
  | signedKey _ _ _ _ ht _ =>
    obtain ⟨_, _, -, -, -, ht⟩ := Tables.insertKey_eq_ok.1 ht
    rw [ht]
    exact ⟨.kept, .of_push rfl⟩
  | changedPassword _ _ _ _ ht _ =>
    obtain ⟨_, -, ht⟩ := Tables.updatePassword_eq_ok.1 ht
    rw [ht]
    exact ⟨.kept, .of_eq rfl⟩

end Sp2p.Tracker
