import Sp2p.Tracker.Outcome

/-!
# What a failed request leaves behind

A request that is not answered `OK` should have had no effect. Four kinds of request break this, and
no others: REGISTER and SIGN_KEY look at the signature after they have stored the row it is for,
STOP_SERVER takes its own success for a missing row, and REMOVE_USER ends the session although the
removal failed. `LeavesTrace` describes them on the request and the state before it.
-/

namespace Sp2p.Tracker

open Interleaving Protocol NodeMessageFactory

/-- The requests that fail with an effect. -/
inductive LeavesTrace (env : Env) (m : ClientMessage) (s : State) : Prop
  /-- A new account, and a key that cannot be signed. -/
  | register {login pass key : String} (hm : m.requestType = .register)
      (hsub : m.registerMessage = some ⟨some login, some pass, some key⟩)
      (hfault : env.fault 0 = false) (hlogin : (rstrip login).length ≤ 30)
      (hhash : (rstrip (env.generateBcrypt pass)).length ≤ 70)
      (hfree : s.db.tables.userId? login = none) (hkey : env.signCertyficate key = "")
  /-- A new key for the caller and a network, which cannot be signed. -/
  | signKey {cookie u network key : String} {uid nid : Nat} (hm : m.requestType = .signKey)
      (hauth : AuthenticatedAs m s cookie u)
      (hsub : m.signKeyMessage.map (fun r => (r.networkName.getD "", r.publicKey.getD "")) =
        some (network, key))
      (hfault : env.fault 0 = false) (hu : s.db.tables.userId? u = some uid)
      (hn : s.db.tables.networkId? network = some nid)
      (hfree : s.db.tables.publicKey.find? (some uid) (some nid) = none)
      (hkey : env.signCertyficate key = "")
  /-- A server that is there to be stopped. -/
  | stopServer {cookie u network : String} (hm : m.requestType = .stopServer)
      (hauth : AuthenticatedAs m s cookie u)
      (hsub : m.stopServerMessage.map (·.networkName.getD "") = some network)
      (hfault : env.fault 0 = false ∧ env.fault 1 = false)
      (hrow : (s.db.tables.servers.find? (s.db.tables.userId? u)
        (s.db.tables.networkId? network)).isSome)
  /-- A removal that fails. -/
  | removeUser {cookie u : String} (hm : m.requestType = .removeUser)
      (hauth : AuthenticatedAs m s cookie u) (hfault : env.fault 0 = true)

variable {env : Env} {m : ClientMessage} {s : State}

/-! ### A request with an effect that is not answered `OK` is one of these -/

/-- Deleting a server that is not there changes nothing. -/
theorem deleteServer_eq_self {t : Tables} {network u : String}
    (h : t.servers.find? (t.userId? u) (t.networkId? network) = none) :
    (t.deleteServer network u).2 = t := by
  have hkeep : t.servers.drop
      (fun u' n => some u' = t.userId? u && some n = t.networkId? network) = t.servers := by
    unfold LinkTable.drop
    congr 1
    apply List.filter_eq_self.2
    intro r hr
    have hmiss := (List.find?_eq_none.1 h) r hr
    simp only [Bool.and_eq_true, decide_eq_true_eq] at hmiss
    simpa [← not_and_or] using hmiss
  simp [Tables.deleteServer, hkeep]

theorem leavesTrace_of_outcome {out : NodeMessage × State} (h : Outcome env m s out)
    (hr : ¬ out.1.isOk) (hs : out.2 ≠ s) : LeavesTrace env m s := by
  cases h with
  | kept _ => exact absurd rfl hs
  | @registered login pass key s' hm hsub hfault ht _ =>
    obtain ⟨hlogin, hhash, hfree⟩ := Tables.exists_insertUser.1 ⟨_, ht⟩
    refine .register hm hsub hfault hlogin hhash hfree ?_
    by_contra hkey
    exact hr (by simp [registerReply, hkey, NodeMessage.isOk, registerResponse])
  | @signedKey cookie u network key s' hm hauth hsub hfault ht _ =>
    obtain ⟨uid, nid, hu, hn, hfree, -⟩ := Tables.insertKey_eq_ok.1 ht
    refine .signKey hm hauth hsub hfault hu hn hfree ?_
    by_contra hkey
    exact hr (by simp [signKeyReply, hkey, NodeMessage.isOk, signKeyResponse])
  | @stoppedServer cookie u network s' hm hauth hsub hfault ht hsess =>
    refine .stopServer hm hauth hsub hfault ?_
    by_contra hrow
    rw [Option.not_isSome_iff_eq_none] at hrow
    exact hs (State.ext_of (ht.trans (deleteServer_eq_self hrow)) hsess)
  | @removed cookie u r s' hm hauth hok _ _ =>
    exact .removeUser hm hauth (by simpa using fun hf => hr (hok.2 hf))
  | unregistered _ _ _ _ _ => exact absurd (by simp) hr
  | loggedIn _ _ _ _ _ => exact absurd rfl hr
  | loggedOut _ _ _ _ _ => exact absurd (by simp) hr
  | createdNetwork _ _ _ _ _ _ => exact absurd (by simp) hr
  | deletedNetwork _ _ _ _ _ _ _ => exact absurd (by simp) hr
  | invited _ _ _ _ => exact absurd (by simp) hr
  | updatedServer _ _ _ _ => exact absurd rfl hr
  | changedPassword _ _ _ _ _ _ => exact absurd (by simp) hr

/-! ### Each of these fails and has an effect -/

/-- The request fails with an effect. -/
def FailsWithEffect (s : State) (out : NodeMessage × State) : Prop := ¬ out.1.isOk ∧ out.2 ≠ s

/-- A session that was used is missed after a LOGOUT. -/
theorem logout_ne {cookie : String} {sc : SessionControler} (h : sc.getLogin cookie ≠ "") :
    (sc.logout cookie).2 ≠ sc := by
  intro he
  have := SessionControler.loginOf_of_getLogin h
  rw [← he, SessionControler.loginOf_logout, if_pos rfl] at this
  cases this

theorem handle_failsWithEffect (h : LeavesTrace env m s) : FailsWithEffect s (handle env m s) := by
  cases h with
  | @register login pass key hm hsub hfault hlogin hhash hfree hkey =>
    obtain ⟨t, ht⟩ := Tables.exists_insertUser.2 ⟨hlogin, hhash, hfree⟩
    obtain ⟨s', hs', -, he⟩ :=
      (exec_createUser (env.fault 0) login (env.generateBcrypt pass) s).commits hfault ht
    have hrun : handle env m s = (errorMesage .badRequest, s') := by
      simp only [handle, handleRequest, hm, handleRegister, hsub]
      rw [run_callShared, he]
      simp [hkey]
    rw [hrun]
    refine ⟨by simp, fun heq => ?_⟩
    obtain ⟨l, p, -, -, -, rfl⟩ := Tables.insertUser_eq_ok.1 ht
    have hseq := congrArg (fun s : State => s.db.tables.usersSeq) heq
    simp [hs', Tables.pushUser] at hseq
  | @signKey cookie u network key uid nid hm hauth hsub hfault hu hn hfree hkey =>
    obtain ⟨sub, hmsg, hfields⟩ := Option.map_eq_some_iff.1 hsub
    obtain ⟨rfl, rfl⟩ := Prod.mk.inj hfields
    have hc : sub.cookie.getD "" = cookie := by
      simpa [ClientMessage.cookie, hm, hmsg] using hauth.presents
    have ht : s.db.tables.insertKey u (sub.networkName.getD "")
        (env.signCertyficate (sub.publicKey.getD "")) = .ok _ :=
      Tables.insertKey_eq_ok.2 ⟨uid, nid, hu, hn, hfree, rfl⟩
    obtain ⟨s', hs', -, he⟩ := (exec_addKey (env.fault 0) u (sub.networkName.getD "")
      (env.signCertyficate (sub.publicKey.getD "")) s).commits hfault ht
    have hrun : handle env m s = (errorMesage .badRequest, s') := by
      simp only [handle, handleRequest, hm, handleSignKey, hmsg, hc]
      rw [hauth.run, run_callShared, he]
      simp [hkey]
    rw [hrun]
    refine ⟨by simp, fun heq => ?_⟩
    have hseq := congrArg (fun s : State => s.db.tables.publicKey.seq) heq
    simp [hs', LinkTable.push] at hseq
  | @stopServer cookie u network hm hauth hsub hfault hrow =>
    obtain ⟨sub, hmsg, rfl⟩ := Option.map_eq_some_iff.1 hsub
    have hc : sub.cookie.getD "" = cookie := by
      simpa [ClientMessage.cookie, hm, hmsg] using hauth.presents
    obtain ⟨row, hmem, hru, hrn⟩ := LinkTable.find?_isSome.1 hrow
    have hfound : (exec (.networkExists (env.fault 0) (sub.networkName.getD "")) s).1 = true := by
      simp [exec, PsqlConnector.networkExists, hfault.1, ← hrn]
    rcases exec_deleteServer (env.fault 1) (sub.networkName.getD "") u s with
      ⟨s', -, hs', -, he⟩ | ⟨hf, -⟩
    · have hrun : handle env m s = (errorMesage .badRequest, s') := by
        simp only [handle, handleRequest, hm, handleStopServer, hmsg, hc]
        rw [hauth.run, run_callShared, hfound, if_neg (by decide)]
        show Prog.run exec (callShared _ >>= _) s = _
        rw [run_callShared, he]
        rfl
      rw [hrun]
      refine ⟨by simp, fun heq => ?_⟩
      rw [← heq, hs', Tables.deleteServer, LinkTable.mem_drop] at hmem
      simp [← hru, ← hrn] at hmem
    · rw [hfault.2] at hf
      cases hf
  | @removeUser cookie u hm hauth hfault =>
    obtain ⟨s', hrun, -, hs'⟩ := handle_removeUser hm hauth
    rw [hrun, hfault]
    refine ⟨by simp [PsqlConnector.removeUser, PsqlConnector.work, dbError], fun heq => ?_⟩
    exact logout_ne (by rw [hauth.login]; exact hauth.nonempty)
      (hs'.symm.trans (congrArg State.sessions heq))

/-- **Failed requests have no effect, but for those that leave a trace.** -/
theorem failed_request_iff (env : Env) (m : ClientMessage) (s : State) :
    (¬ (handle env m s).1.isOk → (handle env m s).2 = s) ↔ ¬ LeavesTrace env m s := by
  constructor
  · intro h htrace
    obtain ⟨hr, hs⟩ := handle_failsWithEffect htrace
    exact hs (h hr)
  · intro h hr
    by_contra hs
    exact h (leavesTrace_of_outcome (outcome env m s) hr hs)

/-- A REGISTER whose key is no PKCS10 request is answered `BAD_REQUEST`, and the account is there. -/
theorem failed_register_has_effect :
    ¬ ∀ (env : Env) (m : ClientMessage) (s : State), m.isInitialized = true →
      ¬ (handle env m s).1.isOk → (handle env m s).2 = s := by
  intro h
  let m : ClientMessage :=
    { request := some .register, registerMessage := some ⟨some "bob", some "secret", some ""⟩ }
  have heq := h Env.sample m State.empty (by decide) (by decide)
  have husers : (handle Env.sample m State.empty).2.db.tables.users.length = 0 := by rw [heq]; rfl
  exact absurd husers (by decide)

end Sp2p.Tracker
