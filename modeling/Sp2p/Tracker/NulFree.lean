import Sp2p.Tracker.Refinement

/-!
# Texts without NUL

A text is passed to PostgreSQL as a C string, so it ends at the first NUL in it. The connector of the model
is given the whole text. `run_execSent` says that this makes no difference to any run whose requests have no
NUL in what they pass on.
-/

namespace Sp2p.Tracker

open Interleaving Protocol Runs

def NulFree (s : String) : Prop := Char.ofNat 0 ∉ s.toList

theorem nulFree_empty : NulFree "" := by
  rw [NulFree, String.toList_empty]
  exact List.not_mem_nil

/-- What arrives of a text. -/
def sentText (s : String) : String := String.ofList (s.toList.takeWhile (· ≠ Char.ofNat 0))

theorem sentText_eq_iff {s : String} : sentText s = s ↔ NulFree s := by
  rw [← String.toList_inj, sentText, String.toList_ofList, List.takeWhile_eq_self_iff]
  exact ⟨fun h hmem => of_decide_eq_true (h _ hmem) rfl,
    fun h c hc => decide_eq_true fun heq => h (heq ▸ hc)⟩

/-! ### The calls -/

/-- The texts of a call that are passed on; the name of a login is passed on later. -/
def Call.texts : Call → List String
  | .getLogin _ | .logout _ => []
  | .login l _ _ | .removeUser _ l | .userExists _ l | .getPassHash _ l | .getAllNetworks _ l
  | .getUserNetworks _ l => [l]
  | .createUser _ l pw | .changeUserPassword _ l pw => [l, pw]
  | .getUserInfo _ l n | .createInvitation _ l n | .deleteNetwork _ l n | .canAddServer _ l n => [l, n]
  | .addKey _ l n key => [l, n, key]
  | .createNetwork _ n l _ _ _ mail proto => [n, l, mail, proto]
  | .networkExists _ n | .getServers _ n => [n]
  | .canSeeNetwork _ n l | .deleteServer _ n l => [n, l]
  | .updateServer _ n l ip _ _ => [n, l, ip]

/-- The calls with what arrives of their texts. -/
def execSent : Exec shared State
  | .getLogin cookie, s => exec (.getLogin cookie) s
  | .login l cookie now, s => exec (.login l cookie now) s
  | .logout cookie, s => exec (.logout cookie) s
  | .createUser fault l pw, s => exec (.createUser fault (sentText l) (sentText pw)) s
  | .removeUser fault l, s => exec (.removeUser fault (sentText l)) s
  | .changeUserPassword fault l pw, s => exec (.changeUserPassword fault (sentText l) (sentText pw)) s
  | .userExists fault l, s => exec (.userExists fault (sentText l)) s
  | .getPassHash fault l, s => exec (.getPassHash fault (sentText l)) s
  | .getUserInfo fault l n, s => exec (.getUserInfo fault (sentText l) (sentText n)) s
  | .addKey fault l n key, s => exec (.addKey fault (sentText l) (sentText n) (sentText key)) s
  | .createInvitation fault l n, s => exec (.createInvitation fault (sentText l) (sentText n)) s
  | .createNetwork fault n l pub vis part mail proto, s =>
    exec (.createNetwork fault (sentText n) (sentText l) pub vis part (sentText mail) (sentText proto)) s
  | .deleteNetwork fault l n, s => exec (.deleteNetwork fault (sentText l) (sentText n)) s
  | .getAllNetworks fault l, s => exec (.getAllNetworks fault (sentText l)) s
  | .getUserNetworks fault l, s => exec (.getUserNetworks fault (sentText l)) s
  | .networkExists fault n, s => exec (.networkExists fault (sentText n)) s
  | .canSeeNetwork fault n l, s => exec (.canSeeNetwork fault (sentText n) (sentText l)) s
  | .canAddServer fault l n, s => exec (.canAddServer fault (sentText l) (sentText n)) s
  | .updateServer fault n l ip port ttl, s =>
    exec (.updateServer fault (sentText n) (sentText l) (sentText ip) port ttl) s
  | .deleteServer fault n l, s => exec (.deleteServer fault (sentText n) (sentText l)) s
  | .getServers fault n, s => exec (.getServers fault (sentText n)) s

def PassesNulFree (c : Call) : Prop := ∀ text ∈ c.texts, NulFree text

theorem execSent_eq {c : Call} (hc : PassesNulFree c) (s : State) : execSent c s = exec c s := by
  have hsent : ∀ text ∈ c.texts, sentText text = text := fun text htext => sentText_eq_iff.2 (hc text htext)
  cases c with
  | getLogin | login | logout => rfl
  | _ =>
    simp only [Call.texts, List.forall_mem_cons, List.not_mem_nil, false_imp_iff, implies_true,
      and_true] at hsent
    simp only [execSent, exec, hsent]

theorem passesNulFree_one {c : Call} {text : String} (hc : c.texts = [text]) (h : NulFree text) :
    PassesNulFree c := by
  rw [PassesNulFree, hc]
  exact List.forall_mem_singleton.2 h

theorem passesNulFree_two {c : Call} {text text' : String} (hc : c.texts = [text, text'])
    (h : NulFree text) (h' : NulFree text') : PassesNulFree c := by
  rw [PassesNulFree, hc]
  exact List.forall_mem_cons.2 ⟨h, List.forall_mem_singleton.2 h'⟩

/-! ### The sessions -/

/-- A name that is looked up is passed on. -/
def AnswersNulFree : (c : Call) → c.Ans → Prop
  | .getLogin _, login => NulFree login
  | _, _ => True

def SessionsNulFree (s : State) : Prop := ∀ c l, s.sessions.loginOf c = some l → NulFree l

theorem SessionsNulFree.of_eq {s s' : State} (hs : SessionsNulFree s) (h : s'.sessions = s.sessions) :
    SessionsNulFree s' := by
  unfold SessionsNulFree
  rw [h]
  exact hs

theorem exec_keepsNulFree (c : Call) (s : State) (hc : PassesNulFree c) (hs : SessionsNulFree s) :
    AnswersNulFree c (exec c s).1 ∧ SessionsNulFree (exec c s).2 := by
  cases c with
  | getLogin cookie =>
    refine ⟨?_, hs⟩
    show NulFree (s.sessions.getLogin cookie)
    rw [SessionControler.getLogin]
    cases hlogin : s.sessions.loginOf cookie with
    | none => exact nulFree_empty
    | some login => exact hs cookie login hlogin
  | login l cookie now =>
    refine ⟨trivial, fun c login hlogin => ?_⟩
    replace hlogin : (s.sessions.login l cookie now).loginOf c = some login := hlogin
    rw [SessionControler.loginOf_login] at hlogin
    split at hlogin
    · obtain rfl := Option.some_inj.1 hlogin
      exact hc _ (List.mem_singleton_self _)
    · exact hs c login hlogin
  | logout cookie =>
    refine ⟨trivial, fun c login hlogin => ?_⟩
    replace hlogin : (s.sessions.logout cookie).2.loginOf c = some login := hlogin
    rw [SessionControler.loginOf_logout] at hlogin
    split at hlogin
    · cases hlogin
    · exact hs c login hlogin
  | userExists | getPassHash | getUserInfo | getAllNetworks | getUserNetworks | networkExists
  | canSeeNetwork | canAddServer | getServers => exact ⟨trivial, hs⟩
  | _ => exact ⟨trivial, hs.of_eq (write_sessions s _ _)⟩

/-! ### The handlers -/

/-- What the environment makes of a password or a request to sign, and the address. -/
structure Env.NulFree (env : Env) : Prop where
  hash : ∀ password, Tracker.NulFree (env.generateBcrypt password)
  certificate : ∀ request, Tracker.NulFree (env.signCertyficate request)
  address : Tracker.NulFree env.address

/-- A field has no text, or one without NUL. -/
def NulFreeField (field : Option String) : Prop := ∀ text ∈ field, NulFree text

theorem NulFreeField.getD {field : Option String} (h : NulFreeField field) : NulFree (field.getD "") := by
  cases field with
  | none => exact nulFree_empty
  | some text => exact h text rfl

/-- The fields whose texts are passed on as they are. -/
structure NulFreeMessage (m : ClientMessage) : Prop where
  register : ∀ sub ∈ m.registerMessage, NulFreeField sub.username
  login : ∀ sub ∈ m.loginMessage, NulFreeField sub.username
  listServers : ∀ sub ∈ m.listServersMessage, NulFreeField sub.networkName
  createNetwork : ∀ sub ∈ m.createNetworkMessage,
    NulFreeField sub.networkName ∧ NulFreeField sub.creatorEmail ∧ NulFreeField sub.protocolName
  deleteNetwork : ∀ sub ∈ m.deleteNetworkMessage, NulFreeField sub.name
  inviteUser : ∀ sub ∈ m.inviteUserMessage, NulFreeField sub.username ∧ NulFreeField sub.networkName
  userInfo : ∀ sub ∈ m.userInfoMessage, NulFreeField sub.username ∧ NulFreeField sub.networkName
  updateServer : ∀ sub ∈ m.updateServerMessage, NulFreeField sub.networkName
  stopServer : ∀ sub ∈ m.stopServerMessage, NulFreeField sub.networkName
  signKey : ∀ sub ∈ m.signKeyMessage, NulFreeField sub.networkName

/-- The handler passes no NUL on, as long as the sessions have none. -/
def KeepsNulFree {α : Type} (p : Prog shared α) : Prop :=
  p.Meets PassesNulFree AnswersNulFree fun _ => True

variable {env : Env} {m : ClientMessage}

theorem keepsNulFree_check {c : Prop} [Decidable c] {reply : NodeMessage} {h : Handler}
    (hh : KeepsNulFree h) : KeepsNulFree (if c then pure reply else h) :=
  meets_ite trivial hh

theorem keepsNulFree_call {α : Type} {c : Call} (hc : PassesNulFree c) {k : c.Ans → Prog shared α}
    (hk : ∀ r, KeepsNulFree (k r)) : KeepsNulFree (callShared c >>= k) :=
  meets_bind (meets_op hc) fun r _ => hk r

theorem keepsNulFree_authenticated {cookie : String} {k : String → Handler}
    (hk : ∀ login, NulFree login → KeepsNulFree (k login)) : KeepsNulFree (authenticated cookie k) :=
  meets_bind (meets_op (fun _ h => absurd h List.not_mem_nil)) fun login hlogin =>
    keepsNulFree_check (hk login hlogin)

theorem keepsNulFree_goodCredentials {login password : String} (hlogin : NulFree login) {k : Bool → Handler}
    (hk : ∀ good, KeepsNulFree (k good)) : KeepsNulFree (goodCredentials env login password >>= k) :=
  keepsNulFree_call (passesNulFree_one rfl hlogin) fun _ => hk _

theorem keepsNulFree_register (henv : env.NulFree) (hm : NulFreeMessage m) :
    KeepsNulFree (handleRegister env m) := by
  unfold handleRegister
  split
  · rename_i login pass publicKey hsub
    have hlogin := hm.register _ hsub login rfl
    refine keepsNulFree_call (passesNulFree_two rfl hlogin (henv.hash pass)) fun r => ?_
    cases r with
    | ok => exact keepsNulFree_check trivial
    | _ => trivial
  · trivial

theorem keepsNulFree_unregister : KeepsNulFree (handleUnregister env m) := by
  unfold handleUnregister
  split
  · refine keepsNulFree_authenticated fun login hlogin => ?_
    exact keepsNulFree_call (passesNulFree_one rfl hlogin) fun _ => trivial
  · trivial

theorem keepsNulFree_login (hm : NulFreeMessage m) : KeepsNulFree (handleLogin env m) := by
  unfold handleLogin
  split
  · rename_i login pass hsub
    have hlogin := hm.login _ hsub login rfl
    refine keepsNulFree_goodCredentials hlogin fun _ => keepsNulFree_check ?_
    exact keepsNulFree_call (passesNulFree_one rfl hlogin) fun _ => trivial
  · trivial

theorem keepsNulFree_logout : KeepsNulFree (handleLogout m) := by
  unfold handleLogout
  split
  · exact keepsNulFree_call (fun _ h => absurd h List.not_mem_nil) fun _ => trivial
  · trivial

theorem keepsNulFree_listNetworks : KeepsNulFree (handleListNetworks env m) := by
  unfold handleListNetworks
  split
  · refine keepsNulFree_authenticated fun login hlogin => ?_
    exact keepsNulFree_call (passesNulFree_one rfl hlogin) fun _ => trivial
  · trivial

theorem keepsNulFree_listMyNetworks : KeepsNulFree (handleListMyNetworks env m) := by
  unfold handleListMyNetworks
  split
  · refine keepsNulFree_authenticated fun login hlogin => ?_
    exact keepsNulFree_call (passesNulFree_one rfl hlogin) fun _ => trivial
  · trivial

theorem keepsNulFree_listServers (hm : NulFreeMessage m) : KeepsNulFree (handleListServers env m) := by
  unfold handleListServers
  split
  · rename_i cookie network hsub
    have hnetwork := hm.listServers _ hsub network rfl
    refine keepsNulFree_authenticated fun login hlogin => ?_
    refine keepsNulFree_call (passesNulFree_one rfl hnetwork) fun _ => keepsNulFree_check ?_
    refine keepsNulFree_call (passesNulFree_two rfl hnetwork hlogin) fun _ => keepsNulFree_check ?_
    exact keepsNulFree_call (passesNulFree_one rfl hnetwork) fun _ => trivial
  · trivial

theorem keepsNulFree_createNetwork (hm : NulFreeMessage m) :
    KeepsNulFree (handleCreateNetwork env m) := by
  unfold handleCreateNetwork
  split
  · rename_i cookie name access vis part creatorEmail protocolName hsub
    obtain ⟨hname, hmail, hproto⟩ := hm.createNetwork _ hsub
    refine keepsNulFree_authenticated fun login hlogin => ?_
    have htexts : ∀ text ∈ [name, login, creatorEmail.getD "", protocolName.getD ""], NulFree text := by
      simp [hname name rfl, hlogin, hmail.getD, hproto.getD]
    refine keepsNulFree_call ?_ fun r => ?_
    · exact htexts
    · cases r with
      | ok => exact keepsNulFree_call (passesNulFree_two rfl hlogin (hname name rfl)) fun _ => trivial
      | _ => trivial
  · trivial

theorem keepsNulFree_deleteNetwork (hm : NulFreeMessage m) :
    KeepsNulFree (handleDeleteNetwork env m) := by
  unfold handleDeleteNetwork
  split
  · rename_i cookie name hsub
    have hname := hm.deleteNetwork _ hsub name rfl
    refine keepsNulFree_authenticated fun login hlogin => ?_
    refine keepsNulFree_call (passesNulFree_one rfl hname) fun _ => keepsNulFree_check ?_
    exact keepsNulFree_call (passesNulFree_two rfl hlogin hname) fun _ => trivial
  · trivial

theorem keepsNulFree_inviteUser (hm : NulFreeMessage m) : KeepsNulFree (handleInviteUser env m) := by
  unfold handleInviteUser
  split
  · rename_i cookie invitedLogin network hsub
    obtain ⟨hinvited, hnetwork⟩ := hm.inviteUser _ hsub
    refine keepsNulFree_authenticated fun _ _ => ?_
    refine keepsNulFree_call (passesNulFree_one rfl (hnetwork _ rfl)) fun _ => keepsNulFree_check ?_
    refine keepsNulFree_call (passesNulFree_one rfl (hinvited _ rfl)) fun _ => keepsNulFree_check ?_
    exact keepsNulFree_call (passesNulFree_two rfl (hinvited _ rfl) (hnetwork _ rfl)) fun _ => trivial
  · trivial

theorem keepsNulFree_removeUser : KeepsNulFree (handleRemoveUser env m) := by
  unfold handleRemoveUser
  split
  · refine keepsNulFree_authenticated fun login hlogin => ?_
    refine keepsNulFree_call (passesNulFree_one rfl hlogin) fun _ => ?_
    exact keepsNulFree_call (fun _ h => absurd h List.not_mem_nil) fun _ => trivial
  · trivial

theorem keepsNulFree_userInfo (hm : NulFreeMessage m) : KeepsNulFree (handleUserInfo env m) := by
  unfold handleUserInfo
  split
  · rename_i sub hsub
    obtain ⟨huser, hnetwork⟩ := hm.userInfo _ hsub
    refine keepsNulFree_authenticated fun _ _ => ?_
    refine keepsNulFree_call (passesNulFree_one rfl huser.getD) fun _ => keepsNulFree_check ?_
    refine keepsNulFree_call (passesNulFree_one rfl hnetwork.getD) fun _ => keepsNulFree_check ?_
    exact keepsNulFree_call (passesNulFree_two rfl huser.getD hnetwork.getD) fun _ => trivial
  · trivial

theorem keepsNulFree_updateServer (henv : env.NulFree) (hm : NulFreeMessage m) :
    KeepsNulFree (handleUpdateServer env m) := by
  unfold handleUpdateServer
  split
  · rename_i sub hsub
    have hnetwork := (hm.updateServer _ hsub).getD
    refine keepsNulFree_authenticated fun login hlogin => ?_
    refine keepsNulFree_call (passesNulFree_one rfl hnetwork) fun _ => keepsNulFree_check ?_
    refine keepsNulFree_call (passesNulFree_two rfl hlogin hnetwork) fun _ => keepsNulFree_check ?_
    have htexts : ∀ text ∈ [sub.networkName.getD "", login, env.address], NulFree text := by
      simp [hnetwork, hlogin, henv.address]
    refine keepsNulFree_call ?_ fun r => ?_
    · exact htexts
    · cases r with
      | _ => trivial
  · trivial

theorem keepsNulFree_stopServer (hm : NulFreeMessage m) : KeepsNulFree (handleStopServer env m) := by
  unfold handleStopServer
  split
  · rename_i sub hsub
    have hnetwork := (hm.stopServer _ hsub).getD
    refine keepsNulFree_authenticated fun login hlogin => ?_
    refine keepsNulFree_call (passesNulFree_one rfl hnetwork) fun _ => keepsNulFree_check ?_
    exact keepsNulFree_call (passesNulFree_two rfl hnetwork hlogin) fun _ => trivial
  · trivial

theorem keepsNulFree_signKey (henv : env.NulFree) (hm : NulFreeMessage m) :
    KeepsNulFree (handleSignKey env m) := by
  unfold handleSignKey
  split
  · rename_i sub hsub
    have hnetwork := (hm.signKey _ hsub).getD
    refine keepsNulFree_authenticated fun login hlogin => ?_
    have htexts : ∀ text ∈ [login, sub.networkName.getD "", env.signCertyficate (sub.publicKey.getD "")],
        NulFree text := by
      simp [hnetwork, hlogin, henv.certificate]
    refine keepsNulFree_call ?_ fun r => ?_
    · exact htexts
    · refine keepsNulFree_check ?_
      cases r with
      | _ => trivial
  · trivial

theorem keepsNulFree_changePassword (henv : env.NulFree) : KeepsNulFree (handleChangePassword env m) := by
  unfold handleChangePassword
  split
  · refine keepsNulFree_authenticated fun login hlogin => ?_
    refine keepsNulFree_goodCredentials hlogin fun _ => keepsNulFree_check ?_
    exact keepsNulFree_call (passesNulFree_two rfl hlogin (henv.hash _)) fun _ => trivial
  · trivial

theorem keepsNulFree_handleRequest (henv : env.NulFree) (hm : NulFreeMessage m) :
    KeepsNulFree (handleRequest env m) := by
  unfold handleRequest
  cases m.requestType with
  | register => exact keepsNulFree_register henv hm
  | unregister => exact keepsNulFree_unregister
  | login => exact keepsNulFree_login hm
  | logout => exact keepsNulFree_logout
  | listNetworks => exact keepsNulFree_listNetworks
  | listMyNetworks => exact keepsNulFree_listMyNetworks
  | listServers => exact keepsNulFree_listServers hm
  | createNetwork => exact keepsNulFree_createNetwork hm
  | deleteNetwork => exact keepsNulFree_deleteNetwork hm
  | inviteUser => exact keepsNulFree_inviteUser hm
  | removeUser => exact keepsNulFree_removeUser
  | userInfo => exact keepsNulFree_userInfo hm
  | updateServer => exact keepsNulFree_updateServer henv hm
  | stopServer => exact keepsNulFree_stopServer hm
  | signKey => exact keepsNulFree_signKey henv hm
  | changePassword => exact keepsNulFree_changePassword henv

/-! ### Runs -/

/-- **A run whose requests have no NUL in what they pass on is the run with what arrives of the texts**, on
any database, with any number of threads and in any order of their calls. -/
theorem run_execSent {s : State} (hs : SessionsNulFree s) {n : Nat} {events : List (PoolEvent Request)}
    (hserve : ∀ i r, .serve i r ∈ events → r.env.NulFree ∧ NulFreeMessage r.message) :
    run (Pool.step execSent Request.handler) (Pool.start s n) events =
      run (Pool.step exec Request.handler) (Pool.start s n) events :=
  Pool.meets_run_congr (fun c s hc hs => exec_keepsNulFree c s hc hs) (fun _ s hc => execSent_eq hc s) hs
    fun i r hr => keepsNulFree_handleRequest (hserve i r hr).1 (hserve i r hr).2

end Sp2p.Tracker
