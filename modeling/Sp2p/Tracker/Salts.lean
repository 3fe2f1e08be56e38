import Sp2p.Tracker.Credentials
import Sp2p.Tracker.Refinement

/-!
# What is seen of the hashes

A hash of a password is stored, read again and given to `check_bcrypt`, and goes nowhere else. So nobody
can tell by what the tracker replies which salts were drawn: `salts_unseen` compares two runs of the
threads that differ in the hashes alone. `hashes` says which calls and answers differ in a hash only; that
the calls are answered so is shown for the directory, and holds for the tables because they refine it.
-/

namespace Sp2p.Tracker

open Interleaving Runs Protocol NodeMessageFactory

variable {check : String → String → Bool}

/-- No password tells them apart. -/
def ChecksAlike (check : String → String → Bool) (h h' : String) : Prop := ∀ p, check p h = check p h'

/-- What the column has of two hashes checks alike, or it takes neither. -/
def SameHash (check : String → String → Bool) (h h' : String) : Prop :=
  Option.Rel (fun b b' : BpChar 70 => ChecksAlike check (toStdString b.out) (toStdString b'.out))
    (BpChar.ofText 70 h) (BpChar.ofText 70 h')

theorem SameHash.refl (check : String → String → Bool) (h : String) : SameHash check h h := by
  unfold SameHash
  cases BpChar.ofText 70 h with
  | none => exact .none
  | some b => exact .some fun _ => rfl

/-! ### The calls of a handler -/

/-- The calls are the same up to a hash that is stored. -/
inductive LikeCalls (check : String → String → Bool) : Call → Call → Prop
  | same (c : Call) : LikeCalls check c c
  | createUser (fault : Bool) (login : String) {h h' : String} (hh : SameHash check h h') :
    LikeCalls check (.createUser fault login h) (.createUser fault login h')
  | changeUserPassword (fault : Bool) (login : String) {h h' : String} (hh : SameHash check h h') :
    LikeCalls check (.changeUserPassword fault login h) (.changeUserPassword fault login h')

/-- The answers are the same, or hashes. -/
def LikeAnswers (check : String → String → Bool) : (c c' : Call) → c.Ans → c'.Ans → Prop
  | .getPassHash .., .getPassHash .., h, h' => ChecksAlike check h h'
  | _, _, r, r' => HEq r r'

def hashes (check : String → String → Bool) : Likeness shared where
  ops := LikeCalls check
  answers := LikeAnswers check

/-- The call is answered with no hash. -/
def Open : Call → Prop
  | .getPassHash .. => False
  | _ => True

theorem eq_of_likeAnswers {c : Call} (hc : Open c) {r r' : c.Ans} (h : LikeAnswers check c c r r') :
    r = r' := by
  cases c with
  | getPassHash => cases hc
  | _ => exact eq_of_heq h

theorem like_of_open {h : Handler} (hopen : h.All Open) : h.Like (hashes check) h := by
  induction h with
  | ret reply => rfl
  | call c k ih =>
    obtain ⟨hc, hk⟩ := hopen
    refine ⟨.same c, fun r r' hr => ?_⟩
    obtain rfl := eq_of_likeAnswers hc hr
    exact ih r (hk r)

section Handlers

variable {env : Env} {m : ClientMessage}

theorem open_authenticated {cookie : String} {k : String → Handler} (hk : ∀ login, (k login).All Open) :
    (authenticated cookie k).All Open :=
  ⟨trivial, fun login => all_ite trivial (hk login)⟩

theorem open_unregister : (handleUnregister env m).All Open := by
  unfold handleUnregister
  split
  · exact open_authenticated fun _ => ⟨trivial, fun _ => trivial⟩
  · trivial

theorem open_logout : (handleLogout m).All Open := by
  unfold handleLogout
  split
  · exact ⟨trivial, fun _ => trivial⟩
  · trivial

theorem open_listNetworks : (handleListNetworks env m).All Open := by
  unfold handleListNetworks
  split
  · exact open_authenticated fun _ => ⟨trivial, fun _ => trivial⟩
  · trivial

theorem open_listMyNetworks : (handleListMyNetworks env m).All Open := by
  unfold handleListMyNetworks
  split
  · exact open_authenticated fun _ => ⟨trivial, fun _ => trivial⟩
  · trivial

theorem open_listServers : (handleListServers env m).All Open := by
  unfold handleListServers
  split
  · refine open_authenticated fun _ => ?_
    exact ⟨trivial, fun _ => all_ite trivial ⟨trivial, fun _ => all_ite trivial ⟨trivial, fun _ => trivial⟩⟩⟩
  · trivial

theorem open_createNetwork : (handleCreateNetwork env m).All Open := by
  unfold handleCreateNetwork
  split
  · refine open_authenticated fun _ => ⟨trivial, fun r => ?_⟩
    cases r with
    | ok => exact ⟨trivial, fun _ => trivial⟩
    | internalError | notFound | notPermited | notUnique => trivial
  · trivial

theorem open_deleteNetwork : (handleDeleteNetwork env m).All Open := by
  unfold handleDeleteNetwork
  split
  · refine open_authenticated fun _ => ?_
    exact ⟨trivial, fun _ => all_ite trivial ⟨trivial, fun _ => trivial⟩⟩
  · trivial

theorem open_inviteUser : (handleInviteUser env m).All Open := by
  unfold handleInviteUser
  split
  · refine open_authenticated fun _ => ?_
    exact ⟨trivial, fun _ => all_ite trivial ⟨trivial, fun _ => all_ite trivial ⟨trivial, fun _ => trivial⟩⟩⟩
  · trivial

theorem open_removeUser : (handleRemoveUser env m).All Open := by
  unfold handleRemoveUser
  split
  · exact open_authenticated fun _ => ⟨trivial, fun _ => ⟨trivial, fun _ => trivial⟩⟩
  · trivial

theorem open_userInfo : (handleUserInfo env m).All Open := by
  unfold handleUserInfo
  split
  · refine open_authenticated fun _ => ?_
    exact ⟨trivial, fun _ => all_ite trivial ⟨trivial, fun _ => all_ite trivial ⟨trivial, fun _ => trivial⟩⟩⟩
  · trivial

theorem open_updateServer : (handleUpdateServer env m).All Open := by
  unfold handleUpdateServer
  split
  · refine open_authenticated fun _ => ?_
    refine ⟨trivial, fun _ => all_ite trivial ⟨trivial, fun _ => all_ite trivial ⟨trivial, fun r => ?_⟩⟩⟩
    cases r with
    | ok | internalError | notFound | notPermited | notUnique => trivial
  · trivial

theorem open_stopServer : (handleStopServer env m).All Open := by
  unfold handleStopServer
  split
  · refine open_authenticated fun _ => ?_
    exact ⟨trivial, fun _ => all_ite trivial ⟨trivial, fun _ => trivial⟩⟩
  · trivial

theorem open_signKey : (handleSignKey env m).All Open := by
  unfold handleSignKey
  split
  · refine open_authenticated fun _ => ⟨trivial, fun r => all_ite trivial ?_⟩
    cases r with
    | ok | internalError | notFound | notPermited | notUnique => trivial
  · trivial

end Handlers

/-! ### Other hashes -/

/-- The request with other hashes of its passwords. -/
def Request.withHashes (r : Request) (generateBcrypt : String → String) : Request :=
  { r with env := { r.env with generateBcrypt } }

/-- The two requests are the same but for the hash of the new password, and nobody who checks can tell
these apart. -/
inductive Resalted (check : String → String → Bool) : Request → Request → Prop
  | intro (r : Request) (generateBcrypt : String → String) (hcheck : r.env.checkBcrypt = check)
    (hsame : ∀ p, newPassword r.message = some p →
      SameHash check (r.env.generateBcrypt p) (generateBcrypt p)) :
    Resalted check r (r.withHashes generateBcrypt)

variable {env : Env} {m : ClientMessage} {generateBcrypt : String → String}

theorem like_goodCredentials (hcheck : env.checkBcrypt = check) {login password : String}
    {k k' : Bool → Handler} (hk : ∀ good, (k good).Like (hashes check) (k' good)) :
    (goodCredentials env login password >>= k).Like (hashes check)
      (goodCredentials { env with generateBcrypt } login password >>= k') := by
  refine like_bind (like_op (.same _) fun h h' hh => ?_) hk
  show env.checkBcrypt password h = env.checkBcrypt password h'
  rw [hcheck]
  exact hh password

theorem like_register (hm : m.requestType = .register)
    (hsame : ∀ p, newPassword m = some p → SameHash check (env.generateBcrypt p) (generateBcrypt p)) :
    (handleRegister env m).Like (hashes check) (handleRegister { env with generateBcrypt } m) := by
  unfold handleRegister
  split
  · rename_i login pass publicKey hsub
    have hnew : newPassword m = some pass := by simp [newPassword, hm, hsub]
    refine like_op (.createUser _ _ (hsame pass hnew)) fun r r' hr => ?_
    obtain rfl : r = r' := eq_of_heq hr
    cases r with
    | ok => exact like_ite rfl rfl
    | internalError | notFound | notPermited | notUnique => rfl
  · rfl

theorem like_login (hcheck : env.checkBcrypt = check) :
    (handleLogin env m).Like (hashes check) (handleLogin { env with generateBcrypt } m) := by
  unfold handleLogin
  split
  · refine like_goodCredentials hcheck fun good => like_ite rfl ?_
    exact like_of_open ⟨trivial, fun _ => trivial⟩
  · rfl

theorem like_changePassword (hm : m.requestType = .changePassword) (hcheck : env.checkBcrypt = check)
    (hsame : ∀ p, newPassword m = some p → SameHash check (env.generateBcrypt p) (generateBcrypt p)) :
    (handleChangePassword env m).Like (hashes check)
      (handleChangePassword { env with generateBcrypt } m) := by
  unfold handleChangePassword
  split
  · rename_i sub hsub
    have hnew : newPassword m = some (sub.newPassword.getD "") := by simp [newPassword, hm, hsub]
    refine like_op (.same _) fun login login' hlogin => ?_
    obtain rfl : login = login' := eq_of_heq hlogin
    refine like_ite rfl (like_goodCredentials hcheck fun good => like_ite rfl ?_)
    refine like_op (.changeUserPassword _ _ (hsame _ hnew)) fun r r' hr => ?_
    obtain rfl : r = r' := eq_of_heq hr
    rfl
  · rfl

/-- A handler makes the same calls for both requests, up to the hashes. -/
theorem like_handler {r r' : Request} (h : Resalted check r r') :
    r.handler.Like (hashes check) r'.handler := by
  obtain ⟨generateBcrypt, hcheck, hsame⟩ := h
  show (handleRequest r.env r.message).Like (hashes check)
    (handleRequest { r.env with generateBcrypt } r.message)
  unfold handleRequest
  cases hm : r.message.requestType with
  | register => exact like_register hm hsame
  | unregister => exact like_of_open open_unregister
  | login => exact like_login hcheck
  | logout => exact like_of_open open_logout
  | listNetworks => exact like_of_open open_listNetworks
  | listMyNetworks => exact like_of_open open_listMyNetworks
  | listServers => exact like_of_open open_listServers
  | createNetwork => exact like_of_open open_createNetwork
  | deleteNetwork => exact like_of_open open_deleteNetwork
  | inviteUser => exact like_of_open open_inviteUser
  | removeUser => exact like_of_open open_removeUser
  | userInfo => exact like_of_open open_userInfo
  | updateServer => exact like_of_open open_updateServer
  | stopServer => exact like_of_open open_stopServer
  | signKey => exact like_of_open open_signKey
  | changePassword => exact like_changePassword hm hcheck hsame

/-! ### Registries that differ in hashes -/

/-- One account, but for the hash. -/
structure SameAccount (check : String → String → Bool) (a a' : Account) : Prop where
  login : a.login = a'.login
  password : ChecksAlike check (toStdString a.password.out) (toStdString a'.password.out)

/-- The registries are the same but for the hashes in the accounts. -/
def SameButHashes (check : String → String → Bool) (g g' : Registry) : Prop :=
  ∃ accounts', List.Forall₂ (SameAccount check) g.accounts accounts' ∧ g' = { g with accounts := accounts' }

namespace Registry

variable {g g' : Registry} {accounts' : List Account}

theorem rel_account? (h : List.Forall₂ (SameAccount check) g.accounts accounts') (login : String) :
    Option.Rel (SameAccount check) (g.account? login) ({ g with accounts := accounts' }.account? login) := by
  unfold account?
  rw [← List.head?_filter, ← List.head?_filter]
  generalize hl : g.accounts.filter (fun a => decide (a.login.text = rstrip login)) = l
  generalize hl' : accounts'.filter (fun a => decide (a.login.text = rstrip login)) = l'
  have hfilter : List.Forall₂ (SameAccount check) l l' := by
    rw [← hl, ← hl']
    refine List.rel_filter (fun a a' ha => ?_) h
    show decide _ = true ↔ decide _ = true
    rw [ha.login]
  cases hfilter with
  | nil => exact .none
  | cons ha _ => exact .some ha

/-- Both changes fail alike, or lead to registries that are the same but for hashes. -/
inductive LikeChanges (check : String → String → Bool) :
    Except SqlError Registry → Except SqlError Registry → Prop
  | error (e : SqlError) : LikeChanges check (.error e) (.error e)
  | ok {g g' : Registry} (h : SameButHashes check g g') : LikeChanges check (.ok g) (.ok g')

/-- What a call that writes answers, and what it leaves. -/
def LikeWrites (check : String → String → Bool) (out out' : DBResponse × Registry) : Prop :=
  out.1 = out'.1 ∧ SameButHashes check out.2 out'.2

theorem like_change (h : SameButHashes check g g') (fault : Bool) (onUnique : DBResponse)
    {x x' : Except SqlError Registry} (hx : LikeChanges check x x') :
    LikeWrites check (change fault onUnique g x) (change fault onUnique g' x') := by
  unfold change
  cases fault with
  | true => exact ⟨rfl, h⟩
  | false =>
    cases hx with
    | ok hnext => exact ⟨rfl, hnext⟩
    | error e =>
      cases e with
      | uniqueViolation | failure => exact ⟨rfl, h⟩

theorem any_login {accounts accounts' : List Account}
    (h : List.Forall₂ (SameAccount check) accounts accounts') (l : BpChar 30) :
    accounts'.any (·.login = l) = accounts.any (·.login = l) := by
  induction h with
  | nil => rfl
  | cons ha _ ih => rw [List.any_cons, List.any_cons, ih, ha.login]

theorem like_insertUser (h : SameButHashes check g g') (login : String) {p p' : String}
    (hp : SameHash check p p') : LikeChanges check (g.insertUser login p) (g'.insertUser login p') := by
  obtain ⟨accounts', haccounts, rfl⟩ := h
  unfold insertUser
  unfold SameHash at hp
  cases BpChar.ofText 30 login with
  | none => exact .error _
  | some l =>
    generalize BpChar.ofText 70 p = b, BpChar.ofText 70 p' = b' at hp
    cases hp with
    | none => exact .error _
    | @some b b' hb =>
      have happend : List.Forall₂ (SameAccount check) (g.accounts ++ [⟨l, b⟩]) (accounts' ++ [⟨l, b'⟩]) :=
        List.rel_append haccounts (.cons ⟨rfl, hb⟩ .nil)
      dsimp only
      rw [any_login haccounts]
      split
      · exact .error _
      · exact .ok ⟨_, happend, rfl⟩

theorem like_deleteUser (h : SameButHashes check g g') (login : String) :
    SameButHashes check (g.deleteUser login) (g'.deleteUser login) := by
  obtain ⟨accounts', haccounts, rfl⟩ := h
  refine ⟨_, List.rel_filter (fun a a' ha => ?_) haccounts, rfl⟩
  show decide _ = true ↔ decide _ = true
  rw [ha.login]

theorem like_updatePassword (h : SameButHashes check g g') (login : String) {p p' : String}
    (hp : SameHash check p p') :
    LikeChanges check (g.updatePassword login p) (g'.updatePassword login p') := by
  obtain ⟨accounts', haccounts, rfl⟩ := h
  unfold updatePassword
  unfold SameHash at hp
  generalize BpChar.ofText 70 p = b, BpChar.ofText 70 p' = b' at hp
  cases hp with
  | none => exact .error _
  | some hb =>
    refine .ok ⟨_, List.rel_map (fun a a' ha => ?_) haccounts, rfl⟩
    rw [ha.login]
    split
    · exact ⟨rfl, hb⟩
    · exact ha

theorem like_insertNetwork (h : SameButHashes check g g') (name owner : String)
    (pub vis part : Bool) (mail proto : String) :
    LikeChanges check (g.insertNetwork name owner pub vis part mail proto)
      (g'.insertNetwork name owner pub vis part mail proto) := by
  obtain ⟨accounts', haccounts, rfl⟩ := h
  have howner := rel_account? haccounts owner
  unfold insertNetwork
  generalize g.account? owner = a, { g with accounts := accounts' }.account? owner = a' at howner
  cases BpChar.ofText 30 name with
  | none => exact .error _
  | some nm =>
    cases varchar 40 mail with
    | none => exact .error _
    | some mail =>
      cases varchar 40 proto with
      | none => exact .error _
      | some proto =>
        cases howner with
        | none => exact .error _
        | some ha =>
          dsimp only
          split
          · exact .error _
          · rw [ha.login]
            exact .ok ⟨accounts', haccounts, rfl⟩

/-- Of an account only the name goes into an entry. -/
theorem insertEntry_accounts {δ : Type} (h : List.Forall₂ (SameAccount check) g.accounts accounts')
    (l : List (Entry δ)) (login network : String) (d : δ) :
    { g with accounts := accounts' }.insertEntry l login network d = g.insertEntry l login network d := by
  have haccount := rel_account? h login
  unfold insertEntry
  generalize g.account? login = a, { g with accounts := accounts' }.account? login = a' at haccount
  cases haccount with
  | none => rfl
  | some ha =>
    have hnetwork : { g with accounts := accounts' }.network? network = g.network? network := rfl
    rw [hnetwork]
    cases g.network? network with
    | none => rfl
    | some n =>
      dsimp only
      rw [ha.login]

/-- It is made alike, whatever table it goes into. -/
theorem like_insertEntry {δ : Type} (h : List.Forall₂ (SameAccount check) g.accounts accounts')
    (l : List (Entry δ)) (login network : String) (d : δ) {f f' : List (Entry δ) → Registry}
    (hf : ∀ l, SameButHashes check (f l) (f' l)) :
    LikeChanges check ((g.insertEntry l login network d).map f)
      (({ g with accounts := accounts' }.insertEntry l login network d).map f') := by
  rw [insertEntry_accounts h]
  cases g.insertEntry l login network d with
  | error e => exact .error e
  | ok l => exact .ok (hf l)

theorem like_insertInvitation (h : SameButHashes check g g') (network login : String) :
    LikeChanges check (g.insertInvitation network login) (g'.insertInvitation network login) := by
  obtain ⟨accounts', haccounts, rfl⟩ := h
  refine like_insertEntry haccounts g.invitations login network () fun l => ?_
  exact ⟨accounts', haccounts, rfl⟩

theorem like_insertKey (h : SameButHashes check g g') (login network key : String) :
    LikeChanges check (g.insertKey login network key) (g'.insertKey login network key) := by
  obtain ⟨accounts', haccounts, rfl⟩ := h
  refine like_insertEntry haccounts g.publicKey login network key fun l => ?_
  exact ⟨accounts', haccounts, rfl⟩

theorem like_insertServer (h : SameButHashes check g g') (network user : String) (d : ServerData) :
    LikeChanges check (g.insertServer network user d) (g'.insertServer network user d) := by
  obtain ⟨accounts', haccounts, rfl⟩ := h
  refine like_insertEntry haccounts g.servers user network d fun l => ?_
  exact ⟨accounts', haccounts, rfl⟩

theorem like_deleteNetwork (h : SameButHashes check g g') (fault : Bool) (login name : String) :
    LikeWrites check (deleteNetwork fault login name g) (deleteNetwork fault login name g') := by
  have hg := h
  obtain ⟨accounts', haccounts, rfl⟩ := h
  unfold deleteNetwork
  cases fault with
  | true => exact ⟨rfl, hg⟩
  | false =>
    have hnetwork : { g with accounts := accounts' }.network? name = g.network? name := rfl
    rw [hnetwork]
    cases g.network? name with
    | none => exact ⟨rfl, hg⟩
    | some n =>
      simp only [Bool.false_eq_true, if_false]
      split
      · exact ⟨rfl, accounts', haccounts, rfl⟩
      · exact ⟨rfl, hg⟩

theorem like_updateServer (h : SameButHashes check g g') (fault : Bool) (network user ip : String)
    (port ttl : Int) :
    LikeWrites check (updateServer fault network user ip port ttl g)
      (updateServer fault network user ip port ttl g') := by
  have hservers : g'.servers = g.servers := by
    obtain ⟨accounts', -, rfl⟩ := h
    rfl
  unfold updateServer
  cases BpChar.ofText 20 ip with
  | none => exact ⟨rfl, h⟩
  | some addr =>
    cases fault with
    | true => exact ⟨rfl, h⟩
    | false =>
      rw [hservers]
      simp only [Bool.false_eq_true, if_false]
      split
      · exact ⟨rfl, h⟩
      · exact like_change h false .notFound (like_insertServer h network user _)

theorem like_deleteServer (h : SameButHashes check g g') (fault : Bool) (network user : String) :
    LikeWrites check (deleteServer fault network user g) (deleteServer fault network user g') := by
  unfold deleteServer
  cases fault with
  | true => exact ⟨rfl, h⟩
  | false =>
    obtain ⟨accounts', haccounts, rfl⟩ := h
    exact ⟨rfl, accounts', haccounts, rfl⟩

theorem like_getPassHash (h : SameButHashes check g g') (fault : Bool) (login : String) :
    ChecksAlike check (getPassHash fault login g) (getPassHash fault login g') := by
  obtain ⟨accounts', haccounts, rfl⟩ := h
  have haccount := rel_account? haccounts login
  unfold getPassHash
  generalize g.account? login = a, { g with accounts := accounts' }.account? login = a' at haccount
  cases fault with
  | true => exact fun _ => rfl
  | false =>
    cases haccount with
    | none => exact fun _ => rfl
    | some ha => exact ha.password

theorem like_userExists (h : SameButHashes check g g') (fault : Bool) (login : String) :
    userExists fault login g = userExists fault login g' := by
  obtain ⟨accounts', haccounts, rfl⟩ := h
  have haccount := rel_account? haccounts login
  unfold userExists
  generalize g.account? login = a, { g with accounts := accounts' }.account? login = a' at haccount
  cases haccount with
  | none => rfl
  | some _ => rfl

end Registry

/-! ### The calls -/

/-- The directories are the same but for hashes. -/
structure DirectoriesLike (check : String → String → Bool) (d d' : Directory) : Prop where
  registry : SameButHashes check d.registry d'.registry
  sessions : d.sessions = d'.sessions

section Calls

variable {d d' : Directory}

/-- What is read of anything but the accounts. -/
theorem like_read (h : DirectoriesLike check d d') {α : Type} (f : Registry → α)
    (hf : ∀ g accounts', f { g with accounts := accounts' } = f g) : HEq (f d.registry) (f d'.registry) := by
  obtain ⟨accounts', -, heq⟩ := h.registry
  rw [heq]
  exact heq_of_eq (hf d.registry accounts').symm

theorem like_write (h : DirectoriesLike check d d') {f f' : Registry → DBResponse × Registry}
    (hf : Registry.LikeWrites check (f d.registry) (f' d'.registry)) :
    HEq (d.write f).1 (d'.write f').1 ∧ DirectoriesLike check (d.write f).2 (d'.write f').2 :=
  ⟨heq_of_eq hf.1, hf.2, h.sessions⟩

/-- Every call is answered alike. -/
theorem like_exec : RefinesLike (hashes check) Directory.exec Directory.exec (DirectoriesLike check) := by
  intro c c' d d' hc h
  have hg := h.registry
  cases hc with
  | createUser fault login hh =>
    exact like_write h (Registry.like_change hg fault _ (Registry.like_insertUser hg login hh))
  | changeUserPassword fault login hh =>
    exact like_write h (Registry.like_change hg fault _ (Registry.like_updatePassword hg login hh))
  | same =>
    cases c with
    | getLogin cookie =>
      refine ⟨?_, h⟩
      show HEq ((d.sessions[cookie]?.map Prod.fst).getD "") ((d'.sessions[cookie]?.map Prod.fst).getD "")
      rw [h.sessions]
    | login l cookie now => exact ⟨.rfl, hg, congrArg (·.insert cookie (l, now)) h.sessions⟩
    | logout cookie =>
      refine ⟨?_, hg, congrArg (·.erase cookie) h.sessions⟩
      show HEq (decide (cookie ∈ d.sessions)) (decide (cookie ∈ d'.sessions))
      rw [h.sessions]
    | createUser fault l pw =>
      exact like_write h (Registry.like_change hg fault _ (Registry.like_insertUser hg l (.refl check pw)))
    | removeUser fault l =>
      exact like_write h (Registry.like_change hg fault _ (.ok (Registry.like_deleteUser hg l)))
    | changeUserPassword fault l pw =>
      exact like_write h
        (Registry.like_change hg fault _ (Registry.like_updatePassword hg l (.refl check pw)))
    | addKey fault l n key =>
      exact like_write h (Registry.like_change hg fault _ (Registry.like_insertKey hg l n key))
    | createInvitation fault l n =>
      exact like_write h (Registry.like_change hg fault _ (Registry.like_insertInvitation hg n l))
    | createNetwork fault n l pub vis part mail proto =>
      exact like_write h
        (Registry.like_change hg fault _ (Registry.like_insertNetwork hg n l pub vis part mail proto))
    | deleteNetwork fault l n => exact like_write h (Registry.like_deleteNetwork hg fault l n)
    | updateServer fault n u ip port ttl =>
      exact like_write h (Registry.like_updateServer hg fault n u ip port ttl)
    | deleteServer fault n u => exact like_write h (Registry.like_deleteServer hg fault n u)
    | userExists fault l => exact ⟨heq_of_eq (Registry.like_userExists hg fault l), h⟩
    | getPassHash fault l => exact ⟨Registry.like_getPassHash hg fault l, h⟩
    | getUserInfo fault l n => exact ⟨like_read h (Registry.getUserInfo fault l n) fun _ _ => rfl, h⟩
    | getAllNetworks fault l => exact ⟨like_read h (Registry.getAllNetworks fault l) fun _ _ => rfl, h⟩
    | getUserNetworks fault l => exact ⟨like_read h (Registry.getUserNetworks fault l) fun _ _ => rfl, h⟩
    | networkExists fault n => exact ⟨like_read h (Registry.networkExists fault n) fun _ _ => rfl, h⟩
    | canSeeNetwork fault n l => exact ⟨like_read h (Registry.canSeeNetwork fault n l) fun _ _ => rfl, h⟩
    | canAddServer fault l n => exact ⟨like_read h (Registry.canAddServer fault l n) fun _ _ => rfl, h⟩
    | getServers fault n => exact ⟨like_read h (Registry.getServers fault n) fun _ _ => rfl, h⟩

end Calls

/-! ### The threads -/

/-- Nobody sees the difference: what is replied is the same, and so is what is stored but for the hashes. -/
structure Unseen (check : String → String → Bool) (pool pool' : Pool shared State NodeMessage) : Prop where
  replies : ∀ i, pool.reply i = pool'.reply i
  stored : SameButHashes check pool.shared.db.tables.registry pool'.shared.db.tables.registry

/-- **Nobody sees which salts were drawn.** Whatever requests come to however many threads, and however
their calls are interleaved: with other salts every thread gives the same replies at the same steps. -/
theorem salts_unseen (check : String → String → Bool) (n : Nat) {events events' : List (PoolEvent Request)}
    (hsalts : List.Forall₂ (PoolEvent.Like (Resalted check)) events events') :
    Option.Rel (Unseen check) (run (Pool.step exec Request.handler) (Pool.start State.empty n) events)
      (run (Pool.step exec Request.handler) (Pool.start State.empty n) events') := by
  have hlike : RefinesLike (hashes check) exec exec _ :=
    .of_refines refines_directory refines_directory like_exec
  have hempty : SameButHashes check {} {} := ⟨[], .nil, rfl⟩
  have hrun := Pool.likeUnder_run (J := Resalted check) hlike (fun _ _ => like_handler)
    ⟨{}, {}, stands_empty, stands_empty, hempty, rfl⟩ n hsalts
  refine rel_imp (fun pool pool' hpools => ⟨hpools.reply, ?_⟩) hrun
  obtain ⟨d, d', hd, hd', hsame⟩ := hpools.shared
  rw [← hd.registry, ← hd'.registry]
  exact hsame.registry

/-! ### Two salts -/

/-- What is behind a prefix of eight characters is the password. -/
def saltedCheck (password hash : String) : Bool := hash.toList.drop 8 = password.toList

def saltedEnv (salt : String) : Env where
  randomString := "c00kie"
  generateBcrypt password := "$2a$10$" ++ salt ++ password
  checkBcrypt := saltedCheck
  signRequest _ := some "-----BEGIN CERTIFICATE-----"

theorem sameHash_secret :
    SameHash saltedCheck ("$2a$10$" ++ "A" ++ "secret") ("$2a$10$" ++ "B" ++ "secret") := by
  have hdrop : ∀ salt ∈ ["A", "B"], (BpChar.ofText 70 ("$2a$10$" ++ salt ++ "secret")).map
      (fun b => (toStdString b.out).toList.drop 8) = some "secret".toList := by
    decide +kernel
  obtain ⟨b, hb, hsecret⟩ := Option.map_eq_some_iff.1 (hdrop "A" (by simp))
  obtain ⟨b', hb', hsecret'⟩ := Option.map_eq_some_iff.1 (hdrop "B" (by simp))
  unfold SameHash
  rw [hb, hb']
  refine .some fun p => ?_
  unfold saltedCheck
  rw [hsecret, hsecret']

/-- Alice registers and logs in. -/
def aliceComes (salt : String) : List (PoolEvent Request) :=
  [.serve 0 (.register (saltedEnv salt) "alice" "secret" "request"), .step 0, .step 0,
    .serve 0 (.login (saltedEnv salt) "alice" "secret"), .step 0, .step 0]

/-- With either salt she gets her cookie, and what is stored is not the same. -/
theorem salts_unseen_alice :
    ∃ pool pool',
      run (Pool.step exec Request.handler) (Pool.start State.empty 1) (aliceComes "A") = some pool ∧
      run (Pool.step exec Request.handler) (Pool.start State.empty 1) (aliceComes "B") = some pool' ∧
      Unseen saltedCheck pool pool' ∧
      pool.reply 0 = some (loginResponse "c00kie" "notimplementedyet") ∧
      pool.shared.db.tables.registry ≠ pool'.shared.db.tables.registry := by
  have hboth : (run (Pool.step exec Request.handler) (Pool.start State.empty 1) (aliceComes "A")).bind
      (fun pool => (run (Pool.step exec Request.handler) (Pool.start State.empty 1) (aliceComes "B")).map
        fun pool' => (pool.reply 0,
          decide (pool.shared.db.tables.registry = pool'.shared.db.tables.registry))) =
            some (some (loginResponse "c00kie" "notimplementedyet"), false) := by
    decide +kernel
  obtain ⟨pool, hrun, hboth⟩ := Option.bind_eq_some_iff.1 hboth
  obtain ⟨pool', hrun', heq⟩ := Option.map_eq_some_iff.1 hboth
  obtain ⟨hreply, hdiff⟩ := Prod.mk.inj heq
  have hregister : Resalted saltedCheck (.register (saltedEnv "A") "alice" "secret" "request")
      (.register (saltedEnv "B") "alice" "secret" "request") := by
    refine .intro _ (saltedEnv "B").generateBcrypt rfl ?_
    rintro p ⟨⟩
    exact sameHash_secret
  have hlogin : Resalted saltedCheck (.login (saltedEnv "A") "alice" "secret")
      (.login (saltedEnv "B") "alice" "secret") :=
    .intro _ (saltedEnv "B").generateBcrypt rfl nofun
  have hsalts : List.Forall₂ (PoolEvent.Like (Resalted saltedCheck)) (aliceComes "A") (aliceComes "B") :=
    .cons (.serve 0 hregister) (.cons (.step 0) (.cons (.step 0) (.cons (.serve 0 hlogin)
      (.cons (.step 0) (.cons (.step 0) .nil)))))
  have hunseen := salts_unseen saltedCheck 1 hsalts
  rw [hrun, hrun'] at hunseen
  cases hunseen with
  | some hunseen => exact ⟨pool, pool', hrun, hrun', hunseen, hreply, of_decide_eq_false hdiff⟩

end Sp2p.Tracker
