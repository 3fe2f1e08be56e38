import Sp2p.Tracker.Database

/-!
# The database connector

The methods of `PsqlConnector`, each one or two transactions on the tables. The argument `fault` says
that the statement or its commit throws a `pqxx::failure` for a reason outside the tables; the
transaction is then rolled back, and every method turns the exception into an answer. The
identifiers the queries look up are unique columns, so a lookup finds the one row there is.
-/

namespace Sp2p.Tracker

inductive DBResponse
  | ok | internalError | notUnique | notFound | notPermited
  deriving DecidableEq, Repr

/-- What a `pqxx::result` says of a statement: the rows it returned, and the rows it touched. -/
structure PgResult where
  size : Nat
  affectedRows : Nat

/-- `utils::ProtoNetwork`. Nothing assigns `publicity`. -/
structure ProtoNetwork where
  name : String
  publicity : Option Bool := none
  visible : Bool
  participable : Bool
  creatorEmail : String
  protocolName : String
  ownerName : String
  deriving DecidableEq, Repr

/-- `utils::ProtoServer`, the fields that are read. Nothing assigns `userLogin`. -/
structure ProtoServer where
  userLogin : String := ""
  networkName : String
  ip : String
  port : Int
  deriving DecidableEq, Repr

/-! ### The statements -/

namespace Tables

/-- The users row of the next number in the sequence. -/
def pushUser (t : Tables) (login : BpChar 30) (password : BpChar 70) : Tables :=
  { t with
    users := t.users ++ [⟨t.usersSeq + 1, login, password⟩]
    usersSeq := t.usersSeq + 1 }

/-- The networks row of the next number in the sequence. -/
def pushNetwork (t : Tables) (row : Nat → NetworkRow) : Tables :=
  { t with
    networks := t.networks ++ [row (t.networksSeq + 1)]
    networksSeq := t.networksSeq + 1 }

def setPassword (t : Tables) (login : String) (password : BpChar 70) : Tables :=
  { t with
    users := t.users.map fun u => if u.login.text = rstrip login then { u with password } else u }

/-- `INSERT INTO users(login, password) VALUES($1, $2)`. -/
def insertUser (t : Tables) (login password : String) : Except SqlError Tables :=
  match BpChar.ofText 30 login, BpChar.ofText 70 password with
  | some l, some p =>
    if t.users.any (·.login = l) then .error .uniqueViolation
    else .ok (t.pushUser l p)
  | _, _ => .error .failure

/-- `DELETE FROM users WHERE login=$1`. -/
def deleteUser (t : Tables) (login : String) : Tables :=
  match t.userId? login with
  | some uid => t.deleteUserRow uid
  | none => t

/-- `UPDATE users SET password=$1 WHERE login = $2`. -/
def updatePassword (t : Tables) (login password : String) : Except SqlError Tables :=
  match BpChar.ofText 70 password with
  | some p => .ok (t.setPassword login p)
  | none => .error .failure

/-- `INSERT INTO networks(name, public, visible, participable, creator_email, protocol_name,
owner_id)`. -/
def insertNetwork (t : Tables) (name ownerLogin : String) (publicity visible participable : Bool)
    (creatorMail protocolName : String) : Except SqlError Tables :=
  match BpChar.ofText 30 name, varchar 40 creatorMail, varchar 40 protocolName,
    t.userId? ownerLogin with
  | some nm, some mail, some proto, some uid =>
    if t.networks.any (·.name = nm) then .error .uniqueViolation
    else .ok (t.pushNetwork fun id => ⟨id, uid, nm, publicity, visible, participable, mail, proto⟩)
  | _, _, _, _ => .error .failure

/-- `DELETE FROM networks WHERE name=$1 AND owner_id = (SELECT id FROM users WHERE login=$2)`. -/
def deleteNetwork (t : Tables) (name login : String) : PgResult × Tables :=
  match t.network? name with
  | some n => if some n.ownerId = t.userId? login then (⟨0, 1⟩, t.deleteNetworkRow n.id) else (⟨0, 0⟩, t)
  | none => (⟨0, 0⟩, t)

/-- `INSERT INTO invitations(network_id, user_id)`. -/
def insertInvitation (t : Tables) (network login : String) : Except SqlError Tables :=
  (t.invitations.insert (t.userId? login) (t.networkId? network) ()).map ({ t with invitations := · })

/-- `INSERT INTO publickey (user_id, network_id, key)`. -/
def insertKey (t : Tables) (login network key : String) : Except SqlError Tables :=
  (t.publicKey.insert (t.userId? login) (t.networkId? network) key).map ({ t with publicKey := · })

/-- `INSERT INTO servers(network_id, user_id, ip, port, ttl)`. -/
def insertServer (t : Tables) (network user : String) (d : ServerData) : Except SqlError Tables :=
  (t.servers.insert (t.userId? user) (t.networkId? network) d).map ({ t with servers := · })

/-- `DELETE FROM servers WHERE network_id=(..) AND user_id=(..)`: no `RETURNING`, so no rows come
back. -/
def deleteServer (t : Tables) (network user : String) : PgResult × Tables :=
  let gone := fun u n => some u = t.userId? user && some n = t.networkId? network
  (⟨0, t.servers.rows.countP fun r => gone r.userId r.networkId⟩, { t with servers := t.servers.drop gone })

/-- `networks n JOIN users u ON n.owner_id = u.id`. -/
def networksWithOwner (t : Tables) : List (NetworkRow × UserRow) :=
  t.networks.filterMap fun n => (t.users.find? (·.id = n.ownerId)).map (n, ·)

/-- `n.id IN (SELECT network_id FROM invitations WHERE user_id = (..))`. -/
def invited (t : Tables) (login : String) (nid : Nat) : Bool :=
  t.invitations.rows.any fun r => some r.userId = t.userId? login && r.networkId = nid

end Tables

/-! ### The methods -/

namespace PsqlConnector

/-- A `pqxx::work` with the `catch` clauses around it. -/
def work (fault : Bool) (onUnique : DBResponse) (t : Tables) (statement : Except SqlError Tables) :
    DBResponse × Tables :=
  if fault then (.internalError, t)
  else match statement with
    | .ok t' => (.ok, t')
    | .error .uniqueViolation => (onUnique, t)
    | .error .failure => (.internalError, t)

def createUser (fault : Bool) (login password : String) (t : Tables) : DBResponse × Tables :=
  work fault .notUnique t (t.insertUser login password)

def removeUser (fault : Bool) (login : String) (t : Tables) : DBResponse × Tables :=
  work fault .notFound t (.ok (t.deleteUser login))

def changeUserPassword (fault : Bool) (login newPassword : String) (t : Tables) :
    DBResponse × Tables :=
  work fault .notFound t (t.updatePassword login newPassword)

def userExists (fault : Bool) (login : String) (t : Tables) : Bool :=
  !fault && (t.userId? login).isSome

def getPassHash (fault : Bool) (login : String) (t : Tables) : String :=
  if fault then ""
  else match t.users.find? fun u => u.login.text = rstrip login with
    | some u => toStdString u.password.out
    | none => ""

def getUserInfo (fault : Bool) (login network : String) (t : Tables) : String :=
  if fault then ""
  else match t.publicKey.find? (t.userId? login) (t.networkId? network) with
    | some r => toStdString r.data
    | none => ""

def addKey (fault : Bool) (login network key : String) (t : Tables) : DBResponse × Tables :=
  work fault .notFound t (t.insertKey login network key)

def createInvitation (fault : Bool) (login networkName : String) (t : Tables) :
    DBResponse × Tables :=
  work fault .notUnique t (t.insertInvitation networkName login)

/-- A `foreign_key_violation` is caught too, but the owner is looked up by the statement itself. -/
def createNetwork (fault : Bool) (networkName ownerLogin : String)
    (publicity visible participable : Bool) (creatorMail protocolName : String) (t : Tables) :
    DBResponse × Tables :=
  work fault .notUnique t
    (t.insertNetwork networkName ownerLogin publicity visible participable creatorMail protocolName)

def deleteNetwork (fault : Bool) (login name : String) (t : Tables) : DBResponse × Tables :=
  if fault then (.internalError, t)
  else
    let (res, t') := t.deleteNetwork name login
    if res.affectedRows = 0 then (.notPermited, t') else (.ok, t')

/-- The row of a join as `getAllNetworks` and `getUserNetworks` deliver it; neither selects the
`public` column. -/
def protoNetwork (r : NetworkRow × UserRow) : ProtoNetwork where
  name := toStdString r.1.name.out
  ownerName := toStdString r.2.login.out
  creatorEmail := toStdString r.1.creatorEmail
  visible := r.1.visible
  participable := r.1.participable
  protocolName := toStdString r.1.protocolName

def getAllNetworks (fault : Bool) (login : String) (t : Tables) : List ProtoNetwork :=
  if fault then []
  else (t.networksWithOwner.filter fun r =>
    r.1.visible || r.2.login.text = rstrip login || t.invited login r.1.id).map protoNetwork

def getUserNetworks (fault : Bool) (login : String) (t : Tables) : List ProtoNetwork :=
  if fault then []
  else (t.networksWithOwner.filter fun r => r.2.login.text = rstrip login).map protoNetwork

def networkExists (fault : Bool) (name : String) (t : Tables) : Bool :=
  !fault && (t.networkId? name).isSome

def canSeeNetwork (fault : Bool) (networkName login : String) (t : Tables) : Bool :=
  !fault && (t.network? networkName).any fun n => n.publicity || some n.ownerId = t.userId? login

def canAddServer (fault : Bool) (login networkName : String) (t : Tables) : Bool :=
  !fault && (t.network? networkName).any fun n => n.participable || some n.ownerId = t.userId? login

/-- When the `UPDATE` touches a row the method returns before the commit, so the update is rolled
back; otherwise a second transaction inserts the row. -/
def updateServer (fault : Bool) (network user ip : String) (port ttl : Int) (t : Tables) :
    DBResponse × Tables :=
  match BpChar.ofText 20 ip with
  | none => (.internalError, t)
  | some addr =>
    if fault then (.internalError, t)
    else if (t.servers.find? (t.userId? user) (t.networkId? network)).isSome then (.ok, t)
    else work false .notFound t (t.insertServer network user ⟨addr, port, ttl⟩)

def deleteServer (fault : Bool) (network user : String) (t : Tables) : DBResponse × Tables :=
  if fault then (.internalError, t)
  else
    let (res, t') := t.deleteServer network user
    if res.size = 0 then (.notFound, t') else (.ok, t')

def getServers (fault : Bool) (networkName : String) (t : Tables) : List ProtoServer :=
  if fault then []
  else (t.servers.rows.filter fun r =>
      some r.networkId = t.networkId? networkName && t.users.any (·.id = r.userId)).map fun r =>
    { networkName, ip := toStdString r.data.ip.out, port := r.data.port }

end PsqlConnector

/-! ### What the statements do -/

namespace Tables
variable {t t' : Tables}

theorem insertUser_eq_ok {login password : String} :
    t.insertUser login password = .ok t' ↔ ∃ l p, BpChar.ofText 30 login = some l ∧
      BpChar.ofText 70 password = some p ∧ (∀ u ∈ t.users, u.login ≠ l) ∧
      t' = t.pushUser l p := by
  unfold insertUser
  cases hl : BpChar.ofText 30 login <;> cases hp : BpChar.ofText 70 password <;>
    simp only [reduceCtorEq, false_and, and_false, exists_false, Option.some.injEq, exists_and_left,
      exists_eq_left']
  rename_i l p
  split
  · rename_i h
    simp only [List.any_eq_true, decide_eq_true_eq] at h
    obtain ⟨u, hu, he⟩ := h
    simp only [reduceCtorEq, false_iff]
    exact fun hne => hne.1 u hu he
  · rename_i h
    simp only [List.any_eq_true, decide_eq_true_eq, not_exists, not_and] at h
    exact ⟨fun e => ⟨h, by cases e; rfl⟩, fun e => by rw [e.2]⟩

/-- An account can be made when the texts fit their columns and the name is free. -/
theorem exists_insertUser {login password : String} :
    (∃ t', t.insertUser login password = .ok t') ↔
      (rstrip login).length ≤ 30 ∧ (rstrip password).length ≤ 70 ∧ t.userId? login = none := by
  simp only [insertUser_eq_ok, ← BpChar.exists_ofText, userId?_eq_none]
  constructor
  · rintro ⟨t', l, p, hl, hp, hnew, -⟩
    refine ⟨⟨l, hl⟩, ⟨p, hp⟩, fun u hu he => hnew u hu ?_⟩
    exact BpChar.ext (he.trans (BpChar.ofText_eq_some.1 hl).symm)
  · rintro ⟨⟨l, hl⟩, ⟨p, hp⟩, hnew⟩
    refine ⟨_, l, p, hl, hp, fun u hu he => hnew u hu ?_, rfl⟩
    rw [he, BpChar.ofText_eq_some.1 hl]

theorem updatePassword_eq_ok {login password : String} :
    t.updatePassword login password = .ok t' ↔
      ∃ p, BpChar.ofText 70 password = some p ∧ t' = t.setPassword login p := by
  unfold updatePassword
  cases BpChar.ofText 70 password <;> simp [eq_comm]

theorem insertNetwork_eq_ok {name ownerLogin creatorMail protocolName : String}
    {publicity visible participable : Bool} :
    t.insertNetwork name ownerLogin publicity visible participable creatorMail protocolName = .ok t' ↔
      ∃ nm mail proto uid, BpChar.ofText 30 name = some nm ∧ varchar 40 creatorMail = some mail ∧
        varchar 40 protocolName = some proto ∧ t.userId? ownerLogin = some uid ∧
        (∀ n ∈ t.networks, n.name ≠ nm) ∧
        t' = t.pushNetwork fun id => ⟨id, uid, nm, publicity, visible, participable, mail, proto⟩ := by
  unfold insertNetwork
  cases BpChar.ofText 30 name <;> cases varchar 40 creatorMail <;> cases varchar 40 protocolName <;>
    cases t.userId? ownerLogin <;>
    simp only [reduceCtorEq, false_and, and_false, exists_false, Option.some.injEq, exists_and_left,
      exists_eq_left']
  split
  · rename_i h
    simp only [List.any_eq_true, decide_eq_true_eq] at h
    obtain ⟨n, hn, he⟩ := h
    simp only [reduceCtorEq, false_iff]
    exact fun hne => hne.1 n hn he
  · rename_i h
    simp only [List.any_eq_true, decide_eq_true_eq, not_exists, not_and] at h
    exact ⟨fun e => ⟨h, by cases e; rfl⟩, fun e => by rw [e.2]⟩

theorem map_insert_eq_ok {δ : Type} {tbl : LinkTable δ} {uid nid : Option Nat} {d : δ}
    {f : LinkTable δ → Tables} :
    (tbl.insert uid nid d).map f = .ok t' ↔ ∃ u n, uid = some u ∧ nid = some n ∧
      tbl.find? (some u) (some n) = none ∧ t' = f (tbl.push u n d) := by
  cases h : tbl.insert uid nid d with
  | error e =>
    simp only [Except.map, reduceCtorEq, false_iff]
    rintro ⟨u, n, hu, hn, hnew, -⟩
    rw [LinkTable.insert_eq_ok.2 ⟨u, n, hu, hn, hnew, rfl⟩] at h
    cases h
  | ok tbl' =>
    obtain ⟨u, n, hu, hn, hnew, rfl⟩ := LinkTable.insert_eq_ok.1 h
    simp only [Except.map, Except.ok.injEq]
    constructor
    · rintro rfl
      exact ⟨u, n, hu, hn, hnew, rfl⟩
    · rintro ⟨u', n', hu', hn', -, rfl⟩
      rw [hu] at hu'; rw [hn] at hn'
      cases hu'; cases hn'
      rfl

theorem insertInvitation_eq_ok {network login : String} :
    t.insertInvitation network login = .ok t' ↔ ∃ u n, t.userId? login = some u ∧
      t.networkId? network = some n ∧ t.invitations.find? (some u) (some n) = none ∧
      t' = { t with invitations := t.invitations.push u n () } :=
  map_insert_eq_ok

theorem insertKey_eq_ok {login network key : String} :
    t.insertKey login network key = .ok t' ↔ ∃ u n, t.userId? login = some u ∧
      t.networkId? network = some n ∧ t.publicKey.find? (some u) (some n) = none ∧
      t' = { t with publicKey := t.publicKey.push u n key } :=
  map_insert_eq_ok

theorem insertServer_eq_ok {network user : String} {d : ServerData} :
    t.insertServer network user d = .ok t' ↔ ∃ u n, t.userId? user = some u ∧
      t.networkId? network = some n ∧ t.servers.find? (some u) (some n) = none ∧
      t' = { t with servers := t.servers.push u n d } :=
  map_insert_eq_ok

theorem deleteNetwork_cases (t : Tables) (name login : String) :
    (∃ n, t.network? name = some n ∧ some n.ownerId = t.userId? login ∧
      t.deleteNetwork name login = (⟨0, 1⟩, t.deleteNetworkRow n.id)) ∨
      ((∀ n, t.network? name = some n → some n.ownerId ≠ t.userId? login) ∧
        t.deleteNetwork name login = (⟨0, 0⟩, t)) := by
  unfold deleteNetwork
  cases hn : t.network? name with
  | none => right; simp
  | some n =>
    by_cases ho : some n.ownerId = t.userId? login
    · left; exact ⟨n, rfl, ho, by simp [ho]⟩
    · right
      refine ⟨fun m hm => ?_, by simp [ho]⟩
      cases hm
      exact ho

/-! ### The constraints are kept -/

@[simp] theorem setPassword_ids (t : Tables) (login : String) (p : BpChar 70) :
    (t.setPassword login p).users.map (·.id) = t.users.map (·.id) := by
  simp only [setPassword, List.map_map]
  exact List.map_congr_left fun u _ => by simp only [Function.comp]; split <;> rfl

@[simp] theorem setPassword_logins (t : Tables) (login : String) (p : BpChar 70) :
    (t.setPassword login p).users.map (·.login) = t.users.map (·.login) := by
  simp only [setPassword, List.map_map]
  exact List.map_congr_left fun u _ => by simp only [Function.comp]; split <;> rfl

theorem mem_setPassword {t : Tables} {login : String} {p : BpChar 70} {u : UserRow} :
    u ∈ (t.setPassword login p).users ↔ ∃ v ∈ t.users,
      u = if v.login.text = rstrip login then { v with password := p } else v := by
  simp [setPassword, eq_comm]

/-- A users row of the same number is there after a password changes. -/
theorem exists_setPassword (login : String) (p : BpChar 70) {u : UserRow} (hu : u ∈ t.users) :
    ∃ u' ∈ (t.setPassword login p).users, u'.id = u.id :=
  ⟨_, mem_setPassword.2 ⟨u, hu, rfl⟩, by split <;> rfl⟩

/-- A subselect that finds a number finds the number of a row. -/
theorem exists_user_of_userId? {login : String} {uid : Nat} (h : t.userId? login = some uid) :
    ∃ u ∈ t.users, u.id = uid := by
  obtain ⟨u, hu, rfl⟩ := Option.map_eq_some_iff.1 h
  exact ⟨u, List.mem_of_find?_eq_some hu, rfl⟩

theorem exists_network_of_networkId? {name : String} {nid : Nat} (h : t.networkId? name = some nid) :
    ∃ n ∈ t.networks, n.id = nid := by
  obtain ⟨n, hn, rfl⟩ := Option.map_eq_some_iff.1 h
  exact ⟨n, List.mem_of_find?_eq_some hn, rfl⟩

theorem Valid.pushUser (h : t.Valid) {l : BpChar 30} (p : BpChar 70)
    (hnew : ∀ u ∈ t.users, u.login ≠ l) : (t.pushUser l p).Valid := by
  have hids : ∀ u ∈ t.users, u.id ≠ t.usersSeq + 1 := fun u hu e => by
    have := h.usersSeq u hu; omega
  have hmono : ∀ u ∈ t.users, ∃ u' ∈ (t.pushUser l p).users, u'.id = u.id :=
    fun u hu => ⟨u, List.mem_append_left _ hu, rfl⟩
  have hnets : ∀ n ∈ t.networks, ∃ n' ∈ t.networks, n'.id = n.id := fun n hn => ⟨n, hn, rfl⟩
  exact {
    userIds := by simpa [Tables.pushUser, List.nodup_append] using ⟨h.userIds, hids⟩
    logins := by simpa [Tables.pushUser, List.nodup_append] using ⟨h.logins, hnew⟩
    usersSeq := by
      intro u hu
      rcases List.mem_append.1 hu with hu | hu
      · exact (h.usersSeq u hu).trans (Nat.le_succ _)
      · rw [List.mem_singleton.1 hu]; exact le_refl _
    networkIds := h.networkIds
    names := h.names
    networksSeq := h.networksSeq
    owner := fun n hn => by
      obtain ⟨u, hu, hid⟩ := h.owner n hn
      exact ⟨u, List.mem_append_left _ hu, hid⟩
    servers := h.servers.mono hmono hnets
    invitations := h.invitations.mono hmono hnets
    publicKey := h.publicKey.mono hmono hnets }

theorem Valid.insertUser (h : t.Valid) {login password : String}
    (hok : t.insertUser login password = .ok t') : t'.Valid := by
  obtain ⟨l, p, -, -, hnew, rfl⟩ := insertUser_eq_ok.1 hok
  exact h.pushUser p hnew

theorem Valid.deleteUser (h : t.Valid) (login : String) : (t.deleteUser login).Valid := by
  unfold Tables.deleteUser
  split
  · exact h.deleteUserRow _
  · exact h

theorem Valid.setPassword (h : t.Valid) (login : String) (p : BpChar 70) :
    (t.setPassword login p).Valid := by
  have hmono : ∀ u ∈ t.users, ∃ u' ∈ (t.setPassword login p).users, u'.id = u.id :=
    fun u hu => exists_setPassword login p hu
  have hnets : ∀ n ∈ t.networks, ∃ n' ∈ t.networks, n'.id = n.id := fun n hn => ⟨n, hn, rfl⟩
  exact {
    userIds := by rw [setPassword_ids]; exact h.userIds
    logins := by rw [setPassword_logins]; exact h.logins
    usersSeq := by
      intro u hu
      obtain ⟨v, hv, rfl⟩ := mem_setPassword.1 hu
      have := h.usersSeq v hv
      split <;> exact this
    networkIds := h.networkIds
    names := h.names
    networksSeq := h.networksSeq
    owner := fun n hn => by
      obtain ⟨u, hu, he⟩ := h.owner n hn
      obtain ⟨u', hu', he'⟩ := exists_setPassword login p hu
      exact ⟨u', hu', he'.trans he⟩
    servers := h.servers.mono hmono hnets
    invitations := h.invitations.mono hmono hnets
    publicKey := h.publicKey.mono hmono hnets }

theorem Valid.updatePassword (h : t.Valid) {login password : String}
    (hok : t.updatePassword login password = .ok t') : t'.Valid := by
  obtain ⟨p, -, rfl⟩ := updatePassword_eq_ok.1 hok
  exact h.setPassword login p

theorem Valid.pushNetwork (h : t.Valid) {row : Nat → NetworkRow} (hid : ∀ k, (row k).id = k)
    (howner : ∀ k, ∃ u ∈ t.users, u.id = (row k).ownerId)
    (hnew : ∀ k, ∀ n ∈ t.networks, n.name ≠ (row k).name) : (t.pushNetwork row).Valid := by
  have hids : ∀ n ∈ t.networks, n.id ≠ (row (t.networksSeq + 1)).id := fun n hn e => by
    have := h.networksSeq n hn
    rw [hid] at e
    omega
  have husers : ∀ u ∈ t.users, ∃ u' ∈ t.users, u'.id = u.id := fun u hu => ⟨u, hu, rfl⟩
  have hmono : ∀ n ∈ t.networks, ∃ n' ∈ (t.pushNetwork row).networks, n'.id = n.id :=
    fun n hn => ⟨n, List.mem_append_left _ hn, rfl⟩
  exact {
    userIds := h.userIds
    logins := h.logins
    usersSeq := h.usersSeq
    networkIds := by simpa [Tables.pushNetwork, List.nodup_append] using ⟨h.networkIds, hids⟩
    names := by simpa [Tables.pushNetwork, List.nodup_append] using ⟨h.names, hnew _⟩
    networksSeq := by
      intro n hn
      rcases List.mem_append.1 hn with hn | hn
      · exact (h.networksSeq n hn).trans (Nat.le_succ _)
      · rw [List.mem_singleton.1 hn, hid]; exact le_refl _
    owner := by
      intro n hn
      rcases List.mem_append.1 hn with hn | hn
      · exact h.owner n hn
      · rw [List.mem_singleton.1 hn]; exact howner _
    servers := h.servers.mono husers hmono
    invitations := h.invitations.mono husers hmono
    publicKey := h.publicKey.mono husers hmono }

theorem Valid.insertNetwork (h : t.Valid) {name ownerLogin creatorMail protocolName : String}
    {publicity visible participable : Bool}
    (hok : t.insertNetwork name ownerLogin publicity visible participable creatorMail protocolName =
      .ok t') : t'.Valid := by
  obtain ⟨nm, mail, proto, uid, -, -, -, huid, hnew, rfl⟩ := insertNetwork_eq_ok.1 hok
  exact h.pushNetwork (fun _ => rfl) (fun _ => exists_user_of_userId? huid) fun _ => hnew

theorem Valid.deleteNetwork (h : t.Valid) (name login : String) : (t.deleteNetwork name login).2.Valid := by
  rcases deleteNetwork_cases t name login with ⟨n, -, -, he⟩ | ⟨-, he⟩ <;> rw [he]
  · exact h.deleteNetworkRow n.id
  · exact h

theorem Valid.insertInvitation (h : t.Valid) {network login : String}
    (hok : t.insertInvitation network login = .ok t') : t'.Valid := by
  obtain ⟨u, n, hu, hn, hnew, rfl⟩ := insertInvitation_eq_ok.1 hok
  exact { h with
    invitations := h.invitations.push () (exists_user_of_userId? hu)
      (exists_network_of_networkId? hn) hnew }

theorem Valid.insertKey (h : t.Valid) {login network key : String}
    (hok : t.insertKey login network key = .ok t') : t'.Valid := by
  obtain ⟨u, n, hu, hn, hnew, rfl⟩ := insertKey_eq_ok.1 hok
  exact { h with
    publicKey := h.publicKey.push key (exists_user_of_userId? hu)
      (exists_network_of_networkId? hn) hnew }

theorem Valid.insertServer (h : t.Valid) {network user : String} {d : ServerData}
    (hok : t.insertServer network user d = .ok t') : t'.Valid := by
  obtain ⟨u, n, hu, hn, hnew, rfl⟩ := insertServer_eq_ok.1 hok
  exact { h with
    servers := h.servers.push d (exists_user_of_userId? hu) (exists_network_of_networkId? hn) hnew }

theorem Valid.deleteServer (h : t.Valid) (network user : String) :
    (t.deleteServer network user).2.Valid :=
  { h with
    servers := h.servers.drop (fun u n => some u = t.userId? user && some n = t.networkId? network)
      (fun u hu _ _ => ⟨u, hu, rfl⟩) (fun n hn _ _ => ⟨n, hn, rfl⟩) }

end Tables

namespace PsqlConnector
variable {t : Tables}

/-- A transaction commits the statement's tables and answers `OK`, or keeps the tables. -/
theorem work_cases (fault : Bool) {onUnique : DBResponse} (hne : onUnique ≠ .ok) (t : Tables)
    (x : Except SqlError Tables) :
    (∃ t', fault = false ∧ x = .ok t' ∧ work fault onUnique t x = (.ok, t')) ∨
      ((fault = true ∨ ∀ t', x ≠ .ok t') ∧ (work fault onUnique t x).1 ≠ .ok ∧
        (work fault onUnique t x).2 = t) := by
  unfold work
  cases fault with
  | true => right; simp
  | false =>
    match x with
    | .ok t' => left; exact ⟨t', rfl, rfl, rfl⟩
    | .error .uniqueViolation => right; simpa using hne
    | .error .failure => right; simp

theorem removeUser_snd (fault : Bool) (login : String) (t : Tables) :
    (removeUser fault login t).2 = if fault then t else t.deleteUser login := by
  cases fault <;> rfl

/-- Neither statement of a CREATE_NETWORK is about the accounts. -/
theorem users_createInvitation {t t' : Tables} {name ownerLogin creatorMail protocolName : String}
    {publicity visible participable : Bool}
    (h : t.insertNetwork name ownerLogin publicity visible participable creatorMail protocolName =
      .ok t') (fault : Bool) (login networkName : String) :
    (createInvitation fault login networkName t').2.users = t.users := by
  obtain ⟨nm, mail, proto, uid, -, -, -, -, -, rfl⟩ := Tables.insertNetwork_eq_ok.1 h
  rcases work_cases fault (by decide : DBResponse.notUnique ≠ .ok) _
    (Tables.insertInvitation _ networkName login) with ⟨t'', -, hx, hw⟩ | ⟨-, -, hw⟩
  · rw [createInvitation, hw]
    obtain ⟨_, _, -, -, -, rfl⟩ := Tables.insertInvitation_eq_ok.1 hx
    rfl
  · rw [createInvitation, hw]
    rfl

theorem valid_work (h : t.Valid) {fault : Bool} {onUnique : DBResponse} (hne : onUnique ≠ .ok)
    {x : Except SqlError Tables} (hx : ∀ t', x = .ok t' → t'.Valid) :
    (work fault onUnique t x).2.Valid := by
  rcases work_cases fault hne t x with ⟨t', -, he, hw⟩ | ⟨-, -, hw⟩
  · rw [hw]; exact hx t' he
  · rw [hw]; exact h

/-- The method inserts the row, or keeps the tables. -/
theorem updateServer_cases (fault : Bool) (network user ip : String) (port ttl : Int) (t : Tables) :
    (∃ d t', t.insertServer network user d = .ok t' ∧
      updateServer fault network user ip port ttl t = (.ok, t')) ∨
      (updateServer fault network user ip port ttl t).2 = t := by
  unfold updateServer
  split
  · right; rfl
  · rename_i addr _
    split
    · right; rfl
    · split
      · right; rfl
      · rcases work_cases false (by decide : DBResponse.notFound ≠ .ok) t
          (t.insertServer network user ⟨addr, port, ttl⟩) with ⟨t', -, hx, hw⟩ | ⟨-, -, hw⟩
        · left; exact ⟨_, t', hx, hw⟩
        · right; exact hw

theorem valid_updateServer (h : t.Valid) (fault : Bool) (network user ip : String) (port ttl : Int) :
    (updateServer fault network user ip port ttl t).2.Valid := by
  rcases updateServer_cases fault network user ip port ttl t with ⟨d, t', hx, he⟩ | he <;> rw [he]
  · exact h.insertServer hx
  · exact h

/-- The method answers `OK` when it deletes the caller's network, and keeps the tables otherwise. -/
theorem deleteNetwork_cases (fault : Bool) (login name : String) (t : Tables) :
    (∃ n, fault = false ∧ t.network? name = some n ∧ some n.ownerId = t.userId? login ∧
      deleteNetwork fault login name t = (.ok, t.deleteNetworkRow n.id)) ∨
      ((deleteNetwork fault login name t).1 ≠ .ok ∧ (deleteNetwork fault login name t).2 = t) := by
  unfold deleteNetwork
  cases fault with
  | true => right; simp
  | false =>
    rcases t.deleteNetwork_cases name login with ⟨n, hn, ho, he⟩ | ⟨-, he⟩
    · left; exact ⟨n, rfl, hn, ho, by simp [he]⟩
    · right; simp [he]

theorem valid_deleteNetwork (h : t.Valid) (fault : Bool) (login name : String) :
    (deleteNetwork fault login name t).2.Valid := by
  rcases deleteNetwork_cases fault login name t with ⟨n, -, -, -, he⟩ | ⟨-, he⟩ <;> rw [he]
  · exact h.deleteNetworkRow n.id
  · exact h

theorem valid_deleteServer (h : t.Valid) (fault : Bool) (network user : String) :
    (deleteServer fault network user t).2.Valid := by
  unfold deleteServer
  split
  · exact h
  · exact h.deleteServer network user

end PsqlConnector
end Sp2p.Tracker
