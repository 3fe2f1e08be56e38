import Mathlib.Data.List.Nodup
import Sp2p.Tracker.Sql

/-!
# The database

The five tables of `db_init.sql` and their constraints. `servers`, `invitations` and `publicKey`
have one shape: a user, a network, a payload, `unique(user_id, network_id)`, and both references
`ON DELETE CASCADE`; `LinkTable` is that shape. `Tables.Valid` collects the constraints, and a
`Database` is tables that satisfy them, so a state PostgreSQL would refuse cannot be built.

A statement that fails leaves the database as it was. The number it may have drawn from the sequence
is not lost here: identifiers are only compared with each other.
-/

namespace Sp2p.Tracker

/-- Why a statement is refused: `pqxx::unique_violation`, or any other `pqxx::failure` (a text too
long for its column, a null in a `not null` column, the server or the connection failing). -/
inductive SqlError
  | uniqueViolation | failure
  deriving DecidableEq, Repr

structure UserRow where
  id : Nat
  login : BpChar 30
  password : BpChar 70
  deriving DecidableEq

structure NetworkRow where
  id : Nat
  ownerId : Nat
  name : BpChar 30
  publicity : Bool
  visible : Bool
  participable : Bool
  creatorEmail : String
  protocolName : String
  deriving DecidableEq

/-- A row tying a user to a network. -/
structure LinkRow (δ : Type) where
  id : Nat
  userId : Nat
  networkId : Nat
  data : δ
  deriving DecidableEq

structure LinkTable (δ : Type) where
  rows : List (LinkRow δ) := []
  seq : Nat := 0
  deriving DecidableEq

structure ServerData where
  ip : BpChar 20
  port : Int
  ttl : Int
  deriving DecidableEq

@[ext] structure Tables where
  users : List UserRow := []
  usersSeq : Nat := 0
  networks : List NetworkRow := []
  networksSeq : Nat := 0
  servers : LinkTable ServerData := {}
  invitations : LinkTable Unit := {}
  publicKey : LinkTable String := {}
  deriving DecidableEq

/-! ### Tables of links -/

namespace LinkTable
variable {δ : Type}

/-- The row of a user and a network, if either is known and there is one. -/
def find? (tbl : LinkTable δ) (uid nid : Option Nat) : Option (LinkRow δ) :=
  tbl.rows.find? fun r => some r.userId = uid && some r.networkId = nid

/-- Delete the rows whose user and network are such. -/
def drop (gone : Nat → Nat → Bool) (tbl : LinkTable δ) : LinkTable δ :=
  { tbl with rows := tbl.rows.filter fun r => !gone r.userId r.networkId }

/-- The row of the next number in the sequence. -/
def push (tbl : LinkTable δ) (uid nid : Nat) (d : δ) : LinkTable δ :=
  { rows := tbl.rows ++ [⟨tbl.seq + 1, uid, nid, d⟩], seq := tbl.seq + 1 }

/-- `INSERT` with the user and the network looked up by subselects: null when there is none. -/
def insert (tbl : LinkTable δ) (uid nid : Option Nat) (d : δ) : Except SqlError (LinkTable δ) :=
  match uid, nid with
  | some u, some n =>
    if (tbl.find? (some u) (some n)).isSome then .error .uniqueViolation else .ok (tbl.push u n d)
  | _, _ => .error .failure

theorem mem_drop {gone : Nat → Nat → Bool} {tbl : LinkTable δ} {r : LinkRow δ} :
    r ∈ (tbl.drop gone).rows ↔ r ∈ tbl.rows ∧ gone r.userId r.networkId = false := by
  simp [drop]

/-- A row is found after rows went exactly when it is not among them. -/
theorem find?_drop_some (gone : Nat → Nat → Bool) (tbl : LinkTable δ) (u n : Nat) :
    (tbl.drop gone).find? (some u) (some n) =
      if gone u n then none else tbl.find? (some u) (some n) := by
  unfold find? drop
  rw [List.find?_filter]
  cases hgone : gone u n with
  | true =>
    rw [if_pos rfl, List.find?_eq_none]
    intro r _
    by_cases hr : r.userId = u ∧ r.networkId = n
    · simp [hr.1, hr.2, hgone]
    · rw [not_and_or] at hr
      rcases hr with hr | hr <;> simp [hr]
  | false =>
    rw [if_neg (by simp)]
    congr 1
    funext r
    by_cases hr : r.userId = u ∧ r.networkId = n
    · simp [hr.1, hr.2, hgone]
    · rw [not_and_or] at hr
      rcases hr with hr | hr <;> simp [hr]

/-- A row that is there is still found after another is pushed. -/
theorem find?_push_of_some {tbl : LinkTable δ} {uid nid : Option Nat} {row : LinkRow δ}
    (h : tbl.find? uid nid = some row) (u n : Nat) (d : δ) :
    (tbl.push u n d).find? uid nid = some row := by
  unfold find? at h ⊢
  rw [push, List.find?_append, h]
  rfl

theorem mem_push {tbl : LinkTable δ} {u n : Nat} {d : δ} {r : LinkRow δ} :
    r ∈ (tbl.push u n d).rows ↔ r ∈ tbl.rows ∨ r = ⟨tbl.seq + 1, u, n, d⟩ := by
  simp [push]

theorem find?_isSome {tbl : LinkTable δ} {uid nid : Option Nat} :
    (tbl.find? uid nid).isSome ↔
      ∃ r ∈ tbl.rows, some r.userId = uid ∧ some r.networkId = nid := by
  simp [find?]

theorem find?_push {tbl : LinkTable δ} {u n : Nat} {d : δ}
    (h : tbl.find? (some u) (some n) = none) :
    (tbl.push u n d).find? (some u) (some n) = some ⟨tbl.seq + 1, u, n, d⟩ := by
  unfold find? at h ⊢
  rw [push, List.find?_append, h]
  simp

theorem insert_eq_ok {tbl tbl' : LinkTable δ} {uid nid : Option Nat} {d : δ} :
    tbl.insert uid nid d = .ok tbl' ↔ ∃ u n, uid = some u ∧ nid = some n ∧
      tbl.find? (some u) (some n) = none ∧ tbl' = tbl.push u n d := by
  unfold insert
  split
  · rename_i u n
    split
    · rename_i h
      simp only [reduceCtorEq, false_iff, not_exists]
      rintro u' n' ⟨hu, hn, h0, -⟩
      cases hu; cases hn
      rw [h0] at h
      exact absurd h (by simp)
    · rename_i h
      rw [Option.not_isSome_iff_eq_none] at h
      constructor
      · rintro ⟨rfl⟩
        exact ⟨u, n, rfl, rfl, h, rfl⟩
      · rintro ⟨u', n', hu, hn, -, rfl⟩
        cases hu; cases hn
        rfl
  · rename_i hne
    simp only [reduceCtorEq, false_iff, not_exists]
    rintro u n ⟨rfl, rfl, -⟩
    exact hne u n rfl rfl

/-- What the schema demands of a table of links, given the tables it refers to. -/
structure Valid (tbl : LinkTable δ) (users : List UserRow) (networks : List NetworkRow) : Prop where
  pairs : (tbl.rows.map fun r => (r.userId, r.networkId)).Nodup
  seq : ∀ r ∈ tbl.rows, r.id ≤ tbl.seq
  user : ∀ r ∈ tbl.rows, ∃ u ∈ users, u.id = r.userId
  network : ∀ r ∈ tbl.rows, ∃ n ∈ networks, n.id = r.networkId

variable {users users' : List UserRow} {networks networks' : List NetworkRow} {tbl : LinkTable δ}

/-- A valid table stays valid when rows go, if the users and networks of those that stay do too. -/
theorem Valid.drop (h : tbl.Valid users networks) (gone : Nat → Nat → Bool)
    (hu : ∀ u ∈ users, ∀ n, gone u.id n = false → ∃ u' ∈ users', u'.id = u.id)
    (hn : ∀ n ∈ networks, ∀ u, gone u n.id = false → ∃ n' ∈ networks', n'.id = n.id) :
    (tbl.drop gone).Valid users' networks' where
  pairs := h.pairs.sublist (List.filter_sublist.map _)
  seq r hr := h.seq r (mem_drop.1 hr).1
  user r hr := by
    obtain ⟨hr, hg⟩ := mem_drop.1 hr
    obtain ⟨u, hmem, hid⟩ := h.user r hr
    obtain ⟨u', hmem', hid'⟩ := hu u hmem r.networkId (hid ▸ hg)
    exact ⟨u', hmem', hid'.trans hid⟩
  network r hr := by
    obtain ⟨hr, hg⟩ := mem_drop.1 hr
    obtain ⟨n, hmem, hid⟩ := h.network r hr
    obtain ⟨n', hmem', hid'⟩ := hn n hmem r.userId (hid ▸ hg)
    exact ⟨n', hmem', hid'.trans hid⟩

/-- More users and networks never hurt. -/
theorem Valid.mono (h : tbl.Valid users networks)
    (hu : ∀ u ∈ users, ∃ u' ∈ users', u'.id = u.id)
    (hn : ∀ n ∈ networks, ∃ n' ∈ networks', n'.id = n.id) : tbl.Valid users' networks' where
  pairs := h.pairs
  seq := h.seq
  user r hr := by
    obtain ⟨u, hmem, hid⟩ := h.user r hr
    obtain ⟨u', hmem', hid'⟩ := hu u hmem
    exact ⟨u', hmem', hid'.trans hid⟩
  network r hr := by
    obtain ⟨n, hmem, hid⟩ := h.network r hr
    obtain ⟨n', hmem', hid'⟩ := hn n hmem
    exact ⟨n', hmem', hid'.trans hid⟩

theorem Valid.push (h : tbl.Valid users networks) {u n : Nat} (d : δ)
    (hu : ∃ r ∈ users, r.id = u) (hn : ∃ r ∈ networks, r.id = n)
    (hnew : tbl.find? (some u) (some n) = none) : (tbl.push u n d).Valid users networks where
  pairs := by
    have hmiss : (u, n) ∉ tbl.rows.map fun r => (r.userId, r.networkId) := by
      simp only [List.mem_map, Prod.mk.injEq, not_exists, not_and]
      intro r hr hu' hn'
      have : (tbl.find? (some u) (some n)).isSome :=
        find?_isSome.2 ⟨r, hr, by rw [hu'], by rw [hn']⟩
      simp [hnew] at this
    simpa [LinkTable.push, List.nodup_append] using ⟨h.pairs, fun a ha hau han =>
      hmiss (List.mem_map.2 ⟨a, ha, by rw [hau, han]⟩)⟩
  seq r hr := by
    rcases mem_push.1 hr with hr | rfl
    · exact (h.seq r hr).trans (Nat.le_succ _)
    · exact le_refl _
  user r hr := by
    rcases mem_push.1 hr with hr | rfl
    · exact h.user r hr
    · exact hu
  network r hr := by
    rcases mem_push.1 hr with hr | rfl
    · exact h.network r hr
    · exact hn

end LinkTable

/-! ### Subselects and cascades -/

namespace Tables

/-- `(SELECT id FROM users WHERE login=$1)`; `char` comparison ignores trailing blanks. -/
def userId? (t : Tables) (login : String) : Option Nat :=
  (t.users.find? fun u => u.login.text = rstrip login).map (·.id)

/-- The network of a name. -/
def network? (t : Tables) (name : String) : Option NetworkRow :=
  t.networks.find? fun n => n.name.text = rstrip name

/-- `(SELECT id FROM networks WHERE name=$1)`. -/
def networkId? (t : Tables) (name : String) : Option Nat := (t.network? name).map (·.id)

/-- The user owns a network of this number. -/
def owns (t : Tables) (uid nid : Nat) : Bool :=
  t.networks.any fun n => n.id = nid && n.ownerId = uid

def dropLinks (gone : Nat → Nat → Bool) (t : Tables) : Tables :=
  { t with
    servers := t.servers.drop gone
    invitations := t.invitations.drop gone
    publicKey := t.publicKey.drop gone }

/-- `DELETE` of a users row: its networks go, and every row of the user or of these networks. -/
def deleteUserRow (t : Tables) (uid : Nat) : Tables :=
  { t.dropLinks fun u n => u = uid || t.owns uid n with
    users := t.users.filter (·.id ≠ uid)
    networks := t.networks.filter (·.ownerId ≠ uid) }

/-- `DELETE` of a networks row and of every row of that network. -/
def deleteNetworkRow (t : Tables) (nid : Nat) : Tables :=
  { t.dropLinks fun _ n => n = nid with networks := t.networks.filter (·.id ≠ nid) }

/-- The constraints of `db_init.sql`, and sequences that are ahead of the rows. -/
structure Valid (t : Tables) : Prop where
  userIds : (t.users.map (·.id)).Nodup
  logins : (t.users.map (·.login)).Nodup
  usersSeq : ∀ u ∈ t.users, u.id ≤ t.usersSeq
  networkIds : (t.networks.map (·.id)).Nodup
  names : (t.networks.map (·.name)).Nodup
  networksSeq : ∀ n ∈ t.networks, n.id ≤ t.networksSeq
  owner : ∀ n ∈ t.networks, ∃ u ∈ t.users, u.id = n.ownerId
  servers : t.servers.Valid t.users t.networks
  invitations : t.invitations.Valid t.users t.networks
  publicKey : t.publicKey.Valid t.users t.networks

variable {t : Tables}

theorem userId?_eq_some (h : t.Valid) {login : String} {uid : Nat} :
    t.userId? login = some uid ↔ ∃ u ∈ t.users, u.login.text = rstrip login ∧ u.id = uid := by
  unfold userId?
  constructor
  · intro he
    obtain ⟨u, hu, rfl⟩ := Option.map_eq_some_iff.1 he
    exact ⟨u, List.mem_of_find?_eq_some hu, by simpa using List.find?_some hu, rfl⟩
  · rintro ⟨u, hu, hlogin, rfl⟩
    obtain ⟨v, hv⟩ := Option.isSome_iff_exists.1
      (List.find?_isSome.2 ⟨u, hu, by simpa using hlogin⟩ :
        (t.users.find? fun u => u.login.text = rstrip login).isSome)
    have hvl : v.login.text = rstrip login := by simpa using List.find?_some hv
    have : v = u := List.inj_on_of_nodup_map h.logins (List.mem_of_find?_eq_some hv) hu
      (BpChar.ext (hvl.trans hlogin.symm))
    simp [hv, this]

theorem userId?_eq_none {login : String} :
    t.userId? login = none ↔ ∀ u ∈ t.users, u.login.text ≠ rstrip login := by
  simp [userId?]

/-- A name keeps its number when its row stays, up to the password. -/
theorem userId?_mono {t' : Tables} (h : t.Valid) (h' : t'.Valid) {login : String} {uid : Nat}
    (hkeep : ∀ u ∈ t.users, u.login.text = rstrip login →
      ∃ u' ∈ t'.users, u'.login = u.login ∧ u'.id = u.id) (huid : t.userId? login = some uid) :
    t'.userId? login = some uid := by
  obtain ⟨u, hu, hlogin, rfl⟩ := (userId?_eq_some h).1 huid
  obtain ⟨u', hu', hl, hid⟩ := hkeep u hu hlogin
  exact (userId?_eq_some h').2 ⟨u', hu', by rw [hl, hlogin], hid⟩

theorem network?_eq_some (h : t.Valid) {name : String} {n : NetworkRow} :
    t.network? name = some n ↔ n ∈ t.networks ∧ n.name.text = rstrip name := by
  unfold network?
  constructor
  · intro he
    exact ⟨List.mem_of_find?_eq_some he, by simpa using List.find?_some he⟩
  · rintro ⟨hn, hname⟩
    obtain ⟨v, hv⟩ := Option.isSome_iff_exists.1
      (List.find?_isSome.2 ⟨n, hn, by simpa using hname⟩ :
        (t.networks.find? fun n => n.name.text = rstrip name).isSome)
    have hvn : v.name.text = rstrip name := by simpa using List.find?_some hv
    have : v = n := List.inj_on_of_nodup_map h.names (List.mem_of_find?_eq_some hv) hn
      (BpChar.ext (hvn.trans hname.symm))
    rw [hv, this]

theorem networkId?_eq_some (h : t.Valid) {name : String} {nid : Nat} :
    t.networkId? name = some nid ↔ ∃ n ∈ t.networks, n.name.text = rstrip name ∧ n.id = nid := by
  simp only [networkId?, Option.map_eq_some_iff, network?_eq_some h, and_assoc]

theorem owns_iff {uid nid : Nat} :
    t.owns uid nid = true ↔ ∃ n ∈ t.networks, n.id = nid ∧ n.ownerId = uid := by
  simp [owns]

/-! ### The constraints are kept -/

theorem Valid.deleteUserRow (h : t.Valid) (uid : Nat) : (t.deleteUserRow uid).Valid := by
  have hu : ∀ u ∈ t.users, ∀ n, (decide (u.id = uid) || t.owns uid n) = false →
      ∃ u' ∈ t.users.filter (·.id ≠ uid), u'.id = u.id := by
    intro u hu n hg
    simp only [Bool.or_eq_false_iff, decide_eq_false_iff_not] at hg
    exact ⟨u, List.mem_filter.2 ⟨hu, by simpa using hg.1⟩, rfl⟩
  have hn : ∀ n ∈ t.networks, ∀ u, (decide (u = uid) || t.owns uid n.id) = false →
      ∃ n' ∈ t.networks.filter (·.ownerId ≠ uid), n'.id = n.id := by
    intro n hn u hg
    simp only [Bool.or_eq_false_iff] at hg
    refine ⟨n, List.mem_filter.2 ⟨hn, ?_⟩, rfl⟩
    simp only [decide_eq_true_eq]
    intro ho
    rw [owns_iff.2 ⟨n, hn, rfl, ho⟩] at hg
    exact absurd hg.2 (by simp)
  exact {
    userIds := h.userIds.sublist (List.filter_sublist.map _)
    logins := h.logins.sublist (List.filter_sublist.map _)
    usersSeq := fun u hu => h.usersSeq u (List.mem_filter.1 hu).1
    networkIds := h.networkIds.sublist (List.filter_sublist.map _)
    names := h.names.sublist (List.filter_sublist.map _)
    networksSeq := fun n hn => h.networksSeq n (List.mem_filter.1 hn).1
    owner := fun n hn => by
      obtain ⟨hn, ho⟩ := List.mem_filter.1 hn
      obtain ⟨u, hu, hid⟩ := h.owner n hn
      exact ⟨u, List.mem_filter.2 ⟨hu, by simpa [hid] using ho⟩, hid⟩
    servers := h.servers.drop (fun u n => u = uid || t.owns uid n) hu hn
    invitations := h.invitations.drop (fun u n => u = uid || t.owns uid n) hu hn
    publicKey := h.publicKey.drop (fun u n => u = uid || t.owns uid n) hu hn }

theorem Valid.deleteNetworkRow (h : t.Valid) (nid : Nat) : (t.deleteNetworkRow nid).Valid := by
  have hu : ∀ u ∈ t.users, ∀ n, decide (n = nid) = false → ∃ u' ∈ t.users, u'.id = u.id :=
    fun u hu _ _ => ⟨u, hu, rfl⟩
  have hn : ∀ n ∈ t.networks, ∀ _ : Nat, decide (n.id = nid) = false →
      ∃ n' ∈ t.networks.filter (·.id ≠ nid), n'.id = n.id :=
    fun n hn _ hg => ⟨n, List.mem_filter.2 ⟨hn, by simpa using hg⟩, rfl⟩
  exact {
    userIds := h.userIds
    logins := h.logins
    usersSeq := h.usersSeq
    networkIds := h.networkIds.sublist (List.filter_sublist.map _)
    names := h.names.sublist (List.filter_sublist.map _)
    networksSeq := fun n hn => h.networksSeq n (List.mem_filter.1 hn).1
    owner := fun n hn => h.owner n (List.mem_filter.1 hn).1
    servers := h.servers.drop (fun _ n => n = nid) hu hn
    invitations := h.invitations.drop (fun _ n => n = nid) hu hn
    publicKey := h.publicKey.drop (fun _ n => n = nid) hu hn }

end Tables

/-- The state of the database: tables that keep the schema's constraints. -/
@[ext] structure Database where
  tables : Tables
  valid : tables.Valid

/-- The database as `db_init.sql` leaves it. -/
def Database.empty : Database where
  tables := {}
  valid := by
    have hlinks : ∀ δ, (({} : LinkTable δ)).Valid [] [] := fun δ => by constructor <;> simp
    exact ⟨by simp, by simp, by simp, by simp, by simp, by simp, by simp, hlinks _, hlinks _, hlinks _⟩

end Sp2p.Tracker
