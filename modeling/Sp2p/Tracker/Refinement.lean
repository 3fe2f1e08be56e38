import Mathlib.Data.List.Find
import Sp2p.Lib.Pool
import Sp2p.Tracker.Outcome
import Sp2p.Tracker.Registry

/-!
# The tables refine the registry

`Tables.registry` reads the names off the tables: every reference is replaced by the name of what it
refers to. Statement by statement the tables do what the registry does (`registry_…`), call by call the
tracker answers as the directory (`exec_refines`), and so it does however the handlers of any number of
requests are interleaved.
-/

namespace Sp2p.Tracker

open Interleaving Runs Protocol

namespace Tables

/-! ### Reading the names -/

/-- The login of a user. There is one for every number that is referred to. -/
def loginOfId (t : Tables) (uid : Nat) : BpChar 30 :=
  ((t.users.find? fun u => u.id = uid).map (·.login)).getD ⟨"", by decide, by decide⟩

/-- The name of a network. -/
def nameOfId (t : Tables) (nid : Nat) : BpChar 30 :=
  ((t.networks.find? fun n => n.id = nid).map (·.name)).getD ⟨"", by decide, by decide⟩

def account (u : UserRow) : Account := ⟨u.login, u.password⟩

def networkEntry (t : Tables) (n : NetworkRow) : NetworkEntry where
  name := n.name
  owner := t.loginOfId n.ownerId
  publicity := n.publicity
  visible := n.visible
  participable := n.participable
  creatorEmail := n.creatorEmail
  protocolName := n.protocolName

def entry {δ : Type} (t : Tables) (r : LinkRow δ) : Entry δ :=
  ⟨t.loginOfId r.userId, t.nameOfId r.networkId, r.data⟩

def registry (t : Tables) : Registry where
  accounts := t.users.map account
  networks := t.networks.map t.networkEntry
  servers := t.servers.rows.map t.entry
  invitations := t.invitations.rows.map t.entry
  publicKey := t.publicKey.rows.map t.entry

variable {t t' : Tables} {δ : Type}

theorem loginOfId_eq (h : t.Valid) {u : UserRow} (hu : u ∈ t.users) : t.loginOfId u.id = u.login := by
  have hfind : t.users.find? (fun v => v.id = u.id) = some u := by
    obtain ⟨v, hv⟩ := Option.isSome_iff_exists.1
      (List.find?_isSome.2 ⟨u, hu, by simp⟩ : (t.users.find? fun v => v.id = u.id).isSome)
    have hid : v.id = u.id := by simpa using List.find?_some hv
    rw [hv, List.inj_on_of_nodup_map h.userIds (List.mem_of_find?_eq_some hv) hu hid]
  rw [loginOfId, hfind]
  rfl

theorem nameOfId_eq (h : t.Valid) {n : NetworkRow} (hn : n ∈ t.networks) : t.nameOfId n.id = n.name := by
  have hfind : t.networks.find? (fun v => v.id = n.id) = some n := by
    obtain ⟨v, hv⟩ := Option.isSome_iff_exists.1
      (List.find?_isSome.2 ⟨n, hn, by simp⟩ : (t.networks.find? fun v => v.id = n.id).isSome)
    have hid : v.id = n.id := by simpa using List.find?_some hv
    rw [hv, List.inj_on_of_nodup_map h.networkIds (List.mem_of_find?_eq_some hv) hn hid]
  rw [nameOfId, hfind]
  rfl

/-- A number is that of a login exactly when its login is that login. -/
theorem loginOfId_iff (h : t.Valid) {uid : Nat} (huid : ∃ u ∈ t.users, u.id = uid) (login : String) :
    (t.loginOfId uid).text = rstrip login ↔ some uid = t.userId? login := by
  obtain ⟨u, hu, rfl⟩ := huid
  rw [loginOfId_eq h hu, eq_comm (a := some u.id), userId?_eq_some h]
  constructor
  · intro hlogin
    exact ⟨u, hu, hlogin, rfl⟩
  · rintro ⟨v, hv, hlogin, hid⟩
    rwa [List.inj_on_of_nodup_map h.userIds hv hu hid] at hlogin

theorem nameOfId_iff (h : t.Valid) {nid : Nat} (hnid : ∃ n ∈ t.networks, n.id = nid) (name : String) :
    (t.nameOfId nid).text = rstrip name ↔ some nid = t.networkId? name := by
  obtain ⟨n, hn, rfl⟩ := hnid
  rw [nameOfId_eq h hn, eq_comm (a := some n.id), networkId?_eq_some h]
  constructor
  · intro hname
    exact ⟨n, hn, hname, rfl⟩
  · rintro ⟨v, hv, hname, hid⟩
    rwa [List.inj_on_of_nodup_map h.networkIds hv hn hid] at hname

/-- Networks have one name only if they are one. -/
theorem nameOfId_inj (h : t.Valid) {nid nid' : Nat} (hnid : ∃ n ∈ t.networks, n.id = nid)
    (hnid' : ∃ n ∈ t.networks, n.id = nid') : t.nameOfId nid = t.nameOfId nid' ↔ nid = nid' := by
  obtain ⟨n, hn, rfl⟩ := hnid
  obtain ⟨n', hn', rfl⟩ := hnid'
  rw [nameOfId_eq h hn, nameOfId_eq h hn']
  exact ⟨fun hname => congrArg _ (List.inj_on_of_nodup_map h.names hn hn' hname), fun hid => by
    rw [List.inj_on_of_nodup_map h.networkIds hn hn' hid]⟩

/-! ### Lookups -/

theorem account?_registry (login : String) :
    t.registry.account? login = (t.users.find? fun u => u.login.text = rstrip login).map account := by
  rw [Registry.account?, registry, List.find?_map]
  rfl

theorem network?_registry (name : String) :
    t.registry.network? name = (t.network? name).map t.networkEntry := by
  rw [Registry.network?, registry, List.find?_map]
  rfl

theorem isSome_account? (login : String) :
    (t.registry.account? login).isSome = (t.userId? login).isSome := by
  rw [account?_registry, userId?, Option.isSome_map, Option.isSome_map]

theorem isSome_network? (name : String) :
    (t.registry.network? name).isSome = (t.networkId? name).isSome := by
  rw [network?_registry, networkId?, Option.isSome_map, Option.isSome_map]

/-- The owner of a network by number and by name. -/
theorem owner_iff (h : t.Valid) {n : NetworkRow} (hn : n ∈ t.networks) (login : String) :
    (t.networkEntry n).owner.text = rstrip login ↔ some n.ownerId = t.userId? login :=
  loginOfId_iff h (h.owner n hn) login

/-- The row of a user and a network by numbers and by names. -/
theorem is_entry_iff (h : t.Valid) {tbl : LinkTable δ} (htbl : tbl.Valid t.users t.networks)
    {r : LinkRow δ} (hr : r ∈ tbl.rows) {login network : String} :
    (t.entry r).is login network =
      (some r.userId = t.userId? login && some r.networkId = t.networkId? network) := by
  have huser := loginOfId_iff h (htbl.user r hr) login
  have hnetwork := nameOfId_iff h (htbl.network r hr) network
  rw [Entry.is, entry]
  simp only [huser, hnetwork]

theorem find?_entry (h : t.Valid) {tbl : LinkTable δ} (htbl : tbl.Valid t.users t.networks)
    (login network : String) :
    (tbl.rows.map t.entry).find? (Entry.is login network) =
      (tbl.find? (t.userId? login) (t.networkId? network)).map t.entry := by
  rw [List.find?_map, LinkTable.find?]
  congr 1
  refine List.find?_congr fun r hr => ?_
  exact is_entry_iff h htbl hr

/-! ### Queries -/

theorem getPassHash_registry (fault : Bool) (login : String) :
    Registry.getPassHash fault login t.registry = PsqlConnector.getPassHash fault login t := by
  unfold Registry.getPassHash PsqlConnector.getPassHash
  rw [account?_registry]
  cases t.users.find? fun u => u.login.text = rstrip login <;> rfl

theorem userExists_registry (fault : Bool) (login : String) :
    Registry.userExists fault login t.registry = PsqlConnector.userExists fault login t := by
  rw [Registry.userExists, isSome_account?]
  rfl

theorem networkExists_registry (fault : Bool) (name : String) :
    Registry.networkExists fault name t.registry = PsqlConnector.networkExists fault name t := by
  rw [Registry.networkExists, isSome_network?]
  rfl

theorem getUserInfo_registry (h : t.Valid) (fault : Bool) (login network : String) :
    Registry.getUserInfo fault login network t.registry =
      PsqlConnector.getUserInfo fault login network t := by
  unfold Registry.getUserInfo PsqlConnector.getUserInfo
  rw [registry, find?_entry h h.publicKey]
  cases t.publicKey.find? (t.userId? login) (t.networkId? network) <;> rfl

/-- A right that the owner of a network has, and others if the network says so. -/
theorem any_network?_registry (h : t.Valid) (name login : String) (p : NetworkRow → Bool)
    (q : NetworkEntry → Bool) (hpq : ∀ n, q (t.networkEntry n) = p n) :
    ((t.registry.network? name).any fun n => q n || n.owner.text = rstrip login) =
      (t.network? name).any fun n => p n || some n.ownerId = t.userId? login := by
  rw [network?_registry]
  cases hn : t.network? name with
  | none => rfl
  | some n =>
    have howner := owner_iff h ((network?_eq_some h).1 hn).1 login
    simp only [Option.map_some, Option.any_some, hpq, howner]

theorem canSeeNetwork_registry (h : t.Valid) (fault : Bool) (name login : String) :
    Registry.canSeeNetwork fault name login t.registry =
      PsqlConnector.canSeeNetwork fault name login t :=
  congrArg (!fault && ·)
    (any_network?_registry h name login (·.publicity) (·.publicity) fun _ => rfl)

theorem canAddServer_registry (h : t.Valid) (fault : Bool) (login name : String) :
    Registry.canAddServer fault login name t.registry =
      PsqlConnector.canAddServer fault login name t :=
  congrArg (!fault && ·)
    (any_network?_registry h name login (·.participable) (·.participable) fun _ => rfl)

/-- Every network is joined with its owner. -/
theorem exists_owner (h : t.Valid) {n : NetworkRow} (hn : n ∈ t.networks) :
    ∃ u, t.users.find? (fun u => u.id = n.ownerId) = some u ∧ u.login = t.loginOfId n.ownerId := by
  obtain ⟨u, hu, hid⟩ := h.owner n hn
  obtain ⟨v, hv⟩ := Option.isSome_iff_exists.1
    (List.find?_isSome.2 ⟨u, hu, by simpa using hid⟩ : (t.users.find? fun u => u.id = n.ownerId).isSome)
  exact ⟨v, hv, by rw [loginOfId, hv]; rfl⟩

/-- A selection of networks, joined with their owners or with the owner's name in them. -/
theorem networks_registry (h : t.Valid) {p : NetworkRow × UserRow → Bool} {q : NetworkEntry → Bool}
    (hpq : ∀ n ∈ t.networks, ∀ u, u.login = t.loginOfId n.ownerId → p (n, u) = q (t.networkEntry n)) :
    (t.registry.networks.filter q).map Registry.protoNetwork =
      (t.networksWithOwner.filter p).map PsqlConnector.protoNetwork := by
  have hlist : ∀ l : List NetworkRow, (∀ n ∈ l, n ∈ t.networks) →
      ((l.map t.networkEntry).filter q).map Registry.protoNetwork =
        ((l.filterMap fun n => (t.users.find? fun u => u.id = n.ownerId).map (n, ·)).filter p).map
          PsqlConnector.protoNetwork := by
    intro l
    induction l with
    | nil => intro _; rfl
    | cons n l ih =>
      intro hl
      have hn := hl n (List.mem_cons_self ..)
      have hrest := ih fun n' hn' => hl n' (List.mem_cons_of_mem _ hn')
      obtain ⟨u, hu, hlogin⟩ := exists_owner h hn
      have hproto : Registry.protoNetwork (t.networkEntry n) = PsqlConnector.protoNetwork (n, u) := by
        simp only [Registry.protoNetwork, PsqlConnector.protoNetwork, networkEntry, hlogin]
      rw [List.map_cons, List.filterMap_cons_some (by rw [hu]; rfl), List.filter_cons, List.filter_cons,
        hpq n hn u hlogin]
      cases q (t.networkEntry n) with
      | true => simp only [if_true, List.map_cons, hproto, hrest]
      | false => exact hrest
  exact hlist t.networks fun _ => id

theorem invited_registry (h : t.Valid) (login : String) {n : NetworkRow} (hn : n ∈ t.networks) :
    t.registry.invited login n.name = t.invited login n.id := by
  rw [Registry.invited, invited, registry, List.any_map, Bool.eq_iff_iff, List.any_eq_true,
    List.any_eq_true]
  refine exists_congr fun r => and_congr_right fun hr => ?_
  have huser := loginOfId_iff h (h.invitations.user r hr) login
  have hnetwork := nameOfId_inj h (h.invitations.network r hr) ⟨n, hn, rfl⟩
  rw [nameOfId_eq h hn] at hnetwork
  simp only [Function.comp, entry, huser, hnetwork]

theorem getAllNetworks_registry (h : t.Valid) (fault : Bool) (login : String) :
    Registry.getAllNetworks fault login t.registry = PsqlConnector.getAllNetworks fault login t := by
  unfold Registry.getAllNetworks PsqlConnector.getAllNetworks
  split
  · rfl
  · refine networks_registry h fun n hn u hu => ?_
    have hinvited : t.registry.invited login (t.networkEntry n).name = t.invited login n.id :=
      invited_registry h login hn
    rw [hinvited]
    simp only [hu]
    rfl

theorem getUserNetworks_registry (h : t.Valid) (fault : Bool) (login : String) :
    Registry.getUserNetworks fault login t.registry = PsqlConnector.getUserNetworks fault login t := by
  unfold Registry.getUserNetworks PsqlConnector.getUserNetworks
  split
  · rfl
  · refine networks_registry h fun n _ u hu => ?_
    simp only [hu]
    rfl

theorem getServers_registry (h : t.Valid) (fault : Bool) (name : String) :
    Registry.getServers fault name t.registry = PsqlConnector.getServers fault name t := by
  unfold Registry.getServers PsqlConnector.getServers
  split
  · rfl
  · rw [registry, List.filter_map, List.map_map]
    have hsame : t.servers.rows.filter ((fun e => e.network.text = rstrip name) ∘ t.entry) =
        t.servers.rows.filter fun r =>
          some r.networkId = t.networkId? name && t.users.any (·.id = r.userId) := by
      refine List.filter_congr fun r hr => ?_
      have hnetwork := nameOfId_iff h (h.servers.network r hr) name
      have huser : t.users.any (·.id = r.userId) = true := by
        obtain ⟨u, hu, hid⟩ := h.servers.user r hr
        exact List.any_eq_true.2 ⟨u, hu, by simpa using hid⟩
      rw [huser, Bool.and_true]
      simp only [Function.comp, entry, hnetwork]
    rw [hsame]
    rfl

/-! ### Changes -/

/-- A number that is in both is of the same name in both. -/
structure SameNames (t t' : Tables) : Prop where
  users : ∀ u ∈ t.users, ∀ u' ∈ t'.users, u'.id = u.id → u'.login = u.login
  networks : ∀ n ∈ t.networks, ∀ n' ∈ t'.networks, n'.id = n.id → n'.name = n.name

theorem loginOfId_same (h : t.Valid) (h' : t'.Valid) (hsame : SameNames t t') {uid : Nat}
    (huid : ∃ u ∈ t.users, u.id = uid) (huid' : ∃ u ∈ t'.users, u.id = uid) :
    t'.loginOfId uid = t.loginOfId uid := by
  obtain ⟨u, hu, rfl⟩ := huid
  obtain ⟨u', hu', hid⟩ := huid'
  have hlogin := loginOfId_eq h' hu'
  rw [hid] at hlogin
  rw [hlogin, loginOfId_eq h hu, hsame.users u hu u' hu' hid]

theorem nameOfId_same (h : t.Valid) (h' : t'.Valid) (hsame : SameNames t t') {nid : Nat}
    (hnid : ∃ n ∈ t.networks, n.id = nid) (hnid' : ∃ n ∈ t'.networks, n.id = nid) :
    t'.nameOfId nid = t.nameOfId nid := by
  obtain ⟨n, hn, rfl⟩ := hnid
  obtain ⟨n', hn', hid⟩ := hnid'
  have hname := nameOfId_eq h' hn'
  rw [hid] at hname
  rw [hname, nameOfId_eq h hn, hsame.networks n hn n' hn' hid]

/-- A row that stays is the same entry. -/
theorem entry_same (h : t.Valid) (h' : t'.Valid) (hsame : SameNames t t') {tbl tbl' : LinkTable δ}
    (htbl : tbl.Valid t.users t.networks) (htbl' : tbl'.Valid t'.users t'.networks) {r : LinkRow δ}
    (hr : r ∈ tbl.rows) (hr' : r ∈ tbl'.rows) : t'.entry r = t.entry r := by
  rw [entry, entry, loginOfId_same h h' hsame (htbl.user r hr) (htbl'.user r hr'),
    nameOfId_same h h' hsame (htbl.network r hr) (htbl'.network r hr')]

theorem networkEntry_same (h : t.Valid) (h' : t'.Valid) (hsame : SameNames t t') {n : NetworkRow}
    (hn : n ∈ t.networks) (hn' : n ∈ t'.networks) : t'.networkEntry n = t.networkEntry n := by
  have howner := loginOfId_same h h' hsame (h.owner n hn) (h'.owner n hn')
  simp only [networkEntry, howner]

/-- The entries of the rows that stay. -/
theorem map_drop (h : t.Valid) (h' : t'.Valid) (hsame : SameNames t t') {tbl : LinkTable δ}
    (htbl : tbl.Valid t.users t.networks) (gone : Nat → Nat → Bool)
    (htbl' : (tbl.drop gone).Valid t'.users t'.networks) {stays : Entry δ → Bool}
    (hstays : ∀ r ∈ tbl.rows, stays (t.entry r) = !gone r.userId r.networkId) :
    (tbl.drop gone).rows.map t'.entry = (tbl.rows.map t.entry).filter stays := by
  have hmap : (tbl.drop gone).rows.map t'.entry = (tbl.drop gone).rows.map t.entry :=
    List.map_congr_left fun r hr => entry_same h h' hsame htbl htbl' (LinkTable.mem_drop.1 hr).1 hr
  rw [hmap, List.filter_map, LinkTable.drop]
  congr 1
  exact List.filter_congr fun r hr => (hstays r hr).symm

/-- All rows stay. -/
theorem map_entry_same (h : t.Valid) (h' : t'.Valid) (hsame : SameNames t t') {tbl : LinkTable δ}
    (htbl : tbl.Valid t.users t.networks) (htbl' : tbl.Valid t'.users t'.networks) :
    tbl.rows.map t'.entry = tbl.rows.map t.entry :=
  List.map_congr_left fun _ hr => entry_same h h' hsame htbl htbl' hr hr

theorem map_networkEntry_same (h : t.Valid) (h' : t'.Valid) (hsame : SameNames t t')
    (hnetworks : t'.networks = t.networks) :
    t'.networks.map t'.networkEntry = t.networks.map t.networkEntry := by
  rw [hnetworks]
  exact List.map_congr_left fun n hn =>
    networkEntry_same h h' hsame hn (by rw [hnetworks]; exact hn)

theorem sameUsers (h : t.Valid) (hsub : ∀ u ∈ t'.users, u ∈ t.users) :
    ∀ u ∈ t.users, ∀ u' ∈ t'.users, u'.id = u.id → u'.login = u.login := by
  intro u hu u' hu' hid
  rw [List.inj_on_of_nodup_map h.userIds (hsub u' hu') hu hid]

theorem sameNetworks (h : t.Valid) (hsub : ∀ n ∈ t'.networks, n ∈ t.networks) :
    ∀ n ∈ t.networks, ∀ n' ∈ t'.networks, n'.id = n.id → n'.name = n.name := by
  intro n hn n' hn' hid
  rw [List.inj_on_of_nodup_map h.networkIds (hsub n' hn') hn hid]

/-- A change that brings no user and no network. -/
theorem sameNames_of_subset (h : t.Valid) (hu : ∀ u ∈ t'.users, u ∈ t.users)
    (hn : ∀ n ∈ t'.networks, n ∈ t.networks) : SameNames t t' :=
  ⟨sameUsers h hu, sameNetworks h hn⟩

theorem registry_pushUser (h : t.Valid) {l : BpChar 30} {p : BpChar 70} (h' : (t.pushUser l p).Valid) :
    (t.pushUser l p).registry = { t.registry with accounts := t.registry.accounts ++ [⟨l, p⟩] } := by
  have hsame : SameNames t (t.pushUser l p) := by
    refine ⟨fun u hu u' hu' hid => ?_, sameNetworks h fun _ => id⟩
    rcases List.mem_append.1 hu' with hold | hnew
    · rw [List.inj_on_of_nodup_map h.userIds hold hu hid]
    · -- The new number is that of no row.
      rw [List.mem_singleton.1 hnew] at hid
      have := h.usersSeq u hu
      simp only at hid
      omega
  refine Registry.ext ?_ (map_networkEntry_same h h' hsame rfl)
    (map_entry_same h h' hsame h.servers h'.servers)
    (map_entry_same h h' hsame h.invitations h'.invitations)
    (map_entry_same h h' hsame h.publicKey h'.publicKey)
  exact List.map_append

theorem insertUser_registry (h : t.Valid) (login password : String) :
    t.registry.insertUser login password = (t.insertUser login password).map registry := by
  have hany : ∀ l : BpChar 30, t.registry.accounts.any (·.login = l) = t.users.any (·.login = l) :=
    fun l => List.any_map
  have hvalid := fun t' (ht' : t.insertUser login password = .ok t') => h.insertUser ht'
  unfold Registry.insertUser
  unfold insertUser at hvalid ⊢
  cases hl : BpChar.ofText 30 login with
  | none => rfl
  | some l =>
    cases hp : BpChar.ofText 70 password with
    | none => rfl
    | some p =>
      simp only [hl, hp, hany] at hvalid ⊢
      by_cases hused : t.users.any (·.login = l) = true
      · rw [if_pos hused, if_pos hused]
        rfl
      · rw [if_neg hused] at hvalid
        rw [if_neg hused, if_neg hused, Except.map, registry_pushUser h (hvalid _ rfl)]

/-- A password is no name. -/
theorem updatePassword_registry (h : t.Valid) (login password : String) :
    t.registry.updatePassword login password = (t.updatePassword login password).map registry := by
  unfold Registry.updatePassword updatePassword
  cases BpChar.ofText 70 password with
  | none => rfl
  | some p =>
    have h' := h.setPassword login p
    have hsame : SameNames t (t.setPassword login p) := by
      refine ⟨fun u hu u' hu' hid => ?_, sameNetworks h fun _ => id⟩
      obtain ⟨v, hv, rfl⟩ := mem_setPassword.1 hu'
      have hvid : v.id = u.id := by
        rw [← hid]
        split <;> rfl
      rw [List.inj_on_of_nodup_map h.userIds hv hu hvid]
      split <;> rfl
    have hregistry : (t.setPassword login p).registry = { t.registry with
        accounts := t.registry.accounts.map fun a =>
          if a.login.text = rstrip login then { a with password := p } else a } := by
      refine Registry.ext ?_ (map_networkEntry_same h h' hsame rfl)
        (map_entry_same h h' hsame h.servers h'.servers)
        (map_entry_same h h' hsame h.invitations h'.invitations)
        (map_entry_same h h' hsame h.publicKey h'.publicKey)
      show (t.users.map _).map account = (t.users.map account).map _
      rw [List.map_map, List.map_map]
      refine List.map_congr_left fun u _ => ?_
      show account (if u.login.text = rstrip login then { u with password := p } else u) =
        if u.login.text = rstrip login then ⟨u.login, p⟩ else account u
      by_cases hlogin : u.login.text = rstrip login
      · rw [if_pos hlogin, if_pos hlogin]
        rfl
      · rw [if_neg hlogin, if_neg hlogin]
    exact congrArg Except.ok hregistry.symm

/-- The networks that a user owns, by numbers and by names. -/
theorem owns_registry (h : t.Valid) {login : String} {uid nid : Nat}
    (huid : t.userId? login = some uid) (hnid : ∃ n ∈ t.networks, n.id = nid) :
    t.registry.owns login (t.nameOfId nid) = t.owns uid nid := by
  rw [Registry.owns, owns, registry, List.any_map, Bool.eq_iff_iff, List.any_eq_true, List.any_eq_true]
  refine exists_congr fun n => and_congr_right fun hn => ?_
  have hname := nameOfId_inj h ⟨n, hn, rfl⟩ hnid
  rw [nameOfId_eq h hn] at hname
  have howner := owner_iff h hn login
  rw [huid, Option.some_inj] at howner
  simp only [Function.comp, Bool.and_eq_true, decide_eq_true_eq, howner]
  exact and_congr_left fun _ => hname

theorem registry_deleteUserRow (h : t.Valid) {login : String} {uid : Nat}
    (huid : t.userId? login = some uid) :
    (t.deleteUserRow uid).registry = t.registry.deleteUser login := by
  have h' := h.deleteUserRow uid
  have hsame : SameNames t (t.deleteUserRow uid) :=
    sameNames_of_subset h (fun _ hu => (List.mem_filter.1 hu).1) fun _ hn => (List.mem_filter.1 hn).1
  let gone : Nat → Nat → Bool := fun u n => u = uid || t.owns uid n
  have hstays : ∀ {δ : Type} (tbl : LinkTable δ), tbl.Valid t.users t.networks → ∀ r ∈ tbl.rows,
      (!(decide ((t.entry r).user.text = rstrip login) || t.registry.owns login (t.entry r).network)) =
        !gone r.userId r.networkId := by
    intro δ tbl htbl r hr
    have huser := loginOfId_iff h (htbl.user r hr) login
    rw [huid, Option.some_inj] at huser
    rw [entry, owns_registry h huid (htbl.network r hr)]
    simp only [huser, gone]
  refine Registry.ext ?_ ?_ (map_drop h h' hsame h.servers gone h'.servers (hstays _ h.servers))
    (map_drop h h' hsame h.invitations gone h'.invitations (hstays _ h.invitations))
    (map_drop h h' hsame h.publicKey gone h'.publicKey (hstays _ h.publicKey))
  · show (t.users.filter _).map account = (t.users.map account).filter _
    rw [List.filter_map]
    congr 1
    refine List.filter_congr fun u hu => ?_
    have hlogin := loginOfId_iff h ⟨u, hu, rfl⟩ login
    rw [loginOfId_eq h hu, huid, Option.some_inj] at hlogin
    simp only [Function.comp, account, ne_eq, hlogin]
  · show (t.networks.filter _).map (t.deleteUserRow uid).networkEntry =
      (t.networks.map t.networkEntry).filter _
    have hmap : (t.networks.filter (·.ownerId ≠ uid)).map (t.deleteUserRow uid).networkEntry =
        (t.networks.filter (·.ownerId ≠ uid)).map t.networkEntry :=
      List.map_congr_left fun n hn => networkEntry_same h h' hsame (List.mem_filter.1 hn).1 hn
    rw [hmap, List.filter_map]
    congr 1
    refine List.filter_congr fun n hn => ?_
    have howner := owner_iff h hn login
    rw [huid, Option.some_inj] at howner
    simp only [Function.comp, ne_eq, howner]

/-- Nothing is of a user that is not there. -/
theorem blank_of_absent (h : t.Valid) {login : String} (hnone : t.userId? login = none) :
    t.registry.Blank login := by
  have hlinks : ∀ {δ : Type} (tbl : LinkTable δ), tbl.Valid t.users t.networks →
      ∀ e ∈ tbl.rows.map t.entry, e.user.text ≠ rstrip login := by
    intro δ tbl htbl e he hlogin
    obtain ⟨r, hr, rfl⟩ := List.mem_map.1 he
    have huser := (loginOfId_iff h (htbl.user r hr) _).1 hlogin
    rw [hnone] at huser
    cases huser
  refine ⟨fun n hn hlogin => ?_, hlinks _ h.servers, hlinks _ h.invitations, hlinks _ h.publicKey⟩
  obtain ⟨row, hrow, rfl⟩ := List.mem_map.1 hn
  have howner := (owner_iff h hrow _).1 hlogin
  rw [hnone] at howner
  cases howner

theorem deleteUser_absent (h : t.Valid) {login : String} (hnone : t.userId? login = none) :
    t.registry.deleteUser login = t.registry := by
  have hblank := blank_of_absent h hnone
  have howns : ∀ name, t.registry.owns login name = false := by
    intro name
    rw [Registry.owns, List.any_eq_false]
    intro n hn
    simp [hblank.networks n hn]
  have hstays : ∀ {δ : Type} {l : List (Entry δ)}, (∀ e ∈ l, e.user.text ≠ rstrip login) →
      l.filter (fun e => !(decide (e.user.text = rstrip login) || t.registry.owns login e.network)) = l := by
    intro δ l hl
    refine List.filter_eq_self.2 fun e he => ?_
    simp [howns, hl e he]
  refine Registry.ext ?_ (List.filter_eq_self.2 fun n hn => decide_eq_true (hblank.networks n hn))
    (hstays hblank.servers) (hstays hblank.invitations) (hstays hblank.publicKey)
  refine List.filter_eq_self.2 fun a ha => ?_
  obtain ⟨u, hu, rfl⟩ := List.mem_map.1 ha
  exact decide_eq_true (userId?_eq_none.1 hnone u hu)

theorem deleteUser_registry (h : t.Valid) (login : String) :
    t.registry.deleteUser login = (t.deleteUser login).registry := by
  unfold deleteUser
  split
  · rename_i uid huid
    exact (registry_deleteUserRow h huid).symm
  · rename_i hnone
    exact deleteUser_absent h hnone

theorem registry_pushNetwork (h : t.Valid) {row : Nat → NetworkRow} (hid : ∀ k, (row k).id = k)
    (h' : (t.pushNetwork row).Valid) :
    (t.pushNetwork row).registry = { t.registry with
      networks := t.registry.networks ++ [t.networkEntry (row (t.networksSeq + 1))] } := by
  have hsame : SameNames t (t.pushNetwork row) := by
    refine ⟨sameUsers h fun _ => id, fun n hn n' hn' heq => ?_⟩
    rcases List.mem_append.1 hn' with hold | hnew
    · rw [List.inj_on_of_nodup_map h.networkIds hold hn heq]
    · rw [List.mem_singleton.1 hnew, hid] at heq
      have := h.networksSeq n hn
      omega
  refine Registry.ext rfl ?_ (map_entry_same h h' hsame h.servers h'.servers)
    (map_entry_same h h' hsame h.invitations h'.invitations)
    (map_entry_same h h' hsame h.publicKey h'.publicKey)
  have hold : t.networks.map (t.pushNetwork row).networkEntry = t.networks.map t.networkEntry :=
    List.map_congr_left fun n hn =>
      networkEntry_same h h' hsame hn (List.mem_append_left _ hn)
  show (t.networks ++ [_]).map (t.pushNetwork row).networkEntry = _
  rw [List.map_append, hold]
  rfl

theorem insertNetwork_registry (h : t.Valid) (name ownerLogin : String)
    (publicity visible participable : Bool) (mail proto : String) :
    t.registry.insertNetwork name ownerLogin publicity visible participable mail proto =
      (t.insertNetwork name ownerLogin publicity visible participable mail proto).map registry := by
  have hany : ∀ nm : BpChar 30, t.registry.networks.any (·.name = nm) = t.networks.any (·.name = nm) :=
    fun nm => List.any_map
  have hvalid := fun t' (ht' : t.insertNetwork name ownerLogin publicity visible participable mail proto =
    .ok t') => h.insertNetwork ht'
  unfold Registry.insertNetwork
  unfold insertNetwork at hvalid ⊢
  cases hn : BpChar.ofText 30 name with
  | none => rfl
  | some nm =>
    cases hm : varchar 40 mail with
    | none => rfl
    | some ml =>
      cases hp : varchar 40 proto with
      | none => rfl
      | some pr =>
        rw [account?_registry]
        simp only [userId?] at hvalid ⊢
        cases hu : t.users.find? fun u => u.login.text = rstrip ownerLogin with
        | none => rfl
        | some u =>
          have hlogin := loginOfId_eq h (List.mem_of_find?_eq_some hu)
          simp only [hn, hm, hp, hu, Option.map_some, hany] at hvalid ⊢
          by_cases hused : t.networks.any (·.name = nm) = true
          · rw [if_pos hused, if_pos hused]
            rfl
          · rw [if_neg hused] at hvalid
            rw [if_neg hused, if_neg hused, Except.map, registry_pushNetwork h (fun _ => rfl) (hvalid _ rfl)]
            simp only [networkEntry, hlogin]
            rfl

theorem registry_deleteNetworkRow (h : t.Valid) {n : NetworkRow} (hn : n ∈ t.networks) :
    (t.deleteNetworkRow n.id).registry = t.registry.dropNetwork (t.networkEntry n) := by
  have h' := h.deleteNetworkRow n.id
  have hsame : SameNames t (t.deleteNetworkRow n.id) :=
    sameNames_of_subset h (fun _ => id) fun _ hn => (List.mem_filter.1 hn).1
  let gone : Nat → Nat → Bool := fun _ nid => nid = n.id
  have hstays : ∀ {δ : Type} (tbl : LinkTable δ), tbl.Valid t.users t.networks → ∀ r ∈ tbl.rows,
      decide ((t.entry r).network ≠ (t.networkEntry n).name) = !gone r.userId r.networkId := by
    intro δ tbl htbl r hr
    have hname := nameOfId_inj h (htbl.network r hr) ⟨n, hn, rfl⟩
    rw [nameOfId_eq h hn] at hname
    simp only [entry, networkEntry, ne_eq, hname, gone, decide_not]
  refine Registry.ext rfl ?_ (map_drop h h' hsame h.servers gone h'.servers (hstays _ h.servers))
    (map_drop h h' hsame h.invitations gone h'.invitations (hstays _ h.invitations))
    (map_drop h h' hsame h.publicKey gone h'.publicKey (hstays _ h.publicKey))
  show (t.networks.filter _).map (t.deleteNetworkRow n.id).networkEntry =
    (t.networks.map t.networkEntry).filter _
  have hmap : (t.networks.filter (·.id ≠ n.id)).map (t.deleteNetworkRow n.id).networkEntry =
      (t.networks.filter (·.id ≠ n.id)).map t.networkEntry :=
    List.map_congr_left fun m hm => networkEntry_same h h' hsame (List.mem_filter.1 hm).1 hm
  rw [hmap, List.filter_map]
  congr 1
  refine List.filter_congr fun m hm => ?_
  have hname := nameOfId_inj h ⟨m, hm, rfl⟩ ⟨n, hn, rfl⟩
  rw [nameOfId_eq h hm, nameOfId_eq h hn] at hname
  simp only [Function.comp, networkEntry, ne_eq, hname]

/-- A table of links with one more row. -/
theorem map_push (h : t.Valid) {tbl : LinkTable δ} {u : UserRow} {n : NetworkRow} (hu : u ∈ t.users)
    (hn : n ∈ t.networks) (d : δ) :
    (tbl.push u.id n.id d).rows.map t.entry = tbl.rows.map t.entry ++ [⟨u.login, n.name, d⟩] := by
  rw [LinkTable.push, List.map_append]
  simp only [List.map_cons, List.map_nil, entry, loginOfId_eq h hu, nameOfId_eq h hn]

theorem insertEntry_registry (h : t.Valid) {tbl : LinkTable δ} (htbl : tbl.Valid t.users t.networks)
    (login network : String) (d : δ) :
    t.registry.insertEntry (tbl.rows.map t.entry) login network d =
      (tbl.insert (t.userId? login) (t.networkId? network) d).map fun tbl' => tbl'.rows.map t.entry := by
  have hfind := find?_entry h htbl login network
  unfold Registry.insertEntry LinkTable.insert
  rw [account?_registry, network?_registry]
  simp only [userId?, networkId?] at hfind ⊢
  cases hu : t.users.find? fun u => u.login.text = rstrip login with
  | none => rfl
  | some u =>
    cases hn : t.network? network with
    | none => rfl
    | some n =>
      simp only [hu, hn, Option.map_some] at hfind ⊢
      rw [hfind, Option.isSome_map]
      by_cases hthere : (tbl.find? (some u.id) (some n.id)).isSome = true
      · rw [if_pos hthere, if_pos hthere]
        rfl
      · rw [if_neg hthere, if_neg hthere, Except.map,
          map_push h (List.mem_of_find?_eq_some hu) ((network?_eq_some h).1 hn).1]
        rfl

/-- Changes of a table of links leave the names as they are. -/
theorem map_insert_registry {x : Except SqlError (LinkTable δ)} {f : LinkTable δ → Tables}
    {g : List (Entry δ) → Registry} (hfg : ∀ tbl, (f tbl).registry = g (tbl.rows.map t.entry)) :
    (x.map fun tbl => tbl.rows.map t.entry).map g = (x.map f).map registry := by
  cases x with
  | error e => rfl
  | ok tbl => exact congrArg Except.ok (hfg tbl).symm

theorem insertInvitation_registry (h : t.Valid) (network login : String) :
    t.registry.insertInvitation network login = (t.insertInvitation network login).map registry := by
  rw [Registry.insertInvitation, insertInvitation]
  exact (congrArg _ (insertEntry_registry h h.invitations login network ())).trans
    (map_insert_registry fun _ => rfl)

theorem insertKey_registry (h : t.Valid) (login network key : String) :
    t.registry.insertKey login network key = (t.insertKey login network key).map registry := by
  rw [Registry.insertKey, insertKey]
  exact (congrArg _ (insertEntry_registry h h.publicKey login network key)).trans
    (map_insert_registry fun _ => rfl)

theorem insertServer_registry (h : t.Valid) (network user : String) (d : ServerData) :
    t.registry.insertServer network user d = (t.insertServer network user d).map registry := by
  rw [Registry.insertServer, insertServer]
  exact (congrArg _ (insertEntry_registry h h.servers user network d)).trans
    (map_insert_registry fun _ => rfl)

theorem deleteServer_registry (h : t.Valid) (network user : String) :
    { t.registry with servers := t.registry.servers.filter fun e => !e.is user network } =
      (t.deleteServer network user).2.registry := by
  have h' := h.deleteServer network user
  have hsame : SameNames t (t.deleteServer network user).2 :=
    sameNames_of_subset h (fun _ => id) fun _ => id
  have hdrop : (t.deleteServer network user).2.servers.rows.map (t.deleteServer network user).2.entry =
      (t.servers.rows.map t.entry).filter fun e => !e.is user network :=
    map_drop h h' hsame h.servers
      (fun u n => some u = t.userId? user && some n = t.networkId? network) h'.servers
      fun r hr => congrArg _ (is_entry_iff h h.servers hr)
  exact Registry.ext rfl rfl hdrop.symm rfl rfl

end Tables

/-! ### Calls -/

/-- The directory has the names of the tables, and one map for the two of the sessions. -/
structure Stands (s : State) (d : Directory) : Prop where
  registry : d.registry = s.db.tables.registry
  sessions : s.sessions.toSessionMaps = Sessions.maps d.sessions

/-- Both answer the call alike, and stand for each other behind it. -/
def Agrees {α : Type} (out : α × State) (out' : α × Directory) : Prop :=
  out.1 = out'.1 ∧ Stands out.2 out'.2

variable {s : State} {d : Directory}

/-- A call that is one statement. -/
theorem change_registry (fault : Bool) (onUnique : DBResponse) {t : Tables}
    {x : Except SqlError Tables} {y : Except SqlError Registry} (hxy : y = x.map Tables.registry) :
    Registry.change fault onUnique t.registry y =
      ((PsqlConnector.work fault onUnique t x).1, (PsqlConnector.work fault onUnique t x).2.registry) := by
  subst hxy
  unfold Registry.change PsqlConnector.work
  cases fault with
  | true => rfl
  | false =>
    match x with
    | .ok t' => rfl
    | .error .uniqueViolation => rfl
    | .error .failure => rfl

/-- A call that reads. -/
theorem agrees_read {α : Type} (h : Stands s d) {a a' : α} (ha : a' = a) : Agrees (a, s) (a', d) :=
  ⟨ha.symm, h⟩

/-- A call that writes. -/
theorem agrees_write (h : Stands s d) {f : Tables → DBResponse × Tables}
    (hf : (f s.db.tables).2.Valid) {g : Registry → DBResponse × Registry}
    (hfg : g s.db.tables.registry = ((f s.db.tables).1, (f s.db.tables).2.registry)) :
    Agrees (s.write f hf) (d.write g) := by
  have hwrite : g d.registry = ((f s.db.tables).1, (f s.db.tables).2.registry) := by
    rw [h.registry, hfg]
  refine ⟨?_, ?_, h.sessions⟩
  · rw [Directory.write, hwrite]
    rfl
  · simp only [Directory.write, hwrite]
    rfl

theorem deleteNetwork_registry {t : Tables} (h : t.Valid) (fault : Bool) (login name : String) :
    Registry.deleteNetwork fault login name t.registry =
      ((PsqlConnector.deleteNetwork fault login name t).1,
        (PsqlConnector.deleteNetwork fault login name t).2.registry) := by
  unfold Registry.deleteNetwork PsqlConnector.deleteNetwork
  cases fault with
  | true => rfl
  | false =>
    rw [Tables.network?_registry]
    cases hn : t.network? name with
    | none => simp [Tables.deleteNetwork, hn]
    | some n =>
      have hmem := ((Tables.network?_eq_some h).1 hn).1
      have howner := Tables.owner_iff h hmem login
      by_cases ho : some n.ownerId = t.userId? login
      · simp [Tables.deleteNetwork, hn, ho, howner, Tables.registry_deleteNetworkRow h hmem]
      · simp [Tables.deleteNetwork, hn, ho, howner]

theorem updateServer_registry {t : Tables} (h : t.Valid) (fault : Bool) (network user ip : String)
    (port ttl : Int) :
    Registry.updateServer fault network user ip port ttl t.registry =
      ((PsqlConnector.updateServer fault network user ip port ttl t).1,
        (PsqlConnector.updateServer fault network user ip port ttl t).2.registry) := by
  have hfind := Tables.find?_entry h h.servers user network
  have hservers : t.registry.servers.find? (Entry.is user network) = _ := hfind
  unfold Registry.updateServer PsqlConnector.updateServer
  cases BpChar.ofText 20 ip with
  | none => rfl
  | some addr =>
    cases fault with
    | true => rfl
    | false =>
      simp only [hservers, Option.isSome_map]
      by_cases hthere : (t.servers.find? (t.userId? user) (t.networkId? network)).isSome = true
      · simp [hthere]
      · rw [change_registry false .notFound (Tables.insertServer_registry h network user ⟨addr, port, ttl⟩)]
        simp [hthere]

theorem deleteServer_registry {t : Tables} (h : t.Valid) (fault : Bool) (network user : String) :
    Registry.deleteServer fault network user t.registry =
      ((PsqlConnector.deleteServer fault network user t).1,
        (PsqlConnector.deleteServer fault network user t).2.registry) := by
  unfold Registry.deleteServer PsqlConnector.deleteServer
  cases fault with
  | true => rfl
  | false => exact congrArg (Prod.mk DBResponse.notFound) (Tables.deleteServer_registry h network user)

theorem sessions_login (h : Stands s d) (l c : String) (now : Int) :
    (s.sessions.login l c now).toSessionMaps = Sessions.maps (d.sessions.insert c (l, now)) := by
  have hcall := SessionControler.call_login s.sessions l c now
  rw [h.sessions, Sessions.call_maps] at hcall
  exact (congrArg Prod.snd (Option.some_inj.1 hcall)).symm

theorem sessions_logout (h : Stands s d) (c : String) :
    (s.sessions.logout c).1 = decide (c ∈ d.sessions) ∧
      (s.sessions.logout c).2.toSessionMaps = Sessions.maps (d.sessions.erase c) := by
  have hcall := SessionControler.call_logout s.sessions c
  rw [h.sessions, Sessions.call_maps] at hcall
  obtain ⟨hans, hmaps⟩ := Prod.mk.inj (Option.some_inj.1 hcall)
  exact ⟨(SessionAnswer.bool.inj hans).symm, hmaps.symm⟩

theorem sessions_getLogin (h : Stands s d) (c : String) :
    s.sessions.getLogin c = (d.sessions[c]?.map Prod.fst).getD "" := by
  have hcall := SessionControler.call_getLogin s.sessions c
  rw [h.sessions, Sessions.call_maps] at hcall
  exact (SessionAnswer.text.inj (congrArg Prod.fst (Option.some_inj.1 hcall))).symm

/-- Every call is answered by the tables as by the names. -/
theorem exec_refines (c : Call) (h : Stands s d) : Agrees (exec c s) (Directory.exec c d) := by
  have hv := s.db.valid
  have hg := h.registry
  cases c with
  | getLogin cookie => exact agrees_read h (sessions_getLogin h cookie).symm
  | login l cookie now => exact ⟨rfl, h.registry, sessions_login h l cookie now⟩
  | logout cookie =>
    obtain ⟨hans, hmaps⟩ := sessions_logout h cookie
    exact ⟨hans, h.registry, hmaps⟩
  | createUser fault l pw =>
    simp only [exec, Directory.exec]
    exact agrees_write h _ (change_registry fault _ (Tables.insertUser_registry hv l pw))
  | removeUser fault l =>
    simp only [exec, Directory.exec]
    exact agrees_write h _
      (change_registry fault _ (congrArg Except.ok (Tables.deleteUser_registry hv l)))
  | changeUserPassword fault l pw =>
    simp only [exec, Directory.exec]
    exact agrees_write h _ (change_registry fault _ (Tables.updatePassword_registry hv l pw))
  | addKey fault l n key =>
    simp only [exec, Directory.exec]
    exact agrees_write h _ (change_registry fault _ (Tables.insertKey_registry hv l n key))
  | createInvitation fault l n =>
    simp only [exec, Directory.exec]
    exact agrees_write h _ (change_registry fault _ (Tables.insertInvitation_registry hv n l))
  | createNetwork fault n l pub vis part mail proto =>
    simp only [exec, Directory.exec]
    exact agrees_write h _
      (change_registry fault _ (Tables.insertNetwork_registry hv n l pub vis part mail proto))
  | deleteNetwork fault l n =>
    simp only [exec, Directory.exec]
    exact agrees_write h _ (deleteNetwork_registry hv fault l n)
  | updateServer fault n u ip port ttl =>
    simp only [exec, Directory.exec]
    exact agrees_write h _ (updateServer_registry hv fault n u ip port ttl)
  | deleteServer fault n u =>
    simp only [exec, Directory.exec]
    exact agrees_write h _ (deleteServer_registry hv fault n u)
  | userExists fault l => exact agrees_read h (hg ▸ Tables.userExists_registry fault l)
  | getPassHash fault l => exact agrees_read h (hg ▸ Tables.getPassHash_registry fault l)
  | getUserInfo fault l n => exact agrees_read h (hg ▸ Tables.getUserInfo_registry hv fault l n)
  | getAllNetworks fault l => exact agrees_read h (hg ▸ Tables.getAllNetworks_registry hv fault l)
  | getUserNetworks fault l => exact agrees_read h (hg ▸ Tables.getUserNetworks_registry hv fault l)
  | networkExists fault n => exact agrees_read h (hg ▸ Tables.networkExists_registry fault n)
  | canSeeNetwork fault n l => exact agrees_read h (hg ▸ Tables.canSeeNetwork_registry hv fault n l)
  | canAddServer fault l n => exact agrees_read h (hg ▸ Tables.canAddServer_registry hv fault l n)
  | getServers fault n => exact agrees_read h (hg ▸ Tables.getServers_registry hv fault n)

theorem refines_directory : Refines exec Directory.exec Stands := fun c _ _ h => exec_refines c h

/-! ### Requests -/

theorem stands_empty : Stands State.empty {} where
  registry := rfl
  sessions := by simp [State.empty, SessionControler.empty, Sessions.maps]

/-- A request handled alone is answered by the tables as by the names. -/
theorem handle_refines (env : Env) (m : ClientMessage) (h : Stands s d) :
    Agrees (handle env m s) ((handleRequest env m).run Directory.exec d) :=
  run_refines exec refines_directory (handleRequest env m) h

/-- What a pool thread does with a request. -/
def Request.handler (r : Request) : Handler := handleRequest r.env r.message

/-- **The tracker is the directory.** Whatever requests come, to however many pool threads, and however
their calls are interleaved: with the tables every handler is at the point where it would be with names
alone, has got the same answers and gives the same reply, and the tables hold the names that the
directory has. -/
theorem tracker_refines (n : Nat) (events : List (PoolEvent Request)) :
    Option.Rel (Pool.Alike Stands)
      (run (Pool.step exec Request.handler) (Pool.start State.empty n) events)
      (run (Pool.step Directory.exec Request.handler) (Pool.start {} n) events) :=
  Pool.alike_run refines_directory stands_empty n events

/-! ### A name that is used again -/

/-- **An account is made with nothing**: no network, server, invitation or key is under its name, also
when there was an account of the name before. -/
theorem registered_blank {env : Env} {m : ClientMessage} {s : State} {login : String}
    (hm : m.requestType = .register) (hlogin : m.registerMessage.bind (·.username) = some login)
    (hmade : (handle env m s).2 ≠ s) : (handle env m s).2.db.tables.registry.Blank login := by
  have hout := outcome env m s
  generalize handle env m s = out at hmade hout
  cases hout with
  | kept => exact absurd rfl hmade
  | registered _ hsub _ ht _ =>
    rw [hsub] at hlogin
    obtain rfl := Option.some_inj.1 hlogin
    have hblank := Tables.blank_of_absent s.db.valid (Tables.exists_insertUser.1 ⟨_, ht⟩).2.2
    obtain ⟨l, p, -, -, -, htables⟩ := Tables.insertUser_eq_ok.1 ht
    rw [htables, Tables.registry_pushUser s.db.valid (htables ▸ Database.valid _)]
    exact ⟨hblank.networks, hblank.servers, hblank.invitations, hblank.publicKey⟩
  | unregistered hm' | loggedIn hm' | loggedOut hm' | createdNetwork hm' | deletedNetwork hm'
  | invited hm' | removed hm' | updatedServer hm' | stoppedServer hm' | signedKey hm'
  | changedPassword hm' =>
    rw [hm] at hm'
    cases hm'

/-- Alice registers, logs in, makes a network and a server in it, and unregisters. -/
def aliceGone : List Request :=
  [.register Env.sample "alice" "secret" "request", .login Env.sample "alice" "secret",
    .createUnlisted Env.sample "c00kie" "den",
    { env := Env.sample
      message :=
        { request := some .updateServer
          updateServerMessage := some ⟨some "c00kie", some "den", some 8080⟩ }
      initialized := rfl },
    .unregister Env.sample "c00kie"]

/-- A REGISTER of alice. -/
def registerAlice : ClientMessage where
  request := some .register
  registerMessage := some ⟨some "alice", some "secret", some "request"⟩

/-- The name was used for a network and a server, and is free again. -/
theorem registered_blank_alice :
    (after (aliceGone.take 4)).db.tables.registry.networks.length = 1 ∧
      (after (aliceGone.take 4)).db.tables.registry.servers.length = 1 ∧
      (handle Env.sample registerAlice (after aliceGone)).2.db.tables.registry.Blank "alice" := by
  refine ⟨by decide +kernel, by decide +kernel, registered_blank rfl rfl fun hsame => ?_⟩
  have husers := congrArg (fun s => s.db.tables.users.length) hsame
  exact absurd husers (by decide +kernel)

end Sp2p.Tracker
