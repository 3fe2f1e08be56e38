import Sp2p.Tracker.Run

/-!
# Unlisted networks do not leak

To a user who neither owns an unlisted network nor is invited to it, and who does not name it, the
tracker answers as if the network were not there. `Tables.hide` takes a network out of the tables
with everything that hangs on it. Every statement about other networks answers on the tables as it
does on the hidden ones, and leaves tables that are hidden to what it makes of the hidden ones
(`Overlooks`); only the two listings look at all networks, and they pass over one that is unlisted,
not owned and without invitation.
-/

namespace Sp2p.Tracker

open Interleaving Protocol

namespace Tables

/-- To the user the network, if there is one of this name, is unlisted, somebody else's, and one
without an invitation. -/
def Hidden (nm : BpChar 30) (u : String) (t : Tables) : Prop :=
  ∀ n ∈ t.networks, n.name = nm →
    n.visible = false ∧ some n.ownerId ≠ t.userId? u ∧ t.invited u n.id = false

/-- The network of this name has this number. -/
def named (t : Tables) (nm : BpChar 30) (nid : Nat) : Bool :=
  t.networks.any fun n => n.id = nid && n.name = nm

/-- The tables without the network of this name and without the rows of it. -/
def hide (nm : BpChar 30) (t : Tables) : Tables :=
  { t.dropLinks fun _ n => t.named nm n with networks := t.networks.filter (·.name ≠ nm) }

variable {t t' : Tables} {nm : BpChar 30}

theorem named_iff {nid : Nat} :
    t.named nm nid = true ↔ ∃ n ∈ t.networks, n.id = nid ∧ n.name = nm := by
  simp [named]

/-! ### Lookups in the hidden tables -/

@[simp] theorem userId?_hide (login : String) : (t.hide nm).userId? login = t.userId? login := rfl

/-- The names that do not mean the hidden network. -/
def Elsewhere (nm : BpChar 30) (name : String) : Prop := nm.text ≠ rstrip name

theorem network?_hide {name : String} (h : Elsewhere nm name) :
    (t.hide nm).network? name = t.network? name := by
  unfold network? hide
  rw [List.find?_filter]
  congr 1
  funext n
  by_cases hn : n.name.text = rstrip name
  · have : n.name ≠ nm := fun he => h (he ▸ hn)
    simp [hn, this]
  · simp [hn]

theorem networkId?_hide {name : String} (h : Elsewhere nm name) :
    (t.hide nm).networkId? name = t.networkId? name := by
  rw [networkId?, networkId?, network?_hide h]

/-- The number of another network is not the hidden one's. -/
theorem not_named_of_networkId? (h : t.Valid) {name : String} (he : Elsewhere nm name) {nid : Nat}
    (hid : t.networkId? name = some nid) : t.named nm nid = false := by
  obtain ⟨n, hn, hname, rfl⟩ := (networkId?_eq_some h).1 hid
  by_contra hnamed
  obtain ⟨n', hn', hid', hnm⟩ := named_iff.1 (by simpa using hnamed)
  obtain rfl : n' = n := List.inj_on_of_nodup_map h.networkIds hn' hn hid'
  exact he (hnm ▸ hname)

end Tables

namespace LinkTable
variable {δ : Type} {gone : Nat → Nat → Bool} {tbl : LinkTable δ}

theorem find?_drop {uid nid : Option Nat}
    (h : ∀ u n, some u = uid → some n = nid → gone u n = false) :
    (tbl.drop gone).find? uid nid = tbl.find? uid nid := by
  unfold find? drop
  rw [List.find?_filter]
  congr 1
  funext r
  by_cases hr : some r.userId = uid ∧ some r.networkId = nid
  · simp [hr.1, hr.2, h r.userId r.networkId hr.1 hr.2]
  · rw [not_and_or] at hr
    rcases hr with hr | hr <;> simp [hr]

theorem drop_push {u n : Nat} {d : δ} (h : gone u n = false) :
    (tbl.push u n d).drop gone = (tbl.drop gone).push u n d := by
  simp [push, drop, h]

/-- Rows can be dropped before or after an insertion of another row. -/
theorem insert_drop {uid nid : Option Nat} {d : δ}
    (h : ∀ u n, some u = uid → some n = nid → gone u n = false) :
    (tbl.drop gone).insert uid nid d = (tbl.insert uid nid d).map (drop gone) := by
  unfold insert
  cases uid with
  | none => rfl
  | some u =>
    cases nid with
    | none => rfl
    | some n =>
      simp only
      rw [find?_drop h]
      split
      · rfl
      · rw [Except.map, drop_push (h u n rfl rfl)]

theorem drop_drop (gone gone' : Nat → Nat → Bool) :
    (tbl.drop gone).drop gone' = tbl.drop fun u n => gone u n || gone' u n := by
  simp [drop, List.filter_filter, Bool.and_comm]

theorem drop_congr {gone gone' : Nat → Nat → Bool} (h : ∀ u n, gone u n = gone' u n) :
    tbl.drop gone = tbl.drop gone' := by
  have : gone = gone' := by funext u n; exact h u n
  rw [this]

end LinkTable

namespace Tables
variable {t t' : Tables} {nm : BpChar 30}

/-! ### Statements on the hidden tables -/

theorem hide_insertUser (login password : String) :
    (t.hide nm).insertUser login password = (t.insertUser login password).map (hide nm) := by
  unfold insertUser
  cases BpChar.ofText 30 login <;> cases BpChar.ofText 70 password <;> try rfl
  simp only
  show (if t.users.any _ then _ else _) = _
  split <;> rfl

theorem hide_updatePassword (login password : String) :
    (t.hide nm).updatePassword login password = (t.updatePassword login password).map (hide nm) := by
  unfold updatePassword
  cases BpChar.ofText 70 password <;> rfl

theorem hide_deleteUserRow (uid : Nat) :
    (t.hide nm).deleteUserRow uid = (t.deleteUserRow uid).hide nm := by
  have hgone : ∀ u n,
      (t.named nm n || (decide (u = uid) || (t.hide nm).owns uid n)) =
        ((decide (u = uid) || t.owns uid n) || (t.deleteUserRow uid).named nm n) := by
    intro u n
    rw [Bool.eq_iff_iff]
    simp only [Bool.or_eq_true, named_iff, owns_iff, hide, deleteUserRow, List.mem_filter,
      decide_eq_true_eq]
    constructor
    · rintro (⟨m, hm, hid, hnm⟩ | hu | ⟨m, ⟨hm, -⟩, hid, ho⟩)
      · by_cases ho : m.ownerId = uid
        · exact .inl (.inr ⟨m, hm, hid, ho⟩)
        · exact .inr ⟨m, ⟨hm, ho⟩, hid, hnm⟩
      · exact .inl (.inl hu)
      · exact .inl (.inr ⟨m, hm, hid, ho⟩)
    · rintro ((hu | ⟨m, hm, hid, ho⟩) | ⟨m, ⟨hm, -⟩, hid, hnm⟩)
      · exact .inr (.inl hu)
      · by_cases hnm : m.name = nm
        · exact .inl ⟨m, hm, hid, hnm⟩
        · exact .inr (.inr ⟨m, ⟨hm, hnm⟩, hid, ho⟩)
      · exact .inl ⟨m, hm, hid, hnm⟩
  have hlinks : ∀ {δ : Type} (tbl : LinkTable δ),
      (tbl.drop fun _ n => t.named nm n).drop (fun u n => decide (u = uid) || (t.hide nm).owns uid n) =
        (tbl.drop fun u n => decide (u = uid) || t.owns uid n).drop
          fun _ n => (t.deleteUserRow uid).named nm n := by
    intro δ tbl
    rw [LinkTable.drop_drop, LinkTable.drop_drop]
    exact LinkTable.drop_congr hgone
  have hnetworks : (t.networks.filter (·.name ≠ nm)).filter (·.ownerId ≠ uid) =
      (t.networks.filter (·.ownerId ≠ uid)).filter (·.name ≠ nm) := by
    rw [List.filter_filter, List.filter_filter]
    exact List.filter_congr fun n _ => Bool.and_comm _ _
  exact Tables.ext rfl rfl hnetworks rfl (hlinks t.servers) (hlinks t.invitations)
    (hlinks t.publicKey)

theorem hide_deleteUser (login : String) :
    (t.hide nm).deleteUser login = (t.deleteUser login).hide nm := by
  unfold deleteUser
  rw [userId?_hide]
  cases t.userId? login with
  | none => rfl
  | some uid => exact hide_deleteUserRow uid

theorem hide_pushNetwork {row : Nat → NetworkRow} (h : ∀ k, (row k).name ≠ nm) :
    (t.pushNetwork row).hide nm = (t.hide nm).pushNetwork row := by
  have hnamed : ∀ nid, (t.pushNetwork row).named nm nid = t.named nm nid := by
    intro nid
    simp [named, pushNetwork, h]
  simp [hide, dropLinks, hnamed]
  simp [pushNetwork, h]

theorem hide_insertNetwork {name : String} (h : Elsewhere nm name) (ownerLogin : String)
    (publicity visible participable : Bool) (creatorMail protocolName : String) :
    (t.hide nm).insertNetwork name ownerLogin publicity visible participable creatorMail protocolName =
      (t.insertNetwork name ownerLogin publicity visible participable creatorMail protocolName).map
        (hide nm) := by
  unfold insertNetwork
  rw [userId?_hide]
  cases hname : BpChar.ofText 30 name <;> cases varchar 40 creatorMail <;>
    cases varchar 40 protocolName <;> cases t.userId? ownerLogin <;> try rfl
  rename_i nm' mail proto uid
  have hne : nm' ≠ nm := fun he => h (he ▸ BpChar.ofText_eq_some.1 hname)
  have hany : (t.hide nm).networks.any (·.name = nm') = t.networks.any (·.name = nm') := by
    rw [Bool.eq_iff_iff]
    simp only [hide, List.any_eq_true, List.mem_filter, decide_eq_true_eq]
    constructor
    · rintro ⟨n, ⟨hn, -⟩, he⟩
      exact ⟨n, hn, he⟩
    · rintro ⟨n, hn, rfl⟩
      exact ⟨n, ⟨hn, hne⟩, rfl⟩
  simp only [hany]
  split
  · rfl
  · rw [Except.map, hide_pushNetwork fun _ => hne]

/-- The three inserts into tables of links. -/
theorem hide_insert {δ : Type} {tbl : LinkTable δ} {d : δ} (hv : t.Valid) {name : String}
    (h : Elsewhere nm name) (uid : Option Nat) {f : LinkTable δ → Tables} {g : LinkTable δ → Tables}
    (hfg : ∀ tbl, g (tbl.drop fun _ n => t.named nm n) = (f tbl).hide nm) :
    ((tbl.drop fun _ n => t.named nm n).insert uid ((t.hide nm).networkId? name) d).map g =
      ((tbl.insert uid (t.networkId? name) d).map f).map (hide nm) := by
  rw [networkId?_hide h, LinkTable.insert_drop fun _ n _ hn =>
    not_named_of_networkId? hv h hn.symm]
  cases tbl.insert uid (t.networkId? name) d with
  | error e => rfl
  | ok tbl' => exact congrArg Except.ok (hfg tbl')

theorem hide_insertInvitation (hv : t.Valid) {network : String} (h : Elsewhere nm network)
    (login : String) :
    (t.hide nm).insertInvitation network login =
      (t.insertInvitation network login).map (hide nm) :=
  hide_insert hv h (t.userId? login) fun _ => rfl

theorem hide_insertKey (hv : t.Valid) {network : String} (h : Elsewhere nm network)
    (login key : String) :
    (t.hide nm).insertKey login network key = (t.insertKey login network key).map (hide nm) :=
  hide_insert hv h (t.userId? login) fun _ => rfl

theorem hide_insertServer (hv : t.Valid) {network : String} (h : Elsewhere nm network)
    (user : String) (d : ServerData) :
    (t.hide nm).insertServer network user d = (t.insertServer network user d).map (hide nm) :=
  hide_insert hv h (t.userId? user) fun _ => rfl

theorem hide_deleteServer {network : String} (h : Elsewhere nm network) (user : String) :
    ((t.hide nm).deleteServer network user).2 = (t.deleteServer network user).2.hide nm := by
  unfold deleteServer
  rw [networkId?_hide h]
  have hdrop : (t.servers.drop fun _ n => t.named nm n).drop
      (fun u n => some u = t.userId? user && some n = t.networkId? network) =
      (t.servers.drop fun u n => some u = t.userId? user && some n = t.networkId? network).drop
        fun _ n => t.named nm n := by
    rw [LinkTable.drop_drop, LinkTable.drop_drop]
    exact LinkTable.drop_congr fun u n => Bool.or_comm _ _
  exact Tables.ext rfl rfl rfl rfl hdrop rfl rfl

theorem hide_deleteNetworkRow (k : Nat) :
    (t.hide nm).deleteNetworkRow k = (t.deleteNetworkRow k).hide nm := by
  have hgone : ∀ n, (t.named nm n || decide (n = k)) =
      (decide (n = k) || (t.deleteNetworkRow k).named nm n) := by
    intro n
    rw [Bool.eq_iff_iff]
    simp only [Bool.or_eq_true, named_iff, deleteNetworkRow, List.mem_filter, decide_eq_true_eq]
    constructor
    · rintro (⟨m, hm, rfl, hnm⟩ | hk)
      · by_cases hk : m.id = k
        · exact .inl hk
        · exact .inr ⟨m, ⟨hm, hk⟩, rfl, hnm⟩
      · exact .inl hk
    · rintro (hk | ⟨m, ⟨hm, -⟩, hid, hnm⟩)
      · exact .inr hk
      · exact .inl ⟨m, hm, hid, hnm⟩
  have hlinks : ∀ {δ : Type} (tbl : LinkTable δ),
      (tbl.drop fun _ n => t.named nm n).drop (fun _ n => decide (n = k)) =
        (tbl.drop fun _ n => decide (n = k)).drop fun _ n => (t.deleteNetworkRow k).named nm n := by
    intro δ tbl
    rw [LinkTable.drop_drop, LinkTable.drop_drop]
    exact LinkTable.drop_congr fun _ n => hgone n
  have hnetworks : (t.networks.filter (·.name ≠ nm)).filter (·.id ≠ k) =
      (t.networks.filter (·.id ≠ k)).filter (·.name ≠ nm) := by
    rw [List.filter_filter, List.filter_filter]
    exact List.filter_congr fun n _ => Bool.and_comm _ _
  exact Tables.ext rfl rfl hnetworks rfl (hlinks t.servers) (hlinks t.invitations)
    (hlinks t.publicKey)

theorem hide_deleteNetwork {name : String} (h : Elsewhere nm name) (login : String) :
    (t.hide nm).deleteNetwork name login =
      ((t.deleteNetwork name login).1, (t.deleteNetwork name login).2.hide nm) := by
  unfold deleteNetwork
  rw [network?_hide h, userId?_hide]
  cases t.network? name with
  | none => rfl
  | some n =>
    simp only
    split
    · rw [hide_deleteNetworkRow]
    · rfl

end Tables

/-! ### The methods on the hidden tables -/

namespace PsqlConnector
open Tables
variable {t : Tables} {nm : BpChar 30}

/-- The method makes of the hidden tables what it makes of the tables, hidden. -/
def Overlooks (nm : BpChar 30) (f : Tables → DBResponse × Tables) : Prop :=
  ∀ t, t.Valid → f (t.hide nm) = ((f t).1, (f t).2.hide nm)

theorem overlooks_work (fault : Bool) (onUnique : DBResponse) {x : Tables → Except SqlError Tables}
    (hx : ∀ t, t.Valid → x (t.hide nm) = (x t).map (hide nm)) :
    Overlooks nm fun t => work fault onUnique t (x t) := by
  intro t ht
  simp only [work, hx t ht]
  cases fault with
  | true => rfl
  | false =>
    cases x t with
    | ok t' => rfl
    | error e => cases e <;> rfl

theorem overlooks_createUser (fault : Bool) (l pw : String) : Overlooks nm (createUser fault l pw) :=
  overlooks_work (x := fun t => t.insertUser l pw) fault .notUnique fun _ _ => hide_insertUser l pw

theorem overlooks_removeUser (fault : Bool) (l : String) : Overlooks nm (removeUser fault l) :=
  overlooks_work (x := fun t => .ok (t.deleteUser l)) fault .notFound fun _ _ =>
    congrArg Except.ok (hide_deleteUser l)

theorem overlooks_changeUserPassword (fault : Bool) (l pw : String) :
    Overlooks nm (changeUserPassword fault l pw) :=
  overlooks_work (x := fun t => t.updatePassword l pw) fault .notFound fun _ _ =>
    hide_updatePassword l pw

theorem overlooks_addKey (fault : Bool) (l key : String) {n : String} (h : Elsewhere nm n) :
    Overlooks nm (addKey fault l n key) :=
  overlooks_work (x := fun t => t.insertKey l n key) fault .notFound fun _ ht =>
    hide_insertKey ht h l key

theorem overlooks_createInvitation (fault : Bool) (l : String) {n : String} (h : Elsewhere nm n) :
    Overlooks nm (createInvitation fault l n) :=
  overlooks_work (x := fun t => t.insertInvitation n l) fault .notUnique fun _ ht =>
    hide_insertInvitation ht h l

theorem overlooks_createNetwork (fault : Bool) {n : String} (h : Elsewhere nm n) (l : String)
    (pub vis part : Bool) (mail proto : String) :
    Overlooks nm (createNetwork fault n l pub vis part mail proto) :=
  overlooks_work (x := fun t => t.insertNetwork n l pub vis part mail proto) fault .notUnique
    fun _ _ => hide_insertNetwork h l pub vis part mail proto

theorem overlooks_deleteNetwork (fault : Bool) (login : String) {name : String}
    (h : Elsewhere nm name) : Overlooks nm (deleteNetwork fault login name) := by
  intro t _
  unfold deleteNetwork
  cases fault with
  | true => rfl
  | false =>
    simp only [hide_deleteNetwork h, Bool.false_eq_true, if_false]
    split <;> rfl

theorem overlooks_updateServer (fault : Bool) (user ip : String) (port ttl : Int) {network : String}
    (h : Elsewhere nm network) : Overlooks nm (updateServer fault network user ip port ttl) := by
  intro t ht
  unfold updateServer
  cases BpChar.ofText 20 ip with
  | none => rfl
  | some addr =>
    have hfind : (t.hide nm).servers.find? (t.userId? user) (t.networkId? network) =
        t.servers.find? (t.userId? user) (t.networkId? network) :=
      LinkTable.find?_drop fun _ n _ hn => not_named_of_networkId? ht h hn.symm
    simp only [userId?_hide, networkId?_hide h, hfind]
    cases fault with
    | true => rfl
    | false =>
      by_cases hrow : (t.servers.find? (t.userId? user) (t.networkId? network)).isSome
      · simp [hrow]
      · simp only [hrow, Bool.false_eq_true, if_false]
        have hwork := overlooks_work false .notFound
          (x := fun t => t.insertServer network user ⟨addr, port, ttl⟩)
          fun t ht => hide_insertServer ht h user ⟨addr, port, ttl⟩
        exact hwork t ht

theorem overlooks_deleteServer (fault : Bool) (user : String) {network : String}
    (h : Elsewhere nm network) : Overlooks nm (deleteServer fault network user) := by
  intro t _
  unfold deleteServer
  cases fault with
  | true => rfl
  | false =>
    simp only [hide_deleteServer h]
    rfl

theorem getUserInfo_hide (ht : t.Valid) (fault : Bool) (login : String) {network : String}
    (h : Elsewhere nm network) :
    getUserInfo fault login network (t.hide nm) = getUserInfo fault login network t := by
  have hfind : (t.hide nm).publicKey.find? (t.userId? login) (t.networkId? network) =
      t.publicKey.find? (t.userId? login) (t.networkId? network) :=
    LinkTable.find?_drop fun _ n _ hn => not_named_of_networkId? ht h hn.symm
  rw [getUserInfo, userId?_hide, networkId?_hide h, hfind, getUserInfo]

theorem getServers_hide (ht : t.Valid) (fault : Bool) {network : String} (h : Elsewhere nm network) :
    getServers fault network (t.hide nm) = getServers fault network t := by
  have hrows : ((t.hide nm).servers.rows.filter fun r =>
      some r.networkId = t.networkId? network && t.users.any (·.id = r.userId)) =
      t.servers.rows.filter fun r =>
        some r.networkId = t.networkId? network && t.users.any (·.id = r.userId) := by
    show (t.servers.rows.filter _).filter _ = _
    rw [List.filter_filter]
    refine List.filter_congr fun r _ => ?_
    by_cases hn : some r.networkId = t.networkId? network
    · simp [not_named_of_networkId? ht h hn.symm]
    · simp [hn]
  unfold getServers
  rw [networkId?_hide h]
  show (if fault then [] else List.map _ (List.filter _ (t.hide nm).servers.rows)) = _
  rw [← hrows]
  rfl

/-! ### The two listings -/

theorem networksWithOwner_hide :
    (t.hide nm).networksWithOwner = t.networksWithOwner.filter (·.1.name ≠ nm) := by
  show (t.networks.filter _).filterMap _ = (t.networks.filterMap _).filter _
  rw [List.filterMap_filter, List.filter_filterMap]
  refine List.filterMap_congr fun n _ => ?_
  by_cases hn : n.name = nm
  · cases t.users.find? (·.id = n.ownerId) <;> simp [hn, Option.filter]
  · cases hfind : t.users.find? (·.id = n.ownerId) with
    | none => simp [hn, show (t.hide nm).users = t.users from rfl, hfind]
    | some v => simp [hn, show (t.hide nm).users = t.users from rfl, hfind, Option.filter]

theorem mem_networksWithOwner {r : NetworkRow × UserRow} (h : r ∈ t.networksWithOwner) :
    r.1 ∈ t.networks ∧ r.2 ∈ t.users ∧ r.2.id = r.1.ownerId := by
  obtain ⟨n, hn, hr⟩ := List.mem_filterMap.1 h
  obtain ⟨v, hv, rfl⟩ := Option.map_eq_some_iff.1 hr
  exact ⟨hn, List.mem_of_find?_eq_some hv, by simpa using List.find?_some hv⟩

/-- A listing passes over the hidden network when its condition on the other ones is the same, and
fails on it. -/
theorem listing_hide {P P' : NetworkRow × UserRow → Bool}
    (hother : ∀ r ∈ t.networksWithOwner, r.1.name ≠ nm → P' r = P r)
    (hhidden : ∀ r ∈ t.networksWithOwner, r.1.name = nm → P r = false) :
    (t.hide nm).networksWithOwner.filter P' = t.networksWithOwner.filter P := by
  rw [networksWithOwner_hide, List.filter_filter]
  refine List.filter_congr fun r hr => ?_
  by_cases hn : r.1.name = nm
  · simp [hn, hhidden r hr hn]
  · simp [hn, hother r hr hn]

/-- The hidden network is not the user's. -/
theorem not_own_of_hidden (ht : t.Valid) {u : String} (h : Hidden nm u t)
    {r : NetworkRow × UserRow} (hr : r ∈ t.networksWithOwner) (hn : r.1.name = nm) :
    r.2.login.text ≠ rstrip u := by
  obtain ⟨hnet, huser, hid⟩ := mem_networksWithOwner hr
  intro hlogin
  exact (h r.1 hnet hn).2.1 ((userId?_eq_some ht).2 ⟨r.2, huser, hlogin, hid⟩).symm

/-- Invitations to other networks are seen in the hidden tables too. -/
theorem invited_hide (ht : t.Valid) (u : String) {n : NetworkRow} (hn : n ∈ t.networks)
    (hne : n.name ≠ nm) : (t.hide nm).invited u n.id = t.invited u n.id := by
  have hnamed : t.named nm n.id = false := by
    by_contra hnamed
    obtain ⟨n', hn', hid, hnm⟩ := named_iff.1 (by simpa using hnamed)
    exact hne (List.inj_on_of_nodup_map ht.networkIds hn' hn hid ▸ hnm)
  show ((t.invitations.drop fun _ n => t.named nm n).rows.any fun r =>
    some r.userId = t.userId? u && r.networkId = n.id) = _
  rw [Bool.eq_iff_iff, invited]
  simp only [List.any_eq_true, LinkTable.mem_drop, Bool.and_eq_true, decide_eq_true_eq]
  constructor
  · rintro ⟨r, ⟨hr, -⟩, h⟩
    exact ⟨r, hr, h⟩
  · rintro ⟨r, hr, h⟩
    exact ⟨r, ⟨hr, by rw [h.2, hnamed]⟩, h⟩

theorem getAllNetworks_hide (ht : t.Valid) (fault : Bool) {u : String} (h : Hidden nm u t) :
    getAllNetworks fault u (t.hide nm) = getAllNetworks fault u t := by
  unfold getAllNetworks
  rw [listing_hide (P := fun r =>
    r.1.visible || r.2.login.text = rstrip u || t.invited u r.1.id)]
  · intro r hr hn
    rw [invited_hide ht u (mem_networksWithOwner hr).1 hn]
  · intro r hr hn
    obtain ⟨hvis, -, hinv⟩ := h r.1 (mem_networksWithOwner hr).1 hn
    simp [hvis, hinv, not_own_of_hidden ht h hr hn]

theorem getUserNetworks_hide (ht : t.Valid) (fault : Bool) {u : String} (h : Hidden nm u t) :
    getUserNetworks fault u (t.hide nm) = getUserNetworks fault u t := by
  unfold getUserNetworks
  rw [listing_hide (P := fun r => r.2.login.text = rstrip u)]
  · exact fun _ _ _ => rfl
  · intro r hr hn
    simp [not_own_of_hidden ht h hr hn]

end PsqlConnector

/-! ### Two states that differ in the network -/

/-- The states differ only in the network of this name: in whether there is one, and what it has. -/
def DifferIn (nm : BpChar 30) (s s' : State) : Prop :=
  s.db.tables.hide nm = s'.db.tables.hide nm ∧ s.sessions = s'.sessions

open Tables in
/-- The calls that are not about the network: they name another one, or none. -/
def Blind (nm : BpChar 30) : Call → Prop
  | .getLogin _ | .login .. | .logout _ | .createUser .. | .removeUser .. | .changeUserPassword ..
  | .userExists .. | .getPassHash .. => True
  | .getUserInfo _ _ n | .addKey _ _ n _ | .createInvitation _ _ n | .createNetwork _ n _ _ _ _ _ _
  | .deleteNetwork _ _ n | .networkExists _ n | .canSeeNetwork _ n _ | .canAddServer _ _ n
  | .updateServer _ n _ _ _ _ | .deleteServer _ n _ | .getServers _ n => Elsewhere nm n
  | .getAllNetworks .. | .getUserNetworks .. => False

variable {nm : BpChar 30} {s s' : State}

/-- A method that reads and overlooks the network. -/
theorem differIn_read {α : Type} {f : Tables → α} (h : DifferIn nm s s')
    (hf : ∀ t, t.Valid → f (t.hide nm) = f t) : f s.db.tables = f s'.db.tables := by
  rw [← hf _ s.db.valid, h.1, hf _ s'.db.valid]

/-- A method that writes and overlooks the network. -/
theorem differIn_write {f : Tables → DBResponse × Tables} (h : DifferIn nm s s')
    (hf : PsqlConnector.Overlooks nm f) (hv : (f s.db.tables).2.Valid)
    (hv' : (f s'.db.tables).2.Valid) :
    (s.write f hv).1 = (s'.write f hv').1 ∧ DifferIn nm (s.write f hv).2 (s'.write f hv').2 := by
  have hs := hf _ s.db.valid
  rw [h.1, hf _ s'.db.valid, Prod.mk.injEq] at hs
  exact ⟨hs.1.symm, hs.2.symm, h.2⟩

open PsqlConnector Tables in
theorem exec_blind {c : Call} (hc : Blind nm c) (h : DifferIn nm s s') :
    (exec c s).1 = (exec c s').1 ∧ DifferIn nm (exec c s).2 (exec c s').2 := by
  cases c with
  | getLogin cookie => exact ⟨congrArg (·.getLogin cookie) h.2, h⟩
  | login l cookie now => exact ⟨rfl, h.1, congrArg (·.login l cookie now) h.2⟩
  | logout cookie =>
    exact ⟨congrArg (fun sc => (sc.logout cookie).1) h.2, h.1,
      congrArg (fun sc => (sc.logout cookie).2) h.2⟩
  | createUser fault l pw => exact differIn_write h (overlooks_createUser fault l pw) _ _
  | removeUser fault l => exact differIn_write h (overlooks_removeUser fault l) _ _
  | changeUserPassword fault l pw =>
    exact differIn_write h (overlooks_changeUserPassword fault l pw) _ _
  | userExists fault l => exact ⟨differIn_read (f := userExists fault l) h fun _ _ => rfl, h⟩
  | getPassHash fault l => exact ⟨differIn_read (f := getPassHash fault l) h fun _ _ => rfl, h⟩
  | getUserInfo fault l n => exact ⟨differIn_read h fun _ ht => getUserInfo_hide ht fault l hc, h⟩
  | addKey fault l n key => exact differIn_write h (overlooks_addKey fault l key hc) _ _
  | createInvitation fault l n =>
    exact differIn_write h (overlooks_createInvitation fault l hc) _ _
  | createNetwork fault n l pub vis part mail proto =>
    exact differIn_write h (overlooks_createNetwork fault hc l pub vis part mail proto) _ _
  | deleteNetwork fault l n => exact differIn_write h (overlooks_deleteNetwork fault l hc) _ _
  | getAllNetworks => exact hc.elim
  | getUserNetworks => exact hc.elim
  | networkExists fault n =>
    refine ⟨differIn_read (f := networkExists fault n) h fun t _ => ?_, h⟩
    rw [networkExists, networkId?_hide hc, networkExists]
  | canSeeNetwork fault n l =>
    refine ⟨differIn_read (f := canSeeNetwork fault n l) h fun t _ => ?_, h⟩
    rw [canSeeNetwork, network?_hide hc, userId?_hide, canSeeNetwork]
  | canAddServer fault l n =>
    refine ⟨differIn_read (f := canAddServer fault l n) h fun t _ => ?_, h⟩
    rw [canAddServer, network?_hide hc, userId?_hide, canAddServer]
  | updateServer fault n u ip port ttl =>
    exact differIn_write h (overlooks_updateServer fault u ip port ttl hc) _ _
  | deleteServer fault n u => exact differIn_write h (overlooks_deleteServer fault u hc) _ _
  | getServers fault n => exact ⟨differIn_read h fun _ ht => getServers_hide ht fault hc, h⟩

/-! ### The requests -/

/-- The network a request names, as its handler takes it from the message. -/
def networkName (m : ClientMessage) : Option String :=
  match m.requestType with
  | .listServers => m.listServersMessage.map (·.networkName.getD "")
  | .createNetwork => m.createNetworkMessage.map (·.networkName.getD "")
  | .deleteNetwork => m.deleteNetworkMessage.map (·.name.getD "")
  | .inviteUser => m.inviteUserMessage.map (·.networkName.getD "")
  | .userInfo => m.userInfoMessage.map (·.networkName.getD "")
  | .updateServer => m.updateServerMessage.map (·.networkName.getD "")
  | .stopServer => m.stopServerMessage.map (·.networkName.getD "")
  | .signKey => m.signKeyMessage.map (·.networkName.getD "")
  | _ => none

variable {env : Env} {m : ClientMessage}

/-- A handler behind the lookup of the session makes the calls it goes on with. -/
theorem blind_authenticated {cookie : String} {k : String → Handler}
    (h : ∀ u, (k u).All (Blind nm)) : (authenticated cookie k).All (Blind nm) :=
  ⟨trivial, fun _ => all_ite trivial (h _)⟩

theorem blind_guard {c : Bool} {r : NodeMessage} {k : Handler} (h : k.All (Blind nm)) :
    (if c = false then pure r else k : Handler).All (Blind nm) :=
  all_ite trivial h

/-- The request does not name the network. -/
def NamesOther (nm : BpChar 30) (m : ClientMessage) : Prop :=
  ∀ name, networkName m = some name → Tables.Elsewhere nm name

theorem blind_listServers (hm : m.requestType = .listServers) (hname : NamesOther nm m) :
    (handleListServers env m).All (Blind nm) := by
  unfold handleListServers
  split
  · rename_i cookie network hsub
    have hn : Tables.Elsewhere nm network := hname network (by simp [networkName, hm, hsub])
    exact blind_authenticated fun _ =>
      ⟨hn, fun _ => blind_guard ⟨hn, fun _ => blind_guard ⟨hn, fun _ => trivial⟩⟩⟩
  · trivial

theorem blind_createNetwork (hm : m.requestType = .createNetwork) (hname : NamesOther nm m) :
    (handleCreateNetwork env m).All (Blind nm) := by
  unfold handleCreateNetwork
  split
  · rename_i cookie name access vis part mail proto hsub
    have hn : Tables.Elsewhere nm name := hname name (by simp [networkName, hm, hsub])
    refine blind_authenticated fun _ => ⟨hn, fun r => ?_⟩
    cases r with
    | ok => exact ⟨hn, fun _ => trivial⟩
    | _ => trivial
  · trivial

theorem blind_deleteNetwork (hm : m.requestType = .deleteNetwork) (hname : NamesOther nm m) :
    (handleDeleteNetwork env m).All (Blind nm) := by
  unfold handleDeleteNetwork
  split
  · rename_i cookie name hsub
    have hn : Tables.Elsewhere nm name := hname name (by simp [networkName, hm, hsub])
    exact blind_authenticated fun _ => ⟨hn, fun _ => blind_guard ⟨hn, fun _ => trivial⟩⟩
  · trivial

theorem blind_inviteUser (hm : m.requestType = .inviteUser) (hname : NamesOther nm m) :
    (handleInviteUser env m).All (Blind nm) := by
  unfold handleInviteUser
  split
  · rename_i cookie invitedLogin network hsub
    have hn : Tables.Elsewhere nm network := hname network (by simp [networkName, hm, hsub])
    exact blind_authenticated fun _ =>
      ⟨hn, fun _ => blind_guard ⟨trivial, fun _ => blind_guard ⟨hn, fun _ => trivial⟩⟩⟩
  · trivial

theorem blind_userInfo (hm : m.requestType = .userInfo) (hname : NamesOther nm m) :
    (handleUserInfo env m).All (Blind nm) := by
  unfold handleUserInfo
  split
  · rename_i sub hsub
    have hn : Tables.Elsewhere nm (sub.networkName.getD "") :=
      hname _ (by simp [networkName, hm, hsub])
    exact blind_authenticated fun _ =>
      ⟨trivial, fun _ => blind_guard ⟨hn, fun _ => blind_guard ⟨hn, fun _ => trivial⟩⟩⟩
  · trivial

theorem blind_updateServer (hm : m.requestType = .updateServer) (hname : NamesOther nm m) :
    (handleUpdateServer env m).All (Blind nm) := by
  unfold handleUpdateServer
  split
  · rename_i sub hsub
    have hn : Tables.Elsewhere nm (sub.networkName.getD "") :=
      hname _ (by simp [networkName, hm, hsub])
    refine blind_authenticated fun _ =>
      ⟨hn, fun _ => blind_guard ⟨hn, fun _ => blind_guard ⟨hn, fun r => ?_⟩⟩⟩
    cases r <;> trivial
  · trivial

theorem blind_stopServer (hm : m.requestType = .stopServer) (hname : NamesOther nm m) :
    (handleStopServer env m).All (Blind nm) := by
  unfold handleStopServer
  split
  · rename_i sub hsub
    have hn : Tables.Elsewhere nm (sub.networkName.getD "") :=
      hname _ (by simp [networkName, hm, hsub])
    exact blind_authenticated fun _ => ⟨hn, fun _ => blind_guard ⟨hn, fun _ => trivial⟩⟩
  · trivial

theorem blind_signKey (hm : m.requestType = .signKey) (hname : NamesOther nm m) :
    (handleSignKey env m).All (Blind nm) := by
  unfold handleSignKey
  split
  · rename_i sub hsub
    have hn : Tables.Elsewhere nm (sub.networkName.getD "") :=
      hname _ (by simp [networkName, hm, hsub])
    refine blind_authenticated fun _ => ⟨hn, fun r => all_ite trivial ?_⟩
    cases r <;> trivial
  · trivial

/-! The requests that name no network. -/

theorem blind_register : (handleRegister env m).All (Blind nm) := by
  unfold handleRegister
  split
  · refine ⟨trivial, fun r => ?_⟩
    cases r with
    | ok => exact all_ite trivial trivial
    | _ => trivial
  · trivial

theorem blind_login : (handleLogin env m).All (Blind nm) := by
  unfold handleLogin
  split
  · exact all_bind ⟨trivial, fun _ => trivial⟩ fun _ => blind_guard ⟨trivial, fun _ => trivial⟩
  · trivial

theorem blind_changePassword : (handleChangePassword env m).All (Blind nm) := by
  unfold handleChangePassword
  split
  · exact blind_authenticated fun _ => all_bind ⟨trivial, fun _ => trivial⟩ fun _ =>
      blind_guard ⟨trivial, fun _ => trivial⟩
  · trivial

theorem blind_unregister : (handleUnregister env m).All (Blind nm) := by
  unfold handleUnregister
  split
  · exact blind_authenticated fun _ => ⟨trivial, fun _ => trivial⟩
  · trivial

theorem blind_removeUser : (handleRemoveUser env m).All (Blind nm) := by
  unfold handleRemoveUser
  split
  · exact blind_authenticated fun _ => ⟨trivial, fun _ => ⟨trivial, fun _ => trivial⟩⟩
  · trivial

theorem blind_logout : (handleLogout m).All (Blind nm) := by
  unfold handleLogout
  split
  · exact ⟨trivial, fun _ => trivial⟩
  · trivial

/-- A request that is no listing and does not name the network makes no call about it. -/
theorem handleRequest_blind (hname : NamesOther nm m) (hall : m.requestType ≠ .listNetworks)
    (hmine : m.requestType ≠ .listMyNetworks) : (handleRequest env m).All (Blind nm) := by
  unfold handleRequest
  cases hm : m.requestType with
  | register => exact blind_register
  | unregister => exact blind_unregister
  | login => exact blind_login
  | logout => exact blind_logout
  | listNetworks => exact absurd hm hall
  | listMyNetworks => exact absurd hm hmine
  | listServers => exact blind_listServers hm hname
  | createNetwork => exact blind_createNetwork hm hname
  | deleteNetwork => exact blind_deleteNetwork hm hname
  | inviteUser => exact blind_inviteUser hm hname
  | removeUser => exact blind_removeUser
  | userInfo => exact blind_userInfo hm hname
  | updateServer => exact blind_updateServer hm hname
  | stopServer => exact blind_stopServer hm hname
  | signKey => exact blind_signKey hm hname
  | changePassword => exact blind_changePassword

/-- LIST_NETWORKS gives the same listing, to the user the network is hidden from. -/
theorem listNetworks_hidden {cookie u : String} (hm : m.requestType = .listNetworks)
    (hauth : AuthenticatedAs m s cookie u) (hauth' : AuthenticatedAs m s' cookie u)
    (hdiff : DifferIn nm s s') (h : s.db.tables.Hidden nm u) (h' : s'.db.tables.Hidden nm u) :
    (handle env m s).1 = (handle env m s').1 ∧ DifferIn nm (handle env m s).2 (handle env m s').2 := by
  have hlist : PsqlConnector.getAllNetworks (env.fault 0) u s.db.tables =
      PsqlConnector.getAllNetworks (env.fault 0) u s'.db.tables := by
    rw [← PsqlConnector.getAllNetworks_hide s.db.valid (env.fault 0) h, hdiff.1,
      PsqlConnector.getAllNetworks_hide s'.db.valid (env.fault 0) h']
  unfold handle handleRequest
  simp only [hm]
  unfold handleListNetworks
  rcases hsub : m.listNetworksMessage with _ | ⟨_ | c⟩
  · exact ⟨rfl, hdiff⟩
  · exact ⟨rfl, hdiff⟩
  · obtain rfl : c = cookie := by
      simpa [ClientMessage.cookie, hm, hsub] using hauth.presents
    simp only
    rw [hauth.run, hauth'.run]
    exact ⟨congrArg (NodeMessageFactory.listNetworksResponse env) hlist, hdiff⟩

theorem listMyNetworks_hidden {cookie u : String} (hm : m.requestType = .listMyNetworks)
    (hauth : AuthenticatedAs m s cookie u) (hauth' : AuthenticatedAs m s' cookie u)
    (hdiff : DifferIn nm s s') (h : s.db.tables.Hidden nm u) (h' : s'.db.tables.Hidden nm u) :
    (handle env m s).1 = (handle env m s').1 ∧ DifferIn nm (handle env m s).2 (handle env m s').2 := by
  have hlist : PsqlConnector.getUserNetworks (env.fault 0) u s.db.tables =
      PsqlConnector.getUserNetworks (env.fault 0) u s'.db.tables := by
    rw [← PsqlConnector.getUserNetworks_hide s.db.valid (env.fault 0) h, hdiff.1,
      PsqlConnector.getUserNetworks_hide s'.db.valid (env.fault 0) h']
  unfold handle handleRequest
  simp only [hm]
  unfold handleListMyNetworks
  rcases hsub : m.listMyNetworksMessage with _ | ⟨_ | c⟩
  · exact ⟨rfl, hdiff⟩
  · exact ⟨rfl, hdiff⟩
  · obtain rfl : c = cookie := by
      simpa [ClientMessage.cookie, hm, hsub] using hauth.presents
    simp only
    rw [hauth.run, hauth'.run]
    exact ⟨congrArg (NodeMessageFactory.listMyNetworksResponse env) hlist, hdiff⟩

/-- **Unlisted networks do not leak.** In two states that differ in one network only, hidden from the
user in both, a request of the user that does not name it gets one reply, and the states it leaves
differ in that network only. -/
theorem unlisted_hidden (env : Env) (m : ClientMessage) (s s' : State) (nm : BpChar 30)
    (cookie u : String) (hdiff : DifferIn nm s s') (h : s.db.tables.Hidden nm u)
    (h' : s'.db.tables.Hidden nm u) (hauth : AuthenticatedAs m s cookie u)
    (hname : NamesOther nm m) :
    (handle env m s).1 = (handle env m s').1 ∧ DifferIn nm (handle env m s).2 (handle env m s').2 := by
  have hauth' : AuthenticatedAs m s' cookie u :=
    ⟨hauth.presents, by rw [← hdiff.2]; exact hauth.login, hauth.nonempty⟩
  by_cases hall : m.requestType = .listNetworks
  · exact listNetworks_hidden hall hauth hauth' hdiff h h'
  · by_cases hmine : m.requestType = .listMyNetworks
    · exact listMyNetworks_hidden hmine hauth hauth' hdiff h h'
    · exact run_rel exec (fun _ _ _ => exec_blind) (handleRequest_blind hname hall hmine) hdiff

/-! Alice makes an unlisted network and deletes it; Bob, who has a session, lists the networks. -/

def hideout : BpChar 30 := ⟨"hideout", by decide, by decide⟩

def withHideout : List Request :=
  [.register Env.sample "alice" "secret" "request", .login Env.sample "alice" "secret",
    .createUnlisted Env.sample "c00kie" "hideout"]

def withoutHideout : List Request :=
  withHideout ++ [.deleteNetwork Env.sample "c00kie" "hideout"]

/-- The database after the requests, and a session of Bob's. -/
def bobAfter (rs : List Request) : State :=
  ⟨(after rs).db, SessionControler.empty.login "bob" "b0b" 0⟩

theorem unlisted_hidden_hideout :
    (handle Env.sample (Request.listNetworks Env.sample "b0b").message (bobAfter withHideout)).1 =
        (handle Env.sample (Request.listNetworks Env.sample "b0b").message
          (bobAfter withoutHideout)).1 ∧
      DifferIn hideout
        (handle Env.sample (Request.listNetworks Env.sample "b0b").message (bobAfter withHideout)).2
        (handle Env.sample (Request.listNetworks Env.sample "b0b").message
          (bobAfter withoutHideout)).2 :=
  unlisted_hidden Env.sample _ _ _ hideout "b0b" "bob" ⟨by decide, rfl⟩
    (by unfold Tables.Hidden; decide) (by unfold Tables.Hidden; decide)
    ⟨rfl, by decide, by decide⟩ (fun _ h => by cases h)

end Sp2p.Tracker
