import Sp2p.Tracker.Listing
import Sp2p.Sercli.MessageFactory

/-!
# From a network's description to the lists of networks

`Node::registerNetwork` sends a description, the tracker stores it, and the two listings bring it
back to the client. `network_roundTrip_iff` says exactly when it comes back as it was: no text of it
may have white space in it, the e-mail address must be the user's name, and the two fields that no
code sets, the access rights on the tracker and the visibility at the client, must happen to be
right.
-/

namespace Sp2p

open Protocol Tracker Sercli NodeMessageFactory NetworkDescription

/-- The list has one network of the description's name, and it is the one described, of the user. -/
structure ComesBack (networkDesc : NetworkDescription) (u : String)
    (list : List NetworkDescription) (i : Nat) (entry : NetworkDescription) : Prop where
  get : list[i]? = some entry
  name : entry.networkName = networkDesc.networkName
  once : ∀ j other, list[j]? = some other → other.networkName = networkDesc.networkName → j = i
  accessRights : entry.accessRights = networkDesc.accessRights
  participationRights : entry.participationRights = networkDesc.participationRights
  visability : entry.visability = networkDesc.visability
  protocolName : entry.protocolName = networkDesc.protocolName
  username : entry.creator.username = u
  email : entry.creator.email = networkDesc.creator.email

/-- What the client makes of a listed network; `visability` and `garbage` are what was there. -/
def listedAs (visability : Visibility) (garbage : Bool) (r : NetworkRow × UserRow) :
    NetworkDescription :=
  getNetworkDescriptionFromProto visability (networkEntry garbage (PsqlConnector.protoNetwork r))

def clientList (env : Env) (uninit : Nat → Visibility) (rows : List (NetworkRow × UserRow)) :
    List NetworkDescription :=
  rows.mapIdx fun i r => listedAs (uninit i) (env.uninitialized i) r

/-- The rows of the network, as it was described, and of its owner. -/
structure StoredNetwork (networkDesc : NetworkDescription) (u : String) (n : NetworkRow)
    (w : UserRow) : Prop where
  name : BpChar.ofText 30 networkDesc.networkName = some n.name
  protocolName : varchar 40 networkDesc.protocolName = some n.protocolName
  participable : n.participable = decide (networkDesc.participationRights = .CLIENT_SERVER)
  owner : w.login.text = rstrip u

/-- What it takes for the description to survive. -/
structure Survives (networkDesc : NetworkDescription) (u : String) (env : Env)
    (uninit : Nat → Visibility) (rows : List (NetworkRow × UserRow)) (nid : Nat) : Prop where
  name : NoSpace networkDesc.networkName
  protocolName : NoSpace networkDesc.protocolName
  user : NoSpace u
  email : networkDesc.creator.email = u
  distinct : ∀ r ∈ rows, r.1.id ≠ nid → toStdString r.1.name.out ≠ networkDesc.networkName
  garbage : ∃ i r, rows[i]? = some r ∧ r.1.id = nid ∧
    (env.uninitialized i = true ↔ networkDesc.accessRights = .PUBLIC) ∧
    uninit i = networkDesc.visability

variable {networkDesc : NetworkDescription} {u : String} {env : Env} {uninit : Nat → Visibility}
  {rows : List (NetworkRow × UserRow)} {n : NetworkRow} {w : UserRow}

theorem getElem?_clientList (i : Nat) :
    (clientList env uninit rows)[i]? =
      rows[i]?.map (listedAs (uninit i) (env.uninitialized i)) := by
  simp [clientList]

theorem getElem?_clientList_of_row {i : Nat} {r : NetworkRow × UserRow} (hr : rows[i]? = some r) :
    (clientList env uninit rows)[i]? = some (listedAs (uninit i) (env.uninitialized i) r) := by
  rw [getElem?_clientList, hr, Option.map_some]

theorem listedAs_eq (visability : Visibility) (garbage : Bool) (r : NetworkRow × UserRow) :
    listedAs visability garbage r =
      { networkName := toStdString r.1.name.out
        creator := ⟨toStdString r.2.login.out, toStdString r.2.login.out⟩
        protocolName := toStdString r.1.protocolName
        participationRights := if r.1.participable then .CLIENT_SERVER else .CLIENT_ONLY
        accessRights := if garbage then .PUBLIC else .PRIVATE
        visability } := by
  obtain ⟨n, w⟩ := r
  cases garbage <;> cases hpart : n.participable <;>
    simp [listedAs, getNetworkDescriptionFromProto, networkEntry, PsqlConnector.protoNetwork, hpart]

/-- Both replies carry the rows to the client in one way. -/
theorem networksOfReply_eq :
    networksOfReply uninit (listNetworksResponse env (rows.map PsqlConnector.protoNetwork)) =
      clientList env uninit rows := by
  apply List.ext_getElem?
  intro i
  simp only [networksOfReply, listNetworksResponse, Option.getD_some, List.getElem?_mapIdx,
    List.getElem?_map, Option.map_map, getElem?_clientList]
  rfl

theorem myNetworksOfReply_eq :
    myNetworksOfReply uninit (listMyNetworksResponse env (rows.map PsqlConnector.protoNetwork)) =
      clientList env uninit rows := by
  apply List.ext_getElem?
  intro i
  simp only [myNetworksOfReply, listMyNetworksResponse, Option.getD_some, List.getElem?_mapIdx,
    List.getElem?_map, Option.map_map, getElem?_clientList]
  rfl

/-- Nothing comes back in an empty list. -/
theorem not_comesBack_nil (i : Nat) (entry : NetworkDescription) :
    ¬ ComesBack networkDesc u (clientList env uninit []) i entry := by
  intro h
  cases h.get

/-- The owner's name comes back exactly when there is no white space in it. -/
theorem StoredNetwork.username (h : StoredNetwork networkDesc u n w) :
    toStdString w.login.out = u ↔ NoSpace u := by
  refine toStdString_out_ofText (n := 30) ?_
  rw [BpChar.ofText_eq_some]
  exact h.owner

/-- The one entry of the name is that of each row which reads as the name. -/
theorem ComesBack.eq_of_row {i j : Nat} {entry : NetworkDescription} {r : NetworkRow × UserRow}
    (h : ComesBack networkDesc u (clientList env uninit rows) i entry) (hr : rows[j]? = some r)
    (hread : toStdString r.1.name.out = networkDesc.networkName) : j = i := by
  refine h.once j _ (getElem?_clientList_of_row hr) ?_
  rw [listedAs_eq]
  exact hread

theorem ComesBack.survives {i : Nat} {entry : NetworkDescription} (h : StoredNetwork networkDesc u n w)
    (hmem : (n, w) ∈ rows)
    (hback : ComesBack networkDesc u (clientList env uninit rows) i entry) :
    Survives networkDesc u env uninit rows n.id := by
  obtain ⟨k, hk⟩ := List.getElem?_of_mem hmem
  have hget := hback.get
  rw [getElem?_clientList, Option.map_eq_some_iff] at hget
  obtain ⟨r, hr, rfl⟩ := hget
  have hname : NoSpace networkDesc.networkName := by
    rw [← hback.name, listedAs_eq]
    exact noSpace_toStdString _
  have hown : toStdString n.name.out = networkDesc.networkName :=
    (toStdString_out_ofText h.name).2 hname
  -- the network's own row reads as the name, so it is the one found
  obtain rfl : k = i := hback.eq_of_row hk hown
  obtain rfl := Option.some_inj.1 (hk.symm.trans hr)
  obtain ⟨-, -, -, haccess, -, hvis, hproto, huser, hemail⟩ := id hback
  rw [listedAs_eq] at haccess hvis hproto huser hemail
  dsimp only at haccess hvis hproto huser hemail
  refine ⟨hname, (toStdString_varchar h.protocolName).1 hproto, h.username.1 huser,
    hemail.symm.trans huser, fun r' hr' hne hread => ?_, k, _, hk, rfl, ?_, hvis⟩
  · obtain ⟨j, hj⟩ := List.getElem?_of_mem hr'
    obtain rfl : j = k := hback.eq_of_row hj hread
    obtain rfl := Option.some_inj.1 (hj.symm.trans hk)
    exact hne rfl
  · rw [← haccess]
    cases env.uninitialized k <;> simp

/-- A row has one place in the listing. -/
theorem index_unique (hids : (rows.map (·.1.id)).Nodup) {i j : Nat} {r r' : NetworkRow × UserRow}
    (hr : rows[i]? = some r) (hr' : rows[j]? = some r') (hid : r'.1.id = r.1.id) : j = i := by
  have hi : i < (rows.map (·.1.id)).length := by
    rw [List.length_map]
    exact (List.getElem?_eq_some_iff.1 hr).1
  refine ((List.getElem?_inj hi hids).1 ?_).symm
  rw [List.getElem?_map, List.getElem?_map, hr, hr']
  exact congrArg some hid.symm

theorem Survives.comesBack (h : StoredNetwork networkDesc u n w) (hmem : (n, w) ∈ rows)
    (hids : (rows.map (·.1.id)).Nodup) (hs : Survives networkDesc u env uninit rows n.id) :
    ∃ i entry, ComesBack networkDesc u (clientList env uninit rows) i entry := by
  obtain ⟨hname, hproto, huser, hemail, hdistinct, i, r, hr, hid, haccess, hvis⟩ := hs
  have hown : toStdString n.name.out = networkDesc.networkName :=
    (toStdString_out_ofText h.name).2 hname
  have huser' : toStdString w.login.out = u := h.username.2 huser
  obtain rfl : r = (n, w) := List.inj_on_of_nodup_map hids (List.mem_of_getElem? hr) hmem hid
  refine ⟨i, _, getElem?_clientList_of_row hr, ?_, fun j other hj hread => ?_, ?_, ?_, ?_, ?_, ?_, ?_⟩
  · rw [listedAs_eq]
    exact hown
  · rw [getElem?_clientList, Option.map_eq_some_iff] at hj
    obtain ⟨r', hr', rfl⟩ := hj
    rw [listedAs_eq] at hread
    refine index_unique hids hr hr' ?_
    by_contra hne
    exact hdistinct r' (List.mem_of_getElem? hr') hne hread
  · rw [listedAs_eq]
    cases hg : env.uninitialized i <;> cases ha : networkDesc.accessRights <;> simp_all
  · rw [listedAs_eq, h.participable]
    cases networkDesc.participationRights <;> simp
  · rw [listedAs_eq]
    exact hvis
  · rw [listedAs_eq]
    exact (toStdString_varchar h.protocolName).2 hproto
  · rw [listedAs_eq]
    exact huser'
  · rw [listedAs_eq, hemail]
    exact huser'

/-- The description of the row itself is right exactly when it survives. -/
theorem comesBack_iff (hids : (rows.map (·.1.id)).Nodup) (hmem : (n, w) ∈ rows)
    (h : StoredNetwork networkDesc u n w) :
    (∃ i entry, ComesBack networkDesc u (clientList env uninit rows) i entry) ↔
      Survives networkDesc u env uninit rows n.id := by
  constructor
  · rintro ⟨i, entry, hback⟩
    exact hback.survives h hmem
  · intro hs
    exact hs.comesBack h hmem hids

/-! ### The stored network -/

variable {s : State} {cookie : String}

/-- A network is stored as it was described. -/
theorem exists_storedNetwork {env : Env}
    (hauth : AuthenticatedAs (getCreateNetworkMessage networkDesc cookie) s cookie u)
    (hok : (handle env (getCreateNetworkMessage networkDesc cookie) s).1.isOk) :
    ∃ n, (handle env (getCreateNetworkMessage networkDesc cookie) s).2.db.tables.network?
        networkDesc.networkName = some n ∧
      (handle env (getCreateNetworkMessage networkDesc cookie) s).2.db.tables.userId? u =
        some n.ownerId ∧
      ∀ w : UserRow, w.login.text = rstrip u → StoredNetwork networkDesc u n w := by
  obtain ⟨n, invitations, hn, ht⟩ := handle_createNetwork_ok rfl rfl hauth hok
  refine ⟨n, ?_, ?_, fun w hw => ⟨hn.name, hn.protocolName, ?_, hw⟩⟩
  · rw [Tables.network?_eq_some (handle env _ s).2.db.valid, ht]
    exact ⟨List.mem_append_right _ (List.mem_singleton_self n), BpChar.ofText_eq_some.1 hn.name⟩
  · rw [ht]
    exact hn.owner
  · rw [hn.participable]
    cases networkDesc.participationRights <;> simp

/-- The listings show the network to its owner. -/
theorem mem_own {t : Tables} (h : t.Valid) (hn : n ∈ t.networks) (hw : w ∈ t.users)
    (hid : w.id = n.ownerId) (hlogin : w.login.text = rstrip u) : (n, w) ∈ t.own u := by
  refine List.mem_filter.2 ⟨(mem_networksWithOwner_iff h).2 ⟨hn, hw, hid⟩, ?_⟩
  exact decide_eq_true hlogin

theorem mem_shown_of_own (t : Tables) (u : String) {r : NetworkRow × UserRow} (hr : r ∈ t.own u) :
    r ∈ t.shown u := by
  obtain ⟨hmem, hlogin⟩ := List.mem_filter.1 hr
  refine List.mem_filter.2 ⟨hmem, ?_⟩
  rw [hlogin]
  simp

/-- **A network's description comes back from the tracker exactly when it survives all the
conversions**, in the list of all networks and in that of one's own. -/
theorem network_roundTrip_iff {env : Env}
    (hauth : AuthenticatedAs (getCreateNetworkMessage networkDesc cookie) s cookie u)
    (hok : (handle env (getCreateNetworkMessage networkDesc cookie) s).1.isOk) :
    ∃ n, (handle env (getCreateNetworkMessage networkDesc cookie) s).2.db.tables.network?
        networkDesc.networkName = some n ∧
      ∀ rs s', s' = afterFrom (handle env (getCreateNetworkMessage networkDesc cookie) s).2 rs →
        n ∈ s'.db.tables.networks → ∀ cookie', s'.sessions.getLogin cookie' = u →
        ∀ (env' : Env) (uninit : Nat → Visibility),
        ((∃ i entry, ComesBack networkDesc u
            (networksOfReply uninit (handle env' (getListNetworksMessage cookie') s').1) i entry) ↔
          env'.fault 0 = false ∧
            Survives networkDesc u env' uninit (s'.db.tables.shown u) n.id) ∧
        ((∃ i entry, ComesBack networkDesc u
            (myNetworksOfReply uninit (handle env' (getListMyNetworksMessage cookie') s').1) i entry) ↔
          env'.fault 0 = false ∧
            Survives networkDesc u env' uninit (s'.db.tables.own u) n.id) := by
  obtain ⟨n, hn, howner, hstored⟩ := exists_storedNetwork hauth hok
  refine ⟨n, hn, fun rs s' hs' hstays cookie' hlogin env' uninit => ?_⟩
  obtain ⟨w, hw, hid⟩ := s'.db.valid.owner n hstays
  have hwlogin : w.login.text = rstrip u := by
    rw [hs'] at hw
    exact login_afterFrom howner hw hid
  have hown := mem_own s'.db.valid hstays hw hid hwlogin
  have hnodup := nodup_networksWithOwner s'.db.valid
  have hshown : ((s'.db.tables.shown u).map (·.1.id)).Nodup :=
    hnodup.sublist (List.filter_sublist.map _)
  have hmine : ((s'.db.tables.own u).map (·.1.id)).Nodup :=
    hnodup.sublist (List.filter_sublist.map _)
  have hauth₁ : AuthenticatedAs (getListNetworksMessage cookie') s' cookie' u :=
    ⟨rfl, hlogin, hauth.nonempty⟩
  have hauth₂ : AuthenticatedAs (getListMyNetworksMessage cookie') s' cookie' u :=
    ⟨rfl, hlogin, hauth.nonempty⟩
  rw [handle_listNetworks_ok rfl rfl hauth₁, handle_listMyNetworks_ok rfl rfl hauth₂]
  cases hfault : env'.fault 0 with
  | true =>
    rw [if_pos rfl, if_pos rfl, ← List.map_nil (f := PsqlConnector.protoNetwork), networksOfReply_eq,
      myNetworksOfReply_eq]
    simp [not_comesBack_nil]
  | false =>
    rw [if_neg (by simp), if_neg (by simp), networksOfReply_eq, myNetworksOfReply_eq,
      comesBack_iff hshown (mem_shown_of_own _ _ hown) (hstored w hwlogin),
      comesBack_iff hmine hown (hstored w hwlogin)]
    simp

/-- Bob is logged in. -/
def bobOnline : State :=
  after [.register Env.sample "bob" "secret" "request", .login Env.sample "bob" "secret"]

def chess (email : String) : NetworkDescription where
  accessRights := .PRIVATE
  visability := .LISTED
  participationRights := .CLIENT_SERVER
  protocolName := "uci"
  networkName := "chess"
  creator := ⟨"bob", email⟩

/-- The state in which bob has created it. -/
def chessCreated (email : String) : State :=
  (handle Env.sample (getCreateNetworkMessage (chess email) "c00kie") bobOnline).2

theorem network_roundTrip_iff_chess :
    ∃ n, (chessCreated "bob").db.tables.network? "chess" = some n ∧
      ((∃ i entry, ComesBack (chess "bob") "bob"
          (networksOfReply (fun _ => .LISTED)
            (handle Env.sample (getListNetworksMessage "c00kie") (chessCreated "bob")).1) i entry) ↔
        Env.sample.fault 0 = false ∧ Survives (chess "bob") "bob" Env.sample (fun _ => .LISTED)
          ((chessCreated "bob").db.tables.shown "bob") n.id) := by
  have hauth : AuthenticatedAs (getCreateNetworkMessage (chess "bob") "c00kie") bobOnline "c00kie"
      "bob" := ⟨rfl, by decide +kernel, by decide⟩
  have hok : (handle Env.sample (getCreateNetworkMessage (chess "bob") "c00kie") bobOnline).1.isOk := by
    decide +kernel
  obtain ⟨n, hn, h⟩ := network_roundTrip_iff hauth hok
  have hmem : n ∈ (chessCreated "bob").db.tables.networks :=
    ((Tables.network?_eq_some (chessCreated "bob").db.valid).1 hn).1
  exact ⟨n, hn, (h [] (chessCreated "bob") rfl hmem "c00kie" (by decide +kernel) Env.sample _).1⟩

/-- Bob's network comes back with his name for his e-mail address. -/
theorem not_comesBack_chess :
    (handle Env.sample (getCreateNetworkMessage (chess "bob@mail") "c00kie") bobOnline).1.isOk ∧
      ¬ ∃ i entry, ComesBack (chess "bob@mail") "bob"
        (networksOfReply (fun _ => .LISTED)
          (handle Env.sample (getListNetworksMessage "c00kie") (chessCreated "bob@mail")).1) i entry := by
  refine ⟨by decide +kernel, ?_⟩
  rintro ⟨i, entry, h⟩
  have hlist : networksOfReply (fun _ => .LISTED)
      (handle Env.sample (getListNetworksMessage "c00kie") (chessCreated "bob@mail")).1 =
        [chess "bob"] := by
    decide +kernel
  have hmem := List.mem_of_getElem? h.get
  rw [hlist, List.mem_singleton] at hmem
  subst hmem
  exact absurd h.email (by decide)

end Sp2p
