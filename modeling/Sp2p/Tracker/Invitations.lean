import Sp2p.Tracker.Permissions

/-!
# Invitations

An invitation stays as long as its user and its network do, and it comes from an INVITE_USER or from
the creation of the network. Of the queries that decide about access only the one behind
LIST_NETWORKS reads it, so an invited user has the access an invitation is to give exactly when he
owns the network (`grantsAccess_iff`). Nobody asks who invites: the invitations are the owners'
exactly in the runs whose every INVITE_USER is an owner's, or adds nothing (`invitedByOwners_iff`).
-/

namespace Sp2p.Tracker

open Interleaving Protocol NodeMessageFactory

variable {env : Env} {m : ClientMessage} {s : State} {rs : List Request}

/-! ### Inviting -/

/-- An INVITE_USER would add an invitation of this user to this network. -/
structure CanInvite (env : Env) (t : Tables) (username network : String) (uid nid : Nat) : Prop where
  fault : env.fault 0 = false ∧ env.fault 1 = false ∧ env.fault 2 = false
  user : t.userId? username = some uid
  network : t.networkId? network = some nid
  first : t.invitations.find? (some uid) (some nid) = none

/-- An INVITE_USER adds the invitation and is answered `OK`, or is refused. -/
theorem handle_inviteUser {cookie u username network : String} (hm : m.requestType = .inviteUser)
    (hsub : m.inviteUserMessage = some ⟨some cookie, some username, some network⟩)
    (hauth : AuthenticatedAs m s cookie u) :
    (∃ uid nid, CanInvite env s.db.tables username network uid nid ∧ (handle env m s).1.isOk ∧
      (handle env m s).2.db.tables =
        { s.db.tables with invitations := s.db.tables.invitations.push uid nid () }) ∨
      (∀ uid nid, ¬ CanInvite env s.db.tables username network uid nid) ∧
        ¬ (handle env m s).1.isOk ∧ (handle env m s).2 = s := by
  rw [handle, handleRequest, hm]
  dsimp only
  unfold handleInviteUser
  simp only [hsub, hauth.run]
  rw [run_read (c := .networkExists (env.fault 0) network) rfl]
  by_cases hfound : PsqlConnector.networkExists (env.fault 0) network s.db.tables = true
  · rw [if_neg (by simp [hfound]), run_read (c := .userExists (env.fault 1) username) rfl]
    by_cases hknown : PsqlConnector.userExists (env.fault 1) username s.db.tables = true
    · rw [if_neg (by simp [hknown]), run_callShared]
      rcases exec_createInvitation (env.fault 2) username network s with
        ⟨s', hfault, hins, -, he⟩ | ⟨r, hr, hno, he⟩ <;> rw [he]
      · left
        obtain ⟨uid, nid, hu, hn, hnew, ht⟩ := Tables.insertInvitation_eq_ok.1 hins
        have hfaults := (PsqlConnector.networkExists_iff.1 hfound).1
        exact ⟨uid, nid, ⟨⟨hfaults, (PsqlConnector.userExists_iff.1 hknown).1, hfault⟩, hu, hn, hnew⟩,
          (isOk_errorMesage _).2 rfl, ht⟩
      · right
        refine ⟨fun uid nid h => ?_, fun hok => ?_, rfl⟩
        · rcases hno with hf | hno
          · rw [h.fault.2.2] at hf
            cases hf
          · exact hno _ (Tables.insertInvitation_eq_ok.2 ⟨uid, nid, h.user, h.network, h.first, rfl⟩)
        · exact hr ((dbError_eq_ok (by decide)).1 ((isOk_errorMesage _).1 hok))
    · right
      rw [Bool.not_eq_true] at hknown
      rw [if_pos hknown]
      refine ⟨fun uid nid h => ?_, fun hok => ?_, rfl⟩
      · rw [PsqlConnector.userExists_iff.2 ⟨h.fault.2.1, uid, h.user⟩] at hknown
        cases hknown
      · exact absurd ((isOk_errorMesage _).1 hok) (by decide)
  · right
    rw [Bool.not_eq_true] at hfound
    rw [if_pos hfound]
    refine ⟨fun uid nid h => ?_, fun hok => ?_, rfl⟩
    · obtain ⟨n, hn, -⟩ := Option.map_eq_some_iff.1 h.network
      rw [PsqlConnector.networkExists_iff.2 ⟨h.fault.1, n, hn⟩] at hfound
      cases hfound
    · exact absurd ((isOk_errorMesage _).1 hok) (by decide)

/-- An INVITE_USER of the user under the cookie, with its fields. -/
theorem inviteUser_fields {cookie u : String} (hinit : m.isInitialized = true)
    (hm : m.requestType = .inviteUser) (hauth : AuthenticatedAs m s cookie u) :
    ∃ username network,
      m.inviteUserMessage = some ⟨some cookie, some username, some network⟩ := by
  obtain ⟨⟨c, w, n⟩, hsub, rfl⟩ :
      ∃ sub, m.inviteUserMessage = some sub ∧ sub.cookie.getD "" = cookie := by
    simpa [ClientMessage.cookie, hm] using hauth.presents
  have hall : m.inviteUserMessage.all
      (fun r => r.cookie.isSome && r.username.isSome && r.networkName.isSome) = true := by
    simp only [ClientMessage.isInitialized, Bool.and_eq_true] at hinit
    tauto
  rw [hsub] at hall
  simp only [Option.all_some, Bool.and_eq_true, Option.isSome_iff_exists] at hall
  obtain ⟨⟨⟨c, rfl⟩, w, rfl⟩, n, rfl⟩ := hall
  exact ⟨w, n, hsub⟩

/-! ### What a request does to the invitations -/

/-- The user owns the network of this number. -/
def Tables.OwnedBy (t : Tables) (u : String) (nid : Nat) : Prop :=
  ∃ n ∈ t.networks, n.id = nid ∧ some n.ownerId = t.userId? u

/-- The request creates the network of the invitation, for the user under the cookie. -/
structure Founds (m : ClientMessage) (s s' : State) (nid : Nat) : Prop where
  type : m.requestType = .createNetwork
  fresh : ∀ n ∈ s.db.tables.networks, n.id ≠ nid
  founder : ∃ cookie u, AuthenticatedAs m s cookie u ∧ s'.db.tables.OwnedBy u nid

/-- Invitations stay, and a new one comes from an INVITE_USER or from the creation of its network. -/
structure InvitationsStep (m : ClientMessage) (s s' : State) : Prop where
  stay : s.db.tables.invitations.Stays s'.db.tables.invitations s'.db.tables
  origin : ∀ row ∈ s'.db.tables.invitations.rows, row ∈ s.db.tables.invitations.rows ∨
    (m.requestType = .inviteUser ∧ ∃ cookie u, AuthenticatedAs m s cookie u) ∨
      Founds m s s' row.networkId

theorem InvitationsStep.of_eq {s' : State}
    (h : s'.db.tables.invitations = s.db.tables.invitations) : InvitationsStep m s s' where
  stay := .of_eq h
  origin row hrow := .inl (by rwa [h] at hrow)

theorem InvitationsStep.deleteUser {s' : State} {u : String}
    (h : s'.db.tables = s.db.tables.deleteUser u) : InvitationsStep m s s' where
  stay := by
    rw [h]
    exact .deleteUser s.db.valid u fun _ => rfl
  origin row hrow := by
    left
    rw [h] at hrow
    unfold Tables.deleteUser at hrow
    split at hrow
    · exact (LinkTable.mem_drop.1 hrow).1
    · exact hrow

/-- The name of a new network is found under its number. -/
theorem Tables.network?_insertNetwork {t t' : Tables} (h : t.Valid) {name u mail proto : String}
    {pub vis part : Bool} (hins : t.insertNetwork name u pub vis part mail proto = .ok t') :
    ∃ n, t'.network? name = some n ∧ n ∈ t'.networks ∧ n.id = t.networksSeq + 1 ∧
      some n.ownerId = t.userId? u := by
  obtain ⟨nm, mail, proto, uid, hnm, -, -, huid, -, ht⟩ := insertNetwork_eq_ok.1 hins
  refine ⟨⟨t.networksSeq + 1, uid, nm, pub, vis, part, mail, proto⟩, ?_, ?_, rfl, huid.symm⟩
  · rw [network?_eq_some (h.insertNetwork hins)]
    refine ⟨?_, BpChar.ofText_eq_some.1 hnm⟩
    rw [ht]
    exact List.mem_append_right _ (List.mem_singleton.2 rfl)
  · rw [ht]
    exact List.mem_append_right _ (List.mem_singleton.2 rfl)

/-- A CREATE_NETWORK invites the founder. -/
theorem InvitationsStep.createNetwork {s' : State} {cookie u name mail proto : String}
    {pub vis part fault : Bool} {t : Tables} (hm : m.requestType = .createNetwork)
    (hauth : AuthenticatedAs m s cookie u)
    (hins : s.db.tables.insertNetwork name u pub vis part mail proto = .ok t)
    (ht : s'.db.tables = (PsqlConnector.createInvitation fault u name t).2) :
    InvitationsStep m s s' := by
  obtain ⟨n, hn, hmem, hid, howner⟩ := Tables.network?_insertNetwork s.db.valid hins
  obtain ⟨hlinks, husers⟩ : t.invitations = s.db.tables.invitations ∧ t.users = s.db.tables.users := by
    obtain ⟨_, _, _, _, -, -, -, -, -, rfl⟩ := Tables.insertNetwork_eq_ok.1 hins
    exact ⟨rfl, rfl⟩
  rcases PsqlConnector.work_cases fault (by decide : DBResponse.notUnique ≠ .ok) t
    (t.insertInvitation name u) with ⟨t', -, hx, hw⟩ | ⟨-, -, hw⟩
  · rw [PsqlConnector.createInvitation, hw] at ht
    obtain ⟨uid, nid, huid, hnid, -, hpush⟩ := Tables.insertInvitation_eq_ok.1 hx
    rw [Tables.networkId?, hn, Option.map_some, Option.some_inj, hid] at hnid
    rw [hpush] at ht
    have hrows : s'.db.tables.invitations = s.db.tables.invitations.push uid nid () := by
      rw [ht, ← hlinks]
    refine ⟨.of_push hrows, fun row hrow => ?_⟩
    rw [hrows, LinkTable.mem_push] at hrow
    rcases hrow with hrow | rfl
    · exact .inl hrow
    · refine .inr (.inr ⟨hm, fun n' hn' => ?_, cookie, u, hauth, n, ?_, hid.trans hnid, ?_⟩)
      · show n'.id ≠ nid
        have := s.db.valid.networksSeq n' hn'
        omega
      · rw [ht]
        exact hmem
      · rw [howner, ht, Tables.userId?, Tables.userId?, ← husers]
  · rw [PsqlConnector.createInvitation, hw] at ht
    exact .of_eq (by rw [ht, hlinks])

theorem Outcome.invitationsStep {out : NodeMessage × State} (h : Outcome env m s out) :
    InvitationsStep m s out.2 := by
  cases h with
  | kept _ => exact .of_eq rfl
  | registered _ _ _ ht _ =>
    obtain ⟨_, _, -, -, -, ht⟩ := Tables.insertUser_eq_ok.1 ht
    exact .of_eq (by rw [ht]; rfl)
  | unregistered _ _ _ ht _ => exact .deleteUser ht
  | loggedIn _ _ _ ht _ => exact .of_eq (by rw [ht])
  | loggedOut _ _ _ ht _ => exact .of_eq (by rw [ht])
  | createdNetwork hm hauth _ hins ht _ => exact .createNetwork hm hauth hins ht
  | @deletedNetwork _ _ _ n _ _ _ _ _ _ ht _ =>
    refine ⟨?_, fun row hrow => .inl ?_⟩
    · rw [ht]
      exact .deleteNetworkRow _ n.id rfl
    · rw [ht] at hrow
      exact (LinkTable.mem_drop.1 hrow).1
  | invited hm hauth ht _ =>
    obtain ⟨_, _, -, -, -, ht⟩ := Tables.insertInvitation_eq_ok.1 ht
    exact ⟨.of_push (by rw [ht]), fun row _ => .inr (.inl ⟨hm, _, _, hauth⟩)⟩
  | removed _ _ _ ht _ =>
    rw [PsqlConnector.removeUser_snd] at ht
    split at ht
    · exact .of_eq (by rw [ht])
    · exact .deleteUser ht
  | updatedServer _ _ ht _ =>
    obtain ⟨_, _, -, -, -, ht⟩ := Tables.insertServer_eq_ok.1 ht
    exact .of_eq (by rw [ht])
  | stoppedServer _ _ _ _ ht _ => exact .of_eq (by rw [ht]; rfl)
  | signedKey _ _ _ _ ht _ =>
    obtain ⟨_, _, -, -, -, ht⟩ := Tables.insertKey_eq_ok.1 ht
    exact .of_eq (by rw [ht])
  | changedPassword _ _ _ _ ht _ =>
    obtain ⟨_, -, ht⟩ := Tables.updatePassword_eq_ok.1 ht
    exact .of_eq (by rw [ht]; rfl)

/-! ### Access by invitation -/

/-- The user and the network of these numbers are there all along the run. -/
def Remain (s : State) (rs : List Request) (uid nid : Nat) : Prop :=
  ∀ part, part <+: rs → (∃ v ∈ (afterFrom s part).db.tables.users, v.id = uid) ∧
    ∃ n ∈ (afterFrom s part).db.tables.networks, n.id = nid

/-- An invitation stays as long as its user and its network do. -/
theorem invitation_afterFrom {uid nid : Nat} {row : LinkRow Unit} (rs : List Request) :
    ∀ {s : State}, Remain s rs uid nid →
      s.db.tables.invitations.find? (some uid) (some nid) = some row →
      (afterFrom s rs).db.tables.invitations.find? (some uid) (some nid) = some row := by
  induction rs with
  | nil =>
    intro s _ hrow
    exact hrow
  | cons r rs ih =>
    intro s hremain hrow
    have hnext := hremain [r] (by simp)
    rw [afterFrom_cons, afterFrom_nil] at hnext
    apply ih
    · intro part hpart
      exact hremain (r :: part) (List.cons_prefix_cons.2 ⟨rfl, hpart⟩)
    · exact (r.outcome s).invitationsStep.stay uid nid row hrow hnext.1 hnext.2

/-- An INVITE_USER of the run invited the user to the network and was answered `OK`, and since then
neither of the two was removed. -/
def InvitedSince (rs : List Request) (uid nid : Nat) : Prop :=
  ∃ before r since cookie username network, rs = before ++ r :: since ∧
    r.message.requestType = .inviteUser ∧
    r.message.inviteUserMessage = some ⟨some cookie, some username, some network⟩ ∧
    (r.handle (after before)).1.isOk ∧
    (after before).db.tables.userId? username = some uid ∧
    (after before).db.tables.networkId? network = some nid ∧
    Remain (r.handle (after before)).2 since uid nid

theorem after_eq_afterFrom (rs : List Request) : after rs = afterFrom State.empty rs := rfl

theorem InvitedSince.find? {uid nid : Nat} (h : InvitedSince rs uid nid) :
    ∃ row, (after rs).db.tables.invitations.find? (some uid) (some nid) = some row := by
  obtain ⟨before, r, since, cookie, username, network, rfl, hm, hsub, hok, huid, hnid, hremain⟩ := h
  have hc : r.message.cookie = some cookie := by simp [ClientMessage.cookie, hm, hsub]
  obtain ⟨u, hauth⟩ : ∃ u, AuthenticatedAs r.message (after before) cookie u := by
    rw [Request.handle, handle, handleRequest, hm] at hok
    dsimp only at hok
    unfold handleInviteUser at hok
    simp only [hsub] at hok
    exact ok_authenticated hc hok
  rcases @handle_inviteUser r.env _ _ _ _ _ _ hm hsub hauth with
    ⟨uid', nid', hcan, -, ht⟩ | ⟨-, hno, -⟩
  · obtain rfl := Option.some_inj.1 (huid.symm.trans hcan.user)
    obtain rfl := Option.some_inj.1 (hnid.symm.trans hcan.network)
    refine ⟨⟨(after before).db.tables.invitations.seq + 1, uid, nid, ()⟩, ?_⟩
    rw [after_eq_afterFrom, afterFrom_append, afterFrom_cons, ← after_eq_afterFrom]
    apply invitation_afterFrom since hremain
    rw [Request.handle, ht]
    exact LinkTable.find?_push hcan.first
  · exact absurd hok hno

/-- Among the entries made of the rows is one for the network. -/
def Lists (env : Env) (rows : List (NetworkRow × UserRow)) (entries : List NodeMessage.Network)
    (n : NetworkRow) : Prop :=
  ∃ i w, rows[i]? = some (n, w) ∧
    entries[i]? = some (networkEntry (env.uninitialized i) (PsqlConnector.protoNetwork (n, w)))

/-- The user under the cookie is not refused the servers of the network, and finds the network in
both listings. -/
structure GrantsAccess (env : Env) (s : State) (cookie u network : String) (n : NetworkRow) : Prop where
  servers : (handle env (Request.listServers env cookie network).message s).1 ≠
    errorMesage .noPrivilages
  mine : ∃ entries,
    (handle env (Request.listMyNetworks env cookie).message s).1.listMyNetworksResponse = some entries ∧
      Lists env (s.db.tables.own u) entries n
  all : ∃ entries,
    (handle env (Request.listNetworks env cookie).message s).1.listNetworksResponse = some entries ∧
      Lists env (s.db.tables.shown u) entries n

/-- A listing has an entry for each of its rows. -/
theorem lists_iff {rows : List (NetworkRow × UserRow)} {n : NetworkRow} :
    Lists env rows ((rows.map PsqlConnector.protoNetwork).mapIdx fun i n =>
      networkEntry (env.uninitialized i) n) n ↔ ∃ w, (n, w) ∈ rows := by
  constructor
  · rintro ⟨i, w, hrow, -⟩
    exact ⟨w, List.mem_of_getElem? hrow⟩
  · rintro ⟨w, hw⟩
    obtain ⟨i, hi⟩ := List.mem_iff_getElem?.1 hw
    refine ⟨i, w, hi, ?_⟩
    rw [List.getElem?_mapIdx, List.getElem?_map, hi]
    rfl

/-- A user's own networks are those he owns. -/
theorem mem_own_iff {t : Tables} (h : t.Valid) {u : String} {uid : Nat} {n : NetworkRow}
    (hu : t.userId? u = some uid) (hn : n ∈ t.networks) :
    (∃ w, (n, w) ∈ t.own u) ↔ n.ownerId = uid := by
  obtain ⟨v, hv, hlogin, rfl⟩ := (Tables.userId?_eq_some h).1 hu
  unfold Tables.own
  simp only [List.mem_filter, decide_eq_true_eq, mem_networksWithOwner_iff h]
  constructor
  · rintro ⟨w, ⟨-, hw, hid⟩, hwlogin⟩
    have : w = v := List.inj_on_of_nodup_map h.logins hw hv (BpChar.ext (hwlogin.trans hlogin.symm))
    rw [← hid, this]
  · intro howner
    exact ⟨v, ⟨hn, hv, howner.symm⟩, hlogin⟩

/-- The owner of a network, an invited user and, if it is listed, everybody is shown the network. -/
theorem mem_shown_iff {t : Tables} (h : t.Valid) {u : String} {uid : Nat} {n : NetworkRow}
    (hu : t.userId? u = some uid) (hn : n ∈ t.networks) :
    (∃ w, (n, w) ∈ t.shown u) ↔ n.visible = true ∨ n.ownerId = uid ∨
      ∃ row, t.invitations.find? (some uid) (some n.id) = some row := by
  obtain ⟨v, hv, hlogin, hvid⟩ := (Tables.userId?_eq_some h).1 hu
  obtain ⟨o, ho, hoid⟩ := h.owner n hn
  have hinv : t.invited u n.id = true ↔
      ∃ row, t.invitations.find? (some uid) (some n.id) = some row := by
    rw [← Option.isSome_iff_exists, LinkTable.find?_isSome, Tables.invited, hu]
    simp
  have howner : o.login.text = rstrip u ↔ n.ownerId = uid := by
    rw [← hoid, ← hvid]
    constructor
    · intro hologin
      rw [List.inj_on_of_nodup_map h.logins ho hv (BpChar.ext (hologin.trans hlogin.symm))]
    · intro hid
      rw [List.inj_on_of_nodup_map h.userIds ho hv hid, hlogin]
  unfold Tables.shown
  simp only [List.mem_filter, Bool.or_eq_true, decide_eq_true_eq, mem_networksWithOwner_iff h, hinv]
  constructor
  · rintro ⟨w, ⟨-, hw, hid⟩, (hvis | hwlogin) | hrow⟩
    · exact .inl hvis
    · rw [List.inj_on_of_nodup_map h.userIds hw ho (hid.trans hoid.symm)] at hwlogin
      exact .inr (.inl (howner.1 hwlogin))
    · exact .inr (.inr hrow)
  · rintro (hvis | hown | hrow)
    · exact ⟨o, ⟨hn, ho, hoid⟩, .inl (.inl hvis)⟩
    · exact ⟨o, ⟨hn, ho, hoid⟩, .inl (.inr (howner.2 hown))⟩
    · exact ⟨o, ⟨hn, ho, hoid⟩, .inr hrow⟩

/-- **While the queries work, an invited user has access to the network exactly when he owns it.** -/
theorem grantsAccess_iff {uid nid : Nat} {cookie u network : String} {n : NetworkRow}
    (hinv : InvitedSince rs uid nid) (hlogin : (after rs).sessions.getLogin cookie = u)
    (hlive : u ≠ "") (hu : (after rs).db.tables.userId? u = some uid)
    (hn : (after rs).db.tables.network? network = some n) (hid : n.id = nid) :
    GrantsAccess env (after rs) cookie u network n ↔
      n.ownerId = uid ∧ env.fault 0 = false ∧ env.fault 1 = false := by
  have hvalid := (after rs).db.valid
  obtain ⟨hmem, -⟩ := (Tables.network?_eq_some hvalid).1 hn
  have hmine : (handle env (Request.listMyNetworks env cookie).message (after rs)).1 = _ :=
    handle_listMyNetworks_ok (u := u) rfl rfl ⟨rfl, hlogin, hlive⟩
  have hall : (handle env (Request.listNetworks env cookie).message (after rs)).1 = _ :=
    handle_listNetworks_ok (u := u) rfl rfl ⟨rfl, hlogin, hlive⟩
  have hservers : handle env (Request.listServers env cookie network).message (after rs) = _ :=
    handle_listServers (u := u) rfl rfl ⟨rfl, hlogin, hlive⟩
  constructor
  · rintro ⟨hallowed, ⟨entries, hreply, hlists⟩, -⟩
    rw [hmine] at hreply
    obtain rfl := Option.some_inj.1 hreply
    have hfault : env.fault 0 = false := by
      by_contra hf
      rw [Bool.not_eq_false] at hf
      obtain ⟨i, w, -, he⟩ := hlists
      rw [if_pos hf] at he
      cases he
    rw [hfault, if_neg (by simp)] at hlists
    have howner := (mem_own_iff hvalid hu hmem).1 (lists_iff.1 hlists)
    refine ⟨howner, hfault, ?_⟩
    by_contra hf
    rw [Bool.not_eq_false] at hf
    have hfound : PsqlConnector.networkExists (env.fault 0) network (after rs).db.tables = true :=
      PsqlConnector.networkExists_iff.2 ⟨hfault, n, hn⟩
    apply hallowed
    rw [hservers, hfound, PsqlConnector.canSeeNetwork, hf]
    rfl
  · rintro ⟨howner, hf0, hf1⟩
    rw [hf0, if_neg (by simp)] at hmine hall
    refine ⟨?_, ⟨_, by rw [hmine]; rfl, ?_⟩, ⟨_, by rw [hall]; rfl, ?_⟩⟩
    · have hfound : PsqlConnector.networkExists (env.fault 0) network (after rs).db.tables = true :=
        PsqlConnector.networkExists_iff.2 ⟨hf0, n, hn⟩
      have hallowed : PsqlConnector.canSeeNetwork (env.fault 1) network u (after rs).db.tables = true :=
        PsqlConnector.canSeeNetwork_iff.2 ⟨hf1, n, hn, .inr (by rw [hu, howner])⟩
      rw [hservers, hfound, hallowed]
      intro he
      cases congrArg NodeMessage.listServersResponse he
    · exact lists_iff.2 ((mem_own_iff hvalid hu hmem).2 howner)
    · obtain ⟨row, hrow⟩ := hinv.find?
      exact lists_iff.2 ((mem_shown_iff hvalid hu hmem).2 (.inr (.inr ⟨row, by rw [hid]; exact hrow⟩)))

/-- Alice has a private network and invites Bob to it; he logs in. -/
def bobInvited : List Request :=
  [.register Env.sample "alice" "secret" "request", .login Env.sample "alice" "secret",
    .createNetwork Env.sample "c00kie" "den" .priv .unlisted .clientOnly,
    .register Env.sample "bob" "secret" "request", .inviteUser Env.sample "c00kie" "bob" "den",
    .login { Env.sample with randomString := "b0b" } "bob" "secret"]

theorem state_bobInvited :
    (after bobInvited).sessions.getLogin "c00kie" = "alice" ∧
      (after bobInvited).sessions.getLogin "b0b" = "bob" ∧
      (after bobInvited).db.tables.userId? "alice" = some 1 ∧
      (after bobInvited).db.tables.userId? "bob" = some 2 ∧
      (after bobInvited).db.tables.networkId? "den" = some 1 := by
  decide +kernel

theorem invitedSince_bob : InvitedSince bobInvited 2 1 := by
  let before := bobInvited.take 4
  let invite : Request := .inviteUser Env.sample "c00kie" "bob" "den"
  have hinvite : (invite.handle (after before)).1.isOk ∧
      (after before).db.tables.userId? "bob" = some 2 ∧
      (after before).db.tables.networkId? "den" = some 1 := by
    decide +kernel
  refine ⟨before, invite, [.login { Env.sample with randomString := "b0b" } "bob" "secret"], "c00kie",
    "bob", "den", rfl, rfl, rfl, hinvite.1, hinvite.2.1, hinvite.2.2, fun part hpart => ?_⟩
  rcases List.prefix_cons_iff.1 hpart with rfl | ⟨part, rfl, hpart⟩
  · decide +kernel
  · obtain rfl := List.prefix_nil.1 (List.cons_prefix_cons.1 hpart).2
    decide +kernel

theorem grantsAccess_iff_bob :
    ∃ n, (after bobInvited).db.tables.network? "den" = some n ∧
      (GrantsAccess Env.sample (after bobInvited) "b0b" "bob" "den" n ↔
        n.ownerId = 2 ∧ Env.sample.fault 0 = false ∧ Env.sample.fault 1 = false) := by
  obtain ⟨-, hlogin, -, hbob, hden⟩ := state_bobInvited
  obtain ⟨n, hn, hid⟩ := Option.map_eq_some_iff.1 hden
  exact ⟨n, hn, grantsAccess_iff invitedSince_bob hlogin (by decide) hbob hn hid⟩

/-- Bob is refused the servers of the network he is invited to. -/
theorem not_grantsAccess_bob :
    InvitedSince bobInvited 2 1 ∧
      (handle Env.sample (Request.listServers Env.sample "b0b" "den").message (after bobInvited)).1 =
        errorMesage .noPrivilages :=
  ⟨invitedSince_bob, by decide +kernel⟩

/-! ### Who invites -/

/-- If the request is an INVITE_USER and adds an invitation, its user owns the network. -/
def OwnerInvites (s : State) (r : Request) : Prop :=
  ∀ cookie u, r.message.requestType = .inviteUser → AuthenticatedAs r.message s cookie u →
    ∀ row ∈ (r.handle s).2.db.tables.invitations.rows, row ∉ s.db.tables.invitations.rows →
      s.db.tables.OwnedBy u row.networkId

/-- An INVITE_USER by an owner of the network added the invitation, or the creation of the network
did. -/
def StemsFromOwner (rs : List Request) (row : LinkRow Unit) : Prop :=
  ∃ before r since, rs = before ++ r :: since ∧
    row ∉ (after before).db.tables.invitations.rows ∧
    row ∈ (r.handle (after before)).2.db.tables.invitations.rows ∧
    ((r.message.requestType = .inviteUser ∧ ∃ cookie u,
        AuthenticatedAs r.message (after before) cookie u ∧
          (after before).db.tables.OwnedBy u row.networkId) ∨
      Founds r.message (after before) (r.handle (after before)).2 row.networkId)

/-- No INVITE_USER shows an unlisted network to the user who sends it. -/
def NoSelfInvitation (s : State) (r : Request) : Prop :=
  ∀ cookie u, r.message.requestType = .inviteUser → AuthenticatedAs r.message s cookie u →
    ∀ n ∈ s.db.tables.networks, n.visible = false →
      (∃ w, (n, w) ∈ (r.handle s).2.db.tables.shown u) → ∃ w, (n, w) ∈ s.db.tables.shown u

/-- The invitations of the run are the owners'. -/
structure InvitedByOwners (rs : List Request) : Prop where
  invites : ∀ before r, before ++ [r] <+: rs → OwnerInvites (after before) r
  stems : ∀ part, part <+: rs → ∀ row ∈ (after part).db.tables.invitations.rows,
    StemsFromOwner part row
  unseen : ∀ before r, before ++ [r] <+: rs → NoSelfInvitation (after before) r

/-- If the request is an INVITE_USER, its user owns the network, or the invitation cannot be added. -/
def Authorised (s : State) (r : Request) : Prop :=
  ∀ cookie u username network, r.message.requestType = .inviteUser →
    AuthenticatedAs r.message s cookie u →
    r.message.inviteUserMessage = some ⟨some cookie, some username, some network⟩ →
    (∃ n, s.db.tables.network? network = some n ∧ some n.ownerId = s.db.tables.userId? u) ∨
      ∀ uid nid, ¬ CanInvite r.env s.db.tables username network uid nid

/-- The row that is pushed is new. -/
theorem LinkTable.Valid.not_mem_push {δ : Type} {tbl : LinkTable δ} {users : List UserRow}
    {networks : List NetworkRow} (h : tbl.Valid users networks) (u n : Nat) (d : δ) :
    (⟨tbl.seq + 1, u, n, d⟩ : LinkRow δ) ∉ tbl.rows := by
  intro hmem
  have := h.seq _ hmem
  simp only at this
  omega

variable {r : Request}

/-- What an INVITE_USER of a user does. -/
theorem inviteUser_cases {cookie u : String} (hm : r.message.requestType = .inviteUser)
    (hauth : AuthenticatedAs r.message s cookie u) :
    ∃ username network,
      r.message.inviteUserMessage = some ⟨some cookie, some username, some network⟩ ∧
      ((∃ uid nid, CanInvite r.env s.db.tables username network uid nid ∧
          (r.handle s).2.db.tables =
            { s.db.tables with invitations := s.db.tables.invitations.push uid nid () }) ∨
        (∀ uid nid, ¬ CanInvite r.env s.db.tables username network uid nid) ∧
          (r.handle s).2 = s) := by
  obtain ⟨username, network, hsub⟩ := inviteUser_fields r.initialized hm hauth
  refine ⟨username, network, hsub, ?_⟩
  rcases @handle_inviteUser r.env _ _ _ _ _ _ hm hsub hauth with ⟨uid, nid, hcan, -, ht⟩ | ⟨hno, -, hs⟩
  · exact .inl ⟨uid, nid, hcan, ht⟩
  · exact .inr ⟨hno, hs⟩

/-- Only owners invite exactly when every INVITE_USER is authorised. -/
theorem ownerInvites_iff : OwnerInvites s r ↔ Authorised s r := by
  constructor
  · intro h cookie u username network hm hauth hsub
    obtain ⟨username', network', hsub', hcases⟩ := inviteUser_cases hm hauth
    rw [hsub] at hsub'
    cases hsub'
    rcases hcases with ⟨uid, nid, hcan, ht⟩ | ⟨hno, -⟩
    · left
      obtain ⟨n, hn, hid, howner⟩ := h cookie u hm hauth ⟨_, uid, nid, ()⟩
        (by rw [ht]; exact LinkTable.mem_push.2 (.inr rfl))
        (s.db.valid.invitations.not_mem_push uid nid ())
      obtain ⟨n', hn', hid'⟩ := Option.map_eq_some_iff.1 hcan.network
      obtain rfl : n = n' := List.inj_on_of_nodup_map s.db.valid.networkIds hn
        (List.mem_of_find?_eq_some hn') (hid.trans hid'.symm)
      exact ⟨n, hn', howner⟩
    · exact .inr hno
  · intro h cookie u hm hauth row hrow hnew
    obtain ⟨username, network, hsub, hcases⟩ := inviteUser_cases hm hauth
    rcases hcases with ⟨uid, nid, hcan, ht⟩ | ⟨-, hs⟩
    · rcases h cookie u username network hm hauth hsub with ⟨n, hn, howner⟩ | hno
      · rw [ht] at hrow
        rcases LinkTable.mem_push.1 hrow with hrow | rfl
        · exact absurd hrow hnew
        · obtain ⟨n', hn', hid'⟩ := Option.map_eq_some_iff.1 hcan.network
          obtain rfl := Option.some_inj.1 (hn.symm.trans hn')
          exact ⟨n, List.mem_of_find?_eq_some hn, hid', howner⟩
      · exact absurd hcan (hno uid nid)
    · rw [hs] at hrow
      exact absurd hrow hnew

/-- An invitation after a request was there before, or has an origin. -/
theorem stemsFromOwner_concat (h : Authorised (after rs) r)
    (hrs : ∀ row ∈ (after rs).db.tables.invitations.rows, StemsFromOwner rs row) {row : LinkRow Unit}
    (hrow : row ∈ (after (rs ++ [r])).db.tables.invitations.rows) : StemsFromOwner (rs ++ [r]) row := by
  rw [after_concat] at hrow
  by_cases hold : row ∈ (after rs).db.tables.invitations.rows
  · obtain ⟨before, r', since, rfl, hnot, hmem, horigin⟩ := hrs row hold
    exact ⟨before, r', since ++ [r], by simp, hnot, hmem, horigin⟩
  · refine ⟨rs, r, [], rfl, hold, hrow, ?_⟩
    rcases (r.outcome (after rs)).invitationsStep.origin row hrow with
      hmem | ⟨hm, cookie, u, hauth⟩ | hfounds
    · exact absurd hmem hold
    · exact .inl ⟨hm, cookie, u, hauth, ownerInvites_iff.2 h cookie u hm hauth row hrow hold⟩
    · exact .inr hfounds

/-- An owner's invitation of his own network shows him nothing new. -/
theorem noSelfInvitation (h : Authorised s r) : NoSelfInvitation s r := by
  intro cookie u hm hauth n hn hvis hsees
  obtain ⟨username, network, hsub, ⟨uid, nid, hcan, ht⟩ | ⟨-, hs⟩⟩ := inviteUser_cases hm hauth
  · rcases h cookie u username network hm hauth hsub with ⟨n', hn', howner⟩ | hno
    · obtain ⟨w, hw⟩ := hsees
      rw [ht] at hw
      obtain ⟨hjoin, hwhy⟩ := List.mem_filter.1 hw
      refine ⟨w, List.mem_filter.2 ⟨hjoin, ?_⟩⟩
      simp only [Bool.or_eq_true, decide_eq_true_eq] at hwhy ⊢
      rcases hwhy with hshown | hinv
      · exact .inl hshown
      · obtain ⟨row, hrow, hrow'⟩ := List.any_eq_true.1 hinv
        rcases LinkTable.mem_push.1 hrow with hrow | rfl
        · exact .inr (List.any_eq_true.2 ⟨row, hrow, hrow'⟩)
        · -- the new invitation is for his own network
          left; right
          simp only [Bool.and_eq_true, decide_eq_true_eq] at hrow'
          have hnid : s.db.tables.networkId? network = some n'.id := by
            rw [Tables.networkId?, hn']
            rfl
          obtain rfl : n' = n := List.inj_on_of_nodup_map s.db.valid.networkIds
            (List.mem_of_find?_eq_some hn') hn
            ((Option.some_inj.1 (hnid.symm.trans hcan.network)).trans hrow'.2)
          obtain ⟨v, hv, hlogin, hvid⟩ := (Tables.userId?_eq_some s.db.valid).1 howner.symm
          obtain ⟨-, hwmem, hwid⟩ := (mem_networksWithOwner_iff s.db.valid).1 hjoin
          rw [List.inj_on_of_nodup_map s.db.valid.userIds hwmem hv (hwid.trans hvid.symm)]
          exact hlogin
    · exact absurd hcan (hno uid nid)
  · rwa [hs] at hsees

/-- **The invitations of a run are the owners' exactly when every INVITE_USER is authorised: it is the
owner's, or the invitation cannot be added.** -/
theorem invitedByOwners_iff (rs : List Request) :
    InvitedByOwners rs ↔ ∀ before r, before ++ [r] <+: rs → Authorised (after before) r := by
  constructor
  · intro h before r hp
    exact ownerInvites_iff.1 (h.invites before r hp)
  · intro h
    refine ⟨fun before r hp => ownerInvites_iff.2 (h before r hp), ?_,
      fun before r hp => noSelfInvitation (h before r hp)⟩
    induction rs using List.reverseRecOn with
    | nil =>
      intro part hp row hrow
      rw [List.prefix_nil.1 hp] at hrow
      cases hrow
    | append_singleton rs r ih =>
      have ih := ih fun before r hp => h before r (hp.trans (List.prefix_append _ _))
      intro part hp row hrow
      rcases List.prefix_concat_iff.1 hp with rfl | hp
      · exact stemsFromOwner_concat (h rs r (List.prefix_refl _)) (ih rs (List.prefix_refl _)) hrow
      · exact ih part hp row hrow

/-- Bob, who was told the name of Alice's unlisted network, invites himself to it. -/
def bobInvitesHimself : Request :=
  .inviteUser Env.sample "b0b" "bob" "den"

def beforeBobInvites : List Request :=
  [.register Env.sample "alice" "secret" "request", .login Env.sample "alice" "secret",
    .createNetwork Env.sample "c00kie" "den" .priv .unlisted .clientOnly,
    .register Env.sample "bob" "secret" "request",
    .login { Env.sample with randomString := "b0b" } "bob" "secret"]

theorem not_invitedByOwners_bob : ¬ InvitedByOwners (beforeBobInvites ++ [bobInvitesHimself]) := by
  intro h
  let den : NetworkRow := ⟨1, 1, ⟨"den", by decide, by decide⟩, false, false, false, "", ""⟩
  let alice : UserRow := ⟨1, ⟨"alice", by decide, by decide⟩, ⟨"$2a$10$secret", by decide, by decide⟩⟩
  have hbefore : (after beforeBobInvites).sessions.getLogin "b0b" = "bob" ∧
      den ∈ (after beforeBobInvites).db.tables.networks ∧
      (after beforeBobInvites).db.tables.shown "bob" = [] := by
    decide +kernel
  have hafter : (den, alice) ∈
      (bobInvitesHimself.handle (after beforeBobInvites)).2.db.tables.shown "bob" := by
    decide +kernel
  obtain ⟨hlogin, hmem, hnone⟩ := hbefore
  obtain ⟨w, hw⟩ := h.unseen beforeBobInvites bobInvitesHimself (List.prefix_refl _) "b0b" "bob" rfl
    ⟨rfl, hlogin, by decide⟩ den hmem rfl ⟨alice, hafter⟩
  rw [hnone] at hw
  cases hw

end Sp2p.Tracker
