import Sp2p.Tracker.Registration

/-!
# Networks, created and listed

What a CREATE_NETWORK that is answered `OK` has stored (`handle_createNetwork_ok`), what the two
listings report (`handle_listNetworks_ok`, `handle_listMyNetworks_ok`), and that along a run a users
row keeps its login and its number is not given to another (`users_afterFrom`).
-/

namespace Sp2p.Tracker

open Interleaving Protocol NodeMessageFactory

variable {env : Env} {m : ClientMessage} {s : State}

/-! ### Accounts along a run -/

/-- Every users row after the step was there, up to its password, or has a new number. -/
structure UsersStep (t t' : Tables) : Prop where
  seq : t.usersSeq ≤ t'.usersSeq
  back : ∀ w ∈ t'.users, (∃ v ∈ t.users, v.id = w.id ∧ v.login = w.login) ∨ t.usersSeq < w.id

namespace UsersStep

theorem of_sub {t t' : Tables} (hseq : t'.usersSeq = t.usersSeq)
    (husers : ∀ w ∈ t'.users, w ∈ t.users) : UsersStep t t' where
  seq := hseq.ge
  back w hw := .inl ⟨w, husers w hw, rfl, rfl⟩

theorem of_eq {t t' : Tables} (hseq : t'.usersSeq = t.usersSeq) (husers : t'.users = t.users) :
    UsersStep t t' :=
  of_sub hseq fun w hw => by rwa [husers] at hw

theorem trans {t t' t'' : Tables} (h : UsersStep t t') (h' : UsersStep t' t'') :
    UsersStep t t'' where
  seq := h.seq.trans h'.seq
  back w hw := by
    rcases h'.back w hw with ⟨v, hv, hid, hlogin⟩ | hnew
    · rw [← hid, ← hlogin]
      exact h.back v hv
    · exact .inr (h.seq.trans_lt hnew)

theorem deleteUser (t : Tables) (u : String) : UsersStep t (t.deleteUser u) := by
  unfold Tables.deleteUser
  split
  · exact of_sub rfl fun w hw => (List.mem_filter.1 hw).1
  · exact of_eq rfl rfl

end UsersStep

theorem Tables.seq_insertNetwork {t t' : Tables} {name owner mail proto : String}
    {pub vis part : Bool} (h : t.insertNetwork name owner pub vis part mail proto = .ok t') :
    t'.usersSeq = t.usersSeq ∧ t'.users = t.users := by
  obtain ⟨_, _, _, _, -, -, -, -, -, rfl⟩ := Tables.insertNetwork_eq_ok.1 h
  exact ⟨rfl, rfl⟩

/-- An invitation leaves the accounts and the networks alone. -/
theorem PsqlConnector.createInvitation_frame (fault : Bool) (login network : String) (t : Tables) :
    ∃ invitations, (createInvitation fault login network t).2 = { t with invitations } := by
  rcases work_cases fault (by decide : DBResponse.notUnique ≠ .ok) t
    (t.insertInvitation network login) with ⟨t', -, hx, hw⟩ | ⟨-, -, hw⟩
  · rw [createInvitation, hw]
    obtain ⟨_, _, -, -, -, rfl⟩ := Tables.insertInvitation_eq_ok.1 hx
    exact ⟨_, rfl⟩
  · rw [createInvitation, hw]
    exact ⟨t.invitations, rfl⟩

theorem Outcome.usersStep {out : NodeMessage × State} (h : Outcome env m s out) :
    UsersStep s.db.tables out.2.db.tables := by
  cases h with
  | kept _ => exact .of_eq rfl rfl
  | registered _ _ _ ht _ =>
    obtain ⟨l, p, -, -, -, ht⟩ := Tables.insertUser_eq_ok.1 ht
    rw [ht]
    refine ⟨Nat.le_succ _, fun w hw => ?_⟩
    rcases List.mem_append.1 hw with hw | hw
    · exact .inl ⟨w, hw, rfl, rfl⟩
    · right
      rw [List.mem_singleton.1 hw]
      exact Nat.lt_succ_self _
  | unregistered _ _ _ ht _ => rw [ht]; exact .deleteUser _ _
  | loggedIn _ _ _ ht _ => rw [ht]; exact .of_eq rfl rfl
  | loggedOut _ _ _ ht _ => rw [ht]; exact .of_eq rfl rfl
  | createdNetwork _ _ _ hins ht _ =>
    obtain ⟨hseq, husers⟩ := Tables.seq_insertNetwork hins
    obtain ⟨_, hframe⟩ := PsqlConnector.createInvitation_frame _ _ _ _
    rw [ht, hframe]
    exact .of_eq hseq husers
  | deletedNetwork _ _ _ _ _ ht _ => rw [ht]; exact .of_eq rfl rfl
  | invited _ _ ht _ =>
    obtain ⟨_, _, -, -, -, ht⟩ := Tables.insertInvitation_eq_ok.1 ht
    rw [ht]
    exact .of_eq rfl rfl
  | removed _ _ _ ht _ =>
    rw [ht, PsqlConnector.removeUser_snd]
    split
    · exact .of_eq rfl rfl
    · exact .deleteUser _ _
  | updatedServer _ _ ht _ =>
    obtain ⟨_, _, -, -, -, ht⟩ := Tables.insertServer_eq_ok.1 ht
    rw [ht]
    exact .of_eq rfl rfl
  | stoppedServer _ _ _ _ ht _ => rw [ht]; exact .of_eq rfl rfl
  | signedKey _ _ _ _ ht _ =>
    obtain ⟨_, _, -, -, -, ht⟩ := Tables.insertKey_eq_ok.1 ht
    rw [ht]
    exact .of_eq rfl rfl
  | changedPassword _ _ _ _ ht _ =>
    obtain ⟨p, -, ht⟩ := Tables.updatePassword_eq_ok.1 ht
    rw [ht]
    refine ⟨le_refl _, fun w hw => ?_⟩
    obtain ⟨v, hv, rfl⟩ := Tables.mem_setPassword.1 hw
    exact .inl ⟨v, hv, by split <;> rfl, by split <;> rfl⟩

theorem usersStep_afterFrom (rs : List Request) :
    ∀ s : State, UsersStep s.db.tables (afterFrom s rs).db.tables := by
  induction rs with
  | nil =>
    intro s
    exact .of_eq rfl rfl
  | cons r rs ih =>
    intro s
    exact (r.outcome s).usersStep.trans (ih _)

/-- Whoever has the number of a user later has its login. -/
theorem login_afterFrom {rs : List Request} {u : String} {uid : Nat} {w : UserRow}
    (hu : s.db.tables.userId? u = some uid) (hw : w ∈ (afterFrom s rs).db.tables.users)
    (hid : w.id = uid) : w.login.text = rstrip u := by
  obtain ⟨v, hv, hlogin, hvid⟩ := (Tables.userId?_eq_some s.db.valid).1 hu
  rcases (usersStep_afterFrom rs s).back w hw with ⟨v', hv', hid', hlogin'⟩ | hnew
  · have : v' = v := List.inj_on_of_nodup_map s.db.valid.userIds hv' hv (by rw [hid', hid, hvid])
    rw [← hlogin', this, hlogin]
  · have := s.db.valid.usersSeq v hv
    omega

/-! ### Creating -/

/-- A row as a CREATE_NETWORK describes it, of the user. -/
structure DescribedBy (n : NetworkRow) (sub : ClientMessage.CreateNetwork) (t : Tables) (u : String) :
    Prop where
  name : BpChar.ofText 30 (sub.networkName.getD "") = some n.name
  owner : t.userId? u = some n.ownerId
  publicity : n.publicity = decide (sub.accessRights = some .pub)
  visible : n.visible = decide (sub.visibility = some .listed)
  participable : n.participable = decide (sub.participationRights = some .clientServer)
  creatorEmail : varchar 40 (sub.creatorEmail.getD "") = some n.creatorEmail
  protocolName : varchar 40 (sub.protocolName.getD "") = some n.protocolName

/-- A CREATE_NETWORK that is answered `OK` stored the network. -/
theorem handle_createNetwork_ok {cookie name u : String} {access : AccessRights} {vis : Visiblity}
    {part : ParticipationRights} {mail proto : Option String} (hm : m.requestType = .createNetwork)
    (hsub : m.createNetworkMessage =
      some ⟨some cookie, some name, some access, some vis, some part, mail, proto⟩)
    (hauth : AuthenticatedAs m s cookie u) (hok : (handle env m s).1.isOk) :
    ∃ n invitations, DescribedBy n
        ⟨some cookie, some name, some access, some vis, some part, mail, proto⟩ s.db.tables u ∧
      (handle env m s).2.db.tables =
        { s.db.tables with
          networks := s.db.tables.networks ++ [n]
          networksSeq := s.db.tables.networksSeq + 1
          invitations } := by
  rw [handle, handleRequest, hm] at hok ⊢
  dsimp only at hok ⊢
  unfold handleCreateNetwork at hok ⊢
  simp only [hsub, hauth.run] at hok ⊢
  rw [run_callShared] at hok ⊢
  rcases exec_createNetwork (env.fault 0) name u (access = .pub) (vis = .listed)
    (part = .clientServer) (mail.getD "") (proto.getD "") s with
    ⟨s', -, hx, -, he⟩ | ⟨r, hr, -, he⟩ <;> rw [he] at hok ⊢
  · obtain ⟨nm, mail', proto', uid, hnm, hmail, hproto, huid, -, ht⟩ :=
      Tables.insertNetwork_eq_ok.1 hx
    obtain ⟨invitations, hframe⟩ :=
      PsqlConnector.createInvitation_frame (env.fault 1) u name s'.db.tables
    refine ⟨⟨s.db.tables.networksSeq + 1, uid, nm, decide (access = .pub), decide (vis = .listed),
      decide (part = .clientServer), mail', proto'⟩, invitations, ⟨hnm, huid, ?_, ?_, ?_, hmail,
      hproto⟩, hframe.trans ?_⟩
    · simp
    · simp
    · simp
    · rw [ht]
      rfl
  · cases r with
    | ok => exact absurd rfl hr
    | internalError | notFound | notPermited | notUnique => cases (isOk_errorMesage _).1 hok

/-! ### Listing -/

/-- The networks the user is shown: the listed ones, his own and those he is invited to. -/
def Tables.shown (t : Tables) (u : String) : List (NetworkRow × UserRow) :=
  t.networksWithOwner.filter fun r =>
    r.1.visible || r.2.login.text = rstrip u || t.invited u r.1.id

/-- The user's own networks. -/
def Tables.own (t : Tables) (u : String) : List (NetworkRow × UserRow) :=
  t.networksWithOwner.filter fun r => r.2.login.text = rstrip u

theorem handle_listNetworks_ok {cookie u : String} (hm : m.requestType = .listNetworks)
    (hsub : m.listNetworksMessage = some ⟨some cookie⟩) (hauth : AuthenticatedAs m s cookie u) :
    (handle env m s).1 = listNetworksResponse env
      (if env.fault 0 then [] else (s.db.tables.shown u).map PsqlConnector.protoNetwork) := by
  rw [handle, handleRequest, hm]
  dsimp only
  unfold handleListNetworks
  simp only [hsub, hauth.run]
  rfl

theorem handle_listMyNetworks_ok {cookie u : String} (hm : m.requestType = .listMyNetworks)
    (hsub : m.listMyNetworksMessage = some ⟨some cookie⟩) (hauth : AuthenticatedAs m s cookie u) :
    (handle env m s).1 = listMyNetworksResponse env
      (if env.fault 0 then [] else (s.db.tables.own u).map PsqlConnector.protoNetwork) := by
  rw [handle, handleRequest, hm]
  dsimp only
  unfold handleListMyNetworks
  simp only [hsub, hauth.run]
  rfl

/-- A network is joined with its owner. -/
theorem mem_networksWithOwner_iff {t : Tables} (h : t.Valid) {n : NetworkRow} {w : UserRow} :
    (n, w) ∈ t.networksWithOwner ↔ n ∈ t.networks ∧ w ∈ t.users ∧ w.id = n.ownerId := by
  unfold Tables.networksWithOwner
  simp only [List.mem_filterMap, Option.map_eq_some_iff, Prod.mk.injEq]
  constructor
  · rintro ⟨n', hn, w', hw, rfl, rfl⟩
    exact ⟨hn, List.mem_of_find?_eq_some hw, by simpa using List.find?_some hw⟩
  · rintro ⟨hn, hw, hid⟩
    obtain ⟨w', hw'⟩ := Option.isSome_iff_exists.1
      (List.find?_isSome.2 ⟨w, hw, by simpa using hid⟩ :
        (t.users.find? (·.id = n.ownerId)).isSome)
    have hid' : w'.id = n.ownerId := by simpa using List.find?_some hw'
    have : w' = w := List.inj_on_of_nodup_map h.userIds (List.mem_of_find?_eq_some hw') hw
      (hid'.trans hid.symm)
    exact ⟨n, hn, w', hw', rfl, this⟩

/-- No network is listed twice. -/
theorem nodup_networksWithOwner {t : Tables} (h : t.Valid) :
    (t.networksWithOwner.map (·.1.id)).Nodup := by
  have hsub : ∀ l : List NetworkRow,
      ((l.filterMap fun n => (t.users.find? (·.id = n.ownerId)).map (n, ·)).map (·.1.id)).Sublist
        (l.map (·.id)) := by
    intro l
    induction l with
    | nil => simp
    | cons n l ih =>
      cases hw : t.users.find? (·.id = n.ownerId) with
      | none => simpa [hw] using ih.cons n.id
      | some w => simpa [hw] using ih.cons_cons n.id
  exact h.networkIds.sublist (hsub t.networks)

end Sp2p.Tracker
