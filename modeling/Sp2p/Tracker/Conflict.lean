import Mathlib.Data.List.Find
import Sp2p.Tracker.Outcome

/-!
# Which calls conflict

What each call of a shared object reads and what it writes, in terms of `View`s of the state: an
account, a password, a network, a whole table. Two calls conflict when one writes what the other
reads or writes, and `commute_of_not_conflict` says that other calls can be made in either order.

The proof has two parts. A call keeps every view it does not write (`frame`), and what it answers
and writes depends on the views it reads and on the tables it writes (`determined`). Two calls that
do not conflict write different tables, up to one pair: networks of different names can be created
and deleted in either order.
-/

namespace Sp2p.Tracker

open Interleaving

/-! ### Footprints -/

/-- A part of the state that a call can depend on. -/
inductive View
  | session (cookie : String)
  /-- Whether there is such a user, and its number. -/
  | account (login : String)
  | password (login : String)
  /-- The numbers and names of all users. -/
  | accounts
  /-- All of the users table. -/
  | users
  | network (name : String)
  /-- All of the networks table but its sequence. -/
  | networks
  | networkIds
  | servers | invitations | publicKey
  deriving DecidableEq

namespace View

/-- Changing the one can change the other. Names are the same up to trailing blanks. -/
def meets : View → View → Bool
  | session c, session c' => c = c'
  | account l, account l' | password l, password l' => rstrip l = rstrip l'
  | account _, accounts | users, users => true
  | network n, network n' => rstrip n = rstrip n'
  | network _, networks | networks, network _ | networks, networks => true
  | networkIds, networkIds | servers, servers | invitations, invitations | publicKey, publicKey => true
  | _, _ => false

/-- The views that make up the state. -/
def isTable : View → Bool
  | account _ | password _ | accounts | network _ => false
  | _ => true

end View

namespace Call

open View

def reads : Call → List View
  | getLogin c => [session c]
  | addKey _ l n _ | createInvitation _ l n | updateServer _ n l .. | deleteServer _ n l
  | canSeeNetwork _ n l | canAddServer _ l n => [account l, network n]
  | createNetwork _ _ l .. | deleteNetwork _ l _ | userExists _ l => [account l]
  | getPassHash _ l => [password l]
  | getUserInfo _ l n => [account l, network n, publicKey]
  | getAllNetworks _ l => [account l, accounts, networks, invitations]
  | getUserNetworks .. => [accounts, networks]
  | networkExists _ n => [network n]
  | getServers _ n => [network n, accounts, servers]
  | login .. | logout _ | createUser .. | removeUser .. | changeUserPassword .. => []

def writes : Call → List View
  | login _ c _ | logout c => [session c]
  | createUser _ l _ => [account l, password l, users]
  | removeUser _ l => [account l, password l, users, networks, servers, invitations, publicKey]
  | changeUserPassword _ l _ => [password l, users]
  | addKey .. => [publicKey]
  | createInvitation .. => [invitations]
  | createNetwork _ n .. => [network n, networkIds]
  | deleteNetwork _ _ n => [network n, servers, invitations, publicKey]
  | updateServer .. | deleteServer .. => [servers]
  | _ => []

/-- The call can change what the view shows. -/
def alters (c : Call) (v : View) : Bool := c.writes.any (·.meets v)

end Call

/-- One of the calls writes what the other reads or writes. -/
def Conflict (c d : Call) : Prop :=
  (∃ v ∈ c.reads ++ c.writes, d.alters v) ∨ ∃ v ∈ d.reads, c.alters v

instance (c d : Call) : Decidable (Conflict c d) := inferInstanceAs (Decidable (_ ∨ _))

namespace View

/-- What there is to see. -/
abbrev Sight : View → Type
  | session _ => Option String × Option Int
  | account _ => Option Nat
  | password _ => Option (BpChar 70)
  | accounts => List (Nat × BpChar 30)
  | users => List UserRow × Nat
  | network _ => Option NetworkRow
  | networks => List NetworkRow
  | networkIds => Nat
  | servers => LinkTable ServerData
  | invitations => LinkTable Unit
  | publicKey => LinkTable String

def of (s : State) : (v : View) → v.Sight
  | session c => (s.sessions.loginOf c, s.sessions.cookieToTime[c]?)
  | account l => s.db.tables.userId? l
  | password l => (s.db.tables.users.find? fun u => u.login.text = rstrip l).map (·.password)
  | accounts => s.db.tables.users.map fun u => (u.id, u.login)
  | users => (s.db.tables.users, s.db.tables.usersSeq)
  | network n => s.db.tables.network? n
  | networks => s.db.tables.networks
  | networkIds => s.db.tables.networksSeq
  | servers => s.db.tables.servers
  | invitations => s.db.tables.invitations
  | publicKey => s.db.tables.publicKey

end View

/-- Two states that look the same in all tables and sessions are equal. -/
theorem State.ext_of_views {s s' : State} (h : ∀ v : View, v.isTable → v.of s = v.of s') : s = s' := by
  have hdb : s.db = s'.db := Database.ext (Tables.ext
    (congrArg Prod.fst (h .users rfl)) (congrArg Prod.snd (h .users rfl)) (h .networks rfl)
    (h .networkIds rfl) (h .servers rfl) (h .invitations rfl) (h .publicKey rfl))
  have hsessions : s.sessions = s'.sessions := SessionControler.ext_of_get
    (fun c => congrArg Prod.fst (h (.session c) rfl))
    (fun c => congrArg Prod.snd (h (.session c) rfl))
  obtain ⟨db, sc⟩ := s
  obtain ⟨db', sc'⟩ := s'
  cases hdb
  cases hsessions
  rfl

/-! ### What the statements keep -/

/-- Rows that are not looked for may go. -/
theorem find?_filter_of_forall {α : Type} {l : List α} {p q : α → Bool}
    (h : ∀ x ∈ l, p x = true → q x = true) : (l.filter q).find? p = l.find? p := by
  rw [List.find?_filter]
  refine List.find?_congr fun x hx => ?_
  by_cases hp : p x = true
  · simp [hp, h x hx hp]
  · simp [hp]

namespace Tables
variable {t : Tables}

theorem find?_pushUser {l : BpChar 30} (p : BpChar 70) {login : String} (h : l.text ≠ rstrip login) :
    (t.pushUser l p).users.find? (fun u => u.login.text = rstrip login) =
      t.users.find? fun u => u.login.text = rstrip login := by
  simp [pushUser, List.find?_append, h]

theorem find?_deleteUser (hv : t.Valid) {l login : String} (h : rstrip l ≠ rstrip login) :
    (t.deleteUser l).users.find? (fun u => u.login.text = rstrip login) =
      t.users.find? fun u => u.login.text = rstrip login := by
  unfold deleteUser
  split
  · rename_i uid huid
    obtain ⟨u, hu, hlogin, rfl⟩ := (userId?_eq_some hv).1 huid
    refine find?_filter_of_forall fun x hx hxl => ?_
    simp only [decide_eq_true_eq] at hxl ⊢
    intro hid
    obtain rfl : x = u := List.inj_on_of_nodup_map hv.userIds hx hu hid
    exact h (hlogin.symm.trans hxl)
  · rfl

/-- The row of a name after a password changes. -/
theorem find?_setPassword (l : String) (p : BpChar 70) (login : String) :
    (t.setPassword l p).users.find? (fun u => u.login.text = rstrip login) =
      (t.users.find? fun u => u.login.text = rstrip login).map fun u =>
        if u.login.text = rstrip l then { u with password := p } else u := by
  have hname : ((fun u : UserRow => decide (u.login.text = rstrip login)) ∘
      fun u => if u.login.text = rstrip l then { u with password := p } else u) =
        fun u => decide (u.login.text = rstrip login) := by
    funext u
    rw [Function.comp_apply]
    split <;> rfl
  rw [setPassword, List.find?_map, hname]

theorem userId?_setPassword (l : String) (p : BpChar 70) (login : String) :
    (t.setPassword l p).userId? login = t.userId? login := by
  rw [userId?, find?_setPassword, Option.map_map]
  refine Option.map_congr fun u _ => ?_
  rw [Function.comp_apply]
  split <;> rfl

theorem find?_setPassword_of_ne {l : String} (p : BpChar 70) {login : String}
    (h : rstrip l ≠ rstrip login) :
    (t.setPassword l p).users.find? (fun u => u.login.text = rstrip login) =
      t.users.find? fun u => u.login.text = rstrip login := by
  rw [find?_setPassword]
  cases hfind : t.users.find? fun u => u.login.text = rstrip login with
  | none => rfl
  | some u =>
    have hlogin : u.login.text = rstrip login := by simpa using List.find?_some hfind
    rw [Option.map_some, if_neg fun he => h (he.symm.trans hlogin)]

theorem accounts_setPassword (l : String) (p : BpChar 70) :
    (t.setPassword l p).users.map (fun u => (u.id, u.login)) =
      t.users.map fun u => (u.id, u.login) := by
  rw [setPassword, List.map_map]
  refine List.map_congr_left fun u _ => ?_
  rw [Function.comp_apply]
  split <;> rfl

theorem network?_pushNetwork {row : Nat → NetworkRow} {name : String}
    (h : (row (t.networksSeq + 1)).name.text ≠ rstrip name) :
    (t.pushNetwork row).network? name = t.network? name := by
  simp [network?, pushNetwork, List.find?_append, h]

theorem network?_deleteNetworkRow (hv : t.Valid) {n name : String} {row : NetworkRow}
    (hn : t.network? n = some row) (h : rstrip n ≠ rstrip name) :
    (t.deleteNetworkRow row.id).network? name = t.network? name := by
  obtain ⟨hmem, hname⟩ := (network?_eq_some hv).1 hn
  refine find?_filter_of_forall fun x hx hxl => ?_
  simp only [decide_eq_true_eq] at hxl ⊢
  intro hid
  obtain rfl : x = row := List.inj_on_of_nodup_map hv.networkIds hx hmem hid
  exact h (hname.symm.trans hxl)

end Tables

/-! ### A call keeps the views it does not write -/

section Frame

attribute [local simp] Call.alters Call.writes View.meets

variable {s : State} {v : View}

theorem frame_login {l c : String} {now : Int} (hv : (Call.login l c now).alters v = false) :
    v.of (exec (.login l c now) s).2 = v.of s := by
  cases v with
  | session c' =>
    have hc : c ≠ c' := by simpa using hv
    refine Prod.ext ((SessionControler.loginOf_login _ l c now c').trans (if_neg hc)) ?_
    show (s.sessions.cookieToTime.insert c now)[c']? = _
    simp [Std.ExtTreeMap.getElem?_insert, hc, View.of]
  | _ => rfl

theorem frame_logout {c : String} (hv : (Call.logout c).alters v = false) :
    v.of (exec (.logout c) s).2 = v.of s := by
  cases v with
  | session c' =>
    have hc : c ≠ c' := by simpa using hv
    exact Prod.ext ((SessionControler.loginOf_logout _ c c').trans (if_neg hc))
      ((SessionControler.timeOf_logout _ c c').trans (if_neg hc))
  | _ => rfl

/-- What a transaction keeps is what its statement keeps. -/
theorem frame_transacts {fault : Bool} {x : Except SqlError Tables} {out : DBResponse × State}
    (h : Transacts fault x s out)
    (hx : ∀ t (ht : t.Valid), x = .ok t → v.of ⟨⟨t, ht⟩, s.sessions⟩ = v.of s) :
    v.of out.2 = v.of s := by
  rcases h with ⟨⟨⟨t, ht⟩, sc⟩, -, hok, hs, rfl⟩ | ⟨r, -, -, rfl⟩
  · obtain rfl : sc = s.sessions := hs
    exact hx t ht hok
  · rfl

theorem frame_createUser {fault : Bool} {l pw : String}
    (hv : (Call.createUser fault l pw).alters v = false) :
    v.of (exec (.createUser fault l pw) s).2 = v.of s := by
  refine frame_transacts (exec_createUser fault l pw s) fun t ht hx => ?_
  obtain ⟨bl, bp, hl, -, -, rfl⟩ := Tables.insertUser_eq_ok.1 hx
  rw [BpChar.ofText_eq_some] at hl
  cases v with
  | account l' =>
    have hne : bl.text ≠ rstrip l' := by simpa [hl] using hv
    exact congrArg (Option.map UserRow.id) (Tables.find?_pushUser bp hne)
  | password l' =>
    have hne : bl.text ≠ rstrip l' := by simpa [hl] using hv
    exact congrArg (Option.map UserRow.password) (Tables.find?_pushUser bp hne)
  | accounts | users => cases hv
  | _ => rfl

theorem frame_removeUser {fault : Bool} {l : String}
    (hv : (Call.removeUser fault l).alters v = false) :
    v.of (exec (.removeUser fault l) s).2 = v.of s := by
  refine frame_transacts (exec_removeUser fault l s) fun t ht hx => ?_
  cases hx
  cases v with
  | account l' =>
    have hne : rstrip l ≠ rstrip l' := by simpa using hv
    exact congrArg (Option.map UserRow.id) (Tables.find?_deleteUser s.db.valid hne)
  | password l' =>
    have hne : rstrip l ≠ rstrip l' := by simpa using hv
    exact congrArg (Option.map UserRow.password) (Tables.find?_deleteUser s.db.valid hne)
  | session => rfl
  | networkIds =>
    show (s.db.tables.deleteUser l).networksSeq = _
    unfold Tables.deleteUser
    split <;> rfl
  | _ => simp at hv

theorem frame_changeUserPassword {fault : Bool} {l pw : String}
    (hv : (Call.changeUserPassword fault l pw).alters v = false) :
    v.of (exec (.changeUserPassword fault l pw) s).2 = v.of s := by
  refine frame_transacts (exec_changeUserPassword fault l pw s) fun t ht hx => ?_
  obtain ⟨bp, -, rfl⟩ := Tables.updatePassword_eq_ok.1 hx
  cases v with
  | account l' => exact Tables.userId?_setPassword l bp l'
  | password l' =>
    have hne : rstrip l ≠ rstrip l' := by simpa using hv
    exact congrArg (Option.map UserRow.password) (Tables.find?_setPassword_of_ne bp hne)
  | accounts => exact Tables.accounts_setPassword l bp
  | users => cases hv
  | _ => rfl

theorem frame_createNetwork {fault : Bool} {n l : String} {pub vis part : Bool} {mail proto : String}
    (hv : (Call.createNetwork fault n l pub vis part mail proto).alters v = false) :
    v.of (exec (.createNetwork fault n l pub vis part mail proto) s).2 = v.of s := by
  refine frame_transacts (exec_createNetwork fault n l pub vis part mail proto s) fun t ht hx => ?_
  obtain ⟨bn, _, _, _, hn, -, -, -, -, rfl⟩ := Tables.insertNetwork_eq_ok.1 hx
  rw [BpChar.ofText_eq_some] at hn
  cases v with
  | network n' =>
    have hne : bn.text ≠ rstrip n' := by simpa [hn] using hv
    exact Tables.network?_pushNetwork hne
  | networks | networkIds => cases hv
  | _ => rfl

theorem frame_deleteNetwork {fault : Bool} {l n : String}
    (hv : (Call.deleteNetwork fault l n).alters v = false) :
    v.of (exec (.deleteNetwork fault l n) s).2 = v.of s := by
  rcases exec_deleteNetwork fault l n s with ⟨row, ⟨⟨t, ht⟩, sc⟩, hn, -, rfl, rfl, he⟩ | ⟨r, -, he⟩
  · rw [he]
    cases v with
    | network n' =>
      have hne : rstrip n ≠ rstrip n' := by simpa using hv
      exact Tables.network?_deleteNetworkRow s.db.valid hn hne
    | networks | servers | invitations | publicKey => cases hv
    | _ => rfl
  · rw [he]

theorem frame_addKey {fault : Bool} {l n key : String}
    (hv : (Call.addKey fault l n key).alters v = false) :
    v.of (exec (.addKey fault l n key) s).2 = v.of s := by
  refine frame_transacts (exec_addKey fault l n key s) fun t ht hx => ?_
  obtain ⟨_, _, -, -, -, rfl⟩ := Tables.insertKey_eq_ok.1 hx
  cases v with
  | publicKey => cases hv
  | _ => rfl

theorem frame_createInvitation {fault : Bool} {l n : String}
    (hv : (Call.createInvitation fault l n).alters v = false) :
    v.of (exec (.createInvitation fault l n) s).2 = v.of s := by
  refine frame_transacts (exec_createInvitation fault l n s) fun t ht hx => ?_
  obtain ⟨_, _, -, -, -, rfl⟩ := Tables.insertInvitation_eq_ok.1 hx
  cases v with
  | invitations => cases hv
  | _ => rfl

theorem frame_updateServer {fault : Bool} {n l ip : String} {port ttl : Int}
    (hv : (Call.updateServer fault n l ip port ttl).alters v = false) :
    v.of (exec (.updateServer fault n l ip port ttl) s).2 = v.of s := by
  rcases exec_updateServer fault n l ip port ttl s with ⟨d, ⟨⟨t, ht⟩, sc⟩, hx, rfl, he⟩ | ⟨r, he⟩
  · rw [he]
    obtain ⟨_, _, -, -, -, rfl⟩ := Tables.insertServer_eq_ok.1 hx
    cases v with
    | servers => cases hv
    | _ => rfl
  · rw [he]

theorem frame_deleteServer {fault : Bool} {n l : String}
    (hv : (Call.deleteServer fault n l).alters v = false) :
    v.of (exec (.deleteServer fault n l) s).2 = v.of s := by
  cases fault with
  | true => rfl
  | false =>
    cases v with
    | servers => cases hv
    | _ => rfl

theorem frame {c : Call} (hv : c.alters v = false) : v.of (exec c s).2 = v.of s := by
  cases c with
  | login => exact frame_login hv
  | logout => exact frame_logout hv
  | createUser => exact frame_createUser hv
  | removeUser => exact frame_removeUser hv
  | changeUserPassword => exact frame_changeUserPassword hv
  | addKey => exact frame_addKey hv
  | createInvitation => exact frame_createInvitation hv
  | createNetwork => exact frame_createNetwork hv
  | deleteNetwork => exact frame_deleteNetwork hv
  | updateServer => exact frame_updateServer hv
  | deleteServer => exact frame_deleteServer hv
  | _ => rfl

end Frame

/-! ### What a call answers and writes depends on what it reads -/

/-- Two states are alike for a call: in what it reads, and in the tables it writes. -/
structure Alike (c : Call) (s s' : State) : Prop where
  reads : ∀ v ∈ c.reads, v.of s = v.of s'
  tables : ∀ v : View, v.isTable → c.alters v → v.of s = v.of s'

/-- The call answers the same in two states, and leaves the tables it writes the same. -/
def SameEffect (c : Call) (s s' : State) : Prop :=
  (exec c s).1 = (exec c s').1 ∧
    ∀ v : View, v.isTable → c.alters v → v.of (exec c s).2 = v.of (exec c s').2

/-- A statement fails alike on two databases, or is fine on both. -/
inductive SameResult (R : Tables → Tables → Prop) : Except SqlError Tables → Except SqlError Tables → Prop
  | ok {t t' : Tables} (h : R t t') : SameResult R (.ok t) (.ok t')
  | error (e : SqlError) : SameResult R (.error e) (.error e)

theorem SameResult.work {R : Tables → Tables → Prop} {x x' : Except SqlError Tables}
    (hx : SameResult R x x') {t t' : Tables} (ht : R t t') (fault : Bool) (onUnique : DBResponse) :
    (PsqlConnector.work fault onUnique t x).1 = (PsqlConnector.work fault onUnique t' x').1 ∧
      R (PsqlConnector.work fault onUnique t x).2 (PsqlConnector.work fault onUnique t' x').2 := by
  cases fault with
  | true => exact ⟨rfl, ht⟩
  | false =>
    cases hx with
    | ok h => exact ⟨rfl, h⟩
    | error e => cases e <;> exact ⟨rfl, ht⟩

theorem SameResult.map {δ : Type} {R : Tables → Tables → Prop} (x : Except SqlError (LinkTable δ))
    {f f' : LinkTable δ → Tables} (h : ∀ tbl, R (f tbl) (f' tbl)) :
    SameResult R (x.map f) (x.map f') := by
  cases x with
  | ok tbl => exact .ok (h tbl)
  | error e => exact .error e

section Effect

attribute [local simp] Call.reads

variable {s s' : State}

/-- A call that only reads has the same effect when it answers the same. -/
theorem sameEffect_read {c : Call} (hw : c.writes = []) (h : (exec c s).1 = (exec c s').1) :
    SameEffect c s s' := by
  refine ⟨h, fun v _ hv => ?_⟩
  rw [Call.alters, hw] at hv
  cases hv

theorem effect_login {l c : String} {now : Int} : SameEffect (.login l c now) s s' := by
  refine ⟨rfl, fun v _ hv => ?_⟩
  cases v with
  | session c' =>
    obtain rfl : c = c' := by simpa [Call.alters, Call.writes, View.meets] using hv
    refine Prod.ext ?_ ?_
    · show (s.sessions.login l c now).loginOf c = (s'.sessions.login l c now).loginOf c
      rw [SessionControler.loginOf_login, SessionControler.loginOf_login, if_pos rfl, if_pos rfl]
    · show (s.sessions.cookieToTime.insert c now)[c]? = (s'.sessions.cookieToTime.insert c now)[c]?
      rw [Std.ExtTreeMap.getElem?_insert_self, Std.ExtTreeMap.getElem?_insert_self]
  | _ => cases hv

theorem effect_logout {c : String} (h : Alike (.logout c) s s') : SameEffect (.logout c) s s' := by
  have hsame : View.of s (.session c) = View.of s' (.session c) :=
    h.tables _ rfl (by simp [Call.alters, Call.writes, View.meets])
  have hlogin : s.sessions.loginOf c = s'.sessions.loginOf c := congrArg Prod.fst hsame
  refine ⟨?_, fun v _ hv => ?_⟩
  · show (s.sessions.logout c).1 = (s'.sessions.logout c).1
    rw [SessionControler.logout_fst, SessionControler.logout_fst, decide_eq_decide,
      SessionControler.isLogged_iff, SessionControler.isLogged_iff, hlogin]
  · cases v with
    | session c' =>
      obtain rfl : c = c' := by simpa [Call.alters, Call.writes, View.meets] using hv
      refine Prod.ext ?_ ?_
      · show (s.sessions.logout c).2.loginOf c = (s'.sessions.logout c).2.loginOf c
        rw [SessionControler.loginOf_logout, SessionControler.loginOf_logout, if_pos rfl, if_pos rfl]
      · show (s.sessions.logout c).2.cookieToTime[c]? = (s'.sessions.logout c).2.cookieToTime[c]?
        rw [SessionControler.timeOf_logout, SessionControler.timeOf_logout, if_pos rfl, if_pos rfl]
    | _ => cases hv

theorem effect_createUser {fault : Bool} {l pw : String} (h : Alike (.createUser fault l pw) s s') :
    SameEffect (.createUser fault l pw) s s' := by
  have husers : s.db.tables.users = s'.db.tables.users := congrArg Prod.fst (h.tables .users rfl rfl)
  have hseq : s.db.tables.usersSeq = s'.db.tables.usersSeq :=
    congrArg Prod.snd (h.tables .users rfl rfl)
  have hx : SameResult (fun t t' => t.users = t'.users ∧ t.usersSeq = t'.usersSeq)
      (s.db.tables.insertUser l pw) (s'.db.tables.insertUser l pw) := by
    unfold Tables.insertUser
    rw [husers]
    split
    · split
      · exact .error _
      · exact .ok ⟨by simp only [Tables.pushUser, husers, hseq], by simp only [Tables.pushUser, hseq]⟩
    · exact .error _
  obtain ⟨hans, hafter⟩ := hx.work ⟨husers, hseq⟩ fault .notUnique
  refine ⟨hans, fun v htable hv => ?_⟩
  cases v with
  | users => exact Prod.ext hafter.1 hafter.2
  | account | password | accounts => cases htable
  | _ => cases hv

theorem effect_changeUserPassword {fault : Bool} {l pw : String}
    (h : Alike (.changeUserPassword fault l pw) s s') :
    SameEffect (.changeUserPassword fault l pw) s s' := by
  have husers : s.db.tables.users = s'.db.tables.users := congrArg Prod.fst (h.tables .users rfl rfl)
  have hseq : s.db.tables.usersSeq = s'.db.tables.usersSeq :=
    congrArg Prod.snd (h.tables .users rfl rfl)
  have hx : SameResult (fun t t' => t.users = t'.users ∧ t.usersSeq = t'.usersSeq)
      (s.db.tables.updatePassword l pw) (s'.db.tables.updatePassword l pw) := by
    unfold Tables.updatePassword
    split
    · exact .ok ⟨by simp only [Tables.setPassword, husers], hseq⟩
    · exact .error _
  obtain ⟨hans, hafter⟩ := hx.work ⟨husers, hseq⟩ fault .notFound
  refine ⟨hans, fun v htable hv => ?_⟩
  cases v with
  | users => exact Prod.ext hafter.1 hafter.2
  | password => cases htable
  | _ => cases hv

theorem deleteUser_networksSeq (t : Tables) (l : String) (k : Nat) :
    ({ t with networksSeq := k } : Tables).deleteUser l = { t.deleteUser l with networksSeq := k } := by
  have hid : ({ t with networksSeq := k } : Tables).userId? l = t.userId? l := rfl
  unfold Tables.deleteUser
  rw [hid]
  cases t.userId? l <;> rfl

theorem effect_removeUser {fault : Bool} {l : String} (h : Alike (.removeUser fault l) s s') :
    SameEffect (.removeUser fault l) s s' := by
  -- The call writes all but one number, which it does not look at.
  have ht : { s.db.tables with networksSeq := 0 } = { s'.db.tables with networksSeq := 0 } :=
    Tables.ext (congrArg Prod.fst (h.tables .users rfl rfl))
      (congrArg Prod.snd (h.tables .users rfl rfl)) (h.tables .networks rfl rfl) rfl
      (h.tables .servers rfl rfl) (h.tables .invitations rfl rfl) (h.tables .publicKey rfl rfl)
  have hx : SameResult (fun t t' => { t with networksSeq := 0 } = { t' with networksSeq := 0 })
      (.ok (s.db.tables.deleteUser l)) (.ok (s'.db.tables.deleteUser l)) := by
    refine .ok ?_
    rw [← deleteUser_networksSeq, ← deleteUser_networksSeq, ht]
  obtain ⟨hans, hafter⟩ := hx.work ht fault .notFound
  obtain ⟨husers, hseq, hnetworks, -, hservers, hinv, hkeys⟩ := Tables.mk.inj hafter
  refine ⟨hans, fun v htable hv => ?_⟩
  cases v with
  | users => exact Prod.ext husers hseq
  | networks => exact hnetworks
  | servers => exact hservers
  | invitations => exact hinv
  | publicKey => exact hkeys
  | account | password | accounts | network => cases htable
  | session | networkIds => simp [Call.alters, Call.writes, View.meets] at hv

/-- A row of links is inserted alike where the table and the numbers are the same. -/
theorem sameResult_insert {δ : Type} {R : Tables → Tables → Prop} {tbl tbl' : LinkTable δ}
    {uid uid' nid nid' : Option Nat} {f f' : LinkTable δ → Tables} (d : δ) (htbl : tbl = tbl')
    (huid : uid = uid') (hnid : nid = nid') (hR : ∀ tbl, R (f tbl) (f' tbl)) :
    SameResult R ((tbl.insert uid nid d).map f) ((tbl'.insert uid' nid' d).map f') := by
  subst htbl huid hnid
  exact SameResult.map _ hR

/-- The number of a network is seen with the network. -/
theorem networkId?_eq {n : String} (h : View.of s (.network n) = View.of s' (.network n)) :
    s.db.tables.networkId? n = s'.db.tables.networkId? n :=
  congrArg (Option.map NetworkRow.id) h

theorem effect_addKey {fault : Bool} {l n key : String} (h : Alike (.addKey fault l n key) s s') :
    SameEffect (.addKey fault l n key) s s' := by
  have hkeys : s.db.tables.publicKey = s'.db.tables.publicKey := h.tables .publicKey rfl rfl
  have hx : SameResult (fun t t' => t.publicKey = t'.publicKey)
      (s.db.tables.insertKey l n key) (s'.db.tables.insertKey l n key) :=
    sameResult_insert key hkeys (h.reads (.account l) (by simp))
      (networkId?_eq (h.reads (.network n) (by simp))) fun _ => rfl
  obtain ⟨hans, hafter⟩ := hx.work hkeys fault .notFound
  refine ⟨hans, fun v _ hv => ?_⟩
  cases v with
  | publicKey => exact hafter
  | _ => cases hv

theorem effect_createInvitation {fault : Bool} {l n : String}
    (h : Alike (.createInvitation fault l n) s s') :
    SameEffect (.createInvitation fault l n) s s' := by
  have hinv : s.db.tables.invitations = s'.db.tables.invitations := h.tables .invitations rfl rfl
  have hx : SameResult (fun t t' => t.invitations = t'.invitations)
      (s.db.tables.insertInvitation n l) (s'.db.tables.insertInvitation n l) :=
    sameResult_insert () hinv (h.reads (.account l) (by simp))
      (networkId?_eq (h.reads (.network n) (by simp))) fun _ => rfl
  obtain ⟨hans, hafter⟩ := hx.work hinv fault .notUnique
  refine ⟨hans, fun v _ hv => ?_⟩
  cases v with
  | invitations => exact hafter
  | _ => cases hv

theorem effect_createNetwork {fault : Bool} {n l : String} {pub vis part : Bool} {mail proto : String}
    (h : Alike (.createNetwork fault n l pub vis part mail proto) s s') :
    SameEffect (.createNetwork fault n l pub vis part mail proto) s s' := by
  have hnetworks : s.db.tables.networks = s'.db.tables.networks := h.tables .networks rfl rfl
  have hseq : s.db.tables.networksSeq = s'.db.tables.networksSeq := h.tables .networkIds rfl rfl
  have huid : s.db.tables.userId? l = s'.db.tables.userId? l :=
    h.reads (.account l) (by simp)
  have hx : SameResult (fun t t' => t.networks = t'.networks ∧ t.networksSeq = t'.networksSeq)
      (s.db.tables.insertNetwork n l pub vis part mail proto)
      (s'.db.tables.insertNetwork n l pub vis part mail proto) := by
    unfold Tables.insertNetwork
    rw [hnetworks, huid]
    split
    · split
      · exact .error _
      · exact .ok ⟨by simp only [Tables.pushNetwork, hnetworks, hseq],
          by simp only [Tables.pushNetwork, hseq]⟩
    · exact .error _
  obtain ⟨hans, hafter⟩ := hx.work ⟨hnetworks, hseq⟩ fault .notUnique
  refine ⟨hans, fun v htable hv => ?_⟩
  cases v with
  | networks => exact hafter.1
  | networkIds => exact hafter.2
  | network => cases htable
  | _ => cases hv

/-- The tables a deleted network has rows in. -/
structure SameNetworks (t t' : Tables) : Prop where
  networks : t.networks = t'.networks
  servers : t.servers = t'.servers
  invitations : t.invitations = t'.invitations
  publicKey : t.publicKey = t'.publicKey

theorem SameNetworks.deleteNetworkRow {t t' : Tables} (h : SameNetworks t t') (nid : Nat) :
    SameNetworks (t.deleteNetworkRow nid) (t'.deleteNetworkRow nid) where
  networks := congrArg (List.filter _) h.networks
  servers := congrArg (LinkTable.drop fun _ n => n = nid) h.servers
  invitations := congrArg (LinkTable.drop fun _ n => n = nid) h.invitations
  publicKey := congrArg (LinkTable.drop fun _ n => n = nid) h.publicKey

theorem SameNetworks.deleteNetwork {t t' : Tables} {fault : Bool} {l n : String}
    (h : SameNetworks t t') (huid : t.userId? l = t'.userId? l) :
    (PsqlConnector.deleteNetwork fault l n t).1 = (PsqlConnector.deleteNetwork fault l n t').1 ∧
      SameNetworks (PsqlConnector.deleteNetwork fault l n t).2
        (PsqlConnector.deleteNetwork fault l n t').2 := by
  have hn : t.network? n = t'.network? n := by rw [Tables.network?, Tables.network?, h.networks]
  cases fault with
  | true => exact ⟨rfl, h⟩
  | false =>
    unfold PsqlConnector.deleteNetwork
    rcases t.deleteNetwork_cases n l with ⟨row, hrow, ho, he⟩ | ⟨hno, he⟩
    · rcases t'.deleteNetwork_cases n l with ⟨row', hrow', -, he'⟩ | ⟨hno', -⟩
      · obtain rfl : row = row' := Option.some.inj (hrow.symm.trans (hn.trans hrow'))
        rw [he, he']
        exact ⟨rfl, h.deleteNetworkRow row.id⟩
      · exact absurd (ho.trans huid) (hno' row (hn ▸ hrow))
    · rcases t'.deleteNetwork_cases n l with ⟨row', hrow', ho', -⟩ | ⟨-, he'⟩
      · exact absurd (ho'.trans huid.symm) (hno row' (hn ▸ hrow'))
      · rw [he, he']
        exact ⟨rfl, h⟩

theorem effect_deleteNetwork {fault : Bool} {l n : String} (h : Alike (.deleteNetwork fault l n) s s') :
    SameEffect (.deleteNetwork fault l n) s s' := by
  have hsame : SameNetworks s.db.tables s'.db.tables :=
    ⟨h.tables .networks rfl rfl, h.tables .servers rfl rfl, h.tables .invitations rfl rfl,
      h.tables .publicKey rfl rfl⟩
  obtain ⟨hans, hafter⟩ := hsame.deleteNetwork (h.reads (.account l) (by simp))
  refine ⟨hans, fun v htable hv => ?_⟩
  cases v with
  | networks => exact hafter.networks
  | servers => exact hafter.servers
  | invitations => exact hafter.invitations
  | publicKey => exact hafter.publicKey
  | network => cases htable
  | _ => cases hv

theorem effect_updateServer {fault : Bool} {n l ip : String} {port ttl : Int}
    (h : Alike (.updateServer fault n l ip port ttl) s s') :
    SameEffect (.updateServer fault n l ip port ttl) s s' := by
  have hservers : s.db.tables.servers = s'.db.tables.servers := h.tables .servers rfl rfl
  have huid : s.db.tables.userId? l = s'.db.tables.userId? l :=
    h.reads (.account l) (by simp)
  have hnid := networkId?_eq (h.reads (.network n) (by simp))
  have hx : ∀ d : ServerData, SameResult (fun t t' => t.servers = t'.servers)
      (s.db.tables.insertServer n l d) (s'.db.tables.insertServer n l d) := fun d =>
    sameResult_insert d hservers huid hnid fun _ => rfl
  have heffect : (exec (.updateServer fault n l ip port ttl) s).1 =
        (exec (.updateServer fault n l ip port ttl) s').1 ∧
      (exec (.updateServer fault n l ip port ttl) s).2.db.tables.servers =
        (exec (.updateServer fault n l ip port ttl) s').2.db.tables.servers := by
    simp only [exec, write_fst, write_tables, PsqlConnector.updateServer, hservers, huid, hnid]
    split
    · exact ⟨rfl, hservers⟩
    · split
      · exact ⟨rfl, hservers⟩
      · split
        · exact ⟨rfl, hservers⟩
        · exact (hx _).work hservers false .notFound
  refine ⟨heffect.1, fun v _ hv => ?_⟩
  cases v with
  | servers => exact heffect.2
  | _ => cases hv

theorem effect_deleteServer {fault : Bool} {n l : String} (h : Alike (.deleteServer fault n l) s s') :
    SameEffect (.deleteServer fault n l) s s' := by
  have hservers : s.db.tables.servers = s'.db.tables.servers := h.tables .servers rfl rfl
  have huid : s.db.tables.userId? l = s'.db.tables.userId? l :=
    h.reads (.account l) (by simp)
  have hnid := networkId?_eq (h.reads (.network n) (by simp))
  refine ⟨by cases fault <;> rfl, fun v _ hv => ?_⟩
  cases v with
  | servers =>
    show (PsqlConnector.deleteServer fault n l s.db.tables).2.servers =
      (PsqlConnector.deleteServer fault n l s'.db.tables).2.servers
    cases fault with
    | true => exact hservers
    | false =>
      show (s.db.tables.deleteServer n l).2.servers = (s'.db.tables.deleteServer n l).2.servers
      simp only [Tables.deleteServer, hservers, huid, hnid]
  | _ => cases hv

theorem effect_getUserInfo {fault : Bool} {l n : String} (h : Alike (.getUserInfo fault l n) s s') :
    SameEffect (.getUserInfo fault l n) s s' := by
  refine sameEffect_read rfl ?_
  have huid : s.db.tables.userId? l = s'.db.tables.userId? l :=
    h.reads (.account l) (by simp)
  have hnid := networkId?_eq (h.reads (.network n) (by simp))
  have hkeys : s.db.tables.publicKey = s'.db.tables.publicKey :=
    h.reads .publicKey (by simp)
  simp only [exec, PsqlConnector.getUserInfo, huid, hnid, hkeys]

/-- The owner's name is found in the list of numbers and names. -/
theorem ownerLogin_eq {t t' : Tables}
    (hu : t.users.map (fun u => (u.id, u.login)) = t'.users.map fun u => (u.id, u.login)) (uid : Nat) :
    (t.users.find? (·.id = uid)).map (·.login) = (t'.users.find? (·.id = uid)).map (·.login) := by
  have key : ∀ l : List UserRow, (l.find? (·.id = uid)).map (·.login) =
      ((l.map fun u => (u.id, u.login)).find? (·.1 = uid)).map (·.2) := by
    intro l
    rw [List.find?_map, Option.map_map]
    rfl
  rw [key, key, hu]

/-- A listing of networks that looks at the owners' names only is the same. -/
theorem listing_eq {β : Type} {t t' : Tables} (hn : t.networks = t'.networks)
    (hu : t.users.map (fun u => (u.id, u.login)) = t'.users.map fun u => (u.id, u.login))
    {P P' : NetworkRow × UserRow → Bool} {f : NetworkRow × UserRow → β}
    (hP : ∀ n u u', u.login = u'.login → P (n, u) = P' (n, u'))
    (hf : ∀ n u u', u.login = u'.login → f (n, u) = f (n, u')) :
    (t.networksWithOwner.filter P).map f = (t'.networksWithOwner.filter P').map f := by
  unfold Tables.networksWithOwner
  rw [List.filter_filterMap, List.filter_filterMap, List.map_filterMap, List.map_filterMap, hn]
  congr 1
  funext n
  have howner := ownerLogin_eq hu n.ownerId
  cases hfind : t.users.find? (·.id = n.ownerId) with
  | none =>
    rw [hfind, Option.map_none, eq_comm, Option.map_eq_none_iff] at howner
    rw [howner]
    rfl
  | some u =>
    rw [hfind, Option.map_some, eq_comm, Option.map_eq_some_iff] at howner
    obtain ⟨u', hu', hlogin⟩ := howner
    rw [hu']
    simp only [Option.map_some, Option.filter_some, hP n u u' hlogin.symm]
    split
    · exact congrArg some (hf n u u' hlogin.symm)
    · rfl

theorem protoNetwork_congr (n : NetworkRow) (u u' : UserRow) (h : u.login = u'.login) :
    PsqlConnector.protoNetwork (n, u) = PsqlConnector.protoNetwork (n, u') := by
  simp only [PsqlConnector.protoNetwork, h]

theorem effect_getAllNetworks {fault : Bool} {l : String} (h : Alike (.getAllNetworks fault l) s s') :
    SameEffect (.getAllNetworks fault l) s s' := by
  refine sameEffect_read rfl ?_
  have huid : s.db.tables.userId? l = s'.db.tables.userId? l :=
    h.reads (.account l) (by simp)
  have hinv : s.db.tables.invitations = s'.db.tables.invitations :=
    h.reads .invitations (by simp)
  cases fault with
  | true => rfl
  | false =>
    refine listing_eq (h.reads .networks (by simp))
      (h.reads .accounts (by simp)) (fun n u u' hlogin => ?_) protoNetwork_congr
    simp only [Tables.invited, huid, hinv, hlogin]

theorem effect_getUserNetworks {fault : Bool} {l : String}
    (h : Alike (.getUserNetworks fault l) s s') : SameEffect (.getUserNetworks fault l) s s' := by
  refine sameEffect_read rfl ?_
  cases fault with
  | true => rfl
  | false =>
    refine listing_eq (h.reads .networks (by simp))
      (h.reads .accounts (by simp)) (fun n u u' hlogin => ?_) protoNetwork_congr
    simp only [hlogin]

theorem effect_getServers {fault : Bool} {n : String} (h : Alike (.getServers fault n) s s') :
    SameEffect (.getServers fault n) s s' := by
  refine sameEffect_read rfl ?_
  have hservers : s.db.tables.servers = s'.db.tables.servers := h.reads .servers (by simp)
  have hnid := networkId?_eq (h.reads (.network n) (by simp))
  have haccounts := h.reads .accounts (by simp)
  have husers : ∀ uid, s.db.tables.users.any (·.id = uid) = s'.db.tables.users.any (·.id = uid) := by
    intro uid
    have key : ∀ l : List UserRow,
        l.any (·.id = uid) = (l.map fun u => (u.id, u.login)).any (·.1 = uid) := by
      intro l
      rw [List.any_map]
      rfl
    rw [key, key]
    exact congrArg (List.any · _) haccounts
  simp only [exec, PsqlConnector.getServers, hservers, hnid, husers]

theorem effect_getPassHash {fault : Bool} {l : String} (h : Alike (.getPassHash fault l) s s') :
    SameEffect (.getPassHash fault l) s s' := by
  refine sameEffect_read rfl ?_
  have key : ∀ t : Tables, PsqlConnector.getPassHash fault l t =
      if fault then "" else
        (((t.users.find? fun u => u.login.text = rstrip l).map (·.password)).map
          (toStdString ·.out)).getD "" := by
    intro t
    unfold PsqlConnector.getPassHash
    cases t.users.find? fun u => u.login.text = rstrip l <;> rfl
  have hpass : (s.db.tables.users.find? fun u => u.login.text = rstrip l).map (·.password) =
      (s'.db.tables.users.find? fun u => u.login.text = rstrip l).map (·.password) :=
    h.reads (.password l) (by simp)
  simp only [exec, key, hpass]

theorem effect {c : Call} (h : Alike c s s') : SameEffect c s s' := by
  cases c with
  | getLogin c =>
    refine sameEffect_read rfl ?_
    have hsame := h.reads (.session c) (by simp)
    exact congrArg (Option.getD · "") (congrArg Prod.fst hsame)
  | login => exact effect_login
  | logout => exact effect_logout h
  | createUser => exact effect_createUser h
  | removeUser => exact effect_removeUser h
  | changeUserPassword => exact effect_changeUserPassword h
  | userExists fault l =>
    refine sameEffect_read rfl ?_
    have huid : s.db.tables.userId? l = s'.db.tables.userId? l :=
      h.reads (.account l) (by simp)
    simp only [exec, PsqlConnector.userExists, huid]
  | getPassHash => exact effect_getPassHash h
  | getUserInfo => exact effect_getUserInfo h
  | addKey => exact effect_addKey h
  | createInvitation => exact effect_createInvitation h
  | createNetwork => exact effect_createNetwork h
  | deleteNetwork => exact effect_deleteNetwork h
  | getAllNetworks => exact effect_getAllNetworks h
  | getUserNetworks => exact effect_getUserNetworks h
  | networkExists fault n =>
    refine sameEffect_read rfl ?_
    have hnid := networkId?_eq (h.reads (.network n) (by simp))
    simp only [exec, PsqlConnector.networkExists, hnid]
  | canSeeNetwork fault n l =>
    refine sameEffect_read rfl ?_
    have huid : s.db.tables.userId? l = s'.db.tables.userId? l :=
      h.reads (.account l) (by simp)
    have hn : s.db.tables.network? n = s'.db.tables.network? n :=
      h.reads (.network n) (by simp)
    simp only [exec, PsqlConnector.canSeeNetwork, huid, hn]
  | canAddServer fault l n =>
    refine sameEffect_read rfl ?_
    have huid : s.db.tables.userId? l = s'.db.tables.userId? l :=
      h.reads (.account l) (by simp)
    have hn : s.db.tables.network? n = s'.db.tables.network? n :=
      h.reads (.network n) (by simp)
    simp only [exec, PsqlConnector.canAddServer, huid, hn]
  | updateServer => exact effect_updateServer h
  | deleteServer => exact effect_deleteServer h
  | getServers => exact effect_getServers h

end Effect

/-! ### Calls that do not conflict -/

/-- Calls that write nothing that the other reads, and not the same tables, can be made in either
order. -/
theorem commute_of_disjoint {c d : Call} (hreads : ∀ v ∈ c.reads, d.alters v = false)
    (hreads' : ∀ v ∈ d.reads, c.alters v = false)
    (htables : ∀ v : View, v.isTable → c.alters v → d.alters v = false) : Commute exec c d := by
  intro s
  have hc : Alike c s (exec d s).2 :=
    ⟨fun v hv => (frame (hreads v hv)).symm, fun v ht hv => (frame (htables v ht hv)).symm⟩
  have hd : Alike d s (exec c s).2 := by
    refine ⟨fun v hv => (frame (hreads' v hv)).symm, fun v ht hv => (frame ?_).symm⟩
    by_contra hcv
    rw [htables v ht (by simpa using hcv)] at hv
    cases hv
  obtain ⟨hcans, hcafter⟩ := effect hc
  obtain ⟨hdans, hdafter⟩ := effect hd
  refine ⟨hcans.symm, hdans.symm, State.ext_of_views fun v ht => ?_⟩
  by_cases hcv : c.alters v = true
  · have hdv := htables v ht hcv
    rw [frame (s := (exec c s).2) hdv, ← hcafter v ht hcv]
  · rw [Bool.not_eq_true] at hcv
    rw [frame (s := (exec d s).2) hcv]
    by_cases hdv : d.alters v = true
    · exact hdafter v ht hdv
    · rw [Bool.not_eq_true] at hdv
      rw [frame hdv, frame hdv, frame hcv]

section CreateDelete
variable {t : Tables}

theorem deleteNetwork_eq (fault : Bool) (l n : String) (t : Tables) :
    PsqlConnector.deleteNetwork fault l n t =
      if fault then (.internalError, t)
      else match t.network? n with
        | some row =>
          if some row.ownerId = t.userId? l then (.ok, t.deleteNetworkRow row.id) else (.notPermited, t)
        | none => (.notPermited, t) := by
  unfold PsqlConnector.deleteNetwork Tables.deleteNetwork
  split
  · rfl
  · cases t.network? n with
    | none => rfl
    | some row => by_cases ho : some row.ownerId = t.userId? l <;> simp [ho]

/-- A network can be added before or after another one goes. -/
theorem insertNetwork_deleteNetworkRow (hv : t.Valid) {row : NetworkRow} (hrow : row ∈ t.networks)
    {n : String} (hne : row.name.text ≠ rstrip n) (l : String) (pub vis part : Bool)
    (mail proto : String) :
    (t.deleteNetworkRow row.id).insertNetwork n l pub vis part mail proto =
      (t.insertNetwork n l pub vis part mail proto).map (·.deleteNetworkRow row.id) := by
  have huid : (t.deleteNetworkRow row.id).userId? l = t.userId? l := rfl
  unfold Tables.insertNetwork
  rw [huid]
  split
  · rename_i nm mail proto uid hnm _ _ _
    have hnm' : row.name ≠ nm := by
      rintro rfl
      exact hne (BpChar.ofText_eq_some.1 hnm)
    have hany : (t.deleteNetworkRow row.id).networks.any (·.name = nm) =
        t.networks.any (·.name = nm) := by
      rw [Bool.eq_iff_iff, List.any_eq_true, List.any_eq_true]
      constructor
      · rintro ⟨x, hx, hname⟩
        exact ⟨x, (List.mem_filter.1 hx).1, hname⟩
      · rintro ⟨x, hx, hname⟩
        refine ⟨x, List.mem_filter.2 ⟨hx, ?_⟩, hname⟩
        simp only [decide_eq_true_eq] at hname ⊢
        intro hid
        obtain rfl : x = row := List.inj_on_of_nodup_map hv.networkIds hx hrow hid
        exact hnm' hname
    rw [hany]
    split
    · rfl
    · have hid : t.networksSeq + 1 ≠ row.id := by
        have := hv.networksSeq row hrow
        omega
      simp [Except.map, Tables.pushNetwork, Tables.deleteNetworkRow, Tables.dropLinks, hid]
  · rfl

theorem work_map (fault : Bool) (onUnique : DBResponse) (t : Tables) (x : Except SqlError Tables)
    (g : Tables → Tables) :
    PsqlConnector.work fault onUnique (g t) (x.map g) =
      ((PsqlConnector.work fault onUnique t x).1, g (PsqlConnector.work fault onUnique t x).2) := by
  cases fault with
  | true => rfl
  | false =>
    match x with
    | .ok t' => rfl
    | .error .uniqueViolation => rfl
    | .error .failure => rfl

theorem create_deleteNetworkRow (hv : t.Valid) {row : NetworkRow} (hrow : row ∈ t.networks)
    {n : String} (hne : row.name.text ≠ rstrip n) (fault : Bool) (l : String) (pub vis part : Bool)
    (mail proto : String) :
    PsqlConnector.createNetwork fault n l pub vis part mail proto (t.deleteNetworkRow row.id) =
      ((PsqlConnector.createNetwork fault n l pub vis part mail proto t).1,
        (PsqlConnector.createNetwork fault n l pub vis part mail proto t).2.deleteNetworkRow row.id) := by
  unfold PsqlConnector.createNetwork
  rw [insertNetwork_deleteNetworkRow hv hrow hne, work_map fault .notUnique t _ (·.deleteNetworkRow row.id)]

/-- Networks of different names can be created and deleted in either order. -/
theorem commute_create_delete {n n' : String} (hne : rstrip n ≠ rstrip n') (fault fault' : Bool)
    (l l' : String) (pub vis part : Bool) (mail proto : String) :
    Commute exec (.createNetwork fault n l pub vis part mail proto) (.deleteNetwork fault' l' n') := by
  intro s
  generalize hcreate : PsqlConnector.createNetwork fault n l pub vis part mail proto = create
  -- The deletion finds the same row and the same user before and after the creation.
  have hkeep : ∀ v : View, v = .network n' ∨ v = .account l' →
      v.of (exec (.createNetwork fault n l pub vis part mail proto) s).2 = v.of s := by
    rintro v (rfl | rfl)
    · exact frame (by simp [Call.alters, Call.writes, View.meets, hne])
    · exact frame (by simp [Call.alters, Call.writes, View.meets])
  have hrow : (create s.db.tables).2.network? n' = s.db.tables.network? n' :=
    hcreate ▸ hkeep (.network n') (.inl rfl)
  have huid : (create s.db.tables).2.userId? l' = s.db.tables.userId? l' :=
    hcreate ▸ hkeep (.account l') (.inr rfl)
  have hdelete := deleteNetwork_eq fault' l' n' s.db.tables
  have hdelete' := deleteNetwork_eq fault' l' n' (create s.db.tables).2
  rw [hrow, huid] at hdelete'
  suffices htables : (create (PsqlConnector.deleteNetwork fault' l' n' s.db.tables).2).1 =
        (create s.db.tables).1 ∧
      (PsqlConnector.deleteNetwork fault' l' n' (create s.db.tables).2).1 =
        (PsqlConnector.deleteNetwork fault' l' n' s.db.tables).1 ∧
      (create (PsqlConnector.deleteNetwork fault' l' n' s.db.tables).2).2 =
        (PsqlConnector.deleteNetwork fault' l' n' (create s.db.tables).2).2 by
    rw [← hcreate] at htables
    exact ⟨htables.1, htables.2.1, State.ext_of htables.2.2 rfl⟩
  rw [hdelete, hdelete']
  cases fault' with
  | true => exact ⟨rfl, rfl, rfl⟩
  | false =>
    cases hfound : s.db.tables.network? n' with
    | none => exact ⟨rfl, rfl, rfl⟩
    | some row =>
      obtain ⟨hmem, hname⟩ := (Tables.network?_eq_some s.db.valid).1 hfound
      have hne' : row.name.text ≠ rstrip n := fun he => hne (he.symm.trans hname)
      have hswap := create_deleteNetworkRow s.db.valid hmem hne' fault l pub vis part mail proto
      rw [hcreate] at hswap
      by_cases ho : some row.ownerId = s.db.tables.userId? l'
      · simp only [ho, if_true, Bool.false_eq_true, if_false, hswap, and_self]
      · simp only [ho, if_false, Bool.false_eq_true, and_self]

end CreateDelete

/-- A table but the networks is written as a whole. -/
theorem eq_of_meets {v w : View} (ht : v.isTable) (hn : v ≠ .networks) (h : w.meets v) : w = v := by
  cases v <;> cases w <;> simp_all [View.isTable, View.meets]

/-- The calls that write the networks table. -/
theorem alters_networks {c : Call} (h : c.alters .networks) :
    (∃ fault l, c = .removeUser fault l) ∨
      (∃ fault n l pub vis part mail proto, c = .createNetwork fault n l pub vis part mail proto) ∨
      ∃ fault l n, c = .deleteNetwork fault l n := by
  cases c <;> simp [Call.alters, Call.writes, View.meets] at h ⊢

/-- **Calls that do not conflict can be made in either order.** -/
theorem commute_of_not_conflict (c d : Call) (h : ¬ Conflict c d) : Commute exec c d := by
  simp only [Conflict, not_or, not_exists, not_and, Bool.not_eq_true, List.mem_append] at h
  obtain ⟨hcd, hdc⟩ := h
  by_cases hboth : c.alters .networks ∧ d.alters .networks
  · obtain ⟨hc, hd⟩ := hboth
    rcases alters_networks hc with ⟨_, _, rfl⟩ | ⟨_, n, _, _, _, _, _, _, rfl⟩ | ⟨_, _, n, rfl⟩
    · rw [hcd .networks (.inr (by simp [Call.writes]))] at hd
      cases hd
    · have hn := hcd (.network n) (.inr (by simp [Call.writes]))
      rcases alters_networks hd with ⟨_, _, rfl⟩ | ⟨_, _, _, _, _, _, _, _, rfl⟩ | ⟨_, _, n', rfl⟩
      · cases hn
      · have hids := hcd .networkIds (.inr (by simp [Call.writes]))
        cases hids
      · have hne : rstrip n' ≠ rstrip n := by simpa [Call.alters, Call.writes, View.meets] using hn
        exact commute_create_delete hne.symm _ _ _ _ _ _ _ _ _
    · have hn := hcd (.network n) (.inr (by simp [Call.writes]))
      rcases alters_networks hd with ⟨_, _, rfl⟩ | ⟨_, n', _, _, _, _, _, _, rfl⟩ | ⟨_, _, _, rfl⟩
      · cases hn
      · have hne : rstrip n' ≠ rstrip n := by simpa [Call.alters, Call.writes, View.meets] using hn
        exact (commute_create_delete hne _ _ _ _ _ _ _ _ _).symm
      · have hservers := hcd .servers (.inr (by simp [Call.writes]))
        cases hservers
  · refine commute_of_disjoint (fun v hv => hcd v (.inl hv)) hdc fun v ht hcv => ?_
    by_cases hv : v = .networks
    · subst hv
      exact Bool.eq_false_iff.2 fun hdv => hboth ⟨hcv, hdv⟩
    · obtain ⟨w, hw, hmeets⟩ := List.any_eq_true.1 hcv
      obtain rfl : w = v := eq_of_meets ht hv hmeets
      exact hcd w (.inr hw)

end Sp2p.Tracker
