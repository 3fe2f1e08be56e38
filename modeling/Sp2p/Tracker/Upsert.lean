import Sp2p.Tracker.Lease

/-!
# Registering a server twice

`Upserted` says what a table of links looks like after an upsert: one row for the pair, with the
data, and the other rows as they were. Pushing a row where there was none does that, and so would the
`UPDATE` of `updateServer` if it were committed (`upserted_set`). Since it is not, the method
upserts exactly when there is nothing to change in the row (`updateServer_upserts_iff`).
-/

namespace Sp2p.Tracker

open Protocol
open Framing (toInt32)

namespace LinkTable
variable {δ : Type}

/-- The row ties these two together. -/
def Ties (u n : Nat) (r : LinkRow δ) : Bool := r.userId = u && r.networkId = n

/-- `UPDATE` of the rows of the user and the network. -/
def set (tbl : LinkTable δ) (u n : Nat) (d : δ) : LinkTable δ :=
  { tbl with rows := tbl.rows.map fun r => if Ties u n r then { r with data := d } else r }

/-- One row ties the two, with these data, and the others are as they were. -/
structure Upserted (u n : Nat) (d : δ) (tbl tbl' : LinkTable δ) : Prop where
  one : ∃ id, tbl'.rows.filter (Ties u n) = [⟨id, u, n, d⟩]
  others : (tbl'.rows.filter fun r => !Ties u n r) = tbl.rows.filter fun r => !Ties u n r

variable {tbl : LinkTable δ} {u n : Nat} {d : δ} {users : List UserRow} {networks : List NetworkRow}

theorem ties_iff {r : LinkRow δ} : Ties u n r = true ↔ r.userId = u ∧ r.networkId = n := by
  simp [Ties]

theorem find?_eq_find_ties : tbl.find? (some u) (some n) = tbl.rows.find? (Ties u n) := by
  unfold find?
  congr 1
  funext r
  simp [Ties]

theorem filter_ties_eq_nil : tbl.rows.filter (Ties u n) = [] ↔ tbl.find? (some u) (some n) = none := by
  rw [find?_eq_find_ties, List.filter_eq_nil_iff, List.find?_eq_none]

/-- Two rows never tie the same two. -/
theorem Valid.filter_ties (h : tbl.Valid users networks) {row : LinkRow δ}
    (hrow : tbl.find? (some u) (some n) = some row) : tbl.rows.filter (Ties u n) = [row] := by
  have hnodup : ((tbl.rows.filter (Ties u n)).map fun r => (r.userId, r.networkId)).Nodup :=
    h.pairs.sublist (List.filter_sublist.map _)
  have hall : ∀ p ∈ (tbl.rows.filter (Ties u n)).map fun r => (r.userId, r.networkId), p = (u, n) := by
    intro p hp
    obtain ⟨r, hr, rfl⟩ := List.mem_map.1 hp
    obtain ⟨hu, hn⟩ := ties_iff.1 (List.mem_filter.1 hr).2
    rw [hu, hn]
  have hlen : (tbl.rows.filter (Ties u n)).length ≤ 1 := by
    rw [List.eq_replicate_of_mem hall, List.nodup_replicate, List.length_map] at hnodup
    exact hnodup
  rw [find?_eq_find_ties, ← List.head?_filter] at hrow
  cases hf : tbl.rows.filter (Ties u n) with
  | nil =>
    rw [hf] at hrow
    cases hrow
  | cons r rs =>
    rw [hf] at hrow hlen
    have hrs : rs = [] := by
      apply List.eq_nil_of_length_eq_zero
      rw [List.length_cons] at hlen
      omega
    rw [hrs, ← Option.some_inj.1 hrow]

theorem upserted_push (hnew : tbl.find? (some u) (some n) = none) :
    Upserted u n d tbl (tbl.push u n d) where
  one := by
    refine ⟨tbl.seq + 1, ?_⟩
    rw [push, List.filter_append, filter_ties_eq_nil.2 hnew]
    simp [Ties]
  others := by
    rw [push, List.filter_append]
    simp [Ties]

/-- A table that keeps its row has been upserted when the row holds the data. -/
theorem Valid.upserted_self_iff (h : tbl.Valid users networks) {row : LinkRow δ}
    (hrow : tbl.find? (some u) (some n) = some row) : Upserted u n d tbl tbl ↔ row.data = d := by
  have hone := h.filter_ties hrow
  constructor
  · rintro ⟨⟨id, hid⟩, -⟩
    rw [hone, List.singleton_inj] at hid
    rw [hid]
  · rintro rfl
    obtain ⟨hu, hn⟩ := ties_iff.1 (List.find?_some (find?_eq_find_ties ▸ hrow))
    refine ⟨⟨row.id, ?_⟩, rfl⟩
    rw [hone, ← hu, ← hn]

/-- What the `UPDATE` leaves is an upsert. -/
theorem Valid.upserted_set (h : tbl.Valid users networks) {row : LinkRow δ}
    (hrow : tbl.find? (some u) (some n) = some row) : Upserted u n d tbl (tbl.set u n d) where
  one := by
    have hkeep : (Ties u n ∘ fun r : LinkRow δ => if Ties u n r then { r with data := d } else r) =
        Ties u n := by
      funext r
      show Ties u n (if Ties u n r then { r with data := d } else r) = Ties u n r
      split
      · rfl
      · rfl
    obtain ⟨hu, hn⟩ := ties_iff.1 (List.find?_some (find?_eq_find_ties ▸ hrow))
    refine ⟨row.id, ?_⟩
    rw [set, List.filter_map, hkeep, h.filter_ties hrow, List.map_singleton,
      if_pos (ties_iff.2 ⟨hu, hn⟩), hu, hn]
  others := by
    have hkeep : ((fun r => !Ties u n r) ∘
        fun r : LinkRow δ => if Ties u n r then { r with data := d } else r) =
        fun r => !Ties u n r := by
      funext r
      show (!Ties u n (if Ties u n r then { r with data := d } else r)) = !Ties u n r
      split
      · rfl
      · rfl
    rw [set, List.filter_map, hkeep]
    refine (List.map_congr_left fun r hr => ?_).trans (List.map_id _)
    apply if_neg
    simpa using (List.mem_filter.1 hr).2

end LinkTable

/-! ### The method -/

/-- The servers are upserted, and nothing else changes. -/
structure Tables.UpsertsServer (uid nid : Nat) (d : ServerData) (t t' : Tables) : Prop where
  servers : LinkTable.Upserted uid nid d t.servers t'.servers
  rest : { t' with servers := t.servers } = t

variable {fault : Bool} {network user ip : String} {port ttl : Int} {t : Tables}

/-- **An `updateServer` that answers `OK` has upserted the row exactly when there was nothing to
change in it.** -/
theorem PsqlConnector.updateServer_upserts_iff (h : t.Valid) {uid nid : Nat} {addr : BpChar 20}
    (hu : t.userId? user = some uid) (hn : t.networkId? network = some nid)
    (haddr : BpChar.ofText 20 ip = some addr)
    (hok : (updateServer fault network user ip port ttl t).1 = .ok) :
    t.UpsertsServer uid nid ⟨addr, port, ttl⟩ (updateServer fault network user ip port ttl t).2 ↔
      ∀ row, t.servers.find? (some uid) (some nid) = some row → row.data = ⟨addr, port, ttl⟩ := by
  rcases updateServer_ok hok with ⟨row, hrow, he⟩ | ⟨addr', uid', nid', haddr', hu', hn', hnew, he⟩
  · -- the transaction of the `UPDATE` is rolled back
    rw [hu, hn] at hrow
    rw [he]
    constructor
    · intro hups row' hrow'
      obtain rfl := Option.some_inj.1 (hrow.symm.trans hrow')
      exact (h.servers.upserted_self_iff hrow).1 hups.servers
    · intro hdata
      exact ⟨(h.servers.upserted_self_iff hrow).2 (hdata row hrow), rfl⟩
  · obtain rfl := Option.some_inj.1 (haddr.symm.trans haddr')
    obtain rfl := Option.some_inj.1 (hu.symm.trans hu')
    obtain rfl := Option.some_inj.1 (hn.symm.trans hn')
    rw [he]
    constructor
    · intro _ row hrow
      rw [hnew] at hrow
      cases hrow
    · intro _
      exact ⟨LinkTable.upserted_push hnew, rfl⟩

/-! ### Bob moves his server -/

/-- Bob has a server at port 8080. -/
def bobsServer : State := (handle clock2014 updateBob bobsNetwork).2

def bobsAddress : BpChar 20 := ⟨"10.0.0.1", by decide, by decide⟩

theorem updateServer_upserts_bob :
    Tables.UpsertsServer 1 1 ⟨bobsAddress, 8080, 0⟩ bobsNetwork.db.tables
      (PsqlConnector.updateServer false "net" "bob" "10.0.0.1" 8080 0 bobsNetwork.db.tables).2 := by
  obtain ⟨-, hu, hn, hnew⟩ := state_bobsNetwork
  have hok : (PsqlConnector.updateServer false "net" "bob" "10.0.0.1" 8080 0
      bobsNetwork.db.tables).1 = .ok := by
    decide +kernel
  have haddr : BpChar.ofText 20 "10.0.0.1" = some bobsAddress := by decide +kernel
  apply (PsqlConnector.updateServer_upserts_iff bobsNetwork.db.valid hu hn haddr hok).2
  intro row hrow
  rw [hnew] at hrow
  cases hrow

/-- The new port is answered `OK` and not stored. -/
theorem updateServer_loses_port_bob :
    (PsqlConnector.updateServer false "net" "bob" "10.0.0.1" 9090 0 bobsServer.db.tables).1 = .ok ∧
      ¬ Tables.UpsertsServer 1 1 ⟨bobsAddress, 9090, 0⟩ bobsServer.db.tables
        (PsqlConnector.updateServer false "net" "bob" "10.0.0.1" 9090 0 bobsServer.db.tables).2 := by
  obtain ⟨hok, hports⟩ :
      (PsqlConnector.updateServer false "net" "bob" "10.0.0.1" 9090 0 bobsServer.db.tables).1 = .ok ∧
      ((PsqlConnector.updateServer false "net" "bob" "10.0.0.1" 9090 0
        bobsServer.db.tables).2.servers.rows.filter (LinkTable.Ties 1 1)).map (·.data.port) = [8080] := by
    decide +kernel
  refine ⟨hok, fun hups => ?_⟩
  obtain ⟨id, hid⟩ := hups.servers.one
  rw [hid] at hports
  exact absurd hports (by simp)

end Sp2p.Tracker
