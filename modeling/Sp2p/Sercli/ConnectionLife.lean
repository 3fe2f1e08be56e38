import Sp2p.Sercli.NodeThreads

/-!
# The life of a connection

What every step around a node keeps: connections are only added, one that is closed is not active again,
what is posted to it stays until it runs, and a pointer that is gone does not come back
(`later_step`).
-/

namespace Sp2p.Sercli

/-! ### One connection -/

/-- A stop is posted to it, or it has been stopped. -/
def Connection.ToStop (c : Connection) : Prop := .stop ∈ c.posted ∨ c.isOpen = false

/-- It is not opened again, and what is posted to it stays until it runs. -/
structure Connection.Ages (c c' : Connection) : Prop where
  sound : (c.isActive = true → c.isOpen = true) → c'.isActive = true → c'.isOpen = true
  toStop : c.ToStop → c'.ToStop

namespace Connection.Ages

variable {c c' : Connection}

theorem refl : c.Ages c := ⟨id, id⟩

theorem post (e : Ending) : c.Ages (c.post e) where
  sound := id
  toStop := Or.imp_left (List.mem_append_left _)

theorem runPosted (h : c.runPosted = some c') : c.Ages c' := by
  obtain ⟨e, posted, hposted, rfl⟩ := runPosted_eq_some h
  unfold runEnding
  cases e with
  | stop =>
    dsimp only
    split
    · exact ⟨fun _ => nofun, fun _ => .inr rfl⟩
    · rename_i hopen
      exact ⟨id, fun _ => .inr (by simpa using hopen)⟩
  | gracefulStop =>
    have hstay : c.ToStop → .stop ∈ posted ∨ c.isOpen = false := by
      rintro (hstop | hopen)
      · rw [hposted] at hstop
        rcases List.mem_cons.1 hstop with heq | hstop
        · cases heq
        · exact .inl hstop
      · exact .inr hopen
    dsimp only
    split
    · exact ⟨fun _ => nofun, hstay⟩
    · exact ⟨id, hstay⟩

end Connection.Ages

namespace NodeConnection

variable {nc nc' : NodeConnection}

/-- Connections are only added, a pointer that is gone does not come back, and the manager gets none but
the one at hand. -/
structure Later (nc nc' : NodeConnection) : Prop where
  old : ∀ (j : Nat) (c : Connection), nc.connections[j]? = some c →
    ∃ c', nc'.connections[j]? = some c' ∧ c.Ages c'
  new : ∀ (j : Nat) (c' : Connection), nc'.connections[j]? = some c' →
    c' = {} ∨ ∃ c, nc.connections[j]? = some c ∧ c.Ages c'
  pointer : ∀ k, nc'.connection = some k → nc.connection = some k ∨ nc.connections.length ≤ k
  managed : ∀ k ∈ nc'.managed, k ∈ nc.managed ∨ nc.connection = some k

namespace Later

theorem of_eq (hconns : nc'.connections = nc.connections)
    (hptr : nc'.connection = nc.connection ∨ nc'.connection = none)
    (hmanaged : ∀ k ∈ nc'.managed, k ∈ nc.managed ∨ nc.connection = some k) : nc.Later nc' where
  old _ c hc := ⟨c, hconns ▸ hc, .refl⟩
  new _ c' hc' := .inr ⟨c', hconns ▸ hc', .refl⟩
  pointer k hk := by
    rcases hptr with hsame | hnone
    · exact .inl (hsame ▸ hk)
    · rw [hnone] at hk
      cases hk
  managed := hmanaged

theorem of_update {j : Nat} {f : Connection → Connection}
    (hconns : nc'.connections = nc.connections.modify j f) (hptr : nc'.connection = nc.connection)
    (hf : ∀ c : Connection, c.Ages (f c)) (hmanaged : ∀ k ∈ nc'.managed, k ∈ nc.managed) :
    nc.Later nc' where
  old i c hc := by
    rw [hconns, List.getElem?_modify, hc]
    refine ⟨_, rfl, ?_⟩
    split
    · exact hf c
    · exact .refl
  new i c' hc' := by
    rw [hconns, List.getElem?_modify] at hc'
    obtain ⟨c, hc, rfl⟩ := Option.map_eq_some_iff.1 hc'
    refine .inr ⟨c, hc, ?_⟩
    split
    · exact hf c
    · exact .refl
  pointer k hk := .inl (hptr ▸ hk)
  managed k hk := .inl (hmanaged k hk)

theorem of_create (hconns : nc'.connections = nc.connections ++ [({} : Connection)])
    (hptr : nc'.connection = some nc.connections.length) (hmanaged : nc'.managed = nc.managed) :
    nc.Later nc' where
  old j c hc := by
    obtain ⟨hj, -⟩ := List.getElem?_eq_some_iff.1 hc
    rw [hconns, List.getElem?_append_left hj]
    exact ⟨c, hc, .refl⟩
  new j c' hc' := by
    have hcreate : nc.create.connections[j]? = some c' := by
      rw [← hc', hconns]
      rfl
    rcases getElem?_create hcreate with hc | ⟨-, rfl⟩
    · exact .inr ⟨c', hc, .refl⟩
    · exact .inl rfl
  pointer k hk := .inr (Option.some_inj.1 (hptr ▸ hk) ▸ Nat.le_refl _)
  managed k hk := .inl (hmanaged ▸ hk)

theorem of_runConnection {j : Nat} (h : nc.runConnection j = some nc') : nc.Later nc' := by
  obtain ⟨c, c', hc, hrun, rfl⟩ := runConnection_eq_some h
  obtain ⟨hj, -⟩ := List.getElem?_eq_some_iff.1 hc
  refine ⟨fun i d hd => ?_, fun i d hd => ?_, fun k => .inl, fun k => .inl⟩
  · by_cases hi : j = i
    · subst hi
      obtain rfl := Option.some_inj.1 (hc.symm.trans hd)
      exact ⟨c', List.getElem?_set_self hj, .runPosted hrun⟩
    · exact ⟨d, (List.getElem?_set_ne hi).trans hd, .refl⟩
  · by_cases hi : j = i
    · subst hi
      rw [List.getElem?_set_self hj] at hd
      obtain rfl := Option.some_inj.1 hd
      exact .inr ⟨c, hc, .runPosted hrun⟩
    · rw [List.getElem?_set_ne hi] at hd
      exact .inr ⟨d, hd, .refl⟩

theorem of_runStrand (h : nc.runStrand = some nc') : nc.Later nc' := by
  obtain ⟨-, hptr, ⟨hconns, hmanaged⟩ | ⟨k, hconns, hmanaged⟩⟩ := runStrand_effect h
  · exact .of_eq hconns (.inl hptr) fun j hj => .inl (hmanaged ▸ hj)
  · refine .of_update hconns hptr (fun _ => .post .stop) fun j hj => ?_
    rw [hmanaged] at hj
    exact (List.mem_filter.1 hj).1

theorem of_io {e : Io} (h : nc.io e = some nc') : nc.Later nc' := by
  cases e with
  | runStrand => exact .of_runStrand h
  | runConnection k => exact .of_runConnection h
  | stop k =>
    obtain rfl := Option.some_inj.1 h
    exact .of_update rfl rfl (fun _ => .post .stop) fun _ => id
  | tick =>
    obtain rfl := Option.some_inj.1 h
    exact .of_eq rfl (.inl rfl) fun _ => .inl
  | expire =>
    obtain ⟨timer, -, rfl⟩ := Option.map_eq_some_iff.1 h
    exact .of_eq rfl (.inl rfl) fun _ => .inl

end Later

/-- Nothing is given to the manager, and what is posted to the strand comes behind what is there. -/
structure Trails (nc nc' : NodeConnection) : Prop where
  managed : ∀ k ∈ nc'.managed, k ∈ nc.managed
  strand : ∃ more, nc'.strand = nc.strand ++ more

theorem Trails.of_eq (hmanaged : nc'.managed = nc.managed) (hstrand : nc'.strand = nc.strand) :
    nc.Trails nc' where
  managed _ hk := hmanaged ▸ hk
  strand := ⟨[], hstrand.trans (List.append_nil _).symm⟩

theorem Trails.of_io {e : Io} (hne : e ≠ .runStrand) (h : nc.io e = some nc') : nc.Trails nc' := by
  cases e with
  | runStrand => exact absurd rfl hne
  | runConnection k =>
    obtain ⟨c, c', -, -, rfl⟩ := runConnection_eq_some h
    exact .of_eq rfl rfl
  | stop k =>
    obtain rfl := Option.some_inj.1 h
    exact .of_eq rfl rfl
  | tick =>
    obtain rfl := Option.some_inj.1 h
    exact .of_eq rfl rfl
  | expire =>
    obtain ⟨timer, -, rfl⟩ := Option.map_eq_some_iff.1 h
    exact .of_eq rfl rfl

theorem managed_runStrand {k : Nat} (h : nc.runStrand = some nc') (hk : k ∈ nc'.managed) :
    k ∈ nc.managed := by
  obtain ⟨-, -, ⟨-, hmanaged⟩ | ⟨j, -, hmanaged⟩⟩ := runStrand_effect h
  · exact hmanaged ▸ hk
  · rw [hmanaged] at hk
    exact (List.mem_filter.1 hk).1

/-- With a connection at hand, no lambda crashes. -/
theorem runStrand_isSome {k : Nat} (hptr : nc.connection = some k) (hne : nc.strand ≠ []) :
    nc.runStrand.isSome = true := by
  obtain ⟨p, strand, hstrand⟩ := List.exists_cons_of_ne_nil hne
  rw [runStrand, hstrand]
  cases p with
  | reset seconds => rfl
  | cancel => rfl
  | stop =>
    dsimp only [runPosted]
    rw [hptr]
    rfl

/-- No connection is active that has been closed. -/
def Sound (nc : NodeConnection) : Prop :=
  ∀ (j : Nat) (c : Connection), nc.connections[j]? = some c → c.isActive = true → c.isOpen = true

theorem Later.sound (h : nc.Later nc') (hsound : nc.Sound) : nc'.Sound := by
  intro j c' hc'
  rcases h.new j c' hc' with rfl | ⟨c, hc, hages⟩
  · exact fun _ => rfl
  · exact hages.sound (hsound j c hc)

/-- A stop is posted to the connection, or it has been stopped. -/
def ToStop (nc : NodeConnection) (k : Nat) : Prop := ∃ c, nc.connections[k]? = some c ∧ c.ToStop

theorem Later.toStop {k : Nat} (h : nc.Later nc') (hstop : nc.ToStop k) : nc'.ToStop k := by
  obtain ⟨c, hc, hstop⟩ := hstop
  obtain ⟨c', hc', hages⟩ := h.old k c hc
  exact ⟨c', hc', hages.toStop hstop⟩

theorem toStop_of_post {k : Nat} (hconns : nc'.connections = nc.connections.modify k (·.post .stop))
    (hk : k < nc.connections.length) : nc'.ToStop k := by
  refine ⟨nc.connections[k].post .stop, ?_, .inl (List.mem_append_right _ List.mem_cons_self)⟩
  rw [hconns, List.getElem?_modify, List.getElem?_eq_getElem hk]
  simp

theorem Later.lt_length {k : Nat} (h : nc.Later nc') (hk : k < nc.connections.length) :
    k < nc'.connections.length := by
  obtain ⟨c', hc', -⟩ := h.old k _ (List.getElem?_eq_getElem hk)
  exact (List.getElem?_eq_some_iff.1 hc').1

theorem Later.connection_ne {k : Nat} (h : nc.Later nc') (hne : nc.connection ≠ some k)
    (hk : k < nc.connections.length) : nc'.connection ≠ some k := by
  intro hptr
  rcases h.pointer k hptr with hsame | hlen
  · exact hne hsame
  · omega

end NodeConnection

namespace NodeThreads

variable {timeout : Nat} {s s' : NodeThreads} {e : Event}

open NodeConnection (Later)

theorem later_next {ok : Bool} (h : s.next timeout ok = some s') : s.nc.Later s'.nc := by
  unfold next at h
  cases hpc : s.caller with
  | idle | waiting =>
    rw [hpc] at h
    cases h
  | begun | resetting | connecting | started | replied =>
    rw [hpc] at h
    obtain rfl := Option.some_inj.1 h
    exact .of_eq rfl (.inl rfl) fun _ => .inl
  | resolving op =>
    simp only [hpc] at h
    split at h
    · obtain rfl := Option.some_inj.1 h
      exact .of_create rfl rfl rfl
    · obtain rfl := Option.some_inj.1 h
      exact .of_eq rfl (.inl rfl) fun _ => .inl
  | created op =>
    rw [hpc] at h
    obtain ⟨k, -, rfl⟩ := Option.map_eq_some_iff.1 h
    split
    · exact .of_eq rfl (.inl rfl) fun _ => .inl
    · exact .of_eq rfl (.inr rfl) fun _ => .inl
  | connected op =>
    rw [hpc] at h
    obtain ⟨nc, hnc, rfl⟩ := Option.map_eq_some_iff.1 h
    obtain ⟨k, hk, rfl⟩ := Option.map_eq_some_iff.1 hnc
    refine .of_eq rfl (.inl rfl) fun j hj => ?_
    rcases List.mem_append.1 hj with hj | hj
    · exact .inl hj
    · obtain rfl := List.mem_singleton.1 hj
      exact .inr hk
  | ready op =>
    simp only [hpc] at h
    split at h
    · obtain rfl := Option.some_inj.1 h
      exact .of_eq rfl (.inl rfl) fun _ => .inl
    · obtain rfl := Option.some_inj.1 h
      exact .of_eq rfl (.inl rfl) fun _ => .inl
  | got op con =>
    rw [hpc] at h
    obtain ⟨k, rfl, hsend⟩ := Option.bind_eq_some_iff.1 h
    obtain ⟨hnc, -⟩ := sendRequest_eq_some hsend
    rw [hnc]
    exact .of_update rfl rfl (fun _ => ⟨id, id⟩) fun _ => id

theorem later_closer {i : Nat} (h : s.closer i = some s') : s.nc.Later s'.nc := by
  obtain ⟨-, ⟨-, hnc⟩ | ⟨-, k, hnc⟩ | ⟨-, hnc⟩ | ⟨-, hnc⟩⟩ := closer_cases h
  · exact hnc ▸ .of_eq rfl (.inl rfl) fun _ => .inl
  · rw [hnc]
    exact .of_update rfl rfl (fun _ => .post .gracefulStop) fun _ hj => (List.mem_filter.1 hj).1
  · exact hnc ▸ .of_eq rfl (.inl rfl) fun _ => .inl
  · exact hnc ▸ .of_eq rfl (.inr rfl) fun _ => .inl

theorem later_step (h : s.step timeout e = some s') : s.nc.Later s'.nc := by
  cases e with
  | call op =>
    replace h : s.call op = some s' := h
    unfold call at h
    split at h
    · obtain rfl := Option.some_inj.1 h
      split
      · exact .of_eq rfl (.inl rfl) fun _ => .inl
      · exact .of_eq rfl (.inl rfl) fun _ => .inl
    · cases h
  | next ok => exact later_next h
  | receive r cookie =>
    replace h : s.receive r cookie = some s' := h
    unfold receive at h
    split at h
    · split at h
      · obtain rfl := Option.some_inj.1 h
        exact .of_eq rfl (.inl rfl) fun _ => .inl
      · cases h
    · cases h
  | sendError =>
    replace h : s.sendError = some s' := h
    unfold sendError at h
    split at h
    · obtain rfl := Option.some_inj.1 h
      exact .of_update rfl rfl (fun _ => .post .stop) fun _ => id
    · cases h
  | stopConnections opened =>
    replace h : s.stopConnections opened = some s' := h
    unfold stopConnections at h
    split at h
    · obtain rfl := Option.some_inj.1 h
      split
      · exact .of_eq rfl (.inr rfl) fun _ => .inl
      · exact .of_eq rfl (.inl rfl) fun _ => .inl
    · cases h
  | handler i =>
    obtain ⟨c, -, rfl⟩ := Option.map_eq_some_iff.1 h
    exact .of_eq rfl (.inl rfl) fun _ => .inl
  | closer i => exact later_closer h
  | io e =>
    obtain ⟨nc, hnc, rfl⟩ := Option.map_eq_some_iff.1 h
    exact .of_io hnc
  | answer k =>
    obtain ⟨-, hnc⟩ := answer_eq_some h
    rw [hnc]
    exact .of_update rfl rfl (fun _ => ⟨id, id⟩) fun _ => id
  | asyncReceive i r =>
    obtain ⟨-, hnc⟩ := asyncReceive_eq_some h
    rw [hnc]
    exact .of_eq rfl (.inl rfl) fun _ => .inl

theorem trails_closer {i : Nat} (h : s.closer i = some s') : s.nc.Trails s'.nc := by
  obtain ⟨-, ⟨-, hnc⟩ | ⟨-, k, hnc⟩ | ⟨-, hnc⟩ | ⟨-, hnc⟩⟩ := closer_cases h
  · exact hnc ▸ .of_eq rfl rfl
  · rw [hnc]
    exact ⟨fun _ hj => (List.mem_filter.1 hj).1, [], (List.append_nil _).symm⟩
  · rw [hnc]
    exact ⟨fun _ => id, [.cancel], rfl⟩
  · exact hnc ▸ .of_eq rfl rfl

/-- Only the strand takes away what is posted to it. -/
theorem trails_others (he : e.ofOthers = true) (hne : e ≠ .io .runStrand)
    (h : s.step timeout e = some s') : s.nc.Trails s'.nc := by
  cases e with
  | handler i =>
    obtain ⟨c, -, rfl⟩ := Option.map_eq_some_iff.1 h
    exact .of_eq rfl rfl
  | closer i => exact trails_closer h
  | io e =>
    obtain ⟨nc, hnc, rfl⟩ := Option.map_eq_some_iff.1 h
    exact .of_io (fun heq => hne (heq ▸ rfl)) hnc
  | answer k =>
    obtain ⟨-, hnc⟩ := answer_eq_some h
    rw [hnc]
    exact .of_eq rfl rfl
  | asyncReceive i r =>
    obtain ⟨-, hnc⟩ := asyncReceive_eq_some h
    rw [hnc]
    exact .of_eq rfl rfl
  | _ => cases he

/-- The other threads give nothing to the `ConnectionManager`. -/
theorem managed_others {k : Nat} (he : e.ofOthers = true) (h : s.step timeout e = some s')
    (hk : k ∈ s'.nc.managed) : k ∈ s.nc.managed := by
  by_cases hne : e = .io .runStrand
  · subst hne
    obtain ⟨nc, hnc, rfl⟩ := Option.map_eq_some_iff.1 h
    exact NodeConnection.managed_runStrand hnc hk
  · exact (trails_others he hne h).managed k hk

end NodeThreads

end Sp2p.Sercli
