import Sp2p.Sercli.NodeThreads

/-!
# Which connection carries a request

Two things can go wrong between `isActive` and `sendRequest`. A `closeConnection` that is under way
resets the pointer, and the caller sends over a null pointer (`connection_isSome`). And a connection
counts as active after it carried a request, although the tracker has shut it down
(`requests_le_one`).
-/

namespace Sp2p.Sercli

open Runs

namespace NodeThreads

variable {timeout : Nat} {s s' : NodeThreads} {e : Event}

/-! ### The pointer -/

/-- No `closeConnection` resets the pointer between the caller's `isActive` or `connect` and its
`getConnection`. -/
def Apart (s : NodeThreads) : Event → Prop
  | .closer i => s.closers[i]? = some .cancelled → s.caller.holds = false
  | _ => True

instance : ∀ e, Decidable (s.Apart e)
  | .closer i => inferInstanceAs (Decidable (s.closers[i]? = some .cancelled → s.caller.holds = false))
  | .call _ | .next _ | .receive _ _ | .sendError | .stopConnections _ | .handler _ | .io _
  | .answer _ | .asyncReceive _ _ => .isTrue trivial

/-- There is a connection where the caller is to get it, and it got one. -/
structure HasPointer (s : NodeThreads) : Prop where
  holds : s.caller.holds = true → s.nc.connection.isSome = true
  got : ∀ op con, s.caller = .got op con → con.isSome = true

namespace HasPointer

theorem init : HasPointer {} where
  holds h := by cases h
  got op con h := by cases h

theorem isSome_of_isActive {nc : NodeConnection} (h : nc.isActive = true) :
    nc.connection.isSome = true := by
  obtain ⟨k, -, hk, -⟩ := NodeConnection.isActive_eq_true.1 h
  rw [hk]
  rfl

theorem others (h : s.HasPointer) (hapart : s.Apart e) (he : e.ofOthers = true)
    (hstep : s.step timeout e = some s') : s'.HasPointer := by
  obtain ⟨hcaller, hnc⟩ := step_ofOthers he hstep
  refine ⟨fun hholds => ?_, fun op con hgot => h.got op con (hcaller ▸ hgot)⟩
  rw [hcaller] at hholds
  rcases hnc with haged | ⟨⟨i, rfl, hpc⟩, -⟩
  · rw [haged.connection]
    exact h.holds hholds
  · rw [hapart hpc] at hholds
    cases hholds

theorem move (h : s.HasPointer) (hmove : Move s s' e) : s'.HasPointer := by
  cases hmove with
  | away hholds hgot hconnecting hsame =>
    exact ⟨fun h' => absurd h' (by simp [hholds]), fun op con h' => absurd h' (hgot op con)⟩
  | found op hbegun hactive hnc hcaller =>
    refine ⟨fun _ => ?_, by simp [hcaller]⟩
    rw [hnc]
    exact isSome_of_isActive hactive
  | foundAgain op hconnecting hactive haged hcaller =>
    refine ⟨fun _ => ?_, by simp [hcaller]⟩
    rw [haged.connection]
    exact isSome_of_isActive hactive
  | created op hnc hcaller =>
    refine ⟨fun _ => ?_, by simp [hcaller]⟩
    rw [hnc]
    rfl
  | keeps hholds haged hgot hconnecting =>
    refine ⟨fun _ => ?_, fun op con h' => absurd h' (hgot op con)⟩
    rw [haged.connection]
    exact h.holds hholds
  | gets op hholds hnc hcaller =>
    refine ⟨fun h' => by simp [hcaller, Caller.holds] at h', fun op' con h' => ?_⟩
    rw [hcaller, Caller.got.injEq] at h'
    exact h'.2 ▸ h.holds hholds
  | sends op k hgot hnc hholds hgot' hconnecting =>
    exact ⟨fun h' => absurd h' (by simp [hholds]), fun op con h' => absurd h' (hgot' op con)⟩

theorem step (h : s.HasPointer) (hapart : s.Apart e) (hstep : s.step timeout e = some s') :
    s'.HasPointer := by
  cases he : e.ofOthers with
  | true => exact h.others hapart he hstep
  | false => exact h.move (step_ofCaller he hstep)

end HasPointer

/-- **The pointer an operation sends over is not null, in every run in which no `closeConnection`
resets it between the operation's pre-check and its `getConnection`.** -/
theorem connection_isSome {events : List Event}
    (hrun : run (NodeThreads.step timeout) {} events = some s)
    (hapart : Along (NodeThreads.step timeout) Apart {} events) :
    ∀ op con, s.caller = .got op con → con.isSome = true :=
  (run_inv (fun _ _ _ h hP hstep => h.step hP hstep) HasPointer.init hapart hrun).got

/-- A log-in that connects and gets its reply. -/
def firstLogIn : List Event :=
  .call .logIn :: List.replicate 8 (.next true) ++ [.answer 0, .receive .ok true, .next true]

/-- The reset that ends the log-in runs, and the wait it aborts starts a `closeConnection`, which
comes as far as its last step. -/
def almostClosed : List Event :=
  firstLogIn ++ [.io .runStrand, .handler 0, .closer 0, .closer 0, .closer 0]

/-- It takes that step, and then the password is changed in `n` steps. -/
def closedFirst (n : Nat) : List Event :=
  almostClosed ++ .closer 0 :: .call .changePassword :: List.replicate n (.next true)

/-- Nothing resets the pointer before the password is changed: the connection is closed first. -/
theorem connection_isSome_closed :
    ∃ s, run (NodeThreads.step 20) {} (closedFirst 7) = some s ∧
      ∀ op con, s.caller = .got op con → con.isSome = true := by
  have hrun : (run (NodeThreads.step 20) {} (closedFirst 7)).isSome = true := by decide
  obtain ⟨s, hs⟩ := Option.isSome_iff_exists.1 hrun
  exact ⟨s, hs, connection_isSome hs (by decide)⟩

/-- The pointer is reset between `beforeMessage` of `changePassword` and its `getConnection`. -/
theorem connection_null :
    ∃ s, run (NodeThreads.step 20) {}
        (almostClosed ++ [.call .changePassword, .next true, .next true, .closer 0, .next true]) =
          some s ∧
      s.caller = .got .changePassword none :=
  Option.map_eq_some_iff.1 (by decide)

/-! ### The requests on a connection -/

/-- The connection at hand carried nothing. -/
def Unused (nc : NodeConnection) : Prop :=
  ∀ k ∈ nc.connection, ∀ c ∈ nc.connections[k]?, c.requests = 0

instance (nc : NodeConnection) : Decidable (Unused nc) :=
  inferInstanceAs (Decidable (∀ k ∈ nc.connection, ∀ c ∈ nc.connections[k]?, _))

/-- The pre-check finds no active connection that carried a request. -/
def Fresh (s : NodeThreads) : Event → Prop
  | .next _ => s.caller.asks = true → s.nc.isActive = true → Unused s.nc
  | _ => True

instance : ∀ e, Decidable (s.Fresh e)
  | .next _ => inferInstanceAs (Decidable (_ → _ → _))
  | .call _ | .receive _ _ | .sendError | .stopConnections _ | .handler _ | .closer _ | .io _
  | .answer _ | .asyncReceive _ _ => .isTrue trivial

/-- No connection carried two requests, and the one that the caller is to use carried none. -/
structure UsedOnce (s : NodeThreads) : Prop where
  once : ∀ (k : Nat) (c : Connection), s.nc.connections[k]? = some c → c.requests ≤ 1
  unused : s.caller.holds = true → Unused s.nc
  got : ∀ op k, s.caller = .got op (some k) →
    ∀ c : Connection, s.nc.connections[k]? = some c → c.requests = 0
  inactive : ∀ op, s.caller = .connecting op → s.nc.isActive = false

theorem Unused.aged {nc nc' : NodeConnection} (h : Unused nc) (haged : nc.Aged nc') :
    Unused nc' := by
  intro k hk c' hc'
  obtain ⟨c, hc, hrequests⟩ := haged.sameRequests k c' hc'
  rw [hrequests]
  exact h k (haged.connection ▸ hk) c hc

theorem Unused.resetPointer (nc : NodeConnection) : Unused nc.resetPointer :=
  fun k hk => by cases hk

namespace UsedOnce

theorem init : UsedOnce {} where
  once k c h := by simp at h
  unused h := by cases h
  got op k h := by cases h
  inactive op h := by cases h

theorem once_of_same (h : s.UsedOnce) {nc : NodeConnection} (hsame : s.nc.SameRequests nc) (k : Nat)
    (c : Connection) (hc : nc.connections[k]? = some c) : c.requests ≤ 1 := by
  obtain ⟨c₀, hc₀, hrequests⟩ := hsame k c hc
  rw [hrequests]
  exact h.once k c₀ hc₀

theorem others (h : s.UsedOnce) (he : e.ofOthers = true) (hstep : s.step timeout e = some s') :
    s'.UsedOnce := by
  obtain ⟨hcaller, haged | ⟨-, hnc⟩⟩ := step_ofOthers he hstep
  · refine ⟨h.once_of_same haged.sameRequests, fun hholds => ?_, fun op k hgot c' hc' => ?_,
      fun op hconnecting => ?_⟩
    · exact (h.unused (hcaller ▸ hholds)).aged haged
    · obtain ⟨c, hc, hrequests⟩ := haged.sameRequests k c' hc'
      rw [hrequests]
      exact h.got op k (hcaller ▸ hgot) c hc
    · by_contra hactive
      have hold := haged.isActive (by simpa using hactive)
      rw [h.inactive op (hcaller ▸ hconnecting)] at hold
      cases hold
  · refine ⟨?_, fun _ => ?_, fun op k hgot => ?_, fun op _ => ?_⟩
    · rw [hnc]
      exact h.once
    · rw [hnc]
      exact .resetPointer _
    · rw [hnc]
      exact h.got op k (hcaller ▸ hgot)
    · rw [hnc]
      rfl

theorem move (h : s.UsedOnce) (hfresh : s.Fresh e) (hmove : Move s s' e) : s'.UsedOnce := by
  cases hmove with
  | away hholds hgot hconnecting hsame =>
    exact ⟨h.once_of_same hsame, fun h' => absurd h' (by simp [hholds]),
      fun op k h' => absurd h' (hgot op _), hconnecting⟩
  | found op hbegun hactive hnc hcaller =>
    have hunused : Unused s.nc := hfresh (by rw [hbegun]; rfl) hactive
    refine ⟨?_, ?_, by simp [hcaller], by simp [hcaller]⟩
    · rw [hnc]
      exact h.once
    · rw [hnc]
      exact fun _ => hunused
  | foundAgain op hconnecting hactive haged hcaller =>
    rw [h.inactive op hconnecting] at hactive
    cases hactive
  | created op hnc hcaller =>
    refine ⟨fun k c hc => ?_, fun _ k hk c hc => ?_, by simp [hcaller], by simp [hcaller]⟩
    · rw [hnc] at hc
      rcases NodeConnection.getElem?_create hc with hold | ⟨-, rfl⟩
      · exact h.once k c hold
      · exact Nat.zero_le _
    · rw [hnc] at hk hc
      obtain rfl : s.nc.connections.length = k := Option.some_inj.1 hk
      rcases NodeConnection.getElem?_create hc with hold | ⟨-, rfl⟩
      · simp at hold
      · rfl
  | keeps hholds haged hgot hconnecting =>
    exact ⟨h.once_of_same haged.sameRequests, fun _ => (h.unused hholds).aged haged,
      fun op k h' => absurd h' (hgot op _), fun op h' => absurd h' (hconnecting op)⟩
  | gets op hholds hnc hcaller =>
    refine ⟨?_, by simp [hcaller, Caller.holds], fun op' k h' c hc => ?_, by simp [hcaller]⟩
    · rw [hnc]
      exact h.once
    · rw [hcaller, Caller.got.injEq] at h'
      rw [hnc] at hc
      exact h.unused hholds k h'.2 c hc
  | sends op k hgot hnc hholds hgot' hconnecting =>
    refine ⟨fun j c hc => ?_, fun h' => absurd h' (by simp [hholds]),
      fun op k h' => absurd h' (hgot' op _), fun op h' => absurd h' (hconnecting op)⟩
    rw [hnc, NodeConnection.update, List.getElem?_modify] at hc
    obtain ⟨c₀, hc₀, rfl⟩ := Option.map_eq_some_iff.1 hc
    split
    · rename_i hj
      subst hj
      have hzero := h.got op k hgot c₀ hc₀
      dsimp only
      omega
    · exact h.once j c₀ hc₀

theorem step (h : s.UsedOnce) (hfresh : s.Fresh e) (hstep : s.step timeout e = some s') :
    s'.UsedOnce := by
  cases he : e.ofOthers with
  | true => exact h.others he hstep
  | false => exact h.move hfresh (step_ofCaller he hstep)

end UsedOnce

/-- **No connection carries two requests, in every run in which the pre-check of no operation finds
an active connection that carried one.** -/
theorem requests_le_one {events : List Event}
    (hrun : run (NodeThreads.step timeout) {} events = some s)
    (hfresh : Along (NodeThreads.step timeout) Fresh {} events) :
    ∀ c ∈ s.nc.connections, c.requests ≤ 1 := by
  have hinv := run_inv (fun _ _ _ h hP hstep => UsedOnce.step h hP hstep) UsedOnce.init hfresh hrun
  intro c hc
  obtain ⟨k, hk⟩ := List.mem_iff_getElem?.1 hc
  exact hinv.once k c hk

/-- The connection of the log-in is closed before the password is changed. -/
theorem requests_le_one_closed :
    ∃ s, run (NodeThreads.step 20) {} (closedFirst 8) = some s ∧
      ∀ c ∈ s.nc.connections, c.requests ≤ 1 := by
  have hrun : (run (NodeThreads.step 20) {} (closedFirst 8)).isSome = true := by decide
  obtain ⟨s, hs⟩ := Option.isSome_iff_exists.1 hrun
  exact ⟨s, hs, requests_le_one hs (by decide)⟩

/-- The password is changed at once after the log-in, over the same connection. -/
theorem requests_two :
    ∃ s, run (NodeThreads.step 20) {}
        (firstLogIn ++ .call .changePassword :: List.replicate 4 (.next true)) = some s ∧
      s.nc.connections.map (·.requests) = [2] :=
  Option.map_eq_some_iff.1 (by decide)

end NodeThreads

end Sp2p.Sercli
