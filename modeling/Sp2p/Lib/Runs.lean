import Mathlib.Tactic.Common

/-!
# Runs of a partial step function

A system is a function that takes a state and an action to the state after it, `none` where the
action cannot be taken. `Along` says that something holds of every step of a run, in the state
before it; `along_of_inv` is the rule: an invariant that the guarded steps keep gives what it implies
at each of them.

A system that answers its calls gives the answer with the state (`serve`); `serve_refines` is the
rule for two such systems that answer alike from related states.
-/

namespace Runs

variable {σ τ ι ο : Type*}

/-! ### Actions -/

section Actions

variable {step : σ → ι → Option σ}

def run (step : σ → ι → Option σ) (s : σ) (ops : List ι) : Option σ := ops.foldlM step s

@[simp] theorem run_nil (s : σ) : run step s [] = some s := rfl

@[simp] theorem run_cons (s : σ) (op : ι) (ops : List ι) :
    run step s (op :: ops) = (step s op).bind fun s' => run step s' ops := rfl

theorem run_append (s : σ) (ops ops' : List ι) :
    run step s (ops ++ ops') = (run step s ops).bind fun s' => run step s' ops' := by
  simp only [run, List.foldlM_append]
  rfl

theorem run_trans {s₁ s₂ s₃ : σ} {ops ops' : List ι} (h : run step s₁ ops = some s₂)
    (h' : run step s₂ ops' = some s₃) : run step s₁ (ops ++ ops') = some s₃ := by
  rw [run_append, h]
  exact h'

/-- Where every action can be taken a run is a fold. -/
theorem run_total (f : σ → ι → σ) (s : σ) (ops : List ι) :
    run (fun s op => some (f s op)) s ops = some (ops.foldl f s) := by
  induction ops generalizing s with
  | nil => rfl
  | cons op ops ih => exact ih (f s op)

/-- Every step of the run meets `P` in the state before it. -/
def Along (step : σ → ι → Option σ) (P : σ → ι → Prop) : σ → List ι → Prop
  | _, [] => True
  | s, op :: ops => P s op ∧ ∀ s', step s op = some s' → Along step P s' ops

instance (P : σ → ι → Prop) [∀ s op, Decidable (P s op)] :
    ∀ s ops, Decidable (Along step P s ops)
  | _, [] => .isTrue trivial
  | s, op :: ops =>
    match h : step s op with
    | none => decidable_of_iff (P s op) (by simp [Along, h])
    | some s' =>
      have : Decidable (Along step P s' ops) := instDecidableAlong P s' ops
      decidable_of_iff (P s op ∧ Along step P s' ops) (by simp [Along, h])

variable {P Q : σ → ι → Prop} {Inv Bad : σ → Prop}

theorem along_and {ops : List ι} :
    ∀ {s : σ}, Along step P s ops → Along step Q s ops → Along step (fun s op => P s op ∧ Q s op) s ops := by
  induction ops with
  | nil =>
    intro s _ _
    trivial
  | cons op ops ih =>
    intro s hP hQ
    exact ⟨⟨hP.1, hQ.1⟩, fun s' hs' => ih (hP.2 s' hs') (hQ.2 s' hs')⟩

/-- What one guard says of the actions of a run gives the other. -/
theorem along_imp {ops : List ι} (himp : ∀ s, ∀ op ∈ ops, P s op → Q s op) :
    ∀ {s : σ}, Along step P s ops → Along step Q s ops := by
  induction ops with
  | nil =>
    intro s _
    trivial
  | cons op ops ih =>
    intro s hP
    refine ⟨himp s op (List.mem_cons_self ..) hP.1, fun s' hs' => ?_⟩
    exact ih (fun s op hmem => himp s op (List.mem_cons_of_mem _ hmem)) (hP.2 s' hs')

/-- What the guarded steps keep holds at the end. -/
theorem run_inv (hkeep : ∀ s op s', Inv s → P s op → step s op = some s' → Inv s') {ops : List ι} :
    ∀ {s s' : σ}, Inv s → Along step P s ops → run step s ops = some s' → Inv s' := by
  induction ops with
  | nil =>
    intro s s' h _ hrun
    obtain rfl := Option.some_inj.1 hrun
    exact h
  | cons op ops ih =>
    intro s s' h halong hrun
    obtain ⟨t, ht, hrest⟩ := Option.bind_eq_some_iff.1 hrun
    exact ih (hkeep s op t h halong.1 ht) (halong.2 t ht) hrest

/-- What an invariant of the guarded steps implies holds at each of them. -/
theorem along_of_inv (hkeep : ∀ s op s', Inv s → P s op → step s op = some s' → Inv s')
    (himp : ∀ s op, Inv s → P s op → Q s op) {ops : List ι} :
    ∀ {s : σ}, Inv s → Along step P s ops → Along step Q s ops := by
  induction ops with
  | nil =>
    intro s _ _
    trivial
  | cons op ops ih =>
    intro s h halong
    refine ⟨himp s op h halong.1, fun s' hs' => ?_⟩
    exact ih (hkeep s op s' h halong.1 hs') (halong.2 s' hs')

/-- What every step keeps holds at the end. -/
theorem run_mono (hkeep : ∀ s op s', Inv s → step s op = some s' → Inv s') {ops : List ι} :
    ∀ {s s' : σ}, Inv s → run step s ops = some s' → Inv s' := by
  induction ops with
  | nil =>
    intro s s' h hrun
    obtain rfl := Option.some_inj.1 hrun
    exact h
  | cons op ops ih =>
    intro s s' h hrun
    obtain ⟨t, ht, hrest⟩ := Option.bind_eq_some_iff.1 hrun
    exact ih (hkeep s op t h ht) hrest

/-- What each action of the list keeps holds at the end. -/
theorem run_inv_mem {ops : List ι} (hkeep : ∀ s, ∀ op ∈ ops, ∀ s', Inv s → step s op = some s' → Inv s') :
    ∀ {s s' : σ}, Inv s → run step s ops = some s' → Inv s' := by
  induction ops with
  | nil =>
    intro s s' h hrun
    obtain rfl := Option.some_inj.1 hrun
    exact h
  | cons op ops ih =>
    intro s s' h hrun
    obtain ⟨t, ht, hrest⟩ := Option.bind_eq_some_iff.1 hrun
    refine ih (fun s op hop => hkeep s op (List.mem_cons_of_mem _ hop)) ?_ hrest
    exact hkeep s op List.mem_cons_self t h ht

/-- A run of a system with fewer steps is a run. -/
theorem run_of_imp {step' : σ → ι → Option σ}
    (himp : ∀ s op s', step' s op = some s' → step s op = some s') {ops : List ι} :
    ∀ {s s' : σ}, run step' s ops = some s' → run step s ops = some s' := by
  induction ops with
  | nil =>
    intro s s' hrun
    exact hrun
  | cons op ops ih =>
    intro s s' hrun
    obtain ⟨t, ht, hrest⟩ := Option.bind_eq_some_iff.1 hrun
    exact Option.bind_eq_some_iff.2 ⟨t, himp s op t ht, ih hrest⟩

/-- The guarded steps keep the invariant, and a step that is not guarded does harm that stays: then
the end tells whether all steps were guarded. -/
theorem along_of_not_bad (hkeep : ∀ s op s', Inv s → P s op → step s op = some s' → Inv s')
    (hslip : ∀ s op s', Inv s → ¬ P s op → step s op = some s' → Bad s')
    (hstay : ∀ s op s', Bad s → step s op = some s' → Bad s') {ops : List ι} :
    ∀ {s s' : σ}, Inv s → run step s ops = some s' → ¬ Bad s' → Along step P s ops := by
  induction ops with
  | nil =>
    intro s s' _ _ _
    trivial
  | cons op ops ih =>
    intro s s' h hrun hbad
    obtain ⟨t, ht, hrest⟩ := Option.bind_eq_some_iff.1 hrun
    have hP : P s op := by
      by_contra hP
      exact hbad (run_mono hstay (hslip s op t h hP ht) hrest)
    refine ⟨hP, fun s₁ hs₁ => ?_⟩
    obtain rfl := Option.some_inj.1 (ht.symm.trans hs₁)
    exact ih (hkeep s op t h hP ht) hrest hbad

/-- Where a step keeps the invariant exactly when it is guarded, the invariant holds all the way exactly
when all steps are guarded. `Base` is what every step keeps. -/
theorem inv_iff_along (Base : σ → Prop) (hbase : ∀ s op s', Base s → step s op = some s' → Base s')
    (hstep : ∀ s op s', Base s → Inv s → step s op = some s' → (Inv s' ↔ P s op)) {ops : List ι} :
    ∀ {s t : σ}, Base s → Inv s → run step s ops = some t →
      ((∀ part s', part <+: ops → run step s part = some s' → Inv s') ↔ Along step P s ops) := by
  induction ops with
  | nil =>
    intro s t _ h _
    refine iff_of_true (fun part s' hpart hrun => ?_) trivial
    obtain rfl := List.prefix_nil.1 hpart
    obtain rfl := Option.some_inj.1 hrun
    exact h
  | cons op ops ih =>
    intro s t hb h hrun
    obtain ⟨s₁, hs₁, hrest⟩ := Option.bind_eq_some_iff.1 hrun
    have hnext := hstep s op s₁ hb h hs₁
    have hb₁ := hbase s op s₁ hb hs₁
    constructor
    · intro hall
      have h₁ : Inv s₁ := by
        refine hall [op] s₁ ⟨ops, rfl⟩ ?_
        rw [run_cons, hs₁]
        rfl
      refine ⟨hnext.1 h₁, fun s₂ hs₂ => ?_⟩
      obtain rfl := Option.some_inj.1 (hs₁.symm.trans hs₂)
      refine (ih hb₁ h₁ hrest).1 fun part s' hpart hrun' => ?_
      refine hall (op :: part) s' (List.cons_prefix_cons.2 ⟨rfl, hpart⟩) ?_
      rw [run_cons, hs₁]
      exact hrun'
    · intro halong part s' hpart hrun'
      have h₁ := hnext.2 halong.1
      cases part with
      | nil =>
        obtain rfl := Option.some_inj.1 hrun'
        exact h
      | cons op' part =>
        obtain ⟨rfl, htail⟩ := List.cons_prefix_cons.1 hpart
        obtain ⟨s₂, hs₂, hrun'⟩ := Option.bind_eq_some_iff.1 hrun'
        obtain rfl := Option.some_inj.1 (hs₁.symm.trans hs₂)
        exact (ih hb₁ h₁ hrest).2 (halong.2 s₁ hs₁) part s' htail hrun'

theorem inv_iff_along_total (Base Inv : σ → Prop) (P : σ → ι → Prop) {f : σ → ι → σ}
    (hbase : ∀ s op, Base s → Base (f s op))
    (hstep : ∀ s op, Base s → Inv s → (Inv (f s op) ↔ P s op)) {ops : List ι} {s : σ} (hb : Base s)
    (h : Inv s) :
    (∀ part, part <+: ops → Inv (part.foldl f s)) ↔ Along (fun s op => some (f s op)) P s ops := by
  have hpartial : (∀ part s', part <+: ops → run (fun s op => some (f s op)) s part = some s' → Inv s') ↔
      Along (fun s op => some (f s op)) P s ops :=
    inv_iff_along Base (fun s op s' hb hs' => Option.some_inj.1 hs' ▸ hbase s op hb)
      (fun s op s' hb h hs' => Option.some_inj.1 hs' ▸ hstep s op hb h) hb h (run_total f s ops)
  rw [← hpartial]
  constructor
  · intro hall part s' hpart hrun
    rw [run_total] at hrun
    exact Option.some_inj.1 hrun ▸ hall part hpart
  · intro hall part hpart
    exact hall part _ hpart (run_total f s part)

theorem rel_imp {R R' : σ → τ → Prop} (himp : ∀ s t, R s t → R' s t) {x : Option σ} {y : Option τ}
    (h : Option.Rel R x y) : Option.Rel R' x y := by
  cases h with
  | none => exact .none
  | some hR => exact .some (himp _ _ hR)

/-- Two systems that can take actions that go together in related states, and go to related states, are
related after their runs. -/
theorem run_related {κ : Type} {step' : τ → κ → Option τ} {R : σ → τ → Prop} {Q : ι → κ → Prop}
    (h : ∀ s t op op', Q op op' → R s t → Option.Rel R (step s op) (step' t op')) {ops : List ι}
    {ops' : List κ} (hops : List.Forall₂ Q ops ops') :
    ∀ {s : σ} {t : τ}, R s t → Option.Rel R (run step s ops) (run step' t ops') := by
  induction hops with
  | nil =>
    intro s t hR
    exact .some hR
  | @cons op op' ops ops' hop hops ih =>
    intro s t hR
    have hstep := h s t op op' hop hR
    rw [run_cons, run_cons]
    cases hs : step s op with
    | none =>
      cases ht : step' t op' with
      | none => exact .none
      | some t' =>
        rw [hs, ht] at hstep
        cases hstep
    | some s' =>
      cases ht : step' t op' with
      | none =>
        rw [hs, ht] at hstep
        cases hstep
      | some t' =>
        rw [hs, ht] at hstep
        cases hstep with
        | some hR' => exact ih hR'

end Actions

/-! ### Calls with answers -/

section Calls

/-- The answers to the calls, and the state after them. -/
def serve (step : σ → ι → Option (ο × σ)) : σ → List ι → Option (List ο × σ)
  | s, [] => some ([], s)
  | s, call :: calls => do
    let (answer, s') ← step s call
    let (answers, s'') ← serve step s' calls
    some (answer :: answers, s'')

variable {step : σ → ι → Option (ο × σ)} {step' : τ → ι → ο × τ} {R : σ → τ → Prop}

/-- Two systems that answer each call alike, and go from related states to related states, answer
whole runs alike; the partial one never gets stuck. -/
theorem serve_refines
    (h : ∀ s t call, R s t → ∃ s', step s call = some ((step' t call).1, s') ∧ R s' (step' t call).2)
    (calls : List ι) :
    ∀ {s : σ} {t : τ}, R s t → ∃ answers s' t', serve step s calls = some (answers, s') ∧
      serve (fun t call => some (step' t call)) t calls = some (answers, t') ∧ R s' t' := by
  induction calls with
  | nil =>
    intro s t hR
    exact ⟨[], s, t, rfl, rfl, hR⟩
  | cons call calls ih =>
    intro s t hR
    obtain ⟨s₁, hstep, hR₁⟩ := h s t call hR
    obtain ⟨answers, s', t', hs, ht, hR'⟩ := ih hR₁
    refine ⟨(step' t call).1 :: answers, s', t', ?_, ?_, hR'⟩
    · simp only [serve, hstep, Option.bind_eq_bind, Option.bind_some, hs]
    · simp only [serve, Option.bind_eq_bind, Option.bind_some, ht]

end Calls

end Runs
