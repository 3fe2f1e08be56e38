import Mathlib.Data.Set.Basic

/-!
# Programs of atomic calls and their interleavings

A program is a tree of calls on some shared objects: each call is atomic, and the rest of the
program may depend on its answer. `Prog.run` executes a program alone; `interleave` executes two
programs against one state, a schedule saying whose call comes next.

`Prog.Like` compares two programs whose calls and answers are alike in some sense, of which being the
same is one (`like_same`).

`serial_of_oneWay` is the rule for serializability: if the calls of the two programs that conflict
are made in one order, always those of the one program before those of the other, then answers and
state are those of running that program first. `oneWay_of_pivots` is the case of two programs that
have at most one such call each, where every schedule will do.
-/

namespace Interleaving

/-- The atomic operations on the shared objects, and the type each one answers with. -/
structure Signature where
  Op : Type
  Ans : Op → Type

/-- A sequential program over a signature. -/
inductive Prog (S : Signature) (α : Type) : Type
  | ret (a : α)
  | call (op : S.Op) (k : S.Ans op → Prog S α)

variable {S : Signature} {σ α β : Type}

namespace Prog

/-- Sequential composition. -/
def bind : Prog S α → (α → Prog S β) → Prog S β
  | ret a, f => f a
  | call op k, f => call op fun r => (k r).bind f

instance : Monad (Prog S) where
  pure := ret
  bind := bind

/-- A single call. -/
def op (o : S.Op) : Prog S (S.Ans o) := call o ret

end Prog

/-- What each operation answers and leaves behind. -/
abbrev Exec (S : Signature) (σ : Type) := (o : S.Op) → σ → S.Ans o × σ

/-- The program alone on the shared state. -/
def Prog.run (exec : Exec S σ) : Prog S α → σ → α × σ
  | .ret a, s => (a, s)
  | .call o k, s => (k (exec o s).1).run exec (exec o s).2

variable (exec : Exec S σ)

@[simp] theorem run_pure (a : α) (s : σ) : (pure a : Prog S α).run exec s = (a, s) := rfl

theorem run_call (o : S.Op) (k : S.Ans o → Prog S α) (s : σ) :
    (Prog.call o k).run exec s = (k (exec o s).1).run exec (exec o s).2 := rfl

@[simp] theorem run_op (o : S.Op) (s : σ) : (Prog.op o).run exec s = exec o s := rfl

@[simp] theorem run_bind (p : Prog S α) (f : α → Prog S β) (s : σ) :
    (p >>= f).run exec s = (f (p.run exec s).1).run exec (p.run exec s).2 := by
  show (p.bind f).run exec s = _
  induction p generalizing s with
  | ret a => rfl
  | call o k ih => exact ih _ _

@[simp] theorem run_ite (c : Prop) [Decidable c] (p q : Prog S α) (s : σ) :
    (if c then p else q).run exec s = if c then p.run exec s else q.run exec s := by
  split <;> rfl

/-! ### What all calls of a program have in common -/

/-- Every call the program can make, on any path, is such. -/
def Prog.All (P : S.Op → Prop) : Prog S α → Prop
  | .ret _ => True
  | .call o k => P o ∧ ∀ r, (k r).All P

variable {P : S.Op → Prop}

theorem all_op_bind {o : S.Op} {f : S.Ans o → Prog S α} :
    (Prog.op o >>= f).All P ↔ P o ∧ ∀ r, (f r).All P := Iff.rfl

theorem all_bind {p : Prog S α} {f : α → Prog S β} (hp : p.All P) (hf : ∀ a, (f a).All P) :
    (p >>= f).All P := by
  show (p.bind f).All P
  induction p with
  | ret a => exact hf a
  | call o k ih => exact ⟨hp.1, fun r => ih r (hp.2 r)⟩

theorem all_and {P' : S.Op → Prop} {p : Prog S α} (hp : p.All P) (hp' : p.All P') :
    p.All fun o => P o ∧ P' o := by
  induction p with
  | ret a => trivial
  | call o k ih => exact ⟨⟨hp.1, hp'.1⟩, fun r => ih r (hp.2 r) (hp'.2 r)⟩

theorem all_imp {P' : S.Op → Prop} (himp : ∀ o, P o → P' o) {p : Prog S α} (hp : p.All P) : p.All P' := by
  induction p with
  | ret a => trivial
  | call o k ih => exact ⟨himp o hp.1, fun r => ih r (hp.2 r)⟩

theorem all_ite {c : Prop} [Decidable c] {p q : Prog S α} (hp : p.All P) (hq : q.All P) :
    (if c then p else q).All P := by
  split
  · exact hp
  · exact hq

/-- Two runs of a program whose calls answer alike in related states and keep them related. -/
theorem run_rel {R : σ → σ → Prop}
    (hexec : ∀ o s s', P o → R s s' →
      (exec o s).1 = (exec o s').1 ∧ R (exec o s).2 (exec o s').2)
    {p : Prog S α} (hp : p.All P) {s s' : σ} (hR : R s s') :
    (p.run exec s).1 = (p.run exec s').1 ∧ R (p.run exec s).2 (p.run exec s').2 := by
  induction p generalizing s s' with
  | ret a => exact ⟨rfl, hR⟩
  | call o k ih =>
    obtain ⟨hans, hR'⟩ := hexec o s s' hp.1 hR
    rw [run_call, run_call, ← hans]
    exact ih _ (hp.2 _) hR'

/-- Two shared objects answer each call alike in related states, and it keeps them related. -/
def Refines {τ : Type} (exec : Exec S σ) (exec' : Exec S τ) (R : σ → τ → Prop) : Prop :=
  ∀ o s t, R s t → (exec o s).1 = (exec' o t).1 ∧ R (exec o s).2 (exec' o t).2

/-- No program can tell them apart. -/
theorem run_refines {τ : Type} {exec' : Exec S τ} {R : σ → τ → Prop} (h : Refines exec exec' R)
    (p : Prog S α) {s : σ} {t : τ} (hR : R s t) :
    (p.run exec s).1 = (p.run exec' t).1 ∧ R (p.run exec s).2 (p.run exec' t).2 := by
  induction p generalizing s t with
  | ret a => exact ⟨rfl, hR⟩
  | call o k ih =>
    obtain ⟨hans, hR'⟩ := h o s t hR
    rw [run_call, run_call, ← hans]
    exact ih _ hR'

/-! ### Programs that are alike -/

/-- Which calls are alike, and which answers to them are. -/
structure Likeness (S : Signature) where
  ops : S.Op → S.Op → Prop
  answers : (o o' : S.Op) → S.Ans o → S.Ans o' → Prop

variable {L : Likeness S}

/-- The programs make calls that are alike, and as long as the answers are alike they have the same result. -/
def Prog.Like (L : Likeness S) : Prog S α → Prog S α → Prop
  | .ret a, .ret a' => a = a'
  | .call o k, .call o' k' => L.ops o o' ∧ ∀ r r', L.answers o o' r r' → (k r).Like L (k' r')
  | _, _ => False

theorem like_op {o o' : S.Op} {f : S.Ans o → Prog S α} {f' : S.Ans o' → Prog S α} (ho : L.ops o o')
    (hf : ∀ r r', L.answers o o' r r' → (f r).Like L (f' r')) :
    (Prog.op o >>= f).Like L (Prog.op o' >>= f') := ⟨ho, hf⟩

theorem like_bind {p p' : Prog S β} {f f' : β → Prog S α} (hp : p.Like L p')
    (hf : ∀ b, (f b).Like L (f' b)) : (p >>= f).Like L (p' >>= f') := by
  show (p.bind f).Like L (p'.bind f')
  induction p generalizing p' with
  | ret b =>
    cases p' with
    | ret b' =>
      obtain rfl : b = b' := hp
      exact hf b
    | call o' k' => cases hp
  | call o k ih =>
    cases p' with
    | ret b' => cases hp
    | call o' k' => exact ⟨hp.1, fun r r' hr => ih r (hp.2 r r' hr)⟩

theorem like_ite {c : Prop} [Decidable c] {p p' q q' : Prog S α} (hp : p.Like L p') (hq : q.Like L q') :
    (if c then p else q).Like L (if c then p' else q') := by
  split
  · exact hp
  · exact hq

/-- The two answer alike what is alike. -/
def RefinesLike {τ : Type} (L : Likeness S) (exec : Exec S σ) (exec' : Exec S τ) (R : σ → τ → Prop) :
    Prop :=
  ∀ o o' s t, L.ops o o' → R s t →
    L.answers o o' (exec o s).1 (exec' o' t).1 ∧ R (exec o s).2 (exec' o' t).2

/-- It is enough that what they refine does. -/
theorem RefinesLike.of_refines {σ' τ τ' : Type} {exec : Exec S σ} {exec' : Exec S σ'} {spec : Exec S τ}
    {spec' : Exec S τ'} {R : σ → τ → Prop} {R' : σ' → τ' → Prop} {T : τ → τ' → Prop}
    (h : Refines exec spec R) (h' : Refines exec' spec' R') (hspec : RefinesLike L spec spec' T) :
    RefinesLike L exec exec' fun s s' => ∃ t t', R s t ∧ R' s' t' ∧ T t t' := by
  rintro o o' s s' ho ⟨t, t', hR, hR', hT⟩
  obtain ⟨hans, hnext⟩ := h o s t hR
  obtain ⟨hans', hnext'⟩ := h' o' s' t' hR'
  obtain ⟨hlike, hT'⟩ := hspec o o' t t' ho hT
  rw [hans, hans']
  exact ⟨hlike, _, _, hnext, hnext', hT'⟩

/-- Only the same is alike. -/
def Likeness.same (S : Signature) : Likeness S where
  ops := Eq
  answers _ _ r r' := HEq r r'

theorem like_same {p p' : Prog S α} : p.Like (.same S) p' ↔ p = p' := by
  induction p generalizing p' with
  | ret a =>
    cases p' with
    | ret a' => exact ⟨congrArg _, Prog.ret.inj⟩
    | call o' k' => exact ⟨nofun, nofun⟩
  | call o k ih =>
    cases p' with
    | ret a' => exact ⟨nofun, nofun⟩
    | call o' k' =>
      constructor
      · rintro ⟨rfl, hk⟩
        exact congrArg _ (funext fun r => (ih r).1 (hk r r .rfl))
      · rintro ⟨⟩
        refine ⟨rfl, fun r r' hr => ?_⟩
        obtain rfl := eq_of_heq hr
        exact (ih r).2 rfl

theorem Refines.like {τ : Type} {exec : Exec S σ} {exec' : Exec S τ} {R : σ → τ → Prop}
    (h : Refines exec exec' R) : RefinesLike (.same S) exec exec' R := by
  rintro o o' s t rfl hR
  exact ⟨heq_of_eq (h o s t hR).1, (h o s t hR).2⟩

/-! ### What all results of a program have in common -/

/-- Whatever its calls answer, the program's result is such. -/
def Prog.Returns (Q : α → Prop) : Prog S α → Prop
  | .ret a => Q a
  | .call _ k => ∀ r, (k r).Returns Q

variable {Q : α → Prop}

theorem returns_bind {p : Prog S β} {f : β → Prog S α} (hf : ∀ b, (f b).Returns Q) :
    (p >>= f).Returns Q := by
  show (p.bind f).Returns Q
  induction p with
  | ret b => exact hf b
  | call o k ih => exact ih

theorem returns_ite {c : Prop} [Decidable c] {p q : Prog S α} (hp : p.Returns Q)
    (hq : q.Returns Q) : (if c then p else q).Returns Q := by
  split
  · exact hp
  · exact hq

theorem returns_run {p : Prog S α} (hp : p.Returns Q) (s : σ) : Q (p.run exec s).1 := by
  induction p generalizing s with
  | ret a => exact hp
  | call o k ih => exact ih _ (hp _) _

/-! ### An invariant of the shared state -/

/-- Every call the program can make is such, and so is its result, as long as the calls before have
answered as they do. -/
def Prog.Meets (P : S.Op → Prop) (A : (o : S.Op) → S.Ans o → Prop) (Q : α → Prop) : Prog S α → Prop
  | .ret a => Q a
  | .call o k => P o ∧ ∀ r, A o r → (k r).Meets P A Q

variable {A : (o : S.Op) → S.Ans o → Prop}

theorem meets_bind {p : Prog S β} {f : β → Prog S α} {R : β → Prop} (hp : p.Meets P A R)
    (hf : ∀ b, R b → (f b).Meets P A Q) : (p >>= f).Meets P A Q := by
  show (p.bind f).Meets P A Q
  induction p with
  | ret b => exact hf b hp
  | call o k ih => exact ⟨hp.1, fun r hr => ih r (hp.2 r hr)⟩

theorem meets_op {o : S.Op} (ho : P o) : (Prog.op o).Meets P A (A o) := ⟨ho, fun _ hr => hr⟩

theorem meets_ite {c : Prop} [Decidable c] {p q : Prog S α} (hp : p.Meets P A Q)
    (hq : q.Meets P A Q) : (if c then p else q).Meets P A Q := by
  split
  · exact hp
  · exact hq

/-- The calls keep the invariant and answer as they do where it holds. -/
theorem meets_run {I : σ → Prop}
    (hexec : ∀ o s, P o → I s → A o (exec o s).1 ∧ I (exec o s).2) {p : Prog S α}
    (hp : p.Meets P A Q) {s : σ} (hs : I s) : Q (p.run exec s).1 ∧ I (p.run exec s).2 := by
  induction p generalizing s with
  | ret a => exact ⟨hp, hs⟩
  | call o k ih =>
    obtain ⟨hans, hinv⟩ := hexec o s hp.1 hs
    exact ih _ (hp.2 _ hans) hinv

theorem meets_and_returns {R : α → Prop} {p : Prog S α} (hp : p.Meets P A Q) (hp' : p.Returns R) :
    p.Meets P A fun a => Q a ∧ R a := by
  induction p with
  | ret a => exact ⟨hp, hp'⟩
  | call o k ih => exact ⟨hp.1, fun r hr => ih r (hp.2 r hr) (hp' r)⟩

/-! ### Interleavings of two programs -/

/-- Two programs against one state: at each step the schedule names the program (`true` the left
one) whose next call runs. There is a result only when the schedule finishes both. -/
def interleave : List Bool → Prog S α → Prog S β → σ → Option (α × β × σ)
  | [], .ret a, .ret b, s => some (a, b, s)
  | true :: w, .call o k, q, s => interleave w (k (exec o s).1) q (exec o s).2
  | false :: w, p, .call o k, s => interleave w p (k (exec o s).1) (exec o s).2
  | _, _, _, _ => none

/-- The calls in the order they are made, each with the program that makes it. -/
def trace : List Bool → Prog S α → Prog S β → σ → List (Bool × S.Op)
  | true :: w, .call o k, q, s => (true, o) :: trace w (k (exec o s).1) q (exec o s).2
  | false :: w, p, .call o k, s => (false, o) :: trace w p (k (exec o s).1) (exec o s).2
  | _, _, _, _ => []

/-- The result is that of running one program after the other, in one of the two orders. -/
def Serial (p : Prog S α) (q : Prog S β) (s : σ) (r : α × β × σ) : Prop :=
  r = ((p.run exec s).1, q.run exec (p.run exec s).2) ∨
    r = ((p.run exec (q.run exec s).2).1, (q.run exec s).1, (p.run exec (q.run exec s).2).2)

/-- Every interleaving ends in the result of a serial order. -/
def Serializable (p : Prog S α) (q : Prog S β) (s : σ) : Prop :=
  ∀ w r, interleave exec w p q s = some r → Serial exec p q s r

/-- No call of this program comes before a call of the other that it conflicts with. -/
def After (C : S.Op → S.Op → Prop) (who : Bool) (t : List (Bool × S.Op)) : Prop :=
  t.Pairwise fun x y => x.1 = who → y.1 ≠ who → ¬ C x.2 y.2

/-- The calls that conflict are made in one order: those of one program before those of the other. -/
def OneWay (C : S.Op → S.Op → Prop) (t : List (Bool × S.Op)) : Prop :=
  After C false t ∨ After C true t

/-- Two calls can be made in either order: each is answered the same, and the state is the same. -/
def Commute (o o' : S.Op) : Prop :=
  ∀ s, (exec o (exec o' s).2).1 = (exec o s).1 ∧ (exec o' (exec o s).2).1 = (exec o' s).1 ∧
    (exec o (exec o' s).2).2 = (exec o' (exec o s).2).2

theorem Commute.symm {o o' : S.Op} (h : Commute exec o o') : Commute exec o' o :=
  fun s => ⟨(h s).2.1, (h s).1, (h s).2.2.symm⟩

/-- The calls of a program that runs alone. -/
def Prog.calls : Prog S α → σ → List S.Op
  | .ret _, _ => []
  | .call o k, s => o :: (k (exec o s).1).calls (exec o s).2

/-- A call that commutes with the calls of a program may as well be made after it. -/
theorem run_commute {o : S.Op} {p : Prog S α} {s : σ}
    (h : ∀ o' ∈ p.calls exec (exec o s).2, Commute exec o o') :
    p.calls exec s = p.calls exec (exec o s).2 ∧
      (p.run exec (exec o s).2).1 = (p.run exec s).1 ∧
      (p.run exec (exec o s).2).2 = (exec o (p.run exec s).2).2 ∧
      (exec o (p.run exec s).2).1 = (exec o s).1 := by
  induction p generalizing s with
  | ret a => exact ⟨rfl, rfl, rfl, rfl⟩
  | call o' k ih =>
    obtain ⟨hans, hans', hstate⟩ := h o' (List.mem_cons_self ..) s
    have hrest : ∀ o'' ∈ (k (exec o' s).1).calls exec (exec o (exec o' s).2).2,
        Commute exec o o'' := by
      intro o'' hmem
      refine h o'' (List.mem_cons_of_mem _ ?_)
      rw [hans', ← hstate]
      exact hmem
    obtain ⟨hcalls, hres, hfinal, hlast⟩ := ih (exec o' s).1 hrest
    simp only [Prog.calls, run_call, hans', ← hstate]
    exact ⟨congrArg _ hcalls, hres, hfinal, hlast.trans hans⟩

/-- **If no call of the right program comes before one of the left that it conflicts with, the
left program may as well run first.** The induction is on the schedule: a call of the right program
is moved behind the whole run of the left one, whose calls are all in the trace. -/
theorem left_first {C : S.Op → S.Op → Prop} (hC : ∀ o o', ¬ C o o' → Commute exec o o')
    {w : List Bool} {p : Prog S α} {q : Prog S β} {s : σ} {r : α × β × σ}
    (h : interleave exec w p q s = some r) (hafter : After C false (trace exec w p q s)) :
    r = ((p.run exec s).1, q.run exec (p.run exec s).2) ∧
      ∀ o ∈ p.calls exec s, (true, o) ∈ trace exec w p q s := by
  fun_induction interleave exec w p q s with
  | case1 a b s =>
    cases h
    exact ⟨rfl, by simp [Prog.calls]⟩
  | case2 w o k q s ih =>
    rw [trace] at hafter ⊢
    obtain ⟨hr, hcalls⟩ := ih h (List.pairwise_cons.1 hafter).2
    refine ⟨hr, fun o' ho' => ?_⟩
    rcases List.mem_cons.1 ho' with rfl | ho'
    · exact List.mem_cons_self ..
    · exact List.mem_cons_of_mem _ (hcalls o' ho')
  | case3 w p o k s ih =>
    rw [trace] at hafter ⊢
    obtain ⟨hfirst, hrest⟩ := List.pairwise_cons.1 hafter
    obtain ⟨hr, hcalls⟩ := ih h hrest
    have hcomm : ∀ o' ∈ p.calls exec (exec o s).2, Commute exec o o' := fun o' ho' =>
      hC o o' (hfirst _ (hcalls o' ho') rfl (by simp))
    obtain ⟨hsame, hans, hstate, hlast⟩ := run_commute exec hcomm
    refine ⟨?_, fun o' ho' => List.mem_cons_of_mem _ (hcalls o' (hsame ▸ ho'))⟩
    rw [hr, hans, hstate, run_call, hlast]
  | case4 => cases h

/-- The same run, with the two programs named the other way round. -/
theorem interleave_swap (w : List Bool) (p : Prog S α) (q : Prog S β) (s : σ) :
    interleave exec (w.map (!·)) q p s =
        (interleave exec w p q s).map (fun r => (r.2.1, r.1, r.2.2)) ∧
      trace exec (w.map (!·)) q p s = (trace exec w p q s).map fun x => (!x.1, x.2) := by
  induction w generalizing p q s with
  | nil => cases p <;> cases q <;> exact ⟨rfl, rfl⟩
  | cons b w ih =>
    cases b with
    | true =>
      cases p with
      | ret a => cases q <;> exact ⟨rfl, rfl⟩
      | call o k =>
        obtain ⟨hr, ht⟩ := ih (k (exec o s).1) q (exec o s).2
        exact ⟨hr, congrArg (_ :: ·) ht⟩
    | false =>
      cases q with
      | ret b => cases p <;> exact ⟨rfl, rfl⟩
      | call o k =>
        obtain ⟨hr, ht⟩ := ih p (k (exec o s).1) (exec o s).2
        exact ⟨hr, congrArg (_ :: ·) ht⟩

theorem after_swap {C : S.Op → S.Op → Prop} {t : List (Bool × S.Op)} :
    After C false (t.map fun x => (!x.1, x.2)) ↔ After C true t := by
  simp only [After, List.pairwise_map]
  constructor <;> intro h <;> refine h.imp fun {x y} hxy => ?_ <;> simpa using hxy

/-- **If no call of the left program comes before one of the right that it conflicts with, the
right program may as well run first.** -/
theorem right_first {C : S.Op → S.Op → Prop} (hC : ∀ o o', ¬ C o o' → Commute exec o o')
    {w : List Bool} {p : Prog S α} {q : Prog S β} {s : σ} {r : α × β × σ}
    (h : interleave exec w p q s = some r) (hafter : After C true (trace exec w p q s)) :
    r = ((p.run exec (q.run exec s).2).1, (q.run exec s).1, (p.run exec (q.run exec s).2).2) := by
  obtain ⟨hr, ht⟩ := interleave_swap exec w p q s
  rw [h] at hr
  have hswap : After C false (trace exec (w.map (!·)) q p s) := by
    rw [ht]
    exact after_swap.2 hafter
  have hfirst := (left_first exec hC hr hswap).1
  rw [Prod.ext_iff, Prod.ext_iff] at hfirst ⊢
  exact ⟨hfirst.2.1, hfirst.1, hfirst.2.2⟩

/-- **An interleaving whose conflicts all point one way is serial.** -/
theorem serial_of_oneWay {C : S.Op → S.Op → Prop} (hC : ∀ o o', ¬ C o o' → Commute exec o o')
    {w : List Bool} {p : Prog S α} {q : Prog S β} {s : σ} {r : α × β × σ}
    (h : interleave exec w p q s = some r) (hway : OneWay C (trace exec w p q s)) :
    Serial exec p q s r :=
  hway.imp (fun hafter => (left_first exec hC h hafter).1) (right_first exec hC h)

/-! ### Programs with one conflicting call each -/

/-- On every path at most one call is such. -/
def Prog.AtMostOne (X : S.Op → Prop) : Prog S α → Prop
  | .ret _ => True
  | .call o k => ∀ r, (k r).AtMostOne X ∧ (X o → (k r).All fun o' => ¬ X o')

theorem atMostOne_op_bind {X : S.Op → Prop} {o : S.Op} {f : S.Ans o → Prog S α} :
    (Prog.op o >>= f).AtMostOne X ↔
      ∀ r, (f r).AtMostOne X ∧ (X o → (f r).All fun o' => ¬ X o') := Iff.rfl

theorem atMostOne_of_all {X : S.Op → Prop} {p : Prog S α} (hp : p.All fun o => ¬ X o) :
    p.AtMostOne X := by
  induction p with
  | ret a => trivial
  | call o k ih => exact fun r => ⟨ih r (hp.2 r), fun hX => absurd hX hp.1⟩

theorem trace_all {P Q : S.Op → Prop} {p : Prog S α} {q : Prog S β} (hp : p.All P) (hq : q.All Q)
    (w : List Bool) (s : σ) :
    ∀ x ∈ trace exec w p q s, (x.1 = true → P x.2) ∧ (x.1 = false → Q x.2) := by
  fun_induction trace exec w p q s with
  | case1 w o k q s ih =>
    intro x hmem
    rcases List.mem_cons.1 hmem with rfl | hmem
    · exact ⟨fun _ => hp.1, nofun⟩
    · exact ih (hp.2 _) hq x hmem
  | case2 w p o k s ih =>
    intro x hmem
    rcases List.mem_cons.1 hmem with rfl | hmem
    · exact ⟨nofun, fun _ => hq.1⟩
    · exact ih hp (hq.2 _) x hmem
  | case3 => nofun

/-- Where no call of the one program conflicts with any of the other, any order will do. -/
theorem after_of_all {C : S.Op → S.Op → Prop} {P Q : S.Op → Prop} {p : Prog S α} {q : Prog S β}
    (hC : ∀ o o', P o → Q o' → ¬ C o o' ∧ ¬ C o' o) (hp : p.All P) (hq : q.All Q) (who : Bool)
    (w : List Bool) (s : σ) : After C who (trace exec w p q s) := by
  have hall := trace_all exec hp hq w s
  refine List.pairwise_iff_forall_sublist.2 fun {x y} hsub hx hy => ?_
  have hmem : x ∈ trace exec w p q s ∧ y ∈ trace exec w p q s :=
    ⟨hsub.subset (by simp), hsub.subset (by simp)⟩
  cases who with
  | false => exact (hC y.2 x.2 ((hall y hmem.2).1 (by simpa using hy)) ((hall x hmem.1).2 hx)).2
  | true => exact (hC x.2 y.2 ((hall x hmem.1).1 hx) ((hall y hmem.2).2 (by simpa using hy))).1

/-- **With at most one call each that conflicts with the other program, every schedule is one way.**
`X` and `Y` are the calls that may conflict; `P` and `Q` are all calls of the programs. -/
theorem oneWay_of_pivots {C : S.Op → S.Op → Prop} {P Q X Y : S.Op → Prop}
    (hC : ∀ o o', P o → Q o' → C o o' ∨ C o' o → X o ∧ Y o')
    {p : Prog S α} {q : Prog S β} (hp : p.All P) (hq : q.All Q) (hpX : p.AtMostOne X)
    (hqY : q.AtMostOne Y) (w : List Bool) (s : σ) : OneWay C (trace exec w p q s) := by
  have hP : ∀ o o', P o ∧ ¬ X o → Q o' → ¬ C o o' ∧ ¬ C o' o := fun o o' ho ho' =>
    ⟨fun hc => ho.2 (hC o o' ho.1 ho' (.inl hc)).1, fun hc => ho.2 (hC o o' ho.1 ho' (.inr hc)).1⟩
  have hQ : ∀ o o', P o → Q o' ∧ ¬ Y o' → ¬ C o o' ∧ ¬ C o' o := fun o o' ho ho' =>
    ⟨fun hc => ho'.2 (hC o o' ho ho'.1 (.inl hc)).2, fun hc => ho'.2 (hC o o' ho ho'.1 (.inr hc)).2⟩
  fun_induction trace exec w p q s with
  | case1 w o k q s ih =>
    by_cases hX : X o
    · -- Behind the pivot nothing of the left program conflicts.
      have hrest := all_and (hp.2 (exec o s).1) ((hpX _).2 hX)
      exact .inl (List.pairwise_cons.2 ⟨nofun, after_of_all exec hP hrest hq false w _⟩)
    · have hmem := trace_all exec (hp.2 (exec o s).1) hq w (exec o s).2
      rcases ih (hp.2 _) hq (hpX _).1 hqY with h | h
      · exact .inl (List.pairwise_cons.2 ⟨nofun, h⟩)
      · refine .inr (List.pairwise_cons.2 ⟨fun y hy _ hne => ?_, h⟩)
        exact (hP o y.2 ⟨hp.1, hX⟩ ((hmem y hy).2 (by simpa using hne))).1
  | case2 w p o k s ih =>
    by_cases hY : Y o
    · have hrest := all_and (hq.2 (exec o s).1) ((hqY _).2 hY)
      exact .inr (List.pairwise_cons.2 ⟨nofun, after_of_all exec hQ hp hrest true w _⟩)
    · have hmem := trace_all exec hp (hq.2 (exec o s).1) w (exec o s).2
      rcases ih hp (hq.2 _) hpX (hqY _).1 with h | h
      · refine .inl (List.pairwise_cons.2 ⟨fun y hy _ hne => ?_, h⟩)
        exact (hQ y.2 o ((hmem y hy).1 (by simpa using hne)) ⟨hq.1, hY⟩).2
      · exact .inr (List.pairwise_cons.2 ⟨nofun, h⟩)
  | case3 => exact .inl .nil

end Interleaving
