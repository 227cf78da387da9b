-- SUMMARY: Processes: computations over a store that may throw and keep what they wrote; triples about them.
import Expentra.Library.Transaction

/-!
# Processes

A `Process σ ε α` reads and writes a store `σ` and either returns an `α` or throws an
`ε`. Unlike a transaction it keeps what it wrote before it threw. A transaction is one
step of a process (`atomically`).

`Triple P x Q R` says that from a store with `P`, a return of `x` establishes `Q` and a
throw establishes `R`. The rules are those of Hoare's logic, one for each primitive, with
the weakest precondition on the left.
-/

namespace Library

universe u v w

/-- A computation over a store that may throw. -/
def Process (σ : Type u) (ε : Type v) (α : Type w) := σ → Except ε α × σ

namespace Process

variable {σ : Type u} {ε : Type v} {α β : Type w}

instance : Monad (Process σ ε) where
  pure a := fun s => (.ok a, s)
  bind x f := fun s =>
    match x s with
    | (.ok a, s') => f a s'
    | (.error e, s') => (.error e, s')

def throw (e : ε) : Process σ ε α := fun s => (.error e, s)

/-- A value computed from the store. -/
def read (f : σ → α) : Process σ ε α := fun s => (.ok (f s), s)

/-- Change the store. -/
def write (f : σ → σ) : Process σ ε PUnit := fun s => (.ok ⟨⟩, f s)

/-- Go on only if a condition holds. -/
def require (p : Prop) [Decidable p] (e : ε) : Process σ ε PUnit :=
  if p then pure ⟨⟩ else throw e

/-- The value of an option, or an error. -/
def getOrThrow (o : Option α) (e : ε) : Process σ ε α :=
  match o with
  | some a => pure a
  | none => throw e

/-- A computation that reads the store and may throw. -/
def query (f : σ → Except ε α) : Process σ ε α := fun s => (f s, s)

/-- A transaction, as one step: its store is kept when it returns. -/
def atomically (x : Transaction σ ε α) : Process σ ε α := fun s =>
  match x s with
  | .ok (a, s') => (.ok a, s')
  | .error e => (.error e, s)

/-- The store at the end, returned or thrown. -/
def final (x : Process σ ε α) (s : σ) : σ := (x s).2

variable {x : Process σ ε α} {f : α → Process σ ε β} {s s' : σ} {a : α} {e : ε}

/-! ## Running the first step of a sequence -/

theorem bind_of_ok (h : x s = (.ok a, s')) : (x >>= f) s = f a s' := by
  change (match x s with
    | (.ok a, s₁) => f a s₁
    | (.error e, s₁) => (.error e, s₁)) = _
  rw [h]

theorem bind_of_error (h : x s = (.error e, s')) : (x >>= f) s = (.error e, s') := by
  change (match x s with
    | (.ok a, s₁) => f a s₁
    | (.error e, s₁) => (.error e, s₁)) = _
  rw [h]

theorem query_bind {g : σ → Except ε α} :
    (query g >>= f) s =
      match g s with
      | .ok a => f a s
      | .error e => (.error e, s) := by
  cases h : g s with
  | ok a => exact bind_of_ok (by rw [query, h])
  | error e => exact bind_of_error (by rw [query, h])

theorem atomically_bind {t : Transaction σ ε α} :
    (atomically t >>= f) s =
      match t s with
      | .ok (a, s') => f a s'
      | .error e => (.error e, s) := by
  rcases h : t s with e | ⟨a, s'⟩
  · exact bind_of_error (by rw [atomically, h])
  · exact bind_of_ok (by rw [atomically, h])

theorem bind_assoc {γ : Type w} {g : β → Process σ ε γ} :
    (x >>= f) >>= g = x >>= fun a => f a >>= g := by
  funext s
  rcases hx : x s with ⟨e | a, s'⟩
  · rw [bind_of_error hx, bind_of_error (bind_of_error hx)]
  · rw [bind_of_ok hx]
    change (match (x >>= f) s with
      | (.ok b, s₁) => g b s₁
      | (.error e, s₁) => (.error e, s₁)) = _
    rw [bind_of_ok hx]
    rfl

/-! ## Triples -/

/-- From `P`, a return establishes `Q` and a throw establishes `R`. -/
def Triple (P : σ → Prop) (x : Process σ ε α) (Q : α → σ → Prop) (R : σ → Prop) : Prop :=
  ∀ s, P s → (∀ a s', x s = (.ok a, s') → Q a s') ∧ ∀ e s', x s = (.error e, s') → R s'

/-- What holds before holds after, returned or thrown. -/
def Keeps (P : σ → Prop) (x : Process σ ε α) : Prop := Triple P x (fun _ => P) P

namespace Triple

variable {P P' : σ → Prop} {Q Q' : α → σ → Prop} {Q₂ : β → σ → Prop} {R R' : σ → Prop}

theorem pure : Triple (Q a) (Pure.pure a : Process σ ε α) Q R := by
  intro s hs
  refine ⟨fun a' s' h => ?_, fun e s' h => (by cases h)⟩
  cases h
  exact hs

theorem throw : Triple R (Process.throw e : Process σ ε α) Q R := by
  intro s hs
  refine ⟨fun a s' h => (by cases h), fun e' s' h => ?_⟩
  cases h
  exact hs

theorem read {g : σ → α} : Triple (fun s => Q (g s) s) (Process.read g : Process σ ε α) Q R := by
  intro s hs
  refine ⟨fun a s' h => ?_, fun e s' h => (by cases h)⟩
  cases h
  exact hs

theorem write {g : σ → σ} {Q : PUnit → σ → Prop} :
    Triple (fun s => Q ⟨⟩ (g s)) (Process.write g : Process σ ε PUnit) Q R := by
  intro s hs
  refine ⟨fun a s' h => ?_, fun e s' h => (by cases h)⟩
  cases h
  exact hs

theorem require {p : Prop} [Decidable p] {Q : PUnit → σ → Prop} :
    Triple (fun s => (p → Q ⟨⟩ s) ∧ (¬ p → R s)) (Process.require p e : Process σ ε PUnit) Q R := by
  intro s hs
  unfold Process.require
  split
  · rename_i hp
    exact Triple.pure s (hs.1 hp)
  · rename_i hp
    exact Triple.throw s (hs.2 hp)

theorem getOrThrow {o : Option α} :
    Triple (fun s => (∀ a, o = some a → Q a s) ∧ (o = none → R s))
      (Process.getOrThrow o e : Process σ ε α) Q R := by
  intro s hs
  cases o with
  | some a => exact Triple.pure s (hs.1 a rfl)
  | none => exact Triple.throw s (hs.2 rfl)

theorem query {g : σ → Except ε α} :
    Triple (fun s => (∀ a, g s = .ok a → Q a s) ∧ (∀ e, g s = .error e → R s))
      (Process.query g) Q R := by
  intro s hs
  refine ⟨fun a s' h => ?_, fun e s' h => ?_⟩
  · obtain ⟨hg, rfl⟩ := Prod.mk.inj h
    exact hs.1 a hg
  · obtain ⟨hg, rfl⟩ := Prod.mk.inj h
    exact hs.2 e hg

theorem atomically {t : Transaction σ ε α} :
    Triple (fun s => (∀ a s', t s = .ok (a, s') → Q a s') ∧ ((∃ e, t s = .error e) → R s))
      (Process.atomically t) Q R := by
  intro s hs
  unfold Process.atomically
  split
  · rename_i a s' ht
    refine ⟨fun a' s'' h => ?_, fun e s'' h => (by cases h)⟩
    cases h
    exact hs.1 a s' ht
  · rename_i e ht
    refine ⟨fun a s'' h => (by cases h), fun e' s'' h => ?_⟩
    cases h
    exact hs.2 ⟨e, ht⟩

/-- The rule of sequences. -/
theorem bind (hx : Triple P x Q R) (hf : ∀ a, Triple (Q a) (f a) Q₂ R) :
    Triple P (x >>= f) Q₂ R := by
  intro s hs
  have hfirst := hx s hs
  change (∀ b s', (match x s with
    | (.ok a, s₁) => f a s₁
    | (.error e, s₁) => (.error e, s₁)) = (.ok b, s') → Q₂ b s') ∧ ∀ e s', (match x s with
    | (.ok a, s₁) => f a s₁
    | (.error e, s₁) => (.error e, s₁)) = (.error e, s') → R s'
  cases hrun : x s with
  | mk result s₁ =>
    cases result with
    | ok a => exact hf a s₁ (hfirst.1 a s₁ hrun)
    | error e =>
      refine ⟨fun b s' h => (by cases h), fun e' s' h => ?_⟩
      cases h
      exact hfirst.2 e s₁ hrun

/-- The rule of consequence. -/
theorem mono (h : Triple P x Q R) (hP : ∀ s, P' s → P s) (hQ : ∀ a s, Q a s → Q' a s)
    (hR : ∀ s, R s → R' s) : Triple P' x Q' R' := fun s hs =>
  ⟨fun a s' hrun => hQ a s' ((h s (hP s hs)).1 a s' hrun),
    fun e s' hrun => hR s' ((h s (hP s hs)).2 e s' hrun)⟩

theorem of_imp (h : Triple P x Q R) (hP : ∀ s, P' s → P s) : Triple P' x Q R :=
  h.mono hP (fun _ _ hq => hq) (fun _ hr => hr)

/-- What a triple says of the store at the end. -/
theorem final {Q : σ → Prop} (h : Triple P x (fun _ => Q) Q) (hs : P s) : Q (x.final s) := by
  have hboth := h s hs
  unfold Process.final
  cases hrun : x s with
  | mk result s₁ =>
    cases result with
    | ok a => exact hboth.1 a s₁ hrun
    | error e => exact hboth.2 e s₁ hrun

end Triple

/-! ### Invariants -/

namespace Keeps

variable {P : σ → Prop}

theorem pure : Keeps P (Pure.pure a : Process σ ε α) := Triple.pure (Q := fun _ => P)

theorem read {g : σ → α} : Keeps P (Process.read g : Process σ ε α) :=
  Triple.read (Q := fun _ => P)

theorem query {g : σ → Except ε α} : Keeps P (Process.query g) :=
  Triple.query.of_imp (fun _ hs => ⟨fun _ _ => hs, fun _ _ => hs⟩)

theorem require {p : Prop} [Decidable p] : Keeps P (Process.require p e : Process σ ε PUnit) :=
  Triple.require.of_imp (fun _ hs => ⟨fun _ => hs, fun _ => hs⟩)

theorem getOrThrow {o : Option α} : Keeps P (Process.getOrThrow o e : Process σ ε α) :=
  Triple.getOrThrow.of_imp (fun _ hs => ⟨fun _ _ => hs, fun _ => hs⟩)

theorem write {g : σ → σ} (h : ∀ s, P s → P (g s)) :
    Keeps P (Process.write g : Process σ ε PUnit) := Triple.write.of_imp h

theorem atomically {t : Transaction σ ε α} (h : ∀ s a s', P s → t s = .ok (a, s') → P s') :
    Keeps P (Process.atomically t) :=
  Triple.atomically.of_imp (fun s hs => ⟨fun a s' => h s a s' hs, fun _ => hs⟩)

theorem bind (hx : Keeps P x) (hf : ∀ a, Keeps P (f a)) : Keeps P (x >>= f) := Triple.bind hx hf

end Keeps

end Process

end Library
