-- SUMMARY: Transactions: computations over a store that either fail, leaving no trace, or return a value and a new store.

/-!
# Transactions

`Transaction σ ε α` reads and writes a store `σ` and either returns an `α` or
throws an `ε`. A thrown error carries no store: `commit` puts the store of a
successful transaction in place of the old one and keeps the old one when the
transaction throws, which is the rollback of a database.

The lemmas take a successful run apart, one bind at a time.
-/

namespace Library

universe u v w

/-- A sequence that does not touch a store succeeds when both parts do. -/
theorem Except.bind_eq_ok {ε : Type u} {α β : Type v} {x : Except ε α} {f : α → Except ε β} {b : β} :
    (x >>= f) = .ok b ↔ ∃ a, x = .ok a ∧ f a = .ok b := by
  cases x with
  | ok a => exact ⟨fun h => ⟨a, rfl, h⟩, by rintro ⟨_, ⟨rfl⟩, h⟩; exact h⟩
  | error e => exact ⟨nofun, nofun⟩

/-- Such a sequence throws what its first part throws, or its second part after a
    success of the first. -/
theorem Except.bind_eq_error {ε : Type u} {α β : Type v} {x : Except ε α} {f : α → Except ε β} {e : ε} :
    (x >>= f) = .error e ↔ x = .error e ∨ ∃ a, x = .ok a ∧ f a = .error e := by
  cases x with
  | ok a => exact ⟨fun h => .inr ⟨a, rfl, h⟩, by rintro (⟨⟨⟩⟩ | ⟨_, ⟨rfl⟩, h⟩); exact h⟩
  | error e' =>
    constructor
    · rintro ⟨⟩
      exact .inl rfl
    · rintro (⟨⟨⟩⟩ | ⟨_, ⟨⟩, -⟩)
      rfl

instance Except.decidableEqError {ε : Type u} {α : Type v} [DecidableEq ε] (x : Except ε α) (e : ε) :
    Decidable (x = .error e) :=
  match x with
  | .ok _ => .isFalse nofun
  | .error e' => decidable_of_iff (e' = e) ⟨congrArg Except.error, Except.error.inj⟩

/-- A computation over a store that may throw. -/
def Transaction (σ : Type u) (ε : Type v) (α : Type w) := σ → Except ε (α × σ)

namespace Transaction

variable {σ : Type u} {ε : Type v} {α β : Type w}

instance : Monad (Transaction σ ε) where
  pure a := fun s => .ok (a, s)
  bind x f := fun s =>
    match x s with
    | .ok (a, s') => f a s'
    | .error e => .error e

/-- Fail with an error. -/
def throw (e : ε) : Transaction σ ε α := fun _ => .error e

/-- A value computed from the store. -/
def read (f : σ → α) : Transaction σ ε α := fun s => .ok (f s, s)

/-- Change the store. -/
def write (f : σ → σ) : Transaction σ ε PUnit := fun s => .ok (⟨⟩, f s)

/-- Go on only if a condition holds. -/
def require (p : Prop) [Decidable p] (e : ε) : Transaction σ ε PUnit :=
  if p then pure ⟨⟩ else throw e

/-- The value of an option, or an error. -/
def getOrThrow (o : Option α) (e : ε) : Transaction σ ε α :=
  match o with
  | some a => pure a
  | none => throw e

/-- A computation that does not touch the store. -/
def lift (x : Except ε α) : Transaction σ ε α := fun s => x.map (fun a => (a, s))

/-- A computation that reads the store and may throw. -/
def query (f : σ → Except ε α) : Transaction σ ε α := fun s => (f s).map (fun a => (a, s))

/-- The store after the transaction: its own on success, the old one when it
    throws. -/
def commit (x : Transaction σ ε α) (s : σ) : σ :=
  match x s with
  | .ok (_, s') => s'
  | .error _ => s

variable {x : Transaction σ ε α} {f : α → Transaction σ ε β} {s s' : σ} {a : α} {b : β} {e : ε}

@[simp] theorem pure_eq_ok {a' : α} :
    (pure a : Transaction σ ε α) s = .ok (a', s') ↔ a = a' ∧ s = s' := by
  change Except.ok (a, s) = _ ↔ _
  simp

/-- A sequence succeeds when both parts do. -/
theorem bind_eq_ok :
    (x >>= f) s = .ok (b, s') ↔ ∃ a s₁, x s = .ok (a, s₁) ∧ f a s₁ = .ok (b, s') := by
  change (match x s with | .ok (a, s₁) => f a s₁ | .error e => .error e) = _ ↔ _
  cases hx : x s with
  | ok p => exact ⟨fun h => ⟨p.1, p.2, rfl, h⟩, by rintro ⟨a, s₁, ⟨rfl⟩, h⟩; exact h⟩
  | error e => simp

@[simp] theorem throw_eq_ok : ¬ (throw e : Transaction σ ε α) s = .ok (a, s') := nofun

@[simp] theorem read_eq_ok {g : σ → α} :
    (read g : Transaction σ ε α) s = .ok (a, s') ↔ g s = a ∧ s = s' := by
  simp [read]

@[simp] theorem write_eq_ok {g : σ → σ} {u : PUnit} :
    (write g : Transaction σ ε PUnit) s = .ok (u, s') ↔ g s = s' := by
  simp [write]

@[simp] theorem require_eq_ok {p : Prop} [Decidable p] {u : PUnit} :
    (require p e : Transaction σ ε PUnit) s = .ok (u, s') ↔ p ∧ s = s' := by
  by_cases h : p
  · simp [require, h]
  · simp [require, h]

@[simp] theorem getOrThrow_eq_ok {o : Option α} :
    (getOrThrow o e : Transaction σ ε α) s = .ok (a, s') ↔ o = some a ∧ s = s' := by
  cases o with
  | none => simp only [getOrThrow, throw_eq_ok, reduceCtorEq, false_and]
  | some v => simp [getOrThrow]

@[simp] theorem lift_eq_ok {y : Except ε α} :
    (lift y : Transaction σ ε α) s = .ok (a, s') ↔ y = .ok a ∧ s = s' := by
  cases y <;> simp [lift, Except.map]

/-! ### The first step of a sequence -/

@[simp] theorem pure_bind : ((pure a : Transaction σ ε α) >>= f) s = f a s := rfl

@[simp] theorem read_bind {g : σ → α} : (read g >>= f) s = f (g s) s := rfl

@[simp] theorem write_bind {g : σ → σ} {f : PUnit → Transaction σ ε β} :
    (write g >>= f) s = f ⟨⟩ (g s) := rfl

theorem require_bind_eq_ok {p : Prop} [Decidable p] {f : PUnit → Transaction σ ε β} :
    (require p e >>= f) s = .ok (b, s') ↔ p ∧ f ⟨⟩ s = .ok (b, s') := by
  simp only [bind_eq_ok, require_eq_ok]
  constructor
  · rintro ⟨_, _, ⟨hp, rfl⟩, h⟩
    exact ⟨hp, h⟩
  · rintro ⟨hp, h⟩
    exact ⟨_, _, ⟨hp, rfl⟩, h⟩

theorem getOrThrow_bind_eq_ok {o : Option α} :
    (getOrThrow o e >>= f) s = .ok (b, s') ↔ ∃ a, o = some a ∧ f a s = .ok (b, s') := by
  simp only [bind_eq_ok, getOrThrow_eq_ok]
  constructor
  · rintro ⟨a, _, ⟨ho, rfl⟩, h⟩
    exact ⟨a, ho, h⟩
  · rintro ⟨a, ho, h⟩
    exact ⟨a, _, ⟨ho, rfl⟩, h⟩

theorem lift_bind_eq_ok {y : Except ε α} :
    (lift y >>= f) s = .ok (b, s') ↔ ∃ a, y = .ok a ∧ f a s = .ok (b, s') := by
  simp only [bind_eq_ok, lift_eq_ok]
  constructor
  · rintro ⟨a, _, ⟨hy, rfl⟩, h⟩
    exact ⟨a, hy, h⟩
  · rintro ⟨a, hy, h⟩
    exact ⟨a, _, ⟨hy, rfl⟩, h⟩

theorem query_eq_ok {g : σ → Except ε α} :
    query g s = .ok (a, s') ↔ g s = .ok a ∧ s = s' := by
  cases hg : g s <;> simp [query, hg, Except.map]

theorem query_bind_eq_ok {g : σ → Except ε α} :
    (query g >>= f) s = .ok (b, s') ↔ ∃ a, g s = .ok a ∧ f a s = .ok (b, s') := by
  simp only [bind_eq_ok, query_eq_ok]
  constructor
  · rintro ⟨a, _, ⟨hg, rfl⟩, h⟩
    exact ⟨a, hg, h⟩
  · rintro ⟨a, hg, h⟩
    exact ⟨a, _, ⟨hg, rfl⟩, h⟩

/-! ### Committing -/

theorem commit_of_ok (h : x s = .ok (a, s')) : x.commit s = s' := by simp [commit, h]

theorem commit_of_error (h : x s = .error e) : x.commit s = s := by simp [commit, h]

/-- A transaction either succeeds or leaves the store alone. -/
theorem commit_cases (x : Transaction σ ε α) (s : σ) :
    (∃ a, x s = .ok (a, x.commit s)) ∨ ((∀ a s', x s ≠ .ok (a, s')) ∧ x.commit s = s) := by
  cases h : x s with
  | ok p => exact .inl ⟨p.1, congrArg (fun s' => Except.ok (p.1, s')) (commit_of_ok h).symm⟩
  | error e => exact .inr ⟨nofun, commit_of_error h⟩

/-- A run that is no error is a success. -/
theorem exists_of_isOk {x : Transaction σ ε PUnit} (h : (x s).isOk = true) :
    ∃ s', x s = .ok (⟨⟩, s') := by
  cases hx : x s with
  | ok r => exact ⟨r.2, rfl⟩
  | error e =>
    rw [hx] at h
    cases h

/-- What every success of a transaction keeps, its commit keeps. -/
theorem commit_induction {P : σ → Prop} (hs : P s) (h : ∀ a s', x s = .ok (a, s') → P s') :
    P (x.commit s) := by
  rcases commit_cases x s with ⟨a, ha⟩ | ⟨-, hc⟩
  · exact h a _ ha
  · rwa [hc]

/-! ### As one step of a longer call -/

/-- Run a transaction and go on with its value, or with its error. -/
def attempt {τ : Type w} (x : Transaction σ ε α) (next : α → τ) (failed : ε → τ) (s : σ) : σ × τ :=
  match x s with
  | .ok (a, s') => (s', next a)
  | .error e => (s, failed e)

theorem attempt_cases {τ : Type w} {next : α → τ} {failed : ε → τ} {r : σ × τ}
    (h : x.attempt next failed s = r) :
    (∃ a s', x s = .ok (a, s') ∧ r = (s', next a)) ∨ ∃ e, x s = .error e ∧ r = (s, failed e) := by
  unfold attempt at h
  split at h
  · rename_i a s' hx
    exact .inl ⟨a, s', hx, h.symm⟩
  · rename_i e hx
    exact .inr ⟨e, hx, h.symm⟩

/-! ### Errors -/

/-- A sequence throws what its first part throws, or what its second part throws
    after a success of the first. -/
theorem bind_eq_error :
    (x >>= f) s = .error e ↔ x s = .error e ∨ ∃ a s₁, x s = .ok (a, s₁) ∧ f a s₁ = .error e := by
  change (match x s with | .ok (a, s₁) => f a s₁ | .error e => .error e) = _ ↔ _
  cases hx : x s with
  | ok p => exact ⟨fun h => .inr ⟨p.1, p.2, rfl, h⟩, by rintro (⟨⟨⟩⟩ | ⟨a, s₁, ⟨rfl⟩, h⟩); exact h⟩
  | error e' => simp

theorem query_bind_eq_error {g : σ → Except ε α} :
    (query g >>= f) s = .error e ↔ g s = .error e ∨ ∃ a, g s = .ok a ∧ f a s = .error e := by
  simp only [bind_eq_error, query_eq_ok]
  constructor
  · rintro (h | ⟨a, _, ⟨hg, rfl⟩, h⟩)
    · cases hg : g s with
      | ok a => simp [query, hg, Except.map] at h
      | error e' => exact .inl (by simpa [query, hg, Except.map] using h)
    · exact .inr ⟨a, hg, h⟩
  · rintro (hg | ⟨a, hg, h⟩)
    · exact .inl (by simp [query, hg, Except.map])
    · exact .inr ⟨a, s, ⟨hg, rfl⟩, h⟩

/-- A transaction that asks the store first commits what it goes on with, or nothing. -/
theorem commit_query_bind (g : σ → Except ε α) (f : α → Transaction σ ε β) (s : σ) :
    (∃ a, g s = .ok a ∧ (query g >>= f).commit s = (f a).commit s) ∨
      (query g >>= f).commit s = s := by
  cases hg : g s with
  | ok a =>
    refine .inl ⟨a, rfl, ?_⟩
    have hsame : (query g >>= f) s = f a s := by
      change (match query g s with | .ok (a, s₁) => f a s₁ | .error e => .error e) = f a s
      rw [query, hg]
      rfl
    rw [commit, commit, hsame]
  | error e => exact .inr (commit_of_error (query_bind_eq_error.2 (.inl hg)))

theorem lift_bind_eq_error {y : Except ε α} :
    (lift y >>= f) s = .error e ↔ y = .error e ∨ ∃ a, y = .ok a ∧ f a s = .error e :=
  query_bind_eq_error (g := fun _ => y)

theorem require_bind_eq_error {p : Prop} [Decidable p] {e' : ε} {f : PUnit → Transaction σ ε β} :
    (require p e' >>= f) s = .error e ↔ (¬ p ∧ e' = e) ∨ (p ∧ f ⟨⟩ s = .error e) := by
  by_cases hp : p
  · have hpure : (require p e' : Transaction σ ε PUnit) = pure ⟨⟩ := if_pos hp
    rw [hpure, pure_bind]
    simp [hp]
  · have hthrow : (require p e' : Transaction σ ε PUnit) = throw e' := if_neg hp
    rw [hthrow, bind_eq_error]
    simp [hp, throw]

/-- Whatever the transaction throws, in any store, satisfies a condition. -/
def Throws (P : ε → Prop) (x : Transaction σ ε α) : Prop := ∀ s e, x s = .error e → P e

section Throws

variable {P : ε → Prop}

theorem Throws.pure : Throws P (Pure.pure a : Transaction σ ε α) := nofun

theorem Throws.read {g : σ → α} : Throws P (Transaction.read g : Transaction σ ε α) := nofun

theorem Throws.write {g : σ → σ} : Throws P (Transaction.write g : Transaction σ ε PUnit) := nofun

theorem Throws.throw (h : P e) : Throws P (Transaction.throw e : Transaction σ ε α) := by
  rintro s _ ⟨⟩
  exact h

theorem Throws.bind (hx : Throws P x) (hf : ∀ a, Throws P (f a)) : Throws P (x >>= f) := by
  intro s e h
  rcases bind_eq_error.1 h with hfirst | ⟨a, s₁, -, hsecond⟩
  · exact hx s e hfirst
  · exact hf a s₁ e hsecond

theorem Throws.require {p : Prop} [Decidable p] (h : P e) :
    Throws P (Transaction.require p e : Transaction σ ε PUnit) := by
  unfold Transaction.require
  split
  · exact Throws.pure
  · exact Throws.throw h

theorem Throws.getOrThrow {o : Option α} (h : P e) :
    Throws P (Transaction.getOrThrow o e : Transaction σ ε α) := by
  cases o with
  | none => exact Throws.throw h
  | some a => exact Throws.pure

theorem Throws.lift {y : Except ε α} (h : ∀ e, y = .error e → P e) :
    Throws P (Transaction.lift y : Transaction σ ε α) := by
  intro s e hthrow
  cases y with
  | ok a => cases hthrow
  | error e' =>
    cases hthrow
    exact h e rfl

theorem Throws.query {g : σ → Except ε α} (h : ∀ s e, g s = .error e → P e) :
    Throws P (Transaction.query g) := fun s _ hthrow =>
  Throws.lift (h s) s _ hthrow

end Throws

end Transaction

end Library
