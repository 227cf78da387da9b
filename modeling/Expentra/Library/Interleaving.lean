-- SUMMARY: Threads over a shared state, interleaved step by step, and the rule for invariants of the state and of each thread.
import Expentra.Library.Run

/-!
# Interleavings

A pool is a shared state and the local states of the threads started so far. A
turn starts a thread, lets one thread take its next atomic step, or lets the
surroundings change the shared state; labels resolve what a step leaves open. A
thread that gets no turn any more has crashed, so that runs include crashes
between any two steps.

The rule for invariants is that of Owicki and Gries: an invariant of the shared
state and an assertion about each thread, such that the steps of a thread keep
the invariant, its own assertion, and the assertions of all other threads.
-/

namespace Library

universe u v w

/-- The shared state, and the threads in the order they were started. -/
structure Pool (σ : Type u) (τ : Type v) where
  shared : σ
  threads : List τ

/-- A pool without threads. -/
def Pool.idle {σ : Type u} {τ : Type v} (s : σ) : Pool σ τ := ⟨s, []⟩

/-- What happens next. -/
inductive Turn (ι α ε : Type w) where
  | start (arrival : ι)
  | step (thread : Nat) (outcome : α)
  | surroundings (event : ε)

/-- The atomic steps of a concurrent system. A step that is not possible yields
    nothing. A thread knows its position in the pool. -/
structure Concurrent (σ : Type u) (τ : Type v) (ι α ε : Type w) where
  start : σ → ι → Option (σ × τ)
  step : Nat → σ → τ → α → Option (σ × τ)
  surroundings : σ → ε → Option σ

namespace Concurrent

variable {σ : Type u} {τ : Type v} {ι α ε : Type w}

/-- The pool after a turn. -/
def next (P : Concurrent σ τ ι α ε) (p : Pool σ τ) : Turn ι α ε → Option (Pool σ τ)
  | .start arrival => (P.start p.shared arrival).map (fun r => ⟨r.1, p.threads ++ [r.2]⟩)
  | .step i outcome => (p.threads[i]?).bind (fun t =>
      (P.step i p.shared t outcome).map (fun r => ⟨r.1, p.threads.set i r.2⟩))
  | .surroundings event => (P.surroundings p.shared event).map (fun s => ⟨s, p.threads⟩)

def Step (P : Concurrent σ τ ι α ε) (p : Pool σ τ) (turn : Turn ι α ε) (p' : Pool σ τ) : Prop :=
  P.next p turn = some p'

variable {P : Concurrent σ τ ι α ε} {p p' : Pool σ τ}

theorem next_start_eq_some {arrival : ι} :
    P.next p (.start arrival) = some p' ↔
      ∃ s t, P.start p.shared arrival = some (s, t) ∧ p' = ⟨s, p.threads ++ [t]⟩ := by
  simp [next, eq_comm (b := p')]

theorem next_step_eq_some {i : Nat} {outcome : α} :
    P.next p (.step i outcome) = some p' ↔
      ∃ t s t', p.threads[i]? = some t ∧ P.step i p.shared t outcome = some (s, t') ∧
        p' = ⟨s, p.threads.set i t'⟩ := by
  simp [next, Option.bind_eq_some_iff, eq_comm (b := p')]

theorem next_surroundings_eq_some {event : ε} :
    P.next p (.surroundings event) = some p' ↔
      ∃ s, P.surroundings p.shared event = some s ∧ p' = ⟨s, p.threads⟩ := by
  simp [next, eq_comm (b := p')]

/-! ## Invariants -/

/-- The invariant holds of the shared state and the assertion of every thread. -/
structure Holds (I : σ → Prop) (J : Nat → σ → τ → Prop) (p : Pool σ τ) : Prop where
  shared : I p.shared
  thread : ∀ i t, p.threads[i]? = some t → J i p.shared t

/-- A condition on the steps of the threads, as a guard on turns. -/
def onStep (g : Nat → σ → τ → α → Prop) : Guard (Pool σ τ) (Turn ι α ε) := fun p turn =>
  ∀ i outcome t, turn = .step i outcome → p.threads[i]? = some t → g i p.shared t outcome

/-- The rule for steps without a condition. -/
def anyStep : Nat → σ → τ → α → Prop := fun _ _ _ _ => True

instance (i : Nat) (s : σ) (t : τ) (outcome : α) : Decidable (anyStep i s t outcome) :=
  inferInstanceAs (Decidable True)

/-- The proof obligations of an invariant: what each kind of turn has to keep. -/
structure Outline (P : Concurrent σ τ ι α ε) (g : Nat → σ → τ → α → Prop) (I : σ → Prop)
    (J : Nat → σ → τ → Prop) : Prop where
  start : ∀ {s arrival s' t}, I s → P.start s arrival = some (s', t) →
    I s' ∧ (∀ i, J i s' t) ∧ ∀ i u, J i s u → J i s' u
  step : ∀ {i s t outcome s' t'}, I s → J i s t → g i s t outcome →
    P.step i s t outcome = some (s', t') →
    I s' ∧ J i s' t' ∧ ∀ j u, j ≠ i → J j s u → J j s' u
  surroundings : ∀ {s event s'}, I s → P.surroundings s event = some s' →
    I s' ∧ ∀ i u, J i s u → J i s' u

variable {g : Nat → σ → τ → α → Prop} {I : σ → Prop} {J : Nat → σ → τ → Prop}

theorem holds_idle {s : σ} (h : I s) : Holds I J (Pool.idle s) :=
  ⟨h, fun i t ht => by simp [Pool.idle] at ht⟩

/-- The threads before a step, but the one that took it, are among those after it. -/
theorem eq_or_mem_set {threads : List τ} {i : Nat} {t t' u : τ} (hi : threads[i]? = some t)
    (hu : u ∈ threads) : u = t ∨ u ∈ threads.set i t' := by
  obtain ⟨j, hj⟩ := List.mem_iff_getElem?.1 hu
  by_cases hij : i = j
  · subst hij
    exact .inl (Option.some.inj (hj.symm.trans hi))
  · exact .inr (List.mem_iff_getElem?.2 ⟨j, by rw [List.getElem?_set_ne hij, hj]⟩)

/-- One turn keeps an invariant that has an outline. -/
theorem Outline.next (h : P.Outline g I J) (hp : Holds I J p) {turn : Turn ι α ε}
    (hguard : onStep g p turn) (hstep : P.Step p turn p') : Holds I J p' := by
  cases turn with
  | start arrival =>
    obtain ⟨s, t, hstart, rfl⟩ := next_start_eq_some.1 hstep
    obtain ⟨hI, hnew, hothers⟩ := h.start hp.shared hstart
    refine ⟨hI, fun i u hu => ?_⟩
    rcases Nat.lt_or_ge i p.threads.length with hlt | hge
    · rw [List.getElem?_append_left hlt] at hu
      exact hothers i u (hp.thread i u hu)
    · rw [List.getElem?_append_right hge, List.getElem?_singleton] at hu
      split at hu
      · cases hu
        exact hnew i
      · cases hu
  | step i outcome =>
    obtain ⟨t, s, t', ht, hmove, rfl⟩ := next_step_eq_some.1 hstep
    obtain ⟨hI, hself, hothers⟩ :=
      h.step hp.shared (hp.thread i t ht) (hguard i outcome t rfl ht) hmove
    refine ⟨hI, fun j u hu => ?_⟩
    rw [List.getElem?_set] at hu
    split at hu
    · rename_i hij
      split at hu
      · cases hu
        exact hij ▸ hself
      · cases hu
    · rename_i hij
      exact hothers j u (Ne.symm hij) (hp.thread j u hu)
  | surroundings event =>
    obtain ⟨s, hchange, rfl⟩ := next_surroundings_eq_some.1 hstep
    obtain ⟨hI, hothers⟩ := h.surroundings hp.shared hchange
    exact ⟨hI, fun i u hu => hothers i u (hp.thread i u hu)⟩

/-- An invariant that has an outline holds in every pool a guarded run reaches. -/
theorem Outline.reaches (h : P.Outline g I J) (hp : Holds I J p)
    (hreach : Reaches (Guarded (onStep g) P.Step) p p') : Holds I J p' :=
  hreach.invariant (fun _ _ _ hp hstep => h.next hp hstep.1 hstep.2) hp

/-- The same without a condition on the steps. -/
theorem Outline.reaches_anyStep (h : P.Outline anyStep I J) (hp : Holds I J p)
    (hreach : Reaches P.Step p p') : Holds I J p' :=
  hreach.invariant (fun _ _ _ hp hstep => h.next hp (fun _ _ _ _ _ => trivial) hstep) hp

/-! ## Changes that do not occur -/

/-- The surroundings make none of these changes. -/
def Avoids (excluded : ε → Prop) : Guard (Pool σ τ) (Turn ι α ε) := fun _ turn =>
  match turn with
  | .surroundings event => ¬ excluded event
  | _ => True

instance {excluded : ε → Prop} [DecidablePred excluded] (p : Pool σ τ) (turn : Turn ι α ε) :
    Decidable (Avoids excluded p turn) :=
  match turn with
  | .surroundings event => inferInstanceAs (Decidable (¬ excluded event))
  | .start _ => .isTrue trivial
  | .step .. => .isTrue trivial

/-- The system whose surroundings cannot make these changes. -/
def avoiding (P : Concurrent σ τ ι α ε) (excluded : ε → Prop) [DecidablePred excluded] :
    Concurrent σ τ ι α ε :=
  { P with surroundings := fun s event => if excluded event then none else P.surroundings s event }

theorem step_avoiding {excluded : ε → Prop} [DecidablePred excluded] {turn : Turn ι α ε}
    (havoids : Avoids excluded p turn) (hnext : P.Step p turn p') :
    (P.avoiding excluded).Step p turn p' := by
  cases turn with
  | surroundings event =>
    obtain ⟨s, hchange, rfl⟩ := next_surroundings_eq_some.1 hnext
    exact next_surroundings_eq_some.2 ⟨s, (if_neg havoids).trans hchange, rfl⟩
  | _ => exact hnext

/-- A run without these changes is a run of that system. -/
theorem reaches_avoiding {excluded : ε → Prop} [DecidablePred excluded]
    (h : Reaches (Guarded (Avoids excluded) P.Step) p p') : Reaches (P.avoiding excluded).Step p p' :=
  Relation.ReflTransGen.mono
    (fun _ _ hstep => hstep.imp (fun _ hturn => step_avoiding hturn.1 hturn.2)) _ _ h

/-- The same for a run whose steps meet a condition. -/
theorem reaches_onStep_avoiding {excluded : ε → Prop} [DecidablePred excluded]
    (h : Reaches (Guarded (fun p turn => onStep g p turn ∧ Avoids excluded p turn) P.Step) p p') :
    Reaches (Guarded (onStep g) (P.avoiding excluded).Step) p p' :=
  Relation.ReflTransGen.mono
    (fun _ _ hstep => hstep.imp
      (fun _ hturn => ⟨hturn.1.1, step_avoiding hturn.1.2 hturn.2⟩)) _ _ h

/-! ## Termination -/

/-- What is left of the shared state and of the threads. -/
def work (shared : σ → Nat) (rank : τ → Nat) (p : Pool σ τ) : Nat :=
  shared p.shared + (p.threads.map rank).sum

theorem sum_map_set (rank : τ → Nat) {threads : List τ} {i : Nat} {t : τ} (h : threads[i]? = some t)
    (t' : τ) : ((threads.set i t').map rank).sum + rank t = (threads.map rank).sum + rank t' := by
  induction threads generalizing i with
  | nil => simp at h
  | cons u threads ih =>
    cases i with
    | zero =>
      obtain rfl : u = t := by simpa using h
      simp only [List.set_cons_zero, List.map_cons, List.sum_cons]
      omega
    | succ i =>
      have hrest := ih (by simpa using h)
      simp only [List.set_cons_succ, List.map_cons, List.sum_cons]
      omega

/-- A step that leaves less of the shared state and its thread together leaves less
    of the pool. -/
theorem work_lt {shared : σ → Nat} {rank : τ → Nat} {i : Nat} {t t' : τ} {s' : σ}
    (ht : p.threads[i]? = some t) (h : shared s' + rank t' < shared p.shared + rank t) :
    work shared rank ⟨s', p.threads.set i t'⟩ < work shared rank p := by
  have hsum := sum_map_set rank ht t'
  simp only [work]
  omega

/-! ## Executing a list of turns -/

section Exec

variable [∀ i s t outcome, Decidable (g i s t outcome)]

/-- Whether a turn meets a condition on the steps of the threads. -/
def allows (g : Nat → σ → τ → α → Prop) [∀ i s t outcome, Decidable (g i s t outcome)]
    (p : Pool σ τ) : Turn ι α ε → Bool
  | .step i outcome => p.threads[i]?.all (fun t => decide (g i p.shared t outcome))
  | _ => true

theorem onStep_of_allows {turn : Turn ι α ε} (h : allows g p turn = true) : onStep g p turn := by
  rintro i outcome t rfl ht
  simpa [allows, ht] using h

theorem allows_iff {turn : Turn ι α ε} : allows g p turn = true ↔ onStep g p turn := by
  refine ⟨onStep_of_allows, fun h => ?_⟩
  cases turn with
  | step i outcome =>
    refine Option.all_eq_true _ _ |>.2 (fun t ht => ?_)
    exact decide_eq_true (h i outcome t rfl ht)
  | _ => rfl

instance (turn : Turn ι α ε) : Decidable (onStep g p turn) :=
  decidable_of_iff (allows g p turn = true) allows_iff

@[simp] theorem allows_anyStep {turn : Turn ι α ε} : allows anyStep p turn = true := by
  cases turn with
  | step i outcome =>
    refine Option.all_eq_true _ _ |>.2 (fun t _ => ?_)
    exact decide_eq_true trivial
  | _ => rfl

/-- The pool after a list of turns, when all of them are possible and meet the
    condition. -/
def exec (P : Concurrent σ τ ι α ε) (g : Nat → σ → τ → α → Prop)
    [∀ i s t outcome, Decidable (g i s t outcome)] : List (Turn ι α ε) → Pool σ τ → Option (Pool σ τ)
  | [], p => some p
  | turn :: turns, p => if allows g p turn then (P.next p turn).bind (exec P g turns) else none

theorem reaches_of_exec {turns : List (Turn ι α ε)} (h : P.exec g turns p = some p') :
    Reaches (Guarded (onStep g) P.Step) p p' := by
  induction turns generalizing p with
  | nil =>
    cases h
    exact Reaches.refl
  | cons turn turns ih =>
    rw [exec] at h
    split at h
    · rename_i hallowed
      obtain ⟨p₁, hnext, hrest⟩ := Option.bind_eq_some_iff.1 h
      exact Relation.ReflTransGen.head ⟨turn, onStep_of_allows hallowed, hnext⟩ (ih hrest)
    · cases h

/-- The turns of an execution are a guarded run that ends in its pool. -/
theorem run_of_exec {turns : List (Turn ι α ε)} (h : P.exec g turns p = some p') :
    ∃ tr, Run (Guarded (onStep g) P.Step) p tr ∧ tr.map Prod.fst = turns ∧ p' ∈ Run.states p tr := by
  induction turns generalizing p with
  | nil =>
    cases h
    exact ⟨[], Run.nil, rfl, Run.start_mem_states⟩
  | cons turn turns ih =>
    rw [exec] at h
    split at h
    · rename_i hallowed
      obtain ⟨p₁, hnext, hrest⟩ := Option.bind_eq_some_iff.1 h
      obtain ⟨tr, hrun, hturns, hmem⟩ := ih hrest
      refine ⟨(turn, p₁) :: tr, Run.cons ⟨onStep_of_allows hallowed, hnext⟩ hrun, ?_, ?_⟩
      · rw [List.map_cons, hturns]
      · rw [Run.states_cons]
        exact List.mem_cons_of_mem _ hmem
    · cases h

/-- The turns of an execution are a guarded run to its pool. -/
theorem exists_run_of_exec {turns : List (Turn ι α ε)} (h : P.exec g turns p = some p') :
    ∃ tr, Run (Guarded (onStep g) P.Step) p tr ∧ Run.last p tr = p' := by
  induction turns generalizing p with
  | nil =>
    cases h
    exact ⟨[], Run.nil, rfl⟩
  | cons turn turns ih =>
    rw [exec] at h
    split at h
    · rename_i hallowed
      obtain ⟨p₁, hnext, hrest⟩ := Option.bind_eq_some_iff.1 h
      obtain ⟨tr, hrun, hlast⟩ := ih hrest
      exact ⟨(turn, p₁) :: tr, Run.cons ⟨onStep_of_allows hallowed, hnext⟩ hrun, hlast⟩
    · cases h

end Exec

/-- The pool after a list of turns, when all of them are possible and meet a guard. -/
def execGuarded (P : Concurrent σ τ ι α ε) (G : Guard (Pool σ τ) (Turn ι α ε))
    [∀ p turn, Decidable (G p turn)] : List (Turn ι α ε) → Pool σ τ → Option (Pool σ τ)
  | [], p => some p
  | turn :: turns, p => if G p turn then (P.next p turn).bind (execGuarded P G turns) else none

theorem reaches_of_execGuarded {G : Guard (Pool σ τ) (Turn ι α ε)} [∀ p turn, Decidable (G p turn)]
    {turns : List (Turn ι α ε)} (h : P.execGuarded G turns p = some p') :
    Reaches (Guarded G P.Step) p p' := by
  induction turns generalizing p with
  | nil =>
    cases h
    exact Reaches.refl
  | cons turn turns ih =>
    rw [execGuarded] at h
    split at h
    · rename_i hG
      obtain ⟨p₁, hnext, hrest⟩ := Option.bind_eq_some_iff.1 h
      exact Relation.ReflTransGen.head ⟨turn, hG, hnext⟩ (ih hrest)
    · cases h

end Concurrent

/-! ## The versions of a value

What a thread read is one of the versions since some moment, and stays so. -/

section Versions

variable {versions versions' : List α} {version : α} {since : Nat}

theorem mem_drop_of_prefix (h : versions <+: versions') (hmem : version ∈ versions.drop since) :
    version ∈ versions'.drop since := by
  obtain ⟨rest, rfl⟩ := h
  exact List.drop_append ▸ List.mem_append_left _ hmem

/-- The last version is one of those since any moment before it. -/
theorem mem_drop_of_current (h : ∃ earlier, versions = earlier ++ [version])
    (hlt : since < versions.length) : version ∈ versions.drop since := by
  obtain ⟨earlier, rfl⟩ := h
  rw [List.length_append, List.length_singleton] at hlt
  rw [List.drop_append_of_le_length (Nat.le_of_lt_succ hlt)]
  exact List.mem_append_right _ List.mem_cons_self

end Versions

end Library
