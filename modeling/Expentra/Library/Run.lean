-- SUMMARY: Labelled transition relations: reachability, guarded steps, runs, and the rules that lift one step to a run.
import Mathlib.Algebra.Order.Ring.Int
import Mathlib.Data.List.Basic
import Mathlib.Logic.Relation

/-!
# Runs of a labelled transition relation

A transition relation `R : σ → α → σ → Prop` relates a state, a label and the
state after it. `Reaches R` is reachability, `Guarded G R` keeps the steps that
satisfy a guard on the state before the step and its label, and `Run R` keeps
every intermediate state of a run, so that a property of all states of a run can
be compared with a property of all its steps.
-/

namespace Library

universe u v

variable {σ : Type u} {α : Type v}

/-- A state and the label of the step taken in it. -/
abbrev Guard (σ : Type u) (α : Type v) := σ → α → Prop

/-- The steps of `R` whose label meets the guard in the state before the step. -/
def Guarded (G : Guard σ α) (R : σ → α → σ → Prop) : σ → α → σ → Prop :=
  fun s a s' => G s a ∧ R s a s'

/-- `s'` is reached from `s` by steps of `R`. -/
def Reaches (R : σ → α → σ → Prop) : σ → σ → Prop :=
  Relation.ReflTransGen (fun s s' => ∃ a, R s a s')

namespace Reaches

variable {R : σ → α → σ → Prop} {G : Guard σ α} {s s' s'' : σ}

theorem refl : Reaches R s s := Relation.ReflTransGen.refl

theorem tail {a : α} (h : Reaches R s s') (hstep : R s' a s'') : Reaches R s s'' :=
  Relation.ReflTransGen.tail h ⟨a, hstep⟩

/-- A guarded run is a run. -/
theorem of_guarded (h : Reaches (Guarded G R) s s') : Reaches R s s' :=
  Relation.ReflTransGen.mono (fun _ _ ⟨a, ha⟩ => ⟨a, ha.2⟩) _ _ h

/-- The invariant rule: what holds at the start and is kept by every step holds
    in every state reached. -/
theorem invariant {P : σ → Prop} (hstep : ∀ s a s', P s → R s a s' → P s')
    (hs : P s) (h : Reaches R s s') : P s' := by
  induction h with
  | refl => exact hs
  | tail _ hab ih =>
    obtain ⟨a, ha⟩ := hab
    exact hstep _ a _ ih ha

/-- A property of two states that every step keeps with respect to the start. -/
theorem relates {P : σ → σ → Prop} (hrefl : ∀ s, P s s)
    (hstep : ∀ s₀ s a s', P s₀ s → R s a s' → P s₀ s') (h : Reaches R s s') : P s s' :=
  invariant (P := P s) (fun s₁ a s₂ h₁ hR => hstep s s₁ a s₂ h₁ hR) (hrefl s) h

end Reaches

/-- The runs of `R` from a state: every step with its label and the state it
    leads to. -/
inductive Run (R : σ → α → σ → Prop) : σ → List (α × σ) → Prop where
  | nil {s : σ} : Run R s []
  | cons {s s' : σ} {a : α} {rest : List (α × σ)} :
      R s a s' → Run R s' rest → Run R s ((a, s') :: rest)

namespace Run

variable {R : σ → α → σ → Prop} {s : σ} {tr : List (α × σ)}

/-- Every state a run passes through, the start included. -/
def states (s : σ) (tr : List (α × σ)) : List σ := s :: tr.map Prod.snd

/-- Every step of a run as the state it is taken in and its label. -/
def steps : σ → List (α × σ) → List (σ × α)
  | _, [] => []
  | s, (a, s') :: rest => (s, a) :: steps s' rest

@[simp] theorem states_cons (a : α) (s' : σ) (rest : List (α × σ)) :
    states s ((a, s') :: rest) = s :: states s' rest := rfl

@[simp] theorem states_nil : states s ([] : List (α × σ)) = [s] := rfl

@[simp] theorem steps_cons (a : α) (s' : σ) (rest : List (α × σ)) :
    steps s ((a, s') :: rest) = (s, a) :: steps s' rest := rfl

@[simp] theorem steps_nil : steps s ([] : List (α × σ)) = [] := rfl

/-- Every step of a run as the state before, the label and the state after. -/
def transitions : σ → List (α × σ) → List (σ × α × σ)
  | _, [] => []
  | s, (a, s') :: rest => (s, a, s') :: transitions s' rest

/-- The transitions of a run are steps, each from a state the run has reached. -/
theorem of_mem_transitions (h : Run R s tr) {t t' : σ} {a : α} (hmem : (t, a, t') ∈ transitions s tr) :
    Reaches R s t ∧ R t a t' := by
  induction h with
  | nil => simp [transitions] at hmem
  | @cons s s₁ b rest hstep _ ih =>
    rw [transitions, List.mem_cons] at hmem
    rcases hmem with heq | hmem
    · cases heq
      exact ⟨Reaches.refl, hstep⟩
    · obtain ⟨hreach, hR⟩ := ih hmem
      exact ⟨Relation.ReflTransGen.head ⟨b, hstep⟩ hreach, hR⟩

/-- A guarded run is a run. -/
theorem of_guarded {G : Guard σ α} (h : Run (Guarded G R) s tr) : Run R s tr := by
  induction h with
  | nil => exact nil
  | cons hstep _ ih => exact cons hstep.2 ih

/-- The run of a function over a list of labels. -/
def trace (f : σ → α → σ) : σ → List α → List (α × σ)
  | _, [] => []
  | s, a :: labels => (a, f s a) :: trace f (f s a) labels

theorem run_trace (f : σ → α → σ) (s : σ) (labels : List α) :
    Run (fun s a s' => s' = f s a) s (trace f s labels) := by
  induction labels generalizing s with
  | nil => exact nil
  | cons a labels ih => exact cons rfl (ih _)

theorem map_fst_trace (f : σ → α → σ) (s : σ) (labels : List α) :
    (trace f s labels).map Prod.fst = labels := by
  induction labels generalizing s with
  | nil => rfl
  | cons a labels ih => rw [trace, List.map_cons, ih]

theorem start_mem_states : s ∈ states s tr := List.mem_cons_self

/-- Every state a run passes through is reached from its start. -/
theorem reaches (h : Run R s tr) {t : σ} (ht : t ∈ states s tr) : Reaches R s t := by
  induction h with
  | nil =>
    rw [states_nil, List.mem_singleton] at ht
    exact ht ▸ Reaches.refl
  | cons hstep _ ih =>
    rw [states_cons, List.mem_cons] at ht
    rcases ht with rfl | ht
    · exact Reaches.refl
    · exact Relation.ReflTransGen.head ⟨_, hstep⟩ (ih ht)

/-- The state a run ends in. -/
def last : σ → List (α × σ) → σ
  | s, [] => s
  | _, (_, s') :: rest => last s' rest

@[simp] theorem last_nil : last s ([] : List (α × σ)) = s := rfl

@[simp] theorem last_cons (a : α) (s' : σ) (rest : List (α × σ)) :
    last s ((a, s') :: rest) = last s' rest := rfl

theorem last_append (s : σ) (before after : List (α × σ)) :
    last s (before ++ after) = last (last s before) after := by
  induction before generalizing s with
  | nil => rfl
  | cons step before ih => exact ih step.2

theorem steps_append (s : σ) (before after : List (α × σ)) :
    steps s (before ++ after) = steps s before ++ steps (last s before) after := by
  induction before generalizing s with
  | nil => rfl
  | cons step before ih =>
    rw [List.cons_append, steps, ih step.2, steps, List.cons_append]
    rfl

/-- A run in two parts. -/
theorem append_iff {before after : List (α × σ)} :
    Run R s (before ++ after) ↔ Run R s before ∧ Run R (last s before) after := by
  induction before generalizing s with
  | nil => exact ⟨fun h => ⟨nil, h⟩, fun h => h.2⟩
  | cons step before ih =>
    constructor
    · rintro (_ | ⟨hstep, hrest⟩)
      exact ⟨cons hstep (ih.1 hrest).1, (ih.1 hrest).2⟩
    · rintro ⟨_ | ⟨hstep, hbefore⟩, hafter⟩
      exact cons hstep (ih.2 ⟨hbefore, hafter⟩)

/-- A run whose steps all meet a guard. -/
theorem guarded {G : Guard σ α} (h : Run R s tr) (hG : ∀ p ∈ steps s tr, G p.1 p.2) :
    Run (Guarded G R) s tr := by
  induction h with
  | nil => exact nil
  | cons hstep _ ih =>
    rw [steps_cons, List.forall_mem_cons] at hG
    exact cons ⟨hG.1, hstep⟩ (ih hG.2)

/-- What every step keeps holds at the end. -/
theorem last_induction {P : σ → Prop} (hstep : ∀ s a s', P s → R s a s' → P s') (h : Run R s tr)
    (hs : P s) : P (last s tr) := by
  induction h with
  | nil => exact hs
  | cons hR _ ih => exact ih (hstep _ _ _ hs hR)

/-- A quantity changes over a run by the sum of what its steps add. -/
theorem last_eq_add_sum (f : σ → Int) (s : σ) (tr : List (α × σ)) :
    f (last s tr) = f s + ((transitions s tr).map (fun step => f step.2.2 - f step.1)).sum := by
  induction tr generalizing s with
  | nil => simp [last, transitions]
  | cons step rest ih =>
    obtain ⟨a, s'⟩ := step
    rw [last, transitions, List.map_cons, List.sum_cons, ih s']
    dsimp only
    omega

/-- When a property is kept by exactly the steps that meet a condition, and an
    auxiliary invariant holds along the way, the property holds in every state
    of a run if and only if every step of the run meets the condition. -/
theorem forall_states_iff {I P : σ → Prop} {C : Guard σ α}
    (hI : ∀ s a s', I s → R s a s' → I s')
    (hP : ∀ s a s', I s → P s → R s a s' → (P s' ↔ C s a))
    (hIs : I s) (hPs : P s) (h : Run R s tr) :
    (∀ t ∈ states s tr, P t) ↔ ∀ p ∈ steps s tr, C p.1 p.2 := by
  induction h with
  | nil => simpa using hPs
  | @cons s s' a rest hstep _ ih =>
    have hiff := hP s a s' hIs hPs hstep
    have hI' := hI s a s' hIs hstep
    simp only [states_cons, steps_cons, List.forall_mem_cons]
    constructor
    · rintro ⟨_, hrest⟩
      have hPs' : P s' := hrest s' start_mem_states
      exact ⟨hiff.1 hPs', (ih hI' hPs').1 hrest⟩
    · rintro ⟨hC, hrest⟩
      have hPs' : P s' := hiff.2 hC
      exact ⟨hPs, (ih hI' hPs').2 hrest⟩

end Run

end Library
