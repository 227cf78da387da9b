-- SUMMARY: A key that is read and then deleted by a second step: when at most one thread takes it.
import Expentra.Library.Interleaving

/-!
# Taking a key

Each thread reads a key and deletes it by a later step; nobody writes it again. A thread
that found the key holds it until it deletes it, and has taken it from then on. Two
threads that hold the key at once both take it. If none finds the key while another holds
it, at most one takes it.
-/

namespace Library

universe u v w

/-- Where a thread is in taking the key. -/
inductive Stage where
  | waiting
  | holding
  | taken
  | ended
deriving DecidableEq

/-- A step of a thread, by its stage. The key is there `before` the step or `after` it, and
    `finds` says that a waiting thread finds the key if it is there. -/
def Stage.Moves (finds before after : Prop) : Stage → Stage → Prop
  | waiting, next => (after → before) ∧
      (next = waiting ∨ next = ended ∨ (next = holding ∧ finds ∧ before))
  | holding, next => ¬ after ∧ (next = taken ∨ next = ended)
  | taken, next => (after → before) ∧ (next = taken ∨ next = ended)
  | ended, next => (after → before) ∧ next = ended

variable {σ : Type u} {τ : Type v} {ι α ε : Type w}

/-- The steps of a system by the stages of its threads. -/
structure Taking (P : Concurrent σ τ ι α ε) (present : σ → Prop) (stage : τ → Stage)
    (finds : σ → τ → Prop) : Prop where
  start : ∀ {s arrival s' t}, P.start s arrival = some (s', t) →
    stage t = .waiting ∧ (present s' → present s)
  step : ∀ {i s t outcome s' t'}, P.step i s t outcome = some (s', t') →
    (stage t).Moves (finds s t) (present s) (present s') (stage t')
  surroundings : ∀ {s event s'}, P.surroundings s event = some s' → (present s' → present s)

namespace Taking

/-- No thread finds the key while another holds it. -/
def FindsAlone (stage : τ → Stage) (finds : σ → τ → Prop) : Guard (Pool σ τ) (Turn ι α ε) :=
  fun p turn =>
    match turn with
    | .step i _ => ∀ t ∈ p.threads[i]?, stage t = .waiting → finds p.shared t →
        ∀ u ∈ p.threads, stage u ≠ .holding
    | _ => True

instance {stage : τ → Stage} {finds : σ → τ → Prop} [∀ s t, Decidable (finds s t)]
    (p : Pool σ τ) (turn : Turn ι α ε) : Decidable (FindsAlone stage finds p turn) := by
  unfold FindsAlone
  cases turn <;> infer_instance

/-- At most one thread has found the key, and it is gone once one has taken it. -/
structure Exclusive (present : σ → Prop) (stage : τ → Stage) (p : Pool σ τ) : Prop where
  one : ∀ {i j : Nat} {t u : τ}, p.threads[i]? = some t → p.threads[j]? = some u →
    stage t = .holding ∨ stage t = .taken → stage u = .holding ∨ stage u = .taken → i = j
  gone : ∀ {i : Nat} {t : τ}, p.threads[i]? = some t → stage t = .taken → ¬ present p.shared

variable {P : Concurrent σ τ ι α ε} {present : σ → Prop} {stage : τ → Stage}
  {finds : σ → τ → Prop} {p p' : Pool σ τ}

theorem exclusive_idle {s : σ} : Exclusive present stage (Pool.idle s : Pool σ τ) :=
  ⟨fun ht => by simp [Pool.idle] at ht, fun ht => by simp [Pool.idle] at ht⟩

/-- Threads that do not have the key come and go. -/
theorem Exclusive.of_threads (hp : Exclusive present stage p)
    (hthreads : ∀ {i : Nat} {t : τ}, p'.threads[i]? = some t → stage t = .holding ∨ stage t = .taken →
      ∃ u, p.threads[i]? = some u ∧ (stage u = .holding ∨ stage u = .taken))
    (hgone : ∀ {i : Nat} {t : τ}, p'.threads[i]? = some t → stage t = .taken → ¬ present p'.shared) :
    Exclusive present stage p' where
  one := by
    intro i j t u ht hu hstage hstage'
    obtain ⟨t₀, ht₀, h₀⟩ := hthreads ht hstage
    obtain ⟨u₀, hu₀, h₁⟩ := hthreads hu hstage'
    exact hp.one ht₀ hu₀ h₀ h₁
  gone := hgone

theorem getElem?_set_cases {threads : List τ} {i j : Nat} {t' u : τ}
    (hu : (threads.set i t')[j]? = some u) : (j = i ∧ u = t') ∨ (j ≠ i ∧ threads[j]? = some u) := by
  rw [List.getElem?_set] at hu
  split at hu
  · rename_i hij
    split at hu
    · cases hu
      exact .inl ⟨hij.symm, rfl⟩
    · cases hu
  · rename_i hij
    exact .inr ⟨Ne.symm hij, hu⟩

/-- A thread that starts waits. -/
theorem Exclusive.start (h : Taking P present stage finds) (hp : Exclusive present stage p)
    {arrival : ι} (hstep : P.Step p (.start arrival) p') : Exclusive present stage p' := by
  obtain ⟨s, t, hstart, rfl⟩ := Concurrent.next_start_eq_some.1 hstep
  obtain ⟨hwaiting, hmono⟩ := h.start hstart
  have hold : ∀ {i : Nat} {u : τ}, (p.threads ++ [t])[i]? = some u → stage u ≠ .waiting →
      p.threads[i]? = some u := by
    intro i u hu hne
    rcases Nat.lt_or_ge i p.threads.length with hlt | hge
    · rwa [List.getElem?_append_left hlt] at hu
    · rw [List.getElem?_append_right hge, List.getElem?_singleton] at hu
      split at hu
      · cases hu
        exact absurd hwaiting hne
      · cases hu
  refine hp.of_threads (fun hu hstage => ⟨_, hold hu ?_, hstage⟩)
    (fun hu hstage hpresent => hp.gone (hold hu (by simp [hstage])) hstage (hmono hpresent))
  rcases hstage with hstage | hstage <;> simp [hstage]

/-- A thread finds the key: nobody holds it, and nobody has taken it, for it is there. -/
theorem Exclusive.found (hp : Exclusive present stage p) {i : Nat} {t' : τ} {s : σ}
    (hfound : stage t' = .holding) (hpresent : present p.shared)
    (halone : ∀ u ∈ p.threads, stage u ≠ .holding) :
    Exclusive present stage ⟨s, p.threads.set i t'⟩ := by
  have hnone : ∀ {j : Nat} {u : τ}, p.threads[j]? = some u →
      ¬ (stage u = .holding ∨ stage u = .taken) :=
    fun hu hhas => hhas.elim (halone _ (List.mem_of_getElem? hu))
      (fun htaken => hp.gone hu htaken hpresent)
  constructor
  · intro j k u v hu hv hhas hhas'
    rcases getElem?_set_cases hu with ⟨rfl, -⟩ | ⟨-, hu⟩
    · rcases getElem?_set_cases hv with ⟨rfl, -⟩ | ⟨-, hv⟩
      · rfl
      · exact absurd hhas' (hnone hv)
    · exact absurd hhas (hnone hu)
  · intro j u hu htaken
    rcases getElem?_set_cases hu with ⟨-, rfl⟩ | ⟨-, hu⟩
    · cases hfound.symm.trans htaken
    · exact absurd (.inr htaken) (hnone hu)

/-- A step to a stage without the key, after which the key is not there anew. -/
theorem Exclusive.without (hp : Exclusive present stage p) {i : Nat} {t' : τ} {s : σ}
    (hnot : ¬ (stage t' = .holding ∨ stage t' = .taken)) (hmono : present s → present p.shared) :
    Exclusive present stage ⟨s, p.threads.set i t'⟩ := by
  refine hp.of_threads (fun hu hhas => ?_) (fun hu htaken hpresent => ?_)
  · rcases getElem?_set_cases hu with ⟨-, rfl⟩ | ⟨-, hu⟩
    · exact absurd hhas hnot
    · exact ⟨_, hu, hhas⟩
  · rcases getElem?_set_cases hu with ⟨-, rfl⟩ | ⟨-, hu⟩
    · exact hnot (.inr htaken)
    · exact hp.gone hu htaken (hmono hpresent)

/-- A step of the thread that has the key, after which the key is not there. -/
theorem Exclusive.within (hp : Exclusive present stage p) {i : Nat} {t t' : τ} {s : σ}
    (ht : p.threads[i]? = some t) (hstage : stage t = .holding ∨ stage t = .taken)
    (hgone : ¬ present s) : Exclusive present stage ⟨s, p.threads.set i t'⟩ := by
  refine hp.of_threads (fun hu hhas => ?_) (fun _ _ => hgone)
  rcases getElem?_set_cases hu with ⟨rfl, rfl⟩ | ⟨-, hu⟩
  · exact ⟨t, ht, hstage⟩
  · exact ⟨_, hu, hhas⟩

/-- One turn. The case that matters is a thread that finds the key. -/
theorem exclusive_next (h : Taking P present stage finds) (hp : Exclusive present stage p)
    {turn : Turn ι α ε} (hguard : FindsAlone stage finds p turn) (hstep : P.Step p turn p') :
    Exclusive present stage p' := by
  cases turn with
  | start arrival => exact hp.start h hstep
  | surroundings event =>
    obtain ⟨s, hchange, rfl⟩ := Concurrent.next_surroundings_eq_some.1 hstep
    exact hp.of_threads (fun hu hstage => ⟨_, hu, hstage⟩)
      (fun hu hstage hpresent => hp.gone hu hstage (h.surroundings hchange hpresent))
  | step i outcome =>
    obtain ⟨t, s, t', ht, hmove, rfl⟩ := Concurrent.next_step_eq_some.1 hstep
    have hmoves := h.step hmove
    cases hstage : stage t with
    | waiting =>
      rw [hstage] at hmoves
      obtain ⟨hmono, hwaiting | hended | ⟨hfound, hfinds, hpresent⟩⟩ := hmoves
      · exact hp.without (by simp [hwaiting]) hmono
      · exact hp.without (by simp [hended]) hmono
      · exact hp.found hfound hpresent (hguard t ht hstage hfinds)
    | holding =>
      rw [hstage] at hmoves
      exact hp.within ht (.inl hstage) hmoves.1
    | taken =>
      rw [hstage] at hmoves
      exact hp.within ht (.inr hstage) (fun hpresent => hp.gone ht hstage (hmoves.1 hpresent))
    | ended =>
      rw [hstage] at hmoves
      obtain ⟨hmono, hover⟩ := hmoves
      exact hp.without (by simp [hover]) hmono

/-- In a run in which the key is found by one thread at a time, at most one takes it. -/
theorem at_most_one (h : Taking P present stage finds) {s : σ}
    (hreach : Reaches (Guarded (FindsAlone stage finds) P.Step) (Pool.idle s) p) {i j : Nat} {t u : τ}
    (ht : p.threads[i]? = some t) (hu : p.threads[j]? = some u) (hstage : stage t = .taken)
    (hstage' : stage u = .taken) : i = j := by
  have hp : Exclusive present stage p := Reaches.invariant (P := Exclusive present stage)
    (fun _ _ _ hp hstep => exclusive_next h hp hstep.1 hstep.2) exclusive_idle hreach
  exact hp.one ht hu (.inr hstage) (.inr hstage')

end Taking

end Library
