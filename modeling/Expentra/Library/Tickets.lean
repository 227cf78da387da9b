-- SUMMARY: Interleaved threads that hold tickets of which no other thread holds the same, and the rule for invariants that rest on it.
import Expentra.Library.Interleaving

/-!
# Tickets

A thread may hold a ticket: the number of an attempt, the key of a row it wrote. It takes
one in a step that issues it, and a ticket that was issued once is not issued again. So no
two threads hold the same ticket, and what a thread does under its ticket interferes with no
other thread.
-/

namespace Library

universe u v w x

namespace Concurrent

variable {σ : Type u} {τ : Type v} {ι α ε : Type w} {κ : Type x}

section Definitions

variable (ticket : τ → Option κ) (Issued : σ → κ → Prop)

/-- Tickets that were issued stay issued. -/
def KeepsIssued (s s' : σ) : Prop := ∀ k, Issued s k → Issued s' k

/-- A thread has the ticket it held or one that was issued in this step. -/
def TakesTicket (s s' : σ) (held : Option κ) (t' : τ) : Prop :=
  ∀ k, ticket t' = some k → held = some k ∨ (¬ Issued s k ∧ Issued s' k)

/-- Another thread, whose ticket was issued and is not the one held. -/
def Apart (s : σ) (held : Option κ) (u : τ) : Prop :=
  ∀ k, ticket u = some k → Issued s k ∧ held ≠ some k

/-- The tickets held were issued, each to one thread. -/
structure Ticketed (p : Pool σ τ) : Prop where
  issued : ∀ (i : Nat) t k, p.threads[i]? = some t → ticket t = some k → Issued p.shared k
  single : ∀ (i j : Nat) t u k, p.threads[i]? = some t → p.threads[j]? = some u → ticket t = some k →
    ticket u = some k → i = j

/-- The proof obligations of an invariant that rests on tickets. -/
structure TicketOutline (P : Concurrent σ τ ι α ε) (I : σ → Prop) (J : Nat → σ → τ → Prop) :
    Prop where
  start : ∀ {s arrival s' t}, I s → P.start s arrival = some (s', t) →
    KeepsIssued Issued s s' ∧ TakesTicket ticket Issued s s' none t ∧
      I s' ∧ (∀ i, J i s' t) ∧ ∀ i u, J i s u → J i s' u
  step : ∀ {i s t outcome s' t'}, I s → J i s t → P.step i s t outcome = some (s', t') →
    KeepsIssued Issued s s' ∧ TakesTicket ticket Issued s s' (ticket t) t' ∧
      I s' ∧ J i s' t' ∧ ∀ j u, j ≠ i → Apart ticket Issued s (ticket t) u → J j s u → J j s' u
  surroundings : ∀ {s event s'}, I s → P.surroundings s event = some s' →
    KeepsIssued Issued s s' ∧ I s' ∧ ∀ i u, J i s u → J i s' u

end Definitions

variable {ticket : τ → Option κ} {Issued : σ → κ → Prop} {P : Concurrent σ τ ι α ε}
  {I : σ → Prop} {J : Nat → σ → τ → Prop} {p p' : Pool σ τ}

theorem ticketed_idle (s : σ) : Ticketed ticket Issued (Pool.idle s : Pool σ τ) :=
  ⟨fun i t k ht => by simp [Pool.idle] at ht, fun i j t u k ht => by simp [Pool.idle] at ht⟩

/-- What is known of a thread of the pool when another one takes a step. -/
theorem Ticketed.apart (h : Ticketed ticket Issued p) {i j : Nat} {t u : τ}
    (ht : p.threads[i]? = some t) (hu : p.threads[j]? = some u) (hne : j ≠ i) :
    Apart ticket Issued p.shared (ticket t) u :=
  fun k hk => ⟨h.issued j u k hu hk, fun htk => hne (h.single j i u t k hu ht hk htk)⟩

/-- A thread of a pool with one more thread. -/
theorem getElem?_append_singleton {threads : List τ} {t u : τ} {i : Nat}
    (h : (threads ++ [t])[i]? = some u) :
    threads[i]? = some u ∨ (i = threads.length ∧ u = t) := by
  rcases Nat.lt_or_ge i threads.length with hlt | hge
  · rw [List.getElem?_append_left hlt] at h
    exact .inl h
  · rw [List.getElem?_append_right hge, List.getElem?_singleton] at h
    split at h
    · next hzero =>
      cases h
      exact .inr ⟨by omega, rfl⟩
    · cases h

/-- A thread of a pool in which one thread took a step. -/
theorem getElem?_set_cases {threads : List τ} {t' u : τ} {i j : Nat}
    (h : (threads.set i t')[j]? = some u) :
    (j = i ∧ u = t') ∨ (j ≠ i ∧ threads[j]? = some u) := by
  rw [List.getElem?_set] at h
  split at h
  · next hij =>
    split at h
    · cases h
      exact .inl ⟨hij.symm, rfl⟩
    · cases h
  · next hij => exact .inr ⟨Ne.symm hij, h⟩

/-- A new thread holds no ticket that another one holds. -/
theorem Ticketed.start (h : Ticketed ticket Issued p) {s' : σ} {t : τ}
    (hkeeps : KeepsIssued Issued p.shared s') (htakes : TakesTicket ticket Issued p.shared s' none t) :
    Ticketed ticket Issued ⟨s', p.threads ++ [t]⟩ := by
  have hfresh : ∀ k, ticket t = some k → ¬ Issued p.shared k ∧ Issued s' k := by
    intro k hk
    rcases htakes k hk with hheld | hfresh
    · cases hheld
    · exact hfresh
  constructor
  · intro i u k hu hk
    rcases getElem?_append_singleton hu with hold | ⟨-, rfl⟩
    · exact hkeeps k (h.issued i u k hold hk)
    · exact (hfresh k hk).2
  · intro i j u v k hu hv huk hvk
    rcases getElem?_append_singleton hu with hold | ⟨rfl, rfl⟩
    · rcases getElem?_append_singleton hv with hold' | ⟨-, rfl⟩
      · exact h.single i j u v k hold hold' huk hvk
      · exact absurd (h.issued i u k hold huk) (hfresh k hvk).1
    · rcases getElem?_append_singleton hv with hold | ⟨rfl, -⟩
      · exact absurd (h.issued j v k hold hvk) (hfresh k huk).1
      · rfl

/-- A thread that takes a step holds afterwards no ticket that another one holds. -/
theorem Ticketed.step (h : Ticketed ticket Issued p) {i : Nat} {s' : σ} {t t' : τ}
    (ht : p.threads[i]? = some t) (hkeeps : KeepsIssued Issued p.shared s')
    (htakes : TakesTicket ticket Issued p.shared s' (ticket t) t') :
    Ticketed ticket Issued ⟨s', p.threads.set i t'⟩ := by
  have hother : ∀ {j u k}, p.threads[j]? = some u → ticket u = some k → ticket t' = some k → j = i := by
    intro j u k hu huk hk
    rcases htakes k hk with hheld | hfresh
    · exact h.single j i u t k hu ht huk hheld
    · exact absurd (h.issued j u k hu huk) hfresh.1
  constructor
  · intro j u k hu hk
    rcases getElem?_set_cases hu with ⟨-, rfl⟩ | ⟨-, hold⟩
    · rcases htakes k hk with hheld | hfresh
      · exact hkeeps k (h.issued i t k ht hheld)
      · exact hfresh.2
    · exact hkeeps k (h.issued j u k hold hk)
  · intro j l u v k hu hv huk hvk
    rcases getElem?_set_cases hu with ⟨rfl, rfl⟩ | ⟨-, hold⟩
    · rcases getElem?_set_cases hv with ⟨rfl, -⟩ | ⟨-, hold⟩
      · rfl
      · exact (hother hold hvk huk).symm
    · rcases getElem?_set_cases hv with ⟨rfl, rfl⟩ | ⟨-, hold'⟩
      · exact hother hold huk hvk
      · exact h.single j l u v k hold hold' huk hvk

/-- One turn keeps an invariant that has an outline, and the tickets apart. -/
theorem TicketOutline.next (h : TicketOutline ticket Issued P I J) (hp : Holds I J p)
    (ht : Ticketed ticket Issued p) {turn : Turn ι α ε} (hstep : P.Step p turn p') :
    Holds I J p' ∧ Ticketed ticket Issued p' := by
  cases turn with
  | start arrival =>
    obtain ⟨s, t, hstart, rfl⟩ := next_start_eq_some.1 hstep
    obtain ⟨hkeeps, htakes, hI, hnew, hothers⟩ := h.start hp.shared hstart
    refine ⟨⟨hI, fun i u hu => ?_⟩, ht.start hkeeps htakes⟩
    rcases getElem?_append_singleton hu with hold | ⟨-, rfl⟩
    · exact hothers i u (hp.thread i u hold)
    · exact hnew i
  | step i outcome =>
    obtain ⟨t, s, t', hi, hmove, rfl⟩ := next_step_eq_some.1 hstep
    obtain ⟨hkeeps, htakes, hI, hself, hothers⟩ := h.step hp.shared (hp.thread i t hi) hmove
    refine ⟨⟨hI, fun j u hu => ?_⟩, ht.step hi hkeeps htakes⟩
    rcases getElem?_set_cases hu with ⟨rfl, rfl⟩ | ⟨hne, hu⟩
    · exact hself
    · exact hothers j u hne (ht.apart hi hu hne) (hp.thread j u hu)
  | surroundings event =>
    obtain ⟨s, hchange, rfl⟩ := next_surroundings_eq_some.1 hstep
    obtain ⟨hkeeps, hI, hothers⟩ := h.surroundings hp.shared hchange
    exact ⟨⟨hI, fun i u hu => hothers i u (hp.thread i u hu)⟩,
      ⟨fun i t k hi hk => hkeeps k (ht.issued i t k hi hk), ht.single⟩⟩

/-- An invariant that has an outline holds in every pool a run reaches. -/
theorem TicketOutline.reaches (h : TicketOutline ticket Issued P I J) (hp : Holds I J p)
    (ht : Ticketed ticket Issued p) (hreach : Reaches P.Step p p') : Holds I J p' := by
  have hboth : Holds I J p' ∧ Ticketed ticket Issued p' :=
    @Reaches.invariant _ _ _ _ _ (fun q => Holds I J q ∧ Ticketed ticket Issued q)
      (fun _ _ _ hq hstep => h.next hq.1 hq.2 hstep) ⟨hp, ht⟩ hreach
  exact hboth.1

end Concurrent

end Library
