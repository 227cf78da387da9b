-- SUMMARY: A concurrent system with a history: what each thread was started with, and what its steps showed.
import Expentra.Library.Interleaving

/-!
# Histories

A property of a run may speak of what happened earlier, which the state need not
tell. A recorded system keeps, beside each thread, what the thread was started
with, and beside the shared state a log of what the steps showed. No step reads
them, so that its pools are those of the system with a history.
-/

namespace Library

universe u v w

/-- A thread and what it was started with. -/
structure Started (ι : Type w) (τ : Type v) where
  arrival : ι
  thread : τ

/-- A state and what was shown on the way to it, the oldest first. -/
structure Recorded (σ : Type u) (β : Type v) where
  state : σ
  log : List β

/-- What a turn starts, if anything. -/
def Turn.arrivals {ι α ε : Type w} : Turn ι α ε → List ι
  | .start arrival => [arrival]
  | .step .. => []
  | .surroundings _ => []

namespace Concurrent

variable {σ τ ι α ε β : Type u}

/-- `observe` is told the arrival of the thread that steps, and the thread before and
    after the step. -/
def recorded (P : Concurrent σ τ ι α ε) (observe : ι → τ → τ → Option β) :
    Concurrent (Recorded σ β) (Started ι τ) ι α ε where
  start s arrival := (P.start s.state arrival).map (fun r => (⟨r.1, s.log⟩, ⟨arrival, r.2⟩))
  step i s t outcome := (P.step i s.state t.thread outcome).map (fun r =>
    (⟨r.1, s.log ++ (observe t.arrival t.thread r.2).toList⟩, ⟨t.arrival, r.2⟩))
  surroundings s event := (P.surroundings s.state event).map (fun s' => ⟨s', s.log⟩)

/-- The pool without its history. -/
def erase (p : Pool (Recorded σ β) (Started ι τ)) : Pool σ τ :=
  ⟨p.shared.state, p.threads.map Started.thread⟩

variable {P : Concurrent σ τ ι α ε} {observe : ι → τ → τ → Option β}
  {p : Pool (Recorded σ β) (Started ι τ)}

/-- The history changes nothing: turns commute with its erasure. -/
theorem erase_next (observe : ι → τ → τ → Option β) (turn : Turn ι α ε) :
    ((P.recorded observe).next p turn).map erase = P.next (erase p) turn := by
  cases turn with
  | start arrival =>
    simp [next, recorded, erase, Function.comp_def]
  | step i outcome =>
    simp only [next, erase, List.getElem?_map]
    cases p.threads[i]? with
    | none => rfl
    | some t =>
      simp [recorded, erase, Function.comp_def, List.map_set]
  | surroundings event =>
    simp [next, recorded, erase, Function.comp_def]

/-- What the threads of a pool were started with. -/
def arrivals (p : Pool (Recorded σ β) (Started ι τ)) : List ι := p.threads.map Started.arrival

theorem arrivals_next {turn : Turn ι α ε} {p' : Pool (Recorded σ β) (Started ι τ)}
    (h : (P.recorded observe).next p turn = some p') :
    arrivals p' = arrivals p ++ turn.arrivals := by
  cases turn with
  | start arrival =>
    obtain ⟨s, t, hstart, rfl⟩ := next_start_eq_some.1 h
    obtain ⟨r, -, hr⟩ := Option.map_eq_some_iff.1 hstart
    cases hr
    exact List.map_append
  | step i outcome =>
    obtain ⟨t, s, t', ht, hstep, rfl⟩ := next_step_eq_some.1 h
    obtain ⟨r, -, hr⟩ := Option.map_eq_some_iff.1 hstep
    cases hr
    obtain ⟨hi, hget⟩ := List.getElem?_eq_some_iff.1 ht
    rw [Turn.arrivals, List.append_nil]
    refine List.ext_getElem? (fun j => ?_)
    rcases eq_or_ne i j with rfl | hij
    · simp [arrivals, hi, hget]
    · simp [arrivals, List.getElem?_set_ne hij]
  | surroundings event =>
    obtain ⟨s, hchange, rfl⟩ := next_surroundings_eq_some.1 h
    exact (List.append_nil _).symm

/-- What a turn shows is shown of an arrival. -/
theorem log_next {turn : Turn ι α ε} {p' : Pool (Recorded σ β) (Started ι τ)}
    (h : (P.recorded observe).next p turn = some p') :
    ∀ shown ∈ p'.shared.log, shown ∈ p.shared.log ∨
      ∃ arrival ∈ arrivals p, ∃ t t', observe arrival t t' = some shown := by
  cases turn with
  | start arrival =>
    obtain ⟨s, t, hstart, rfl⟩ := next_start_eq_some.1 h
    obtain ⟨r, -, hr⟩ := Option.map_eq_some_iff.1 hstart
    cases hr
    exact fun _ => .inl
  | step i outcome =>
    obtain ⟨t, s, t', ht, hstep, rfl⟩ := next_step_eq_some.1 h
    obtain ⟨r, -, hr⟩ := Option.map_eq_some_iff.1 hstep
    cases hr
    intro shown hshown
    rcases List.mem_append.1 hshown with hshown | hshown
    · exact .inl hshown
    · exact .inr ⟨t.arrival, List.mem_map_of_mem (List.mem_of_getElem? ht), t.thread, r.2,
        Option.mem_toList.1 hshown⟩
  | surroundings event =>
    obtain ⟨s, hchange, rfl⟩ := next_surroundings_eq_some.1 h
    obtain ⟨r, -, rfl⟩ := Option.map_eq_some_iff.1 hchange
    exact fun _ => .inl

/-- An execution starts its arrivals in their order. -/
theorem arrivals_of_exec {g : Nat → Recorded σ β → Started ι τ → α → Prop}
    [∀ i s t outcome, Decidable (g i s t outcome)] {turns : List (Turn ι α ε)}
    {p' : Pool (Recorded σ β) (Started ι τ)} (h : (P.recorded observe).exec g turns p = some p') :
    arrivals p' = arrivals p ++ turns.flatMap Turn.arrivals := by
  induction turns generalizing p with
  | nil =>
    cases h
    exact (List.append_nil _).symm
  | cons turn turns ih =>
    rw [exec] at h
    split at h
    · obtain ⟨p₁, hnext, hrest⟩ := Option.bind_eq_some_iff.1 h
      rw [ih hrest, arrivals_next hnext, List.flatMap_cons, List.append_assoc]
    · cases h

/-- Every pool a system reaches is one of the recorded system, without its history. -/
theorem exists_recorded {q : Pool σ τ} (h : Reaches P.Step (erase p) q) :
    ∃ p', Reaches (P.recorded observe).Step p p' ∧ erase p' = q := by
  induction h with
  | refl => exact ⟨p, Reaches.refl, rfl⟩
  | tail _ hstep ih =>
    obtain ⟨p₁, hreach, rfl⟩ := ih
    obtain ⟨turn, hnext⟩ := hstep
    rw [Concurrent.Step, ← erase_next observe, Option.map_eq_some_iff] at hnext
    obtain ⟨p', hnext, rfl⟩ := hnext
    exact ⟨p', hreach.tail hnext, rfl⟩

/-- And nothing else. -/
theorem reaches_erase {p' : Pool (Recorded σ β) (Started ι τ)}
    (h : Reaches (P.recorded observe).Step p p') : Reaches P.Step (erase p) (erase p') := by
  induction h with
  | refl => exact Reaches.refl
  | tail _ hstep ih =>
    obtain ⟨turn, hnext⟩ := hstep
    refine ih.tail (a := turn) ?_
    rw [Concurrent.Step, ← erase_next observe, hnext]
    rfl

end Concurrent

end Library
