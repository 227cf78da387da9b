-- SUMMARY: Caches of derived values: coherence with the source, and the rules for invalidations and fills.
import Mathlib.Logic.Function.Basic

/-!
# Caches

A cache holds values for some keys that were derived from a source. It is coherent
when every value it holds is the one the source yields now. A change of the source
keeps it coherent if and only if the keys that are still held did not change, which is
what invalidations are for; a fill with the value of the source keeps it so, and so
does forgetting a key.
-/

namespace Library

universe u v

variable {κ : Type u} {ν : Type v} {cache cache' source source' : κ → Option ν}

/-- Every value of the cache is the one its source yields. -/
def Coherent (cache source : κ → Option ν) : Prop :=
  ∀ k v, cache k = some v → source k = some v

namespace Coherent

theorem empty : Coherent (fun _ => none) source := nofun

/-- Keys may be forgotten, as long as those that are held keep their values and the
    source did not change them; and only so. -/
theorem invalidate_iff (h : Coherent cache source)
    (hheld : ∀ k v, cache' k = some v → cache k = some v) :
    Coherent cache' source' ↔ ∀ k v, cache' k = some v → source' k = source k := by
  constructor
  · intro h' k v hk
    exact (h' k v hk).trans (h k v (hheld k v hk)).symm
  · intro hsame k v hk
    exact (hsame k v hk).trans (h k v (hheld k v hk))

/-- The rule of invalidation. -/
theorem invalidate (h : Coherent cache source)
    (hheld : ∀ k v, cache' k = some v → cache k = some v)
    (hsame : ∀ k v, cache' k = some v → source' k = source k) : Coherent cache' source' :=
  (h.invalidate_iff hheld).2 hsame

/-- A key is filled with the value of its source. -/
theorem fill [DecidableEq κ] (h : Coherent cache source) {k : κ} {v : ν} (hv : source k = some v) :
    Coherent (Function.update cache k (some v)) source := by
  intro k' v' hk'
  by_cases heq : k' = k
  · subst heq
    rw [Function.update_self] at hk'
    cases hk'
    exact hv
  · rw [Function.update_of_ne heq] at hk'
    exact h k' v' hk'

end Coherent

end Library
