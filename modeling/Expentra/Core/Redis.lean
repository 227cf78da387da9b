-- SUMMARY: The Redis commands the services use: GET, SET, SET NX and DEL over a store of keys.
import Mathlib.Logic.Function.Basic

/-!
# Redis

A store maps a key to its value, if it has one. Each operation is one command of
the server and atomic. A key whose time to live has passed is gone, as after
`del`.
-/

namespace Expentra

/-- The keys of one kind and their values. -/
abbrev Redis (κ ν : Type) := κ → Option ν

namespace Redis

variable {κ ν : Type} [DecidableEq κ]

/-- `SET key value EX ttl` -/
def setCache (store : Redis κ ν) (key : κ) (value : ν) : Redis κ ν :=
  Function.update store key (some value)

/-- `DEL key` -/
def del (store : Redis κ ν) (key : κ) : Redis κ ν := Function.update store key none

/-- `SET key value EX ttl NX`: whether the key was set, and the store. -/
def setIfNotExists (store : Redis κ ν) (key : κ) (value : ν) : Bool × Redis κ ν :=
  match store key with
  | some _ => (false, store)
  | none => (true, store.setCache key value)

/-- `delByPattern`, when nothing else runs: every key the pattern matches is gone. -/
def delByPattern {κ ν : Type} (store : Redis κ ν) (matched : κ → Bool) : Redis κ ν := fun key =>
  if matched key then none else store key

variable {store : Redis κ ν} {key k : κ} {value : ν}

@[simp] theorem setCache_self : store.setCache key value key = some value :=
  Function.update_self ..

theorem setCache_of_ne (h : k ≠ key) : store.setCache key value k = store k :=
  Function.update_of_ne h ..

@[simp] theorem del_self : store.del key key = none := Function.update_self ..

theorem del_of_ne (h : k ≠ key) : store.del key k = store k := Function.update_of_ne h ..

/-- A key that exists is not set again. -/
theorem setIfNotExists_of_some (h : store key ≠ none) :
    store.setIfNotExists key value = (false, store) := by
  unfold setIfNotExists
  split
  · rfl
  · rename_i hnone
    exact absurd hnone h

/-- A key that does not exist is set. -/
theorem setIfNotExists_of_none (h : store key = none) :
    store.setIfNotExists key value = (true, store.setCache key value) := by
  unfold setIfNotExists
  rw [h]

/-- `SET NX` removes no key. -/
theorem setIfNotExists_ne_none (h : store k ≠ none) :
    (store.setIfNotExists key value).2 k ≠ none := by
  unfold setIfNotExists
  split
  · exact h
  · by_cases hk : k = key
    · subst hk
      simp
    · simpa [setCache_of_ne hk] using h

end Redis

end Expentra
