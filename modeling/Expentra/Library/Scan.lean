-- SUMMARY: Iterations over a set of keys that changes meanwhile: which keys an iteration has to return, and what deleting them leaves.
import Mathlib.Data.List.Basic

/-!
# Iterations with a cursor

An iteration over the keys of a store returns them in several replies, while keys are
written and deleted. It returns every key that was there from its start to its end, and may
or may not return the others. The history of writes says which keys were there all along:
those that are there and were written before the iteration began, and not since.

A loop that deletes what each reply returns has deleted, at its end, every key that
nobody wrote meanwhile.
-/

namespace Library

universe u

variable {κ : Type u}

/-- One reply: some keys, and whether it is the last. -/
structure ScanReply (κ : Type u) where
  keys : List κ
  last : Bool
deriving DecidableEq

/-- A reply of an iteration over the keys that match, `since` that many writes. What an
    earlier reply returned is deleted, so that the last one has to return what is left. -/
def ScanReply.Answers (matched stored : κ → Prop) (written : List κ) (since : Nat)
    (reply : ScanReply κ) : Prop :=
  (∀ k ∈ reply.keys, matched k) ∧ (reply.last = true → ∀ k ∈ written.take since,
    matched k → stored k → k ∉ written.drop since → k ∈ reply.keys)

instance {matched stored : κ → Prop} [DecidableEq κ] [DecidablePred matched] [DecidablePred stored]
    {written : List κ} {since : Nat} {reply : ScanReply κ} :
    Decidable (reply.Answers matched stored written since) :=
  inferInstanceAs (Decidable (_ ∧ _))

/-- Nobody wrote a key that is owed since the iteration began, and left it there. -/
def Draining (owed stored : κ → Prop) (written : List κ) (since : Nat) : Prop :=
  ∀ k, owed k → stored k → k ∉ written.drop since

namespace Draining

variable {owed owed' stored stored' matched : κ → Prop} {written : List κ} {since : Nat} {k : κ}

theorem start : Draining owed stored written written.length := fun k _ _ => by
  rw [List.drop_length]
  exact List.not_mem_nil

theorem mono (h : Draining owed stored written since) (howed : ∀ k, owed' k → owed k)
    (hstored : ∀ k, stored' k → stored k) : Draining owed' stored' written since :=
  fun k hk hstored' => h k (howed k hk) (hstored k hstored')

/-- A key that is not owed is written. -/
theorem write (h : Draining owed stored written since) (hk : ¬ owed k)
    (hstored : ∀ j, stored' j → stored j ∨ j = k) :
    Draining owed stored' (written ++ [k]) since := by
  intro j hj hstored' hmem
  have hne : j ≠ k := by
    rintro rfl
    exact hk hj
  rw [List.drop_append, List.mem_append] at hmem
  rcases hmem with hmem | hmem
  · exact h j hj ((hstored j hstored').resolve_right hne) hmem
  · exact hne (List.mem_singleton.1 (List.mem_of_mem_drop hmem))

/-- The last reply returns every key that is owed and still there. -/
theorem returned (h : Draining owed stored written since) {reply : ScanReply κ}
    (hreply : reply.Answers matched stored written since) (hlast : reply.last = true)
    (hmatched : matched k) (hwritten : k ∈ written) (howed : owed k) (hstored : stored k) :
    k ∈ reply.keys := by
  have hsince : k ∉ written.drop since := h k howed hstored
  have hbefore : k ∈ written.take since := by
    rw [← List.take_append_drop since written, List.mem_append] at hwritten
    exact hwritten.resolve_right hsince
  exact hreply.2 hlast k hbefore hmatched hstored hsince

end Draining

end Library
