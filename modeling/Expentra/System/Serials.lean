-- SUMMARY: Serial ids: expenses, decisions and event keys only mention ids that were given out.
import Expentra.System.Effects

/-!
# Serials

An expense gets its id from a serial and keeps it. Nothing mentions an id that
was not given out yet, so that a new expense has neither decisions nor events.
-/

namespace Expentra

open Library

structure Numbered (db : Db) : Prop where
  next_pos : 0 < db.nextExpenseId
  expense : ∀ e ∈ db.expenses, 0 < e.id ∧ e.id < db.nextExpenseId
  approval : ∀ a ∈ db.approvals, a.expenseId < db.nextExpenseId
  attachment : ∀ a ∈ db.attachments, a.expenseId < db.nextExpenseId
  outbox : ∀ event ∈ db.outbox, ∀ t id at_,
    event.idempotencyKey = some (.ofTransition t id at_) → id < db.nextExpenseId

section Numbered

variable {cfg : Config} {db db' : Db} {op : Operation}

theorem Numbered.frame (h : Frame db db') (hdb : Numbered db) : Numbered db' := by
  obtain ⟨events, houtbox, hkeys⟩ := h.outbox
  refine ⟨h.nextExpenseId ▸ hdb.next_pos, ?_, ?_, ?_, ?_⟩
  · rw [h.expenses, h.nextExpenseId]
    exact hdb.expense
  · rw [h.approvals, h.nextExpenseId]
    exact hdb.approval
  · rw [h.nextExpenseId]
    intro a ha
    rcases h.attachments a ha with ha | ⟨e, he, hid⟩
    · exact hdb.attachment a ha
    · exact hid ▸ (hdb.expense e he).2
  · rw [houtbox, h.nextExpenseId]
    intro event hevent t id at_ hkey
    rcases List.mem_append.1 hevent with hevent | hevent
    · exact hdb.outbox event hevent t id at_ hkey
    · rw [hkeys event hevent] at hkey
      cases hkey

theorem Numbered.transition {row : Expense} {after : ExpenseEntity}
    {approvals : Table ExpenseApproval.key} {comments : List ExpenseComment}
    {events : List OutboxEvent} (h : Transition cfg db row after approvals comments events db')
    (hdb : Numbered db) : Numbered db' := by
  have hrow := hdb.expense row h.mem
  have hnext : db'.nextExpenseId = db.nextExpenseId := by
    obtain ⟨_, rfl, -⟩ := h.effect
    rfl
  refine ⟨hnext ▸ hdb.next_pos, ?_, ?_, ?_, ?_⟩
  · rw [hnext]
    intro e he
    rcases h.eq_or_mem he with rfl | ⟨he, -⟩
    · exact hrow
    · exact hdb.expense e he
  · rw [hnext, h.approvals_eq]
    intro a ha
    rcases h.decided a ha with ha | hid
    · exact hdb.approval a ha
    · rw [hid]
      exact hrow.2
  · rw [hnext, h.attachments_eq]
    exact hdb.attachment
  · rw [hnext, h.outbox_eq]
    intro event hevent t id at_ hkey
    rcases List.mem_append.1 hevent with hevent | hevent
    · exact hdb.outbox event hevent t id at_ hkey
    · rw [(h.published event hevent t id at_ hkey).1]
      exact hrow.2

theorem numbered_of_ok (h : op.perform cfg db = .ok ((), db')) (hdb : Numbered db) : Numbered db' := by
  cases hop : op.isTransition with
  | true =>
    obtain ⟨_, _, _, _, _, htransition, -⟩ := transition_of_ok hop h
    exact hdb.transition htransition
  | false =>
    cases hadds : op.addsOrRemoves with
    | false => exact hdb.frame (frame_of_ok hop hadds h).1
    | true =>
      rcases inserted_or_deleted_of_ok hadds h with
        ⟨row, expenses, hins, hid, -, rfl⟩ | ⟨row, -, -, hdelete⟩
      · have hnext := hdb.next_pos
        refine ⟨Nat.succ_pos _, fun e he => ?_, fun a ha => Nat.lt_succ_of_lt (hdb.approval a ha),
          fun a ha => Nat.lt_succ_of_lt (hdb.attachment a ha),
          fun event he t id at_ hkey => Nat.lt_succ_of_lt (hdb.outbox event he t id at_ hkey)⟩
        rcases (Table.mem_insert hins).1 he with he | rfl
        · exact ⟨(hdb.expense e he).1, Nat.lt_succ_of_lt (hdb.expense e he).2⟩
        · exact ⟨hid ▸ hnext, hid ▸ Nat.lt_succ_self _⟩
      · cases Transaction.write_eq_ok.1 hdelete
        exact ⟨hdb.next_pos, fun e he => hdb.expense e (Table.mem_keep.1 he).1,
          fun a ha => hdb.approval a (Table.mem_keep.1 ha).1,
          fun a ha => hdb.attachment a (List.mem_filter.1 ha).1, hdb.outbox⟩

theorem numbered_step (hdb : Numbered db) (hstep : Step cfg db op db') : Numbered db' :=
  hstep.preserves (fun _ hok => numbered_of_ok hok hdb) hdb

end Numbered

/-- A system without expenses, decisions, receipts and events. -/
structure Fresh (db : Db) : Prop where
  next_pos : 0 < db.nextExpenseId
  expenses : db.expenses = ∅
  approvals : db.approvals = ∅
  attachments : db.attachments = []
  outbox : db.outbox = []

theorem Fresh.numbered {db : Db} (h : Fresh db) : Numbered db := by
  refine ⟨h.next_pos, ?_, ?_, ?_, ?_⟩
  · intro e he
    rw [h.expenses] at he
    cases he
  · intro a ha
    rw [h.approvals] at ha
    cases ha
  · simp [h.attachments]
  · simp [h.outbox]

theorem Sample.fresh : Fresh Sample.db := ⟨by decide, rfl, rfl, rfl, rfl⟩

end Expentra
