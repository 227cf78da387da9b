-- SUMMARY: The approved expenses that wait for their payment, by age, and that no approved expense is missing from them.
import Expentra.Expense.Dates
import Expentra.Library.GroupBy
import Expentra.Report.Spending

/-!
# Pending payouts

`getPendingPayoutSummary` goes once over the approved expenses that have an approval date and
counts each in the bucket of its age. It asks for the date in the query; in every run all
approved expenses have one.
-/

namespace Expentra

open Library

/-- `AgingBucketKey` -/
inductive AgingBucketKey where
  | days0_7
  | days8_14
  | days15_30
  | days30_plus
deriving DecidableEq, Repr

structure AgingBucketDef where
  key : AgingBucketKey
  label : String
  minDaysInclusive : Int
  maxDaysExclusive : Option Int

structure AgingBucket extends Totals where
  key : AgingBucketKey
  label : String
deriving DecidableEq

structure PendingPayoutSummary extends Totals where
  oldestApprovedAt : Option Instant
  agingBuckets : List AgingBucket
deriving DecidableEq

namespace ReportService

def AGING_BUCKET_DEFS : List AgingBucketDef :=
  [⟨.days0_7, "0–7 days", 0, some 8⟩, ⟨.days8_14, "8–14 days", 8, some 15⟩,
    ⟨.days15_30, "15–30 days", 15, some 31⟩, ⟨.days30_plus, "30+ days", 31, none⟩]

def emptyAgingBuckets : List AgingBucket :=
  AGING_BUCKET_DEFS.map (fun d => ⟨0, d.key, d.label⟩)

def ageInDays (from_ to_ : Instant) : Int := max 0 ((to_ - from_) / Date.msPerDay)

def bucketAgeDays (days : Int) : AgingBucketKey :=
  if days < 8 then .days0_7
  else if days < 15 then .days8_14
  else if days < 31 then .days15_30
  else .days30_plus

/-- What the query selects of an expense. -/
structure PayoutRow where
  amount : Int
  approvedAt : Instant
deriving DecidableEq

/-- `status = APPROVED AND approved_at IS NOT NULL` -/
def payoutRows (db : Db) : List PayoutRow :=
  (db.expenses.rows.filter (·.status = .APPROVED)).filterMap (fun e =>
    e.approvedAt.map (fun approvedAt => ⟨e.amount.val, approvedAt⟩))

/-- One turn of the loop: the bucket is looked up by its key and updated in place. -/
def addPayout (now : Instant) (summary : PendingPayoutSummary) (row : PayoutRow) :
    PendingPayoutSummary where
  count := summary.count + 1
  total := summary.total + row.amount
  oldestApprovedAt := some (match summary.oldestApprovedAt with
    | none => row.approvedAt
    | some oldest => if row.approvedAt < oldest then row.approvedAt else oldest)
  agingBuckets := summary.agingBuckets.map (fun bucket =>
    if bucket.key = bucketAgeDays (ageInDays row.approvedAt now) then
      { bucket with count := bucket.count + 1, total := bucket.total + row.amount }
    else bucket)

def getPendingPayoutSummary (db : Db) (now : Instant) : PendingPayoutSummary :=
  (payoutRows db).foldl (addPayout now) ⟨0, none, emptyAgingBuckets⟩

/-! ## The loop as sums -/

/-- The age is in the range the bucket is labelled with. -/
def AgingBucketDef.contains (d : AgingBucketDef) (days : Int) : Bool :=
  d.minDaysInclusive ≤ days && d.maxDaysExclusive.all (days < ·)

/-- The bucket an age is put in is the one whose range has it. -/
theorem bucketAgeDays_eq_iff {d : AgingBucketDef} (hd : d ∈ AGING_BUCKET_DEFS) {days : Int}
    (hdays : 0 ≤ days) : bucketAgeDays days = d.key ↔ AgingBucketDef.contains d days = true := by
  simp only [AGING_BUCKET_DEFS, List.mem_cons, List.not_mem_nil, or_false] at hd
  unfold bucketAgeDays AgingBucketDef.contains
  rcases hd with rfl | rfl | rfl | rfl <;>
    · simp only [Option.all_some, Option.all_none, Bool.and_true, Bool.and_eq_true, decide_eq_true_eq]
      split_ifs <;> simp <;> omega

theorem ageInDays_nonneg (from_ to_ : Instant) : 0 ≤ ageInDays from_ to_ := Int.le_max_left ..

/-- The bucket of a definition, filled with the rows of its range. -/
def filledBucket (now : Instant) (rows : List PayoutRow) (d : AgingBucketDef) : AgingBucket where
  toTotals := Totals.of (·.amount)
    (rows.filter (fun row => AgingBucketDef.contains d (ageInDays row.approvedAt now)))
  key := d.key
  label := d.label

/-- The earliest of the dates. -/
def oldest (rows : List PayoutRow) : Option Instant := (rows.map (·.approvedAt)).min?

/-- One more date. -/
theorem oldest_append (rows : List PayoutRow) (row : PayoutRow) :
    oldest (rows ++ [row]) = some (match oldest rows with
      | none => row.approvedAt
      | some old => if row.approvedAt < old then row.approvedAt else old) := by
  unfold oldest
  cases rows with
  | nil => rfl
  | cons first rest =>
    rw [List.cons_append, List.map_cons, List.map_cons, List.min?_cons', List.min?_cons',
      List.map_append, List.foldl_append, List.map_singleton]
    obtain ⟨old, hold⟩ : ∃ old, (rest.map (·.approvedAt)).foldl min first.approvedAt = old := ⟨_, rfl⟩
    rw [hold]
    have hmin : ∀ a b : Int, min a b = if b < a then b else a := by
      intro a b
      rw [Int.min_def]
      split_ifs <;> omega
    exact congrArg some (hmin old row.approvedAt)

/-- What the loop has computed from the rows it has seen. -/
def payoutSummary (now : Instant) (rows : List PayoutRow) : PendingPayoutSummary where
  toTotals := Totals.of (·.amount) rows
  oldestApprovedAt := oldest rows
  agingBuckets := AGING_BUCKET_DEFS.map (filledBucket now rows)

/-- A row goes to the bucket of its age and leaves the others alone. -/
theorem filledBucket_append (now : Instant) (rows : List PayoutRow) (row : PayoutRow)
    {d : AgingBucketDef} (hd : d ∈ AGING_BUCKET_DEFS) :
    filledBucket now (rows ++ [row]) d =
      if d.key = bucketAgeDays (ageInDays row.approvedAt now) then
        { filledBucket now rows d with
          count := (filledBucket now rows d).count + 1
          total := (filledBucket now rows d).total + row.amount }
      else filledBucket now rows d := by
  have hiff := bucketAgeDays_eq_iff hd (ageInDays_nonneg row.approvedAt now)
  cases hcontains : AgingBucketDef.contains d (ageInDays row.approvedAt now) with
  | true =>
    rw [if_pos (hiff.2 hcontains).symm]
    simp [filledBucket, Totals.of, hcontains]
  | false =>
    rw [if_neg (fun heq => Bool.false_ne_true (hcontains.symm.trans (hiff.1 heq.symm)))]
    simp [filledBucket, hcontains]

theorem addPayout_payoutSummary (now : Instant) (rows : List PayoutRow) (row : PayoutRow) :
    addPayout now (payoutSummary now rows) row = payoutSummary now (rows ++ [row]) := by
  unfold addPayout payoutSummary
  rw [oldest_append, Totals.of_append, List.map_map]
  congr 1
  · exact Totals.ext rfl (by simp [Totals.of])
  · exact List.map_congr_left fun d hd => (filledBucket_append now rows row hd).symm

/-- The loop computes the totals, the earliest date and the buckets of all rows. -/
theorem getPendingPayoutSummary_eq (db : Db) (now : Instant) :
    getPendingPayoutSummary db now = payoutSummary now (payoutRows db) := by
  have hloop : ∀ todo seen, todo.foldl (addPayout now) (payoutSummary now seen) =
      payoutSummary now (seen ++ todo) := by
    intro todo
    induction todo with
    | nil => exact fun seen => by rw [List.append_nil]; rfl
    | cons row rest ih =>
      intro seen
      rw [List.foldl_cons, addPayout_payoutSummary, ih, List.append_assoc]
      rfl
  exact hloop (payoutRows db) []

/-- Every age is in the range of exactly one bucket, so the buckets add up. -/
theorem sum_filledBucket (now : Instant) (rows : List PayoutRow) :
    ((AGING_BUCKET_DEFS.map (filledBucket now rows)).map (·.toTotals)).sum =
      Totals.of (·.amount) rows := by
  have hfilled : (AGING_BUCKET_DEFS.map (filledBucket now rows)).map (·.toTotals) =
      (AGING_BUCKET_DEFS.map (·.key)).map (fun key => Totals.of (·.amount)
        (rows.filter (fun row => bucketAgeDays (ageInDays row.approvedAt now) = key))) := by
    rw [List.map_map, List.map_map]
    refine List.map_congr_left fun d hd => ?_
    have hsame : rows.filter (fun row => AgingBucketDef.contains d (ageInDays row.approvedAt now)) =
        rows.filter (fun row => bucketAgeDays (ageInDays row.approvedAt now) = d.key) := by
      refine List.filter_congr fun row _ => (Bool.eq_iff_iff.2 ?_).symm
      rw [decide_eq_true_eq, bucketAgeDays_eq_iff hd (ageInDays_nonneg row.approvedAt now)]
    rw [Function.comp_apply, Function.comp_apply, filledBucket, hsame]
  rw [hfilled]
  refine Totals.sum_fibers (by decide) fun row _ => ?_
  unfold bucketAgeDays
  split_ifs <;> decide

/-! ## No approved expense is missing -/

/-- `SUM(expense.amount)` adds these. -/
def amountOf (e : Expense) : Int := e.amount.val

theorem amountOf_pos (e : Expense) : 0 < amountOf e := e.amount.property

/-- The expenses that wait for their payment. -/
def approvedExpenses (db : Db) : List Expense := db.expenses.rows.filter (·.status = .APPROVED)

/-- The days an expense has waited. -/
def payoutAge (now : Instant) (e : Expense) : Int := ageInDays (e.approvedAt.getD 0) now

/-- The row of an expense that has an approval date. -/
def toPayoutRow (e : Expense) : PayoutRow := ⟨amountOf e, e.approvedAt.getD 0⟩

theorem payoutRows_eq {db : Db} (hdated : AllDated db) :
    payoutRows db = (approvedExpenses db).map toPayoutRow := by
  rw [payoutRows, approvedExpenses, ← List.filterMap_eq_map]
  refine List.filterMap_congr fun e he => ?_
  obtain ⟨hmem, happroved⟩ := List.mem_filter.1 he
  obtain ⟨t, ht⟩ := Option.isSome_iff_exists.1
    ((hdated e hmem).approved (.inl (of_decide_eq_true happroved)))
  simp [toPayoutRow, amountOf, ht]

/-- The summary covers all approved expenses, and its buckets are those of their ages. -/
structure PayoutsComplete (db : Db) (now : Instant) : Prop where
  totals : (getPendingPayoutSummary db now).toTotals = Totals.of amountOf (approvedExpenses db)
  buckets : (getPendingPayoutSummary db now).agingBuckets = AGING_BUCKET_DEFS.map (fun d =>
    ⟨Totals.of amountOf ((approvedExpenses db).filter (fun e =>
      AgingBucketDef.contains d (payoutAge now e))), d.key, d.label⟩)
  spread : ((getPendingPayoutSummary db now).agingBuckets.map (·.toTotals)).sum =
    (getPendingPayoutSummary db now).toTotals
  oldest : ∀ t, (getPendingPayoutSummary db now).oldestApprovedAt = some t ↔
    (∃ e ∈ approvedExpenses db, e.approvedAt = some t) ∧
      ∀ e ∈ approvedExpenses db, ∀ t', e.approvedAt = some t' → t ≤ t'

theorem oldest_eq_some {rows : List PayoutRow} {t : Instant} : oldest rows = some t ↔
    (∃ row ∈ rows, row.approvedAt = t) ∧ ∀ row ∈ rows, t ≤ row.approvedAt := by
  rw [oldest, List.min?_eq_some_iff, List.mem_map, List.forall_mem_map]

/-- In every run, whether expenses were reopened in it or not, every approved expense waits
    in the bucket of its age. -/
theorem payouts_complete {cfg : Config} {db₀ db : Db} (hdated : AllDated db₀)
    (hreach : Reaches (Step cfg) db₀ db) (now : Instant) : PayoutsComplete db now := by
  have hrows := payoutRows_eq (allDated_of_reaches hdated hreach)
  have hsummary := getPendingPayoutSummary_eq db now
  constructor
  · rw [hsummary, payoutSummary, hrows, Totals.of_map]
    rfl
  · rw [hsummary, payoutSummary, hrows]
    refine List.map_congr_left fun d _ => ?_
    rw [filledBucket, List.filter_map, Totals.of_map]
    rfl
  · rw [hsummary]
    exact sum_filledBucket now (payoutRows db)
  · intro t
    have hdates : ∀ e ∈ approvedExpenses db, e.approvedAt = some (toPayoutRow e).approvedAt := by
      intro e he
      obtain ⟨hmem, happroved⟩ := List.mem_filter.1 he
      obtain ⟨t, ht⟩ := Option.isSome_iff_exists.1 ((allDated_of_reaches hdated hreach e hmem).approved
        (.inl (of_decide_eq_true happroved)))
      simp [toPayoutRow, ht]
    rw [hsummary, payoutSummary, hrows, oldest_eq_some, List.forall_mem_map]
    constructor
    · rintro ⟨⟨row, hrow, rfl⟩, hleast⟩
      obtain ⟨e, he, rfl⟩ := List.mem_map.1 hrow
      refine ⟨⟨e, he, hdates e he⟩, fun e' he' t' ht' => ?_⟩
      rw [hdates e' he'] at ht'
      cases ht'
      exact hleast e' he'
    · rintro ⟨⟨e, he, ht⟩, hleast⟩
      refine ⟨⟨_, List.mem_map_of_mem he, ?_⟩, fun e' he' => hleast e' he' _ (hdates e' he')⟩
      exact Option.some.inj ((hdates e he).symm.trans ht)

end ReportService

open ReportService in
/-- An approved expense of the lifecycle, thirteen days later. -/
theorem payouts_complete_sample :
    PayoutsComplete (runAll Sample.config (Sample.lifecycle.take 4) Sample.db)
        (Sample.now + 13 * Date.msPerDay) ∧
      (getPendingPayoutSummary (runAll Sample.config (Sample.lifecycle.take 4) Sample.db)
        (Sample.now + 13 * Date.msPerDay)).agingBuckets.map (·.count) = [0, 1, 0, 0] :=
  ⟨payouts_complete Sample.fresh.allDated (reaches_runAll Sample.config _ Sample.db) _,
    by decide +kernel⟩

end Expentra
