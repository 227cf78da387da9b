-- SUMMARY: Threshold alerts: the steps of concurrent checks, and when each alert is recorded and published exactly once.
import Expentra.Library.Interleaving
import Expentra.System.Operations

/-!
# Budget alerts

A check reads the budget, its department and the recipients, and then, for each threshold
that is reached, looks for the dispatch row, inserts it, and starts to publish one event
for each recipient without waiting for them. None of this is in a transaction: each query
is one step, and the publications end at any later time, or never.
-/

namespace Expentra

open Library

namespace Js

/-- The value of a sequence of decimal digits. -/
def decimalValue (ds : List Char) : Nat := ds.foldl (fun n c => n * 10 + (c.toNat - 48)) 0

/-- `Number.parseInt(s, 10)`: an optional sign and the digits that follow; `none` is `NaN`. -/
def parseInt (s : String) : Option Int :=
  let (sign, cs) := match (trim s).toList with
    | '-' :: cs => ((-1 : Int), cs)
    | '+' :: cs => (1, cs)
    | cs => (1, cs)
  let ds := cs.takeWhile Char.isDigit
  if ds = [] then none else some (sign * decimalValue ds)

end Js

namespace BudgetAlerts

/-! ## Checks -/

/-- The payload of `budget.threshold_crossed`. -/
structure ThresholdCrossed where
  userId : Nat
  departmentReference : String
  departmentName : String
  thresholdPercent : Int
  utilizationPercent : Float
  year : Int
deriving DecidableEq

/-- A row of `budget_alert_dispatches`. The unique key of its budget stands for the id. The
    row also names the check that inserted it, and the events that check publishes. -/
structure BudgetAlertDispatch where
  departmentBudget : Nat × Int
  thresholdPercent : Int
  insertedBy : Nat
  events : List ThresholdCrossed

/-- The columns of `UQ_budget_alert_dispatches_budget_threshold`. -/
def BudgetAlertDispatch.key (row : BudgetAlertDispatch) : (Nat × Int) × Int :=
  (row.departmentBudget, row.thresholdPercent)

structure AlertState where
  db : Db
  /-- The column `departments.name`. -/
  departmentName : Nat → String
  dispatches : Table BudgetAlertDispatch.key
  /-- The rows of the outbox with the event `budget.threshold_crossed`. -/
  published : List ThresholdCrossed
  /-- The publications that were started and did not end yet. -/
  underWay : List ThresholdCrossed

/-- `getThresholdPercents`, from the value of `BUDGET_ALERT_THRESHOLDS` -/
def getThresholdPercents (raw : String) : List Int :=
  let values := (raw.toList.splitOn ',').filterMap (fun cs => Js.parseInt (String.ofList cs))
  (values.filter (fun value => 0 < value && value ≤ 100)).insertionSort (· ≤ ·)

example : getThresholdPercents " 90, 75%,x,-3,100" = [75, 90, 100] := by decide

/-- `findSuperAdminRecipients` -/
def findSuperAdminRecipients (db : Db) : List User :=
  db.users.rows.filter (fun user => user.isActive && user.role.any (·.name = "super_admin"))

/-- `findApprovalLevelRoleRecipients` -/
def findApprovalLevelRoleRecipients (db : Db) : List User :=
  let roleIds := (db.levels.rows.filter (·.isActive)).filterMap (·.roleId)
  db.users.rows.filter (fun user => user.isActive && user.role.any (fun role => role.id ∈ roleIds))

/-- The first user with each id. -/
def uniqueById : List User → List User
  | [] => []
  | user :: rest => user :: (uniqueById rest).filter (fun other => other.id ≠ user.id)

/-- What a check has read. -/
structure Check where
  year : Int
  budget : DepartmentBudget
  department : Department
  departmentName : String
  notifyUsers : List User
deriving DecidableEq

/-- The next query a check waits for. -/
inductive Phase where
  | findingBudget
  | findingDepartment (budget : DepartmentBudget)
  | findingSuperAdmins (check : Check)
  | findingApprovers (check : Check)
  | findingDispatch (check : Check) (threshold : Int) (thresholds : List Int)
  | saving (check : Check) (threshold : Int) (thresholds : List Int)
  | ended
  /-- The check threw, and the listener logged the error. -/
  | failed (error : HttpException)
deriving DecidableEq

/-- A run of `checkAndEmitThresholdAlerts`. -/
structure Thread where
  departmentId : Nat
  year : Int
  phase : Phase
  /-- The alerts it emitted. -/
  emitted : List ((Nat × Int) × Int)

/-- The loop, up to the next threshold that is reached. -/
def nextThreshold (check : Check) (thresholds : List Int) : Phase :=
  match thresholds.dropWhile (fun threshold : Int =>
      check.budget.utilizationPercent < Float.ofInt threshold) with
  | [] => .ended
  | threshold :: rest => .findingDispatch check threshold rest

/-- The event for one recipient. -/
def thresholdCrossed (check : Check) (threshold : Int) (user : User) : ThresholdCrossed where
  userId := user.id
  departmentReference := check.department.reference
  departmentName := check.departmentName
  thresholdPercent := threshold
  utilizationPercent := check.budget.utilizationPercent
  year := check.year

def alertKey (check : Check) (threshold : Int) : (Nat × Int) × Int := (check.budget.key, threshold)

/-- The row a check inserts. -/
def dispatch (i : Nat) (check : Check) (threshold : Int) : BudgetAlertDispatch where
  departmentBudget := check.budget.key
  thresholdPercent := threshold
  insertedBy := i
  events := check.notifyUsers.map (thresholdCrossed check threshold)

/-- `unique_violation` -/
def uniqueViolation : HttpException := .queryFailed "23505"

/-- The next step of a check. -/
def advance (raw : String) (i : Nat) (s : AlertState) (t : Thread) :
    Option (AlertState × Thread) :=
  match t.phase with
  | .findingBudget =>
    match BudgetService.liveBudget s.db t.departmentId t.year with
    | some budget =>
      if budget.amountLimit = 0 then some (s, { t with phase := .ended })
      else some (s, { t with phase := .findingDepartment budget })
    | none => some (s, { t with phase := .ended })
  | .findingDepartment budget =>
    match s.db.departmentRelation (some t.departmentId) with
    | some department =>
      some (s, { t with
        phase := .findingSuperAdmins ⟨t.year, budget, department, s.departmentName department.id, []⟩ })
    | none => some (s, { t with phase := .ended })
  | .findingSuperAdmins check =>
    some (s, { t with
      phase := .findingApprovers { check with notifyUsers := findSuperAdminRecipients s.db } })
  | .findingApprovers check =>
    let notifyUsers := uniqueById (check.notifyUsers ++ findApprovalLevelRoleRecipients s.db)
    some (s, { t with phase := nextThreshold { check with notifyUsers } (getThresholdPercents raw) })
  | .findingDispatch check threshold thresholds =>
    match s.dispatches.find? (alertKey check threshold) with
    | some _ => some (s, { t with phase := nextThreshold check thresholds })
    | none => some (s, { t with phase := .saving check threshold thresholds })
  | .saving check threshold thresholds =>
    match s.dispatches.insert? (dispatch i check threshold) with
    | some dispatches =>
      -- the loop goes on without waiting for the publications
      some ({ s with
          dispatches
          underWay := s.underWay ++ (dispatch i check threshold).events },
        { t with
          phase := nextThreshold check thresholds
          emitted := alertKey check threshold :: t.emitted })
    | none => some (s, { t with phase := .failed uniqueViolation })
  | .ended => none
  | .failed _ => none

/-- What happens around the checks. -/
inductive Surroundings where
  /-- Other services write. -/
  | change (db : Db) (departmentName : Nat → String)
  /-- A publication reaches the outbox. -/
  | append (k : Nat)
  /-- A publication fails, or its process stops before it. -/
  | lose (k : Nat)

def react (s : AlertState) : Surroundings → Option AlertState
  | .change db departmentName => some { s with db, departmentName }
  | .append k => (s.underWay[k]?).map (fun event =>
      { s with published := s.published ++ [event], underWay := s.underWay.eraseIdx k })
  | .lose k => (s.underWay[k]?).map (fun _ => { s with underWay := s.underWay.eraseIdx k })

/-- Checks for any department and year, in any order of their steps. -/
def alerts (raw : String) : Concurrent AlertState Thread (Nat × Int) Unit Surroundings where
  start s arrival := some (s, ⟨arrival.1, arrival.2, .findingBudget, []⟩)
  step i s t _ := advance raw i s t
  surroundings := react

/-- Before any check. -/
structure Initial (s : AlertState) : Prop where
  dispatches : s.dispatches = ∅
  underWay : s.underWay = []

/-! ## Exactly once -/

/-- An alert is sent once: no two checks emit an alert, nor one check twice; no check fails on
    a row of another check; and every recipient's event of a recorded alert is published, or
    its publication has not ended. -/
structure ExactlyOnce (p : Pool AlertState Thread) : Prop where
  once : ∀ (i j : Nat) (t u : Thread), p.threads[i]? = some t → p.threads[j]? = some u →
    ∀ alert ∈ t.emitted, alert ∈ u.emitted → i = j
  nodup : ∀ (i : Nat) (t : Thread), p.threads[i]? = some t → t.emitted.Nodup
  unfailed : ∀ (i : Nat) (t : Thread), p.threads[i]? = some t → t.phase ≠ .failed uniqueViolation
  published : ∀ row ∈ p.shared.dispatches, ∀ event ∈ row.events,
    event ∈ p.shared.published ∨ event ∈ p.shared.underWay

/-- The alert a check records next. -/
def Phase.inserts : Phase → Option ((Nat × Int) × Int)
  | .saving check threshold _ => some (alertKey check threshold)
  | .findingBudget | .findingDepartment _ | .findingSuperAdmins _ | .findingApprovers _
  | .findingDispatch .. | .ended | .failed _ => none

/-- The alert a check records next has not been recorded since the check looked for it. -/
def Unrecorded (_ : Nat) (s : AlertState) (t : Thread) (_ : Unit) : Prop :=
  ∀ alert ∈ t.phase.inserts, ∀ row ∈ s.dispatches.rows, row.key ≠ alert

instance (i : Nat) (s : AlertState) (t : Thread) (outcome : Unit) :
    Decidable (Unrecorded i s t outcome) :=
  inferInstanceAs (Decidable (∀ alert ∈ t.phase.inserts, ∀ row ∈ s.dispatches.rows, row.key ≠ alert))

/-- A publication fails. -/
def Surroundings.IsLoss : Surroundings → Prop
  | .lose _ => True
  | _ => False

instance (event : Surroundings) : Decidable event.IsLoss :=
  match event with
  | .lose _ => .isTrue trivial
  | .change .. => .isFalse id
  | .append _ => .isFalse id

/-- No check records an alert that another check has recorded since it looked, and no
    publication fails. -/
def Undisturbed : Guard (Pool AlertState Thread) (Turn (Nat × Int) Unit Surroundings) :=
  fun p turn => Concurrent.onStep Unrecorded p turn ∧ Concurrent.Avoids Surroundings.IsLoss p turn

instance (p : Pool AlertState Thread) (turn : Turn (Nat × Int) Unit Surroundings) :
    Decidable (Undisturbed p turn) :=
  inferInstanceAs (Decidable (_ ∧ _))

/-! ### The alerts a check emitted -/

/-- A check emits an alert at most once, and has inserted its row. -/
structure Emitted (i : Nat) (s : AlertState) (t : Thread) : Prop where
  nodup : t.emitted.Nodup
  recorded : ∀ alert ∈ t.emitted, ∃ row ∈ s.dispatches, row.key = alert ∧ row.insertedBy = i

theorem Emitted.mono {i : Nat} {s s' : AlertState} {t : Thread} (h : Emitted i s t)
    (hrows : ∀ row ∈ s.dispatches, row ∈ s'.dispatches) : Emitted i s' t := by
  refine ⟨h.nodup, fun alert halert => ?_⟩
  obtain ⟨row, hrow, hkey⟩ := h.recorded alert halert
  exact ⟨row, hrows row hrow, hkey⟩

/-- What a step of a check does. -/
inductive Advanced (i : Nat) (s : AlertState) (t : Thread) : AlertState → Thread → Prop where
  /-- It reads, and goes on or ends. -/
  | reads (phase : Phase) (hphase : ∀ error, phase ≠ .failed error) :
      Advanced i s t s { t with phase }
  | emits {check : Check} {threshold : Int} (phase : Phase)
      (hphase : ∀ error, phase ≠ .failed error) {dispatches : Table BudgetAlertDispatch.key}
      (hinsert : s.dispatches.insert? (dispatch i check threshold) = some dispatches) :
      Advanced i s t
        { s with dispatches, underWay := s.underWay ++ (dispatch i check threshold).events }
        { t with phase, emitted := alertKey check threshold :: t.emitted }
  | fails {check : Check} {threshold : Int} {thresholds : List Int}
      (hsaving : t.phase = .saving check threshold thresholds)
      (hinsert : s.dispatches.insert? (dispatch i check threshold) = none) :
      Advanced i s t s { t with phase := .failed uniqueViolation }

theorem nextThreshold_ne (check : Check) (thresholds : List Int) (error : HttpException) :
    nextThreshold check thresholds ≠ .failed error := by
  unfold nextThreshold
  split <;> exact fun h => by cases h

theorem advanced_of_advance {raw : String} {i : Nat} {s s' : AlertState} {t t' : Thread}
    (h : advance raw i s t = some (s', t')) : Advanced i s t s' t' := by
  unfold advance at h
  split at h
  case h_1 =>
    split at h
    · split at h <;> cases h <;> exact .reads _ (fun _ h => by cases h)
    · cases h
      exact .reads _ (fun _ h => by cases h)
  case h_2 =>
    split at h <;> cases h <;> exact .reads _ (fun _ h => by cases h)
  case h_3 =>
    cases h
    exact .reads _ (fun _ h => by cases h)
  case h_4 =>
    cases h
    exact .reads _ (nextThreshold_ne _ _)
  case h_5 =>
    split at h
    · cases h
      exact .reads _ (nextThreshold_ne _ _)
    · cases h
      exact .reads _ (fun _ h => by cases h)
  case h_6 check threshold thresholds hsaving =>
    split at h
    case h_1 dispatches hinsert =>
      cases h
      exact .emits _ (nextThreshold_ne _ _) hinsert
    case h_2 hinsert =>
      cases h
      exact .fails hsaving hinsert
  case h_7 => cases h
  case h_8 => cases h

theorem Emitted.of_advanced {i j : Nat} {s s' : AlertState} {t t' u : Thread}
    (hu : Emitted j s u) (hmove : Advanced i s t s' t') : Emitted j s' u := by
  refine hu.mono ?_
  cases hmove with
  | reads => exact fun _ hrow => hrow
  | emits _ _ hinsert => exact fun row hrow => (Table.mem_insert hinsert).2 (.inl hrow)
  | fails => exact fun _ hrow => hrow

theorem Emitted.advanced {i : Nat} {s s' : AlertState} {t t' : Thread} (h : Emitted i s t)
    (hmove : Advanced i s t s' t') : Emitted i s' t' := by
  have hold := h.of_advanced hmove
  cases hmove with
  | reads => exact ⟨hold.nodup, hold.recorded⟩
  | fails => exact ⟨hold.nodup, hold.recorded⟩
  | @emits check threshold _ _ _ hinsert =>
    have hnew := (Table.insert?_eq_some.1 hinsert).1
    refine ⟨List.nodup_cons.2 ⟨fun hmem => ?_, h.nodup⟩, List.forall_mem_cons.2 ⟨?_, hold.recorded⟩⟩
    · obtain ⟨row, hrow, hkey, -⟩ := h.recorded _ hmem
      exact hnew row hrow hkey
    · exact ⟨_, (Table.mem_insert hinsert).2 (.inr rfl), rfl, rfl⟩

theorem emitted_outline (raw : String) :
    (alerts raw).Outline Concurrent.anyStep (fun _ => True) Emitted where
  start _ hstart := by
    obtain ⟨rfl, rfl⟩ := Prod.mk.inj (Option.some.inj hstart)
    exact ⟨trivial, fun i => ⟨List.nodup_nil, fun _ h => by cases h⟩, fun _ _ h => h⟩
  step _ hself _ hstep := by
    have hmove := advanced_of_advance hstep
    exact ⟨trivial, hself.advanced hmove, fun j u _ hu => hu.of_advanced hmove⟩
  surroundings {s event s'} _ hchange := by
    refine ⟨trivial, fun i u hu => hu.mono ?_⟩
    cases event with
    | change => cases hchange; exact fun _ hrow => hrow
    | append k =>
      obtain ⟨_, -, rfl⟩ := Option.map_eq_some_iff.1 hchange
      exact fun _ hrow => hrow
    | lose k =>
      obtain ⟨_, -, rfl⟩ := Option.map_eq_some_iff.1 hchange
      exact fun _ hrow => hrow

variable {raw : String} {s : AlertState} {p : Pool AlertState Thread}

/-- Whatever fails, no alert is emitted twice: its row names one check. -/
theorem emitted_once (h : Reaches (alerts raw).Step (.idle s) p) :
    (∀ (i j : Nat) (t u : Thread), p.threads[i]? = some t → p.threads[j]? = some u →
      ∀ alert ∈ t.emitted, alert ∈ u.emitted → i = j) ∧
    ∀ (i : Nat) (t : Thread), p.threads[i]? = some t → t.emitted.Nodup := by
  have hholds := (emitted_outline raw).reaches_anyStep (Concurrent.holds_idle trivial) h
  refine ⟨fun i j t u ht hu alert halert halert' => ?_, fun i t ht => (hholds.thread i t ht).nodup⟩
  obtain ⟨row, hrow, hkey, rfl⟩ := (hholds.thread i t ht).recorded alert halert
  obtain ⟨row', hrow', hkey', rfl⟩ := (hholds.thread j u hu).recorded alert halert'
  rw [Table.eq_of_key_eq hrow hrow' (hkey.trans hkey'.symm)]

/-! ### Recorded alerts and their publications -/

/-- The events of every recorded alert are published or on their way. -/
def Delivered (s : AlertState) : Prop :=
  ∀ row ∈ s.dispatches, ∀ event ∈ row.events, event ∈ s.published ∨ event ∈ s.underWay

theorem Delivered.append {s s' : AlertState} {k : Nat} (h : Delivered s)
    (hreact : react s (.append k) = some s') : Delivered s' := by
  obtain ⟨event, hevent, rfl⟩ := Option.map_eq_some_iff.1 hreact
  intro row hrow other hother
  rcases h row hrow other hother with hpublished | hunderWay
  · exact .inl (List.mem_append_left _ hpublished)
  · by_cases hsame : other = event
    · exact .inl (List.mem_append_right _ (hsame ▸ List.mem_singleton_self other))
    · obtain ⟨j, hj⟩ := List.mem_iff_getElem?.1 hunderWay
      have hne : j ≠ k := by
        rintro rfl
        exact hsame (Option.some.inj (hj.symm.trans hevent))
      exact .inr (List.mem_eraseIdx_iff_getElem?.2 ⟨j, hne, hj⟩)

theorem Delivered.advanced {i : Nat} {s s' : AlertState} {t t' : Thread} (h : Delivered s)
    (hmove : Advanced i s t s' t') : Delivered s' := by
  cases hmove with
  | reads => exact h
  | fails => exact h
  | emits _ _ hinsert =>
    intro row hrow event hevent
    rcases (Table.mem_insert hinsert).1 hrow with hrow | rfl
    · exact (h row hrow event hevent).imp_right (List.mem_append_left _)
    · exact .inr (List.mem_append_right _ hevent)

theorem delivered_outline (raw : String) :
    ((alerts raw).avoiding Surroundings.IsLoss).Outline Unrecorded Delivered
      (fun _ _ t => ∀ error, t.phase ≠ .failed error) where
  start h hstart := by
    obtain ⟨rfl, rfl⟩ := Prod.mk.inj (Option.some.inj hstart)
    refine ⟨h, fun _ _ hphase => ?_, fun _ _ hu => hu⟩
    cases hphase
  step h _ hfree hstep := by
    have hmove := advanced_of_advance hstep
    refine ⟨h.advanced hmove, ?_, fun _ _ _ hu => hu⟩
    cases hmove with
    | reads _ hphase => exact hphase
    | emits _ hphase _ => exact hphase
    | fails hsaving hinsert =>
      obtain ⟨row, hrow, hkey⟩ := Table.insert?_eq_none.1 hinsert
      exact absurd hkey (hfree _ (by rw [hsaving]; rfl) row hrow)
  surroundings {s event s'} h hchange := by
    refine ⟨?_, fun _ _ hu => hu⟩
    simp only [Concurrent.avoiding] at hchange
    split at hchange
    · cases hchange
    · cases event with
      | change => cases hchange; exact h
      | append k => exact h.append hchange
      | lose k => rename_i hloss; exact absurd trivial hloss

/-- In every run in which no check inserts a row that another one has inserted since it
    looked, and no publication fails, alerts are sent exactly once. -/
theorem alerts_exactly_once (hs : Initial s)
    (h : Reaches (Guarded Undisturbed (alerts raw).Step) (.idle s) p) : ExactlyOnce p := by
  obtain ⟨honce, hnodup⟩ := emitted_once h.of_guarded
  have hdelivered : Delivered s := by
    intro row hrow
    rw [hs.dispatches] at hrow
    cases hrow
  have hholds := (delivered_outline raw).reaches
    (Concurrent.holds_idle hdelivered) (Concurrent.reaches_onStep_avoiding h)
  exact ⟨honce, hnodup, fun i t ht => hholds.thread i t ht _, hholds.shared⟩

/-! ### A budget used to four fifths -/

namespace Sample

def admin : User :=
  ⟨9, "USR1700000000009AAAAAA", "admin@expentra.test", none, true, true, none,
    some ⟨9, "ROL1700000000009AAAAAA", "super_admin", []⟩⟩

def state : AlertState where
  db := { Expentra.Sample.db with
    users := ⟨[admin], by decide⟩
    budgets := ⟨[⟨"BUD1700000000001AAAAAA", 1, 2025, 100000, true, 80000, 0, none, by decide⟩],
      by decide⟩ }
  departmentName := fun _ => "Sales"
  dispatches := ∅
  published := []
  underWay := []

def thresholds : String := "75,90,100"

theorem initial : Initial state := ⟨rfl, rfl⟩

abbrev Turns := List (Turn (Nat × Int) Unit Surroundings)

/-- A check up to its search for the dispatch row. -/
def upToSearch (i : Nat) : Turns := List.replicate 5 (.step i ())

/-- One check records the alert and publishes it. -/
def alone : Turns := .start (1, 2025) :: (upToSearch 0 ++ [.step 0 (), .surroundings (.append 0)])

/-- Two checks look for the row before either inserts it. -/
def together : Turns :=
  [.start (1, 2025), .start (1, 2025)] ++ upToSearch 0 ++ upToSearch 1 ++ [.step 0 (), .step 1 ()]

end Sample

theorem alerts_exactly_once_sample : ∃ p : Pool AlertState Thread,
    p.shared.published.length = 1 ∧ ExactlyOnce p := by
  have hrun : (((alerts Sample.thresholds).execGuarded Undisturbed Sample.alone
      (.idle Sample.state)).map (fun p => p.shared.published.length)) = some 1 := by
    decide +kernel
  obtain ⟨p, hp, hlength⟩ := Option.map_eq_some_iff.1 hrun
  exact ⟨p, hlength, alerts_exactly_once Sample.initial (Concurrent.reaches_of_execGuarded hp)⟩

/-- The second check fails on the row of the first one. -/
theorem second_check_fails : ¬ ∀ p : Pool AlertState Thread,
    Reaches (alerts Sample.thresholds).Step (.idle Sample.state) p → ExactlyOnce p := by
  intro h
  have hrun : (((alerts Sample.thresholds).exec Concurrent.anyStep Sample.together
      (.idle Sample.state)).map (fun p => (p.threads[1]?).map Thread.phase)) =
      some (some (.failed uniqueViolation)) := by decide +kernel
  obtain ⟨p, hp, hphase⟩ := Option.map_eq_some_iff.1 hrun
  obtain ⟨t, ht, hfailed⟩ := Option.map_eq_some_iff.1 hphase
  exact (h p (Concurrent.reaches_of_exec hp).of_guarded).unfailed 1 t ht hfailed

end BudgetAlerts

end Expentra
