-- SUMMARY: What the lists of approval levels and of departments share: columns, search, pages, cells.
import Expentra.Core.Formatting
import Expentra.Expense.Query
import Expentra.Export.Csv

/-!
# Lists and their exports

The lists page their rows with the same bounds, and the exports are written by copies of
one function, which quotes a cell for a quote, a comma or a line feed.
-/

namespace Expentra

open Text Csv

/-- The columns that date a row. -/
structure Timestamps where
  createdAt : Instant
  updatedAt : Instant
deriving DecidableEq

structure DepartmentColumns extends Timestamps where
  name : String
  code : String
deriving DecidableEq

/-- The database, with the columns that only lists and exports read. -/
structure Listings where
  db : Db
  levelTimes : Nat → Timestamps
  departmentColumns : Nat → DepartmentColumns

/-- The operators of the database on text, which depend on its locale. -/
structure Locale where
  /-- `text ILIKE term ESCAPE '\'` -/
  ilike : String → String → Bool
  /-- `left <= right` -/
  le : String → String → Bool

/-! ## Search -/

def escapeLikePattern (value : String) : String :=
  String.ofList (value.toList.flatMap (fun c =>
    if c = '%' || c = '_' || c = '\\' then ['\\', c] else [c]))

def ilikeTerm (search : String) : String := "%" ++ escapeLikePattern search ++ "%"

/-- The search term is found in one of the columns; `NULL` matches nothing. -/
def matchesSearch (locale : Locale) (search : Option String) (columns : List (Option String)) :
    Bool :=
  (Js.trimmedOrUndefined search).all (fun search =>
    columns.any (fun column => column.any (locale.ilike · (ilikeTerm search))))

/-! ## Pages -/

/-- The page of a request, of 100 rows at most. -/
def paginate (page limit : Option Int) : Pagination :=
  let page := (max 1 (ExpenseQueryService.orDefault page 1)).toNat
  let limit := (min 100 (max 1 (ExpenseQueryService.orDefault limit 20))).toNat
  { page, limit, skip := (page - 1) * limit }

def totalPages (total limit : Nat) : Nat :=
  if total = 0 then 0 else (total + limit - 1) / limit

/-- Whatever the limit of a request, a first page ends at the hundredth row. -/
theorem paginate_first {limit : Int} (h : 100 ≤ limit) :
    paginate (some 1) (some limit) = ⟨1, 100, 0⟩ := by
  have hdefault : ExpenseQueryService.orDefault (some limit) 20 = limit := if_neg (by omega)
  have hlimit : (min 100 (max 1 limit)).toNat = 100 := by omega
  rw [paginate, hdefault, hlimit]
  rfl

/-! ## Cells -/

/-- The characters of `/[",\n]/`. -/
def exportSpecials : List CodeUnit := [Csv.quote, comma, lineFeed]

/-- The rows in the form of a file. -/
def exportCsv (rows : List (List Text)) : Text := writeLines exportSpecials rows

theorem separating_exportSpecials : Separating exportSpecials := by
  refine ⟨?_, ?_, ?_⟩ <;> simp [exportSpecials]

/-- A text that has no carriage return, or one of the characters it is quoted for. -/
def Readable (text : String) : Prop :=
  '\r' ∈ text.toList → '"' ∈ text.toList ∨ ',' ∈ text.toList ∨ '\n' ∈ text.toList

theorem recoverable_ofString {text : String} :
    Recoverable exportSpecials (ofString text) ↔ Readable text := by
  have hspecial : (ofString text).any exportSpecials.contains = true ↔
      '"' ∈ text.toList ∨ ',' ∈ text.toList ∨ '\n' ∈ text.toList := by
    have hquote : Csv.quote ∈ ofString text ↔ '"' ∈ text.toList := mem_ofString (by decide)
    have hcomma : comma ∈ ofString text ↔ ',' ∈ text.toList := mem_ofString (by decide)
    have hfeed : lineFeed ∈ ofString text ↔ '\n' ∈ text.toList := mem_ofString (by decide)
    rw [← hquote, ← hcomma, ← hfeed, List.any_eq_true]
    simp only [exportSpecials, List.contains_iff_mem, List.mem_cons, List.not_mem_nil, or_false]
    constructor
    · rintro ⟨u, hu, rfl | rfl | rfl⟩
      · exact .inl hu
      · exact .inr (.inl hu)
      · exact .inr (.inr hu)
    · rintro (h | h | h)
      · exact ⟨Csv.quote, h, .inl rfl⟩
      · exact ⟨comma, h, .inr (.inl rfl)⟩
      · exact ⟨lineFeed, h, .inr (.inr rfl)⟩
  have hreturn : carriageReturn ∈ ofString text ↔ '\r' ∈ text.toList := mem_ofString (by decide)
  rw [Recoverable, Readable, hspecial, hreturn, or_iff_not_imp_right, not_not]

/-- Numbers and dates have no carriage returns. -/
theorem no_return_of_printed {text : Text} (h : ∀ u ∈ text, isPrinted u = true) :
    carriageReturn ∉ text := fun hreturn => absurd (h carriageReturn hreturn) (by decide)

theorem recoverable_printed {text : Text} (h : ∀ u ∈ text, isPrinted u = true) :
    Recoverable exportSpecials text := .inr (no_return_of_printed h)

theorem recoverable_ofInt (n : Int) : Recoverable exportSpecials (ofInt n) :=
  recoverable_printed isPrinted_ofInt

theorem recoverable_toISOString (t : Instant) : Recoverable exportSpecials (Date.toISOString t) :=
  recoverable_printed isPrinted_toISOString

theorem recoverable_yesNo (flag : Bool) :
    Recoverable exportSpecials (if flag then ascii "Yes" else ascii "No") := by
  cases flag
  · exact .inr (by decide)
  · exact .inr (by decide)

/-- A file of the first rows has every row as one record exactly when these are all the rows,
    and all their cells come back. -/
theorem parse_exportCsv_take {ρ : Type} {headers : List Text} {cells : ρ → List Text}
    (hheaders : 2 ≤ headers.length) (hnames : ∀ text ∈ headers, Recoverable exportSpecials text)
    (hcells : ∀ row, 2 ≤ (cells row).length) (rows : List ρ) (count : Nat) :
    parseCsv (exportCsv (headers :: (rows.map cells).take count)) = headers :: rows.map cells ↔
      rows.length ≤ count ∧ ∀ row ∈ rows, ∀ text ∈ cells row, Recoverable exportSpecials text := by
  have htwo : ∀ row ∈ rows.map cells, 2 ≤ row.length :=
    List.forall_mem_map.2 fun row _ => hcells row
  rw [exportCsv, parse_take_iff separating_exportSpecials hheaders hnames htwo, List.length_map,
    List.forall_mem_map]

end Expentra
