-- SUMMARY: Writing CSV in the reports, and reading it for the spreadsheets.
import Expentra.Core.NumberText
import Expentra.Library.Lookahead
import Expentra.Library.Query

/-!
# CSV

The writers quote a cell that has one of their special characters. The reader takes a loop
over the characters, with one of lookahead for a doubled quote and for a line end of two.
What a writer quotes too little comes back in other rows.
-/

namespace Expentra.Csv

open Library Text

def quote : CodeUnit := unit '"'
def comma : CodeUnit := unit ','
def lineFeed : CodeUnit := unit '\n'
def carriageReturn : CodeUnit := unit '\r'

/-! ## Writing -/

/-- `text.replace(/"/g, '""')` -/
def doubleQuotes (text : Text) : Text := text.flatMap (fun u => if u = quote then [u, u] else [u])

/-- The text, in quotes if it has a special character. -/
def escapeText (specials : List CodeUnit) (text : Text) : Text :=
  if text.any specials.contains then quote :: (doubleQuotes text ++ [quote]) else text

/-- `parts.join(separator)` -/
def joinWith (separator : CodeUnit) (parts : List Text) : Text := [separator].intercalate parts

inductive CsvCellValue where
  | string (value : Text)
  | number (value : JsonNumber)
  | notANumber
  | null
  | undefined

/-- `String(value)`; nothing for `null` and `undefined`. -/
def CsvCellValue.text : CsvCellValue → Text
  | .string value => value
  | .number (.infinite negative) => ascii (if negative then "-Infinity" else "Infinity")
  | .number .zero => [unit '0']
  | .number (.decimal value) => value.toText
  | .notANumber => ascii "NaN"
  | .null => []
  | .undefined => []

/-- The characters of `/[",\n\r]/`. -/
def reportSpecials : List CodeUnit := [quote, comma, lineFeed, carriageReturn]

def escapeCsvCell : CsvCellValue → Text
  | .null => []
  | .undefined => []
  | value => escapeText reportSpecials value.text

def buildCsv (headers : List Text) (rows : List (List CsvCellValue)) : Text :=
  joinWith lineFeed
    (joinWith comma (headers.map (fun header => escapeCsvCell (.string header))) ::
      rows.map (fun row => joinWith comma (row.map escapeCsvCell)))

/-! ## Reading -/

structure ParserState where
  rows : List (List Text)
  row : List Text
  cell : Text
  inQuotes : Bool
deriving DecidableEq

/-- The body of the loop of `parseCsv`; `true` is the second `index += 1`. -/
def parseCharacter (s : ParserState) (char : CodeUnit) (next : Option CodeUnit) :
    ParserState × Bool :=
  if char = quote then
    if s.inQuotes && next = some quote then ({ s with cell := s.cell ++ [quote] }, true)
    else ({ s with inQuotes := !s.inQuotes }, false)
  else if char = comma && !s.inQuotes then
    ({ s with row := s.row ++ [s.cell], cell := [] }, false)
  else if (char = lineFeed || char = carriageReturn) && !s.inQuotes then
    ({ s with rows := s.rows ++ [s.row ++ [s.cell]], row := [], cell := [] },
      char = carriageReturn && next = some lineFeed)
  else ({ s with cell := s.cell ++ [char] }, false)

def ParserState.finish (s : ParserState) : List (List Text) :=
  if 0 < s.cell.length || 0 < s.row.length then s.rows ++ [s.row ++ [s.cell]] else s.rows

def parseCsv (csv : Text) : List (List Text) :=
  (scan parseCharacter ⟨[], [], [], false⟩ csv).finish

example : parseCsv (ascii "a,\"b\"\"\n\"\r\nc,") = [[ascii "a", ascii "b\"\n"], [ascii "c", []]] := by
  decide +kernel

/-! ## Turns of the loop -/

section Turns

variable {rows : List (List Text)} {row : List Text} {cell : Text} {next : Option CodeUnit}
  {u : CodeUnit}

theorem parse_doubled : parseCharacter ⟨rows, row, cell, true⟩ quote (some quote) =
    (⟨rows, row, cell ++ [quote], true⟩, true) := rfl

theorem parse_closing (h : next ≠ some quote) :
    parseCharacter ⟨rows, row, cell, true⟩ quote next = (⟨rows, row, cell, false⟩, false) := by
  rw [parseCharacter, if_pos rfl, if_neg (by simpa using h)]
  rfl

theorem parse_opening :
    parseCharacter ⟨rows, row, cell, false⟩ quote next = (⟨rows, row, cell, true⟩, false) := rfl

theorem parse_quoted (h : u ≠ quote) :
    parseCharacter ⟨rows, row, cell, true⟩ u next = (⟨rows, row, cell ++ [u], true⟩, false) := by
  simp [parseCharacter, h]

theorem parse_comma : parseCharacter ⟨rows, row, cell, false⟩ comma next =
    (⟨rows, row ++ [cell], [], false⟩, false) := rfl

theorem parse_lineFeed : parseCharacter ⟨rows, row, cell, false⟩ lineFeed next =
    (⟨rows ++ [row ++ [cell]], [], [], false⟩, false) := rfl

theorem parse_carriageReturn : parseCharacter ⟨rows, row, cell, false⟩ carriageReturn next =
    (⟨rows ++ [row ++ [cell]], [], [], false⟩, decide (next = some lineFeed)) := rfl

theorem parse_plain (hquote : u ≠ quote) (hcomma : u ≠ comma) (hfeed : u ≠ lineFeed)
    (hreturn : u ≠ carriageReturn) : parseCharacter ⟨rows, row, cell, false⟩ u next =
      (⟨rows, row, cell ++ [u], false⟩, false) := by
  simp [parseCharacter, hquote, hcomma, hfeed, hreturn]

end Turns

/-! ## Reading what was written -/

/-- A cell that comes back: quoted, or without a carriage return. -/
def Recoverable (specials : List CodeUnit) (text : Text) : Prop :=
  text.any specials.contains = true ∨ carriageReturn ∉ text

section Reading

variable {specials : List CodeUnit} {text rest : Text} {rows : List (List Text)} {row : List Text}
  {cell : Text}

/-- The inside of quotes is read up to the closing quote. -/
theorem scan_doubleQuotes (hrest : rest.head? ≠ some quote) :
    scan parseCharacter ⟨rows, row, cell, true⟩ (doubleQuotes text ++ quote :: rest) =
      scan parseCharacter ⟨rows, row, cell ++ text, false⟩ rest := by
  induction text generalizing cell with
  | nil =>
    rw [List.append_nil]
    exact scan_cons (parse_closing hrest)
  | cons u text ih =>
    rw [doubleQuotes, List.flatMap_cons, ← doubleQuotes, List.append_assoc,
      List.append_cons cell u text]
    by_cases hquote : u = quote
    · subst hquote
      rw [if_pos rfl]
      exact (scan_cons_skip parse_doubled).trans ih
    · rw [if_neg hquote]
      exact (scan_cons (parse_quoted hquote)).trans ih

/-- A text without special characters is read as it is. -/
theorem scan_plain (hplain : ∀ u ∈ text, u ≠ quote ∧ u ≠ comma ∧ u ≠ lineFeed ∧
      u ≠ carriageReturn) :
    scan parseCharacter ⟨rows, row, cell, false⟩ (text ++ rest) =
      scan parseCharacter ⟨rows, row, cell ++ text, false⟩ rest := by
  induction text generalizing cell with
  | nil => rw [List.append_nil, List.nil_append]
  | cons u text ih =>
    obtain ⟨⟨hquote, hcomma, hfeed, hreturn⟩, htext⟩ := List.forall_mem_cons.1 hplain
    rw [List.cons_append, scan_cons (parse_plain hquote hcomma hfeed hreturn), ih htext,
      List.append_assoc]
    rfl

/-- A writer quotes quotes, commas and line feeds at least. -/
def Separating (specials : List CodeUnit) : Prop :=
  quote ∈ specials ∧ comma ∈ specials ∧ lineFeed ∈ specials

theorem ne_of_unquoted (hspecials : Separating specials)
    (hquoted : ¬ text.any specials.contains = true) {u : CodeUnit} (hu : u ∈ text) :
    u ≠ quote ∧ u ≠ comma ∧ u ≠ lineFeed := by
  have hnone : u ∉ specials := by
    intro hmem
    exact hquoted (List.any_eq_true.2 ⟨u, hu, List.contains_iff_mem.2 hmem⟩)
  refine ⟨?_, ?_, ?_⟩
  · rintro rfl
    exact hnone hspecials.1
  · rintro rfl
    exact hnone hspecials.2.1
  · rintro rfl
    exact hnone hspecials.2.2

theorem scan_escapeText (hspecials : Separating specials) (htext : Recoverable specials text)
    (hrest : rest.head? ≠ some quote) :
    scan parseCharacter ⟨rows, row, [], false⟩ (escapeText specials text ++ rest) =
      scan parseCharacter ⟨rows, row, text, false⟩ rest := by
  unfold escapeText
  by_cases hquoted : text.any specials.contains = true
  · rw [if_pos hquoted, List.cons_append, List.append_assoc, scan_cons parse_opening]
    exact scan_doubleQuotes hrest
  · rw [if_neg hquoted]
    refine scan_plain fun u hu => ?_
    obtain ⟨hquote, hcomma, hfeed⟩ := ne_of_unquoted hspecials hquoted hu
    refine ⟨hquote, hcomma, hfeed, ?_⟩
    rintro rfl
    exact htext.resolve_left hquoted hu

/-- A line as it is written. -/
def writeLine (specials : List CodeUnit) (cells : List Text) : Text :=
  joinWith comma (cells.map (escapeText specials))

/-- The lines of a document. -/
def writeLines (specials : List CodeUnit) (lines : List (List Text)) : Text :=
  joinWith lineFeed (lines.map (writeLine specials))

theorem joinWith_cons (separator : CodeUnit) (part : Text) {parts : List Text} (h : parts ≠ []) :
    joinWith separator (part :: parts) = part ++ separator :: joinWith separator parts := by
  obtain ⟨next, parts, rfl⟩ := List.exists_cons_of_ne_nil h
  simp [joinWith, List.intercalate, List.intersperse]

theorem joinWith_singleton (separator : CodeUnit) (part : Text) :
    joinWith separator [part] = part := by
  simp [joinWith, List.intercalate]

theorem joinWith_append {separator : CodeUnit} {parts parts' : List Text} (h : parts ≠ [])
    (h' : parts' ≠ []) : joinWith separator (parts ++ parts') =
      joinWith separator parts ++ separator :: joinWith separator parts' := by
  induction parts with
  | nil => exact absurd rfl h
  | cons part parts ih =>
    by_cases hparts : parts = []
    · subst hparts
      rw [joinWith_singleton]
      exact joinWith_cons separator part h'
    · rw [List.cons_append, joinWith_cons separator part (by simp [hparts]), ih hparts,
        joinWith_cons separator part hparts, List.append_assoc, List.cons_append]

theorem head_nil : ([] : Text).head? ≠ some quote := by
  rw [List.head?_nil]
  exact Option.some_ne_none _ ∘ Eq.symm

theorem head_comma (rest : Text) : (comma :: rest).head? ≠ some quote := by
  rw [List.head?_cons]
  decide

theorem head_lineFeed (rest : Text) : (lineFeed :: rest).head? ≠ some quote := by
  rw [List.head?_cons]
  decide

/-- A line is read up to its end: its last cell is still open. -/
theorem scan_writeLine (rows : List (List Text)) (row : List Text) {cells : List Text} (hspecials : Separating specials)
    (hcells : ∀ text ∈ cells, Recoverable specials text) (hne : cells ≠ [])
    (hrest : rest.head? ≠ some quote) :
    ∃ before last, before ++ [last] = row ++ cells ∧
      scan parseCharacter ⟨rows, row, [], false⟩ (writeLine specials cells ++ rest) =
        scan parseCharacter ⟨rows, before, last, false⟩ rest := by
  induction cells generalizing row with
  | nil => exact absurd rfl hne
  | cons text cells ih =>
    obtain ⟨htext, hcells⟩ := List.forall_mem_cons.1 hcells
    by_cases hlast : cells = []
    · subst hlast
      refine ⟨row, text, rfl, ?_⟩
      rw [writeLine, List.map_cons, List.map_nil, joinWith_singleton]
      exact scan_escapeText hspecials htext hrest
    · obtain ⟨before, last, hbefore, hscan⟩ := ih (row ++ [text]) hcells hlast
      refine ⟨before, last, by rw [hbefore, List.append_assoc]; rfl, ?_⟩
      rw [writeLine, List.map_cons, joinWith_cons _ _ (by simpa using hlast), ← writeLine,
        List.append_assoc, List.cons_append, scan_escapeText hspecials htext (head_comma _)]
      exact (scan_cons parse_comma).trans hscan

/-- The lines are read up to the end of the last. -/
theorem scan_writeLines (rows : List (List Text)) {lines : List (List Text)} (hspecials : Separating specials)
    (hlines : ∀ cells ∈ lines, cells ≠ [] ∧ ∀ text ∈ cells, Recoverable specials text)
    (hne : lines ≠ []) :
    ∃ rows' row last, rows' ++ [row ++ [last]] = rows ++ lines ∧
      scan parseCharacter ⟨rows, [], [], false⟩ (writeLines specials lines) =
        ⟨rows', row, last, false⟩ := by
  induction lines generalizing rows with
  | nil => exact absurd rfl hne
  | cons cells lines ih =>
    obtain ⟨⟨hcellsne, hcells⟩, hlines⟩ := List.forall_mem_cons.1 hlines
    by_cases hlast : lines = []
    · subst hlast
      obtain ⟨row, last, hrow, hscan⟩ := scan_writeLine rows [] hspecials hcells hcellsne
        head_nil
      rw [List.append_nil, scan_nil] at hscan
      refine ⟨rows, row, last, by rw [hrow, List.nil_append], ?_⟩
      rw [writeLines, List.map_cons, List.map_nil, joinWith_singleton, hscan]
    · obtain ⟨row, last, hrow, hscan⟩ := scan_writeLine rows [] hspecials hcells hcellsne
        (head_lineFeed (writeLines specials lines))
      obtain ⟨rows', row', last', hrows, hrest⟩ := ih (rows ++ [cells]) hlines hlast
      refine ⟨rows', row', last', by rw [hrows, List.append_assoc]; rfl, ?_⟩
      rw [writeLines, List.map_cons, joinWith_cons _ _ (by simpa using hlast), ← writeLines, hscan,
        scan_cons parse_lineFeed, hrow]
      exact hrest

/-- What is written is read back, unless the last line is a single empty cell: that line has
    no characters. -/
theorem parse_writeLines {lines : List (List Text)} (hspecials : Separating specials)
    (hlines : ∀ cells ∈ lines, cells ≠ [] ∧ ∀ text ∈ cells, Recoverable specials text)
    (hne : lines ≠ []) (hlast : lines.getLast? ≠ some [[]]) :
    parseCsv (writeLines specials lines) = lines := by
  obtain ⟨rows, row, last, hrows, hscan⟩ := scan_writeLines [] hspecials hlines hne
  rw [List.nil_append] at hrows
  have hopen : (0 < last.length || 0 < row.length) = true := by
    subst hrows
    rw [List.getLast?_concat] at hlast
    by_contra hclosed
    simp only [Bool.or_eq_true, decide_eq_true_eq, not_or, Nat.not_lt, Nat.le_zero,
      List.length_eq_zero_iff] at hclosed
    rw [hclosed.1, hclosed.2] at hlast
    exact hlast rfl
  rw [parseCsv, hscan, ParserState.finish, if_pos hopen, hrows]

end Reading

/-! ## What becomes of carriage returns -/

section CarriageReturns

/-- The carriage returns in the cells of a row. -/
def rowReturns (row : List Text) : Nat := (row.map (·.count carriageReturn)).sum

/-- The carriage returns in a list of rows. -/
def returns (rows : List (List Text)) : Nat := (rows.map rowReturns).sum

/-- The carriage returns of a document that stand in quotes. -/
def quotedReturns : Bool → Text → Nat
  | _, [] => 0
  | quoted, u :: rest =>
    (if quoted && u = carriageReturn then 1 else 0) + quotedReturns (quoted ^^ (u = quote)) rest

/-- The carriage returns that are stored, or in quotes before the reader. -/
def ParserState.returns (s : ParserState) (rest : Text) : Nat :=
  Csv.returns s.rows + rowReturns s.row + s.cell.count carriageReturn + quotedReturns s.inQuotes rest

variable {specials : List CodeUnit} {text rest : Text} {rows lines : List (List Text)}
  {row cells : List Text} {cell : Text} {u : CodeUnit}

theorem rowReturns_nil : rowReturns [] = 0 := rfl

theorem rowReturns_concat (row : List Text) (cell : Text) :
    rowReturns (row ++ [cell]) = rowReturns row + cell.count carriageReturn := by
  simp [rowReturns]

theorem returns_concat (rows : List (List Text)) (row : List Text) :
    returns (rows ++ [row]) = returns rows + rowReturns row := by
  simp [returns]

theorem returns_cons (row : List Text) (rows : List (List Text)) :
    returns (row :: rows) = rowReturns row + returns rows := by
  rw [returns, List.map_cons, List.sum_cons, ← returns]

theorem returns_append (rows rows' : List (List Text)) :
    returns (rows ++ rows') = returns rows + returns rows' := by
  rw [returns, List.map_append, List.sum_append, ← returns, ← returns]

theorem returns_lastRow (rows : List (List Text)) (row : List Text) (cell : Text) :
    returns (rows ++ [row ++ [cell]]) =
      returns rows + rowReturns row + cell.count carriageReturn := by
  rw [returns_concat, rowReturns_concat, Nat.add_assoc]

theorem quotedReturns_false_cons (hquote : u ≠ quote) :
    quotedReturns false (u :: rest) = quotedReturns false rest := by
  simp [quotedReturns, hquote]

theorem quotedReturns_true_cons (hquote : u ≠ quote) :
    quotedReturns true (u :: rest) = [u].count carriageReturn + quotedReturns true rest := by
  simp [quotedReturns, hquote, List.count_singleton]

theorem quotedReturns_quote (quoted : Bool) :
    quotedReturns quoted (quote :: rest) = quotedReturns (!quoted) rest := by
  have hquote : quote ≠ carriageReturn := by decide
  simp [quotedReturns, hquote]

theorem returns_mk (rows : List (List Text)) (row : List Text) (cell : Text) (quoted : Bool)
    (rest : Text) : ParserState.returns ⟨rows, row, cell, quoted⟩ rest =
      returns rows + rowReturns row + cell.count carriageReturn + quotedReturns quoted rest := rfl

/-- A symbol is skipped after a quote in quotes, and after a carriage return outside them. -/
theorem parseCharacter_skips {s : ParserState} {next : Option CodeUnit}
    (h : (parseCharacter s u next).2 = true) :
    (s.inQuotes = true ∧ u = quote ∧ next = some quote) ∨
      (s.inQuotes = false ∧ u = carriageReturn ∧ next = some lineFeed) := by
  unfold parseCharacter at h
  split at h
  case isTrue hquote =>
    split at h
    case isTrue hdoubled =>
      obtain ⟨hquoted, hnext⟩ := Bool.and_eq_true_iff.1 hdoubled
      exact .inl ⟨hquoted, hquote, of_decide_eq_true hnext⟩
    case isFalse => cases h
  split at h
  case isTrue => cases h
  split at h
  case isTrue hend =>
    obtain ⟨-, hquoted⟩ := Bool.and_eq_true_iff.1 hend
    obtain ⟨hreturn, hnext⟩ := Bool.and_eq_true_iff.1 h
    exact .inr ⟨by simpa using hquoted, of_decide_eq_true hreturn, of_decide_eq_true hnext⟩
  case isFalse => cases h

/-- Outside quotes carriage returns are not stored: they end a row. -/
theorem conserved_returns : Conserved parseCharacter ParserState.returns where
  stays := by
    rintro ⟨rows, row, cell, _ | _⟩ u rest hstay
    case false =>
      by_cases hquote : u = quote
      · subst hquote
        simp only [parse_opening, returns_mk, quotedReturns_quote, Bool.not_false]
      rw [returns_mk rows row cell false (u :: rest), quotedReturns_false_cons hquote]
      by_cases hcomma : u = comma
      · subst hcomma
        simp only [parse_comma, returns_mk, rowReturns_concat, List.count_nil]
        omega
      by_cases hfeed : u = lineFeed
      · subst hfeed
        simp only [parse_lineFeed, returns_mk, returns_lastRow, rowReturns_nil, List.count_nil]
        omega
      by_cases hreturn : u = carriageReturn
      · subst hreturn
        simp only [parse_carriageReturn, returns_mk, returns_lastRow, rowReturns_nil,
          List.count_nil]
        omega
      simp only [parse_plain hquote hcomma hfeed hreturn, returns_mk, List.count_append,
        List.count_singleton, beq_iff_eq, hreturn, if_false, Nat.add_zero]
    case true =>
      by_cases hquote : u = quote
      · subst hquote
        have hnext : rest.head? ≠ some quote := by
          intro hnext
          rw [hnext, parse_doubled] at hstay
          cases hstay
        simp only [parse_closing hnext, returns_mk, quotedReturns_quote, Bool.not_true]
      · simp only [parse_quoted hquote, returns_mk, quotedReturns_true_cons hquote,
          List.count_append]
        omega
  skips := by
    rintro ⟨rows, row, cell, quoted⟩ u v rest hskip
    obtain ⟨rfl, rfl, hnext⟩ | ⟨rfl, rfl, hnext⟩ := parseCharacter_skips hskip
    · obtain rfl := Option.some.inj hnext
      have hcount : [quote].count carriageReturn = 0 := by decide
      simp only [parse_doubled, returns_mk, quotedReturns_quote, List.count_append, hcount,
        Nat.add_zero, Bool.not_true, Bool.not_false]
    · obtain rfl := Option.some.inj hnext
      have hreturn : carriageReturn ≠ quote := by decide
      have hfeed : lineFeed ≠ quote := by decide
      simp only [parse_carriageReturn, returns_mk, returns_lastRow, rowReturns_nil, List.count_nil,
        quotedReturns_false_cons hreturn, quotedReturns_false_cons hfeed]
      omega
  ends := by
    intro s u
    refine Bool.eq_false_iff.2 fun hskip => ?_
    obtain ⟨-, -, hnext⟩ | ⟨-, -, hnext⟩ := parseCharacter_skips hskip
    · cases hnext
    · cases hnext

theorem returns_finish (s : ParserState) : returns s.finish = s.returns [] := by
  obtain ⟨rows, row, cell, quoted⟩ := s
  rw [returns_mk, ParserState.finish]
  split
  case isTrue => exact returns_lastRow rows row cell
  case isFalse hclosed =>
    simp only [Bool.or_eq_true, decide_eq_true_eq, not_or, Nat.not_lt, Nat.le_zero,
      List.length_eq_zero_iff] at hclosed
    rw [hclosed.1, hclosed.2]
    rfl

/-- The reader returns the carriage returns in quotes, and no others. -/
theorem returns_parseCsv (csv : Text) : returns (parseCsv csv) = quotedReturns false csv := by
  rw [parseCsv, returns_finish, conserved_returns.scan, returns_mk, rowReturns_nil, List.count_nil]
  exact Nat.zero_add _

/-- The carriage returns of a cell that is put in quotes. -/
def keptReturns (specials : List CodeUnit) (text : Text) : Nat :=
  if text.any specials.contains then text.count carriageReturn else 0

theorem keptReturns_le (specials : List CodeUnit) (text : Text) :
    keptReturns specials text ≤ text.count carriageReturn := by
  unfold keptReturns
  split
  · exact Nat.le_refl _
  · exact Nat.zero_le _

theorem recoverable_iff : Recoverable specials text ↔
    keptReturns specials text = text.count carriageReturn := by
  unfold Recoverable keptReturns
  split
  case isTrue hquoted => exact iff_of_true (.inl hquoted) rfl
  case isFalse hquoted =>
    rw [or_iff_right hquoted, eq_comm, List.count_eq_zero]

theorem quotedReturns_doubleQuotes :
    quotedReturns true (doubleQuotes text ++ quote :: rest) =
      text.count carriageReturn + quotedReturns false rest := by
  induction text with
  | nil =>
    rw [List.count_nil, Nat.zero_add]
    exact quotedReturns_quote true
  | cons u text ih =>
    have hcount : (u :: text).count carriageReturn =
        [u].count carriageReturn + text.count carriageReturn := by
      rw [List.count_cons, List.count_singleton, Nat.add_comm]
    rw [doubleQuotes, List.flatMap_cons, ← doubleQuotes, List.append_assoc, hcount, Nat.add_assoc,
      ← ih]
    by_cases hquote : u = quote
    · subst hquote
      have hcount : [quote].count carriageReturn = 0 := by decide
      rw [if_pos rfl, hcount, Nat.zero_add]
      exact (quotedReturns_quote true).trans (quotedReturns_quote false)
    · rw [if_neg hquote]
      exact quotedReturns_true_cons hquote

theorem quotedReturns_plain (hplain : ∀ u ∈ text, u ≠ quote) :
    quotedReturns false (text ++ rest) = quotedReturns false rest := by
  induction text with
  | nil => rfl
  | cons u text ih =>
    obtain ⟨hu, htext⟩ := List.forall_mem_cons.1 hplain
    exact (quotedReturns_false_cons hu).trans (ih htext)

theorem quotedReturns_escapeText (hspecials : Separating specials) (text rest : Text) :
    quotedReturns false (escapeText specials text ++ rest) =
      keptReturns specials text + quotedReturns false rest := by
  unfold escapeText keptReturns
  by_cases hquoted : text.any specials.contains = true
  · rw [if_pos hquoted, if_pos hquoted, List.cons_append, List.append_assoc,
      quotedReturns_quote false]
    exact quotedReturns_doubleQuotes
  · rw [if_neg hquoted, if_neg hquoted, Nat.zero_add]
    exact quotedReturns_plain fun u hu => (ne_of_unquoted hspecials hquoted hu).1

theorem quotedReturns_writeLine (hspecials : Separating specials) (cells : List Text)
    (rest : Text) : quotedReturns false (writeLine specials cells ++ rest) =
      (cells.map (keptReturns specials)).sum + quotedReturns false rest := by
  induction cells with
  | nil => rw [List.map_nil, List.sum_nil, Nat.zero_add]; rfl
  | cons text cells ih =>
    rw [List.map_cons, List.sum_cons, writeLine, List.map_cons]
    by_cases hlast : cells = []
    · subst hlast
      rw [List.map_nil, List.map_nil, List.sum_nil, joinWith_singleton]
      exact quotedReturns_escapeText hspecials text rest
    · rw [joinWith_cons _ _ (by simpa using hlast), ← writeLine, List.append_assoc,
        List.cons_append, quotedReturns_escapeText hspecials,
        quotedReturns_false_cons (by decide : comma ≠ quote), ih, Nat.add_assoc]

theorem quotedReturns_writeLines (hspecials : Separating specials) (lines : List (List Text)) :
    quotedReturns false (writeLines specials lines) =
      (lines.map (fun cells => (cells.map (keptReturns specials)).sum)).sum := by
  induction lines with
  | nil => rfl
  | cons cells lines ih =>
    rw [List.map_cons, List.sum_cons, writeLines, List.map_cons, ← ih]
    by_cases hlast : lines = []
    · subst hlast
      have hline := quotedReturns_writeLine hspecials cells []
      rw [List.append_nil] at hline
      rw [List.map_nil, joinWith_singleton]
      exact hline
    · rw [joinWith_cons _ _ (by simpa using hlast), ← writeLines,
        quotedReturns_writeLine hspecials,
        quotedReturns_false_cons (by decide : lineFeed ≠ quote)]

/-- If no carriage return of the rows is lost, every cell comes back. -/
theorem recoverable_of_returns_le
    (h : returns rows ≤ (rows.map (fun cells => (cells.map (keptReturns specials)).sum)).sum) :
    ∀ cells ∈ rows, ∀ text ∈ cells, Recoverable specials text := by
  have hrow : ∀ cells : List Text, (cells.map (keptReturns specials)).sum ≤ rowReturns cells :=
    fun cells => List.sum_le_sum fun text _ => keptReturns_le specials text
  intro cells hcells text htext
  have hcell := eq_of_sum_le (fun cells _ => hrow cells) h cells hcells
  exact recoverable_iff.2
    (eq_of_sum_le (fun text _ => keptReturns_le specials text) hcell.ge text htext)

theorem parse_writeLines_of_two_le (hspecials : Separating specials)
    (htwo : ∀ cells ∈ lines, 2 ≤ cells.length) (hne : lines ≠ [])
    (hcells : ∀ cells ∈ lines, ∀ text ∈ cells, Recoverable specials text) :
    parseCsv (writeLines specials lines) = lines := by
  refine parse_writeLines hspecials (fun cells hmem => ⟨?_, hcells cells hmem⟩) hne ?_
  · rintro rfl
    exact absurd (htwo [] hmem) (by decide)
  · intro hlast
    exact absurd (htwo [[]] (List.mem_of_getLast? hlast)) (by decide)

/-- A document of the first rows is read as all the rows exactly when it has them all, and
    every cell of them comes back. -/
theorem parse_take_iff {header : List Text} (hspecials : Separating specials)
    (hheader : 2 ≤ header.length) (hnames : ∀ text ∈ header, Recoverable specials text)
    (hrows : ∀ cells ∈ rows, 2 ≤ cells.length) (count : Nat) :
    parseCsv (writeLines specials (header :: rows.take count)) = header :: rows ↔
      rows.length ≤ count ∧ ∀ cells ∈ rows, ∀ text ∈ cells, Recoverable specials text := by
  have htwo : ∀ cells ∈ header :: rows.take count, 2 ≤ cells.length :=
    List.forall_mem_cons.2 ⟨hheader, fun cells hcells => hrows cells (List.mem_of_mem_take hcells)⟩
  constructor
  · intro h
    have hreturns := congrArg returns h
    rw [returns_parseCsv, quotedReturns_writeLines hspecials] at hreturns
    have hsplit : returns rows = returns (rows.take count) + returns (rows.drop count) := by
      rw [← returns_append, List.take_append_drop]
    have hcells : ∀ cells ∈ header :: rows.take count, ∀ text ∈ cells, Recoverable specials text := by
      refine recoverable_of_returns_le ?_
      rw [hreturns, returns_cons, returns_cons, hsplit]
      omega
    rw [parse_writeLines_of_two_le hspecials htwo (List.cons_ne_nil _ _) hcells] at h
    have htake := (List.cons.inj h).2
    rw [htake] at hcells
    exact ⟨(List.take_eq_self_iff rows).1 htake, (List.forall_mem_cons.1 hcells).2⟩
  · rintro ⟨hlength, hcells⟩
    rw [List.take_of_length_le hlength] at htwo ⊢
    exact parse_writeLines_of_two_le hspecials htwo (List.cons_ne_nil _ _)
      (List.forall_mem_cons.2 ⟨hnames, hcells⟩)

end CarriageReturns

/-! ## The round trip of a report -/

/-- The rows of cell texts, the headers first. -/
def table (headers : List Text) (rows : List (List CsvCellValue)) : List (List Text) :=
  headers :: rows.map (fun row => row.map CsvCellValue.text)

/-- Rows of two cells or more. Of the headers it is enough that there is one, and that it is
    not all there is and empty. -/
structure Tabular (headers : List Text) (rows : List (List CsvCellValue)) : Prop where
  headers_ne : headers ≠ []
  two_le : ∀ row ∈ rows, 2 ≤ row.length
  headers_alone : rows = [] → headers ≠ [[]]

theorem Tabular.of_two_le {headers : List Text} {rows : List (List CsvCellValue)}
    (h : 2 ≤ headers.length) (hrows : ∀ row ∈ rows, 2 ≤ row.length) : Tabular headers rows where
  headers_ne := by
    rintro rfl
    exact absurd h (by decide)
  two_le := hrows
  headers_alone := by
    rintro - rfl
    exact absurd h (by decide)

theorem separating_reportSpecials : Separating reportSpecials := by
  refine ⟨?_, ?_, ?_⟩ <;> simp [reportSpecials]

/-- The writer of the reports quotes carriage returns too. -/
theorem recoverable_reportSpecials (text : Text) : Recoverable reportSpecials text := by
  by_cases hreturn : carriageReturn ∈ text
  · exact .inl (List.any_eq_true.2 ⟨carriageReturn, hreturn, by simp [reportSpecials]⟩)
  · exact .inr hreturn

theorem escapeCsvCell_eq (value : CsvCellValue) :
    escapeCsvCell value = escapeText reportSpecials value.text := by
  cases value <;> rfl

theorem buildCsv_eq (headers : List Text) (rows : List (List CsvCellValue)) :
    buildCsv headers rows = writeLines reportSpecials (table headers rows) := by
  have hrow : ∀ row : List CsvCellValue, joinWith comma (row.map escapeCsvCell) =
      writeLine reportSpecials (row.map CsvCellValue.text) := by
    intro row
    rw [writeLine, List.map_map]
    exact congrArg _ (List.map_congr_left fun value _ => escapeCsvCell_eq value)
  have hheaders : headers.map (fun header => escapeCsvCell (.string header)) =
      headers.map (escapeText reportSpecials) :=
    List.map_congr_left fun header _ => escapeCsvCell_eq (.string header)
  rw [buildCsv, writeLines, table, List.map_cons, List.map_map, hheaders]
  exact congrArg _ (congrArg _ (List.map_congr_left fun row _ => hrow row))

section RoundTrip

variable {headers headers' : List Text} {rows rows' : List (List CsvCellValue)}

theorem Tabular.ne_nil (h : Tabular headers rows) :
    ∀ cells ∈ table headers rows, cells ≠ [] ∧ ∀ text ∈ cells, Recoverable reportSpecials text := by
  intro cells hcells
  refine ⟨?_, fun text _ => recoverable_reportSpecials text⟩
  rcases List.mem_cons.1 hcells with rfl | hcells
  · exact h.headers_ne
  · obtain ⟨row, hrow, rfl⟩ := List.mem_map.1 hcells
    rintro hnil
    have htwo := h.two_le row hrow
    rw [List.map_eq_nil_iff.1 hnil] at htwo
    exact absurd htwo (by decide)

theorem Tabular.getLast?_ne (h : Tabular headers rows) :
    (table headers rows).getLast? ≠ some [[]] := by
  rcases List.eq_nil_or_concat rows with rfl | ⟨rows, row, rfl⟩
  · rw [table, List.map_nil, List.getLast?_singleton]
    exact fun heq => h.headers_alone rfl (Option.some.inj heq)
  · rw [table, List.concat_eq_append, List.map_append, List.map_singleton, ← List.cons_append,
      List.getLast?_concat]
    intro heq
    have htwo := h.two_le row (by simp)
    rw [← List.length_map CsvCellValue.text, Option.some.inj heq] at htwo
    exact absurd htwo (by decide)

/-- What the writer of the reports writes is read back for the spreadsheet, also when two
    documents follow one another. -/
theorem parseCsv_buildCsv (h : Tabular headers rows) :
    parseCsv (buildCsv headers rows) = table headers rows ∧
      ∀ headers' rows', Tabular headers' rows' →
        parseCsv (buildCsv headers rows ++ lineFeed :: buildCsv headers' rows') =
          table headers rows ++ table headers' rows' := by
  have hone : ∀ {headers rows}, Tabular headers rows →
      parseCsv (buildCsv headers rows) = table headers rows := by
    intro headers rows h
    rw [buildCsv_eq]
    exact parse_writeLines separating_reportSpecials h.ne_nil (List.cons_ne_nil _ _) h.getLast?_ne
  refine ⟨hone h, fun headers' rows' h' => ?_⟩
  have hjoin : buildCsv headers rows ++ lineFeed :: buildCsv headers' rows' =
      writeLines reportSpecials (table headers rows ++ table headers' rows') := by
    rw [writeLines, List.map_append, joinWith_append (by simp [table]) (by simp [table]),
      buildCsv_eq, buildCsv_eq, writeLines, writeLines]
  rw [hjoin]
  refine parse_writeLines separating_reportSpecials ?_ (by simp [table]) ?_
  · intro cells hcells
    exact (List.mem_append.1 hcells).elim (h.ne_nil cells) (h'.ne_nil cells)
  · have hne : table headers' rows' ≠ [] := List.cons_ne_nil _ _
    rw [List.getLast?_append_of_ne_nil _ hne]
    exact h'.getLast?_ne

/-- A cell of special characters, next to a missing one. -/
theorem parseCsv_buildCsv_specials :
    parseCsv (buildCsv [ascii "Metric", ascii "Value"] [[.string reportSpecials, .null]]) =
      [[ascii "Metric", ascii "Value"], [[quote, comma, lineFeed, carriageReturn], []]] :=
  (parseCsv_buildCsv (Tabular.of_two_le (by decide) (by decide))).1

end RoundTrip

end Expentra.Csv
