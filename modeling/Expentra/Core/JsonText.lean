-- SUMMARY: The values `JSON.parse` returns, and their text as `JSON.stringify` writes it.
import Expentra.Core.NumberText
import Expentra.Library.SelfDelimiting

/-!
# JSON text

`JSON.stringify` writes a value without spaces, the properties of an object in its own
order. Equal texts come from values that differ at most in numbers beyond the range of
doubles, which are written as `null`.
-/

namespace Expentra

/-- A value of JSON in memory. The properties of an object stand in property order. -/
inductive JsonValue where
  | null
  | bool (b : Bool)
  | num (n : JsonNumber)
  | str (s : Text)
  | arr (items : List JsonValue)
  | obj (fields : List (Text × JsonValue))

/-! ## Strings -/

namespace Text

def isHighSurrogate (u : CodeUnit) : Bool := 0xD800 ≤ u.val && u.val ≤ 0xDBFF

def isLowSurrogate (u : CodeUnit) : Bool := 0xDC00 ≤ u.val && u.val ≤ 0xDFFF

/-- The code units with an escape of one letter. -/
def shortEscapes : List (CodeUnit × CodeUnit) :=
  [(8, unit 'b'), (9, unit 't'), (10, unit 'n'), (12, unit 'f'), (13, unit 'r'),
    (unit '"', unit '"'), (unit '\\', unit '\\')]

/-- A digit of base sixteen, in lower case. -/
def hexDigit (n : Nat) : CodeUnit :=
  if n < 10 then Fin.ofNat 65536 (48 + n) else Fin.ofNat 65536 (87 + n)

/-- The escape of a code unit, without the backslash. -/
def escape (u : CodeUnit) : Text :=
  match shortEscapes.find? (fun entry => entry.1 = u) with
  | some (_, letter) => [letter]
  | none => [unit 'u', hexDigit (u.val / 4096), hexDigit (u.val / 256 % 16),
      hexDigit (u.val / 16 % 16), hexDigit (u.val % 16)]

/-- The code units that never stand for themselves between quotes. -/
def isSpecial (u : CodeUnit) : Bool := u.val < 0x20 || u = unit '"' || u = unit '\\'

/-- A code unit of a quoted string, as it is written. -/
structure Mark where
  unit : CodeUnit
  escaped : Bool
  escaped_of_special : isSpecial unit = true → escaped = true

def Mark.text (m : Mark) : Text := if m.escaped then Text.unit '\\' :: escape m.unit else [m.unit]

/-- Whether a surrogate has its other half next to it. -/
def isPaired (previous : Option CodeUnit) (u : CodeUnit) (next : Option CodeUnit) : Bool :=
  isHighSurrogate u && next.any isLowSurrogate || isLowSurrogate u && previous.any isHighSurrogate

/-- Special code units and lone surrogates are escaped. -/
def marks (previous : Option CodeUnit) : Text → List Mark
  | [] => []
  | u :: rest =>
    ⟨u, isSpecial u || (isHighSurrogate u || isLowSurrogate u) && !isPaired previous u rest.head?,
      fun h => by rw [h]; rfl⟩ :: marks (some u) rest

/-- `QuoteJSONString` -/
def quote (s : Text) : Text :=
  unit '"' :: ((marks none s).flatMap Mark.text ++ [unit '"'])

theorem map_marks (previous : Option CodeUnit) (s : Text) :
    (marks previous s).map Mark.unit = s := by
  induction s generalizing previous with
  | nil => rfl
  | cons u rest ih => rw [marks, List.map_cons, ih]

/-- Two short escapes with one letter are one. -/
theorem shortEscapes_inj : ∀ p ∈ shortEscapes, ∀ q ∈ shortEscapes, p.2 = q.2 → p.1 = q.1 := by
  have hall : (shortEscapes.all (fun p => shortEscapes.all (fun q =>
      decide (p.2 = q.2 → p.1 = q.1)))) = true := by decide
  intro p hp q hq
  exact of_decide_eq_true (List.all_eq_true.1 (List.all_eq_true.1 hall p hp) q hq)

theorem shortEscapes_ne : ∀ p ∈ shortEscapes, p.2 ≠ unit 'u' := by
  have hall : (shortEscapes.all (fun p => decide (p.2 ≠ unit 'u'))) = true := by decide
  intro p hp
  exact of_decide_eq_true (List.all_eq_true.1 hall p hp)

theorem hexDigit_inj {n m : Nat} (hn : n < 16) (hm : m < 16) (h : hexDigit n = hexDigit m) :
    n = m := by
  have hval := congrArg Fin.val h
  simp only [hexDigit] at hval
  split at hval <;> split at hval <;> simp only [Fin.ofNat] at hval <;> omega

theorem escape_eq_short {u : CodeUnit} {entry : CodeUnit × CodeUnit}
    (h : shortEscapes.find? (fun entry => entry.1 = u) = some entry) :
    escape u = [entry.2] ∧ entry ∈ shortEscapes ∧ entry.1 = u := by
  refine ⟨by rw [escape, h], List.mem_of_find?_eq_some h, ?_⟩
  simpa using List.find?_some h

theorem escape_tells {u v : CodeUnit} {rest rest' : Text}
    (h : escape u ++ rest = escape v ++ rest') : u = v ∧ rest = rest' := by
  cases hu : shortEscapes.find? (fun entry => entry.1 = u) with
  | some entry =>
    obtain ⟨hescape, hmem, rfl⟩ := escape_eq_short hu
    cases hv : shortEscapes.find? (fun entry => entry.1 = v) with
    | some entry' =>
      obtain ⟨hescape', hmem', rfl⟩ := escape_eq_short hv
      rw [hescape, hescape'] at h
      obtain ⟨hletter, hrest⟩ := List.cons.inj h
      exact ⟨shortEscapes_inj _ hmem _ hmem' hletter, hrest⟩
    | none =>
      rw [hescape, escape, hv] at h
      exact absurd (List.cons.inj h).1 (shortEscapes_ne _ hmem)
  | none =>
    cases hv : shortEscapes.find? (fun entry => entry.1 = v) with
    | some entry' =>
      obtain ⟨hescape', hmem', rfl⟩ := escape_eq_short hv
      rw [hescape', escape, hu] at h
      exact absurd (List.cons.inj h).1.symm (shortEscapes_ne _ hmem')
    | none =>
      rw [escape, escape, hu, hv] at h
      simp only [List.cons_append, List.nil_append, List.cons.injEq, true_and] at h
      obtain ⟨h1, h2, h3, h4, hrest⟩ := h
      have hlt := u.isLt
      have hlt' := v.isLt
      have h1 := hexDigit_inj (by omega) (by omega) h1
      have h2 := hexDigit_inj (by omega) (by omega) h2
      have h3 := hexDigit_inj (by omega) (by omega) h3
      have h4 := hexDigit_inj (by omega) (by omega) h4
      exact ⟨Fin.ext (by omega), hrest⟩

theorem mark_tells (m : Mark) : Library.Tells Mark.text Mark.unit (fun _ => True) m := by
  have hraw (m : Mark) (hm : m.escaped = false) : m.unit ≠ Text.unit '\\' := by
    intro hunit
    have hescaped := m.escaped_of_special (by rw [hunit]; rfl)
    rw [hm] at hescaped
    cases hescaped
  intro m' rest rest' _ _ heq
  rw [Mark.text, Mark.text] at heq
  cases hm : m.escaped <;> cases hm' : m'.escaped <;>
    simp only [hm, hm', if_true, Bool.false_eq_true, if_false, List.cons_append, List.nil_append,
      List.cons.injEq] at heq
  · exact heq
  · exact absurd heq.1 (hraw m hm)
  · exact absurd heq.1.symm (hraw m' hm')
  · exact escape_tells heq.2

/-- A quoted string tells the string, whatever follows it. -/
theorem quote_tells (s : Text) : Library.Tells quote id (fun _ => True) s := by
  intro s' rest rest' _ _ heq
  simp only [quote, List.cons_append, List.append_assoc, List.nil_append, List.cons.injEq,
    true_and] at heq
  have hopens (m : Mark) (tail tail' : Text) : m.text ++ tail ≠ unit '"' :: tail' := by
    intro h
    rw [Mark.text] at h
    split at h
    · exact absurd (List.cons.inj h).1 (by decide)
    case isFalse hraw =>
      have hspecial : isSpecial m.unit = true := by
        rw [(List.cons.inj h).1]
        rfl
      exact hraw (m.escaped_of_special hspecial)
  obtain ⟨hunits, hrest⟩ := Library.flatMap_tells (fun m _ => mark_tells m) hopens heq
  rw [map_marks, map_marks] at hunits
  exact ⟨hunits, hrest⟩

end Text

/-! ## Values -/

namespace JsonValue

open Text

mutual

/-- `JSON.stringify` -/
def stringify : JsonValue → Text
  | .null => ascii "null"
  | .bool b => ascii (if b then "true" else "false")
  | .num n => n.toText
  | .str s => quote s
  | .arr items => unit '[' :: (stringifyItems items ++ [unit ']'])
  | .obj fields => unit '\x7b' :: (stringifyFields fields ++ [unit '\x7d'])

def stringifyItems : List JsonValue → Text
  | [] => []
  | [x] => stringify x
  | x :: y :: others => stringify x ++ unit ',' :: stringifyItems (y :: others)

def stringifyFields : List (Text × JsonValue) → Text
  | [] => []
  | [(key, x)] => quote key ++ unit ':' :: stringify x
  | (key, x) :: field :: others =>
    quote key ++ unit ':' :: stringify x ++ unit ',' :: stringifyFields (field :: others)

end

mutual

/-- What is left of a value in its text: numbers beyond the range of doubles become `null`. -/
def printed : JsonValue → JsonValue
  | .null => .null
  | .bool b => .bool b
  | .num (.infinite _) => .null
  | .num n => .num n
  | .str s => .str s
  | .arr items => .arr (printedItems items)
  | .obj fields => .obj (printedFields fields)

def printedItems : List JsonValue → List JsonValue
  | [] => []
  | x :: others => printed x :: printedItems others

def printedFields : List (Text × JsonValue) → List (Text × JsonValue)
  | [] => []
  | (key, x) :: others => (key, printed x) :: printedFields others

end

/-- A property, as it is written between braces. -/
def stringifyField (field : Text × JsonValue) : Text :=
  quote field.1 ++ unit ':' :: stringify field.2

def printedField (field : Text × JsonValue) : Text × JsonValue := (field.1, printed field.2)

theorem stringifyItems_eq (items : List JsonValue) :
    stringifyItems items = Library.separated (unit ',') stringify items := by
  induction items with
  | nil => simp only [stringifyItems, Library.separated]
  | cons x others ih =>
    cases others with
    | nil => simp only [stringifyItems, Library.separated]
    | cons y others => rw [stringifyItems, ih, Library.separated]

theorem stringifyFields_eq (fields : List (Text × JsonValue)) :
    stringifyFields fields = Library.separated (unit ',') stringifyField fields := by
  induction fields with
  | nil => simp only [stringifyFields, Library.separated]
  | cons field others ih =>
    cases others with
    | nil => simp only [stringifyFields, Library.separated, stringifyField]
    | cons field' others => rw [stringifyFields, ih, Library.separated, stringifyField]

theorem printedItems_eq (items : List JsonValue) : printedItems items = items.map printed := by
  induction items with
  | nil => rw [printedItems, List.map_nil]
  | cons x others ih => rw [printedItems, ih, List.map_cons]

theorem printedFields_eq (fields : List (Text × JsonValue)) :
    printedFields fields = fields.map printedField := by
  induction fields with
  | nil => rw [printedFields, List.map_nil]
  | cons field others ih => rw [printedFields, ih, List.map_cons, printedField]

theorem printed_num {n : JsonNumber} (hn : n.printed = some n) : printed (.num n) = .num n := by
  cases n with
  | zero => rw [printed]; exact fun _ h => by cases h
  | decimal n => rw [printed]; exact fun _ h => by cases h
  | infinite negative => cases hn

/-! ### Property order -/

/-- The index a property key is the numeral of, if it is one. -/
def arrayIndex (key : Text) : Option Nat :=
  if key = natural (Numeral.value key) ∧ Numeral.value key < 4294967295 then
    some (Numeral.value key)
  else none

/-- Whether a property stands before another one: indices ascend and come first, other keys
    stand in the order of their creation. -/
def precedes (key key' : Text) : Bool :=
  match arrayIndex key, arrayIndex key' with
  | some n, some m => n < m
  | some _, none => true
  | none, some _ => false
  | none, none => key ≠ key'

mutual

/-- Whether the properties of every object stand in property order, each key once. -/
def isOrdered : JsonValue → Bool
  | .arr items => itemsOrdered items
  | .obj fields => decide (fields.Pairwise (fun field field' => precedes field.1 field'.1)) &&
      fieldsOrdered fields
  | .null | .bool _ | .num _ | .str _ => true

def itemsOrdered : List JsonValue → Bool
  | [] => true
  | x :: others => isOrdered x && itemsOrdered others

def fieldsOrdered : List (Text × JsonValue) → Bool
  | [] => true
  | (_, x) :: others => isOrdered x && fieldsOrdered others

end

theorem precedes_ne {key key' : Text} (h : precedes key key' = true) : key ≠ key' := by
  rintro rfl
  rw [precedes] at h
  split at h
  case h_1 n m hn hm =>
    rw [hn] at hm
    exact absurd (of_decide_eq_true h) (Option.some.inj hm ▸ Nat.lt_irrefl n)
  case h_2 n hn hm => rw [hn] at hm; cases hm
  case h_3 => cases h
  case h_4 => exact of_decide_eq_true h rfl

/-- No two properties of an object have one key. -/
theorem nodup_keys {fields : List (Text × JsonValue)} (h : (JsonValue.obj fields).isOrdered) :
    (fields.map Prod.fst).Nodup := by
  rw [isOrdered, Bool.and_eq_true] at h
  exact List.pairwise_map.2 ((of_decide_eq_true h.1).imp precedes_ne)

/-! ### The first code unit -/

/-- The kinds of values a text can start. -/
inductive Kind where
  | null
  | bool
  | num
  | str
  | arr
  | obj
deriving DecidableEq

def kind : JsonValue → Kind
  | .null => .null
  | .bool _ => .bool
  | .num _ => .num
  | .str _ => .str
  | .arr _ => .arr
  | .obj _ => .obj

/-- The kind of value a code unit starts. -/
def opens (u : CodeUnit) : Option Kind :=
  if isNumeral u then some .num
  else if u = unit 'n' then some .null
  else if u = unit 't' ∨ u = unit 'f' then some .bool
  else if u = unit '"' then some .str
  else if u = unit '[' then some .arr
  else if u = unit '\x7b' then some .obj
  else none

theorem head_stringify (x : JsonValue) :
    ∃ u tail, stringify x = u :: tail ∧ opens u = some (printed x).kind := by
  cases x with
  | null => exact ⟨_, _, by rw [stringify]; rfl, by rw [printed]; rfl⟩
  | bool b => cases b <;> exact ⟨_, _, by rw [stringify]; rfl, by rw [printed]; rfl⟩
  | num n =>
    rw [stringify]
    cases hn : n with
    | infinite negative => exact ⟨_, _, rfl, by rw [printed]; rfl⟩
    | zero => exact ⟨_, _, rfl, by rw [printed_num rfl]; rfl⟩
    | decimal n =>
      obtain ⟨u, tail, htext, hu⟩ := JsonNumber.head_toText (JsonNumber.printed_decimal n)
      refine ⟨u, tail, htext, ?_⟩
      rw [printed_num rfl, opens, if_pos hu]
      rfl
  | str s => exact ⟨_, _, by rw [stringify]; rfl, by rw [printed]; rfl⟩
  | arr items => exact ⟨_, _, by rw [stringify], by rw [printed]; rfl⟩
  | obj fields => exact ⟨_, _, by rw [stringify], by rw [printed]; rfl⟩

/-- Texts that go on the same way were written from values of one kind. -/
theorem kind_eq {x y : JsonValue} {rest rest' : Text}
    (h : stringify x ++ rest = stringify y ++ rest') : (printed y).kind = (printed x).kind := by
  obtain ⟨u, tail, htext, hu⟩ := head_stringify x
  obtain ⟨v, tail', htext', hv⟩ := head_stringify y
  rw [htext, htext'] at h
  rw [(List.cons.inj h).1, hv] at hu
  exact Option.some.inj hu

theorem stringify_ne_nil (x : JsonValue) : stringify x ≠ [] := by
  obtain ⟨u, tail, htext, -⟩ := head_stringify x
  rw [htext]
  exact List.cons_ne_nil u tail

/-- No value starts like the end of an array. -/
theorem stringify_ne_bracket (x : JsonValue) (tail tail' : Text) :
    stringify x ++ tail ≠ unit ']' :: tail' := by
  intro h
  obtain ⟨u, others, htext, hu⟩ := head_stringify x
  rw [htext] at h
  rw [(List.cons.inj h).1] at hu
  cases hu

theorem stringifyField_ne_brace (field : Text × JsonValue) (tail tail' : Text) :
    stringifyField field ++ tail ≠ unit '\x7d' :: tail' :=
  fun h => absurd (List.cons.inj h).1 (by decide)

/-- Values of one kind, up to numbers beyond the range of doubles. -/
theorem num_of_kind {x : JsonValue} (h : (printed x).kind = .num) :
    ∃ n, x = .num n ∧ n.printed = some n := by
  cases x with
  | num n =>
    cases n with
    | infinite negative =>
      rw [printed] at h
      cases h
    | zero => exact ⟨_, rfl, rfl⟩
    | decimal n => exact ⟨_, rfl, rfl⟩
  | _ =>
    rw [printed] at h
    cases h

theorem kind_of_kind {x : JsonValue} {k : Kind} (h : (printed x).kind = k) (hk : k ≠ .null) :
    x.kind = k := by
  subst h
  cases x with
  | num n =>
    cases n with
    | infinite negative =>
      rw [printed] at hk
      exact absurd rfl hk
    | zero => rw [printed_num rfl]
    | decimal n => rw [printed_num rfl]
  | _ => simp only [printed, kind]

/-! ### The text tells the value -/

/-- A number ends where something else than a numeral follows. -/
abbrev Stop : Text → Prop := Library.StopsRun isNumeral

theorem stop_cons {u : CodeUnit} (hu : isNumeral u = false) (rest : Text) : Stop (u :: rest) :=
  fun _ hc => Option.some.inj hc ▸ hu

theorem stop_nil : Stop [] := fun _ hc => by cases hc

/-- `null`, also where it stands for a number. -/
theorem null_tells {x : JsonValue} (hx : (printed x).kind = .null) :
    Library.Tells stringify printed Stop x := by
  have hnull {z : JsonValue} (hz : (printed z).kind = .null) :
      stringify z = ascii "null" ∧ printed z = .null := by
    cases z with
    | null => exact ⟨by rw [stringify], by rw [printed]⟩
    | num n =>
      cases n with
      | infinite negative => exact ⟨by rw [stringify]; rfl, by rw [printed]⟩
      | zero => rw [printed_num rfl] at hz; cases hz
      | decimal n => rw [printed_num rfl] at hz; cases hz
    | _ =>
      rw [printed] at hz
      cases hz
  intro y rest rest' hrest hrest' heq
  obtain ⟨htext, hprinted⟩ := hnull hx
  obtain ⟨htext', hprinted'⟩ := hnull ((kind_eq heq).trans hx)
  rw [htext, htext'] at heq
  exact ⟨hprinted.trans hprinted'.symm, List.append_cancel_left heq⟩

theorem num_tells {n : JsonNumber} (hn : n.printed = some n) :
    Library.Tells stringify printed Stop (.num n) := by
  intro y rest rest' hrest hrest' heq
  obtain ⟨m, rfl, hm⟩ := num_of_kind ((kind_eq heq).trans (by rw [printed_num hn]; rfl))
  rw [stringify, stringify] at heq
  obtain ⟨htext, hafter⟩ := Library.run_tells (fun _ hu => JsonNumber.isNumeral_toText hn hu)
    (fun _ hu => JsonNumber.isNumeral_toText hm hu) hrest hrest' heq
  exact ⟨by rw [JsonNumber.toText_inj hn hm htext], hafter⟩

theorem bool_tells (b : Bool) : Library.Tells stringify printed Stop (.bool b) := by
  intro y rest rest' hrest hrest' heq
  have hkind := kind_of_kind ((kind_eq heq).trans (by rw [printed]; rfl)) (k := .bool) (by decide)
  cases y with
  | bool b' =>
    rw [stringify, stringify] at heq
    cases b <;> cases b'
    · exact ⟨rfl, List.append_cancel_left heq⟩
    · exact absurd (List.cons.inj heq).1 (by decide)
    · exact absurd (List.cons.inj heq).1 (by decide)
    · exact ⟨rfl, List.append_cancel_left heq⟩
  | _ => cases hkind

theorem str_tells (s : Text) : Library.Tells stringify printed Stop (.str s) := by
  intro y rest rest' hrest hrest' heq
  have hkind := kind_of_kind ((kind_eq heq).trans (by rw [printed]; rfl)) (k := .str) (by decide)
  cases y with
  | str s' =>
    rw [stringify, stringify] at heq
    obtain ⟨hs, hafter⟩ := quote_tells s s' rest rest' trivial trivial heq
    exact ⟨congrArg (fun s => printed (.str s)) hs, hafter⟩
  | _ => cases hkind

theorem arr_tells {items : List JsonValue}
    (hitems : ∀ x ∈ items, Library.Tells stringify printed Stop x) :
    Library.Tells stringify printed Stop (.arr items) := by
  intro y rest rest' hrest hrest' heq
  have hkind := kind_of_kind ((kind_eq heq).trans (by rw [printed]; rfl)) (k := .arr) (by decide)
  cases y with
  | arr items' =>
    rw [stringify, stringify, stringifyItems_eq, stringifyItems_eq] at heq
    simp only [List.cons_append, List.append_assoc, List.nil_append, List.cons.injEq,
      true_and] at heq
    obtain ⟨hvalues, hafter⟩ := Library.separated_tells hitems (stop_cons (by decide))
      (stop_cons (by decide)) (by decide) stringify_ne_bracket heq
    exact ⟨by rw [printed, printed, printedItems_eq, printedItems_eq, hvalues], hafter⟩
  | _ => cases hkind

theorem field_tells {field : Text × JsonValue}
    (hvalue : Library.Tells stringify printed Stop field.2) :
    Library.Tells stringifyField printedField Stop field :=
  (quote_tells field.1).pair hvalue (fun _ => trivial)

theorem obj_tells {fields : List (Text × JsonValue)}
    (hfields : ∀ field ∈ fields, Library.Tells stringify printed Stop field.2) :
    Library.Tells stringify printed Stop (.obj fields) := by
  intro y rest rest' hrest hrest' heq
  have hkind := kind_of_kind ((kind_eq heq).trans (by rw [printed]; rfl)) (k := .obj) (by decide)
  cases y with
  | obj fields' =>
    rw [stringify, stringify, stringifyFields_eq, stringifyFields_eq] at heq
    simp only [List.cons_append, List.append_assoc, List.nil_append, List.cons.injEq,
      true_and] at heq
    obtain ⟨hvalues, hafter⟩ := Library.separated_tells
      (fun field hfield => field_tells (hfields field hfield)) (stop_cons (by decide))
      (stop_cons (by decide)) (by decide) stringifyField_ne_brace heq
    exact ⟨by rw [printed, printed, printedFields_eq, printedFields_eq, hvalues], hafter⟩
  | _ => cases hkind

mutual

theorem stringify_tells : (x : JsonValue) → Library.Tells stringify printed Stop x
  | .null => null_tells (by rw [printed]; rfl)
  | .bool b => bool_tells b
  | .num (.infinite _) => null_tells (by rw [printed]; rfl)
  | .num .zero => num_tells rfl
  | .num (.decimal n) => num_tells (JsonNumber.printed_decimal n)
  | .str s => str_tells s
  | .arr items => arr_tells (items_tell items)
  | .obj fields => obj_tells (fields_tell fields)

theorem items_tell : (items : List JsonValue) →
    ∀ x ∈ items, Library.Tells stringify printed Stop x
  | [] => fun _ hx => absurd hx List.not_mem_nil
  | x :: others => List.forall_mem_cons.2 ⟨stringify_tells x, items_tell others⟩

theorem fields_tell : (fields : List (Text × JsonValue)) →
    ∀ field ∈ fields, Library.Tells stringify printed Stop field.2
  | [] => fun _ hfield => absurd hfield List.not_mem_nil
  | (_, x) :: others => List.forall_mem_cons.2 ⟨stringify_tells x, fields_tell others⟩

end

mutual

/-- A number beyond the range of doubles is written as `null` is. -/
theorem stringify_printed : (x : JsonValue) → stringify (printed x) = stringify x
  | .null | .bool _ | .str _ => by rw [printed]
  | .num (.infinite _) => by rw [printed, stringify, stringify]; rfl
  | .num .zero => by rw [printed_num rfl]
  | .num (.decimal n) => by rw [printed_num (JsonNumber.printed_decimal n)]
  | .arr items => by
    rw [printed, stringify, stringify, stringifyItems_printed items]
  | .obj fields => by
    rw [printed, stringify, stringify, stringifyFields_printed fields]

theorem stringifyItems_printed : (items : List JsonValue) →
    stringifyItems (printedItems items) = stringifyItems items
  | [] => by rw [printedItems]
  | [x] => by rw [printedItems, printedItems, stringifyItems, stringifyItems, stringify_printed x]
  | x :: y :: others => by
    have hothers := stringifyItems_printed (y :: others)
    rw [printedItems] at hothers
    rw [printedItems, printedItems, stringifyItems, hothers, stringifyItems, stringify_printed x]

theorem stringifyFields_printed : (fields : List (Text × JsonValue)) →
    stringifyFields (printedFields fields) = stringifyFields fields
  | [] => by rw [printedFields]
  | [(key, x)] => by
    rw [printedFields, printedFields, stringifyFields, stringifyFields, stringify_printed x]
  | (key, x) :: (key', y) :: others => by
    have hothers := stringifyFields_printed ((key', y) :: others)
    rw [printedFields] at hothers
    rw [printedFields, printedFields, stringifyFields, hothers, stringifyFields,
      stringify_printed x]

end

/-- Equal texts are those of values that are printed alike. -/
theorem stringify_eq_iff {x y : JsonValue} : stringify x = stringify y ↔ printed x = printed y := by
  constructor
  · exact (stringify_tells x).value_eq stop_nil
  · intro h
    rw [← stringify_printed x, h, stringify_printed y]

end JsonValue

/-- What `JSON.parse` returns. -/
structure ParsedJson where
  value : JsonValue
  ordered : value.isOrdered = true

end Expentra
