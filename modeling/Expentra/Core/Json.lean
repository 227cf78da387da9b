-- SUMMARY: JSON values as the driver hands them over, with the conversions of JavaScript.
import Expentra.Core.Number
import Expentra.Library.Transaction

/-!
# JSON

The values of a `jsonb` column, and what `Number(…)`, `String(…)` and `===` make
of them. `NaN` and the infinities are numbers of an object in memory only: JSON has no
numeral for them.
-/

namespace Expentra

inductive Json where
  | null
  | bool (b : Bool)
  | num (n : Float)
  | str (s : String)
  | arr (items : List Json)
  | obj (fields : List (String × Json))

namespace Json

mutual

/-- Whether two values are equal. -/
def decEq : (x y : Json) → Decidable (x = y)
  | .null, y => match y with
    | .null => isTrue rfl
    | .bool _ | .num _ | .str _ | .arr _ | .obj _ => isFalse (fun h => (by cases h))
  | .bool a, y => match y with
    | .bool b => decidable_of_iff (a = b) ⟨congrArg _, Json.bool.inj⟩
    | .null | .num _ | .str _ | .arr _ | .obj _ => isFalse (fun h => (by cases h))
  | .num a, y => match y with
    | .num b => decidable_of_iff (a = b) ⟨congrArg _, Json.num.inj⟩
    | .null | .bool _ | .str _ | .arr _ | .obj _ => isFalse (fun h => (by cases h))
  | .str a, y => match y with
    | .str b => decidable_of_iff (a = b) ⟨congrArg _, Json.str.inj⟩
    | .null | .bool _ | .num _ | .arr _ | .obj _ => isFalse (fun h => (by cases h))
  | .arr xs, y => match y with
    | .arr ys => @decidable_of_iff _ (xs = ys) ⟨congrArg _, Json.arr.inj⟩ (decEqItems xs ys)
    | .null | .bool _ | .num _ | .str _ | .obj _ => isFalse (fun h => (by cases h))
  | .obj xs, y => match y with
    | .obj ys => @decidable_of_iff _ (xs = ys) ⟨congrArg _, Json.obj.inj⟩ (decEqFields xs ys)
    | .null | .bool _ | .num _ | .str _ | .arr _ => isFalse (fun h => (by cases h))

def decEqItems : (xs ys : List Json) → Decidable (xs = ys)
  | [], [] => isTrue rfl
  | [], _ :: _ => isFalse (fun h => (by cases h))
  | _ :: _, [] => isFalse (fun h => (by cases h))
  | x :: xs, y :: ys =>
    match decEq x y, decEqItems xs ys with
    | isTrue h, isTrue hs => isTrue (by rw [h, hs])
    | isFalse h, _ => isFalse (fun heq => h (List.cons.inj heq).1)
    | _, isFalse hs => isFalse (fun heq => hs (List.cons.inj heq).2)

def decEqFields : (xs ys : List (String × Json)) → Decidable (xs = ys)
  | [], [] => isTrue rfl
  | [], _ :: _ => isFalse (fun h => (by cases h))
  | _ :: _, [] => isFalse (fun h => (by cases h))
  | (name, x) :: xs, (name', y) :: ys =>
    match decEq x y, decEqFields xs ys with
    | isTrue h, isTrue hs =>
      if hname : name = name' then isTrue (by rw [h, hs, hname])
      else isFalse (fun heq => hname (Prod.mk.inj (List.cons.inj heq).1).1)
    | isFalse h, _ => isFalse (fun heq => h (Prod.mk.inj (List.cons.inj heq).1).2)
    | _, isFalse hs => isFalse (fun heq => hs (List.cons.inj heq).2)

end

instance : DecidableEq Json := decEq

end Json

namespace Json

/-- A property of an object; `none` is `undefined`. -/
def get? (value : Json) (key : String) : Option Json :=
  match value with
  | .obj fields => (fields.find? (fun field => field.1 = key)).map Prod.snd
  | _ => none

def isNull : Json → Bool
  | .null => true
  | _ => false

mutual
/-- `String(value)`. An object of JSON that has a property `toString` has no text, since
    no value of JSON is a function. -/
def toText : Json → Except HttpException String
  | .null => .ok "null"
  | .bool b => .ok (if b then "true" else "false")
  | .num n => .ok (Js.numberToString n)
  | .str s => .ok s
  | .arr items => joinTexts items
  | .obj fields =>
    if fields.any (fun field => field.1 = "toString") then
      .error (.typeError "Cannot convert object to primitive value")
    else .ok "[object Object]"

/-- `Array.prototype.join`: `null` elements print as nothing. -/
def joinTexts : List Json → Except HttpException String
  | [] => .ok ""
  | [item] => if item.isNull then .ok "" else toText item
  | item :: rest => do
    let text ← (if item.isNull then .ok "" else toText item)
    let others ← joinTexts rest
    pure (text ++ "," ++ others)
end

/-- A character of a JSON text; control characters other than these do not occur. -/
def escapeChar (c : Char) : String :=
  match c.toNat with
  | 9 => "\\t"
  | 10 => "\\n"
  | 13 => "\\r"
  | 34 => "\\\""
  | 92 => "\\\\"
  | _ => c.toString

def quote (s : String) : String := "\"" ++ String.join (s.toList.map escapeChar) ++ "\""

mutual
/-- `JSON.stringify(value)` -/
def stringify : Json → String
  | .null => "null"
  | .bool b => if b then "true" else "false"
  | .num n => if n.isFinite then Js.numberToString n else "null"
  | .str s => quote s
  | .arr items => "[" ++ stringifyItems items ++ "]"
  | .obj fields => "\x7b" ++ stringifyFields fields ++ "\x7d"

def stringifyItems : List Json → String
  | [] => ""
  | [item] => stringify item
  | item :: rest => stringify item ++ "," ++ stringifyItems rest

def stringifyFields : List (String × Json) → String
  | [] => ""
  | [(name, value)] => quote name ++ ":" ++ stringify value
  | (name, value) :: rest => quote name ++ ":" ++ stringify value ++ "," ++ stringifyFields rest
end

mutual
/-- `JSON.parse(JSON.stringify(value))`, which is what a `jsonb` column makes of a value. -/
def reparsed : Json → Json
  | .num n => match n.toModel.unpack with
    | .finite .. => .num n
    | .zero _ => .num 0
    | .infinity _ | .notANumber => .null
  | .arr items => .arr (reparsedItems items)
  | .obj fields => .obj (reparsedFields fields)
  | value => value

def reparsedItems : List Json → List Json
  | [] => []
  | item :: rest => reparsed item :: reparsedItems rest

def reparsedFields : List (String × Json) → List (String × Json)
  | [] => []
  | (name, value) :: rest => (name, reparsed value) :: reparsedFields rest
end

/-- `Number(value)` -/
def toNumber : Json → Except HttpException Float
  | .null => .ok 0
  | .bool b => .ok (if b then 1 else 0)
  | .num n => .ok n
  | .str s => .ok (Js.stringToNumber s)
  | .arr items => (joinTexts items).map Js.stringToNumber
  | .obj fields => (toText (.obj fields)).map Js.stringToNumber

/-- `===` between two values of which one at least is fresh: no two arrays or
    objects are identical. -/
def strictEquals : Json → Json → Bool
  | .null, .null => true
  | .bool a, .bool b => a = b
  | .num a, .num b => a == b
  | .str a, .str b => a = b
  | _, _ => false

/-- The integer a value is, if `Number.isInteger` holds of it. -/
def integer? : Json → Option Int
  | .num n => Js.integer? n
  | _ => none

/-! ## Reading a stored value back -/

section Reparsed

open Library

@[simp] theorem reparsed_str (s : String) : (str s).reparsed = .str s := rfl

theorem reparsedItems_eq (items : List Json) : reparsedItems items = items.map reparsed := by
  induction items with
  | nil => rfl
  | cons item rest ih => rw [reparsedItems, ih, List.map_cons]

theorem get?_reparsed (value : Json) (key : String) :
    value.reparsed.get? key = (value.get? key).map reparsed := by
  cases value with
  | obj fields =>
    rw [reparsed, get?, get?]
    induction fields with
    | nil => rfl
    | cons field rest ih =>
      obtain ⟨name, value⟩ := field
      rw [reparsedFields, List.find?_cons, List.find?_cons]
      by_cases hname : name = key
      · simp [hname]
      · simpa [hname] using ih
  | num n =>
    rw [reparsed]
    split <;> rfl
  | _ => rfl

theorem integer?_reparsed (value : Json) : value.reparsed.integer? = value.integer? := by
  cases value with
  | num n =>
    rw [reparsed]
    split
    · rfl
    · rename_i s hn
      rw [integer?, integer?, Js.integer?, Js.integer?, Js.value?, Js.value?, hn]
      rfl
    · rename_i s hn
      rw [integer?, integer?, Js.integer?, Js.value?, hn]
      · rfl
      · exact fun _ h => by cases h
    · rename_i hn
      rw [integer?, integer?, Js.integer?, Js.value?, hn]
      · rfl
      · exact fun _ h => by cases h
  | _ => rfl

/-- No number of the text is without a numeral. -/
def Finite (text : String) : Prop := 'I' ∉ text.toList ∧ 'N' ∉ text.toList

theorem alike_reparsed {x : Float} (h : (Js.integer? x).isSome) :
    ∃ y, reparsed (.num x) = .num y ∧ Js.Alike x y := by
  unfold reparsed
  unfold Js.integer? Js.value? at h
  split
  · exact ⟨x, rfl, .inl rfl⟩
  · rename_i s hx
    exact ⟨0, rfl, .inr ⟨s, .positive, hx, rfl⟩⟩
  · rename_i s hx
    rw [hx] at h
    cases h
  · rename_i hx
    rw [hx] at h
    cases h

theorem not_finite_numberToString {x : Float} (h : (reparsed (.num x)).isNull = true) :
    ¬ Finite (Js.numberToString x) := by
  unfold reparsed at h
  unfold Js.numberToString
  split at h
  · cases h
  · cases h
  · rename_i s hx
    rw [hx]
    cases s <;> exact fun hfinite => hfinite.1 (by decide)
  · rename_i hx
    rw [hx]
    exact fun hfinite => hfinite.2 (by decide)

theorem finite_append {s t : String} : Finite (s ++ t) ↔ Finite s ∧ Finite t := by
  simp only [Finite, String.toList_append, List.mem_append]
  tauto

theorem any_reparsedFields (p : String → Bool) (fields : List (String × Json)) :
    (reparsedFields fields).any (fun field => p field.1) = fields.any (fun field => p field.1) := by
  induction fields with
  | nil => rfl
  | cons field rest ih =>
    obtain ⟨name, value⟩ := field
    rw [reparsedFields, List.any_cons, List.any_cons, ih]

theorem isNull_reparsed {value : Json} (h : value.reparsed.isNull = true) :
    value.isNull = true ∨ ∃ x, value = .num x := by
  cases value with
  | null => exact .inl rfl
  | num x => exact .inr ⟨x, rfl⟩
  | _ => cases h

/-- An element of a list, as it is joined. -/
theorem joined_reparsed {item : Json} {text : String}
    (ih : ∀ t, item.toText = .ok t → Finite t → item.reparsed.toText = .ok t)
    (h : (if item.isNull then Except.ok "" else item.toText) = .ok text) (hfinite : Finite text) :
    (if item.reparsed.isNull then Except.ok "" else item.reparsed.toText) = .ok text := by
  by_cases hnull : item.isNull = true
  · cases item with
    | null => exact h
    | _ => cases hnull
  · rw [if_neg hnull] at h
    rw [if_neg (fun hlost => ?_), ih text h hfinite]
    obtain hitem | ⟨x, rfl⟩ := isNull_reparsed hlost
    · exact hnull hitem
    · cases h
      exact not_finite_numberToString hlost hfinite

mutual
/-- A text without `NaN` and infinities is that of the value that is read back. -/
theorem toText_reparsed : ∀ (value : Json) (text : String), value.toText = .ok text → Finite text →
    value.reparsed.toText = .ok text
  | .null, _, h, _ | .bool _, _, h, _ | .str _, _, h, _ => h
  | .num x, text, h, hfinite => by
    cases hread : reparsed (.num x) with
    | null =>
      cases h
      exact absurd hfinite (not_finite_numberToString (by rw [hread]; rfl))
    | num y =>
      unfold reparsed at hread
      split at hread
      · cases hread
        exact h
      · rename_i s hx
        cases hread
        have halike : Js.Alike x 0 := .inr ⟨s, .positive, hx, rfl⟩
        rw [← h, toText, toText, halike.numberToString]
      · cases hread
      · cases hread
    | _ =>
      unfold reparsed at hread
      split at hread <;> cases hread
  | .arr items, text, h, hfinite => joinTexts_reparsedItems items text h hfinite
  | .obj fields, text, h, _ => by
    rw [reparsed, toText, any_reparsedFields (fun name => decide (name = "toString")), ← toText]
    exact h

theorem joinTexts_reparsedItems : ∀ (items : List Json) (text : String), joinTexts items = .ok text →
    Finite text → joinTexts (reparsedItems items) = .ok text
  | [], _, h, _ => h
  | [item], text, h, hfinite => joined_reparsed (toText_reparsed item) h hfinite
  | item :: next :: rest, text, h, hfinite => by
    unfold joinTexts at h
    obtain ⟨first, hfirst, h⟩ := Except.bind_eq_ok.1 h
    obtain ⟨others, hothers, h⟩ := Except.bind_eq_ok.1 h
    cases h
    obtain ⟨hleft, hright⟩ := finite_append.1 hfinite
    have hitem := joined_reparsed (toText_reparsed item) hfirst (finite_append.1 hleft).1
    exact Except.bind_eq_ok.2 ⟨first, hitem, Except.bind_eq_ok.2 ⟨others,
      joinTexts_reparsedItems (next :: rest) others hothers hright, rfl⟩⟩
end

theorem stray_I : Js.Stray 'I' := ⟨by decide, by decide, by decide, by decide, by decide, by decide⟩

theorem stray_N : Js.Stray 'N' := ⟨by decide, by decide, by decide, by decide, by decide, by decide⟩

/-- Values that no conversion tells apart, but for the sign of a zero. -/
structure ReadsAs (value other : Json) : Prop where
  text : other.toText = value.toText
  number : ∃ x y, value.toNumber = .ok x ∧ other.toNumber = .ok y ∧ Js.Alike x y
  equals : ∀ actual, other.strictEquals actual = value.strictEquals actual
  equalled : ∀ actual, strictEquals actual other = strictEquals actual value

/-- A value that converts to an integer is read back as such a value. -/
theorem readsAs_reparsed {value : Json} {x : Float} (h : value.toNumber = .ok x)
    (hx : (Js.integer? x).isSome) : ReadsAs value value.reparsed := by
  cases value with
  | num n =>
    cases h
    obtain ⟨y, hread, halike⟩ := alike_reparsed hx
    rw [hread]
    refine ⟨congrArg Except.ok halike.numberToString.symm, ⟨x, y, rfl, rfl, halike⟩,
      fun actual => ?_, fun actual => ?_⟩
    · cases actual with
      | num z => exact (halike.beq_left z).symm
      | _ => rfl
    · cases actual with
      | num z => exact (halike.beq_right z).symm
      | _ => rfl
  | arr items =>
    cases htext : joinTexts items with
    | error e =>
      rw [toNumber, htext] at h
      cases h
    | ok text =>
      rw [toNumber, htext] at h
      cases h
      obtain ⟨n, hn⟩ := Option.isSome_iff_exists.1 hx
      have hread := joinTexts_reparsedItems items text htext ⟨stray_I.not_mem hn, stray_N.not_mem hn⟩
      refine ⟨hread.trans htext.symm, ⟨_, _, congrArg (Except.map Js.stringToNumber) htext,
        congrArg (Except.map Js.stringToNumber) hread, .inl rfl⟩, fun actual => ?_, fun actual => ?_⟩
      · cases actual <;> rfl
      · cases actual <;> rfl
  | obj fields =>
    rw [toNumber, toText] at h
    split at h
    · cases h
    · cases h
      exact absurd hx (by decide +kernel)
  | _ => exact ⟨rfl, ⟨_, _, h, h, .inl rfl⟩, fun _ => rfl, fun _ => rfl⟩

end Reparsed

example : toNumber (.arr [.str " 0x1f "]) = .ok 31 := by decide +kernel

end Json

end Expentra
