-- SUMMARY: The operator LIKE, and what the search terms of the lists match.
import Expentra.Export.Listings

/-!
# Search terms

`escapeLikePattern` escapes the characters that mean something to `LIKE`, and `ilikeTerm`
puts a wildcard on either side. What is left of the pattern is the search itself: a text
matches when it contains the search.
-/

namespace Expentra

/-- `LIKE`, of a pattern and a text. -/
def like : List Char → List Char → Bool
  | [], text => text.isEmpty
  | '%' :: pattern, text => text.tails.any (fun rest => like pattern rest)
  | '_' :: pattern, _ :: text => like pattern text
  | '\\' :: escaped :: pattern, c :: text => escaped = c && like pattern text
  | p :: pattern, c :: text => p = c && like pattern text
  | _ :: _, [] => false

/-- The locale `C`: the letters of ASCII have cases, and texts the order of their bytes. -/
def Locale.c : Locale where
  ilike text term := like (term.toList.map Char.toLower) (text.toList.map Char.toLower)
  le left right := left ≤ right

theorem Locale.ilike_c (text term : String) : Locale.c.ilike text term =
    like (term.toList.map Char.toLower) (text.toList.map Char.toLower) := rfl

/-! ## Rules of `LIKE` -/

section Like

variable {pattern text : List Char} {c : Char}

/-- The wildcard for any text. -/
theorem like_percent : like ('%' :: pattern) text = true ↔
    ∃ before after, text = before ++ after ∧ like pattern after = true := by
  rw [like, List.any_eq_true]
  constructor
  · rintro ⟨after, hafter, hlike⟩
    obtain ⟨before, rfl⟩ := (List.mem_tails after text).1 hafter
    exact ⟨before, after, rfl, hlike⟩
  · rintro ⟨before, after, rfl, hlike⟩
    exact ⟨after, (List.mem_tails after _).2 (List.suffix_append before after), hlike⟩

/-- An escaped character stands for itself. -/
theorem like_escaped : like ('\\' :: c :: pattern) text = true ↔
    ∃ rest, text = c :: rest ∧ like pattern rest = true := by
  cases text with
  | nil => simp [like]
  | cons d rest => simp [like, eq_comm (a := c)]

/-- The characters with a meaning in a pattern. -/
def isSpecial (c : Char) : Bool := c = '%' || c = '_' || c = '\\'

/-- Any other character stands for itself. -/
theorem like_plain (hc : isSpecial c = false) : like (c :: pattern) text = true ↔
    ∃ rest, text = c :: rest ∧ like pattern rest = true := by
  simp only [isSpecial, Bool.or_eq_false_iff, decide_eq_false_iff_not] at hc
  obtain ⟨⟨hpercent, hunderscore⟩, hbackslash⟩ := hc
  cases text with
  | nil =>
    rw [like.eq_6 c pattern hpercent]
    simp
  | cons d rest =>
    rw [like.eq_5 c pattern d rest hpercent hunderscore (fun _ _ h => absurd h hbackslash)]
    simp [eq_comm (a := c)]

/-! ## Escaped searches -/

/-- What a character of the search is replaced by. -/
def escapeCharacter (c : Char) : List Char := if isSpecial c then ['\\', c] else [c]

theorem like_escapeCharacter : like (escapeCharacter c ++ pattern) text = true ↔
    ∃ rest, text = c :: rest ∧ like pattern rest = true := by
  unfold escapeCharacter
  by_cases hc : isSpecial c = true
  · rw [if_pos hc]
    exact like_escaped
  · rw [if_neg hc]
    exact like_plain (Bool.eq_false_iff.2 hc)

/-- An escaped search stands for itself. -/
theorem like_escaped_append {search : List Char} :
    like (search.flatMap escapeCharacter ++ pattern) text = true ↔
      ∃ rest, text = search ++ rest ∧ like pattern rest = true := by
  induction search generalizing text with
  | nil => simp
  | cons c search ih =>
    rw [List.flatMap_cons, List.append_assoc, like_escapeCharacter]
    constructor
    · rintro ⟨text, rfl, hsearch⟩
      obtain ⟨rest, rfl, hlike⟩ := ih.1 hsearch
      exact ⟨rest, rfl, hlike⟩
    · rintro ⟨rest, rfl, hlike⟩
      exact ⟨search ++ rest, rfl, ih.2 ⟨rest, rfl, hlike⟩⟩

theorem like_percent_nil : like ['%'] text = true :=
  like_percent.2 ⟨text, [], (List.append_nil text).symm, rfl⟩

/-- Between two wildcards, an escaped search is looked for anywhere. -/
theorem like_surrounded {search : List Char} :
    like ('%' :: (search.flatMap escapeCharacter ++ ['%'])) text = true ↔ search <:+: text := by
  rw [like_percent]
  constructor
  · rintro ⟨before, after, rfl, hlike⟩
    obtain ⟨rest, rfl, -⟩ := like_escaped_append.1 hlike
    exact ⟨before, rest, List.append_assoc before search rest⟩
  · rintro ⟨before, rest, rfl⟩
    exact ⟨before, search ++ rest, List.append_assoc before search rest,
      like_escaped_append.2 ⟨rest, rfl, like_percent_nil⟩⟩

end Like

/-! ## Terms -/

theorem toList_ilikeTerm (search : String) :
    (ilikeTerm search).toList = '%' :: (search.toList.flatMap escapeCharacter ++ ['%']) := by
  have hescaped : (escapeLikePattern search).toList = search.toList.flatMap escapeCharacter :=
    String.toList_ofList
  rw [ilikeTerm, String.toList_append, String.toList_append, hescaped, List.append_assoc]
  rfl

theorem isSpecial_iff {c : Char} :
    isSpecial c = true ↔ c.toNat = 37 ∨ c.toNat = 95 ∨ c.toNat = 92 := by
  simp only [isSpecial, Bool.or_eq_true, decide_eq_true_eq, ← Char.toNat_inj, or_assoc]
  exact Iff.rfl

theorem toNat_toLower {c : Char} (hupper : 65 ≤ c.toNat ∧ c.toNat ≤ 90) :
    c.toLower.toNat = c.toNat + 32 := by
  have hsum : (c.val + ('a'.val - 'A'.val)).toNat = c.toNat + 32 := by
    have hgap : ('a'.val - 'A'.val).toNat = 32 := by decide
    have hval : c.val.toNat = c.toNat := rfl
    rw [UInt32.toNat_add, hgap, hval]
    omega
  unfold Char.toLower
  split
  case isTrue => exact hsum
  case isFalse hlower => exact absurd hupper hlower

/-- The special characters are no letters. -/
theorem isSpecial_toLower (c : Char) : isSpecial c.toLower = isSpecial c := by
  by_cases hupper : 65 ≤ c.toNat ∧ c.toNat ≤ 90
  · have hlower := toNat_toLower hupper
    refine Bool.eq_iff_iff.2 ?_
    rw [isSpecial_iff, isSpecial_iff]
    omega
  · unfold Char.toLower
    split
    case isTrue h => exact absurd h hupper
    case isFalse => rfl

/-- Folding the letters of an escaped search is folding those of the search. -/
theorem map_toLower_escaped (search : List Char) :
    (search.flatMap escapeCharacter).map Char.toLower =
      (search.map Char.toLower).flatMap escapeCharacter := by
  rw [List.map_flatMap, List.flatMap_map]
  refine List.flatMap_congr fun c _ => ?_
  unfold escapeCharacter
  rw [isSpecial_toLower]
  split
  case isTrue => rfl
  case isFalse => rfl

/-- A text matches the term of a search exactly when it contains the search, and, letter
    case aside, when it contains it in letters of either case. -/
theorem ilikeTerm_literal (search text : String) :
    (like (ilikeTerm search).toList text.toList = true ↔ search.toList <:+: text.toList) ∧
    (Locale.c.ilike text (ilikeTerm search) = true ↔
      search.toList.map Char.toLower <:+: text.toList.map Char.toLower) := by
  refine ⟨?_, ?_⟩
  · rw [toList_ilikeTerm]
    exact like_surrounded
  · rw [Locale.ilike_c, toList_ilikeTerm, List.map_cons, List.map_append, map_toLower_escaped]
    exact like_surrounded

example : Locale.c.ilike "100% Finance" (ilikeTerm "0% fin") = true := by decide +kernel

end Expentra
