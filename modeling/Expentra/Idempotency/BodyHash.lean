-- SUMMARY: The hash of a request body: which bodies share a hash, and which bodies are equal.
import Mathlib.Data.List.Sort
import Mathlib.Data.List.Lex
import Expentra.Core.JsonText

/-!
# Body hashing

`stableStringify` sorts the properties of the body itself, and leaves the properties of
objects inside it as they stand. Two bodies share a text exactly when they have the same
properties up to the order at the top, `__proto__` left out there, and numbers beyond the
range of doubles read as `null`.
-/

namespace Expentra

open Text JsonValue

/-! ## Hashing -/

/-- `Object.keys(record).sort()`, by code units -/
def sortedKeys (fields : List (Text × JsonValue)) : List Text :=
  (fields.map Prod.fst).insertionSort (· ≤ ·)

/-- `record[key]` -/
def property? (fields : List (Text × JsonValue)) (key : Text) : Option JsonValue :=
  (fields.find? (fun field => field.1 = key)).map Prod.snd

/-- `acc[key] = value` on a plain object. The setter `__proto__` of objects leaves no property
    of its own. -/
def assign (acc : List (Text × JsonValue)) (key : Text) (value : JsonValue) :
    List (Text × JsonValue) :=
  if key = ascii "__proto__" then acc
  else if key ∈ acc.map Prod.fst then
    acc.map (fun field => if field.1 = key then (key, value) else field)
  else match arrayIndex key with
    | none => acc ++ [(key, value)]
    | some _ => acc.takeWhile (fun field => precedes field.1 key) ++
        (key, value) :: acc.dropWhile (fun field => precedes field.1 key)

/-- The properties of `sorted` -/
def sortedRecord (fields : List (Text × JsonValue)) : List (Text × JsonValue) :=
  (sortedKeys fields).foldl (fun acc key =>
    match property? fields key with
    | some value => assign acc key value
    | none => acc) []

/-- `none` is `undefined`. -/
def stableStringify : Option JsonValue → Text
  | none | some .null => []
  | some (.obj fields) => stringify (.obj (sortedRecord fields))
  | some value => stringify value

variable {Hash : Type}

def hashRequestBody (digest : Text → Hash) (body : Option JsonValue) : Hash :=
  digest (stableStringify body)

/-! ## Equal bodies -/

mutual

/-- Two values are equal up to the order of object keys, at any depth. -/
inductive Same : JsonValue → JsonValue → Prop
  | null : Same .null .null
  | bool (b : Bool) : Same (.bool b) (.bool b)
  | num (n : JsonNumber) : Same (.num n) (.num n)
  | str (s : Text) : Same (.str s) (.str s)
  | arr {items items' : List JsonValue} (h : SameItems items items') :
      Same (.arr items) (.arr items')
  | obj {fields reordered fields' : List (Text × JsonValue)} (horder : fields.Perm reordered)
      (h : SameFields reordered fields') : Same (.obj fields) (.obj fields')

inductive SameItems : List JsonValue → List JsonValue → Prop
  | nil : SameItems [] []
  | cons {x x' : JsonValue} {others others' : List JsonValue} (h : Same x x')
      (hothers : SameItems others others') : SameItems (x :: others) (x' :: others')

inductive SameFields : List (Text × JsonValue) → List (Text × JsonValue) → Prop
  | nil : SameFields [] []
  | cons {key : Text} {x x' : JsonValue} {others others' : List (Text × JsonValue)}
      (h : Same x x') (hothers : SameFields others others') :
      SameFields ((key, x) :: others) ((key, x') :: others')

end

/-- The properties of a body that reach the digest. -/
def written (fields : List (Text × JsonValue)) : List (Text × JsonValue) :=
  (fields.filter (fun field => field.1 ≠ ascii "__proto__")).map printedField

/-- Two bodies are the same up to the order of their own keys, where numbers beyond the range
    of doubles count as `null` inside the body and a property `__proto__` of the body itself
    does not count. -/
def Alike : JsonValue → JsonValue → Prop
  | .obj fields, .obj fields' => (written fields).Perm (written fields')
  | x, y => printed x = printed y ∧ (x = .null ↔ y = .null)

/-! ## The sorted record -/

theorem assign_perm {acc : List (Text × JsonValue)} {key : Text} (hkey : key ∉ acc.map Prod.fst)
    (value : JsonValue) :
    (assign acc key value).Perm
      (acc ++ [(key, value)].filter (fun field => field.1 ≠ ascii "__proto__")) := by
  rw [assign]
  by_cases hproto : key = ascii "__proto__"
  · simp [hproto]
  · have hkept : [(key, value)].filter (fun field => field.1 ≠ ascii "__proto__") =
        [(key, value)] := List.filter_eq_self.2 (by simpa using hproto)
    rw [if_neg hproto, if_neg hkey, hkept]
    split
    · exact List.Perm.refl _
    · refine List.perm_middle.trans ?_
      rw [List.takeWhile_append_dropWhile]
      exact (List.perm_append_singleton _ _).symm

/-- Properties with different keys, one assigned after the other. -/
theorem foldl_assign_perm {entries acc : List (Text × JsonValue)}
    (hnodup : ((acc ++ entries).map Prod.fst).Nodup) :
    (entries.foldl (fun acc field => assign acc field.1 field.2) acc).Perm
      (acc ++ entries.filter (fun field => field.1 ≠ ascii "__proto__")) := by
  induction entries generalizing acc with
  | nil => simp
  | cons field others ih =>
    have hkey : field.1 ∉ acc.map Prod.fst := by
      rw [List.map_append, List.map_cons] at hnodup
      exact fun hmem => (List.nodup_append.1 hnodup).2.2 _ hmem _ List.mem_cons_self rfl
    have hassigned := assign_perm hkey field.2
    have hsub : (acc ++ [field].filter (fun field => field.1 ≠ ascii "__proto__") ++
        others).Sublist (acc ++ field :: others) := by
      rw [List.append_assoc]
      exact (List.filter_sublist.append_right others).append_left acc
    have hrest := ih (((hassigned.append_right others).map Prod.fst).nodup_iff.2
      ((hsub.map Prod.fst).nodup hnodup))
    rw [List.foldl_cons]
    refine hrest.trans ((hassigned.append_right _).trans ?_)
    rw [List.append_assoc, ← List.filter_append, List.singleton_append]

/-- The properties of a record, as the reduction meets them. -/
def entries (fields : List (Text × JsonValue)) : List (Text × JsonValue) :=
  (sortedKeys fields).filterMap (fun key => (property? fields key).map (fun value => (key, value)))

theorem sortedRecord_eq (fields : List (Text × JsonValue)) :
    sortedRecord fields =
      (entries fields).foldl (fun acc field => assign acc field.1 field.2) [] := by
  rw [sortedRecord, entries, List.foldl_filterMap]
  refine List.foldl_ext _ _ _ (fun acc key _ => ?_)
  cases property? fields key <;> rfl

theorem property?_of_mem {fields : List (Text × JsonValue)}
    (hnodup : (fields.map Prod.fst).Nodup) {field : Text × JsonValue} (hmem : field ∈ fields) :
    property? fields field.1 = some field.2 := by
  rw [property?]
  cases hfind : fields.find? (fun field' => field'.1 = field.1) with
  | none =>
    have hne := List.find?_eq_none.1 hfind field hmem
    simp at hne
  | some field' =>
    have hkey : field'.1 = field.1 := by simpa using List.find?_some hfind
    rw [List.inj_on_of_nodup_map hnodup (List.mem_of_find?_eq_some hfind) hmem hkey]
    rfl

theorem entries_perm {fields : List (Text × JsonValue)} (hnodup : (fields.map Prod.fst).Nodup) :
    (entries fields).Perm fields := by
  refine ((List.perm_insertionSort _ _).filterMap _).trans (List.Perm.of_eq ?_)
  rw [List.filterMap_map]
  refine (List.filterMap_congr (fun field hmem => ?_)).trans List.filterMap_some
  rw [Function.comp_apply, property?_of_mem hnodup hmem]
  rfl

theorem entries_pairwise (fields : List (Text × JsonValue)) :
    (entries fields).Pairwise (fun field field' => field.1 ≤ field'.1) := by
  refine (List.pairwise_insertionSort (· ≤ ·) _).filterMap _ (fun key key' hle b hb b' hb' => ?_)
  obtain ⟨value, -, rfl⟩ := Option.map_eq_some_iff.1 hb
  obtain ⟨value', -, rfl⟩ := Option.map_eq_some_iff.1 hb'
  exact hle

/-- The sorted record has the properties of the record, except `__proto__`. -/
theorem sortedRecord_perm {fields : List (Text × JsonValue)}
    (hnodup : (fields.map Prod.fst).Nodup) :
    (sortedRecord fields).Perm (fields.filter (fun field => field.1 ≠ ascii "__proto__")) := by
  have hentries := entries_perm hnodup
  rw [sortedRecord_eq]
  refine (foldl_assign_perm ?_).trans ((List.nil_append _) ▸ hentries.filter _)
  exact (hentries.map Prod.fst).nodup_iff.2 hnodup

/-! ## The order of the sorted record -/

/-- Where a property is put depends on the keys alone. -/
theorem map_assign (acc : List (Text × JsonValue)) (key : Text) (value : JsonValue) :
    (assign acc key value).map printedField = assign (acc.map printedField) key (printed value) := by
  have hkeys : (acc.map printedField).map Prod.fst = acc.map Prod.fst := by
    rw [List.map_map]
    rfl
  rw [assign, assign, hkeys]
  split
  · rfl
  · split
    · rw [List.map_map, List.map_map]
      refine List.map_congr_left (fun field _ => ?_)
      rw [Function.comp_apply, Function.comp_apply]
      split <;> rename_i hkey
      · exact (if_pos hkey).symm
      · exact (if_neg hkey).symm
    · cases arrayIndex key with
      | none => rw [List.map_append]; rfl
      | some n =>
        simp only [List.map_append, List.map_cons, List.takeWhile_map, List.dropWhile_map]
        rfl

theorem map_foldl_assign (es acc : List (Text × JsonValue)) :
    (es.foldl (fun acc field => assign acc field.1 field.2) acc).map printedField =
      (es.map printedField).foldl (fun acc field => assign acc field.1 field.2)
        (acc.map printedField) := by
  induction es generalizing acc with
  | nil => rfl
  | cons field others ih =>
    rw [List.foldl_cons, ih, map_assign, List.map_cons, List.foldl_cons]
    rfl

/-- A property `__proto__` is passed over. -/
theorem foldl_assign_filter (es acc : List (Text × JsonValue)) :
    es.foldl (fun acc field => assign acc field.1 field.2) acc =
      (es.filter (fun field => field.1 ≠ ascii "__proto__")).foldl
        (fun acc field => assign acc field.1 field.2) acc := by
  induction es generalizing acc with
  | nil => rfl
  | cons field others ih =>
    rw [List.foldl_cons, ih, List.filter_cons]
    by_cases hproto : field.1 = ascii "__proto__"
    · rw [if_neg (by simpa using hproto), assign, if_pos hproto]
    · rw [if_pos (by simpa using hproto), List.foldl_cons]

/-- The printed properties of the sorted record, from the written properties in order. -/
theorem printed_sortedRecord (fields : List (Text × JsonValue)) :
    (sortedRecord fields).map printedField =
      (written (entries fields)).foldl (fun acc field => assign acc field.1 field.2) [] := by
  rw [sortedRecord_eq, foldl_assign_filter, map_foldl_assign]
  rfl

theorem written_perm {fields fields' : List (Text × JsonValue)} (h : fields.Perm fields') :
    (written fields).Perm (written fields') := (h.filter _).map _

theorem written_pairwise {es : List (Text × JsonValue)}
    (h : es.Pairwise (fun field field' => field.1 ≤ field'.1)) :
    (written es).Pairwise (fun field field' => field.1 ≤ field'.1) :=
  List.pairwise_map.2 (h.filter _)

theorem nodup_written {fields : List (Text × JsonValue)} (h : (fields.map Prod.fst).Nodup) :
    ((written fields).map Prod.fst).Nodup := by
  rw [written, List.map_map]
  exact (List.filter_sublist.map Prod.fst).nodup h

/-- Written properties in the order of their keys are determined by the properties. -/
theorem written_entries_eq {fields fields' : List (Text × JsonValue)}
    (hnodup : (fields.map Prod.fst).Nodup) (hnodup' : (fields'.map Prod.fst).Nodup)
    (h : (written fields).Perm (written fields')) :
    written (entries fields) = written (entries fields') := by
  have hleft := written_perm (entries_perm hnodup)
  have hright := written_perm (entries_perm hnodup')
  have hkeys := nodup_written ((entries_perm hnodup).map Prod.fst |>.nodup_iff.2 hnodup)
  have hperm : (written (entries fields)).Perm (written (entries fields')) :=
    hleft.trans (h.trans hright.symm)
  refine List.Perm.eq_of_pairwise (fun x y hx hy hxy hyx => ?_)
    (written_pairwise (entries_pairwise fields)) (written_pairwise (entries_pairwise fields')) hperm
  exact List.inj_on_of_nodup_map hkeys hx (hperm.mem_iff.2 hy) (le_antisymm hxy hyx)

/-! ## Which bodies share a text -/

theorem stableStringify_obj_eq_iff {fields fields' : List (Text × JsonValue)}
    (hnodup : (fields.map Prod.fst).Nodup) (hnodup' : (fields'.map Prod.fst).Nodup) :
    stableStringify (some (.obj fields)) = stableStringify (some (.obj fields')) ↔
      (written fields).Perm (written fields') := by
  have hprinted : stableStringify (some (.obj fields)) = stableStringify (some (.obj fields')) ↔
      (sortedRecord fields).map printedField = (sortedRecord fields').map printedField := by
    rw [stableStringify, stableStringify, stringify_eq_iff, printed, printed, printedFields_eq,
      printedFields_eq]
    exact ⟨JsonValue.obj.inj, congrArg JsonValue.obj⟩
  rw [hprinted]
  constructor
  · intro h
    have hleft := (sortedRecord_perm hnodup).map printedField
    have hright := (sortedRecord_perm hnodup').map printedField
    exact hleft.symm.trans (h ▸ hright)
  · intro h
    rw [printed_sortedRecord, printed_sortedRecord, written_entries_eq hnodup hnodup' h]

theorem alike_obj_left {fields : List (Text × JsonValue)} {y : JsonValue} (hy : y.kind ≠ .obj) :
    ¬Alike (.obj fields) y := by
  have hne : printed (.obj fields) ≠ printed y := by
    intro h
    have hkind := congrArg JsonValue.kind h
    rw [printed] at hkind
    exact hy (kind_of_kind hkind.symm (by decide))
  cases y with
  | obj fields' => exact absurd rfl hy
  | _ => exact fun h => hne h.1

theorem alike_of_left {x y : JsonValue} (hx : x.kind ≠ .obj) :
    Alike x y ↔ printed x = printed y ∧ (x = .null ↔ y = .null) := by
  cases x with
  | obj fields => exact absurd rfl hx
  | _ => exact Iff.rfl

theorem stableStringify_value {x : JsonValue} (hnull : x ≠ .null) (hobj : x.kind ≠ .obj) :
    stableStringify (some x) = stringify x := by
  cases x with
  | null => exact absurd rfl hnull
  | obj fields => exact absurd rfl hobj
  | _ => rfl

theorem stableStringify_eq_nil {x : JsonValue} : stableStringify (some x) = [] ↔ x = .null := by
  constructor
  · intro h
    cases x with
    | null => rfl
    | _ => exact absurd h (stringify_ne_nil _)
  · rintro rfl
    rfl

/-- An object and another value have different texts. -/
theorem stableStringify_ne {fields : List (Text × JsonValue)} {y : JsonValue}
    (hy : y.kind ≠ .obj) :
    stableStringify (some (.obj fields)) ≠ stableStringify (some y) := by
  intro h
  by_cases hnull : y = .null
  · exact absurd (stableStringify_eq_nil.1 (h.trans (stableStringify_eq_nil.2 hnull))) (by simp)
  · rw [stableStringify_value hnull hy, stableStringify] at h
    have hkind := congrArg JsonValue.kind (stringify_eq_iff.1 h)
    rw [printed] at hkind
    exact hy (kind_of_kind hkind.symm (by decide))

/-- The texts fed to the digest are equal exactly when the bodies are alike. -/
theorem stableStringify_eq_iff (a b : ParsedJson) :
    stableStringify (some a.value) = stableStringify (some b.value) ↔ Alike a.value b.value := by
  obtain ⟨x, hx⟩ := a
  obtain ⟨y, hy⟩ := b
  by_cases hobj : x.kind = .obj <;> by_cases hobj' : y.kind = .obj
  · cases x with
    | obj fields =>
      cases y with
      | obj fields' => exact stableStringify_obj_eq_iff (nodup_keys hx) (nodup_keys hy)
      | _ => cases hobj'
    | _ => cases hobj
  · cases x with
    | obj fields => exact iff_of_false (stableStringify_ne hobj') (alike_obj_left hobj')
    | _ => cases hobj
  · cases y with
    | obj fields' =>
      refine iff_of_false (fun h => stableStringify_ne hobj h.symm) (fun h => ?_)
      have hkind := congrArg JsonValue.kind ((alike_of_left hobj).1 h).1
      exact hobj (kind_of_kind (hkind.trans (by rw [printed]; rfl)) (by decide))
    | _ => cases hobj'
  · rw [alike_of_left hobj]
    by_cases hnull : x = .null
    · subst hnull
      rw [stableStringify_eq_nil.2 rfl, eq_comm, stableStringify_eq_nil]
      exact ⟨fun h => ⟨by rw [h], iff_of_true rfl h⟩, fun h => h.2.1 rfl⟩
    · by_cases hnull' : y = .null
      · subst hnull'
        rw [stableStringify_eq_nil.2 rfl, stableStringify_eq_nil]
        exact ⟨fun h => absurd h hnull, fun h => h.2.2 rfl⟩
      · rw [stableStringify_value hnull hobj, stableStringify_value hnull' hobj', stringify_eq_iff]
        exact ⟨fun h => ⟨h, iff_of_false hnull hnull'⟩, fun h => h.1⟩

/-! ## Equal bodies and their hashes -/

/-- Two bodies have one hash if they are equal up to the order of object keys, and different
    texts reach the digest if they are not. -/
def Identifies (digest : Text → Hash) (a b : ParsedJson) : Prop :=
  (Same a.value b.value →
    hashRequestBody digest (some a.value) = hashRequestBody digest (some b.value)) ∧
  (¬Same a.value b.value →
    stableStringify (some a.value) ≠ stableStringify (some b.value))

/-- Hashing identifies two bodies exactly when the order of keys inside nested objects, numbers
    beyond the range of doubles and a property `__proto__` make no difference between them. -/
theorem identifies_iff {digest : Text → Hash}
    (hdigest : Set.InjOn digest (Set.range (fun body => stableStringify body))) (a b : ParsedJson) :
    Identifies digest a b ↔ (Same a.value b.value ↔ Alike a.value b.value) := by
  have htexts := stableStringify_eq_iff a b
  have hhash : hashRequestBody digest (some a.value) = hashRequestBody digest (some b.value) ↔
      Alike a.value b.value := by
    rw [← htexts]
    exact hdigest.eq_iff ⟨some a.value, rfl⟩ ⟨some b.value, rfl⟩
  rw [Identifies, hhash, Ne, htexts, not_imp_not]
  exact ⟨fun h => ⟨h.1, h.2⟩, fun h => ⟨h.1, h.2⟩⟩

/-- The digits of a small number. -/
def small (d : Fin 10) (hd : d ≠ 0) : JsonValue :=
  .num (.decimal ⟨false, [d], 1, by simpa using hd, by simpa using hd, by simp⟩)

/-- `{"a":1,"b":2}` -/
def orderedBody : ParsedJson :=
  ⟨.obj [(ascii "a", small 1 (by decide)), (ascii "b", small 2 (by decide))], by decide⟩

/-- `{"b":2,"a":1}` -/
def reorderedBody : ParsedJson :=
  ⟨.obj [(ascii "b", small 2 (by decide)), (ascii "a", small 1 (by decide))], by decide⟩

/-- The text of both. -/
def orderedText : Text := ascii "\x7b\"a\":1,\"b\":2\x7d"

/-- The SHA-256 of that text, and other values for all other texts. -/
def orderedDigest (text : Text) : Text :=
  if text = orderedText then
    ascii "43258cff783fe7036d8a43033f830adfc60ec037382473548ac742b888292777"
  else ascii "#" ++ text

theorem orderedDigest_injective : Function.Injective orderedDigest := by
  intro text text' h
  unfold orderedDigest at h
  split at h <;> split at h
  · next heq heq' => exact heq.trans heq'.symm
  · exact absurd (Option.some.inj (congrArg List.head? h)) (by decide)
  · exact absurd (Option.some.inj (congrArg List.head? h)) (by decide)
  · exact List.append_cancel_left h

theorem identifies_reordered : Identifies orderedDigest reorderedBody orderedBody ∧
    hashRequestBody orderedDigest (some reorderedBody.value) =
      ascii "43258cff783fe7036d8a43033f830adfc60ec037382473548ac742b888292777" := by
  refine ⟨(identifies_iff orderedDigest_injective.injOn _ _).2 (iff_of_true ?_ ?_), by decide +kernel⟩
  · exact .obj (List.Perm.swap _ _ _) (.cons (.num _) (.cons (.num _) .nil))
  · exact List.Perm.swap _ _ _

/-- `{"a":{"x":1,"y":2}}` -/
def ascending : ParsedJson :=
  ⟨.obj [(ascii "a", .obj [(ascii "x", small 1 (by decide)), (ascii "y", small 2 (by decide))])],
    by decide⟩

/-- `{"a":{"y":2,"x":1}}` -/
def descending : ParsedJson :=
  ⟨.obj [(ascii "a", .obj [(ascii "y", small 2 (by decide)), (ascii "x", small 1 (by decide))])],
    by decide⟩

example : stableStringify (some (.obj [(ascii "b", small 2 (by decide)), (ascii "a", .null)])) =
    ascii "\x7b\"a\":null,\"b\":2\x7d" := by decide

/-- Keys are not sorted below the top. -/
theorem nested_keys_unsorted :
    ¬∀ digest : Text → Text, Function.Injective digest → Identifies digest ascending descending := by
  intro h
  have hsame : Same ascending.value descending.value :=
    .obj (List.Perm.refl _) (.cons (.obj (List.Perm.swap _ _ _)
      (.cons (.num _) (.cons (.num _) .nil))) .nil)
  have hhash := (h id Function.injective_id).1 hsame
  rw [hashRequestBody, hashRequestBody, id, id] at hhash
  exact absurd hhash (by decide)

end Expentra
