-- SUMMARY: No receipt loses its file: in every interleaving, with failures anywhere, a receipt has its file until it is removed.
import Expentra.Receipt.Storage
import Expentra.System.Operations

/-!
# Receipts keep their files

The references of receipts are drawn at random, so the results are about the receipts whose
reference was drawn once. An invariant of the record, the rows and the files, and an assertion
about each call: what a call does to the files rests on the draw it made, and no two calls
made the same.
-/

namespace Expentra

open Library Library.Concurrent CloudinaryReceiptStorage

/-! ## What is said of a receipt -/

namespace ReceiptUpload

/-- The file in the storage. -/
def asset (env : ReceiptStorageEnv) (upload : ReceiptUpload) : StoredAsset :=
  uploadedAsset env upload.reference upload.file.mimetype upload.file.buffer

/-- The row that an upload saves. -/
structure Describes (env : ReceiptStorageEnv) (upload : ReceiptUpload) (row : ReceiptRow) :
    Prop where
  reference : row.reference = upload.reference
  expenseId : row.expenseId = upload.expenseId
  uploadedById : row.uploadedById = upload.uploadedById
  fileName : row.fileName = ReceiptService.sanitizeFileName upload.file.originalname
  mimeType : row.mimeType = upload.file.mimetype
  file : (row.objectKey, row.resourceType) = (upload.asset env).key

end ReceiptUpload

namespace ReceiptState

variable (env : ReceiptStorageEnv) (s : ReceiptState)

/-- The event at a place of the record is the draw of an upload. -/
def Drew (n : Nat) (upload : ReceiptUpload) : Prop := s.history[n]? = some (.drawn upload)

/-- A reference was not drawn twice. -/
def Single (reference : String) : Prop := ∀ n m u v, s.Drew n u → s.Drew m v →
  u.reference = reference → v.reference = reference → n = m

def Saved (reference : String) : Prop :=
  ∃ row, .saved row ∈ s.history ∧ row.reference = reference

/-- An upload has deleted the file it had stored. -/
def Undone (reference : String) : Prop := .destroyed .undo reference ∈ s.history

/-- A removal has deleted the file. -/
def Removed (reference : String) : Prop := .destroyed .removal reference ∈ s.history

/-- The file that was uploaded with a reference is in the storage. -/
def HasFile (reference : String) : Prop :=
  ∃ n u, s.Drew n u ∧ u.reference = reference ∧ u.asset env ∈ s.assets

end ReceiptState

/-- A row saved under a reference is gone, and so is its file. -/
structure Gone (env : ReceiptStorageEnv) (s : ReceiptState) (reference : String) : Prop where
  row : ∀ row ∈ s.rows, row.reference ≠ reference
  file : ¬ s.HasFile env reference

/-! ## The invariant -/

structure ReceiptInv (env : ReceiptStorageEnv) (s : ReceiptState) : Prop where
  accepted : ∀ n u, s.Drew n u → AcceptedFile u.file
  saved : ∀ row, .saved row ∈ s.history → ∃ n u, s.Drew n u ∧ u.Describes env row
  savedOnce : ∀ row row', .saved row ∈ s.history → .saved row' ∈ s.history →
    row.reference = row'.reference → s.Single row.reference → row = row'
  rows : ∀ row ∈ s.rows, .saved row ∈ s.history
  ids : ∀ row, .saved row ∈ s.history → row.id < s.nextRowId
  idsOnce : ∀ row row', .saved row ∈ s.history → .saved row' ∈ s.history → row.id = row'.id →
    row = row'
  assets : ∀ a ∈ s.assets, ∃ n u, s.Drew n u ∧ a = u.asset env
  removed : ∀ reference, s.Removed reference → s.Saved reference
  undone : ∀ reference, s.Undone reference → ∃ n u, s.Drew n u ∧ u.reference = reference
  destroyed : ∀ reference, s.Single reference → s.Removed reference ∨ s.Undone reference →
    ¬ s.HasFile env reference
  kept : ∀ row ∈ s.rows, s.Single row.reference →
    s.HasFile env row.reference ∨ s.Removed row.reference ∨ s.Undone row.reference

/-- What is known of an upload, by the place of its draw. -/
def UploadAssertion (env : ReceiptStorageEnv) (s : ReceiptState) (authUser : AuthUser)
    (file : UploadedReceiptFile) (draw : Option Nat) : UploadPhase → Prop
  | .checking => draw = none ∧ AcceptedFile file
  | .refused => draw = none
  | .storing expenseId reference => ∃ n, draw = some n ∧
      s.Drew n ⟨reference, expenseId, authUser.id, file⟩ ∧
      (s.Single reference → ¬ s.Saved reference ∧ ¬ s.Undone reference ∧ ¬ s.HasFile env reference)
  | .saving expenseId reference stored => ∃ n, draw = some n ∧
      s.Drew n ⟨reference, expenseId, authUser.id, file⟩ ∧
      (stored.publicId, stored.resourceType) =
        (ReceiptUpload.asset env ⟨reference, expenseId, authUser.id, file⟩).key ∧
      (s.Single reference → ¬ s.Saved reference ∧ ¬ s.Undone reference ∧ s.HasFile env reference)
  | .undoing expenseId reference stored executed => ∃ n, draw = some n ∧
      s.Drew n ⟨reference, expenseId, authUser.id, file⟩ ∧
      (stored.publicId, stored.resourceType) =
        (ReceiptUpload.asset env ⟨reference, expenseId, authUser.id, file⟩).key ∧
      (s.Single reference → executed = false → ¬ s.Saved reference)
  | .finished row => ∃ n u, draw = some n ∧ s.Drew n u ∧ u.reference = row.reference ∧
      (s.Single row.reference → ¬ s.Undone row.reference ∧
        (s.HasFile env row.reference ∨ s.Removed row.reference))
  | .failed reference withoutTrace => ∃ n u, draw = some n ∧ s.Drew n u ∧ u.reference = reference ∧
      (s.Single reference → withoutTrace = true →
        ¬ s.Saved reference ∧ ¬ s.HasFile env reference)

def ReadAssertion (s : ReceiptState) : ReadPhase → Prop
  | .opening row => .saved row ∈ s.history
  | .finished row content => .saved row ∈ s.history ∧
      ∃ n u, s.Drew n u ∧ u.reference = row.reference ∧ content = u.file.buffer
  | _ => True

def RemoveAssertion (s : ReceiptState) : RemovePhase → Prop
  | .deleting _ row => .saved row ∈ s.history
  | .deletingRow _ row => .saved row ∈ s.history ∧ s.Removed row.reference
  | .finished expenseId row => .saved row ∈ s.history ∧ s.Removed row.reference ∧
      (s.Single row.reference → expenseId = row.expenseId →
        ∀ r ∈ s.rows, r.reference ≠ row.reference)
  | _ => True

def ReceiptAssertion (env : ReceiptStorageEnv) (s : ReceiptState) : ReceiptThread → Prop
  | .upload authUser _ file draw phase => UploadAssertion env s authUser file draw phase
  | .read _ _ _ phase => ReadAssertion s phase
  | .remove _ _ _ phase => RemoveAssertion s phase

/-- The ticket of a call: the place of its draw. -/
def ReceiptThread.draw : ReceiptThread → Option Nat
  | .upload _ _ _ draw _ => draw
  | _ => none

/-- A place of the record that is taken. -/
def ReceiptState.Placed (s : ReceiptState) (n : Nat) : Prop := n < s.history.length

/-! ## Statements of a call that may make them -/

/-- What the assertion of a call gives for its next statement. -/
def Entitled (env : ReceiptStorageEnv) (s : ReceiptState) (draw : Option Nat) :
    ReceiptStatement → Prop
  | .read | .deleteRow _ _ => True
  | .draw upload => AcceptedFile upload.file
  | .put asset => ∃ n u, draw = some n ∧ s.Drew n u ∧ asset = u.asset env ∧
      (s.Single u.reference → ¬ s.Saved u.reference ∧ ¬ s.Undone u.reference)
  | .insert row => ∃ n u, draw = some n ∧ s.Drew n u ∧ u.Describes env row ∧ row.id = s.nextRowId ∧
      (s.Single u.reference → ¬ s.Saved u.reference ∧ s.HasFile env u.reference)
  | .destroy publicId resourceType .undo reference => ∃ n u, draw = some n ∧ s.Drew n u ∧
      u.reference = reference ∧ (publicId, resourceType) = (u.asset env).key
  | .destroy publicId resourceType .removal reference => ∃ row, .saved row ∈ s.history ∧
      row.reference = reference ∧ (publicId, resourceType) = (row.objectKey, row.resourceType)

section Record

variable {env : ReceiptStorageEnv} {s s' : ReceiptState} {reference : String} {n m : Nat}
  {u v : ReceiptUpload} {statement : ReceiptStatement} {draw : Option Nat}

/-- Files that were uploaded with different references are different. -/
theorem ReceiptUpload.reference_of_key (h : (u.asset env).key = (v.asset env).key) :
    u.reference = v.reference := by
  have hpublic : (u.asset env).publicId = (v.asset env).publicId := congrArg Prod.fst h
  have htype : (u.asset env).resourceType = (v.asset env).resourceType := congrArg Prod.snd h
  change cloudinaryResourceTypeForMime u.file.mimetype =
    cloudinaryResourceTypeForMime v.file.mimetype at htype
  change env.publicIdOf env.folder u.reference (cloudinaryResourceTypeForMime u.file.mimetype) _ =
    env.publicIdOf env.folder v.reference (cloudinaryResourceTypeForMime v.file.mimetype) _ at hpublic
  rw [htype] at hpublic
  exact env.publicIdOf_inj hpublic

/-- What a statement adds to the record. -/
def ReceiptStatement.events : ReceiptStatement → List ReceiptEvent
  | .draw upload => [.drawn upload]
  | .insert row => [.saved row]
  | .destroy _ _ cause reference => [.destroyed cause reference]
  | _ => []

theorem ReceiptState.insertRow_eq_some {row : ReceiptRow} :
    s.insertRow row = some s' ↔ (s.db.expenses.find? row.expenseId).isSome = true ∧
      ∃ rows, s.rows.insert? row = some rows ∧ s' = { s with
        rows := rows, nextRowId := s.nextRowId + 1, history := s.history ++ [.saved row] } := by
  unfold insertRow
  split
  · next hexpense =>
    rw [Option.map_eq_some_iff]
    simp only [hexpense, true_and, eq_comm (b := s')]
  · next hexpense => simp [hexpense]

theorem ReceiptState.history_execute (h : s.execute statement = some s') :
    s'.history = s.history ++ statement.events := by
  cases statement with
  | insert row =>
    obtain ⟨-, rows, -, rfl⟩ := insertRow_eq_some.1 h
    rfl
  | read => cases h; exact (List.append_nil _).symm
  | put asset => cases h; exact (List.append_nil _).symm
  | deleteRow id expenseId => cases h; exact (List.append_nil _).symm
  | _ => cases h; rfl

theorem ReceiptState.mem_rows_execute (h : s.execute statement = some s') {row : ReceiptRow}
    (hrow : row ∈ s'.rows) : row ∈ s.rows ∨ statement = .insert row := by
  cases statement with
  | insert new =>
    obtain ⟨-, rows, hinsert, rfl⟩ := insertRow_eq_some.1 h
    rcases (Table.mem_insert hinsert).1 hrow with hold | rfl
    · exact .inl hold
    · exact .inr rfl
  | deleteRow id expenseId => cases h; exact .inl (Table.mem_keep.1 hrow).1
  | _ => cases h; exact .inl hrow

/-- Only an upload puts a file into the storage. -/
theorem ReceiptState.mem_assets_execute (h : s.execute statement = some s') {asset : StoredAsset}
    (hasset : asset ∈ s'.assets) : asset ∈ s.assets ∨ statement = .put asset := by
  cases statement with
  | put new =>
    cases h
    change asset ∈ (s.assets.insert? new).getD s.assets at hasset
    cases hinsert : s.assets.insert? new with
    | none => rw [hinsert] at hasset; exact .inl hasset
    | some assets =>
      rw [hinsert] at hasset
      rcases (Table.mem_insert hinsert).1 hasset with hold | rfl
      · exact .inl hold
      · exact .inr rfl
  | insert row =>
    obtain ⟨-, rows, -, rfl⟩ := insertRow_eq_some.1 h
    exact .inl hasset
  | destroy publicId resourceType cause reference => cases h; exact .inl (Table.mem_keep.1 hasset).1
  | _ => cases h; exact .inl hasset

/-- Only a deletion of the file takes it from the storage. -/
theorem ReceiptState.mem_assets_of_execute (h : s.execute statement = some s') {asset : StoredAsset}
    (hasset : asset ∈ s.assets) :
    asset ∈ s'.assets ∨ ∃ cause reference,
      statement = .destroy asset.publicId asset.resourceType cause reference := by
  cases statement with
  | put new =>
    cases h
    change asset ∈ (s.assets.insert? new).getD s.assets ∨ _
    cases hinsert : s.assets.insert? new with
    | none => exact .inl hasset
    | some assets => exact .inl ((Table.mem_insert hinsert).2 (.inl hasset))
  | insert row =>
    obtain ⟨-, rows, -, rfl⟩ := insertRow_eq_some.1 h
    exact .inl hasset
  | destroy publicId resourceType cause reference =>
    cases h
    by_cases hkey : asset.key = (publicId, resourceType)
    · cases hkey
      exact .inr ⟨cause, reference, rfl⟩
    · exact .inl (Table.mem_keep.2 ⟨hasset, decide_eq_true hkey⟩)
  | _ => cases h; exact .inl hasset

/-- The record only grows. -/
theorem ReceiptState.prefix_execute (h : s.execute statement = some s') : s.history <+: s'.history :=
  ⟨_, (history_execute h).symm⟩

theorem ReceiptState.Drew.mono (h : s.Drew n u) (hgrows : s.history <+: s'.history) : s'.Drew n u := by
  obtain ⟨rest, hrest⟩ := hgrows
  unfold Drew at h ⊢
  rw [← hrest, List.getElem?_append_left (List.getElem?_eq_some_iff.1 h).1]
  exact h

theorem ReceiptState.Drew.placed (h : s.Drew n u) : s.Placed n := (List.getElem?_eq_some_iff.1 h).1

theorem ReceiptState.Drew.unique (h : s.Drew n u) (h' : s.Drew n v) : u = v := by
  have heq : some (ReceiptEvent.drawn u) = some (.drawn v) := h.symm.trans h'
  injection heq with heq
  injection heq

theorem ReceiptState.Single.mono (h : s'.Single reference) (hgrows : s.history <+: s'.history) :
    s.Single reference :=
  fun n m u v hu hv => h n m u v (hu.mono hgrows) (hv.mono hgrows)

/-- A draw after a statement is one before it, or the statement. -/
theorem ReceiptState.drew_execute (h : s.execute statement = some s') (hu : s'.Drew n u) :
    s.Drew n u ∨ (statement = .draw u ∧ n = s.history.length) := by
  unfold Drew at hu ⊢
  rw [history_execute h] at hu
  rcases Nat.lt_or_ge n s.history.length with hlt | hge
  · rw [List.getElem?_append_left hlt] at hu
    exact .inl hu
  · rw [List.getElem?_append_right hge] at hu
    cases statement with
    | draw upload =>
      change [ReceiptEvent.drawn upload][n - s.history.length]? = _ at hu
      rw [List.getElem?_singleton] at hu
      split at hu
      · next hzero =>
        cases hu
        exact .inr ⟨rfl, by omega⟩
      · cases hu
    | insert row =>
      change [ReceiptEvent.saved row][n - s.history.length]? = _ at hu
      rw [List.getElem?_singleton] at hu
      split at hu <;> cases hu
    | destroy publicId resourceType cause reference =>
      change [ReceiptEvent.destroyed cause reference][n - s.history.length]? = _ at hu
      rw [List.getElem?_singleton] at hu
      split at hu <;> cases hu
    | _ => cases hu

theorem ReceiptState.saved_execute (h : s.execute statement = some s') {row : ReceiptRow}
    (hsaved : .saved row ∈ s'.history) : .saved row ∈ s.history ∨ statement = .insert row := by
  rw [history_execute h, List.mem_append] at hsaved
  rcases hsaved with hold | hnew
  · exact .inl hold
  · cases statement with
    | insert new => cases List.mem_singleton.1 hnew; exact .inr rfl
    | draw upload => cases List.mem_singleton.1 hnew
    | destroy publicId resourceType cause reference => cases List.mem_singleton.1 hnew
    | _ => cases hnew

theorem ReceiptState.destroyed_execute (h : s.execute statement = some s') {cause : DeletionCause}
    (hevent : .destroyed cause reference ∈ s'.history) : .destroyed cause reference ∈ s.history ∨
      ∃ publicId resourceType, statement = .destroy publicId resourceType cause reference := by
  rw [history_execute h, List.mem_append] at hevent
  rcases hevent with hold | hnew
  · exact .inl hold
  · cases statement with
    | destroy publicId resourceType cause' reference' =>
      cases List.mem_singleton.1 hnew
      exact .inr ⟨publicId, resourceType, rfl⟩
    | draw upload => cases List.mem_singleton.1 hnew
    | insert row => cases List.mem_singleton.1 hnew
    | _ => cases hnew

/-- A file of an upload that is in the storage is its file. -/
theorem ReceiptState.HasFile.mem (hsingle : s.Single reference) (hu : s.Drew n u)
    (href : u.reference = reference) (h : s.HasFile env reference) : u.asset env ∈ s.assets := by
  obtain ⟨m, v, hv, hvref, hasset⟩ := h
  obtain rfl : n = m := hsingle n m u v hu hv href hvref
  rw [hu.unique hv]
  exact hasset

/-! ## What the statements of other calls leave alone -/

section Others

variable (hentitled : Entitled env s draw statement) (hexec : s.execute statement = some s')
  (hv : s.Drew m v) (hapart : draw ≠ some m) (hsingle : s'.Single v.reference)

include hentitled hexec hv hapart hsingle

/-- No other call saves a row with the reference of an upload. -/
theorem ReceiptState.not_saved_execute (h : ¬ s.Saved v.reference) : ¬ s'.Saved v.reference := by
  rintro ⟨row, hrow, href⟩
  rcases saved_execute hexec hrow with hold | rfl
  · exact h ⟨row, hold, href⟩
  · obtain ⟨n, u, hdraw, hu, hdescribes, -, -⟩ := hentitled
    have hnm := (hsingle.mono (prefix_execute hexec)) n m u v hu hv
      (hdescribes.reference.symm.trans href) rfl
    exact hapart (hnm ▸ hdraw)

theorem ReceiptState.not_undone_execute (h : ¬ s.Undone v.reference) : ¬ s'.Undone v.reference := by
  intro hundone
  rcases destroyed_execute hexec hundone with hold | ⟨publicId, resourceType, rfl⟩
  · exact h hold
  · obtain ⟨n, u, hdraw, hu, href, -⟩ := hentitled
    have hnm := (hsingle.mono (prefix_execute hexec)) n m u v hu hv href rfl
    exact hapart (hnm ▸ hdraw)

theorem ReceiptState.not_hasFile_execute (h : ¬ s.HasFile env v.reference) :
    ¬ s'.HasFile env v.reference := by
  intro hfile
  have hasset := hfile.mem hsingle (hv.mono (prefix_execute hexec)) rfl
  rcases mem_assets_execute hexec hasset with hold | rfl
  · exact h ⟨m, v, hv, rfl, hold⟩
  · obtain ⟨n, u, hdraw, hu, heq, -⟩ := hentitled
    have hnm := (hsingle.mono (prefix_execute hexec)) n m u v hu hv
      (ReceiptUpload.reference_of_key (congrArg StoredAsset.key heq.symm)) rfl
    exact hapart (hnm ▸ hdraw)

/-- Another call deletes the file of an upload in a removal only, and then its row was saved. -/
theorem ReceiptState.hasFile_execute (hinv : ReceiptInv env s) (h : s.HasFile env v.reference) :
    s'.HasFile env v.reference ∨ (s'.Removed v.reference ∧ s.Saved v.reference) := by
  have hgrows := prefix_execute hexec
  have hasset := h.mem (hsingle.mono hgrows) hv rfl
  rcases mem_assets_of_execute hexec hasset with hkept | ⟨cause, reference, rfl⟩
  · exact .inl ⟨m, v, hv.mono hgrows, rfl, hkept⟩
  · cases cause with
    | undo =>
      obtain ⟨n, u, hdraw, hu, -, hkey⟩ := hentitled
      have hnm := (hsingle.mono hgrows) n m u v hu hv
        (ReceiptUpload.reference_of_key hkey).symm rfl
      exact absurd (hnm ▸ hdraw) hapart
    | removal =>
      obtain ⟨row, hrow, rfl, hkey⟩ := hentitled
      obtain ⟨n, u, hu, hdescribes⟩ := hinv.saved row hrow
      have href : row.reference = v.reference :=
        hdescribes.reference.trans (ReceiptUpload.reference_of_key (hkey.trans hdescribes.file)).symm
      refine .inr ⟨?_, row, hrow, href⟩
      rw [← href]
      rw [Removed, history_execute hexec]
      exact List.mem_append_right _ (List.mem_singleton.2 rfl)

end Others

/-! ## Every statement keeps the invariant -/

section Inv

variable (hinv : ReceiptInv env s) (hentitled : Entitled env s draw statement)
  (hexec : s.execute statement = some s')

/-- A file in the storage whose name is that of an upload. -/
theorem ReceiptInv.hasFile (hinv : ReceiptInv env s) (hasset : u.asset env ∈ s.assets) :
    s.HasFile env u.reference := by
  obtain ⟨n, v, hv, heq⟩ := hinv.assets _ hasset
  refine ⟨n, v, hv, ?_, heq ▸ hasset⟩
  exact (ReceiptUpload.reference_of_key (congrArg StoredAsset.key heq)).symm

include hinv in
/-- The file a call may delete is the one of the upload with that reference. -/
theorem Entitled.destroy {publicId resourceType : String} {cause : DeletionCause}
    (hentitled : Entitled env s draw (.destroy publicId resourceType cause reference)) :
    ∃ n u, s.Drew n u ∧ u.reference = reference ∧ (publicId, resourceType) = (u.asset env).key := by
  cases cause with
  | undo =>
    obtain ⟨n, u, -, hu, href, hkey⟩ := hentitled
    exact ⟨n, u, hu, href, hkey⟩
  | removal =>
    obtain ⟨row, hrow, rfl, hkey⟩ := hentitled
    obtain ⟨n, u, hu, hdescribes⟩ := hinv.saved row hrow
    exact ⟨n, u, hu, hdescribes.reference.symm, hkey.trans hdescribes.file⟩

include hinv hentitled hexec

theorem ReceiptInv.savedOnce_execute (row row' : ReceiptRow) (hrow : .saved row ∈ s'.history)
    (hrow' : .saved row' ∈ s'.history) (href : row.reference = row'.reference)
    (hsingle : s'.Single row.reference) : row = row' := by
  have hbefore := hsingle.mono (ReceiptState.prefix_execute hexec)
  rcases ReceiptState.saved_execute hexec hrow with hold | rfl
  · rcases ReceiptState.saved_execute hexec hrow' with hold' | rfl
    · exact hinv.savedOnce row row' hold hold' href hbefore
    · obtain ⟨n, u, -, -, hdescribes, -, hnew⟩ := hentitled
      rw [← hdescribes.reference, ← href] at hnew
      exact absurd ⟨row, hold, rfl⟩ (hnew hbefore).1
  · rcases ReceiptState.saved_execute hexec hrow' with hold' | hsame
    · obtain ⟨n, u, -, -, hdescribes, -, hnew⟩ := hentitled
      rw [← hdescribes.reference] at hnew
      exact absurd ⟨row', hold', href.symm⟩ (hnew hbefore).1
    · cases hsame
      rfl

theorem ReceiptInv.ids_execute : (∀ row, .saved row ∈ s'.history → row.id < s'.nextRowId) ∧
    ∀ row row', .saved row ∈ s'.history → .saved row' ∈ s'.history → row.id = row'.id → row = row' := by
  have hids : ∀ row, .saved row ∈ s.history → row.id < s'.nextRowId := by
    intro row hrow
    refine Nat.lt_of_lt_of_le (hinv.ids row hrow) ?_
    cases statement with
    | insert new =>
      obtain ⟨-, rows, -, rfl⟩ := ReceiptState.insertRow_eq_some.1 hexec
      exact Nat.le_succ _
    | _ => cases hexec; exact Nat.le_refl _
  have hnew : ∀ row, statement = .insert row → row.id = s.nextRowId ∧ row.id < s'.nextRowId := by
    rintro row rfl
    obtain ⟨n, u, -, -, -, hid, -⟩ := hentitled
    obtain ⟨-, rows, -, rfl⟩ := ReceiptState.insertRow_eq_some.1 hexec
    exact ⟨hid, hid ▸ Nat.lt_succ_self _⟩
  constructor
  · intro row hrow
    rcases ReceiptState.saved_execute hexec hrow with hold | hinsert
    · exact hids row hold
    · exact (hnew row hinsert).2
  · intro row row' hrow hrow' hid
    rcases ReceiptState.saved_execute hexec hrow with hold | hinsert
    · rcases ReceiptState.saved_execute hexec hrow' with hold' | hinsert'
      · exact hinv.idsOnce row row' hold hold' hid
      · exact absurd (hid.trans (hnew row' hinsert').1) (Nat.ne_of_lt (hinv.ids row hold))
    · rcases ReceiptState.saved_execute hexec hrow' with hold' | hinsert'
      · exact absurd (hid.symm.trans (hnew row hinsert).1) (Nat.ne_of_lt (hinv.ids row' hold'))
      · cases hinsert.symm.trans hinsert'
        rfl

/-- A file that was deleted does not come back. -/
theorem ReceiptInv.destroyed_execute (reference : String) (hsingle : s'.Single reference)
    (hdestroyed : s'.Removed reference ∨ s'.Undone reference) : ¬ s'.HasFile env reference := by
  rintro ⟨n, u, hu, rfl, hasset⟩
  have hgrows := ReceiptState.prefix_execute hexec
  have hbefore := hsingle.mono hgrows
  have hcases : (s.Removed u.reference ∨ s.Undone u.reference) ∨
      ∃ publicId resourceType cause, statement = .destroy publicId resourceType cause u.reference := by
    rcases hdestroyed with hremoved | hundone
    · exact (ReceiptState.destroyed_execute hexec hremoved).imp .inl
        (fun h => h.imp fun _ h => h.imp fun _ h => ⟨_, h⟩)
    · exact (ReceiptState.destroyed_execute hexec hundone).imp .inr
        (fun h => h.imp fun _ h => h.imp fun _ h => ⟨_, h⟩)
  rcases hcases with hold | ⟨publicId, resourceType, cause, rfl⟩
  · rcases ReceiptState.mem_assets_execute hexec hasset with hstored | rfl
    · exact hinv.destroyed _ hbefore hold (hinv.hasFile hstored)
    · obtain ⟨m, v, -, -, heq, hnew⟩ := hentitled
      have href := ReceiptUpload.reference_of_key (congrArg StoredAsset.key heq.symm)
      rw [href] at hnew
      obtain ⟨hsaved, hundone⟩ := hnew hbefore
      exact hold.elim (fun h => hsaved (hinv.removed _ h)) hundone
  · obtain ⟨m, v, hv, href, hkey⟩ := hentitled.destroy hinv
    obtain rfl : n = m := hsingle n m u v hu (hv.mono hgrows) rfl href
    rw [hu.unique (hv.mono hgrows)] at hasset
    cases hexec
    exact of_decide_eq_true (Table.mem_keep.1 hasset).2 hkey.symm

theorem ReceiptInv.kept_execute (row : ReceiptRow) (hrow : row ∈ s'.rows)
    (hsingle : s'.Single row.reference) : s'.HasFile env row.reference ∨
      s'.Removed row.reference ∨ s'.Undone row.reference := by
  have hgrows := ReceiptState.prefix_execute hexec
  have hbefore := hsingle.mono hgrows
  have hkept : s.HasFile env row.reference ∨ s.Removed row.reference ∨ s.Undone row.reference := by
    rcases ReceiptState.mem_rows_execute hexec hrow with hold | rfl
    · exact hinv.kept row hold hbefore
    · obtain ⟨n, u, -, -, hdescribes, -, hfile⟩ := hentitled
      rw [← hdescribes.reference] at hfile
      exact .inl (hfile hbefore).2
  rcases hkept with ⟨n, u, hu, href, hasset⟩ | hdestroyed
  · rcases ReceiptState.mem_assets_of_execute hexec hasset with hstays | ⟨cause, reference, rfl⟩
    · exact .inl ⟨n, u, hu.mono hgrows, href, hstays⟩
    · obtain ⟨m, v, hv, hvref, hkey⟩ := hentitled.destroy hinv
      have hsame : reference = row.reference := by
        rw [← hvref, ← href]
        exact (ReceiptUpload.reference_of_key hkey).symm
      have hrecord : .destroyed cause row.reference ∈ s'.history := by
        rw [ReceiptState.history_execute hexec, hsame]
        exact List.mem_append_right _ (List.mem_singleton.2 rfl)
      cases cause with
      | undo => exact .inr (.inr hrecord)
      | removal => exact .inr (.inl hrecord)
  · exact .inr (hdestroyed.imp (hgrows.subset ·) (hgrows.subset ·))

theorem ReceiptInv.execute : ReceiptInv env s' where
  accepted n u hu := by
    rcases ReceiptState.drew_execute hexec hu with hold | ⟨rfl, -⟩
    · exact hinv.accepted n u hold
    · exact hentitled
  saved row hrow := by
    have hdrawn : ∃ n u, s.Drew n u ∧ u.Describes env row := by
      rcases ReceiptState.saved_execute hexec hrow with hold | rfl
      · exact hinv.saved row hold
      · obtain ⟨n, u, -, hu, hdescribes, -⟩ := hentitled
        exact ⟨n, u, hu, hdescribes⟩
    obtain ⟨n, u, hu, hdescribes⟩ := hdrawn
    exact ⟨n, u, hu.mono (ReceiptState.prefix_execute hexec), hdescribes⟩
  savedOnce := hinv.savedOnce_execute hentitled hexec
  rows row hrow := by
    rcases ReceiptState.mem_rows_execute hexec hrow with hold | rfl
    · exact (ReceiptState.prefix_execute hexec).subset (hinv.rows row hold)
    · rw [ReceiptState.history_execute hexec]
      exact List.mem_append_right _ (List.mem_singleton.2 rfl)
  ids := (hinv.ids_execute hentitled hexec).1
  idsOnce := (hinv.ids_execute hentitled hexec).2
  assets a ha := by
    have hdrawn : ∃ n u, s.Drew n u ∧ a = u.asset env := by
      rcases ReceiptState.mem_assets_execute hexec ha with hold | rfl
      · exact hinv.assets a hold
      · obtain ⟨n, u, -, hu, heq, -⟩ := hentitled
        exact ⟨n, u, hu, heq⟩
    obtain ⟨n, u, hu, heq⟩ := hdrawn
    exact ⟨n, u, hu.mono (ReceiptState.prefix_execute hexec), heq⟩
  removed reference hremoved := by
    have hsaved : s.Saved reference := by
      rcases ReceiptState.destroyed_execute hexec hremoved with hold | ⟨publicId, resourceType, rfl⟩
      · exact hinv.removed reference hold
      · obtain ⟨row, hrow, href, -⟩ := hentitled
        exact ⟨row, hrow, href⟩
    obtain ⟨row, hrow, href⟩ := hsaved
    exact ⟨row, (ReceiptState.prefix_execute hexec).subset hrow, href⟩
  undone reference hundone := by
    have hdrawn : ∃ n u, s.Drew n u ∧ u.reference = reference := by
      rcases ReceiptState.destroyed_execute hexec hundone with hold | ⟨publicId, resourceType, rfl⟩
      · exact hinv.undone reference hold
      · obtain ⟨n, u, -, hu, href, -⟩ := hentitled
        exact ⟨n, u, hu, href⟩
    obtain ⟨n, u, hu, href⟩ := hdrawn
    exact ⟨n, u, hu.mono (ReceiptState.prefix_execute hexec), href⟩
  destroyed := hinv.destroyed_execute hentitled hexec
  kept := hinv.kept_execute hentitled hexec

end Inv

/-! ## Assertions of the other calls -/

section Assertions

variable {authUser : AuthUser} {file : UploadedReceiptFile} {held : Option Nat}
  (hinv : ReceiptInv env s) (hentitled : Entitled env s draw statement)
  (hexec : s.execute statement = some s')

include hinv hentitled hexec

theorem UploadAssertion.execute {phase : UploadPhase}
    (hapart : ∀ k, held = some k → s.Placed k ∧ draw ≠ some k)
    (h : UploadAssertion env s authUser file held phase) :
    UploadAssertion env s' authUser file held phase := by
  have hgrows := ReceiptState.prefix_execute hexec
  cases phase with
  | checking => exact h
  | refused => exact h
  | storing expenseId reference =>
    obtain ⟨n, rfl, hu, hnew⟩ := h
    refine ⟨n, rfl, hu.mono hgrows, fun hsingle => ?_⟩
    obtain ⟨hsaved, hundone, hfile⟩ := hnew (hsingle.mono hgrows)
    have hother := (hapart n rfl).2
    exact ⟨ReceiptState.not_saved_execute hentitled hexec hu hother hsingle hsaved,
      ReceiptState.not_undone_execute hentitled hexec hu hother hsingle hundone,
      ReceiptState.not_hasFile_execute hentitled hexec hu hother hsingle hfile⟩
  | saving expenseId reference stored =>
    obtain ⟨n, rfl, hu, hstored, hnew⟩ := h
    refine ⟨n, rfl, hu.mono hgrows, hstored, fun hsingle => ?_⟩
    obtain ⟨hsaved, hundone, hfile⟩ := hnew (hsingle.mono hgrows)
    have hother := (hapart n rfl).2
    refine ⟨ReceiptState.not_saved_execute hentitled hexec hu hother hsingle hsaved,
      ReceiptState.not_undone_execute hentitled hexec hu hother hsingle hundone, ?_⟩
    -- a removal would have found the row, which is not saved yet
    exact (ReceiptState.hasFile_execute hentitled hexec hu hother hsingle hinv hfile).resolve_right
      (fun hremoved => hsaved hremoved.2)
  | undoing expenseId reference stored executed =>
    obtain ⟨n, rfl, hu, hstored, hnew⟩ := h
    refine ⟨n, rfl, hu.mono hgrows, hstored, fun hsingle hexecuted => ?_⟩
    exact ReceiptState.not_saved_execute hentitled hexec hu (hapart n rfl).2 hsingle
      (hnew (hsingle.mono hgrows) hexecuted)
  | finished row =>
    obtain ⟨n, u, rfl, hu, href, hnew⟩ := h
    refine ⟨n, u, rfl, hu.mono hgrows, href, ?_⟩
    rw [← href] at hnew ⊢
    intro hsingle
    obtain ⟨hundone, hfile⟩ := hnew (hsingle.mono hgrows)
    have hother := (hapart n rfl).2
    refine ⟨ReceiptState.not_undone_execute hentitled hexec hu hother hsingle hundone, ?_⟩
    rcases hfile with hfile | hremoved
    · exact (ReceiptState.hasFile_execute hentitled hexec hu hother hsingle hinv hfile).imp_right And.left
    · exact .inr (hgrows.subset hremoved)
  | failed reference withoutTrace =>
    obtain ⟨n, u, rfl, hu, rfl, hnew⟩ := h
    refine ⟨n, u, rfl, hu.mono hgrows, rfl, fun hsingle hclean => ?_⟩
    obtain ⟨hsaved, hfile⟩ := hnew (hsingle.mono hgrows) hclean
    have hother := (hapart n rfl).2
    exact ⟨ReceiptState.not_saved_execute hentitled hexec hu hother hsingle hsaved,
      ReceiptState.not_hasFile_execute hentitled hexec hu hother hsingle hfile⟩

omit hinv hentitled in
theorem ReadAssertion.execute {phase : ReadPhase} (h : ReadAssertion s phase) :
    ReadAssertion s' phase := by
  have hgrows := ReceiptState.prefix_execute hexec
  cases phase with
  | opening row => exact hgrows.subset h
  | finished row content =>
    obtain ⟨hsaved, n, u, hu, href, hcontent⟩ := h
    exact ⟨hgrows.subset hsaved, n, u, hu.mono hgrows, href, hcontent⟩
  | _ => trivial

omit hinv in
theorem RemoveAssertion.execute {phase : RemovePhase} (h : RemoveAssertion s phase) :
    RemoveAssertion s' phase := by
  have hgrows := ReceiptState.prefix_execute hexec
  cases phase with
  | deleting expenseId row => exact hgrows.subset h
  | deletingRow expenseId row => exact ⟨hgrows.subset h.1, hgrows.subset h.2⟩
  | finished expenseId row =>
    obtain ⟨hsaved, hremoved, hgone⟩ := h
    refine ⟨hgrows.subset hsaved, hgrows.subset hremoved, fun hsingle hexpense r hr href => ?_⟩
    have hbefore := hsingle.mono hgrows
    rcases ReceiptState.mem_rows_execute hexec hr with hold | rfl
    · exact hgone hbefore hexpense r hold href
    · -- the row was saved before, and is not saved again
      obtain ⟨n, u, -, -, hdescribes, -, hnew⟩ := hentitled
      rw [← hdescribes.reference, href] at hnew
      exact (hnew hbefore).1 ⟨row, hsaved, rfl⟩
  | _ => trivial

theorem ReceiptAssertion.execute {t : ReceiptThread}
    (hapart : Apart ReceiptThread.draw ReceiptState.Placed s draw t)
    (h : ReceiptAssertion env s t) : ReceiptAssertion env s' t := by
  cases t with
  | upload authUser expenseReference file held phase =>
    exact UploadAssertion.execute hinv hentitled hexec hapart h
  | read authUser expenseReference lookup phase => exact ReadAssertion.execute hexec h
  | remove authUser expenseReference receiptReference phase =>
    exact RemoveAssertion.execute hentitled hexec h

end Assertions

end Record

/-! ## The steps of the calls -/

section Calls

open ReceiptService

variable {env : ReceiptStorageEnv} {s s' : ReceiptState} {statement : ReceiptStatement}
  {outcome : ReceiptOutcome} {authUser : AuthUser} {expenseReference : String}

/-- Files are deleted under the type they were stored under. -/
theorem deleteResourceType_asset (u : ReceiptUpload) :
    deleteResourceType (u.asset env).resourceType = (u.asset env).resourceType := by
  change deleteResourceType (cloudinaryResourceTypeForMime u.file.mimetype) =
    cloudinaryResourceTypeForMime u.file.mimetype
  unfold cloudinaryResourceTypeForMime
  split <;> decide

/-- They are read under it. -/
theorem readResourceType_asset (u : ReceiptUpload) (mimeType : String) :
    readResourceType (u.asset env).resourceType mimeType = (u.asset env).resourceType := by
  refine if_pos ?_
  change cloudinaryResourceTypeForMime u.file.mimetype = "raw" ∨
    cloudinaryResourceTypeForMime u.file.mimetype = "image"
  unfold cloudinaryResourceTypeForMime
  split
  · exact .inl rfl
  · exact .inr rfl

/-- A reference that only the last upload has drawn was not drawn before. -/
theorem ReceiptState.not_drew_of_single {u v : ReceiptUpload} {m : Nat}
    (hsingle : (s.record (.drawn u)).Single u.reference) (hv : s.Drew m v) :
    v.reference ≠ u.reference := by
  intro href
  have hlast : (s.record (.drawn u)).Drew s.history.length u := List.getElem?_concat_length
  have hm := hsingle m s.history.length v u (hv.mono (List.prefix_append _ _)) hlast href rfl
  exact Nat.lt_irrefl _ (hm ▸ hv.placed)

/-- The row of an upload is what it is called to save. -/
theorem describes_attachmentRow {id expenseId : Nat} {reference : String}
    {file : UploadedReceiptFile} {stored : CloudinaryStoredReceipt} {now : Instant}
    (hstored : (stored.publicId, stored.resourceType) =
      (ReceiptUpload.asset env ⟨reference, expenseId, authUser.id, file⟩).key) :
    ReceiptUpload.Describes env ⟨reference, expenseId, authUser.id, file⟩
      (attachmentRow id authUser expenseId reference file stored now) where
  reference := rfl
  expenseId := rfl
  uploadedById := rfl
  fileName := by rw [attachmentRow]
  mimeType := rfl
  file := hstored

/-- What an upload deletes is the file it stored. -/
theorem deleted_asset {u : ReceiptUpload} {publicId resourceType : String}
    (hstored : (publicId, resourceType) = (u.asset env).key) :
    (publicId, deleteResourceType resourceType) = (u.asset env).key := by
  have htype : resourceType = (u.asset env).resourceType := congrArg Prod.snd hstored
  rw [htype, deleteResourceType_asset, ← htype]
  exact hstored

/-- The next statement of an upload is one it may make. -/
theorem UploadAssertion.entitled {file : UploadedReceiptFile} {draw : Option Nat}
    {phase phase' : UploadPhase} (h : UploadAssertion env s authUser file draw phase)
    (hnext : uploadReceipt env s authUser expenseReference file phase outcome =
      some (statement, phase')) : Entitled env s draw statement := by
  unfold uploadReceipt at hnext
  split at hnext
  · split at hnext
    · cases hnext
      exact h.2
    · cases hnext
      trivial
  · cases hnext
    trivial
  · cases hnext
    obtain ⟨n, hdraw, hu, hnew⟩ := h
    exact ⟨n, _, hdraw, hu, rfl, fun hsingle => ⟨(hnew hsingle).1, (hnew hsingle).2.1⟩⟩
  · cases hnext
    obtain ⟨n, hdraw, hu, hnew⟩ := h
    split
    · exact ⟨n, _, hdraw, hu, rfl, fun hsingle => ⟨(hnew hsingle).1, (hnew hsingle).2.1⟩⟩
    · trivial
  · cases hnext
    obtain ⟨n, hdraw, hu, hstored, hnew⟩ := h
    exact ⟨n, _, hdraw, hu, describes_attachmentRow hstored, rfl,
      fun hsingle => ⟨(hnew hsingle).1, (hnew hsingle).2.2⟩⟩
  · cases hnext
    obtain ⟨n, hdraw, hu, hstored, hnew⟩ := h
    split
    · exact ⟨n, _, hdraw, hu, describes_attachmentRow hstored, rfl,
        fun hsingle => ⟨(hnew hsingle).1, (hnew hsingle).2.2⟩⟩
    · trivial
  · cases hnext
    obtain ⟨n, hdraw, hu, hstored, -⟩ := h
    exact ⟨n, _, hdraw, hu, rfl, deleted_asset hstored⟩
  · cases hnext
    obtain ⟨n, hdraw, hu, hstored, -⟩ := h
    split
    · exact ⟨n, _, hdraw, hu, rfl, deleted_asset hstored⟩
    · trivial
  · cases hnext

variable (hinv : ReceiptInv env s)

include hinv

/-- An upload whose reference is new begins with nothing under that reference. -/
theorem UploadAssertion.draw {file : UploadedReceiptFile} {expenseId : Nat} {reference : String} :
    UploadAssertion env (s.record (.drawn ⟨reference, expenseId, authUser.id, file⟩)) authUser file
      (some s.history.length) (.storing expenseId reference) := by
  refine ⟨_, rfl, List.getElem?_concat_length, fun hsingle => ⟨?_, ?_, ?_⟩⟩
  · rintro ⟨row, hrow, href⟩
    rcases List.mem_append.1 hrow with hold | hnew
    · obtain ⟨n, v, hv, hdescribes⟩ := hinv.saved row hold
      exact ReceiptState.not_drew_of_single hsingle hv (hdescribes.reference.symm.trans href)
    · cases List.mem_singleton.1 hnew
  · intro hundone
    rcases List.mem_append.1 hundone with hold | hnew
    · obtain ⟨n, v, hv, href⟩ := hinv.undone reference hold
      exact ReceiptState.not_drew_of_single hsingle hv href
    · cases List.mem_singleton.1 hnew
  · intro hfile
    have hasset := hfile.mem hsingle List.getElem?_concat_length rfl
    obtain ⟨n, v, hv, href, -⟩ := hinv.hasFile hasset
    exact ReceiptState.not_drew_of_single hsingle hv href

/-- A file whose name is new is stored. -/
theorem ReceiptState.hasFile_put {n : Nat} {u : ReceiptUpload} (hu : s.Drew n u)
    (hnew : ¬ s.HasFile env u.reference) : (s.put (u.asset env)).HasFile env u.reference := by
  refine ⟨n, u, hu, rfl, ?_⟩
  change u.asset env ∈ (s.assets.insert? (u.asset env)).getD s.assets
  cases hinsert : s.assets.insert? (u.asset env) with
  | some assets => exact (Table.mem_insert hinsert).2 (.inr rfl)
  | none =>
    obtain ⟨a, ha, hkey⟩ := Table.insert?_eq_none.1 hinsert
    obtain ⟨m, v, hv, rfl⟩ := hinv.assets a ha
    exact absurd ⟨m, v, hv, ReceiptUpload.reference_of_key hkey, ha⟩ hnew

/-- What is known of an upload after its next statement. -/
theorem UploadAssertion.advance {file : UploadedReceiptFile} {draw : Option Nat}
    {phase phase' : UploadPhase} (h : UploadAssertion env s authUser file draw phase)
    (hnext : uploadReceipt env s authUser expenseReference file phase outcome =
      some (statement, phase')) (hexec : s.execute statement = some s') :
    UploadAssertion env s' authUser file (statement.place s.history.length draw) phase' := by
  have hinv' : ReceiptInv env s' := hinv.execute (h.entitled hnext) hexec
  unfold uploadReceipt at hnext
  split at hnext
  · split at hnext
    · cases hnext
      cases hexec
      exact UploadAssertion.draw hinv
    · cases hnext
      exact h.1
  · cases hnext
    exact h.1
  · cases hnext
    cases hexec
    obtain ⟨n, hdraw, hu, hnew⟩ := h
    refine ⟨n, hdraw, hu, rfl, fun hsingle => ⟨(hnew hsingle).1, (hnew hsingle).2.1, ?_⟩⟩
    exact ReceiptState.hasFile_put hinv hu (hnew hsingle).2.2
  · cases hnext
    obtain ⟨n, hdraw, hu, hnew⟩ := h
    split at hexec
    · next hexecuted =>
      cases hexec
      refine ⟨n, _, ?_, hu, rfl, fun _ hclean => ?_⟩
      · rw [if_pos hexecuted]
        exact hdraw
      · rw [hexecuted] at hclean
        cases hclean
    · next hexecuted =>
      cases hexec
      refine ⟨n, _, ?_, hu, rfl, fun hsingle _ => ⟨(hnew hsingle).1, (hnew hsingle).2.2⟩⟩
      rw [if_neg hexecuted]
      exact hdraw
  · cases hnext
    obtain ⟨n, hdraw, hu, hstored, hnew⟩ := h
    have hgrows := ReceiptState.prefix_execute hexec
    refine ⟨n, _, hdraw, hu.mono hgrows, rfl, fun hsingle => ?_⟩
    obtain ⟨-, hundone, m, v, hv, href, hasset⟩ := hnew (hsingle.mono hgrows)
    refine ⟨fun hundone' => ?_, .inl ⟨m, v, hv.mono hgrows, href, ?_⟩⟩
    · rcases ReceiptState.destroyed_execute hexec hundone' with hold | ⟨publicId, resourceType, hdestroy⟩
      · exact hundone hold
      · cases hdestroy
    · rcases ReceiptState.mem_assets_of_execute hexec hasset with hstays | ⟨cause, reference, hdestroy⟩
      · exact hstays
      · cases hdestroy
  · cases hnext
    obtain ⟨n, hdraw, hu, hstored, hnew⟩ := h
    have hgrows := ReceiptState.prefix_execute hexec
    refine ⟨n, ?_, hu.mono hgrows, hstored, fun hsingle hexecuted => ?_⟩
    · split <;> exact hdraw
    · subst hexecuted
      obtain rfl : s = s' := Option.some.inj hexec
      exact (hnew hsingle).1
  · cases hnext
    obtain ⟨n, hdraw, hu, hstored, hnew⟩ := h
    have hgrows := ReceiptState.prefix_execute hexec
    refine ⟨n, _, hdraw, hu.mono hgrows, rfl, fun hsingle hclean => ⟨?_, ?_⟩⟩
    · rintro ⟨row, hrow, href⟩
      rcases ReceiptState.saved_execute hexec hrow with hold | hinsert
      · exact hnew (hsingle.mono hgrows) (Bool.not_eq_true' _ ▸ hclean) ⟨row, hold, href⟩
      · cases hinsert
    · refine hinv'.destroyed _ hsingle (.inr ?_)
      cases hexec
      exact List.mem_append_right _ (List.mem_singleton.2 rfl)
  · cases hnext
    obtain ⟨n, hdraw, hu, hstored, -⟩ := h
    refine ⟨n, _, ?_, hu.mono (ReceiptState.prefix_execute hexec), rfl,
      fun _ hclean => absurd hclean Bool.false_ne_true⟩
    split <;> exact hdraw
  · cases hnext

omit hinv in
/-- A receipt that is found is a row of that expense. -/
theorem findReceipt_mem {expenseId : Nat} {lookup : ReceiptLookup} {row : ReceiptRow}
    (h : findReceipt s expenseId lookup = .ok row) : row ∈ s.rows ∧ row.expenseId = expenseId := by
  cases lookup with
  | reference receiptReference =>
    obtain ⟨found, hfound, h⟩ := Except.bind_eq_ok.1 h
    split at h
    · cases h
    · next hexpense =>
      cases h
      exact ⟨(findEntityByReference_eq_ok hfound).1, not_not.1 hexpense⟩
  | objectKey objectKey =>
    unfold findReceipt at h
    dsimp only at h
    split at h
    · next found hfound =>
      cases h
      have hboth := List.find?_some hfound
      rw [Bool.and_eq_true] at hboth
      exact ⟨List.mem_of_find?_eq_some hfound, of_decide_eq_true hboth.1⟩
    · cases h

/-- What is read for a row was uploaded with its reference. -/
theorem openReadStream_eq_some {row : ReceiptRow} {content : Bytes} (hrow : .saved row ∈ s.history)
    (h : openReadStream s row = some content) :
    ∃ n u, s.Drew n u ∧ u.reference = row.reference ∧ content = u.file.buffer := by
  unfold openReadStream at h
  split at h
  · cases h
  · obtain ⟨a, ha, rfl⟩ := Option.map_eq_some_iff.1 h
    obtain ⟨n, u, hu, hdescribes⟩ := hinv.saved row hrow
    obtain ⟨m, v, hv, rfl⟩ := hinv.assets a (Table.mem_of_find? ha)
    have hkey : (v.asset env).key = (u.asset env).key := by
      rw [Table.key_of_find? ha, ← hdescribes.file]
      have htype : row.resourceType = (u.asset env).resourceType := congrArg Prod.snd hdescribes.file
      rw [htype, readResourceType_asset]
    exact ⟨m, v, hv, (ReceiptUpload.reference_of_key hkey).trans hdescribes.reference.symm, rfl⟩

theorem ReadAssertion.advance {lookup : ReceiptLookup} {phase phase' : ReadPhase}
    (h : ReadAssertion s phase)
    (hnext : readReceipt s authUser expenseReference lookup phase outcome =
      some (statement, phase')) : statement = .read ∧ ReadAssertion s phase' := by
  unfold readReceipt at hnext
  split at hnext
  · split at hnext <;> cases hnext <;> exact ⟨rfl, trivial⟩
  · split at hnext
    · next hfound =>
      cases hnext
      exact ⟨rfl, hinv.rows _ (findReceipt_mem hfound).1⟩
    · cases hnext
      exact ⟨rfl, trivial⟩
  · split at hnext
    · next hcontent =>
      cases hnext
      exact ⟨rfl, h, openReadStream_eq_some hinv h hcontent⟩
    · cases hnext
      exact ⟨rfl, trivial⟩
  · cases hnext; exact ⟨rfl, trivial⟩
  · cases hnext; exact ⟨rfl, trivial⟩
  · cases hnext; exact ⟨rfl, trivial⟩
  · cases hnext

/-- A removal deletes the file of the row it has found. -/
theorem entitled_removal {row : ReceiptRow} {draw : Option Nat} (hrow : .saved row ∈ s.history) :
    Entitled env s draw (.destroy row.objectKey (deleteResourceType row.resourceType) .removal
      row.reference) := by
  obtain ⟨n, u, hu, hdescribes⟩ := hinv.saved row hrow
  exact ⟨row, hrow, rfl, (deleted_asset hdescribes.file).trans hdescribes.file.symm⟩

theorem RemoveAssertion.entitled {receiptReference : String} {draw : Option Nat}
    {phase phase' : RemovePhase} (h : RemoveAssertion s phase)
    (hnext : removeReceipt s authUser expenseReference receiptReference phase outcome =
      some (statement, phase')) : Entitled env s draw statement := by
  unfold removeReceipt at hnext
  split at hnext
  · split at hnext <;> cases hnext <;> trivial
  · split at hnext <;> cases hnext <;> trivial
  · split at hnext <;> cases hnext <;> trivial
  · cases hnext
    exact entitled_removal hinv h
  · cases hnext
    split
    · exact entitled_removal hinv h
    · trivial
  · cases hnext; trivial
  · cases hnext
    split <;> trivial
  · cases hnext; trivial
  · cases hnext; trivial
  · cases hnext; trivial
  · cases hnext

theorem RemoveAssertion.advance {receiptReference : String} {phase phase' : RemovePhase}
    (h : RemoveAssertion s phase)
    (hnext : removeReceipt s authUser expenseReference receiptReference phase outcome =
      some (statement, phase')) (hexec : s.execute statement = some s') :
    RemoveAssertion s' phase' := by
  have hgrows := ReceiptState.prefix_execute hexec
  unfold removeReceipt at hnext
  split at hnext
  · split at hnext <;> cases hnext <;> trivial
  · split at hnext <;> cases hnext <;> trivial
  · split at hnext
    · next hfound =>
      cases hnext
      exact hgrows.subset (hinv.rows _ (findReceipt_mem hfound).1)
    · cases hnext
      trivial
  · cases hnext
    refine ⟨hgrows.subset h, ?_⟩
    cases hexec
    exact List.mem_append_right _ (List.mem_singleton.2 rfl)
  · cases hnext; trivial
  · cases hnext
    obtain ⟨hsaved, hremoved⟩ := h
    refine ⟨hgrows.subset hsaved, hgrows.subset hremoved, fun hsingle hexpense r hr href => ?_⟩
    cases hexec
    obtain ⟨hr, hkept⟩ := Table.mem_keep.1 hr
    have hsingle' := hsingle.mono hgrows
    obtain rfl := hinv.savedOnce r _ (hinv.rows r hr) hsaved href (href ▸ hsingle')
    simp [hexpense] at hkept
  · cases hnext; trivial
  · cases hnext; trivial
  · cases hnext; trivial
  · cases hnext; trivial
  · cases hnext

end Calls

/-! ## Runs -/

section Runs

open ReceiptService

variable {env : ReceiptStorageEnv} {s s' : ReceiptState} {statement : ReceiptStatement}
  {t t' : ReceiptThread} {outcome : ReceiptOutcome}

theorem ReceiptAssertion.arrive {arrival : ReceiptArrival} (h : arrive arrival = some t) :
    t.draw = none ∧ ReceiptAssertion env s t := by
  unfold ReceiptService.arrive at h
  split at h
  · split at h
    · next hfile =>
      cases h
      exact ⟨rfl, rfl, (acceptUpload_ok hfile).1⟩
    · cases h
  · split at h
    · split at h
      · cases h
      · cases h
        exact ⟨rfl, trivial⟩
    · cases h
      exact ⟨rfl, trivial⟩
  · cases h
    exact ⟨rfl, trivial⟩

/-- A call makes a statement it may make, and its assertion holds afterwards. -/
theorem ReceiptAssertion.advance (hinv : ReceiptInv env s) (h : ReceiptAssertion env s t)
    (hnext : advance env s t outcome = some (statement, t')) :
    Entitled env s t.draw statement ∧
      (∀ s', s.execute statement = some s' → ReceiptAssertion env s' t') ∧
      (t'.draw = none ∨ t'.draw = statement.place s.history.length t.draw) := by
  cases t with
  | upload authUser expenseReference file draw phase =>
    obtain ⟨⟨statement, phase'⟩, hupload, heq⟩ := Option.map_eq_some_iff.1 hnext
    cases heq
    exact ⟨UploadAssertion.entitled h hupload,
      fun s' hexec => UploadAssertion.advance hinv h hupload hexec, .inr rfl⟩
  | read authUser expenseReference lookup phase =>
    obtain ⟨⟨statement, phase'⟩, hread, heq⟩ := Option.map_eq_some_iff.1 hnext
    cases heq
    obtain ⟨rfl, hafter⟩ := ReadAssertion.advance hinv h hread
    exact ⟨trivial, fun s' hexec => Option.some.inj hexec ▸ hafter, .inl rfl⟩
  | remove authUser expenseReference receiptReference phase =>
    obtain ⟨⟨statement, phase'⟩, hremove, heq⟩ := Option.map_eq_some_iff.1 hnext
    cases heq
    exact ⟨RemoveAssertion.entitled hinv h hremove,
      fun s' hexec => RemoveAssertion.advance hinv h hremove hexec, .inl rfl⟩

/-- A call draws at the end of the record. -/
theorem takesTicket_place (hexec : s.execute statement = some s')
    (hdraw : t'.draw = none ∨ t'.draw = statement.place s.history.length t.draw) :
    TakesTicket ReceiptThread.draw ReceiptState.Placed s s' t.draw t' := by
  intro k hk
  rcases hdraw with hnone | hplace
  · cases hnone.symm.trans hk
  · rw [hplace] at hk
    cases statement with
    | draw upload =>
      cases hk
      cases hexec
      refine .inr ⟨Nat.lt_irrefl _, ?_⟩
      change s.history.length < (s.history ++ [_]).length
      rw [List.length_append]
      exact Nat.lt_succ_self _
    | _ => exact .inl hk

theorem receiptInv_initial (db : Db) : ReceiptInv env (.initial db) where
  accepted n u hu := by cases hu
  saved row hrow := absurd hrow List.not_mem_nil
  savedOnce row row' hrow := absurd hrow List.not_mem_nil
  rows row hrow := absurd hrow List.not_mem_nil
  ids row hrow := absurd hrow List.not_mem_nil
  idsOnce row row' hrow := absurd hrow List.not_mem_nil
  assets a ha := absurd ha List.not_mem_nil
  removed reference hremoved := absurd hremoved List.not_mem_nil
  undone reference hundone := absurd hundone List.not_mem_nil
  destroyed reference _ hdestroyed :=
    hdestroyed.elim (absurd · List.not_mem_nil) (absurd · List.not_mem_nil)
  kept row hrow := absurd hrow List.not_mem_nil

/-- Other transactions leave the files and the record alone, and add no row. -/
theorem ReceiptInv.commit (hinv : ReceiptInv env s) (db : Db) : ReceiptInv env (s.commit db) where
  accepted := hinv.accepted
  saved := hinv.saved
  savedOnce := hinv.savedOnce
  rows row hrow := hinv.rows row (Table.mem_keep.1 hrow).1
  ids := hinv.ids
  idsOnce := hinv.idsOnce
  assets := hinv.assets
  removed := hinv.removed
  undone := hinv.undone
  destroyed := hinv.destroyed
  kept row hrow := hinv.kept row (Table.mem_keep.1 hrow).1

theorem ReceiptAssertion.commit (h : ReceiptAssertion env s t) (db : Db) :
    ReceiptAssertion env (s.commit db) t := by
  cases t with
  | remove authUser expenseReference receiptReference phase =>
    cases phase with
    | finished expenseId row =>
      obtain ⟨hsaved, hremoved, hgone⟩ := h
      exact ⟨hsaved, hremoved,
        fun hsingle hexpense r hr => hgone hsingle hexpense r (Table.mem_keep.1 hr).1⟩
    | _ => exact h
  | _ => exact h

theorem receipts_outline (env : ReceiptStorageEnv) : TicketOutline ReceiptThread.draw
    ReceiptState.Placed (receipts env) (ReceiptInv env) (fun _ => ReceiptAssertion env) where
  start := by
    intro s arrival s' t hinv hstart
    obtain ⟨t', harrive, heq⟩ := Option.map_eq_some_iff.1 hstart
    cases heq
    obtain ⟨hdraw, hassertion⟩ : t.draw = none ∧ ReceiptAssertion env s t :=
      ReceiptAssertion.arrive harrive
    exact ⟨fun _ hk => hk, fun k hk => absurd (hdraw.symm.trans hk) (Option.some_ne_none k).symm,
      hinv, fun _ => hassertion, fun _ _ hu => hu⟩
  step := by
    intro i s t outcome s' t' hinv hassertion hstep
    obtain ⟨⟨statement, t''⟩, hnext, hstep⟩ := Option.bind_eq_some_iff.1 hstep
    obtain ⟨s'', hexec, heq⟩ := Option.map_eq_some_iff.1 hstep
    cases heq
    obtain ⟨hentitled, hself, hdraw⟩ := hassertion.advance hinv hnext
    refine ⟨fun k hk => ?_, takesTicket_place hexec hdraw, hinv.execute hentitled hexec,
      hself s' hexec, fun j u _ hapart hu => hu.execute hinv hentitled hexec hapart⟩
    exact Nat.lt_of_lt_of_le hk (ReceiptState.prefix_execute hexec).length_le
  surroundings := by
    intro s db s' hinv hchange
    cases hchange
    exact ⟨fun _ hk => hk, hinv.commit db, fun _ u hu => hu.commit db⟩

end Runs

/-- What holds of the receipts, their files, and the calls that have returned. -/
structure ReceiptsKept (env : ReceiptStorageEnv) (p : Pool ReceiptState ReceiptThread) : Prop where
  rows : ∀ row ∈ p.shared.rows, ∃ n u, p.shared.Drew n u ∧ u.Describes env row ∧
    AcceptedFile u.file ∧ SafeFileName row.fileName
  kept : ∀ row ∈ p.shared.rows, p.shared.Single row.reference →
    p.shared.HasFile env row.reference ∨ p.shared.Removed row.reference ∨
      p.shared.Undone row.reference
  uploaded : ∀ authUser expenseReference file draw row,
    .upload authUser expenseReference file draw (.finished row) ∈ p.threads →
    p.shared.Single row.reference → ¬ p.shared.Undone row.reference ∧
      (p.shared.HasFile env row.reference ∨ p.shared.Removed row.reference)
  withoutTrace : ∀ authUser expenseReference file draw reference,
    .upload authUser expenseReference file draw (.failed reference true) ∈ p.threads →
    p.shared.Single reference → Gone env p.shared reference
  removed : ∀ authUser expenseReference receiptReference expenseId row,
    .remove authUser expenseReference receiptReference (.finished expenseId row) ∈ p.threads →
    p.shared.Single row.reference → expenseId = row.expenseId → Gone env p.shared row.reference
  served : ∀ authUser expenseReference lookup row content,
    .read authUser expenseReference lookup (.finished row content) ∈ p.threads →
    ∃ n u, p.shared.Drew n u ∧ u.reference = row.reference ∧ content = u.file.buffer ∧
      AcceptedFile u.file ∧ (p.shared.Single row.reference → u.Describes env row)

/-- In every interleaving of uploads, downloads and removals with each other and with anything
    else that changes the database, whatever fails, a receipt has its file until it is removed. -/
theorem receipts_kept {env : ReceiptStorageEnv} {db : Db} {p : Pool ReceiptState ReceiptThread}
    (hreach : Reaches (receipts env).Step (Pool.idle (.initial db)) p) : ReceiptsKept env p := by
  have hholds := (receipts_outline env).reaches (holds_idle (receiptInv_initial db))
    (ticketed_idle _) hreach
  have hinv := hholds.shared
  have hassertion : ∀ t ∈ p.threads, ReceiptAssertion env p.shared t := by
    intro t ht
    obtain ⟨i, hi⟩ := List.mem_iff_getElem?.1 ht
    exact hholds.thread i t hi
  constructor
  · intro row hrow
    obtain ⟨n, u, hu, hdescribes⟩ := hinv.saved row (hinv.rows row hrow)
    refine ⟨n, u, hu, hdescribes, hinv.accepted n u hu, ?_⟩
    rw [hdescribes.fileName]
    exact ReceiptService.safe_sanitizeFileName _
  · exact hinv.kept
  · intro authUser expenseReference file draw row ht hsingle
    obtain ⟨n, u, -, -, -, hnew⟩ := hassertion _ ht
    exact hnew hsingle
  · intro authUser expenseReference file draw reference ht hsingle
    obtain ⟨n, u, -, -, -, hnew⟩ := hassertion _ ht
    obtain ⟨hsaved, hfile⟩ := hnew hsingle rfl
    exact ⟨fun row hrow href => hsaved ⟨row, hinv.rows row hrow, href⟩, hfile⟩
  · intro authUser expenseReference receiptReference expenseId row ht hsingle hexpense
    obtain ⟨-, hremoved, hgone⟩ := hassertion _ ht
    exact ⟨hgone hsingle hexpense, hinv.destroyed _ hsingle (.inl hremoved)⟩
  · intro authUser expenseReference lookup row content ht
    obtain ⟨hsaved, n, u, hu, href, hcontent⟩ := hassertion _ ht
    refine ⟨n, u, hu, href, hcontent, hinv.accepted n u hu, fun hsingle => ?_⟩
    obtain ⟨m, v, hv, hdescribes⟩ := hinv.saved row hsaved
    obtain rfl : n = m := hsingle n m u v hu hv href hdescribes.reference.symm
    rw [hu.unique hv]
    exact hdescribes

namespace Sample

theorem publicId_inj {folder a b : String} (h : folder ++ "/" ++ a = folder ++ "/" ++ b) : a = b :=
  (String.append_right_inj _).1 h

def storage : ReceiptStorageEnv where
  folder := "expentra/receipts"
  publicIdOf folder publicId _ _ := folder ++ "/" ++ publicId
  publicIdOf_inj := publicId_inj

def photo : MemoryUploadedFile :=
  ⟨"Ticket \"return\".png", "image/png", 6, [0x89, 0x50, 0x4e, 0x47, 0x0d, 0x0a]⟩

def invoice : MemoryUploadedFile := ⟨"invoice.pdf", "application/pdf", 5, [0x25, 0x50, 0x44, 0x46, 0x2d]⟩

/-- A photo is uploaded and downloaded; the row of an invoice cannot be saved. -/
def photoServed : List (Turn ReceiptArrival ReceiptOutcome Db) :=
  [.start (.upload authOwner expenseReference photo), .start (.upload authOwner expenseReference invoice),
    .step 0 (.draws "RCP1700000000001AAAAAA"), .step 1 (.draws "RCP1700000000002AAAAAA"),
    .step 0 (.stores none), .step 1 (.stores (some 5)), .step 0 (.saves now),
    .step 1 (.saveThrows false now), .step 1 .returns,
    .start (.read authOwner expenseReference (.reference "RCP1700000000001AAAAAA")),
    .step 2 .returns, .step 2 .returns, .step 2 .returns]

end Sample

theorem receipts_kept_sample : ∃ p, Reaches (receipts Sample.storage).Step
      (Pool.idle (.initial (runAll Sample.config [Sample.createExpense] Sample.db))) p ∧
    ReceiptsKept Sample.storage p ∧
    p.shared.rows.rows.map (fun row => (row.fileName, row.sizeBytes)) = [("Ticket _return_.png", 6)] ∧
    p.shared.assets.rows.map (·.publicId) = ["expentra/receipts/RCP1700000000001AAAAAA"] := by
  have hrun : ((receipts Sample.storage).exec Concurrent.anyStep Sample.photoServed
      (Pool.idle (.initial (runAll Sample.config [Sample.createExpense] Sample.db)))).any (fun p =>
        p.shared.rows.rows.map (fun row => (row.fileName, row.sizeBytes)) =
          [("Ticket _return_.png", 6)] &&
        p.shared.assets.rows.map (·.publicId) = ["expentra/receipts/RCP1700000000001AAAAAA"]) =
      true := by
    decide +kernel
  obtain ⟨p, hexec, hp⟩ := (Option.any_eq_true _ _).1 hrun
  obtain ⟨hrows, hassets⟩ := Bool.and_eq_true_iff.1 hp
  have hreach := (Concurrent.reaches_of_exec hexec).of_guarded
  exact ⟨p, hreach, receipts_kept hreach, of_decide_eq_true hrows, of_decide_eq_true hassets⟩

end Expentra
