-- SUMMARY: The receipt service and the storage of its files: what the calls do to the rows and the files, statement by statement.
import Expentra.Library.Tickets
import Expentra.Receipt.Files

/-!
# Rows and files

A receipt is a row in the database and a file in the storage, and no transaction spans the
two. An upload stores the file, then the row, and deletes the file again when the row could
not be saved; a removal deletes the file, then the row. Between any two statements of a call
others may run, and every statement may fail, in doubt whether it was executed.
-/

namespace Expentra

open Library

/-! ## The storage -/

/-- A file in the storage. The storage keeps files of one identifier apart by their type. -/
structure StoredAsset where
  publicId : String
  resourceType : String
  content : Bytes

def StoredAsset.key (asset : StoredAsset) : String × String := (asset.publicId, asset.resourceType)

/-- The configured folder, and the identifier the storage gives to a file that is uploaded into
    it with an identifier, a type and a format. Files of one type that are uploaded with
    different identifiers get different ones. -/
structure ReceiptStorageEnv where
  folder : String
  publicIdOf : String → String → String → Option String → String
  publicIdOf_inj : ∀ {publicId publicId' resourceType format format'},
    publicIdOf folder publicId resourceType format =
      publicIdOf folder publicId' resourceType format' → publicId = publicId'

structure CloudinaryStoredReceipt where
  publicId : String
  resourceType : String
  bytes : Nat

namespace CloudinaryReceiptStorage

def cloudinaryResourceTypeForMime (mimeType : String) : String :=
  if mimeType = "application/pdf" then "raw" else "image"

/-- The format an upload asks for. -/
def uploadFormat (mimeType : String) : Option String :=
  if cloudinaryResourceTypeForMime mimeType = "raw" ∧ mimeType = "application/pdf" then some "pdf"
  else none

/-- The file an upload stores. -/
def uploadedAsset (env : ReceiptStorageEnv) (publicId mimeType : String) (buffer : Bytes) :
    StoredAsset :=
  let resourceType := cloudinaryResourceTypeForMime mimeType
  ⟨env.publicIdOf env.folder publicId resourceType (uploadFormat mimeType), resourceType, buffer⟩

/-- What `uploadReceipt` returns; the response may lack the number of bytes. -/
def storedReceipt (asset : StoredAsset) (bytes : Option Nat) : CloudinaryStoredReceipt :=
  ⟨asset.publicId, asset.resourceType, bytes.getD asset.content.length⟩

/-- The type a file is read under. -/
def readResourceType (resourceType mimeType : String) : String :=
  if resourceType = "raw" ∨ resourceType = "image" then resourceType
  else cloudinaryResourceTypeForMime mimeType

/-- The type a file is deleted under. -/
def deleteResourceType (resourceType : String) : String :=
  if resourceType = "raw" ∨ resourceType = "image" then resourceType
  else cloudinaryResourceTypeForMime "application/pdf"

end CloudinaryReceiptStorage

/-! ## Rows -/

/-- A row of `expense_attachments`. -/
structure ReceiptRow extends ExpenseAttachment where
  id : Nat
  fileName : String
  mimeType : String
  sizeBytes : Nat
  objectKey : String
  resourceType : String
  uploadedById : Nat
  createdAt : Instant
deriving DecidableEq

def ReceiptRow.key (row : ReceiptRow) : String := row.reference

/-- An upload that has drawn the reference of its receipt. -/
structure ReceiptUpload where
  reference : String
  expenseId : Nat
  uploadedById : Nat
  file : UploadedReceiptFile

/-- Why a file is deleted: an upload could not save its row, or a receipt is removed. -/
inductive DeletionCause where
  | undo
  | removal
deriving DecidableEq

/-- What has happened to a receipt, for the record. -/
inductive ReceiptEvent where
  | drawn (upload : ReceiptUpload)
  | saved (row : ReceiptRow)
  | destroyed (cause : DeletionCause) (reference : String)

/-- The receipts, their files, and the rest of the database. The record of what has happened is
    read by no call. -/
structure ReceiptState where
  db : Db
  rows : Table ReceiptRow.key
  nextRowId : Nat
  assets : Table StoredAsset.key
  history : List ReceiptEvent

/-- The database with the rows the policies count. -/
def ReceiptState.database (s : ReceiptState) : Db :=
  { s.db with attachments := s.rows.rows.map (·.toExpenseAttachment) }

/-! ## Statements -/

/-- A statement of a call on the database or on the storage. -/
inductive ReceiptStatement where
  /-- Nothing is written. -/
  | read
  | draw (upload : ReceiptUpload)
  /-- `overwrite: false` -/
  | put (asset : StoredAsset)
  | insert (row : ReceiptRow)
  | destroy (publicId resourceType : String) (cause : DeletionCause) (reference : String)
  /-- `delete({ id, expenseId })` -/
  | deleteRow (id expenseId : Nat)

/-- The place of the draw of a call: the next one of the record, when it draws. -/
def ReceiptStatement.place (length : Nat) (draw : Option Nat) : ReceiptStatement → Option Nat
  | .draw _ => some length
  | _ => draw

namespace ReceiptState

variable (s : ReceiptState)

def record (event : ReceiptEvent) : ReceiptState := { s with history := s.history ++ [event] }

def put (asset : StoredAsset) : ReceiptState :=
  { s with assets := (s.assets.insert? asset).getD s.assets }

/-- The reference of a row is unique, and its expense exists. -/
def insertRow (row : ReceiptRow) : Option ReceiptState :=
  if (s.db.expenses.find? row.expenseId).isSome then
    (s.rows.insert? row).map (fun rows =>
      { s with rows := rows, nextRowId := s.nextRowId + 1, history := s.history ++ [.saved row] })
  else none

def destroy (publicId resourceType : String) : ReceiptState :=
  { s with assets := s.assets.keep (fun a => a.key ≠ (publicId, resourceType)) }

def deleteRow (id expenseId : Nat) : ReceiptState :=
  { s with rows := s.rows.keep (fun r => !(r.id = id && r.expenseId = expenseId)) }

def execute : ReceiptStatement → Option ReceiptState
  | .read => some s
  | .draw upload => some (s.record (.drawn upload))
  | .put asset => some (s.put asset)
  | .insert row => s.insertRow row
  | .destroy publicId resourceType cause reference =>
    some ((s.destroy publicId resourceType).record (.destroyed cause reference))
  | .deleteRow id expenseId => some (s.deleteRow id expenseId)

/-- Another transaction commits. The rows of an expense that is deleted go with it. -/
def commit (db : Db) : ReceiptState :=
  { s with
    db := db
    rows := s.rows.keep (fun r => (db.expenses.find? r.expenseId).isSome) }

end ReceiptState

/-! ## Calls -/

/-- Where `uploadReceipt` is. -/
inductive UploadPhase where
  | checking
  | storing (expenseId : Nat) (reference : String)
  | saving (expenseId : Nat) (reference : String) (stored : CloudinaryStoredReceipt)
  /-- The row could not be saved, or was and the database did not say so. -/
  | undoing (expenseId : Nat) (reference : String) (stored : CloudinaryStoredReceipt) (executed : Bool)
  | finished (row : ReceiptRow)
  /-- The call has thrown after the file was sent. -/
  | failed (reference : String) (withoutTrace : Bool)
  | refused

/-- How a receipt is asked for. -/
inductive ReceiptLookup where
  | reference (receiptReference : String)
  | objectKey (objectKey : String)

/-- Where `download` or `viewByObjectKey` is. -/
inductive ReadPhase where
  | checking
  | finding (expenseId : Nat)
  | opening (row : ReceiptRow)
  | finished (row : ReceiptRow) (content : Bytes)
  | failed

/-- Where `remove` is. The expense is loaded twice. -/
inductive RemovePhase where
  | checking
  | rechecking (expenseId : Nat)
  | finding (expenseId foundId : Nat)
  | deleting (expenseId : Nat) (row : ReceiptRow)
  | deletingRow (expenseId : Nat) (row : ReceiptRow)
  | finished (expenseId : Nat) (row : ReceiptRow)
  | failed

/-- A call of the receipt service. A thread of an upload carries the place of its draw in the
    record, once it has drawn. -/
inductive ReceiptThread where
  | upload (authUser : AuthUser) (expenseReference : String) (file : UploadedReceiptFile)
      (draw : Option Nat) (phase : UploadPhase)
  | read (authUser : AuthUser) (expenseReference : String) (lookup : ReceiptLookup)
      (phase : ReadPhase)
  | remove (authUser : AuthUser) (expenseReference receiptReference : String) (phase : RemovePhase)

inductive ReceiptArrival where
  | upload (authUser : AuthUser) (expenseReference : String) (file : MemoryUploadedFile)
  | read (authUser : AuthUser) (expenseReference : String) (lookup : ReceiptLookup)
  | remove (authUser : AuthUser) (expenseReference receiptReference : String)

inductive ReceiptOutcome where
  /-- A query or a call of the storage returns. -/
  | returns
  | throws
  | draws (reference : String)
  | stores (bytes : Option Nat)
  | storeThrows (executed : Bool)
  | saves (now : Instant)
  | saveThrows (executed : Bool) (now : Instant)
  | deleteThrows (executed : Bool)

namespace ReceiptService

open CloudinaryReceiptStorage

variable (env : ReceiptStorageEnv) (s : ReceiptState)

/-- The row an upload saves. -/
def attachmentRow (id : Nat) (authUser : AuthUser) (expenseId : Nat) (reference : String)
    (file : UploadedReceiptFile) (stored : CloudinaryStoredReceipt) (now : Instant) : ReceiptRow where
  id := id
  reference := reference
  expenseId := expenseId
  fileName := sanitizeFileName file.originalname
  mimeType := file.mimetype
  sizeBytes := stored.bytes
  objectKey := stored.publicId
  resourceType := stored.resourceType
  uploadedById := authUser.id
  createdAt := now

/-- The next statement of `uploadReceipt`. -/
def uploadReceipt (authUser : AuthUser) (expenseReference : String) (file : UploadedReceiptFile)
    (phase : UploadPhase) (outcome : ReceiptOutcome) : Option (ReceiptStatement × UploadPhase) :=
  match phase, outcome with
  | .checking, .draws reference =>
    match Receipts.loadExpenseForReceipt s.database authUser expenseReference with
    | .ok expense =>
      some (.draw ⟨reference, expense.id, authUser.id, file⟩, .storing expense.id reference)
    | .error _ => some (.read, .refused)
  | .checking, .throws => some (.read, .refused)
  | .storing expenseId reference, .stores bytes =>
    let asset := uploadedAsset env reference file.mimetype file.buffer
    some (.put asset, .saving expenseId reference (storedReceipt asset bytes))
  | .storing _ reference, .storeThrows executed =>
    let asset := uploadedAsset env reference file.mimetype file.buffer
    some (if executed then .put asset else .read, .failed reference (!executed))
  | .saving expenseId reference stored, .saves now =>
    let row := attachmentRow s.nextRowId authUser expenseId reference file stored now
    some (.insert row, .finished row)
  | .saving expenseId reference stored, .saveThrows executed now =>
    let row := attachmentRow s.nextRowId authUser expenseId reference file stored now
    some (if executed then .insert row else .read, .undoing expenseId reference stored executed)
  | .undoing _ reference stored executed, .returns =>
    some (.destroy stored.publicId (deleteResourceType stored.resourceType) .undo reference,
      .failed reference (!executed))
  | .undoing _ reference stored _, .deleteThrows deleted =>
    some (if deleted then
        .destroy stored.publicId (deleteResourceType stored.resourceType) .undo reference
      else .read, .failed reference false)
  | _, _ => none

/-- The receipt of an expense that is asked for. -/
def findReceipt (expenseId : Nat) : ReceiptLookup → Except HttpException ReceiptRow
  | .reference receiptReference => do
    let row ← findEntityByReference s.rows.rows (·.reference) receiptReference "Receipt not found"
    if row.expenseId ≠ expenseId then throw (.notFound "Receipt not found")
    pure row
  | .objectKey objectKey =>
    match s.rows.rows.find? (fun r => r.expenseId = expenseId && r.objectKey = Js.trim objectKey) with
    | some row => .ok row
    | none => .error (.notFound "Receipt not found")

/-- `openReadStream`. The link it opens names the format of the declared type, which is the
    format of the file. -/
def openReadStream (row : ReceiptRow) : Option Bytes :=
  if Js.trim row.objectKey = "" then none
  else (s.assets.find? (row.objectKey, readResourceType row.resourceType row.mimeType)).map (·.content)

/-- The next statement of `download` or `viewByObjectKey`. -/
def readReceipt (authUser : AuthUser) (expenseReference : String) (lookup : ReceiptLookup)
    (phase : ReadPhase) (outcome : ReceiptOutcome) : Option (ReceiptStatement × ReadPhase) :=
  match phase, outcome with
  | .checking, .returns =>
    match findReadableExpense s.database authUser expenseReference with
    | .ok expense => some (.read, .finding expense.id)
    | .error _ => some (.read, .failed)
  | .finding expenseId, .returns =>
    match findReceipt s expenseId lookup with
    | .ok row => some (.read, .opening row)
    | .error _ => some (.read, .failed)
  | .opening row, .returns =>
    match openReadStream s row with
    | some content => some (.read, .finished row content)
    | none => some (.read, .failed)
  | .checking, .throws | .finding _, .throws | .opening _, .throws => some (.read, .failed)
  | _, _ => none

/-- The next statement of `remove`. -/
def removeReceipt (authUser : AuthUser) (expenseReference receiptReference : String)
    (phase : RemovePhase) (outcome : ReceiptOutcome) : Option (ReceiptStatement × RemovePhase) :=
  match phase, outcome with
  | .checking, .returns =>
    match Receipts.loadExpenseForReceipt s.database authUser expenseReference with
    | .ok expense => some (.read, .rechecking expense.id)
    | .error _ => some (.read, .failed)
  | .rechecking expenseId, .returns =>
    match findReadableExpense s.database authUser expenseReference with
    | .ok expense => some (.read, .finding expenseId expense.id)
    | .error _ => some (.read, .failed)
  | .finding expenseId foundId, .returns =>
    match findReceipt s foundId (.reference receiptReference) with
    | .ok row => some (.read, .deleting expenseId row)
    | .error _ => some (.read, .failed)
  | .deleting expenseId row, .returns =>
    some (.destroy row.objectKey (deleteResourceType row.resourceType) .removal row.reference,
      .deletingRow expenseId row)
  | .deleting _ row, .deleteThrows executed =>
    some (if executed then
        .destroy row.objectKey (deleteResourceType row.resourceType) .removal row.reference
      else .read, .failed)
  | .deletingRow expenseId row, .returns =>
    some (.deleteRow row.id expenseId, .finished expenseId row)
  | .deletingRow expenseId row, .deleteThrows executed =>
    some (if executed then .deleteRow row.id expenseId else .read, .failed)
  | .checking, .throws | .rechecking _, .throws | .finding _ _, .throws => some (.read, .failed)
  | _, _ => none

/-- A call is started, unless it is refused at once. -/
def arrive : ReceiptArrival → Option ReceiptThread
  | .upload authUser expenseReference file =>
    match acceptUpload file with
    | .ok uploaded => some (.upload authUser expenseReference uploaded none .checking)
    | .error _ => none
  | .read authUser expenseReference lookup =>
    match lookup with
    | .objectKey objectKey =>
      if Js.trim objectKey = "" then none else some (.read authUser expenseReference lookup .checking)
    | .reference _ => some (.read authUser expenseReference lookup .checking)
  | .remove authUser expenseReference receiptReference =>
    some (.remove authUser expenseReference receiptReference .checking)

/-- The next statement of a call. -/
def advance : ReceiptThread → ReceiptOutcome → Option (ReceiptStatement × ReceiptThread)
  | .upload authUser expenseReference file draw phase, outcome =>
    (uploadReceipt env s authUser expenseReference file phase outcome).map (fun r =>
      (r.1, .upload authUser expenseReference file (r.1.place s.history.length draw) r.2))
  | .read authUser expenseReference lookup phase, outcome =>
    (readReceipt s authUser expenseReference lookup phase outcome).map (fun r =>
      (r.1, .read authUser expenseReference lookup r.2))
  | .remove authUser expenseReference receiptReference phase, outcome =>
    (removeReceipt s authUser expenseReference receiptReference phase outcome).map (fun r =>
      (r.1, .remove authUser expenseReference receiptReference r.2))

end ReceiptService

open ReceiptService in
/-- The calls of the receipt service, and the transactions of everybody else. -/
def receipts (env : ReceiptStorageEnv) :
    Concurrent ReceiptState ReceiptThread ReceiptArrival ReceiptOutcome Db where
  start s arrival := (arrive arrival).map (fun t => (s, t))
  step _ s thread outcome := (advance env s thread outcome).bind (fun r =>
    (s.execute r.1).map (fun s' => (s', r.2)))
  surroundings s db := some (s.commit db)

/-- No receipt and no file yet. -/
def ReceiptState.initial (db : Db) : ReceiptState := ⟨db, ∅, 1, ∅, []⟩

/-! ## The rows the policies count -/

/-- A row is saved as the transactions of the drafts see it. -/
theorem ReceiptState.insertAttachment_database {s s' : ReceiptState} {row : ReceiptRow}
    (h : s.insertRow row = some s') :
    Receipts.insertAttachment row.expenseId row.reference s.database = .ok ((), s'.database) := by
  unfold insertRow at h
  split at h
  · next hexpense =>
    obtain ⟨rows, hinsert, rfl⟩ := Option.map_eq_some_iff.1 h
    obtain ⟨hnew, hrows⟩ := Table.insert?_eq_some.1 hinsert
    refine Receipts.insertAttachment_eq_ok.2 ⟨?_, hexpense, ?_⟩
    · rw [database, List.any_map, List.any_eq_false]
      intro r hr heq
      exact hnew r hr (of_decide_eq_true heq)
    · rw [database, database, hrows, List.map_append, List.map_singleton]
  · cases h

/-- A row is deleted as the transactions of the drafts see it. -/
theorem ReceiptState.deleteAttachment_database {s : ReceiptState} {row : ReceiptRow}
    (hids : ∀ r ∈ s.rows, r.id = row.id ↔ r.reference = row.reference) (expenseId : Nat) :
    Receipts.deleteAttachment expenseId row.toExpenseAttachment s.database =
      .ok ((), (s.deleteRow row.id expenseId).database) := by
  refine Transaction.write_eq_ok.2 ?_
  have hrows : (s.deleteRow row.id expenseId).rows.rows =
      s.rows.rows.filter (fun r => !(r.reference = row.reference && r.expenseId = expenseId)) := by
    refine List.filter_congr fun r hr => ?_
    rw [decide_eq_decide.2 (hids r hr)]
  have hattachments : (s.deleteRow row.id expenseId).database.attachments =
      s.database.attachments.filter
        (fun a => !(a.reference = row.reference && a.expenseId = expenseId)) := by
    rw [database, hrows, database, List.filter_map]
    rfl
  exact (congrArg (fun attachments => { s.database with attachments := attachments })
    hattachments).symm

end Expentra
