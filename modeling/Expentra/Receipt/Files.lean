-- SUMMARY: The files of receipts: the checks of an upload, and the name a file is stored under.
import Expentra.Expense.Receipts

/-!
# Uploaded files

A file passes the filter of the upload, the interceptor that compares its first bytes with the
type it is declared to have, and the checks of the receipt service. The name of the file comes
from the client; what is stored of it goes into a header of the download.
-/

namespace Expentra

open Library

/-! ## Text -/

namespace Js

/-- The characters from a number of UTF-16 units on. A pair that is cut leaves the replacement
    character. -/
def dropUnits : Nat → List Char → List Char
  | 0, cs => cs
  | _ + 1, [] => []
  | 1, c :: cs => if c.toNat < 65536 then cs else Char.ofNat 0xFFFD :: cs
  | n + 2, c :: cs => if c.toNat < 65536 then dropUnits (n + 1) cs else dropUnits n cs

/-- `s.substring(start)` -/
def substring (s : String) (start : Nat) : String := String.ofList (dropUnits start s.toList)

/-- `s.lastIndexOf(c)`, or nothing for -1. -/
def lastIndexOf (s : String) (c : Char) : Option Nat :=
  if s.toList.contains c then
    some (length (String.ofList ((s.toList.reverse.dropWhile (· ≠ c)).drop 1).reverse))
  else none

end Js

/-! ## The upload helper -/

abbrev Bytes := List UInt8

/-- A file as multer holds it in memory. -/
structure MemoryUploadedFile where
  originalname : String
  mimetype : String
  size : Nat
  buffer : Bytes
deriving DecidableEq

namespace FileUploadHelper

/-- 3.5 MB -/
def MAX_FILE_SIZE : Nat := 3670016

def ALLOWED_FILE_TYPES : List String :=
  ["image/jpeg", "image/jpg", "image/png", "application/pdf"]

def ALLOWED_FILE_EXTENSIONS : List String := [".jpg", ".jpeg", ".png", ".pdf"]

/-- The index counts in the name, the extension is cut from the name in lower case. -/
def getFileExtension (filename : String) : String :=
  match Js.lastIndexOf filename '.' with
  | none => ""
  | some dotIndex => Js.substring (Js.toLowerCase filename) dotIndex

def isAllowedMimeType (mimetype : String) : Bool := ALLOWED_FILE_TYPES.contains mimetype

def isAllowedExtension (extension : String) : Bool := ALLOWED_FILE_EXTENSIONS.contains extension

def magicNumbersForMime (mimetype : String) : Option Bytes :=
  if mimetype = "image/jpeg" ∨ mimetype = "image/jpg" then some [0xff, 0xd8, 0xff]
  else if mimetype = "image/png" then some [0x89, 0x50, 0x4e, 0x47]
  else if mimetype = "application/pdf" then some [0x25, 0x50, 0x44, 0x46]
  else none

/-- The loop that compares the bytes one by one; a file that is too short fails. -/
def startsWith : Bytes → Bytes → Bool
  | [], _ => true
  | _ :: _, [] => false
  | m :: magicNumbers, b :: buffer => if b ≠ m then false else startsWith magicNumbers buffer

def validateMagicNumber (file : MemoryUploadedFile) : Bool :=
  match magicNumbersForMime file.mimetype with
  | none => true
  | some magicNumbers => startsWith magicNumbers file.buffer

/-- `fileFilter`: the error that is passed to the callback, if one is. -/
def fileFilter (file : MemoryUploadedFile) : Except String Unit :=
  if ¬ isAllowedExtension (getFileExtension file.originalname) then
    .error ("Invalid file extension. Allowed extensions: " ++
      ", ".intercalate ALLOWED_FILE_EXTENSIONS)
  else if ¬ isAllowedMimeType file.mimetype then
    .error ("Invalid file type. Allowed types: " ++ ", ".intercalate ALLOWED_FILE_EXTENSIONS)
  else .ok ()

/-- `(size / (1024 * 1024)).toFixed(2)`: the quotient is exact. -/
def megabytes (size : Nat) : String :=
  let hundredths := (200 * size + 1048576) / 2097152
  toString (hundredths / 100) ++ "." ++ Date.padded 2 (hundredths % 100 : Nat)

/-- The errors `validateSingleFile` collects, in their order. -/
def singleFileErrors (file : MemoryUploadedFile) (fieldName : String) : List String :=
  let subject := "File " ++ file.originalname ++ " in field " ++ fieldName
  let extension := getFileExtension file.originalname
  (if file.buffer.length = 0 then [subject ++ " is empty"] else []) ++
  (if file.size = 0 then [subject ++ " has zero size"] else []) ++
  (if file.size > MAX_FILE_SIZE then
    [subject ++ " is too large (" ++ megabytes file.size ++ "MB). Maximum size: 3.5MB"] else []) ++
  (if ¬ isAllowedMimeType file.mimetype then
    [subject ++ " has unsupported format (" ++ file.mimetype ++ "). Allowed formats: " ++
      ", ".intercalate ALLOWED_FILE_EXTENSIONS] else []) ++
  (if ¬ isAllowedExtension extension then
    [subject ++ " has unsupported extension (" ++ extension ++ "). Allowed extensions: " ++
      ", ".intercalate ALLOWED_FILE_EXTENSIONS] else []) ++
  (if ¬ validateMagicNumber file then
    [subject ++ " failed magic number validation. File content does not match declared type."]
  else [])

def validateSingleFile (file : MemoryUploadedFile) (fieldName : String) :
    Except HttpException Unit :=
  let errors := singleFileErrors file fieldName
  if errors.length > 0 then
    .error (.badRequest ("File validation failed:\n" ++ "\n".intercalate errors))
  else .ok ()

end FileUploadHelper

/-! ## The receipt service -/

structure UploadedReceiptFile where
  buffer : Bytes
  originalname : String
  mimetype : String
  size : Nat
deriving DecidableEq

/-- Why an upload was refused: an error of the filter is no HTTP exception. -/
inductive UploadRefusal where
  | filter (message : String)
  | http (exception : HttpException)
deriving DecidableEq, Repr

namespace ReceiptService

def RECEIPT_ALLOWED_MIME_TYPES : List String :=
  ["application/pdf", "image/png", "image/jpeg", "image/jpg"]

def RECEIPT_MAX_FILE_BYTES : Nat := 3670016

/-- `toUploadedFile` of the controller. -/
def toUploadedFile (file : MemoryUploadedFile) : Except HttpException UploadedReceiptFile :=
  if file.buffer.length = 0 then .error (.badRequest "Receipt file is required")
  else .ok ⟨file.buffer, file.originalname, file.mimetype, file.size⟩

def validateUploadFile (file : UploadedReceiptFile) : Except HttpException Unit :=
  if file.buffer.length = 0 then .error (.badRequest "Receipt file is required")
  else if file.size > RECEIPT_MAX_FILE_BYTES then
    .error (.badRequest "Receipt file must not exceed 3.5MB")
  else if ¬ RECEIPT_ALLOWED_MIME_TYPES.contains file.mimetype then
    .error (.badRequest "Receipt must be PDF, PNG, JPG, or JPEG")
  else .ok ()

/-- What a request has to pass before it reaches the database: the filter of the upload, the
    interceptor, the controller and the first line of `uploadReceipt`. -/
def acceptUpload (file : MemoryUploadedFile) : Except UploadRefusal UploadedReceiptFile := do
  (FileUploadHelper.fileFilter file).mapError UploadRefusal.filter
  (FileUploadHelper.validateSingleFile file "uploaded_file").mapError UploadRefusal.http
  let uploaded ← (toUploadedFile file).mapError UploadRefusal.http
  (validateUploadFile uploaded).mapError UploadRefusal.http
  pure uploaded

/-- `[\w.\- ]` -/
def isFileNameChar (c : Char) : Bool :=
  c.isAlphanum || c = '_' || c = '.' || c = '-' || c = ' '

/-- Every run of other characters becomes one underscore. -/
def replaceRuns : Bool → List Char → List Char
  | _, [] => []
  | inRun, c :: cs =>
    if isFileNameChar c then c :: replaceRuns false cs
    else if inRun then replaceRuns true cs else '_' :: replaceRuns true cs

/-- `path.basename` -/
def basename (name : String) : String :=
  String.ofList ((name.toList.reverse.dropWhile (· = '/')).takeWhile (· ≠ '/')).reverse

def sanitizeFileName (originalName : String) : String :=
  let base := (replaceRuns false (basename originalName).toList).take 255
  if base = [] then "receipt" else String.ofList base

end ReceiptService

example : ReceiptService.sanitizeFileName "../../März \"1\".pdf\n" = "M_rz _1_.pdf_" := by
  decide +kernel

/-! ## What is accepted -/

/-- A file that is not empty, not too large, and has the type it is declared to have. -/
structure AcceptedFile (file : UploadedReceiptFile) : Prop where
  nonempty : file.buffer ≠ []
  size : 0 < file.size ∧ file.size ≤ 3670016
  mimetype : file.mimetype ∈ ReceiptService.RECEIPT_ALLOWED_MIME_TYPES
  magicNumber : ∀ magicNumbers, FileUploadHelper.magicNumbersForMime file.mimetype = some magicNumbers →
    magicNumbers <+: file.buffer

/-- A name without quotes, line breaks and path separators. -/
structure SafeFileName (name : String) : Prop where
  nonempty : name ≠ ""
  length : name.length ≤ 255
  chars : ∀ c ∈ name.toList, ReceiptService.isFileNameChar c = true

namespace FileUploadHelper

variable {file : MemoryUploadedFile} {fieldName : String}

theorem startsWith_iff {magicNumbers buffer : Bytes} :
    startsWith magicNumbers buffer = true ↔ magicNumbers <+: buffer := by
  induction magicNumbers generalizing buffer with
  | nil => simp [startsWith]
  | cons m magicNumbers ih =>
    cases buffer with
    | nil => simp [startsWith]
    | cons b buffer =>
      rw [startsWith, List.cons_prefix_cons]
      split
      · next hne => simp [Ne.symm hne]
      · next heq => rw [ih, not_not.1 heq, eq_self, true_and]

/-- What the interceptor leaves of the files. -/
theorem validateSingleFile_ok {u : Unit} (h : validateSingleFile file fieldName = .ok u) :
    file.size ≠ 0 ∧ file.size ≤ MAX_FILE_SIZE ∧ validateMagicNumber file = true := by
  unfold validateSingleFile at h
  dsimp only at h
  split at h
  · cases h
  · next hnone =>
    have hnil : singleFileErrors file fieldName = [] := by
      simpa using hnone
    unfold singleFileErrors at hnil
    simp only [List.append_eq_nil_iff, ite_eq_right_iff, List.cons_ne_nil, imp_false, not_not,
      not_lt] at hnil
    exact ⟨hnil.1.1.1.1.2, hnil.1.1.1.2, hnil.2⟩

end FileUploadHelper

theorem Except.mapError_eq_ok {ε ε' α : Type} {f : ε → ε'} {x : Except ε α} {a : α} :
    x.mapError f = .ok a ↔ x = .ok a := by
  cases x <;> simp [Except.mapError]

namespace ReceiptService

/-- What reaches the database is an accepted file, the one that was sent. -/
theorem acceptUpload_ok {file : MemoryUploadedFile} {uploaded : UploadedReceiptFile}
    (h : acceptUpload file = .ok uploaded) :
    AcceptedFile uploaded ∧ uploaded.buffer = file.buffer ∧ uploaded.mimetype = file.mimetype := by
  obtain ⟨_, _, h⟩ := Except.bind_eq_ok.1 h
  obtain ⟨_, hsingle, h⟩ := Except.bind_eq_ok.1 h
  obtain ⟨uploaded', hfile, h⟩ := Except.bind_eq_ok.1 h
  obtain ⟨_, hvalid, h⟩ := Except.bind_eq_ok.1 h
  cases h
  rw [Except.mapError_eq_ok] at hsingle hfile hvalid
  obtain ⟨hpositive, hsmall, hmagic⟩ := FileUploadHelper.validateSingleFile_ok hsingle
  unfold toUploadedFile at hfile
  split at hfile
  · cases hfile
  · cases hfile
    unfold validateUploadFile at hvalid
    split at hvalid
    · cases hvalid
    · next hbuffer =>
      split at hvalid
      · cases hvalid
      · split at hvalid
        · cases hvalid
        · next htype =>
          refine ⟨⟨fun hnil => hbuffer (List.length_eq_zero_iff.2 hnil),
            ⟨Nat.pos_of_ne_zero hpositive, hsmall⟩, ?_, ?_⟩, rfl, rfl⟩
          · exact List.contains_iff_mem.1 (not_not.1 htype)
          · intro magicNumbers hmagicNumbers
            unfold FileUploadHelper.validateMagicNumber at hmagic
            rw [hmagicNumbers] at hmagic
            exact FileUploadHelper.startsWith_iff.1 hmagic

theorem isFileNameChar_replaceRuns {inRun : Bool} {cs : List Char} :
    ∀ c ∈ replaceRuns inRun cs, isFileNameChar c = true := by
  induction cs generalizing inRun with
  | nil => exact List.forall_mem_nil _
  | cons c cs ih =>
    unfold replaceRuns
    split
    · next hc => exact List.forall_mem_cons.2 ⟨hc, ih⟩
    · split
      · exact ih
      · exact List.forall_mem_cons.2 ⟨by decide, ih⟩

/-- What is stored of a name is safe in a header. -/
theorem safe_sanitizeFileName (originalName : String) : SafeFileName (sanitizeFileName originalName) := by
  unfold sanitizeFileName
  dsimp only
  split
  · exact ⟨by decide, by decide, List.all_eq_true.1 (by decide)⟩
  · next hne =>
    refine ⟨fun hempty => hne ?_, ?_, ?_⟩
    · simpa using congrArg String.toList hempty
    · rw [String.length_ofList, List.length_take]
      exact Nat.min_le_left _ _
    · intro c hc
      rw [String.toList_ofList] at hc
      exact isFileNameChar_replaceRuns c (List.mem_of_mem_take hc)

end ReceiptService

end Expentra
