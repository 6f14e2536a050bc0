import SmartAo.Foundation.Decimal
import SmartAo.Foundation.Digest
import SmartAo.Foundation.Guard
import SmartAo.Foundation.Text
import SmartAo.Pricing.Imports
import Mathlib.Logic.Function.Basic

namespace SmartAo.Pricing

open SmartAo.Foundation SmartAo.Platform

def maxUploadBytes : Nat := 10 * 1024 * 1024
def maxUncompressedBytes : Nat := 50 * 1024 * 1024
def maxRows : Nat := 10000
def maxErrors : Nat := 100

/-- What the code takes from the Unicode tables: case folding and the values of the decimal digits. -/
structure UnicodeTables where
  casefold : List Char → List Char
  digit : Char → Option Nat
  digit_ascii : ∀ c, c.toNat < 128 → digit c = asciiDigit c

/-- A cell of a sheet; a value that is no text is given by what `str` shows of it. -/
inductive Cell where
  | none
  | text (value : List Char)
  | scalar (shown : List Char) (falsy : Bool)
deriving DecidableEq

def Cell.isEmpty : Cell → Bool
  | none => true
  | text value => value = []
  | scalar _ _ => false

/-- `str(value)`. -/
def Cell.shown : Cell → List Char
  | none => "None".toList
  | text value => value
  | scalar shown _ => shown

/-- `str(value or "")`. -/
def Cell.heading : Cell → List Char
  | none => []
  | text value => value
  | scalar shown falsy => if falsy then [] else shown

def blankRow (values : List Cell) : Bool := values.all (·.isEmpty)

inductive PreviewError where
  | value (code : String)
  | invalidOperation
  | overflow
deriving DecidableEq

inductive ImportField where
  | code
  | designation
  | unit
  | quantity
  | unitPrice
  | totalPrice
deriving DecidableEq

def ImportField.aliases : ImportField → List String
  | code => ["code", "référence", "reference", "ref", "n°", "no"]
  | designation => ["désignation", "designation", "libellé", "libelle", "description"]
  | unit => ["unité", "unite", "unit", "u"]
  | quantity => ["quantité", "quantite", "quantity", "qty"]
  | unitPrice => ["prix unitaire", "pu", "unit price", "unit_price"]
  | totalPrice => ["montant", "total", "prix total", "total price", "total_price"]

def importFields : List ImportField := [.code, .designation, .unit, .quantity, .unitPrice, .totalPrice]

/-- The column of each field. -/
abbrev HeaderMap := ImportField → Option Nat

structure PricingImportRow where
  rowNumber : Nat
  code : Option String
  designation : Option String
  unit : Option String
  quantityDecimal : Option String
  unitPriceMinor : Option Nat
  totalMinor : Option Nat
  errors : List String
deriving DecidableEq

section Row

variable (tables : UnicodeTables)

def normalizeHeader (cell : Cell) : List Char :=
  [' '].intercalate (((stripChars (tables.casefold cell.heading)).splitOnP isSpace).filter (· ≠ []))

def resolveHeader (resolved : HeaderMap) (entry : Cell × Nat) : HeaderMap :=
  let normalized := normalizeHeader tables entry.1
  let isAlias (field : ImportField) : Bool :=
    (field.aliases.map fun name => normalizeHeader tables (.text name.toList)).contains normalized
  match importFields.find? fun field => isAlias field && (resolved field).isNone with
  | some field => Function.update resolved field (some entry.2)
  | none => resolved

def resolveHeaders (values : List Cell) : HeaderMap :=
  values.zipIdx.foldl (resolveHeader tables) fun _ => none

def cellOf (header : HeaderMap) (values : List Cell) (field : ImportField) : Cell :=
  match header field with
  | some index => values.getD index .none
  | none => .none

/-- The text of a cell, cut at 500 characters. -/
def cellText (cell : Cell) : Option String :=
  if cell.isEmpty then none
  else
    let text := (stripChars cell.shown).take 500
    if text = [] then none else some (String.ofList text)

/-- The last of the comma and the point is the decimal one; a comma alone is decimal too. -/
def pointed (text : List Char) : List Char :=
  if ',' ∈ text ∧ '.' ∈ text then
    if text.reverse.find? (fun c => c = ',' ∨ c = '.') = some ',' then
      (text.filter (· ≠ '.')).map fun c => if c = ',' then '.' else c
    else text.filter (· ≠ ',')
  else text.map fun c => if c = ',' then '.' else c

def cellDecimal (cell : Cell) : Option Decimal :=
  Decimal.parse tables.digit (pointed ((stripChars cell.shown).filter fun c => c ≠ '\u00a0' ∧ c ≠ ' '))

def decimalText (cell : Cell) (default : Option (List Char)) : Option (List Char) :=
  if cell.isEmpty then default
  else (cellDecimal tables cell).bind fun number => if number.belowZero then none else some number.plain

/-- A price in cents. -/
def minor (cell : Cell) : Except PreviewError (Option Nat) :=
  if cell.isEmpty then .ok none
  else match cellDecimal tables cell with
    | none => .ok none
    | some number =>
      if number.belowZero then .ok none
      else (orRaise (number.multiply (.ofNat 100)) .overflow).map fun cents => some cents.integral.toNat

def calculateTotalMinor (quantity : List Char) (unitPriceMinor : Nat) : Except PreviewError Nat := do
  let number ← orRaise (Decimal.parse tables.digit quantity) .invalidOperation
  let total ← orRaise (number.multiply (.ofNat unitPriceMinor)) .overflow
  return total.integral.toNat

/-- The total the price and the quantity of a row give. -/
def calculatedTotal (quantity : Option (List Char)) (unitPrice : Option Nat) : Except PreviewError (Option Nat) :=
  match unitPrice, quantity with
  | some price, some text => (calculateTotalMinor tables text price).map some
  | _, _ => .ok none

def rowErrors (designation : Option String) (quantity : Option (List Char))
    (unitPrice total calculated : Option Nat) : List String :=
  (if designation = none then ["DESIGNATION_REQUIRED"] else []) ++
    (if quantity = none then ["QUANTITY_INVALID"] else []) ++
    (if total = none ∧ unitPrice = none then ["PRICE_REQUIRED"] else []) ++
    (if calculated ≠ none ∧ total ≠ none ∧ total ≠ calculated then ["TOTAL_PRICE_MISMATCH"] else [])

def parseRow (rowNumber : Nat) (values : List Cell) (header : HeaderMap) : Except PreviewError PricingImportRow := do
  let cell := cellOf header values
  let designation := cellText (cell .designation)
  let quantity := decimalText tables (cell .quantity) (some ['1'])
  let unitPrice ← minor tables (cell .unitPrice)
  let total ← minor tables (cell .totalPrice)
  let calculated ← calculatedTotal tables quantity unitPrice
  return {
    rowNumber
    code := cellText (cell .code)
    designation
    unit := cellText (cell .unit)
    quantityDecimal := quantity.map String.ofList
    unitPriceMinor := unitPrice
    totalMinor := total.or calculated
    errors := rowErrors designation quantity unitPrice total calculated }

end Row

inductive PreviewLimit where
  | rows
  | errors
deriving DecidableEq

def PreviewLimit.value : PreviewLimit → String
  | rows => "ROW_LIMIT"
  | errors => "ERROR_LIMIT"

structure PreviewProgress where
  rows : List PricingImportRow
  totalMinor : Nat
  errors : Nat

def PreviewProgress.add (progress : PreviewProgress) (item : PricingImportRow) : PreviewProgress where
  rows := progress.rows ++ [item]
  errors := progress.errors + item.errors.length
  totalMinor := progress.totalMinor + if item.errors = [] then item.totalMinor.getD 0 else 0

/-- Where the reading of the rows stopped, and the rows its iterator has left. -/
structure PreviewStop where
  progress : PreviewProgress
  limit : Option PreviewLimit
  remaining : List (List Cell)

/-- The row at which the reading breaks is consumed all the same. -/
def readRows (tables : UnicodeTables) (header : HeaderMap) :
    Nat → List (List Cell) → PreviewProgress → Except PreviewError PreviewStop
  | _, [], progress => .ok ⟨progress, none, []⟩
  | rowNumber, values :: rest, progress =>
    if maxRows + 1 < rowNumber then .ok ⟨progress, some .rows, rest⟩
    else if blankRow values then readRows tables header (rowNumber + 1) rest progress
    else do
      let item ← parseRow tables rowNumber values header
      if maxErrors ≤ (progress.add item).errors then .ok ⟨progress.add item, some .errors, rest⟩
      else readRows tables header (rowNumber + 1) rest (progress.add item)

def hasRemainingRows (rows : List (List Cell)) : Bool := rows.any fun values => !blankRow values

structure PricingImportPreview where
  caseId : Uuid
  documentKind : DocumentKind
  filename : List Char
  rowCount : Nat
  validRowCount : Nat
  errorCount : Nat
  totalMinor : Nat
  truncated : Bool
  limitReason : Option String
  rows : List PricingImportRow

/-- What `ZipFile` and `load_workbook` read of a file; without a sheet the file is no workbook. -/
structure Workbook where
  memberNames : List (List Char)
  declaredBytes : Nat
  uncompressedBytes : Nat
  sheet : Option (List (List Cell))

structure PricingUpload where
  filename : List Char
  contentType : Option String
  payload : List UInt8

def spreadsheetContentType : String := "application/vnd.openxmlformats-officedocument.spreadsheetml.sheet"

section Preview

variable (tables : UnicodeTables) (workbook : List UInt8 → Option Workbook)

/-- The rows of an accepted file. -/
def openSheet (upload : PricingUpload) : Except PreviewError (List (List Cell)) := do
  raiseIf (maxUploadBytes < upload.payload.length) (.value "IMPORT_FILE_TOO_LARGE")
  let name := stripChars (tables.casefold upload.filename)
  raiseIf (¬ ".xlsx".toList <:+ name ∨ ".xlsm".toList <:+ name) (.value "IMPORT_XLSX_REQUIRED")
  raiseIf (upload.contentType ≠ none ∧ upload.contentType ≠ some spreadsheetContentType)
    (.value "IMPORT_CONTENT_TYPE_REJECTED")
  let archive ← orRaise (workbook upload.payload) (.value "IMPORT_WORKBOOK_INVALID")
  raiseIf (archive.memberNames.any (fun member => "vbaproject.bin".toList.isSuffixOf (member.map Char.toLower)) = true)
    (.value "IMPORT_MACROS_REJECTED")
  raiseIf (maxUncompressedBytes < archive.declaredBytes) (.value "IMPORT_ARCHIVE_TOO_LARGE")
  raiseIf (maxUncompressedBytes < archive.uncompressedBytes) (.value "IMPORT_ARCHIVE_TOO_LARGE")
  orRaise archive.sheet (.value "IMPORT_WORKBOOK_INVALID")

/-- The header of a sheet and its data rows. -/
def splitSheet (sheet : List (List Cell)) : Except PreviewError (HeaderMap × List (List Cell)) :=
  match sheet with
  | [] => .error (.value "IMPORT_EMPTY_WORKBOOK")
  | header :: rows => do
    raiseIf (resolveHeaders tables header .designation = none) (.value "IMPORT_DESIGNATION_COLUMN_REQUIRED")
    return (resolveHeaders tables header, rows)

def preview (caseId : Uuid) (documentKind : DocumentKind) (upload : PricingUpload) :
    Except PreviewError PricingImportPreview := do
  let sheet ← openSheet tables workbook upload
  let (header, rows) ← splitSheet tables sheet
  let stop ← readRows tables header 2 rows ⟨[], 0, 0⟩
  let truncated := stop.limit.isSome && hasRemainingRows stop.remaining
  return {
    caseId, documentKind, filename := upload.filename
    rowCount := stop.progress.rows.length
    validRowCount := (stop.progress.rows.filter fun item => item.errors = []).length
    errorCount := stop.progress.errors
    totalMinor := stop.progress.totalMinor
    truncated
    limitReason := if truncated then stop.limit.map (·.value) else none
    rows := stop.progress.rows }

end Preview

/-- `^(0|[1-9][0-9]*)(\.[0-9]+)?$` -/
def quantityPattern (text : List Char) : Bool :=
  let whole := text.takeWhile Char.isDigit
  let tail := text.dropWhile Char.isDigit
  (whole = ['0'] || (whole ≠ [] && whole.head? ≠ some '0')) &&
    (tail = [] || (tail.head? = some '.' && tail.tail ≠ [] && tail.tail.all Char.isDigit))

/-- The strings of a command lose the white space at their ends. -/
def trimmed (text : String) : String := String.ofList (trimBy isWhiteSpace text.toList)

/-- The row of a creation command, when its validators accept the previewed one. -/
def rowCommand (item : PricingImportRow) : Option CreatePricingImportRowCommand :=
  let quantityDecimal := item.quantityDecimal.map trimmed
  if 1 ≤ item.rowNumber ∧ quantityDecimal.all (fun text => quantityPattern text.toList) = true then
    some {
      rowNumber := item.rowNumber
      code := item.code.map trimmed
      designation := item.designation.map trimmed
      unit := item.unit.map trimmed
      quantityDecimal
      unitPriceMinor := item.unitPriceMinor
      totalMinor := item.totalMinor
      errors := item.errors.map trimmed }
  else none

/-- The creation command the route builds from a preview; it refuses more rows than the limit. -/
def creationCommand (application : ApplicationCommand) (caseId : Uuid) (documentKind : DocumentKind)
    (upload : PricingUpload) (shown : PricingImportPreview) : Option CreatePricingImportPreviewCommand := do
  let rows ← shown.rows.mapM rowCommand
  guard (rows.length ≤ 10000)
  return { application with caseId, documentKind, sourceSha256 := hexdigestBytes upload.payload, rows }

end SmartAo.Pricing
