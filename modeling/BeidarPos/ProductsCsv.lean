import BeidarPos.Csv
import BeidarPos.Decimal
import BeidarPos.Staff

/-! The product table as a spreadsheet: the export, and the import that finds the product
of a row by its barcode. An import is one transaction; a row that fails is noted and the
others go on. -/
namespace BeidarPos

open Rounding Relational

/-- Products and stock movements. A barcode belongs to one product, the empty one too. -/
structure Inventory where
  products : Indexed Product.id Product.barcode
  stockMovements : List StockMovement
  deriving DecidableEq

/-- The columns of a product list: an image kept in the row itself is left out. -/
def Product.listed (p : Product) : Product := { p with image := if 500 < p.image.length then "" else p.image }

def Inventory.getAll (db : Inventory) : List Product := db.products.rows.map Product.listed

/-- A field begins with white space, holds a special character, or is the end marker. -/
def csvNeedsQuotes (field : List Char) : Bool :=
  decide (field = ['\\', '.']) || field.any (· ∈ Csv.special) || field.head?.any (· ∈ whiteSpace)

def csvWriter : Csv.Quoting where
  needsQuotes := csvNeedsQuotes
  required := by
    intro field plain c member inside
    simp only [csvNeedsQuotes, Bool.or_eq_false_iff, List.any_eq_false] at plain
    exact plain.1.2 c member (by simpa using inside)

/-- An apostrophe goes before what a spreadsheet would take for a formula. -/
def sanitizeCSVField (val : String) : String :=
  match val.toList with
  | '=' :: _ | '+' :: _ | '-' :: _ | '@' :: _ => "'" ++ val
  | _ => val

def csvHeaders : List String :=
  ["الباركود", "اسم المنتج", "الوصف", "الفئة", "المورد", "التكلفة", "السعر", "المخزون", "الحد الأدنى"]

def Amount.float (a : Int) : ℚ := a / 100

def newAmount (v : ℚ) : Int := roundHalfAway (v * 100)

theorem newAmount_float (a : Int) : newAmount (Amount.float a) = a := by
  rw [newAmount, Amount.float, div_mul_cancel₀ _ (by norm_num), roundHalfAway_intCast]

def exportRow (p : Product) : List (List Char) :=
  [(sanitizeCSVField p.barcode).toList, (sanitizeCSVField p.name).toList, (sanitizeCSVField p.description).toList,
    (sanitizeCSVField p.category).toList, (sanitizeCSVField p.supplier).toList, Decimal.fixed2 (Amount.float p.cost),
    Decimal.fixed2 (Amount.float p.price), Decimal.fixed2 p.stock, Decimal.fixed2 p.minStock]

structure CSVExportResult where
  data : String
  filename : String
  count : Nat

def exportProductsCSV (today : String) (db : Inventory) : CSVExportResult :=
  let products := db.getAll
  { data := String.ofList (Csv.writeAll csvWriter (csvHeaders.map String.toList :: products.map exportRow))
    filename := "products_" ++ today ++ ".csv"
    count := products.length }

structure CSVImportResult where
  success : Bool
  totalRows : Nat
  imported : Nat
  updated : Nat
  skipped : Nat
  errors : List Failure
  importedIDs : List String

/-- The clock, and an identifier for the product a row creates. -/
structure ImportEnv where
  millis : Int
  freshID : Nat → String

def headerMap : List (String × String) := [
  ("الباركود", "barcode"), ("barcode", "barcode"), ("اسم المنتج", "name"), ("name", "name"),
  ("الوصف", "description"), ("description", "description"), ("الفئة", "category"), ("category", "category"),
  ("المورد", "supplier"), ("supplier", "supplier"), ("التكلفة", "cost"), ("cost", "cost"), ("السعر", "price"),
  ("price", "price"), ("المخزون", "stock"), ("stock", "stock"), ("الحد الأدنى", "minstock"),
  ("minstock", "minstock"), ("سعر الجملة", "wholesaleprice"), ("wholesaleprice", "wholesaleprice")]

def cleanCol (p : Platform) (col : String) : String := toLower p (trimSpace col)

def isHeader (p : Platform) (firstRow : List String) : Bool :=
  firstRow.any fun col => (headerMap.lookup (cleanCol p col)).isSome

/-- Where each column stands; of two columns with one name the later counts. -/
def colIndices (p : Platform) (firstRow : List String) : List (String × Nat) :=
  firstRow.zipIdx.map fun col => ((headerMap.lookup (cleanCol p col.1)).getD (cleanCol p col.1), col.2)

def fixedIndices : List (String × Nat) :=
  ["barcode", "name", "description", "category", "supplier", "cost", "price", "stock", "minstock"].zipIdx

def getVal (indices : List (String × Nat)) (record : List String) (key : String) : String :=
  match indices.reverse.lookup key with
  | some i => trimSpace (record.getD i "")
  | none => ""

/-- An empty text is zero. -/
def parseFloat (s : String) : Option ℚ :=
  let text := (trimSpace s).toList.filter (· ≠ ',')
  if text = [] then some 0 else Decimal.parse text

/-- A row as the importer reads it; a number that does not parse is none. -/
structure CsvRow where
  name : String
  barcode : String
  category : String
  supplier : String
  description : String
  price : Option ℚ
  cost : Option ℚ
  stock : Option ℚ
  minStock : Option ℚ
  wholesalePrice : Option ℚ

def readRow (indices : List (String × Nat)) (record : List String) : CsvRow where
  name := getVal indices record "name"
  barcode := getVal indices record "barcode"
  category := getVal indices record "category"
  supplier := getVal indices record "supplier"
  description := getVal indices record "description"
  price := parseFloat (getVal indices record "price")
  cost := parseFloat (getVal indices record "cost")
  stock := parseFloat (getVal indices record "stock")
  minStock := parseFloat (getVal indices record "minstock")
  wholesalePrice := parseFloat (getVal indices record "wholesaleprice")

def CSVImportResult.skip (result : CSVImportResult) (e : Failure) : CSVImportResult :=
  { result with errors := result.errors ++ [e], skipped := result.skipped + 1 }

def rowError (template : String) (rowNum : Nat) : Failure := .plain (.format template [.number rowNum])

/-- Numbers that did not parse keep the stored values. -/
def mergeRow (existing : Product) (row : CsvRow) (priceVal : ℚ) : Product :=
  { existing with
    name := row.name
    description := row.description
    category := row.category
    supplier := row.supplier
    cost := (row.cost.map newAmount).getD existing.cost
    price := newAmount priceVal
    stock := row.stock.getD existing.stock
    minStock := row.minStock.getD existing.minStock
    wholesalePrice := (row.wholesalePrice.map newAmount).getD existing.wholesalePrice }

/-- A number that did not parse is zero in a new product. -/
def newProduct (id : String) (row : CsvRow) (priceVal : ℚ) : Product where
  id := id
  name := row.name
  barcode := row.barcode
  price := newAmount priceVal
  cost := newAmount (row.cost.getD 0)
  stock := row.stock.getD 0
  minStock := row.minStock.getD 0
  category := row.category
  image := ""
  supplier := row.supplier
  wholesalePrice := newAmount (row.wholesalePrice.getD 0)
  description := row.description
  customDetails := none

def importMovement (env : ImportEnv) (p : Product) (type : String) (qty : ℚ) (reason : String) : StockMovement :=
  ⟨p.id, p.name, type, qty, reason, env.millis⟩

def updateRow (env : ImportEnv) (rowNum : Nat) (row : CsvRow) (priceVal : ℚ) (known : Product)
    (state : Inventory × CSVImportResult) : Inventory × CSVImportResult :=
  let (db, result) := state
  -- the row is read again: the list it was found in has no images
  let existing := (db.products.find? known.id).getD known
  let product := mergeRow existing row priceVal
  match db.products.save? product with
  | none => (db, result.skip (.wrapped (.format "سطر %d: فشل التحديث - %v" [.number rowNum]) (.constraint "products")))
  | some products =>
    let diff := product.stock - existing.stock
    ({ products := products
       stockMovements := if diff ≠ 0 then db.stockMovements ++
         [importMovement env product "import_csv_adjust" diff "تعديل مخزون عبر استيراد CSV"] else db.stockMovements },
      { result with updated := result.updated + 1, importedIDs := result.importedIDs ++ [product.id] })

def createRow (env : ImportEnv) (rowNum : Nat) (row : CsvRow) (priceVal : ℚ)
    (state : Inventory × CSVImportResult) : Inventory × CSVImportResult :=
  let (db, result) := state
  let product := newProduct ("prod_" ++ env.freshID rowNum) row priceVal
  match db.products.create? product with
  | none => (db, result.skip (.wrapped (.format "سطر %d: فشل الإنشاء - %v" [.number rowNum]) (.constraint "products")))
  | some products =>
    ({ products := products
       stockMovements := if 0 < product.stock then db.stockMovements ++
         [importMovement env product "import_csv" product.stock "استيراد CSV: منتج جديد"] else db.stockMovements },
      { result with imported := result.imported + 1, importedIDs := result.importedIDs ++ [product.id] })

/-- A lookup in the barcode index, which leaves empty barcodes out. -/
def findBarcode (known : List Product) (barcode : String) : Option Product :=
  if barcode = "" then none else known.find? (fun p => p.barcode = barcode)

/-- `known` holds the products as they were listed before the transaction. -/
def importRow (env : ImportEnv) (updateExisting : Bool) (known : List Product) (rowNum : Nat) (row : CsvRow)
    (state : Inventory × CSVImportResult) : Inventory × CSVImportResult :=
  if row.name = "" then (state.1, state.2.skip (rowError "سطر %d: اسم المنتج مطلوب" rowNum))
  else
    match row.price.filter (0 < ·) with
    | none => (state.1, state.2.skip (rowError "سطر %d: السعر غير صالح (يجب أن يكون أكبر من صفر)" rowNum))
    | some priceVal =>
      match findBarcode known row.barcode with
      | some product =>
        if updateExisting then updateRow env rowNum row priceVal product state
        else (state.1, { state.2 with skipped := state.2.skipped + 1 })
      | none => createRow env rowNum row priceVal state

/-- The rows in order, numbered from `rowNum` on. -/
def importRows (env : ImportEnv) (updateExisting : Bool) (known : List Product) :
    Nat → List CsvRow → Inventory × CSVImportResult → Inventory × CSVImportResult
  | _, [], state => state
  | rowNum, row :: rows, state =>
    importRows env updateExisting known (rowNum + 1) rows (importRow env updateExisting known rowNum row state)

def CSVImportResult.start (totalRows : Nat) : CSVImportResult := ⟨true, totalRows, 0, 0, 0, [], []⟩

def CSVImportResult.failed (message : Text) : CSVImportResult := ⟨false, 0, 0, 0, 0, [.plain message], []⟩

/-- The reader's own texts, without the line and column it puts before them. -/
def csvErrorText : Csv.Error → String
  | .bareQuote => "bare \" in non-quoted-field"
  | .quote => "extraneous or missing \" in quoted-field"
  | .fieldCount => "wrong number of fields"

def CSVImportResult.closed (result : CSVImportResult) : CSVImportResult :=
  { result with success := result.errors.isEmpty || decide (0 < result.imported + result.updated) }

def importData (env : ImportEnv) (updateExisting : Bool) (indices : List (String × Nat)) (rowNum : Nat)
    (dataRows : List (List String)) (db : Inventory) : Inventory × CSVImportResult :=
  let (final, result) := importRows env updateExisting db.getAll rowNum (dataRows.map (readRow indices))
    (db, .start dataRows.length)
  (final, result.closed)

def importProductsCSV (p : Platform) (env : ImportEnv) (csvData : String) (updateExisting : Bool) (db : Inventory) :
    Inventory × CSVImportResult :=
  match Csv.readAll csvData.toList with
  | .error e => (db, .failed (.format "فشل قراءة CSV: %v" [.text (csvErrorText e)]))
  | .ok records =>
    match records.map (List.map String.ofList) with
    | [] => (db, .failed (.plain "الملف فارغ أو لا يحتوي على بيانات"))
    | firstRow :: rows =>
      if isHeader p firstRow then
        if rows = [] then (db, .failed (.plain "الملف لا يحتوي على صفوف بيانات"))
        else importData env updateExisting (colIndices p firstRow) 2 rows db
      else importData env updateExisting fixedIndices 1 (firstRow :: rows) db

end BeidarPos
