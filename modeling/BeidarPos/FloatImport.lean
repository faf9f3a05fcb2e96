import BeidarPos.CsvBlankCells
import BeidarPos.Extended
import BeidarPos.Word

/-! The import of products with the numbers a file may really bring: infinities and NaN parse,
and so does a minus sign. The importer is a second writer of products beside `CreateProduct`
and `UpdateProduct`, and checks the price only. -/
namespace BeidarPos

open Rounding Relational

/-- What `strconv.ParseFloat` returns: a value, and whether there is an error beside it. -/
structure Parsed where
  value : Extended
  failed : Bool

/-- `strconv.ParseFloat`, what the processor makes of a number that no int64 holds, and what a
REAL column gives back of a number. -/
structure FloatCalls where
  parseFloat : String → Parsed
  beyond : Extended → Int
  column : Extended → Extended

structure FloatProduct where
  id : String
  name : String
  barcode : String
  price : Int
  cost : Int
  stock : Extended
  minStock : Extended
  category : String
  image : String
  supplier : String
  wholesalePrice : Int
  description : String
  customDetails : Option String
  deriving DecidableEq

structure FloatMovement where
  productID : String
  productName : String
  type : String
  qty : Extended
  reason : String
  timestamp : Int
  deriving DecidableEq

structure FloatInventory where
  products : Indexed FloatProduct.id FloatProduct.barcode
  stockMovements : List FloatMovement

def FloatProduct.listed (p : FloatProduct) : FloatProduct :=
  { p with image := if 500 < p.image.length then "" else p.image }

def FloatInventory.getAll (db : FloatInventory) : List FloatProduct := db.products.rows.map FloatProduct.listed

/-- A row as the importer reads it. -/
structure FloatRow where
  name : String
  barcode : String
  category : String
  supplier : String
  description : String
  price : Parsed
  cost : Parsed
  stock : Parsed
  minStock : Parsed
  wholesalePrice : Parsed

/-- The tables, the result, and the products handed to `Create` and `Update` so far. -/
structure ImportRun where
  db : FloatInventory
  result : CSVImportResult
  written : List FloatProduct

section Importer

variable (calls : FloatCalls)

/-- `NewAmount`. -/
def FloatCalls.amount : Extended → Int
  | .finite q => if -2^63 ≤ newAmount q ∧ newAmount q < 2^63 then newAmount q else calls.beyond (.finite q)
  | x => calls.beyond x

/-- `parseFloat`. -/
def FloatCalls.number (s : String) : Parsed :=
  let text := (trimSpace s).toList.filter (· ≠ ',')
  if text = [] then ⟨.finite 0, false⟩ else calls.parseFloat (String.ofList text)

def readFloatRow (indices : List (String × Nat)) (record : List String) : FloatRow where
  name := getVal indices record "name"
  barcode := getVal indices record "barcode"
  category := getVal indices record "category"
  supplier := getVal indices record "supplier"
  description := getVal indices record "description"
  price := calls.number (getVal indices record "price")
  cost := calls.number (getVal indices record "cost")
  stock := calls.number (getVal indices record "stock")
  minStock := calls.number (getVal indices record "minstock")
  wholesalePrice := calls.number (getVal indices record "wholesaleprice")

/-- Numbers that did not parse keep the stored values. -/
def mergeFloatRow (existing : FloatProduct) (row : FloatRow) : FloatProduct :=
  { existing with
    name := row.name
    description := row.description
    category := row.category
    supplier := row.supplier
    cost := if row.cost.failed then existing.cost else calls.amount row.cost.value
    price := calls.amount row.price.value
    stock := if row.stock.failed then existing.stock else row.stock.value
    minStock := if row.minStock.failed then existing.minStock else row.minStock.value
    wholesalePrice := if row.wholesalePrice.failed then existing.wholesalePrice else calls.amount row.wholesalePrice.value }

/-- A new product takes what was parsed, errors or not. -/
def newFloatProduct (id : String) (row : FloatRow) : FloatProduct where
  id := id
  name := row.name
  barcode := row.barcode
  price := calls.amount row.price.value
  cost := calls.amount row.cost.value
  stock := row.stock.value
  minStock := row.minStock.value
  category := row.category
  image := ""
  supplier := row.supplier
  wholesalePrice := calls.amount row.wholesalePrice.value
  description := row.description
  customDetails := none

def FloatProduct.stored (p : FloatProduct) : FloatProduct :=
  { p with stock := calls.column p.stock, minStock := calls.column p.minStock }

def floatMovement (env : ImportEnv) (p : FloatProduct) (type : String) (qty : Extended) (reason : String) : FloatMovement :=
  ⟨p.id, p.name, type, calls.column qty, reason, env.millis⟩

def ImportRun.skip (run : ImportRun) (e : Failure) : ImportRun := { run with result := run.result.skip e }

def updateFloatRow (env : ImportEnv) (rowNum : Nat) (row : FloatRow) (known : FloatProduct) (run : ImportRun) : ImportRun :=
  let existing := (run.db.products.find? known.id).getD known
  let product := mergeFloatRow calls existing row
  match run.db.products.save? (product.stored calls) with
  | none => run.skip (.wrapped (.format "سطر %d: فشل التحديث - %v" [.number rowNum]) (.constraint "products"))
  | some products =>
    let diff := product.stock.sub existing.stock
    { db := {
        products
        stockMovements := if diff ≠ .finite 0 then run.db.stockMovements ++
          [floatMovement calls env product "import_csv_adjust" diff "تعديل مخزون عبر استيراد CSV"]
        else run.db.stockMovements }
      result := { run.result with
        updated := run.result.updated + 1, importedIDs := run.result.importedIDs ++ [product.id] }
      written := run.written ++ [product] }

def freshProductID (env : ImportEnv) (rowNum : Nat) : String := "prod_" ++ env.freshID rowNum

def createFloatRow (env : ImportEnv) (rowNum : Nat) (row : FloatRow) (run : ImportRun) : ImportRun :=
  let product := newFloatProduct calls (freshProductID env rowNum) row
  match run.db.products.create? (product.stored calls) with
  | none => run.skip (.wrapped (.format "سطر %d: فشل الإنشاء - %v" [.number rowNum]) (.constraint "products"))
  | some products =>
    { db := {
        products
        stockMovements := if product.stock.positive then run.db.stockMovements ++
          [floatMovement calls env product "import_csv" product.stock "استيراد CSV: منتج جديد"]
        else run.db.stockMovements }
      result := { run.result with
        imported := run.result.imported + 1, importedIDs := run.result.importedIDs ++ [product.id] }
      written := run.written ++ [product] }

def findFloatBarcode (known : List FloatProduct) (barcode : String) : Option FloatProduct :=
  if barcode = "" then none else known.find? (fun p => p.barcode = barcode)

/-- The row is not skipped for its name or its price. -/
def FloatRow.Passes (row : FloatRow) : Prop :=
  row.name ≠ "" ∧ row.price.failed = false ∧ row.price.value.nonpositive = false

/-- `known` holds the products as they were listed before the transaction. -/
def importFloatRow (env : ImportEnv) (updateExisting : Bool) (known : List FloatProduct) (rowNum : Nat) (row : FloatRow)
    (run : ImportRun) : ImportRun :=
  if row.name = "" then run.skip (rowError "سطر %d: اسم المنتج مطلوب" rowNum)
  else if row.price.failed ∨ row.price.value.nonpositive then
    run.skip (rowError "سطر %d: السعر غير صالح (يجب أن يكون أكبر من صفر)" rowNum)
  else
    match findFloatBarcode known row.barcode with
    | some product =>
      if updateExisting then updateFloatRow calls env rowNum row product run
      else { run with result := { run.result with skipped := run.result.skipped + 1 } }
    | none => createFloatRow calls env rowNum row run

/-- The rows in order, each with its number. -/
def importFloatRows (env : ImportEnv) (updateExisting : Bool) (known : List FloatProduct) (rows : List (FloatRow × Nat))
    (run : ImportRun) : ImportRun :=
  rows.foldl (fun run row => importFloatRow calls env updateExisting known row.2 row.1 run) run

def importFloatData (env : ImportEnv) (updateExisting : Bool) (s : Sheet) (db : FloatInventory) : ImportRun :=
  let run := importFloatRows calls env updateExisting db.getAll ((s.rows.map (readFloatRow calls s.indices)).zipIdx s.rowNum)
    ⟨db, .start s.rows.length, []⟩
  { run with result := run.result.closed }

/-- `ImportProductsCSV`. -/
def importFloatProductsCSV (p : Platform) (env : ImportEnv) (csvData : String) (updateExisting : Bool)
    (db : FloatInventory) : ImportRun :=
  match Csv.readAll csvData.toList with
  | .error e => ⟨db, .failed (.format "فشل قراءة CSV: %v" [.text (csvErrorText e)]), []⟩
  | .ok records =>
    match records.map (List.map String.ofList) with
    | [] => ⟨db, .failed (.plain "الملف فارغ أو لا يحتوي على بيانات"), []⟩
    | firstRow :: rows =>
      if isHeader p firstRow then
        if rows = [] then ⟨db, .failed (.plain "الملف لا يحتوي على صفوف بيانات"), []⟩
        else importFloatData calls env updateExisting ⟨colIndices p firstRow, 2, rows⟩ db
      else importFloatData calls env updateExisting ⟨fixedIndices, 1, firstRow :: rows⟩ db

end Importer

def CSVImportResult.handled (result : CSVImportResult) : Nat := result.imported + result.updated + result.skipped

namespace FloatRow

/-- The row overwrites a stored product. -/
def Updates (row : FloatRow) (updateExisting : Bool) (known : List FloatProduct) (db : FloatInventory)
    (existing : FloatProduct) : Prop :=
  row.Passes ∧ updateExisting = true ∧
    ∃ product, findFloatBarcode known row.barcode = some product ∧ db.products.find? product.id = some existing

/-- The row makes a new product. -/
def Creates (row : FloatRow) (known : List FloatProduct) (id : String) (db : FloatInventory) : Prop :=
  row.Passes ∧ findFloatBarcode known row.barcode = none ∧
    ∀ old ∈ db.products.rows, old.id ≠ id ∧ old.barcode ≠ row.barcode

end FloatRow

/-- The numbers a row writes: amounts and a stock that `CreateProduct` and `UpdateProduct` take. -/
def CleanNumbers (calls : FloatCalls) (row : FloatRow) (cost : Int) (stock : Extended) : Prop :=
  0 ≤ calls.amount row.price.value ∧ 0 ≤ cost ∧ stock.Counts

/-- What the cells of a row that writes must give, and what the stored product must have where
they give nothing. -/
def FloatRow.Clean (row : FloatRow) (calls : FloatCalls) (env : ImportEnv) (updateExisting : Bool)
    (known : List FloatProduct) (rowNum : Nat) (db : FloatInventory) : Prop :=
  (∀ existing, row.Updates updateExisting known db existing →
    CleanNumbers calls row (if row.cost.failed then existing.cost else calls.amount row.cost.value)
      (if row.stock.failed then existing.stock else row.stock.value) ∧ existing.stock.IsFinite) ∧
  (row.Creates known (freshProductID env rowNum) db →
    CleanNumbers calls row (calls.amount row.cost.value) row.stock.value)

/-- What `CreateProduct` and `UpdateProduct` enforce. -/
def FloatProduct.Sound (p : FloatProduct) : Prop := 0 ≤ p.price ∧ 0 ≤ p.cost ∧ p.stock.Counts

/-- The stock of a product; one that is not stored has none. -/
def FloatInventory.stockAt (db : FloatInventory) (id : String) : Extended :=
  ((db.products.find? id).map FloatProduct.stock).getD (.finite 0)

/-- The quantities of the movements recorded for a product since `start`. -/
def FloatInventory.movedSince (start db : FloatInventory) (id : String) : List Extended :=
  ((db.stockMovements.drop start.stockMovements.length).filter (·.productID = id)).map FloatMovement.qty

/-- What an import is to leave: sound products, movements that explain the stocks, and every row
counted once. -/
structure ImportKeeps (start : FloatInventory) (dataRows : Nat) (run : ImportRun) : Prop where
  sound : ∀ product ∈ run.written, product.Sound
  recorded : start.stockMovements <+: run.db.stockMovements
  explained : ∀ id, run.db.stockAt id = (start.movedSince run.db id).foldl Extended.add (start.stockAt id)
  counted : run.result.handled = dataRows

/-- The products listed before the import are still there, under their barcodes. -/
def StillStored (known : List FloatProduct) (db : FloatInventory) : Prop :=
  ∀ product ∈ known, ∃ current, db.products.find? product.id = some current ∧ current.barcode = product.barcode

/-- A product is handed to `Create` or `Update`, and the movement of its stock recorded. -/
structure Wrote (calls : FloatCalls) (db next : FloatInventory) (product : FloatProduct) : Prop where
  rows : ∀ id, next.products.find? id = if id = product.id then some (product.stored calls) else db.products.find? id
  barcode : ∀ old, db.products.find? product.id = some old → old.barcode = product.barcode
  recorded : ∃ recorded, next.stockMovements = db.stockMovements ++ recorded ∧ (∀ m ∈ recorded, m.productID = product.id) ∧
    ((∀ q, calls.column (.finite q) = .finite q) → product.stock.Counts → (db.stockAt product.id).IsFinite →
      (recorded.map FloatMovement.qty).foldl Extended.add (db.stockAt product.id) = product.stock)

section Rows

variable {calls : FloatCalls} {env : ImportEnv} {updateExisting : Bool} {known : List FloatProduct} {rowNum : Nat}
  {row : FloatRow} {run : ImportRun}

theorem findFloatBarcode_mem {barcode : String} {product : FloatProduct}
    (found : findFloatBarcode known barcode = some product) : product ∈ known ∧ product.barcode = barcode := by
  unfold findFloatBarcode at found
  split at found
  · cases found
  · exact ⟨List.mem_of_find?_eq_some found, by simpa using List.find?_some found⟩

theorem stockAt_found {db : FloatInventory} {id : String} {product : FloatProduct}
    (found : db.products.find? id = some product) : db.stockAt id = product.stock := by
  rw [FloatInventory.stockAt, found]
  rfl

theorem stockAt_absent {db : FloatInventory} {id : String} (absent : db.products.find? id = none) :
    db.stockAt id = .finite 0 := by
  rw [FloatInventory.stockAt, absent]
  rfl

/-- One movement of the difference takes the stock from before to after. -/
theorem difference_explains {before after : Extended} (column : ∀ q, calls.column (.finite q) = .finite q)
    (finite : before.IsFinite) (finite' : after.IsFinite) :
    before.add (calls.column (after.sub before)) = after := by
  obtain ⟨p, rfl⟩ := finite
  obtain ⟨q, rfl⟩ := finite'
  rw [Extended.sub_finite, column, ← Extended.sub_finite]
  exact Extended.add_difference (Extended.finite_isFinite p) (Extended.finite_isFinite q)

@[simp] theorem mergeFloatRow_id (existing : FloatProduct) : (mergeFloatRow calls existing row).id = existing.id := rfl

@[simp] theorem mergeFloatRow_barcode (existing : FloatProduct) :
    (mergeFloatRow calls existing row).barcode = existing.barcode := rfl

@[simp] theorem newFloatProduct_id (id : String) : (newFloatProduct calls id row).id = id := rfl

@[simp] theorem stored_id (p : FloatProduct) : (p.stored calls).id = p.id := rfl

theorem updateFloatRow_effect {product existing : FloatProduct} (stored : run.db.products.find? product.id = some existing) :
    (updateFloatRow calls env rowNum row product run).result.handled = run.result.handled + 1 ∧
      (updateFloatRow calls env rowNum row product run).written = run.written ++ [mergeFloatRow calls existing row] ∧
      Wrote calls run.db (updateFloatRow calls env rowNum row product run).db (mergeFloatRow calls existing row) := by
  have own : existing.id = product.id := Table.find?_key stored
  have here : run.db.products.find? existing.id = some existing := own ▸ stored
  obtain ⟨products, saved, rows⟩ := @Indexed.save?_stored _ _ _ _ _ _ _ run.db.products
    ((mergeFloatRow calls existing row).stored calls) existing here rfl
  simp only [updateFloatRow, stored, Option.getD_some, saved]
  refine ⟨?_, trivial, fun id => ?_, fun old found => ?_, ?_⟩
  · simp only [CSVImportResult.handled]
    omega
  · rw [rows, Table.find?_put, stored_id, mergeFloatRow_id]
    by_cases same : id = existing.id
    · rw [if_pos same, if_pos same, same, here, Option.map_some]
    · rw [if_neg same, if_neg same]
  · rw [mergeFloatRow_id, here] at found
    cases found
    rfl
  · have before : run.db.stockAt (mergeFloatRow calls existing row).id = existing.stock := stockAt_found here
    rw [mergeFloatRow_id] at before ⊢
    rw [before]
    by_cases moved : (mergeFloatRow calls existing row).stock.sub existing.stock ≠ .finite 0
    · refine ⟨[_], if_pos moved, by simp [floatMovement], fun column counts finite => ?_⟩
      exact difference_explains column finite counts.isFinite
    · refine ⟨[], by rw [List.append_nil]; exact if_neg moved, by simp, fun _ counts finite => ?_⟩
      exact (Extended.eq_of_sub_zero finite counts.isFinite (not_not.mp moved)).symm

theorem createFloatRow_effect :
    (createFloatRow calls env rowNum row run).result.handled = run.result.handled + 1 ∧
      (((createFloatRow calls env rowNum row run).db = run.db ∧
          (createFloatRow calls env rowNum row run).written = run.written ∧
          ¬∀ old ∈ run.db.products.rows, old.id ≠ freshProductID env rowNum ∧ old.barcode ≠ row.barcode) ∨
        ((createFloatRow calls env rowNum row run).written =
            run.written ++ [newFloatProduct calls (freshProductID env rowNum) row] ∧
          Wrote calls run.db (createFloatRow calls env rowNum row run).db
            (newFloatProduct calls (freshProductID env rowNum) row) ∧
          run.db.stockAt (freshProductID env rowNum) = .finite 0 ∧
          ∀ old ∈ run.db.products.rows, old.id ≠ freshProductID env rowNum ∧ old.barcode ≠ row.barcode)) := by
  have free_iff := @Indexed.create?_free_iff _ _ _ _ _ _ _ run.db.products
    ((newFloatProduct calls (freshProductID env rowNum) row).stored calls)
  unfold createFloatRow
  dsimp only
  cases created : run.db.products.create? ((newFloatProduct calls (freshProductID env rowNum) row).stored calls) with
  | none =>
    refine ⟨?_, .inl ⟨rfl, rfl, fun free => ?_⟩⟩
    · simp only [ImportRun.skip, CSVImportResult.skip, CSVImportResult.handled]
      omega
    · obtain ⟨next, some⟩ := free_iff.mpr free
      rw [created] at some
      cases some
  | some products =>
    have free := free_iff.mp ⟨products, created⟩
    have absent : run.db.products.find? (freshProductID env rowNum) = none :=
      Table.find?_none.mpr fun old member => (free old member).1
    refine ⟨?_, .inr ⟨rfl, ⟨Indexed.find?_create created, fun old found => ?_, ?_⟩, stockAt_absent absent, free⟩⟩
    · simp only [CSVImportResult.handled]
      omega
    · rw [newFloatProduct_id, absent] at found
      cases found
    · rw [newFloatProduct_id, stockAt_absent absent]
      by_cases stocked : row.stock.value.positive = true
      · refine ⟨[_], if_pos stocked, by simp [floatMovement], fun column counts _ => ?_⟩
        obtain ⟨q, same, -⟩ := counts
        have plain : row.stock.value = .finite q := same
        simp only [floatMovement, newFloatProduct, List.map_cons, List.map_nil, List.foldl_cons, List.foldl_nil, plain,
          column]
        exact Extended.finite_zero_add (Extended.finite_isFinite q)
      · refine ⟨[], by rw [List.append_nil]; exact if_neg stocked, by simp, fun _ counts _ => ?_⟩
        have dry : row.stock.value.positive = false := by simpa using stocked
        exact (counts.zero_of_not_positive dry).symm

theorem passes_iff : row.Passes ↔ ¬row.name = "" ∧ ¬(row.price.failed = true ∨ row.price.value.nonpositive = true) := by
  simp [FloatRow.Passes]

/-- A row that writes nothing has nothing to be clean about. -/
theorem clean_of_quiet {db : FloatInventory} (none : ∀ existing, ¬row.Updates updateExisting known db existing)
    (none' : ¬row.Creates known (freshProductID env rowNum) db) :
    row.Clean calls env updateExisting known rowNum db :=
  ⟨fun existing updates => absurd updates (none existing), fun creates => absurd creates none'⟩

theorem clean_iff_of_updates {db : FloatInventory} {existing : FloatProduct}
    (updates : row.Updates updateExisting known db existing) :
    row.Clean calls env updateExisting known rowNum db ↔
      (mergeFloatRow calls existing row).Sound ∧ existing.stock.IsFinite := by
  constructor
  · intro clean
    exact clean.1 existing updates
  · refine fun sound => ⟨fun other again => ?_, fun creates => ?_⟩
    · obtain ⟨-, -, product, found, stored⟩ := updates
      obtain ⟨-, -, product', found', stored'⟩ := again
      rw [found] at found'
      cases found'
      rw [stored] at stored'
      cases stored'
      exact sound
    · obtain ⟨-, -, product, found, -⟩ := updates
      rw [creates.2.1] at found
      cases found

theorem clean_iff_of_creates {db : FloatInventory} (creates : row.Creates known (freshProductID env rowNum) db) :
    row.Clean calls env updateExisting known rowNum db ↔
      (newFloatProduct calls (freshProductID env rowNum) row).Sound := by
  constructor
  · intro clean
    exact clean.2 creates
  · refine fun sound => ⟨fun existing updates => ?_, fun _ => sound⟩
    obtain ⟨-, -, product, found, -⟩ := updates
    rw [creates.2.1] at found
    cases found

/-- What one row does: nothing that is stored, or it hands one product to the table. -/
theorem importFloatRow_effect (still : StillStored known run.db) :
    (importFloatRow calls env updateExisting known rowNum row run).result.handled = run.result.handled + 1 ∧
      (((importFloatRow calls env updateExisting known rowNum row run).db = run.db ∧
          (importFloatRow calls env updateExisting known rowNum row run).written = run.written ∧
          row.Clean calls env updateExisting known rowNum run.db) ∨
        ∃ product, (importFloatRow calls env updateExisting known rowNum row run).written = run.written ++ [product] ∧
          Wrote calls run.db (importFloatRow calls env updateExisting known rowNum row run).db product ∧
          (row.Clean calls env updateExisting known rowNum run.db ↔
            product.Sound ∧ (run.db.stockAt product.id).IsFinite)) := by
  by_cases passes : row.Passes
  · obtain ⟨named, priced⟩ := passes_iff.mp passes
    rw [importFloatRow, if_neg named, if_neg priced]
    cases found : findFloatBarcode known row.barcode with
    | none =>
      obtain ⟨counted, ⟨db, written, taken⟩ | ⟨written, wrote, absent, free⟩⟩ :=
        @createFloatRow_effect calls env rowNum row run
      · refine ⟨counted, .inl ⟨db, written, clean_of_quiet (fun existing updates => ?_) fun creates => taken creates.2.2⟩⟩
        obtain ⟨-, -, product, found', -⟩ := updates
        rw [found] at found'
        cases found'
      · refine ⟨counted, .inr ⟨_, written, wrote, ?_⟩⟩
        rw [clean_iff_of_creates ⟨passes, found, free⟩, newFloatProduct_id, absent]
        exact (and_iff_left (Extended.finite_isFinite 0)).symm
    | some product =>
      dsimp only
      by_cases updating : updateExisting = true
      · rw [if_pos updating]
        obtain ⟨existing, stored, -⟩ := still product (findFloatBarcode_mem found).1
        obtain ⟨counted, written, wrote⟩ := @updateFloatRow_effect calls env rowNum row run product existing stored
        have here : run.db.products.find? existing.id = some existing := (Table.find?_key stored).symm ▸ stored
        refine ⟨counted, .inr ⟨_, written, wrote, ?_⟩⟩
        rw [clean_iff_of_updates ⟨passes, updating, product, found, stored⟩, mergeFloatRow_id, stockAt_found here]
      · rw [if_neg updating]
        refine ⟨?_, .inl ⟨rfl, rfl, clean_of_quiet (fun existing updates => updating updates.2.1) fun creates => ?_⟩⟩
        · simp only [CSVImportResult.handled]
          omega
        · rw [creates.2.1] at found
          cases found
  · have clean : row.Clean calls env updateExisting known rowNum run.db :=
      clean_of_quiet (fun existing updates => passes updates.1) fun creates => passes creates.1
    have skipped (e : Failure) : (run.skip e).result.handled = run.result.handled + 1 := by
      simp only [ImportRun.skip, CSVImportResult.skip, CSVImportResult.handled]
      omega
    rw [passes_iff, not_and_or, not_not, not_not] at passes
    unfold importFloatRow
    by_cases named : row.name = ""
    · rw [if_pos named]
      exact ⟨skipped _, .inl ⟨rfl, rfl, clean⟩⟩
    · rw [if_neg named, if_pos (passes.resolve_left named)]
      exact ⟨skipped _, .inl ⟨rfl, rfl, clean⟩⟩

/-- A row takes no product away and gives none another barcode. -/
theorem importFloatRow_still (still : StillStored known run.db) :
    StillStored known (importFloatRow calls env updateExisting known rowNum row run).db := by
  obtain ⟨-, ⟨db, -, -⟩ | ⟨product, -, wrote, -⟩⟩ :=
    @importFloatRow_effect calls env updateExisting known rowNum row run still
  · rw [db]
    exact still
  · intro listed member
    obtain ⟨current, found, same⟩ := still listed member
    rw [wrote.rows]
    by_cases own : listed.id = product.id
    · rw [if_pos own]
      exact ⟨_, rfl, (wrote.barcode current (own ▸ found)).symm.trans same⟩
    · rw [if_neg own]
      exact ⟨current, found, same⟩

theorem getAll_still (db : FloatInventory) : StillStored db.getAll db := by
  intro listed member
  obtain ⟨product, inside, rfl⟩ := List.mem_map.mp member
  exact ⟨product, Table.find?_of_mem inside, rfl⟩

end Rows

end BeidarPos
