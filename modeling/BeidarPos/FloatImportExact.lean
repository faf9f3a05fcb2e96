import BeidarPos.FloatImport

/-! The importer with every number against the one with exact numbers. Where texts are decimal
numbers and an amount has room for its cents, both make the same tables and the same result. -/
namespace BeidarPos

open Rounding Relational

section Exact

def Product.float (p : Product) : FloatProduct where
  id := p.id
  name := p.name
  barcode := p.barcode
  price := p.price
  cost := p.cost
  stock := .finite p.stock
  minStock := .finite p.minStock
  category := p.category
  image := p.image
  supplier := p.supplier
  wholesalePrice := p.wholesalePrice
  description := p.description
  customDetails := p.customDetails

def StockMovement.float (m : StockMovement) : FloatMovement :=
  ⟨m.productID, m.productName, m.type, .finite m.qty, m.reason, m.timestamp⟩

def Parsed.exact : Option ℚ → Parsed
  | some q => ⟨.finite q, false⟩
  | none => ⟨.finite 0, true⟩

def CsvRow.float (row : CsvRow) : FloatRow where
  name := row.name
  barcode := row.barcode
  category := row.category
  supplier := row.supplier
  description := row.description
  price := .exact row.price
  cost := .exact row.cost
  stock := .exact row.stock
  minStock := .exact row.minStock
  wholesalePrice := .exact row.wholesalePrice

/-- Texts are decimal numbers or none, and amounts have room for every cent. -/
structure FloatCalls.Exact (calls : FloatCalls) : Prop where
  parses : ∀ text, calls.parseFloat text = .exact (Decimal.parse text.toList)
  beyond : ∀ q, calls.beyond (.finite q) = newAmount q
  column : ∀ q, calls.column (.finite q) = .finite q

/-- The same tables and the same result. -/
structure Agrees (state : Inventory × CSVImportResult) (run : ImportRun) : Prop where
  products : run.db.products.rows = state.1.products.rows.map Product.float
  stockMovements : run.db.stockMovements = state.1.stockMovements.map StockMovement.float
  result : run.result = state.2

variable {calls : FloatCalls} {env : ImportEnv} {updateExisting : Bool} {known : List Product} {rowNum : Nat}
  {row : CsvRow} {state : Inventory × CSVImportResult} {run : ImportRun}

theorem FloatCalls.Exact.amount (exact : calls.Exact) (q : ℚ) : calls.amount (.finite q) = newAmount q := by
  rw [FloatCalls.amount]
  split
  · rfl
  · exact exact.beyond q

theorem FloatCalls.Exact.number (exact : calls.Exact) (s : String) : calls.number s = .exact (BeidarPos.parseFloat s) := by
  unfold FloatCalls.number BeidarPos.parseFloat
  dsimp only
  split
  · rfl
  · rw [exact.parses, String.toList_ofList]

theorem readFloatRow_exact (exact : calls.Exact) (indices : List (String × Nat)) (record : List String) :
    readFloatRow calls indices record = (readRow indices record).float := by
  simp only [readFloatRow, exact.number, CsvRow.float, readRow]

theorem exact_value {cell : Option ℚ} : (Parsed.exact cell).value = .finite (cell.getD 0) := by
  cases cell <;> rfl

theorem mergeFloatRow_exact (exact : calls.Exact) (existing : Product) {priceVal : ℚ} (price : row.price = some priceVal) :
    mergeFloatRow calls existing.float row.float = (mergeRow existing row priceVal).float := by
  have priced : calls.amount row.float.price.value = newAmount priceVal := by
    rw [CsvRow.float, price]
    exact exact.amount priceVal
  have amount (cell : Option ℚ) (kept : Int) :
      (if (Parsed.exact cell).failed then kept else calls.amount (Parsed.exact cell).value) =
        (cell.map newAmount).getD kept := by
    cases cell with
    | none => rfl
    | some q => exact exact.amount q
  have number (cell : Option ℚ) (kept : ℚ) :
      (if (Parsed.exact cell).failed then Extended.finite kept else (Parsed.exact cell).value) =
        .finite (cell.getD kept) := by
    cases cell <;> rfl
  unfold mergeFloatRow mergeRow
  congr 1
  · exact amount row.cost existing.cost
  · exact number row.stock existing.stock
  · exact number row.minStock existing.minStock
  · exact amount row.wholesalePrice existing.wholesalePrice

theorem newFloatProduct_exact (exact : calls.Exact) (id : String) {priceVal : ℚ} (price : row.price = some priceVal) :
    newFloatProduct calls id row.float = (newProduct id row priceVal).float := by
  have priced : calls.amount row.float.price.value = newAmount priceVal := by
    rw [CsvRow.float, price]
    exact exact.amount priceVal
  simp only [newFloatProduct, priced]
  simp only [CsvRow.float, Product.float, newProduct, exact_value, exact.amount]

theorem stored_exact (exact : calls.Exact) (p : Product) : p.float.stored calls = p.float := by
  simp only [FloatProduct.stored, Product.float, exact.column]

theorem find?_float {t : Indexed FloatProduct.id FloatProduct.barcode} {products : Indexed Product.id Product.barcode}
    (same : t.rows = products.rows.map Product.float) (id : String) :
    t.find? id = (products.find? id).map Product.float := by
  rw [Table.find?, same, List.find?_map]
  rfl

/-- The same row is added to both tables, or to neither. -/
theorem create?_float {t : Indexed FloatProduct.id FloatProduct.barcode} {products : Indexed Product.id Product.barcode}
    (same : t.rows = products.rows.map Product.float) (p : Product) :
    (t.create? p.float = none ∧ products.create? p = none) ∨
      ∃ next products', t.create? p.float = some next ∧ products.create? p = some products' ∧
        next.rows = products'.rows.map Product.float := by
  by_cases free : ∀ old ∈ products.rows, old.id ≠ p.id ∧ old.barcode ≠ p.barcode
  · have free' : ∀ old ∈ t.rows, old.id ≠ p.float.id ∧ old.barcode ≠ p.float.barcode := by
      intro old member
      rw [same] at member
      obtain ⟨q, inside, rfl⟩ := List.mem_map.mp member
      exact free q inside
    obtain ⟨next, created, rows⟩ := Indexed.create?_free t p.float free'
    obtain ⟨products', created', rows'⟩ := Indexed.create?_free products p free
    exact .inr ⟨next, products', created, created', by rw [rows, rows', same, List.map_append]; rfl⟩
  · refine .inl ⟨?_, ?_⟩
    · by_contra taken
      obtain ⟨next, created⟩ := Option.ne_none_iff_exists'.mp taken
      refine free fun old member => ?_
      exact Indexed.create?_free_iff.mp ⟨next, created⟩ old.float (same ▸ List.mem_map_of_mem member)
    · by_contra taken
      obtain ⟨next, created⟩ := Option.ne_none_iff_exists'.mp taken
      exact free (Indexed.create?_free_iff.mp ⟨next, created⟩)

theorem floatMovement_exact (exact : calls.Exact) (p : Product) (type reason : String) (qty : ℚ) :
    floatMovement calls env p.float type (.finite qty) reason = (importMovement env p type qty reason).float := by
  rw [floatMovement, exact.column]
  rfl

theorem put_float {t : Table FloatProduct.id} {products : Table Product.id} (same : t.rows = products.rows.map Product.float)
    (p : Product) : (t.put p.float).rows = (products.put p).rows.map Product.float := by
  rw [Table.put_rows, Table.put_rows, same, List.map_map, List.map_map]
  refine List.map_congr_left fun old _ => ?_
  exact (apply_ite Product.float (old.id = p.id) p old).symm

theorem updateFloatRow_exact (exact : calls.Exact) (agrees : Agrees state run) {product existing : Product}
    (stored : state.1.products.find? product.id = some existing) {priceVal : ℚ} (price : row.price = some priceVal) :
    Agrees (updateRow env rowNum row priceVal product state)
      (updateFloatRow calls env rowNum row.float product.float run) := by
  have stored' : run.db.products.find? product.float.id = some existing.float := by
    rw [find?_float agrees.products]
    exact congrArg (Option.map Product.float) stored
  have own : state.1.products.find? existing.id = some existing := (Table.find?_key stored).symm ▸ stored
  have own' : run.db.products.find? existing.float.id = some existing.float := (Table.find?_key stored').symm ▸ stored'
  obtain ⟨products, saved, rows⟩ := @Indexed.save?_stored _ _ _ _ _ _ _ state.1.products (mergeRow existing row priceVal)
    existing own rfl
  obtain ⟨products', saved', rows'⟩ := @Indexed.save?_stored _ _ _ _ _ _ _ run.db.products
    (mergeRow existing row priceVal).float existing.float own' rfl
  have difference : (mergeRow existing row priceVal).float.stock.sub existing.float.stock =
      .finite ((mergeRow existing row priceVal).stock - existing.stock) := Extended.sub_finite _ _
  simp only [updateRow, updateFloatRow, stored, stored', Option.getD_some, mergeFloatRow_exact exact existing price,
    stored_exact exact, saved, saved', difference, floatMovement_exact exact, ne_eq, Extended.finite.injEq]
  refine ⟨?_, ?_, by rw [agrees.result]; rfl⟩
  · exact (congrArg Table.rows rows').trans ((put_float agrees.products _).trans
      (congrArg (fun t : Table Product.id => t.rows.map Product.float) rows.symm))
  · dsimp only
    rw [agrees.stockMovements]
    split
    · rw [List.map_append]
      rfl
    · rfl

theorem createFloatRow_exact (exact : calls.Exact) (agrees : Agrees state run) {priceVal : ℚ}
    (price : row.price = some priceVal) :
    Agrees (createRow env rowNum row priceVal state) (createFloatRow calls env rowNum row.float run) := by
  have made : newFloatProduct calls (freshProductID env rowNum) row.float =
      (newProduct ("prod_" ++ env.freshID rowNum) row priceVal).float := newFloatProduct_exact exact _ price
  have stock (p : Product) : p.float.stock = .finite p.stock := rfl
  have positive (q : ℚ) : (Extended.finite q).positive = true ↔ 0 < q := decide_eq_true_iff
  obtain ⟨none, none'⟩ | ⟨next, products, some, some', rows⟩ :=
    create?_float agrees.products (newProduct ("prod_" ++ env.freshID rowNum) row priceVal)
  · simp only [createRow, createFloatRow, made, stored_exact exact, none, none']
    exact ⟨agrees.products, agrees.stockMovements, congrArg (CSVImportResult.skip · _) agrees.result⟩
  · simp only [createRow, createFloatRow, made, stored_exact exact, some, some', stock, positive, floatMovement_exact exact]
    refine ⟨rows, ?_, by rw [agrees.result]; rfl⟩
    dsimp only
    rw [agrees.stockMovements]
    split
    · rw [List.map_append]
      rfl
    · rfl

theorem findFloatBarcode_float (barcode : String) :
    findFloatBarcode (known.map Product.float) barcode = (findBarcode known barcode).map Product.float := by
  unfold findFloatBarcode findBarcode
  split
  · rfl
  · rw [List.find?_map]
    rfl

/-- A price passes both importers or neither. -/
theorem exact_price (cell : Option ℚ) :
    (Parsed.exact cell).failed = true ∨ (Parsed.exact cell).value.nonpositive = true ↔ cell.filter (0 < ·) = none := by
  cases cell with
  | none => exact iff_of_true (.inl rfl) rfl
  | some q => simp [Parsed.exact, Extended.nonpositive, Option.filter]

theorem importFloatRow_exact (exact : calls.Exact) (agrees : Agrees state run)
    (still : ∀ product ∈ known, ∃ current, state.1.products.find? product.id = some current) :
    Agrees (importRow env updateExisting known rowNum row state)
      (importFloatRow calls env updateExisting (known.map Product.float) rowNum row.float run) := by
  have skipped (e : Failure) : Agrees (state.1, state.2.skip e) (run.skip e) :=
    ⟨agrees.products, agrees.stockMovements, congrArg (CSVImportResult.skip · e) agrees.result⟩
  unfold importRow importFloatRow
  by_cases named : row.name = ""
  · rw [if_pos named, if_pos (show row.float.name = "" from named)]
    exact skipped _
  · rw [if_neg named, if_neg (show ¬row.float.name = "" from named)]
    cases price : row.price.filter (0 < ·) with
    | none =>
      have refused : row.float.price.failed = true ∨ row.float.price.value.nonpositive = true :=
        (exact_price row.price).mpr price
      rw [if_pos refused]
      exact skipped _
    | some priceVal =>
      have given : row.price = some priceVal := (Option.filter_eq_some_iff.mp price).1
      have passes : ¬(row.float.price.failed = true ∨ row.float.price.value.nonpositive = true) := fun refused => by
        rw [(exact_price row.price).mp refused] at price
        cases price
      rw [if_neg passes, show row.float.barcode = row.barcode from rfl, findFloatBarcode_float]
      cases found : findBarcode known row.barcode with
      | none => exact createFloatRow_exact exact agrees given
      | some product =>
        dsimp only [Option.map_some]
        by_cases updating : updateExisting = true
        · rw [if_pos updating, if_pos updating]
          obtain ⟨existing, stored⟩ := still product (findBarcode_some found).1
          exact updateFloatRow_exact exact agrees stored given
        · rw [if_neg updating, if_neg updating]
          exact ⟨agrees.products, agrees.stockMovements, by rw [agrees.result]⟩

/-- Read with exact numbers, the rows make the same tables and the same result. -/
theorem importFloatRows_exact (exact : calls.Exact) (rows : List CsvRow) (agrees : Agrees state run)
    (still : StillStored (known.map Product.float) run.db) :
    Agrees (importRows env updateExisting known rowNum rows state)
      (importFloatRows calls env updateExisting (known.map Product.float) ((rows.map CsvRow.float).zipIdx rowNum) run) := by
  induction rows generalizing rowNum state run with
  | nil => exact agrees
  | cons row rows ih =>
    refine ih (importFloatRow_exact exact agrees fun product member => ?_) (importFloatRow_still still)
    obtain ⟨current, found, -⟩ := still product.float (List.mem_map_of_mem member)
    rw [show product.float.id = product.id from rfl, find?_float agrees.products] at found
    obtain ⟨existing, stored, -⟩ := Option.map_eq_some_iff.mp found
    exact ⟨existing, stored⟩

theorem importFloatData_exact (exact : calls.Exact) {db : Inventory} {db' : FloatInventory}
    (products : db'.products.rows = db.products.rows.map Product.float)
    (stockMovements : db'.stockMovements = db.stockMovements.map StockMovement.float) (s : Sheet) :
    Agrees (importData env updateExisting s.indices s.rowNum s.rows db)
      (importFloatData calls env updateExisting s db') := by
  have listed : db'.getAll = db.getAll.map Product.float := by
    simp only [FloatInventory.getAll, Inventory.getAll, products, List.map_map]
    rfl
  have rows : s.rows.map (readFloatRow calls s.indices) = (s.rows.map (readRow s.indices)).map CsvRow.float := by
    rw [List.map_map]
    exact List.map_congr_left fun record _ => readFloatRow_exact exact s.indices record
  have still := getAll_still db'
  rw [listed] at still
  have agrees := @importFloatRows_exact calls env updateExisting db.getAll s.rowNum (db, .start s.rows.length)
    ⟨db', .start s.rows.length, []⟩ exact (s.rows.map (readRow s.indices)) ⟨products, stockMovements, rfl⟩ still
  rw [← rows, ← listed] at agrees
  exact ⟨agrees.products, agrees.stockMovements, congrArg CSVImportResult.closed agrees.result⟩

/-- Where texts are decimal numbers and amounts have room, this importer and the exact one do
the same with every file. -/
theorem importFloatProductsCSV_exact (exact : calls.Exact) (p : Platform) (csvData : String) {db : Inventory}
    {db' : FloatInventory} (products : db'.products.rows = db.products.rows.map Product.float)
    (stockMovements : db'.stockMovements = db.stockMovements.map StockMovement.float) :
    Agrees (importProductsCSV p env csvData updateExisting db)
      (importFloatProductsCSV calls p env csvData updateExisting db') := by
  unfold importProductsCSV importFloatProductsCSV
  cases read : Csv.readAll csvData.toList with
  | error e => exact ⟨products, stockMovements, rfl⟩
  | ok records =>
    dsimp only
    cases cells : records.map (List.map String.ofList) with
    | nil => exact ⟨products, stockMovements, rfl⟩
    | cons firstRow rows =>
      dsimp only
      by_cases header : isHeader p firstRow = true
      · rw [if_pos header, if_pos header]
        by_cases empty : rows = []
        · rw [if_pos empty, if_pos empty]
          exact ⟨products, stockMovements, rfl⟩
        · rw [if_neg empty, if_neg empty]
          exact importFloatData_exact exact products stockMovements ⟨colIndices p firstRow, 2, rows⟩
      · rw [if_neg header, if_neg header]
        exact importFloatData_exact exact products stockMovements ⟨fixedIndices, 1, firstRow :: rows⟩

end Exact

end BeidarPos
