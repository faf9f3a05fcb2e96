import BeidarPos.ProductsCsv

/-! What an export gives back when it is imported again: what is read from each row, what
the rows together leave in the table, and exactly when that is the table exported. -/
namespace BeidarPos

open Rounding Relational

section Reading

/-- A text of a product after a trip through the file. -/
def readBack (val : String) : String :=
  trimSpace (String.ofList (Csv.dropReturns (sanitizeCSVField val).toList))

theorem trimSpace_plain {text : List Char} (plain : ∀ c ∈ text, c ∉ whiteSpace) :
    trimSpace (String.ofList text) = String.ofList text := by
  have front : text.dropWhile (· ∈ whiteSpace) = text := by
    cases text with
    | nil => rfl
    | cons c rest => exact List.dropWhile_cons_of_neg (by simpa using plain c (by simp))
  have back : text.reverse.dropWhile (· ∈ whiteSpace) = text.reverse := by
    cases reversed : text.reverse with
    | nil => rfl
    | cons c rest =>
      have member : c ∈ text := List.mem_reverse.mp (by simp [reversed])
      exact List.dropWhile_cons_of_neg (by simpa using plain c member)
  simp [trimSpace, front, back]

theorem numeral_plain (q : ℚ) : ∀ c ∈ Decimal.fixed2 q, c ∉ whiteSpace ∧ c ≠ ',' ∧ c ≠ '\r' := by
  intro c member
  have spaces : (',' :: whiteSpace).any (fun c => Decimal.isDigit c || c == '.' || c == '-') = false := by decide
  have inside : c ∉ ',' :: whiteSpace := by
    intro space
    have numeral := List.any_eq_false.mp spaces c space
    rcases Decimal.fixed2_chars q c member with number | rfl | rfl
    · exact numeral (by simp [number])
    · exact numeral (by simp)
    · exact numeral (by simp)
  refine ⟨fun space => inside (by simp [space]), fun comma => inside (by simp [comma]), ?_⟩
  rintro rfl
  exact inside (by decide)

/-- A printed number is read back as the number rounded to hundredths. -/
theorem parseFloat_fixed2 (q : ℚ) :
    parseFloat (trimSpace (String.ofList (Csv.dropReturns (Decimal.fixed2 q)))) =
      some ((Decimal.hundredths q : ℚ) / 100) := by
  have chars := numeral_plain q
  have trimmed := trimSpace_plain (fun c member => (chars c member).1)
  have commas : (Decimal.fixed2 q).filter (· ≠ ',') = Decimal.fixed2 q :=
    List.filter_eq_self.mpr fun c member => by simpa using (chars c member).2.1
  rw [Csv.dropReturns_plain (fun c member => (chars c member).2.2), trimmed]
  simp only [parseFloat, trimmed, String.toList_ofList, commas, Decimal.fixed2_nonempty, if_false]
  exact Decimal.parse_fixed2 q

theorem hundredths_float (a : Int) : (Decimal.hundredths (Amount.float a) : ℚ) / 100 = Amount.float a :=
  (Decimal.hundredths_exact _).mpr ⟨a, by simp [Amount.float]⟩

def cents (q : ℚ) : ℚ := (Decimal.hundredths q : ℚ) / 100

/-- The exported row of a product, as the importer reads it. No column holds the
wholesale price, and no text is zero. -/
def backRow (p : Product) : CsvRow where
  name := readBack p.name
  barcode := readBack p.barcode
  category := readBack p.category
  supplier := readBack p.supplier
  description := readBack p.description
  price := some (Amount.float p.price)
  cost := some (Amount.float p.cost)
  stock := some (cents p.stock)
  minStock := some (cents p.minStock)
  wholesalePrice := some 0

theorem readRow_exported (p : Product) :
    readRow fixedIndices (((exportRow p).map Csv.dropReturns).map String.ofList) = backRow p := by
  have columns : ["barcode", "name", "description", "category", "supplier", "cost", "price", "stock", "minstock",
      "wholesaleprice"].map (fixedIndices.reverse.lookup ·) =
      [some 0, some 1, some 2, some 3, some 4, some 5, some 6, some 7, some 8, none] := by decide +kernel
  simp only [List.map_cons, List.map_nil, List.cons.injEq, and_true] at columns
  obtain ⟨barcode, name, description, category, supplier, cost, price, stock, minStock, wholesale⟩ := columns
  have empty : parseFloat "" = some 0 := by decide +kernel
  simp only [readRow, getVal, barcode, name, description, category, supplier, cost, price, stock, minStock, wholesale,
    exportRow, List.map_cons, List.map_nil, List.getD_cons_zero, List.getD_cons_succ, parseFloat_fixed2,
    hundredths_float, empty]
  rfl

end Reading

section Rows

variable (rows : List Product)

/-- The row of the product finds a product: its name and price pass and its barcode, as
read back, is that of a stored product. -/
structure Returns (p : Product) : Prop where
  name : readBack p.name ≠ ""
  price : 0 < p.price
  found : ∃ q ∈ rows, q.barcode ≠ "" ∧ q.barcode = readBack p.barcode

/-- The stored row `q` once the row of `p` was written over it. -/
def mergedBack (p q : Product) : Product :=
  { q with
    name := readBack p.name
    description := readBack p.description
    category := readBack p.category
    supplier := readBack p.supplier
    cost := p.cost
    price := p.price
    stock := cents p.stock
    minStock := cents p.minStock
    wholesalePrice := 0 }

theorem mergeRow_back (p q : Product) : mergeRow q (backRow p) (Amount.float p.price) = mergedBack p q := by
  have zero : newAmount 0 = 0 := by simp [newAmount]
  simp [mergeRow, backRow, mergedBack, newAmount_float, zero]

@[simp] theorem mergedBack_id (p q : Product) : (mergedBack p q).id = q.id := by
  simp only [mergedBack]

@[simp] theorem mergedBack_barcode (p q : Product) : (mergedBack p q).barcode = q.barcode := by
  simp only [mergedBack]

theorem mergedBack_again (p other q : Product) : mergedBack p (mergedBack other q) = mergedBack p q := by
  simp only [mergedBack]

/-- The last of the rows whose barcode, as read back, is that of `q`. -/
def lastRowFor (q : Product) : Option Product := rows.reverse.find? fun p => readBack p.barcode = q.barcode

/-- What the rows together make of a stored product. -/
def overwritten (q : Product) : Product :=
  match lastRowFor rows q with
  | none => q
  | some p => mergedBack p q

theorem overwritten_key (q : Product) : (overwritten rows q).id = q.id ∧ (overwritten rows q).barcode = q.barcode := by
  cases last : lastRowFor rows q <;> simp [overwritten, last]

theorem lastRowFor_snoc (p q : Product) :
    lastRowFor (rows ++ [p]) q = if readBack p.barcode = q.barcode then some p else lastRowFor rows q := by
  by_cases same : readBack p.barcode = q.barcode <;> simp [lastRowFor, same]

/-- A later row covers all an earlier one wrote. -/
theorem overwritten_snoc (p q : Product) :
    overwritten (rows ++ [p]) q =
      if readBack p.barcode = q.barcode then mergedBack p (overwritten rows q) else overwritten rows q := by
  by_cases same : readBack p.barcode = q.barcode
  · cases last : lastRowFor rows q <;> simp [overwritten, lastRowFor_snoc, same, last, mergedBack_again]
  · simp [overwritten, lastRowFor_snoc, same]

end Rows

section Loop

variable {env : ImportEnv} {db : Inventory} {state : Inventory × CSVImportResult}

theorem findBarcode_listed (rows : List Product) (barcode : String) :
    findBarcode (rows.map Product.listed) barcode = (findBarcode rows barcode).map Product.listed := by
  unfold findBarcode
  split
  · rfl
  · rw [List.find?_map]
    rfl

theorem findBarcode_some {rows : List Product} {barcode : String} {q : Product}
    (h : findBarcode rows barcode = some q) : q ∈ rows ∧ q.barcode ≠ "" ∧ q.barcode = barcode := by
  unfold findBarcode at h
  split at h
  · cases h
  · rename_i nonempty
    have same : q.barcode = barcode := by simpa using List.find?_some h
    exact ⟨List.mem_of_find?_eq_some h, same ▸ nonempty, same⟩

theorem findBarcode_none {rows : List Product} {barcode : String} (h : findBarcode rows barcode = none) :
    ∀ q ∈ rows, q.barcode ≠ "" → q.barcode ≠ barcode := by
  intro q inside nonempty same
  subst same
  rw [findBarcode, if_neg nonempty] at h
  simpa using List.find?_eq_none.mp h q inside

/-- The first two checks of a row, and the search for its product. -/
theorem importRow_returns {rows : List Product} {p : Product} {rowNum : Nat} (returns : Returns rows p) :
    ∃ q ∈ rows, readBack p.barcode = q.barcode ∧ importRow env true (rows.map Product.listed) rowNum (backRow p) state =
      updateRow env rowNum (backRow p) (Amount.float p.price) q.listed state := by
  obtain ⟨q', inside', nonempty, same'⟩ := returns.found
  have positive : (0 : ℚ) < Amount.float p.price := by
    have := returns.price
    simp only [Amount.float]
    positivity
  cases found : findBarcode rows (readBack p.barcode) with
  | none => exact absurd same' (findBarcode_none found q' inside' nonempty)
  | some q =>
    obtain ⟨inside, _, same⟩ := findBarcode_some found
    refine ⟨q, inside, same.symm, ?_⟩
    simp only [importRow, backRow, returns.name, if_false, Option.filter, positive, decide_true, if_true,
      findBarcode_listed, found, Option.map_some]

theorem updateRow_counts (rowNum : Nat) (row : CsvRow) (priceVal : ℚ) (known : Product) :
    (updateRow env rowNum row priceVal known state).2.updated ≤ state.2.updated + 1 := by
  unfold updateRow
  dsimp only
  split <;> simp [CSVImportResult.skip]

theorem createRow_counts (rowNum : Nat) (row : CsvRow) (priceVal : ℚ) :
    (createRow env rowNum row priceVal state).2.updated = state.2.updated := by
  unfold createRow
  dsimp only
  split <;> rfl

/-- A row counts as updated at most once, and only when it returns to a product. -/
theorem importRow_counts {rows : List Product} (p : Product) (rowNum : Nat) :
    (importRow env true (rows.map Product.listed) rowNum (backRow p) state).2.updated ≤ state.2.updated + 1 ∧
    ((importRow env true (rows.map Product.listed) rowNum (backRow p) state).2.updated ≠ state.2.updated →
      Returns rows p) := by
  unfold importRow
  split
  · simp [CSVImportResult.skip]
  · rename_i name
    split
    · simp [CSVImportResult.skip]
    · rename_i priceVal price
      split
      · rename_i q found
        refine ⟨updateRow_counts _ _ _ _, fun _ => ⟨name, ?_, ?_⟩⟩
        · simp only [backRow, Option.filter] at price
          split at price
          · rename_i positive
            have : (0 : ℚ) < (p.price : ℚ) / 100 := by simpa [Amount.float] using positive
            have cents : (0 : ℚ) < p.price := by linarith
            exact_mod_cast cents
          · cases price
        · obtain ⟨member, nonempty, same⟩ := findBarcode_some found
          obtain ⟨q', inside, rfl⟩ := List.mem_map.mp member
          exact ⟨q', inside, nonempty, same⟩
      · rw [createRow_counts]
        exact ⟨by omega, fun other => absurd rfl other⟩

theorem importRows_counts {known : List Product} (rows : List Product) (rowNum : Nat)
    (rowNum' : ∀ p n state, (importRow env true known n (backRow p) state).2.updated ≤ state.2.updated + 1) :
    (importRows env true known rowNum (rows.map backRow) state).2.updated ≤ state.2.updated + rows.length := by
  induction rows generalizing rowNum state with
  | nil => simp [importRows]
  | cons p rows ih =>
    have step := rowNum' p rowNum state
    have rest := @ih (importRow env true known rowNum (backRow p) state) (rowNum + 1)
    simp only [List.map_cons, importRows, List.length_cons]
    omega

/-- When every row counts as updated, every row returns. -/
theorem importRows_all {stored : List Product} (rows : List Product) (rowNum : Nat)
    (all : (importRows env true (stored.map Product.listed) rowNum (rows.map backRow) state).2.updated =
      state.2.updated + rows.length) : ∀ p ∈ rows, Returns stored p := by
  induction rows generalizing rowNum state with
  | nil => simp
  | cons p rows ih =>
    have step := @importRow_counts env state stored p rowNum
    have rest := @importRows_counts env (importRow env true (stored.map Product.listed) rowNum (backRow p) state)
      (stored.map Product.listed) rows (rowNum + 1)
      (fun p n state => (importRow_counts p n).1)
    simp only [List.map_cons, importRows, List.length_cons] at all rest
    intro q member
    rcases List.mem_cons.mp member with rfl | later
    · exact step.2 (by omega)
    · exact @ih (importRow env true (stored.map Product.listed) rowNum (backRow p) state) (rowNum + 1)
        (by omega) q later

/-- One returning row: the product found is rewritten and counted. -/
theorem updateRow_stored {p q current : Product} {rowNum : Nat}
    (stored : state.1.products.find? q.id = some current) :
    let after := updateRow env rowNum (backRow p) (Amount.float p.price) q.listed state
    after.1.products.rows = (state.1.products.toTable.put (mergedBack p current)).rows ∧
      after.2.updated = state.2.updated + 1 ∧ after.2.skipped = state.2.skipped ∧ after.2.imported = state.2.imported := by
  have key : state.1.products.find? (mergedBack p current).id = some current := by
    rw [mergedBack_id, Table.find?_key stored]
    exact stored
  obtain ⟨next, saved, put⟩ := Indexed.save?_stored key (mergedBack_barcode p current)
  have read : state.1.products.find? q.listed.id = some current := stored
  simp only [updateRow, read, Option.getD_some, mergeRow_back, saved]
  exact ⟨congrArg Table.rows put, trivial, trivial, trivial⟩

/-- Returning rows in turn: each stored product is what its last row makes of it. -/
theorem importRows_returning (rest done : List Product) (rowNum : Nat)
    (rows : state.1.products.rows = db.products.rows.map (overwritten done))
    (returning : ∀ p ∈ rest, Returns db.products.rows p) :
    let after := importRows env true (db.products.rows.map Product.listed) rowNum (rest.map backRow) state
    after.1.products.rows = db.products.rows.map (overwritten (done ++ rest)) ∧
      after.2.updated = state.2.updated + rest.length ∧ after.2.skipped = state.2.skipped ∧
      after.2.imported = state.2.imported := by
  induction rest generalizing done rowNum state with
  | nil => simp [importRows, rows]
  | cons p rest ih =>
    obtain ⟨q, inside, barcode, imported⟩ := @importRow_returns env state _ _ rowNum
      (returning p (by simp))
    have current : state.1.products.find? q.id = some (overwritten done q) := by
      rw [Table.find?_mapped (f := overwritten done) (fun r => (overwritten_key done r).1) rows,
        Table.find?_of_mem inside]
      rfl
    obtain ⟨put, updated, skipped, created⟩ := @updateRow_stored env state p _ _ rowNum current
    have next : (updateRow env rowNum (backRow p) (Amount.float p.price) q.listed state).1.products.rows =
        db.products.rows.map (overwritten (done ++ [p])) := by
      rw [put, Table.put_rows, rows, List.map_map]
      refine List.map_congr_left fun r member => ?_
      rw [overwritten_snoc, Function.comp_apply, (overwritten_key done r).1, mergedBack_id, (overwritten_key done q).1]
      -- the barcode names the product, and so does the identifier
      by_cases own : r = q
      · subst own
        rw [if_pos barcode, if_pos rfl]
      · have otherId : ¬ r.id = q.id := fun taken => own (Table.unique_row member inside taken)
        have otherCode : ¬ readBack p.barcode = r.barcode := by
          intro taken
          exact own (List.inj_on_of_nodup_map db.products.unique member inside (taken.symm.trans barcode))
        rw [if_neg otherId, if_neg otherCode]
    have later := ih (done ++ [p]) (rowNum + 1) next (fun r member => returning r (by simp [member]))
    simp only [List.map_cons, importRows, imported, List.length_cons]
    rw [List.append_assoc, List.singleton_append] at later
    obtain ⟨final, counted, refused, added⟩ := later
    exact ⟨final, by omega, by omega, by omega⟩

end Loop

section File

variable {p : Platform} {today : String} {env : ImportEnv} {db : Inventory}

/-- The products exported and the file imported again, with updates. -/
def reimported (p : Platform) (today : String) (env : ImportEnv) (db : Inventory) : Inventory × CSVImportResult :=
  importProductsCSV p env (exportProductsCSV today db).data true db

theorem headers_read : ((csvHeaders.map String.toList).map Csv.dropReturns).map String.ofList = csvHeaders := by
  decide +kernel

/-- The header row names the nine columns in their fixed places. -/
theorem headers_found (uncased : ∀ header ∈ csvHeaders, toLower p header = header) :
    isHeader p csvHeaders = true ∧ colIndices p csvHeaders = fixedIndices := by
  have clean : ∀ header ∈ csvHeaders, cleanCol p header = header := by
    intro header member
    have trimmed : trimSpace header = header := by
      have all : ∀ header ∈ csvHeaders, trimSpace header = header := by decide +kernel
      exact all header member
    rw [cleanCol, trimmed]
    exact uncased header member
  have named : isHeader p csvHeaders = csvHeaders.any fun col => (headerMap.lookup col).isSome := by
    rw [isHeader, Bool.eq_iff_iff, List.any_eq_true, List.any_eq_true]
    constructor
    · rintro ⟨header, member, found⟩
      exact ⟨header, member, clean header member ▸ found⟩
    · rintro ⟨header, member, found⟩
      exact ⟨header, member, (clean header member).symm ▸ found⟩
  have placed : colIndices p csvHeaders =
      csvHeaders.zipIdx.map fun col => ((headerMap.lookup col.1).getD col.1, col.2) := by
    refine List.map_congr_left ?_
    rintro ⟨header, place⟩ member
    have inside : header ∈ csvHeaders := (List.mem_zipIdx' member).2 ▸ List.getElem_mem _
    simp only [clean header inside]
  rw [named, placed]
  exact ⟨by decide +kernel, by decide +kernel⟩

/-- The file read back, record by record. -/
theorem exported_records : Csv.readAll (exportProductsCSV today db).data.toList =
    .ok ((csvHeaders.map String.toList :: db.getAll.map exportRow).map (List.map Csv.dropReturns)) := by
  rw [exportProductsCSV, String.toList_ofList]
  refine @Csv.readAll_writeAll csvWriter _ 9 (by decide) ?_
  intro fields member
  rcases List.mem_cons.mp member with rfl | row
  · rfl
  · obtain ⟨q, _, rfl⟩ := List.mem_map.mp row
    rfl

/-- The importer works through the rows of the table as they come back. -/
theorem reimported_rows (uncased : ∀ header ∈ csvHeaders, toLower p header = header) (some : db.products.rows ≠ []) :
    reimported p today env db =
      let (final, result) := importRows env true (db.products.rows.map Product.listed) 2
        (db.products.rows.map backRow) (db, .start db.products.rows.length)
      (final, result.closed) := by
  obtain ⟨header, indices⟩ := headers_found uncased
  have rows : ((db.getAll.map exportRow).map (List.map Csv.dropReturns)).map (List.map String.ofList) ≠ [] := by
    simpa [Inventory.getAll] using some
  have backs : (((db.getAll.map exportRow).map (List.map Csv.dropReturns)).map (List.map String.ofList)).map
      (readRow fixedIndices) = db.products.rows.map backRow := by
    simp only [Inventory.getAll, List.map_map]
    refine List.map_congr_left fun q _ => ?_
    exact (readRow_exported q.listed).trans rfl
  have count : (((db.getAll.map exportRow).map (List.map Csv.dropReturns)).map (List.map String.ofList)).length =
      db.products.rows.length := by simp [Inventory.getAll]
  simp only [reimported, importProductsCSV, exported_records, List.map_cons, headers_read, header, if_true, rows,
    if_false, indices, importData, backs, count]
  rfl

/-- A table without products is a file without rows, which the importer refuses. -/
theorem reimported_empty (uncased : ∀ header ∈ csvHeaders, toLower p header = header) (none : db.products.rows = []) :
    reimported p today env db = (db, .failed (.plain "الملف لا يحتوي على صفوف بيانات")) := by
  obtain ⟨header, _⟩ := headers_found uncased
  simp only [reimported, importProductsCSV, exported_records, Inventory.getAll, none, List.map_cons, List.map_nil,
    headers_read, header, if_true]

/-- The fields a product list shows, and the wholesale price. -/
def csvFields (q : Product) : String × String × String × Int × Int × Int × ℚ × ℚ :=
  (q.name, q.barcode, q.category, q.price, q.cost, q.wholesalePrice, q.stock, q.minStock)

/-- Every row is an update, none is refused, nothing is added, and no product changes. -/
structure RoundTrips (p : Platform) (today : String) (env : ImportEnv) (db : Inventory) : Prop where
  updated : (reimported p today env db).2.updated = db.products.rows.length
  skipped : (reimported p today env db).2.skipped = 0
  imported : (reimported p today env db).2.imported = 0
  kept : ∀ id, ((reimported p today env db).1.products.find? id).map csvFields =
    (db.products.find? id).map csvFields

/-- The row of `p`, as it comes back, says of `q` what the table says. -/
structure Restores (p q : Product) : Prop where
  name : readBack p.name = q.name
  category : readBack p.category = q.category
  price : p.price = q.price
  cost : p.cost = q.cost
  wholesalePrice : q.wholesalePrice = 0
  stock : cents p.stock = q.stock
  minStock : cents p.minStock = q.minStock

theorem mergedBack_fields (p q : Product) : csvFields (mergedBack p q) = csvFields q ↔ Restores p q := by
  simp only [csvFields, mergedBack, Prod.mk.injEq]
  constructor
  · rintro ⟨name, _, category, price, cost, wholesale, stock, minStock⟩
    exact ⟨name, category, price, cost, wholesale.symm, stock, minStock⟩
  · rintro ⟨name, category, price, cost, wholesale, stock, minStock⟩
    exact ⟨name, trivial, category, price, cost, wholesale.symm, stock, minStock⟩

/-- Every row finds a product, and the last row that finds a product restores it. -/
structure Restorable (rows : List Product) : Prop where
  returns : ∀ p ∈ rows, Returns rows p
  restores : ∀ q ∈ rows, ∀ p ∈ lastRowFor rows q, Restores p q

theorem kept_iff {final : Indexed Product.id Product.barcode}
    (rows : final.rows = db.products.rows.map (overwritten db.products.rows)) :
    (∀ id, (final.find? id).map csvFields = (db.products.find? id).map csvFields) ↔
      ∀ q ∈ db.products.rows, ∀ p ∈ lastRowFor db.products.rows q, Restores p q := by
  have found : ∀ id, final.find? id = (db.products.find? id).map (overwritten db.products.rows) :=
    Table.find?_mapped (fun r => (overwritten_key _ r).1) rows
  constructor
  · intro kept q inside p last
    have same := kept q.id
    rw [found, Table.find?_of_mem inside] at same
    simp only [Option.map_some, Option.some.injEq, overwritten, Option.mem_def.mp last] at same
    exact (mergedBack_fields p q).mp same
  · intro restores id
    rw [found, Option.map_map]
    cases stored : db.products.find? id with
    | none => rfl
    | some q =>
      simp only [Option.map_some, Function.comp_apply, Option.some.injEq]
      cases last : lastRowFor db.products.rows q with
      | none => simp [overwritten, last]
      | some p =>
        simp only [overwritten, last]
        exact (mergedBack_fields p q).mpr (restores q (Table.find?_mem stored) p last)

/-- An export imports back unchanged exactly when its rows restore the table. `uncased`
says that the header texts, which have no case, stay as they are in lower case. -/
theorem csv_round_trip (p : Platform) (today : String) (env : ImportEnv) (db : Inventory)
    (uncased : ∀ header ∈ csvHeaders, toLower p header = header) :
    RoundTrips p today env db ↔ Restorable db.products.rows := by
  by_cases empty : db.products.rows = []
  · have file := @reimported_empty _ today env _ uncased empty
    constructor
    · intro _
      rw [empty]
      exact ⟨by simp, by simp⟩
    · intro _
      refine ⟨?_, ?_, ?_, ?_⟩ <;> rw [file]
      · simp [CSVImportResult.failed, empty]
      · rfl
      · rfl
      · exact fun _ => rfl
  · have file := @reimported_rows _ today env _ uncased empty
    have initial : (db, CSVImportResult.start db.products.rows.length).1.products.rows =
        db.products.rows.map (overwritten []) := by
      have same : overwritten [] = id := rfl
      rw [same, List.map_id]
    have final : (∀ q ∈ db.products.rows, Returns db.products.rows q) →
        (reimported p today env db).1.products.rows = db.products.rows.map (overwritten db.products.rows) ∧
        (reimported p today env db).2.updated = db.products.rows.length ∧
        (reimported p today env db).2.skipped = 0 ∧ (reimported p today env db).2.imported = 0 := by
      intro returning
      obtain ⟨rows, updated, skipped, imported⟩ := @importRows_returning env _ _ db.products.rows [] 2 initial returning
      rw [file]
      exact ⟨rows, updated.trans (Nat.zero_add _), skipped, imported⟩
    constructor
    · intro trips
      have all := trips.updated
      rw [file] at all
      have returning := @importRows_all env (db, .start db.products.rows.length) _ db.products.rows 2
        (all.trans (Nat.zero_add _).symm)
      exact ⟨returning, (kept_iff (final returning).1).mp trips.kept⟩
    · intro restorable
      obtain ⟨rows, updated, skipped, imported⟩ := final restorable.returns
      exact ⟨updated, skipped, imported, (kept_iff rows).mpr restorable.restores⟩

/-- A product whose own row restores it. -/
structure CsvSafe (q : Product) : Prop where
  barcode : readBack q.barcode = q.barcode ∧ q.barcode ≠ ""
  name : readBack q.name = q.name ∧ q.name ≠ ""
  category : readBack q.category = q.category
  price : 0 < q.price
  wholesalePrice : q.wholesalePrice = 0
  stock : cents q.stock = q.stock
  minStock : cents q.minStock = q.minStock

/-- A table of such products is restored row by row. -/
theorem restorable_safe (products : Indexed Product.id Product.barcode) (safe : ∀ q ∈ products.rows, CsvSafe q) :
    Restorable products.rows where
  returns := by
    intro q inside
    have own := safe q inside
    exact ⟨by rw [own.name.1]; exact own.name.2, own.price, q, inside, own.barcode.2, own.barcode.1.symm⟩
  restores := by
    intro q inside p last
    have member : p ∈ products.rows := List.mem_reverse.mp (List.mem_of_find?_eq_some last)
    have barcode : readBack p.barcode = q.barcode := by simpa using List.find?_some last
    have same : p = q := List.inj_on_of_nodup_map products.unique member inside
      ((safe p member).barcode.1.symm.trans barcode)
    subst same
    have own := safe p member
    exact ⟨own.name.1, own.category, rfl, rfl, own.wholesalePrice, own.stock, own.minStock⟩

end File

section Tea

def desk : Platform := ⟨Char.toLower, fun _ _ => .error "", fun _ _ => false⟩

def importer : ImportEnv := ⟨0, fun _ => "fresh"⟩

theorem desk_uncased : ∀ header ∈ csvHeaders, toLower desk header = header := by decide +kernel

/-- A tea with its wholesale price. -/
def wholesaleTea (wholesalePrice : Int) : Inventory :=
  ⟨⟨⟨[⟨"tea", "Tea", "100", 1000, 600, 10, 5/2, "drinks", "", "", wholesalePrice, "", none⟩], by simp⟩, by simp⟩, []⟩

end Tea

/-- The wholesale price has no column, and the import writes zero for it. -/
theorem csv_round_trip_wholesale :
    ¬ RoundTrips desk "2026-01-01" importer (wholesaleTea 800) ∧
    ((reimported desk "2026-01-01" importer (wholesaleTea 800)).1.products.find? "tea").map Product.wholesalePrice =
      some 0 := by
  have lost : ((reimported desk "2026-01-01" importer (wholesaleTea 800)).1.products.find? "tea").map
      Product.wholesalePrice = some 0 := by
    rw [reimported_rows desk_uncased (List.cons_ne_nil _ _)]
    decide +kernel
  refine ⟨?_, lost⟩
  intro trips
  have kept := congrArg (Option.map fun fields : String × String × String × Int × Int × Int × ℚ × ℚ =>
    fields.2.2.2.2.2.1) (trips.kept "tea")
  rw [Option.map_map, Option.map_map] at kept
  exact absurd (lost.symm.trans kept) (by decide +kernel)

theorem csv_round_trip_tea : RoundTrips desk "2026-01-01" importer (wholesaleTea 0) := by
  refine (csv_round_trip desk "2026-01-01" importer (wholesaleTea 0) desk_uncased).mpr (restorable_safe _ ?_)
  intro q inside
  rw [List.mem_singleton.mp inside]
  exact ⟨by decide +kernel, by decide +kernel, by decide +kernel, by decide, rfl, by decide +kernel, by decide +kernel⟩

end BeidarPos
