import BeidarPos.Backup

/-! What a restored backup has in common with the database it was taken of. Reading a
file gives every record back but for what its tags hide; creating the rows gives the
tables back but for the order of the lines, which come sale by sale. So the two agree
where nothing hidden is in the rows. -/
namespace BeidarPos

open Json Relational

section Created

variable {ρ κ ι : Type} [DecidableEq κ] [DecidableEq ι]

theorem createAll_table {key : ρ → κ} {rows : List ρ} (distinct : (rows.map key).Nodup) :
    ∃ t : Table key, createAll Table.insert? rows .empty = some t ∧ t.rows = rows := by
  have each : ∀ front r back, rows = front ++ r :: back →
      ∀ old ∈ (Table.empty : Table key).rows ++ front, key old ≠ key r :=
    fun front r back parts => nodup_before distinct parts
  exact @createAll_rows _ _ _ Table.rows (fun before r => ∀ old ∈ before, key old ≠ key r) Table.insert?_free
    rows .empty each

theorem createAll_indexed {key : ρ → κ} {index : ρ → ι} {rows : List ρ} (distinct : (rows.map key).Nodup)
    (unique : (rows.map index).Nodup) :
    ∃ t : Indexed key index, createAll Indexed.create? rows .empty = some t ∧ t.rows = rows := by
  have each : ∀ front r back, rows = front ++ r :: back →
      ∀ old ∈ (Indexed.empty : Indexed key index).rows ++ front, key old ≠ key r ∧ index old ≠ index r :=
    fun front r back parts old member => ⟨nodup_before distinct parts old member, nodup_before unique parts old member⟩
  exact @createAll_rows _ _ _ (fun t : Indexed key index => t.rows)
    (fun before r => ∀ old ∈ before, key old ≠ key r ∧ index old ≠ index r) Indexed.create?_free rows .empty each

theorem createAll_numbered {key : ρ → Nat} {number : Nat → ρ → ρ} {numbered : ∀ n r, key (number n r) = n}
    {rows : List ρ} (distinct : (rows.map key).Nodup) (positive : ∀ r ∈ rows, key r ≠ 0) :
    ∃ t : Numbered key, createAll (Numbered.create? number numbered) rows .empty = some t ∧ t.rows = rows := by
  have each : ∀ front r back, rows = front ++ r :: back →
      key r ≠ 0 ∧ ∀ old ∈ (Numbered.empty : Numbered key).rows ++ front, key old ≠ key r :=
    fun front r back parts => ⟨positive r (by simp [parts]), nodup_before distinct parts⟩
  exact @createAll_rows _ _ _ (fun t : Numbered key => t.rows)
    (fun before r => key r ≠ 0 ∧ ∀ old ∈ before, key old ≠ key r) Numbered.create?_free rows .empty each

theorem createAll_roster {rows : List Staff} (distinct : (rows.map Staff.id).Nodup)
    (usernames : (rows.map Staff.username).Nodup) :
    ∃ t : Roster, createAll Roster.create? rows .empty = some t ∧ t.rows = rows := by
  have each : ∀ front r back, rows = front ++ r :: back →
      ∀ old ∈ Roster.empty.rows ++ front, old.id ≠ r.id ∧ old.username ≠ r.username :=
    fun front r back parts old member => ⟨nodup_before distinct parts old member, nodup_before usernames parts old member⟩
  exact @createAll_rows _ _ _ (fun t : Roster => t.rows)
    (fun before r => ∀ old ∈ before, old.id ≠ r.id ∧ old.username ≠ r.username) Roster.create?_free rows .empty each

end Created

section ReadBack

/-- A product as its record is read back. -/
def readProduct (p : Product) : Product :=
  { p with customDetails := if emptyDetails p.customDetails then none else p.customDetails }

def readSaleItem (item : SaleItem) : SaleItem := { item with saleID := "" }

def readSaleRow (row : SaleRow) : SaleRow :=
  { row with splitDetails := if emptySplit row.splitDetails then none else row.splitDetails }

def readPreferences (prefs : AppPreferences) : AppPreferences := { prefs with id := 0 }

def readStaff (s : Staff) : Staff := { s with passwordHash := "", fastPIN := "" }

def readOrderItem (item : PurchaseOrderItem) : PurchaseOrderItem := { item with orderID := "" }

theorem productJson_normal (p : Product) : productJson.normal p = readProduct p := by
  cases p
  rfl

theorem saleItemJson_normal (item : SaleItem) : saleItemJson.normal item = readSaleItem item := by
  cases item
  rfl

theorem saleJson_normal (s : Sale) :
    saleJson.normal s = { readSaleRow s.toSaleRow with items := s.items.map readSaleItem } := by
  obtain ⟨⟨⟩, items⟩ := s
  have lines : items.map saleItemJson.normal = items.map readSaleItem :=
    List.map_congr_left (fun item _ => saleItemJson_normal item)
  rw [← lines]
  rfl

theorem preferencesJson_normal (prefs : AppPreferences) : preferencesJson.normal prefs = readPreferences prefs := by
  cases prefs
  rfl

theorem staffJson_normal (s : Staff) : staffJson.normal s = readStaff s := by
  cases s
  rfl

theorem orderItemJson_normal (item : PurchaseOrderItem) : orderItemJson.normal item = readOrderItem item := by
  cases item
  rfl

theorem orderJson_normal (po : PurchaseOrder) :
    orderJson.normal po = { po with items := po.items.map readOrderItem } := by
  obtain ⟨⟨⟩, items⟩ := po
  have lines : items.map orderItemJson.normal = items.map readOrderItem :=
    List.map_congr_left (fun item _ => orderItemJson_normal item)
  rw [← lines]
  rfl

/-- The export as it is read back from a file. -/
def readExport (data : DatabaseExport) : DatabaseExport :=
  { data with
    products := data.products.map readProduct
    sales := data.sales.map fun s => { readSaleRow s.toSaleRow with items := s.items.map readSaleItem }
    preferences := data.preferences.map readPreferences
    staff := data.staff.map readStaff
    purchaseOrders := data.purchaseOrders.map fun po => { po with items := po.items.map readOrderItem }
    purchaseOrderItems := data.purchaseOrderItems.map readOrderItem }

theorem databaseJson_normal (data : DatabaseExport) : databaseJson.normal data = readExport data := by
  have products := funext productJson_normal
  have sales := funext saleJson_normal
  have preferences := funext preferencesJson_normal
  have staff := funext staffJson_normal
  have orders := funext orderJson_normal
  have items := funext orderItemJson_normal
  unfold readExport
  rw [← products, ← sales, ← preferences, ← staff, ← orders, ← items]
  obtain ⟨⟩ := data
  simp [databaseJson, record, Codec.field, Codec.list, Codec.nullable, Codec.exact, customerJson, supplierJson,
    expenseJson, categoryJson, stockMovementJson, paymentJson, parkedSaleJson, shiftJson, cashMovementJson]

end ReadBack

section Restore

/-- The lines of an export, sale by sale: each under the sale it came with. -/
theorem allSaleItems_export (db : Database) :
    allSaleItems (readExport (exportDatabase db)).sales = (db.sales.rows.map SaleRow.id).flatMap db.itemsOf := by
  simp only [allSaleItems, readExport, exportDatabase, List.map_map, List.flatMap_map]
  congr 1
  funext row
  simp only [Function.comp_apply, List.map_map, readSaleRow]
  conv_rhs => rw [← List.map_id (db.itemsOf row.id)]
  apply List.map_congr_left
  intro item member
  have own : item.saleID = row.id := by simpa using (List.mem_filter.mp member).2
  simp [readSaleItem, ← own]

theorem allPurchaseItems_export (db : Database) :
    allPurchaseItems (readExport (exportDatabase db)).purchaseOrders =
      (db.purchaseOrders.rows.map PurchaseOrderRow.id).flatMap db.linesOf := by
  simp only [allPurchaseItems, readExport, exportDatabase, List.map_map, List.flatMap_map]
  congr 1
  funext row
  simp only [Function.comp_apply, List.map_map]
  conv_rhs => rw [← List.map_id (db.linesOf row.id)]
  apply List.map_congr_left
  intro item member
  have own : item.orderID = row.id := by simpa using (List.mem_filter.mp member).2
  simp [readOrderItem, ← own]

theorem items_perm (db : Database) :
    (allSaleItems (readExport (exportDatabase db)).sales).Perm db.saleItems.rows := by
  rw [allSaleItems_export]
  refine Keyed.groups_perm db.sales.distinct ?_
  intro item member
  obtain ⟨row, found⟩ := Option.isSome_iff_exists.mp (db.sound.items item member)
  exact List.mem_map.mpr ⟨row, Table.find?_mem found, Table.find?_key found⟩

theorem lines_perm (db : Database) :
    (allPurchaseItems (readExport (exportDatabase db)).purchaseOrders).Perm db.purchaseOrderItems.rows := by
  rw [allPurchaseItems_export]
  refine Keyed.groups_perm db.purchaseOrders.distinct ?_
  intro line member
  obtain ⟨row, found⟩ := Option.isSome_iff_exists.mp (db.sound.lines line member)
  exact List.mem_map.mpr ⟨row, Table.find?_mem found, Table.find?_key found⟩

/-- What the tables hold after an import of the export of `db`. -/
structure Recreated (db after : Database) : Prop where
  products : after.products.rows = db.products.rows.map readProduct
  sales : after.sales.rows = db.sales.rows.map readSaleRow
  saleItems : after.saleItems.rows.Perm db.saleItems.rows
  customers : after.customers.rows = db.customers.rows
  suppliers : after.suppliers.rows = db.suppliers.rows
  expenses : after.expenses.rows = db.expenses.rows
  categories : after.categories.rows = db.categories.rows
  stockMovements : after.stockMovements.rows = db.stockMovements.rows
  preferences : after.preferences = some (readPreferences (db.preferences.getD .zero)).created
  staff : after.staff.rows = db.staff.rows.map readStaff
  payments : after.payments.rows = db.payments.rows
  parkedSales : after.parkedSales.rows = db.parkedSales.rows
  shifts : after.shifts.rows = db.shifts.rows
  cashMovements : after.cashMovements.rows = db.cashMovements.rows
  purchaseOrders : after.purchaseOrders.rows = db.purchaseOrders.rows
  purchaseOrderItems : after.purchaseOrderItems.rows.Perm db.purchaseOrderItems.rows
  loginAttempts : after.loginAttempts.rows = []

theorem exported_sales (db : Database) :
    (readExport (exportDatabase db)).sales.map Sale.toSaleRow = db.sales.rows.map readSaleRow := by
  simp [readExport, exportDatabase]

theorem exported_orders (db : Database) :
    (readExport (exportDatabase db)).purchaseOrders.map PurchaseOrder.toPurchaseOrderRow = db.purchaseOrders.rows := by
  simp only [readExport, exportDatabase, List.map_map]
  exact List.map_id _

/-- The sale of every line is created, and so is the order of every line. -/
theorem recreated_sound {db : Database} {t : Tables} (sales : t.sales.rows = db.sales.rows.map readSaleRow)
    (items : t.saleItems.rows.Perm db.saleItems.rows) (orders : t.purchaseOrders.rows = db.purchaseOrders.rows)
    (lines : t.purchaseOrderItems.rows.Perm db.purchaseOrderItems.rows) : t.Sound := by
  constructor
  · intro item member
    obtain ⟨row, found⟩ := Option.isSome_iff_exists.mp (db.sound.items item (items.mem_iff.mp member))
    have created : readSaleRow row ∈ t.sales.rows := by
      rw [sales]
      exact List.mem_map_of_mem (Table.find?_mem found)
    have stored := Table.find?_of_mem created
    have key : row.id = item.saleID := Table.find?_key found
    have same : (readSaleRow row).id = row.id := rfl
    rw [same, key] at stored
    simp [stored]
  · intro line member
    obtain ⟨row, found⟩ := Option.isSome_iff_exists.mp (db.sound.lines line (lines.mem_iff.mp member))
    have created : row ∈ t.purchaseOrders.rows := by
      rw [orders]
      exact Table.find?_mem found
    have stored := Table.find?_of_mem created
    rw [Table.find?_key found] at stored
    simp [stored]

/-- No row of an export is refused, whatever the database held before. -/
theorem import_recreates (db target : Database) :
    ∃ after, importDatabase (readExport (exportDatabase db)) target = .ok after ∧ Recreated db after := by
  obtain ⟨categories, c₁, categoryRows⟩ := createAll_indexed db.categories.distinct db.categories.unique
  obtain ⟨suppliers, c₂, supplierRows⟩ := createAll_table db.suppliers.distinct
  obtain ⟨customers, c₃, customerRows⟩ := createAll_table db.customers.distinct
  have productIDs : ((db.products.rows.map readProduct).map Product.id).Nodup := by
    simpa [Function.comp_def, readProduct] using db.products.distinct
  have barcodes : ((db.products.rows.map readProduct).map Product.barcode).Nodup := by
    simpa [Function.comp_def, readProduct] using db.products.unique
  obtain ⟨products, c₄, productRows⟩ := createAll_indexed productIDs barcodes
  have saleIDs : ((db.sales.rows.map readSaleRow).map SaleRow.id).Nodup := by
    simpa [Function.comp_def, readSaleRow] using db.sales.distinct
  obtain ⟨sales, c₅, saleRows⟩ := createAll_table saleIDs
  have items := items_perm db
  obtain ⟨saleItems, c₆, itemRows⟩ := @createAll_numbered _ _ SaleItem.withID (fun _ _ => rfl) _
    ((items.map SaleItem.id).nodup_iff.mpr db.saleItems.distinct)
    (fun item member => db.saleItems.positive item (items.mem_iff.mp member))
  obtain ⟨expenses, c₇, expenseRows⟩ := createAll_table db.expenses.distinct
  obtain ⟨stockMovements, c₈, movementRows⟩ := @createAll_numbered _ _ StockMovementRow.withID (fun _ _ => rfl) _
    db.stockMovements.distinct db.stockMovements.positive
  have staffIDs : ((db.staff.rows.map readStaff).map Staff.id).Nodup := by
    simpa [Function.comp_def, readStaff] using db.staff.distinct
  have usernames : ((db.staff.rows.map readStaff).map Staff.username).Nodup := by
    simpa [Function.comp_def, readStaff] using db.staff.usernames
  obtain ⟨staff, c₉, staffRows⟩ := createAll_roster staffIDs usernames
  obtain ⟨payments, c₁₀, paymentRows⟩ := @createAll_numbered _ _ Payment.withID (fun _ _ => rfl) _
    db.payments.distinct db.payments.positive
  obtain ⟨parkedSales, c₁₁, parkedRows⟩ := @createAll_numbered _ _ ParkedSale.withID (fun _ _ => rfl) _
    db.parkedSales.distinct db.parkedSales.positive
  obtain ⟨shifts, c₁₂, shiftRows⟩ := createAll_table db.shifts.distinct
  obtain ⟨cashMovements, c₁₃, cashRows⟩ := createAll_table db.cashMovements.distinct
  obtain ⟨orders, c₁₄, orderRows⟩ := createAll_table db.purchaseOrders.distinct
  have lines := lines_perm db
  obtain ⟨orderItems, c₁₅, lineRows⟩ := @createAll_numbered _ _ PurchaseOrderItem.withID (fun _ _ => rfl) _
    ((lines.map PurchaseOrderItem.id).nodup_iff.mpr db.purchaseOrderItems.distinct)
    (fun line member => db.purchaseOrderItems.positive line (lines.mem_iff.mp member))
  rw [← itemRows] at items
  rw [← lineRows] at lines
  refine ⟨⟨⟨products, sales, saleItems, customers, suppliers, expenses, payments, categories, stockMovements,
    some (readPreferences (db.preferences.getD .zero)).created, parkedSales, .empty, staff, shifts, cashMovements, orders,
    orderItems⟩, target.auditLogs, recreated_sound saleRows items orderRows lines⟩, ?_, ?_⟩
  · unfold importDatabase
    rw [exported_sales, exported_orders]
    simp only [c₆, c₁₅]
    simp only [readExport, exportDatabase, createdAll, c₁, c₂, c₃, c₄, c₅, c₇, c₈, c₉, c₁₀, c₁₁, c₁₂, c₁₃, c₁₄, bind,
      Except.bind, Option.getD_some, Option.map_some]
    exact dif_pos (recreated_sound saleRows items orderRows lines)
  · exact ⟨productRows, saleRows, items, customerRows, supplierRows, expenseRows, categoryRows, movementRows, rfl,
      staffRows, paymentRows, parkedRows, shiftRows, cashRows, orderRows, lines, rfl⟩

end Restore

/-- Restoring the file of a backup leaves the rows the backup exported. -/
theorem restore_recreates {source target : Desktop} {filename : String} (snapshot : String)
    (kept : target.file filename = (source.createBackup filename).file filename) :
    ∃ after, target.restoreBackup filename snapshot = (.ok (), after) ∧ Recreated source.db after.db := by
  have content : target.file filename = some (databaseJson.encode (exportDatabase source.db)) := by
    rw [kept]
    simp [Desktop.file, Desktop.createBackup]
  obtain ⟨after, imported, recreated⟩ := import_recreates source.db (target.createBackup snapshot).db
  refine ⟨{ target.createBackup snapshot with db := after }, ?_, recreated⟩
  simp only [Desktop.restoreBackup, content, databaseJson.law, databaseJson_normal, imported]

/-- The tables a backup promises to give back, and who could sign in still can. -/
structure Restored (p : Platform) (before after : Database) : Prop where
  products : ∀ r, r ∈ after.products.rows ↔ r ∈ before.products.rows
  customers : ∀ r, r ∈ after.customers.rows ↔ r ∈ before.customers.rows
  sales : ∀ r, r ∈ after.sales.rows ↔ r ∈ before.sales.rows
  saleItems : ∀ r, r ∈ after.saleItems.rows ↔ r ∈ before.saleItems.rows
  staff : ∀ r, r ∈ after.staff.rows ↔ r ∈ before.staff.rows
  payments : ∀ r, r ∈ after.payments.rows ↔ r ∈ before.payments.rows
  purchaseOrders : ∀ r, r ∈ after.purchaseOrders.rows ↔ r ∈ before.purchaseOrders.rows
  purchaseOrderItems : ∀ r, r ∈ after.purchaseOrderItems.rows ↔ r ∈ before.purchaseOrderItems.rows
  shifts : ∀ r, r ∈ after.shifts.rows ↔ r ∈ before.shifts.rows
  preferences : after.preferences = before.preferences
  signIn : ∀ now later username password, authenticatesByUsername p now before username password = true →
    authenticatesByUsername p later after username password = true

/-- Nothing in the rows is hidden from a backup, nor told apart from what is left out:
no account has a password or a PIN. -/
structure Exportable (db : Database) : Prop where
  details : ∀ product ∈ db.products.rows, product.customDetails ≠ some "{}"
  legs : ∀ sale ∈ db.sales.rows, ∀ split, sale.splitDetails = some split → split.legs ≠ []
  accounts : ∀ account ∈ db.staff.rows, account.passwordHash = "" ∧ account.fastPIN = ""
  preferences : ∃ prefs, db.preferences = some prefs ∧ prefs.id = 1 ∧ prefs.aiProvider ≠ "" ∧ prefs.aiModel ≠ "" ∧
    prefs.aiRotationMode ≠ ""

/-- A row that is not changed by being read back. -/
theorem mem_map_fixed {ρ : Type} {f : ρ → ρ} {rows : List ρ} (fixed : ∀ r ∈ rows, f r = r) : rows.map f = rows := by
  conv_rhs => rw [← List.map_id rows]
  exact List.map_congr_left fixed

theorem readProduct_fixed (p : Product) : readProduct p = p ↔ p.customDetails ≠ some "{}" := by
  obtain ⟨_, _, _, _, _, _, _, _, _, _, _, _, details⟩ := p
  simp only [readProduct, emptyDetails, Product.mk.injEq, true_and, Bool.or_eq_true, decide_eq_true_eq]
  split <;> grind

theorem readSaleRow_fixed (row : SaleRow) :
    readSaleRow row = row ↔ ∀ split, row.splitDetails = some split → split.legs ≠ [] := by
  obtain ⟨_, _, _, _, _, _, _, _, _, _, _, _, _, _, details, _, _, _, _⟩ := row
  simp only [readSaleRow, emptySplit, SaleRow.mk.injEq, true_and, and_true]
  cases details with
  | none => simp
  | some split => cases legs : split.legs <;> simp [legs]

theorem readStaff_fixed (s : Staff) : readStaff s = s ↔ s.passwordHash = "" ∧ s.fastPIN = "" := by
  obtain ⟨_, _, _, hash, _, _, _, _, _, _, _, _, _, pin⟩ := s
  simp only [readStaff, Staff.mk.injEq, true_and]
  exact ⟨fun h => ⟨h.1.symm, h.2.symm⟩, fun h => ⟨h.1.symm, h.2.symm⟩⟩

theorem fixed_of_same {ρ : Type} {f : ρ → ρ} {rows : List ρ} (again : ∀ r, f (f r) = f r)
    (same : ∀ r, r ∈ rows.map f ↔ r ∈ rows) : ∀ r ∈ rows, f r = r := by
  intro r member
  obtain ⟨q, _, read⟩ := List.mem_map.mp ((same r).mpr member)
  rw [← read, again]

theorem readProduct_again (p : Product) : readProduct (readProduct p) = readProduct p := by
  rw [readProduct_fixed]
  simp only [readProduct, emptyDetails, Bool.or_eq_true, decide_eq_true_eq]
  split <;> grind

theorem readSaleRow_again (row : SaleRow) : readSaleRow (readSaleRow row) = readSaleRow row := by
  rw [readSaleRow_fixed]
  intro split details legs
  simp only [readSaleRow] at details
  split at details
  · cases details
  · rename_i full
    rw [details] at full
    simp [emptySplit, legs] at full

theorem readStaff_again (s : Staff) : readStaff (readStaff s) = readStaff s := rfl

/-- Signing in reads the accounts and the running locks; an import leaves no lock. -/
theorem recreated_signIn {p : Platform} {db after : Database} (recreated : Recreated db after)
    (accounts : after.staff.rows = db.staff.rows) (now later : Int) (username password : String)
    (before : authenticatesByUsername p now db username password = true) :
    authenticatesByUsername p later after username password = true := by
  simp only [authenticatesByUsername, Bool.and_eq_true] at before ⊢
  refine ⟨?_, ?_⟩
  · simp [Table.find?, recreated.loginAttempts]
  · simpa [Roster.findUsername, accounts] using before.2

theorem recreated_restored {p : Platform} {db after : Database} (recreated : Recreated db after) :
    Restored p db after ↔ Exportable db := by
  constructor
  · intro restored
    refine ⟨?_, ?_, ?_, ?_⟩
    · have same := restored.products
      rw [recreated.products] at same
      exact fun product member => (readProduct_fixed product).mp (fixed_of_same readProduct_again same product member)
    · have same := restored.sales
      rw [recreated.sales] at same
      exact fun sale member => (readSaleRow_fixed sale).mp (fixed_of_same readSaleRow_again same sale member)
    · have same := restored.staff
      rw [recreated.staff] at same
      exact fun account member => (readStaff_fixed account).mp (fixed_of_same readStaff_again same account member)
    · refine ⟨_, recreated.preferences.symm.trans restored.preferences |>.symm, rfl, ?_, ?_, ?_⟩
      all_goals
        simp only [AppPreferences.created]
        split <;> simp_all
  · intro exportable
    have products := mem_map_fixed fun r member => (readProduct_fixed r).mpr (exportable.details r member)
    have sales := mem_map_fixed fun r member => (readSaleRow_fixed r).mpr (exportable.legs r member)
    have staff := mem_map_fixed fun r member => (readStaff_fixed r).mpr (exportable.accounts r member)
    obtain ⟨prefs, stored, row, provider, model, rotation⟩ := exportable.preferences
    have accounts : after.staff.rows = db.staff.rows := recreated.staff.trans staff
    refine ⟨?_, ?_, ?_, ?_, ?_, ?_, ?_, ?_, ?_, ?_, recreated_signIn recreated accounts⟩
    · simp [recreated.products, products]
    · simp [recreated.customers]
    · simp [recreated.sales, sales]
    · exact fun r => recreated.saleItems.mem_iff
    · simp [accounts]
    · simp [recreated.payments]
    · simp [recreated.purchaseOrders]
    · exact fun r => recreated.purchaseOrderItems.mem_iff
    · simp [recreated.shifts]
    · rw [recreated.preferences, stored]
      simp [AppPreferences.created, readPreferences, provider, model, rotation, ← row]

def counterDesk : Platform := ⟨Char.toLower, fun salt password => .ok (salt ++ "$" ++ password),
  fun hash password => hash = "salt" ++ "$" ++ password⟩

def mona : Staff :=
  { staffJson.zero with id := "s1", name := "Mona", username := "mona", passwordHash := "salt$secret", role := .admin, active := true }

/-- A new shop: its preferences as they are installed, and one administrator. -/
def newShop : Database where
  products := .empty
  sales := .empty
  saleItems := .empty
  customers := .empty
  suppliers := .empty
  expenses := .empty
  payments := .empty
  categories := .empty
  stockMovements := .empty
  preferences := some { AppPreferences.zero with
    id := 1, aiProvider := "gemini", aiModel := "gemma-4-31b-it", aiRotationMode := "failover" }
  parkedSales := .empty
  loginAttempts := .empty
  staff := ⟨⟨[mona], by decide⟩, by decide⟩
  shifts := .empty
  cashMovements := .empty
  purchaseOrders := .empty
  purchaseOrderItems := .empty
  auditLogs := []
  sound := by decide

end BeidarPos
