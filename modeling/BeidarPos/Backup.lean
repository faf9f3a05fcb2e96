import BeidarPos.DatabaseExport

/-! Backup files and their restoration. A backup is the export of every table as JSON; a
restoration takes a snapshot of the data it is about to replace, drops the tables and
creates the rows of the file one batch after another, in one transaction. -/
namespace BeidarPos

open Json Relational

structure LoginAttempt where
  identifier : String
  attempts : Int
  lastAttempt : Int
  lockedUntil : Int
  deriving DecidableEq

/-- The tables a backup is about. -/
structure Tables where
  products : Indexed Product.id Product.barcode
  sales : Table SaleRow.id
  saleItems : Numbered SaleItem.id
  customers : Table Customer.id
  suppliers : Table Supplier.id
  expenses : Table Expense.id
  payments : Numbered Payment.id
  categories : Indexed Category.id Category.name
  stockMovements : Numbered StockMovementRow.id
  preferences : Option AppPreferences
  parkedSales : Numbered ParkedSale.id
  loginAttempts : Table LoginAttempt.identifier
  staff : Roster
  shifts : Table Shift.id
  cashMovements : Table CashMovement.id
  purchaseOrders : Table PurchaseOrderRow.id
  purchaseOrderItems : Numbered PurchaseOrderItem.id

/-- Foreign keys: a line belongs to a sale, or to an order, that is there. -/
structure Tables.Sound (t : Tables) : Prop where
  items : ∀ item ∈ t.saleItems.rows, (t.sales.find? item.saleID).isSome
  lines : ∀ line ∈ t.purchaseOrderItems.rows, (t.purchaseOrders.find? line.orderID).isSome

instance (t : Tables) : Decidable t.Sound :=
  decidable_of_iff ((∀ item ∈ t.saleItems.rows, (t.sales.find? item.saleID).isSome) ∧
      ∀ line ∈ t.purchaseOrderItems.rows, (t.purchaseOrders.find? line.orderID).isSome)
    ⟨fun h => ⟨h.1, h.2⟩, fun h => ⟨h.items, h.lines⟩⟩

/-- The database; a restoration does not touch the audit log. -/
structure Database extends Tables where
  auditLogs : List AuditLog
  sound : toTables.Sound

namespace Database

variable (db : Database)

def itemsOf (saleID : String) : List SaleItem := db.saleItems.rows.filter (fun item => item.saleID = saleID)

def linesOf (orderID : String) : List PurchaseOrderItem :=
  db.purchaseOrderItems.rows.filter (fun line => line.orderID = orderID)

end Database

def AppPreferences.zero : AppPreferences := preferencesJson.zero

/-- `Export`: when there is no row of preferences, the zero ones are written. -/
def exportDatabase (db : Database) : DatabaseExport where
  products := db.products.rows
  sales := db.sales.rows.map fun row => { row with items := db.itemsOf row.id }
  customers := db.customers.rows
  suppliers := db.suppliers.rows
  expenses := db.expenses.rows
  categories := db.categories.rows
  stockMovements := db.stockMovements.rows
  preferences := some (db.preferences.getD .zero)
  staff := db.staff.rows
  payments := db.payments.rows
  parkedSales := db.parkedSales.rows
  shifts := db.shifts.rows
  cashMovements := db.cashMovements.rows
  purchaseOrders := db.purchaseOrders.rows.map fun row => { row with items := db.linesOf row.id }
  purchaseOrderItems := db.purchaseOrderItems.rows

/-- The row an insert makes: a number of its own, and the column's default for an empty
value. -/
def AppPreferences.created (prefs : AppPreferences) : AppPreferences :=
  { prefs with
    id := if prefs.id = 0 then 1 else prefs.id
    aiProvider := if prefs.aiProvider = "" then "gemini" else prefs.aiProvider
    aiModel := if prefs.aiModel = "" then "gemma-4-31b-it" else prefs.aiModel
    aiRotationMode := if prefs.aiRotationMode = "" then "failover" else prefs.aiRotationMode }

/-- A batch that is refused fails the whole import. -/
def createdAll {T : Type} (table : String) : Option T → Except Failure T
  | some t => .ok t
  | none => .error (.constraint table)

def allSaleItems (sales : List Sale) : List SaleItem :=
  sales.flatMap fun s => s.items.map fun item => { item with saleID := s.id }

def allPurchaseItems (orders : List PurchaseOrder) : List PurchaseOrderItem :=
  orders.flatMap fun po => po.items.map fun item => { item with orderID := po.id }

def SaleItem.withID (n : Nat) (item : SaleItem) : SaleItem := { item with id := n }

def Payment.withID (n : Nat) (p : Payment) : Payment := { p with id := n }

def StockMovementRow.withID (n : Nat) (m : StockMovementRow) : StockMovementRow := { m with id := n }

def ParkedSale.withID (n : Nat) (p : ParkedSale) : ParkedSale := { p with id := n }

def PurchaseOrderItem.withID (n : Nat) (line : PurchaseOrderItem) : PurchaseOrderItem := { line with id := n }

/-- `Import`: categories and suppliers that are refused are passed over. -/
def importDatabase (data : DatabaseExport) (db : Database) : Except Failure Database := do
  let categories := (createAll Indexed.create? data.categories .empty).getD .empty
  let suppliers := (createAll Table.insert? data.suppliers .empty).getD .empty
  let customers ← createdAll "customers" (createAll Table.insert? data.customers .empty)
  let products ← createdAll "products" (createAll Indexed.create? data.products .empty)
  let sales ← createdAll "sales" (createAll Table.insert? (data.sales.map Sale.toSaleRow) .empty)
  let saleItems ← createdAll "sale_items"
    (createAll (Numbered.create? SaleItem.withID fun _ _ => rfl) (allSaleItems data.sales) .empty)
  let expenses ← createdAll "expenses" (createAll Table.insert? data.expenses .empty)
  let stockMovements ← createdAll "stock_movements"
    (createAll (Numbered.create? StockMovementRow.withID fun _ _ => rfl) data.stockMovements .empty)
  let staff ← createdAll "staffs" (createAll Roster.create? data.staff .empty)
  let payments ← createdAll "payments"
    (createAll (Numbered.create? Payment.withID fun _ _ => rfl) data.payments .empty)
  let parkedSales ← createdAll "parked_sales"
    (createAll (Numbered.create? ParkedSale.withID fun _ _ => rfl) data.parkedSales .empty)
  let shifts ← createdAll "shifts" (createAll Table.insert? data.shifts .empty)
  let cashMovements ← createdAll "cash_movements" (createAll Table.insert? data.cashMovements .empty)
  let purchaseOrders ← createdAll "purchase_orders"
    (createAll Table.insert? (data.purchaseOrders.map PurchaseOrder.toPurchaseOrderRow) .empty)
  let purchaseOrderItems ← createdAll "purchase_order_items"
    (createAll (Numbered.create? PurchaseOrderItem.withID fun _ _ => rfl) (allPurchaseItems data.purchaseOrders) .empty)
  let tables : Tables :=
    { products, sales, saleItems, customers, suppliers, expenses, payments, categories, stockMovements
      preferences := data.preferences.map AppPreferences.created
      parkedSales
      loginAttempts := .empty
      staff, shifts, cashMovements, purchaseOrders, purchaseOrderItems }
  if sound : tables.Sound then .ok ⟨tables, db.auditLogs, sound⟩ else .error (.constraint "foreign key")

/-- The program's data and the files of its backup directory, the newest first. -/
structure Desktop where
  db : Database
  backups : List (String × Value JsonText)

namespace Desktop

def file (d : Desktop) (path : String) : Option (Value JsonText) := Keyed.valueOf d.backups path

def createBackup (filename : String) (d : Desktop) : Desktop :=
  { d with backups := (filename, databaseJson.encode (exportDatabase d.db)) :: d.backups }

/-- `snapshot` is the name of the backup taken before the data is replaced. -/
def restoreBackup (path snapshot : String) (d : Desktop) : Except Failure Unit × Desktop :=
  match d.file path with
  | none => (.error (.plain (.plain "فشل قراءة ملف النسخة")), d)
  | some content =>
    match databaseJson.decode content with
    | none => (.error (.plain (.plain "فشل تحليل البيانات")), d)
    | some dbExport =>
      let saved := d.createBackup snapshot
      match importDatabase dbExport saved.db with
      | .error e => (.error (.wrapped (.plain "فشل استيراد البيانات") e), saved)
      | .ok db => (.ok (), { saved with db := db })

end Desktop

/-- `AuthenticateByUsername` answers with success: no lock is running, and the account is
active and its hash is that of the password. -/
def authenticatesByUsername (p : Platform) (now : Int) (db : Database) (username password : String) : Bool :=
  let username := toLower p (trimSpace username)
  let locked := (db.loginAttempts.find? username).any fun attempt => now < attempt.lockedUntil
  !locked && (db.staff.findUsername username).any fun staff =>
    staff.active && p.verifies staff.passwordHash password

end BeidarPos
