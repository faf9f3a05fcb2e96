import BeidarPos.Crm
import BeidarPos.OrderConcurrency
import BeidarPos.ParkedSales
import BeidarPos.ReturnsPossible

/-! The desktop's handlers. A method checks the session, then asks the LAN service whether the
machine is a client of another one, and if it is, sends the call to the server instead of
doing the work here; several methods that write never ask. A handler works for whatever
services it was built with; of what a method returns, only its error is kept here. -/
namespace BeidarPos

open Machine Relational Journal Tx

/-- The tables of this machine that the services behind the handlers write. -/
structure LocalTables where
  depot : Depot
  expenses : Table Expense.id
  categories : List Category
  parkedSales : ParkedSales

/-- The tables of the business among them. -/
structure BusinessTables where
  products : Table Product.id
  customers : Table Customer.id
  sales : Table SaleRow.id
  saleItems : Serial SaleItem.id
  parkedSales : ParkedSales
  payments : Serial Payment.id
  expenses : Table Expense.id
  shifts : Table Shift.id
  cashMovements : Table CashMovement.id
  suppliers : Table Supplier.id
  purchaseOrders : Table PurchaseOrderRow.id
  purchaseOrderItems : Serial PurchaseOrderItem.id
  deriving DecidableEq

def LocalTables.business (t : LocalTables) : BusinessTables where
  products := t.depot.store.products
  customers := t.depot.store.customers
  sales := t.depot.store.sales
  saleItems := t.depot.store.saleItems
  parkedSales := t.parkedSales
  payments := t.depot.store.payments
  expenses := t.expenses
  shifts := t.depot.store.shifts
  cashMovements := t.depot.store.cashMovements
  suppliers := t.depot.suppliers
  purchaseOrders := t.depot.purchaseOrders
  purchaseOrderItems := t.depot.purchaseOrderItems

section Session

def PermSales : String := "sales"
def PermProducts : String := "products"
def PermInventory : String := "inventory"
def PermCustomers : String := "customers"
def PermFinance : String := "finance"
def PermSettings : String := "settings"
def PermDeleteSales : String := "delete_sales"

structure SessionSnapshot where
  staff : Staff
  permissions : List String

namespace SessionSnapshot

variable (snap : SessionSnapshot)

def hasPermission (perm : String) : Bool :=
  if snap.staff.role = .admin then true else snap.permissions.contains perm

/-- `CurrentActor`; it never has a device. -/
def actor : Actor := ⟨true, snap.staff.id, "", snap.staff.role, snap.permissions⟩

end SessionSnapshot

/-- The session, if somebody is logged in and it has not expired. -/
abbrev Session := Option SessionSnapshot

abbrev SessionCheck := Session → Except Failure Unit

def Session.actor : Session → Actor
  | none => ⟨false, "", "", .other "" (by decide), []⟩
  | some snap => snap.actor

def requirePermission (perm : String) : SessionCheck
  | none => .error .notAuthenticated
  | some snap => if snap.hasPermission perm then .ok () else .error .insufficientPermission

def requireAdmin : SessionCheck
  | none => .error .notAuthenticated
  | some snap => if snap.staff.role = .admin then .ok () else .error .insufficientPermission

/-- The second check only when there is cause for it. -/
def SessionCheck.andWhen (first : SessionCheck) (cause : Prop) [Decidable cause] (second : SessionCheck) : SessionCheck :=
  fun session => do
    first session
    if cause then second session else .ok ()

end Session

section Remote

inductive RemoteVerb where
  | post | delete

/-- What a call carries to the server. -/
inductive RemoteBody where
  | none
  | sale (sale : Sale)
  | saleID (id : String)
  | returnedItem (saleID productID : String) (quantity : ℚ)
  | expense (expense : Expense)
  | category (category : Category)
  | preferences (prefs : AppPreferences)
  | customer (customer : Customer)
  | supplier (supplier : Supplier)
  | product (product : Product)
  | movement (productID productName type : String) (qty : ℚ) (reason : String)

structure RemoteCall where
  verb : RemoteVerb
  endpoint : String
  body : RemoteBody

structure RemoteAnswer where
  status : Nat
  body : String

/-- The LAN service as the handlers see it; `server` is whatever answers a call, or the
error of the connection. -/
structure LanLink where
  clientMode : Bool
  serverAddress : String
  sessionToken : String
  server : RemoteCall → Except String RemoteAnswer

/-- `RemotePost` and `RemoteDelete`, which differ in the verb. -/
def LanLink.send (lan : LanLink) (call : RemoteCall) : Except Failure Unit :=
  if lan.serverAddress = "" ∨ lan.sessionToken = "" then .error (.plain (.plain "غير متصل بالسيرفر"))
  else
    match lan.server call with
    | .error cause => .error (.plain (.plain cause))
    | .ok answer =>
      if answer.status = 401 then .error (.plain (.plain "جلسة غير صالحة - أعد الاتصال"))
      else if answer.status ≠ 200 then .error (.plain (.format "server error: %s" [.text answer.body]))
      else .ok ()

/-- What a method finds when it is called: the session, the LAN service and the clock. -/
structure Desk where
  session : Session
  lan : LanLink
  env : Env

/-- A call of a service: its error, if it fails, and the tables after it. -/
abbrev Work := Desk → LocalTables → Except Failure Unit × LocalTables

/-- The work that does nothing. -/
instance : Inhabited Work := ⟨fun _ t => (.ok (), t)⟩

/-- A method of a handler: its check of the session, the call it sends when the machine is
a client, `none` where it does not ask, and the work of its service. -/
structure Handled where
  check : SessionCheck
  forward : Option RemoteCall
  work : Work

def Handled.run (h : Handled) : Work := fun desk t =>
  match h.check desk.session with
  | .error e => (.error e, t)
  | .ok () =>
    match h.forward with
    | some call => if desk.lan.clientMode then (desk.lan.send call, t) else h.work desk t
    | none => h.work desk t

def RemotePost (endpoint : String) (body : RemoteBody) : Option RemoteCall := some ⟨.post, endpoint, body⟩

def RemoteDelete (endpoint : String) : Option RemoteCall := some ⟨.delete, endpoint, .none⟩

end Remote

section Services

structure SaleService where
  processSale : Sale → Work
  returnSale : String → Work
  returnSalePartial : String → String → ℚ → Work
  deleteSale : String → Work
  parkSale : ParkInput → Work
  retrieveParkedSale : Nat → Work
  deleteParkedSale : Nat → Work
  deriving Inhabited

structure PaymentService where
  createPayment : Payment → Work
  createPaymentForced : Payment → Work
  deletePayment : Nat → Work
  payInstallment : String → Int → Int → PaymentMethod → Work
  deriving Inhabited

structure FinanceService where
  saveExpense : Expense → Work
  deleteExpense : String → Work
  saveCategory : Category → Work
  deleteCategory : String → Bool → Work
  updatePreferences : AppPreferences → Work
  openShift : String → String → Int → Work
  closeShift : String → Int → String → Work
  addCashMovement : String → MoveType → String → String → String → Int → Work
  createPurchaseOrder : PurchaseOrder → Work
  updatePurchaseOrder : PurchaseOrder → Work
  deletePurchaseOrder : String → Work
  cancelPurchaseOrder : String → Work
  receivePurchaseOrder : String → List PurchaseOrderItem → Work
  payPurchaseOrder : String → Int → String → Work
  deriving Inhabited

structure CRMService where
  saveCustomer : Customer → Work
  deleteCustomer : String → Bool → Work
  saveSupplier : Supplier → Work
  deleteSupplier : String → Bool → Work
  deriving Inhabited

structure ProductService where
  createProduct : Product → Work
  updateProduct : Product → Work
  deleteProduct : String → Work
  logStockMovement : String → String → String → ℚ → String → Work
  deriving Inhabited

structure BackupService where
  restoreBackup : String → Work
  resetDatabase : Work
  importDatabase : DatabaseExport → Work
  importProductsCSV : String → Bool → Work
  migrateImagesToFilesystem : Work
  deriving Inhabited

/-- Setting up the book-keeping integration marks sales as synced. -/
structure CloudService where
  restoreCloudBackup : String → Work
  setupZohoIntegration : String → String → String → Work
  deriving Inhabited

structure Services where
  sale : SaleService
  payment : PaymentService
  finance : FinanceService
  crm : CRMService
  product : ProductService
  backup : BackupService
  cloud : CloudService
  deriving Inhabited

end Services

namespace SaleHandler

variable (saleService : SaleService)

/-- Any discount, on the invoice or on a line, needs its own permission. -/
def processSale (sale : Sale) : Handled where
  check := (requirePermission PermSales).andWhen (0 < sale.discount ∨ ∃ item ∈ sale.items, 0 < item.discount)
    (requirePermission PermDiscounts)
  forward := RemotePost "/api/sales/process" (.sale sale)
  work := saleService.processSale sale

def returnSale (id : String) : Handled where
  check := requirePermission PermDeleteSales
  forward := RemotePost "/api/sales/return" (.saleID id)
  work := saleService.returnSale id

def returnSalePartial (saleID productID : String) (qtyToReturn : ℚ) : Handled where
  check := requirePermission PermDeleteSales
  forward := RemotePost "/api/sales/return-partial" (.returnedItem saleID productID qtyToReturn)
  work := saleService.returnSalePartial saleID productID qtyToReturn

def deleteSale (id : String) : Handled where
  check := requirePermission PermDeleteSales
  forward := RemoteDelete ("/api/sales?id=" ++ id)
  work := saleService.deleteSale id

def parkSale (input : ParkInput) : Handled where
  check := requirePermission PermSales
  forward := none
  work := saleService.parkSale input

def retrieveParkedSale (id : Nat) : Handled where
  check := requirePermission PermSales
  forward := none
  work := saleService.retrieveParkedSale id

def deleteParkedSale (id : Nat) : Handled where
  check := requirePermission PermSales
  forward := none
  work := saleService.deleteParkedSale id

end SaleHandler

/-! This handler is built without the LAN service. -/
namespace PaymentHandler

variable (paymentService : PaymentService)

def createPayment (payment : Payment) : Handled where
  check := requirePermission PermSales
  forward := none
  work := paymentService.createPayment payment

def createPaymentForced (payment : Payment) : Handled where
  check := requirePermission PermFinance
  forward := none
  work := paymentService.createPaymentForced payment

def deletePayment (id : Nat) : Handled where
  check := requirePermission PermDeleteSales
  forward := none
  work := paymentService.deletePayment id

def payInstallment (saleID : String) (installmentIndex amount : Int) (method : PaymentMethod) : Handled where
  check := requirePermission PermSales
  forward := none
  work := paymentService.payInstallment saleID installmentIndex amount method

end PaymentHandler

namespace FinanceHandler

variable (financeService : FinanceService)

def saveExpense (e : Expense) : Handled where
  check := requirePermission PermFinance
  forward := RemotePost "/api/expenses" (.expense e)
  work := financeService.saveExpense e

def deleteExpense (id : String) : Handled where
  check := requirePermission PermFinance
  forward := RemoteDelete ("/api/expenses?id=" ++ id)
  work := financeService.deleteExpense id

def saveCategory (c : Category) : Handled where
  check := requirePermission PermFinance
  forward := RemotePost "/api/categories" (.category c)
  work := financeService.saveCategory c

/-- The force is not sent along. -/
def deleteCategory (id : String) (force : Bool) : Handled where
  check := requirePermission PermFinance
  forward := RemoteDelete ("/api/categories?id=" ++ id)
  work := financeService.deleteCategory id force

def updatePreferences (newPrefs : AppPreferences) : Handled where
  check := (requirePermission PermSettings).andWhen (newPrefs.adminPin ≠ "" ∧ newPrefs.adminPin ≠ "********") requireAdmin
  forward := RemotePost "/api/preferences" (.preferences newPrefs)
  work := financeService.updatePreferences newPrefs

def openShift (staffID staffName : String) (openingBalance : Int) : Handled where
  check := requirePermission PermFinance
  forward := none
  work := financeService.openShift staffID staffName openingBalance

/-- The backups made in the background after a closing only read. -/
def closeShift (shiftID : String) (closingBalance : Int) (note : String) : Handled where
  check := requirePermission PermFinance
  forward := none
  work := financeService.closeShift shiftID closingBalance note

def addCashMovement (shiftID : String) (moveType : MoveType) (reason staffID staffName : String) (amount : Int) :
    Handled where
  check := requirePermission PermFinance
  forward := none
  work := financeService.addCashMovement shiftID moveType reason staffID staffName amount

def createPurchaseOrder (order : PurchaseOrder) : Handled where
  check := requirePermission PermFinance
  forward := none
  work := financeService.createPurchaseOrder order

def updatePurchaseOrder (order : PurchaseOrder) : Handled where
  check := requirePermission PermFinance
  forward := none
  work := financeService.updatePurchaseOrder order

def deletePurchaseOrder (id : String) : Handled where
  check := requirePermission PermFinance
  forward := none
  work := financeService.deletePurchaseOrder id

def cancelPurchaseOrder (id : String) : Handled where
  check := requirePermission PermFinance
  forward := none
  work := financeService.cancelPurchaseOrder id

def receivePurchaseOrder (orderID : String) (items : List PurchaseOrderItem) : Handled where
  check := requirePermission PermFinance
  forward := none
  work := financeService.receivePurchaseOrder orderID items

def payPurchaseOrder (orderID : String) (amount : Int) (method : String) : Handled where
  check := requirePermission PermFinance
  forward := none
  work := financeService.payPurchaseOrder orderID amount method

end FinanceHandler

namespace CRMHandler

variable (crmService : CRMService)

def saveCustomer (c : Customer) : Handled where
  check := requirePermission PermCustomers
  forward := RemotePost "/api/customers" (.customer c)
  work := crmService.saveCustomer c

def deleteCustomer (id : String) (force : Bool) : Handled where
  check := requirePermission PermCustomers
  forward := RemoteDelete ("/api/customers?id=" ++ id)
  work := crmService.deleteCustomer id force

def saveSupplier (s : Supplier) : Handled where
  check := requirePermission PermFinance
  forward := RemotePost "/api/suppliers" (.supplier s)
  work := crmService.saveSupplier s

def deleteSupplier (id : String) (force : Bool) : Handled where
  check := requirePermission PermFinance
  forward := RemoteDelete ("/api/suppliers?id=" ++ id)
  work := crmService.deleteSupplier id force

end CRMHandler

namespace ProductHandler

variable (productService : ProductService)

def createProduct (product : Product) : Handled where
  check := requirePermission PermProducts
  forward := RemotePost "/api/products" (.product product)
  work := productService.createProduct product

def updateProduct (product : Product) : Handled where
  check := requirePermission PermProducts
  forward := RemotePost "/api/products" (.product product)
  work := productService.updateProduct product

def deleteProduct (id : String) : Handled where
  check := requirePermission PermProducts
  forward := RemoteDelete ("/api/products?id=" ++ id)
  work := productService.deleteProduct id

def logStockMovement (productID productName movementType : String) (qty : ℚ) (reason : String) : Handled where
  check := requirePermission PermInventory
  forward := RemotePost "/api/stock/movements" (.movement productID productName movementType qty reason)
  work := productService.logStockMovement productID productName movementType qty reason

end ProductHandler

namespace BackupHandler

variable (backupService : BackupService)

def restoreBackup (backupPath : String) : Handled where
  check := requireAdmin
  forward := none
  work := backupService.restoreBackup backupPath

def resetDatabase : Handled where
  check := requireAdmin
  forward := none
  work := backupService.resetDatabase

def importDatabase (data : DatabaseExport) : Handled where
  check := requireAdmin
  forward := none
  work := backupService.importDatabase data

def importProductsCSV (csvData : String) (updateExisting : Bool) : Handled where
  check := requirePermission PermProducts
  forward := none
  work := backupService.importProductsCSV csvData updateExisting

def migrateImagesToFilesystem : Handled where
  check := requireAdmin
  forward := none
  work := backupService.migrateImagesToFilesystem

/-- `picked` is what the dialog and the file made of it: the text, or why there is none. -/
def importProductsCSVNative (picked : Except Failure String) (updateExisting : Bool) : Handled where
  check := requirePermission PermProducts
  forward := none
  work := fun desk t =>
    match picked with
    | .error e => (.error e, t)
    | .ok csvData => (importProductsCSV backupService csvData updateExisting).run desk t

/-- A dialog that is closed is no error. -/
def importDatabaseBackupNative (picked : Except Failure (Option DatabaseExport)) : Handled where
  check := requireAdmin
  forward := none
  work := fun desk t =>
    match picked with
    | .error e => (.error e, t)
    | .ok none => (.ok (), t)
    | .ok (some data) => (importDatabase backupService data).run desk t

end BackupHandler

namespace CloudHandler

variable (cloudService : CloudService)

def restoreCloudBackup (backupID : String) : Handled where
  check := requireAdmin
  forward := none
  work := cloudService.restoreCloudBackup backupID

def setupZohoIntegration (clientID clientSecret authCode : String) : Handled where
  check := requirePermission PermSettings
  forward := none
  work := cloudService.setupZohoIntegration clientID clientSecret authCode

end CloudHandler

/-- The methods of the handlers that reach a service which may write the business tables. -/
inductive HandlerCall where
  | processSale (sale : Sale)
  | returnSale (id : String)
  | returnSalePartial (saleID productID : String) (qtyToReturn : ℚ)
  | deleteSale (id : String)
  | parkSale (input : ParkInput)
  | retrieveParkedSale (id : Nat)
  | deleteParkedSale (id : Nat)
  | createPayment (payment : Payment)
  | createPaymentForced (payment : Payment)
  | deletePayment (id : Nat)
  | payInstallment (saleID : String) (installmentIndex amount : Int) (method : PaymentMethod)
  | saveExpense (e : Expense)
  | deleteExpense (id : String)
  | saveCategory (c : Category)
  | deleteCategory (id : String) (force : Bool)
  | updatePreferences (newPrefs : AppPreferences)
  | openShift (staffID staffName : String) (openingBalance : Int)
  | closeShift (shiftID : String) (closingBalance : Int) (note : String)
  | addCashMovement (shiftID : String) (moveType : MoveType) (reason staffID staffName : String) (amount : Int)
  | createPurchaseOrder (order : PurchaseOrder)
  | updatePurchaseOrder (order : PurchaseOrder)
  | deletePurchaseOrder (id : String)
  | cancelPurchaseOrder (id : String)
  | receivePurchaseOrder (orderID : String) (items : List PurchaseOrderItem)
  | payPurchaseOrder (orderID : String) (amount : Int) (method : String)
  | saveCustomer (c : Customer)
  | deleteCustomer (id : String) (force : Bool)
  | saveSupplier (s : Supplier)
  | deleteSupplier (id : String) (force : Bool)
  | createProduct (product : Product)
  | updateProduct (product : Product)
  | deleteProduct (id : String)
  | logStockMovement (productID productName movementType : String) (qty : ℚ) (reason : String)
  | restoreBackup (backupPath : String)
  | resetDatabase
  | importDatabase (data : DatabaseExport)
  | importProductsCSV (csvData : String) (updateExisting : Bool)
  | migrateImagesToFilesystem
  | importProductsCSVNative (picked : Except Failure String) (updateExisting : Bool)
  | importDatabaseBackupNative (picked : Except Failure (Option DatabaseExport))
  | restoreCloudBackup (backupID : String)
  | setupZohoIntegration (clientID clientSecret authCode : String)

namespace HandlerCall

def handled (s : Services) : HandlerCall → Handled
  | .processSale sale => SaleHandler.processSale s.sale sale
  | .returnSale id => SaleHandler.returnSale s.sale id
  | .returnSalePartial saleID productID qty => SaleHandler.returnSalePartial s.sale saleID productID qty
  | .deleteSale id => SaleHandler.deleteSale s.sale id
  | .parkSale input => SaleHandler.parkSale s.sale input
  | .retrieveParkedSale id => SaleHandler.retrieveParkedSale s.sale id
  | .deleteParkedSale id => SaleHandler.deleteParkedSale s.sale id
  | .createPayment payment => PaymentHandler.createPayment s.payment payment
  | .createPaymentForced payment => PaymentHandler.createPaymentForced s.payment payment
  | .deletePayment id => PaymentHandler.deletePayment s.payment id
  | .payInstallment saleID index amount method => PaymentHandler.payInstallment s.payment saleID index amount method
  | .saveExpense e => FinanceHandler.saveExpense s.finance e
  | .deleteExpense id => FinanceHandler.deleteExpense s.finance id
  | .saveCategory c => FinanceHandler.saveCategory s.finance c
  | .deleteCategory id force => FinanceHandler.deleteCategory s.finance id force
  | .updatePreferences newPrefs => FinanceHandler.updatePreferences s.finance newPrefs
  | .openShift staffID staffName opening => FinanceHandler.openShift s.finance staffID staffName opening
  | .closeShift shiftID closing note => FinanceHandler.closeShift s.finance shiftID closing note
  | .addCashMovement shiftID moveType reason staffID staffName amount =>
    FinanceHandler.addCashMovement s.finance shiftID moveType reason staffID staffName amount
  | .createPurchaseOrder order => FinanceHandler.createPurchaseOrder s.finance order
  | .updatePurchaseOrder order => FinanceHandler.updatePurchaseOrder s.finance order
  | .deletePurchaseOrder id => FinanceHandler.deletePurchaseOrder s.finance id
  | .cancelPurchaseOrder id => FinanceHandler.cancelPurchaseOrder s.finance id
  | .receivePurchaseOrder orderID items => FinanceHandler.receivePurchaseOrder s.finance orderID items
  | .payPurchaseOrder orderID amount method => FinanceHandler.payPurchaseOrder s.finance orderID amount method
  | .saveCustomer c => CRMHandler.saveCustomer s.crm c
  | .deleteCustomer id force => CRMHandler.deleteCustomer s.crm id force
  | .saveSupplier supplier => CRMHandler.saveSupplier s.crm supplier
  | .deleteSupplier id force => CRMHandler.deleteSupplier s.crm id force
  | .createProduct product => ProductHandler.createProduct s.product product
  | .updateProduct product => ProductHandler.updateProduct s.product product
  | .deleteProduct id => ProductHandler.deleteProduct s.product id
  | .logStockMovement productID productName movementType qty reason =>
    ProductHandler.logStockMovement s.product productID productName movementType qty reason
  | .restoreBackup backupPath => BackupHandler.restoreBackup s.backup backupPath
  | .resetDatabase => BackupHandler.resetDatabase s.backup
  | .importDatabase data => BackupHandler.importDatabase s.backup data
  | .importProductsCSV csvData updateExisting => BackupHandler.importProductsCSV s.backup csvData updateExisting
  | .migrateImagesToFilesystem => BackupHandler.migrateImagesToFilesystem s.backup
  | .importProductsCSVNative picked updateExisting =>
    BackupHandler.importProductsCSVNative s.backup picked updateExisting
  | .importDatabaseBackupNative picked => BackupHandler.importDatabaseBackupNative s.backup picked
  | .restoreCloudBackup backupID => CloudHandler.restoreCloudBackup s.cloud backupID
  | .setupZohoIntegration clientID clientSecret authCode =>
    CloudHandler.setupZohoIntegration s.cloud clientID clientSecret authCode

/-- The methods that ask for the client mode. -/
def forwards : HandlerCall → Bool
  | .processSale _ | .returnSale _ | .returnSalePartial _ _ _ | .deleteSale _
  | .saveExpense _ | .deleteExpense _ | .saveCategory _ | .deleteCategory _ _ | .updatePreferences _
  | .saveCustomer _ | .deleteCustomer _ _ | .saveSupplier _ | .deleteSupplier _ _
  | .createProduct _ | .updateProduct _ | .deleteProduct _ | .logStockMovement _ _ _ _ _ => true
  | _ => false

end HandlerCall

end BeidarPos
