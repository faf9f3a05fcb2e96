import BeidarPos.Json
import BeidarPos.PurchaseOrders
import BeidarPos.ProductsCsv

/-! The data a backup file holds: every table as a list of records, and each record
with the names its struct tags give the fields. A field tagged `-` is not written, and
one tagged `omitempty` is left out when it is empty. -/
namespace BeidarPos

open Json Relational

structure Expense where
  id : String
  title : String
  amount : Int
  date : String
  category : String
  notes : String
  deriving DecidableEq

structure CategoryField where
  name : String
  type : String
  options : List String
  deriving DecidableEq

structure Category where
  id : String
  name : String
  fields : List CategoryField
  deriving DecidableEq

structure ParkedSale where
  id : Nat
  itemsJSON : String
  customerName : String
  customerID : String
  note : String
  total : Int
  itemsCount : ℚ
  createdAt : Int
  deriving DecidableEq

/-- A stock movement under its row number. -/
structure StockMovementRow extends StockMovement where
  id : Nat
  deriving DecidableEq

structure DatabaseExport where
  products : List Product
  sales : List Sale
  customers : List Customer
  suppliers : List Supplier
  expenses : List Expense
  categories : List Category
  stockMovements : List StockMovementRow
  preferences : Option AppPreferences
  staff : List Staff
  payments : List Payment
  parkedSales : List ParkedSale
  shifts : List Shift
  cashMovements : List CashMovement
  purchaseOrders : List PurchaseOrder
  purchaseOrderItems : List PurchaseOrderItem
  deriving DecidableEq

section Names

def PaymentMethod.name : PaymentMethod → String
  | .cash => "cash"
  | .card => "card"
  | .credit => "credit"
  | .installment => "installment"
  | .split => "split"
  | .other name _ => name

def PaymentMethod.ofName (name : String) : PaymentMethod :=
  if unlisted : name ∉ ["cash", "card", "credit", "installment", "split"] then .other name unlisted
  else if name = "cash" then .cash
  else if name = "card" then .card
  else if name = "credit" then .credit
  else if name = "installment" then .installment
  else .split

theorem PaymentMethod.ofName_name (m : PaymentMethod) : .ofName m.name = m := by
  cases m with
  | other name unlisted => exact dif_pos unlisted
  | _ => rfl

def SaleStatus.name : SaleStatus → String
  | .pending => "pending"
  | .completed => "completed"
  | .paid => "paid"
  | .partialReturn => "partial_return"
  | .returned => "returned"
  | .other name _ => name

def SaleStatus.ofName (name : String) : SaleStatus :=
  if unlisted : name ∉ ["pending", "completed", "paid", "partial_return", "returned"] then .other name unlisted
  else if name = "pending" then .pending
  else if name = "completed" then .completed
  else if name = "paid" then .paid
  else if name = "partial_return" then .partialReturn
  else .returned

theorem SaleStatus.ofName_name (s : SaleStatus) : .ofName s.name = s := by
  cases s with
  | other name unlisted => exact dif_pos unlisted
  | _ => rfl

def InstallmentStatus.name : InstallmentStatus → String
  | .pending => "pending"
  | .paid => "paid"
  | .overdue => "overdue"
  | .other name _ => name

def InstallmentStatus.ofName (name : String) : InstallmentStatus :=
  if unlisted : name ∉ ["pending", "paid", "overdue"] then .other name unlisted
  else if name = "pending" then .pending
  else if name = "paid" then .paid
  else .overdue

theorem InstallmentStatus.ofName_name (s : InstallmentStatus) : .ofName s.name = s := by
  cases s with
  | other name unlisted => exact dif_pos unlisted
  | _ => rfl

def ShiftStatus.name : ShiftStatus → String
  | .open => "open"
  | .closed => "closed"

/-- A shift is open or it is not. -/
def ShiftStatus.ofName (name : String) : ShiftStatus := if name = "open" then .open else .closed

theorem ShiftStatus.ofName_name (s : ShiftStatus) : .ofName s.name = s := by
  cases s <;> rfl

def MoveType.name : MoveType → String
  | .cashIn => "cash_in"
  | .cashOut => "cash_out"
  | .other name _ => name

def MoveType.ofName (name : String) : MoveType :=
  if unlisted : name ∉ ["cash_in", "cash_out"] then .other name unlisted
  else if name = "cash_in" then .cashIn
  else .cashOut

theorem MoveType.ofName_name (t : MoveType) : .ofName t.name = t := by
  cases t with
  | other name unlisted => exact dif_pos unlisted
  | _ => rfl

def PurchaseOrderStatus.name : PurchaseOrderStatus → String
  | .pending => "pending"
  | .partiallyReceived => "partial"
  | .received => "received"
  | .cancelled => "cancelled"
  | .other name _ => name

def PurchaseOrderStatus.ofName (name : String) : PurchaseOrderStatus :=
  if unlisted : name ∉ ["pending", "partial", "received", "cancelled"] then .other name unlisted
  else if name = "pending" then .pending
  else if name = "partial" then .partiallyReceived
  else if name = "received" then .received
  else .cancelled

theorem PurchaseOrderStatus.ofName_name (s : PurchaseOrderStatus) : .ofName s.name = s := by
  cases s with
  | other name unlisted => exact dif_pos unlisted
  | _ => rfl

def Role.ofName (name : String) : Role :=
  if unlisted : name ∉ ["admin", "manager", "cashier", "viewer"] then .other name unlisted
  else if name = "admin" then .admin
  else if name = "manager" then .manager
  else if name = "cashier" then .cashier
  else .viewer

theorem Role.ofName_name (r : Role) : .ofName r.name = r := by
  cases r with
  | other name unlisted => exact dif_pos unlisted
  | _ => rfl

end Names

section Codecs

/-- Text the program puts together counts as one piece, and so do the details of a
product. -/
inductive JsonText where
  | text (t : Text)
  | details (d : String)
  deriving DecidableEq

def amountJson : Codec JsonText Int where
  encode := fun a => .num (Amount.float a)
  decode
    | .num q => some (newAmount q)
    | .str s => (Decimal.parse s.toList).map newAmount
    | _ => none
  zero := 0
  normal := id
  law := fun a => congrArg some (newAmount_float a)

def textJson : Codec JsonText Text where
  encode
    | .plain s => .str s
    | t => .leaf (.text t)
  decode
    | .null => some (.plain "")
    | .str s => some (.plain s)
    | .leaf (.text t) => some t
    | _ => none
  zero := .plain ""
  normal := id
  law := by
    intro t
    cases t <;> rfl

/-- A null map is left out, and so is an empty one. -/
def detailsJson : Codec JsonText (Option String) where
  encode
    | none => .null
    | some d => .leaf (.details d)
  decode
    | .null => some none
    | .leaf (.details d) => some (some d)
    | _ => none
  zero := none
  normal := id
  law := by
    intro d
    cases d <;> rfl

def emptyDetails (d : Option String) : Bool := d = none || d = some "{}"

def legJson (entry : String × Value JsonText) : Option (PaymentMethod × Int) :=
  (amountJson.decode entry.2).map fun amount => (.ofName entry.1, amount)

theorem legJson_encode (leg : PaymentMethod × Int) :
    legJson (leg.1.name, amountJson.encode leg.2) = some (id leg) := by
  rw [legJson, amountJson.law, PaymentMethod.ofName_name]
  rfl

def splitJson : Codec JsonText (Option SplitDetails) where
  encode
    | none => .null
    | some split => .obj (split.legs.map fun leg => (leg.1.name, amountJson.encode leg.2))
  decode
    | .null => some none
    | .obj entries => (entries.mapM legJson).map fun legs => some ⟨Keyed.keepLast legs, Keyed.keepLast_nodup legs⟩
    | _ => none
  zero := none
  normal := id
  law := by
    intro split
    cases split with
    | none => rfl
    | some split =>
      have legs := read_written legJson_encode split.legs
      have same : (⟨Keyed.keepLast split.legs, Keyed.keepLast_nodup split.legs⟩ : SplitDetails) = split :=
        SplitDetails.ext (Keyed.keepLast_distinct split.distinct)
      simp only [legs, List.map_id, Option.map_some, same, id]

def emptySplit (d : Option SplitDetails) : Bool := d.all fun split => split.legs.isEmpty

def installmentJson : Codec JsonText Installment :=
  (record [
    Codec.int.field "number" Installment.number (fun a r => { r with number := a }),
    Codec.string.field "dueDate" Installment.dueDate (fun a r => { r with dueDate := a }),
    amountJson.field "amount" Installment.amount (fun a r => { r with amount := a }),
    (Codec.string.via InstallmentStatus.name .ofName InstallmentStatus.ofName_name).field "status" Installment.status
      (fun a r => { r with status := a }),
    Codec.int.omitZero rfl "paidAt" Installment.paidAt (fun a r => { r with paidAt := a })]
    ⟨0, "", 0, .ofName "", 0⟩ (by decide)).exact (fun r => by cases r; rfl)

def scheduleJson : Codec JsonText (Option (List Installment)) :=
  ((Codec.list installmentJson).nullable (fun _ => nofun)).exact (fun schedule => by
    cases schedule with
    | none => rfl
    | some entries => exact congrArg some (List.map_id entries))

def planJson : Codec JsonText InstallmentPlan :=
  (record [
    amountJson.field "totalAmount" InstallmentPlan.totalAmount (fun a r => { r with totalAmount := a }),
    amountJson.field "downPayment" InstallmentPlan.downPayment (fun a r => { r with downPayment := a }),
    Codec.int.field "months" InstallmentPlan.months (fun a r => { r with months := a }),
    Codec.string.field "startDate" InstallmentPlan.startDate (fun a r => { r with startDate := a }),
    scheduleJson.field "schedule" InstallmentPlan.schedule (fun a r => { r with schedule := a })]
    ⟨0, 0, 0, "", none⟩ (by decide)).exact (fun r => by cases r; rfl)

def optionalPlanJson : Codec JsonText (Option InstallmentPlan) :=
  (planJson.nullable (fun _ => nofun)).exact (fun plan => by cases plan <;> rfl)

def productJson : Codec JsonText Product :=
  record [
    Codec.string.field "id" Product.id (fun a r => { r with id := a }),
    Codec.string.field "name" Product.name (fun a r => { r with name := a }),
    Codec.string.field "barcode" Product.barcode (fun a r => { r with barcode := a }),
    amountJson.field "price" Product.price (fun a r => { r with price := a }),
    amountJson.field "cost" Product.cost (fun a r => { r with cost := a }),
    Codec.rat.field "stock" Product.stock (fun a r => { r with stock := a }),
    Codec.rat.field "minStock" Product.minStock (fun a r => { r with minStock := a }),
    Codec.string.field "category" Product.category (fun a r => { r with category := a }),
    Codec.string.field "image" Product.image (fun a r => { r with image := a }),
    Codec.string.omitZero rfl "supplier" Product.supplier (fun a r => { r with supplier := a }),
    amountJson.field "wholesalePrice" Product.wholesalePrice (fun a r => { r with wholesalePrice := a }),
    Codec.string.omitZero rfl "description" Product.description (fun a r => { r with description := a }),
    detailsJson.optional emptyDetails "customDetails" Product.customDetails
      (fun a r => { r with customDetails := a })]
    ⟨"", "", "", 0, 0, 0, 0, "", "", "", 0, "", none⟩ (by decide)

/-- The sale of a line is not written: it is the sale the line stands in. -/
def saleItemJson : Codec JsonText SaleItem :=
  record [
    Codec.nat.field "pid" SaleItem.id (fun a r => { r with id := a }),
    Codec.string.field "id" SaleItem.productID (fun a r => { r with productID := a }),
    Codec.string.field "name" SaleItem.name (fun a r => { r with name := a }),
    amountJson.field "price" SaleItem.price (fun a r => { r with price := a }),
    Codec.rat.field "qty" SaleItem.quantity (fun a r => { r with quantity := a }),
    amountJson.field "total" SaleItem.total (fun a r => { r with total := a }),
    amountJson.field "cost" SaleItem.cost (fun a r => { r with cost := a }),
    amountJson.omitZero rfl "discount" SaleItem.discount (fun a r => { r with discount := a }),
    Codec.rat.field "returnedQty" SaleItem.returnedQty (fun a r => { r with returnedQty := a })]
    ⟨0, "", "", "", 0, 0, 0, 0, 0, 0⟩ (by decide)

def saleJson : Codec JsonText Sale :=
  record [
    Codec.string.field "id" (fun r => r.id) (fun a r => { r with id := a }),
    Codec.string.omitZero rfl "customerId" (fun r => r.customerID) (fun a r => { r with customerID := a }),
    Codec.string.field "customer" (fun r => r.customerName) (fun a r => { r with customerName := a }),
    Codec.string.field "staffId" (fun r => r.staffID) (fun a r => { r with staffID := a }),
    Codec.string.field "staffName" (fun r => r.staffName) (fun a r => { r with staffName := a }),
    Codec.string.field "date" (fun r => r.date) (fun a r => { r with date := a }),
    Codec.int.field "timestamp" (fun r => r.timestamp) (fun a r => { r with timestamp := a }),
    amountJson.field "subtotal" (fun r => r.subtotal) (fun a r => { r with subtotal := a }),
    amountJson.field "discount" (fun r => r.discount) (fun a r => { r with discount := a }),
    amountJson.field "vat" (fun r => r.vat) (fun a r => { r with vat := a }),
    amountJson.field "total" (fun r => r.total) (fun a r => { r with total := a }),
    (Codec.string.via PaymentMethod.name .ofName PaymentMethod.ofName_name).field "paymentMethod"
      (fun r => r.paymentMethod) (fun a r => { r with paymentMethod := a }),
    (Codec.string.via SaleStatus.name .ofName SaleStatus.ofName_name).field "status"
      (fun r => r.status) (fun a r => { r with status := a }),
    Codec.rat.field "itemsCount" (fun r => r.itemsCount) (fun a r => { r with itemsCount := a }),
    (Codec.list saleItemJson).field "items" Sale.items (fun a r => { r with items := a }),
    splitJson.optional emptySplit "splitDetails" (fun r => r.splitDetails) (fun a r => { r with splitDetails := a }),
    optionalPlanJson.omitZero rfl "installmentPlan" (fun r => r.installmentPlan)
      (fun a r => { r with installmentPlan := a }),
    Codec.string.omitZero rfl "note" (fun r => r.note) (fun a r => { r with note := a }),
    Codec.int.field "pointsAwarded" (fun r => r.pointsAwarded) (fun a r => { r with pointsAwarded := a }),
    Codec.bool.field "zohoSynced" (fun r => r.zohoSynced) (fun a r => { r with zohoSynced := a })]
    ⟨⟨"", "", "", "", "", "", 0, 0, 0, 0, 0, .ofName "", .ofName "", 0, none, none, "", 0, false⟩, []⟩ (by decide)

def customerJson : Codec JsonText Customer :=
  (record [
    Codec.string.field "id" Customer.id (fun a r => { r with id := a }),
    Codec.string.field "name" Customer.name (fun a r => { r with name := a }),
    Codec.string.field "phone" Customer.phone (fun a r => { r with phone := a }),
    amountJson.field "debt" Customer.debt (fun a r => { r with debt := a }),
    amountJson.field "installmentDebt" Customer.installmentDebt (fun a r => { r with installmentDebt := a }),
    amountJson.field "totalPurchases" Customer.totalPurchases (fun a r => { r with totalPurchases := a }),
    Codec.string.field "lastVisit" Customer.lastVisit (fun a r => { r with lastVisit := a }),
    Codec.int.field "points" Customer.points (fun a r => { r with points := a }),
    Codec.string.omitZero rfl "notes" Customer.notes (fun a r => { r with notes := a })]
    ⟨"", "", "", 0, 0, 0, "", 0, ""⟩ (by decide)).exact (fun r => by cases r; rfl)

def supplierJson : Codec JsonText Supplier :=
  (record [
    Codec.string.field "id" Supplier.id (fun a r => { r with id := a }),
    Codec.string.field "name" Supplier.name (fun a r => { r with name := a }),
    Codec.string.field "companyName" Supplier.companyName (fun a r => { r with companyName := a }),
    Codec.string.field "phone" Supplier.phone (fun a r => { r with phone := a }),
    Codec.string.omitZero rfl "email" Supplier.email (fun a r => { r with email := a }),
    Codec.string.omitZero rfl "notes" Supplier.notes (fun a r => { r with notes := a }),
    amountJson.field "balance" Supplier.balance (fun a r => { r with balance := a })]
    ⟨"", "", "", "", "", "", 0⟩ (by decide)).exact (fun r => by cases r; rfl)

def expenseJson : Codec JsonText Expense :=
  (record [
    Codec.string.field "id" Expense.id (fun a r => { r with id := a }),
    Codec.string.field "title" Expense.title (fun a r => { r with title := a }),
    amountJson.field "amount" Expense.amount (fun a r => { r with amount := a }),
    Codec.string.field "date" Expense.date (fun a r => { r with date := a }),
    Codec.string.field "category" Expense.category (fun a r => { r with category := a }),
    Codec.string.omitZero rfl "notes" Expense.notes (fun a r => { r with notes := a })]
    ⟨"", "", 0, "", "", ""⟩ (by decide)).exact (fun r => by cases r; rfl)

def textsJson : Codec JsonText (List String) := Codec.string.list.exact List.map_id

def categoryFieldJson : Codec JsonText CategoryField :=
  (record [
    Codec.string.field "name" CategoryField.name (fun a r => { r with name := a }),
    Codec.string.field "type" CategoryField.type (fun a r => { r with type := a }),
    textsJson.omitZero rfl "options" CategoryField.options (fun a r => { r with options := a })]
    ⟨"", "", []⟩ (by decide)).exact (fun r => by cases r; rfl)

def categoryFieldsJson : Codec JsonText (List CategoryField) := categoryFieldJson.list.exact List.map_id

def categoryJson : Codec JsonText Category :=
  (record [
    Codec.string.field "id" Category.id (fun a r => { r with id := a }),
    Codec.string.field "name" Category.name (fun a r => { r with name := a }),
    categoryFieldsJson.omitZero rfl "fields" Category.fields (fun a r => { r with fields := a })]
    ⟨"", "", []⟩ (by decide)).exact (fun r => by cases r; rfl)

def stockMovementJson : Codec JsonText StockMovementRow :=
  (record [
    Codec.nat.field "id" StockMovementRow.id (fun a r => { r with id := a }),
    Codec.string.field "productId" (fun r => r.productID) (fun a r => { r with productID := a }),
    Codec.string.field "productName" (fun r => r.productName) (fun a r => { r with productName := a }),
    Codec.string.field "type" (fun r => r.type) (fun a r => { r with type := a }),
    Codec.rat.field "qty" (fun r => r.qty) (fun a r => { r with qty := a }),
    Codec.string.omitZero rfl "reason" (fun r => r.reason) (fun a r => { r with reason := a }),
    Codec.int.field "timestamp" (fun r => r.timestamp) (fun a r => { r with timestamp := a })]
    ⟨⟨"", "", "", 0, "", 0⟩, 0⟩ (by decide)).exact (fun r => by cases r; rfl)

/-- The row number is not written. -/
def preferencesJson : Codec JsonText AppPreferences :=
  record [
    Codec.string.field "storeName" AppPreferences.storeName (fun a r => { r with storeName := a }),
    Codec.string.field "storeAddress" AppPreferences.storeAddress (fun a r => { r with storeAddress := a }),
    Codec.string.field "storePhone" AppPreferences.storePhone (fun a r => { r with storePhone := a }),
    Codec.string.field "currency" AppPreferences.currency (fun a r => { r with currency := a }),
    Codec.rat.field "taxRate" AppPreferences.taxRate (fun a r => { r with taxRate := a }),
    Codec.string.field "theme" AppPreferences.theme (fun a r => { r with theme := a }),
    Codec.string.field "accentColor" AppPreferences.accentColor (fun a r => { r with accentColor := a }),
    Codec.bool.field "enableSound" AppPreferences.enableSound (fun a r => { r with enableSound := a }),
    Codec.string.field "language" AppPreferences.language (fun a r => { r with language := a }),
    Codec.int.field "lowStockTrigger" AppPreferences.lowStockTrigger (fun a r => { r with lowStockTrigger := a }),
    Codec.string.field "adminPin" AppPreferences.adminPin (fun a r => { r with adminPin := a }),
    Codec.string.field "geminiApiKey" AppPreferences.geminiAPIKey (fun a r => { r with geminiAPIKey := a }),
    textsJson.field "geminiApiKeys" AppPreferences.geminiAPIKeys (fun a r => { r with geminiAPIKeys := a }),
    Codec.string.field "fontSize" AppPreferences.fontSize (fun a r => { r with fontSize := a }),
    Codec.int.field "autoLockTime" AppPreferences.autoLockTime (fun a r => { r with autoLockTime := a }),
    Codec.bool.field "quickSell" AppPreferences.quickSell (fun a r => { r with quickSell := a }),
    Codec.bool.field "autoPrint" AppPreferences.autoPrint (fun a r => { r with autoPrint := a }),
    Codec.string.field "autoPrintFormat" AppPreferences.autoPrintFormat (fun a r => { r with autoPrintFormat := a }),
    Codec.string.field "thermalPaperSize" AppPreferences.thermalPaperSize
      (fun a r => { r with thermalPaperSize := a }),
    Codec.bool.field "requireShift" AppPreferences.requireShift (fun a r => { r with requireShift := a }),
    Codec.bool.field "cloudAutoSync" AppPreferences.cloudAutoSync (fun a r => { r with cloudAutoSync := a }),
    Codec.string.field "receiptPrinter" AppPreferences.receiptPrinter (fun a r => { r with receiptPrinter := a }),
    Codec.string.field "labelPrinter" AppPreferences.labelPrinter (fun a r => { r with labelPrinter := a }),
    Codec.string.field "aiProvider" AppPreferences.aiProvider (fun a r => { r with aiProvider := a }),
    Codec.string.field "aiModel" AppPreferences.aiModel (fun a r => { r with aiModel := a }),
    Codec.string.field "aiRotationMode" AppPreferences.aiRotationMode (fun a r => { r with aiRotationMode := a }),
    Codec.string.field "groqApiKey" AppPreferences.groqAPIKey (fun a r => { r with groqAPIKey := a })]
    ⟨0, "", "", "", "", 0, "", "", false, "", 0, "", "", [], "", 0, false, false, "", "", false,
      false, "", "", "", "", "", ""⟩ (by decide)

/-- Neither the password hash nor the PIN index is written. -/
def staffJson : Codec JsonText Staff :=
  record [
    Codec.string.field "id" Staff.id (fun a r => { r with id := a }),
    Codec.string.field "name" Staff.name (fun a r => { r with name := a }),
    Codec.string.field "username" Staff.username (fun a r => { r with username := a }),
    Codec.bool.field "mustChangePin" Staff.mustChangePin (fun a r => { r with mustChangePin := a }),
    (Codec.string.via Role.name .ofName Role.ofName_name).field "role" Staff.role (fun a r => { r with role := a }),
    Codec.string.omitZero rfl "phone" Staff.phone (fun a r => { r with phone := a }),
    Codec.string.omitZero rfl "email" Staff.email (fun a r => { r with email := a }),
    Codec.bool.field "active" Staff.active (fun a r => { r with active := a }),
    textsJson.omitZero rfl "permissions" Staff.permissions (fun a r => { r with permissions := a }),
    Codec.int.omitZero rfl "lastLogin" Staff.lastLogin (fun a r => { r with lastLogin := a }),
    Codec.int.field "createdAt" Staff.createdAt (fun a r => { r with createdAt := a }),
    Codec.string.omitZero rfl "supabaseUserId" Staff.supabaseUserID (fun a r => { r with supabaseUserID := a })]
    ⟨"", "", "", "", false, .ofName "", "", "", false, [], 0, 0, "", ""⟩ (by decide)

def paymentJson : Codec JsonText Payment :=
  (record [
    Codec.nat.field "id" Payment.id (fun a r => { r with id := a }),
    Codec.string.field "saleId" Payment.saleID (fun a r => { r with saleID := a }),
    Codec.string.field "customerId" Payment.customerID (fun a r => { r with customerID := a }),
    amountJson.field "amount" Payment.amount (fun a r => { r with amount := a }),
    (Codec.string.via PaymentMethod.name .ofName PaymentMethod.ofName_name).field "method" Payment.method
      (fun a r => { r with method := a }),
    textJson.omitZero rfl "note" Payment.note (fun a r => { r with note := a }),
    Codec.int.field "timestamp" Payment.timestamp (fun a r => { r with timestamp := a }),
    Codec.string.omitZero rfl "staffId" Payment.staffID (fun a r => { r with staffID := a }),
    Codec.int.omitZero rfl "instIndex" Payment.instIndex (fun a r => { r with instIndex := a })]
    ⟨0, "", "", 0, .ofName "", .plain "", 0, "", 0⟩ (by decide)).exact (fun r => by cases r; rfl)

def parkedSaleJson : Codec JsonText ParkedSale :=
  (record [
    Codec.nat.field "id" ParkedSale.id (fun a r => { r with id := a }),
    Codec.string.field "items_json" ParkedSale.itemsJSON (fun a r => { r with itemsJSON := a }),
    Codec.string.field "customer_name" ParkedSale.customerName (fun a r => { r with customerName := a }),
    Codec.string.field "customer_id" ParkedSale.customerID (fun a r => { r with customerID := a }),
    Codec.string.field "note" ParkedSale.note (fun a r => { r with note := a }),
    amountJson.field "total" ParkedSale.total (fun a r => { r with total := a }),
    Codec.rat.field "items_count" ParkedSale.itemsCount (fun a r => { r with itemsCount := a }),
    Codec.int.field "created_at" ParkedSale.createdAt (fun a r => { r with createdAt := a })]
    ⟨0, "", "", "", "", 0, 0, 0⟩ (by decide)).exact (fun r => by cases r; rfl)

def shiftJson : Codec JsonText Shift :=
  (record [
    Codec.string.field "id" Shift.id (fun a r => { r with id := a }),
    Codec.string.field "staffId" Shift.staffID (fun a r => { r with staffID := a }),
    Codec.string.field "staffName" Shift.staffName (fun a r => { r with staffName := a }),
    Codec.int.field "openTime" Shift.openTime (fun a r => { r with openTime := a }),
    Codec.int.omitZero rfl "closeTime" Shift.closeTime (fun a r => { r with closeTime := a }),
    amountJson.field "openingBalance" Shift.openingBalance (fun a r => { r with openingBalance := a }),
    amountJson.field "closingBalance" Shift.closingBalance (fun a r => { r with closingBalance := a }),
    amountJson.field "expectedBalance" Shift.expectedBalance (fun a r => { r with expectedBalance := a }),
    amountJson.field "variance" Shift.variance (fun a r => { r with variance := a }),
    (Codec.string.via ShiftStatus.name .ofName ShiftStatus.ofName_name).field "status" Shift.status
      (fun a r => { r with status := a }),
    amountJson.field "totalSales" Shift.totalSales (fun a r => { r with totalSales := a }),
    amountJson.field "cashSales" Shift.cashSales (fun a r => { r with cashSales := a }),
    Codec.int.field "salesCount" Shift.salesCount (fun a r => { r with salesCount := a }),
    Codec.string.omitZero rfl "note" Shift.note (fun a r => { r with note := a })]
    ⟨"", "", "", 0, 0, 0, 0, 0, 0, .ofName "", 0, 0, 0, ""⟩ (by decide)).exact (fun r => by cases r; rfl)

def cashMovementJson : Codec JsonText CashMovement :=
  (record [
    Codec.string.field "id" CashMovement.id (fun a r => { r with id := a }),
    Codec.string.field "shiftId" CashMovement.shiftID (fun a r => { r with shiftID := a }),
    (Codec.string.via MoveType.name .ofName MoveType.ofName_name).field "type" CashMovement.type
      (fun a r => { r with type := a }),
    amountJson.field "amount" CashMovement.amount (fun a r => { r with amount := a }),
    Codec.string.field "reason" CashMovement.reason (fun a r => { r with reason := a }),
    Codec.string.field "staffId" CashMovement.staffID (fun a r => { r with staffID := a }),
    Codec.string.field "staffName" CashMovement.staffName (fun a r => { r with staffName := a }),
    Codec.int.field "timestamp" CashMovement.timestamp (fun a r => { r with timestamp := a })]
    ⟨"", "", .ofName "", 0, "", "", "", 0⟩ (by decide)).exact (fun r => by cases r; rfl)

/-- The order of a line is not written: it is the order the line stands in. -/
def orderItemJson : Codec JsonText PurchaseOrderItem :=
  record [
    Codec.nat.field "id" PurchaseOrderItem.id (fun a r => { r with id := a }),
    Codec.string.field "productId" PurchaseOrderItem.productID (fun a r => { r with productID := a }),
    Codec.string.field "productName" PurchaseOrderItem.productName (fun a r => { r with productName := a }),
    Codec.rat.field "quantity" PurchaseOrderItem.quantity (fun a r => { r with quantity := a }),
    Codec.rat.field "receivedQty" PurchaseOrderItem.receivedQty (fun a r => { r with receivedQty := a }),
    amountJson.field "unitCost" PurchaseOrderItem.unitCost (fun a r => { r with unitCost := a }),
    amountJson.field "total" PurchaseOrderItem.total (fun a r => { r with total := a })]
    ⟨0, "", "", "", 0, 0, 0, 0⟩ (by decide)

def orderJson : Codec JsonText PurchaseOrder :=
  record [
    Codec.string.field "id" (fun r => r.id) (fun a r => { r with id := a }),
    Codec.string.field "supplierId" (fun r => r.supplierID) (fun a r => { r with supplierID := a }),
    Codec.string.field "supplierName" (fun r => r.supplierName) (fun a r => { r with supplierName := a }),
    (Codec.string.via PurchaseOrderStatus.name .ofName PurchaseOrderStatus.ofName_name).field "status"
      (fun r => r.status) (fun a r => { r with status := a }),
    amountJson.field "totalAmount" (fun r => r.totalAmount) (fun a r => { r with totalAmount := a }),
    amountJson.field "paidAmount" (fun r => r.paidAmount) (fun a r => { r with paidAmount := a }),
    Codec.string.omitZero rfl "note" (fun r => r.note) (fun a r => { r with note := a }),
    Codec.int.field "createdAt" (fun r => r.createdAt) (fun a r => { r with createdAt := a }),
    Codec.int.omitZero rfl "receivedAt" (fun r => r.receivedAt) (fun a r => { r with receivedAt := a }),
    (Codec.list orderItemJson).field "items" PurchaseOrder.items (fun a r => { r with items := a })]
    ⟨⟨"", "", "", .ofName "", 0, 0, "", 0, 0⟩, []⟩ (by decide)

def databaseJson : Codec JsonText DatabaseExport :=
  record [
    productJson.list.field "products" DatabaseExport.products (fun a r => { r with products := a }),
    saleJson.list.field "sales" DatabaseExport.sales (fun a r => { r with sales := a }),
    customerJson.list.field "customers" DatabaseExport.customers (fun a r => { r with customers := a }),
    supplierJson.list.field "suppliers" DatabaseExport.suppliers (fun a r => { r with suppliers := a }),
    expenseJson.list.field "expenses" DatabaseExport.expenses (fun a r => { r with expenses := a }),
    categoryJson.list.field "categories" DatabaseExport.categories (fun a r => { r with categories := a }),
    stockMovementJson.list.field "stockMovements" DatabaseExport.stockMovements
      (fun a r => { r with stockMovements := a }),
    (preferencesJson.nullable (fun _ => nofun)).field "preferences" DatabaseExport.preferences
      (fun a r => { r with preferences := a }),
    staffJson.list.field "staff" DatabaseExport.staff (fun a r => { r with staff := a }),
    paymentJson.list.field "payments" DatabaseExport.payments (fun a r => { r with payments := a }),
    parkedSaleJson.list.field "parkedSales" DatabaseExport.parkedSales (fun a r => { r with parkedSales := a }),
    shiftJson.list.field "shifts" DatabaseExport.shifts (fun a r => { r with shifts := a }),
    cashMovementJson.list.field "cashMovements" DatabaseExport.cashMovements
      (fun a r => { r with cashMovements := a }),
    orderJson.list.field "purchaseOrders" DatabaseExport.purchaseOrders (fun a r => { r with purchaseOrders := a }),
    orderItemJson.list.field "purchaseOrderItems" DatabaseExport.purchaseOrderItems
      (fun a r => { r with purchaseOrderItems := a })]
    ⟨[], [], [], [], [], [], [], none, [], [], [], [], [], [], []⟩ (by decide)

end Codecs

end BeidarPos
