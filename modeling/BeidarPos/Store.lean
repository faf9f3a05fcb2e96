import BeidarPos.Models
import BeidarPos.Journal

/-! The tables, the repository calls on them, and the journal every transaction
writes. One connection serves all transactions, so each runs alone. Sums inside an
UPDATE are the database's own and do not pass through a machine word. -/
namespace BeidarPos

open Relational Journal

structure Store where
  products : Table Product.id
  stockMovements : List StockMovement
  customers : Table Customer.id
  sales : Table SaleRow.id
  saleItems : Serial SaleItem.id
  payments : Serial Payment.id
  shifts : Table Shift.id
  cashMovements : Table CashMovement.id
  preferences : Option AppPreferences
  auditLogs : List AuditLog
  deriving DecidableEq

def Store.empty : Store :=
  ⟨.empty, [], .empty, .empty, .empty, .empty, .empty, .empty, none, []⟩

/-- `CASE WHEN a - b < 0 THEN 0 ELSE a - b END`. -/
def clampSub (a b : Int) : Int := if a - b < 0 then 0 else a - b

def Shift.addSale (saleTotal cashAmount : Int) (isNewSale : Bool) (s : Shift) : Shift :=
  { s with
    totalSales := s.totalSales + saleTotal
    cashSales := s.cashSales + cashAmount
    expectedBalance := s.expectedBalance + cashAmount
    salesCount := if isNewSale then s.salesCount + 1 else s.salesCount }

theorem Shift.addSale_id (s : Shift) : (s.addSale saleTotal cashAmount isNewSale).id = s.id := rfl

def Shift.subRefund (totalRefund cashRefund : Int) (isFullReturn : Bool) (s : Shift) : Shift :=
  { s with
    totalSales := clampSub s.totalSales totalRefund
    cashSales := clampSub s.cashSales cashRefund
    expectedBalance := clampSub s.expectedBalance cashRefund
    salesCount := if isFullReturn then clampSub s.salesCount 1 else s.salesCount }

theorem Shift.subRefund_id (s : Shift) : (s.subRefund totalRefund cashRefund isFullReturn).id = s.id := rfl

/-- A has-many save of one line: a line without a number is inserted under the next
one; a line whose number is taken only moves the row that has it to the sale. -/
def saveItem (saleID : String) (t : Serial SaleItem.id) (item : SaleItem) : Serial SaleItem.id :=
  if item.id = 0 then t.append (fun n => { item with id := n, saleID := saleID }) (fun _ => rfl)
  else
    match t.insert? { item with saleID := saleID } with
    | some t' => t'
    | none => t.modify item.id (fun row => { row with saleID := saleID }) (fun _ => rfl)

def saveItems (saleID : String) (t : Serial SaleItem.id) (items : List SaleItem) : Serial SaleItem.id :=
  items.foldl (saveItem saleID) t

namespace Store

variable (db : Store)

/-- The lines of a sale, as its preload lists them. -/
def itemsOf (saleID : String) : List SaleItem :=
  db.saleItems.rows.filter (fun item => item.saleID = saleID)

def getSale (id : String) : Option Sale :=
  (db.sales.find? id).map fun row => { row with items := db.itemsOf id }

/-- The line of lowest number of the sale with the product. -/
def getSaleItem (saleID productID : String) : Option SaleItem :=
  ((db.itemsOf saleID).filter (fun item => item.productID = productID)).argmin SaleItem.id

def activeShift : Option Shift := db.shifts.rows.find? (fun shift => shift.status = .open)

/-- The identifier an update of the open shift goes to; an empty one counts as none. -/
def openShiftID : Option String :=
  match db.activeShift with
  | none => none
  | some shift => if shift.id = "" then none else some shift.id

def getCashInAndOut (shiftID : String) : Int × Int :=
  let sumOf := fun (type : MoveType) =>
    ((db.cashMovements.rows.filter fun m => m.shiftID = shiftID ∧ m.type = type).map CashMovement.amount).sum
  (sumOf .cashIn, sumOf .cashOut)

def updateStock (id : String) (qty : ℚ) : Except Failure Store :=
  match db.products.find? id with
  | none => .error .insufficientStock
  | some product =>
    if 0 ≤ product.stock + qty then
      .ok { db with products := db.products.modify id (fun p => { p with stock := p.stock + qty }) (fun _ => rfl) }
    else .error .insufficientStock

def createSale (sale : Sale) : Except Failure Store :=
  match db.sales.insert? sale.toSaleRow with
  | none => .error (.constraint "sales")
  | some sales => .ok { db with sales := sales, saleItems := saveItems sale.id db.saleItems sale.items }

/-- A save of a loaded sale: its row is rewritten, its lines are saved as above. -/
def updateSale (sale : Sale) : Store :=
  { db with
    sales := db.sales.put sale.toSaleRow
    saleItems := saveItems sale.id db.saleItems sale.items }

def updateSaleItem (item : SaleItem) : Store := { db with saleItems := db.saleItems.put item }

def updateSaleInstallmentPlan (saleID : String) (plan : InstallmentPlan) (status : SaleStatus) : Store :=
  { db with
    sales := db.sales.modify saleID
      (fun row => { row with installmentPlan := some plan, status := status }) (fun _ => rfl) }

def createPayment (p : Payment) : Except Failure Store :=
  if p.id = 0 then .ok { db with payments := db.payments.append (fun n => { p with id := n }) (fun _ => rfl) }
  else
    match db.payments.insert? p with
    | some payments => .ok { db with payments := payments }
    | none => .error (.constraint "payments")

def updateCustomer (id : String) (f : Customer → Customer) (keeps : ∀ c, (f c).id = c.id) : Store :=
  { db with customers := db.customers.modify id f keeps }

def updateShiftSales (saleTotal cashAmount : Int) (isNewSale requireShift : Bool) : Except Failure Store :=
  match db.openShiftID with
  | none =>
    if requireShift then .error (.plain (.plain "لا يوجد شفت مفتوح. يرجى فتح شفت قبل البيع")) else .ok db
  | some id => .ok { db with
      shifts := db.shifts.modify id (Shift.addSale saleTotal cashAmount isNewSale) (fun _ => rfl) }

def updateShiftRefunds (totalRefund cashRefund : Int) (isFullReturn : Bool) : Store :=
  match db.openShiftID with
  | none => db
  | some id => { db with
      shifts := db.shifts.modify id (Shift.subRefund totalRefund cashRefund isFullReturn) (fun _ => rfl) }

/-- A save of a shift rewrites its row, or inserts it when there is none. -/
def saveShift (shift : Shift) : Store :=
  match db.shifts.insert? shift with
  | some shifts => { db with shifts := shifts }
  | none => { db with shifts := db.shifts.put shift }

def createCashMovement (move : CashMovement) : Except Failure Store :=
  match db.cashMovements.insert? move with
  | some moves => .ok { db with cashMovements := moves }
  | none => .error (.constraint "cash_movements")

end Store

def Customer.decrementPurchases (amount : Int) (c : Customer) : Customer :=
  { c with totalPurchases := clampSub c.totalPurchases amount }

def Customer.adjustPoints (delta : Int) (c : Customer) : Customer :=
  { c with points := if 0 ≤ delta then c.points + delta else clampSub c.points (-delta) }

def Customer.decrementDebt (amount : Int) (c : Customer) : Customer := { c with debt := clampSub c.debt amount }

def Customer.decrementInstallmentDebt (amount : Int) (c : Customer) : Customer :=
  { c with installmentDebt := clampSub c.installmentDebt amount }

def Customer.incrementPurchasesAndDebt (totalPurchases points debtIncrease installmentDebtIncrease : Int)
    (lastVisit : String) (c : Customer) : Customer :=
  { c with
    totalPurchases := c.totalPurchases + totalPurchases
    lastVisit := lastVisit
    points := c.points + points
    debt := if 0 < debtIncrease then c.debt + debtIncrease else c.debt
    installmentDebt :=
      if 0 < installmentDebtIncrease then c.installmentDebt + installmentDebtIncrease else c.installmentDebt }

/-- The repository calls that write, with their arguments. -/
inductive Write where
  | updateStock (id : String) (qty : ℚ)
  | createStockMovement (movement : StockMovement)
  | createSale (sale : Sale)
  | updateSale (sale : Sale)
  | updateSaleItem (item : SaleItem)
  | updateSaleInstallmentPlan (saleID : String) (plan : InstallmentPlan) (status : SaleStatus)
  | createPayment (payment : Payment)
  | incrementPurchasesAndDebt (id : String) (totalPurchases points debt installmentDebt : Int) (lastVisit : String)
  | decrementPurchases (id : String) (amount : Int)
  | adjustPoints (id : String) (delta : Int)
  | decrementDebt (id : String) (amount : Int)
  | decrementInstallmentDebt (id : String) (amount : Int)
  | updateShiftSales (saleTotal cashAmount : Int) (isNewSale requireShift : Bool)
  | updateShiftRefunds (totalRefund cashRefund : Int) (isFullReturn : Bool)
  | saveShift (shift : Shift)
  | createCashMovement (move : CashMovement)
  | log (entry : AuditLog)
  deriving DecidableEq

def Write.apply : Write → Store → Except Failure Store
  | .updateStock id qty, db => db.updateStock id qty
  | .createStockMovement m, db => .ok { db with stockMovements := db.stockMovements ++ [m] }
  | .createSale sale, db => db.createSale sale
  | .updateSale sale, db => .ok (db.updateSale sale)
  | .updateSaleItem item, db => .ok (db.updateSaleItem item)
  | .updateSaleInstallmentPlan id plan status, db => .ok (db.updateSaleInstallmentPlan id plan status)
  | .createPayment p, db => db.createPayment p
  | .incrementPurchasesAndDebt id total points debt inst visit, db =>
    .ok (db.updateCustomer id (Customer.incrementPurchasesAndDebt total points debt inst visit) (fun _ => rfl))
  | .decrementPurchases id amount, db =>
    .ok (db.updateCustomer id (Customer.decrementPurchases amount) (fun _ => rfl))
  | .adjustPoints id delta, db => .ok (db.updateCustomer id (Customer.adjustPoints delta) (fun _ => rfl))
  | .decrementDebt id amount, db => .ok (db.updateCustomer id (Customer.decrementDebt amount) (fun _ => rfl))
  | .decrementInstallmentDebt id amount, db =>
    .ok (db.updateCustomer id (Customer.decrementInstallmentDebt amount) (fun _ => rfl))
  | .updateShiftSales total cash isNew require, db => db.updateShiftSales total cash isNew require
  | .updateShiftRefunds total cash full, db => .ok (db.updateShiftRefunds total cash full)
  | .saveShift shift, db => .ok (db.saveShift shift)
  | .createCashMovement move, db => db.createCashMovement move
  | .log entry, db => .ok { db with auditLogs := db.auditLogs ++ [entry] }

/-- A service call: its body runs inside one database transaction. -/
abbrev DbTx := Tx Write.apply

end BeidarPos
