import BeidarPos.Keyed
import BeidarPos.Money
import BeidarPos.Table

/-! The rows the services read and write, and the errors they answer with. A sale is
stored whole, as the client sent it. -/
namespace BeidarPos

/-- Text put together from a template and the values printed into it. -/
inductive Arg where
  | text (s : String)
  | amount (a : Int)
  | quantity (q : ℚ)
  | number (n : Int)
  deriving DecidableEq

inductive Text where
  | plain (s : String)
  | message (key : String) (args : List Arg)
  | hint (key : String)
  | format (template : String) (args : List Arg)
  deriving DecidableEq

/-- The client names the method; a name the code does not compare with is `other`. -/
inductive PaymentMethod where
  | cash | card | credit | installment | split
  | other (name : String)
      (unlisted : name ∉ ["cash", "card", "credit", "installment", "split"])
  deriving DecidableEq

inductive SaleStatus where
  | pending | completed | paid | partialReturn | returned
  | other (name : String)
      (unlisted : name ∉ ["pending", "completed", "paid", "partial_return", "returned"])
  deriving DecidableEq

inductive InstallmentStatus where
  | pending | paid | overdue
  | other (name : String) (unlisted : name ∉ ["pending", "paid", "overdue"])
  deriving DecidableEq

inductive ShiftStatus where
  | «open» | closed
  deriving DecidableEq

inductive MoveType where
  | cashIn | cashOut
  | other (name : String) (unlisted : name ∉ ["cash_in", "cash_out"])
  deriving DecidableEq

/-- `customDetails` is the text of its column, `none` where the column is null. -/
structure Product where
  id : String
  name : String
  barcode : String
  price : Int
  cost : Int
  stock : ℚ
  minStock : ℚ
  category : String
  image : String
  supplier : String
  wholesalePrice : Int
  description : String
  customDetails : Option String
  deriving DecidableEq

structure StockMovement where
  productID : String
  productName : String
  type : String
  qty : ℚ
  reason : String
  timestamp : Int
  deriving DecidableEq

structure Customer where
  id : String
  name : String
  phone : String
  debt : Int
  installmentDebt : Int
  totalPurchases : Int
  lastVisit : String
  points : Int
  notes : String
  deriving DecidableEq

structure Installment where
  number : Int
  dueDate : String
  amount : Int
  status : InstallmentStatus
  paidAt : Int
  deriving DecidableEq

/-- `schedule` is `none` where the source's slice is nil. -/
structure InstallmentPlan where
  totalAmount : Int
  downPayment : Int
  months : Int
  startDate : String
  schedule : Option (List Installment)
  deriving DecidableEq

def InstallmentPlan.entries (plan : InstallmentPlan) : List Installment := plan.schedule.getD []

/-- The legs of a split payment: one amount for each method named. -/
structure SplitDetails where
  legs : List (PaymentMethod × Int)
  distinct : (legs.map Prod.fst).Nodup

@[ext] theorem SplitDetails.ext {a b : SplitDetails} (h : a.legs = b.legs) : a = b := by
  cases a; cases b; cases h; rfl

instance : DecidableEq SplitDetails := fun a b =>
  decidable_of_iff (a.legs = b.legs) ⟨SplitDetails.ext, fun h => h ▸ rfl⟩

/-- A map read of the source: the amount of a method, when the method is named. -/
abbrev legOf (legs : List (PaymentMethod × Int)) (m : PaymentMethod) : Option Int := Keyed.valueOf legs m

def SplitDetails.get (split : SplitDetails) (m : PaymentMethod) : Int := (legOf split.legs m).getD 0

def SplitDetails.total (split : SplitDetails) : Int := (split.legs.map Prod.snd).sum

/-- The columns of a sale. -/
structure SaleRow where
  id : String
  customerID : String
  customerName : String
  staffID : String
  staffName : String
  date : String
  timestamp : Int
  subtotal : Int
  discount : Int
  vat : Int
  total : Int
  paymentMethod : PaymentMethod
  status : SaleStatus
  itemsCount : ℚ
  splitDetails : Option SplitDetails
  installmentPlan : Option InstallmentPlan
  note : String
  pointsAwarded : Int
  zohoSynced : Bool
  deriving DecidableEq

structure SaleItem where
  id : Nat
  saleID : String
  productID : String
  name : String
  price : Int
  quantity : ℚ
  total : Int
  cost : Int
  discount : Int
  returnedQty : ℚ
  deriving DecidableEq

/-- A sale with its lines, as a client sends it and as a preload returns it. -/
structure Sale extends SaleRow where
  items : List SaleItem
  deriving DecidableEq

structure Payment where
  id : Nat
  saleID : String
  customerID : String
  amount : Int
  method : PaymentMethod
  note : Text
  timestamp : Int
  staffID : String
  instIndex : Int
  deriving DecidableEq

structure Shift where
  id : String
  staffID : String
  staffName : String
  openTime : Int
  closeTime : Int
  openingBalance : Int
  closingBalance : Int
  expectedBalance : Int
  variance : Int
  status : ShiftStatus
  totalSales : Int
  cashSales : Int
  salesCount : Int
  note : String
  deriving DecidableEq

structure CashMovement where
  id : String
  shiftID : String
  type : MoveType
  amount : Int
  reason : String
  staffID : String
  staffName : String
  timestamp : Int
  deriving DecidableEq

structure AppPreferences where
  id : Nat
  storeName : String
  storeAddress : String
  storePhone : String
  currency : String
  taxRate : ℚ
  theme : String
  accentColor : String
  enableSound : Bool
  language : String
  lowStockTrigger : Int
  adminPin : String
  geminiAPIKey : String
  geminiAPIKeys : List String
  fontSize : String
  autoLockTime : Int
  quickSell : Bool
  autoPrint : Bool
  autoPrintFormat : String
  thermalPaperSize : String
  requireShift : Bool
  cloudAutoSync : Bool
  receiptPrinter : String
  labelPrinter : String
  aiProvider : String
  aiModel : String
  aiRotationMode : String
  groqAPIKey : String
  deriving DecidableEq

structure AuditLog where
  staffID : String
  action : String
  entity : String
  entityID : String
  details : Text
  deriving DecidableEq

inductive ErrorModule where
  | staff | product | customer | sales | payment | finance | inventory | discount
  deriving DecidableEq

structure AppError where
  module : ErrorModule
  code : String
  message : Text
  hint : Text
  field : String
  allowForce : Bool
  deriving DecidableEq

/-- What a service or repository call can answer with instead of a result. -/
inductive Failure where
  | app (e : AppError)
  | plain (message : Text)
  | wrapped (message : Text) (cause : Failure)
  | insufficientStock
  | recordNotFound
  | constraint (table : String)
  | notAuthenticated
  | insufficientPermission
  deriving DecidableEq

/-- An application error whose message and hint are looked up under one key. -/
def AppError.keyed (module : ErrorModule) (code key : String) (args : List Arg) (field : String) : Failure :=
  .app ⟨module, code, .message key args, .hint key, field, false⟩

/-- An application error with its texts written out. -/
def AppError.texts (module : ErrorModule) (code : String) (message : Text) (hint field : String) : Failure :=
  .app ⟨module, code, message, .plain hint, field, false⟩

inductive Role where
  | admin | manager | cashier | viewer
  | other (name : String) (unlisted : name ∉ ["admin", "manager", "cashier", "viewer"])
  deriving DecidableEq

structure Actor where
  authenticated : Bool
  staffID : String
  deviceID : String
  role : Role
  permissions : List String
  deriving DecidableEq

def PermDiscounts : String := "discounts"

def Actor.hasPermission (a : Actor) (perm : String) : Bool :=
  if a.authenticated = false then false
  else if a.role = .admin then true
  else a.permissions.contains perm

/-- A visiting order of the entries of a map: the source leaves it open, and only
that every entry is visited once is known. -/
structure MapOrder where
  visit : List (PaymentMethod × Int) → List (PaymentMethod × Int)
  perm : ∀ legs, (visit legs).Perm legs

def MapOrder.stored : MapOrder := ⟨id, fun _ => List.Perm.refl _⟩

/-- What a call takes from its surroundings: the clock, a fresh identifier, and the
order in which each of its map loops visits. -/
structure Env where
  date : String
  millis : Int
  unix : Int
  freshID : String
  order : Nat → MapOrder

end BeidarPos
