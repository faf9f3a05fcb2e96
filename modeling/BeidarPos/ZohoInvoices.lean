import BeidarPos.CartTotal
import BeidarPos.DocumentLines
import BeidarPos.NetQuantities

/-! The invoices sent to the books. A pass loads the sales that are not synced yet and sends them
one by one while the counter goes on. An invoice lists the lines of its sale at their prices; of
discounts, the tax and what came back it has nothing. -/
namespace BeidarPos

open Machine Relational Journal Tx

structure ZohoConfig where
  refreshToken : String
  organizationID : String
  enabled : Bool

structure ZohoLineItem where
  name : String
  rate : ℚ
  quantity : ℚ

structure ZohoInvoice where
  customerName : String
  date : String
  lineItems : List ZohoLineItem
  notes : String
  referenceNumber : String

structure ZohoSyncQueue where
  saleID : String
  createdAt : String
  retries : Int

structure ZohoRequest where
  url : String
  authorization : String
  invoice : ZohoInvoice

structure ZohoResponse where
  statusCode : Int
  body : String

/-- What one call is answered: by the configuration, where `none` is that there is none yet, by the
token service, the books and the clock, and whether the sale's update goes through. -/
structure ZohoAnswer where
  config : Except String (Option ZohoConfig)
  accessToken : Except String String
  response : Except String ZohoResponse
  now : String
  marked : Bool

namespace Store

variable (db : Store)

def getUnsyncedSales : List Sale :=
  (db.sales.rows.filter fun row => row.zohoSynced = false).map fun row => ⟨row, db.itemsOf row.id⟩

def markSaleAsSynced (id : String) : Store :=
  { db with sales := db.sales.modify id (fun row => { row with zohoSynced := true }) (fun _ => rfl) }

/-- The tax a checkout puts on an amount. -/
def taxOn (amount : Int) : Int := if 0 < db.taxRate then Amount.percentage .exact amount db.taxRate else 0

end Store

/-- The queue is in memory; the database alone says what is sent. -/
structure ZohoState where
  db : Store
  syncQueue : List ZohoSyncQueue
  posted : List ZohoRequest

def ZohoState.addToSyncQueue (now saleID : String) (s : ZohoState) : ZohoState :=
  if ∃ item ∈ s.syncQueue, item.saleID = saleID then s
  else { s with syncQueue := s.syncQueue ++ [⟨saleID, now, 0⟩] }

/-- `none` where the source follows a nil pointer. -/
def isZohoEnabled : Except String (Option ZohoConfig) → Option Bool
  | .error _ => some false
  | .ok none => none
  | .ok (some config) => some (config.enabled && config.refreshToken ≠ "")

def zohoInvoice (sale : Sale) : ZohoInvoice where
  customerName := sale.customerName
  date := sale.date
  lineItems := sale.items.map fun item => ⟨item.name, Amount.float item.price, item.quantity⟩
  notes := "Beidar POS - Sale #" ++ sale.id
  referenceNumber := sale.id

def zohoRequest (config : ZohoConfig) (token : String) (sale : Sale) : ZohoRequest where
  url := "https://www.zohoapis.com/books/v3/invoices?organization_id=" ++ config.organizationID
  authorization := "Zoho-oauthtoken " ++ token
  invoice := zohoInvoice sale

/-- The state after the call and its error; `none` where a nil pointer ends the program. -/
def createZohoInvoice (answer : ZohoAnswer) (sale : Sale) (s : ZohoState) : Option (ZohoState × Option String) :=
  match isZohoEnabled answer.config, answer.config with
  | none, _ => none
  | some false, _ => some (s, none)
  | some true, .error err => some (s, some err)
  | some true, .ok none => none
  | some true, .ok (some config) =>
    match answer.accessToken with
    | .error err => some (s.addToSyncQueue answer.now sale.id, some err)
    | .ok token =>
      let s := { s with posted := s.posted ++ [zohoRequest config token sale] }
      match answer.response with
      | .error err => some (s.addToSyncQueue answer.now sale.id, some err)
      | .ok response =>
        if response.statusCode ≠ 200 ∧ response.statusCode ≠ 201 then
          some (s.addToSyncQueue answer.now sale.id, some ("zoho API error: " ++ response.body))
        else some (if answer.marked then { s with db := s.db.markSaleAsSynced sale.id } else s, none)

/-- The loop of a pass; what a call answers is not looked at. -/
def createZohoInvoices : (Nat → ZohoAnswer) → List Sale → ZohoState → Option ZohoState
  | _, [], s => some s
  | answers, sale :: sales, s =>
    (createZohoInvoice (answers 0) sale s).bind fun next => createZohoInvoices (fun n => answers (n + 1)) sales next.1

def processSyncQueue (config : Except String (Option ZohoConfig)) (queried : Bool) (answers : Nat → ZohoAnswer)
    (s : ZohoState) : Option ZohoState :=
  (isZohoEnabled config).bind fun enabled =>
    if enabled = false ∨ queried = false then some s
    else createZohoInvoices answers s.db.getUnsyncedSales s

/-- The program with the sales its passes have loaded and not sent yet. -/
structure ZohoSystem extends ZohoState where
  unsyncedSales : List Sale

/-- A call at the counter, a change that leaves the sales alone, a pass that begins, and a pass that
sends one of its sales. -/
inductive ZohoStep where
  | call (env : Env) (c : Call)
  | elsewhere (change : Store → Store) (keeps : ∀ db, SameSales db (change db))
  | load (config : Except String (Option ZohoConfig)) (queried : Bool)
  | send (index : Nat) (answer : ZohoAnswer)

namespace ZohoSystem

variable (s : ZohoSystem)

/-- What is in memory is gone when the program ends. -/
def restart : ZohoSystem := { s with syncQueue := [], unsyncedSales := [] }

def load (config : Except String (Option ZohoConfig)) (queried : Bool) : ZohoSystem :=
  match isZohoEnabled config with
  | none => s.restart
  | some enabled =>
    if enabled = false ∨ queried = false then s
    else { s with unsyncedSales := s.unsyncedSales ++ s.db.getUnsyncedSales }

def send (index : Nat) (answer : ZohoAnswer) : ZohoSystem :=
  match s.unsyncedSales[index]? with
  | none => s
  | some sale =>
    match createZohoInvoice answer sale s.toZohoState with
    | none => s.restart
    | some (state, _) => ⟨state, s.unsyncedSales.eraseIdx index⟩

end ZohoSystem

def ZohoStep.next : ZohoStep → ZohoSystem → ZohoSystem
  | .call env c, s => { s with db := (c.body .exact env).commit s.db }
  | .elsewhere change _, s => { s with db := change s.db }
  | .load config queried, s => s.load config queried
  | .send index answer, s => s.send index answer

def ZohoSystem.run (steps : List ZohoStep) (s : ZohoSystem) : ZohoSystem := steps.foldl (fun s step => step.next s) s

/-- What the lines come to before anything is taken off them, in hundredths. -/
def listed (items : List SaleItem) : ℚ := (items.map fun item => (item.price : ℚ) * item.quantity).sum

def linesTotal (items : List SaleItem) : Int := (items.map (lineTotal .exact)).sum

def ZohoInvoice.amount (invoice : ZohoInvoice) : ℚ :=
  (invoice.lineItems.map fun line => line.rate * line.quantity).sum

/-- The invoice asks for what its sale comes to, and the sale has not come back. -/
def InvoiceRight (db : Store) (invoice : ZohoInvoice) : Prop :=
  ∃ row ∈ db.sales.find? invoice.referenceNumber,
    invoice.amount = Amount.float row.total ∧ row.status ≠ .returned

instance (db : Store) (invoice : ZohoInvoice) : Decidable (InvoiceRight db invoice) :=
  inferInstanceAs (Decidable (∃ row ∈ _, _))

def NotReturned (db : Store) (saleID : String) : Prop := ∃ row ∈ db.sales.find? saleID, row.status ≠ .returned

instance (db : Store) (saleID : String) : Decidable (NotReturned db saleID) :=
  inferInstanceAs (Decidable (∃ row ∈ _, _))

/-- Discounts, rounding and refunds take as much off the listed prices as the tax puts on them. -/
def Balanced (db : Store) (request : Sale) (prices : ℚ) (refunds : Int) : Prop :=
  prices - linesTotal request.items + request.discount + refunds =
    db.taxOn (linesTotal request.items - request.discount)

instance (db : Store) (request : Sale) (prices : ℚ) (refunds : Int) : Decidable (Balanced db request prices refunds) :=
  inferInstanceAs (Decidable (_ = _))

/-- What an accepted call pays back for a part of the sale. -/
def Call.partRefund (saleID : String) (db : Store) : Call → Int
  | .returnSalePartial id productID qty => if id = saleID then returnValue .exact db id (.part productID qty) else 0
  | _ => 0

def ZohoStep.partRefund (saleID : String) (db : Store) : ZohoStep → Int
  | .call env c => if (c.body .exact env).accepts db then c.partRefund saleID db else 0
  | _ => 0

/-- The value the partial returns of a run took off the sale. -/
def partRefunds (saleID : String) : List ZohoStep → ZohoSystem → Int
  | [], _ => 0
  | step :: steps, s => step.partRefund saleID s.db + partRefunds saleID steps (step.next s)

/-- A sale of it brings its lines without numbers. -/
def ZohoStep.Unnumbered : ZohoStep → Prop
  | .call _ (.processSale _ request) => ∀ item ∈ request.items, item.id = 0
  | _ => True

section Sync

variable {answer : ZohoAnswer} {sale : Sale} {s : ZohoState} {system : ZohoSystem}

theorem addToSyncQueue_keeps (now saleID : String) (s : ZohoState) :
    (s.addToSyncQueue now saleID).db = s.db ∧ (s.addToSyncQueue now saleID).posted = s.posted := by
  unfold ZohoState.addToSyncQueue
  split <;> exact ⟨rfl, rfl⟩

theorem zohoInvoice_amount (sale : Sale) : (zohoInvoice sale).amount = listed sale.items / 100 := by
  unfold ZohoInvoice.amount zohoInvoice listed
  simp only [List.map_map]
  induction sale.items with
  | nil => simp
  | cons item items ih =>
    rw [List.map_cons, List.sum_cons, ih, List.map_cons, List.sum_cons]
    simp only [Function.comp_apply, Amount.float]
    ring

/-- A call posts the invoice of its sale at most once and marks no other sale. -/
theorem createZohoInvoice_effect {next : ZohoState} {err : Option String}
    (done : createZohoInvoice answer sale s = some (next, err)) :
    (next.posted = s.posted ∨ ∃ request, request.invoice = zohoInvoice sale ∧ next.posted = s.posted ++ [request]) ∧
      (next.db = s.db ∨ next.db = s.db.markSaleAsSynced sale.id) := by
  unfold createZohoInvoice at done
  split at done
  · cases done
  · cases done
    exact ⟨.inl rfl, .inl rfl⟩
  · cases done
    exact ⟨.inl rfl, .inl rfl⟩
  · cases done
  · rename_i config _ _
    cases token : answer.accessToken with
    | error err =>
      simp only [token, Option.some.injEq, Prod.mk.injEq] at done
      obtain ⟨rfl, _⟩ := done
      obtain ⟨db, posted⟩ := addToSyncQueue_keeps answer.now sale.id s
      exact ⟨.inl posted, .inl db⟩
    | ok text =>
      have queued : ∀ next, next = ZohoState.addToSyncQueue answer.now sale.id
          { s with posted := s.posted ++ [zohoRequest config text sale] } →
          next.posted = s.posted ++ [zohoRequest config text sale] ∧ next.db = s.db := by
        rintro _ rfl
        obtain ⟨db, posted⟩ := addToSyncQueue_keeps answer.now sale.id
          { s with posted := s.posted ++ [zohoRequest config text sale] }
        exact ⟨posted, db⟩
      cases response : answer.response with
      | error err =>
        simp only [token, response, Option.some.injEq, Prod.mk.injEq] at done
        obtain ⟨posted, db⟩ := queued next done.1.symm
        exact ⟨.inr ⟨_, rfl, posted⟩, .inl db⟩
      | ok response' =>
        simp only [token, response] at done
        split at done
        · obtain ⟨posted, db⟩ := queued next (Prod.mk.inj (Option.some.inj done)).1.symm
          exact ⟨.inr ⟨_, rfl, posted⟩, .inl db⟩
        · obtain rfl := (Prod.mk.inj (Option.some.inj done)).1
          by_cases marked : answer.marked = true
          · rw [if_pos marked]
            exact ⟨.inr ⟨_, rfl, rfl⟩, .inr rfl⟩
          · rw [if_neg marked]
            exact ⟨.inr ⟨_, rfl, rfl⟩, .inl rfl⟩

theorem load_keeps (config : Except String (Option ZohoConfig)) (queried : Bool) :
    (system.load config queried).db = system.db ∧ (system.load config queried).posted = system.posted ∧
      ∀ sale ∈ (system.load config queried).unsyncedSales,
        sale ∈ system.unsyncedSales ∨ sale ∈ system.db.getUnsyncedSales := by
  unfold ZohoSystem.load
  split
  · exact ⟨rfl, rfl, fun _ member => by cases member⟩
  · split
    · exact ⟨rfl, rfl, fun _ member => .inl member⟩
    · exact ⟨rfl, rfl, fun _ member => List.mem_append.mp member⟩

theorem send_effect (index : Nat) (answer : ZohoAnswer) :
    ((system.send index answer).posted = system.posted ∨ ∃ request, ∃ sale ∈ system.unsyncedSales,
      request.invoice = zohoInvoice sale ∧ (system.send index answer).posted = system.posted ++ [request]) ∧
    ((system.send index answer).db = system.db ∨ ∃ id, (system.send index answer).db = system.db.markSaleAsSynced id) ∧
    ∀ sale ∈ (system.send index answer).unsyncedSales, sale ∈ system.unsyncedSales := by
  cases loaded : system.unsyncedSales[index]? with
  | none =>
    have same : system.send index answer = system := by simp only [ZohoSystem.send, loaded]
    rw [same]
    exact ⟨.inl rfl, .inl rfl, fun _ member => member⟩
  | some sale =>
    cases called : createZohoInvoice answer sale system.toZohoState with
    | none =>
      have ended : system.send index answer = system.restart := by simp only [ZohoSystem.send, loaded, called]
      rw [ended]
      exact ⟨.inl rfl, .inl rfl, fun _ member => by cases member⟩
    | some outcome =>
      have sent : system.send index answer = ⟨outcome.1, system.unsyncedSales.eraseIdx index⟩ := by
        simp only [ZohoSystem.send, loaded, called]
      obtain ⟨posted, db⟩ := createZohoInvoice_effect called
      rw [sent]
      refine ⟨posted.imp id ?_, db.imp id fun marked => ⟨sale.id, marked⟩, fun _ => List.mem_of_mem_eraseIdx⟩
      rintro ⟨request, invoice, added⟩
      exact ⟨request, sale, List.mem_of_getElem? loaded, invoice, added⟩

theorem createZohoInvoices_steps {answers : Nat → ZohoAnswer} {sales : List Sale} {s next : ZohoState}
    (done : createZohoInvoices answers sales s = some next) :
    ZohoSystem.run ((List.range sales.length).map fun i => .send 0 (answers i)) ⟨s, sales⟩ = ⟨next, []⟩ := by
  induction sales generalizing answers s with
  | nil =>
    cases done
    rfl
  | cons sale sales ih =>
    obtain ⟨after, called, rest⟩ := Option.bind_eq_some_iff.mp done
    have sent : ZohoSystem.send ⟨s, sale :: sales⟩ 0 (answers 0) = ⟨after.1, sales⟩ := by
      simp [ZohoSystem.send, called]
    have later := ih rest
    rw [List.length_cons, List.range_succ_eq_map, List.map_cons, List.map_map]
    change ZohoSystem.run _ (ZohoSystem.send ⟨s, sale :: sales⟩ 0 (answers 0)) = _
    rw [sent]
    exact later

/-- A pass that nothing interrupts loads and sends what it loaded, one after the other. -/
theorem processSyncQueue_steps {config : Except String (Option ZohoConfig)} {queried : Bool} {answers : Nat → ZohoAnswer}
    {s next : ZohoState} (done : processSyncQueue config queried answers s = some next) :
    ZohoSystem.run (.load config queried ::
      (List.range s.db.getUnsyncedSales.length).map fun i => .send 0 (answers i)) ⟨s, []⟩ = ⟨next, []⟩ := by
  obtain ⟨enabled, answered, rest⟩ := Option.bind_eq_some_iff.mp done
  change ZohoSystem.run _ (ZohoSystem.load ⟨s, []⟩ config queried) = _
  unfold ZohoSystem.load
  simp only [answered]
  by_cases nothing : enabled = false ∨ queried = false
  · rw [if_pos nothing] at rest ⊢
    cases rest
    generalize s.db.getUnsyncedSales.length = n
    unfold ZohoSystem.run
    induction n with
    | zero => rfl
    | succ n ih =>
      rw [List.range_succ, List.map_append, List.foldl_append, ih]
      rfl
  · rw [if_neg nothing] at rest ⊢
    exact createZohoInvoices_steps rest

end Sync

section Calls

variable {env : Env} {db final : Store} {c : Call} {ws : List Write} {id : String}

/-- A stored sale keeps its row, and of its total a call takes the refund of a part. -/
theorem call_total {row : SaleRow} (h : Does (c.body .exact env) db () ws final) (stored : db.sales.find? id = some row) :
    ∃ after, final.sales.find? id = some after ∧ after.total + c.partRefund id db = row.total := by
  rcases call_row h id with ⟨elsewhere, kept⟩ | ⟨_, _, _, facts, own, _⟩ | ⟨sale, rfl, loaded, now⟩ |
    ⟨productID, qty, item, sale, rfl, facts, now⟩ | ⟨index, _, _, sale, plan, _, rfl, facts, now⟩
  · have nothing : c.partRefund id db = 0 := by
      cases c with
      | returnSalePartial saleID productID qty => exact if_neg fun same => elsewhere same.symm
      | processSale | returnSale | createPayment | createPaymentForced | payInstallment | addCashMovement => rfl
    exact ⟨row, kept.trans stored, by rw [nothing, Int.add_zero]⟩
  · rw [own, facts.fresh] at stored
    cases stored
  · cases (getSale_row loaded).1.symm.trans stored
    exact ⟨_, now, Int.add_zero _⟩
  · cases (getSale_row facts.loaded).1.symm.trans stored
    have value : returnValue .exact db id (.part productID qty) = partialRefund .exact sale item qty := by
      simp [returnValue, facts.line, facts.loaded]
    have left := shrinkSale_total sale (returnedLine item qty) qty (partialRefund .exact sale item qty)
      (allReturned (db.saleItems.put (returnedLine item qty)) id) (partialRefund_le .exact sale item qty)
    refine ⟨_, now, ?_⟩
    rw [Call.partRefund, if_pos rfl, value, left]
    exact Int.sub_add_cancel _ _
  · cases (getSale_row facts.loaded).1.symm.trans stored
    exact ⟨_, now, Int.add_zero _⟩

/-- Every line belongs to a stored sale, and the stored lines were sold. -/
structure TiedLines (db : Store) : Prop where
  sold : LinesSold db.saleItems
  tied : ∀ line ∈ db.saleItems.rows, (db.sales.find? line.saleID).isSome

theorem put_parents {t : Serial SaleItem.id} {item line : SaleItem} (inside : item ∈ t.rows) (back : ℚ)
    (member : line ∈ (t.put (returnedLine item back)).rows) : ∃ old ∈ t.rows, old.saleID = line.saleID := by
  obtain ⟨old, before, rfl⟩ := List.mem_map.mp member
  split
  · exact ⟨item, inside, rfl⟩
  · exact ⟨old, before, rfl⟩

theorem call_tied (lines : TiedLines db) (h : Does (c.body .exact env) db () ws final) : TiedLines final := by
  refine ⟨call_keeps_lines (fun _ _ _ _ positive => positive) (fun _ facts => sale_quantities facts) lines.sold h,
    fun line member => ?_⟩
  have before : (∃ old ∈ db.saleItems.rows, old.saleID = line.saleID) → (final.sales.find? line.saleID).isSome := by
    rintro ⟨old, stored, same⟩
    exact sale_remains h.replays (same ▸ lines.tied old stored)
  rcases call_lines lines.sold h with ⟨_, same⟩ | ⟨actor, request, rfl, facts, saved⟩ |
    ⟨saleID, productID, qty, item, sale, rfl, facts, inside, written⟩
  · rw [same] at member
    exact before ⟨line, member, rfl⟩
  · rw [saved, saveItems_all] at member
    rcases HasMany.saveAll_parents member with own | old
    · change line.saleID = (stampSale env request).id at own
      have row := sold_row h
      rw [own, row]
      rfl
    · exact before ⟨line, old, rfl⟩
  · rw [written] at member
    exact before (put_parents (List.mem_filter.mp inside).1 qty member)

/-- What is neither the price nor the quantity does not matter. -/
theorem listed_map {lines : List SaleItem} {f : SaleItem → SaleItem}
    (same : ∀ line ∈ lines, (f line).price = line.price ∧ (f line).quantity = line.quantity) :
    listed (lines.map f) = listed lines := by
  unfold listed
  rw [List.map_map]
  refine congrArg List.sum (List.map_congr_left fun line member => ?_)
  obtain ⟨price, quantity⟩ := same line member
  simp only [Function.comp_apply, price, quantity]

/-- Lines sold without numbers are added under their sale, at the prices of the request. -/
theorem sold_lines {actor : Actor} {request : Sale} (unnumbered : ∀ item ∈ request.items, item.id = 0)
    (h : Does (processSaleAs .exact env actor request) db () ws final) :
    ∃ added, final.saleItems.rows = db.saleItems.rows ++ added ∧ listed added = listed request.items ∧
      ∀ line ∈ added, line.saleID = (stampSale env request).id := by
  have moved := saleLines_replayed h
  obtain ⟨facts, rfl⟩ := processSaleAs_does h
  rw [saleJournal_lines] at moved
  obtain ⟨added, rows, keyed, same⟩ := @saveItems_fresh (stampSale env request).id db.saleItems
    (pricedSale .exact env db request).items (soldCart_items fun item member _ => unnumbered item member)
  rw [← moved] at rows
  have bare : ∀ lines : List SaleItem, listed (lines.map SaleItem.bare) = listed lines :=
    fun _ => listed_map fun _ _ => ⟨rfl, rfl⟩
  have prices : listed (pricedSale .exact env db request).items = listed request.items := by
    rw [pricedSale_items facts.available]
    refine listed_map fun item _ => ?_
    unfold soldLine
    split <;> exact ⟨rfl, rfl⟩
  exact ⟨added, rows, by rw [← bare added, same, bare, prices], fun line member => (keyed line member).2⟩

theorem itemsOf_append {added : List SaleItem} (rows : final.saleItems.rows = db.saleItems.rows ++ added)
    (saleID : String) : final.itemsOf saleID = db.itemsOf saleID ++ added.filter fun line => line.saleID = saleID := by
  rw [Store.itemsOf, rows, List.filter_append]
  rfl

/-- A call keeps the prices the lines of a stored sale list, when it brings no line with a number. -/
theorem call_listed (lines : TiedLines db) (stored : (db.sales.find? id).isSome)
    (unnumbered : (ZohoStep.call env c).Unnumbered) (h : Does (c.body .exact env) db () ws final) :
    listed (final.itemsOf id) = listed (db.itemsOf id) := by
  rcases call_lines lines.sold h with ⟨_, same⟩ | ⟨actor, request, rfl, facts, _⟩ |
    ⟨saleID, productID, qty, item, sale, rfl, facts, inside, written⟩
  · rw [Store.itemsOf, same]
    rfl
  · obtain ⟨added, rows, _, own⟩ := sold_lines unnumbered h
    have none : added.filter (fun line => line.saleID = id) = [] := by
      refine List.filter_eq_nil_iff.mpr fun line member => ?_
      rw [own line member]
      intro taken
      have fresh := facts.fresh
      rw [of_decide_eq_true taken] at fresh
      rw [fresh] at stored
      cases stored
    rw [itemsOf_append rows, none, List.append_nil]
  · have member := (List.mem_filter.mp inside).1
    have kept : ∀ line ∈ db.saleItems.rows,
        (if line.id = (returnedLine item qty).id then returnedLine item qty else line) =
        { line with returnedQty := if line.id = item.id then item.returnedQty + qty else line.returnedQty } := by
      intro line there
      change (if line.id = item.id then _ else _) = _
      by_cases same : line.id = item.id
      · obtain rfl : line = item := Table.unique_row there member same
        rw [if_pos rfl, if_pos rfl]
        rfl
      · rw [if_neg same, if_neg same]
    rw [Store.itemsOf, written, Serial.put_rows, Table.put_rows, List.map_congr_left kept, List.filter_map]
    exact listed_map fun _ _ => ⟨rfl, rfl⟩

end Calls

section Runs

variable {step : ZohoStep} {steps : List ZohoStep} {s : ZohoSystem} {id : String} {prices : ℚ}

/-- The lines are the same, and so are the sales but for what is not their total. -/
structure SameTotals (db next : Store) : Prop where
  lines : next.saleItems = db.saleItems
  totals : ∀ id, (next.sales.find? id).map SaleRow.total = (db.sales.find? id).map SaleRow.total

theorem SameTotals.refl (db : Store) : SameTotals db db := ⟨rfl, fun _ => rfl⟩

theorem markSaleAsSynced_totals (db : Store) (saleID : String) : SameTotals db (db.markSaleAsSynced saleID) := by
  refine ⟨rfl, fun id => ?_⟩
  rw [Store.markSaleAsSynced, Table.find?_modify]
  split
  · rw [Option.map_map]
    rfl
  · rfl

/-- A step is an accepted call, or it leaves the lines and totals. -/
theorem step_db (step : ZohoStep) (s : ZohoSystem) :
    (∃ env c ws, step = .call env c ∧ Does (c.body .exact env) s.db () ws (step.next s).db ∧
      ∀ id, step.partRefund id s.db = c.partRefund id s.db) ∨
    (SameTotals s.db (step.next s).db ∧ ∀ id, step.partRefund id s.db = 0) := by
  cases step with
  | call env c =>
    by_cases accepted : (c.body .exact env).accepts s.db
    · exact .inl ⟨env, c, _, rfl, does_accepted accepted, fun id => if_pos accepted⟩
    · have same : (ZohoStep.next (.call env c) s).db = s.db := (commit_rejected accepted).1
      rw [same]
      exact .inr ⟨SameTotals.refl _, fun id => if_neg accepted⟩
  | elsewhere change keeps =>
    obtain ⟨sales, lines⟩ := keeps s.db
    exact .inr ⟨⟨lines, fun id => by rw [ZohoStep.next, sales]⟩, fun _ => rfl⟩
  | load config queried =>
    have same : (ZohoStep.next (.load config queried) s).db = s.db := (load_keeps config queried).1
    rw [same]
    exact .inr ⟨SameTotals.refl _, fun _ => rfl⟩
  | send index answer =>
    refine .inr ⟨?_, fun _ => rfl⟩
    change SameTotals s.db (s.send index answer).db
    rcases (send_effect index answer).2.1 with same | ⟨saleID, marked⟩
    · rw [same]
      exact SameTotals.refl _
    · rw [marked]
      exact markSaleAsSynced_totals _ _

theorem step_loaded (step : ZohoStep) {sale : Sale} (member : sale ∈ (step.next s).unsyncedSales) :
    sale ∈ s.unsyncedSales ∨ sale ∈ s.db.getUnsyncedSales := by
  cases step with
  | call env c => exact .inl member
  | elsewhere change keeps => exact .inl member
  | load config queried => exact (load_keeps config queried).2.2 sale member
  | send index answer => exact .inl ((send_effect index answer).2.2 sale member)

theorem step_posts {post : ZohoRequest} (posts : (step.next s).posted = s.posted ++ [post]) :
    ∃ sale ∈ s.unsyncedSales, post.invoice = zohoInvoice sale := by
  have quiet : (step.next s).posted ≠ s.posted := by simp [posts]
  cases step with
  | call env c => exact absurd rfl quiet
  | elsewhere change keeps => exact absurd rfl quiet
  | load config queried => exact absurd (load_keeps config queried).2.1 quiet
  | send index answer =>
    rcases (send_effect index answer).1 with same | ⟨request, sale, loaded, invoice, added⟩
    · exact absurd same quiet
    · obtain rfl : post = request := by simpa using posts.symm.trans added
      exact ⟨sale, loaded, invoice⟩

theorem unsynced_loaded {db : Store} {sale : Sale} (member : sale ∈ db.getUnsyncedSales) :
    (db.sales.find? sale.id).isSome ∧ sale.items = db.itemsOf sale.id := by
  obtain ⟨row, inside, rfl⟩ := List.mem_map.mp member
  refine ⟨?_, rfl⟩
  change (db.sales.find? row.id).isSome
  rw [Table.find?_of_mem (List.mem_filter.mp inside).1]
  rfl

theorem step_total (step : ZohoStep) {row : SaleRow} (stored : s.db.sales.find? id = some row) :
    ∃ after, (step.next s).db.sales.find? id = some after ∧ after.total + step.partRefund id s.db = row.total := by
  rcases step_db step s with ⟨env, c, ws, _, does, refund⟩ | ⟨same, nothing⟩
  · rw [refund]
    exact call_total does stored
  · have totals := same.totals id
    rw [stored] at totals
    obtain ⟨after, found, total⟩ := Option.map_eq_some_iff.mp totals
    exact ⟨after, found, by rw [nothing, Int.add_zero, total]⟩

theorem run_total (steps : List ZohoStep) {row : SaleRow} (stored : s.db.sales.find? id = some row) :
    ∃ after, (s.run steps).db.sales.find? id = some after ∧ after.total + partRefunds id steps s = row.total := by
  induction steps generalizing s row with
  | nil => exact ⟨row, stored, Int.add_zero _⟩
  | cons step steps ih =>
    obtain ⟨next, found, first⟩ := step_total step stored
    obtain ⟨after, last, rest⟩ := ih found
    refine ⟨after, last, ?_⟩
    rw [partRefunds, ← first, ← rest]
    ring

/-- The lines belong to stored sales, and so does what was loaded. -/
structure ZohoSound (s : ZohoSystem) : Prop where
  lines : TiedLines s.db
  loaded : ∀ sale ∈ s.unsyncedSales, (s.db.sales.find? sale.id).isSome

/-- The lines of the sale list these prices, stored as well as loaded. -/
structure Lists (id : String) (prices : ℚ) (s : ZohoSystem) : Prop where
  sound : ZohoSound s
  stored : (s.db.sales.find? id).isSome
  kept : listed (s.db.itemsOf id) = prices
  loaded : ∀ sale ∈ s.unsyncedSales, sale.id = id → listed sale.items = prices

theorem step_stored (step : ZohoStep) (stored : (s.db.sales.find? id).isSome) :
    ((step.next s).db.sales.find? id).isSome := by
  obtain ⟨row, found⟩ := Option.isSome_iff_exists.mp stored
  obtain ⟨after, now, _⟩ := step_total step found
  rw [now]
  rfl

theorem ZohoSound.next (step : ZohoStep) (sound : ZohoSound s) : ZohoSound (step.next s) := by
  constructor
  · rcases step_db step s with ⟨env, c, ws, _, does, _⟩ | ⟨same, _⟩
    · exact call_tied sound.lines does
    · refine ⟨by rw [same.lines]; exact sound.lines.sold, fun line member => ?_⟩
      rw [same.lines] at member
      exact step_stored step (sound.lines.tied line member)
  · intro sale member
    refine step_stored step ?_
    rcases step_loaded step member with before | now
    · exact sound.loaded sale before
    · exact (unsynced_loaded now).1

theorem ZohoSound.run (steps : List ZohoStep) (sound : ZohoSound s) : ZohoSound (s.run steps) := by
  induction steps generalizing s with
  | nil => exact sound
  | cons step steps ih => exact ih (sound.next step)

theorem step_lists (unnumbered : step.Unnumbered) (lists : Lists id prices s) : Lists id prices (step.next s) := by
  refine ⟨lists.sound.next step, step_stored step lists.stored, ?_, ?_⟩
  · rcases step_db step s with ⟨env, c, ws, rfl, does, _⟩ | ⟨same, _⟩
    · exact (call_listed lists.sound.lines lists.stored unnumbered does).trans lists.kept
    · rw [Store.itemsOf, same.lines]
      exact lists.kept
  · intro sale member own
    rcases step_loaded step member with before | now
    · exact lists.loaded sale before own
    · rw [(unsynced_loaded now).2, own]
      exact lists.kept

theorem run_lists {steps : List ZohoStep} (unnumbered : ∀ step ∈ steps, step.Unnumbered) (lists : Lists id prices s) :
    Lists id prices (s.run steps) := by
  induction steps generalizing s with
  | nil => exact lists
  | cons step steps ih =>
    exact ih (fun other member => unnumbered other (List.mem_cons_of_mem _ member))
      (step_lists (unnumbered step List.mem_cons_self) lists)

end Runs

section Posted

variable {env : Env} {db : Store} {request : Sale}

/-- A system without sales, of which nothing is loaded. -/
structure ZohoSystem.Fresh (s : ZohoSystem) : Prop where
  sales : s.db.sales.rows = []
  lines : s.db.saleItems.rows = []
  unsynced : s.unsyncedSales = []

theorem ZohoSystem.Fresh.sound {s : ZohoSystem} (fresh : s.Fresh) : ZohoSound s := by
  have none : ∀ line, line ∉ s.db.saleItems.rows := by simp [fresh.lines]
  refine ⟨⟨fun line member => absurd member (none line), fun line member => absurd member (none line)⟩, ?_⟩
  simp [fresh.unsynced]

theorem sale_total (facts : SaleFacts .exact env db request) :
    (pricedSale .exact env db request).total = linesTotal request.items - request.discount +
      db.taxOn (linesTotal request.items - request.discount) := by
  have lines : (soldCart .exact db.products request.items).total = linesTotal request.items :=
    (soldCart_exact facts.available).2
  have tax : (pricedSale .exact env db request).vat =
      db.taxOn ((soldCart .exact db.products request.items).total - request.discount) := rfl
  rw [saleTotal_exact, tax, lines]

theorem invoiceRight_iff {invoice : ZohoInvoice} {row : SaleRow} {prices : ℚ}
    (found : db.sales.find? invoice.referenceNumber = some row) (amount : invoice.amount = prices / 100) :
    InvoiceRight db invoice ↔ NotReturned db invoice.referenceNumber ∧ prices = row.total := by
  have float : Amount.float row.total = row.total / 100 := rfl
  unfold InvoiceRight NotReturned
  rw [found, amount]
  constructor
  · rintro ⟨_, same, equal, live⟩
    cases same
    exact ⟨⟨row, rfl, live⟩, by linarith⟩
  · rintro ⟨⟨_, same, live⟩, equal⟩
    cases same
    exact ⟨row, rfl, by rw [float, equal], live⟩

variable {s : ZohoSystem} {actor : Actor} {after : List ZohoStep}

/-- Right after the sale, its stored lines list the prices of the request and nothing of it is loaded. -/
theorem sold_lists (sound : ZohoSound s) (unnumbered : ∀ item ∈ request.items, item.id = 0)
    (accepted : (processSaleAs .exact env actor request).accepts s.db) :
    Lists (stampSale env request).id (listed request.items) ((ZohoStep.call env (.processSale actor request)).next s) := by
  have does := does_accepted accepted
  have row := sold_row does
  obtain ⟨facts, _⟩ := processSaleAs_does does
  obtain ⟨added, rows, prices, own⟩ := sold_lines unnumbered does
  have old : s.db.itemsOf (stampSale env request).id = [] := by
    refine List.filter_eq_nil_iff.mpr fun line member same => ?_
    have stored := sound.lines.tied line member
    rw [of_decide_eq_true same, facts.fresh] at stored
    cases stored
  have all : added.filter (fun line => line.saleID = (stampSale env request).id) = added :=
    List.filter_eq_self.mpr fun line member => decide_eq_true (own line member)
  refine ⟨sound.next _, ?_, ?_, ?_⟩
  · change (((processSaleAs .exact env actor request).commit s.db).sales.find? _).isSome
    rw [row]
    rfl
  · change listed (((processSaleAs .exact env actor request).commit s.db).itemsOf _) = _
    rw [itemsOf_append rows, old, all, List.nil_append, prices]
  · intro sale member same
    have stored := sound.loaded sale member
    rw [same, facts.fresh] at stored
    cases stored

/-- What an invoice lists, against what is left of the total of its sale. -/
theorem posted_iff (accepted : (processSaleAs .exact env actor request).accepts s.db) {invoice : ZohoInvoice} {prices : ℚ}
    (named : invoice.referenceNumber = (stampSale env request).id) (amount : invoice.amount = prices / 100) :
    let sold := (ZohoStep.call env (.processSale actor request)).next s
    InvoiceRight (sold.run after).db invoice ↔ NotReturned (sold.run after).db (stampSale env request).id ∧
      Balanced s.db request prices (partRefunds (stampSale env request).id after sold) := by
  intro sold
  have does := does_accepted accepted
  obtain ⟨facts, _⟩ := processSaleAs_does does
  have row : sold.db.sales.find? (stampSale env request).id = some (pricedSale .exact env s.db request).toSaleRow :=
    sold_row does
  obtain ⟨now, found, left⟩ := run_total after row
  have total := sale_total facts
  have due : (now.total : ℚ) = linesTotal request.items - request.discount +
      s.db.taxOn (linesTotal request.items - request.discount) -
      partRefunds (stampSale env request).id after sold := by
    have exactly : now.total = linesTotal request.items - request.discount +
        s.db.taxOn (linesTotal request.items - request.discount) - partRefunds (stampSale env request).id after sold := by
      omega
    rw [exactly]
    push_cast
    ring
  rw [← named] at found
  rw [invoiceRight_iff found amount, named, due, Balanced]
  exact and_congr_right fun _ => ⟨fun equal => by linarith, fun equal => by linarith⟩

end Posted

/-- An invoice asks for what is left of its sale exactly when the sale has not come back and the
prices its lines list, less the discounts, the rounding and the refunds, make up for the tax. Where
the lines of this sale and of those after it bring no numbers, the prices are those of the request. -/
theorem zoho_invoices_right (start : ZohoSystem) (fresh : start.Fresh) (before after : List ZohoStep) (env : Env)
    (actor : Actor) (request : Sale) (accepted : (processSaleAs .exact env actor request).accepts (start.run before).db) :
    let id := (stampSale env request).id
    let sold := (ZohoStep.call env (.processSale actor request)).next (start.run before)
    let now := sold.run after
    let Right := fun (post : ZohoRequest) (prices : ℚ) => InvoiceRight now.db post.invoice ↔
      NotReturned now.db id ∧ Balanced (start.run before).db request prices (partRefunds id after sold)
    ∀ (step : ZohoStep) (post : ZohoRequest), (step.next now).posted = now.posted ++ [post] →
      post.invoice.referenceNumber = id →
      (∃ sale ∈ now.unsyncedSales, post.invoice = zohoInvoice sale ∧ Right post (listed sale.items)) ∧
      ((∀ item ∈ request.items, item.id = 0) → (∀ step ∈ after, step.Unnumbered) →
        Right post (listed request.items)) := by
  intro id sold now Right step post posts named
  obtain ⟨sale, loaded, invoice⟩ := step_posts posts
  have amount : post.invoice.amount = listed sale.items / 100 := by rw [invoice, zohoInvoice_amount]
  refine ⟨⟨sale, loaded, invoice, posted_iff accepted named amount⟩, fun unnumbered later => ?_⟩
  have lists := run_lists later (sold_lists (fresh.sound.run before) unnumbered accepted)
  have own : sale.id = id := by
    rw [invoice] at named
    exact named
  rw [lists.loaded sale loaded own] at amount
  exact posted_iff accepted named amount

section Books

def linked : Except String (Option ZohoConfig) := .ok (some ⟨"refresh", "10", true⟩)

def created : ZohoAnswer := ⟨linked, .ok "token", .ok ⟨201, ""⟩, "", true⟩

/-- The shop with the books linked to it. -/
def bookedShop : ZohoSystem := ⟨⟨shop, [], []⟩, []⟩

/-- Two teas for cash, with something off the invoice. -/
def teasSold (discount : Int) : ZohoStep :=
  .call till (.processSale { sara with permissions := [PermDiscounts] }
    { teaSale "s1" "" .cash none none 2 with discount := discount })

/-- The system when a pass has just loaded the unsynced sales. -/
def passAfter (steps : List ZohoStep) : ZohoSystem := (bookedShop.run steps).load linked true

end Books

/-- The whole price is invoiced with 5 off, with one of the teas returned and with both returned. -/
theorem zoho_invoices_right_not :
    (∀ steps ∈ [[teasSold 500], [teasSold 0, .call till (.returnSalePartial "s1" "tea" 1)],
        [teasSold 0, .call till (.returnSale "s1")]],
      ((passAfter steps).send 0 created).posted.map (fun post => post.invoice.amount) = [20] ∧
        ¬∀ post ∈ ((passAfter steps).send 0 created).posted, InvoiceRight (passAfter steps).db post.invoice) ∧
    ∀ row ∈ (passAfter [teasSold 0, .call till (.returnSale "s1")]).db.sales.find? "s1", row.status = .returned := by
  decide +kernel

/-- Two teas at their price are invoiced at their price. -/
theorem zoho_invoices_right_teas :
    ∃ post, ((passAfter [teasSold 0]).send 0 created).posted = (passAfter [teasSold 0]).posted ++ [post] ∧
      InvoiceRight (passAfter [teasSold 0]).db post.invoice := by
  have single : ((passAfter [teasSold 0]).send 0 created).posted.length = 1 := by decide +kernel
  have before : (passAfter [teasSold 0]).posted = [] := by decide +kernel
  obtain ⟨post, posts⟩ := List.length_eq_one_iff.mp single
  have named : ∀ post ∈ ((passAfter [teasSold 0]).send 0 created).posted, post.invoice.referenceNumber = "s1" := by
    decide +kernel
  have sent : ((passAfter [teasSold 0]).send 0 created).posted = (passAfter [teasSold 0]).posted ++ [post] := by
    rw [posts, before, List.nil_append]
  refine ⟨post, sent, ?_⟩
  exact ((zoho_invoices_right bookedShop ⟨rfl, rfl, rfl⟩ [] [.load linked true] till _ _ (by decide +kernel)
    (.send 0 created) post sent (named post (by simp [posts]))).2 (by simp [teaSale]) (by simp [ZohoStep.Unnumbered])).mpr
    ⟨by decide +kernel, by decide +kernel⟩

end BeidarPos
