import BeidarPos.OrderConcurrency
import BeidarPos.StockLedger

/-! Saves of whole product rows beside the transactions that move stock. An edit was read
some time before it is saved, and the migration of images reads all its products first;
both write the stock they read. -/
namespace BeidarPos

open Machine Relational Journal Tx Interleaving

/-- What a user changes of a product: not its identifier and not its stock. -/
structure ProductEdit where
  apply : Product → Product
  sameID : ∀ p, (apply p).id = p.id
  sameStock : ∀ p, (apply p).stock = p.stock

def Product.withImage (image : String) (p : Product) : Product := { p with image := image }

/-- What a turn brings: the request's environment and the image store's answers. The
answer to an image and an identifier is a file name, unless the store fails. -/
structure ShelfEnv where
  env : Env
  saveImage : String → String → Option String

/-- A save of a product: the row is rewritten, or inserted; barcodes are unique. -/
def Store.saveProduct (product : Product) (db : Store) : Except Failure Store :=
  if ∃ other ∈ db.products.rows, other.id ≠ product.id ∧ other.barcode = product.barcode then
    .error (.constraint "products")
  else .ok { db with products := db.products.set product }

def checkProduct (product : Product) : DepotTx Unit := do
  ensure (product.id ≠ "") (refuse "معرف المنتج مطلوب للتحديث")
  ensure (0 ≤ product.price) (refuse "سعر البيع لا يمكن أن يكون سالباً")
  ensure (0 ≤ product.cost) (refuse "سعر التكلفة لا يمكن أن يكون سالباً")
  ensure (0 ≤ product.stock) (refuse "الكمية بالمخزن لا يمكن أن تكون سالبة")

/-- The checks of an update and the row it will replace. -/
def updateProductGuard (product : Product) : DepotTx Product := do
  checkProduct product
  let found ← ask (fun d => d.store.products.find? product.id)
  mapError (.wrapped (.plain "failed to get existing product for update")) (require found .recordNotFound)

/-- A new image goes to the image store, and the row keeps the file's name. -/
def updatedImage (saveImage : String → String → Option String) (product existing : Product) : Product :=
  if product.image ≠ "" ∧ product.image ≠ existing.image then
    match saveImage product.image product.id with
    | some filename => if filename ≠ "" ∧ filename ≠ product.image then product.withImage filename else product
    | none => product
  else product

/-- The row of a migrated image; none when the image stays in the row. -/
def migratedImage (saveImage : String → String → Option String) (product : Product) : Option Product :=
  match saveImage product.image product.id with
  | some filename => if filename ≠ "" ∧ filename ≠ product.image then some (product.withImage filename) else none
  | none => none

/-- The products whose image is long enough to be one in base64. -/
def Store.productsWithBase64Images (db : Store) : Table Product.id :=
  db.products.filter (fun product => 200 < product.image.length)

def saveProducts : List Product → Store → Except Failure Store
  | [], db => .ok db
  | product :: rest, db =>
    match db.saveProduct product with
    | .error e => .error (.wrapped (.plain "failed to update product in DB") e)
    | .ok next => saveProducts rest next

/-- A call where it stands. A product that is updated was read by its client before. -/
inductive ShelfTask where
  | editProduct (id : String) (edit : ProductEdit)
  | updateProduct (product : Product)
  | updating (product : Product)
  | migrateImagesToFilesystem
  | migrating (products : Table Product.id)
  | transaction (call : StockCall)
  | answered (result : Except Failure Unit)

/-- The next read, save or transaction of a call. -/
def ShelfTask.step (w : Word) (env : ShelfEnv) (task : ShelfTask) (d : Depot) : ShelfTask × Depot :=
  match task with
  | .editProduct id edit =>
    match d.store.products.find? id with
    | none => (.answered (.error .recordNotFound), d)
    | some product => (.updateProduct (edit.apply product), d)
  | .updateProduct product =>
    match (updateProductGuard product).run d with
    | .error e => (.answered (.error e), d)
    | .ok (existing, _) => (.updating (updatedImage env.saveImage product existing), d)
  | .updating product =>
    match d.store.saveProduct product with
    | .error e => (.answered (.error (.wrapped (.plain "failed to update product") e)), d)
    | .ok store => (.answered (.ok ()), { d with store := store })
  | .migrateImagesToFilesystem => (.migrating d.store.productsWithBase64Images, d)
  | .migrating products =>
    match saveProducts (products.rows.filterMap (migratedImage env.saveImage)) d.store with
    | .error e => (.answered (.error e), d)
    | .ok store => (.answered (.ok ()), { d with store := store })
  | .transaction call =>
    let tx := call.body w env.env
    (.answered (outcome tx d), tx.commit d)
  | .answered result => (.answered result, d)

abbrev ShelfWorld := World Depot ShelfTask

/-- The rows that will be written have the stock that is stored. -/
def StocksStored (written : List Product) (db : Store) : Prop :=
  ∀ product ∈ written, stockOf product.id db = some product.stock

/-- A turn saves no product, or is refused, or saves what is stored of the stock. -/
def ShelfTask.stocksCurrent (env : ShelfEnv) (task : ShelfTask) (db : Store) : Prop :=
  match task with
  | .updating product => (db.saveProduct product).isOk → StocksStored [product] db
  | .migrating products =>
    let written := products.rows.filterMap (migratedImage env.saveImage)
    (saveProducts written db).isOk → StocksStored written db
  | _ => True

def StocksCurrent (turn : Turn ShelfEnv) (task : ShelfTask) (w : ShelfWorld) : Prop :=
  task.stocksCurrent turn.env w.state.store

section Saves

variable {db next : Store}

theorem explained_unmoved (unmoved : next.stockMovements = db.stockMovements) :
    Explained db next ↔ ∀ id, stockOf id next = stockOf id db := by
  constructor
  · rintro ⟨recorded, grown, stocks⟩ id
    have none : recorded = [] := by
      rw [unmoved] at grown
      exact List.self_eq_append_right.mp grown
    rw [stocks, none]
    simp
  · intro stocks
    exact ⟨[], by rw [unmoved, List.append_nil], fun id => by rw [stocks]; simp⟩

theorem saveProduct_ok {product : Product} (saved : db.saveProduct product = .ok next) :
    next.stockMovements = db.stockMovements ∧ stockOf product.id next = some product.stock ∧
      ∀ id, id ≠ product.id → stockOf id next = stockOf id db := by
  unfold Store.saveProduct at saved
  split at saved
  · cases saved
  · cases saved
    refine ⟨rfl, ?_, fun id other => ?_⟩
    · simp [stockOf, Table.find?_set]
    · simp [stockOf, Table.find?_set, other]

theorem saveProducts_ok {products : List Product} (distinct : (products.map Product.id).Nodup)
    (saved : saveProducts products db = .ok next) :
    next.stockMovements = db.stockMovements ∧ (∀ product ∈ products, stockOf product.id next = some product.stock) ∧
      ∀ id, id ∉ products.map Product.id → stockOf id next = stockOf id db := by
  induction products generalizing db with
  | nil => cases saved; simp
  | cons product rest ih =>
    rw [List.map_cons, List.nodup_cons] at distinct
    simp only [saveProducts] at saved
    split at saved
    · cases saved
    · rename_i middle first
      obtain ⟨moves, stock, others⟩ := saveProduct_ok first
      obtain ⟨moves', stocks, rest_others⟩ := ih distinct.2 saved
      refine ⟨moves'.trans moves, ?_, fun id outside => ?_⟩
      · intro p member
        rcases List.mem_cons.mp member with rfl | later
        · rw [rest_others _ distinct.1, stock]
        · exact stocks p later
      · rw [List.map_cons, List.mem_cons, not_or] at outside
        rw [rest_others id outside.2, others id outside.1]

theorem saveProducts_explained {products : List Product} (distinct : (products.map Product.id).Nodup)
    (saved : saveProducts products db = .ok next) : Explained db next ↔ StocksStored products db := by
  obtain ⟨moves, stocks, others⟩ := saveProducts_ok distinct saved
  rw [explained_unmoved moves]
  constructor
  · intro same product member
    rw [← same, stocks product member]
  · intro stored id
    by_cases written : id ∈ products.map Product.id
    · obtain ⟨product, member, rfl⟩ := List.mem_map.mp written
      rw [stocks product member, stored product member]
    · exact others id written

theorem migratedImage_id {saveImage : String → String → Option String} {p q : Product}
    (migrated : migratedImage saveImage p = some q) : q.id = p.id := by
  unfold migratedImage at migrated
  split at migrated
  · split at migrated
    · cases migrated; rfl
    · cases migrated
  · cases migrated

theorem migrated_distinct (saveImage : String → String → Option String) (products : Table Product.id) :
    ((products.rows.filterMap (migratedImage saveImage)).map Product.id).Nodup := by
  refine List.Nodup.sublist ?_ products.distinct
  induction products.rows with
  | nil => exact List.Sublist.slnil
  | cons p rest ih =>
    cases migrated : migratedImage saveImage p with
    | none =>
      rw [List.filterMap_cons_none migrated]
      exact ih.cons _
    | some q =>
      rw [List.filterMap_cons_some migrated, List.map_cons, migratedImage_id migrated]
      exact ih.cons_cons _

end Saves

section Runs

variable {w : Word} {d : Depot}

/-- A transaction explains the stock it moves by its movements. -/
theorem transaction_explained (env : Env) (call : StockCall) :
    Explained d.store ((call.body w env).commit d).store := by
  by_cases accepted : (call.body w env).accepts d
  · have does := does_accepted accepted
    exact explained_replay (call_ledgered does) (replay_shop does.replays)
  · rw [(commit_rejected accepted).1]
    exact Explained.refl _

/-- One step keeps the stock explained when and only when it saves the stock there is. -/
theorem step_explained (env : ShelfEnv) (task : ShelfTask) :
    Explained d.store (task.step w env d).2.store ↔ task.stocksCurrent env d.store := by
  have unchanged := Explained.refl d.store
  cases task with
  | editProduct id edit =>
    refine iff_of_true ?_ trivial
    simp only [ShelfTask.step]
    split <;> exact unchanged
  | updateProduct product =>
    refine iff_of_true ?_ trivial
    simp only [ShelfTask.step]
    split <;> exact unchanged
  | updating product =>
    simp only [ShelfTask.step, ShelfTask.stocksCurrent]
    cases saved : d.store.saveProduct product with
    | error e => exact iff_of_true unchanged fun accepted => nomatch accepted
    | ok store =>
      have all : saveProducts [product] d.store = .ok store := by
        rw [saveProducts, saved]
        rfl
      rw [@saveProducts_explained _ _ [product] (List.nodup_singleton _) all]
      exact ⟨fun stored _ => stored, fun stored => stored rfl⟩
  | migrateImagesToFilesystem => exact iff_of_true unchanged trivial
  | migrating products =>
    simp only [ShelfTask.step, ShelfTask.stocksCurrent]
    cases saved : saveProducts (products.rows.filterMap (migratedImage env.saveImage)) d.store with
    | error e => exact iff_of_true unchanged fun accepted => nomatch accepted
    | ok store =>
      rw [saveProducts_explained (migrated_distinct env.saveImage products) saved]
      exact ⟨fun stored _ => stored, fun stored => stored rfl⟩
  | transaction call => exact iff_of_true (transaction_explained env.env call) trivial
  | answered result => exact iff_of_true unchanged trivial

/-- Movements are recorded, and none is ever taken back. -/
theorem step_records (env : ShelfEnv) (task : ShelfTask) :
    ∃ recorded, (task.step w env d).2.store.stockMovements = d.store.stockMovements ++ recorded := by
  have unchanged : ∃ recorded, d.store.stockMovements = d.store.stockMovements ++ recorded := ⟨[], by simp⟩
  cases task with
  | editProduct | updateProduct =>
    simp only [ShelfTask.step]
    split <;> exact unchanged
  | updating product =>
    simp only [ShelfTask.step]
    split
    · exact unchanged
    · rename_i saved
      exact ⟨[], by simp [(saveProduct_ok saved).1]⟩
  | migrating products =>
    simp only [ShelfTask.step]
    split
    · exact unchanged
    · rename_i saved
      exact ⟨[], by simp [(saveProducts_ok (migrated_distinct env.saveImage products) saved).1]⟩
  | transaction call =>
    obtain ⟨recorded, grown, _⟩ := transaction_explained (w := w) (d := d) env.env call
    exact ⟨recorded, grown⟩
  | migrateImagesToFilesystem | answered => exact unchanged

/-- What is explained up to a state is explained from there on. -/
theorem Explained.cancel {start middle final : Store} (first : Explained start middle) (whole : Explained start final)
    (grown : ∃ recorded, final.stockMovements = middle.stockMovements ++ recorded) : Explained middle final := by
  obtain ⟨front, early, stocks⟩ := first
  obtain ⟨all, late, total⟩ := whole
  obtain ⟨back, more⟩ := grown
  have split : all = front ++ back := by
    rw [late, early, List.append_assoc] at more
    exact List.append_cancel_left more
  refine ⟨back, more, fun id => ?_⟩
  rw [total, stocks, Option.map_map, split]
  congr 1
  funext stock
  simp [add_assoc]

end Runs

/-- After every part of every interleaving the stock of each product is what it was plus
the movements recorded since, when and only when each save of a product writes the stock
that is stored at that moment. -/
theorem edits_keep_sales (w : Word) (world : ShelfWorld) (schedule : List (Turn ShelfEnv)) :
    (∀ front back, schedule = front ++ back →
        Explained world.state.store (run (ShelfTask.step w) front world).state.store) ↔
      Meets (ShelfTask.step w) StocksCurrent schedule world :=
  invariant_iff_meets (fun now : ShelfWorld => Explained world.state.store now.state.store)
    (fun now turn task before _ => by
      refine Iff.trans ?_ (step_explained (w := w) (d := now.state) turn.env task)
      exact ⟨fun whole => before.cancel whole (step_records turn.env task), fun last => before.trans last⟩)
    (Explained.refl world.state.store)

section Tea

def dearer : ProductEdit := ⟨fun p => { p with price := 1200 }, fun _ => rfl, fun _ => rfl⟩

/-- The price of tea is edited while two teas are sold. -/
def editedWhileSold : ShelfWorld :=
  ⟨awaiting, [.editProduct "tea" dearer, .transaction (.processSale sara (teaSale "s1" "" .cash none none 2))]⟩

def shelfTurns (turns : List Nat) : List (Turn ShelfEnv) := turns.map fun task => ⟨task, till, fun _ _ => none⟩

end Tea

/-- The edit is read before the sale and saved after it: the two teas are in stock again. -/
theorem edits_keep_sales_stale :
    stockOf "tea" (run (ShelfTask.step .exact) (shelfTurns [0, 1]) editedWhileSold).state.store = some 8 ∧
      stockOf "tea" (run (ShelfTask.step .exact) (shelfTurns [0, 1, 0, 0]) editedWhileSold).state.store = some 10 ∧
      ¬ Explained awaiting.store (run (ShelfTask.step .exact) (shelfTurns [0, 1, 0, 0]) editedWhileSold).state.store := by
  have sold : stockOf "tea" (run (ShelfTask.step .exact) (shelfTurns [0, 1]) editedWhileSold).state.store = some 8 := by
    decide +kernel
  have saved : stockOf "tea" (run (ShelfTask.step .exact) (shelfTurns [0, 1, 0, 0]) editedWhileSold).state.store =
      some 10 := by
    decide +kernel
  refine ⟨sold, saved, ?_⟩
  rintro ⟨recorded, grown, stocks⟩
  have moves : (run (ShelfTask.step .exact) (shelfTurns [0, 1, 0, 0]) editedWhileSold).state.store.stockMovements =
      awaiting.store.stockMovements ++ [⟨"tea", "Tea", "sale", -2, "Sale #s1", 0⟩] := by
    decide +kernel
  have stocks := stocks "tea"
  rw [moves] at grown
  rw [saved, ← List.append_cancel_left grown] at stocks
  revert stocks
  decide +kernel

end BeidarPos
