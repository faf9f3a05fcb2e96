import BeidarPos.ProductEdits
import BeidarPos.ProductsCsv
import BeidarPos.ReturnsPossible
import BeidarPos.SaleList

/-! The cache of the product service beside every operation that writes products. A read
looks into the cache, and on a miss asks the database; the list of all products is then put
into the cache, as it was read. A write clears the cache after its statement, unless it is
an import or a restoration, which leave the cache alone. -/
namespace BeidarPos

open Machine Relational Journal Tx Interleaving

/-- `cacheList` and `cacheMap`, the latest entry of the map first. -/
structure ProductCache where
  cacheList : Option (List Product)
  cacheMap : List Product
  lastUpdate : Int

/-- The database, the cache and the clock, in seconds. -/
structure Catalog where
  depot : Depot
  cache : ProductCache
  now : Int

def ProductCache.empty : ProductCache := ⟨none, [], 0⟩

namespace Store

variable (db : Store)

def listedProducts : List Product := db.products.rows.map Product.listed

/-- `name LIKE ? OR barcode LIKE ?`. -/
def searchProducts (query : String) : List Product :=
  db.listedProducts.filter fun p =>
    like (searchPattern query) p.name.toList || like (searchPattern query) p.barcode.toList

def createProduct (product : Product) : Except Failure Store :=
  if ∃ other ∈ db.products.rows, other.barcode = product.barcode then .error (.constraint "products")
  else
    match db.products.insert? product with
    | none => .error (.constraint "products")
    | some products => .ok { db with products := products }

end Store

/-- What the surroundings give to a step: the time since the last one, the environment of
transactions, the image store, and what `strings.ToLower` makes of a character. -/
structure CatalogEnv where
  elapsed : Nat
  env : Env
  saveImage : String → String → Option String
  toLower : Char → Char

def containsFolded (toLower : Char → Char) (query text : String) : Bool :=
  anySuffix (fun text => (query.toList.map toLower).isPrefixOf text) (text.toList.map toLower)

/-- The test of a cached product in `SearchProducts`. -/
def Product.found (toLower : Char → Char) (query : String) (p : Product) : Bool :=
  containsFolded toLower query p.name || containsFolded toLower query p.barcode

namespace Catalog

variable (c : Catalog)

def waited (elapsed : Nat) : Catalog := { c with now := c.now + elapsed }

/-- Less than five minutes since the cache was filled. -/
def recent : Bool := c.now - c.cache.lastUpdate < 300

def clearCache : Catalog := { c with cache := .empty }

def fillCache (products : List Product) : Catalog := { c with cache := ⟨some products, products.reverse, c.now⟩ }

def cachedList : Option (List Product) := if c.recent then c.cache.cacheList else none

def cachedProduct (id : String) : Option Product :=
  if c.cache.cacheMap ≠ [] ∧ c.recent = true then c.cache.cacheMap.find? (fun p => p.id = id) else none

def withStore (db : Store) : Catalog := { c with depot := { c.depot with store := db } }

end Catalog

inductive CatalogReply where
  | products (result : Except Failure (List Product))
  | product (result : Except Failure Product)
  | written (result : Except Failure Unit)
  deriving DecidableEq

/-- A call where it stands. An import and a restoration make of the database whatever their
file says. -/
inductive CatalogCall where
  | getAllProducts
  | loadingAll
  | filling (products : List Product)
  | getProductByID (id : String)
  | loadingProduct (id : String)
  | searchProducts (query : String)
  | searchingDatabase (query : String)
  | createProduct (product : Product)
  | updateProduct (product : Product)
  | updating (product : Product)
  | deleteProduct (id : String)
  | deleting (id : String)
  | transaction (call : StockCall)
  | clearing
  | importProductsCSV (imported : Store → Store)
  | restoreBackup (restored : Depot → Depot)
  | answered (reply : CatalogReply)

def createProductGuard (product : Product) : DepotTx Unit := do
  ensure (product.name ≠ "") (refuse "اسم المنتج مطلوب")
  ensure (0 ≤ product.price) (refuse "سعر البيع لا يمكن أن يكون سالباً")
  ensure (0 ≤ product.cost) (refuse "سعر التكلفة لا يمكن أن يكون سالباً")
  ensure (0 ≤ product.stock) (refuse "الكمية بالمخزن لا يمكن أن تكون سالبة")

/-- The row a new product gets: an identifier, and the name of its image's file. -/
def createdProduct (e : CatalogEnv) (product : Product) : Product :=
  let named := if product.id = "" then { product with id := "prod_" ++ e.env.freshID } else product
  if named.image ≠ "" then
    match e.saveImage named.image named.id with
    | some filename => if filename ≠ "" then named.withImage filename else named
    | none => named
  else named

namespace CatalogCall

def reply? : CatalogCall → Option CatalogReply
  | .answered reply => some reply
  | _ => none

def refused (e : Failure) : CatalogCall := .answered (.written (.error e))

/-- A write of the products that is followed by the clearing of the cache. -/
def writes (c : Catalog) (message : String) : Except Failure Store → CatalogCall × Catalog
  | .error e => (refused (.wrapped (.plain message) e), c)
  | .ok db => (.clearing, c.withStore db)

/-- The next look into the cache, statement or transaction of a call. -/
def act (w : Word) (e : CatalogEnv) (call : CatalogCall) (c : Catalog) : CatalogCall × Catalog :=
  match call with
  | .getAllProducts =>
    match c.cachedList with
    | some products => (.answered (.products (.ok products)), c)
    | none => (.loadingAll, c)
  | .loadingAll => (.filling c.depot.store.listedProducts, c)
  | .filling products => (.answered (.products (.ok products)), c.fillCache products)
  | .getProductByID id =>
    if id = "" then (.answered (.product (.error (refuse "معرف المنتج مطلوب"))), c)
    else
      match c.cachedProduct id with
      | some product => (.answered (.product (.ok product)), c)
      | none => (.loadingProduct id, c)
  | .loadingProduct id =>
    match c.depot.store.products.find? id with
    | some product => (.answered (.product (.ok product)), c)
    | none => (.answered (.product (.error (.wrapped (.plain "failed to get product by ID") .recordNotFound))), c)
  | .searchProducts query =>
    match c.cachedList with
    | some products => (.answered (.products (.ok (products.filter (Product.found e.toLower query)))), c)
    | none => (.searchingDatabase query, c)
  | .searchingDatabase query => (.answered (.products (.ok (c.depot.store.searchProducts query))), c)
  | .createProduct product =>
    match (createProductGuard product).run c.depot with
    | .error failure => (refused failure, c)
    | .ok _ => writes c "failed to create product" (c.depot.store.createProduct (createdProduct e product))
  | .updateProduct product =>
    match (updateProductGuard product).run c.depot with
    | .error failure => (refused failure, c)
    | .ok (existing, _) => (.updating (updatedImage e.saveImage product existing), c)
  | .updating product => writes c "failed to update product" (c.depot.store.saveProduct product)
  | .deleteProduct id =>
    match c.depot.store.deleteProduct id with
    | .error failure => (refused failure, c)
    | .ok _ => (.deleting id, c)
  | .deleting id =>
    (.clearing, c.withStore { c.depot.store with products := c.depot.store.products.filter (fun p => p.id ≠ id) })
  | .transaction call =>
    let tx := call.body w e.env
    match outcome tx c.depot with
    | .error failure => (refused failure, c)
    | .ok _ => (.clearing, { c with depot := tx.commit c.depot })
  | .clearing => (.answered (.written (.ok ())), c.clearCache)
  | .importProductsCSV imported => (.answered (.written (.ok ())), c.withStore (imported c.depot.store))
  | .restoreBackup restored => (.answered (.written (.ok ())), { c with depot := restored c.depot })
  | .answered reply => (.answered reply, c)

def step (w : Word) (e : CatalogEnv) (call : CatalogCall) (c : Catalog) : CatalogCall × Catalog :=
  call.act w e (c.waited e.elapsed)

end CatalogCall

abbrev CatalogWorld := World Catalog CatalogCall

namespace CatalogCall

def loadProduct (id : String) (db : Store) : CatalogReply :=
  match db.products.find? id with
  | some product => .product (.ok product)
  | none => .product (.error (.wrapped (.plain "failed to get product by ID") .recordNotFound))

/-- What a read gives with an empty cache; nothing for another call. -/
def fromDatabase (db : Store) : CatalogCall → Option CatalogReply
  | .getAllProducts => some (.products (.ok db.listedProducts))
  | .getProductByID id =>
    some (if id = "" then .product (.error (refuse "معرف المنتج مطلوب")) else loadProduct id db)
  | .searchProducts query => some (.products (.ok (db.searchProducts query)))
  | _ => none

def clears : CatalogCall → Bool
  | .clearing => true
  | _ => false

end CatalogCall

/-- No write is between its statement and its clearing of the cache. -/
def NoneClearing (calls : List CatalogCall) : Prop := ∀ call ∈ calls, call.clears = false

instance (calls : List CatalogCall) : Decidable (NoneClearing calls) :=
  inferInstanceAs (Decidable (∀ call ∈ calls, call.clears = false))

/-- The two tests of a search agree on a product. -/
def AgreesOn (toLower : Char → Char) (query : String) (p : Product) : Prop :=
  p.found toLower query =
    (like (searchPattern query) p.name.toList || like (searchPattern query) p.barcode.toList)

instance (toLower : Char → Char) (query : String) (p : Product) : Decidable (AgreesOn toLower query p) :=
  inferInstanceAs (Decidable (_ = _))

/-- Nothing is put into the cache that was read before the last write; an import and a
restoration find no cache that holds, or leave the products as they are listed; and a read
that the cache answers comes while no write is about to clear it, is of a product whose
image is not left out of the lists, and searches for what both tests agree on. -/
def CatalogCall.Safe (e : CatalogEnv) (calls : List CatalogCall) (c : Catalog) : CatalogCall → Prop
  | .filling products => products = c.depot.store.listedProducts
  | .importProductsCSV imported => c.cachedList.isSome = true → NoneClearing calls →
      (imported c.depot.store).listedProducts = c.depot.store.listedProducts
  | .restoreBackup restored => c.cachedList.isSome = true → NoneClearing calls →
      (restored c.depot).store.listedProducts = c.depot.store.listedProducts
  | .getAllProducts => c.cachedList.isSome = true → NoneClearing calls
  | .getProductByID id => (c.cachedProduct id).isSome = true →
      NoneClearing calls ∧ ∀ product ∈ c.depot.store.products.find? id, product.image.length ≤ 500
  | .searchProducts query => c.cachedList.isSome = true →
      NoneClearing calls ∧ ∀ product ∈ c.depot.store.listedProducts, AgreesOn e.toLower query product
  | _ => True

instance (e : CatalogEnv) (calls : List CatalogCall) (c : Catalog) : (call : CatalogCall) → Decidable (call.Safe e calls c)
  | .filling products => inferInstanceAs (Decidable (products = _))
  | .importProductsCSV _ | .restoreBackup _ => inferInstanceAs (Decidable (_ → _ → _ = _))
  | .getAllProducts => inferInstanceAs (Decidable (_ → NoneClearing calls))
  | .getProductByID id => inferInstanceAs (Decidable (_ → NoneClearing calls ∧
      ∀ product ∈ c.depot.store.products.find? id, product.image.length ≤ 500))
  | .searchProducts query => inferInstanceAs (Decidable (_ → NoneClearing calls ∧
      ∀ product ∈ c.depot.store.listedProducts, AgreesOn e.toLower query product))
  | .loadingAll | .loadingProduct _ | .searchingDatabase _ | .createProduct _ | .updateProduct _ | .updating _
  | .deleteProduct _ | .deleting _ | .transaction _ | .clearing | .answered _ => isTrue trivial

def CacheSafe (turn : Turn CatalogEnv) (call : CatalogCall) (now : CatalogWorld) : Prop :=
  call.Safe turn.env now.calls (now.state.waited turn.env.elapsed)

instance (turn : Turn CatalogEnv) (call : CatalogCall) (now : CatalogWorld) : Decidable (CacheSafe turn call now) :=
  inferInstanceAs (Decidable (call.Safe turn.env now.calls (now.state.waited turn.env.elapsed)))

/-- The map is made of the list, and the list, while it holds and no clearing is due, is
what the database would list. -/
structure Coherent (calls : List CatalogCall) (c : Catalog) : Prop where
  mirrored : c.cache.cacheMap = (c.cache.cacheList.getD []).reverse
  current : NoneClearing calls → ∀ products, c.cachedList = some products → products = c.depot.store.listedProducts

section Cache

variable {c : Catalog} {calls : List CatalogCall} {w : Word} {e : CatalogEnv} {call next : CatalogCall} {i : Nat}

theorem cachedList_iff {products : List Product} :
    c.cachedList = some products ↔ c.recent = true ∧ c.cache.cacheList = some products := by
  unfold Catalog.cachedList
  by_cases recent : c.recent = true <;> simp [recent]

theorem waited_cachedList {elapsed : Nat} {products : List Product}
    (holds : (c.waited elapsed).cachedList = some products) : c.cachedList = some products := by
  obtain ⟨recent, list⟩ := cachedList_iff.mp holds
  have recent : c.now + elapsed - c.cache.lastUpdate < 300 := of_decide_eq_true recent
  exact cachedList_iff.mpr ⟨decide_eq_true (by omega), list⟩

theorem Coherent.waited (coherent : Coherent calls c) (elapsed : Nat) : Coherent calls (c.waited elapsed) :=
  ⟨coherent.mirrored, fun none products holds => coherent.current none products (waited_cachedList holds)⟩

theorem listed_id (p : Product) : p.listed.id = p.id := rfl

theorem listed_short {p : Product} (short : p.image.length ≤ 500) : p.listed = p := by
  simp [Product.listed, Nat.not_lt.mpr short]

/-- The products of the lists have the identifiers of the table, so the latest entry of
the map is the only one. -/
theorem listed_find (db : Store) (id : String) :
    db.listedProducts.reverse.find? (fun p => p.id = id) = (db.products.find? id).map Product.listed := by
  have member : ∀ {p : Product}, p ∈ db.listedProducts.reverse → ∃ row ∈ db.products.rows, row.listed = p := by
    intro p listed
    simpa [Store.listedProducts] using listed
  cases found : db.products.find? id with
  | none =>
    refine List.find?_eq_none.mpr fun p listed same => ?_
    obtain ⟨row, stored, rfl⟩ := member listed
    exact Table.find?_none.mp found row stored ((listed_id row).symm.trans (of_decide_eq_true same))
  | some product =>
    have there : product.listed ∈ db.listedProducts.reverse :=
      List.mem_reverse.mpr (List.mem_map_of_mem (Table.find?_mem found))
    cases latest : db.listedProducts.reverse.find? (fun p => p.id = id) with
    | none =>
      have absent := List.find?_eq_none.mp latest _ there
      simp [listed_id, Table.find?_key found] at absent
    | some p =>
      obtain ⟨row, stored, rfl⟩ := member (List.mem_of_find?_eq_some latest)
      have same := List.find?_some latest
      have same : row.id = id := of_decide_eq_true same
      rw [Table.unique_row stored (Table.find?_mem found) (same.trans (Table.find?_key found).symm)]
      rfl

theorem noneClearing_set (here : calls[i]? = some call) (none : NoneClearing (calls.set i next)) :
    next.clears = false ∧ (call.clears = false → NoneClearing calls) := by
  obtain ⟨front, back, rfl, -, replaced⟩ := split_at here
  rw [replaced next] at none
  refine ⟨none next (by simp), fun still other member => ?_⟩
  rcases List.mem_append.mp member with before | after
  · exact none other (List.mem_append_left _ before)
  · rcases List.mem_cons.mp after with rfl | after
    · exact still
    · exact none other (List.mem_append_right _ (List.mem_cons_of_mem _ after))

/-- A step that leaves the database and the cache alone, of a call that is not clearing. -/
theorem Coherent.kept (coherent : Coherent calls c) (here : calls[i]? = some call) (still : call.clears = false) :
    Coherent (calls.set i next) c :=
  ⟨coherent.mirrored, fun none => coherent.current ((noneClearing_set here none).2 still)⟩

/-- A write that is about to clear the cache may change the database in any way. -/
theorem Coherent.wrote (coherent : Coherent calls c) (here : calls[i]? = some call) (depot : Depot) :
    Coherent (calls.set i .clearing) { c with depot := depot } :=
  ⟨coherent.mirrored, fun none => by cases (noneClearing_set here none).1⟩

theorem clearCache_coherent (calls : List CatalogCall) (c : Catalog) : Coherent calls c.clearCache := by
  refine ⟨rfl, fun _ products holds => ?_⟩
  cases (cachedList_iff.mp holds).2

theorem fillCache_coherent {products : List Product} (current : products = c.depot.store.listedProducts)
    (calls : List CatalogCall) : Coherent calls (c.fillCache products) := by
  refine ⟨rfl, fun _ held holds => ?_⟩
  cases (cachedList_iff.mp holds).2
  exact current

/-- A write that clears nothing keeps the cache right when it is made to no cache, or to
one that some other write will clear, or changes nothing that is listed. -/
theorem Coherent.unnoticed (coherent : Coherent calls c) (here : calls[i]? = some call) (still : call.clears = false)
    {depot : Depot} (safe : c.cachedList.isSome = true → NoneClearing calls →
      depot.store.listedProducts = c.depot.store.listedProducts) :
    Coherent (calls.set i next) { c with depot := depot } := by
  refine ⟨coherent.mirrored, fun none products holds => ?_⟩
  have before := (noneClearing_set here none).2 still
  have held : c.cachedList = some products := holds
  rw [coherent.current before products held, safe (by simp [held]) before]

theorem writes_coherent (coherent : Coherent calls c) (here : calls[i]? = some call) (still : call.clears = false)
    (message : String) (result : Except Failure Store) :
    Coherent (calls.set i (CatalogCall.writes c message result).1) (CatalogCall.writes c message result).2 := by
  cases result with
  | error failure => exact coherent.kept here still
  | ok db => exact coherent.wrote here { c.depot with store := db }

theorem act_coherent (coherent : Coherent calls c) (here : calls[i]? = some call) (safe : call.Safe e calls c) :
    Coherent (calls.set i (call.act w e c).1) (call.act w e c).2 := by
  have kept : ∀ {next : CatalogCall}, call.clears = false → Coherent (calls.set i next) c :=
    fun still => coherent.kept here still
  cases call with
  | getAllProducts | searchProducts | updateProduct | loadingProduct =>
    simp only [CatalogCall.act]
    split <;> exact kept rfl
  | getProductByID id =>
    simp only [CatalogCall.act]
    split
    · exact kept rfl
    · split <;> exact kept rfl
  | loadingAll | searchingDatabase | answered => exact kept rfl
  | filling products => exact fillCache_coherent safe _
  | createProduct product =>
    simp only [CatalogCall.act]
    split
    · exact kept rfl
    · exact writes_coherent coherent here rfl _ _
  | updating product => exact writes_coherent coherent here rfl _ _
  | deleteProduct id =>
    simp only [CatalogCall.act]
    split <;> exact kept rfl
  | deleting id => exact coherent.wrote here _
  | transaction call =>
    simp only [CatalogCall.act]
    split
    · exact kept rfl
    · exact coherent.wrote here _
  | clearing => exact clearCache_coherent _ c
  | importProductsCSV imported => exact coherent.unnoticed here rfl safe
  | restoreBackup restored => exact coherent.unnoticed here rfl safe

theorem cachedProduct_held {id : String} {product : Product}
    (mirrored : c.cache.cacheMap = (c.cache.cacheList.getD []).reverse) (held : c.cachedProduct id = some product) :
    ∃ products, c.cachedList = some products ∧ products.reverse.find? (fun p => p.id = id) = some product := by
  simp only [Catalog.cachedProduct, Option.ite_none_right_eq_some] at held
  obtain ⟨⟨filled, recent⟩, found⟩ := held
  cases list : c.cache.cacheList with
  | none => exact absurd (by simp [mirrored, list]) filled
  | some products =>
    rw [mirrored, list, Option.getD_some] at found
    exact ⟨products, cachedList_iff.mpr ⟨recent, list⟩, found⟩

/-- What the cache answers is what the database would. -/
theorem hit_current (coherent : Coherent calls c) (safe : call.Safe e calls c) {reply current : CatalogReply}
    (read : call.fromDatabase c.depot.store = some current) (hit : (call.act w e c).1.reply? = some reply) :
    reply = current := by
  cases call with
  | getAllProducts =>
    simp only [CatalogCall.act] at hit
    split at hit
    · next products held =>
      cases hit
      cases read
      rw [coherent.current (safe (by simp [held])) products held]
    · cases hit
  | getProductByID id =>
    simp only [CatalogCall.act] at hit
    simp only [CatalogCall.fromDatabase, Option.some.injEq] at read
    subst read
    split at hit
    · next empty =>
      cases hit
      rw [if_pos empty]
    · next named =>
      split at hit
      · next product held =>
        cases hit
        rw [if_neg named]
        obtain ⟨none, short⟩ := safe (by simp [held])
        obtain ⟨products, list, entry⟩ := cachedProduct_held coherent.mirrored held
        rw [coherent.current none products list, listed_find] at entry
        obtain ⟨row, found, rfl⟩ := Option.map_eq_some_iff.mp entry
        rw [CatalogCall.loadProduct, found, listed_short (short row found)]
      · cases hit
  | searchProducts query =>
    simp only [CatalogCall.act] at hit
    split at hit
    · next products held =>
      cases hit
      cases read
      obtain ⟨none, agree⟩ := safe (by simp [held])
      rw [coherent.current none products held]
      congr 2
      exact List.filter_congr fun p listed => agree p listed
    · cases hit
  | _ => cases read

/-- A read that runs by itself on an empty cache. -/
theorem fromDatabase_alone {current : CatalogReply} (read : call.fromDatabase c.depot.store = some current) :
    ∃ n, ((fun now : CatalogCall × Catalog => now.1.act w e now.2)^[n] (call, c.clearCache)).1 = .answered current := by
  have list : c.clearCache.cachedList = none := by
    cases held : c.clearCache.cachedList with
    | none => rfl
    | some products => cases (cachedList_iff.mp held).2
  have entry : ∀ id, c.clearCache.cachedProduct id = none := by
    intro id
    simp [Catalog.cachedProduct, Catalog.clearCache, ProductCache.empty]
  cases call with
  | getAllProducts =>
    cases read
    exact ⟨3, by simp [CatalogCall.act, list]; rfl⟩
  | getProductByID id =>
    cases read
    by_cases empty : id = ""
    · exact ⟨1, by simp [CatalogCall.act, empty]⟩
    · refine ⟨2, ?_⟩
      have stored : c.clearCache.depot = c.depot := rfl
      simp only [Function.iterate_succ, Function.iterate_zero, Function.comp_apply, id_eq, CatalogCall.act,
        if_neg empty, entry, stored, CatalogCall.loadProduct]
      cases c.depot.store.products.find? id <;> rfl
  | searchProducts query =>
    cases read
    exact ⟨2, by simp [CatalogCall.act, list]; rfl⟩
  | _ => cases read

end Cache

/-- The program with an empty cache and some calls. -/
def catalogWorld (depot : Depot) (now : Int) (calls : List CatalogCall) : CatalogWorld :=
  ⟨⟨depot, .empty, now⟩, calls⟩

section Tea

def catalogTurns (turns : List Nat) : List (Turn CatalogEnv) :=
  turns.map fun call => ⟨call, ⟨1, till, fun _ _ => none, Char.toLower⟩⟩

def repriced (p : Product) : Product := { p with price := 1200 }

theorem repriced_id (p : Product) : (repriced p).id = p.id := rfl

/-- The import of a file whose only line gives tea a new price. -/
def importedPrice (db : Store) : Store := { db with products := db.products.modify "tea" repriced repriced_id }

/-- Two lists and a search beside a sale. -/
def listedWhileSold : CatalogWorld := catalogWorld awaiting 0
  [.getAllProducts, .transaction (.processSale sara (teaSale "s1" "" .cash none none 2)), .getAllProducts,
    .searchProducts "te"]

/-- Two lists beside an import and an update. -/
def listedWhileWritten : CatalogWorld := catalogWorld awaiting 0
  [.getAllProducts, .importProductsCSV importedPrice, .getAllProducts,
    .updating ⟨"tea", "Tea", "100", 900, 600, 10, 0, "drinks", "", "", 0, "", none⟩]

/-- The list is in the cache when the import returns. -/
def imported : CatalogWorld := run (CatalogCall.step .exact) (catalogTurns [0, 0, 0, 1]) listedWhileWritten

/-- The first list was read before the update, and is put into the cache after it. -/
def updated : CatalogWorld := run (CatalogCall.step .exact) (catalogTurns [0, 0, 3, 3, 0]) listedWhileWritten

def teaLeft (stock : ℚ) (price : Int) : List Product :=
  [⟨"tea", "Tea", "100", price, 600, stock, 0, "drinks", "", "", 0, "", none⟩]

/-- What the last list answers at its next step, and what the database would. -/
def lastList (now : CatalogWorld) : Option CatalogReply × Option CatalogReply :=
  ((CatalogCall.getAllProducts.step .exact ⟨1, till, fun _ _ => none, Char.toLower⟩ now.state).1.reply?,
    CatalogCall.getAllProducts.fromDatabase now.state.depot.store)

end Tea

end BeidarPos
