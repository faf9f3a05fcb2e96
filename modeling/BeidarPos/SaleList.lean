import BeidarPos.Accounting
import BeidarPos.DatabaseExport
import BeidarPos.Decimal

/-! The invoice list, page by page. The repository counts pages from zero, as the front
end does; between them the desktop handler asks either the repository itself or, over
HTTP, a handler that counts from one. -/
namespace BeidarPos

open Machine Relational Journal

section Like

/-- Whether some suffix of the text is accepted. -/
def anySuffix (accept : List Char → Bool) : List Char → Bool
  | [] => accept []
  | c :: text => accept (c :: text) || anySuffix accept text

/-- `text LIKE pattern`: letters of ASCII compare without case. -/
def like : List Char → List Char → Bool
  | [], text => text.isEmpty
  | c :: pattern, text =>
    if c = '%' then anySuffix (like pattern) text
    else
      match text with
      | [] => false
      | t :: rest => (c = '_' || c.toLower = t.toLower) && like pattern rest

end Like

/-- What the list is narrowed to. -/
structure SaleFilter where
  search : String
  status : String
  date : String

/-- The bounds the two date filters put, as read from the clock in its own zone. -/
structure ListClock where
  startOfDay : Int
  startOfWeek : Int

def searchPattern (search : String) : List Char := '%' :: (search.toList ++ ['%'])

def SaleFilter.matches (clock : ListClock) (filter : SaleFilter) (sale : SaleRow) : Bool :=
  (filter.search = "" || like (searchPattern filter.search) sale.id.toList ||
    like (searchPattern filter.search) sale.customerName.toList) &&
  (filter.status = "" || filter.status = "all" || sale.status.name = filter.status) &&
  (if filter.date = "today" then decide (clock.startOfDay ≤ sale.timestamp)
    else if filter.date = "week" then decide (clock.startOfWeek ≤ sale.timestamp) else true)

/-- `ORDER BY timestamp DESC`: the database is free among sales of one time. -/
structure SaleOrder where
  arrange : List SaleRow → List SaleRow
  perm : ∀ rows, (arrange rows).Perm rows
  latest : ∀ rows, (arrange rows).Pairwise fun a b => b.timestamp ≤ a.timestamp

structure InvoiceStats where
  count : Int
  total : Int
  pending : Int
  returns : Int

structure PaginatedSales where
  data : List Sale
  total : Nat
  totalPages : Int
  page : Int
  stats : InvoiceStats

def invoiceStats (rows : List SaleRow) : InvoiceStats where
  count := rows.length
  total := ((rows.filter fun sale => sale.status ≠ .returned).map SaleRow.total).sum
  pending := ((rows.filter fun sale => sale.status = .pending).map SaleRow.total).sum
  returns := (rows.filter fun sale => sale.status = .returned).length

def maxPageSize : Int := 200

/-- The page size the repository goes by. -/
def listSize (pageSize : Int) : Int := if pageSize ≤ 0 ∨ maxPageSize < pageSize then maxPageSize else pageSize

/-- A sale with its lines. -/
def Store.loadSale (db : Store) (row : SaleRow) : Sale := { row with items := db.itemsOf row.id }

def Store.matching (order : SaleOrder) (clock : ListClock) (filter : SaleFilter) (db : Store) : List SaleRow :=
  order.arrange (db.sales.rows.filter (filter.matches clock))

/-- An offset that is not positive is left out of the query. -/
def getSales (order : SaleOrder) (clock : ListClock) (db : Store) (page pageSize : Int) (filter : SaleFilter) :
    PaginatedSales :=
  let size := listSize pageSize
  let found := db.matching order clock filter
  { data := ((found.drop (page * size).toNat).take size.toNat).map db.loadSale
    total := found.length
    totalPages := found.length / size + (if 0 < found.length % size then 1 else 0)
    page := page
    stats := invoiceStats found }

section Http

def itoa (n : Int) : String := String.ofList ((if n < 0 then ['-'] else []) ++ Decimal.digits n.natAbs)

def atoi (text : String) : Option Int :=
  let (negative, numeral) := Decimal.signOf text.toList
  if numeral ≠ [] ∧ numeral.all Decimal.isDigit then some (Decimal.signed negative (Decimal.valueOf numeral)) else none

/-- A query string, once decoded. -/
abbrev Query := List (String × String)

def Query.get (query : Query) (key : String) : String := (Keyed.valueOf query key).getD ""

/-- An entry is sent only for a filter that is set. -/
def setEntry (key text : String) : Query := if text ≠ "" then [(key, text)] else []

def salesQuery (page pageSize : Int) (filter : SaleFilter) : Query :=
  [("page", itoa page), ("pageSize", itoa pageSize)] ++ setEntry "search" filter.search ++
    setEntry "status" filter.status ++ setEntry "date" filter.date

/-- A positive number up to the limit, if there is one, or else the default. -/
def queryNumber (query : Query) (key : String) (limit : Option Int) (default : Int) : Int :=
  match atoi (query.get key) with
  | some n => if 0 < n ∧ ∀ most ∈ limit, n ≤ most then n else default
  | none => default

/-- The list the server answers a GET without an identifier with. -/
def handleSales (order : SaleOrder) (clock : ListClock) (db : Store) (query : Query) : PaginatedSales :=
  getSales order clock db (queryNumber query "page" none 1) (queryNumber query "pageSize" (some 200) 50)
    ⟨query.get "search", query.get "status", query.get "date"⟩

end Http

inductive LanMode where
  | server | client
  deriving DecidableEq

/-- The desktop handler of a signed-in session. -/
def SaleHandler.getSales (mode : LanMode) (order : SaleOrder) (clock : ListClock) (db : Store) (page pageSize : Int)
    (filter : SaleFilter) : PaginatedSales :=
  match mode with
  | .server => BeidarPos.getSales order clock db page pageSize filter
  | .client => handleSales order clock db (salesQuery page pageSize filter)

section Pagination

/-- The pages the front end offers for a reported total. -/
def computedTotalPages (total pageSize : Nat) : Nat :=
  if total = 0 ∨ pageSize = 0 then 1 else (total + pageSize - 1) / pageSize

/-- The front end's walk: from page 0, one further each time, until the last page. -/
def walkedPages (pageSize : Nat) (fetch : Int → PaginatedSales) : List PaginatedSales :=
  (List.range (computedTotalPages (fetch 0).total pageSize)).map fun (page : Nat) => fetch page

end Pagination

theorem atoi_itoa (n : Int) : atoi (itoa n) = some n := by
  have digits := Decimal.signOf_digits n.natAbs []
  rw [List.append_nil] at digits
  have numeral : Decimal.digits n.natAbs ≠ [] ∧ (Decimal.digits n.natAbs).all Decimal.isDigit = true :=
    ⟨Decimal.digits_nonempty _, List.all_eq_true.mpr (Decimal.digits_digit _)⟩
  unfold atoi itoa
  by_cases negative : n < 0
  · have value : Decimal.signed true (Decimal.valueOf (Decimal.digits n.natAbs)) = n := by
      rw [Decimal.valueOf_digits, Decimal.signed, if_pos rfl]
      omega
    simp only [negative, if_true, String.toList_ofList, List.singleton_append, Decimal.signOf, if_pos numeral, value]
  · have value : Decimal.signed false (Decimal.valueOf (Decimal.digits n.natAbs)) = n := by
      rw [Decimal.valueOf_digits, Decimal.signed, if_neg (by decide)]
      omega
    simp only [negative, if_false, String.toList_ofList, List.nil_append, digits, if_pos numeral, value]

@[simp] theorem get_page (page pageSize : Int) (filter : SaleFilter) :
    (salesQuery page pageSize filter).get "page" = itoa page ∧
      (salesQuery page pageSize filter).get "pageSize" = itoa pageSize := by
  simp [salesQuery, Query.get]

/-- The server reads the filter the client set. -/
theorem get_filter (page pageSize : Int) (filter : SaleFilter) :
    (salesQuery page pageSize filter).get "search" = filter.search ∧
      (salesQuery page pageSize filter).get "status" = filter.status ∧
      (salesQuery page pageSize filter).get "date" = filter.date := by
  simp only [salesQuery, Query.get, setEntry]
  by_cases search : filter.search = "" <;> by_cases status : filter.status = "" <;>
    by_cases date : filter.date = "" <;> simp [search, status, date]

/-- What the list on the client asks the repository for. -/
theorem client_getSales (order : SaleOrder) (clock : ListClock) (db : Store) (page pageSize : Int) (filter : SaleFilter) :
    SaleHandler.getSales .client order clock db page pageSize filter =
      getSales order clock db (if 0 < page then page else 1)
        (if 0 < pageSize ∧ pageSize ≤ 200 then pageSize else 50) filter := by
  obtain ⟨search, status, date⟩ := get_filter page pageSize filter
  simp [SaleHandler.getSales, handleSales, queryNumber, atoi_itoa, search, status, date]

/-- Pages of one size, side by side, are the list up to where the last one ends. -/
theorem pages_cover (rows : List α) (size count : Nat) :
    ((List.range count).flatMap fun page => (rows.drop (page * size)).take size) = rows.take (count * size) := by
  induction count with
  | zero => simp
  | succ count ih =>
    rw [List.range_succ, List.flatMap_append, ih, Nat.succ_mul, List.take_add]
    simp

/-- The sales seen on the whole walk. -/
def walkedSales (pageSize : Nat) (fetch : Int → PaginatedSales) : List Sale :=
  (walkedPages pageSize fetch).flatMap PaginatedSales.data

/-- Every matching sale is seen once in both modes, and a page does not depend on the mode. -/
structure PagingSound (order : SaleOrder) (clock : ListClock) (db : Store) (pageSize : Nat) (filter : SaleFilter) :
    Prop where
  once : ∀ mode, (walkedSales pageSize fun page => SaleHandler.getSales mode order clock db page pageSize filter).Perm
    ((db.sales.rows.filter (filter.matches clock)).map db.loadSale)
  samePages : ∀ page < computedTotalPages (getSales order clock db 0 pageSize filter).total pageSize,
    (SaleHandler.getSales .server order clock db page pageSize filter).data =
      (SaleHandler.getSales .client order clock db page pageSize filter).data

theorem loadSale_injective (db : Store) : Function.Injective db.loadSale := fun _ _ same => congrArg Sale.toSaleRow same

theorem matching_nodup (order : SaleOrder) (clock : ListClock) (filter : SaleFilter) (db : Store) :
    (db.matching order clock filter).Nodup :=
  (order.perm _).nodup_iff.mpr ((List.Nodup.of_map _ db.sales.distinct).filter _)

theorem computedTotalPages_covers {total pageSize : Nat} (positive : 0 < pageSize) :
    total ≤ computedTotalPages total pageSize * pageSize := by
  unfold computedTotalPages
  split
  · rename_i none
    have : total = 0 := by omega
    omega
  · have := Nat.div_add_mod (total + pageSize - 1) pageSize
    have := Nat.mod_lt (total + pageSize - 1) positive
    have := Nat.mul_comm pageSize ((total + pageSize - 1) / pageSize)
    omega

theorem getSales_data {order : SaleOrder} {clock : ListClock} {db : Store} {filter : SaleFilter} {page pageSize : Nat}
    (positive : 0 < pageSize) (allowed : pageSize ≤ 200) :
    (getSales order clock db page pageSize filter).data =
      (((db.matching order clock filter).drop (page * pageSize)).take pageSize).map db.loadSale := by
  have size : listSize pageSize = pageSize := by
    unfold listSize maxPageSize
    rw [if_neg (by omega)]
  have offset : ((page : Int) * (pageSize : Int)).toNat = page * pageSize := by
    rw [← Nat.cast_mul, Int.toNat_natCast]
  simp only [getSales, size, offset, Int.toNat_natCast]

/-- On the server, a walk with a page size the repository keeps sees the list as it is. -/
theorem server_walk {order : SaleOrder} {clock : ListClock} {db : Store} {filter : SaleFilter} {pageSize : Nat}
    (positive : 0 < pageSize) (allowed : pageSize ≤ 200) :
    (walkedSales pageSize fun page => SaleHandler.getSales .server order clock db page pageSize filter) =
      (db.matching order clock filter).map db.loadSale := by
  have total : (getSales order clock db 0 pageSize filter).total = (db.matching order clock filter).length := rfl
  simp only [walkedSales, walkedPages, SaleHandler.getSales, List.flatMap_map, total, getSales_data positive allowed]
  rw [← List.map_flatMap, pages_cover, List.take_of_length_le (computedTotalPages_covers positive)]

/-- On a client, page 0 is the repository's page 1. -/
theorem client_page {order : SaleOrder} {clock : ListClock} {db : Store} {filter : SaleFilter} {page pageSize : Nat}
    (positive : 0 < pageSize) (allowed : pageSize ≤ 200) :
    SaleHandler.getSales .client order clock db page pageSize filter =
      getSales order clock db (max page 1 : Nat) pageSize filter := by
  rw [client_getSales, if_pos (by omega : (0 : Int) < pageSize ∧ (pageSize : Int) ≤ 200)]
  congr 1
  split <;> omega

/-- A page fetched by a client leaves out the first sale of the list. -/
theorem client_skips {order : SaleOrder} {clock : ListClock} {db : Store} {filter : SaleFilter} {page pageSize : Int}
    {sale : Sale} (member : sale ∈ (SaleHandler.getSales .client order clock db page pageSize filter).data) :
    sale ∈ ((db.matching order clock filter).drop 1).map db.loadSale := by
  rw [client_getSales] at member
  obtain ⟨row, inside, rfl⟩ := List.mem_map.mp member
  refine List.mem_map_of_mem ?_
  have offset : 1 ≤ ((if 0 < page then page else 1) *
      listSize (if 0 < pageSize ∧ pageSize ≤ 200 then pageSize else 50)).toNat := by
    have asked : 0 < (if 0 < page then page else 1) := by split <;> omega
    have size : 0 < listSize (if 0 < pageSize ∧ pageSize ≤ 200 then pageSize else 50) := by
      unfold listSize maxPageSize
      split <;> split <;> omega
    have := Int.mul_pos asked size
    omega
  exact List.drop_subset_drop_left _ offset (List.mem_of_mem_take inside)

/-- The list pages soundly in both modes exactly when there is nothing to list. -/
theorem invoice_paging (order : SaleOrder) (clock : ListClock) (db : Store) (pageSize : Nat) (filter : SaleFilter) :
    PagingSound order clock db pageSize filter ↔ ∀ sale ∈ db.sales.rows, filter.matches clock sale = false := by
  constructor
  · intro sound row stored
    by_contra listed
    have matching : row ∈ db.matching order clock filter :=
      (order.perm _).mem_iff.mpr (List.mem_filter.mpr ⟨stored, by simpa using listed⟩)
    cases found : db.matching order clock filter with
    | nil => simp [found] at matching
    | cons head rest =>
      have distinct := matching_nodup order clock filter db
      rw [found, List.nodup_cons] at distinct
      have selected : head ∈ db.sales.rows.filter (filter.matches clock) :=
        (order.perm _).mem_iff.mp (found ▸ List.mem_cons_self : head ∈ db.matching order clock filter)
      have seen := (sound.once .client).mem_iff.mpr (List.mem_map_of_mem selected)
      simp only [walkedSales, walkedPages, List.flatMap_map, List.mem_flatMap] at seen
      obtain ⟨page, _, onPage⟩ := seen
      have later := client_skips onPage
      rw [found, List.drop_one, List.tail_cons, List.mem_map_of_injective (loadSale_injective db)] at later
      exact distinct.1 later
  · intro none
    have selected : db.sales.rows.filter (filter.matches clock) = [] :=
      List.filter_eq_nil_iff.mpr fun sale stored => by simp [none sale stored]
    have matching : db.matching order clock filter = [] := by
      have perm := order.perm (db.sales.rows.filter (filter.matches clock))
      rw [selected] at perm
      unfold Store.matching
      rw [selected]
      exact perm.eq_nil
    have empty : ∀ page size, (getSales order clock db page size filter).data = [] := by
      intro page size
      simp [getSales, matching]
    have blank : ∀ mode page, (SaleHandler.getSales mode order clock db page pageSize filter).data = [] := by
      intro mode page
      cases mode with
      | server => exact empty _ _
      | client =>
        rw [client_getSales]
        exact empty _ _
    refine ⟨fun mode => ?_, fun page _ => ?_⟩
    · simp [walkedSales, walkedPages, List.flatMap_map, blank, selected]
    · rw [blank, blank]

section Tea

instance : Std.Total fun a b : SaleRow => b.timestamp ≤ a.timestamp := ⟨fun a b => Int.le_total b.timestamp a.timestamp⟩

instance : IsTrans SaleRow fun a b => b.timestamp ≤ a.timestamp := ⟨fun _ _ _ ab bc => bc.trans ab⟩

def latestFirst : SaleOrder where
  arrange := List.insertionSort fun a b => b.timestamp ≤ a.timestamp
  perm := List.perm_insertionSort _
  latest := List.pairwise_insertionSort _

def soldAt (id : String) (timestamp : Int) : SaleRow :=
  { (teaSale id "ali" .cash none none 1).toSaleRow with timestamp := timestamp }

/-- Three sales, the last one at noon. -/
def threeSales : Store := { shop with sales := ⟨[soldAt "morning" 8, soldAt "noon" 12, soldAt "ten" 10], by decide⟩ }

def anyTime : ListClock := ⟨0, 0⟩

def everything : SaleFilter := ⟨"", "all", "all"⟩

/-- The invoices a walk with one sale to a page goes through. -/
def invoicesSeen (mode : LanMode) : List String :=
  (walkedSales 1 fun page => SaleHandler.getSales mode latestFirst anyTime threeSales page (1 : Nat) everything).map
    fun sale => sale.id

end Tea

/-- A client sees the second sale twice and the latest never. -/
theorem invoice_paging_client : ¬ PagingSound latestFirst anyTime threeSales 1 everything ∧
    invoicesSeen .server = ["noon", "ten", "morning"] ∧ invoicesSeen .client = ["ten", "ten", "morning"] := by
  have server : invoicesSeen .server = ["noon", "ten", "morning"] := by decide +kernel
  have client : invoicesSeen .client = ["ten", "ten", "morning"] := by decide +kernel
  refine ⟨?_, server, client⟩
  intro sound
  have same := ((sound.once .server).trans (sound.once .client).symm).map fun sale => sale.id
  change (invoicesSeen .server).Perm (invoicesSeen .client) at same
  rw [server, client] at same
  exact absurd same (by decide)

end BeidarPos
