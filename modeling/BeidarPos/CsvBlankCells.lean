import BeidarPos.CsvRoundTrip

/-! Blank cells of an import. A blank number is read as zero and not as a number that is
missing, so it is written over the stored one. -/
namespace BeidarPos

open Rounding Relational

/-- The number columns a row may leave blank. -/
inductive NumberColumn where
  | cost | stock | minStock | wholesalePrice
  deriving DecidableEq

namespace NumberColumn

def header : NumberColumn → String
  | cost => "cost"
  | stock => "stock"
  | minStock => "minstock"
  | wholesalePrice => "wholesaleprice"

def value : NumberColumn → Product → ℚ
  | cost, p => p.cost
  | stock, p => p.stock
  | minStock, p => p.minStock
  | wholesalePrice, p => p.wholesalePrice

/-- How a number is stored: amounts in whole cents. -/
def stored : NumberColumn → ℚ → ℚ
  | cost, v | wholesalePrice, v => newAmount v
  | stock, v | minStock, v => v

theorem stored_zero (c : NumberColumn) : c.stored 0 = 0 := by
  have nothing : newAmount 0 = 0 := by
    rw [newAmount, zero_mul]
    exact roundHalfAway_intCast 0
  cases c with
  | cost | wholesalePrice => exact congrArg Int.cast nothing
  | stock | minStock => rfl

end NumberColumn

/-- The rows of a file: where the columns are, the number of the first row, and the cells. -/
structure Sheet where
  indices : List (String × Nat)
  rowNum : Nat
  rows : List (List String)
  deriving DecidableEq

/-- The rows an import goes through, when it accepts the file. -/
def sheet? (p : Platform) (csvData : String) : Option Sheet :=
  match Csv.readAll csvData.toList with
  | .error _ => none
  | .ok records =>
    match records.map (List.map String.ofList) with
    | [] => none
    | firstRow :: rows =>
      if isHeader p firstRow then if rows = [] then none else some ⟨colIndices p firstRow, 2, rows⟩
      else some ⟨fixedIndices, 1, firstRow :: rows⟩

namespace Sheet

variable (s : Sheet)

def val (record : List String) (key : String) : String := getVal s.indices record key

/-- The row brings the barcode of the product. -/
def Matches (record : List String) (q : Product) : Prop := q.barcode ≠ "" ∧ s.val record "barcode" = q.barcode

instance (record : List String) (q : Product) : Decidable (s.Matches record q) :=
  inferInstanceAs (Decidable (_ ∧ _))

def priceVal (record : List String) : Option ℚ := (parseFloat (s.val record "price")).filter (0 < ·)

/-- The row is not skipped: it has a name and a price. -/
def Updates (record : List String) (q : Product) : Prop :=
  s.Matches record q ∧ s.val record "name" ≠ "" ∧ (s.priceVal record).isSome

instance (record : List String) (q : Product) : Decidable (s.Updates record q) :=
  inferInstanceAs (Decidable (_ ∧ _ ∧ _))

/-- The table and the counts after some of the rows. -/
def state (env : ImportEnv) (db : Inventory) (front : List (List String)) : Inventory × CSVImportResult :=
  importRows env true db.getAll s.rowNum (front.map (readRow s.indices)) (db, .start s.rows.length)

/-- A row leaves the numbers of its blank cells as they are, and a product no row matches
stays as it is. -/
structure BlanksKept (env : ImportEnv) (db final : Inventory) : Prop where
  rows : ∀ front record back, s.rows = front ++ record :: back → ∀ q ∈ db.products.rows, s.Matches record q →
    ∃ before after, (s.state env db front).1.products.find? q.id = some before ∧
      (s.state env db (front ++ [record])).1.products.find? q.id = some after ∧
      ∀ c : NumberColumn, s.val record c.header = "" → c.value after = c.value before
  others : ∀ q ∈ db.products.rows, (∀ record ∈ s.rows, ¬ s.Matches record q) → final.products.find? q.id = some q

/-- The number a cell gives; a blank one gives none. -/
def cell (c : NumberColumn) (record : List String) : Option ℚ :=
  if s.val record c.header = "" then none else (parseFloat (s.val record c.header)).map c.stored

/-- What a column of a product should hold after some rows: the last number given for it. -/
def valueAfter (c : NumberColumn) (front : List (List String)) (q : Product) : ℚ :=
  ((front.filter (fun record => s.Updates record q)).reverse.findSome? (s.cell c)).getD (c.value q)

/-- Where a row that updates a product has a blank cell, there is a zero to be kept. -/
def BlanksZero (db : Inventory) : Prop :=
  ∀ front record back, s.rows = front ++ record :: back → ∀ q ∈ db.products.rows, s.Updates record q →
    ∀ c : NumberColumn, s.val record c.header = "" → s.valueAfter c front q = 0

/-- What one row makes of a stored product. -/
def applied (record : List String) (q : Product) : Product :=
  if s.Matches record q ∧ s.val record "name" ≠ "" then
    match s.priceVal record with
    | some price => mergeRow q (readRow s.indices record) price
    | none => q
  else q

end Sheet

section Rows

variable {s : Sheet} {env : ImportEnv} {db : Inventory} {record : List String} {c : NumberColumn}

theorem readRow_price : (readRow s.indices record).price.filter (0 < ·) = s.priceVal record := by
  simp only [readRow, Sheet.priceVal, Sheet.val]

theorem parseFloat_blank : parseFloat "" = some 0 := rfl

/-- A merged number is the one of the cell, or the stored one when the cell is no number. -/
theorem mergeRow_value (q : Product) (price : ℚ) :
    c.value (mergeRow q (readRow s.indices record) price) =
      ((parseFloat (s.val record c.header)).map c.stored).getD (c.value q) := by
  cases c with
  | cost | wholesalePrice | stock | minStock =>
    simp only [NumberColumn.value, mergeRow, readRow, Sheet.val, NumberColumn.header]
    cases parseFloat _ <;> rfl

theorem applied_keys (record : List String) (q : Product) :
    (s.applied record q).id = q.id ∧ (s.applied record q).barcode = q.barcode := by
  unfold Sheet.applied
  split
  · cases s.priceVal record <;> exact ⟨rfl, rfl⟩
  · exact ⟨rfl, rfl⟩

theorem applied_other {q : Product} (other : ¬ s.Updates record q) : s.applied record q = q := by
  unfold Sheet.applied
  split
  · next taken =>
    cases price : s.priceVal record with
    | none => rfl
    | some price' => exact absurd ⟨taken.1, taken.2, by rw [price]; rfl⟩ other
  · rfl

theorem applied_value {q : Product} (updates : s.Updates record q) :
    c.value (s.applied record q) = ((parseFloat (s.val record c.header)).map c.stored).getD (c.value q) := by
  obtain ⟨price, given⟩ := Option.isSome_iff_exists.mp updates.2.2
  rw [Sheet.applied, if_pos ⟨updates.1, updates.2.1⟩, given]
  exact mergeRow_value q price

/-- A blank cell writes zero. -/
theorem applied_blank {q : Product} (updates : s.Updates record q) (blank : s.val record c.header = "") :
    c.value (s.applied record q) = 0 := by
  rw [applied_value updates, blank, parseFloat_blank]
  exact c.stored_zero

theorem applied_cell {q : Product} (updates : s.Updates record q) (filled : s.val record c.header ≠ "") :
    c.value (s.applied record q) = (s.cell c record).getD (c.value q) := by
  rw [applied_value updates, Sheet.cell, if_neg filled]

end Rows

section Import

variable {s : Sheet} {env : ImportEnv} {db : Inventory}

/-- The products listed before the import, as `now` holds them. -/
def Holds (db now : Inventory) (current : Product → Product) : Prop :=
  ∀ q ∈ db.products.rows, now.products.find? q.id = some (current q) ∧ (current q).barcode = q.barcode

theorem Holds.mono {now now' : Inventory} {current next : Product → Product} (holds : Holds db now current)
    (same : ∀ q ∈ db.products.rows, now'.products.find? q.id = now.products.find? q.id ∧ next q = current q) :
    Holds db now' next := by
  intro q inside
  obtain ⟨found, unchanged⟩ := same q inside
  rw [found, unchanged]
  exact holds q inside

/-- A product that is created is added after the others. -/
theorem createRow_keeps {state : Inventory × CSVImportResult} {id : String} {q : Product} (rowNum : Nat) (row : CsvRow)
    (priceVal : ℚ) (found : state.1.products.find? id = some q) :
    (createRow env rowNum row priceVal state).1.products.find? id = some q := by
  unfold createRow
  dsimp only
  split
  · exact found
  · next products created =>
    have member : q ∈ products.rows := by
      rw [Indexed.create?_rows created]
      exact List.mem_append_left _ (Table.find?_mem found)
    have key := Table.find?_of_mem member
    rwa [Table.find?_key found] at key

/-- The product of a row is rewritten and the others stay. -/
theorem updateRow_puts (env : ImportEnv) {state : Inventory × CSVImportResult} {known current : Product} (rowNum : Nat)
    (row : CsvRow) (priceVal : ℚ) (found : state.1.products.find? known.id = some current) (id : String) :
    (updateRow env rowNum row priceVal known state).1.products.find? id =
      if id = known.id then some (mergeRow current row priceVal) else state.1.products.find? id := by
  have same : current.id = known.id := Table.find?_key found
  have key : (mergeRow current row priceVal).id = known.id := same
  have own : state.1.products.find? (mergeRow current row priceVal).id = some current := by
    rw [key]
    exact found
  obtain ⟨next, saved, put⟩ := Indexed.save?_stored own rfl
  simp only [updateRow, found, Option.getD_some, saved, put, Table.find?_put]
  rw [key]
  split
  · next own => rw [own, found, Option.map_some]
  · rfl

/-- One row: each listed product becomes what the row makes of it. -/
theorem importRow_holds {state : Inventory × CSVImportResult} {current : Product → Product}
    (holds : Holds db state.1 current) (rowNum : Nat) (record : List String) :
    Holds db (importRow env true db.getAll rowNum (readRow s.indices record) state).1
      (fun q => s.applied record (current q)) := by
  unfold importRow
  split
  · next nameless =>
    have unnamed : s.val record "name" = "" := nameless
    exact holds.mono fun q _ => ⟨rfl, applied_other fun updates => updates.2.1 unnamed⟩
  · next named =>
    split
    · next priceless =>
      rw [readRow_price] at priceless
      refine holds.mono fun q _ => ⟨rfl, applied_other fun updates => ?_⟩
      have given := updates.2.2
      rw [priceless] at given
      cases given
    · next price given =>
      rw [readRow_price] at given
      split
      · next known found =>
        rw [Inventory.getAll, findBarcode_listed] at found
        obtain ⟨q₀, first, rfl⟩ := Option.map_eq_some_iff.mp found
        obtain ⟨inside₀, nonempty, brought⟩ := findBarcode_some first
        rw [if_pos rfl]
        intro q inside
        have stored : state.1.products.find? q₀.listed.id = some (current q₀) := (holds q₀ inside₀).1
        have put := updateRow_puts env rowNum (readRow s.indices record) price stored q.id
        refine ⟨put.trans ?_, (applied_keys _ _).2.trans (holds q inside).2⟩
        change (if q.id = q₀.id then _ else _) = some (s.applied record (current q))
        by_cases same : q = q₀
        · subst same
          have matched : s.Matches record (current q) := by
            rw [Sheet.Matches, (holds q inside).2]
            exact ⟨nonempty, brought.symm⟩
          rw [if_pos rfl, Sheet.applied, if_pos ⟨matched, named⟩, given]
        · have other : q.id ≠ q₀.id := fun taken => same (Table.unique_row inside inside₀ taken)
          have unmatched : ¬ s.Matches record (current q) := by
            rintro ⟨_, code⟩
            rw [(holds q inside).2] at code
            exact same (List.inj_on_of_nodup_map db.products.unique inside inside₀ (code.symm.trans brought.symm))
          rw [if_neg other, (holds q inside).1, applied_other fun updates => unmatched updates.1]
      · next missing =>
        rw [Inventory.getAll, findBarcode_listed] at missing
        have absent := findBarcode_none (Option.map_eq_none_iff.mp missing)
        intro q inside
        have unmatched : ¬ s.Matches record (current q) := by
          rintro ⟨nonempty, code⟩
          rw [(holds q inside).2] at nonempty code
          exact absent q inside nonempty code.symm
        have same : s.applied record (current q) = current q := applied_other fun updates => unmatched updates.1
        refine ⟨?_, (applied_keys _ _).2.trans (holds q inside).2⟩
        change _ = some (s.applied record (current q))
        rw [same]
        exact createRow_keeps rowNum _ price (holds q inside).1

/-- The rows in turn. -/
theorem importRows_holds (rows : List (List String)) {state : Inventory × CSVImportResult}
    {current : Product → Product} (holds : Holds db state.1 current) (rowNum : Nat) :
    Holds db (importRows env true db.getAll rowNum (rows.map (readRow s.indices)) state).1
      (fun q => rows.foldl (fun q record => s.applied record q) (current q)) := by
  induction rows generalizing state current rowNum with
  | nil => exact holds
  | cons record rows ih => exact ih (importRow_holds holds rowNum record) (rowNum + 1)

/-- What some rows make of a product. -/
def Sheet.after (s : Sheet) (front : List (List String)) (q : Product) : Product :=
  front.foldl (fun q record => s.applied record q) q

theorem after_snoc (front : List (List String)) (record : List String) (q : Product) :
    s.after (front ++ [record]) q = s.applied record (s.after front q) := by
  simp only [Sheet.after, List.foldl_append, List.foldl_cons, List.foldl_nil]

theorem state_holds (env : ImportEnv) (db : Inventory) (front : List (List String)) :
    Holds db (s.state env db front).1 (s.after front) := by
  have start : Holds db (db, CSVImportResult.start s.rows.length).1 (fun q => q) :=
    fun _ inside => ⟨Table.find?_of_mem inside, rfl⟩
  unfold Sheet.state Sheet.after
  exact importRows_holds front start s.rowNum

theorem after_updates (front : List (List String)) {record : List String} {q : Product}
    (inside : q ∈ db.products.rows) :
    s.Updates record (s.after front q) ↔ s.Updates record q := by
  rw [Sheet.Updates, Sheet.Updates, Sheet.Matches, Sheet.Matches,
    (state_holds ⟨0, fun _ => ""⟩ db front q inside).2]

/-- A product no row matches is not changed by them. -/
theorem after_unmatched {front : List (List String)} {q : Product} (unmatched : ∀ record ∈ front, ¬ s.Matches record q) :
    s.after front q = q := by
  induction front with
  | nil => rfl
  | cons record front ih =>
    have first : s.applied record q = q := applied_other fun updates => unmatched record (by simp) updates.1
    change s.after front (s.applied record q) = q
    rw [first]
    exact ih fun other member => unmatched other (by simp [member])

theorem valueAfter_updates {c : NumberColumn} {front : List (List String)} {record : List String} {q : Product}
    (updates : s.Updates record q) :
    s.valueAfter c (front ++ [record]) q = (s.cell c record).getD (s.valueAfter c front q) := by
  simp only [Sheet.valueAfter, List.filter_append, List.filter_singleton, decide_eq_true updates, cond_true,
    List.reverse_append, List.reverse_singleton, List.singleton_append, List.findSome?_cons]
  cases s.cell c record <;> rfl

/-- As long as blank cells meet a zero, the table holds the last number given. -/
theorem after_value {c : NumberColumn} {q : Product} (inside : q ∈ db.products.rows) (front : List (List String))
    (zero : ∀ earlier record later, front = earlier ++ record :: later → s.Updates record q →
      s.val record c.header = "" → c.value (s.after earlier q) = 0 ∨ s.valueAfter c earlier q = 0) :
    c.value (s.after front q) = s.valueAfter c front q := by
  induction front using List.reverseRecOn with
  | nil => rfl
  | append_singleton front record ih =>
    have before := ih fun earlier other later split => zero earlier other (later ++ [record]) (by simp [split])
    rw [after_snoc]
    by_cases updates : s.Updates record q
    · rw [valueAfter_updates updates, ← before]
      have moved := (after_updates front inside).mpr updates
      by_cases blank : s.val record c.header = ""
      · rw [applied_blank moved blank, Sheet.cell, if_pos blank, Option.getD_none]
        rcases zero front record [] rfl updates blank with stored | given
        · exact stored.symm
        · exact (before.trans given).symm
      · exact applied_cell moved blank
    · have other : ¬ s.Updates record (s.after front q) := fun moved => updates ((after_updates front inside).mp moved)
      rw [applied_other other, before, Sheet.valueAfter, Sheet.valueAfter, List.filter_append, List.filter_singleton,
        decide_eq_false updates]
      simp

/-- An accepted file is imported row by row. -/
theorem importProductsCSV_rows {p : Platform} {csvData : String} (accepted : sheet? p csvData = some s) :
    (importProductsCSV p env csvData true db).1 = (s.state env db s.rows).1 := by
  unfold sheet? at accepted
  unfold importProductsCSV
  cases read : Csv.readAll csvData.toList with
  | error e =>
    simp only [read] at accepted
    cases accepted
  | ok records =>
    simp only [read] at accepted ⊢
    cases cells : records.map (List.map String.ofList) with
    | nil =>
      simp only [cells] at accepted
      cases accepted
    | cons firstRow rows =>
      simp only [cells] at accepted ⊢
      by_cases header : isHeader p firstRow = true
      · rw [if_pos header] at accepted ⊢
        by_cases empty : rows = []
        · rw [if_pos empty] at accepted
          cases accepted
        · rw [if_neg empty] at accepted ⊢
          cases accepted
          rfl
      · rw [if_neg header] at accepted ⊢
        cases accepted
        rfl

end Import

/-- An import leaves the numbers of blank cells alone, when and only when each of them meets
a zero: the product's own, or the last one a row gave it. -/
theorem csv_blanks (p : Platform) (env : ImportEnv) (csvData : String) (db : Inventory) (s : Sheet)
    (accepted : sheet? p csvData = some s) :
    s.BlanksKept env db (importProductsCSV p env csvData true db).1 ↔ s.BlanksZero db := by
  rw [importProductsCSV_rows accepted]
  have stored (front : List (List String)) : Holds db (s.state env db front).1 (s.after front) := state_holds env db front
  constructor
  · intro kept front record back split q inside updates c blank
    have stays : ∀ earlier other later, s.rows = earlier ++ other :: later → s.Updates other q →
        s.val other c.header = "" → c.value (s.after earlier q) = 0 := by
      intro earlier other later split updates blank
      obtain ⟨before, after, first, second, same⟩ := kept.rows earlier other later split q inside updates.1
      cases Option.some.inj (first.symm.trans (stored earlier q inside).1)
      cases Option.some.inj (second.symm.trans (stored (earlier ++ [other]) q inside).1)
      have unchanged := same c blank
      rw [after_snoc, applied_blank ((after_updates earlier inside).mpr updates) blank] at unchanged
      exact unchanged.symm
    have value := after_value (c := c) inside front fun earlier other later within updates blank =>
      .inl (stays earlier other (later ++ record :: back) (by simp [split, within]) updates blank)
    rw [← value]
    exact stays front record back split updates blank
  · intro zero
    refine ⟨fun front record back split q inside _ => ?_, fun q inside unmatched => ?_⟩
    · refine ⟨_, _, (stored front q inside).1, (stored (front ++ [record]) q inside).1, fun c blank => ?_⟩
      rw [after_snoc]
      by_cases updates : s.Updates record q
      · rw [applied_blank ((after_updates front inside).mpr updates) blank]
        have value := after_value (c := c) inside front fun earlier other later within updates blank =>
          .inr (zero earlier other (later ++ record :: back) (by simp [split, within]) q inside updates c blank)
        rw [value]
        exact (zero front record back split q inside updates c blank).symm
      · rw [applied_other fun moved => updates ((after_updates front inside).mp moved)]
    · rw [(stored s.rows q inside).1, after_unmatched unmatched]

section Tea

/-- One row for the tea, without a wholesale column. -/
def teaFile (cost : String) : String := "barcode,name,price,cost,stock,minstock\n100,Tea,10," ++ cost ++ ",10,2.5\n"

def teaSheet (cost : String) : Sheet where
  indices := [("barcode", 0), ("name", 1), ("price", 2), ("cost", 3), ("stock", 4), ("minstock", 5)]
  rowNum := 2
  rows := [["100", "Tea", "10", cost, "10", "2.5"]]

end Tea

/-- The cost of the tea is given, and it has no wholesale price to lose. -/
theorem csv_blanks_given :
    (teaSheet "6").BlanksKept importer (wholesaleTea 0)
      (importProductsCSV desk importer (teaFile "6") true (wholesaleTea 0)).1 := by
  refine (csv_blanks desk importer (teaFile "6") (wholesaleTea 0) (teaSheet "6") (by decide +kernel)).mpr ?_
  intro front record back split q inside _ c blank
  cases front with
  | nil =>
    cases List.mem_singleton.mp inside
    obtain ⟨rfl, _⟩ := List.cons.inj split
    cases c with
    | cost | stock | minStock => exact absurd blank (by decide +kernel)
    | wholesalePrice => rfl
  | cons first front => exact absurd (List.cons.inj split).2 (by simp)

/-- A cost that is left blank is lost. -/
theorem csv_blanks_cost :
    sheet? desk (teaFile "") = some (teaSheet "") ∧
      ((wholesaleTea 0).products.find? "tea").map Product.cost = some 600 ∧
      ((importProductsCSV desk importer (teaFile "") true (wholesaleTea 0)).1.products.find? "tea").map Product.cost =
        some 0 ∧
      ¬ (teaSheet "").BlanksKept importer (wholesaleTea 0)
        (importProductsCSV desk importer (teaFile "") true (wholesaleTea 0)).1 := by
  have accepted : sheet? desk (teaFile "") = some (teaSheet "") := by decide +kernel
  have lost : (((teaSheet "").state importer (wholesaleTea 0) (teaSheet "").rows).1.products.find? "tea").map
      Product.cost = some 0 := by decide +kernel
  refine ⟨accepted, rfl, by rwa [importProductsCSV_rows accepted], ?_⟩
  intro kept
  obtain ⟨before, after, first, second, same⟩ := kept.rows [] _ [] rfl _ (List.mem_singleton.mpr rfl) (by decide +kernel)
  have blank := same .cost (by decide +kernel)
  have stored : before.cost = 600 := by
    cases first
    rfl
  have written : after.cost = 0 := by
    have cost := congrArg (Option.map Product.cost) second
    exact Option.some.inj (cost.symm.trans lost)
  simp only [NumberColumn.value, stored, written] at blank
  exact absurd blank (by decide)

end BeidarPos
