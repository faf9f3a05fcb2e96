import BeidarPos.FloatImport

/-! Whole imports of files with any numbers. The stocks a file leaves are explained by the movements
recorded for them, and the products are sound, when each row that writes is clean. -/
namespace BeidarPos

open Rounding Relational

section Runs

variable {calls : FloatCalls} {env : ImportEnv} {updateExisting : Bool} {known : List FloatProduct}
  {run : ImportRun} {rows : List (FloatRow × Nat)}

theorem importFloatRows_cons (row : FloatRow × Nat) :
    importFloatRows calls env updateExisting known (row :: rows) run =
      importFloatRows calls env updateExisting known rows
        (importFloatRow calls env updateExisting known row.2 row.1 run) := rfl

theorem importFloatRows_append (front back : List (FloatRow × Nat)) :
    importFloatRows calls env updateExisting known (front ++ back) run =
      importFloatRows calls env updateExisting known back (importFloatRows calls env updateExisting known front run) :=
  List.foldl_append

theorem importFloatRows_still (still : StillStored known run.db) :
    StillStored known (importFloatRows calls env updateExisting known rows run).db := by
  induction rows generalizing run with
  | nil => exact still
  | cons row rows ih => exact ih (importFloatRow_still still)

theorem importFloatRows_counted (still : StillStored known run.db) :
    (importFloatRows calls env updateExisting known rows run).result.handled = run.result.handled + rows.length := by
  induction rows generalizing run with
  | nil => rfl
  | cons row rows ih =>
    have step := (@importFloatRow_effect calls env updateExisting known row.2 row.1 run still).1
    rw [importFloatRows_cons, ih (importFloatRow_still still), step, List.length_cons]
    omega

theorem importFloatRows_written (still : StillStored known run.db) :
    run.written ⊆ (importFloatRows calls env updateExisting known rows run).written := by
  induction rows generalizing run with
  | nil => exact List.Subset.refl _
  | cons row rows ih =>
    refine List.Subset.trans ?_ (ih (importFloatRow_still still))
    obtain ⟨-, ⟨-, same, -⟩ | ⟨product, more, -, -⟩⟩ :=
      @importFloatRow_effect calls env updateExisting known row.2 row.1 run still
    · rw [same]
      exact List.Subset.refl _
    · rw [more]
      exact List.subset_append_left _ _

theorem Wrote.stockAt {db next : FloatInventory} {product : FloatProduct} (wrote : Wrote calls db next product)
    (id : String) :
    next.stockAt id = if id = product.id then calls.column product.stock else db.stockAt id := by
  rw [FloatInventory.stockAt, wrote.rows]
  split <;> rfl

/-- While only sound products are written, a finite stock stays finite. -/
theorem importFloatRows_finite (column : ∀ q, calls.column (.finite q) = .finite q) (still : StillStored known run.db)
    (sound : ∀ product ∈ (importFloatRows calls env updateExisting known rows run).written, product.Sound) {id : String}
    (finite : (run.db.stockAt id).IsFinite) :
    ((importFloatRows calls env updateExisting known rows run).db.stockAt id).IsFinite := by
  induction rows generalizing run with
  | nil => exact finite
  | cons row rows ih =>
    refine ih (importFloatRow_still still) sound ?_
    obtain ⟨-, ⟨same, -, -⟩ | ⟨product, more, wrote, -⟩⟩ :=
      @importFloatRow_effect calls env updateExisting known row.2 row.1 run still
    · rw [same]
      exact finite
    · have handed : product ∈ (importFloatRow calls env updateExisting known row.2 row.1 run).written := by
        rw [more]
        simp
      obtain ⟨q, counts, -⟩ := (sound product (importFloatRows_written (importFloatRow_still still) handed)).2.2
      rw [wrote.stockAt]
      split
      · rw [counts, column]
        exact Extended.finite_isFinite q
      · exact finite

/-- While only sound products are written, a stock that is not finite is the one at the start. -/
theorem importFloatRows_touched (column : ∀ q, calls.column (.finite q) = .finite q) (still : StillStored known run.db)
    (sound : ∀ product ∈ (importFloatRows calls env updateExisting known rows run).written, product.Sound) (id : String) :
    (importFloatRows calls env updateExisting known rows run).db.stockAt id = run.db.stockAt id ∨
      ((importFloatRows calls env updateExisting known rows run).db.stockAt id).IsFinite := by
  induction rows generalizing run with
  | nil => exact .inl rfl
  | cons row rows ih =>
    obtain same | finite := ih (importFloatRow_still still) sound
    · obtain ⟨-, ⟨quiet, -, -⟩ | ⟨product, more, wrote, -⟩⟩ :=
        @importFloatRow_effect calls env updateExisting known row.2 row.1 run still
      · rw [quiet] at same
        exact .inl same
      · rw [importFloatRows_cons, same, wrote.stockAt]
        split
        · have handed : product ∈ (importFloatRow calls env updateExisting known row.2 row.1 run).written := by
            rw [more]
            simp
          obtain ⟨q, counts, -⟩ := (sound product (importFloatRows_written (importFloatRow_still still) handed)).2.2
          rw [counts, column]
          exact .inr (Extended.finite_isFinite q)
        · exact .inl rfl
    · exact .inr finite

/-- The stocks are explained by what was recorded since the start. -/
structure StocksExplained (start db : FloatInventory) : Prop where
  recorded : start.stockMovements <+: db.stockMovements
  explained : ∀ id, db.stockAt id = (start.movedSince db id).foldl Extended.add (start.stockAt id)

theorem StocksExplained.begun (db : FloatInventory) : StocksExplained db db :=
  ⟨List.prefix_refl _, fun id => by rw [FloatInventory.movedSince, List.drop_length]; rfl⟩

theorem StocksExplained.wrote {start db next : FloatInventory} {product : FloatProduct}
    (explained : StocksExplained start db) (column : ∀ q, calls.column (.finite q) = .finite q) (wrote : Wrote calls db next product)
    (sound : product.Sound) (finite : (db.stockAt product.id).IsFinite) : StocksExplained start next := by
  obtain ⟨recorded, movements, own, sums⟩ := wrote.recorded
  have later (id : String) : start.movedSince next id =
      start.movedSince db id ++ (recorded.filter (·.productID = id)).map FloatMovement.qty := by
    rw [FloatInventory.movedSince, movements, List.drop_append_of_le_length explained.recorded.length_le, List.filter_append,
      List.map_append]
    rfl
  refine ⟨explained.recorded.trans ⟨recorded, movements.symm⟩, fun id => ?_⟩
  rw [later, List.foldl_append, ← explained.explained id, wrote.stockAt]
  by_cases same : id = product.id
  · obtain ⟨q, stock, -⟩ := sound.2.2
    have all : recorded.filter (·.productID = id) = recorded :=
      List.filter_eq_self.mpr fun m member => by simpa [same] using own m member
    rw [if_pos same, all, same, sums column sound.2.2 finite, stock, column]
  · have none : recorded.filter (·.productID = id) = [] :=
      List.filter_eq_nil_iff.mpr fun m member => by simpa [own m member] using fun e => same e.symm
    rw [if_neg same, none]
    rfl

/-- While every row is clean, only sound products are written and the stocks are explained. -/
theorem importFloatRows_clean (column : ∀ q, calls.column (.finite q) = .finite q) {start : FloatInventory}
    (still : StillStored known run.db) (sound : ∀ product ∈ run.written, product.Sound)
    (explained : StocksExplained start run.db) (clean : ∀ front row back, rows = front ++ row :: back →
      row.1.Clean calls env updateExisting known row.2 (importFloatRows calls env updateExisting known front run).db) :
    (∀ product ∈ (importFloatRows calls env updateExisting known rows run).written, product.Sound) ∧
      StocksExplained start (importFloatRows calls env updateExisting known rows run).db := by
  induction rows generalizing run with
  | nil => exact ⟨sound, explained⟩
  | cons row rows ih =>
    have first : row.1.Clean calls env updateExisting known row.2 run.db := clean [] row rows rfl
    have others : ∀ front other back, rows = front ++ other :: back →
        other.1.Clean calls env updateExisting known other.2 (importFloatRows calls env updateExisting known front
          (importFloatRow calls env updateExisting known row.2 row.1 run)).db :=
      fun front other back parts => clean (row :: front) other back (by rw [parts]; rfl)
    obtain ⟨-, ⟨db, written, -⟩ | ⟨product, written, wrote, clean_iff⟩⟩ :=
      @importFloatRow_effect calls env updateExisting known row.2 row.1 run still
    · exact ih (importFloatRow_still still) (written ▸ sound) (db ▸ explained) others
    · obtain ⟨fine, finite⟩ := clean_iff.mp first
      refine ih (importFloatRow_still still) (fun other member => ?_) (explained.wrote column wrote fine finite) others
      rw [written] at member
      obtain earlier | new := List.mem_append.mp member
      · exact sound other earlier
      · rw [List.mem_singleton.mp new]
        exact fine

/-- Where only sound products are written and the stocks are explained, every row was clean. -/
theorem importFloatRows_clean_of_keeps (column : ∀ q, calls.column (.finite q) = .finite q)
    (still : StillStored known run.db)
    (sound : ∀ product ∈ (importFloatRows calls env updateExisting known rows run).written, product.Sound)
    (explained : StocksExplained run.db (importFloatRows calls env updateExisting known rows run).db)
    {front back : List (FloatRow × Nat)} {row : FloatRow × Nat} (parts : rows = front ++ row :: back) :
    row.1.Clean calls env updateExisting known row.2 (importFloatRows calls env updateExisting known front run).db := by
  have before : StillStored known (importFloatRows calls env updateExisting known front run).db :=
    importFloatRows_still still
  rw [parts, importFloatRows_append, importFloatRows_cons] at sound explained
  have after := @importFloatRow_still calls env updateExisting known row.2 row.1 _ before
  obtain ⟨-, ⟨-, -, clean⟩ | ⟨product, written, wrote, clean_iff⟩⟩ :=
    @importFloatRow_effect calls env updateExisting known row.2 row.1 _ before
  · exact clean
  · have handed : product ∈ (importFloatRow calls env updateExisting known row.2 row.1
        (importFloatRows calls env updateExisting known front run)).written := by
      rw [written]
      simp
    have fine : product.Sound := sound product (importFloatRows_written after handed)
    refine clean_iff.mpr ⟨fine, ?_⟩
    have earlier : ∀ product ∈ (importFloatRows calls env updateExisting known front run).written, product.Sound := by
      intro other member
      refine sound other (importFloatRows_written after ?_)
      rw [written]
      exact List.mem_append_left _ member
    -- a stock that is not finite is the one at the start, and what was recorded cannot lead from it to a finite one
    obtain same | finite := importFloatRows_touched column still earlier product.id
    · have written : ((importFloatRow calls env updateExisting known row.2 row.1
          (importFloatRows calls env updateExisting known front run)).db.stockAt product.id).IsFinite := by
        obtain ⟨q, stock, -⟩ := fine.2.2
        rw [wrote.stockAt, if_pos rfl, stock, column]
        exact Extended.finite_isFinite q
      have final := importFloatRows_finite column after sound written
      rw [explained.explained] at final
      rw [same]
      exact Extended.isFinite_of_sum final
    · exact finite

end Runs

/-- The rows of an accepted file as the importer reads them, each with its number. -/
def Sheet.floatRows (s : Sheet) (calls : FloatCalls) : List (FloatRow × Nat) :=
  (s.rows.map (readFloatRow calls s.indices)).zipIdx s.rowNum

/-- The tables after some of the rows. -/
def Sheet.floatState (s : Sheet) (calls : FloatCalls) (env : ImportEnv) (updateExisting : Bool) (db : FloatInventory)
    (front : List (FloatRow × Nat)) : FloatInventory :=
  (importFloatRows calls env updateExisting db.getAll front ⟨db, .start s.rows.length, []⟩).db

section File

variable {calls : FloatCalls} {env : ImportEnv} {updateExisting : Bool} {db : FloatInventory}

theorem importFloatData_keeps_iff (column : ∀ q, calls.column (.finite q) = .finite q) (s : Sheet) :
    ImportKeeps db s.rows.length (importFloatData calls env updateExisting s db) ↔
      ∀ front row back, s.floatRows calls = front ++ row :: back →
        row.1.Clean calls env updateExisting db.getAll row.2 (s.floatState calls env updateExisting db front) := by
  have still := getAll_still db
  constructor
  · intro keeps front row back parts
    exact importFloatRows_clean_of_keeps column still keeps.sound ⟨keeps.recorded, keeps.explained⟩ parts
  · intro clean
    obtain ⟨sound, explained⟩ := importFloatRows_clean column still (by simp) (StocksExplained.begun db) clean
    refine ⟨sound, explained.recorded, explained.explained, ?_⟩
    have counted := @importFloatRows_counted calls env updateExisting db.getAll ⟨db, .start s.rows.length, []⟩
      (s.floatRows calls) still
    rw [show (s.floatRows calls).length = s.rows.length by simp [Sheet.floatRows]] at counted
    exact counted.trans (Nat.zero_add _)

/-- A file is refused as a whole, or imported row by row. -/
theorem importFloatProductsCSV_effect (p : Platform) (csvData : String) :
    (sheet? p csvData = none ∧ ∃ message, importFloatProductsCSV calls p env csvData updateExisting db =
      ⟨db, .failed message, []⟩) ∨
    ∃ s, sheet? p csvData = some s ∧
      importFloatProductsCSV calls p env csvData updateExisting db = importFloatData calls env updateExisting s db := by
  unfold sheet? importFloatProductsCSV
  cases read : Csv.readAll csvData.toList with
  | error e => exact .inl ⟨rfl, _, rfl⟩
  | ok records =>
    dsimp only
    cases cells : records.map (List.map String.ofList) with
    | nil => exact .inl ⟨rfl, _, rfl⟩
    | cons firstRow rows =>
      dsimp only
      by_cases header : isHeader p firstRow = true
      · rw [if_pos header, if_pos header]
        by_cases empty : rows = []
        · rw [if_pos empty, if_pos empty]
          exact .inl ⟨rfl, _, rfl⟩
        · rw [if_neg empty, if_neg empty]
          exact .inr ⟨_, rfl, rfl⟩
      · rw [if_neg header, if_neg header]
        exact .inr ⟨_, rfl, rfl⟩

end File

/-- How many data rows a file has. -/
def dataRows (p : Platform) (csvData : String) : Nat := ((sheet? p csvData).map fun s => s.rows.length).getD 0

section Tea

/-- A 64-bit processor that takes what does not fit for the least integer, and the decimal texts. -/
def deskCalls : FloatCalls where
  parseFloat text := match Decimal.parse text.toList with
    | some q => ⟨.finite q, false⟩
    | none => ⟨.finite 0, true⟩
  beyond _ := -2^63
  column
    | .nan => .finite 0
    | x => x

def noProducts : FloatInventory := ⟨Indexed.empty, []⟩

end Tea

end BeidarPos
