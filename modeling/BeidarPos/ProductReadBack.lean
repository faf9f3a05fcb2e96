import BeidarPos.ProductCache

/-! A product read by a client, edited and saved. The lists leave out an image that is kept
in the row itself, the product by its identifier may come from such a list, and the save
writes every column of the row. -/
namespace BeidarPos

open Machine Relational Journal Tx Interleaving

/-- A call that runs by itself to its end: no call takes more than three steps. -/
def alone (w : Word) (e : CatalogEnv) (call : CatalogCall) (c : Catalog) : CatalogCall × Catalog :=
  (fun now : CatalogCall × Catalog => now.1.act w e now.2)^[3] (call, c)

/-- A product in what a read answers. -/
def CatalogReply.gives (p : Product) : CatalogReply → Prop
  | .products (.ok listed) => p ∈ listed
  | .product (.ok loaded) => p = loaded
  | .products (.error _) | .product (.error _) | .written _ => False

/-- A list, a search or a product by its identifier gave the product to a client. -/
def Obtained (w : Word) (e : CatalogEnv) (read : CatalogCall) (c : Catalog) (p : Product) : Prop :=
  (read.fromDatabase c.depot.store).isSome = true ∧ ∃ reply, (alone w e read c).1.reply? = some reply ∧ reply.gives p

/-- The product comes from its row, and not from the columns of a list. -/
def CatalogCall.WholeRow (c : Catalog) : CatalogCall → Prop
  | .getProductByID id => c.cachedProduct id = none
  | _ => False

/-- The columns of a row after an edit: one that was not edited is as it was stored. -/
structure KeptColumns (read edited stored row : Product) : Prop where
  name : edited.name = read.name → row.name = stored.name
  barcode : edited.barcode = read.barcode → row.barcode = stored.barcode
  price : edited.price = read.price → row.price = stored.price
  cost : edited.cost = read.cost → row.cost = stored.cost
  stock : edited.stock = read.stock → row.stock = stored.stock
  minStock : edited.minStock = read.minStock → row.minStock = stored.minStock
  category : edited.category = read.category → row.category = stored.category
  image : edited.image = read.image → row.image = stored.image
  supplier : edited.supplier = read.supplier → row.supplier = stored.supplier
  wholesalePrice : edited.wholesalePrice = read.wholesalePrice → row.wholesalePrice = stored.wholesalePrice
  description : edited.description = read.description → row.description = stored.description
  customDetails : edited.customDetails = read.customDetails → row.customDetails = stored.customDetails

/-- The row of the product keeps the columns that were not edited, and every other row is
as it was. -/
def OnlyEdited (read edited : Product) (before after : Table Product.id) : Prop :=
  (∀ id, id ≠ read.id → after.find? id = before.find? id) ∧
    ∃ stored row, before.find? read.id = some stored ∧ after.find? read.id = some row ∧
      KeptColumns read edited stored row

/-- What an update asks of a product, and the row that it replaces. -/
structure UpdateAccepted (products : Table Product.id) (product existing : Product) : Prop where
  named : product.id ≠ ""
  price : 0 ≤ product.price
  cost : 0 ≤ product.cost
  stock : 0 ≤ product.stock
  found : products.find? product.id = some existing
  barcode : ∀ other ∈ products.rows, other.id ≠ product.id → other.barcode ≠ product.barcode

section Reads

variable {w : Word} {e : CatalogEnv} {c : Catalog} {read : CatalogCall} {p : Product}

theorem listed_stored {db : Store} (listed : p ∈ db.listedProducts) :
    ∃ stored, db.products.find? p.id = some stored ∧ p = stored.listed := by
  obtain ⟨stored, member, rfl⟩ := List.mem_map.mp listed
  exact ⟨stored, Table.find?_of_mem member, rfl⟩

/-- A list answers with what is in the cache, or with what is in the table. -/
theorem getAllProducts_gives {reply : CatalogReply} (current : Coherent [] c)
    (answer : (alone w e .getAllProducts c).1.reply? = some reply) : reply = .products (.ok c.depot.store.listedProducts) := by
  cases held : c.cachedList with
  | some products =>
    have same := current.current (fun _ absent => by simp at absent) products held
    simp only [alone, Function.iterate_succ, Function.iterate_zero, Function.comp_apply, id_eq, CatalogCall.act, held,
      CatalogCall.reply?, Option.some.injEq] at answer
    rw [← answer, same]
  | none =>
    simp only [alone, Function.iterate_succ, Function.iterate_zero, Function.comp_apply, id_eq, CatalogCall.act, held,
      CatalogCall.reply?, Option.some.injEq] at answer
    exact answer.symm

theorem searchProducts_gives {query : String} {reply : CatalogReply} (current : Coherent [] c)
    (answer : (alone w e (.searchProducts query) c).1.reply? = some reply) (gives : reply.gives p) :
    p ∈ c.depot.store.listedProducts := by
  cases held : c.cachedList with
  | some products =>
    have same := current.current (fun _ absent => by simp at absent) products held
    simp only [alone, Function.iterate_succ, Function.iterate_zero, Function.comp_apply, id_eq, CatalogCall.act, held,
      CatalogCall.reply?, Option.some.injEq] at answer
    subst answer
    have found : p ∈ products.filter (Product.found e.toLower query) := gives
    rw [← same]
    exact List.mem_of_mem_filter found
  | none =>
    simp only [alone, Function.iterate_succ, Function.iterate_zero, Function.comp_apply, id_eq, CatalogCall.act, held,
      CatalogCall.reply?, Option.some.injEq] at answer
    subst answer
    have found : p ∈ c.depot.store.searchProducts query := gives
    exact List.mem_of_mem_filter found

theorem getProductByID_gives {id : String} {reply : CatalogReply} (current : Coherent [] c)
    (answer : (alone w e (.getProductByID id) c).1.reply? = some reply) (gives : reply.gives p) :
    p ∈ c.depot.store.listedProducts ∧ (c.cachedProduct id).isSome = true ∨
      c.cachedProduct id = none ∧ c.depot.store.products.find? id = some p := by
  by_cases empty : id = ""
  · simp only [alone, Function.iterate_succ, Function.iterate_zero, Function.comp_apply, id_eq, CatalogCall.act,
      if_pos empty, CatalogCall.reply?, Option.some.injEq] at answer
    subst answer
    exact gives.elim
  · cases held : c.cachedProduct id with
    | some product =>
      obtain ⟨products, list, entry⟩ := cachedProduct_held current.mirrored held
      have same := current.current (fun _ absent => by simp at absent) products list
      simp only [alone, Function.iterate_succ, Function.iterate_zero, Function.comp_apply, id_eq, CatalogCall.act,
        if_neg empty, held, CatalogCall.reply?, Option.some.injEq] at answer
      subst answer
      obtain rfl : p = product := gives
      exact .inl ⟨same ▸ List.mem_reverse.mp (List.mem_of_find?_eq_some entry), rfl⟩
    | none =>
      simp only [alone, Function.iterate_succ, Function.iterate_zero, Function.comp_apply, id_eq, CatalogCall.act,
        if_neg empty, held] at answer
      cases found : c.depot.store.products.find? id with
      | none =>
        simp only [found, CatalogCall.reply?, Option.some.injEq] at answer
        subst answer
        exact gives.elim
      | some product =>
        simp only [found, CatalogCall.reply?, Option.some.injEq] at answer
        subst answer
        obtain rfl : p = product := gives
        exact .inr ⟨rfl, rfl⟩

/-- Every product a read gives has its row, and is the row or its columns in a list. -/
theorem obtained_row (current : Coherent [] c) (obtained : Obtained w e read c p) :
    ∃ stored, c.depot.store.products.find? p.id = some stored ∧
      (read.WholeRow c ∧ p = stored ∨ ¬ read.WholeRow c ∧ p = stored.listed) := by
  obtain ⟨reads, reply, answer, gives⟩ := obtained
  have fromList (part : ¬ read.WholeRow c) (listed : p ∈ c.depot.store.listedProducts) :
      ∃ stored, c.depot.store.products.find? p.id = some stored ∧
        (read.WholeRow c ∧ p = stored ∨ ¬ read.WholeRow c ∧ p = stored.listed) := by
    obtain ⟨stored, found, same⟩ := listed_stored listed
    exact ⟨stored, found, .inr ⟨part, same⟩⟩
  cases read with
  | getAllProducts =>
    rw [getAllProducts_gives current answer] at gives
    exact fromList id gives
  | searchProducts query => exact fromList id (searchProducts_gives current answer gives)
  | getProductByID id =>
    rcases getProductByID_gives current answer gives with ⟨listed, held⟩ | ⟨missed, found⟩
    · refine fromList (fun missed => ?_) listed
      have none : c.cachedProduct id = none := missed
      rw [none] at held
      contradiction
    · have named : p.id = id := Table.find?_key found
      exact ⟨p, named ▸ found, .inl ⟨missed, rfl⟩⟩
  | _ => contradiction

end Reads

section Updates

variable {w : Word} {e : CatalogEnv} {c : Catalog} {product existing : Product}

theorem checkProduct_does {d final : Depot} {u : Unit} {ws : List DepotWrite} :
    Does (checkProduct product) d u ws final ↔
      (product.id ≠ "" ∧ 0 ≤ product.price ∧ 0 ≤ product.cost ∧ 0 ≤ product.stock) ∧ ws = [] ∧ final = d := by
  unfold checkProduct
  rw [does_ensure_bind, does_ensure_bind, does_ensure_bind, does_ensure]
  tauto

theorem updateProductGuard_does {d final : Depot} {ws : List DepotWrite} :
    Does (updateProductGuard product) d existing ws final ↔
      (product.id ≠ "" ∧ 0 ≤ product.price ∧ 0 ≤ product.cost ∧ 0 ≤ product.stock) ∧
        d.store.products.find? product.id = some existing ∧ ws = [] ∧ final = d := by
  unfold updateProductGuard
  rw [does_bind]
  constructor
  · rintro ⟨_, front, middle, back, checked, rest, rfl⟩
    obtain ⟨checks, rfl, rfl⟩ := checkProduct_does.mp checked
    rw [does_ask_bind, does_mapError, does_require] at rest
    obtain ⟨found, rfl, rfl⟩ := rest
    exact ⟨checks, found, rfl, rfl⟩
  · rintro ⟨checks, found, rfl, rfl⟩
    refine ⟨(), [], final, [], checkProduct_does.mpr ⟨checks, rfl, rfl⟩, ?_, rfl⟩
    rw [does_ask_bind, does_mapError, does_require]
    exact ⟨found, rfl, rfl⟩

theorem updatedImage_same (saveImage : String → String → Option String) (product existing : Product) :
    (updatedImage saveImage product existing).id = product.id ∧
      (updatedImage saveImage product existing).barcode = product.barcode := by
  unfold updatedImage
  split
  · split
    · split <;> exact ⟨rfl, rfl⟩
    · exact ⟨rfl, rfl⟩
  · exact ⟨rfl, rfl⟩

/-- The table after an update that runs by itself. -/
def updatedProducts (w : Word) (e : CatalogEnv) (product : Product) (c : Catalog) : Table Product.id :=
  (alone w e (.updateProduct product) c).2.depot.store.products

theorem updatedProducts_accepted (accepted : UpdateAccepted c.depot.store.products product existing) :
    updatedProducts w e product c = c.depot.store.products.set (updatedImage e.saveImage product existing) := by
  have guarded : Does (updateProductGuard product) c.depot existing [] c.depot :=
    updateProductGuard_does.mpr ⟨⟨accepted.named, accepted.price, accepted.cost, accepted.stock⟩, accepted.found, rfl, rfl⟩
  obtain ⟨sameID, sameBarcode⟩ := updatedImage_same e.saveImage product existing
  have free : ¬ ∃ other ∈ c.depot.store.products.rows, other.id ≠ (updatedImage e.saveImage product existing).id ∧
      other.barcode = (updatedImage e.saveImage product existing).barcode := by
    rintro ⟨other, member, differs, taken⟩
    exact accepted.barcode other member (sameID ▸ differs) (taken.trans sameBarcode)
  have run : (updateProductGuard product).run c.depot = .ok (existing, [], c.depot) := guarded
  simp only [updatedProducts, alone, Function.iterate_succ, Function.iterate_zero, Function.comp_apply, id_eq,
    CatalogCall.act, run, Store.saveProduct, if_neg free, CatalogCall.writes, Catalog.clearCache, Catalog.withStore]

theorem updatedProducts_rejected (rejected : ∀ existing, ¬ UpdateAccepted c.depot.store.products product existing) :
    updatedProducts w e product c = c.depot.store.products := by
  cases run : (updateProductGuard product).run c.depot with
  | error failure =>
    simp only [updatedProducts, alone, Function.iterate_succ, Function.iterate_zero, Function.comp_apply, id_eq,
      CatalogCall.act, run, CatalogCall.refused]
  | ok result =>
    obtain ⟨existing, ws, final⟩ := result
    obtain ⟨⟨named, price, cost, stock⟩, found, -, -⟩ := updateProductGuard_does.mp run
    obtain ⟨sameID, sameBarcode⟩ := updatedImage_same e.saveImage product existing
    have taken : ∃ other ∈ c.depot.store.products.rows, other.id ≠ (updatedImage e.saveImage product existing).id ∧
        other.barcode = (updatedImage e.saveImage product existing).barcode := by
      by_contra free
      refine rejected existing ⟨named, price, cost, stock, found, fun other member differs same => free ?_⟩
      exact ⟨other, member, sameID ▸ differs, same.trans sameBarcode.symm⟩
    simp only [updatedProducts, alone, Function.iterate_succ, Function.iterate_zero, Function.comp_apply, id_eq,
      CatalogCall.act, run, Store.saveProduct, if_pos taken, CatalogCall.writes, CatalogCall.refused]

end Updates

/-- An accepted update of the product itself edits its image, or was given the image that
is stored; one under another identifier saves the row that is there already. -/
def EditSafe (e : CatalogEnv) (c : Catalog) (read : CatalogCall) (p edited : Product) : Prop :=
  ∀ existing, UpdateAccepted c.depot.store.products edited existing →
    if edited.id = p.id then read.WholeRow c ∨ existing.image.length ≤ 500 ∨ edited.image ≠ ""
    else updatedImage e.saveImage edited existing = existing

section Edits

variable {saveImage : String → String → Option String} {p edited stored existing : Product}

theorem updatedImage_with (saveImage : String → String → Option String) (product existing : Product) :
    ∃ image, updatedImage saveImage product existing = product.withImage image := by
  unfold updatedImage
  split
  · split
    · split
      · exact ⟨_, rfl⟩
      · exact ⟨product.image, rfl⟩
    · exact ⟨product.image, rfl⟩
  · exact ⟨product.image, rfl⟩

/-- An image that is missing or stored already is left as it is. -/
theorem updatedImage_kept (kept : edited.image = "" ∨ edited.image = existing.image) :
    updatedImage saveImage edited existing = edited := by
  refine if_neg ?_
  rintro ⟨given, new⟩
  rcases kept with empty | same
  · exact given empty
  · exact new same

theorem KeptColumns.saved {image : String} (columns : p = stored ∨ p = stored.listed)
    (kept : edited.image = p.image → image = stored.image) : KeptColumns p edited stored (edited.withImage image) := by
  rcases columns with rfl | rfl <;> exact ⟨id, id, id, id, id, id, id, kept, id, id, id, id⟩

theorem KeptColumns.same : KeptColumns p edited stored stored :=
  ⟨fun _ => rfl, fun _ => rfl, fun _ => rfl, fun _ => rfl, fun _ => rfl, fun _ => rfl, fun _ => rfl, fun _ => rfl,
    fun _ => rfl, fun _ => rfl, fun _ => rfl, fun _ => rfl⟩

theorem listed_long {p : Product} (long : 500 < p.image.length) : p.listed.image = "" := if_pos long

/-- The image of a product that a client saves back. -/
theorem image_saved_iff (saveImage : String → String → Option String) {whole : Prop}
    (source : whole ∧ p = stored ∨ ¬ whole ∧ p = stored.listed) :
    (edited.image = p.image → (updatedImage saveImage edited stored).image = stored.image) ↔
      whole ∨ stored.image.length ≤ 500 ∨ edited.image ≠ "" := by
  have back (same : edited.image = stored.image) : (updatedImage saveImage edited stored).image = stored.image := by
    rw [updatedImage_kept (.inr same), same]
  rcases source with ⟨whole, rfl⟩ | ⟨part, rfl⟩
  · exact iff_of_true back (.inl whole)
  · rcases Nat.lt_or_ge 500 stored.image.length with long | short
    · rw [listed_long long]
      constructor
      · refine fun kept => .inr (.inr fun empty => ?_)
        have lost := kept empty
        rw [updatedImage_kept (.inl empty), empty] at lost
        rw [← lost] at long
        exact absurd long (by decide)
      · rintro (whole | short | given) empty
        · exact absurd whole part
        · exact absurd long (Nat.not_lt.mpr short)
        · exact absurd empty given
    · rw [listed_short short]
      exact iff_of_true back (.inr (.inl short))

variable {products : Table Product.id}

/-- In the row that was read only the image may be lost. -/
theorem onlyEdited_same (found : products.find? p.id = some stored) (columns : p = stored ∨ p = stored.listed)
    (same : edited.id = p.id) :
    OnlyEdited p edited products (products.set (updatedImage saveImage edited stored)) ↔
      (edited.image = p.image → (updatedImage saveImage edited stored).image = stored.image) := by
  obtain ⟨sameID, -⟩ := updatedImage_same saveImage edited stored
  have row : (products.set (updatedImage saveImage edited stored)).find? p.id =
      some (updatedImage saveImage edited stored) := by
    rw [Table.find?_set, if_pos (sameID.trans same).symm]
  constructor
  · rintro ⟨-, stored', row', found', written, kept⟩
    obtain rfl := Option.some.inj (found.symm.trans found')
    obtain rfl := Option.some.inj (row.symm.trans written)
    exact kept.image
  · intro kept
    refine ⟨fun id other => ?_, stored, _, found, row, ?_⟩
    · rw [Table.find?_set, if_neg fun here => other (here.trans (sameID.trans same))]
    · obtain ⟨image, with'⟩ := updatedImage_with saveImage edited stored
      rw [with'] at kept ⊢
      exact .saved columns kept

/-- Saved over another row, an edit keeps the rest only when that row is already like it. -/
theorem onlyEdited_other (found : products.find? p.id = some stored) (target : products.find? edited.id = some existing)
    (other : edited.id ≠ p.id) :
    OnlyEdited p edited products (products.set (updatedImage saveImage edited existing)) ↔
      updatedImage saveImage edited existing = existing := by
  obtain ⟨sameID, -⟩ := updatedImage_same saveImage edited existing
  have row : (products.set (updatedImage saveImage edited existing)).find? edited.id =
      some (updatedImage saveImage edited existing) := by
    rw [Table.find?_set, if_pos sameID.symm]
  constructor
  · rintro ⟨others, -⟩
    exact Option.some.inj (row.symm.trans ((others edited.id other).trans target))
  · intro already
    have unmoved (id : String) : (products.set (updatedImage saveImage edited existing)).find? id =
        products.find? id := by
      rw [Table.find?_set]
      split
      · next here => rw [here, sameID, target, already]
      · rfl
    exact ⟨fun id _ => unmoved id, stored, stored, found, (unmoved _).trans found, .same⟩

end Edits

/-- A product that was read, edited and saved while the table stayed as it was keeps, in the
row and in every other, all that was not edited, exactly when the edit is safe. -/
theorem edit_keeps_rest (w : Word) (e : CatalogEnv) (c : Catalog) (current : Coherent [] c) (read : CatalogCall)
    (p : Product) (obtained : Obtained w e read c p) (edited : Product) (later : Catalog)
    (unchanged : later.depot.store.products = c.depot.store.products) :
    OnlyEdited p edited c.depot.store.products (updatedProducts w e edited later) ↔ EditSafe e c read p edited := by
  obtain ⟨stored, found, source⟩ := obtained_row current obtained
  have columns : p = stored ∨ p = stored.listed := source.imp And.right And.right
  by_cases accepted : ∃ existing, UpdateAccepted c.depot.store.products edited existing
  · obtain ⟨existing, accepted⟩ := accepted
    have after : updatedProducts w e edited later =
        c.depot.store.products.set (updatedImage e.saveImage edited existing) := by
      rw [← unchanged]
      exact updatedProducts_accepted (unchanged ▸ accepted)
    have only (other : Product) (again : UpdateAccepted c.depot.store.products edited other) : other = existing :=
      Option.some.inj (again.found.symm.trans accepted.found)
    have safe : EditSafe e c read p edited ↔
        if edited.id = p.id then read.WholeRow c ∨ existing.image.length ≤ 500 ∨ edited.image ≠ ""
        else updatedImage e.saveImage edited existing = existing :=
      ⟨fun safe => safe existing accepted, fun safe other again => only other again ▸ safe⟩
    rw [safe, after]
    by_cases same : edited.id = p.id
    · obtain rfl : existing = stored := by
        have same' := accepted.found
        rw [same, found] at same'
        exact (Option.some.inj same').symm
      rw [if_pos same, ← image_saved_iff e.saveImage source]
      exact onlyEdited_same found columns same
    · rw [if_neg same]
      exact onlyEdited_other found accepted.found same
  · have rejected : ∀ existing, ¬ UpdateAccepted later.depot.store.products edited existing :=
      fun existing again => accepted ⟨existing, unchanged ▸ again⟩
    rw [updatedProducts_rejected rejected, unchanged]
    refine iff_of_true ⟨fun _ _ => rfl, stored, stored, found, found, .same⟩ ?_
    exact fun existing again => absurd ⟨existing, again⟩ accepted

section Picture

/-- A tea whose picture is still kept in its row. -/
def picturedTea : Product :=
  ⟨"tea", "Tea", "100", 1000, 600, 10, 0, "drinks", String.ofList (List.replicate 600 'A'), "", 0, "", none⟩

def pictured : Catalog :=
  ⟨{ awaiting with store := { shop with products := ⟨[picturedTea], List.nodup_singleton _⟩ } }, .empty, 0⟩

def clerk : CatalogEnv := ⟨0, till, fun _ _ => none, Char.toLower⟩

theorem repriced_image (p : Product) : (repriced p).image = p.image := rfl

theorem pictured_current : Coherent [] pictured := clearCache_coherent [] pictured

end Picture

theorem edit_keeps_rest_whole :
    OnlyEdited picturedTea (repriced picturedTea) pictured.depot.store.products
      (updatedProducts .exact clerk (repriced picturedTea) pictured) := by
  have obtained : Obtained .exact clerk (.getProductByID "tea") pictured picturedTea := ⟨rfl, .product (.ok picturedTea), rfl, rfl⟩
  have safe : EditSafe clerk pictured (.getProductByID "tea") picturedTea (repriced picturedTea) := by
    intro existing _
    rw [if_pos (repriced_id picturedTea)]
    exact .inl rfl
  exact (edit_keeps_rest .exact clerk pictured pictured_current (.getProductByID "tea") picturedTea obtained
    (repriced picturedTea) pictured rfl).mpr safe

/-- From the list of all products the picture does not come along, and is saved away. -/
theorem edit_loses_picture :
    Coherent [] pictured ∧ Obtained .exact clerk .getAllProducts pictured picturedTea.listed ∧
      ¬ OnlyEdited picturedTea.listed (repriced picturedTea.listed) pictured.depot.store.products
        (updatedProducts .exact clerk (repriced picturedTea.listed) pictured) := by
  have long : 500 < picturedTea.image.length := by
    have length : picturedTea.image.length = 600 := String.length_ofList.trans List.length_replicate
    omega
  have hidden : picturedTea.listed.image = "" := listed_long long
  have accepted : UpdateAccepted pictured.depot.store.products (repriced picturedTea.listed) picturedTea := by
    refine ⟨by decide, by decide, by decide, by decide, rfl, ?_⟩
    rintro other member differs
    exact absurd (List.mem_singleton.mp member ▸ rfl) differs
  have after := updatedProducts_accepted (w := .exact) (e := clerk) accepted
  have unpictured : (repriced picturedTea.listed).image = "" :=
    (repriced_image picturedTea.listed).trans hidden
  rw [updatedImage_kept (.inl unpictured)] at after
  refine ⟨pictured_current, ⟨rfl, _, rfl, List.mem_singleton_self _⟩, ?_⟩
  rintro ⟨-, stored, row, found, written, kept⟩
  rw [after, Table.find?_set, if_pos (repriced_id picturedTea.listed).symm] at written
  have same : row.image = stored.image := kept.image (repriced_image picturedTea.listed)
  rw [← Option.some.inj written, ← Option.some.inj ((rfl : _ = some picturedTea).symm.trans found)] at same
  have empty : picturedTea.image = "" := same.symm.trans unpictured
  rw [empty] at long
  exact absurd long (by decide)

end BeidarPos
