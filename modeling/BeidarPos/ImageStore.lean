import BeidarPos.Base64
import BeidarPos.LexicalPath
import BeidarPos.ProductReadBack

/-! The image store and the product calls that use it. An image that comes in base 64 is
written to a file, and the product keeps the file's name; any other text stays in the
product as it is. -/
namespace BeidarPos

open Machine Relational Journal Tx LexicalPath

/-- The directory of the images, and what separates names on the host. -/
structure ImageDir where
  separator : Char → Bool
  listed : ∀ c, separator c = true → c ∈ ['/', '\\']
  dir : Path

abbrev ImageData := List UInt8

abbrev Files := Path → Option ImageData

def Files.write (files : Files) (path : Path) (bytes : ImageData) : Files :=
  fun p => if p = path then some bytes else files p

def Files.remove (files : Files) (path : Path) : Files := fun p => if p = path then none else files p

inductive ImageError where
  | decode | write
  deriving DecidableEq

/-- The characters of base 64, and the comma. -/
def isBase64Char (c : Char) : Bool :=
  ('A' ≤ c && c ≤ 'Z') || ('a' ≤ c && c ≤ 'z') || ('0' ≤ c && c ≤ '9') || c == '+' || c == '/' || c == '=' || c == ','

def isValidBase64Image (s : String) : Bool := 100 ≤ s.utf8ByteSize && s.toList.all isBase64Char

def isImage (s : String) : Bool := "data:image".toList.isPrefixOf s.toList || isValidBase64Image s

def imageExt (head : List Char) : String :=
  if "png".toList <:+: head then ".png" else if "webp".toList <:+: head then ".webp" else ".jpg"

/-- The data after the comma with the extension its header gives; without the one comma the
whole text. -/
def imageParts (base64Data : String) : List Char × String :=
  match base64Data.toList.splitOn ',' with
  | [head, data] => (data, imageExt head)
  | _ => (base64Data.toList, ".jpg")

def sanitizeFilename (s : String) : String :=
  String.ofList (s.toList.map fun c => if c ∈ ['/', '\\', ':', '*', '?', '"', '<', '>', '|', ' '] then '_' else c)

/-- The name of a product's image file. -/
def imageName (productID ext : String) : String := "prod_" ++ sanitizeFilename productID ++ ext

namespace ImageDir

variable (store : ImageDir)

def path (filename : String) : Path := join store.separator store.dir filename.toList

/-- `written` says whether the directory and the file could be written. -/
def saveImageFromBase64 (written : Bool) (base64Data productID : String) (files : Files) :
    Except ImageError (String × Files) :=
  if base64Data = "" then .ok ("", files)
  else if isImage base64Data = false then .ok (base64Data, files)
  else
    match Base64.decode (imageParts base64Data).1 with
    | none => .error .decode
    | some decoded =>
      let filename := imageName productID (imageParts base64Data).2
      if written = true then .ok (filename, files.write (store.path filename) decoded) else .error .write

/-- A text with no dot is taken for no file name. -/
def deleteImage (filename : String) (files : Files) : Files :=
  if filename = "" ∨ '.' ∉ filename.toList then files else files.remove (store.path filename)

end ImageDir

/-- What the surroundings give to a call: a file that cannot be written, and what the
database answers instead of writing. -/
structure ImageEnv where
  host : CatalogEnv
  written : Bool
  database : Option Failure

/-- The database and the files. -/
structure Gallery where
  depot : Depot
  files : Files

inductive ImageCall where
  | createProduct (product : Product)
  | updateProduct (product : Product)
  | deleteProduct (id : String)

def ImageEnv.writes (e : ImageEnv) (result : Except Failure Store) : Except Failure Store :=
  match e.database with
  | some failure => .error failure
  | none => result

/-- The file name a save gives, when it gives one. -/
def ImageEnv.saved (e : ImageEnv) (store : ImageDir) (files : Files) (image id : String) : Option String :=
  (store.saveImageFromBase64 e.written image id files).toOption.map Prod.fst

/-- The files after a save. -/
def ImageEnv.kept (e : ImageEnv) (store : ImageDir) (files : Files) (image id : String) : Files :=
  ((store.saveImageFromBase64 e.written image id files).toOption.map Prod.snd).getD files

def Product.named (freshID : String) (product : Product) : Product :=
  if product.id = "" then { product with id := "prod_" ++ freshID } else product

theorem Product.named_image (product : Product) (freshID : String) : (product.named freshID).image = product.image := by
  unfold Product.named
  split <;> rfl

theorem Product.named_barcode (product : Product) (freshID : String) :
    (product.named freshID).barcode = product.barcode := by
  unfold Product.named
  split <;> rfl

namespace ImageCall

/-- The files after the image of an update: the new file is written, then the old one
removed. -/
def updatedFiles (store : ImageDir) (e : ImageEnv) (product existing : Product) (files : Files) : Files :=
  if product.image ≠ "" ∧ product.image ≠ existing.image then
    match store.saveImageFromBase64 e.written product.image product.id files with
    | .error _ => files
    | .ok (filename, files) =>
      if filename ≠ "" ∧ filename ≠ product.image then
        if existing.image ≠ "" ∧ '.' ∈ existing.image.toList then store.deleteImage existing.image files else files
      else files
  else files

/-- A call of the product service. The files change before the row does. -/
def act (store : ImageDir) (e : ImageEnv) (g : Gallery) : ImageCall → Except Failure Unit × Gallery
  | .createProduct product =>
    match (createProductGuard product).run g.depot with
    | .error failure => (.error failure, g)
    | .ok _ =>
      let named := product.named e.host.env.freshID
      let files := if named.image ≠ "" then e.kept store g.files named.image named.id else g.files
      let row := createdProduct { e.host with saveImage := e.saved store g.files } product
      match e.writes (g.depot.store.createProduct row) with
      | .error failure => (.error (.wrapped (.plain "failed to create product") failure), { g with files := files })
      | .ok db => (.ok (), ⟨{ g.depot with store := db }, files⟩)
  | .updateProduct product =>
    match (updateProductGuard product).run g.depot with
    | .error failure => (.error failure, g)
    | .ok (existing, _) =>
      let files := updatedFiles store e product existing g.files
      let row := updatedImage (e.saved store g.files) product existing
      match e.writes (g.depot.store.saveProduct row) with
      | .error failure => (.error (.wrapped (.plain "failed to update product") failure), { g with files := files })
      | .ok db => (.ok (), ⟨{ g.depot with store := db }, files⟩)
  | .deleteProduct id =>
    if id = "" then (.error (refuse "معرف المنتج مطلوب للحذف"), g)
    else
      match g.depot.store.products.find? id with
      | none => (.error (.wrapped (.plain "failed to get product for deletion") .recordNotFound), g)
      | some product =>
        let files :=
          if product.image ≠ "" ∧ '.' ∈ product.image.toList then store.deleteImage product.image g.files else g.files
        match e.writes (g.depot.store.deleteProduct id) with
        | .error failure => (.error (.wrapped (.plain "failed to delete product") failure), { g with files := files })
        | .ok db => (.ok (), ⟨{ g.depot with store := db }, files⟩)

end ImageCall

/-- The picture an image text carries, and the extension of its file. -/
def picture? (base64Data : String) : Option (String × ImageData) :=
  if base64Data ≠ "" ∧ isImage base64Data = true then
    (Base64.decode (imageParts base64Data).1).map fun decoded => ((imageParts base64Data).2, decoded)
  else none

section Save

variable {store : ImageDir} {written : Bool} {image id ext : String} {bytes : ImageData} {files : Files}

theorem save_picture (store : ImageDir) (written : Bool) (id : String) (files : Files)
    (picture : picture? image = some (ext, bytes)) :
    store.saveImageFromBase64 written image id files =
      if written = true then .ok (imageName id ext, files.write (store.path (imageName id ext)) bytes)
      else .error .write := by
  unfold picture? at picture
  split at picture
  · next given =>
    obtain ⟨decoded, data, same⟩ := Option.map_eq_some_iff.mp picture
    cases same
    simp only [ImageDir.saveImageFromBase64, if_neg given.1, given.2, Bool.true_eq_false, if_false, data]
  · cases picture

/-- A text without a picture stays as it is, or is refused. -/
theorem save_other (none : picture? image = none) :
    store.saveImageFromBase64 written image id files = .ok (image, files) ∨
      store.saveImageFromBase64 written image id files = .error .decode := by
  unfold picture? at none
  unfold ImageDir.saveImageFromBase64
  split
  · next empty => exact .inl (by rw [empty])
  · next given =>
    split
    · exact .inl rfl
    · next image' =>
      rw [if_pos ⟨given, Bool.eq_true_of_not_eq_false image'⟩, Option.map_eq_none_iff] at none
      rw [none]
      exact .inr rfl

theorem imageName_toList (id ext : String) : (imageName id ext).toList =
    'p' :: 'r' :: 'o' :: 'd' :: '_' :: ((sanitizeFilename id).toList ++ ext.toList) := by
  simp [imageName, String.toList_append]

theorem imageName_named (id ext : String) : imageName id ext ≠ "" := by
  rw [← String.toList_inj.ne]
  simp [imageName]

/-- A file name is not an image text: it starts otherwise, and an underscore is not base 64. -/
theorem imageName_other (picture : picture? image = some (ext, bytes)) : imageName id ext' ≠ image := by
  rintro rfl
  unfold picture? at picture
  split at picture
  · next given =>
    have headless : "data:image".toList.isPrefixOf (imageName id ext').toList = false := by
      rw [imageName_toList]
      rfl
    have other : isImage (imageName id ext') = false := by
      rw [isImage, headless, Bool.false_or, isValidBase64Image, imageName_toList]
      simp [isBase64Char]
    rw [other] at given
    exact absurd given.2 Bool.false_ne_true
  · cases picture

end Save

/-- What a call does to the files: at most one is written, and at most one removed then. -/
structure Touched where
  written : Option (Path × ImageData)
  removed : Option Path
  deriving DecidableEq

namespace Touched

def nothing : Touched := ⟨none, none⟩

def apply (t : Touched) (files : Files) : Files := fun path =>
  if t.removed = some path then none
  else
    match t.written with
    | some (at', bytes) => if path = at' then some bytes else files path
    | none => files path

end Touched

/-- The file an image text is written to. -/
def ImageEnv.upload (e : ImageEnv) (store : ImageDir) (id image : String) : Option (Path × ImageData) :=
  if e.written = true then (picture? image).map fun picture => (store.path (imageName id picture.1), picture.2) else none

/-- The image a row gets for an image text. -/
def ImageEnv.stored (e : ImageEnv) (id image : String) : String :=
  match picture? image with
  | some (ext, _) => if e.written = true then imageName id ext else image
  | none => image

/-- The file a deletion of an image removes. -/
def ImageDir.dotted (store : ImageDir) (image : String) : Option Path :=
  if '.' ∈ image.toList then some (store.path image) else none

def Product.creatable (product : Product) : Prop :=
  product.name ≠ "" ∧ 0 ≤ product.price ∧ 0 ≤ product.cost ∧ 0 ≤ product.stock

def Product.updatable (product : Product) : Prop :=
  product.id ≠ "" ∧ 0 ≤ product.price ∧ 0 ≤ product.cost ∧ 0 ≤ product.stock

instance (product : Product) : Decidable product.creatable := inferInstanceAs (Decidable (_ ∧ _ ∧ _ ∧ _))

instance (product : Product) : Decidable product.updatable := inferInstanceAs (Decidable (_ ∧ _ ∧ _ ∧ _))

namespace ImageCall

variable (store : ImageDir) (e : ImageEnv) (g : Gallery)

def touches : ImageCall → Touched
  | .createProduct product =>
    if product.creatable then ⟨e.upload store (product.named e.host.env.freshID).id product.image, none⟩ else .nothing
  | .updateProduct product =>
    match g.depot.store.products.find? product.id with
    | none => .nothing
    | some existing =>
      if product.updatable ∧ product.image ≠ existing.image then
        match e.upload store product.id product.image with
        | none => .nothing
        | some file => ⟨some file, store.dotted existing.image⟩
      else .nothing
  | .deleteProduct id =>
    if id = "" then .nothing
    else
      match g.depot.store.products.find? id with
      | none => .nothing
      | some product => ⟨none, store.dotted product.image⟩

/-- The product whose row a call writes. -/
def target : ImageCall → String
  | .createProduct product => (product.named e.host.env.freshID).id
  | .updateProduct product => product.id
  | .deleteProduct id => id

/-- The checks pass, and the database takes the row. -/
def Accepted : ImageCall → Prop
  | .createProduct product =>
    product.creatable ∧ e.database = none ∧ (∀ other ∈ g.depot.store.products.rows, other.barcode ≠ product.barcode) ∧
      g.depot.store.products.find? (product.named e.host.env.freshID).id = none
  | .updateProduct product =>
    product.updatable ∧ e.database = none ∧ (g.depot.store.products.find? product.id).isSome ∧
      ∀ other ∈ g.depot.store.products.rows, other.id ≠ product.id → other.barcode ≠ product.barcode
  | .deleteProduct id => id ≠ "" ∧ e.database = none ∧ (g.depot.store.products.find? id).isSome

/-- The image of the row after an accepted call; none when the row is gone. -/
def image : ImageCall → Option String
  | .createProduct product => some (e.stored (product.named e.host.env.freshID).id product.image)
  | .updateProduct product =>
    some (if (g.depot.store.products.find? product.id).map Product.image = some product.image then product.image
      else e.stored product.id product.image)
  | .deleteProduct _ => none

end ImageCall

section Files

variable {store : ImageDir} {e : ImageEnv} {g : Gallery} {files : Files} {image id : String}

/-- Either the picture goes to its file, or the files and the text stay as they are. -/
theorem save_does (store : ImageDir) (e : ImageEnv) (image id : String) (files : Files) :
    (∃ ext bytes, store.saveImageFromBase64 e.written image id files =
        .ok (imageName id ext, files.write (store.path (imageName id ext)) bytes) ∧
      e.upload store id image = some (store.path (imageName id ext), bytes) ∧ e.stored id image = imageName id ext ∧
      imageName id ext ≠ image) ∨
    ((store.saveImageFromBase64 e.written image id files = .ok (image, files) ∨
        ∃ error, store.saveImageFromBase64 e.written image id files = .error error) ∧
      e.upload store id image = none ∧ e.stored id image = image) := by
  cases picture : picture? image with
  | none =>
    refine .inr ⟨(save_other picture).imp (fun same => same) fun refused => ⟨_, refused⟩, ?_, ?_⟩
    · rw [ImageEnv.upload, picture, Option.map_none, ite_self]
    · rw [ImageEnv.stored, picture]
  | some found =>
    obtain ⟨ext, bytes⟩ := found
    have saved := save_picture store e.written id files picture
    by_cases written : e.written = true
    · rw [if_pos written] at saved
      refine .inl ⟨ext, bytes, saved, ?_, ?_, imageName_other picture⟩
      · rw [ImageEnv.upload, if_pos written, picture, Option.map_some]
      · simp only [ImageEnv.stored, picture, if_pos written]
    · rw [if_neg written] at saved
      refine .inr ⟨.inr ⟨_, saved⟩, ?_, ?_⟩
      · rw [ImageEnv.upload, if_neg written]
      · simp only [ImageEnv.stored, picture, if_neg written]

theorem upload_empty : e.upload store id "" = none := by
  have none : picture? "" = none := if_neg fun given => given.1 rfl
  rw [ImageEnv.upload, none, Option.map_none, ite_self]

theorem kept_files : e.kept store files image id = (⟨e.upload store id image, none⟩ : Touched).apply files := by
  unfold ImageEnv.kept
  rcases save_does store e image id files with ⟨ext, bytes, saved, upload, -⟩ | ⟨same | ⟨error, refused⟩, upload, -⟩
  · rw [saved, upload]
    rfl
  · rw [same, upload]
    rfl
  · rw [refused, upload]
    rfl

theorem deleteImage_files :
    store.deleteImage image files = (⟨none, store.dotted image⟩ : Touched).apply files := by
  unfold ImageDir.deleteImage ImageDir.dotted
  by_cases dotted : '.' ∈ image.toList
  · have named : image ≠ "" := by
      rintro rfl
      cases dotted
    rw [if_neg (not_or.mpr ⟨named, not_not_intro dotted⟩), if_pos dotted]
    funext path
    simp [Files.remove, Touched.apply, eq_comm]
  · rw [if_pos (.inr dotted), if_neg dotted]
    rfl

/-- The removal asks twice whether there is a dot. -/
theorem cleaned_files :
    (if image ≠ "" ∧ '.' ∈ image.toList then store.deleteImage image files else files) =
      (⟨none, store.dotted image⟩ : Touched).apply files := by
  by_cases local' : image ≠ "" ∧ '.' ∈ image.toList
  · rw [if_pos local', deleteImage_files]
  · rw [if_neg local']
    have undotted : '.' ∉ image.toList := by
      intro dotted
      refine local' ⟨?_, dotted⟩
      rintro rfl
      cases dotted
    rw [ImageDir.dotted, if_neg undotted]
    rfl

theorem updatedFiles_touches (store : ImageDir) (e : ImageEnv) (product existing : Product) (files : Files) :
    ImageCall.updatedFiles store e product existing files =
      (if product.image ≠ existing.image then
        match e.upload store product.id product.image with
        | none => Touched.nothing
        | some file => ⟨some file, store.dotted existing.image⟩
      else .nothing).apply files := by
  unfold ImageCall.updatedFiles
  by_cases changed : product.image ≠ existing.image
  · rw [if_pos changed]
    by_cases empty : product.image = ""
    · rw [if_neg fun given => given.1 empty, empty, upload_empty]
      rfl
    · rw [if_pos ⟨empty, changed⟩]
      rcases save_does store e product.image product.id files with
        ⟨ext, bytes, saved, upload, -, other⟩ | ⟨same | ⟨error, refused⟩, upload, -⟩
      · rw [saved, upload]
        dsimp only
        rw [if_pos ⟨imageName_named product.id ext, other⟩, cleaned_files]
        rfl
      · rw [same, upload]
        exact if_neg fun moved => moved.2 rfl
      · rw [refused, upload]
        rfl
  · rw [if_neg fun given => changed given.2, if_neg changed]
    rfl

end Files

section Acts

variable {store : ImageDir} {e : ImageEnv} {g : Gallery} {product existing : Product} {d : Depot}

theorem createProductGuard_does {ws : List DepotWrite} {final : Depot} :
    Does (createProductGuard product) d u ws final ↔ product.creatable ∧ ws = [] ∧ final = d := by
  unfold createProductGuard Product.creatable
  rw [does_ensure_bind, does_ensure_bind, does_ensure_bind, does_ensure]
  tauto

/-- The checks of a new product change nothing. -/
theorem createProductGuard_run (d : Depot) (product : Product) :
    product.creatable ∧ (createProductGuard product).run d = .ok ((), [], d) ∨
      ¬ product.creatable ∧ ∃ failure, (createProductGuard product).run d = .error failure := by
  by_cases creatable : product.creatable
  · exact .inl ⟨creatable, createProductGuard_does.mpr ⟨creatable, rfl, rfl⟩⟩
  · refine .inr ⟨creatable, ?_⟩
    cases run : (createProductGuard product).run d with
    | error failure => exact ⟨failure, rfl⟩
    | ok done => exact absurd (createProductGuard_does.mp run).1 creatable

theorem updateProductGuard_run (d : Depot) (product : Product) :
    (∃ existing, product.updatable ∧ d.store.products.find? product.id = some existing ∧
        (updateProductGuard product).run d = .ok (existing, [], d)) ∨
      (product.updatable → d.store.products.find? product.id = none) ∧
        ∃ failure, (updateProductGuard product).run d = .error failure := by
  cases run : (updateProductGuard product).run d with
  | error failure =>
    refine .inr ⟨fun updatable => ?_, failure, rfl⟩
    cases found : d.store.products.find? product.id with
    | none => rfl
    | some existing =>
      have does : (updateProductGuard product).run d = .ok (existing, [], d) :=
        updateProductGuard_does.mpr ⟨updatable, found, rfl, rfl⟩
      rw [run] at does
      cases does
  | ok done =>
    obtain ⟨existing, ws, final⟩ := done
    obtain ⟨updatable, found, rfl, rfl⟩ := updateProductGuard_does.mp run
    exact .inl ⟨existing, updatable, found, rfl⟩

/-- What a call does to the files, whether it is accepted or not. -/
theorem act_files (store : ImageDir) (e : ImageEnv) (g : Gallery) (call : ImageCall) :
    (call.act store e g).2.files = (call.touches store e g).apply g.files := by
  cases call with
  | createProduct product =>
    rcases createProductGuard_run g.depot product with ⟨creatable, run⟩ | ⟨creatable, failure, run⟩
    · have image := product.named_image e.host.env.freshID
      have files : (if (product.named e.host.env.freshID).image ≠ "" then
          e.kept store g.files (product.named e.host.env.freshID).image (product.named e.host.env.freshID).id else g.files) =
          (⟨e.upload store (product.named e.host.env.freshID).id product.image, none⟩ : Touched).apply g.files := by
        rw [image, kept_files]
        by_cases empty : product.image = ""
        · rw [if_neg (not_not_intro empty), empty, upload_empty]
          rfl
        · exact if_pos empty
      simp only [ImageCall.act, run, ImageCall.touches, if_pos creatable, files]
      split <;> rfl
    · simp only [ImageCall.act, run, ImageCall.touches, if_neg creatable]
      rfl
  | updateProduct product =>
    rcases updateProductGuard_run g.depot product with ⟨existing, updatable, found, run⟩ | ⟨missing, failure, run⟩
    · simp only [ImageCall.act, run, ImageCall.touches, found, updatable, true_and]
      have files := updatedFiles_touches store e product existing g.files
      split <;> exact files
    · simp only [ImageCall.act, run, ImageCall.touches]
      split
      · rfl
      · next existing found =>
        have refused : ¬ (product.updatable ∧ product.image ≠ existing.image) := by
          rintro ⟨updatable, -⟩
          rw [missing updatable] at found
          cases found
        rw [if_neg refused]
        rfl
  | deleteProduct id =>
    by_cases empty : id = ""
    · simp only [ImageCall.act, ImageCall.touches, if_pos empty]
      rfl
    · cases found : g.depot.store.products.find? id with
      | none =>
        simp only [ImageCall.act, ImageCall.touches, if_neg empty, found]
        rfl
      | some product =>
        simp only [ImageCall.act, ImageCall.touches, if_neg empty, found, cleaned_files]
        split <;> rfl

theorem saved_stored (store : ImageDir) (e : ImageEnv) (image id : String) (files : Files) :
    e.saved store files image id = none ∧ e.stored id image = image ∨
      e.saved store files image id = some (e.stored id image) := by
  unfold ImageEnv.saved
  rcases save_does store e image id files with
    ⟨ext, bytes, saved, -, stored, -⟩ | ⟨same | ⟨error, refused⟩, -, stored⟩
  · rw [saved, stored]
    exact .inr rfl
  · rw [same, stored]
    exact .inr rfl
  · rw [refused, stored]
    exact .inl ⟨rfl, rfl⟩

theorem stored_named {image id : String} (given : image ≠ "") : e.stored id image ≠ "" := by
  unfold ImageEnv.stored
  split
  · next ext _ _ =>
    split
    · exact imageName_named id ext
    · exact given
  · exact given

theorem stored_empty {id : String} : e.stored id "" = "" := by
  have none : picture? "" = none := if_neg fun given => given.1 rfl
  rw [ImageEnv.stored, none]

theorem createdProduct_row (store : ImageDir) (e : ImageEnv) (g : Gallery) (product : Product) :
    (createdProduct { e.host with saveImage := e.saved store g.files } product).id =
        (product.named e.host.env.freshID).id ∧
      (createdProduct { e.host with saveImage := e.saved store g.files } product).barcode = product.barcode ∧
      (createdProduct { e.host with saveImage := e.saved store g.files } product).image =
        e.stored (product.named e.host.env.freshID).id product.image := by
  have image := product.named_image e.host.env.freshID
  have row : createdProduct { e.host with saveImage := e.saved store g.files } product =
      (product.named e.host.env.freshID).withImage (e.stored (product.named e.host.env.freshID).id product.image) := by
    unfold createdProduct
    dsimp only
    generalize named : (if product.id = "" then _ else product) = filed
    obtain rfl : product.named e.host.env.freshID = filed := named
    by_cases empty : product.image = ""
    · rw [image, if_neg (not_not_intro empty), empty, stored_empty, ← empty, ← image]
      rfl
    · rw [image, if_pos empty]
      rcases saved_stored store e product.image (product.named e.host.env.freshID).id g.files with ⟨none, same⟩ | saved
      · rw [none, same, ← image]
        rfl
      · rw [saved]
        exact if_pos (stored_named empty)
  rw [row]
  exact ⟨rfl, product.named_barcode _, rfl⟩

theorem updatedImage_row (store : ImageDir) (e : ImageEnv) (g : Gallery) (product existing : Product) :
    (updatedImage (e.saved store g.files) product existing).image =
      if product.image = existing.image then product.image else e.stored product.id product.image := by
  unfold updatedImage
  by_cases same : product.image = existing.image
  · rw [if_neg fun changed => changed.2 same, if_pos same]
  · rw [if_neg same]
    by_cases empty : product.image = ""
    · rw [if_neg fun changed => changed.1 empty, empty, stored_empty]
    · rw [if_pos ⟨empty, same⟩]
      rcases saved_stored store e product.image product.id g.files with ⟨none, kept⟩ | saved
      · rw [none, kept]
      · rw [saved]
        dsimp only
        by_cases kept : e.stored product.id product.image = product.image
        · rw [if_neg fun moved => moved.2 kept, kept]
        · rw [if_pos ⟨stored_named empty, kept⟩]
          rfl

/-- What a call does to the images in the rows. -/
structure Writes (store : ImageDir) (e : ImageEnv) (g : Gallery) (call : ImageCall) : Prop where
  accepted : call.Accepted e g
  answer : (call.act store e g).1 = .ok ()
  images : ∀ id, ((call.act store e g).2.depot.store.products.find? id).map Product.image =
    if id = call.target e then call.image e g else (g.depot.store.products.find? id).map Product.image

structure Refused (store : ImageDir) (e : ImageEnv) (g : Gallery) (call : ImageCall) : Prop where
  accepted : ¬ call.Accepted e g
  answer : ∃ failure, (call.act store e g).1 = .error failure
  depot : (call.act store e g).2.depot = g.depot

/-- The database takes a new row when its keys are free. -/
theorem createProduct_store (db : Store) (row : Product) :
    (∃ products, (∀ other ∈ db.products.rows, other.barcode ≠ row.barcode) ∧ db.products.find? row.id = none ∧
        db.createProduct row = .ok { db with products := products } ∧
        ∀ id, products.find? id = if id = row.id then some row else db.products.find? id) ∨
      ¬ ((∀ other ∈ db.products.rows, other.barcode ≠ row.barcode) ∧ db.products.find? row.id = none) ∧
        ∃ failure, db.createProduct row = .error failure := by
  unfold Store.createProduct
  by_cases taken : ∃ other ∈ db.products.rows, other.barcode = row.barcode
  · refine .inr ⟨?_, _, if_pos taken⟩
    rintro ⟨free, -⟩
    obtain ⟨other, member, same⟩ := taken
    exact free other member same
  · have free : ∀ other ∈ db.products.rows, other.barcode ≠ row.barcode :=
      fun other member same => taken ⟨other, member, same⟩
    rw [if_neg taken]
    cases inserted : db.products.insert? row with
    | none =>
      refine .inr ⟨?_, _, rfl⟩
      rintro ⟨-, absent⟩
      obtain ⟨old, found⟩ := Table.insert?_none.mp inserted
      rw [absent] at found
      cases found
    | some products => exact .inl ⟨products, free, (Table.insert?_rows inserted).2, rfl, Table.find?_insert inserted⟩

theorem saveProduct_store (db : Store) (row : Product) :
    ((∀ other ∈ db.products.rows, other.id ≠ row.id → other.barcode ≠ row.barcode) ∧
        db.saveProduct row = .ok { db with products := db.products.set row }) ∨
      ¬ (∀ other ∈ db.products.rows, other.id ≠ row.id → other.barcode ≠ row.barcode) ∧
        ∃ failure, db.saveProduct row = .error failure := by
  unfold Store.saveProduct
  by_cases taken : ∃ other ∈ db.products.rows, other.id ≠ row.id ∧ other.barcode = row.barcode
  · refine .inr ⟨?_, _, if_pos taken⟩
    intro free
    obtain ⟨other, member, differs, same⟩ := taken
    exact free other member differs same
  · exact .inl ⟨fun other member differs same => taken ⟨other, member, differs, same⟩, if_neg taken⟩

/-- The database answers the write, or fails by itself. -/
theorem writes_answer (e : ImageEnv) (result : Except Failure Store) :
    e.database = none ∧ e.writes result = result ∨ e.database ≠ none ∧ ∃ failure, e.writes result = .error failure := by
  unfold ImageEnv.writes
  cases e.database with
  | none => exact .inl ⟨rfl, rfl⟩
  | some failure => exact .inr ⟨Option.some_ne_none failure, failure, rfl⟩

theorem createProduct_act (product : Product) :
    Writes store e g (.createProduct product) ∨ Refused store e g (.createProduct product) := by
  obtain ⟨id, barcode, image⟩ := createdProduct_row store e g product
  rcases createProductGuard_run g.depot product with ⟨creatable, run⟩ | ⟨creatable, failure, run⟩
  · rcases writes_answer e (g.depot.store.createProduct
        (createdProduct { e.host with saveImage := e.saved store g.files } product)) with
      ⟨database, writes⟩ | ⟨database, failure, writes⟩
    · rcases createProduct_store g.depot.store
          (createdProduct { e.host with saveImage := e.saved store g.files } product) with
        ⟨products, free, absent, created, rows⟩ | ⟨taken, failure, refused⟩
      · rw [barcode] at free
        rw [id] at absent
        rw [created] at writes
        refine .inl ⟨⟨creatable, database, free, absent⟩, ?_, fun other => ?_⟩
        · simp only [ImageCall.act, run, created, writes]
        · simp only [ImageCall.act, run, created, writes, rows, id]
          change Option.map _ (if other = (product.named e.host.env.freshID).id then _ else _) =
            if other = (product.named e.host.env.freshID).id then _ else _
          split
          · rw [Option.map_some, image]
            rfl
          · rfl
      · rw [barcode, id] at taken
        rw [refused] at writes
        refine .inr ⟨fun accepted => taken accepted.2.2, ⟨.wrapped (.plain "failed to create product") failure, ?_⟩, ?_⟩
        · simp only [ImageCall.act, run, refused, writes]
        · simp only [ImageCall.act, run, refused, writes]
    · refine .inr ⟨fun accepted => database accepted.2.1,
        ⟨.wrapped (.plain "failed to create product") failure, ?_⟩, ?_⟩
      · simp only [ImageCall.act, run, writes]
      · simp only [ImageCall.act, run, writes]
  · refine .inr ⟨fun accepted => creatable accepted.1, ⟨failure, ?_⟩, ?_⟩
    · simp only [ImageCall.act, run]
    · simp only [ImageCall.act, run]

theorem updateProduct_act (product : Product) :
    Writes store e g (.updateProduct product) ∨ Refused store e g (.updateProduct product) := by
  rcases updateProductGuard_run g.depot product with ⟨existing, updatable, found, run⟩ | ⟨missing, failure, run⟩
  · obtain ⟨id, barcode⟩ := updatedImage_same (e.saved store g.files) product existing
    have image := updatedImage_row store e g product existing
    have here : (g.depot.store.products.find? product.id).isSome := by
      rw [found]
      rfl
    rcases writes_answer e (g.depot.store.saveProduct (updatedImage (e.saved store g.files) product existing)) with
      ⟨database, writes⟩ | ⟨database, failure, writes⟩
    · rcases saveProduct_store g.depot.store (updatedImage (e.saved store g.files) product existing) with
        ⟨free, saved⟩ | ⟨taken, failure, refused⟩
      · rw [id, barcode] at free
        rw [saved] at writes
        refine .inl ⟨⟨updatable, database, here, free⟩, ?_, fun other => ?_⟩
        · simp only [ImageCall.act, run, saved, writes]
        · simp only [ImageCall.act, run, saved, writes, Table.find?_set, id]
          change Option.map _ (if other = product.id then _ else _) = if other = product.id then _ else _
          split
          · simp only [Option.map_some, image, ImageCall.image, found, Option.some.injEq, eq_comm]
          · rfl
      · rw [id, barcode] at taken
        rw [refused] at writes
        refine .inr ⟨fun accepted => taken accepted.2.2.2,
          ⟨.wrapped (.plain "failed to update product") failure, ?_⟩, ?_⟩
        · simp only [ImageCall.act, run, refused, writes]
        · simp only [ImageCall.act, run, refused, writes]
    · refine .inr ⟨fun accepted => database accepted.2.1,
        ⟨.wrapped (.plain "failed to update product") failure, ?_⟩, ?_⟩
      · simp only [ImageCall.act, run, writes]
      · simp only [ImageCall.act, run, writes]
  · refine .inr ⟨fun accepted => ?_, ⟨failure, ?_⟩, ?_⟩
    · have here := accepted.2.2.1
      rw [missing accepted.1] at here
      cases here
    · simp only [ImageCall.act, run]
    · simp only [ImageCall.act, run]

theorem deleteProduct_act (id : String) :
    Writes store e g (.deleteProduct id) ∨ Refused store e g (.deleteProduct id) := by
  by_cases empty : id = ""
  · refine .inr ⟨fun accepted => accepted.1 empty, ⟨refuse "معرف المنتج مطلوب للحذف", ?_⟩, ?_⟩
    · simp only [ImageCall.act, if_pos empty]
    · simp only [ImageCall.act, if_pos empty]
  · cases found : g.depot.store.products.find? id with
    | none =>
      refine .inr ⟨fun accepted => ?_,
        ⟨.wrapped (.plain "failed to get product for deletion") .recordNotFound, ?_⟩, ?_⟩
      · have here := accepted.2.2
        rw [found] at here
        cases here
      · simp only [ImageCall.act, if_neg empty, found]
      · simp only [ImageCall.act, if_neg empty, found]
    | some product =>
      have here : (g.depot.store.products.find? id).isSome := by
        rw [found]
        rfl
      have deleted : g.depot.store.deleteProduct id =
          .ok { g.depot.store with products := g.depot.store.products.filter (fun p => p.id ≠ id) } := by
        simp only [Store.deleteProduct, if_neg empty, found]
      rcases writes_answer e (g.depot.store.deleteProduct id) with ⟨database, writes⟩ | ⟨database, failure, writes⟩
      · rw [deleted] at writes
        refine .inl ⟨⟨empty, database, here⟩, ?_, fun other => ?_⟩
        · simp only [ImageCall.act, if_neg empty, found, deleted, writes]
        · simp only [ImageCall.act, if_neg empty, found, deleted, writes, Table.find?_filter]
          change _ = if other = id then _ else _
          cases row : g.depot.store.products.find? other with
          | none => split <;> rfl
          | some p =>
            have key : p.id = other := Table.find?_key row
            by_cases own : other = id
            · rw [if_pos own, Option.filter, key, decide_eq_false (not_not_intro own)]
              rfl
            · rw [if_neg own, Option.filter, key, decide_eq_true own]
              rfl
      · refine .inr ⟨fun accepted => database accepted.2.1,
          ⟨.wrapped (.plain "failed to delete product") failure, ?_⟩, ?_⟩
        · simp only [ImageCall.act, if_neg empty, found, writes]
        · simp only [ImageCall.act, if_neg empty, found, writes]

theorem act_does (store : ImageDir) (e : ImageEnv) (g : Gallery) (call : ImageCall) :
    Writes store e g call ∨ Refused store e g call := by
  cases call with
  | createProduct product => exact createProduct_act product
  | updateProduct product => exact updateProduct_act product
  | deleteProduct id => exact deleteProduct_act id

end Acts

end BeidarPos
