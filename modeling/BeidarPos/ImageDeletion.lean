import BeidarPos.ImageStore

/-! Where deletions reach. An image text without a picture is stored as it came, and an
edit or a deletion of the product removes the file that the text leads to. -/
namespace BeidarPos

open Relational LexicalPath

abbrev ImageTurn := ImageEnv × ImageCall

def runImages (store : ImageDir) (calls : List ImageTurn) (g : Gallery) : Gallery :=
  calls.foldl (fun g turn => (turn.2.act store turn.1 g).2) g

/-- The image text a client sends. -/
def ImageCall.supplied : ImageCall → Option String
  | .createProduct product | .updateProduct product => some product.image
  | .deleteProduct _ => none

/-- A text that names no file, a file of the image directory, or a directory: it climbs over
the last names of the image directory, and its own names are these again with one more, or
the first of them. -/
def ImageDir.Safe (store : ImageDir) (image : String) : Prop :=
  '.' ∉ image.toList ∨
    (∃ name, (clean store.separator image.toList).names =
      (clean store.separator image.toList).climbed store.dir ++ [name]) ∨
    (clean store.separator image.toList).names <+: (clean store.separator image.toList).climbed store.dir

/-- The image directory is there, and no product leads out of it. -/
structure ImageDir.Sound (store : ImageDir) (g : Gallery) : Prop where
  images : ∀ id image, (g.depot.store.products.find? id).map Product.image = some image → store.Safe image
  directory : ∀ path, path <+: store.dir → g.files path = none

/-- Every file that a call of the run removes is a child of the image directory. -/
def ImageDir.Confined (store : ImageDir) (calls : List ImageTurn) (g : Gallery) : Prop :=
  ∀ front turn back, calls = front ++ turn :: back → ∀ path, (runImages store front g).files path ≠ none →
    (runImages store (front ++ [turn]) g).files path = none → ∃ name, path = store.dir ++ [name]

section Names

variable {store : ImageDir} {e : ImageEnv} {image id : String}

theorem safe_path : store.Safe image ↔
    '.' ∉ image.toList ∨ (∃ name, store.path image = store.dir ++ [name]) ∨ store.path image <+: store.dir := by
  rw [ImageDir.path, join_clean, Relative.resolve_child, Relative.resolve_prefix]
  rfl

/-- The extensions have no separator in them. -/
theorem picture_ext {ext : String} {bytes : ImageData} (picture : picture? image = some (ext, bytes)) :
    ext ∈ [".png", ".webp", ".jpg"] := by
  unfold picture? at picture
  split at picture
  · obtain ⟨decoded, -, same⟩ := Option.map_eq_some_iff.mp picture
    have kind : (imageParts image).2 ∈ [".png", ".webp", ".jpg"] := by
      unfold imageParts
      split
      · unfold imageExt
        split
        · simp
        · split <;> simp
      · simp
    cases same
    exact kind
  · cases picture

theorem sanitizeFilename_plain (s : String) : ∀ c ∈ (sanitizeFilename s).toList, c ≠ '/' ∧ c ≠ '\\' := by
  intro c member
  rw [sanitizeFilename, String.toList_ofList] at member
  obtain ⟨old, -, rfl⟩ := List.mem_map.mp member
  split
  · exact ⟨by decide, by decide⟩
  · next kept =>
    simp only [List.mem_cons, not_or] at kept
    exact ⟨kept.1, kept.2.1⟩

/-- A file name is one name, whatever the product's identifier is. -/
theorem path_imageName {ext : String} (kind : ext ∈ [".png", ".webp", ".jpg"]) :
    store.path (imageName id ext) = store.dir ++ [(imageName id ext).toList] := by
  have front : ∀ c ∈ ['p', 'r', 'o', 'd', '_'], c ≠ '/' ∧ c ≠ '\\' := by simp
  have back : ∀ c ∈ ext.toList, c ≠ '/' ∧ c ≠ '\\' := by
    simp only [List.mem_cons, List.not_mem_nil, or_false] at kind
    rcases kind with rfl | rfl | rfl <;> simp
  have plain : ∀ c ∈ (imageName id ext).toList, c ≠ '/' ∧ c ≠ '\\' := by
    have parts : (imageName id ext).toList = ['p', 'r', 'o', 'd', '_'] ++ ((sanitizeFilename id).toList ++ ext.toList) :=
      imageName_toList id ext
    intro c member
    rw [parts, List.mem_append, List.mem_append] at member
    rcases member with start | inside | suffix
    · exact front c start
    · exact sanitizeFilename_plain id c inside
    · exact back c suffix
  refine join_name (fun c member => ?_) ⟨?_, ?_, ?_⟩
  · refine Bool.eq_false_iff.mpr fun separates => ?_
    have listed := store.listed c separates
    simp only [List.mem_cons, List.not_mem_nil, or_false] at listed
    rcases listed with slash | backslash
    · exact (plain c member).1 slash
    · exact (plain c member).2 backslash
  all_goals
    rw [imageName_toList]
    simp

theorem upload_child {path : Path} {bytes : ImageData} (upload : e.upload store id image = some (path, bytes)) :
    ∃ name, path = store.dir ++ [name] := by
  unfold ImageEnv.upload at upload
  split at upload
  · obtain ⟨⟨ext, decoded⟩, picture, same⟩ := Option.map_eq_some_iff.mp upload
    cases same
    exact ⟨_, path_imageName (picture_ext picture)⟩
  · cases upload

/-- The image a row gets leads to a file of the directory, or where its text leads. -/
theorem stored_safe (safe : store.Safe image) : store.Safe (e.stored id image) := by
  unfold ImageEnv.stored
  split
  · next ext bytes picture =>
    split
    · exact safe_path.mpr (.inr (.inl ⟨_, path_imageName (picture_ext picture)⟩))
    · exact safe
  · exact safe

end Names

section Run

variable {store : ImageDir} {e : ImageEnv} {g : Gallery}

theorem apply_none {t : Touched} {files : Files} {path : Path} (there : files path ≠ none)
    (gone : t.apply files path = none) : t.removed = some path := by
  unfold Touched.apply at gone
  split at gone
  · next removed => exact removed
  · split at gone
    · next written =>
      split at gone
      · cases gone
      · exact absurd gone there
    · exact absurd gone there

theorem dotted_some {image : String} {path : Path} (dotted : store.dotted image = some path) :
    '.' ∈ image.toList ∧ path = store.path image := by
  unfold ImageDir.dotted at dotted
  split at dotted
  · next dot => exact ⟨dot, (Option.some.inj dotted).symm⟩
  · cases dotted

/-- What a call removes is the file some product's image leads to. -/
theorem touches_removed {call : ImageCall} {path : Path} (removed : (call.touches store e g).removed = some path) :
    ∃ id image, (g.depot.store.products.find? id).map Product.image = some image ∧ '.' ∈ image.toList ∧
      path = store.path image := by
  cases call with
  | createProduct product =>
    simp only [ImageCall.touches] at removed
    split at removed <;> cases removed
  | updateProduct product =>
    simp only [ImageCall.touches] at removed
    split at removed
    · cases removed
    · next existing found =>
      split at removed
      · split at removed
        · cases removed
        · obtain ⟨dot, same⟩ := dotted_some removed
          exact ⟨product.id, existing.image, by rw [found, Option.map_some], dot, same⟩
      · cases removed
  | deleteProduct id =>
    simp only [ImageCall.touches] at removed
    split at removed
    · cases removed
    · split at removed
      · cases removed
      · next product found =>
        obtain ⟨dot, same⟩ := dotted_some removed
        exact ⟨id, product.image, by rw [found, Option.map_some], dot, same⟩

/-- What a call writes is a child of the directory. -/
theorem touches_written {call : ImageCall} {path : Path} {bytes : ImageData}
    (written : (call.touches store e g).written = some (path, bytes)) : ∃ name, path = store.dir ++ [name] := by
  cases call with
  | createProduct product =>
    simp only [ImageCall.touches] at written
    split at written
    · exact upload_child written
    · cases written
  | updateProduct product =>
    simp only [ImageCall.touches] at written
    split at written
    · cases written
    · split at written
      · split at written
        · cases written
        · next file upload =>
          cases written
          exact upload_child upload
      · cases written
  | deleteProduct id =>
    simp only [ImageCall.touches] at written
    split at written
    · cases written
    · split at written <;> cases written

/-- The image of a row a call writes comes from the text that was sent. -/
theorem image_safe {call : ImageCall} {image : String} (allowed : ∀ image, call.supplied = some image → store.Safe image)
    (row : call.image e g = some image) : store.Safe image := by
  cases call with
  | createProduct product =>
    cases row
    exact stored_safe (allowed _ rfl)
  | updateProduct product =>
    cases row
    split
    · exact allowed _ rfl
    · exact stored_safe (allowed _ rfl)
  | deleteProduct id => cases row

theorem act_sound {call : ImageCall} (sound : store.Sound g)
    (allowed : ∀ image, call.supplied = some image → store.Safe image) : store.Sound (call.act store e g).2 where
  images := by
    intro id image found
    rcases act_does store e g call with writes | refused
    · rw [writes.images] at found
      split at found
      · exact image_safe allowed found
      · exact sound.images id image found
    · rw [refused.depot] at found
      exact sound.images id image found
  directory := by
    intro path inside
    rw [act_files, Touched.apply]
    split
    · rfl
    · split
      · next written =>
        split
        · next same =>
          obtain ⟨name, child⟩ := touches_written written
          rw [same, child] at inside
          have longer := inside.length_le
          simp at longer
        · exact sound.directory path inside
      · exact sound.directory path inside

theorem act_confined {call : ImageCall} (sound : store.Sound g) {path : Path} (there : g.files path ≠ none)
    (gone : (call.act store e g).2.files path = none) : ∃ name, path = store.dir ++ [name] := by
  rw [act_files] at gone
  obtain ⟨id, image, found, dot, rfl⟩ := touches_removed (apply_none there gone)
  rcases safe_path.mp (sound.images id image found) with undotted | child | directory
  · exact absurd dot undotted
  · exact child
  · exact absurd (sound.directory _ directory) there

theorem run_sound {calls : List ImageTurn} (sound : store.Sound g)
    (allowed : ∀ turn ∈ calls, ∀ image, turn.2.supplied = some image → store.Safe image) :
    store.Sound (runImages store calls g) := by
  induction calls generalizing g with
  | nil => exact sound
  | cons turn calls ih =>
    exact ih (act_sound sound (allowed turn (by simp))) fun other member => allowed other (by simp [member])

theorem runImages_snoc (front : List ImageTurn) (turn : ImageTurn) :
    runImages store (front ++ [turn]) g = (turn.2.act store turn.1 (runImages store front g)).2 := List.foldl_append

end Run

section Escape

variable {store : ImageDir}

/-- A product with an image and nothing else. -/
def imaged (id image : String) : Product := ⟨id, id, id, 0, 0, 0, 0, "", image, "", 0, "", none⟩

/-- A host whose database works, and whose image directory can be written or not. -/
def serving (written : Bool) : ImageEnv := ⟨⟨0, till, fun _ _ => none, Char.toLower⟩, written, none⟩

/-- No product, and one file. -/
def oneFile (path : Path) : Gallery := ⟨⟨Store.empty, .empty, .empty, .empty⟩, fun p => if p = path then some [] else none⟩

/-- A text that leads elsewhere is stored, and then takes the file there with it. -/
theorem escapes {image : String} {written : Bool} (raw : written = false ∨ picture? image = none)
    (dot : '.' ∈ image.toList) :
    ¬ (∃ name, store.path image = store.dir ++ [name]) →
      ¬ store.Confined [((serving written), .createProduct (imaged "p" image)), ((serving written), .deleteProduct "p")]
        (oneFile (store.path image)) := by
  intro elsewhere confined
  let created := runImages store [((serving written), .createProduct (imaged "p" image))] (oneFile (store.path image))
  have kept (id : String) : (serving written).stored id image = image ∧ (serving written).upload store id image = none := by
    unfold ImageEnv.stored ImageEnv.upload
    rcases raw with rfl | none
    · exact ⟨by split <;> rfl, rfl⟩
    · rw [none]
      exact ⟨rfl, ite_self _⟩
  have accepted : (ImageCall.createProduct (imaged "p" image)).Accepted (serving written) (oneFile (store.path image)) :=
    ⟨⟨by simp [imaged], le_refl _, le_refl _, le_refl _⟩, rfl, by simp [oneFile, Store.empty, Table.empty], rfl⟩
  have row : (created.depot.store.products.find? "p").map Product.image = some image := by
    rcases act_does store (serving written) (oneFile (store.path image))
      (.createProduct (imaged "p" image)) with writes | refused
    · exact (writes.images "p").trans ((if_pos rfl).trans (congrArg some (kept "p").1))
    · exact absurd accepted refused.accepted
  have there : created.files (store.path image) = some [] := by
    have files := act_files store (serving written) (oneFile (store.path image))
      (.createProduct (imaged "p" image))
    refine (congrFun files _).trans ?_
    have upload : (serving written).upload store ((imaged "p" image).named (serving written).host.env.freshID).id
        (imaged "p" image).image = none := (kept _).2
    simp only [ImageCall.touches, if_pos accepted.1, upload, Touched.apply, reduceCtorEq, if_false, oneFile, if_true]
  have gone : ((ImageCall.deleteProduct "p").act store (serving written) created).2.files (store.path image) = none := by
    obtain ⟨product, found, same⟩ := Option.map_eq_some_iff.mp row
    rw [act_files]
    simp [ImageCall.touches, Touched.apply, found, ImageDir.dotted, same, dot]
  refine elsewhere (confined [((serving written), .createProduct (imaged "p" image))] ((serving written), .deleteProduct "p") [] rfl
    (store.path image) ?_ gone)
  change created.files (store.path image) ≠ none
  rw [there]
  exact Option.some_ne_none _

end Escape

/-- Whatever calls are made with such images: every file that is removed is a child of the
image directory, when and only when each of these texts is safe. -/
theorem deletion_confined (store : ImageDir) (allowed : String → Prop) :
    (∀ g calls, store.Sound g → (∀ turn ∈ calls, ∀ image, ImageCall.supplied (Prod.snd turn) = some image → allowed image) →
      store.Confined calls g) ↔ ∀ image, allowed image → store.Safe image := by
  constructor
  · intro confined image sent
    refine safe_path.mpr ?_
    by_contra harmful
    obtain ⟨dot, outside⟩ := not_or.mp harmful
    obtain ⟨elsewhere, file⟩ := not_or.mp outside
    refine escapes (.inl rfl) (not_not.mp dot) elsewhere (confined _ _ ⟨?_, ?_⟩ ?_)
    · intro id image found
      cases found
    · intro path inside
      refine if_neg fun same => file ?_
      rwa [same] at inside
    · intro turn member image' supplied
      rcases List.mem_cons.mp member with rfl | member
      · cases supplied
        exact sent
      · rw [List.mem_singleton.mp member] at supplied
        cases supplied
  · intro safe g calls sound sends front turn back split path there gone
    have before : store.Sound (runImages store front g) :=
      run_sound sound fun other member image supplied => safe image (sends other (by simp [split, member]) image supplied)
    rw [runImages_snoc] at gone
    exact act_confined before there gone

section Tea

/-- The images of a user on Linux. -/
def homeImages : ImageDir where
  separator := fun c => c = '/'
  listed := by simp
  dir := ["home".toList, "BeidarPOS_V3".toList, "images".toList]

/-- The database beside the image directory. -/
def databaseFile : Path := ["home".toList, "BeidarPOS_V3".toList, "beidar.db".toList]

end Tea

/-- The database goes with a product whose image leads to it. -/
theorem deletion_confined_database :
    homeImages.Sound (oneFile databaseFile) ∧
      ¬ homeImages.Confined [((serving true), .createProduct (imaged "p" "../beidar.db")), ((serving true), .deleteProduct "p")]
        (oneFile databaseFile) := by
  have leads : homeImages.path "../beidar.db" = databaseFile := by decide +kernel
  refine ⟨⟨?_, ?_⟩, ?_⟩
  · intro id image found
    cases found
  · intro path inside
    refine if_neg fun same => ?_
    rw [same] at inside
    exact absurd inside (by decide +kernel)
  · rw [← leads]
    refine escapes (.inr rfl) (by decide) ?_
    rintro ⟨name, child⟩
    rw [leads] at child
    have length := congrArg List.length child
    simp [databaseFile, homeImages] at length

end BeidarPos
