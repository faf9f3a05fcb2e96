import BeidarPos.ImageDeletion
import BeidarPos.Runs

/-! What becomes of uploaded pictures. The name of a file says the product and the format
and nothing else, the file is written before the old one is removed, and both before the row
is saved; so a call may take a picture away that a product still names. -/
namespace BeidarPos

open Relational LexicalPath

/-- The database and the files, and beside them the last picture that was accepted for each
product. -/
structure Album where
  gallery : Gallery
  uploads : String → Option ImageData

namespace ImageCall

/-- An update that sends the stored image back. -/
def SendsBack (g : Gallery) : ImageCall → Prop
  | .updateProduct product => (g.depot.store.products.find? product.id).map Product.image = some product.image
  | .createProduct _ | .deleteProduct _ => False

instance (g : Gallery) (call : ImageCall) : Decidable (call.SendsBack g) :=
  match call with
  | .updateProduct _ => inferInstanceAs (Decidable (_ = _))
  | .createProduct _ | .deleteProduct _ => inferInstanceAs (Decidable False)

/-- The picture in what the client sends. -/
def picture (call : ImageCall) : Option (String × ImageData) := call.supplied.bind picture?

end ImageCall

namespace Album

variable (store : ImageDir) (e : ImageEnv) (a : Album)

/-- A call, with what it means for the accepted pictures. -/
def act (call : ImageCall) : Album where
  gallery := (call.act store e a.gallery).2
  uploads :=
    match (call.act store e a.gallery).1 with
    | .error _ => a.uploads
    | .ok _ =>
      if call.SendsBack a.gallery then a.uploads
      else fun id => if id = call.target e then call.picture.map Prod.snd else a.uploads id

def run (calls : List ImageTurn) : Album := calls.foldl (fun a turn => a.act store turn.1 turn.2) a

/-- The image of a product, as it is stored. -/
def image (id : String) : Option String := (a.gallery.depot.store.products.find? id).map Product.image

/-- Every product whose last accepted image was an upload names a file with that picture. -/
def Survives : Prop :=
  ∀ id bytes, a.uploads id = some bytes → ∃ image, a.image id = some image ∧ a.gallery.files (store.path image) = some bytes

end Album

/-- The picture in a file outlasts a call. -/
def Touched.Spares (t : Touched) (path : Path) (bytes : ImageData) : Prop :=
  t.removed ≠ some path ∧ ∀ other, t.written = some (path, other) → other = bytes

/-- A call takes no picture away, its own upload included: it removes no file and writes no
other picture to a file that a product keeps its last upload in, unless it is accepted and
gives that product another image; and an accepted one does not remove what it writes. -/
structure Careful (store : ImageDir) (e : ImageEnv) (a : Album) (call : ImageCall) : Prop where
  others : ∀ id bytes image, a.uploads id = some bytes → a.image id = some image →
    (call.Accepted e a.gallery → id ≠ call.target e ∨ call.SendsBack a.gallery) →
    (call.touches store e a.gallery).Spares (store.path image) bytes
  own : call.Accepted e a.gallery → ∀ path bytes, (call.touches store e a.gallery).written = some (path, bytes) →
    (call.touches store e a.gallery).removed ≠ some path

section Steps

variable {store : ImageDir} {e : ImageEnv} {a : Album} {call : ImageCall}

theorem apply_spares {t : Touched} {files : Files} {path : Path} {bytes : ImageData} (there : files path = some bytes) :
    t.apply files path = some bytes ↔ t.Spares path bytes := by
  unfold Touched.apply Touched.Spares
  by_cases removed : t.removed = some path
  · rw [if_pos removed]
    exact iff_of_false (Option.some_ne_none bytes).symm fun spared => spared.1 removed
  · rw [if_neg removed]
    cases written : t.written with
    | none => exact iff_of_true there ⟨removed, fun _ absurd => (Option.some_ne_none _ absurd.symm).elim⟩
    | some file =>
      obtain ⟨target, other⟩ := file
      by_cases same : path = target
      · subst same
        simp [removed]
      · simp only [if_neg same]
        refine iff_of_true there ⟨removed, fun other' written' => ?_⟩
        exact absurd (congrArg Prod.fst (Option.some.inj written')).symm same

/-- An update that sends the image back leaves the files alone, and the image. -/
theorem sendsBack_touches (back : call.SendsBack a.gallery) :
    call.touches store e a.gallery = .nothing ∧ call.image e a.gallery = a.image (call.target e) := by
  cases call with
  | createProduct product => exact back.elim
  | deleteProduct id => exact back.elim
  | updateProduct product =>
    obtain ⟨existing, found, same⟩ := Option.map_eq_some_iff.mp back
    constructor
    · simp only [ImageCall.touches, found]
      exact if_neg fun changed => changed.2 same.symm
    · have sent : (a.gallery.depot.store.products.find? product.id).map Product.image = some product.image := back
      simp only [ImageCall.image, if_pos sent]
      exact sent.symm

/-- An accepted upload goes to the file the row names then. -/
theorem picture_written (accepted : call.Accepted e a.gallery) (other : ¬ call.SendsBack a.gallery)
    (written : e.written = true) {ext : String} {bytes : ImageData} (picture : call.picture = some (ext, bytes)) :
    ∃ image, call.image e a.gallery = some image ∧
      (call.touches store e a.gallery).written = some (store.path image, bytes) := by
  have upload (id : String) {image : String} (found : picture? image = some (ext, bytes)) :
      e.upload store id image = some (store.path (imageName id ext), bytes) ∧ e.stored id image = imageName id ext := by
    constructor
    · rw [ImageEnv.upload, if_pos written, found, Option.map_some]
    · rw [ImageEnv.stored, found]
      exact if_pos written
  cases call with
  | createProduct product =>
    obtain ⟨file, stored⟩ := upload (product.named e.host.env.freshID).id picture
    refine ⟨_, rfl, ?_⟩
    simp only [ImageCall.touches, if_pos accepted.1, file, stored]
  | updateProduct product =>
    obtain ⟨file, stored⟩ := upload product.id picture
    obtain ⟨existing, found⟩ := Option.isSome_iff_exists.mp accepted.2.2.1
    have changed : product.image ≠ existing.image := by
      intro same
      refine other ?_
      change (a.gallery.depot.store.products.find? product.id).map Product.image = some product.image
      rw [found, same, Option.map_some]
    have image : (ImageCall.updateProduct product).image e a.gallery = some (imageName product.id ext) := by
      rw [← stored]
      exact congrArg some (if_neg other)
    refine ⟨_, image, ?_⟩
    simp only [ImageCall.touches, found, if_pos (And.intro accepted.1 changed), file]
  | deleteProduct id => cases picture

/-- Without a picture nothing is written. -/
theorem picture_unwritten (pictureless : call.picture = none) : (call.touches store e a.gallery).written = none := by
  have upload {id image : String} (absent : picture? image = none) : e.upload store id image = none := by
    rw [ImageEnv.upload, absent, Option.map_none, ite_self]
  cases call with
  | createProduct product =>
    simp only [ImageCall.touches]
    split
    · exact upload pictureless
    · rfl
  | updateProduct product =>
    have absent : e.upload store product.id product.image = none := upload pictureless
    simp only [ImageCall.touches, absent]
    split
    · rfl
    · split <;> rfl
  | deleteProduct id =>
    simp only [ImageCall.touches]
    split
    · rfl
    · split <;> rfl

theorem apply_written {t : Touched} {files : Files} {path : Path} {bytes : ImageData}
    (written : t.written = some (path, bytes)) : t.apply files path = some bytes ↔ t.removed ≠ some path := by
  unfold Touched.apply
  by_cases removed : t.removed = some path
  · rw [if_pos removed]
    exact iff_of_false (Option.some_ne_none bytes).symm fun kept => kept removed
  · rw [if_neg removed, written]
    exact iff_of_true (if_pos rfl) removed

theorem act_gallery (id : String) :
    (a.act store e call).image id = ((call.act store e a.gallery).2.depot.store.products.find? id).map Product.image := rfl

theorem act_gallery_files :
    (a.act store e call).gallery.files = (call.touches store e a.gallery).apply a.gallery.files :=
  act_files store e a.gallery call

/-- A refused call changes no row and no last picture. -/
theorem refused_survives (survives : a.Survives store) (refused : Refused store e a.gallery call) :
    (a.act store e call).Survives store ↔ Careful store e a call := by
  obtain ⟨failure, answer⟩ := refused.answer
  have uploads : (a.act store e call).uploads = a.uploads := by
    simp only [Album.act, answer]
  have image (id : String) : (a.act store e call).image id = a.image id := by
    rw [act_gallery, refused.depot]
    rfl
  constructor
  · intro later
    refine ⟨fun id bytes image' last stored _ => ?_, fun accepted => absurd accepted refused.accepted⟩
    obtain ⟨before, same, there⟩ := survives id bytes last
    obtain ⟨after, still, kept⟩ := later id bytes (uploads ▸ last)
    cases Option.some.inj (stored.symm.trans same)
    cases Option.some.inj ((image id).symm.trans still |>.symm.trans stored)
    rw [act_gallery_files] at kept
    exact (apply_spares there).mp kept
  · intro careful id bytes last
    rw [uploads] at last
    obtain ⟨before, same, there⟩ := survives id bytes last
    refine ⟨before, (image id).trans same, ?_⟩
    rw [act_gallery_files]
    exact (apply_spares there).mpr (careful.others id bytes before last same fun accepted =>
      absurd accepted refused.accepted)

/-- An accepted call gives its product a new image and a new last picture, or sends the
image back. -/
theorem accepted_survives (survives : a.Survives store) (written : e.written = true)
    (writes : Writes store e a.gallery call) : (a.act store e call).Survives store ↔ Careful store e a call := by
  by_cases back : call.SendsBack a.gallery
  · obtain ⟨nothing, same⟩ := @sendsBack_touches store e a call back
    have uploads : (a.act store e call).uploads = a.uploads := by
      simp only [Album.act, writes.answer, if_pos back]
    have files : (a.act store e call).gallery.files = a.gallery.files := by
      rw [act_gallery_files, nothing]
      rfl
    have image (id : String) : (a.act store e call).image id = a.image id := by
      rw [act_gallery, writes.images]
      split
      · next own => rw [same, own]
      · rfl
    refine iff_of_true (fun id bytes last => ?_) ⟨fun id bytes image' last stored _ => ?_, fun _ path bytes wrote => ?_⟩
    · rw [uploads] at last
      rw [files, image]
      exact survives id bytes last
    · rw [nothing]
      exact ⟨(Option.some_ne_none _).symm, fun other wrote => absurd wrote (Option.some_ne_none _).symm⟩
    · rw [nothing] at wrote
      cases wrote
  · have uploads (id : String) : (a.act store e call).uploads id =
        if id = call.target e then call.picture.map Prod.snd else a.uploads id := by
      simp only [Album.act, writes.answer, if_neg back]
    have image (id : String) : (a.act store e call).image id =
        if id = call.target e then call.image e a.gallery else a.image id := by
      rw [act_gallery, writes.images]
      rfl
    constructor
    · intro later
      refine ⟨fun id bytes image' last stored spared => ?_, fun _ path bytes wrote => ?_⟩
      · have other : id ≠ call.target e := (spared writes.accepted).resolve_right back
        obtain ⟨before, same, there⟩ := survives id bytes last
        cases Option.some.inj (stored.symm.trans same)
        obtain ⟨after, still, kept⟩ := later id bytes (by rw [uploads, if_neg other, last])
        rw [image, if_neg other] at still
        cases Option.some.inj (stored.symm.trans still)
        rw [act_gallery_files] at kept
        exact (apply_spares there).mp kept
      · cases picture : call.picture with
        | none =>
          rw [picture_unwritten picture] at wrote
          cases wrote
        | some found =>
          obtain ⟨ext, picture'⟩ := found
          obtain ⟨name, row, file⟩ := @picture_written store e a call writes.accepted back written ext picture' picture
          cases Option.some.inj (wrote.symm.trans file)
          obtain ⟨after, still, kept⟩ := later (call.target e) bytes (by rw [uploads, if_pos rfl, picture]; rfl)
          rw [image, if_pos rfl] at still
          cases Option.some.inj (row.symm.trans still)
          rw [act_gallery_files] at kept
          exact (apply_written file).mp kept
    · intro careful id bytes last
      rw [uploads] at last
      split at last
      · next own =>
        obtain ⟨⟨ext, picture'⟩, picture, rfl⟩ := Option.map_eq_some_iff.mp last
        obtain ⟨name, row, file⟩ := @picture_written store e a call writes.accepted back written ext picture' picture
        refine ⟨name, by rw [image, if_pos own, row], ?_⟩
        rw [act_gallery_files]
        exact (apply_written file).mpr (careful.own writes.accepted _ _ file)
      · next other =>
        obtain ⟨before, same, there⟩ := survives id bytes last
        refine ⟨before, by rw [image, if_neg other, same], ?_⟩
        rw [act_gallery_files]
        exact (apply_spares there).mpr (careful.others id bytes before last same fun _ => .inl other)

/-- The last pictures outlast a call, when and only when the call is careful. -/
theorem act_survives (survives : a.Survives store) (written : e.written = true) :
    (a.act store e call).Survives store ↔ Careful store e a call := by
  rcases act_does store e a.gallery call with writes | refused
  · exact accepted_survives survives written writes
  · exact refused_survives survives refused

end Steps

/-- After every call of a run each product whose last accepted image was an upload names a
file with that picture, when and only when every call is careful. -/
theorem pictures_survive (store : ImageDir) (calls : List ImageTurn) (a : Album)
    (written : ∀ turn ∈ calls, turn.1.written = true) (start : a.Survives store) :
    (∀ front back, calls = front ++ back → (a.run store front).Survives store) ↔
      ∀ front turn back, calls = front ++ turn :: back → Careful store turn.1 (a.run store front) turn.2 := by
  refine @Runs.kept_iff _ _ (fun a turn => a.act store turn.1 turn.2) calls a (Album.Survives store)
    (fun turn a => Careful store turn.1 a turn.2) start ?_
  intro front turn back split survives
  exact act_survives survives (written turn (by simp [split]))

section Tea

/-- No product, no file and no picture. -/
def emptyAlbum : Album := ⟨⟨⟨Store.empty, .empty, .empty, .empty⟩, fun _ => none⟩, fun _ => none⟩

/-- The tea with a picture of three bytes, and then with another one. -/
def twoPictures (secondHeader : String) : List ImageTurn :=
  [(serving true, .createProduct (imaged "tea" "data:image/png;base64,AQID")),
    (serving true, .updateProduct (imaged "tea" (secondHeader ++ "BAUG")))]

theorem emptyAlbum_survives (store : ImageDir) : emptyAlbum.Survives store := by
  intro id bytes last
  cases last

theorem firstPicture_careful :
    Careful homeImages (serving true) emptyAlbum (.createProduct (imaged "tea" "data:image/png;base64,AQID")) := by
  refine ⟨fun id bytes image last => ?_, fun _ path bytes _ => ?_⟩
  · cases last
  · have removed : (ImageCall.touches homeImages (serving true) emptyAlbum.gallery
        (.createProduct (imaged "tea" "data:image/png;base64,AQID"))).removed = none := by decide +kernel
    rw [removed]
    exact (Option.some_ne_none path).symm

/-- The tea with its first picture. -/
def teaPictured : Album :=
  emptyAlbum.run homeImages [(serving true, .createProduct (imaged "tea" "data:image/png;base64,AQID"))]

theorem otherFormat_careful :
    Careful homeImages (serving true) teaPictured
      (.updateProduct (imaged "tea" ("data:image/webp;base64," ++ "BAUG"))) := by
  have rows : teaPictured.gallery.depot.store.products.rows = [imaged "tea" "prod_tea.png"] := by decide +kernel
  have touched : ImageCall.touches homeImages (serving true) teaPictured.gallery
      (.updateProduct (imaged "tea" ("data:image/webp;base64," ++ "BAUG"))) =
      ⟨some (homeImages.path "prod_tea.webp", [4, 5, 6]), some (homeImages.path "prod_tea.png")⟩ := by decide +kernel
  refine ⟨fun id bytes image _ stored spared => ?_, fun _ path bytes file => ?_⟩
  · obtain ⟨row, found, -⟩ := Option.map_eq_some_iff.mp stored
    have member := Table.find?_mem found
    rw [rows, List.mem_singleton] at member
    have tea : id = "tea" := (Table.find?_key found).symm.trans (congrArg Product.id member)
    rcases spared ⟨by decide +kernel, rfl, by decide +kernel, by decide +kernel⟩ with other | back
    · exact absurd tea other
    · exact absurd back (by decide +kernel)
  · rw [touched] at file ⊢
    cases file
    decide +kernel

end Tea

/-- A picture in another format goes to another file, and only the old one is removed. -/
theorem pictures_survive_other_format :
    ∃ image, (emptyAlbum.run homeImages (twoPictures "data:image/webp;base64,")).image "tea" = some image ∧
      (emptyAlbum.run homeImages (twoPictures "data:image/webp;base64,")).gallery.files (homeImages.path image) =
        some [4, 5, 6] := by
  have written : ∀ turn ∈ twoPictures "data:image/webp;base64,", turn.1.written = true := by simp [twoPictures, serving]
  have careful : ∀ front turn back, twoPictures "data:image/webp;base64," = front ++ turn :: back →
      Careful homeImages turn.1 (emptyAlbum.run homeImages front) turn.2 := by
    intro front turn back split
    cases front with
    | nil =>
      obtain ⟨rfl, -⟩ := List.cons.inj split
      exact firstPicture_careful
    | cons first front =>
      obtain ⟨rfl, rest⟩ := List.cons.inj split
      cases front with
      | nil =>
        obtain ⟨rfl, -⟩ := List.cons.inj rest
        exact otherFormat_careful
      | cons second front => exact absurd (congrArg List.length rest) (by simp)
  have last : (emptyAlbum.run homeImages (twoPictures "data:image/webp;base64,")).uploads "tea" = some [4, 5, 6] := by
    decide +kernel
  exact (pictures_survive homeImages _ emptyAlbum written (emptyAlbum_survives homeImages)).mpr careful _ []
    (List.append_nil _).symm "tea" _ last

/-- The second picture replaces the first one in its file, and the file is removed then. -/
theorem pictures_survive_lost :
    (∀ turn ∈ twoPictures "data:image/png;base64,", turn.1.written = true) ∧
      ¬ (emptyAlbum.run homeImages (twoPictures "data:image/png;base64,")).Survives homeImages := by
  have last : (emptyAlbum.run homeImages (twoPictures "data:image/png;base64,")).uploads "tea" = some [4, 5, 6] := by
    decide +kernel
  have named : (emptyAlbum.run homeImages (twoPictures "data:image/png;base64,")).image "tea" = some "prod_tea.png" := by
    decide +kernel
  have gone : (emptyAlbum.run homeImages (twoPictures "data:image/png;base64,")).gallery.files
      (homeImages.path "prod_tea.png") = none := by decide +kernel
  refine ⟨by simp [twoPictures, serving], fun survives => ?_⟩
  obtain ⟨image, stored, there⟩ := survives "tea" _ last
  cases Option.some.inj (named.symm.trans stored)
  rw [gone] at there
  cases there

end BeidarPos
