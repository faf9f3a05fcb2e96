import BeidarPos.Keyed

/-! Records written as objects with named fields, and read back. A field that holds
nothing may be left out, and what a record's field list does not name is not written at
all: what reading gives back instead is part of every codec. -/
namespace Json

/-- A JSON value. A leaf is text that no codec looks into. -/
inductive Value (τ : Type) where
  | null
  | bool (b : Bool)
  | num (q : ℚ)
  | str (s : String)
  | leaf (t : τ)
  | arr (items : List (Value τ))
  | obj (fields : List (String × Value τ))

/-- A type with its JSON form. A field that is missing is `zero`, and reading back what
was written gives `normal`. -/
structure Codec (τ α : Type) where
  encode : α → Value τ
  decode : Value τ → Option α
  zero : α
  normal : α → α
  law : ∀ a, decode (encode a) = some (normal a)

variable {τ α β σ : Type}

/-- What is read back one by one is read back as a list. -/
theorem read_written {γ : Type} {encode : α → β} {decode : β → Option γ} {back : α → γ}
    (law : ∀ a, decode (encode a) = some (back a)) (items : List α) :
    (items.map encode).mapM decode = some (items.map back) := by
  induction items with
  | nil => rfl
  | cons a items ih => simp only [List.map_cons, List.mapM_cons, law, ih, bind, pure, Option.bind_some]

namespace Codec

def string : Codec τ String where
  encode := .str
  decode
    | .null => some ""
    | .str s => some s
    | _ => none
  zero := ""
  normal := id
  law := fun _ => rfl

def bool : Codec τ Bool where
  encode := .bool
  decode
    | .null => some false
    | .bool b => some b
    | _ => none
  zero := false
  normal := id
  law := fun _ => rfl

def rat : Codec τ ℚ where
  encode := .num
  decode
    | .null => some 0
    | .num q => some q
    | _ => none
  zero := 0
  normal := id
  law := fun _ => rfl

/-- A number with a fraction is no integer. -/
def int : Codec τ Int where
  encode := fun n => .num n
  decode
    | .null => some 0
    | .num q => if q.den = 1 then some q.num else none
    | _ => none
  zero := 0
  normal := id
  law := by
    intro n
    simp

def nat : Codec τ Nat where
  encode := fun n => .num n
  decode
    | .null => some 0
    | .num q => if q.den = 1 ∧ 0 ≤ q.num then some q.num.toNat else none
    | _ => none
  zero := 0
  normal := id
  law := by
    intro n
    simp

def leaf (zero : τ) : Codec τ τ where
  encode := .leaf
  decode
    | .null => some zero
    | .leaf t => some t
    | _ => none
  zero := zero
  normal := id
  law := fun _ => rfl

/-- The codec of a type that comes back as it was. -/
def exact (c : Codec τ α) (same : ∀ a, c.normal a = a) : Codec τ α :=
  { c with
    normal := id
    law := fun a => (c.law a).trans (congrArg some (same a)) }

/-- The JSON form of another type, which is not lost on the way. -/
def via (c : Codec τ β) (into : α → β) (back : β → α) (inverse : ∀ a, back (c.normal (into a)) = a) : Codec τ α where
  encode := fun a => c.encode (into a)
  decode := fun v => (c.decode v).map back
  zero := back c.zero
  normal := id
  law := fun a => by rw [c.law, Option.map_some, inverse]; rfl

def list (c : Codec τ α) : Codec τ (List α) where
  encode := fun items => .arr (items.map c.encode)
  decode
    | .null => some []
    | .arr items => items.mapM c.decode
    | _ => none
  zero := []
  normal := List.map c.normal
  law := fun items => read_written c.law items

/-- A pointer: `null` is none. -/
def nullable (c : Codec τ α) (solid : ∀ a, c.encode a ≠ .null) : Codec τ (Option α) where
  encode
    | none => .null
    | some a => c.encode a
  decode
    | .null => some none
    | v => (c.decode v).map some
  zero := none
  normal := Option.map c.normal
  law := by
    intro o
    cases o with
    | none => rfl
    | some a =>
      have present := solid a
      simp only
      rw [c.law]
      rfl

end Codec

/-- A field of a record: how it is written, or left out, how it is read, and what it
carries over from the record written to the one read. -/
structure Field (τ σ : Type) where
  name : String
  put : σ → Option (Value τ)
  take : Option (Value τ) → σ → Option σ
  copy : σ → σ → σ
  law : ∀ s acc, take (put s) acc = some (copy s acc)

namespace Codec

def read (c : Codec τ α) : Option (Value τ) → Option α
  | none => some c.zero
  | some v => c.decode v

def field (c : Codec τ α) (name : String) (get : σ → α) (set : α → σ → σ) : Field τ σ where
  name := name
  put := fun s => some (c.encode (get s))
  take := fun v acc => (c.read v).map fun a => set a acc
  copy := fun s acc => set (c.normal (get s)) acc
  law := by
    intro s acc
    simp [read, c.law]

/-- `omitempty`: left out where `empty` says so. -/
def optional (c : Codec τ α) (empty : α → Bool) (name : String) (get : σ → α) (set : α → σ → σ) : Field τ σ where
  name := name
  put := fun s => if empty (get s) then none else some (c.encode (get s))
  take := fun v acc => (c.read v).map fun a => set a acc
  copy := fun s acc => set (if empty (get s) then c.zero else c.normal (get s)) acc
  law := by
    intro s acc
    split <;> simp [read, c.law]

/-- `omitempty` where only the zero value is empty: nothing is lost. -/
def omitZero [DecidableEq α] (c : Codec τ α) (fixed : c.normal c.zero = c.zero) (name : String) (get : σ → α)
    (set : α → σ → σ) : Field τ σ where
  name := name
  put := fun s => if get s = c.zero then none else some (c.encode (get s))
  take := fun v acc => (c.read v).map fun a => set a acc
  copy := fun s acc => set (c.normal (get s)) acc
  law := by
    intro s acc
    split
    · rename_i zero
      simp [read, zero, fixed]
    · simp [read, c.law]

end Codec

section Records

def write (fields : List (Field τ σ)) (s : σ) : List (String × Value τ) :=
  fields.filterMap fun f => (f.put s).map fun v => (f.name, v)

/-- Of two entries with one name the later counts. -/
def read (entries : List (String × Value τ)) : List (Field τ σ) → σ → Option σ
  | [], acc => some acc
  | f :: fields, acc => (f.take (Keyed.valueOf entries.reverse f.name) acc).bind (read entries fields)

theorem write_names {fields : List (Field τ σ)} (s : σ) :
    ((write fields s).map Prod.fst).Sublist (fields.map Field.name) := by
  induction fields with
  | nil => exact .slnil
  | cons f fields ih =>
    cases put : f.put s with
    | none => simpa [write, put] using ih.cons f.name
    | some v => simpa [write, put] using ih.cons_cons f.name

theorem valueOf_write {fields : List (Field τ σ)} (distinct : (fields.map Field.name).Nodup) {f : Field τ σ}
    (member : f ∈ fields) (s : σ) : Keyed.valueOf (write fields s).reverse f.name = f.put s := by
  have nodup : ((write fields s).map Prod.fst).Nodup := distinct.sublist (write_names s)
  rw [Keyed.valueOf_perm (List.reverse_perm _) nodup]
  cases put : f.put s with
  | some v =>
    refine Keyed.valueOf_of_mem nodup (List.mem_filterMap.mpr ⟨f, member, ?_⟩)
    rw [put]
    rfl
  | none =>
    rw [Keyed.valueOf_none]
    rintro ⟨name, v⟩ written same
    obtain ⟨g, inside, made⟩ := List.mem_filterMap.mp written
    obtain ⟨w, present, pair⟩ := Option.map_eq_some_iff.mp made
    cases pair
    -- names are distinct, so the entry would be the field's own
    have one : g = f := List.inj_on_of_nodup_map distinct inside member same
    rw [one, put] at present
    cases present

theorem read_copies {entries : List (String × Value τ)} {fields : List (Field τ σ)} {s : σ}
    (written : ∀ f ∈ fields, Keyed.valueOf entries.reverse f.name = f.put s) (acc : σ) :
    read entries fields acc = some (fields.foldl (fun acc f => f.copy s acc) acc) := by
  induction fields generalizing acc with
  | nil => rfl
  | cons f fields ih =>
    rw [read, written f (by simp), f.law, Option.bind_some, ih (fun g member => written g (by simp [member]))]
    rfl

/-- A record as an object; what its fields do not name comes back as in `zero`. -/
def record (fields : List (Field τ σ)) (zero : σ) (distinct : (fields.map Field.name).Nodup) : Codec τ σ where
  encode := fun s => .obj (write fields s)
  decode
    | .null => some zero
    | .obj entries => read entries fields zero
    | _ => none
  zero := zero
  normal := fun s => fields.foldl (fun acc f => f.copy s acc) zero
  law := fun s => read_copies (fun _ member => valueOf_write distinct member s) zero

end Records

end Json
