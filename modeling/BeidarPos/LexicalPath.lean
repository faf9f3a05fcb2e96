import Mathlib.Data.List.Basic
import Mathlib.Data.List.TakeDrop

/-! Paths as texts say them. A path is the list of its names from the root on. A text is cut
at the separators: an empty element and a single dot stay where they are, two dots go up,
and at the root they stay there. -/
namespace LexicalPath

abbrev Path := List (List Char)

/-- One element, from where a path stands. -/
def Path.go (path : Path) (element : List Char) : Path :=
  if element = [] ∨ element = ['.'] then path
  else if element = ['.', '.'] then path.dropLast
  else path ++ [element]

def elements (separator : Char → Bool) (text : List Char) : List (List Char) := text.splitOnP separator

/-- A directory and a text joined and cleaned. -/
def join (separator : Char → Bool) (dir : Path) (text : List Char) : Path :=
  (elements separator text).foldl Path.go dir

/-- A text cleaned by itself: how often it climbs out of where it starts, and its names from
there on. -/
structure Relative where
  climbs : Nat
  names : Path

namespace Relative

def go (r : Relative) (element : List Char) : Relative :=
  if element = [] ∨ element = ['.'] then r
  else if element = ['.', '.'] then
    if r.names = [] then { r with climbs := r.climbs + 1 } else { r with names := r.names.dropLast }
  else { r with names := r.names ++ [element] }

def resolve (r : Relative) (dir : Path) : Path := dir.take (dir.length - r.climbs) ++ r.names

/-- The names of the directory that the text climbs over. -/
def climbed (r : Relative) (dir : Path) : Path := dir.drop (dir.length - r.climbs)

theorem go_resolve (r : Relative) (dir : Path) (element : List Char) :
    (r.go element).resolve dir = (r.resolve dir).go element := by
  unfold go Path.go
  by_cases stays : element = [] ∨ element = ['.']
  · rw [if_pos stays, if_pos stays]
  · rw [if_neg stays, if_neg stays]
    by_cases up : element = ['.', '.']
    · rw [if_pos up, if_pos up]
      by_cases bare : r.names = []
      · have fewer : min (dir.length - r.climbs - 1) (dir.length - r.climbs) = dir.length - (r.climbs + 1) := by omega
        have length : (dir.take (dir.length - r.climbs)).length = dir.length - r.climbs := by
          rw [List.length_take, Nat.min_eq_left (Nat.sub_le _ _)]
        rw [if_pos bare, resolve, resolve, bare, List.append_nil, List.append_nil, List.dropLast_eq_take, length,
          List.take_take, fewer]
      · rw [if_neg bare, resolve, resolve, List.dropLast_append_of_ne_nil bare]
    · rw [if_neg up, if_neg up, resolve, resolve, List.append_assoc]

/-- The text climbs over the directory's last names, and its names are these and one more. -/
theorem resolve_child (r : Relative) (dir : Path) :
    (∃ name, r.resolve dir = dir ++ [name]) ↔ ∃ name, r.names = r.climbed dir ++ [name] := by
  have whole : dir.take (dir.length - r.climbs) ++ r.climbed dir = dir := List.take_append_drop _ _
  have onto (name : List Char) : dir ++ [name] = dir.take (dir.length - r.climbs) ++ (r.climbed dir ++ [name]) := by
    rw [← List.append_assoc, whole]
  refine exists_congr fun name => ?_
  rw [onto, resolve]
  exact List.append_right_inj _

theorem resolve_prefix (r : Relative) (dir : Path) : r.resolve dir <+: dir ↔ r.names <+: r.climbed dir := by
  have whole : dir.take (dir.length - r.climbs) ++ r.climbed dir = dir := List.take_append_drop _ _
  have inside : dir.take (dir.length - r.climbs) ++ r.names <+: dir.take (dir.length - r.climbs) ++ r.climbed dir ↔
      r.names <+: r.climbed dir := List.prefix_append_right_inj _
  rwa [whole] at inside

end Relative

def clean (separator : Char → Bool) (text : List Char) : Relative :=
  (elements separator text).foldl Relative.go ⟨0, []⟩

section Join

variable {separator : Char → Bool} {dir : Path} {text : List Char}

/-- A text leads from every directory where it leads by itself. -/
theorem join_clean : join separator dir text = (clean separator text).resolve dir := by
  have along (elements : List (List Char)) (r : Relative) :
      elements.foldl Path.go (r.resolve dir) = (elements.foldl Relative.go r).resolve dir := by
    induction elements generalizing r with
    | nil => rfl
    | cons element rest ih =>
      rw [List.foldl_cons, List.foldl_cons, ← Relative.go_resolve]
      exact ih (r.go element)
  have start : dir = (⟨0, []⟩ : Relative).resolve dir := by
    simp [Relative.resolve]
  have all := along (elements separator text) ⟨0, []⟩
  rwa [← start] at all

/-- A text that is a single name leads to that name in the directory. -/
theorem join_name (whole : ∀ c ∈ text, separator c = false) (named : text ≠ [] ∧ text ≠ ['.'] ∧ text ≠ ['.', '.']) :
    join separator dir text = dir ++ [text] := by
  have one : elements separator text = [text] :=
    List.splitOnP_eq_singleton whole
  rw [join, one, List.foldl_cons, List.foldl_nil, Path.go, if_neg (not_or.mpr ⟨named.1, named.2.1⟩), if_neg named.2.2]

end Join

section Between

/-- A name that says neither where it stands nor up. -/
def Proper (element : List Char) : Prop := element ≠ [] ∧ element ≠ ['.'] ∧ element ≠ ['.', '.']

instance (element : List Char) : Decidable (Proper element) := inferInstanceAs (Decidable (_ ∧ _))

/-- What leads from one path to another: out of the names they do not share, and down the others. -/
def between : Path → Path → Path
  | d :: dir, p :: path => if d = p then between dir path else (d :: dir).map (fun _ => ['.', '.']) ++ p :: path
  | dir, path => dir.map (fun _ => ['.', '.']) ++ path

/-- Names as one text, a dot where there are none. -/
def spelled (slash : Char) (names : Path) : List Char := if names = [] then ['.'] else [slash].intercalate names

/-- A path as a text from the root on. -/
def rooted (slash : Char) (path : Path) : List Char := path.flatMap fun name => slash :: name

variable {separator : Char → Bool} {slash : Char} {dir path : Path}

theorem between_within (dir names : Path) : between dir (dir ++ names) = names := by
  induction dir with
  | nil => cases names <;> rfl
  | cons d dir ih => rw [List.cons_append, between, if_pos rfl, ih]

theorem between_outside (outside : ¬ dir <+: path) : ∃ rest, between dir path = ['.', '.'] :: rest := by
  induction dir generalizing path with
  | nil => exact absurd List.nil_prefix outside
  | cons d dir ih =>
    cases path with
    | nil => exact ⟨_, rfl⟩
    | cons p path =>
      rw [between]
      split
      · next same => exact ih fun inside => outside (same ▸ List.cons_prefix_cons.mpr ⟨rfl, inside⟩)
      · exact ⟨_, rfl⟩

theorem go_proper (element : List Char) (proper : ∀ name ∈ path, Proper name) : ∀ name ∈ path.go element, Proper name := by
  intro name member
  rw [Path.go] at member
  split at member
  · exact proper name member
  · next named =>
    split at member
    · exact proper name (List.dropLast_subset _ member)
    · next down =>
      rcases List.mem_append.mp member with member | member
      · exact proper name member
      · rw [List.mem_singleton.mp member]
        exact ⟨fun empty => named (.inl empty), fun dot => named (.inr dot), down⟩

theorem join_proper (text : List Char) (proper : ∀ name ∈ dir, Proper name) : ∀ name ∈ join separator dir text, Proper name := by
  have along (elements : List (List Char)) (path : Path) (proper : ∀ name ∈ path, Proper name) :
      ∀ name ∈ elements.foldl Path.go path, Proper name := by
    induction elements generalizing path with
    | nil => exact proper
    | cons element rest ih => exact ih (path.go element) (go_proper element proper)
  exact along _ dir proper

/-- A text that begins with two dots begins with a name that does. -/
theorem spelled_climbs {names : Path} (proper : ∀ name ∈ names, Proper name) :
    ['.', '.'] <+: spelled slash names ↔ ∃ first ∈ names.head?, ['.', '.'] <+: first := by
  cases names with
  | nil =>
    simp only [spelled, if_pos, List.head?_nil]
    decide
  | cons first rest =>
    have tail : ∃ tail, spelled slash (first :: rest) = first ++ tail := by
      cases rest with
      | nil => exact ⟨[], by simp [spelled, List.intercalate]⟩
      | cons second rest => exact ⟨slash :: [slash].intercalate (second :: rest), by simp [spelled, List.intercalate]⟩
    obtain ⟨tail, whole⟩ := tail
    obtain ⟨some, dot, _⟩ := proper first List.mem_cons_self
    simp only [whole, List.head?_cons, Option.mem_some_iff, exists_eq_left']
    refine ⟨fun climbs => ?_, fun climbs => climbs.trans (List.prefix_append first tail)⟩
    match first, some, dot with
    | [c], _, dot =>
      obtain ⟨here, next⟩ := List.cons_prefix_cons.mp climbs
      exact absurd (congrArg (fun c => [c]) here.symm) dot
    | c :: d :: more, _, _ =>
      simp only [List.cons_append, List.cons_prefix_cons] at climbs ⊢
      exact ⟨climbs.1, climbs.2.1, List.nil_prefix⟩

theorem elements_rooted (cut : separator slash = true) (whole : ∀ name ∈ path, ∀ c ∈ name, separator c = false) :
    elements separator (rooted slash path) = [] :: path := by
  have named (name : List Char) (whole : ∀ c ∈ name, separator c = false) (rest : List Char) :
      List.splitOnP separator (name ++ rest) = (List.splitOnP separator rest).modifyHead (name ++ ·) := by
    induction name with
    | nil =>
      rw [List.nil_append]
      cases List.splitOnP separator rest <;> rfl
    | cons c name ih =>
      rw [List.cons_append, List.splitOnP_cons_eq_if_modifyHead, if_neg (by simp [whole c List.mem_cons_self]),
        ih fun c member => whole c (List.mem_cons_of_mem _ member)]
      cases List.splitOnP separator rest <;> rfl
  induction path with
  | nil => rfl
  | cons name path ih =>
    rw [elements] at ih ⊢
    rw [rooted, List.flatMap_cons, ← rooted, List.cons_append, List.splitOnP_cons_eq_if_modifyHead, if_pos cut,
      named name (whole name List.mem_cons_self), ih fun name member => whole name (List.mem_cons_of_mem _ member)]
    simp

/-- A path's text leads to it. -/
theorem join_rooted (cut : separator slash = true) (whole : ∀ name ∈ path, ∀ c ∈ name, separator c = false)
    (proper : ∀ name ∈ path, Proper name) : join separator [] (rooted slash path) = path := by
  have along (names : Path) (proper : ∀ name ∈ names, Proper name) (front : Path) :
      names.foldl Path.go front = front ++ names := by
    induction names generalizing front with
    | nil => exact (List.append_nil front).symm
    | cons name names ih =>
      obtain ⟨some, dot, up⟩ := proper name List.mem_cons_self
      rw [List.foldl_cons, Path.go, if_neg (not_or.mpr ⟨some, dot⟩), if_neg up,
        ih (fun name member => proper name (List.mem_cons_of_mem _ member)), List.append_assoc, List.singleton_append]
  rw [join, elements_rooted cut whole, List.foldl_cons, Path.go, if_pos (.inl rfl), along path proper, List.nil_append]

end Between

end LexicalPath
