import BeidarPos.ProductCache

/-! A search for products, answered from the cache or by the database. The cache looks for
the query inside the names after both are made lower case; the database compares by a
pattern, in which two characters of the query are wildcards and case is that of ASCII. -/
namespace BeidarPos

open Machine Relational Interleaving

section Folding

variable {fold : Char → Char} {query text pattern : List Char} {c : Char}

/-- The text begins with the query, as far as the folding tells. -/
def startsFolded (fold : Char → Char) (query text : List Char) : Bool := (query.map fold).isPrefixOf (text.map fold)

theorem startsFolded_length (starts : startsFolded fold query text = true) : query.length ≤ text.length := by
  have shorter := (List.isPrefixOf_iff_prefix.mp starts).length_le
  simpa using shorter

theorem startsFolded_congr {other : Char → Char} (same : ∀ c ∈ query, ∀ x, fold x = fold c ↔ other x = other c) :
    startsFolded fold query text = startsFolded other query text := by
  induction query generalizing text with
  | nil => rfl
  | cons c query ih =>
    cases text with
    | nil => rfl
    | cons t text =>
      have head : (fold c == fold t) = (other c == other t) := by
        have first := same c List.mem_cons_self t
        rw [Bool.eq_iff_iff, beq_iff_eq, beq_iff_eq, eq_comm, first, eq_comm]
      have tail := @ih text fun c member => same c (List.mem_cons_of_mem _ member)
      simp only [startsFolded, List.map_cons, List.isPrefixOf_cons_cons, head] at tail ⊢
      rw [tail]

theorem anySuffix_map (accept : List Char → Bool) (text : List Char) :
    anySuffix accept (text.map fold) = anySuffix (fun text => accept (text.map fold)) text := by
  induction text with
  | nil => rfl
  | cons t text ih => simp only [List.map_cons, anySuffix, ih]

theorem anySuffix_self {accept : List Char → Bool} (accepted : accept text = true) : anySuffix accept text = true := by
  cases text with
  | nil => exact accepted
  | cons t text => simp only [anySuffix, accepted, Bool.true_or]

theorem containsFolded_eq (query text : String) :
    containsFolded fold query text = anySuffix (startsFolded fold query.toList) text.toList :=
  anySuffix_map _ _

theorem anySuffix_short (short : text.length < query.length) : anySuffix (startsFolded fold query) text = false := by
  induction text with
  | nil =>
    rw [anySuffix, Bool.eq_false_iff]
    intro starts
    exact absurd (startsFolded_length starts) (by omega)
  | cons t text ih =>
    rw [List.length_cons] at short
    rw [anySuffix, ih (by omega), Bool.or_false, Bool.eq_false_iff]
    intro starts
    have longer := startsFolded_length starts
    rw [List.length_cons] at longer
    omega

/-- In a text as long as the query there is one place to look. -/
theorem anySuffix_whole (whole : text.length = query.length) :
    anySuffix (startsFolded fold query) text = startsFolded fold query text := by
  cases text with
  | nil => rfl
  | cons t text =>
    rw [anySuffix, anySuffix_short (by rw [← whole]; exact Nat.lt_succ_self _), Bool.or_false]

/-- The query with one character replaced begins the folded query by that character alone. -/
theorem startsFolded_replaced (front back : List Char) (x : Char) :
    startsFolded fold (front ++ c :: back) (front ++ x :: back) = decide (fold x = fold c) := by
  induction front with
  | nil =>
    have tail : (back.map fold).isPrefixOf (back.map fold) = true := List.isPrefixOf_iff_prefix.mpr List.prefix_rfl
    simp only [startsFolded, List.nil_append, List.map_cons, List.isPrefixOf_cons_cons, tail, Bool.and_true]
    rw [Bool.eq_iff_iff, beq_iff_eq, decide_eq_true_iff, eq_comm]
  | cons f front ih =>
    simp only [startsFolded, List.cons_append, List.map_cons, List.isPrefixOf_cons_cons, beq_self_eq_true,
      Bool.true_and] at ih ⊢
    exact ih

end Folding

section Wildcards

variable {query text pattern : List Char} {c : Char}

theorem like_percent (pattern text : List Char) : like ('%' :: pattern) text = anySuffix (like pattern) text := by
  simp only [like, if_true]

theorem like_end (other : c ≠ '%') (pattern : List Char) : like (c :: pattern) [] = false := by
  simp only [like, if_neg other]

theorem like_char (other : c ≠ '%') (pattern : List Char) (t : Char) (text : List Char) :
    like (c :: pattern) (t :: text) = ((decide (c = '_') || decide (c.toLower = t.toLower)) && like pattern text) := by
  simp only [like, if_neg other]

theorem like_rest (text : List Char) : like ['%'] text = true := by
  have accepted : ∀ text, anySuffix (like []) text = true := by
    intro text
    induction text with
    | nil => rfl
    | cons t text ih => rw [anySuffix, ih, Bool.or_true]
  rw [like_percent]
  exact accepted text

theorem like_search (query : String) (text : List Char) :
    like (searchPattern query) text = anySuffix (like (query.toList ++ ['%'])) text := by
  rw [searchPattern, like_percent]

/-- Without a wildcard the pattern compares character by character. -/
theorem like_plain (plain : ∀ c ∈ query, c ≠ '%' ∧ c ≠ '_') (text : List Char) :
    like (query ++ ['%']) text = startsFolded Char.toLower query text := by
  induction query generalizing text with
  | nil =>
    rw [List.nil_append, like_rest]
    rfl
  | cons c query ih =>
    obtain ⟨percent, underscore⟩ := plain c List.mem_cons_self
    rw [List.cons_append]
    cases text with
    | nil => exact like_end percent _
    | cons t text =>
      rw [like_char percent, ih fun c member => plain c (List.mem_cons_of_mem _ member)]
      simp only [startsFolded, List.map_cons, List.isPrefixOf_cons_cons, underscore, decide_false, Bool.false_or]
      rfl

/-- Each character of the text fits the one of the query at its place. -/
theorem like_fits (fits : List.Forall₂ (fun c t => c ≠ '%' ∧ (c = '_' ∨ c = t)) query text) :
    like (query ++ ['%']) text = true := by
  induction fits with
  | nil => exact like_rest []
  | @cons c t query text first rest ih =>
    obtain ⟨percent, here⟩ := first
    rw [List.cons_append, like_char percent, ih]
    rcases here with rfl | rfl <;> simp

/-- A percent sign stands for nothing too. -/
theorem like_without (query : List Char) : like (query ++ ['%']) (query.filter (· ≠ '%')) = true := by
  induction query with
  | nil => exact like_rest []
  | cons c query ih =>
    by_cases percent : c = '%'
    · rw [percent, List.cons_append, like_percent, List.filter_cons_of_neg (by decide)]
      exact anySuffix_self ih
    · rw [List.cons_append, List.filter_cons_of_pos (by simpa using percent), like_char percent, ih]
      simp

end Wildcards

/-- No wildcards, and of each character the letters of its case are the same with and
without the letters beyond ASCII. -/
def PlainQuery (toLower : Char → Char) (query : String) : Prop :=
  ∀ c ∈ query.toList, c ≠ '%' ∧ c ≠ '_' ∧ ∀ x : Char, toLower x = toLower c ↔ x.toLower = c.toLower

section Texts

variable {toLower : Char → Char} {query text : String}

theorem plain_agrees (plain : PlainQuery toLower query) (text : String) :
    containsFolded toLower query text = like (searchPattern query) text.toList := by
  have folded : like (query.toList ++ ['%']) = startsFolded toLower query.toList := by
    funext text
    rw [like_plain fun c member => ⟨(plain c member).1, (plain c member).2.1⟩]
    exact (startsFolded_congr fun c member => (plain c member).2.2).symm
  rw [containsFolded_eq, like_search, folded]

variable {c : Char} {front back : List Char}

theorem searches_replaced (fold : Char → Char) (at' : query.toList = front ++ c :: back) (x : Char) :
    anySuffix (startsFolded fold query.toList) (front ++ x :: back) = decide (fold x = fold c) := by
  have whole : (front ++ x :: back).length = (front ++ c :: back).length := by simp
  rw [at', anySuffix_whole whole, startsFolded_replaced]

theorem searches_nothing (fold : Char → Char) (member : c ∈ query.toList) :
    anySuffix (startsFolded fold query.toList) [] = false :=
  anySuffix_short (List.length_pos_of_mem member)

/-- Where the two tests agree on every text, beside an empty one, the query is plain: a
percent sign would find a shorter text, an underscore any letter in its place, and a letter
with another case beyond ASCII the text with the other in its place. -/
theorem plain_of_agrees (ascii : ∀ c : Char, c.toNat < 128 → toLower c = c.toLower)
    (agrees : ∀ text : List Char, (anySuffix (startsFolded toLower query.toList) text ||
        anySuffix (startsFolded toLower query.toList) []) =
      (anySuffix (like (query.toList ++ ['%'])) text || anySuffix (like (query.toList ++ ['%'])) [])) :
    PlainQuery toLower query := by
  have percent : ∀ c ∈ query.toList, c ≠ '%' := by
    rintro c member rfl
    have shorter : (query.toList.filter (· ≠ '%')).length < query.toList.length :=
      List.length_filter_lt_length_iff_exists.mpr ⟨'%', member, by decide⟩
    have found := agrees (query.toList.filter (· ≠ '%'))
    rw [anySuffix_short shorter, searches_nothing toLower member, anySuffix_self (like_without _)] at found
    exact absurd found (by simp)
  have underscore : ∀ c ∈ query.toList, c ≠ '_' := by
    rintro c member rfl
    obtain ⟨front, back, at'⟩ := List.append_of_mem member
    have same (part : List Char) (inside : ∀ c ∈ part, c ∈ query.toList) :
        List.Forall₂ (fun c t => c ≠ '%' ∧ (c = '_' ∨ c = t)) part part :=
      List.forall₂_same.mpr fun c here => ⟨percent c (inside c here), .inr rfl⟩
    have fits : List.Forall₂ (fun c t => c ≠ '%' ∧ (c = '_' ∨ c = t)) query.toList (front ++ 'a' :: back) := by
      rw [at'] at same ⊢
      exact List.rel_append (same front fun c => List.mem_append_left _)
        (.cons ⟨by decide, .inl rfl⟩ (same back fun c here => List.mem_append_right _ (List.mem_cons_of_mem _ here)))
    have found := agrees (front ++ 'a' :: back)
    rw [searches_replaced toLower at', searches_nothing toLower member, anySuffix_self (like_fits fits),
      ascii 'a' (by decide), ascii '_' (by decide)] at found
    exact absurd found (by simp)
  intro c member
  refine ⟨percent c member, underscore c member, fun x => ?_⟩
  obtain ⟨front, back, at'⟩ := List.append_of_mem member
  have pattern : like (query.toList ++ ['%']) = startsFolded Char.toLower query.toList :=
    funext (like_plain fun c inside => ⟨percent c inside, underscore c inside⟩)
  have found := agrees (front ++ x :: back)
  rw [pattern, searches_nothing toLower member, searches_nothing Char.toLower member, searches_replaced toLower at',
    searches_replaced Char.toLower at', Bool.or_false, Bool.or_false] at found
  exact decide_eq_decide.mp found

end Texts

/-- The cache holds, and is what the database would list. -/
def Catalog.Warm (c : Catalog) : Prop := c.cachedList = some c.depot.store.listedProducts

/-- What a search answers by itself: its look into the cache, and the statement if need be. -/
def searchAnswer (w : Word) (e : CatalogEnv) (query : String) (c : Catalog) : Option CatalogReply :=
  ((fun now : CatalogCall × Catalog => now.1.act w e now.2)^[2] (.searchProducts query, c)).1.reply?

/-- A warm cache and an empty one give the same products. -/
def SameSearch (w : Word) (e : CatalogEnv) (query : String) (c : Catalog) : Prop :=
  ∃ warm cold, searchAnswer w e query c = some (.products (.ok warm)) ∧
    searchAnswer w e query c.clearCache = some (.products (.ok cold)) ∧ ∀ p, p ∈ warm ↔ p ∈ cold

section Answers

variable {w : Word} {e : CatalogEnv} {query : String} {c : Catalog}

theorem searchAnswer_warm (warm : c.Warm) : searchAnswer w e query c =
    some (.products (.ok (c.depot.store.listedProducts.filter (Product.found e.toLower query)))) := by
  have held : c.cachedList = some c.depot.store.listedProducts := warm
  simp only [searchAnswer, Function.iterate_succ, Function.iterate_zero, Function.comp_apply, id_eq, CatalogCall.act,
    held, CatalogCall.reply?]

theorem searchAnswer_cold :
    searchAnswer w e query c.clearCache = some (.products (.ok (c.depot.store.searchProducts query))) := by
  have none : c.clearCache.cachedList = none := by
    rw [Catalog.cachedList]
    exact ite_self _
  simp only [searchAnswer, Function.iterate_succ, Function.iterate_zero, Function.comp_apply, id_eq, CatalogCall.act,
    none, CatalogCall.reply?]
  rfl

/-- Exactly when the two tests agree on every product there is. -/
theorem sameSearch_iff (warm : c.Warm) :
    SameSearch w e query c ↔ ∀ p ∈ c.depot.store.listedProducts, AgreesOn e.toLower query p := by
  rw [SameSearch, searchAnswer_warm warm, searchAnswer_cold]
  constructor
  · rintro ⟨found, liked, first, second, same⟩ p listed
    cases first
    cases second
    have both := same p
    simp only [Store.searchProducts, List.mem_filter, listed, true_and] at both
    exact Bool.eq_iff_iff.mpr both
  · intro agree
    refine ⟨_, _, rfl, rfl, fun p => ?_⟩
    simp only [Store.searchProducts, List.mem_filter]
    exact and_congr_right fun listed => by rw [agree p listed]

end Answers

/-- A catalog of one product, with its list just read. -/
def stocking (name : String) : Catalog :=
  let products : List Product := [⟨"p", name, "", 0, 0, 0, 0, "", "", "", 0, "", none⟩]
  (⟨{ awaiting with store := { shop with products := ⟨products, List.nodup_singleton _⟩ } }, .empty, 0⟩ : Catalog).fillCache products

theorem stocking_listed (name : String) :
    (stocking name).depot.store.listedProducts = [⟨"p", name, "", 0, 0, 0, 0, "", "", "", 0, "", none⟩] := by
  rfl

theorem stocking_warm (name : String) : (stocking name).Warm := by
  rfl

/-- A search gives the same products from any warm cache as from the database exactly when
its query is plain. -/
theorem search_ignores_cache (w : Word) (e : CatalogEnv) (query : String)
    (ascii : ∀ c : Char, c.toNat < 128 → e.toLower c = c.toLower) :
    (∀ c : Catalog, c.Warm → SameSearch w e query c) ↔ PlainQuery e.toLower query := by
  constructor
  · intro same
    refine plain_of_agrees ascii fun text => ?_
    have agrees := (sameSearch_iff (stocking_warm (String.ofList text))).mp (same (stocking (String.ofList text)) (stocking_warm _))
    have one := agrees _ (stocking_listed (String.ofList text) ▸ List.mem_singleton_self _)
    simp only [AgreesOn, Product.found, containsFolded_eq, like_search, String.toList_ofList, String.toList_empty] at one
    exact one
  · intro plain c warm
    refine (sameSearch_iff warm).mpr fun p _ => ?_
    rw [AgreesOn, Product.found, plain_agrees plain, plain_agrees plain]

/-- Lower case as far as the accented letters of western Europe. -/
def latinLower (c : Char) : Char :=
  if 'À' ≤ c ∧ c ≤ 'Þ' ∧ c ≠ '×' then Char.ofNat (c.toNat + 32) else c.toLower

def shopping : CatalogEnv := ⟨0, till, fun _ _ => none, latinLower⟩

/-- Arabic letters have no case. -/
theorem search_ignores_cache_tea :
    SameSearch .exact ⟨0, till, fun _ _ => none, Char.toLower⟩ "شاي" (stocking "شاي أخضر") := by
  have checked : "شاي".toList.all (fun c => c ≠ '%' ∧ c ≠ '_') = true := by decide
  have letters : ∀ c ∈ "شاي".toList, c ≠ '%' ∧ c ≠ '_' := fun c member => of_decide_eq_true (List.all_eq_true.mp checked c member)
  exact (search_ignores_cache .exact ⟨0, till, fun _ _ => none, Char.toLower⟩ "شاي" fun _ _ => rfl).mpr
    (fun c member => ⟨(letters c member).1, (letters c member).2, fun _ => Iff.rfl⟩) _ (stocking_warm _)

/-- An accented letter is found in the other case only in the cache, and a percent sign
finds everything only in the database. -/
theorem search_follows_cache :
    ((stocking "CAFÉ").Warm ∧ ¬ SameSearch .exact shopping "é" (stocking "CAFÉ")) ∧
      (stocking "Tea").Warm ∧ ¬ SameSearch .exact shopping "%" (stocking "Tea") := by
  refine ⟨⟨stocking_warm _, fun same => ?_⟩, stocking_warm _, fun same => ?_⟩
  · have agrees := (sameSearch_iff (stocking_warm _)).mp same _ (stocking_listed _ ▸ List.mem_singleton_self _)
    exact absurd agrees (by decide +kernel)
  · have agrees := (sameSearch_iff (stocking_warm _)).mp same _ (stocking_listed _ ▸ List.mem_singleton_self _)
    exact absurd agrees (by decide +kernel)

end BeidarPos
