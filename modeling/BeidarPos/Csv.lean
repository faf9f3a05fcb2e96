import Mathlib.Tactic

/-! Comma separated text: a writer that quotes the fields that need it, and a reader
that takes one character at a time. Reading what was written gives back every field,
less the carriage returns that stood before a newline. -/
namespace Csv

/-- A field, and whether the writer quotes it. -/
abbrev Cell := Bool × List Char

def special : List Char := [',', '"', '\n', '\r']

/-- A rule for which fields are quoted; it may quote more than it has to. -/
structure Quoting where
  needsQuotes : List Char → Bool
  required : ∀ field, needsQuotes field = false → ∀ c ∈ field, c ∉ special

def escape (field : List Char) : List Char := field.flatMap fun c => if c = '"' then ['"', '"'] else [c]

def renderCell (cell : Cell) : List Char := if cell.1 then '"' :: (escape cell.2 ++ ['"']) else cell.2

def renderLine : List Cell → List Char
  | [] => ['\n']
  | [cell] => renderCell cell ++ ['\n']
  | cell :: next :: cells => renderCell cell ++ ',' :: renderLine (next :: cells)

def Quoting.cells (rule : Quoting) (fields : List (List Char)) : List Cell :=
  fields.map fun field => (rule.needsQuotes field, field)

def writeAll (rule : Quoting) (records : List (List (List Char))) : List Char :=
  records.flatMap fun fields => renderLine (rule.cells fields)

/-- Lines end in a newline: a carriage return before one, or at the very end, is dropped. -/
def normalize : List Char → List Char
  | [] => []
  | c :: rest => if c = '\r' ∧ (rest = [] ∨ rest.head? = some '\n') then normalize rest else c :: normalize rest

/-- A field without the carriage returns before its newlines. -/
def dropReturns : List Char → List Char
  | [] => []
  | c :: rest => if c = '\r' ∧ rest.head? = some '\n' then dropReturns rest else c :: dropReturns rest

inductive Error where
  | bareQuote | quote | fieldCount
  deriving DecidableEq

/-- At the start of a line or of a field, in a plain field, between quotes, or after a
quote that may close the field. -/
inductive Mode where
  | line | field | plain | quoted | closing
  deriving DecidableEq

structure Reader where
  mode : Mode
  field : List Char
  record : List (List Char)
  records : List (List (List Char))
  deriving DecidableEq

namespace Reader

def endField (s : Reader) : Reader := ⟨.field, [], s.record ++ [s.field], s.records⟩

def endRecord (s : Reader) : Reader := ⟨.line, [], [], s.records ++ [s.record ++ [s.field]]⟩

/-- Empty lines are skipped. -/
def step (s : Reader) (c : Char) : Except Error Reader :=
  match s.mode with
  | .line | .field =>
    if c = '"' then .ok { s with mode := .quoted }
    else if c = ',' then .ok s.endField
    else if c = '\n' then .ok (if s.mode = .line then s else s.endRecord)
    else .ok { s with mode := .plain, field := [c] }
  | .plain =>
    if c = '"' then .error .bareQuote
    else if c = ',' then .ok s.endField
    else if c = '\n' then .ok s.endRecord
    else .ok { s with field := s.field ++ [c] }
  | .quoted =>
    if c = '"' then .ok { s with mode := .closing } else .ok { s with field := s.field ++ [c] }
  | .closing =>
    if c = '"' then .ok { s with mode := .quoted, field := s.field ++ ['"'] }
    else if c = ',' then .ok s.endField
    else if c = '\n' then .ok s.endRecord
    else .error .quote

def finish (s : Reader) : Except Error (List (List (List Char))) :=
  match s.mode with
  | .line => .ok s.records
  | .quoted => .error .quote
  | _ => .ok s.endRecord.records

def run : Reader → List Char → Except Error Reader
  | s, [] => .ok s
  | s, c :: text =>
    match s.step c with
    | .error e => .error e
    | .ok next => run next text

end Reader

/-- Every record has as many fields as the first. -/
def uniform (records : List (List (List Char))) : Bool :=
  records.all fun fields => some fields.length = records.head?.map List.length

def readAll (text : List Char) : Except Error (List (List (List Char))) :=
  match Reader.run ⟨.line, [], [], []⟩ (normalize text) with
  | .error e => .error e
  | .ok s =>
    match s.finish with
    | .error e => .error e
    | .ok records => if uniform records then .ok records else .error .fieldCount

section Lines

/-! What the reader sees of written text once its lines are normalized. -/

/-- A cell as the writer makes it: what is not quoted has nothing to quote. -/
def Cell.Sound (cell : Cell) : Prop := cell.1 = false → ∀ c ∈ cell.2, c ∉ special

theorem Quoting.cells_sound (rule : Quoting) (fields : List (List Char)) : ∀ cell ∈ rule.cells fields, Cell.Sound cell := by
  intro cell member
  obtain ⟨field, _, rfl⟩ := List.mem_map.mp member
  exact rule.required field

def Cell.readBack (cell : Cell) : Cell := (cell.1, dropReturns cell.2)

theorem normalize_plain {field rest : List Char} (plain : ∀ c ∈ field, c ≠ '\r') :
    normalize (field ++ rest) = field ++ normalize rest := by
  induction field with
  | nil => rfl
  | cons c field ih =>
    have other : ¬ c = '\r' := plain c (by simp)
    rw [List.cons_append, normalize, if_neg (by simp [other]), ih (fun d member => plain d (by simp [member]))]
    rfl

theorem dropReturns_plain {field : List Char} (plain : ∀ c ∈ field, c ≠ '\r') : dropReturns field = field := by
  induction field with
  | nil => rfl
  | cons c field ih =>
    have other : ¬ c = '\r' := plain c (by simp)
    rw [dropReturns, if_neg (by simp [other]), ih (fun d member => plain d (by simp [member]))]

theorem escape_cons (c : Char) (field : List Char) :
    escape (c :: field) = (if c = '"' then ['"', '"'] else [c]) ++ escape field := rfl

/-- Between quotes a carriage return goes exactly when a newline follows it. -/
theorem normalize_quoted (field rest : List Char) :
    normalize (escape field ++ '"' :: rest) = escape (dropReturns field) ++ '"' :: normalize rest := by
  induction field with
  | nil => simp [escape, dropReturns, normalize]
  | cons c field ih =>
    rw [escape_cons, dropReturns]
    by_cases quoted : c = '"'
    · subst quoted
      simp [escape_cons, normalize, ih]
    · rw [if_neg quoted, List.singleton_append, List.cons_append, normalize, ih]
      cases field with
      | nil => simp [escape, dropReturns, quoted]
      | cons d field =>
        have head : (escape (d :: field) ++ '"' :: rest).head? = some d := by
          rw [escape_cons]
          split
          · rename_i same
            simp [same]
          · simp
        have more : escape (d :: field) ++ '"' :: rest ≠ [] := by
          intro empty
          rw [empty] at head
          simp at head
        simp only [head, more, false_or, List.head?_cons, Option.some.injEq]
        split
        · rfl
        · rw [escape_cons, if_neg quoted, List.cons_append, List.cons_append, List.nil_append]

theorem normalize_cell {cell : Cell} (sound : cell.Sound) (c : Char) (rest : List Char) (other : c ≠ '\r') :
    normalize (renderCell cell ++ c :: rest) = renderCell cell.readBack ++ c :: normalize rest := by
  have ended : normalize (c :: rest) = c :: normalize rest := by
    rw [normalize, if_neg (by simp [other])]
  obtain ⟨quoted, field⟩ := cell
  cases quoted with
  | true =>
    have quote : normalize ('"' :: (escape field ++ '"' :: c :: rest)) =
        '"' :: (escape (dropReturns field) ++ '"' :: c :: normalize rest) := by
      rw [normalize, if_neg (by simp), normalize_quoted, ended]
    simpa [renderCell, Cell.readBack] using quote
  | false =>
    have plain : ∀ d ∈ field, d ≠ '\r' := by
      rintro d member rfl
      exact sound rfl _ member (by simp [special])
    simp only [renderCell, Cell.readBack, Bool.false_eq_true, if_false]
    rw [normalize_plain plain, ended, dropReturns_plain plain]

theorem normalize_line {cells : List Cell} (sound : ∀ cell ∈ cells, cell.Sound) (rest : List Char) :
    normalize (renderLine cells ++ rest) = renderLine (cells.map Cell.readBack) ++ normalize rest := by
  induction cells with
  | nil => simp [renderLine, normalize]
  | cons cell cells ih =>
    have first := sound cell (by simp)
    have later := ih (fun d member => sound d (by simp [member]))
    cases cells with
    | nil =>
      simp only [renderLine, List.map_cons, List.map_nil, List.append_assoc, List.singleton_append]
      exact normalize_cell first _ _ (by decide)
    | cons next cells =>
      simp only [renderLine, List.map_cons, List.append_assoc, List.cons_append] at later ⊢
      rw [normalize_cell first _ _ (by decide), later]

end Lines

section Reading

/-! The reader takes a rendered cell and its separator in one go. -/

theorem special_none {c : Char} (plain : c ∉ special) : c ≠ ',' ∧ c ≠ '"' ∧ c ≠ '\n' ∧ c ≠ '\r' := by
  simpa [special, not_or] using plain

theorem run_plain {field : List Char} (plain : ∀ c ∈ field, c ∉ special) (read : List Char)
    (record : List (List Char)) (records : List (List (List Char))) (rest : List Char) :
    Reader.run ⟨.plain, read, record, records⟩ (field ++ rest) =
      Reader.run ⟨.plain, read ++ field, record, records⟩ rest := by
  induction field generalizing read with
  | nil => simp
  | cons c field ih =>
    obtain ⟨comma, quote, newline, _⟩ := special_none (plain c (by simp))
    rw [List.cons_append, Reader.run]
    simp only [Reader.step, quote, comma, newline, if_false]
    rw [ih (fun d member => plain d (by simp [member])), List.append_assoc, List.singleton_append]

theorem run_quoted (field read : List Char) (record : List (List Char)) (records : List (List (List Char)))
    (rest : List Char) :
    Reader.run ⟨.quoted, read, record, records⟩ (escape field ++ '"' :: rest) =
      Reader.run ⟨.closing, read ++ field, record, records⟩ rest := by
  induction field generalizing read with
  | nil => simp [escape, Reader.run, Reader.step]
  | cons c field ih =>
    rw [escape_cons]
    by_cases quoted : c = '"'
    · subst quoted
      simp [Reader.run, Reader.step, ih]
    · simp [Reader.run, Reader.step, quoted, ih]

/-- The state after a field and its separator. -/
def Reader.ended (s : Reader) (newline : Bool) : Reader := if newline then s.endRecord else s.endField

def separator (newline : Bool) : Char := if newline then '\n' else ','

theorem run_cell {cell : Cell} (sound : cell.Sound) {mode : Mode} (start : mode = .line ∨ mode = .field)
    (newline : Bool) (visible : mode = .line → newline = true → cell ≠ (false, [])) (record : List (List Char))
    (records : List (List (List Char))) (rest : List Char) :
    Reader.run ⟨mode, [], record, records⟩ (renderCell cell ++ separator newline :: rest) =
      Reader.run (Reader.ended ⟨mode, cell.2, record, records⟩ newline) rest := by
  obtain ⟨quoted, field⟩ := cell
  cases quoted with
  | true =>
    have opened : Reader.run ⟨mode, [], record, records⟩ ('"' :: (escape field ++ '"' :: separator newline :: rest)) =
        Reader.run ⟨.closing, field, record, records⟩ (separator newline :: rest) := by
      rw [Reader.run]
      rcases start with rfl | rfl <;> exact run_quoted field [] record records _
    rw [renderCell, if_pos rfl, List.cons_append, List.append_assoc, List.singleton_append, opened]
    cases newline <;> rfl
  | false =>
    rw [renderCell, if_neg (by simp)]
    cases field with
    | nil =>
      cases newline with
      | false => rcases start with rfl | rfl <;> rfl
      | true =>
        rcases start with rfl | rfl
        · exact absurd rfl (visible rfl rfl)
        · rfl
    | cons c field =>
      obtain ⟨comma, quote, newline', _⟩ := special_none (sound rfl c (by simp))
      have opened : Reader.step ⟨mode, [], record, records⟩ c = .ok ⟨.plain, [c], record, records⟩ := by
        rcases start with rfl | rfl <;> simp [Reader.step, comma, quote, newline']
      simp only [List.cons_append, Reader.run, opened]
      rw [run_plain (fun d member => sound rfl d (by simp [member]))]
      cases newline <;> rfl

theorem run_line {cells : List Cell} (sound : ∀ cell ∈ cells, cell.Sound) (nonempty : cells ≠ []) {mode : Mode}
    (start : mode = .line ∨ mode = .field) (visible : mode = .line → 2 ≤ cells.length)
    (record : List (List Char)) (records : List (List (List Char))) (rest : List Char) :
    Reader.run ⟨mode, [], record, records⟩ (renderLine cells ++ rest) =
      Reader.run ⟨.line, [], [], records ++ [record ++ cells.map Prod.snd]⟩ rest := by
  induction cells generalizing mode record with
  | nil => exact absurd rfl nonempty
  | cons cell cells ih =>
    have first := sound cell (by simp)
    cases cells with
    | nil =>
      have read := run_cell first start true (fun line => by have := visible line; simp at this) record
        records rest
      simpa [renderLine, separator, Reader.ended, Reader.endRecord] using read
    | cons next cells =>
      have read := run_cell first start false (fun _ comma => by simp at comma) record records
        (renderLine (next :: cells) ++ rest)
      have later := @ih (fun d member => sound d (by simp [member])) (by simp) .field (.inr rfl)
        (fun line => by simp at line) (record ++ [cell.2])
      simp only [renderLine, List.append_assoc, List.cons_append]
      simp only [separator, Bool.false_eq_true, if_false, Reader.ended, Reader.endField] at read
      rw [read, later]
      simp

end Reading

theorem readBack_sound {cell : Cell} (sound : cell.Sound) : cell.readBack.Sound := by
  intro plain c member
  have unquoted : ∀ d ∈ cell.2, d ≠ '\r' := by
    rintro d inside rfl
    exact sound plain _ inside (by simp [special])
  have same : cell.readBack.2 = cell.2 := dropReturns_plain unquoted
  exact sound plain c (same ▸ member)

/-- Reading back what was written: the fields as they were, less those returns. -/
theorem readAll_writeAll (rule : Quoting) {records : List (List (List Char))} {width : Nat} (wide : 2 ≤ width)
    (even : ∀ fields ∈ records, fields.length = width) :
    readAll (writeAll rule records) = .ok (records.map (List.map dropReturns)) := by
  have written : ∀ tail : List (List (List Char)), (∀ fields ∈ tail, fields.length = width) →
      normalize (writeAll rule tail) = tail.flatMap fun fields => renderLine ((rule.cells fields).map Cell.readBack) := by
    intro tail _
    induction tail with
    | nil => rfl
    | cons fields tail ih =>
      rw [writeAll, List.flatMap_cons, normalize_line (rule.cells_sound fields), List.flatMap_cons]
      exact congrArg _ (ih (by simp_all))
  have scanned : ∀ (tail seen : List (List (List Char))), (∀ fields ∈ tail, fields.length = width) →
      Reader.run ⟨.line, [], [], seen⟩
        (tail.flatMap fun fields => renderLine ((rule.cells fields).map Cell.readBack)) =
      .ok ⟨.line, [], [], seen ++ tail.map (List.map dropReturns)⟩ := by
    intro tail
    induction tail with
    | nil => simp [Reader.run]
    | cons fields tail ih =>
      intro seen lengths
      have length := lengths fields (by simp)
      have sound : ∀ cell ∈ (rule.cells fields).map Cell.readBack, cell.Sound := by
        intro cell member
        obtain ⟨before, inside, rfl⟩ := List.mem_map.mp member
        exact readBack_sound (rule.cells_sound fields before inside)
      have cells : ((rule.cells fields).map Cell.readBack).length = width := by simp [Quoting.cells, length]
      have contents : ((rule.cells fields).map Cell.readBack).map Prod.snd = fields.map dropReturns := by
        simp [Quoting.cells, Cell.readBack]
      rw [List.flatMap_cons, run_line sound (by rintro empty; simp [empty] at cells; omega) (.inl rfl)
        (fun _ => by omega), contents, ih _ (fun other member => lengths other (by simp [member]))]
      simp
  have lengths : uniform (records.map (List.map dropReturns)) = true := by
    rw [uniform, List.all_eq_true]
    intro fields member
    cases records with
    | nil => simp at member
    | cons first others =>
      obtain ⟨before, inside, rfl⟩ := List.mem_map.mp member
      simp [even before inside, even first (by simp)]
  rw [readAll, written records even, scanned records [] even]
  simp [Reader.finish, lengths]

section Joined

/-! Rows that are quoted throughout and joined, the last without a newline after it. They are
read back however many fields each of them has. -/

def quoted (field : List Char) : List Char := renderCell (true, field)

def quotedRow (row : List (List Char)) : List Char := [','].intercalate (row.map quoted)

def quotedRows (rows : List (List (List Char))) : List Char := ['\r', '\n'].intercalate (rows.map quotedRow)

def readOn (records : List (List (List Char))) (text : List Char) : Except Error (List (List (List Char))) :=
  match Reader.run ⟨.line, [], [], records⟩ text with
  | .error e => .error e
  | .ok s => s.finish

def readRecords (text : List Char) : Except Error (List (List (List Char))) := readOn [] (normalize text)

theorem quotedRow_cons {row : List (List Char)} (field : List Char) (more : row ≠ []) :
    quotedRow (field :: row) = quoted field ++ ',' :: quotedRow row := by
  rw [quotedRow, List.map_cons, List.intercalate_cons_of_ne_nil (by simpa using more), quotedRow, List.append_assoc,
    List.singleton_append]

theorem quotedRow_singleton (field : List Char) : quotedRow [field] = quoted field := by
  rw [quotedRow, List.map_singleton, List.intercalate_singleton]

theorem normalize_quotedCell (field tail : List Char) : normalize (quoted field ++ tail) = quoted (dropReturns field) ++ normalize tail := by
  have quote : normalize ('"' :: (escape field ++ '"' :: tail)) = '"' :: (escape (dropReturns field) ++ '"' :: normalize tail) := by
    rw [normalize, if_neg (by simp), normalize_quoted]
  simpa [quoted, renderCell] using quote

theorem normalize_quotedRow {row : List (List Char)} (nonempty : row ≠ []) (tail : List Char) :
    normalize (quotedRow row ++ tail) = quotedRow (row.map dropReturns) ++ normalize tail := by
  induction row with
  | nil => exact absurd rfl nonempty
  | cons field row ih =>
    cases row with
    | nil => rw [List.map_singleton, quotedRow_singleton, quotedRow_singleton, normalize_quotedCell]
    | cons next row =>
      have comma (text : List Char) : normalize (',' :: text) = ',' :: normalize text := by
        rw [normalize, if_neg (by simp)]
      rw [quotedRow_cons field (List.cons_ne_nil _ _), List.append_assoc, List.cons_append, normalize_quotedCell, comma,
        ih (List.cons_ne_nil _ _), @List.map_cons _ _ dropReturns field, quotedRow_cons _ (by simp), List.append_assoc,
        List.cons_append]

/-- The reader at the quote that closes a row. -/
theorem run_quotedRow {row : List (List Char)} (nonempty : row ≠ []) {mode : Mode} (start : mode = .line ∨ mode = .field)
    (record : List (List Char)) (records : List (List (List Char))) (tail : List Char) :
    Reader.run ⟨mode, [], record, records⟩ (quotedRow row ++ tail) =
      Reader.run ⟨.closing, row.getLast nonempty, record ++ row.dropLast, records⟩ tail := by
  have opened (field rest : List Char) (record : List (List Char)) {mode : Mode} (start : mode = .line ∨ mode = .field) :
      Reader.run ⟨mode, [], record, records⟩ (quoted field ++ rest) = Reader.run ⟨.closing, field, record, records⟩ rest := by
    have closed := run_quoted field [] record records rest
    rw [quoted, renderCell, if_pos rfl, List.cons_append, List.append_assoc, List.singleton_append, Reader.run]
    rcases start with rfl | rfl <;> exact closed
  induction row generalizing mode record with
  | nil => exact absurd rfl nonempty
  | cons field row ih =>
    cases row with
    | nil =>
      rw [quotedRow_singleton, opened field tail record start]
      simp
    | cons next row =>
      rw [quotedRow_cons field (by simp), List.append_assoc, opened _ _ _ start, List.cons_append]
      refine (ih (by simp) (.inr rfl) (record ++ [field])).trans ?_
      simp [List.append_assoc]

theorem endRecord_row {row : List (List Char)} (nonempty : row ≠ []) (mode : Mode) (records : List (List (List Char))) :
    Reader.endRecord ⟨mode, row.getLast nonempty, [] ++ row.dropLast, records⟩ = ⟨.line, [], [], records ++ [row]⟩ := by
  rw [Reader.endRecord, List.nil_append, List.dropLast_append_getLast]

/-- Every cell comes back, less the carriage returns before its newlines. -/
theorem readRecords_quotedRows {rows : List (List (List Char))} (nonempty : ∀ row ∈ rows, row ≠ []) :
    readRecords (quotedRows rows) = .ok (rows.map (List.map dropReturns)) := by
  have onward (rows : List (List (List Char))) (some : rows ≠ []) (nonempty : ∀ row ∈ rows, row ≠ [])
      (records : List (List (List Char))) :
      readOn records (normalize (quotedRows rows)) = .ok (records ++ rows.map (List.map dropReturns)) := by
    induction rows generalizing records with
    | nil => exact absurd rfl some
    | cons row rows ih =>
      have filled := nonempty row List.mem_cons_self
      have mapped : row.map dropReturns ≠ [] := by simpa using filled
      cases rows with
      | nil =>
        have read := normalize_quotedRow filled []
        rw [List.append_nil] at read
        rw [quotedRows, List.map_singleton, List.intercalate_singleton, read, readOn, run_quotedRow mapped (.inl rfl)]
        simp only [normalize, Reader.run, Reader.finish, endRecord_row mapped]
        rfl
      | cons next rows =>
        have newline (text : List Char) : normalize ('\r' :: '\n' :: text) = '\n' :: normalize text := by
          simp [normalize]
        have closed (text : List Char) : Reader.run ⟨.closing, (row.map dropReturns).getLast mapped,
            [] ++ (row.map dropReturns).dropLast, records⟩ ('\n' :: text) =
            Reader.run ⟨.line, [], [], records ++ [row.map dropReturns]⟩ text := by
          rw [← endRecord_row mapped .closing]
          rfl
        have later := ih (by simp) (fun row member => nonempty row (List.mem_cons_of_mem _ member))
          (records ++ [row.map dropReturns])
        rw [quotedRows, List.map_cons, List.intercalate_cons_of_ne_nil (by simp), ← quotedRows, List.append_assoc,
          normalize_quotedRow filled, List.cons_append, List.cons_append, List.nil_append, newline, readOn,
          run_quotedRow mapped (.inl rfl), closed]
        rw [List.append_assoc, List.singleton_append] at later
        exact later
  cases rows with
  | nil => rfl
  | cons row rows => exact onward (row :: rows) (by simp) nonempty []

end Joined

end Csv
