import BeidarPos.Csv

/-! The exported reports: as comma separated text for a spreadsheet, where a text that could be
taken for a formula gets an apostrophe, and as a table of HTML that is printed. -/
namespace BeidarPos

structure ExportColumn where
  key : String
  header : String

structure ExportOptions where
  title : Option String
  subtitle : Option String
  storeName : Option String

/-- A value of a record; a number stands as the text it prints as. -/
inductive ReportValue where
  | missing
  | bool (value : Bool)
  | number (printed : String)
  | text (value : String)

abbrev ReportItem := String → ReportValue

/-- `String(value)`. -/
def ReportValue.string : ReportValue → String
  | .missing => ""
  | .bool value => if value then "true" else "false"
  | .number printed => printed
  | .text value => value

section Sheets

/-- What `trimStart` drops. -/
def isTrimmed (c : Char) : Bool :=
  c.toNat ∈ [0x09, 0x0a, 0x0b, 0x0c, 0x0d, 0x20, 0xa0, 0x1680, 0x2028, 0x2029, 0x202f, 0x205f, 0x3000, 0xfeff] ||
    (0x2000 ≤ c.toNat && c.toNat ≤ 0x200a)

def startsFormula (text : List Char) : Bool :=
  (text.dropWhile isTrimmed).head?.any fun c => c ∈ ['=', '+', '-', '@', '\t', '\r', '\n', '|', '%']

def sanitizeCSVCell (text : List Char) : List Char := if startsFormula text then '\'' :: text else text

def quoteCSVCell (text : List Char) : List Char :=
  '"' :: ((sanitizeCSVCell text).flatMap (fun c => if c = '"' then ['"', '"'] else [c]) ++ ['"'])

def csvOf (rows : List (List (List Char))) : List Char :=
  ['\r', '\n'].intercalate (rows.map fun row => [','].intercalate (row.map quoteCSVCell))

/-- A text that is empty counts as none. -/
def given (text : Option String) (otherwise : String) : String :=
  match text with
  | none => otherwise
  | some text => if text = "" then otherwise else text

def reportMetadata (date : String) (options : ExportOptions) : List (List String) :=
  [[given options.storeName "المتجر"], ["التقرير: " ++ given options.title "تقرير"], ["التاريخ: " ++ date],
    [given options.subtitle ""], [""]]

def excelValue : ReportValue → String
  | .bool value => if value then "نعم" else "لا"
  | value => value.string

def reportRows (date : String) (data : List ReportItem) (columns : List ExportColumn) (options : ExportOptions) :
    List (List (List Char)) :=
  (reportMetadata date options ++ [columns.map ExportColumn.header] ++
    data.map fun item => columns.map fun col => excelValue (item col.key)).map (List.map String.toList)

def exportToExcel (date : String) (data : List ReportItem) (columns : List ExportColumn) (options : ExportOptions) : List Char :=
  csvOf (reportRows date data columns options)

def sheetRows (sheet : List ReportItem × List ExportColumn) : List (List (List Char)) :=
  (sheet.2.map ExportColumn.header :: sheet.1.map fun item => sheet.2.map fun col => (item col.key).string).map
    (List.map String.toList)

/-- A file for each sheet. -/
def exportMultiSheetExcel (sheets : List (List ReportItem × List ExportColumn)) : List (List Char) :=
  sheets.map fun sheet => csvOf (sheetRows sheet)

end Sheets

section Reading

/-- A cell as it is read back: the carriage returns before its newlines are gone. -/
def readCell (text : List Char) : List Char :=
  if startsFormula text then '\'' :: Csv.dropReturns text else Csv.dropReturns text

theorem readCell_sanitized (text : List Char) : Csv.dropReturns (sanitizeCSVCell text) = readCell text := by
  unfold sanitizeCSVCell readCell
  split
  · rw [Csv.dropReturns, if_neg (by simp)]
  · rfl

/-- Those returns are blank, and nothing but blanks stands before the first of them that counts. -/
theorem startsFormula_returns (text : List Char) : startsFormula (Csv.dropReturns text) = startsFormula text := by
  induction text with
  | nil => rfl
  | cons c text ih =>
    rw [Csv.dropReturns]
    split
    · next returned =>
      rw [ih, returned.1]
      rfl
    · unfold startsFormula at ih ⊢
      by_cases blank : isTrimmed c = true
      · rw [List.dropWhile_cons_of_pos blank, List.dropWhile_cons_of_pos blank, ih]
      · rw [List.dropWhile_cons_of_neg blank, List.dropWhile_cons_of_neg blank, List.head?_cons, List.head?_cons]

theorem readCell_safe (text : List Char) : startsFormula (readCell text) = false := by
  rw [readCell]
  split
  · rfl
  · next plain => rwa [startsFormula_returns, ← Bool.not_eq_true]

theorem csvOf_quoted (rows : List (List (List Char))) : csvOf rows = Csv.quotedRows (rows.map (List.map sanitizeCSVCell)) := by
  simp only [csvOf, Csv.quotedRows, Csv.quotedRow, List.map_map, Function.comp_def]
  rfl

theorem csvOf_read {rows : List (List (List Char))} (nonempty : ∀ row ∈ rows, row ≠ []) :
    Csv.readRecords (csvOf rows) = .ok (rows.map (List.map readCell)) := by
  have filled : ∀ row ∈ rows.map (List.map sanitizeCSVCell), row ≠ [] := by
    intro row member
    obtain ⟨before, inside, rfl⟩ := List.mem_map.mp member
    simpa using nonempty before inside
  rw [csvOf_quoted, Csv.readRecords_quotedRows filled, List.map_map]
  congr 2
  funext row
  simp only [Function.comp_apply, List.map_map]
  congr 1
  funext text
  exact readCell_sanitized text

/-- The files of the reports are read back cell by cell, with an apostrophe before the cells that could be taken for a
formula, and before no others: none that is read could. -/
theorem reports_read_back (date : String) (data : List ReportItem) (columns : List ExportColumn) (options : ExportOptions)
    (sheets : List (List ReportItem × List ExportColumn)) (some : columns ≠ []) (each : ∀ sheet ∈ sheets, sheet.2 ≠ []) :
    Csv.readRecords (exportToExcel date data columns options) =
        .ok ((reportRows date data columns options).map (List.map readCell)) ∧
      (exportMultiSheetExcel sheets).map Csv.readRecords =
        sheets.map (fun sheet => .ok ((sheetRows sheet).map (List.map readCell))) ∧
      ∀ text, startsFormula (readCell text) = false ∧
        (readCell text = Csv.dropReturns text ↔ startsFormula text = false) := by
  refine ⟨csvOf_read fun row member => ?_, ?_, fun text => ⟨readCell_safe text, ?_⟩⟩
  · obtain ⟨before, inside, rfl⟩ := List.mem_map.mp member
    have filled : before ≠ [] := by
      rcases List.mem_append.mp inside with inside | inside
      · rcases List.mem_append.mp inside with inside | inside
        · simp only [reportMetadata, List.mem_cons, List.not_mem_nil, or_false] at inside
          rcases inside with rfl | rfl | rfl | rfl | rfl
          all_goals exact List.cons_ne_nil _ _
        · rw [List.mem_singleton.mp inside]
          simpa using some
      · obtain ⟨item, -, rfl⟩ := List.mem_map.mp inside
        simpa using some
    simpa using filled
  · rw [exportMultiSheetExcel, List.map_map]
    refine List.map_congr_left fun sheet inside => csvOf_read fun row member => ?_
    obtain ⟨before, among, rfl⟩ := List.mem_map.mp member
    have filled : before ≠ [] := by
      rcases List.mem_cons.mp among with rfl | among
      · simpa using each sheet inside
      · obtain ⟨item, -, rfl⟩ := List.mem_map.mp among
        simpa using each sheet inside
    simpa using filled
  · rw [readCell]
    split
    · next formula => simp [formula]
    · next plain => simpa using plain

/-- The financial summary's costs are printed with a minus sign, and come back as texts. -/
theorem reports_read_back_costs :
    let summary : List ReportItem := [fun key => if key = "item" then .text "تكلفة البضاعة المباعة" else .number "-250"]
    (exportMultiSheetExcel [(summary, [⟨"item", "البند"⟩, ⟨"value", "القيمة (IQD)"⟩])]).map Csv.readRecords =
      [.ok ([["البند", "القيمة (IQD)"], ["تكلفة البضاعة المباعة", "'-250"]].map (List.map String.toList))] := by
  intro summary
  have read := (reports_read_back "" [] [⟨"item", "البند"⟩] ⟨none, none, none⟩
    [(summary, [⟨"item", "البند"⟩, ⟨"value", "القيمة (IQD)"⟩])] (List.cons_ne_nil _ _) (by simp)).2.1
  rw [read]
  decide +kernel

end Reading

section Printing

def replaceAll (c : Char) (entity : String) (text : List Char) : List Char :=
  text.flatMap fun d => if d = c then entity.toList else [d]

def escapeHTML (text : List Char) : List Char :=
  replaceAll '\'' "&#039;" (replaceAll '"' "&quot;" (replaceAll '>' "&gt;" (replaceAll '<' "&lt;" (replaceAll '&' "&amp;" text))))

def thClass : String := "px-4 py-2 border border-gray-300 bg-gray-100 font-bold text-gray-700"

def tdClass : String := "px-4 py-2 border border-gray-300 text-gray-800 text-center"

def openTag (name cls : String) : List Char := ("<" ++ name ++ " class=\"" ++ cls ++ "\">").toList

def closeTag (name : String) : List Char := ("</" ++ name ++ ">").toList

def tableHeader (columns : List ExportColumn) : List Char :=
  columns.flatMap fun c => openTag "th" thClass ++ escapeHTML c.header.toList ++ closeTag "th"

def tableRow (columns : List ExportColumn) (item : ReportItem) (idx : Nat) : List Char :=
  openTag "tr" (if idx % 2 = 0 then "bg-white" else "bg-gray-50") ++
    columns.flatMap (fun col => openTag "td" tdClass ++ escapeHTML (item col.key).string.toList ++ closeTag "td") ++ closeTag "tr"

def tableRows (columns : List ExportColumn) (data : List ReportItem) : List Char :=
  (data.mapIdx fun idx item => tableRow columns item idx).flatten

/-- A text of a page as it is shown: the five references stand for their characters. -/
def shownText : List Char → List Char
  | '&' :: 'a' :: 'm' :: 'p' :: ';' :: rest => '&' :: shownText rest
  | '&' :: 'l' :: 't' :: ';' :: rest => '<' :: shownText rest
  | '&' :: 'g' :: 't' :: ';' :: rest => '>' :: shownText rest
  | '&' :: 'q' :: 'u' :: 'o' :: 't' :: ';' :: rest => '"' :: shownText rest
  | '&' :: '#' :: '0' :: '3' :: '9' :: ';' :: rest => '\'' :: shownText rest
  | c :: rest => c :: shownText rest
  | [] => []

/-- What a character is written as. -/
def entity (c : Char) : List Char :=
  if c = '&' then "&amp;".toList else if c = '<' then "&lt;".toList else if c = '>' then "&gt;".toList
  else if c = '"' then "&quot;".toList else if c = '\'' then "&#039;".toList else [c]

theorem escapeHTML_entities (text : List Char) : escapeHTML text = text.flatMap entity := by
  simp only [escapeHTML, replaceAll, List.flatMap_assoc]
  refine congrArg (fun f => List.flatMap f text) (funext fun c => ?_)
  by_cases amp : c = '&'
  · subst amp
    decide
  by_cases lt : c = '<'
  · subst lt
    decide
  by_cases gt : c = '>'
  · subst gt
    decide
  by_cases quote : c = '"'
  · subst quote
    decide
  by_cases apostrophe : c = '\''
  · subst apostrophe
    decide
  simp [entity, amp, lt, gt, quote, apostrophe]

theorem shownText_entity (c : Char) (rest : List Char) : shownText (entity c ++ rest) = c :: shownText rest := by
  unfold entity
  split_ifs with amp lt gt quote apostrophe
  · rw [amp]
    rfl
  · rw [lt]
    rfl
  · rw [gt]
    rfl
  · rw [quote]
    rfl
  · rw [apostrophe]
    rfl
  · simp [shownText, amp]

theorem shownText_escapeHTML (text : List Char) : shownText (escapeHTML text) = text := by
  rw [escapeHTML_entities]
  induction text with
  | nil => rfl
  | cons c text ih => rw [List.flatMap_cons, shownText_entity, ih]

/-- The characters that tags are made of. -/
def markup (text : List Char) : List Char := text.filter fun c => c ∈ ['<', '>', '"', '\'']

theorem markup_append (a b : List Char) : markup (a ++ b) = markup a ++ markup b := List.filter_append a b

theorem markup_escapeHTML (text : List Char) : markup (escapeHTML text) = [] := by
  rw [escapeHTML_entities, markup, List.filter_flatMap, List.flatMap_eq_nil_iff]
  intro c _
  unfold entity
  split_ifs with amp lt gt quote apostrophe
  · decide
  · decide
  · decide
  · decide
  · decide
  · simp [lt, gt, quote, apostrophe]

theorem markup_flatMap {α : Type} (f : α → List Char) (same : List Char) (xs : List α) (each : ∀ x ∈ xs, markup (f x) = same) :
    markup (xs.flatMap f) = (List.replicate xs.length same).flatten := by
  induction xs with
  | nil => rfl
  | cons x xs ih =>
    rw [List.flatMap_cons, markup_append, each x List.mem_cons_self, ih fun x member => each x (List.mem_cons_of_mem _ member),
      List.length_cons, List.replicate_succ, List.flatten_cons]

theorem markup_cells {α : Type} (name cls : String) (f : α → List Char) (xs : List α) :
    markup (xs.flatMap fun x => openTag name cls ++ escapeHTML (f x) ++ closeTag name) =
      (List.replicate xs.length (markup (openTag name cls) ++ markup (closeTag name))).flatten := by
  refine markup_flatMap _ _ xs fun x _ => ?_
  rw [markup_append, markup_append, markup_escapeHTML, List.append_nil]

theorem markup_tableRow (columns : List ExportColumn) (item : ReportItem) (idx : Nat) :
    markup (tableRow columns item idx) = markup (openTag "tr" (if idx % 2 = 0 then "bg-white" else "bg-gray-50")) ++
      (List.replicate columns.length (markup (openTag "td" tdClass) ++ markup (closeTag "td"))).flatten ++
      markup (closeTag "tr") := by
  rw [tableRow, markup_append, markup_append, markup_cells]

/-- The tags of a printed table depend on how many rows and columns it has, and on nothing that stands in it; what
stands in it is shown as it is. -/
theorem table_markup (columns others : List ExportColumn) (data more : List ReportItem) (wide : columns.length = others.length)
    (long : data.length = more.length) :
    markup (tableHeader columns ++ tableRows columns data) = markup (tableHeader others ++ tableRows others more) ∧
      ∀ text, shownText (escapeHTML text) = text := by
  have rows (columns : List ExportColumn) (data : List ReportItem) : markup (tableRows columns data) =
      ((List.range data.length).map fun idx => markup (openTag "tr" (if idx % 2 = 0 then "bg-white" else "bg-gray-50")) ++
        (List.replicate columns.length (markup (openTag "td" tdClass) ++ markup (closeTag "td"))).flatten ++
        markup (closeTag "tr")).flatten := by
    rw [tableRows, markup, List.filter_flatten]
    refine congrArg List.flatten (List.ext_getElem (by simp) fun idx _ _ => ?_)
    rw [List.getElem_map, List.getElem_mapIdx, List.getElem_map, List.getElem_range]
    exact markup_tableRow columns _ idx
  refine ⟨?_, shownText_escapeHTML⟩
  rw [markup_append, markup_append, tableHeader, tableHeader, markup_cells, markup_cells, rows, rows, wide, long]

def customerNames : List ExportColumn := [⟨"name", "العميل"⟩]

theorem table_markup_script :
    markup (tableHeader customerNames ++ tableRows customerNames [fun _ => .text "<script>"]) =
      markup (tableHeader customerNames ++ tableRows customerNames [fun _ => .text "منى"]) :=
  (table_markup customerNames customerNames [fun _ => .text "<script>"] [fun _ => .text "منى"] rfl rfl).1

end Printing

end BeidarPos
