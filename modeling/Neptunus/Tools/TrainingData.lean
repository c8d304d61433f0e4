import Neptunus.Go.Strings
import Neptunus.Go.Strconv

/-!
  Neptunus.Tools.TrainingData

  The command that turns CSV files of saved prompts and responses into fine-tuning
  examples: `processCSVFile`, the formatters `formatOpenAI`, `formatAnthropic` and
  `formatLlama`, and `max`.

  The CSV reader is `encoding/csv`'s with its defaults: its lexer's records are
  taken as given (`CsvFile`), and `FieldsPerRecord = 0` makes the header's length
  the length every later record must have, so `ReadAll` fails on the first record of
  another length. `encoding/json` is a parameter (`Json`): what `Unmarshal` makes of
  a response, what `Marshal` makes of it back, and the `interface{}` values of
  `log_refs`.

  Verdicts. Each column index is that of the last header cell whose lower case is the
  column's name (`findColumns_get`). `processCSVFile` succeeds exactly when the header
  names a prompt and a response column and every record has the header's length, and
  its examples are then one per record whose trimmed prompt and response are not
  empty and whose response survives the JSON round trip, in order; the check that
  skips records too short for the columns never fires (`processCSVFile_ok`).
-/

namespace Neptunus.Tools.TrainingData

open Neptunus.Go Neptunus.Go.Strconv

/-! ## Examples and responses -/

structure Message where
  role : String
  content : String
  deriving DecidableEq, Repr

structure TrainingExample where
  messages : List Message
  deriving DecidableEq, Repr

/-- `Issue`, its `log_refs` values of the type `Any` that `encoding/json` decodes an
    `interface{}` to. -/
structure Issue (Any : Type) where
  issue : String
  severity : String
  category : String
  logRefs : List Any

structure ResponseData (Any : Type) where
  issues : List (Issue Any)

/-- What the command takes from `encoding/json`. -/
structure Json (Any : Type) where
  /-- `json.Unmarshal([]byte(s), &responseData)`; `none` is an error. -/
  unmarshal : String → Option (ResponseData Any)
  /-- `json.Marshal(responseData)`; `none` is an error. -/
  marshal : ResponseData Any → Option String
  /-- The type assertion `logRef.(string)`. -/
  asString : Any → Option String
  /-- An `int` stored in an `interface{}`. -/
  ofInt : Int → Any

variable {Any : Type}

/-- One `log_refs` value after the loop: a string `Atoi` accepts becomes its `int`. -/
def normalizeLogRef (J : Json Any) (logRef : Any) : Any :=
  match J.asString logRef with
  | some s =>
    match atoi s with
    | (v, none) => J.ofInt v
    | (_, some _) => logRef
  | none => logRef

/-- The loop over `responseData.Issues[i].LogRefs[j]`, each written in place. -/
def normalize (J : Json Any) (d : ResponseData Any) : ResponseData Any :=
  ⟨d.issues.map fun issue => { issue with logRefs := issue.logRefs.map (normalizeLogRef J) }⟩

/-! ## Formatters -/

/-- `record[i]`. -/
def cell (record : List String) (i : Nat) : String := record.getD i ""

/-- The condition of the system message: the cell exists and is not empty (before
    trimming). -/
def hasSystem (record : List String) (hasSystemPrompt : Bool) (systemPromptIdx : Nat) : Bool :=
  hasSystemPrompt && decide (systemPromptIdx < record.length) && cell record systemPromptIdx != ""

/-- `formatOpenAI` and `formatAnthropic`, which differ only in the prompt's role. -/
def formatChat (userRole : String) (record : List String) (hasSystemPrompt : Bool)
    (systemPromptIdx promptIdx responseIdx : Nat) : List Message :=
  (if hasSystem record hasSystemPrompt systemPromptIdx then
    [⟨"system", trimSpace (cell record systemPromptIdx)⟩] else []) ++
  [⟨userRole, trimSpace (cell record promptIdx)⟩,
    ⟨"assistant", trimSpace (cell record responseIdx)⟩]

def formatOpenAI (record : List String) (hasSystemPrompt : Bool)
    (systemPromptIdx promptIdx responseIdx : Nat) : List Message :=
  formatChat "user" record hasSystemPrompt systemPromptIdx promptIdx responseIdx

def formatAnthropic (record : List String) (hasSystemPrompt : Bool)
    (systemPromptIdx promptIdx responseIdx : Nat) : List Message :=
  formatChat "human" record hasSystemPrompt systemPromptIdx promptIdx responseIdx

/-- `formatLlama`: the system prompt joins the user message. -/
def formatLlama (record : List String) (hasSystemPrompt : Bool)
    (systemPromptIdx promptIdx responseIdx : Nat) : List Message :=
  let userContent := trimSpace (cell record promptIdx)
  let userContent :=
    if hasSystem record hasSystemPrompt systemPromptIdx then
      "<s>[INST] " ++ trimSpace (cell record systemPromptIdx) ++ " [/INST]\n" ++ userContent
    else "<s>[INST] " ++ userContent ++ " [/INST]"
  [⟨"user", userContent⟩,
    ⟨"assistant", "</s><s>[INST] " ++ trimSpace (cell record responseIdx) ++ " [/INST]"⟩]

/-- `max(values ...int)`: `values[0]`, raised by every larger value. -/
def max (values : List Nat) : Nat :=
  values.foldl (fun m v => if v > m then v else m) (values.getD 0 0)

/-! ## Columns -/

/-- The column indices `processCSVFile` finds, each with its flag. -/
structure Columns where
  systemPromptIdx : Nat := 0
  promptIdx : Nat := 0
  responseIdx : Nat := 0
  foundSystemPrompt : Bool := false
  foundPrompt : Bool := false
  foundResponse : Bool := false

/-- The `switch` on one header cell `i`. -/
def Columns.update (lowerRune : Char → Char) (cols : Columns) (i : Nat) (colName : String) :
    Columns :=
  match toLower lowerRune colName with
  | "system_prompt" => { cols with systemPromptIdx := i, foundSystemPrompt := true }
  | "prompt" => { cols with promptIdx := i, foundPrompt := true }
  | "response" => { cols with responseIdx := i, foundResponse := true }
  | _ => cols

/-- The header loop from cell `i`. -/
def findColumns (lowerRune : Char → Char) : Columns → Nat → List String → Columns
  | cols, _, [] => cols
  | cols, i, colName :: rest => findColumns lowerRune (cols.update lowerRune i colName) (i + 1) rest

/-! ## The CSV reader -/

/-- The errors of `csv.Reader`: a `*csv.ParseError` of its lexer, `ErrFieldCount`, and
    `io.EOF` from `Read` on a file with no record. -/
inductive CsvError where
  | parse (msg : String)
  | fieldCount
  | eof

/-- A CSV file as `csv.NewReader` yields it: the records its lexer reads, in order,
    and the error it stopped at, if any. -/
structure CsvFile where
  records : List (List String)
  lexError : Option String

/-- `reader.Read()`: the header. -/
def CsvFile.readHeader (f : CsvFile) : Except CsvError (List String) :=
  match f.records, f.lexError with
  | header :: _, _ => .ok header
  | [], some msg => .error (.parse msg)
  | [], none => .error .eof

/-- `reader.ReadAll()` over the records after the header, each of which must have
    `fields` fields; on an error it returns no record. -/
def readAll (fields : Nat) (lexError : Option String) : List (List String) →
    Except CsvError (List (List String))
  | [] =>
    match lexError with
    | some msg => .error (.parse msg)
    | none => .ok []
  | r :: rs =>
    if r.length ≠ fields then .error .fieldCount
    else (readAll fields lexError rs).map (r :: ·)

/-! ## processCSVFile -/

/-- The record loop's body after the length check; `none` is `continue`. -/
def convert (J : Json Any) (format : String) (cols : Columns) (record : List String) :
    Option TrainingExample :=
  let prompt := trimSpace (cell record cols.promptIdx)
  let response := trimSpace (cell record cols.responseIdx)
  if prompt = "" ∨ response = "" then none
  else
    match J.unmarshal response with
    | none => none
    | some responseData =>
      match J.marshal (normalize J responseData) with
      | none => none
      | some data =>
        let record := record.set cols.responseIdx data
        let fmt := match format with
          | "openai" => formatOpenAI
          | "anthropic" => formatAnthropic
          | "llama" => formatLlama
          | _ => formatOpenAI
        some ⟨fmt record cols.foundSystemPrompt cols.systemPromptIdx cols.promptIdx cols.responseIdx⟩

/-- One iteration of the record loop. -/
def processRecord (J : Json Any) (format : String) (cols : Columns) (record : List String) :
    Option TrainingExample :=
  if record.length ≤ max [cols.systemPromptIdx, cols.promptIdx, cols.responseIdx] then none
  else convert J format cols record

/-- The record loop, `examples` the examples so far. -/
def processRecords (J : Json Any) (format : String) (cols : Columns) :
    List TrainingExample → List (List String) → List TrainingExample
  | examples, [] => examples
  | examples, record :: rest =>
    match processRecord J format cols record with
    | none => processRecords J format cols examples rest
    | some ex => processRecords J format cols (examples ++ [ex]) rest

/-- The errors of `processCSVFile` once the file is open. -/
inductive ExportError where
  /-- `"failed to read header: %w"`. -/
  | header (err : CsvError)
  /-- `"CSV must contain 'prompt' and 'response' columns"`. -/
  | columns
  /-- `"failed to read records: %w"`. -/
  | records (err : CsvError)

/-- `processCSVFile(filePath, format)` on the opened file. -/
def processCSVFile (J : Json Any) (lowerRune : Char → Char) (f : CsvFile) (format : String) :
    Except ExportError (List TrainingExample) := do
  let header ← f.readHeader.mapError .header
  let cols := findColumns lowerRune {} 0 header
  if !cols.foundPrompt || !cols.foundResponse then throw .columns
  let records ← (readAll header.length f.lexError (f.records.drop 1)).mapError .records
  pure (processRecords J format cols [] records)

/-! ## The header scan -/

/-- The names the header loop looks for. -/
def columnNames : List String := ["system_prompt", "prompt", "response"]

/-- The flag and index of the column `name` selects. -/
def Columns.get (cols : Columns) (name : String) : Bool × Nat :=
  if name = "system_prompt" then (cols.foundSystemPrompt, cols.systemPromptIdx)
  else if name = "prompt" then (cols.foundPrompt, cols.promptIdx)
  else (cols.foundResponse, cols.responseIdx)

/-- The position of the last cell whose lower case is `name`. -/
def lastMatch (lowerRune : Char → Char) (name : String) : List String → Option Nat
  | [] => none
  | c :: cs =>
    match lastMatch lowerRune name cs with
    | some j => some (j + 1)
    | none => if toLower lowerRune c = name then some 0 else none

theorem update_get (lowerRune : Char → Char) (cols : Columns) (i : Nat) (c : String) {name : String}
    (hname : name ∈ columnNames) :
    (cols.update lowerRune i c).get name =
      if toLower lowerRune c = name then (true, i) else cols.get name := by
  simp only [columnNames, List.mem_cons, List.mem_singleton, List.not_mem_nil, or_false] at hname
  unfold Columns.update
  rcases hname with rfl | rfl | rfl <;> split <;> simp_all [Columns.get]

/-- The header loop from cell `i` leaves a column as it was unless a later cell names
    it; then the last such cell is the column. -/
theorem findColumns_get (lowerRune : Char → Char) {name : String} (hname : name ∈ columnNames) :
    ∀ (cols : Columns) (i : Nat) (cells : List String),
      (findColumns lowerRune cols i cells).get name =
        match lastMatch lowerRune name cells with
        | some j => (true, i + j)
        | none => cols.get name
  | _, _, [] => rfl
  | cols, i, c :: cs => by
    rw [findColumns, findColumns_get lowerRune hname _ (i + 1) cs, update_get _ _ _ _ hname,
      lastMatch]
    cases lastMatch lowerRune name cs with
    | some j => simp only [Prod.mk.injEq, true_and]; omega
    | none => by_cases h : toLower lowerRune c = name <;> simp [h]

section LastMatch

variable {lowerRune : Char → Char} {name : String}

/-- The cells after `j` of a list with one more cell in front are the cells from `j` of
    the rest. -/
theorem forall_after_succ {n j : Nat} {p : Nat → Prop} :
    (∀ k, j < k → k < n + 1 → p k) ↔ ∀ k, j ≤ k → k < n → p (k + 1) := by
  refine ⟨fun h k hj hk => h (k + 1) (by omega) (by omega), fun h k hj hk => ?_⟩
  obtain ⟨k, rfl⟩ : ∃ k', k = k' + 1 := ⟨k - 1, by omega⟩
  exact h k (by omega) (by omega)

theorem lastMatch_eq_none : ∀ {cells : List String},
    lastMatch lowerRune name cells = none ↔
      ∀ k < cells.length, toLower lowerRune (cells.getD k "") ≠ name
  | [] => by simp [lastMatch]
  | c :: cs => by
    have ih : lastMatch lowerRune name cs = none ↔ _ := lastMatch_eq_none
    simp only [List.length_cons, Nat.forall_lt_succ_left, List.getD_cons_zero, List.getD_cons_succ]
    rw [← ih, lastMatch]
    cases lastMatch lowerRune name cs <;> simp

theorem lastMatch_eq_some : ∀ {cells : List String} {j : Nat},
    lastMatch lowerRune name cells = some j ↔
      j < cells.length ∧ toLower lowerRune (cells.getD j "") = name ∧
        ∀ k, j < k → k < cells.length → toLower lowerRune (cells.getD k "") ≠ name
  | [], _ => by simp [lastMatch]
  | c :: cs, 0 => by
    have hnone : lastMatch lowerRune name cs = none ↔ _ := lastMatch_eq_none
    simp only [List.length_cons, forall_after_succ, List.getD_cons_zero, List.getD_cons_succ,
      Nat.zero_lt_succ, Nat.zero_le, true_implies, true_and]
    rw [← hnone, lastMatch]
    cases lastMatch lowerRune name cs <;> simp [and_comm]
  | c :: cs, j + 1 => by
    have ih : lastMatch lowerRune name cs = some j ↔ _ := lastMatch_eq_some
    simp only [List.length_cons, forall_after_succ, List.getD_cons_succ, Nat.add_one_le_iff,
      Nat.add_lt_add_iff_right]
    rw [← ih, lastMatch]
    cases lastMatch lowerRune name cs <;> simp

end LastMatch

theorem get_default (name : String) : ({} : Columns).get name = (false, 0) := by
  unfold Columns.get
  split_ifs <;> rfl

/-- For every header and each of the three names: either no cell's lower case is the
    name, and the column is not found and keeps index 0, or the column is found at the
    last cell whose lower case is the name. -/
theorem findColumns_last (lowerRune : Char → Char) (header : List String) {name : String}
    (hname : name ∈ columnNames) :
    ((findColumns lowerRune {} 0 header).get name = (false, 0) ∧
        ∀ k < header.length, toLower lowerRune (header.getD k "") ≠ name) ∨
      ∃ j, (findColumns lowerRune {} 0 header).get name = (true, j) ∧ j < header.length ∧
        toLower lowerRune (header.getD j "") = name ∧
        ∀ k, j < k → k < header.length → toLower lowerRune (header.getD k "") ≠ name := by
  rw [findColumns_get lowerRune hname]
  cases h : lastMatch lowerRune name header with
  | none => exact .inl ⟨get_default name, lastMatch_eq_none.mp h⟩
  | some j => exact .inr ⟨j, by simp, lastMatch_eq_some.mp h⟩

/-- A header naming `Prompt` twice takes the later column. -/
theorem findColumns_last_duplicate :
    "prompt" ∈ columnNames ∧
    (((findColumns id {} 0 ["Prompt", "response", "PROMPT"]).get "prompt" = (false, 0) ∧
        ∀ k < 3, toLower id (["Prompt", "response", "PROMPT"].getD k "") ≠ "prompt") ∨
      ∃ j, (findColumns id {} 0 ["Prompt", "response", "PROMPT"]).get "prompt" = (true, j) ∧ j < 3 ∧
        toLower id (["Prompt", "response", "PROMPT"].getD j "") = "prompt" ∧
        ∀ k, j < k → k < 3 → toLower id (["Prompt", "response", "PROMPT"].getD k "") ≠ "prompt") :=
  ⟨by decide, findColumns_last id ["Prompt", "response", "PROMPT"] (by decide)⟩

example : (findColumns id {} 0 ["Prompt", "response", "PROMPT"]).get "prompt" = (true, 2) := by
  decide

/-! ## Reading and looping -/

theorem readAll_eq_ok {fields : Nat} {lexError : Option String} :
    ∀ {rs out : List (List String)}, readAll fields lexError rs = .ok out ↔
      lexError = none ∧ out = rs ∧ ∀ r ∈ rs, r.length = fields
  | [], out => by cases lexError <;> simp [readAll, eq_comm]
  | r :: rs, out => by
    by_cases hr : r.length = fields
    · simp only [readAll, hr, ne_eq, not_true_eq_false, if_false, List.mem_cons, forall_eq_or_imp,
        true_and]
      cases h : readAll fields lexError rs with
      | error e =>
        have : ¬(lexError = none ∧ ∀ r ∈ rs, r.length = fields) := fun ⟨h1, h2⟩ => by
          simp [readAll_eq_ok.mpr ⟨h1, rfl, h2⟩] at h
        simp only [Except.map, reduceCtorEq, false_iff]
        tauto
      | ok rs' =>
        obtain ⟨h1, rfl, h2⟩ := readAll_eq_ok.mp h
        simp only [Except.map, Except.ok.injEq]
        exact ⟨fun h => ⟨h1, h.symm, h2⟩, fun ⟨_, h, _⟩ => h.symm⟩
    · simp [readAll, hr]

/-- The record loop appends, in order, the example of every record its body keeps. -/
theorem processRecords_eq (J : Json Any) (format : String) (cols : Columns) :
    ∀ (examples : List TrainingExample) (records : List (List String)),
      processRecords J format cols examples records =
        examples ++ records.filterMap (processRecord J format cols)
  | examples, [] => by simp [processRecords]
  | examples, record :: rest => by
    rw [processRecords, List.filterMap_cons]
    cases processRecord J format cols record with
    | none => exact processRecords_eq J format cols examples rest
    | some ex => simp [processRecords_eq J format cols _ rest]

theorem max_three_lt {a b c n : Nat} (ha : a < n) (hb : b < n) (hc : c < n) : max [a, b, c] < n := by
  simp only [max, List.getD_cons_zero, List.foldl_cons, List.foldl_nil]
  split_ifs <;> omega

/-- A record at least as long as every column index is converted by the body. -/
theorem processRecord_of_lt (J : Json Any) (format : String) {cols : Columns} {record : List String}
    (hs : cols.systemPromptIdx < record.length) (hp : cols.promptIdx < record.length)
    (hr : cols.responseIdx < record.length) :
    processRecord J format cols record = convert J format cols record := by
  rw [processRecord, if_neg (Nat.not_le.mpr (max_three_lt hs hp hr))]

/-! ## processCSVFile -/

/-- Once a header has cells, every column index lies in it. -/
theorem findColumns_get_lt (lowerRune : Char → Char) {header : List String} (hlen : 0 < header.length)
    {name : String} (hname : name ∈ columnNames) :
    ((findColumns lowerRune {} 0 header).get name).2 < header.length := by
  rcases findColumns_last lowerRune header hname with ⟨h, -⟩ | ⟨j, h, hj, -⟩ <;> simp [h, *]

/-- A header with a prompt column has cells. -/
theorem length_pos_of_foundPrompt (lowerRune : Char → Char) {header : List String}
    (h : (findColumns lowerRune {} 0 header).foundPrompt = true) : 0 < header.length := by
  rcases findColumns_last lowerRune header (show "prompt" ∈ columnNames by decide) with
    ⟨hg, -⟩ | ⟨j, -, hj, -⟩
  · simp [Columns.get, h] at hg
  · omega

/-- For every CSV file and format: `processCSVFile` succeeds exactly when the file has
    a header naming a prompt and a response column, no lexer error, and records of the
    header's length; its examples are then, in order, those `convert` makes of the
    records, the check that skips records too short for the columns never firing. -/
theorem processCSVFile_ok (J : Json Any) (lowerRune : Char → Char) (f : CsvFile) (format : String)
    (exs : List TrainingExample) :
    processCSVFile J lowerRune f format = .ok exs ↔
      ∃ header rest, f.records = header :: rest ∧ f.lexError = none ∧
        (findColumns lowerRune {} 0 header).foundPrompt = true ∧
        (findColumns lowerRune {} 0 header).foundResponse = true ∧
        (∀ r ∈ rest, r.length = header.length) ∧
        exs = rest.filterMap (convert J format (findColumns lowerRune {} 0 header)) := by
  obtain ⟨records, lexError⟩ := f
  cases records with
  | nil => cases lexError <;> simp [processCSVFile, CsvFile.readHeader, Except.mapError, bind, Except.bind]
  | cons header rest =>
    simp only [List.cons.injEq, and_assoc, exists_and_left, exists_eq_left']
    by_cases hp : (findColumns lowerRune {} 0 header).foundPrompt = true
    · by_cases hr : (findColumns lowerRune {} 0 header).foundResponse = true
      · have hb : ∀ name ∈ columnNames,
            ((findColumns lowerRune {} 0 header).get name).2 < header.length :=
          fun _ hn => findColumns_get_lt lowerRune (length_pos_of_foundPrompt lowerRune hp) hn
        simp only [processCSVFile, CsvFile.readHeader, Except.mapError, bind, Except.bind, hp, hr,
          Bool.not_true, Bool.false_or, Bool.false_eq_true, or_self, ↓reduceIte, pure, Except.pure,
          true_and, List.drop_one, List.tail_cons]
        cases h : readAll header.length lexError rest with
        | error e =>
          simp only [reduceCtorEq, false_iff, not_and]
          exact fun hl hall => by simp [readAll_eq_ok.mpr ⟨hl, rfl, hall⟩] at h
        | ok rs =>
          obtain ⟨hl, rfl, hall⟩ := readAll_eq_ok.mp h
          have hconv : rs.filterMap (processRecord J format (findColumns lowerRune {} 0 header)) =
              rs.filterMap (convert J format (findColumns lowerRune {} 0 header)) :=
            List.filterMap_congr fun r hr' => by
              rw [processRecord_of_lt J format] <;> rw [hall r hr']
              exacts [hb "system_prompt" (by decide), hb "prompt" (by decide), hb "response" (by decide)]
          simp only [processRecords_eq, List.nil_append, hconv, Except.ok.injEq, hl, true_and]
          exact ⟨fun h => ⟨hall, h.symm⟩, fun ⟨_, h⟩ => h.symm⟩
      · simp [processCSVFile, CsvFile.readHeader, Except.mapError, bind, Except.bind, hr]
    · simp [processCSVFile, CsvFile.readHeader, Except.mapError, bind, Except.bind, hp]

end Neptunus.Tools.TrainingData
