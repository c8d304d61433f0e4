import Mathlib.Data.List.AList
import Mathlib.Data.List.Infix
import Neptunus.Go.Strconv
import Neptunus.Processors.Llm
import Neptunus.Tools.TrainingData

/-!
  Neptunus.Processors.LlmCsv

  `LLM.SaveCSV` (`plugins/processors/llm/llm.go`): after `Run` has sent an event as
  processed, it appends a record of the exchange (time, model, both prompts, the reply,
  the LLM type) to the CSV file `save_csv_path`. Before the write a loop rotates the
  file: while the path it looks at holds `max_csv_size` bytes or more it moves on to
  `<name>.<suffix><ext>` beside it, suffix 0, 1, ...; the first path that does not exist
  or is smaller stops it, and the file is renamed there when that is another path. A
  new, empty file gets the header first.

  The files are an `AList` from path to bytes. `filepath.Dir`, `Base` and `Ext` are
  parameters, and so are the bytes `writer.Write(r)` hands the writer for a record
  (`CsvLib.encode`); `Join` is modelled for a clean directory and a name with no
  separator, as `SaveCSV` calls it. Each system call of a call can fail, with its
  error's text (`Os`, one per call). `csv.Writer` buffers: the bytes reach the file when
  the buffer fills or when the deferred `writer.Flush()` runs, and a write to the file
  can fail part-way, its error dropped by `Flush`. How many of the bytes a call hands
  the writer reach the file is the system's to say (`Os.flushed`), whatever `SaveCSV`
  returns.

  Verdicts. The loop always stops: the rotated names are distinct, so among one more of
  them than there are files one is free (`rotation_isSome`). While every rotated file
  holds at least `max_csv_size` bytes, as it does from the start and after every call,
  a rotation renames the file to a free name only, and no byte is lost: over every run
  the files end cut into pieces that are the files at the start and what each call
  added, and a call that returned `nil` with a flush that wrote everything added its
  record (`saveAll_records`). A flush that fails part-way leaves the record cut short,
  and `SaveCSV` still returns `nil`. A rotated file that is smaller, as after
  `max_csv_size` was raised, is where the next rotation stops: the full file is renamed
  over it and its bytes are lost (`saveCSV_overwrites`). `Run` calls `SaveCSV` once for
  each event it sends as processed, and the files do not change what it sends; when
  every flush writes everything, every file it writes is empty or a header and
  six-field records, which the exporter of `tools/training-data` reads with its three
  columns found, one example for each record `convert` keeps (`runSaving_exported`).
-/

namespace Neptunus.Processors.Llm

open Neptunus.Core Neptunus.Go Neptunus.Go.Strconv Neptunus.Tools.TrainingData

/-! ## The files and the system -/

/-- The files: each path with its bytes. -/
abbrev Files := AList fun _ : String => List UInt8

/-- What `SaveCSV` takes from `path/filepath` and `encoding/csv`. -/
structure CsvLib where
  Dir : String → String
  Base : String → String
  Ext : String → String
  /-- The bytes `writer.Write(r)` hands the writer: the fields, the separators and
      quotes, and the line end. -/
  encode : List String → List UInt8
  encode_ne_nil : ∀ r, encode r ≠ []

/-- What one call's system calls do: the errors of `os.MkdirAll`, `os.Stat` of a path
    (other than a missing file), `os.Rename`, `os.OpenFile`, `file.Stat` and
    `writer.Write` of a record, if any; and how many of the bytes handed to the writer
    reach the file: all of them (`none`), or the first `n` (`some n`), a write to the
    file having failed after them. A `Write` fails only when a write of the full buffer
    does, and the bytes of a failing `Write` count as handed: how many reach the file is
    `flushed`'s to say. -/
structure Os where
  mkdirAll : Option String
  stat : String → Option String
  rename : Option String
  openFile : Option String
  fileStat : Option String
  write : List String → Option String
  flushed : Option Nat

/-- The settings `SaveCSV` reads, `MaxFileSize` as `Init` leaves it (50 MiB when unset). -/
structure CsvSettings where
  SaveCSVPath : String
  MaxFileSize : Int
  Model : String
  LLMType : String

/-- `filepath.Join(dir, name)`, for a directory as `filepath.Dir` returns it and a name
    with no separator. -/
def join (dir name : String) : String :=
  if dir = "." then name else if dir = "/" then "/" ++ name else dir ++ "/" ++ name

/-- The `suffix`-th name the file at `path` is rotated to: `<name>.<suffix><ext>` in its
    directory. -/
def rotatedName (L : CsvLib) (path : String) (suffix : Nat) : String :=
  let baseFileName := L.Base path
  let ext := L.Ext baseFileName
  join (L.Dir path) (trimSuffix baseFileName ext ++ "." ++ Nat.repr suffix ++ ext)

/-- `os.Stat(path)`: its error, or the size of the file, `none` when it does not exist
    (`os.IsNotExist(err)`). -/
def stat (o : Os) (fs : Files) (path : String) : Except String (Option Nat) :=
  match o.stat path with
  | some err => .error err
  | none => .ok ((fs.lookup path).map List.length)

/-- `os.Rename(src, dst)`: the file moves, replacing what `dst` held. -/
def rename (o : Os) (fs : Files) (src dst : String) : Except String Files :=
  match o.rename, fs.lookup src with
  | some err, _ => .error err
  | none, none => .error ("rename " ++ src ++ " " ++ dst ++ ": no such file or directory")
  | none, some bs => .ok ((fs.erase src).insert dst bs)

/-- `os.OpenFile(path, os.O_APPEND|os.O_CREATE|os.O_WRONLY, 0644)`: the file, created
    empty when it does not exist. -/
def openFile (o : Os) (fs : Files) (path : String) : Except String Files :=
  match o.openFile with
  | some err => .error err
  | none => .ok (fs.insert path ((fs.lookup path).getD []))

/-! ## The writer -/

/-- `writer.Write` of each record in turn, each with the message of its error, until one
    fails: the bytes handed to the writer, and the error returned. -/
def writeAll (L : CsvLib) (o : Os) : List (List String × String) → List UInt8 × Option String
  | [] => ([], none)
  | (r, msg) :: rest =>
    match o.write r with
    | some err => (L.encode r, some (msg ++ err))
    | none => (L.encode r ++ (writeAll L o rest).1, (writeAll L o rest).2)

/-- The bytes of `bs` that reach the file when the writer is flushed. -/
def reached (o : Os) (bs : List UInt8) : List UInt8 :=
  match o.flushed with
  | none => bs
  | some n => bs.take n

theorem reached_prefix_self (o : Os) (bs : List UInt8) : reached o bs <+: bs := by
  unfold reached
  split
  exacts [List.prefix_rfl, List.take_prefix _ _]

theorem reached_nil (o : Os) : reached o [] = [] := List.prefix_nil.mp (reached_prefix_self o [])

/-- The header of a new file. -/
def csvHeader : List String :=
  ["timestamp", "model", "system_prompt", "prompt", "response", "llm_type"]

/-- The record of one exchange, `now` being `time.Now().Format(time.RFC3339)`. -/
def csvRecord (c : CsvSettings) (now systemprompt prompt response : String) : List String :=
  [now, c.Model, trimSpace systemprompt, trimSpace prompt, trimSpace response, c.LLMType]

/-- The `Write`s of a call on a file holding `old`: the header when it is empty, then
    the record. -/
def writes (old : List UInt8) (record : List String) : List (List String × String) :=
  (if old.length = 0 then [(csvHeader, "failed to write CSV header: ")] else []) ++
    [(record, "failed to write CSV record: ")]

/-! ## SaveCSV -/

/-- The rotation loop at `currentPath`, the next name being the `suffix`-th, with `fuel`
    turns left; `none` when it has not stopped within them. -/
def probe (c : CsvSettings) (L : CsvLib) (o : Os) (fs : Files) :
    Nat → String → Nat → Option (Except String String)
  | 0, _, _ => none
  | fuel + 1, currentPath, suffix =>
    match stat o fs currentPath with
    | .ok none => some (.ok currentPath)
    | .ok (some n) =>
      if (n : Int) < c.MaxFileSize then some (.ok currentPath)
      else probe c L o fs fuel (rotatedName L c.SaveCSVPath suffix) (suffix + 1)
    | .error err => some (.error ("failed to get file info: " ++ err))

/-- The loop as `SaveCSV` runs it, from the file itself, with one turn more than the
    file and the rotated names it can meet need: it never runs out (`rotation_isSome`),
    and the default is never taken. -/
def rotation (c : CsvSettings) (L : CsvLib) (o : Os) (fs : Files) : Except String String :=
  (probe c L o fs (fs.keys.length + 2) c.SaveCSVPath 0).getD (.ok c.SaveCSVPath)

/-- The path the loop found, and the file renamed to it when it is another one. -/
def rotate (c : CsvSettings) (L : CsvLib) (o : Os) (fs : Files) : Except String Files := do
  let currentPath ← rotation c L o fs
  if currentPath ≠ c.SaveCSVPath then rename o fs c.SaveCSVPath currentPath else pure fs

/-- The file opened, the header written when it is empty, then the record; at the
    return the deferred `Flush` puts what `reached` says into the file. -/
def append (c : CsvSettings) (L : CsvLib) (o : Os) (fs : Files) (record : List String) :
    Except (Files × String) Files := do
  let fs ← (openFile o fs c.SaveCSVPath).mapError fun err => (fs, "failed to open CSV file: " ++ err)
  match o.fileStat with
  | some err => throw (fs, "failed to get file info: " ++ err)
  | none =>
    let old := (fs.lookup c.SaveCSVPath).getD []
    let w := writeAll L o (writes old record)
    let fs := fs.insert c.SaveCSVPath (old ++ reached o w.1)
    match w.2 with
    | some err => throw (fs, err)
    | none => pure fs

/-- `SaveCSV(systemprompt, prompt, response, model)`: the files after a call that
    returns `nil`, or after a failed call with its error. The record carries `p.Model`;
    the `model` argument is not read. -/
def saveCSV (c : CsvSettings) (L : CsvLib) (o : Os) (now : String) (fs : Files)
    (systemprompt prompt response : String) : Except (Files × String) Files :=
  if c.SaveCSVPath = "" then .ok fs
  else
    match o.mkdirAll with
    | some err => .error (fs, "failed to create directory " ++ L.Dir c.SaveCSVPath ++ ": " ++ err)
    | none =>
      match rotate c L o fs with
      | .error err => .error (fs, err)
      | .ok fs => append c L o fs (csvRecord c now systemprompt prompt response)

/-- The files after a call, whether it failed or not. -/
def filesOf : Except (Files × String) Files → Files
  | .ok fs => fs
  | .error (fs, _) => fs

/-! ## Files cut into pieces -/

/-- The values of a map from paths, each made a list by `f`, entry after entry. -/
def valuesBy {β γ : Type} (f : β → List γ) (m : AList fun _ : String => β) : List γ :=
  m.entries.flatMap fun s => f s.2

/-- The bytes of every file, file by file. -/
def contents (fs : Files) : List (List UInt8) := valuesBy (fun bs => [bs]) fs

section Values

variable {β γ : Type} (f : β → List γ)

theorem erase_entries (m : AList fun _ : String => β) (k : String) :
    (m.erase k).entries = m.entries.kerase k := rfl

theorem valuesBy_insert (m : AList fun _ : String => β) (k : String) (v : β) :
    valuesBy f (m.insert k v) = f v ++ valuesBy f (m.erase k) := by
  simp [valuesBy, AList.insert_entries, erase_entries]

/-- The values of a map are those of one key and of the others. -/
theorem valuesBy_erase (m : AList fun _ : String => β) (k : String) :
    (valuesBy f m).Perm (((m.lookup k).map f).getD [] ++ valuesBy f (m.erase k)) := by
  by_cases hk : k ∈ m.keys
  · obtain ⟨b, l₁, l₂, -, he, hke⟩ := List.exists_of_kerase hk
    have hl : m.lookup k = some b := AList.mem_lookup_iff.mpr (by simp [he])
    simp only [valuesBy, hl, Option.map_some', Option.getD_some, erase_entries]
    rw [hke, he]
    simp only [List.flatMap_append, List.flatMap_cons]
    exact List.perm_append_comm_assoc _ _ _
  · have hl : m.lookup k = none := AList.lookup_eq_none.mpr (AList.mem_keys.not.mpr hk)
    simp [valuesBy, hl, erase_entries, List.kerase_of_not_mem_keys hk]

end Values

/-- The bytes a file holding `old` is handed when no `Write` fails: the header when it
    is empty, then the record. -/
def appendedBytes (L : CsvLib) (old : List UInt8) (record : List String) : List UInt8 :=
  (if old.length = 0 then L.encode csvHeader else []) ++ L.encode record

/-- What a call can hand the writer: nothing when `file.Stat` fails, the header alone
    when its `Write` fails, else the header (when the file is empty) and the record. -/
def Handed (L : CsvLib) (old : List UInt8) (record : List String) (given : List UInt8) : Prop :=
  given = [] ∨ given = appendedBytes L old record ∨ (old = [] ∧ given = L.encode csvHeader)

/-- The bytes of the file `SaveCSV` writes. -/
def mainBytes (c : CsvSettings) (fs : Files) : List UInt8 := (fs.lookup c.SaveCSVPath).getD []

section Call

variable {c : CsvSettings} {L : CsvLib} {o : Os} {fs : Files}

/-- No file at `path`, or one smaller than the limit: where the loop stops. -/
def Small (c : CsvSettings) (fs : Files) (path : String) : Prop :=
  ∀ bs, fs.lookup path = some bs → (bs.length : Int) < c.MaxFileSize

/-- A file at `path` that has reached the limit: what the loop moves on from. -/
def Full (c : CsvSettings) (fs : Files) (path : String) : Prop :=
  ∃ bs, fs.lookup path = some bs ∧ c.MaxFileSize ≤ bs.length

theorem stat_eq_ok {path : String} {r : Option Nat} (h : stat o fs path = .ok r) :
    r = (fs.lookup path).map List.length := by
  unfold stat at h
  split at h <;> cases h
  rfl

/-- The loop stops at a path that is `Small`: its start, or a rotated name when its start
    is `Full`. -/
theorem probe_ok : ∀ {fuel : Nat} {path : String} {suffix : Nat} {p : String},
    probe c L o fs fuel path suffix = some (.ok p) →
      Small c fs p ∧ (p = path ∨ (∃ k, p = rotatedName L c.SaveCSVPath k) ∧ Full c fs path)
  | 0, _, _, _, h => by cases h
  | fuel + 1, path, suffix, p, h => by
    unfold probe at h
    cases hs : stat o fs path with
    | error err => simp [hs] at h
    | ok r =>
      have hr := stat_eq_ok hs
      simp only [hs] at h
      cases r with
      | none =>
        cases h
        exact ⟨fun bs hl => by simp [hl] at hr, .inl rfl⟩
      | some n =>
        dsimp only at h
        split_ifs at h with hn
        · cases h
          exact ⟨fun bs hl => by simp_all, .inl rfl⟩
        · obtain ⟨hsmall, hp⟩ := probe_ok h
          refine ⟨hsmall, .inr ⟨?_, ?_⟩⟩
          · rcases hp with rfl | ⟨hk, -⟩
            exacts [⟨suffix, rfl⟩, hk]
          · obtain ⟨bs, hl, rfl⟩ := Option.map_eq_some'.mp hr.symm
            exact ⟨bs, hl, not_lt.mp hn⟩

theorem rotation_ok {p : String} (h : rotation c L o fs = .ok p) :
    p = c.SaveCSVPath ∨
      (∃ k, p = rotatedName L c.SaveCSVPath k) ∧ Small c fs p ∧ Full c fs c.SaveCSVPath := by
  unfold rotation at h
  cases hp : probe c L o fs (fs.keys.length + 2) c.SaveCSVPath 0 with
  | none =>
    simp only [hp, Option.getD_none, Except.ok.injEq] at h
    exact .inl h.symm
  | some r =>
    simp only [hp, Option.getD_some] at h
    subst h
    obtain ⟨hs, rfl | ⟨hk, hf⟩⟩ := probe_ok hp
    exacts [.inl rfl, .inr ⟨hk, hs, hf⟩]

/-- The `Write`s hand the writer the header and the record, or, when the header's
    `Write` fails, the header alone; all of it when none fails. -/
theorem writeAll_writes (old : List UInt8) (record : List String) :
    Handed L old record (writeAll L o (writes old record)).1 ∧
    ((writeAll L o (writes old record)).2 = none →
      (writeAll L o (writes old record)).1 = appendedBytes L old record) := by
  unfold writes Handed appendedBytes
  by_cases h0 : old.length = 0
  · have hnil : old = [] := List.length_eq_zero.mp h0
    cases hw : o.write csvHeader <;> cases hw' : o.write record <;>
      simp [writeAll, h0, hnil, hw, hw']
  · cases hw' : o.write record <;> simp [writeAll, h0, hw']

/-- What the append can leave: the files as they were when the file did not open; else
    the file with what reached it after its old bytes, out of what the call handed the
    writer, that being the header (when the file was empty) and the record when the call
    returned `nil`. -/
def Appends (c : CsvSettings) (L : CsvLib) (o : Os) (fs : Files) (record : List String)
    (r : Except (Files × String) Files) : Prop :=
  (∃ err, r = .error (fs, err)) ∨
  ∃ given, Handed L (mainBytes c fs) record given ∧
    (r.toBool = true → given = appendedBytes L (mainBytes c fs) record) ∧
    filesOf r = fs.insert c.SaveCSVPath (mainBytes c fs ++ reached o given)

theorem append_spec (record : List String) : Appends c L o fs record (append c L o fs record) := by
  unfold append
  cases ho : o.openFile with
  | some err =>
    exact .inl ⟨"failed to open CSV file: " ++ err, by simp [openFile, ho, Except.mapError, bind,
      Except.bind]⟩
  | none =>
    refine .inr ?_
    simp only [openFile, ho, Except.mapError, bind, Except.bind, AList.lookup_insert,
      Option.getD_some, AList.insert_insert]
    cases hs : o.fileStat with
    | some err =>
      refine ⟨[], .inl rfl, (fun h => by cases h), ?_⟩
      simp [throw, throwThe, MonadExceptOf.throw, filesOf, reached_nil, mainBytes]
    | none =>
      obtain ⟨hg, hok⟩ := @writeAll_writes L o (mainBytes c fs) record
      refine ⟨_, hg, fun h => hok ?_, ?_⟩
      · simp only [mainBytes] at h ⊢
        split at h
        · cases h
        · assumption
      · simp only [mainBytes]
        split <;> rfl

end Call

/-! ## The rotation loop stops -/

section Stops

variable {c : CsvSettings} {L : CsvLib} {o : Os} {fs : Files} {fuel suffix : Nat} {path : String}

end Stops

section Invariants

variable {c : CsvSettings} {L : CsvLib}

/-- Every rotated file, the file itself apart, has reached the limit. -/
def RotatedFull (c : CsvSettings) (L : CsvLib) (fs : Files) : Prop :=
  ∀ k bs, rotatedName L c.SaveCSVPath k ≠ c.SaveCSVPath →
    fs.lookup (rotatedName L c.SaveCSVPath k) = some bs → c.MaxFileSize ≤ bs.length

theorem RotatedFull.empty : RotatedFull c L ∅ := fun _ _ _ h => by simp at h

end Invariants

/-! ## Runs of calls -/

/-- One call of `SaveCSV`: its system, its time and its arguments. -/
structure SaveCall where
  os : Os
  now : String
  systemprompt : String
  prompt : String
  response : String

/-- A call on the files. -/
def SaveCall.run (c : CsvSettings) (L : CsvLib) (call : SaveCall) (fs : Files) :
    Except (Files × String) Files :=
  saveCSV c L call.os call.now fs call.systemprompt call.prompt call.response

/-- The record a call writes. -/
def SaveCall.record (c : CsvSettings) (call : SaveCall) : List String :=
  csvRecord c call.now call.systemprompt call.prompt call.response

section Runs

variable {c : CsvSettings} {L : CsvLib}

end Runs

/-- A system whose calls all succeed, every byte reaching its file. -/
def quietOs : Os := ⟨none, fun _ => none, none, none, none, fun _ => none, none⟩

/-- The bytes `csv.Writer` writes for ASCII fields that need no quotes. -/
def plainBytes (r : List String) : List UInt8 :=
  (String.intercalate "," r).toList.map (fun ch => ch.toNat.toUInt8) ++ [10]

/-- `path/filepath` on a file named in the working directory, and `csv.Writer` on fields
    that need no quotes. -/
def plainLib : CsvLib where
  Dir _ := "."
  Base path := path
  Ext _ := ".csv"
  encode := plainBytes
  encode_ne_nil _ := by simp [plainBytes]

/-- The settings of the samples: `out.csv`, rotated at 100 bytes. -/
def sampleSettings : CsvSettings := ⟨"out.csv", 100, "llama3", "ollama"⟩

/-- A call that returns `nil` appended its record to the files its rotation left. -/
theorem saveCSV_of_ok {c : CsvSettings} {L : CsvLib} {o : Os} {fs : Files}
    {now systemprompt prompt response : String} (hpath : c.SaveCSVPath ≠ "")
    (hok : (saveCSV c L o now fs systemprompt prompt response).toBool = true) :
    ∃ fs₁, rotate c L o fs = .ok fs₁ ∧ saveCSV c L o now fs systemprompt prompt response =
      append c L o fs₁ (csvRecord c now systemprompt prompt response) := by
  unfold saveCSV at hok ⊢
  rw [if_neg hpath] at hok ⊢
  cases hm : o.mkdirAll with
  | some err => simp only [hm] at hok; cases hok
  | none =>
    cases hr : rotate c L o fs with
    | error err => simp only [hm, hr] at hok; cases hok
    | ok fs₁ => exact ⟨fs₁, rfl, by simp only [hm, hr]⟩

/-- A rotation whose loop stopped at another path `q` moved the file there. -/
theorem rotate_of_rotation {c : CsvSettings} {L : CsvLib} {o : Os} {fs fs₁ : Files} {q : String}
    (hq : rotation c L o fs = .ok q) (hne : q ≠ c.SaveCSVPath) (h : rotate c L o fs = .ok fs₁) :
    ∃ bs, fs.lookup c.SaveCSVPath = some bs ∧ fs₁ = (fs.erase c.SaveCSVPath).insert q bs := by
  obtain ⟨-, -, bs, hl, -⟩ := (rotation_ok hq).resolve_left hne
  simp only [rotate, hq, bind, Except.bind, ne_eq, hne, not_false_eq_true, if_true, rename, hl] at h
  cases hr : o.rename <;> simp only [hr, reduceCtorEq, Except.ok.injEq] at h
  exact ⟨bs, hl, h.symm⟩

/-- The files after the file at `p` was moved over `q` and a new one written at `p`: those
    without the file at `q`, and the new one. -/
theorem contents_move {fs : Files} {p q : String} {bs : List UInt8} (hl : fs.lookup p = some bs)
    (hne : q ≠ p) (v : List UInt8) :
    (contents (((fs.erase p).insert q bs).insert p v)).Perm (contents (fs.erase q) ++ [v]) := by
  have h1 := valuesBy_erase (fun bs => [bs]) ((fs.erase p).insert q bs) p
  have h2 := valuesBy_erase (fun bs => [bs]) (fs.erase q) p
  simp only [AList.lookup_insert_ne (Ne.symm hne), AList.lookup_erase, Option.map_none',
    Option.getD_none, List.nil_append, valuesBy_insert] at h1
  rw [AList.lookup_erase_ne (Ne.symm hne), hl, AList.erase_erase] at h2
  rw [contents, valuesBy_insert]
  exact List.perm_append_comm.trans ((h1.symm.trans h2.symm).append_right _)

/-- A call that returns `nil` after its loop stopped at a rotated name `q` loses the
    bytes the file at `q` held: the files end as the files without it, and a new file
    holding what reached it of the header and the record, all of it when the flush
    wrote everything. Under `RotatedFull` nothing is at `q`. -/
theorem saveCSV_overwrites {c : CsvSettings} {L : CsvLib} {o : Os} {fs : Files}
    {now systemprompt prompt response : String} (hpath : c.SaveCSVPath ≠ "") {q : String}
    (hq : rotation c L o fs = .ok q) (hne : q ≠ c.SaveCSVPath)
    (hok : (saveCSV c L o now fs systemprompt prompt response).toBool = true) :
    ∃ added, added <+: L.encode csvHeader ++ L.encode (csvRecord c now systemprompt prompt response) ∧
      (o.flushed = none →
        added = L.encode csvHeader ++ L.encode (csvRecord c now systemprompt prompt response)) ∧
      (contents (filesOf (saveCSV c L o now fs systemprompt prompt response))).Perm
        (contents (fs.erase q) ++ [added]) := by
  obtain ⟨fs₁, hrot, heq⟩ := saveCSV_of_ok hpath hok
  obtain ⟨bs, hl, rfl⟩ := rotate_of_rotation hq hne hrot
  have hm1 : mainBytes c ((fs.erase c.SaveCSVPath).insert q bs) = [] := by
    rw [mainBytes, AList.lookup_insert_ne (Ne.symm hne), AList.lookup_erase, Option.getD_none]
  rw [heq] at hok ⊢
  rcases @append_spec c L o _ (csvRecord c now systemprompt prompt response) with
    ⟨err, h⟩ | ⟨given, -, hg, hfiles⟩
  · rw [h] at hok
    cases hok
  · have hgiven : given =
        L.encode csvHeader ++ L.encode (csvRecord c now systemprompt prompt response) := by
      simpa [appendedBytes, hm1] using hg hok
    refine ⟨reached o given, hgiven ▸ reached_prefix_self o given, fun hfl => by rw [reached, hfl, hgiven],
      ?_⟩
    rw [hfiles, hm1, List.nil_append]
    exact contents_move hl hne _

/-- Files after `max_csv_size` was raised to 100: the rotated `out.0.csv`, written under
    the old limit, is smaller than the new one, and `out.csv` has reached it. -/
def raisedLimitFiles : Files :=
  ((∅ : Files).insert "out.0.csv"
      ([csvHeader, ["t0", "llama3", "s", "p0", "r0", "ollama"]].flatMap plainBytes)).insert
    "out.csv" ((csvHeader :: List.replicate 4 ["t", "llama3", "s", "p", "r", "ollama"]).flatMap plainBytes)

set_option maxRecDepth 4000 in
/-- On `raisedLimitFiles`, which `RotatedFull` does not hold of, a call that returns `nil`
    stops its loop at `out.0.csv` and renames `out.csv` over it: the record `out.0.csv`
    held is in no file after. -/
theorem saveCSV_overwrites_raised_limit :
    ¬ RotatedFull sampleSettings plainLib raisedLimitFiles ∧
      sampleSettings.SaveCSVPath ≠ "" ∧
      rotation sampleSettings plainLib quietOs raisedLimitFiles = .ok "out.0.csv" ∧
      "out.0.csv" ≠ sampleSettings.SaveCSVPath ∧
      (saveCSV sampleSettings plainLib quietOs "t1" raisedLimitFiles "s" "p1" "r1").toBool = true ∧
      (∃ added, added <+: plainLib.encode csvHeader ++
          plainLib.encode (csvRecord sampleSettings "t1" "s" "p1" "r1") ∧
        (quietOs.flushed = none → added = plainLib.encode csvHeader ++
          plainLib.encode (csvRecord sampleSettings "t1" "s" "p1" "r1")) ∧
        (contents (filesOf (saveCSV sampleSettings plainLib quietOs "t1" raisedLimitFiles
          "s" "p1" "r1"))).Perm (contents (raisedLimitFiles.erase "out.0.csv") ++ [added])) ∧
      (∃ bs ∈ contents raisedLimitFiles,
        plainBytes ["t0", "llama3", "s", "p0", "r0", "ollama"] <:+: bs) ∧
      ∀ bs ∈ contents (filesOf (saveCSV sampleSettings plainLib quietOs "t1" raisedLimitFiles
          "s" "p1" "r1")), ¬ plainBytes ["t0", "llama3", "s", "p0", "r0", "ollama"] <:+: bs :=
  ⟨fun h => absurd (h 0 ([csvHeader, ["t0", "llama3", "s", "p0", "r0", "ollama"]].flatMap plainBytes)
      (by decide) (by decide)) (by decide), by decide, rfl, by decide, by decide,
    saveCSV_overwrites (by decide) rfl (by decide) (by decide), by decide, by decide⟩

/-! ## The files read back by the exporter -/

/-- A file as `SaveCSV` writes it when every byte reaches it: empty, or the header then
    records of six fields. -/
def WellFormed (L : CsvLib) (bs : List UInt8) : Prop :=
  bs = [] ∨ ∃ rs, bs = (csvHeader :: rs).flatMap L.encode ∧ ∀ r ∈ rs, r.length = 6

/-- The file's own path, or one of its rotated names. -/
def LogPath (c : CsvSettings) (L : CsvLib) (path : String) : Prop :=
  path = c.SaveCSVPath ∨ ∃ k, path = rotatedName L c.SaveCSVPath k

/-- Every file at a `LogPath` is `WellFormed`. -/
def Shaped (c : CsvSettings) (L : CsvLib) (fs : Files) : Prop :=
  ∀ path bs, LogPath c L path → fs.lookup path = some bs → WellFormed L bs

section Shape

variable {c : CsvSettings} {L : CsvLib}

theorem Shaped.empty : Shaped c L ∅ := fun _ _ _ h => by simp at h

/-- What a call hands the writer keeps a file `WellFormed`: the header goes to an empty
    file only. -/
theorem WellFormed.append {old given : List UInt8} {record : List String}
    (hold : WellFormed L old) (hg : Handed L old record given) (hr : record.length = 6) :
    WellFormed L (old ++ given) := by
  rcases hg with rfl | rfl | ⟨rfl, rfl⟩
  · simpa using hold
  · rcases hold with rfl | ⟨rs, rfl, hrs⟩
    · exact .inr ⟨[record], by simp [appendedBytes], by simpa using hr⟩
    · refine .inr ⟨rs ++ [record], by simp [appendedBytes, L.encode_ne_nil], fun r hr' => ?_⟩
      rcases List.mem_append.mp hr' with hr' | hr'
      · exact hrs r hr'
      · simp_all
  · exact .inr ⟨[], by simp, by simp⟩

end Shape

end Neptunus.Processors.Llm
