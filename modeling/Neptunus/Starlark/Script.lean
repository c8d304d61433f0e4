import Neptunus.Starlark.Value

/-!
  Neptunus.Starlark.Script

  How the starlark plugins load their script (`common/starlark/starlark.go`):
  `Starlark.Init` takes the script from `code`, or else reads it from `file`, compiles
  it and runs its top level; `Starlark.Func` looks a function up among the globals.

  The interpreter and the file system are parameters (`Interp`): `os.ReadFile`,
  `starlark.SourceProgram` and `program.Init`, each giving its result or its error's
  text. The thread's `Load` (the `math.star`, `time.star` and `json.star` modules and
  files loaded by name) runs inside `program.Init` and is part of that parameter.

  Verdicts. Inline code wins: when `code` is set the file is never read, whatever it
  names, and the script is compiled under the name `<alias>.star`
  (`init_code_never_reads`). The starlark processor's `Init` repeats these steps and
  then looks `process` up itself; it fails and succeeds exactly as the common `Init`
  followed by `Func("process")`, and differs from it in one error text
  (`Processors.Starlark.init_eq_func`, in the processor's module).
-/

set_option linter.dupNamespace false

namespace Neptunus.Starlark

open Neptunus.Core

/-- What the starlark plugins take from the file system and `go.starlark.net`;
    `Program` is a compiled `*starlark.Program`. -/
structure Interp (Program : Type) where
  /-- `os.ReadFile(name)`. -/
  readFile : String → Except String String
  /-- `starlark.SourceProgram(filename, src, builtins.Has)`. -/
  sourceProgram : String → String → Except String Program
  /-- `program.Init(thread, builtins)`: the script's globals. -/
  init : Program → Except String (List (String × StarValue))

/-- A loaded script: its name, its text and its globals. -/
structure Script where
  file : String
  code : String
  globals : List (String × StarValue)

/-- The type assertion `stVal.(*starlark.Function)`: a function defined by the script,
    whose `Type()` is `function`. -/
def isFunction : StarValue → Bool
  | .other "function" => true
  | _ => false

variable {Program : Type}

/-- The start of `Init` up to `SCRIPT_LOADED`: the script's name and text. -/
def loadScript (readFile : String → Except String String) (aliasName code file : String) :
    Except String (String × String) :=
  if code = "" ∧ file = "" then .error "code or file required"
  else if code ≠ "" then .ok (aliasName ++ ".star", code)
  else
    match readFile file with
    | .ok script => .ok (file, script)
    | .error err => .error ("failed to load " ++ file ++ " script: " ++ err)

/-- The end of `Init`: compile the script and run its top level. -/
def compileScript (I : Interp Program) (file code : String) : Except String Script := do
  let program ← (I.sourceProgram file code).mapError ("compilation failed: " ++ ·)
  let globals ← (I.init program).mapError ("initialization failed: " ++ ·)
  pure ⟨file, code, globals⟩

/-- `(*Starlark).Init(alias, log)` for a plugin configured with `code` and `file`. -/
def Starlark.init (I : Interp Program) (aliasName code file : String) : Except String Script := do
  let (file, code) ← loadScript I.readFile aliasName code file
  compileScript I file code

/-- `(*Starlark).Func(name)`. -/
def Starlark.func (s : Script) (name : String) : Except String StarValue :=
  match lookup name s.globals with
  | none => .error (name ++ " function not found in starlark script")
  | some stVal => if isFunction stVal then .ok stVal else .error (name ++ " is not a function")

/-- With inline code the file is never read: `Init` is the same whatever `os.ReadFile`
    returns, and compiles the code under the name `<alias>.star`. -/
theorem init_code_never_reads (I : Interp Program) (readFile : String → Except String String)
    (aliasName code file : String) (h : code ≠ "") :
    Starlark.init I aliasName code file = Starlark.init { I with readFile := readFile } aliasName code file ∧
      Starlark.init I aliasName code file = compileScript I (aliasName ++ ".star") code := by
  simp [Starlark.init, loadScript, h, compileScript, bind, Except.bind]

/-- Without code, `Init` reads the named file and compiles its text under that name. -/
theorem init_reads_file (I : Interp Program) (aliasName file : String) (h : file ≠ "") :
    Starlark.init I aliasName "" file =
      match I.readFile file with
      | .ok script => compileScript I file script
      | .error err => .error ("failed to load " ++ file ++ " script: " ++ err) := by
  simp only [Starlark.init, loadScript, h, and_false, if_false, ne_eq, not_true_eq_false]
  cases I.readFile file <;> rfl

end Neptunus.Starlark
