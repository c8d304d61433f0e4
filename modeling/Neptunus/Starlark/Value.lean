import Neptunus.Core.Event

/-!
  Neptunus.Starlark.Value

  The Starlark values the starlark plugins exchange with scripts: the builtin types
  of `go.starlark.net` the bindings convert, the `time` module's `Time` and
  `Duration`, and the two types the plugins add, events and errors.

  A `*starlark.Dict` is the list of its entries in insertion order. `None` is
  `starlark.None`, of the value type `NoneType`; `nonePtr` is a
  `*starlark.NoneType`, a type no script value has, kept because `unpack`'s type
  switch names it.
-/

namespace Neptunus.Starlark

open Neptunus.Go Neptunus.Core

/-- A Starlark value, by its dynamic Go type. `other` is any value of a type not
    listed (tuple, struct, function, ...), named by its `Type()`. -/
inductive StarValue where
  | string (s : String)
  | bool (b : Bool)
  | int (i : Int)
  | float (f : GoFloat)
  | time (t : Instant)
  | duration (d : BitVec 64)
  | none
  | nonePtr
  | list (xs : List StarValue)
  | dict (kvs : List (StarValue × StarValue))
  | event (e : Event)
  | error (msg : String)
  | other (type : String)

/-- `Type()`: the builtin names of `go.starlark.net` and its `time` module; `event`
    and `error` are the names the plugin's own types report. -/
def StarValue.type : StarValue → String
  | .string _ => "string"
  | .bool _ => "bool"
  | .int _ => "int"
  | .float _ => "float"
  | .time _ => "time.time"
  | .duration _ => "time.duration"
  | .none | .nonePtr => "NoneType"
  | .list _ => "list"
  | .dict _ => "dict"
  | .event _ => "event"
  | .error _ => "error"
  | .other t => t

end Neptunus.Starlark
