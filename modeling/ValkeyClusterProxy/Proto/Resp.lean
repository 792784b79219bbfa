import Mathlib.Data.List.Basic

/-!
# RESP values, commands and errors

The proxy reads and writes the Valkey serialization protocol (RESP) through its `proto`
package, whose byte-level codec lies outside the modelled sources.  This module keeps what
the proxy's own code inspects: the five reply types with their strings and elements, the
wire encoding `Raw()` of a reply, the argument list of a client command, and the text of a
Go `error`.

Byte strings are lists of characters, so that every equality on them is decidable and
concrete replies can be evaluated.
-/

namespace ValkeyClusterProxy.Proto

/-- Go `string` and `[]byte` values. -/
abbrev Bytes := List Char

/-- A `host:port` endpoint; identity is the literal string. -/
abbrev Endpoint := Bytes

/-- The carriage return and line feed that end every RESP line. -/
def crlf : Bytes := ['\r', '\n']

/-- A RESP value, `proto.Data` in the source.  The null bulk string and the null array are
separate constructors, so that `IsNil` needs no field of its own. -/
inductive Data where
  | simpleString (string : Bytes)
  | error (string : Bytes)
  | integer (integer : Int)
  | bulkString (string : Bytes)
  | nullBulkString
  | array (items : List Data)
  | nullArray
  deriving Repr

namespace Data

/-- The `String` field: the text of a simple string, an error or a bulk string, and empty
for every other type, as Go's zero value. -/
def string : Data → Bytes
  | .simpleString text | .error text | .bulkString text => text
  | _ => []

/-- The `Array` field: the elements of a non-null array, and empty otherwise. -/
def arrayItems : Data → List Data
  | .array items => items
  | _ => []

mutual

/-- `Raw()` of an object holding the value: its RESP encoding. -/
def raw : Data → Bytes
  | .simpleString text => '+' :: text ++ crlf
  | .error text => '-' :: text ++ crlf
  | .integer value => ':' :: (toString value).toList ++ crlf
  | .bulkString text => '$' :: (toString text.length).toList ++ crlf ++ text ++ crlf
  | .nullBulkString => ['$', '-', '1'] ++ crlf
  | .array items => '*' :: (toString items.length).toList ++ crlf ++ rawItems items
  | .nullArray => ['*', '-', '1'] ++ crlf

/-- The encodings of array elements, one after the other. -/
def rawItems : List Data → Bytes
  | [] => []
  | item :: items => raw item ++ rawItems items

end

@[simp] theorem raw_error (text : Bytes) : (error text).raw = '-' :: text ++ crlf := by
  simp [raw]

/-- Only an error reply starts with the error type byte `-`, which `handleResp` tests. -/
theorem head_raw_eq_minus_iff (data : Data) :
    data.raw.head? = some '-' ↔ ∃ text, data = .error text := by
  cases data <;> simp [raw]

end Data

/-- Objects read from a backend or built by `NewObjectFromData`: the proxy handles every
reply as the value it encodes. -/
abbrev Object := Data

/-- A client command, `resp.Command`, with its name (`Args[0]`, upper-cased by the reader)
kept apart from the other arguments, so that `Name()` is total. -/
structure Command where
  name : Bytes
  rest : List Bytes
  deriving DecidableEq, Repr

namespace Command

/-- `Args`: the name followed by the other arguments. -/
def args (cmd : Command) : List Bytes := cmd.name :: cmd.rest

@[simp] theorem length_args (cmd : Command) : cmd.args.length = cmd.rest.length + 1 := rfl

/-- `Value(i)`, the `i`-th argument.  `resp.Command` is not among the sources: this stands
for its `Value`, assumed to give the empty string when there is no such argument. -/
def value (cmd : Command) (i : Nat) : Bytes := cmd.args.getD i []

/-- `Format()`, the bytes of the command on the wire.  `resp.Command` is not among the
sources: this stands for its `Format`, assumed to be the protocol's form of a request, an
array of bulk strings. -/
def format (cmd : Command) : Bytes := (Data.array (cmd.args.map .bulkString)).raw

/-- A formatted command is a RESP array: it starts with `*`. -/
@[simp] theorem head_format (cmd : Command) : cmd.format.head? = some '*' := rfl

end Command

/-- A Go `error` value, known by the text of `Error()`. -/
structure GoError where
  text : Bytes
  deriving DecidableEq, Repr

/-- How a goroutine stops the whole process: `panic(...)`, an index out of range, or
`glog.Fatalf`.  The model's functions return it as the error of an `Except`. -/
inductive Abort where
  | panic (message : Bytes)
  | fatal (message : Bytes)
  deriving DecidableEq, Repr

/-- The runtime panic of a nil pointer dereference. -/
def Abort.nilDereference : Abort := .panic "invalid memory address or nil pointer dereference".toList

/-- The runtime panic of an index past the end of a slice. -/
def Abort.indexOutOfRange (index length : Nat) : Abort :=
  .panic ("runtime error: index out of range [".toList ++ (toString index).toList ++
    "] with length ".toList ++ (toString length).toList)

end ValkeyClusterProxy.Proto
