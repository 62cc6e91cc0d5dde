import Std.Data.TreeMap
import TypedSql.CanonicalType
import TypedSql.Json.Basic

/-!
# Type maps

A type map binds canonical types to the types of a target language.  It is
built from names, all of which have to be those of canonical types, and it has
to cover every type that a driver can produce.
-/

namespace TypedSql

/-- Target types by canonical type. -/
structure TypeMap where
  entries : Std.TreeMap CanonicalType String

namespace TypeMap

/-- Why names and targets do not make a type map. -/
inductive Error where
  | unknownType (unknown : UnknownCanonicalType)
  | incomplete (missing : List CanonicalType)
  deriving DecidableEq, Repr

/-- The defect in words. -/
def Error.message : Error → String
  | unknownType unknown => unknown.message
  | incomplete missing =>
    "Type map does not cover " ++ ", ".intercalate (missing.map (·.name))

/-- The target of a type. -/
def get? (map : TypeMap) (type : CanonicalType) : Option String :=
  map.entries[type]?

/-- The number of mapped types. -/
def size (map : TypeMap) : Nat :=
  map.entries.size

/-- Whether no type is mapped. -/
def isEmpty (map : TypeMap) : Bool :=
  map.entries.isEmpty

/-- Read the names of some pairs; the first unknown one is an error. -/
def readNames :
    List (String × String) →
    Except UnknownCanonicalType (List (CanonicalType × String))
  | [] => .ok []
  | (name, target) :: rest => do
    let type ← CanonicalType.parse name
    let entries ← readNames rest
    pure ((type, target) :: entries)

/-- Collect entries by their types. -/
def ofEntries (entries : List (CanonicalType × String)) : TypeMap :=
  ⟨entries.foldl (fun map (type, target) => map.insert type target) ∅⟩

/-- The types that a map does not cover, in the order in which they are
wanted. -/
def missing (map : TypeMap) (wanted : List CanonicalType) :
    List CanonicalType :=
  wanted.filter fun type => (map.get? type).isNone

/-- Build a type map from targets by name, and check that it covers all types
that are wanted. -/
def build
    (raw : Std.TreeMap String String)
    (wanted : List CanonicalType) :
    Except Error TypeMap :=
  match readNames raw.toList with
  | .error unknown => .error (.unknownType unknown)
  | .ok entries =>
    let map := ofEntries entries
    if (map.missing wanted).isEmpty then
      .ok map
    else
      .error (.incomplete (map.missing wanted))

/-- The targets by the names of their types, in the order of the types. -/
def toJson (map : TypeMap) : Json :=
  .object
    (map.entries.toList.map fun (type, target) => (type.name, .text target))

end TypeMap
end TypedSql
