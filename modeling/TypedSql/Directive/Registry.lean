import Std.Data.TreeMap
import TypedSql.Directive.Builtin

/-!
# Directive registry

Kinds of directives by tag.  Registering a tag again takes the place of what
was registered before.
-/

namespace TypedSql
namespace Directive

/-- The directives that templates may use. -/
structure Registry where
  kinds : Std.TreeMap String Kind

namespace Registry

/-- No directives; templates can only hold text. -/
def empty : Registry :=
  ⟨∅⟩

/-- Register a kind of directive under some tags. -/
def register (registry : Registry) (tags : List String) (kind : Kind) :
    Registry :=
  ⟨tags.foldl (fun kinds tag => kinds.insert tag kind) registry.kinds⟩

/-- The built-in directives. -/
def builtin : Registry :=
  empty
    |>.register ["replace"] replacement
    |>.register ["arg"] argument
    |>.register ["wc"] wildcard

/-- The kind of directive that a tag stands for. -/
def kind? (registry : Registry) (tag : String) : Option Kind :=
  registry.kinds[tag]?

/-- Whether a tag stands for a directive. -/
def contains (registry : Registry) (tag : String) : Bool :=
  registry.kinds.contains tag

/-- The registered tags in ascending order. -/
def tags (registry : Registry) : List String :=
  registry.kinds.keys

/-- The registered tags, as they are shown in reports. -/
def summary (registry : Registry) : String :=
  "DirectiveRegistry \x7b tags: " ++ Text.quotedList registry.tags ++ " \x7d"

end Registry
end Directive
end TypedSql
