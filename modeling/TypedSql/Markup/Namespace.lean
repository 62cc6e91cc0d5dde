import TypedSql.Markup.CharacterData
import TypedSql.Markup.Token

/-!
# Namespaces

Attributes that declare namespaces, and the names of all other attributes with
their namespaces in place of their qualifiers.  A declaration holds for its
element and for everything in it that does not declare the same qualifier.
-/

namespace TypedSql
namespace Markup

/-- The qualifier that attributes may use without a declaration.  It cannot be
bound to anything but its own namespace, and elements cannot use it. -/
def xmlQualifier : String := "xml"

/-- The namespace of the qualifier `xml`. -/
def xmlNamespace : String :=
  "http://www.w3.org/XML/1998/namespace"

/-- The namespace of declarations, which nothing may be bound to. -/
def declarationNamespace : String :=
  "http://www.w3.org/2000/xmlns/"

/-- The word that marks a declaration. -/
def declarationWord : String := "xmlns"

/-- The declared namespaces by qualifier, the innermost first.  The empty
qualifier stands for the default namespace. -/
abbrev Bindings : Type :=
  List (String × String)

/-- The namespace of a qualifier. -/
def Bindings.namespaceOf (bindings : Bindings) (qualifier : String) :
    Except Error String :=
  match bindings.lookup qualifier with
  | some found => .ok found
  | none => .error .unknownNamespace

/-- An attribute of an element. -/
structure Attribute where
  /-- The namespace of a qualified name. -/
  space : Option String
  localName : String
  value : String
  deriving DecidableEq, Repr

/-- Bind a qualifier within one tag, given what the tag has bound so far.  The
declaration of `xml` changes nothing. -/
def bindQualifier (own : Bindings) (qualifier value : String) :
    Except Error Bindings :=
  if value = declarationNamespace then
    .error .reservedNamespace
  else if (qualifier == xmlQualifier) != (value == xmlNamespace) then
    .error .reservedNamespace
  else if (own.lookup qualifier).isSome then
    .error .repeatedNamespace
  else if value = xmlNamespace then
    .ok own
  else
    .ok (own ++ [(qualifier, value)])

/-- Bind the default namespace within one tag. -/
def bindDefault (own : Bindings) (value : String) : Except Error Bindings :=
  if value = xmlNamespace ∨ value = declarationNamespace then
    .error .reservedNamespace
  else
    .ok (own ++ [("", value)])

/-- The namespaces that the attributes of a tag declare. -/
def ownBindings (own : Bindings) :
    List (QName × String) → Except Error Bindings
  | [] => .ok own
  | (name, value) :: rest =>
    if name.qualifier = declarationWord then do
      ownBindings (← bindQualifier own name.localName value) rest
    else if name.localName = declarationWord then do
      ownBindings (← bindDefault own value) rest
    else
      ownBindings own rest

/-- Whether an attribute declares a namespace. -/
def isDeclaration (name : QName) : Bool :=
  name.qualifier == declarationWord || name.localName == declarationWord

/-- An attribute with the namespace of its qualifier.  Without a qualifier it
has none. -/
def resolveAttribute
    (bindings : Bindings)
    (name : QName)
    (value : String) :
    Except Error Attribute :=
  if name.qualifier.isEmpty then
    .ok ⟨none, name.localName, value⟩
  else if name.qualifier = xmlQualifier then
    .ok ⟨some xmlNamespace, name.localName, value⟩
  else do
    let space ← bindings.namespaceOf name.qualifier
    pure ⟨some space, name.localName, value⟩

/-- Resolve the attributes of a tag, which must have different names.
`before` holds those resolved already. -/
def resolveAttributes
    (bindings : Bindings)
    (before : List Attribute) :
    List (QName × String) → Except Error (List Attribute)
  | [] => .ok before.reverse
  | (name, value) :: rest =>
    if isDeclaration name then
      resolveAttributes bindings before rest
    else do
      let found ← resolveAttribute bindings name value
      if before.any fun other =>
          other.space == found.space && other.localName == found.localName then
        .error .repeatedAttribute
      else
        resolveAttributes bindings (found :: before) rest

/-- The qualifier of an element has to be bound. -/
def checkElementName (bindings : Bindings) (name : QName) :
    Except Error Unit :=
  if name.qualifier = declarationWord then
    .error .reservedNamespace
  else if name.qualifier.isEmpty then
    .ok ()
  else do
    let _ ← bindings.namespaceOf name.qualifier
    pure ()

/-- The attributes of a tag, and what is bound in its element. -/
def resolveTag
    (outer : Bindings)
    (name : QName)
    (written : List RawAttribute) :
    Except Error (List Attribute × Bindings) := do
  let values ← written.mapM fun raw => do
    let value ← valueContent raw.value
    pure (raw.name, value)
  let own ← ownBindings [] values
  let bindings := own ++ outer
  checkElementName bindings name
  let attributes ← resolveAttributes bindings [] values
  pure (attributes, bindings)

end Markup
end TypedSql
