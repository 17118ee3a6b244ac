import RunConditions.Error
import RunConditions.Files
import RunConditions.Embedded
import RunConditions.Xml.Attribute
import RunConditions.Xml.Document

/-!
# The configuration of tables and converters

A configuration is written as XML. Inside a `tables` element each `table` has
a name and a key, an object and a collection class among its `classes`, and
its columns among its `fields`. Inside a `converters` element each `converter`
names a class. Elements count by their own name and that of the element around
them, and everything else is passed over. A table is complete when any element
called `table` ends.
-/

set_option autoImplicit false

namespace RunConditions

structure TableDescriptor where
  name : String
  key : String
  objectType : String
  collectionType : String
  fields : List String
  deriving DecidableEq, Repr

structure Config where
  tables : List TableDescriptor
  converters : List String
  deriving DecidableEq, Repr

namespace Config

structure PartialTable where
  name : String
  key : String
  objectType : Option String := none
  collectionType : Option String := none
  fields : List String := []

def PartialTable.finish (t : PartialTable) : Except Error TableDescriptor :=
  match t.objectType, t.collectionType with
  | none, _ => .error (.configuration (.noClass t.name .object))
  | _, none => .error (.configuration (.noClass t.name .collection))
  | some objectType, some collectionType =>
    .ok { name := t.name, key := t.key, objectType, collectionType, fields := t.fields }

/-- What has been read so far. The open elements are listed from the inside. -/
structure Draft where
  path : List String := []
  tables : Option (List TableDescriptor) := none
  converters : Option (List String) := none
  table : Option PartialTable := none

def requiredAttribute (tag : Xml.Tag) (element name : String) : Except Error String :=
  match tag.attribute? name with
  | .error fault => .error (.configuration (.badAttribute fault))
  | .ok none => .error (.configuration (.missingAttribute element name))
  | .ok (some raw) =>
    match Xml.unescape raw with
    | .error fault => .error (.configuration (.badAttributeValue name fault))
    | .ok value => .ok (String.ofList value)

namespace Draft

def inTable (d : Draft) (element : String) (change : PartialTable → PartialTable) :
    Except Error Draft :=
  match d.table with
  | none => .error (.configuration (.outsideTable element))
  | some t => .ok { d with table := some (change t) }

def start (d : Draft) (tag : Xml.Tag) : Except Error Draft :=
  match d.path.head?, tag.name with
  | _, "tables" => .ok { d with tables := some (d.tables.getD []) }
  | some "tables", "table" => do
    let name ← requiredAttribute tag "table" "name"
    let key ← requiredAttribute tag "table" "key"
    return { d with table := some { name, key } }
  | some "classes", "object" => do
    let value ← requiredAttribute tag "object" "class"
    d.inTable "object" fun t => { t with objectType := some value }
  | some "classes", "collection" => do
    let value ← requiredAttribute tag "collection" "class"
    d.inTable "collection" fun t => { t with collectionType := some value }
  | some "fields", "field" => do
    let value ← requiredAttribute tag "field" "name"
    d.inTable "field" fun t => { t with fields := t.fields ++ [value] }
  | _, "converters" => .ok { d with converters := some (d.converters.getD []) }
  | some "converters", "converter" => do
    let value ← requiredAttribute tag "converter" "class"
    return { d with converters := some (d.converters.getD [] ++ [value]) }
  | _, _ => .ok d

def finish (d : Draft) (element : String) : Except Error Draft :=
  match element, d.table with
  | "table", some t => do
    let table ← t.finish
    return { d with tables := some (d.tables.getD [] ++ [table]), table := none }
  | _, _ => .ok d

def read (d : Draft) : Xml.Token → Except Error Draft
  | .opening tag => do
    let d ← d.start tag
    return { d with path := tag.name :: d.path }
  | .empty tag => do
    let d ← d.start tag
    d.finish tag.name
  | .closing name =>
    match d.path with
    | [] => .error (.xml (.unmatchedClose name))
    | element :: path =>
      if element = name then do
        let d ← d.finish name
        return { d with path }
      else .error (.xml (.mismatchedClose element name))

def config (d : Draft) : Except Error Config :=
  match d.tables, d.converters with
  | none, _ => .error (.configuration (.noSection "tables"))
  | _, none => .error (.configuration (.noSection "converters"))
  | some tables, some converters => .ok { tables, converters }

end Draft

/-- Reads the tokens of a document, and then the fault that ends them. -/
def ofTokens (tokens : List Xml.Token) (fault : Option Xml.Fault) : Except Error Config := do
  let draft ← tokens.foldlM Draft.read {}
  match fault with
  | some fault => .error (.xml fault)
  | none => draft.config

def ofText (text : String) : Except Error Config :=
  let (tokens, fault) := Xml.tokens (Xml.dropMark text.toList)
  ofTokens tokens fault

def ofFile (files : Files) (path : String) : Except Error Config := do
  ofText (← files.read path (.noConfigurationFile path))

def ofResource (name : String) : Except Error Config :=
  match Embedded.find? name with
  | some text => ofText text
  | none => .error (.resource (.noEmbedded name))

end Config
end RunConditions
