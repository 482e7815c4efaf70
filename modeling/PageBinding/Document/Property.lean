import PageBinding.Document.Basic
import PageBinding.Value.Convert

/-!
The properties of elements. Some reflect the markup; any other is remembered as it was set.
-/
namespace PageBinding

def reflectedTexts : List (String × String) :=
  [("title", "title"), ("value", "value"), ("name", "name"), ("type", "type"), ("href", "href"),
    ("src", "src"), ("alt", "alt"), ("lang", "lang"), ("dir", "dir"),
    ("placeholder", "placeholder"), ("htmlFor", "for")]

def reflectedFlags : List (String × String) :=
  [("disabled", "disabled"), ("checked", "checked"), ("selected", "selected"),
    ("hidden", "hidden"), ("readOnly", "readonly"), ("required", "required"),
    ("multiple", "multiple")]

/-- The properties that are written to the markup, as texts. -/
def markupProperties : List String :=
  ["id", "className", "textContent"]

namespace Document

def reflected? (d : Document) (e : ElementRef) (name : String) : Option Value :=
  match reflectedTexts.lookup name with
  | some key => some (.ofRaw ((d.attr? e key).getD ""))
  | none =>
      match reflectedFlags.lookup name with
      | some key => some (.bool (d.attr? e key).isSome)
      | none =>
          if name = "id" then some (.ofRaw ((d.attr? e "id").getD ""))
          else if name = "className" then some (.ofRaw ((d.attr? e "class").getD ""))
          else if name = "tagName" then some (.string e.tagName)
          else if name = "textContent" then some (.ofRaw (d.content e))
          else none

def property? (d : Document) (e : ElementRef) (name : String) : Option Value :=
  (d.properties.lookup (e.index, name)).or (d.reflected? e name)

/-- The document with a property written to the markup. -/
def setReflected (d : Document) (e : ElementRef) (name : String) (text : RawText) : Document :=
  if name = "id" then d.setAttr e "id" text
  else if name = "className" then d.setAttr e "class" text
  else d.setContent e text

def remember (d : Document) (e : ElementRef) (name : String) (value : Value) : Document :=
  { d with properties := ((e.index, name), value) :: d.properties }

end Document

end PageBinding
