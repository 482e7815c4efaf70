import PageBinding.Selector.Basic
import PageBinding.Document.Place
import PageBinding.Pattern.Match
import PageBinding.Text.Basic
import PageBinding.Text.Fold
import PageBinding.Text.Blank

/-!
Which elements a selector matches.
-/
namespace PageBinding

namespace Label

def someAttr (label : Label) (key : RawText) (p : RawText → Bool) : Bool :=
  label.attrs.any fun a => .chars a.key == key && p a.value

def hasAttr (label : Label) (key : RawText) : Bool :=
  label.someAttr key fun _ => true

end Label

namespace AttrTest

def sameText (ignoreCase : Bool) (s t : RawText) : Bool :=
  if ignoreCase then Text.sameFolded s.toText t.toText else s == t

def isWordBreak (c : Char) : Bool :=
  c == ' ' || c == '\t' || c == '\r' || c == '\n' || c == '\x0c'

def attrWords : List Char → List Char → List (List Char)
  | [], current => if current.isEmpty then [] else [current.reverse]
  | c :: cs, current =>
      if isWordBreak c then current.reverse :: attrWords cs [] else attrWords cs (c :: current)

def includesWord (ignoreCase : Bool) (value s : RawText) : Bool :=
  (attrWords s.byteChars []).any fun cs => sameText ignoreCase (.ofByteChars cs) value

/-- Whether a text is another or starts with it and a hyphen. Where it starts is counted in bytes. -/
def dashed (ignoreCase : Bool) (value s : RawText) : Bool :=
  sameText ignoreCase s value ||
    (sameText ignoreCase (.ofByteChars (s.byteChars.take value.size)) value &&
      s.byteChars[value.size]? == some '-')

def unlessBlank (ignoreCase : Bool) (p : List UInt8 → List UInt8 → Bool) (value s : RawText) :
    Bool :=
  if (Text.trimBlank s.toText.toList).isEmpty then false
  else if ignoreCase then
    p (Text.toBytes (Text.lower value.toText)) (Text.toBytes (Text.lower s.toText))
  else p value.toBytes s.toBytes

def passes (test : AttrTest) (key value : RawText) (ignoreCase : Bool) (label : Label) : Bool :=
  match test with
  | present => label.hasAttr key
  | equal => label.someAttr key fun s => sameText ignoreCase s value
  | notEqual => !label.someAttr key fun s => sameText ignoreCase s value
  | word => label.someAttr key (includesWord ignoreCase value)
  | dash => label.someAttr key (dashed ignoreCase value)
  | start => label.someAttr key (unlessBlank ignoreCase List.isPrefixOf value)
  | tail => label.someAttr key (unlessBlank ignoreCase List.isSuffixOf value)
  | part => label.someAttr key (unlessBlank ignoreCase Text.contains value)

end AttrTest

namespace Place

def name (p : Place) : String :=
  if p.label.kind = .element then p.label.name else ""

def isElement (p : Place) : Bool :=
  p.label.kind = .element

def isTag (p : Place) (test : Label → Bool) : Bool :=
  p.isElement && test p.label

def counts (name : Option String) (n : Node) : Bool :=
  n.kind = .element && name.all (· == n.label.name)

def position (p : Place) (last ofType : Bool) : Nat :=
  let name := if ofType then some p.name else none
  ((if last then p.level.after else p.level.before).filter (counts name)).length + 1

def onLine (a b i : Int) : Bool :=
  if a = 0 then i == b else Int.tmod (i - b) a == 0 && Int.tdiv (i - b) a ≥ 0

def isEmpty (p : Place) : Bool :=
  p.children.all fun n =>
    match n.kind with
    | .element => false
    | .text => (Text.trimBlank n.label.text.toText.toList).isEmpty
    | _ => true

def ownText (p : Place) : RawText :=
  ((p.children.filter (·.kind = .text)).map (·.label.text)).foldl (· ++ ·) ""

def inDisabledFieldset (p : Place) : Bool :=
  (p :: p.ancestors).any fun q =>
    match q.parent? with
    | some parent =>
        parent.isTag (fun l => l.name == "fieldset" && l.hasAttr "disabled") &&
          (q.name != "legend" || q.level.before.any (counts (some "legend")))
    | none => false

def inLanguage (p : Place) (code : String) : Bool :=
  (p :: p.ancestors).any fun q => q.isTag fun l =>
    l.someAttr "lang" fun s =>
      s == .chars code || (Text.toBytes (code ++ "-")).isPrefixOf s.toBytes

end Place

mutual

/-- The text of a node as selectors see it: that of a text, or of all texts in an element. -/
def Node.visibleText : Node → RawText
  | .node label children =>
      match label.kind with
      | .text => label.text
      | .element => Node.visibleTextAll children
      | _ => ""

def Node.visibleTextAll : List Node → RawText
  | [] => ""
  | n :: ns => Node.visibleText n ++ Node.visibleTextAll ns

end

namespace Condition

def controls : List String := ["button", "input", "select", "textarea", "option"]

def groups : List String := ["optgroup", "menuitem", "fieldset"]

def anchors : List String := ["a", "area", "link"]

def holds (c : Condition) (p : Place) : Bool :=
  match c with
  | input => p.isTag fun l => ["input", "select", "textarea", "button"].contains l.name
  | empty => p.isElement && p.isEmpty
  | root => p.isElement && p.parent?.any (·.label.kind = .document)
  | link => p.isTag fun l => anchors.contains l.name && l.hasAttr "href"
  | enabled => p.isTag fun l =>
      if anchors.contains l.name then l.hasAttr "href"
      else if groups.contains l.name then !l.hasAttr "disabled"
      else if controls.contains l.name then !l.hasAttr "disabled" && !p.inDisabledFieldset
      else false
  | disabled => p.isTag fun l =>
      if groups.contains l.name then l.hasAttr "disabled"
      else if controls.contains l.name then l.hasAttr "disabled" || p.inDisabledFieldset
      else false
  | checked => p.isTag fun l =>
      if l.name == "input" || l.name == "menuitem" then
        l.hasAttr "checked" && l.someAttr "type" fun s =>
          let s := s.toText.toLower
          s == "checkbox" || s == "radio"
      else if l.name == "option" then l.hasAttr "selected"
      else false
  | never => false

end Condition

namespace Selector

mutual

def accepts (s : Selector) (p : Place) : Bool :=
  match s with
  | tag name => p.isTag fun t => .chars t.name == name
  | id name => p.isTag fun t => t.someAttr "id" fun v => v == name
  | hasClass name => p.isTag fun t => t.someAttr "class" (AttrTest.includesWord false name)
  | attr key test value ignoreCase => p.isTag (test.passes key value ignoreCase)
  | all parts => (!parts.isEmpty || p.isElement) && acceptsAll parts p
  | nested .itself group => p.isElement && !acceptsAny group p
  | nested .descendants group =>
      p.isElement && p.below.any fun q =>
        -- A search goes down through elements only.
        (q.ancestors.take (q.above.length - p.above.length)).all (·.isElement) &&
          acceptsAny group q
  | nested .children group => p.isElement && p.inside.any fun q => acceptsAny group q
  | contains own text =>
      let found := Text.lower (if own then p.ownText else p.node.visibleText).toText
      Text.contains text.toList found.toList
  | attrMatching key pattern => p.isTag fun t => t.someAttr key fun v => pattern.occursIn v.toText
  | matching own pattern => pattern.occursIn (if own then p.ownText else p.node.visibleText).toText
  | nth a b last ofType =>
      p.isElement && !p.above.isEmpty && Place.onLine a b (p.position last ofType)
  | only ofType =>
      p.isElement && !p.above.isEmpty &&
        p.position false ofType == 1 && p.position true ofType == 1
  | condition c => c.holds p
  | lang code => p.inLanguage code
  | combined .descendant first second =>
      accepts second p && p.ancestors.any fun q => accepts first q
  | combined .child first second =>
      accepts second p && match p.parent? with
        | some q => accepts first q
        | none => false
  | combined .adjacent first second =>
      accepts second p &&
        match p.previous.find? fun q => q.label.kind ≠ .text && q.label.kind ≠ .comment with
        | some q => accepts first q
        | none => false
  | combined .sibling first second =>
      accepts second p && p.previous.any fun q => accepts first q

def acceptsAll (parts : List Selector) (p : Place) : Bool :=
  match parts with
  | [] => true
  | s :: rest => accepts s p && acceptsAll rest p

def acceptsAny (group : List Selector) (p : Place) : Bool :=
  match group with
  | [] => false
  | s :: rest => accepts s p || acceptsAny rest p

end

end Selector

end PageBinding
