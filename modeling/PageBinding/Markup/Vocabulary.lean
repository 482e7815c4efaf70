import PageBinding.Document.Node
import PageBinding.Text.Fold

/-!
The element and attribute names that the rules for reading pages speak of.
-/
namespace PageBinding.Markup

def mathSpace : String := "math"

def svgSpace : String := "svg"

/-! ## Plain elements -/

def headings : List String :=
  ["h1", "h2", "h3", "h4", "h5", "h6"]

def specialElements : List String :=
  headings ++
  ["address", "applet", "area", "article", "aside", "base", "basefont", "bgsound", "blockquote",
    "body", "br", "button", "caption", "center", "col", "colgroup", "dd", "details", "dir", "div",
    "dl", "dt", "embed", "fieldset", "figcaption", "figure", "footer", "form", "frame", "frameset",
    "head", "header", "hgroup", "hr", "html", "iframe", "img", "input", "keygen", "li", "link",
    "listing", "main", "marquee", "menu", "meta", "nav", "noembed", "noframes", "noscript",
    "object", "ol", "p", "param", "plaintext", "pre", "script", "section", "select", "source",
    "style", "summary", "table", "tbody", "td", "template", "textarea", "tfoot", "th", "thead",
    "title", "tr", "track", "ul", "wbr", "xmp"]

def impliedEnds : List String :=
  ["dd", "dt", "li", "optgroup", "option", "p", "rb", "rp", "rt", "rtc"]

def blockElements : List String :=
  ["address", "article", "aside", "blockquote", "center", "details", "dialog", "dir", "div", "dl",
    "fieldset", "figcaption", "figure", "footer", "header", "hgroup", "main", "menu", "nav", "ol",
    "section", "summary", "ul"]

def formattingElements : List String :=
  ["b", "big", "code", "em", "font", "i", "s", "small", "strike", "strong", "tt", "u"]

def headElements : List String :=
  ["base", "basefont", "bgsound", "link", "meta", "noframes", "script", "style", "template",
    "title"]

def tableParts : List String :=
  ["caption", "col", "colgroup", "tbody", "td", "tfoot", "th", "thead", "tr"]

def rowGroups : List String :=
  ["tbody", "tfoot", "thead"]

def tableStructure : List String :=
  ["table", "tbody", "tfoot", "thead", "tr"]

/-! ## Scopes -/

inductive Scope
  | ordinary
  | listItem
  | button
  | table
  | select
  deriving DecidableEq

def scopeEnds (space : String) : List String :=
  if space = "" then
    ["applet", "caption", "html", "table", "td", "th", "marquee", "object", "template"]
  else if space = mathSpace then ["annotation-xml", "mi", "mn", "mo", "ms", "mtext"]
  else if space = svgSpace then ["desc", "foreignObject", "title"]
  else []

def Scope.stopsAt (scope : Scope) (space name : String) : Bool :=
  let plain := space = ""
  match scope with
  | .ordinary => (scopeEnds space).contains name
  | .listItem => plain && ["ol", "ul"].contains name || (scopeEnds space).contains name
  | .button => plain && name = "button" || (scopeEnds space).contains name
  | .table => plain && ["html", "table", "template"].contains name
  | .select => plain && !(["optgroup", "option"].contains name)

/-! ## Formulas and drawings -/

def isSpecial (space name : String) : Bool :=
  if space = "" then specialElements.contains name
  else if space = mathSpace then
    ["mi", "mo", "mn", "ms", "mtext", "annotation-xml"].contains name
  else if space = svgSpace then ["foreignObject", "desc", "title"].contains name
  else false

def holdsText (space name : String) : Bool :=
  space = mathSpace && ["mi", "mo", "mn", "ms", "mtext"].contains name

def holdsPage (space name : String) (attrs : List Attr) : Bool :=
  if space = mathSpace then
    name = "annotation-xml" && attrs.any fun a =>
      a.key = "encoding" &&
        ["text/html", "application/xhtml+xml"].any (Text.sameFolded a.value.toText)
  else space = svgSpace && ["desc", "foreignObject", "title"].contains name

def breakouts : List String :=
  headings ++
  ["b", "big", "blockquote", "body", "br", "center", "code", "dd", "div", "dl", "dt", "em",
    "embed", "head", "hr", "i", "img", "li", "listing", "menu", "meta", "nobr", "ol", "p", "pre",
    "ruby", "s", "small", "span", "strong", "strike", "sub", "sup", "table", "tt", "u", "ul",
    "var"]

def svgNames : List String :=
  ["altGlyph", "altGlyphDef", "altGlyphItem", "animateColor", "animateMotion",
    "animateTransform", "clipPath", "feBlend", "feColorMatrix", "feComponentTransfer",
    "feComposite", "feConvolveMatrix", "feDiffuseLighting", "feDisplacementMap", "feDistantLight",
    "feFlood", "feFuncA", "feFuncB", "feFuncG", "feFuncR", "feGaussianBlur", "feImage", "feMerge",
    "feMergeNode", "feMorphology", "feOffset", "fePointLight", "feSpecularLighting", "feSpotLight",
    "feTile", "feTurbulence", "foreignObject", "glyphRef", "linearGradient", "radialGradient",
    "textPath"]

def svgAttrs : List String :=
  ["attributeName", "attributeType", "baseFrequency", "baseProfile", "calcMode", "clipPathUnits",
    "diffuseConstant", "edgeMode", "filterUnits", "glyphRef", "gradientTransform", "gradientUnits",
    "kernelMatrix", "kernelUnitLength", "keyPoints", "keySplines", "keyTimes", "lengthAdjust",
    "limitingConeAngle", "markerHeight", "markerUnits", "markerWidth", "maskContentUnits",
    "maskUnits", "numOctaves", "pathLength", "patternContentUnits", "patternTransform",
    "patternUnits", "pointsAtX", "pointsAtY", "pointsAtZ", "preserveAlpha", "preserveAspectRatio",
    "primitiveUnits", "refX", "refY", "repeatCount", "repeatDur", "requiredExtensions",
    "requiredFeatures", "specularConstant", "specularExponent", "spreadMethod", "startOffset",
    "stdDeviation", "stitchTiles", "surfaceScale", "systemLanguage", "tableValues", "targetX",
    "targetY", "textLength", "viewBox", "viewTarget", "xChannelSelector", "yChannelSelector",
    "zoomAndPan"]

def mathAttrs : List String :=
  ["definitionURL"]

def capitals (space : String) : List String :=
  if space = mathSpace then mathAttrs else if space = svgSpace then svgAttrs else []

def withCapitals (names : List String) (name : String) : String :=
  (names.find? fun n => Text.lower n = name).getD name

def spacedAttrs : List (String × String) :=
  [("xlink", "actuate"), ("xlink", "arcrole"), ("xlink", "href"), ("xlink", "role"),
    ("xlink", "show"), ("xlink", "title"), ("xlink", "type"), ("xml", "base"), ("xml", "lang"),
    ("xml", "space"), ("xmlns", "xlink")]

def spaced (a : Attr) : Attr :=
  match spacedAttrs.find? fun (space, key) => space ++ ":" ++ key = a.key with
  | some (space, key) => { a with space, key }
  | none => a

/-! ## Attributes -/

def Lowered (name : String) : Prop :=
  ∃ cs : List Char, name = String.ofList (cs.map Char.toLower)

structure TagAttr where
  key : String
  value : String
  lowered : Lowered key

/-- An attribute of an element in a name space. Its key is in lower case unless the name space has
capitals for it. -/
structure ElementAttr (space : String) where
  attr : Attr
  proper : Lowered attr.key ∨ attr.key ∈ capitals space

def TagAttr.placed (a : TagAttr) (space : String) : ElementAttr space :=
  ⟨⟨"", a.key, a.value⟩, .inl a.lowered⟩

theorem withCapitals_cases (names : List String) (name : String) :
    withCapitals names name = name ∨ withCapitals names name ∈ names := by
  unfold withCapitals
  cases found : names.find? fun n => Text.lower n = name with
  | none => exact .inl rfl
  | some n => exact .inr (List.mem_of_find?_eq_some found)

theorem spaced_cases (a : Attr) : spaced a = a ∨ Lowered (spaced a).key := by
  have lowered : ∀ p ∈ spacedAttrs, p.2 = String.ofList (p.2.toList.map Char.toLower) := by decide
  unfold spaced
  split
  · rename_i found
    exact .inr ⟨_, lowered _ (List.mem_of_find?_eq_some found)⟩
  · exact .inl rfl

def TagAttr.foreign (a : TagAttr) (space : String) : ElementAttr space :=
  ⟨spaced ⟨"", withCapitals (capitals space) a.key, a.value⟩, by
    rcases spaced_cases ⟨"", withCapitals (capitals space) a.key, a.value⟩ with same | lowered
    · rw [same]
      rcases withCapitals_cases (capitals space) a.key with kept | listed
      · left
        rw [kept]
        exact a.lowered
      · exact .inr listed
    · exact .inl lowered⟩

end PageBinding.Markup
