import PageBinding.Document.Node
import PageBinding.Text.Basic

/-!
Nodes written as markup.
-/
namespace PageBinding.Markup

def escapedChar (c : Char) : String :=
  if c = '&' then "&amp;"
  else if c = '\'' then "&#39;"
  else if c = '<' then "&lt;"
  else if c = '>' then "&gt;"
  else if c = '"' then "&#34;"
  else if c = '\r' then "&#13;"
  else String.singleton c

def escaped (s : String) : String :=
  String.join (s.toList.map escapedChar)

def escapedRaw : RawText → RawText
  | .chars s => escaped s
  | .bytes bs _ => .ofBytes ((Text.pieces bs).flatMap fun
      | .inl c => Text.toBytes (escapedChar c)
      | .inr b => [b])

def escapedComment (s : String) : String :=
  go '-' s.toList
where
  go (previous : Char) : List Char → String
    | [] => ""
    | c :: cs =>
        let shown :=
          if c = '&' then "&amp;"
          else if c = '>' && (previous = '!' || previous = '-') then "&gt;"
          else String.singleton c
        shown ++ go c cs

def voidElements : List String :=
  ["area", "base", "br", "col", "embed", "hr", "img", "input", "keygen", "link", "meta", "param",
    "source", "track", "wbr"]

def literalElements : List String :=
  ["iframe", "noembed", "noframes", "noscript", "plaintext", "script", "style", "xmp"]

inductive Cutoff
  | plaintext
  | voidContent (name : String)

def quotedIdentifier (s : String) : String :=
  if Text.hasChar s '"' then "'" ++ s ++ "'" else "\"" ++ s ++ "\""

def doctypeText (name : String) (attrs : List Attr) : String :=
  let identifier (key : String) : String :=
    ((attrs.filter (·.key = key)).getLast?.map fun a => a.value.toText).getD ""
  let pub := identifier "public"
  let system := identifier "system"
  let tail :=
    if pub ≠ "" then
      " PUBLIC " ++ quotedIdentifier pub ++
        (if system ≠ "" then " " ++ quotedIdentifier system else "")
    else if system ≠ "" then " SYSTEM " ++ quotedIdentifier system
    else ""
  "<!DOCTYPE " ++ escaped name ++ tail ++ ">"

def attrText (a : Attr) : RawText :=
  let key := if a.space = "" then a.key else a.space ++ ":" ++ a.key
  .chars (" " ++ key ++ "=\"") ++ escapedRaw a.value ++ .chars "\""

abbrev Writer := EStateM Cutoff RawText

def emit (r : RawText) : Writer Unit :=
  modify (· ++ r)

/-- Whether a reader would take the first line end of an element's text for part of the tag. -/
def swallowsLineEnd (name : String) : List Node → Bool
  | .node label _ :: _ =>
      label.kind = .text && ["pre", "listing", "textarea"].contains name &&
        Text.startsWith label.text.toText "\n"
  | [] => false

mutual

def writeNode (literal : Bool) : Node → Writer Unit
  | .node label children =>
      match label.kind with
      | .document => writeNodes false children
      | .text => emit (if literal then label.text else escapedRaw label.text)
      | .comment => emit ("<!--" ++ escapedComment label.text.toText ++ "-->" : String)
      | .doctype => emit (doctypeText label.name label.attrs)
      | .element => do
          emit ((label.attrs.map attrText).foldl (· ++ ·) (.chars ("<" ++ label.name)))
          if voidElements.contains label.name then
            if children.isEmpty then emit "/>" else throw (.voidContent label.name)
          else
            emit ">"
            if swallowsLineEnd label.name children then emit "\n"
            let literal := label.space = "" && literalElements.contains label.name
            writeNodes literal children
            if literal && label.name = "plaintext" then throw .plaintext
            emit ("</" ++ label.name ++ ">" : String)

def writeNodes (literal : Bool) : List Node → Writer Unit
  | [] => return
  | n :: ns => do
      writeNode literal n
      writeNodes literal ns

end

def render (nodes : List Node) : Except String RawText :=
  match (writeNodes false nodes).run "" with
  | .ok _ text => .ok text
  | .error .plaintext text => .ok text
  | .error (.voidContent name) _ =>
      .error ("html: void element <" ++ name ++ "> has child nodes")

end PageBinding.Markup
