import PageBinding.Markup.Token
import PageBinding.Text.Basic
import PageBinding.Text.Fold

/-!
Document types: what one says, and which of them stand on pages so old that they are read by older
rules.
-/
namespace PageBinding.Markup

open Text

structure Doctype where
  name : String
  attrs : List Attr
  old : Bool

def oldIdentifiers : List String :=
  ["+//silmaril//dtd html pro v0r11 19970101//",
    "-//advasoft ltd//dtd html 3.0 aswedit + extensions//",
    "-//as//dtd html 3.0 aswedit + extensions//",
    "-//ietf//dtd html 2.0 level 1//",
    "-//ietf//dtd html 2.0 level 2//",
    "-//ietf//dtd html 2.0 strict level 1//",
    "-//ietf//dtd html 2.0 strict level 2//",
    "-//ietf//dtd html 2.0 strict//",
    "-//ietf//dtd html 2.0//",
    "-//ietf//dtd html 2.1e//",
    "-//ietf//dtd html 3.0//",
    "-//ietf//dtd html 3.2 final//",
    "-//ietf//dtd html 3.2//",
    "-//ietf//dtd html 3//",
    "-//ietf//dtd html level 0//",
    "-//ietf//dtd html level 1//",
    "-//ietf//dtd html level 2//",
    "-//ietf//dtd html level 3//",
    "-//ietf//dtd html strict level 0//",
    "-//ietf//dtd html strict level 1//",
    "-//ietf//dtd html strict level 2//",
    "-//ietf//dtd html strict level 3//",
    "-//ietf//dtd html strict//",
    "-//ietf//dtd html//",
    "-//metrius//dtd metrius presentational//",
    "-//microsoft//dtd internet explorer 2.0 html strict//",
    "-//microsoft//dtd internet explorer 2.0 html//",
    "-//microsoft//dtd internet explorer 2.0 tables//",
    "-//microsoft//dtd internet explorer 3.0 html strict//",
    "-//microsoft//dtd internet explorer 3.0 html//",
    "-//microsoft//dtd internet explorer 3.0 tables//",
    "-//netscape comm. corp.//dtd html//",
    "-//netscape comm. corp.//dtd strict html//",
    "-//o'reilly and associates//dtd html 2.0//",
    "-//o'reilly and associates//dtd html extended 1.0//",
    "-//o'reilly and associates//dtd html extended relaxed 1.0//",
    "-//softquad software//dtd hotmetal pro 6.0::19990601::extensions to html 4.0//",
    "-//softquad//dtd hotmetal pro 4.0::19971010::extensions to html 4.0//",
    "-//spyglass//dtd html 2.0 extended//",
    "-//sq//dtd html 2.0 hotmetal + extensions//",
    "-//sun microsystems corp.//dtd hotjava html//",
    "-//sun microsystems corp.//dtd hotjava strict html//",
    "-//w3c//dtd html 3 1995-03-24//",
    "-//w3c//dtd html 3.2 draft//",
    "-//w3c//dtd html 3.2 final//",
    "-//w3c//dtd html 3.2//",
    "-//w3c//dtd html 3.2s draft//",
    "-//w3c//dtd html 4.0 frameset//",
    "-//w3c//dtd html 4.0 transitional//",
    "-//w3c//dtd html experimental 19960712//",
    "-//w3c//dtd html experimental 970421//",
    "-//w3c//dtd w3 html//",
    "-//w3o//dtd w3 html 3.0//",
    "-//webtechs//dtd mozilla html 2.0//",
    "-//webtechs//dtd mozilla html//"]

def oldWholeIdentifiers : List String :=
  ["-//w3o//dtd w3 html strict 3.0//en//", "-/w3d/dtd html 4.0 transitional/en", "html"]

def oldLoneIdentifiers : List String :=
  ["-//w3c//dtd html 4.01 frameset//", "-//w3c//dtd html 4.01 transitional//"]

def oldAddress : String :=
  "http://www.ibm.com/data/dtd/v11/ibmxhtml1-transitional.dtd"

/-- The identifiers in quotes after a key, the key that would be next, and what is left; the fuel
bounds their number. -/
def quotedIdentifiers : (fuel : Nat) → (key : String) → List Char → List Attr × String × List Char
  | 0, key, cs => ([], key, cs)
  | fuel + 1, key, cs =>
      if key = "public" || key = "system" then
        match cs.dropWhile isSpace with
        | [] => ([], key, [])
        | c :: cs =>
            if c = '"' || c = '\'' then
              let id := cs.takeWhile (· ≠ c)
              let more := quotedIdentifiers fuel (if key = "public" then "system" else "")
                (cs.drop (id.length + 1))
              (⟨"", key, String.ofList id⟩ :: more.1, more.2)
            else ([], key, c :: cs)
      else ([], key, cs)

def oldByIdentifiers (attrs : List Attr) : Bool :=
  let byPublic := attrs.head?.any fun a =>
    let id := lower a.value.toText
    a.key = "public" &&
      (oldWholeIdentifiers.contains id || oldIdentifiers.any (startsWith id) ||
        attrs.length = 1 && oldLoneIdentifiers.any (startsWith id))
  byPublic || attrs.getLast?.any fun a => a.key = "system" && sameFolded a.value.toText oldAddress

def Doctype.ofText (data : String) : Doctype :=
  let name := data.toList.takeWhile (!isSpace ·)
  let rest := (data.toList.drop name.length).dropWhile isSpace
  let old := String.ofList name ≠ "html"
  let shown := lower (String.ofList name)
  if byteLength rest < 6 then ⟨shown, [], old || !rest.isEmpty⟩
  else
    let key := lower (String.ofList (takeBytes 6 rest))
    let (attrs, key, rest) := quotedIdentifiers 2 key (dropBytes 6 rest)
    ⟨shown, attrs, old || key ≠ "" || !rest.isEmpty || oldByIdentifiers attrs⟩

end PageBinding.Markup
